import WorksAuto.Workshop.Orders
import WorksAuto.Workshop.Serial

/-! Orders and their appointments.
A status update passes the status of an order on to its appointment. The other
writers of that status do not, so the two part when a rollback, an invoice or a
cancelled invoice moves an order whose appointment stands elsewhere, and only
then. -/

namespace WorksAuto

open Lib

/-- Both are completed or neither is, and work in progress is work in service. -/
def WorkOrder.AgreesWith (wo : WorkOrder) (a : Appointment) : Prop :=
  (wo.status = .completed ↔ a.status = .completed) ∧
    (wo.status = .inProgress → a.status = .inService)

instance (wo : WorkOrder) (a : Appointment) : Decidable (wo.AgreesWith a) := by
  unfold WorkOrder.AgreesWith
  infer_instance

def Db.appointmentOf? (db : Db) (wo : WorkOrder) : Option Appointment :=
  wo.appointmentId.bind db.appointments.get?

def Db.InStep (db : Db) : Prop :=
  ∀ w wo, db.workOrders.get? w = some wo → ∀ a ∈ db.appointmentOf? wo, wo.AgreesWith a

/-- The appointment of an order is one of its tenant, and of no other order. -/
structure Db.Linked (db : Db) : Prop where
  booked : ∀ w wo k, db.workOrders.get? w = some wo → wo.appointmentId = some k →
    ∃ a, db.appointment? wo.tenantId k = some a
  single : ∀ v w a b k, db.workOrders.get? v = some a → db.workOrders.get? w = some b →
    a.appointmentId = some k → b.appointmentId = some k → v = w

def Db.MayRollBack (db : Db) (id : Uuid) : Prop :=
  ∀ wo ∈ db.workOrders.get? id, wo.appointmentId.isSome → wo.status ≠ .completed

/-- The order of a new invoice is completed already, or has no appointment. -/
def Db.MayComplete (db : Db) (workOrderId : Option Uuid) : Prop :=
  ∀ w ∈ workOrderId, ∀ wo ∈ db.workOrders.get? w, wo.appointmentId.isSome → wo.status = .completed

/-- The order of a cancelled invoice has its appointment in service, if it has one. -/
def Db.MayReopen (db : Db) (tenantId id : Uuid) : Prop :=
  ∀ inv ∈ db.invoice? tenantId id, ∀ w ∈ inv.workOrderId, ∀ wo ∈ db.workOrders.get? w,
    ∀ a ∈ db.appointmentOf? wo, a.status = .inService

/-- No completed order is rolled back, no order is completed by its invoice, and none is
reopened by the cancellation of its invoice unless its appointment is in service. -/
def WorkshopTask.KeepsPace (db : Db) (env : WorkshopEnv) : WorkshopTask → Prop
  | .rollback tenantId id => (db.workOrder? tenantId id).isSome → db.MayRollBack id
  | .confirmRollback _ id _ | .writeRollback _ id _ => db.MayRollBack id
  | .issueInvoice tenantId dto =>
    (createWithCariMovement env.clock db (dto.entity env.clock tenantId)
      dto.offsetAdvanceAmount).isOk → db.MayComplete dto.workOrderId
  | .cancelInvoice tenantId id reason =>
    (checkCancelInvoice env.clock db tenantId id reason env.eInvoiceCancellation).isOk →
      (cancelWithCariReversal db tenantId id).isOk → db.MayReopen tenantId id
  | .voidInvoice tenantId id =>
    (cancelWithCariReversal db tenantId id).isOk → db.MayReopen tenantId id
  | _ => True

def Served.KeepsPace (db : Db) (l : Served) : Prop :=
  l.request.enter.KeepsPace db (l.env l.request.enter.remaining)

section Links

variable {db db' : Db} {env : WorkshopEnv} {t : WorkshopTask}

theorem Db.Linked.appointmentOf? (h : db.Linked) {w : Uuid} {wo : WorkOrder}
    (hwo : db.workOrders.get? w = some wo) (hlinked : wo.appointmentId.isSome) :
    ∃ a, a ∈ db.appointmentOf? wo ∧ a.tenantId = wo.tenantId := by
  obtain ⟨k, hk⟩ := Option.isSome_iff_exists.mp hlinked
  obtain ⟨a, ha⟩ := h.booked w wo k hwo hk
  obtain ⟨hget, htenant⟩ := Db.appointment?_eq_some.mp ha
  exact ⟨a, by rw [Db.appointmentOf?, hk]; exact hget, htenant⟩

theorem OrderEffect.appointment (h : OrderEffect db env t db') {k : Uuid} {a : Appointment}
    (ha : db.appointments.get? k = some a) :
    ∃ b, db'.appointments.get? k = some b ∧ b.tenantId = a.tenantId := by
  obtain ⟨g, hg, hget⟩ := h.rebooked k
  refine ⟨g a, ?_, ?_⟩
  · rw [hget, ha, Option.map_some]
  · rw [hg a]

theorem OrderEffect.linked (h : OrderEffect db env t db') (hdb : db.Linked) : db'.Linked where
  booked := by
    intro w wo k hwo hk
    obtain ⟨a, ha⟩ : ∃ a, db.appointment? wo.tenantId k = some a := by
      rcases h.origin hwo with ⟨old, hold, hchange⟩ | ⟨_, _, _, hnew, -, -, -, rfl⟩
      · obtain ⟨htenant, -, happ⟩ := hchange.same
        rw [htenant]
        exact hdb.booked w old k hold (happ ▸ hk)
      · rw [hnew.opened.tenantId]
        exact hnew.admitted k (hnew.opened.appointmentId ▸ hk)
    obtain ⟨hget, htenant⟩ := Db.appointment?_eq_some.mp ha
    obtain ⟨b, hb, hsame⟩ := h.appointment hget
    exact ⟨b, Db.appointment?_eq_some.mpr ⟨hb, hsame.trans htenant⟩⟩
  single := by
    intro v w a b k ha hb hak hbk
    rcases h.origin ha with ⟨x, hx, hxa⟩ | ⟨_, _, _, hnew, -, -, rfl, rfl⟩
    · rcases h.origin hb with ⟨y, hy, hyb⟩ | ⟨_, _, _, hnew, -, -, rfl, rfl⟩
      · exact hdb.single v w x y k hx hy (hxa.same.2.2 ▸ hak) (hyb.same.2.2 ▸ hbk)
      · exact absurd (hxa.same.2.2 ▸ hak) (hnew.appointment_free k hbk v x hx)
    · rcases h.origin hb with ⟨y, hy, hyb⟩ | ⟨_, _, _, -, -, -, rfl, -⟩
      · exact absurd (hyb.same.2.2 ▸ hbk) (hnew.appointment_free k hak w y hy)
      · rfl

end Links

section Effects

variable {db db' : Db} {env : WorkshopEnv}

theorem Db.mem_appointmentOf? {wo : WorkOrder} {a : Appointment} :
    a ∈ db.appointmentOf? wo ↔
      ∃ k, wo.appointmentId = some k ∧ db.appointments.get? k = some a :=
  Option.bind_eq_some_iff

theorem Db.InStep.congr (h : db.InStep) (hrows : db'.workOrders = db.workOrders)
    (happ : db'.appointments = db.appointments) : db'.InStep := by
  intro w wo hwo a ha
  rw [appointmentOf?, happ] at ha
  exact h w wo (hrows ▸ hwo) a ha

theorem Db.InStep.modify {w : Uuid} {f : WorkOrder → WorkOrder} (h : db.InStep)
    (hrows : db'.workOrders = db.workOrders.modify w f)
    (happ : db'.appointments = db.appointments)
    (hsame : ∀ wo, (f wo).appointmentId = wo.appointmentId)
    (hf : ∀ wo, db.workOrders.get? w = some wo → ∀ a ∈ db.appointmentOf? wo,
      wo.AgreesWith a → (f wo).AgreesWith a) : db'.InStep := by
  intro v wo' hwo' a ha
  rw [hrows, Table.get?_modify] at hwo'
  obtain ⟨wo, hwo, rfl⟩ := Option.map_eq_some_iff.mp hwo'
  rw [appointmentOf?, happ] at ha
  split_ifs at ha ⊢ with hv
  · subst hv
    rw [hsame] at ha
    exact hf wo hwo a ha (h v wo hwo a ha)
  · exact h v wo hwo a ha

theorem OrderOpened.inStep {data : CreateWorkOrderData} (h : OrderOpened db data db')
    (hqueue : data.status = .queue) (hdb : db.InStep) : db'.InStep := by
  intro v wo hwo a ha
  obtain ⟨k, hk, hget⟩ := Db.mem_appointmentOf?.mp ha
  rw [h.appointments, Db.admitted] at hget
  rw [h.orders, Table.get?_insert] at hwo
  split_ifs at hwo with hv
  · cases hwo
    rw [← h.opened.appointmentId, hk, Option.elim_some, Table.get?_modify] at hget
    obtain ⟨b, -, rfl⟩ := Option.map_eq_some_iff.mp hget
    simp [WorkOrder.AgreesWith, h.opened.status, hqueue, setAppointmentStatus]
  · refine hdb v wo hwo a (Db.mem_appointmentOf?.mpr ⟨k, hk, ?_⟩)
    rw [← h.opened.appointmentId] at hget
    cases hid : h.order.appointmentId with
    | none => rwa [hid] at hget
    | some id =>
      have hne : k ≠ id := by
        rintro rfl
        exact h.appointment_free k hid v wo hwo hk
      rwa [hid, Option.elim_some, Table.get?_modify_ne _ hne] at hget

theorem Db.Linked.cancelled_of_none (hl : db.Linked) {id v : Uuid} {wo : WorkOrder}
    (h : db.withdrawnOrder? id = none) (hwo : db.workOrders.get? v = some wo)
    (hk : wo.appointmentId = some id) : wo.status = .cancelled := by
  cases hfound : db.orderOfAppointment? id with
  | none => simpa [hk] using Table.find?_none hfound hwo
  | some o =>
    obtain ⟨w, order⟩ := o
    obtain ⟨hget, hlinked⟩ := Table.find?_some hfound
    obtain rfl := hl.single v w wo order id hwo hget hk (by simpa using hlinked)
    cases Option.some.inj (hwo.symm.trans hget)
    simpa [Db.withdrawnOrder?, hfound, Option.filter] using h

theorem Db.InStep.withdrawn {id : Uuid} {reason : String} (hdb : db.InStep) (hl : db.Linked) :
    Db.InStep { db with
      appointments := db.appointments.modify id (Appointment.cancel reason)
      workOrders := (db.withdrawnOrder? id).elim db.workOrders fun o =>
        db.workOrders.modify o.1 WorkOrder.cancelWithAppointment } := by
  intro v wo hwo a ha
  obtain ⟨k, hk, hget⟩ := Db.mem_appointmentOf?.mp ha
  obtain ⟨b, hb, rfl⟩ := Table.of_get?_modify hget
  have hkept : k ≠ id → db.workOrders.get? v = some wo → wo.AgreesWith
      (if k = id then b.cancel reason else b) := by
    intro hne hold
    rw [if_neg hne]
    exact hdb v wo hold b (Db.mem_appointmentOf?.mpr ⟨k, hk, hb⟩)
  have hcancelled : k = id → wo.status = .cancelled → wo.AgreesWith
      (if k = id then b.cancel reason else b) := by
    intro he hstatus
    rw [if_pos he]
    simp [WorkOrder.AgreesWith, hstatus, Appointment.cancel]
  cases hfound : db.withdrawnOrder? id with
  | none =>
    have hold : db.workOrders.get? v = some wo := by simpa [hfound] using hwo
    by_cases he : k = id
    · exact hcancelled he (hl.cancelled_of_none hfound hold (he ▸ hk))
    · exact hkept he hold
  | some o =>
    obtain ⟨w, order⟩ := o
    obtain ⟨horder, hlinked, -⟩ := Db.withdrawnOrder?_eq_some hfound
    have hrow : (db.workOrders.modify w WorkOrder.cancelWithAppointment).get? v = some wo := by
      simpa [hfound] using hwo
    by_cases hv : v = w
    · subst hv
      cases (Table.get?_modify_self horder _).symm.trans hrow
      exact hcancelled (Option.some.inj (hk.symm.trans hlinked)) rfl
    · rw [Table.get?_modify_ne _ hv] at hrow
      refine hkept ?_ hrow
      rintro rfl
      exact hv (hl.single v w wo order k hrow horder hk hlinked)

def WorkshopTask.movesOne : WorkshopTask → Bool
  | .writeStatus _ | .syncAppointment _ | .writeRollback .. | .issueInvoice .. | .voidInvoice .. =>
    true
  | _ => false

theorem OrderEffect.inStep {t : WorkshopTask} (h : OrderEffect db env t db')
    (ht : t.movesOne = false) (hdb : db.InStep) (hl : db.Linked) : db'.InStep := by
  cases h with
  | quiet hrows happ => exact hdb.congr hrows happ
  | opened h _ => exact h.inStep rfl hdb
  | retotalled hrows happ => exact hdb.modify hrows happ (fun _ => rfl) fun _ _ _ _ h => h
  | withdrawn _ => exact hdb.withdrawn hl
  | statusWritten | rolledBack | synced | issued | voided => cases ht

theorem Db.InStep.rolledBack {id : Uuid} {wo : WorkOrder} {prev : WorkOrderStatus}
    (hdb : db.InStep) (hwo : db.workOrders.get? id = some wo)
    (hprev : wo.status.getPreviousStatus = .ok prev) (hmay : db.MayRollBack id) :
    Db.InStep { db with workOrders := db.workOrders.modify id (WorkOrder.setStatus prev none) } := by
  refine hdb.modify rfl rfl (fun _ => rfl) fun row hrow a ha hagrees => ?_
  cases Option.some.inj (hwo.symm.trans hrow)
  obtain ⟨k, hk, -⟩ := Db.mem_appointmentOf?.mp ha
  have hopen := hmay wo hwo (by rw [hk]; rfl)
  cases hstatus : wo.status with
  | inProgress =>
    rw [hstatus] at hprev
    cases Outcome.pure_eq_ok.mp hprev
    simp_all [WorkOrder.AgreesWith, WorkOrder.setStatus]
  | completed => exact absurd hstatus hopen
  | queue | cancelled => rw [hstatus] at hprev; cases hprev

theorem InvoiceIssued.inStep {clock : Clock} {invoice : InvoiceEntity} {offset : Option ℚ}
    (h : InvoiceIssued clock db invoice offset db') (hdb : db.InStep)
    (hmay : db.MayComplete invoice.workOrderId) : db'.InStep := by
  have hrows := h.workOrders
  cases hw : invoice.workOrderId with
  | none =>
    rw [hw] at hrows
    exact hdb.congr hrows h.appointments
  | some w =>
    rw [hw] at hrows
    refine hdb.modify hrows h.appointments (fun _ => rfl) fun wo hwo a ha hagrees => ?_
    obtain ⟨k, hk, -⟩ := Db.mem_appointmentOf?.mp ha
    have hdone := hmay w hw wo hwo (by rw [hk]; rfl)
    simp_all [WorkOrder.AgreesWith, WorkOrder.complete]

theorem InvoiceVoided.inStep {tenantId id : Uuid} (h : InvoiceVoided db tenantId id db')
    (hdb : db.InStep) (hmay : db.MayReopen tenantId id) : db'.InStep := by
  have hrows := h.workOrders
  cases hw : h.existing.workOrderId with
  | none =>
    rw [hw] at hrows
    exact hdb.congr hrows h.appointments
  | some w =>
    rw [hw] at hrows
    refine hdb.modify hrows h.appointments (fun _ => rfl) fun wo hwo a ha _ => ?_
    have hservice := hmay h.existing h.found w hw wo hwo a ha
    simp [WorkOrder.AgreesWith, WorkOrder.reopen, hservice]

end Effects

section Updates

variable {db : Db} {u : StatusUpdate}

structure StatusUpdate.Written (db : Db) (u : StatusUpdate) (wo : WorkOrder) : Prop where
  found : db.workOrder? u.tenantId u.id = some wo
  status : wo.status = u.target
  appointmentId : wo.appointmentId = u.order.appointmentId

/-- The order of a status update is ahead of its appointment; all others are in step. -/
structure StatusUpdate.Ahead (db : Db) (u : StatusUpdate) : Prop where
  written : ∃ wo, u.Written db wo
  linked : ∃ k, u.order.appointmentId = some k
  target : ∃ status, appointmentStatusFor u.target = some status
  others : ∀ w wo, w ≠ u.id → db.workOrders.get? w = some wo →
    ∀ a ∈ db.appointmentOf? wo, wo.AgreesWith a

theorem agreesWith_of_target {wo : WorkOrder} {a : Appointment}
    (h : appointmentStatusFor wo.status = some a.status) : wo.AgreesWith a := by
  cases hs : wo.status with
  | completed | inProgress =>
    rw [hs] at h
    obtain ha : _ = a.status := Option.some.inj h
    simp [WorkOrder.AgreesWith, hs, ← ha]
  | queue | cancelled =>
    rw [hs] at h
    cases h

theorem StatusUpdate.Ahead.sync (h : u.Ahead db) (hl : db.Linked) {k : Uuid}
    {status : AppointmentStatus} (hk : u.order.appointmentId = some k)
    (htarget : appointmentStatusFor u.target = some status) :
    (syncAppointmentStatus db u.tenantId k status).InStep := by
  obtain ⟨order, hfound, hstatus, hsame⟩ := h.written
  obtain ⟨horder, htenant⟩ := Db.workOrder?_eq_some.mp hfound
  intro w wo hwo a ha
  obtain ⟨j, hj, hget⟩ := Db.mem_appointmentOf?.mp ha
  obtain ⟨b, hb, rfl⟩ := Table.of_get?_modifyIf hget
  by_cases hw : w = u.id
  · subst hw
    cases Option.some.inj (horder.symm.trans hwo)
    obtain rfl : j = k := Option.some.inj (hj.symm.trans (hsame.trans hk))
    obtain ⟨b', hb'⟩ := hl.booked u.id order j horder hj
    obtain ⟨hget', hsameTenant⟩ := Db.appointment?_eq_some.mp hb'
    cases Option.some.inj (hb.symm.trans hget')
    apply agreesWith_of_target
    rw [hstatus, htarget, if_pos (by simpa using hsameTenant.trans htenant)]
    rfl
  · have hne : j ≠ k := by
      rintro rfl
      exact hw (hl.single w u.id wo order j hwo horder hj (hsame.trans hk))
    have hagrees := h.others w wo hw hwo b (Db.mem_appointmentOf?.mpr ⟨j, hj, hb⟩)
    simpa [hne] using hagrees

def StatusUpdate.write (db : Db) (u : StatusUpdate) (completedAt : Option Instant) : Db :=
  { db with workOrders := db.workOrders.modify u.id (WorkOrder.setStatus u.target completedAt) }

theorem StatusUpdate.Current.written (h : u.Current db) (completedAt : Option Instant) :
    u.Written (u.write db completedAt) (u.order.setStatus u.target completedAt) := by
  obtain ⟨hget, htenant⟩ := Db.workOrder?_eq_some.mp h.1
  exact ⟨Db.workOrder?_eq_some.mpr ⟨Table.get?_modify_self hget _, htenant⟩, rfl, rfl⟩

theorem StatusUpdate.Current.ahead (h : u.Current db) (hdb : db.InStep)
    (completedAt : Option Instant) {k : Uuid} {status : AppointmentStatus}
    (hk : u.order.appointmentId = some k) (htarget : appointmentStatusFor u.target = some status) :
    u.Ahead (u.write db completedAt) where
  written := ⟨_, h.written completedAt⟩
  linked := ⟨k, hk⟩
  target := ⟨status, htarget⟩
  others := by
    intro w wo hw hwo a ha
    rw [StatusUpdate.write, Table.get?_modify_ne _ hw] at hwo
    exact hdb w wo hwo a ha

theorem StatusUpdate.Current.inStep (h : u.Current db) (hdb : db.InStep)
    (completedAt : Option Instant)
    (hquiet : u.order.appointmentId = none ∨ appointmentStatusFor u.target = none) :
    (u.write db completedAt).InStep := by
  refine hdb.modify rfl rfl (fun _ => rfl) fun wo hwo a ha hagrees => ?_
  obtain ⟨hget, -⟩ := Db.workOrder?_eq_some.mp h.1
  cases Option.some.inj (hget.symm.trans hwo)
  obtain ⟨k, hk, -⟩ := Db.mem_appointmentOf?.mp ha
  rcases hquiet with hnone | htarget
  · cases hk.symm.trans hnone
  · have hcan := h.2
    cases hs : u.order.status <;> cases ht : u.target <;>
      simp_all [WorkOrder.AgreesWith, WorkOrder.setStatus, WorkOrderStatus.canTransitionTo,
        appointmentStatusFor]

end Updates

section Parts

def WorkshopTask.Follows (db : Db) (env : WorkshopEnv) : WorkshopTask → Prop
  | .syncAppointment u => u.Ahead db
  | .readAutoInvoice u | .readInvoice u =>
    db.InStep ∧ u.target = .completed ∧ ∃ wo, u.Written db wo
  | t => db.InStep ∧ t.KeepsPace db env

variable {db : Db} {env : WorkshopEnv} {u : StatusUpdate}

namespace WorkshopTask

theorem follows_afterSync (hdb : db.InStep) (hwritten : ∃ wo, u.Written db wo) :
    (afterSync u).Follows db env := by
  unfold afterSync
  split_ifs with htarget
  · exact ⟨hdb, htarget, hwritten⟩
  · exact ⟨hdb, trivial⟩

theorem follows_afterCancelled (hdb : db.InStep) (ht : u.target = .cancelled) :
    (afterRestore u).Follows db env := by
  have hend : afterRestore u = .finished (.ok ()) := by
    simp [afterRestore, afterSync, appointmentStatusFor, ht]
  rw [hend]
  exact ⟨hdb, trivial⟩

theorem follows_afterWrite (hdb : db.InStep) (h : u.Current db) (completedAt : Option Instant) :
    (afterWrite u).Follows (u.write db completedAt) env := by
  unfold afterWrite
  split_ifs with hcancel
  · exact ⟨h.inStep hdb completedAt (.inr (by rw [hcancel.1]; rfl)), trivial⟩
  · unfold afterRestore
    split_ifs with hsync
    · obtain ⟨k, hk⟩ := Option.isSome_iff_exists.mp hsync.1
      obtain ⟨status, htarget⟩ := Option.isSome_iff_exists.mp hsync.2
      exact h.ahead hdb completedAt hk htarget
    · refine follows_afterSync (h.inStep hdb completedAt ?_) ⟨_, h.written completedAt⟩
      rw [not_and_or] at hsync
      simpa using hsync

theorem follows_reads {α : Type} {r : Outcome α} {next : α → WorkshopTask} (hdb : db.InStep)
    (h : ∀ a, r = .ok a → (next a).Follows db env) :
    (reads db r next).2.Follows (reads db r next).1 env := by
  cases r with
  | error e => exact ⟨hdb, trivial⟩
  | ok a => exact h a rfl

theorem follows_commits {r : Outcome Db} {next : WorkshopTask} (hdb : db.InStep)
    (h : ∀ db', r = .ok db' → next.Follows db' env) :
    (commits db r next).2.Follows (commits db r next).1 env := by
  cases r with
  | error e => exact ⟨hdb, trivial⟩
  | ok db' => exact h db' rfl

theorem follows_ends {r : Outcome Db} {answer : Outcome Unit}
    (hdb : (commits db r (.finished answer)).1.InStep) :
    (commits db r (.finished answer)).2.Follows (commits db r (.finished answer)).1 env := by
  cases r <;> exact ⟨hdb, trivial⟩

theorem Follows.exec {t : WorkshopTask} (hl : db.Linked) (hg : t.Grounded db)
    (h : t.Follows db env) (env' : WorkshopEnv) :
    (t.exec db env).2.Follows (t.exec db env).1 env' := by
  have horders := t.exec_orders db env
  cases t with
  | numberOrder tenantId input =>
    have hdb := horders.inStep rfl h.1 hl
    simp only [WorkshopTask.exec] at hdb ⊢
    split at hdb <;> exact ⟨hdb, trivial⟩
  | writeStatus u =>
    apply follows_commits h.1
    intro db' hwrite
    obtain ⟨wo, -, rfl⟩ := writeStatus_ok hwrite
    exact follows_afterWrite h.1 hg _
  | readCancelled u =>
    simp only [WorkshopTask.exec]
    split
    · exact follows_afterCancelled h.1 hg.1
    · exact ⟨h.1, trivial⟩
  | restoreStock u items =>
    have hdb := horders.inStep rfl h.1 hl
    simp only [WorkshopTask.exec] at hdb ⊢
    rcases commits_cases db (restoreCancelledStock db u.tenantId u.id items) (afterRestore u) with
      ⟨db', -, hc⟩ | ⟨e, -, hc⟩
    · rw [hc] at hdb ⊢
      exact follows_afterCancelled hdb hg.1.1
    · rw [hc] at hdb ⊢
      exact ⟨hdb, trivial⟩
  | syncAppointment u =>
    obtain ⟨k, hk⟩ := StatusUpdate.Ahead.linked h
    obtain ⟨status, htarget⟩ := StatusUpdate.Ahead.target h
    obtain ⟨wo, hwritten⟩ := StatusUpdate.Ahead.written h
    simp only [WorkshopTask.exec, hk, htarget]
    exact follows_afterSync (StatusUpdate.Ahead.sync h hl hk htarget)
      ⟨wo, hwritten.found, hwritten.status, hwritten.appointmentId⟩
  | readAutoInvoice u =>
    simp only [WorkshopTask.exec]
    split_ifs
    · exact h
    · exact ⟨h.1, trivial⟩
  | readInvoice u =>
    obtain ⟨hdb, htarget, wo, hwritten⟩ := h
    simp only [WorkshopTask.exec]
    split_ifs
    · refine ⟨hdb, fun _ w hw row hrow _ => ?_⟩
      cases hw
      obtain ⟨hget, -⟩ := Db.workOrder?_eq_some.mp hwritten.found
      cases Option.some.inj (hget.symm.trans hrow)
      exact hwritten.status.trans htarget
    · exact ⟨hdb, trivial⟩
  | rollback tenantId id =>
    refine follows_reads h.1 fun prev hprev => ?_
    obtain ⟨wo, hwo, -⟩ := rollbackTarget_ok hprev
    exact ⟨h.1, h.2 (by rw [hwo]; rfl)⟩
  | confirmRollback tenantId id prev => exact follows_reads h.1 fun _ _ => h
  | writeRollback tenantId id prev =>
    obtain ⟨hdb, hmay⟩ := h
    obtain ⟨wo, hwo, hprev⟩ := hg
    apply follows_commits hdb
    intro db' hwrite
    obtain ⟨_, -, rfl⟩ := writeStatus_ok hwrite
    exact ⟨hdb.rolledBack (Db.workOrder?_eq_some.mp hwo).1 hprev hmay, trivial⟩
  | issueInvoice tenantId dto =>
    obtain ⟨hdb, hmay⟩ := h
    simp only [WorkshopTask.exec]
    split
    · exact ⟨hdb, trivial⟩
    · next db' r hissue =>
      obtain ⟨hissued⟩ := createWithCariMovement_ok hissue
      have hdb' := hissued.inStep hdb (hmay (by rw [hissue]; rfl))
      unfold afterIssue
      split <;> exact ⟨hdb', trivial⟩
  | cancelInvoice tenantId id reason =>
    refine follows_reads h.1 fun u hcheck => ⟨h.1, h.2 (by rw [hcheck]; rfl)⟩
  | voidInvoice tenantId id =>
    obtain ⟨hdb, hmay⟩ := h
    apply follows_commits hdb
    intro db' hvoid
    obtain ⟨hvoided⟩ := cancelWithCariReversal_ok hvoid
    exact ⟨hvoided.inStep hdb (hmay (by rw [hvoid]; rfl)), trivial⟩
  | saveProduct item movement shelf =>
    have hdb := horders.inStep rfl h.1 hl
    cases movement with
    | none => exact follows_ends hdb
    | some m =>
      apply follows_commits h.1
      intro db' hsave
      obtain ⟨f, -, -, -, -, -, rfl⟩ := saveProduct_ok hsave
      exact ⟨h.1.congr rfl rfl, trivial⟩
  | saveCell | finished => exact ⟨h.1, trivial⟩
  | storeOrder | storeItem | changeItem | deleteItem | eInvoice | storeCancellation
  | storeDecrement | storeIncrement | storeMovement =>
    exact follows_ends (horders.inStep rfl h.1 hl)
  | createOrder | addItem | updateItem | removeItem | updateStatus | confirmOrder
  | cancelAppointment | decrementStock | incrementStock | addMovement | updateProduct | saveRead
  | checkMovement => exact follows_reads h.1 fun _ _ => ⟨h.1, trivial⟩

end WorkshopTask

end Parts

section Requests

variable {db : Db} {l : Served}

theorem WorkshopRequest.follows_enter {r : WorkshopRequest} {env : WorkshopEnv} (hdb : db.InStep)
    (h : r.enter.KeepsPace db env) : r.enter.Follows db env := by
  cases r <;> exact ⟨hdb, h⟩

theorem serve_inStep (hdb : db.InStep) (hl : db.Linked) (h : l.KeepsPace db) :
    (serve db l).InStep ∧ (serve db l).Linked := by
  have henter : db.Linked ∧ l.request.enter.Grounded db ∧
      l.request.enter.Follows db (l.env l.request.enter.remaining) :=
    ⟨hl, l.request.grounded_enter db, WorkshopRequest.follows_enter hdb h⟩
  obtain ⟨answer, hlinked, -, hend⟩ := serve_invariant
    (I := fun db t => db.Linked ∧ t.Grounded db ∧ t.Follows db (l.env t.remaining)) henter
    fun db t ht => ⟨(t.exec_orders db _).linked ht.1, ht.2.1.exec _, ht.2.2.exec ht.1 ht.2.1 _⟩
  exact ⟨hend.1, hlinked⟩

theorem Db.not_inStep {db db' : Db} {w : Uuid} {wo : WorkOrder} {a : Appointment}
    {f : WorkOrder → WorkOrder} (hrows : db'.workOrders = db.workOrders.modify w f)
    (happ : db'.appointments = db.appointments) (hwo : db.workOrders.get? w = some wo)
    (ha : a ∈ db.appointmentOf? wo) (hsame : (f wo).appointmentId = wo.appointmentId)
    (h : ¬ (f wo).AgreesWith a) : ¬ db'.InStep := by
  intro hdb
  apply h
  refine hdb w (f wo) ?_ a ?_
  · rw [hrows]
    exact Table.get?_modify_self hwo f
  · rw [appointmentOf?, hsame, happ]
    exact ha

theorem serve_parts (hdb : db.InStep) (hl : db.Linked) (h : ¬ l.KeepsPace db) :
    ¬ (serve db l).InStep := by
  cases hreq : l.request with
  | rollbackWorkOrder tenantId id =>
    simp only [Served.KeepsPace, hreq, WorkshopRequest.enter, WorkshopTask.KeepsPace,
      Db.MayRollBack] at h
    push Not at h
    obtain ⟨hsome, wo, hwo, hlinked, hstatus⟩ := h
    obtain ⟨row, hrow⟩ := Option.isSome_iff_exists.mp hsome
    cases Option.some.inj (hwo.symm.trans (Db.workOrder?_eq_some.mp hrow).1)
    obtain ⟨a, ha, -⟩ := hl.appointmentOf? hwo hlinked
    rw [serve_rollback hreq hrow hstatus]
    refine Db.not_inStep rfl rfl hwo ha rfl ?_
    have hagrees := hdb id wo hwo a ha
    simp_all [WorkOrder.AgreesWith, WorkOrder.setStatus]
  | createInvoice tenantId dto =>
    simp only [Served.KeepsPace, hreq, WorkshopRequest.enter, WorkshopTask.KeepsPace,
      WorkshopTask.remaining, Db.MayComplete] at h
    push Not at h
    obtain ⟨hissue, w, hw, wo, hwo, hlinked, hstatus⟩ := h
    obtain ⟨⟨db', r⟩, hok⟩ := Outcome.isOk_iff.mp hissue
    obtain ⟨a, ha, -⟩ := hl.appointmentOf? hwo hlinked
    obtain ⟨horders, happ⟩ := serve_createInvoice hreq hok
    obtain ⟨hissued⟩ := createWithCariMovement_ok hok
    have hrows := hissued.workOrders
    rw [CreateInvoiceInput.entity, hw] at hrows
    refine Db.not_inStep (horders.trans hrows) (happ.trans hissued.appointments) hwo ha rfl ?_
    have hagrees := hdb w wo hwo a ha
    simp_all [WorkOrder.AgreesWith, WorkOrder.complete]
  | cancelInvoice tenantId id reason =>
    simp only [Served.KeepsPace, hreq, WorkshopRequest.enter, WorkshopTask.KeepsPace,
      WorkshopTask.remaining, Db.MayReopen] at h
    push Not at h
    obtain ⟨hcheck, hvoid, inv, hinv, w, hw, wo, hwo, a, ha, hstatus⟩ := h
    obtain ⟨u, hcheck⟩ := Outcome.isOk_iff.mp hcheck
    obtain ⟨db', hok⟩ := Outcome.isOk_iff.mp hvoid
    obtain ⟨hvoided⟩ := cancelWithCariReversal_ok hok
    cases Option.some.inj (hvoided.found.symm.trans hinv)
    have hrows := hvoided.workOrders
    rw [hw] at hrows
    rw [serve_cancelInvoice hreq hcheck hok]
    refine Db.not_inStep hrows hvoided.appointments hwo ha rfl ?_
    simp [WorkOrder.AgreesWith, WorkOrder.reopen, hstatus]
  | _ =>
    rw [Served.KeepsPace, hreq] at h
    exact absurd trivial h

end Requests

section Sample

instance (db : Db) : Decidable db.InStep := by
  unfold Db.InStep
  infer_instance

instance (db : Db) (id : Uuid) : Decidable (db.MayRollBack id) :=
  inferInstanceAs (Decidable (∀ wo ∈ db.workOrders.get? id, _ → _))

instance (db : Db) (w : Option Uuid) : Decidable (db.MayComplete w) :=
  inferInstanceAs (Decidable (∀ k ∈ w, ∀ wo ∈ db.workOrders.get? k, _ → _))

instance (db : Db) (tenantId id : Uuid) : Decidable (db.MayReopen tenantId id) :=
  inferInstanceAs (Decidable (∀ inv ∈ db.invoice? tenantId id, ∀ w ∈ inv.workOrderId,
    ∀ wo ∈ db.workOrders.get? w, ∀ a ∈ db.appointmentOf? wo, _))

instance (db : Db) (env : WorkshopEnv) (t : WorkshopTask) : Decidable (t.KeepsPace db env) := by
  induction t using WorkshopTask.casesOn <;> unfold WorkshopTask.KeepsPace <;> infer_instance

instance (db : Db) (l : Served) : Decidable (l.KeepsPace db) := by
  unfold Served.KeepsPace
  infer_instance

def completeOrder : List Served :=
  [served (.createWorkOrder 0 padOrder), served (.updateWorkOrderStatus 0 0 "IN_PROGRESS"),
    served (.updateWorkOrderStatus 0 0 "COMPLETED")]

theorem shopDb_linked : shopDb.Linked where
  booked := by
    intro w wo k hwo
    cases hwo
  single := by
    intro v w a b k ha
    cases ha

end Sample

end WorksAuto
