import WorksAuto.Workshop.Agreement
import WorksAuto.Workshop.CarryThrough

/-! A status change that fails.
The status is written first and on its own, so a later part that is refused, the
return of the parts or the automatic invoice, leaves it behind. -/

namespace WorksAuto

open Lib

section Frame

def Db.withOrders (db : Db) (orders : Table WorkOrder) (appointments : Table Appointment) : Db :=
  { db with workOrders := orders, appointments := appointments }

variable {db db' : Db} {orders : Table WorkOrder} {appointments : Table Appointment}

theorem nextDocumentNumber_withOrders {t : Uuid} {d : DocType} {y n : ℕ}
    (h : nextDocumentNumber db t d y = .ok (db', n)) :
    nextDocumentNumber (db.withOrders orders appointments) t d y =
      .ok (db'.withOrders orders appointments, n) := by
  unfold nextDocumentNumber at h ⊢
  simp only [Db.withOrders] at h ⊢
  split at h
  · obtain ⟨m, hm, h⟩ := Outcome.bind_eq_ok.mp h
    cases Outcome.pure_eq_ok.mp h
    exact Outcome.bind_eq_ok.mpr ⟨m, hm, rfl⟩
  · cases Outcome.pure_eq_ok.mp h
    rfl

theorem findOrCreateAccount_withOrders {t c id : Uuid} {a : CurrentAccount}
    (h : findOrCreateAccount db t c = .ok (db', id, a)) :
    findOrCreateAccount (db.withOrders orders appointments) t c =
      .ok (db'.withOrders orders appointments, id, a) := by
  unfold findOrCreateAccount at h ⊢
  simp only [Db.withOrders, Db.currentAccountOf?] at h ⊢
  split at h
  · cases Outcome.pure_eq_ok.mp h
    rfl
  · obtain ⟨u, hu, h⟩ := Outcome.bind_eq_ok.mp h
    cases Outcome.pure_eq_ok.mp h
    exact Outcome.bind_eq_ok.mpr ⟨u, hu, rfl⟩

theorem allocateNumber_withOrders {clock : Clock} {invoice : InvoiceEntity} {number : String}
    {gib : Option String} (h : allocateNumber clock db invoice = .ok (db', number, gib)) :
    allocateNumber clock (db.withOrders orders appointments) invoice =
      .ok (db'.withOrders orders appointments, number, gib) := by
  unfold allocateNumber at h ⊢
  split_ifs at h ⊢
  · obtain ⟨⟨mid, n⟩, hn, h⟩ := Outcome.bind_eq_ok.mp h
    cases Outcome.pure_eq_ok.mp h
    exact Outcome.bind_eq_ok.mpr ⟨_, nextDocumentNumber_withOrders hn, rfl⟩
  · cases Outcome.pure_eq_ok.mp h
    rfl

theorem insertInvoice_withOrders {row : Invoice} {id : Uuid}
    (h : insertInvoice db row = .ok (db', id)) :
    insertInvoice (db.withOrders orders appointments) row =
      .ok (db'.withOrders orders appointments, id) := by
  obtain ⟨u, hu, h⟩ := Outcome.bind_eq_ok.mp h
  obtain ⟨v, hv, h⟩ := Outcome.bind_eq_ok.mp h
  cases Outcome.pure_eq_ok.mp h
  exact Outcome.bind_eq_ok.mpr ⟨u, hu, Outcome.bind_eq_ok.mpr ⟨v, hv, rfl⟩⟩

theorem snapshotItems_withOrders {id : Uuid} {items : List InvoiceLine}
    (h : items.foldlM (snapshotItem id) db = .ok db') :
    items.foldlM (snapshotItem id) (db.withOrders orders appointments) =
      .ok (db'.withOrders orders appointments) := by
  induction items generalizing db with
  | nil =>
    cases Outcome.pure_eq_ok.mp h
    rfl
  | cons l items ih =>
    rw [List.foldlM_cons] at h ⊢
    obtain ⟨mid, hmid, hrest⟩ := Outcome.bind_eq_ok.mp h
    refine Outcome.bind_eq_ok.mpr ⟨mid.withOrders orders appointments, ?_, ih hrest⟩
    obtain ⟨q, hq, h₁⟩ := Outcome.bind_eq_ok.mp hmid
    obtain ⟨p, hp, h₂⟩ := Outcome.bind_eq_ok.mp h₁
    obtain ⟨r, hr, h₃⟩ := Outcome.bind_eq_ok.mp h₂
    obtain ⟨t, ht, h₄⟩ := Outcome.bind_eq_ok.mp h₃
    cases Outcome.pure_eq_ok.mp h₄
    exact Outcome.bind_eq_ok.mpr ⟨q, hq, Outcome.bind_eq_ok.mpr ⟨p, hp,
      Outcome.bind_eq_ok.mpr ⟨r, hr, Outcome.bind_eq_ok.mpr ⟨t, ht, rfl⟩⟩⟩⟩

theorem recordAdvanceOffset_withOrders {invoice : InvoiceEntity} {id : Uuid} {x : ℚ}
    (h : recordAdvanceOffset db invoice id x = .ok db') :
    recordAdvanceOffset (db.withOrders orders appointments) invoice id x =
      .ok (db'.withOrders orders appointments) := by
  unfold recordAdvanceOffset at h ⊢
  split_ifs at h ⊢
  · obtain ⟨amount, ha, h⟩ := Outcome.bind_eq_ok.mp h
    obtain ⟨⟨mid, pid⟩, hp, h⟩ := Outcome.bind_eq_ok.mp h
    obtain ⟨u, hu, hp⟩ := Outcome.bind_eq_ok.mp hp
    cases Outcome.pure_eq_ok.mp hp
    cases Outcome.pure_eq_ok.mp h
    exact Outcome.bind_eq_ok.mpr ⟨amount, ha, Outcome.bind_eq_ok.mpr
      ⟨_, Outcome.bind_eq_ok.mpr ⟨u, hu, rfl⟩, rfl⟩⟩
  · cases Outcome.pure_eq_ok.mp h
    rfl

theorem debitAccount_withOrders {id : Uuid} {amount : ℚ} {newBalance : ℤ}
    (h : debitAccount db id amount = .ok (db', newBalance)) :
    debitAccount (db.withOrders orders appointments) id amount =
      .ok (db'.withOrders orders appointments, newBalance) := by
  obtain ⟨a, ha, h⟩ := Outcome.bind_eq_ok.mp h
  obtain ⟨debits, hd, h⟩ := Outcome.bind_eq_ok.mp h
  obtain ⟨balance, hb, h⟩ := Outcome.bind_eq_ok.mp h
  cases Outcome.pure_eq_ok.mp h
  exact Outcome.bind_eq_ok.mpr ⟨a, ha, Outcome.bind_eq_ok.mpr ⟨debits, hd,
    Outcome.bind_eq_ok.mpr ⟨newBalance, hb, rfl⟩⟩⟩

theorem createWithCariMovement_withOrders {clock : Clock} {invoice : InvoiceEntity}
    {offset : Option ℚ} (h : (createWithCariMovement clock db invoice offset).isOk)
    (hsame : checkWorkOrder (db.withOrders orders appointments) invoice =
      checkWorkOrder db invoice) :
    (createWithCariMovement clock (db.withOrders orders appointments) invoice offset).isOk := by
  obtain ⟨⟨db', r⟩, h⟩ := Outcome.isOk_iff.mp h
  obtain ⟨customer, hcustomer, h₁⟩ := Outcome.bind_eq_ok.mp h
  obtain ⟨⟨⟩, hcheck, h₂⟩ := Outcome.bind_eq_ok.mp h₁
  obtain ⟨totals, htotals, h₃⟩ := Outcome.bind_eq_ok.mp h₂
  obtain ⟨⟨opened, accountId, account⟩, hfound, h₄⟩ := Outcome.bind_eq_ok.mp h₃
  obtain ⟨u, hopen, h₅⟩ := Outcome.bind_eq_ok.mp h₄
  obtain ⟨⟨numbered, number, gib⟩, hnumber, h₆⟩ := Outcome.bind_eq_ok.mp h₅
  obtain ⟨row, hrow, h₇⟩ := Outcome.bind_eq_ok.mp h₆
  obtain ⟨⟨inserted, invoiceId⟩, hinsert, h₈⟩ := Outcome.bind_eq_ok.mp h₇
  obtain ⟨snapped, hsnap, h₉⟩ := Outcome.bind_eq_ok.mp h₈
  obtain ⟨offsetDb, hoffset, h₁₀⟩ := Outcome.bind_eq_ok.mp h₉
  obtain ⟨⟨debited, newBalance⟩, hdebit, h₁₁⟩ := Outcome.bind_eq_ok.mp h₁₀
  obtain ⟨debit, hdebitCents, -⟩ := Outcome.bind_eq_ok.mp h₁₁
  refine Outcome.isOk_iff.mpr ⟨_, Outcome.bind_eq_ok.mpr ⟨customer, hcustomer,
    Outcome.bind_eq_ok.mpr ⟨(), hsame.trans hcheck, Outcome.bind_eq_ok.mpr ⟨totals, htotals,
    Outcome.bind_eq_ok.mpr ⟨_, findOrCreateAccount_withOrders hfound,
    Outcome.bind_eq_ok.mpr ⟨u, hopen, Outcome.bind_eq_ok.mpr ⟨_, allocateNumber_withOrders hnumber,
    Outcome.bind_eq_ok.mpr ⟨row, hrow, Outcome.bind_eq_ok.mpr ⟨_, insertInvoice_withOrders hinsert,
    Outcome.bind_eq_ok.mpr ⟨_, snapshotItems_withOrders hsnap,
    Outcome.bind_eq_ok.mpr ⟨_, recordAdvanceOffset_withOrders hoffset,
    Outcome.bind_eq_ok.mpr ⟨_, debitAccount_withOrders hdebit,
    Outcome.bind_eq_ok.mpr ⟨debit, hdebitCents, rfl⟩⟩⟩⟩⟩⟩⟩⟩⟩⟩⟩⟩⟩

theorem createWithCariMovement_isOk_withOrders {clock : Clock} {invoice : InvoiceEntity}
    {offset : Option ℚ} (hsame : checkWorkOrder (db.withOrders orders appointments) invoice =
      checkWorkOrder db invoice) :
    (createWithCariMovement clock (db.withOrders orders appointments) invoice offset).isOk ↔
      (createWithCariMovement clock db invoice offset).isOk := by
  constructor
  · intro h
    have hback : (createWithCariMovement clock ((db.withOrders orders appointments).withOrders
        db.workOrders db.appointments) invoice offset).isOk :=
      createWithCariMovement_withOrders h hsame.symm
    exact hback
  · exact fun h => createWithCariMovement_withOrders h hsame

theorem restoreCancelledStock_withOrders {t w : Uuid} {items : List (Uuid × WorkOrderItem)}
    (h : restoreCancelledStock db t w items = .ok db') :
    restoreCancelledStock (db.withOrders orders appointments) t w items =
      .ok (db'.withOrders orders appointments) := by
  unfold restoreCancelledStock at h ⊢
  induction items generalizing db with
  | nil =>
    cases Outcome.pure_eq_ok.mp h
    rfl
  | cons it items ih =>
    rw [List.foldlM_cons] at h ⊢
    obtain ⟨mid, hmid, hrest⟩ := Outcome.bind_eq_ok.mp h
    refine Outcome.bind_eq_ok.mpr ⟨mid.withOrders orders appointments, ?_, ih hrest⟩
    unfold returnPart at hmid ⊢
    split at hmid
    · obtain ⟨stocked, hs, hm⟩ := Outcome.bind_eq_ok.mp hmid
      obtain ⟨p, hp, hs⟩ := Outcome.bind_eq_ok.mp hs
      obtain ⟨n, hn, hs⟩ := Outcome.bind_eq_ok.mp hs
      obtain ⟨q, hq, hm⟩ := Outcome.bind_eq_ok.mp hm
      cases Outcome.pure_eq_ok.mp hs
      cases Outcome.pure_eq_ok.mp hm
      exact Outcome.bind_eq_ok.mpr ⟨_, Outcome.bind_eq_ok.mpr ⟨p, hp,
        Outcome.bind_eq_ok.mpr ⟨n, hn, rfl⟩⟩, Outcome.bind_eq_ok.mpr ⟨q, hq, rfl⟩⟩
    · cases Outcome.pure_eq_ok.mp hmid
      rfl

theorem restoreCancelledStock_isOk_withOrders (orders : Table WorkOrder)
    (appointments : Table Appointment) {t w : Uuid} {items : List (Uuid × WorkOrderItem)} :
    (restoreCancelledStock (db.withOrders orders appointments) t w items).isOk ↔
      (restoreCancelledStock db t w items).isOk := by
  simp only [Outcome.isOk_iff]
  constructor
  · rintro ⟨db', h⟩
    have hback : restoreCancelledStock ((db.withOrders orders appointments).withOrders
        db.workOrders db.appointments) t w items =
          .ok (db'.withOrders db.workOrders db.appointments) :=
      restoreCancelledStock_withOrders h
    exact ⟨_, hback⟩
  · rintro ⟨db', h⟩
    exact ⟨_, restoreCancelledStock_withOrders h⟩

theorem checkWorkOrder_congr {db₂ : Db} {invoice : InvoiceEntity} {id : Uuid}
    {wo wo₂ : WorkOrder} (hid : invoice.workOrderId = some id)
    (hwo : db.workOrder? invoice.tenantId id = some wo)
    (hwo₂ : db₂.workOrder? invoice.tenantId id = some wo₂)
    (hcustomer : wo₂.customerId = wo.customerId) (hlive : wo.status ≠ .cancelled)
    (hlive₂ : wo₂.status ≠ .cancelled) (hinvoices : db₂.invoices = db.invoices) :
    checkWorkOrder db₂ invoice = checkWorkOrder db invoice := by
  unfold checkWorkOrder
  rw [hid]
  simp only [hwo, hwo₂, hcustomer, hlive, hlive₂, Db.activeInvoiceOf?, hinvoices, bind, Except.bind,
    Outcome.required, Option.elim_some]

end Frame

/-- A call that fails has changed nothing, so that to repeat it once the cause is gone is
to make it for the first time. -/
structure FailsCleanly (db : Db) (l : Served) : Prop where
  unchanged : ∀ e, answer db l = .error e → serve db l = db
  retried : ∀ e, answer db l = .error e → ∀ (repair : Db → Db) (env : ℕ → WorkshopEnv),
    serve (repair (serve db l)) { l with env } = serve (repair db) { l with env }

def StatusUpdate.Returns (u : StatusUpdate) : Prop :=
  u.target = .cancelled ∧ u.order.status ≠ .cancelled

/-- An order is completed that is invoiced automatically and has no invoice. -/
def StatusUpdate.Invoices (db : Db) (u : StatusUpdate) : Prop :=
  u.target = .completed ∧ getTenantAutoInvoiceConfig db u.tenantId ∧
    (findInvoiceByWorkOrder db u.tenantId u.id).isNone ∧ 0 < u.order.grandTotal

instance (u : StatusUpdate) : Decidable u.Returns := by
  unfold StatusUpdate.Returns
  infer_instance

instance (db : Db) (u : StatusUpdate) : Decidable (u.Invoices db) := by
  unfold StatusUpdate.Invoices
  infer_instance

/-- The order has the status already, since this very instant, and so has its appointment. -/
def StatusUpdate.Settled (db : Db) (u : StatusUpdate) (now : Instant) : Prop :=
  u.order.status = u.target ∧ u.order.completedAt = some now ∧
    ∀ k ∈ u.order.appointmentId, ∀ a ∈ db.appointment? u.tenantId k,
      appointmentStatusFor u.target = some a.status

def StatusUpdate.invoice (env : ℕ → WorkshopEnv) (u : StatusUpdate) : CreateInvoiceInput :=
  autoInvoiceInput (env 3).clock u.id u.order

def StatusUpdate.issues (db : Db) (env : ℕ → WorkshopEnv) (u : StatusUpdate) :
    Outcome (Db × CreateInvoiceTransactionResult) :=
  createWithCariMovement (env 2).clock db ((u.invoice env).entity (env 2).clock u.tenantId) none

def StatusUpdate.invoiceEntity (env : ℕ → WorkshopEnv) (u : StatusUpdate) : InvoiceEntity :=
  (u.invoice env).entity (env 2).clock u.tenantId

/-- Of a cancelled order the products take the parts back; of a completed one the rows let
the automatic invoice through, or it was completed already. -/
def StatusUpdate.CarriesThrough (db : Db) (env : ℕ → WorkshopEnv) (u : StatusUpdate) : Prop :=
  (u.Returns → db.TakesBack ((db.itemsOf u.id).map Prod.snd)) ∧
    (u.Invoices db →
      db.AcceptsInvoice (env 2).clock (u.invoiceEntity env)
          (effectiveItems db (u.invoiceEntity env)) ∨
        u.Settled db (env 8).clock.now)

section Parts

variable {db : Db} {env : ℕ → WorkshopEnv} {u : StatusUpdate}

def StatusUpdate.synced (db : Db) (u : StatusUpdate) : Db :=
  match u.order.appointmentId, appointmentStatusFor u.target with
  | some appointmentId, some status => syncAppointmentStatus db u.tenantId appointmentId status
  | _, _ => db

namespace WorkshopTask

theorem afterWrite_returns (h : u.Returns) : afterWrite u = .readCancelled u := if_pos h

theorem afterWrite_others (h : ¬ u.Returns) : afterWrite u = afterRestore u := if_neg h

theorem finish_afterRestore :
    finish env db (afterRestore u) = finish env (u.synced db) (afterSync u) := by
  unfold afterRestore StatusUpdate.synced
  split_ifs with hsync
  · obtain ⟨k, hk⟩ := Option.isSome_iff_exists.mp hsync.1
    obtain ⟨status, htarget⟩ := Option.isSome_iff_exists.mp hsync.2
    rw [finish_exec]
    simp only [exec, hk, htarget]
  · split
    · next hk htarget => exact absurd ⟨by rw [hk]; rfl, by rw [htarget]; rfl⟩ hsync
    · rfl

theorem finish_afterSync :
    finish env db (afterSync u) =
      if u.Invoices db then finish env db (.issueInvoice u.tenantId (u.invoice env))
      else (db, .finished (.ok ())) := by
  unfold afterSync StatusUpdate.Invoices
  by_cases htarget : u.target = .completed
  · rw [if_pos htarget, finish_exec]
    simp only [exec, htarget, true_and]
    by_cases hconfig : getTenantAutoInvoiceConfig db u.tenantId = true
    · rw [if_pos hconfig, finish_exec]
      simp only [exec, hconfig, true_and, remaining]
      split_ifs <;> rfl
    · simp [hconfig, finish_finished]
  · simp [htarget, finish_finished]

theorem finish_issueInvoice (db : Db) (env : ℕ → WorkshopEnv) (u : StatusUpdate) :
    (∃ e, u.issues db env = .error e ∧
      finish env db (.issueInvoice u.tenantId (u.invoice env)) = (db, .finished (.error e))) ∨
    (u.issues db env).isOk ∧
      (finish env db (.issueInvoice u.tenantId (u.invoice env))).2 = .finished (.ok ()) := by
  rw [finish_exec]
  simp only [exec]
  have hissues : createWithCariMovement (env (issueInvoice u.tenantId (u.invoice env)).remaining).clock
      db ((u.invoice env).entity (env (issueInvoice u.tenantId (u.invoice env)).remaining).clock
        u.tenantId) (u.invoice env).offsetAdvanceAmount = u.issues db env := rfl
  rw [hissues]
  cases hr : u.issues db env with
  | error e => exact .inl ⟨e, rfl, rfl⟩
  | ok result =>
    obtain ⟨db', r⟩ := result
    right
    refine ⟨rfl, ?_⟩
    simp only
    unfold afterIssue
    split
    · next details _ =>
      obtain ⟨row, hrow⟩ := createWithCariMovement_invoice hr
      have hupdate : updateEInvoiceDetails db' u.tenantId r.invoiceId details =
          .ok { db' with invoices := db'.invoices.modify r.invoiceId details.apply } :=
        Outcome.bind_eq_ok.mpr ⟨row, Outcome.required_eq_ok.mpr hrow, rfl⟩
      rw [finish_exec]
      simp only [exec, commits, hupdate]
      rfl
    · rfl

end WorkshopTask

/-- The database once the status is written, with its appointment in step. -/
def StatusUpdate.applied (db : Db) (u : StatusUpdate) (clock : Clock) : Db :=
  u.synced (u.write db (completionTime clock u.target))

theorem StatusUpdate.applied_eq (u : StatusUpdate) (db : Db) (clock : Clock) :
    ∃ appointments, u.applied db clock = db.withOrders
      (db.workOrders.modify u.id (WorkOrder.setStatus u.target (completionTime clock u.target)))
      appointments := by
  unfold StatusUpdate.applied StatusUpdate.synced
  split <;> exact ⟨_, rfl⟩

theorem StatusUpdate.invoices_applied (clock : Clock) :
    u.Invoices (u.applied db clock) ↔ u.Invoices db := by
  obtain ⟨appointments, happlied⟩ := u.applied_eq db clock
  rw [happlied]
  exact Iff.rfl

theorem StatusUpdate.Current.issues_applied (h : u.Current db) (htarget : u.target = .completed)
    (clock : Clock) : (u.issues (u.applied db clock) env).isOk ↔ (u.issues db env).isOk := by
  obtain ⟨appointments, happlied⟩ := u.applied_eq db clock
  obtain ⟨hget, htenant⟩ := Db.workOrder?_eq_some.mp h.1
  have hlive : u.order.status ≠ .cancelled := by
    intro hcancelled
    have hcan := h.2
    rw [hcancelled, htarget] at hcan
    cases hcan
  rw [happlied]
  refine createWithCariMovement_isOk_withOrders (checkWorkOrder_congr (show _ = some u.id from rfl) h.1
    (h.written (completionTime clock u.target)).found rfl hlive ?_ rfl)
  rw [htarget]
  exact nofun

theorem StatusUpdate.Current.issues_isOk_iff (h : u.Current db) (htarget : u.target = .completed) :
    (u.issues db env).isOk ↔
      db.AcceptsInvoice (env 2).clock (u.invoiceEntity env)
        (effectiveItems db (u.invoiceEntity env)) := by
  have hlive : u.order.status ≠ .cancelled := by
    intro hcancelled
    have hcan := h.2
    rw [hcancelled, htarget] at hcan
    cases hcan
  have hunnumbered : (u.invoiceEntity env).isUnnumbered = true := rfl
  refine createWithCariMovement_isOk_iff hunnumbered fun hunlinked => ?_
  change checkWorkOrder db (u.invoiceEntity env) = .ok ()
  have hnone : db.activeInvoiceOf? u.tenantId u.id = none := by
    by_contra hsome
    obtain ⟨⟨k, inv⟩, hfound⟩ := Option.ne_none_iff_exists'.mp hsome
    obtain ⟨hget, hp⟩ := Table.find?_some hfound
    exact hunlinked u.id rfl k inv hget (of_decide_eq_true hp).1
  have horder : Outcome.required (db.workOrder? u.tenantId u.id)
      (.badRequest "Faturanın ait olduğu iş emri bulunamadı veya bu işletmeye ait değil.") =
        .ok u.order := Outcome.required_eq_ok.mpr h.1
  have hsame : (u.invoiceEntity env).customerId = u.order.customerId := rfl
  have hid : (u.invoiceEntity env).workOrderId = some u.id := rfl
  have htenant : (u.invoiceEntity env).tenantId = u.tenantId := rfl
  unfold checkWorkOrder
  rw [hid]
  simp only [htenant, hsame, hnone]
  refine Outcome.bind_eq_ok.mpr ⟨u.order, horder, ?_⟩
  refine Outcome.bind_eq_ok.mpr ⟨(), Outcome.reject_eq_ok.mpr (decide_eq_false (by simp)), ?_⟩
  exact Outcome.bind_eq_ok.mpr ⟨(), Outcome.reject_eq_ok.mpr (decide_eq_false hlive), rfl⟩

theorem syncAppointmentStatus_eq_self_iff {t k : Uuid} {status : AppointmentStatus} :
    syncAppointmentStatus db t k status = db ↔
      ∀ a ∈ db.appointment? t k, a.status = status := by
  constructor
  · intro hsame a ha
    obtain ⟨hget, htenant⟩ := Db.appointment?_eq_some.mp ha
    have hrow := congrArg (fun db : Db => db.appointments.get? k) hsame
    simp only [syncAppointmentStatus, Table.get?_modifyIf, hget, htenant, and_self, decide_true,
      if_true, Option.map_some, Option.some.injEq] at hrow
    exact (congrArg Appointment.status hrow).symm
  · intro h
    have happ : db.appointments.modifyIf (fun i a => i = k ∧ a.tenantId = t)
        (setAppointmentStatus status) = db.appointments := by
      apply Table.modifyIf_eq_self
      intro i a hget hc
      obtain ⟨rfl, htenant⟩ : i = k ∧ a.tenantId = t := by simpa using hc
      have hstatus := h a (Db.appointment?_eq_some.mpr ⟨hget, htenant⟩)
      rw [setAppointmentStatus, ← hstatus]
    rw [syncAppointmentStatus, happ]

theorem StatusUpdate.Current.write_eq_self_iff (h : u.Current db) (completedAt : Option Instant) :
    u.write db completedAt = db ↔
      u.order.status = u.target ∧ u.order.completedAt = completedAt := by
  obtain ⟨hget, -⟩ := Db.workOrder?_eq_some.mp h.1
  constructor
  · intro hsame
    have hrow := congrArg (fun db : Db => db.workOrders.get? u.id) hsame
    simp only [StatusUpdate.write, Table.get?_modify_self hget, hget, Option.some.injEq] at hrow
    exact ⟨(congrArg WorkOrder.status hrow).symm, (congrArg WorkOrder.completedAt hrow).symm⟩
  · rintro ⟨hstatus, hcompleted⟩
    have horders : db.workOrders.modify u.id (WorkOrder.setStatus u.target completedAt) =
        db.workOrders := by
      apply Table.modifyIf_eq_self
      intro i wo hwo hi
      obtain rfl : i = u.id := by simpa using hi
      cases Option.some.inj (hget.symm.trans hwo)
      rw [WorkOrder.setStatus, ← hstatus, ← hcompleted]
    rw [StatusUpdate.write, horders]

theorem StatusUpdate.Current.applied_eq_self_iff (h : u.Current db)
    (htarget : u.target = .completed) (clock : Clock) :
    u.applied db clock = db ↔ u.Settled db clock.now := by
  have htime : completionTime clock u.target = some clock.now := if_pos htarget
  have hwrite : u.write db (completionTime clock u.target) = db ↔
      u.order.status = u.target ∧ u.order.completedAt = some clock.now :=
    htime ▸ h.write_eq_self_iff (completionTime clock u.target)
  unfold StatusUpdate.applied StatusUpdate.synced StatusUpdate.Settled
  cases hk : u.order.appointmentId with
  | none => simpa using hwrite
  | some k =>
    have hstatus : appointmentStatusFor u.target = some .completed := by rw [htarget]; rfl
    simp only [hstatus, Option.mem_def, Option.some.injEq, forall_eq']
    constructor
    · intro hsame
      have horders := congrArg Db.workOrders hsame
      have hwritten : u.write db (completionTime clock u.target) = db := by
        rw [StatusUpdate.write]
        exact congrArg (fun orders => { db with workOrders := orders }) horders
      obtain ⟨hs, hc⟩ := hwrite.mp hwritten
      rw [hwritten] at hsame
      exact ⟨hs, hc, fun a ha => (syncAppointmentStatus_eq_self_iff.mp hsame a ha).symm⟩
    · rintro ⟨hs, hc, happ⟩
      rw [hwrite.mpr ⟨hs, hc⟩]
      exact syncAppointmentStatus_eq_self_iff.mpr fun a ha => (happ a ha).symm

end Parts

section Calls

variable {db : Db} {env : ℕ → WorkshopEnv} {tenantId id : Uuid} {newStatus : String}

theorem failsCleanly_iff {l : Served} :
    FailsCleanly db l ↔ ∀ e, answer db l = .error e → serve db l = db := by
  refine ⟨fun h => h.unchanged, fun h => ⟨h, fun e he repair env => ?_⟩⟩
  rw [h e he]

theorem finish_updateStatus (env : ℕ → WorkshopEnv) {u : StatusUpdate}
    (h : checkTransition db u.tenantId u.id newStatus = .ok (u.target, u.order)) :
    WorkshopTask.finish env db (.updateStatus u.tenantId u.id newStatus) =
      WorkshopTask.finish env (u.write db (completionTime (env 8).clock u.target))
        (WorkshopTask.afterWrite u) := by
  have hcurrent := checkTransition_ok h
  obtain ⟨hget, -⟩ := Db.workOrder?_eq_some.mp hcurrent.1
  have hexisting : existingOrder db u.tenantId u.id = .ok u.order :=
    Outcome.required_eq_ok.mpr hcurrent.1
  rw [WorkshopTask.finish_exec]
  simp only [WorkshopTask.exec, WorkshopTask.reads, h]
  rw [WorkshopTask.finish_exec]
  simp only [WorkshopTask.exec, WorkshopTask.reads, hexisting]
  rw [WorkshopTask.finish_exec]
  simp only [WorkshopTask.exec, writeStatus_found hget, WorkshopTask.commits]
  rfl

theorem finish_returns {u : StatusUpdate} (h : u.Current db) (hreturns : u.Returns)
    (completedAt : Option Instant) :
    WorkshopTask.finish env (u.write db completedAt) (WorkshopTask.afterWrite u) =
      match restoreCancelledStock (u.write db completedAt) u.tenantId u.id (db.itemsOf u.id) with
      | .error e => (u.write db completedAt, .finished (.error e))
      | .ok db' => (db', .finished (.ok ())) := by
  have hfound := (h.written completedAt).found
  have hend : WorkshopTask.afterRestore u = .finished (.ok ()) := by
    simp [WorkshopTask.afterRestore, WorkshopTask.afterSync, appointmentStatusFor, hreturns.1]
  rw [WorkshopTask.afterWrite_returns hreturns, WorkshopTask.finish_exec]
  simp only [WorkshopTask.exec, hfound]
  rw [WorkshopTask.finish_exec]
  simp only [WorkshopTask.exec, hend]
  have hitems : (u.write db completedAt).itemsOf u.id = db.itemsOf u.id := rfl
  rw [hitems]
  cases restoreCancelledStock (u.write db completedAt) u.tenantId u.id (db.itemsOf u.id) <;> rfl

theorem finish_invoices {u : StatusUpdate} (hreturns : ¬ u.Returns) (clock : Clock) :
    WorkshopTask.finish env (u.write db (completionTime clock u.target))
        (WorkshopTask.afterWrite u) =
      if u.Invoices db then
        WorkshopTask.finish env (u.applied db clock) (.issueInvoice u.tenantId (u.invoice env))
      else (u.applied db clock, .finished (.ok ())) := by
  rw [WorkshopTask.afterWrite_others hreturns, WorkshopTask.finish_afterRestore,
    WorkshopTask.finish_afterSync]
  exact if_congr (StatusUpdate.invoices_applied clock) rfl rfl

theorem failsCleanly_of_finish {l : Served} {db' : Db} {a : Outcome Unit}
    (h : l.request.enter.finish l.env db = (db', .finished a)) :
    FailsCleanly db l ↔ ∀ e, a = .error e → db' = db := by
  have hanswer : answer db l = a := by
    unfold answer
    rw [h]
  have hserve : serve db l = db' := congrArg Prod.fst h
  rw [failsCleanly_iff, hanswer, hserve]

theorem finish_refused {e : ApiError} (h : checkTransition db tenantId id newStatus = .error e) :
    WorkshopTask.finish env db (.updateStatus tenantId id newStatus) =
      (db, .finished (.error e)) := by
  rw [WorkshopTask.finish_exec]
  simp only [WorkshopTask.exec, WorkshopTask.reads, h]
  exact WorkshopTask.finish_finished env db _

theorem finish_returns_iff {u : StatusUpdate} (h : u.Current db) (hreturns : u.Returns)
    {l : Served} {clock : Clock}
    (hfinish : l.request.enter.finish l.env db =
      WorkshopTask.finish env (u.write db (completionTime clock u.target))
        (WorkshopTask.afterWrite u)) :
    FailsCleanly db l ↔ db.TakesBack ((db.itemsOf u.id).map Prod.snd) := by
  have hwrite := h.write_eq_self_iff (completionTime clock u.target)
  have hsame : (restoreCancelledStock (u.write db (completionTime clock u.target)) u.tenantId u.id
      (db.itemsOf u.id)).isOk ↔
        (restoreCancelledStock db u.tenantId u.id (db.itemsOf u.id)).isOk :=
    restoreCancelledStock_isOk_withOrders _ db.appointments
  rw [finish_returns h hreturns] at hfinish
  rw [← restoreCancelledStock_isOk_iff (t := u.tenantId) (w := u.id), ← hsame]
  cases hr : restoreCancelledStock (u.write db (completionTime clock u.target)) u.tenantId u.id
      (db.itemsOf u.id) with
  | error e =>
    rw [hr] at hfinish
    rw [failsCleanly_of_finish hfinish]
    refine ⟨fun hclean => ?_, fun hok => by cases hok⟩
    obtain ⟨hstatus, -⟩ := hwrite.mp (hclean e rfl)
    exact absurd (hstatus.trans hreturns.1) hreturns.2
  | ok db' =>
    rw [hr] at hfinish
    rw [failsCleanly_of_finish hfinish]
    exact ⟨fun _ => rfl, fun _ e he => by cases he⟩

theorem finish_invoices_iff {u : StatusUpdate} (h : u.Current db) (hreturns : ¬ u.Returns)
    {l : Served} {clock : Clock}
    (hfinish : l.request.enter.finish l.env db =
      WorkshopTask.finish env (u.write db (completionTime clock u.target))
        (WorkshopTask.afterWrite u)) :
    FailsCleanly db l ↔
      (u.Invoices db →
        db.AcceptsInvoice (env 2).clock (u.invoiceEntity env)
            (effectiveItems db (u.invoiceEntity env)) ∨
          u.Settled db clock.now) := by
  rw [finish_invoices hreturns] at hfinish
  by_cases hinvoices : u.Invoices db
  · have hsame : (u.issues (u.applied db clock) env).isOk ↔ (u.issues db env).isOk :=
      h.issues_applied hinvoices.1 clock
    rw [← h.issues_isOk_iff hinvoices.1]
    have hsettled := h.applied_eq_self_iff hinvoices.1 clock
    rw [if_pos hinvoices] at hfinish
    rcases WorkshopTask.finish_issueInvoice (u.applied db clock) env u with
      ⟨e, he, hend⟩ | ⟨hok, hend⟩
    · have hrefused : ¬ (u.issues db env).isOk := by
        rw [← hsame, he]
        exact nofun
      rw [failsCleanly_of_finish (hfinish.trans hend), ← hsettled]
      constructor
      · exact fun hclean _ => .inr (hclean e rfl)
      · exact fun hcond _ _ => (hcond hinvoices).resolve_left hrefused
    · rw [failsCleanly_of_finish (hfinish.trans (Prod.ext rfl hend))]
      exact ⟨fun _ _ => .inl (hsame.mp hok), fun _ e he => by cases he⟩
  · rw [if_neg hinvoices] at hfinish
    rw [failsCleanly_of_finish hfinish]
    exact ⟨fun _ hinv => absurd hinv hinvoices, fun _ e he => by cases he⟩

theorem failsCleanly_iff_carriesThrough (u : StatusUpdate)
    (h : checkTransition db u.tenantId u.id newStatus = .ok (u.target, u.order)) :
    FailsCleanly db { request := .updateWorkOrderStatus u.tenantId u.id newStatus, env } ↔
      u.CarriesThrough db env := by
  have hcurrent : u.Current db := checkTransition_ok h
  have hfinish := finish_updateStatus env h
  unfold StatusUpdate.CarriesThrough
  by_cases hreturns : u.Returns
  · have hnone : ¬ u.Invoices db := by
      rintro ⟨htarget, -⟩
      cases hreturns.1.symm.trans htarget
    rw [finish_returns_iff hcurrent hreturns hfinish]
    simp [hreturns, hnone]
  · rw [finish_invoices_iff hcurrent hreturns hfinish]
    simp [hreturns]

/-- A status change that fails has changed nothing precisely when the rows that its later
parts look at let them through. -/
theorem status_change_fails_cleanly_iff (db : Db) (tenantId id : Uuid) (newStatus : String)
    (env : ℕ → WorkshopEnv) :
    FailsCleanly db { request := .updateWorkOrderStatus tenantId id newStatus, env } ↔
      ∀ target order, checkTransition db tenantId id newStatus = .ok (target, order) →
        StatusUpdate.CarriesThrough db env { tenantId, id, target, order } := by
  cases hcheck : checkTransition db tenantId id newStatus with
  | error e =>
    have hclean : FailsCleanly db
        { request := .updateWorkOrderStatus tenantId id newStatus, env } := by
      rw [failsCleanly_of_finish (finish_refused hcheck)]
      exact fun _ _ => rfl
    refine iff_of_true hclean fun target order h => ?_
    cases h
  | ok r =>
    obtain ⟨target, order⟩ := r
    have hiff : FailsCleanly db { request := .updateWorkOrderStatus tenantId id newStatus, env } ↔
        StatusUpdate.CarriesThrough db env { tenantId, id, target, order } :=
      failsCleanly_iff_carriesThrough { tenantId, id, target, order } hcheck
    rw [hiff]
    constructor
    · intro h target' order' he
      cases he
      exact h
    · exact fun h => h target order rfl

end Calls

section Sample

/-- Orders are invoiced when they are completed, and the customer's account is blocked. -/
def blockedShop : Db :=
  { shopDb with
    tenants := .ofList
      [{ slug := "servis", title := "Servis", isActive := true, autoInvoiceOnComplete := true }]
    currentAccounts := .ofList
      [{ tenantId := 0, customerId := 0, totalDebits := 0, totalCredits := 0, balance := 0,
         isBlocked := true }] }

/-- The order that the blocked customer's car is worked on for. -/
def blockedOrder : Db :=
  run serve blockedShop
    [served (.createWorkOrder 0 padOrder), served (.updateWorkOrderStatus 0 0 "IN_PROGRESS")]

/-- The completion is answered with an error and stays. -/
theorem refused_completion_stays :
    ¬ FailsCleanly blockedOrder (served (.updateWorkOrderStatus 0 0 "COMPLETED")) := by
  intro h
  have hanswer : answer blockedOrder (served (.updateWorkOrderStatus 0 0 "COMPLETED")) =
      .error (.badRequest
        "Bu müşterinin cari hesabı bloke durumdadır. Yeni fatura kesilemez.") := by
    decide +kernel
  have hstatus := congrArg (fun db : Db => (db.workOrders.get? 0).map WorkOrder.status)
    (h.unchanged _ hanswer)
  exact absurd hstatus (by decide +kernel)

end Sample

end WorksAuto
