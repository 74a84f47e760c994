import WorksAuto.WorkOrders.Tracking
import WorksAuto.Workshop.Orders
import WorksAuto.Workshop.Serial

/-! A tracking link over whole runs.
Tracking, feedback, status notifications and status updates interleave. A link that
is closed is opened again by whatever moves the instant from which its days are
counted: any write to a cancelled order, and a new completion time of a completed one. -/

namespace WorksAuto

open Lib

namespace WorkshopTask

/-- The parts of a status update, the automatic invoice at its end included. -/
def isStatusUpdate : WorkshopTask → Bool
  | updateStatus .. | confirmOrder _ | writeStatus _ | readCancelled _ | restoreStock ..
  | syncAppointment _ | readAutoInvoice _ | readInvoice _ | issueInvoice .. | eInvoice ..
  | finished _ => true
  | _ => false

theorem isStatusUpdate_afterSync (u : StatusUpdate) : (afterSync u).isStatusUpdate = true := by
  unfold afterSync
  split_ifs <;> rfl

theorem isStatusUpdate_afterRestore (u : StatusUpdate) :
    (afterRestore u).isStatusUpdate = true := by
  unfold afterRestore
  split_ifs
  · rfl
  · exact isStatusUpdate_afterSync u

theorem isStatusUpdate_afterWrite (u : StatusUpdate) : (afterWrite u).isStatusUpdate = true := by
  unfold afterWrite
  split_ifs
  · rfl
  · exact isStatusUpdate_afterRestore u

theorem isStatusUpdate_reads {α : Type} {db : Db} {r : Outcome α} {next : α → WorkshopTask}
    (h : ∀ a, (next a).isStatusUpdate = true) : (reads db r next).2.isStatusUpdate = true := by
  cases r with
  | error e => rfl
  | ok a => exact h a

theorem isStatusUpdate_commits {db : Db} {r : Outcome Db} {next : WorkshopTask}
    (h : next.isStatusUpdate = true) : (commits db r next).2.isStatusUpdate = true := by
  cases r with
  | error e => rfl
  | ok db' => exact h

theorem isStatusUpdate_exec {t : WorkshopTask} (h : t.isStatusUpdate = true) (db : Db)
    (env : WorkshopEnv) : (t.exec db env).2.isStatusUpdate = true := by
  cases t with
  | updateStatus tenantId id newStatus => exact isStatusUpdate_reads fun _ => rfl
  | confirmOrder u => exact isStatusUpdate_reads fun _ => rfl
  | writeStatus u => exact isStatusUpdate_commits (isStatusUpdate_afterWrite u)
  | readCancelled u =>
    simp only [exec]
    split
    · exact isStatusUpdate_afterRestore u
    · rfl
  | restoreStock u items => exact isStatusUpdate_commits (isStatusUpdate_afterRestore u)
  | syncAppointment u =>
    simp only [exec]
    split <;> exact isStatusUpdate_afterSync u
  | readAutoInvoice u =>
    simp only [exec]
    split_ifs <;> rfl
  | readInvoice u =>
    simp only [exec]
    split_ifs <;> rfl
  | issueInvoice tenantId dto =>
    simp only [exec, afterIssue]
    split
    · rfl
    · split <;> rfl
  | eInvoice tenantId id details => exact isStatusUpdate_commits rfl
  | finished answer => rfl
  | _ => cases h

def updatedOrder (db : Db) (env : WorkshopEnv) : WorkshopTask → Option Uuid
  | writeStatus u => if (db.workOrders.get? u.id).isSome then some u.id else none
  | issueInvoice tenantId dto =>
    if (createWithCariMovement env.clock db (dto.entity env.clock tenantId)
        dto.offsetAdvanceAmount).isOk then dto.workOrderId else none
  | _ => none

/-- What a part of a status update makes of the order `w`, and whether it writes its row. -/
inductive StatusPart (db : Db) (env : WorkshopEnv) (w : Uuid) (wo : WorkOrder) :
    WorkshopTask → WorkOrder → Prop where
  | kept {t : WorkshopTask} {wo' : WorkOrder} (unwritten : t.updatedOrder db env ≠ some w)
      (status : wo'.status = wo.status) (completedAt : wo'.completedAt = wo.completedAt) :
      StatusPart db env w wo t wo'
  | statusWritten {u : StatusUpdate} (about : u.id = w)
      (written : (writeStatus u).updatedOrder db env = some w) :
      StatusPart db env w wo (writeStatus u)
        (wo.setStatus u.target (completionTime env.clock u.target))
  | issued {tenantId : Uuid} {dto : CreateInvoiceInput} (linked : dto.workOrderId = some w)
      (accepted : (createWithCariMovement env.clock db (dto.entity env.clock tenantId)
        dto.offsetAdvanceAmount).isOk)
      (written : (issueInvoice tenantId dto).updatedOrder db env = some w) :
      StatusPart db env w wo (issueInvoice tenantId dto) (wo.complete env.clock)

theorem exec_statusPart {db : Db} (env : WorkshopEnv) {w : Uuid} {wo : WorkOrder}
    {t : WorkshopTask} (ht : t.isStatusUpdate = true) (hwo : db.workOrders.get? w = some wo) :
    ∃ wo', (t.exec db env).1.workOrders.get? w = some wo' ∧ StatusPart db env w wo t wo' := by
  cases t with
  | writeStatus u =>
    simp only [exec]
    rcases commits_cases db (WorksAuto.writeStatus db u.id u.target
      (completionTime env.clock u.target)) (afterWrite u) with ⟨db', hr, hc⟩ | ⟨e, hr, hc⟩
    · rw [hc]
      obtain ⟨order, horder, rfl⟩ := writeStatus_ok hr
      by_cases hw : w = u.id
      · have hwritten : (writeStatus u).updatedOrder db env = some w := by
          simp only [updatedOrder, horder, Option.isSome_some, if_true, hw]
        refine ⟨_, ?_, .statusWritten hw.symm hwritten⟩
        rw [← hw]
        exact Table.get?_modify_self hwo _
      · refine ⟨wo, (Table.get?_modify_ne _ hw _).trans hwo, .kept ?_ rfl rfl⟩
        simp only [updatedOrder, horder, Option.isSome_some, if_true]
        exact fun h => hw (Option.some.inj h).symm
    · rw [hc]
      refine ⟨wo, hwo, .kept ?_ rfl rfl⟩
      intro hwritten
      simp only [updatedOrder] at hwritten
      split_ifs at hwritten with hfound
      obtain ⟨order, horder⟩ := Option.isSome_iff_exists.mp hfound
      rw [WorksAuto.writeStatus, horder] at hr
      cases hr
  | issueInvoice tenantId dto =>
    simp only [exec]
    cases hissue : createWithCariMovement env.clock db (dto.entity env.clock tenantId)
        dto.offsetAdvanceAmount with
    | error e =>
      refine ⟨wo, hwo, .kept ?_ rfl rfl⟩
      simp [updatedOrder, hissue, Except.isOk, Except.toBool]
    | ok r =>
      have hok : (createWithCariMovement env.clock db (dto.entity env.clock tenantId)
          dto.offsetAdvanceAmount).isOk = true := by
        rw [hissue]
        rfl
      obtain ⟨hissued⟩ := createWithCariMovement_ok hissue
      have horders : r.1.workOrders = dto.workOrderId.elim db.workOrders fun id =>
          db.workOrders.modify id (WorkOrder.complete env.clock) := hissued.workOrders
      have hupdated : (issueInvoice tenantId dto).updatedOrder db env = dto.workOrderId := by
        simp only [updatedOrder, hok, if_true]
      by_cases hw : dto.workOrderId = some w
      · refine ⟨_, ?_, .issued hw hok (hupdated.trans hw)⟩
        dsimp only
        rw [horders, hw]
        exact Table.get?_modify_self hwo _
      · refine ⟨wo, ?_, .kept (hupdated ▸ hw) rfl rfl⟩
        dsimp only
        rw [horders]
        cases hid : dto.workOrderId with
        | none => exact hwo
        | some id =>
          have hne : w ≠ id := fun h => hw (h ▸ hid)
          exact (Table.get?_modify_ne _ hne _).trans hwo
  | updateStatus | confirmOrder | readCancelled | restoreStock | syncAppointment
  | readAutoInvoice | readInvoice | eInvoice | finished =>
    obtain ⟨wo', hwo', hchange⟩ := (exec_orders db _ env).order hwo
    refine ⟨wo', hwo', .kept (by simp [updatedOrder]) ?_ ?_⟩ <;> cases hchange <;> rfl
  | _ => cases ht

end WorkshopTask

abbrev StatusTask := { t : WorkshopTask // t.isStatusUpdate = true }

inductive TrackTask where
  | track (token : Option Uuid)
  | tracked (token : Option Uuid) (answer : Outcome PublicTrack)
  | feedback (token : Option Uuid) (dto : SubmitCustomerFeedbackDto)
  | storeFeedback (id : Uuid) (dto : SubmitCustomerFeedbackDto)
  | notify (tenantId id : Uuid) (dto : NotifyWorkOrderStatusDto)
  | storeNotified (id : Uuid)
  | answered (answer : Outcome Unit)
  | status (t : StatusTask)

inductive TrackRequest where
  | getPublicWorkOrderTrack (token : Option Uuid)
  | submitCustomerFeedback (token : Option Uuid) (dto : SubmitCustomerFeedbackDto)
  | notifyWorkOrderStatus (tenantId id : Uuid) (dto : NotifyWorkOrderStatusDto)
  | updateWorkOrderStatus (tenantId id : Uuid) (newStatus : String)

def TrackRequest.enter : TrackRequest → TrackTask
  | .getPublicWorkOrderTrack token => .track token
  | .submitCustomerFeedback token dto => .feedback token dto
  | .notifyWorkOrderStatus tenantId id dto => .notify tenantId id dto
  | .updateWorkOrderStatus tenantId id newStatus => .status ⟨.updateStatus tenantId id newStatus, rfl⟩

structure TrackEnv where
  elapsed : ℕ
  workshop : WorkshopEnv

namespace TrackServer

def pass (s : TrackServer) (elapsed : ℕ) : TrackServer := { s with now := s.now + elapsed }

def workshopEnv (s : TrackServer) (env : TrackEnv) : WorkshopEnv :=
  { env.workshop with clock := { env.workshop.clock with now := s.now } }

/-- A part of a status update; the row it writes gets a new `updatedAt`. -/
def execStatus (s : TrackServer) (t : StatusTask) (env : WorkshopEnv) : TrackServer × StatusTask :=
  let written := (t.1.updatedOrder s.db env).elim s fun id => s.updateOrder id fun c => c
  ({ written with db := (t.1.exec s.db env).1 },
    ⟨(t.1.exec s.db env).2, WorkshopTask.isStatusUpdate_exec t.2 s.db env⟩)

end TrackServer

def TrackTask.stores (s : TrackServer) (r : Outcome TrackServer) (answer : Outcome Unit) :
    TrackServer × TrackTask :=
  match r with
  | .error e => (s, .answered (.error e))
  | .ok s' => (s', .answered answer)

/-- A notification that fails ends the request; after a feedback it has been stored. -/
def TrackTask.exec (s : TrackServer) (t : TrackTask) (env : TrackEnv) : TrackServer × TrackTask :=
  let s := s.pass env.elapsed
  let notified : Outcome Unit := env.workshop.notificationError.elim (.ok ()) .error
  match t with
  | .track token => (s, .tracked token (s.getPublicWorkOrderTrack token))
  | .feedback token dto =>
    match s.findPublicTrack token with
    | .error e => (s, .answered (.error e))
    | .ok (id, _) => (s, .storeFeedback id dto)
  | .storeFeedback id dto => stores s (updateCustomerFeedback s id dto) notified
  | .notify tenantId id dto =>
    match checkNotify s.db tenantId id dto, notified with
    | .error e, _ => (s, .answered (.error e))
    | .ok _, .error e => (s, .answered (.error e))
    | .ok _, .ok _ => (s, .storeNotified id)
  | .storeNotified id => stores s (updateLastNotifiedAt s id) (.ok ())
  | .status t =>
    let next := s.execStatus t (s.workshopEnv env)
    (next.1, .status next.2)
  | .tracked token answer => (s, .tracked token answer)
  | .answered answer => (s, .answered answer)

abbrev TrackPool := Pool TrackServer TrackTask

abbrev TrackAction := PoolAction TrackRequest TrackEnv

def TrackPool.act : TrackPool → TrackAction → TrackPool :=
  Pool.act TrackRequest.enter TrackTask.exec

/-- Tracking the order answers `expired = true`. -/
def TrackServer.LinkClosed (s : TrackServer) (id : Uuid) : Prop :=
  ∃ a, s.getPublicWorkOrderTrack (some id) = .ok a ∧ a.expired = true

def TrackServer.statusOf (s : TrackServer) (id : Uuid) : Option WorkOrderStatus :=
  (s.db.workOrders.get? id).map WorkOrder.status

def TrackServer.HasCompletionTime (s : TrackServer) (id : Uuid) : Prop :=
  ∃ wo, s.db.workOrders.get? id = some wo ∧ wo.status = .completed ∧ wo.completedAt.isSome

/-- The part writes an order whose link is closed, and thereby the instant from which its
days are counted, under an unchanged status. -/
def TrackTask.Reopens (s : TrackServer) (env : TrackEnv) (id : Uuid) (t : TrackTask) : Prop :=
  s.LinkClosed id ∧
    match t with
    | .storeFeedback w _ | .storeNotified w => w = id ∧ ¬ s.HasCompletionTime id
    | .status ⟨.writeStatus u, _⟩ => u.id = id ∧ s.statusOf id = some u.target
    | .status ⟨.issueInvoice tenantId dto, _⟩ =>
      let clock := ((s.pass env.elapsed).workshopEnv env).clock
      dto.workOrderId = some id ∧ s.statusOf id = some .completed ∧
        (createWithCariMovement clock s.db (dto.entity clock tenantId)
          dto.offsetAdvanceAmount).isOk
    | _ => False

def TrackPool.KeepsClosed (p : TrackPool) (a : TrackAction) : Prop :=
  ∀ k env t id, a = .step k env → p.threads.get? k = some t → ¬ t.Reopens p.shared env id

section Step

variable {s : TrackServer} {env : TrackEnv} {w : Uuid} {wo : WorkOrder}

/-- The part writes the row of the order `w`. -/
def TrackTask.Writes (s : TrackServer) (env : TrackEnv) (w : Uuid) : TrackTask → Prop
  | .storeFeedback id _ | .storeNotified id => id = w
  | .status t => t.1.updatedOrder s.db ((s.pass env.elapsed).workshopEnv env) = some w
  | _ => False

/-- What a part of a request makes of the order `w`. -/
inductive TrackChange (s : TrackServer) (env : TrackEnv) (w : Uuid) (wo : WorkOrder)
    (s' : TrackServer) (wo' : WorkOrder) : TrackTask → Prop where
  | kept {t : TrackTask} (unwritten : ¬ t.Writes s env w) (status : wo'.status = wo.status)
      (completedAt : wo'.completedAt = wo.completedAt)
      (updatedAt : (s'.columns w).updatedAt = (s.columns w).updatedAt) :
      TrackChange s env w wo s' wo' t
  | rated {dto : SubmitCustomerFeedbackDto} (row : wo' = wo)
      (updatedAt : (s'.columns w).updatedAt = s'.now) :
      TrackChange s env w wo s' wo' (.storeFeedback w dto)
  | notified (row : wo' = wo) (updatedAt : (s'.columns w).updatedAt = s'.now) :
      TrackChange s env w wo s' wo' (.storeNotified w)
  | statusWritten {u : StatusUpdate} {h : (WorkshopTask.writeStatus u).isStatusUpdate = true}
      (about : u.id = w) (status : wo'.status = u.target)
      (completedAt : wo'.completedAt = if u.target = .completed then some s'.now else none)
      (updatedAt : (s'.columns w).updatedAt = s'.now) :
      TrackChange s env w wo s' wo' (.status ⟨.writeStatus u, h⟩)
  | issued {tenantId : Uuid} {dto : CreateInvoiceInput}
      {h : (WorkshopTask.issueInvoice tenantId dto).isStatusUpdate = true}
      (linked : dto.workOrderId = some w)
      (accepted : (createWithCariMovement ((s.pass env.elapsed).workshopEnv env).clock s.db
        (dto.entity ((s.pass env.elapsed).workshopEnv env).clock tenantId)
        dto.offsetAdvanceAmount).isOk)
      (status : wo'.status = .completed) (completedAt : wo'.completedAt = some s'.now)
      (updatedAt : (s'.columns w).updatedAt = s'.now) :
      TrackChange s env w wo s' wo' (.status ⟨.issueInvoice tenantId dto, h⟩)

namespace TrackServer

@[simp] theorem updateOrder_db (s : TrackServer) (id : Uuid) (f : OrderColumns → OrderColumns) :
    (s.updateOrder id f).db = s.db := rfl

@[simp] theorem updateOrder_now (s : TrackServer) (id : Uuid) (f : OrderColumns → OrderColumns) :
    (s.updateOrder id f).now = s.now := rfl

theorem updatedAt_updateOrder (s : TrackServer) (id w : Uuid) (f : OrderColumns → OrderColumns) :
    ((s.updateOrder id f).columns w).updatedAt =
      if w = id then s.now else (s.columns w).updatedAt := by
  simp only [updateOrder, Function.update_apply]
  split_ifs <;> rfl

theorem linkClosed_iff : s.LinkClosed w ↔ ∃ wo, s.db.workOrders.get? w = some wo ∧
    (s.isCompletedExpired w wo = true ∨ s.isCancelledExpired w wo = true) := by
  unfold LinkClosed getPublicWorkOrderTrack
  constructor
  · rintro ⟨a, ha, hexpired⟩
    obtain ⟨⟨id, wo⟩, hfound, ha⟩ := Outcome.bind_eq_ok.mp ha
    rw [findPublicTrack, Outcome.required_eq_ok, Option.bind_some, Option.map_eq_some_iff] at hfound
    obtain ⟨wo', hget, hpair⟩ := hfound
    cases hpair
    dsimp only at ha
    refine ⟨wo, hget, ?_⟩
    by_contra hopen
    rw [if_neg hopen, Outcome.pure_eq_ok] at ha
    rw [← ha] at hexpired
    cases hexpired
  · rintro ⟨wo, hget, hover⟩
    refine ⟨.closed (s.closedTrack wo), Outcome.bind_eq_ok.mpr ⟨(w, wo), ?_, ?_⟩, rfl⟩
    · rw [findPublicTrack, Outcome.required_eq_ok, Option.bind_some, hget]
      rfl
    · dsimp only
      rw [if_pos hover]
      rfl

end TrackServer

namespace TrackTask

theorem stores_now {r : Outcome TrackServer} {answer : Outcome Unit}
    (h : ∀ s', r = .ok s' → s'.now = s.now) : (stores s r answer).1.now = s.now := by
  cases hr : r with
  | error e => rfl
  | ok s' => exact h s' hr

theorem updateCustomerFeedback_ok {s' : TrackServer} {id : Uuid} {dto : SubmitCustomerFeedbackDto}
    (h : updateCustomerFeedback s id dto = .ok s') : ∃ f, s' = s.updateOrder id f := by
  obtain ⟨wo, -, h⟩ := Outcome.bind_eq_ok.mp h
  exact ⟨_, (Outcome.pure_eq_ok.mp h).symm⟩

theorem updateLastNotifiedAt_ok {s' : TrackServer} {id : Uuid}
    (h : updateLastNotifiedAt s id = .ok s') : ∃ f, s' = s.updateOrder id f := by
  obtain ⟨wo, -, h⟩ := Outcome.bind_eq_ok.mp h
  exact ⟨_, (Outcome.pure_eq_ok.mp h).symm⟩

theorem exec_now (s : TrackServer) (t : TrackTask) (env : TrackEnv) :
    (t.exec s env).1.now = s.now + env.elapsed := by
  cases t with
  | track token => rfl
  | tracked token answer => rfl
  | feedback token dto =>
    simp only [exec]
    split <;> rfl
  | storeFeedback id dto =>
    apply stores_now
    intro s' h
    obtain ⟨f, rfl⟩ := updateCustomerFeedback_ok h
    rfl
  | notify tenantId id dto =>
    simp only [exec]
    split <;> rfl
  | storeNotified id =>
    apply stores_now
    intro s' h
    obtain ⟨f, rfl⟩ := updateLastNotifiedAt_ok h
    rfl
  | answered answer => rfl
  | status t =>
    simp only [exec, TrackServer.execStatus]
    cases WorkshopTask.updatedOrder _ _ t.1 <;> rfl

theorem stores_change {t : TrackTask} {r : Outcome TrackServer} {answer : Outcome Unit} {id : Uuid}
    (hwo : s.db.workOrders.get? w = some wo) (ht : t.Writes s env w ↔ id = w)
    (hfound : id = w → ∃ s', r = .ok s')
    (h : ∀ s', r = .ok s' → ∃ f, s' = (s.pass env.elapsed).updateOrder id f)
    (hwritten : ∀ s' : TrackServer, id = w → (s'.columns w).updatedAt = s'.now →
      TrackChange s env w wo s' wo t) :
    ∃ wo', (stores (s.pass env.elapsed) r answer).1.db.workOrders.get? w = some wo' ∧
      TrackChange s env w wo (stores (s.pass env.elapsed) r answer).1 wo' t := by
  cases hr : r with
  | error e =>
    refine ⟨wo, hwo, .kept (fun hwrites => ?_) rfl rfl rfl⟩
    obtain ⟨s', hs'⟩ := hfound (ht.mp hwrites)
    rw [hr] at hs'
    cases hs'
  | ok s' =>
    obtain ⟨f, rfl⟩ := h s' hr
    refine ⟨wo, hwo, ?_⟩
    by_cases hw : id = w
    · apply hwritten _ hw
      rw [stores, TrackServer.updatedAt_updateOrder, if_pos hw.symm]
      rfl
    · apply TrackChange.kept (hw ∘ ht.mp) rfl rfl
      rw [stores, TrackServer.updatedAt_updateOrder, if_neg (Ne.symm hw)]
      rfl

theorem updatedAt_execStatus (s : TrackServer) (t : StatusTask) (env : TrackEnv) (w : Uuid) :
    ((exec s (.status t) env).1.columns w).updatedAt =
      if t.1.updatedOrder s.db ((s.pass env.elapsed).workshopEnv env) = some w then
        (exec s (.status t) env).1.now
      else (s.columns w).updatedAt := by
  rw [exec_now]
  simp only [exec, TrackServer.execStatus]
  have hdb : (s.pass env.elapsed).db = s.db := rfl
  rw [hdb]
  cases WorkshopTask.updatedOrder s.db ((s.pass env.elapsed).workshopEnv env) t.1 with
  | none => rfl
  | some id =>
    simp only [Option.elim_some, TrackServer.updatedAt_updateOrder, Option.some.injEq,
      eq_comm (a := w)]
    rfl

/-- A part of a status update, on the order `w`. -/
theorem execStatus_change (t : StatusTask) (hwo : s.db.workOrders.get? w = some wo) :
    ∃ wo', (exec s (.status t) env).1.db.workOrders.get? w = some wo' ∧
      TrackChange s env w wo (exec s (.status t) env).1 wo' (.status t) := by
  have hnow := exec_now s (.status t) env
  have hupdated := updatedAt_execStatus s t env w
  obtain ⟨t, ht⟩ := t
  obtain ⟨wo', hwo', hpart⟩ :=
    WorkshopTask.exec_statusPart ((s.pass env.elapsed).workshopEnv env) ht hwo
  refine ⟨wo', hwo', ?_⟩
  cases hpart with
  | kept unwritten status completedAt =>
    rw [if_neg unwritten] at hupdated
    exact .kept unwritten status completedAt hupdated
  | statusWritten about written =>
    rw [if_pos written] at hupdated
    refine .statusWritten about rfl ?_ hupdated
    rw [hnow]
    rfl
  | issued linked accepted written =>
    rw [if_pos written] at hupdated
    refine .issued linked accepted rfl ?_ hupdated
    rw [hnow]
    rfl

theorem exec_change (env : TrackEnv) (t : TrackTask) (hwo : s.db.workOrders.get? w = some wo) :
    ∃ wo', (t.exec s env).1.db.workOrders.get? w = some wo' ∧
      TrackChange s env w wo (t.exec s env).1 wo' t := by
  have hrow : (s.pass env.elapsed).db.workOrders.get? w = some wo := hwo
  cases t with
  | storeFeedback id dto =>
    apply stores_change hwo Iff.rfl _ fun s' h => updateCustomerFeedback_ok h
    · rintro s' rfl hupdated
      exact .rated rfl hupdated
    · rintro rfl
      exact ⟨_, Outcome.bind_eq_ok.mpr ⟨wo, Outcome.required_eq_ok.mpr hrow, rfl⟩⟩
  | storeNotified id =>
    apply stores_change hwo Iff.rfl _ fun s' h => updateLastNotifiedAt_ok h
    · rintro s' rfl hupdated
      exact .notified rfl hupdated
    · rintro rfl
      exact ⟨_, Outcome.bind_eq_ok.mpr ⟨wo, Outcome.required_eq_ok.mpr hrow, rfl⟩⟩
  | status t => exact execStatus_change t hwo
  | feedback token dto =>
    refine ⟨wo, ?_, .kept id rfl rfl ?_⟩ <;> simp only [exec] <;> split <;> first | rfl | exact hwo
  | notify tenantId workOrderId dto =>
    refine ⟨wo, ?_, .kept id rfl rfl ?_⟩ <;> simp only [exec] <;> split <;> first | rfl | exact hwo
  | track | tracked | answered => exact ⟨wo, hwo, .kept id rfl rfl rfl⟩

end TrackTask

theorem TrackTask.Reopens.writes {t : TrackTask} (h : t.Reopens s env w) : t.Writes s env w := by
  obtain ⟨hclosed, h⟩ := h
  obtain ⟨wo, hwo, -⟩ := TrackServer.linkClosed_iff.mp hclosed
  cases t with
  | storeFeedback id dto => exact h.1
  | storeNotified id => exact h.1
  | status t =>
    obtain ⟨t, ht⟩ := t
    cases t with
    | writeStatus u =>
      obtain ⟨rfl, -⟩ := h
      simp only [Writes, WorkshopTask.updatedOrder, hwo, Option.isSome_some, if_true]
    | issueInvoice tenantId dto =>
      obtain ⟨hlinked, -, hok⟩ := h
      simp only [Writes, WorkshopTask.updatedOrder]
      rw [if_pos hok, hlinked]
    | _ => exact h.elim
  | _ => exact h.elim

theorem TrackServer.not_linkClosed {s' : TrackServer} {wo' : WorkOrder}
    (hwo : s'.db.workOrders.get? w = some wo') (hupdated : (s'.columns w).updatedAt = s'.now)
    (hcompleted : wo'.status = .completed → wo'.completedAt.getD s'.now = s'.now) :
    ¬ s'.LinkClosed w := by
  rw [TrackServer.linkClosed_iff]
  rintro ⟨wo'', hwo'', hover⟩
  cases Option.some.inj (hwo.symm.trans hwo'')
  simp only [TrackServer.isCompletedExpired, TrackServer.isCancelledExpired, decide_eq_true_eq,
    hupdated] at hover
  rcases hover with ⟨hstatus, hover⟩ | ⟨hstatus, hover⟩
  · rw [hcompleted hstatus, sub_self] at hover
    exact absurd hover (by decide)
  · rw [sub_self] at hover
    exact absurd hover (by decide)

theorem TrackServer.LinkClosed.later {s' : TrackServer} {wo' : WorkOrder} (h : s.LinkClosed w)
    (hwo : s.db.workOrders.get? w = some wo) (hwo' : s'.db.workOrders.get? w = some wo')
    (hnow : s.now ≤ s'.now) (hstatus : wo'.status = wo.status)
    (hcompletedAt : wo'.completedAt = wo.completedAt)
    (hupdatedAt : wo.status = .cancelled ∨ wo.completedAt = none →
      (s'.columns w).updatedAt = (s.columns w).updatedAt) : s'.LinkClosed w := by
  obtain ⟨wo'', hwo'', hover⟩ := TrackServer.linkClosed_iff.mp h
  cases Option.some.inj (hwo.symm.trans hwo'')
  refine TrackServer.linkClosed_iff.mpr ⟨wo', hwo', ?_⟩
  simp only [TrackServer.isCompletedExpired, TrackServer.isCancelledExpired, decide_eq_true_eq,
    hstatus, hcompletedAt] at hover ⊢
  rcases hover with ⟨hcompleted, hover⟩ | ⟨hcancelled, hover⟩
  · refine .inl ⟨hcompleted, ?_⟩
    cases hc : wo.completedAt with
    | some c =>
      rw [hc, Option.getD_some] at hover
      rw [Option.getD_some]
      linarith
    | none =>
      rw [hc, Option.getD_none] at hover
      rw [Option.getD_none, hupdatedAt (.inr hc)]
      linarith
  · refine .inr ⟨hcancelled, ?_⟩
    rw [hupdatedAt (.inl hcancelled)]
    linarith

theorem TrackServer.linkClosed_touched {s' : TrackServer} (hclosed : s.LinkClosed w)
    (hwo : s.db.workOrders.get? w = some wo) (hwo' : s'.db.workOrders.get? w = some wo)
    (hnow : s.now ≤ s'.now) (hupdated : (s'.columns w).updatedAt = s'.now) :
    s'.LinkClosed w ↔ s.HasCompletionTime w := by
  by_cases hhas : s.HasCompletionTime w
  · refine iff_of_true ?_ hhas
    obtain ⟨wo', hget, hcompleted, htime⟩ := hhas
    cases Option.some.inj (hwo.symm.trans hget)
    refine hclosed.later hwo hwo' hnow rfl rfl ?_
    rintro (hcancelled | hnone)
    · rw [hcompleted] at hcancelled
      cases hcancelled
    · rw [hnone] at htime
      cases htime
  · refine iff_of_false (TrackServer.not_linkClosed hwo' hupdated ?_) hhas
    intro hcompleted
    cases hc : wo.completedAt with
    | none => rfl
    | some c => exact absurd ⟨wo, hwo, hcompleted, by rw [hc]; rfl⟩ hhas

theorem TrackTask.exec_linkClosed_iff (t : TrackTask) (hclosed : s.LinkClosed w)
    (hsame : (t.exec s env).1.statusOf w = s.statusOf w) :
    (t.exec s env).1.LinkClosed w ↔ ¬ t.Reopens s env w := by
  obtain ⟨wo, hwo, -⟩ := TrackServer.linkClosed_iff.mp hclosed
  obtain ⟨wo', hwo', hchange⟩ := exec_change env t hwo
  have hnow : s.now ≤ (t.exec s env).1.now := by
    rw [exec_now]
    exact le_add_of_nonneg_right (Int.natCast_nonneg _)
  have hstatusOf : s.statusOf w = some wo.status := by rw [TrackServer.statusOf, hwo]; rfl
  have hstatus : wo'.status = wo.status := by
    rw [hstatusOf, TrackServer.statusOf, hwo'] at hsame
    exact Option.some.inj hsame
  cases hchange with
  | kept unwritten status completedAt updatedAt =>
    refine iff_of_true ?_ fun h => unwritten h.writes
    exact hclosed.later hwo hwo' hnow status completedAt fun _ => updatedAt
  | rated row updatedAt =>
    subst row
    rw [TrackServer.linkClosed_touched hclosed hwo hwo' hnow updatedAt]
    simp [Reopens, hclosed]
  | notified row updatedAt =>
    subst row
    rw [TrackServer.linkClosed_touched hclosed hwo hwo' hnow updatedAt]
    simp [Reopens, hclosed]
  | statusWritten about status completedAt updatedAt =>
    refine iff_of_false (TrackServer.not_linkClosed hwo' updatedAt ?_) (not_not.mpr ?_)
    · intro hcompleted
      rw [completedAt, if_pos (status.symm.trans hcompleted)]
      rfl
    · exact ⟨hclosed, about, by rw [hstatusOf, ← hstatus, status]⟩
  | issued linked accepted status completedAt updatedAt =>
    refine iff_of_false (TrackServer.not_linkClosed hwo' updatedAt ?_) (not_not.mpr ?_)
    · intro _
      rw [completedAt]
      rfl
    · exact ⟨hclosed, linked, by rw [hstatusOf, ← hstatus, status], accepted⟩

theorem TrackTask.Reopens.statusOf {t : TrackTask} (h : t.Reopens s env w) :
    (t.exec s env).1.statusOf w = s.statusOf w := by
  obtain ⟨wo, hwo, -⟩ := TrackServer.linkClosed_iff.mp h.1
  obtain ⟨wo', hwo', hchange⟩ := exec_change env t hwo
  have hstatusOf : s.statusOf w = some wo.status := by rw [TrackServer.statusOf, hwo]; rfl
  rw [hstatusOf, TrackServer.statusOf, hwo', Option.map_some, Option.some.injEq]
  cases hchange with
  | kept unwritten status completedAt updatedAt => exact status
  | rated row updatedAt => rw [row]
  | notified row updatedAt => rw [row]
  | statusWritten about status completedAt updatedAt =>
    have htarget := h.2.2
    rw [hstatusOf] at htarget
    rw [status, Option.some.inj htarget]
  | issued linked accepted status completedAt updatedAt =>
    have hcompleted := h.2.2.1
    rw [hstatusOf] at hcompleted
    rw [status, Option.some.inj hcompleted]

end Step

section Run

theorem TrackPool.linkClosed_act (p : TrackPool) (a : TrackAction) (w : Uuid)
    (hclosed : p.shared.LinkClosed w) (hsame : (p.act a).shared.statusOf w = p.shared.statusOf w) :
    (p.act a).shared.LinkClosed w ↔
      ∀ k env t, a = .step k env → p.threads.get? k = some t → ¬ t.Reopens p.shared env w := by
  cases a with
  | start r =>
    refine iff_of_true hclosed ?_
    rintro k env t h
    cases h
  | step k env =>
    cases hk : p.threads.get? k with
    | none =>
      rw [TrackPool.act, Pool.act_step_none hk]
      refine iff_of_true hclosed ?_
      rintro k' env' t h ht
      cases h
      rw [hk] at ht
      cases ht
    | some t =>
      rw [TrackPool.act, Pool.act_step_some hk] at hsame ⊢
      rw [t.exec_linkClosed_iff hclosed hsame]
      constructor
      · rintro h k' env' t' he ht
        cases he
        cases Option.some.inj (hk.symm.trans ht)
        exact h
      · exact fun h => h k env t rfl hk

/-- A link that has been answered as closed stays closed, while the status of its order is
what it was, precisely in the runs in which no part reopens a closed link. -/
theorem closed_links_stay_closed_iff (p : TrackPool) (actions : List TrackAction) :
    (∀ i : Uuid × WorkOrderStatus,
      WhileHolds TrackPool.act (fun p => p.shared.statusOf i.1 = some i.2)
        (fun p q => p.shared.LinkClosed i.1 → q.shared.LinkClosed i.1) p actions) ↔
    EachStep TrackPool.act TrackPool.KeepsClosed p actions := by
  have start : ∀ (i : Uuid × WorkOrderStatus) (p : TrackPool), True →
      p.shared.statusOf i.1 = some i.2 → p.shared.LinkClosed i.1 → p.shared.LinkClosed i.1 :=
    fun _ _ _ _ h => h
  have trans : ∀ (i : Uuid × WorkOrderStatus) (p q r : TrackPool),
      (p.shared.LinkClosed i.1 → q.shared.LinkClosed i.1) →
      (q.shared.LinkClosed i.1 → r.shared.LinkClosed i.1) →
      p.shared.LinkClosed i.1 → r.shared.LinkClosed i.1 :=
    fun _ _ _ _ hpq hqr h => hqr (hpq h)
  have hold : ∀ (i : Uuid × WorkOrderStatus) (p : TrackPool) (a : TrackAction), True →
      p.KeepsClosed a → p.shared.statusOf i.1 = some i.2 →
      (p.act a).shared.statusOf i.1 = some i.2 →
      p.shared.LinkClosed i.1 → (p.act a).shared.LinkClosed i.1 := by
    intro i p a _ hkeeps hstatus hstatus' hclosed
    refine (p.linkClosed_act a i.1 hclosed (hstatus'.trans hstatus.symm)).mpr ?_
    exact fun k env t he ht => hkeeps k env t i.1 he ht
  have bad : ∀ (p : TrackPool) (a : TrackAction), True → ¬ p.KeepsClosed a →
      ∃ i : Uuid × WorkOrderStatus, p.shared.statusOf i.1 = some i.2 ∧
        (p.act a).shared.statusOf i.1 = some i.2 ∧
        ¬ (p.shared.LinkClosed i.1 → (p.act a).shared.LinkClosed i.1) := by
    intro p a _ hreopened
    simp only [TrackPool.KeepsClosed, not_forall, not_not] at hreopened
    obtain ⟨k, env, t, w, rfl, hk, hreopens⟩ := hreopened
    obtain ⟨wo, hwo, -⟩ := TrackServer.linkClosed_iff.mp hreopens.1
    have hstatus : p.shared.statusOf w = some wo.status := by
      rw [TrackServer.statusOf, hwo]
      rfl
    have hsame : (p.act (.step k env)).shared.statusOf w = p.shared.statusOf w := by
      rw [TrackPool.act, Pool.act_step_some hk]
      exact hreopens.statusOf
    refine ⟨(w, wo.status), hstatus, hsame.trans hstatus, fun hkept => ?_⟩
    have hclosed := (p.linkClosed_act (.step k env) w hreopens.1 hsame).mp (hkept hreopens.1)
    exact hclosed k env t rfl hk hreopens
  exact whileHolds_iff_eachStep start trans (fun _ _ _ _ => trivial) hold bad trivial actions

end Run

section Sample

instance (s : TrackServer) (id : Uuid) : Decidable (s.LinkClosed id) :=
  decidable_of_iff (∃ wo ∈ s.db.workOrders.get? id,
      s.isCompletedExpired id wo = true ∨ s.isCancelledExpired id wo = true)
    TrackServer.linkClosed_iff.symm

def closedOrder (status : WorkOrderStatus) : WorkOrder where
  tenantId := 0
  workOrderNumber := "WO-2026-0001"
  appointmentId := none
  customerId := 0
  vehicleId := 0
  assignedMechanicId := none
  assignedLift := none
  status := status
  initialKm := 0
  fuelLevel := none
  subtotal := 0
  kdvAmount := 0
  grandTotal := 0
  completedAt := if status = .completed then some 0 else none

def afterEightDays (status : WorkOrderStatus) : TrackPool :=
  Pool.idle
    { db := { Db.empty with workOrders := .ofList [closedOrder status] }
      columns := fun _ =>
        { createdAt := 0, updatedAt := 0, lastNotifiedAt := none, customerRating := none
          customerComment := none, customerRatedAt := none }
      now := 8 * TrackServer.oneDay }

def trackEnv : TrackEnv where
  elapsed := 1
  workshop := shopEnv

/-- A rating opens the link of a cancelled order again, and a status update to `COMPLETED`
that of an order that is completed. -/
theorem closed_links_reopened :
    ¬ WhileHolds TrackPool.act (fun p => p.shared.statusOf 0 = some .cancelled)
      (fun p q => p.shared.LinkClosed 0 → q.shared.LinkClosed 0) (afterEightDays .cancelled)
      [.start (.submitCustomerFeedback (some 0) { rating := 5, comment := none }),
        .step 0 trackEnv, .step 0 trackEnv] ∧
    ¬ WhileHolds TrackPool.act (fun p => p.shared.statusOf 0 = some .completed)
      (fun p q => p.shared.LinkClosed 0 → q.shared.LinkClosed 0) (afterEightDays .completed)
      [.start (.updateWorkOrderStatus 0 0 "COMPLETED"), .step 0 trackEnv, .step 0 trackEnv,
        .step 0 trackEnv] := by
  constructor
  · intro h
    have hkept := h.whole (by decide +kernel)
    revert hkept
    decide +kernel
  · intro h
    have hkept := h.whole (by decide +kernel)
    revert hkept
    decide +kernel

end Sample

end WorksAuto
