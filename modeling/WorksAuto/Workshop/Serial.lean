import WorksAuto.Workshop.Step

/-! Requests served one after another.
`serve` runs a request to its end before the next one begins, so what a request
has read still holds when it writes. `Grounded` records what that is for each
part of a request, and every part keeps it. -/

namespace WorksAuto

open Lib

namespace WorkshopTask

def remaining : WorkshopTask → ℕ
  | .createOrder .. => 3
  | .numberOrder .. => 2
  | .storeOrder .. => 1
  | .addItem .. => 2
  | .storeItem .. => 1
  | .updateItem .. => 2
  | .changeItem .. => 1
  | .removeItem .. => 2
  | .deleteItem .. => 1
  | .updateStatus .. => 10
  | .confirmOrder _ => 9
  | .writeStatus _ => 8
  | .readCancelled _ => 7
  | .restoreStock .. => 6
  | .syncAppointment _ => 5
  | .readAutoInvoice _ => 4
  | .readInvoice _ => 3
  | .rollback .. => 3
  | .confirmRollback .. => 2
  | .writeRollback .. => 1
  | .issueInvoice .. => 2
  | .eInvoice .. => 1
  | .cancelInvoice .. => 2
  | .voidInvoice .. => 1
  | .cancelAppointment .. => 2
  | .storeCancellation .. => 1
  | .decrementStock .. => 2
  | .storeDecrement .. => 1
  | .incrementStock .. => 2
  | .storeIncrement .. => 1
  | .addMovement .. => 6
  | .updateProduct .. => 6
  | .saveRead .. => 5
  | .saveCell .. => 4
  | .saveProduct .. => 3
  | .checkMovement _ => 2
  | .storeMovement _ => 1
  | .finished _ => 0

/-- Run the remaining parts. The surroundings may differ from part to part. -/
def complete (env : ℕ → WorkshopEnv) : ℕ → Db → WorkshopTask → Db × WorkshopTask
  | 0, db, t => (db, t)
  | n + 1, db, t =>
    let next := t.exec db (env t.remaining)
    complete env n next.1 next.2

theorem remaining_afterSync (u : StatusUpdate) : (afterSync u).remaining ≤ 4 := by
  unfold afterSync
  split_ifs <;> simp [remaining]

theorem remaining_afterRestore (u : StatusUpdate) : (afterRestore u).remaining ≤ 5 := by
  have hsync := remaining_afterSync u
  unfold afterRestore
  split_ifs
  · simp [remaining]
  · omega

theorem remaining_afterWrite (u : StatusUpdate) : (afterWrite u).remaining ≤ 7 := by
  have hrestore := remaining_afterRestore u
  unfold afterWrite
  split_ifs
  · simp [remaining]
  · omega

theorem remaining_afterIssue (env : WorkshopEnv) (tenantId id : Uuid) (dto : CreateInvoiceInput) :
    (afterIssue env tenantId dto id).remaining ≤ 1 := by
  unfold afterIssue
  split <;> simp [remaining]

theorem remaining_reads {α : Type} {db : Db} {r : Outcome α} {next : α → WorkshopTask} {n : ℕ}
    (h : ∀ a, (next a).remaining ≤ n) : (reads db r next).2.remaining ≤ n := by
  cases r with
  | error e => exact Nat.zero_le n
  | ok a => exact h a

theorem remaining_commits {db : Db} {r : Outcome Db} {next : WorkshopTask} {n : ℕ}
    (h : next.remaining ≤ n) : (commits db r next).2.remaining ≤ n := by
  cases r with
  | error e => exact Nat.zero_le n
  | ok db' => exact h

theorem remaining_exec (db : Db) (t : WorkshopTask) (env : WorkshopEnv) :
    (t.exec db env).2.remaining ≤ t.remaining - 1 := by
  cases t with
  | numberOrder tenantId input =>
    simp only [exec]
    split <;> simp [remaining]
  | writeStatus u => exact remaining_commits (remaining_afterWrite u)
  | readCancelled u =>
    have hrestore := remaining_afterRestore u
    simp only [exec]
    split
    · exact hrestore.trans (Nat.le_succ 5)
    · exact Nat.le_refl _
  | restoreStock u items => exact remaining_commits (remaining_afterRestore u)
  | syncAppointment u =>
    simp only [exec]
    split <;> exact remaining_afterSync u
  | readAutoInvoice u =>
    simp only [exec]
    split_ifs <;> simp [remaining]
  | readInvoice u =>
    simp only [exec]
    split_ifs <;> simp [remaining]
  | issueInvoice tenantId dto =>
    simp only [exec]
    split
    · exact Nat.zero_le _
    · exact remaining_afterIssue env tenantId _ dto
  | saveCell item movement existing => exact Nat.le_refl _
  | saveProduct item movement shelf =>
    apply remaining_commits
    cases movement <;> simp [remaining]
  | finished answer => exact Nat.le_refl _
  | storeOrder | storeItem | changeItem | deleteItem | writeRollback | eInvoice | voidInvoice
  | storeCancellation | storeDecrement | storeIncrement | storeMovement =>
    exact remaining_commits (Nat.le_refl _)
  | createOrder | addItem | updateItem | removeItem | updateStatus | confirmOrder | rollback
  | confirmRollback | cancelInvoice | cancelAppointment | decrementStock | incrementStock
  | addMovement | updateProduct | saveRead | checkMovement =>
    exact remaining_reads fun _ => Nat.le_refl _

theorem complete_finished (env : ℕ → WorkshopEnv) (db : Db) {n : ℕ} {t : WorkshopTask}
    (h : t.remaining ≤ n) : ∃ answer, (complete env n db t).2 = .finished answer := by
  induction n generalizing db t with
  | zero =>
    cases t with
    | finished answer => exact ⟨answer, rfl⟩
    | _ => simp [remaining] at h
  | succ n ih =>
    apply ih
    have hnext := remaining_exec db t (env t.remaining)
    omega

theorem complete_of_le (env : ℕ → WorkshopEnv) (db : Db) {t : WorkshopTask} {n : ℕ}
    (h : t.remaining ≤ n) : complete env n db t = complete env t.remaining db t := by
  have stable : ∀ (n : ℕ) (db : Db) (t : WorkshopTask), t.remaining ≤ n →
      complete env (n + 1) db t = complete env n db t := by
    intro n
    induction n with
    | zero =>
      intro db t ht
      cases t with
      | finished answer => rfl
      | _ => simp [remaining] at ht
    | succ n ih =>
      intro db t ht
      have hnext := remaining_exec db t (env t.remaining)
      exact ih _ _ (by omega)
  induction n, h using Nat.le_induction with
  | base => rfl
  | succ n hn ih => rw [stable n db t hn, ih]

def finish (env : ℕ → WorkshopEnv) (db : Db) (t : WorkshopTask) : Db × WorkshopTask :=
  complete env t.remaining db t

theorem finish_finished (env : ℕ → WorkshopEnv) (db : Db) (answer : Outcome Unit) :
    finish env db (.finished answer) = (db, .finished answer) := rfl

theorem finish_exec (env : ℕ → WorkshopEnv) (db : Db) (t : WorkshopTask) :
    finish env db t =
      finish env (t.exec db (env t.remaining)).1 (t.exec db (env t.remaining)).2 := by
  have hnext := remaining_exec db t (env t.remaining)
  have hstep : complete env (t.remaining + 1) db t =
      complete env t.remaining (t.exec db (env t.remaining)).1 (t.exec db (env t.remaining)).2 :=
    rfl
  rw [finish, ← complete_of_le env db (Nat.le_succ t.remaining), hstep,
    complete_of_le env _ (by omega), finish]

theorem complete_invariant {I : Db → WorkshopTask → Prop} {env : ℕ → WorkshopEnv}
    (keep : ∀ db t, I db t →
      I (t.exec db (env t.remaining)).1 (t.exec db (env t.remaining)).2) (n : ℕ) {db : Db}
    {t : WorkshopTask} (h : I db t) : I (complete env n db t).1 (complete env n db t).2 := by
  induction n generalizing db t with
  | zero => exact h
  | succ n ih => exact ih (keep db t h)

end WorkshopTask

/-- A request with the surroundings it meets, by the number of its remaining parts. -/
structure Served where
  request : WorkshopRequest
  env : ℕ → WorkshopEnv

def serve (db : Db) (l : Served) : Db :=
  (l.request.enter.complete l.env l.request.enter.remaining db).1

def answer (db : Db) (l : Served) : Outcome Unit :=
  match (l.request.enter.finish l.env db).2 with
  | .finished answer => answer
  | _ => .ok ()

/-- An invariant of the parts, established by the request and kept by each part,
holds of the database when the request has been served. -/
theorem serve_invariant {I : Db → WorkshopTask → Prop} {db : Db} {l : Served}
    (enter : I db l.request.enter)
    (keep : ∀ db t, I db t →
      I (t.exec db (l.env t.remaining)).1 (t.exec db (l.env t.remaining)).2) :
    ∃ answer, I (serve db l) (.finished answer) := by
  obtain ⟨answer, ha⟩ :=
    WorkshopTask.complete_finished l.env db (Nat.le_refl l.request.enter.remaining)
  have hI := WorkshopTask.complete_invariant keep l.request.enter.remaining enter
  rw [ha] at hI
  exact ⟨answer, hI⟩

section Grounded

def Db.OpenOrder (db : Db) (tenantId workOrderId : Uuid) : Prop :=
  ∃ wo, db.workOrder? tenantId workOrderId = some wo ∧ wo.status.isClosed = false

/-- The order of a status update, when nothing has changed since it was read. -/
def StatusUpdate.Current (db : Db) (u : StatusUpdate) : Prop :=
  db.workOrder? u.tenantId u.id = some u.order ∧ u.order.status.canTransitionTo u.target = true

def StatusUpdate.Cancelled (db : Db) (u : StatusUpdate) : Prop :=
  u.target = .cancelled ∧
    ∃ wo, db.workOrder? u.tenantId u.id = some wo ∧ wo.status = .cancelled

def WorkshopTask.Grounded (db : Db) : WorkshopTask → Prop
  | .storeItem tenantId workOrderId _ => db.OpenOrder tenantId workOrderId
  | .changeItem tenantId workOrderId _ _ => db.OpenOrder tenantId workOrderId
  | .deleteItem tenantId workOrderId _ => db.OpenOrder tenantId workOrderId
  | .confirmOrder u => u.Current db
  | .writeStatus u => u.Current db
  | .readCancelled u => u.Cancelled db
  | .restoreStock u items => u.Cancelled db ∧ items = db.itemsOf u.id
  | .confirmRollback tenantId id prev =>
    ∃ wo, db.workOrder? tenantId id = some wo ∧ wo.status.getPreviousStatus = .ok prev
  | .writeRollback tenantId id prev =>
    ∃ wo, db.workOrder? tenantId id = some wo ∧ wo.status.getPreviousStatus = .ok prev
  | _ => True

theorem editableOrder_ok {db : Db} {t w : Uuid} {message : String} {wo : WorkOrder}
    (h : editableOrder db t w message = .ok wo) : db.OpenOrder t w := by
  obtain ⟨row, hrow, h₁⟩ := Outcome.bind_eq_ok.mp h
  obtain ⟨u, hopen, -⟩ := Outcome.bind_eq_ok.mp h₁
  exact ⟨row, Outcome.required_eq_ok.mp hrow, Outcome.reject_eq_ok.mp hopen⟩

theorem checkUpdateItem_ok {db : Db} {t w k : Uuid} {data : WorkOrderItemChanges}
    {role : Option UserRole} {it : WorkOrderItem}
    (h : checkUpdateItem db t w k data role = .ok it) : db.OpenOrder t w := by
  obtain ⟨u, -, h₁⟩ := Outcome.bind_eq_ok.mp h
  obtain ⟨wo, hwo, -⟩ := Outcome.bind_eq_ok.mp h₁
  exact editableOrder_ok hwo

theorem checkRemoveItem_ok {db : Db} {t w k : Uuid} {it : WorkOrderItem}
    (h : checkRemoveItem db t w k = .ok it) : db.OpenOrder t w := by
  obtain ⟨wo, hwo, -⟩ := Outcome.bind_eq_ok.mp h
  exact editableOrder_ok hwo

theorem checkTransition_ok {db : Db} {t id : Uuid} {status : String} {target : WorkOrderStatus}
    {order : WorkOrder} (h : checkTransition db t id status = .ok (target, order)) :
    StatusUpdate.Current db { tenantId := t, id, target, order } := by
  obtain ⟨s, -, h₁⟩ := Outcome.bind_eq_ok.mp h
  obtain ⟨wo, hwo, h₂⟩ := Outcome.bind_eq_ok.mp h₁
  obtain ⟨u, hcan, h₃⟩ := Outcome.bind_eq_ok.mp h₂
  cases Outcome.pure_eq_ok.mp h₃
  exact ⟨Outcome.required_eq_ok.mp hwo, by simpa using hcan⟩

theorem rollbackTarget_ok {db : Db} {t id : Uuid} {prev : WorkOrderStatus}
    (h : rollbackTarget db t id = .ok prev) :
    ∃ wo, db.workOrder? t id = some wo ∧ wo.status.getPreviousStatus = .ok prev := by
  obtain ⟨wo, hwo, h₁⟩ := Outcome.bind_eq_ok.mp h
  exact ⟨wo, Outcome.required_eq_ok.mp hwo, Outcome.asBadRequest_eq_ok.mp h₁⟩

theorem StatusUpdate.Current.cancelled {db : Db} {u : StatusUpdate} (h : u.Current db)
    (ht : u.target = .cancelled) (completedAt : Option Instant) :
    u.Cancelled { db with
      workOrders := db.workOrders.modify u.id (WorkOrder.setStatus u.target completedAt) } := by
  obtain ⟨hget, htenant⟩ := Db.workOrder?_eq_some.mp h.1
  refine ⟨ht, u.order.setStatus u.target completedAt, ?_, ht⟩
  exact Db.workOrder?_eq_some.mpr ⟨Table.get?_modify_self hget _, htenant⟩

namespace WorkshopTask

theorem grounded_afterSync (db : Db) (u : StatusUpdate) : (afterSync u).Grounded db := by
  unfold afterSync
  split_ifs <;> trivial

theorem grounded_afterRestore (db : Db) (u : StatusUpdate) : (afterRestore u).Grounded db := by
  unfold afterRestore
  split_ifs
  · trivial
  · exact grounded_afterSync db u

theorem grounded_reads {α : Type} {db : Db} {r : Outcome α} {next : α → WorkshopTask}
    (h : ∀ a, r = .ok a → (next a).Grounded db) :
    (reads db r next).2.Grounded (reads db r next).1 := by
  cases r with
  | error e => trivial
  | ok a => exact h a rfl

theorem grounded_commits {db : Db} {r : Outcome Db} {next : WorkshopTask}
    (h : ∀ db', r = .ok db' → next.Grounded db') :
    (commits db r next).2.Grounded (commits db r next).1 := by
  cases r with
  | error e => trivial
  | ok db' => exact h db' rfl

theorem Grounded.exec {db : Db} {t : WorkshopTask} (h : t.Grounded db) (env : WorkshopEnv) :
    (t.exec db env).2.Grounded (t.exec db env).1 := by
  cases t with
  | numberOrder tenantId input =>
    simp only [WorkshopTask.exec]
    split <;> trivial
  | addItem tenantId workOrderId dto =>
    exact grounded_reads fun wo hwo => editableOrder_ok hwo
  | updateItem tenantId workOrderId itemId data userRole =>
    exact grounded_reads fun it hit => checkUpdateItem_ok hit
  | removeItem tenantId workOrderId itemId =>
    exact grounded_reads fun it hit => checkRemoveItem_ok hit
  | updateStatus tenantId id newStatus =>
    exact grounded_reads fun r hr => checkTransition_ok hr
  | confirmOrder u => exact grounded_reads fun _ _ => h
  | writeStatus u =>
    apply grounded_commits
    intro db' hwrite
    obtain ⟨wo, -, rfl⟩ := writeStatus_ok hwrite
    unfold afterWrite
    split_ifs with hcancel
    · exact h.cancelled hcancel.1 _
    · exact grounded_afterRestore _ u
  | readCancelled u =>
    simp only [WorkshopTask.exec]
    split
    · exact grounded_afterRestore db u
    · exact ⟨h, rfl⟩
  | restoreStock u items => exact grounded_commits fun db' _ => grounded_afterRestore db' u
  | syncAppointment u =>
    simp only [WorkshopTask.exec]
    split <;> exact grounded_afterSync _ u
  | readAutoInvoice u =>
    simp only [WorkshopTask.exec]
    split_ifs <;> trivial
  | readInvoice u =>
    simp only [WorkshopTask.exec]
    split_ifs <;> trivial
  | rollback tenantId id => exact grounded_reads fun prev hprev => rollbackTarget_ok hprev
  | confirmRollback tenantId id prev => exact grounded_reads fun _ _ => h
  | issueInvoice tenantId dto =>
    simp only [WorkshopTask.exec]
    split
    · trivial
    · unfold afterIssue
      split <;> trivial
  | saveProduct item movement shelf =>
    apply grounded_commits
    intro db' _
    cases movement <;> trivial
  | saveCell | finished => trivial
  | storeOrder | storeItem | changeItem | deleteItem | writeRollback | eInvoice | voidInvoice
  | storeCancellation | storeDecrement | storeIncrement | storeMovement =>
    exact grounded_commits fun _ _ => trivial
  | createOrder | cancelInvoice | cancelAppointment | decrementStock | incrementStock
  | addMovement | updateProduct | saveRead | checkMovement =>
    exact grounded_reads fun _ _ => trivial

end WorkshopTask

theorem WorkshopRequest.grounded_enter (r : WorkshopRequest) (db : Db) : r.enter.Grounded db := by
  cases r <;> trivial

end Grounded

section Serve

theorem serve_rollback {db : Db} {l : Served} {t id : Uuid} {wo : WorkOrder}
    (hl : l.request = .rollbackWorkOrder t id) (hwo : db.workOrder? t id = some wo)
    (hstatus : wo.status = .completed) :
    serve db l =
      { db with workOrders := db.workOrders.modify id (WorkOrder.setStatus .inProgress none) } := by
  have htarget : rollbackTarget db t id = .ok .inProgress := by
    refine Outcome.bind_eq_ok.mpr ⟨wo, Outcome.required_eq_ok.mpr hwo, ?_⟩
    rw [hstatus]
    rfl
  have hexisting : existingOrder db t id = .ok wo := Outcome.required_eq_ok.mpr hwo
  obtain ⟨hget, -⟩ := Db.workOrder?_eq_some.mp hwo
  have hwrite := writeStatus_found hget .inProgress none
  simp only [serve, hl, WorkshopRequest.enter, WorkshopTask.remaining, WorkshopTask.complete,
    WorkshopTask.exec, WorkshopTask.reads, htarget, hexisting, WorkshopTask.commits, hwrite]

theorem serve_createInvoice {db db' : Db} {l : Served} {tenantId : Uuid}
    {dto : CreateInvoiceInput} {r : CreateInvoiceTransactionResult}
    (hl : l.request = .createInvoice tenantId dto)
    (h : createWithCariMovement (l.env 2).clock db (dto.entity (l.env 2).clock tenantId)
      dto.offsetAdvanceAmount = .ok (db', r)) :
    (serve db l).workOrders = db'.workOrders ∧ (serve db l).appointments = db'.appointments := by
  have hserve : serve db l =
      ((WorkshopTask.afterIssue (l.env 2) tenantId dto r.invoiceId).complete l.env 1 db').1 := by
    simp only [serve, hl, WorkshopRequest.enter, WorkshopTask.remaining, WorkshopTask.complete,
      WorkshopTask.exec, h]
  rw [hserve]
  unfold WorkshopTask.afterIssue
  split
  · next details _ =>
    simp only [WorkshopTask.complete, WorkshopTask.exec]
    rcases WorkshopTask.commits_cases db' (updateEInvoiceDetails db' tenantId r.invoiceId details)
      (.finished (.ok ())) with ⟨db'', hd, hc⟩ | ⟨e, -, hc⟩
    · obtain ⟨inv, -, hinv⟩ := Outcome.bind_eq_ok.mp hd
      obtain rfl := Outcome.pure_eq_ok.mp hinv
      rw [hc]
      exact ⟨rfl, rfl⟩
    · rw [hc]
      exact ⟨rfl, rfl⟩
  · exact ⟨rfl, rfl⟩

theorem serve_cancelInvoice {db db' : Db} {l : Served} {tenantId id : Uuid} {reason : String}
    (hl : l.request = .cancelInvoice tenantId id reason)
    (hcheck : checkCancelInvoice (l.env 2).clock db tenantId id reason
      (l.env 2).eInvoiceCancellation = .ok ())
    (h : cancelWithCariReversal db tenantId id = .ok db') : serve db l = db' := by
  simp only [serve, hl, WorkshopRequest.enter, WorkshopTask.remaining, WorkshopTask.complete,
    WorkshopTask.exec, WorkshopTask.reads, hcheck, WorkshopTask.commits, h]

end Serve

section Sample

/-! A tenant with one customer, one vehicle, one appointment and ten brake pads,
for the concrete runs below. -/

def shopCustomer : Customer where
  tenantId := 0
  firstName := "Mehmet"
  lastName := "Kaya"
  companyTitle := none
  phone := "5550000001"
  email := none
  address := none
  creditLimit := 0
  deletedAt := none

def brakePads : Product where
  tenantId := 0
  name := "Fren Balatası"
  oemCode := "FB-1"
  barcode := none
  category := "BRAKE"
  brand := "Bosch"
  stockQuantity := 10
  minStockLevel := 2
  shelfLocation := "A-12"
  purchasePrice := 5000
  salePrice := 10000
  kdvRate := 2000
  deletedAt := none
  shelfId := none
  shelfCellId := none
  aisle := none
  rack := none
  tier := none
  bin := none

def shopAppointment : Appointment where
  tenantId := 0
  customerId := 0
  vehicleId := 0
  serviceId := none
  assignedMechanicId := none
  assignedLift := some "Lift 1"
  slotDate := 0
  slotStartTime := 36000000
  slotEndTime := 39600000
  status := .confirmed
  customerNotes := none
  cancellationReason := none

def shopDb : Db :=
  { Db.empty with
    tenants := .ofList
      [{ slug := "servis", title := "Servis", isActive := true, autoInvoiceOnComplete := false }]
    customers := .ofList [shopCustomer]
    vehicles := .ofList
      [{ tenantId := 0, customerId := 0, plate := "34ABC123", currentKm := 0, deletedAt := none }]
    appointments := .ofList [shopAppointment]
    products := .ofList [brakePads] }

theorem shopDb_stock (p : Uuid) : shopDb.stockOf p = if p = 0 then 10 else 0 := by
  rcases p with _ | p
  · rfl
  · have hnone : shopDb.products.get? (p + 1) = none := by
      cases hget : shopDb.products.get? (p + 1) with
      | none => rfl
      | some row =>
        have hlt : p + 1 < 1 := Table.get?_lt hget
        omega
    rw [Db.stockOf, hnone, if_neg (Nat.succ_ne_zero p)]
    rfl

def shopEnv : WorkshopEnv where
  clock := { now := 0, year := 2026 }
  eInvoice := .noProvider
  eInvoiceCancellation := none
  notificationError := none
  toUpperCase := id

def served (request : WorkshopRequest) : Served where
  request := request
  env := fun _ => shopEnv

def padOrder : CreateWorkOrderInput where
  appointmentId := some 0
  customerId := 0
  vehicleId := 0
  assignedMechanicId := none
  assignedLift := none
  initialKm := 1000
  fuelLevel := none
  items :=
    [{ itemType := some .part, itemId := some 0, name := "Fren Balatası", quantity := 2,
       unitPrice := 100, kdvRate := none }]

def padInvoice : CreateInvoiceInput where
  workOrderId := some 0
  customerId := 0
  dueDate := 0
  subtotal := some 200
  kdvAmount := some 40
  grandTotal := some 240
  offsetAdvanceAmount := none
  invoiceNumber := none
  gibInvoiceNumber := none
  items := none
  notes := none
  profileId := none

end Sample

end WorksAuto
