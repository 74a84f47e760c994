import WorksAuto.Workshop.Step

/-! What one step of the workshop does to work orders and appointments.
`exec_orders` is the counterpart of `exec_effect` for the two tables whose
statuses follow each other. -/

namespace WorksAuto

open Lib

inductive OrderEffect (db : Db) (env : WorkshopEnv) : WorkshopTask → Db → Prop where
  | quiet {t : WorkshopTask} {db' : Db} (orders : db'.workOrders = db.workOrders)
      (appointments : db'.appointments = db.appointments) : OrderEffect db env t db'
  | opened {tenantId : Uuid} {input : CreateWorkOrderInput} {woNumber : String} {db' : Db}
      (h : OrderOpened db (workOrderData tenantId input woNumber) db')
      (accepted : (createWorkOrder env.clock db (workOrderData tenantId input woNumber)).isOk) :
      OrderEffect db env (.storeOrder tenantId input woNumber) db'
  | retotalled {t : WorkshopTask} {w : Uuid} {s k g : ℤ} {db' : Db}
      (orders : db'.workOrders = db.workOrders.modify w (WorkOrder.retotal s k g))
      (appointments : db'.appointments = db.appointments) : OrderEffect db env t db'
  | statusWritten {u : StatusUpdate} {wo : WorkOrder} (found : db.workOrders.get? u.id = some wo) :
      OrderEffect db env (.writeStatus u)
        { db with
          workOrders := db.workOrders.modify u.id
            (WorkOrder.setStatus u.target (completionTime env.clock u.target)) }
  | rolledBack {tenantId id : Uuid} {prev : WorkOrderStatus} {wo : WorkOrder}
      (found : db.workOrders.get? id = some wo) :
      OrderEffect db env (.writeRollback tenantId id prev)
        { db with workOrders := db.workOrders.modify id (WorkOrder.setStatus prev none) }
  | synced {u : StatusUpdate} {appointmentId : Uuid} {status : AppointmentStatus}
      (linked : u.order.appointmentId = some appointmentId)
      (target : appointmentStatusFor u.target = some status) :
      OrderEffect db env (.syncAppointment u)
        (syncAppointmentStatus db u.tenantId appointmentId status)
  | issued {tenantId : Uuid} {dto : CreateInvoiceInput} {db' : Db}
      (h : InvoiceIssued env.clock db (dto.entity env.clock tenantId) dto.offsetAdvanceAmount db')
      (accepted : (createWithCariMovement env.clock db (dto.entity env.clock tenantId)
        dto.offsetAdvanceAmount).isOk) :
      OrderEffect db env (.issueInvoice tenantId dto) db'
  | voided {tenantId id : Uuid} {db' : Db} (h : InvoiceVoided db tenantId id db')
      (accepted : (cancelWithCariReversal db tenantId id).isOk) :
      OrderEffect db env (.voidInvoice tenantId id) db'
  | withdrawn {tenantId id : Uuid} {reason : String}
      (accepted : (cancelAppointmentAndWorkOrder db tenantId id reason).isOk) :
      OrderEffect db env (.storeCancellation tenantId id reason)
        { db with
          appointments := db.appointments.modify id (Appointment.cancel reason)
          workOrders := (db.withdrawnOrder? id).elim db.workOrders fun o =>
            db.workOrders.modify o.1 WorkOrder.cancelWithAppointment }

variable {db db' : Db} {env : WorkshopEnv}

theorem OrderEffect.refl {t : WorkshopTask} : OrderEffect db env t db := .quiet rfl rfl

theorem OrderEdited.orderEffect {t w : Uuid} {ms : List StockMovement}
    {items : Table WorkOrderItem} {task : WorkshopTask} (h : OrderEdited db t w ms items db') :
    OrderEffect db env task db' := by
  obtain ⟨s, k, g, horders⟩ := h.orders
  exact .retotalled horders h.appointments

theorem Db.postAll_orders (db : Db) (ms : List StockMovement) :
    (db.postAll ms).workOrders = db.workOrders ∧ (db.postAll ms).appointments = db.appointments := by
  rw [db.postAll_frame]
  exact ⟨rfl, rfl⟩

namespace WorkshopTask

theorem commits_orders {t : WorkshopTask} {r : Outcome Db} (next : WorkshopTask)
    (h : ∀ db', r = .ok db' → OrderEffect db env t db') :
    OrderEffect db env t (commits db r next).1 := by
  rcases commits_cases db r next with ⟨db', hr, hc⟩ | ⟨e, -, hc⟩
  · rw [hc]
    exact h db' hr
  · rw [hc]
    exact .refl

theorem reads_orders {α : Type} {t : WorkshopTask} (r : Outcome α) (next : α → WorkshopTask) :
    OrderEffect db env t (reads db r next).1 := by
  rw [reads_fst]
  exact .refl

theorem exec_orders (db : Db) (t : WorkshopTask) (env : WorkshopEnv) :
    OrderEffect db env t (t.exec db env).1 := by
  cases t with
  | numberOrder tenantId input =>
    simp only [exec]
    split
    · exact .refl
    · next hnumber =>
      obtain ⟨⟨db₁, k⟩, hnext, h₁⟩ := Outcome.bind_eq_ok.mp hnumber
      cases Outcome.pure_eq_ok.mp h₁
      obtain ⟨seqs, rfl⟩ := nextDocumentNumber_ok hnext
      exact .quiet rfl rfl
  | storeOrder tenantId input woNumber =>
    apply commits_orders
    intro db' h
    obtain ⟨⟨db₁, id⟩, hcreate, rfl⟩ := Outcome.map_eq_ok.mp h
    obtain ⟨hopened⟩ := createWorkOrder_ok hcreate
    exact .opened hopened (by rw [hcreate]; rfl)
  | storeItem tenantId workOrderId dto =>
    apply commits_orders
    intro db' h
    obtain ⟨row, -, hedit⟩ := addItem_ok h
    exact hedit.orderEffect
  | changeItem tenantId workOrderId itemId data =>
    apply commits_orders
    intro db' h
    obtain ⟨it, name, unitPrice, totalPrice, -, -, -, hedit⟩ := updateItem_ok h
    exact hedit.orderEffect
  | deleteItem tenantId workOrderId itemId =>
    apply commits_orders
    intro db' h
    obtain ⟨it, -, hedit⟩ := removeItem_ok h
    exact hedit.orderEffect
  | writeStatus u =>
    apply commits_orders
    intro db' h
    obtain ⟨wo, hwo, rfl⟩ := writeStatus_ok h
    exact .statusWritten hwo
  | readCancelled u =>
    simp only [exec]
    split <;> exact .refl
  | restoreStock u items =>
    apply commits_orders
    intro db' h
    obtain ⟨-, rfl⟩ := restoreCancelledStock_ok h
    have hframe := db.postAll_orders (restoration u.tenantId u.id items)
    exact .quiet hframe.1 hframe.2
  | syncAppointment u =>
    simp only [exec]
    split
    · next hlinked htarget => exact .synced hlinked htarget
    · exact .refl
  | readAutoInvoice u =>
    simp only [exec]
    split_ifs <;> exact .refl
  | readInvoice u =>
    simp only [exec]
    split_ifs <;> exact .refl
  | writeRollback tenantId id prev =>
    apply commits_orders
    intro db' h
    obtain ⟨wo, hwo, rfl⟩ := writeStatus_ok h
    exact .rolledBack hwo
  | issueInvoice tenantId dto =>
    simp only [exec]
    split
    · exact .refl
    · next hissue =>
      obtain ⟨hissued⟩ := createWithCariMovement_ok hissue
      exact .issued hissued (by rw [hissue]; rfl)
  | eInvoice tenantId id details =>
    apply commits_orders
    intro db' h
    obtain ⟨inv, -, h₁⟩ := Outcome.bind_eq_ok.mp h
    obtain rfl := Outcome.pure_eq_ok.mp h₁
    exact .quiet rfl rfl
  | voidInvoice tenantId id =>
    apply commits_orders
    intro db' h
    obtain ⟨hvoided⟩ := cancelWithCariReversal_ok h
    exact .voided hvoided (by rw [h]; rfl)
  | storeCancellation tenantId id reason =>
    apply commits_orders
    intro db' h
    obtain rfl := cancelAppointmentAndWorkOrder_ok h
    exact .withdrawn (by rw [h]; rfl)
  | storeDecrement tenantId productId quantity refId =>
    apply commits_orders
    intro db' h
    obtain ⟨m, -, -, -, rfl⟩ := decrementAtomic_ok h
    exact .quiet rfl rfl
  | storeIncrement tenantId productId quantity refId =>
    apply commits_orders
    intro db' h
    obtain ⟨m, -, -, -, -, rfl⟩ := incrementAtomic_ok h
    exact .quiet rfl rfl
  | saveProduct item movement shelf =>
    apply commits_orders
    intro db' h
    obtain ⟨f, -, -, -, -, -, rfl⟩ := saveProduct_ok h
    exact .quiet rfl rfl
  | storeMovement movement =>
    apply commits_orders
    intro db' h
    obtain rfl := addStockMovement_ok h
    exact .quiet rfl rfl
  | saveCell | finished => exact .refl
  | createOrder | addItem | updateItem | removeItem | updateStatus | confirmOrder | rollback
  | confirmRollback | cancelInvoice | cancelAppointment | decrementStock | incrementStock
  | addMovement | updateProduct | saveRead | checkMovement => exact reads_orders ..

end WorkshopTask

section Orders

/-- What a step makes of the order `w`. -/
inductive OrderChange (db : Db) (env : WorkshopEnv) :
    WorkshopTask → Uuid → WorkOrder → WorkOrder → Prop where
  | kept {t : WorkshopTask} {w : Uuid} {wo : WorkOrder} : OrderChange db env t w wo wo
  | retotalled {t : WorkshopTask} {w : Uuid} {s k g : ℤ} {wo : WorkOrder} :
      OrderChange db env t w wo (wo.retotal s k g)
  | statusWritten {u : StatusUpdate} {wo : WorkOrder} :
      OrderChange db env (.writeStatus u) u.id wo
        (wo.setStatus u.target (completionTime env.clock u.target))
  | rolledBack {tenantId w : Uuid} {prev : WorkOrderStatus} {wo : WorkOrder} :
      OrderChange db env (.writeRollback tenantId w prev) w wo (wo.setStatus prev none)
  | issued {tenantId w : Uuid} {dto : CreateInvoiceInput} {wo : WorkOrder} {db' : Db}
      (h : InvoiceIssued env.clock db (dto.entity env.clock tenantId) dto.offsetAdvanceAmount db')
      (accepted : (createWithCariMovement env.clock db (dto.entity env.clock tenantId)
        dto.offsetAdvanceAmount).isOk) (linked : dto.workOrderId = some w) :
      OrderChange db env (.issueInvoice tenantId dto) w wo (wo.complete env.clock)
  | voided {tenantId id w : Uuid} {wo : WorkOrder} {db' : Db}
      (h : InvoiceVoided db tenantId id db') (accepted : (cancelWithCariReversal db tenantId id).isOk)
      (linked : h.existing.workOrderId = some w) :
      OrderChange db env (.voidInvoice tenantId id) w wo wo.reopen
  | withdrawn {tenantId id w : Uuid} {reason : String} {wo : WorkOrder}
      (accepted : (cancelAppointmentAndWorkOrder db tenantId id reason).isOk)
      (found : db.withdrawnOrder? id = some (w, wo)) :
      OrderChange db env (.storeCancellation tenantId id reason) w wo wo.cancelWithAppointment

theorem Db.withdrawnOrder?_eq_some {db : Db} {id w : Uuid} {wo : WorkOrder}
    (h : db.withdrawnOrder? id = some (w, wo)) :
    db.workOrders.get? w = some wo ∧ wo.appointmentId = some id ∧ wo.status ≠ .cancelled := by
  obtain ⟨hfound, hlive⟩ := Option.filter_eq_some_iff.mp h
  obtain ⟨hget, hlinked⟩ := Table.find?_some hfound
  exact ⟨hget, by simpa using hlinked, by simpa using hlive⟩

theorem OrderEffect.order {t : WorkshopTask} (h : OrderEffect db env t db') {w : Uuid}
    {wo : WorkOrder} (hwo : db.workOrders.get? w = some wo) :
    ∃ wo', db'.workOrders.get? w = some wo' ∧ OrderChange db env t w wo wo' := by
  have hmodify : ∀ {k : Uuid} {f : WorkOrder → WorkOrder},
      db'.workOrders = db.workOrders.modify k f → (w = k → OrderChange db env t w wo (f wo)) →
        ∃ wo', db'.workOrders.get? w = some wo' ∧ OrderChange db env t w wo wo' := by
    intro k f hrows hf
    by_cases hk : w = k
    · refine ⟨f wo, ?_, hf hk⟩
      rw [hrows, ← hk, Table.get?_modify_self hwo]
    · refine ⟨wo, ?_, .kept⟩
      rw [hrows, Table.get?_modify_ne _ hk, hwo]
  have hlinked : ∀ {α : Type} {o : Option α} {k : α → Uuid} {f : WorkOrder → WorkOrder},
      db'.workOrders = o.elim db.workOrders (fun x => db.workOrders.modify (k x) f) →
        (∀ x, o = some x → w = k x → OrderChange db env t w wo (f wo)) →
          ∃ wo', db'.workOrders.get? w = some wo' ∧ OrderChange db env t w wo wo' := by
    intro α o k f hrows hf
    cases o with
    | none => exact ⟨wo, hrows ▸ hwo, .kept⟩
    | some x => exact hmodify hrows (hf x rfl)
  cases h with
  | quiet hrows _ => exact ⟨wo, hrows ▸ hwo, .kept⟩
  | opened h _ => exact ⟨wo, h.orders ▸ Table.get?_insert_of_some hwo _, .kept⟩
  | retotalled hrows _ => exact hmodify hrows fun _ => .retotalled
  | statusWritten _ =>
    apply hmodify rfl
    rintro rfl
    exact .statusWritten
  | rolledBack _ =>
    apply hmodify rfl
    rintro rfl
    exact .rolledBack
  | synced _ _ => exact ⟨wo, hwo, .kept⟩
  | issued h accepted =>
    apply hlinked h.workOrders
    rintro k hk rfl
    exact .issued h accepted hk
  | voided h accepted =>
    apply hlinked h.workOrders
    rintro k hk rfl
    exact .voided h accepted hk
  | withdrawn accepted =>
    apply hlinked rfl
    rintro ⟨k, order⟩ hfound rfl
    obtain ⟨hget, -⟩ := Db.withdrawnOrder?_eq_some hfound
    cases Option.some.inj (hwo.symm.trans hget)
    exact .withdrawn accepted hfound

theorem OrderEffect.origin {t : WorkshopTask} (h : OrderEffect db env t db') {w : Uuid}
    {wo' : WorkOrder} (hwo : db'.workOrders.get? w = some wo') :
    (∃ wo, db.workOrders.get? w = some wo ∧ OrderChange db env t w wo wo') ∨
      ∃ tenantId input woNumber, ∃ h : OrderOpened db (workOrderData tenantId input woNumber) db',
        t = .storeOrder tenantId input woNumber ∧
        (createWorkOrder env.clock db (workOrderData tenantId input woNumber)).isOk ∧
        w = db.workOrders.next ∧ wo' = h.order := by
  cases hold : db.workOrders.get? w with
  | some wo =>
    obtain ⟨wo'', hwo'', hchange⟩ := h.order hold
    cases Option.some.inj (hwo.symm.trans hwo'')
    exact .inl ⟨wo, rfl, hchange⟩
  | none =>
    right
    have hmodify : ∀ {k : Uuid} {f : WorkOrder → WorkOrder},
        db'.workOrders = db.workOrders.modify k f → False := by
      intro k f hrows
      rw [hrows, Table.get?_modify, hold] at hwo
      cases hwo
    have hlinked : ∀ {α : Type} {o : Option α} {k : α → Uuid} {f : WorkOrder → WorkOrder},
        db'.workOrders = o.elim db.workOrders (fun x => db.workOrders.modify (k x) f) → False := by
      intro α o k f hrows
      cases o with
      | none => exact absurd (hold.symm.trans (hrows ▸ hwo)) (by simp)
      | some x => exact hmodify hrows
    cases h with
    | quiet hrows _ => rw [hrows, hold] at hwo; cases hwo
    | retotalled hrows _ => exact (hmodify hrows).elim
    | statusWritten _ => exact (hmodify rfl).elim
    | rolledBack _ => exact (hmodify rfl).elim
    | synced _ _ => exact absurd (hold.symm.trans hwo) (by simp)
    | @opened tenantId input woNumber db' h accepted =>
      rw [h.orders, Table.get?_insert] at hwo
      split_ifs at hwo with hw
      · cases hwo
        exact ⟨tenantId, input, woNumber, h, rfl, accepted, hw, rfl⟩
      · rw [hold] at hwo
        cases hwo
    | issued h _ => exact (hlinked h.workOrders).elim
    | voided h _ => exact (hlinked h.workOrders).elim
    | withdrawn _ => exact (hlinked rfl).elim

theorem OrderChange.same {t : WorkshopTask} {w : Uuid} {wo wo' : WorkOrder}
    (h : OrderChange db env t w wo wo') :
    wo'.tenantId = wo.tenantId ∧ wo'.vehicleId = wo.vehicleId ∧
      wo'.appointmentId = wo.appointmentId := by
  cases h <;> exact ⟨rfl, rfl, rfl⟩

end Orders

section Appointments

/-- Only the status and the reason of an appointment change with an order. -/
def Appointment.SameBooking (a b : Appointment) : Prop :=
  b = { a with status := b.status, cancellationReason := b.cancellationReason }

theorem OrderEffect.rebooked {t : WorkshopTask} (h : OrderEffect db env t db') (k : Uuid) :
    ∃ g : Appointment → Appointment, (∀ a : Appointment, a.SameBooking (g a)) ∧
      db'.appointments.get? k = (db.appointments.get? k).map g := by
  have hsame : db'.appointments = db.appointments →
      ∃ g : Appointment → Appointment, (∀ a : Appointment, a.SameBooking (g a)) ∧
        db'.appointments.get? k = (db.appointments.get? k).map g := by
    intro happ
    refine ⟨id, fun a => rfl, ?_⟩
    rw [happ, Option.map_id_fun, id]
  have hmodify : ∀ (c : Uuid → Appointment → Bool) (f : Appointment → Appointment),
      db'.appointments = db.appointments.modifyIf c f → (∀ a : Appointment, a.SameBooking (f a)) →
        ∃ g : Appointment → Appointment, (∀ a : Appointment, a.SameBooking (g a)) ∧
          db'.appointments.get? k = (db.appointments.get? k).map g := by
    intro c f happ hf
    refine ⟨fun a => if c k a then f a else a, fun a => ?_, ?_⟩
    · beta_reduce
      split_ifs
      · exact hf a
      · exact rfl
    · rw [happ, Table.get?_modifyIf]
  cases h with
  | quiet _ happ | retotalled _ happ => exact hsame happ
  | statusWritten _ | rolledBack _ => exact hsame rfl
  | issued h _ => exact hsame h.appointments
  | voided h _ => exact hsame h.appointments
  | @synced u id status _ _ =>
    exact hmodify (fun i a => i = id ∧ a.tenantId = u.tenantId) (setAppointmentStatus status) rfl
      fun a => rfl
  | @withdrawn tenantId id reason _ =>
    exact hmodify (fun i _ => i == id) (Appointment.cancel reason) rfl fun a => rfl
  | opened h _ =>
    have happ := h.appointments
    rw [Db.admitted] at happ
    generalize (workOrderData _ _ _).appointmentId = linked at happ
    cases linked with
    | none => exact hsame happ
    | some id =>
      exact hmodify (fun i _ => i == id) (setAppointmentStatus .inService) happ fun a => rfl

theorem OrderEffect.booking {t : WorkshopTask} (h : OrderEffect db env t db') {k : Uuid}
    {b : Appointment} (hb : db'.appointments.get? k = some b) :
    ∃ a, db.appointments.get? k = some a ∧ a.SameBooking b := by
  obtain ⟨g, hg, hget⟩ := h.rebooked k
  obtain ⟨a, ha, rfl⟩ := Option.map_eq_some_iff.mp (hget.symm.trans hb)
  exact ⟨a, ha, hg a⟩

end Appointments

end WorksAuto
