import WorksAuto.Workshop.Effects

/-! One step of the workshop.
`exec_effect` says once what a step of any request can do to the stock, the
orders, their items and the invoices; the properties of the workshop are proved
from its cases. -/

namespace WorksAuto

open Lib

structure Db.SameShop (db db' : Db) : Prop where
  products : db'.products = db.products
  stockMovements : db'.stockMovements = db.stockMovements
  workOrderItems : db'.workOrderItems = db.workOrderItems
  workOrders : db'.workOrders = db.workOrders
  invoices : db'.invoices = db.invoices

theorem Db.SameShop.refl (db : Db) : db.SameShop db := ⟨rfl, rfl, rfl, rfl, rfl⟩

inductive WorkshopEffect (db : Db) (env : WorkshopEnv) : WorkshopTask → Db → Prop where
  | quiet {t : WorkshopTask} {db' : Db} (h : db.SameShop db') : WorkshopEffect db env t db'
  | opened {tenantId : Uuid} {input : CreateWorkOrderInput} {woNumber : String} {db' : Db}
      (h : OrderOpened db (workOrderData tenantId input woNumber) db') :
      WorkshopEffect db env (.storeOrder tenantId input woNumber) db'
  | added {tenantId workOrderId : Uuid} {dto : AddWorkOrderItemDto} {row : WorkOrderItem}
      {db' : Db} (stored : StoredAs workOrderId dto.item row)
      (h : OrderEdited db tenantId workOrderId (dto.item.consumption tenantId workOrderId)
        (db.workOrderItems.insert row) db') :
      WorkshopEffect db env (.storeItem tenantId workOrderId dto) db'
  | changed {tenantId workOrderId itemId : Uuid} {data : WorkOrderItemChanges}
      {it : WorkOrderItem} {name : String} {unitPrice quantity totalPrice : ℤ} {db' : Db}
      (found : db.workOrderItem? workOrderId itemId = some it)
      (quantity_eq : quantity = data.quantity.getD it.quantity)
      (positive : ∀ q ∈ data.quantity, 0 < q) (fits : -2 ^ 31 ≤ quantity ∧ quantity < 2 ^ 31)
      (h : OrderEdited db tenantId workOrderId
        (it.adjustment tenantId workOrderId (quantity - it.quantity))
        (db.workOrderItems.modify itemId
          (WorkOrderItem.revise name unitPrice quantity totalPrice)) db') :
      WorkshopEffect db env (.changeItem tenantId workOrderId itemId data) db'
  | removed {tenantId workOrderId itemId : Uuid} {it : WorkOrderItem} {db' : Db}
      (found : db.workOrderItem? workOrderId itemId = some it)
      (h : OrderEdited db tenantId workOrderId (it.returning tenantId workOrderId)
        (db.workOrderItems.erase itemId) db') :
      WorkshopEffect db env (.deleteItem tenantId workOrderId itemId) db'
  | statusWritten {u : StatusUpdate} {wo : WorkOrder} (found : db.workOrders.get? u.id = some wo) :
      WorkshopEffect db env (.writeStatus u)
        { db with
          workOrders := db.workOrders.modify u.id
            (WorkOrder.setStatus u.target (completionTime env.clock u.target)) }
  | rolledBack {tenantId id : Uuid} {prev : WorkOrderStatus} {wo : WorkOrder}
      (found : db.workOrders.get? id = some wo) :
      WorkshopEffect db env (.writeRollback tenantId id prev)
        { db with workOrders := db.workOrders.modify id (WorkOrder.setStatus prev none) }
  | restored {u : StatusUpdate} {items : List (Uuid × WorkOrderItem)}
      (covered : db.Covers (restoration u.tenantId u.id items)) :
      WorkshopEffect db env (.restoreStock u items)
        (db.postAll (restoration u.tenantId u.id items))
  | issued {tenantId : Uuid} {dto : CreateInvoiceInput} {db' : Db}
      (h : InvoiceIssued env.clock db (dto.entity env.clock tenantId) dto.offsetAdvanceAmount db') :
      WorkshopEffect db env (.issueInvoice tenantId dto) db'
  | detailed {tenantId id : Uuid} {details : EInvoiceDetails} :
      WorkshopEffect db env (.eInvoice tenantId id details)
        { db with invoices := db.invoices.modify id details.apply }
  | voided {tenantId id : Uuid} {db' : Db} (h : InvoiceVoided db tenantId id db') :
      WorkshopEffect db env (.voidInvoice tenantId id) db'
  | withdrawn {tenantId id : Uuid} {reason : String} :
      WorkshopEffect db env (.storeCancellation tenantId id reason)
        { db with
          appointments := db.appointments.modify id (Appointment.cancel reason)
          workOrders := (db.withdrawnOrder? id).elim db.workOrders fun o =>
            db.workOrders.modify o.1 WorkOrder.cancelWithAppointment }
  | decremented {tenantId productId : Uuid} {quantity : ℤ} {refId : String} {m : StockMovement}
      (about : m.productId = productId) (taken : m.movementType = .outWorkOrder)
      (covered : db.Covers [m]) :
      WorkshopEffect db env (.storeDecrement tenantId productId quantity refId) (db.post m)
  | incremented {tenantId productId : Uuid} {quantity : ℤ} {refId : String} {m : StockMovement}
      (about : m.productId = productId) (returned : m.movementType = .return)
      (amount : m.quantity = quantity) (covered : db.Covers [m]) :
      WorkshopEffect db env (.storeIncrement tenantId productId quantity refId) (db.post m)
  | saved {item : StockItemEntity} {movement : Option StockMovement} {shelf : ResolvedShelf}
      {f : Product → Product} (known : db.hasProduct item.id)
      (stock : ∀ p, (f p).stockQuantity = item.stockQuantity)
      (tenant : ∀ p, (f p).tenantId = p.tenantId)
      (fits : -2 ^ 31 ≤ item.stockQuantity ∧ item.stockQuantity < 2 ^ 31) :
      WorkshopEffect db env (.saveProduct item movement shelf)
        { db with products := db.products.modify item.id f }
  | recorded {m : StockMovement} :
      WorkshopEffect db env (.storeMovement m)
        { db with stockMovements := db.stockMovements.insert m }

namespace WorkshopTask

theorem reads_fst {α : Type} (db : Db) (r : Outcome α) (next : α → WorkshopTask) :
    (reads db r next).1 = db := by
  cases r <;> rfl

theorem reads_snd {α : Type} (db : Db) (r : Outcome α) (next : α → WorkshopTask) :
    (∃ a, r = .ok a ∧ (reads db r next).2 = next a) ∨
      ∃ e, (reads db r next).2 = .finished (.error e) := by
  cases r with
  | error e => exact .inr ⟨e, rfl⟩
  | ok a => exact .inl ⟨a, rfl, rfl⟩

theorem commits_cases (db : Db) (r : Outcome Db) (next : WorkshopTask) :
    (∃ db', r = .ok db' ∧ commits db r next = (db', next)) ∨
      ∃ e, r = .error e ∧ commits db r next = (db, .finished (.error e)) := by
  cases r with
  | error e => exact .inr ⟨e, rfl, rfl⟩
  | ok db' => exact .inl ⟨db', rfl, rfl⟩

theorem commits_effect {db : Db} {env : WorkshopEnv} {t : WorkshopTask} {r : Outcome Db}
    (next : WorkshopTask) (h : ∀ db', r = .ok db' → WorkshopEffect db env t db') :
    WorkshopEffect db env t (commits db r next).1 := by
  rcases commits_cases db r next with ⟨db', hr, hc⟩ | ⟨e, -, hc⟩
  · rw [hc]
    exact h db' hr
  · rw [hc]
    exact .quiet (.refl db)

theorem reads_effect {α : Type} {db : Db} {env : WorkshopEnv} {t : WorkshopTask} (r : Outcome α)
    (next : α → WorkshopTask) : WorkshopEffect db env t (reads db r next).1 := by
  rw [reads_fst]
  exact .quiet (.refl db)

end WorkshopTask

section Inventory

theorem decrementAtomic_ok {db db' : Db} {t p : Uuid} {q : ℤ} {refId : String}
    (h : decrementAtomic db t p q refId = .ok db') :
    ∃ m : StockMovement, m.productId = p ∧ m.movementType = .outWorkOrder ∧ db.Covers [m] ∧
      db' = db.post m := by
  obtain ⟨⟨db₁, n⟩, hdec, h₁⟩ := Outcome.bind_eq_ok.mp h
  obtain ⟨u, hn, h₂⟩ := Outcome.bind_eq_ok.mp h₁
  rw [addStockMovement_ok h₂]
  rcases decrementStock_ok hdec with ⟨rfl, -⟩ | ⟨row, -, hrow, hq, hfits, rfl⟩
  · simp at hn
  · obtain ⟨hget, -⟩ := Db.product?_eq_some.mp hrow
    let m : StockMovement :=
      { tenantId := t, productId := p, movementType := .outWorkOrder, quantity := q,
        referenceId := some refId }
    have hknown : db.hasProduct p := by simp [Db.hasProduct, hget]
    have hstock : db.stockOf p = row.stockQuantity := by simp [Db.stockOf, hget]
    have happly : m.apply (db.stockOf p) < 2 ^ 31 := hstock ▸ hfits
    exact ⟨m, rfl, rfl, ⟨hknown, fun _ => hstock ▸ hq, happly, trivial⟩,
      Db.setStock_post (m := m) hget⟩

theorem incrementAtomic_ok {db db' : Db} {t p : Uuid} {q : ℤ} {refId : String}
    (h : incrementAtomic db t p q refId = .ok db') :
    ∃ m : StockMovement, m.productId = p ∧ m.movementType = .return ∧ m.quantity = q ∧
      db.Covers [m] ∧ db' = db.post m := by
  obtain ⟨existing, -, h₁⟩ := Outcome.bind_eq_ok.mp h
  obtain ⟨db₁, hinc, h₂⟩ := Outcome.bind_eq_ok.mp h₁
  rw [addStockMovement_ok h₂]
  obtain ⟨row, hget, hfits, rfl⟩ := incrementStock_ok hinc
  let m : StockMovement :=
    { tenantId := t, productId := p, movementType := .return, quantity := q,
      referenceId := some refId }
  have hknown : db.hasProduct p := by simp [Db.hasProduct, hget]
  have hstock : db.stockOf p = row.stockQuantity := by simp [Db.stockOf, hget]
  have happly : m.apply (db.stockOf p) < 2 ^ 31 := hstock ▸ hfits
  exact ⟨m, rfl, rfl, rfl, ⟨hknown, (fun hout => by cases hout), happly, trivial⟩,
    Db.setStock_post (m := m) hget⟩

theorem saveProduct_ok {db db' : Db} {item : StockItemEntity} {shelf : ResolvedShelf}
    (h : saveProduct db item shelf = .ok db') :
    ∃ f : Product → Product, db.hasProduct item.id ∧
      (∀ p, (f p).stockQuantity = item.stockQuantity) ∧ (∀ p, (f p).tenantId = p.tenantId) ∧
      (∀ p, (f p).shelfCellId = item.shelfCellId.getD p.shelfCellId) ∧
      (-2 ^ 31 ≤ item.stockQuantity ∧ item.stockQuantity < 2 ^ 31) ∧
      db' = { db with products := db.products.modify item.id f } := by
  obtain ⟨p, hp, h₁⟩ := Outcome.bind_eq_ok.mp h
  obtain ⟨u, -, h₂⟩ := Outcome.bind_eq_ok.mp h₁
  obtain ⟨v, -, h₃⟩ := Outcome.bind_eq_ok.mp h₂
  obtain ⟨stockQuantity, hstock, h₄⟩ := Outcome.bind_eq_ok.mp h₃
  obtain ⟨minStockLevel, -, h₅⟩ := Outcome.bind_eq_ok.mp h₄
  obtain ⟨purchasePrice, -, h₆⟩ := Outcome.bind_eq_ok.mp h₅
  obtain ⟨salePrice, -, h₇⟩ := Outcome.bind_eq_ok.mp h₆
  obtain ⟨kdvRate, -, h₈⟩ := Outcome.bind_eq_ok.mp h₇
  obtain ⟨rfl, hfits⟩ := int4_eq_ok.mp hstock
  have hknown : db.hasProduct item.id := by
    rw [Db.hasProduct, Outcome.required_eq_ok.mp hp]
    rfl
  refine ⟨_, hknown, ?_, ?_, ?_, hfits, (Outcome.pure_eq_ok.mp h₈).symm⟩ <;> intro p <;> rfl

end Inventory

theorem nextNumber_sameShop {clock : Clock} {db db' : Db} {t : Uuid} {n : String}
    (h : getNextWorkOrderNumber clock db t = .ok (db', n)) : db.SameShop db' := by
  obtain ⟨⟨db₁, k⟩, hnext, h₁⟩ := Outcome.bind_eq_ok.mp h
  cases Outcome.pure_eq_ok.mp h₁
  obtain ⟨seqs, rfl⟩ := nextDocumentNumber_ok hnext
  exact ⟨rfl, rfl, rfl, rfl, rfl⟩

theorem WorkshopTask.exec_effect (db : Db) (t : WorkshopTask) (env : WorkshopEnv) :
    WorkshopEffect db env t (t.exec db env).1 := by
  cases t with
  | createOrder tenantId input => exact reads_effect ..
  | numberOrder tenantId input =>
    simp only [exec]
    split
    · exact .quiet (.refl db)
    · next hnumber => exact .quiet (nextNumber_sameShop hnumber)
  | storeOrder tenantId input woNumber =>
    apply commits_effect
    intro db' h
    obtain ⟨⟨db₁, id⟩, hcreate, rfl⟩ := Outcome.map_eq_ok.mp h
    obtain ⟨hopened⟩ := createWorkOrder_ok hcreate
    exact .opened hopened
  | addItem tenantId workOrderId dto => exact reads_effect ..
  | storeItem tenantId workOrderId dto =>
    apply commits_effect
    intro db' h
    obtain ⟨row, hrow, hedit⟩ := addItem_ok h
    exact .added hrow hedit
  | updateItem tenantId workOrderId itemId data userRole => exact reads_effect ..
  | changeItem tenantId workOrderId itemId data =>
    apply commits_effect
    intro db' h
    obtain ⟨it, name, unitPrice, totalPrice, hit, hpos, hfits, hedit⟩ := updateItem_ok h
    exact .changed hit rfl hpos hfits hedit
  | removeItem tenantId workOrderId itemId => exact reads_effect ..
  | deleteItem tenantId workOrderId itemId =>
    apply commits_effect
    intro db' h
    obtain ⟨it, hit, hedit⟩ := removeItem_ok h
    exact .removed hit hedit
  | updateStatus tenantId id newStatus => exact reads_effect ..
  | confirmOrder u => exact reads_effect ..
  | writeStatus u =>
    apply commits_effect
    intro db' h
    obtain ⟨wo, hwo, rfl⟩ := writeStatus_ok h
    exact .statusWritten hwo
  | readCancelled u =>
    simp only [exec]
    split <;> exact .quiet (.refl db)
  | restoreStock u items =>
    apply commits_effect
    intro db' h
    obtain ⟨hcov, rfl⟩ := restoreCancelledStock_ok h
    exact .restored hcov
  | syncAppointment u =>
    simp only [exec]
    split
    · exact .quiet ⟨rfl, rfl, rfl, rfl, rfl⟩
    · exact .quiet (.refl db)
  | readAutoInvoice u =>
    simp only [exec]
    split_ifs <;> exact .quiet (.refl db)
  | readInvoice u =>
    simp only [exec]
    split_ifs <;> exact .quiet (.refl db)
  | rollback tenantId id => exact reads_effect ..
  | confirmRollback tenantId id prev => exact reads_effect ..
  | writeRollback tenantId id prev =>
    apply commits_effect
    intro db' h
    obtain ⟨wo, hwo, rfl⟩ := writeStatus_ok h
    exact .rolledBack hwo
  | issueInvoice tenantId dto =>
    simp only [exec]
    split
    · exact .quiet (.refl db)
    · next hissue =>
      obtain ⟨hissued⟩ := createWithCariMovement_ok hissue
      exact .issued hissued
  | eInvoice tenantId id details =>
    apply commits_effect
    intro db' h
    obtain ⟨inv, -, h₁⟩ := Outcome.bind_eq_ok.mp h
    obtain rfl := Outcome.pure_eq_ok.mp h₁
    exact .detailed
  | cancelInvoice tenantId id reason => exact reads_effect ..
  | voidInvoice tenantId id =>
    apply commits_effect
    intro db' h
    obtain ⟨hvoided⟩ := cancelWithCariReversal_ok h
    exact .voided hvoided
  | cancelAppointment tenantId id reason => exact reads_effect ..
  | storeCancellation tenantId id reason =>
    apply commits_effect
    intro db' h
    obtain rfl := cancelAppointmentAndWorkOrder_ok h
    exact .withdrawn
  | decrementStock tenantId productId quantity refId => exact reads_effect ..
  | storeDecrement tenantId productId quantity refId =>
    apply commits_effect
    intro db' h
    obtain ⟨m, hm, htype, hcov, rfl⟩ := decrementAtomic_ok h
    exact .decremented hm htype hcov
  | incrementStock tenantId productId quantity refId => exact reads_effect ..
  | storeIncrement tenantId productId quantity refId =>
    apply commits_effect
    intro db' h
    obtain ⟨m, hm, htype, hq, hcov, rfl⟩ := incrementAtomic_ok h
    exact .incremented hm htype hq hcov
  | addMovement tenantId productId input => exact reads_effect ..
  | updateProduct tenantId id dto => exact reads_effect ..
  | saveRead item movement => exact reads_effect ..
  | saveCell item movement existing => exact .quiet (.refl db)
  | saveProduct item movement shelf =>
    apply commits_effect
    intro db' h
    obtain ⟨f, hknown, hf, htenant, -, hfits, rfl⟩ := saveProduct_ok h
    exact .saved hknown hf htenant hfits
  | checkMovement movement => exact reads_effect ..
  | storeMovement movement =>
    apply commits_effect
    intro db' h
    obtain rfl := addStockMovement_ok h
    exact .recorded
  | finished answer => exact .quiet (.refl db)

inductive UseCase where
  | create | add | edit | status | rollback | issue | void | withdraw | inventory | finished
  deriving DecidableEq, Repr

namespace WorkshopTask

def useCase : WorkshopTask → UseCase
  | .createOrder .. | .numberOrder .. | .storeOrder .. => .create
  | .addItem .. | .storeItem .. => .add
  | .updateItem .. | .changeItem .. | .removeItem .. | .deleteItem .. => .edit
  | .updateStatus .. | .confirmOrder _ | .writeStatus _ | .readCancelled _ | .restoreStock ..
  | .syncAppointment _ | .readAutoInvoice _ | .readInvoice _ => .status
  | .rollback .. | .confirmRollback .. | .writeRollback .. => .rollback
  | .issueInvoice .. | .eInvoice .. => .issue
  | .cancelInvoice .. | .voidInvoice .. => .void
  | .cancelAppointment .. | .storeCancellation .. => .withdraw
  | .decrementStock .. | .storeDecrement .. | .incrementStock .. | .storeIncrement ..
  | .addMovement .. | .updateProduct .. | .saveRead .. | .saveCell .. | .saveProduct ..
  | .checkMovement _ | .storeMovement _ => .inventory
  | .finished _ => .finished

def UseCaseAfter (u next : UseCase) : Prop :=
  next = u ∨ next = .finished ∨ u = .status ∧ next = .issue

theorem useCase_afterSync (u : StatusUpdate) : UseCaseAfter .status (afterSync u).useCase := by
  unfold afterSync
  split_ifs
  · exact .inl rfl
  · exact .inr (.inl rfl)

theorem useCase_afterRestore (u : StatusUpdate) :
    UseCaseAfter .status (afterRestore u).useCase := by
  unfold afterRestore
  split_ifs
  · exact .inl rfl
  · exact useCase_afterSync u

theorem useCase_afterWrite (u : StatusUpdate) : UseCaseAfter .status (afterWrite u).useCase := by
  unfold afterWrite
  split_ifs
  · exact .inl rfl
  · exact useCase_afterRestore u

theorem useCase_reads {α : Type} {db : Db} {r : Outcome α} {next : α → WorkshopTask} {u : UseCase}
    (h : ∀ a, (next a).useCase = u) : UseCaseAfter u (reads db r next).2.useCase := by
  cases r with
  | error e => exact .inr (.inl rfl)
  | ok a => exact .inl (h a)

theorem useCase_commits {db : Db} {r : Outcome Db} {next : WorkshopTask} {u : UseCase}
    (h : UseCaseAfter u next.useCase) : UseCaseAfter u (commits db r next).2.useCase := by
  cases r with
  | error e => exact .inr (.inl rfl)
  | ok db' => exact h

theorem useCase_exec (db : Db) (t : WorkshopTask) (env : WorkshopEnv) :
    UseCaseAfter t.useCase (t.exec db env).2.useCase := by
  cases t with
  | numberOrder tenantId input =>
    simp only [exec]
    split
    · exact .inr (.inl rfl)
    · exact .inl rfl
  | writeStatus u => exact useCase_commits (useCase_afterWrite u)
  | readCancelled u =>
    simp only [exec]
    split
    · exact useCase_afterRestore u
    · exact .inl rfl
  | restoreStock u items => exact useCase_commits (useCase_afterRestore u)
  | syncAppointment u =>
    simp only [exec]
    split <;> exact useCase_afterSync u
  | readAutoInvoice u =>
    simp only [exec]
    split_ifs
    · exact .inl rfl
    · exact .inr (.inl rfl)
  | readInvoice u =>
    simp only [exec]
    split_ifs
    · exact .inr (.inr ⟨rfl, rfl⟩)
    · exact .inr (.inl rfl)
  | issueInvoice tenantId dto =>
    simp only [exec, afterIssue]
    split
    · exact .inr (.inl rfl)
    · split
      · exact .inl rfl
      · exact .inr (.inl rfl)
  | saveCell | finished => exact .inl rfl
  | saveProduct item movement shelf =>
    apply useCase_commits
    cases movement with
    | none => exact .inr (.inl rfl)
    | some m => exact .inl rfl
  | storeOrder | storeItem | changeItem | deleteItem | writeRollback | eInvoice | voidInvoice
  | storeCancellation | storeDecrement | storeIncrement | storeMovement =>
    exact useCase_commits (.inr (.inl rfl))
  | createOrder | addItem | updateItem | removeItem | updateStatus | confirmOrder | rollback
  | confirmRollback | cancelInvoice | cancelAppointment | decrementStock | incrementStock
  | addMovement | updateProduct | saveRead | checkMovement =>
    exact useCase_reads fun _ => rfl

theorem useCase_exec_ne {db : Db} {t : WorkshopTask} {env : WorkshopEnv} {u : UseCase}
    (h : t.useCase ≠ u) (hf : u ≠ .finished) (hi : u ≠ .issue) :
    (t.exec db env).2.useCase ≠ u := by
  intro he
  rcases useCase_exec db t env with hnext | hnext | ⟨-, hnext⟩
  · exact h (hnext ▸ he)
  · exact hf (he ▸ hnext)
  · exact hi (he ▸ hnext)

end WorkshopTask

end WorksAuto
