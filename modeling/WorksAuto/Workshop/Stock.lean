import WorksAuto.Workshop.Replay

/-! No negative stock.
Whatever is taken out of stock is covered by it; what is given back is the quantity
of an item, or a quantity that was checked. The items that are put on an order one
by one are checked by their DTO, and so are changes to them; the items of a new
order are not checked by anything. -/

namespace WorksAuto

open Lib

section Bodies

/-! What the validation of the request bodies admits. -/

structure AddWorkOrderItemDto.Valid (dto : AddWorkOrderItemDto) : Prop where
  name : dto.name ≠ ""
  quantity : 1 ≤ dto.quantity
  unitPrice : 0 ≤ dto.unitPrice

/-- The body of an update, `UpdateWorkOrderItemDto`. -/
structure WorkOrderItemChanges.Valid (data : WorkOrderItemChanges) : Prop where
  unitPrice : ∀ x ∈ data.unitPrice, 0 ≤ x
  quantity : ∀ q ∈ data.quantity, 1 ≤ q

structure AddStockMovementInput.Valid (input : AddStockMovementInput) : Prop where
  quantity : 0 ≤ input.quantity

structure UpdateProductDto.Valid (dto : UpdateProductDto) : Prop where
  stockQuantity : ∀ q ∈ dto.stockQuantity, 0 ≤ q
  minStockLevel : ∀ q ∈ dto.minStockLevel, 0 ≤ q
  purchasePrice : ∀ x ∈ dto.purchasePrice, 0 ≤ x
  salePrice : ∀ x ∈ dto.salePrice, 0 ≤ x

def WorkshopRequest.Valid : WorkshopRequest → Prop
  | .addWorkOrderItem _ _ dto => dto.Valid
  | .updateWorkOrderItemQuantity _ _ _ data _ => data.Valid
  | .addStockMovement _ _ input => input.Valid
  | .updateStockItem _ _ dto => dto.Valid
  | _ => True

/-- Concurrent clients whose bodies have passed the validation. -/
def WorkshopPool.actValid :
    WorkshopPool → PoolAction { r : WorkshopRequest // r.Valid } WorkshopEnv → WorkshopPool :=
  Pool.act (fun r => r.1.enter) WorkshopTask.exec

end Bodies

section Values

def WorkOrderItem.Sane (it : WorkOrderItem) : Prop := 1 ≤ it.quantity ∧ 0 ≤ it.unitPrice

def Db.ItemsSane (db : Db) : Prop :=
  ∀ k it, db.workOrderItems.get? k = some it → it.Sane

def Db.StockNonneg (db : Db) : Prop :=
  ∀ k p, db.products.get? k = some p → 0 ≤ p.stockQuantity

def CreateWorkOrderItemInput.Sane (item : CreateWorkOrderItemInput) : Prop :=
  1 ≤ item.quantity ∧ 0 ≤ roundAway (item.unitPrice * 100)

variable {db db' : Db}

theorem Db.stockNonneg_iff : db.StockNonneg ↔ ∀ p, 0 ≤ db.stockOf p := by
  constructor
  · intro h p
    cases hp : db.products.get? p with
    | none => simp [stockOf, hp]
    | some row =>
      have hrow := h p row hp
      simpa [stockOf, hp] using hrow
  · intro h k p hp
    have hstock := h k
    simpa [stockOf, hp] using hstock

theorem StoredAs.sane_iff {w : Uuid} {item : CreateWorkOrderItemInput} {row : WorkOrderItem}
    (h : StoredAs w item.format row) : row.Sane ↔ item.Sane := by
  rw [WorkOrderItem.Sane, h.quantity, h.unitPrice]
  exact Iff.rfl

/-- What `updateItem` writes into an item. -/
theorem updateItem_revised {t w k : Uuid} {data : WorkOrderItemChanges}
    (h : updateItem db t w k data = .ok db') :
    ∃ it name totalPrice, db.workOrderItems.get? k = some it ∧
      db'.workOrderItems = db.workOrderItems.modify k
        (WorkOrderItem.revise name
          (roundAway (data.unitPrice.getD (toNumber it.unitPrice) * 100))
          (data.quantity.getD it.quantity) totalPrice) := by
  obtain ⟨wo, it, name, totalPrice, -, hit, -, -, -, htotals⟩ := updateItem_steps h
  obtain ⟨hget, -⟩ := Db.workOrderItem?_eq_some.mp hit
  obtain ⟨_, _, _, -, rfl⟩ := recalculateTotals_ok htotals
  exact ⟨it, name, totalPrice, hget, rfl⟩

end Values

section Step

variable {db db' : Db} {t : WorkshopTask} {env : WorkshopEnv}

def WorkshopTask.Checked : WorkshopTask → Prop
  | .addItem _ _ dto | .storeItem _ _ dto => dto.Valid
  | .updateItem _ _ _ data _ | .changeItem _ _ _ data => data.Valid
  | .restoreStock _ items => ∀ it ∈ items, it.2.Sane
  | .storeIncrement _ _ quantity _ => 0 < quantity
  | .addMovement _ _ input => input.Valid
  | .updateProduct _ _ dto => dto.Valid
  | .saveRead item _ | .saveCell item _ _ | .saveProduct item _ _ => 0 ≤ item.stockQuantity
  | _ => True

def WorkshopTask.StoresSane (db : Db) (env : WorkshopEnv) : WorkshopTask → Prop
  | .storeOrder tenantId input woNumber =>
    (createWorkOrder env.clock db (workOrderData tenantId input woNumber)).isOk = true →
      ∀ item ∈ input.items, item.Sane
  | _ => True

structure Db.Sane (db : Db) : Prop where
  items : db.ItemsSane
  stock : db.StockNonneg

theorem Db.ItemsSane.congr (h : db.ItemsSane) (hitems : db'.workOrderItems = db.workOrderItems) :
    db'.ItemsSane := by
  rw [ItemsSane, hitems]
  exact h

theorem Db.Sane.parts (h : db.Sane) (k : Uuid) (it : WorkOrderItem) (p : Uuid)
    (hk : db.workOrderItems.get? k = some it) (_ : it.part? = some p) : 0 ≤ it.quantity := by
  have hquantity := (h.items k it hk).1
  omega

theorem WorkshopTask.Checked.givesBack (h : t.Checked) : t.GivesBack := by
  cases t with
  | restoreStock u items =>
    intro it hit p _
    have hquantity := (h it hit).1
    omega
  | storeIncrement tenantId productId quantity refId => exact h
  | _ => trivial

theorem Posted.stockNonneg {ms : List StockMovement} (h : Posted db db' ms)
    (hdb : db.StockNonneg) : db'.StockNonneg := by
  rw [Db.stockNonneg_iff] at hdb ⊢
  intro p
  have hfloor := h.floor p
  have hold := hdb p
  omega

theorem WorkshopEffect.stockNonneg (hdb : db.Sane) (ht : t.Checked)
    (h : WorkshopEffect db env t db') : db'.StockNonneg := by
  by_cases hs : t.Saves
  · cases h with
    | quiet h =>
      rw [Db.StockNonneg, h.products]
      exact hdb.stock
    | @saved item movement shelf f known stock tenant fits =>
      have hitem : 0 ≤ item.stockQuantity := ht
      have hbefore := Db.stockNonneg_iff.mp hdb.stock
      rw [Db.stockNonneg_iff]
      intro p
      rw [stockOf_saved known stock, Function.update_apply]
      split_ifs
      · exact hitem
      · exact hbefore p
    | recorded => exact hdb.stock
    | opened | added | changed | removed | statusWritten | rolledBack | restored | issued
    | detailed | voided | withdrawn | decremented | incremented => exact hs.elim
  · obtain ⟨ms, hms⟩ := h.posted hdb.parts ht.givesBack hs
    exact hms.stockNonneg hdb.stock

def WorkshopTask.WritesItems : WorkshopTask → Prop
  | .storeOrder .. | .storeItem .. | .changeItem .. | .deleteItem .. => True
  | _ => False

theorem WorkshopEffect.items_eq (h : WorkshopEffect db env t db') (ht : ¬ t.WritesItems) :
    db'.workOrderItems = db.workOrderItems := by
  cases h with
  | quiet h => exact h.workOrderItems
  | opened | added | changed | removed => exact absurd trivial ht
  | restored => rw [db.postAll_frame]
  | issued h => exact h.items
  | voided h => exact h.items
  | statusWritten | rolledBack | detailed | withdrawn | decremented | incremented | saved
  | recorded => rfl

theorem WorkOrderItemChanges.Valid.revise {data : WorkOrderItemChanges} {it : WorkOrderItem}
    (h : data.Valid) (hit : it.Sane) (name : String) (totalPrice : ℤ) (row : WorkOrderItem) :
    (row.revise name (roundAway (data.unitPrice.getD (toNumber it.unitPrice) * 100))
      (data.quantity.getD it.quantity) totalPrice).Sane := by
  have hprice : 0 ≤ data.unitPrice.getD (toNumber it.unitPrice) := by
    cases hx : data.unitPrice with
    | some x => exact h.unitPrice x hx
    | none =>
      have hcents : (0 : ℚ) ≤ it.unitPrice := by exact_mod_cast hit.2
      exact div_nonneg hcents (by norm_num)
  refine ⟨?_, roundAway_nonneg (by positivity)⟩
  cases hq : data.quantity with
  | some q => exact h.quantity q hq
  | none => exact hit.1

theorem WorkshopTask.exec_itemsSane (hdb : db.Sane) (ht : t.Checked)
    (hstore : t.StoresSane db env) : (t.exec db env).1.ItemsSane := by
  have heffect := t.exec_effect db env
  cases t with
  | storeOrder tenantId input woNumber =>
    simp only [exec]
    rcases commits_cases db ((createWorkOrder env.clock db
      (workOrderData tenantId input woNumber)).map Prod.fst) (notified env) with
      ⟨db', hok, hc⟩ | ⟨e, -, hc⟩
    · obtain ⟨⟨db₁, id⟩, hcreate, rfl⟩ := Outcome.map_eq_ok.mp hok
      obtain ⟨hopened⟩ := createWorkOrder_ok hcreate
      rw [hc]
      intro k it hk
      simp only [hopened.items_eq] at hk
      rcases Table.get?_foldl_insert hk with hold | hnew
      · exact hdb.items k it hold
      · obtain ⟨item, hitem, hrow⟩ := storedRows_mem hopened.stored it hnew
        obtain ⟨given, hgiven, rfl⟩ := List.mem_map.mp hitem
        exact hrow.sane_iff.mpr (hstore (Outcome.isOk_iff.mpr ⟨_, hcreate⟩) given hgiven)
    · rw [hc]
      exact hdb.items
  | storeItem tenantId workOrderId dto =>
    cases heffect with
    | quiet h => exact hdb.items.congr h.workOrderItems
    | added stored h =>
      intro k it hk
      rw [h.items_eq, Table.get?_insert] at hk
      split_ifs at hk
      · cases hk
        refine ⟨stored.quantity ▸ AddWorkOrderItemDto.Valid.quantity ht, ?_⟩
        rw [stored.unitPrice]
        have hprice : 0 ≤ dto.unitPrice := AddWorkOrderItemDto.Valid.unitPrice ht
        exact roundAway_nonneg (mul_nonneg hprice (by norm_num))
      · exact hdb.items k it hk
  | changeItem tenantId workOrderId itemId data =>
    simp only [exec]
    rcases commits_cases db (WorksAuto.updateItem db tenantId workOrderId itemId data)
      (.finished (.ok ())) with ⟨db', hok, hc⟩ | ⟨e, -, hc⟩
    · obtain ⟨it, name, totalPrice, hit, hitems⟩ := updateItem_revised hok
      rw [hc]
      intro k row hk
      simp only [hitems] at hk
      obtain ⟨old, hold, rfl⟩ := Table.of_get?_modify hk
      split_ifs
      · exact WorkOrderItemChanges.Valid.revise ht (hdb.items itemId it hit) name totalPrice old
      · exact hdb.items k old hold
    · rw [hc]
      exact hdb.items
  | deleteItem tenantId workOrderId itemId =>
    cases heffect with
    | quiet h => exact hdb.items.congr h.workOrderItems
    | removed found h =>
      intro k row hk
      rw [h.items_eq, Table.get?_erase] at hk
      split_ifs at hk
      exact hdb.items k row hk
  | _ => exact hdb.items.congr (heffect.items_eq not_false)

theorem WorkshopTask.exec_not_itemsSane (hstore : ¬ t.StoresSane db env) :
    ¬ (t.exec db env).1.ItemsSane := by
  cases t with
  | storeOrder tenantId input woNumber =>
    simp only [StoresSane, Classical.not_imp, not_forall] at hstore
    obtain ⟨hok, item, hitem, hinsane⟩ := hstore
    obtain ⟨⟨db', id⟩, hcreate⟩ := Outcome.isOk_iff.mp hok
    obtain ⟨hopened⟩ := createWorkOrder_ok hcreate
    have hformat : item.format ∈ (workOrderData tenantId input woNumber).items :=
      List.mem_map.mpr ⟨item, hitem, rfl⟩
    obtain ⟨row, hrow, hstored⟩ := storedRows_of_mem hopened.stored item.format hformat
    have hmap : (createWorkOrder env.clock db (workOrderData tenantId input woNumber)).map
        Prod.fst = .ok db' := Outcome.map_eq_ok.mpr ⟨_, hcreate, rfl⟩
    simp only [exec, hmap, commits]
    intro hafter
    obtain ⟨k, hk⟩ := Table.exists_get?_foldl_insert hrow db.workOrderItems
    rw [← hopened.items_eq] at hk
    exact hinsane (hstored.sane_iff.mp (hafter k row hk))
  | _ => exact absurd trivial hstore

end Step

section Requests

namespace WorkshopTask

variable {db : Db} {env : WorkshopEnv}

theorem checked_afterSync (u : StatusUpdate) : (afterSync u).Checked := by
  unfold afterSync
  split_ifs <;> trivial

theorem checked_afterRestore (u : StatusUpdate) : (afterRestore u).Checked := by
  unfold afterRestore
  split_ifs
  · trivial
  · exact checked_afterSync u

theorem checked_afterWrite (u : StatusUpdate) : (afterWrite u).Checked := by
  unfold afterWrite
  split_ifs
  · trivial
  · exact checked_afterRestore u

theorem checked_reads {α : Type} {r : Outcome α} {next : α → WorkshopTask}
    (h : ∀ a, r = .ok a → (next a).Checked) : (reads db r next).2.Checked := by
  cases r with
  | error e => trivial
  | ok a => exact h a rfl

theorem checked_commits {r : Outcome Db} {next : WorkshopTask} (h : next.Checked) :
    (commits db r next).2.Checked := by
  cases r with
  | error e => trivial
  | ok db' => exact h

theorem Checked.exec {t : WorkshopTask} (hdb : db.Sane) (h : t.Checked) :
    (t.exec db env).2.Checked := by
  have hstock : ∀ p, 0 ≤ db.stockOf p := Db.stockNonneg_iff.mp hdb.stock
  cases t with
  | numberOrder tenantId input =>
    simp only [WorkshopTask.exec]
    split <;> trivial
  | addItem tenantId workOrderId dto => exact checked_reads fun _ _ => h
  | updateItem tenantId workOrderId itemId data userRole => exact checked_reads fun _ _ => h
  | writeStatus u => exact checked_commits (checked_afterWrite u)
  | readCancelled u =>
    simp only [WorkshopTask.exec]
    split
    · exact checked_afterRestore u
    · exact fun it hit => hdb.items it.1 it.2 (Table.mem_filter_iff.mp hit).1
  | restoreStock u items => exact checked_commits (checked_afterRestore u)
  | syncAppointment u =>
    simp only [WorkshopTask.exec]
    split <;> exact checked_afterSync u
  | readAutoInvoice u =>
    simp only [WorkshopTask.exec]
    split_ifs <;> trivial
  | readInvoice u =>
    simp only [WorkshopTask.exec]
    split_ifs <;> trivial
  | issueInvoice tenantId dto =>
    simp only [WorkshopTask.exec, afterIssue]
    split
    · trivial
    · split <;> trivial
  | incrementStock tenantId productId quantity refId =>
    refine checked_reads fun u hu => ?_
    obtain ⟨v, hpos, -⟩ := Outcome.bind_eq_ok.mp hu
    simpa [Checked] using hpos
  | addMovement tenantId productId input =>
    exact checked_reads fun item hitem =>
      (loadForMovement_ok hstock (AddStockMovementInput.Valid.quantity h) hitem).stock
  | updateProduct tenantId id dto =>
    exact checked_reads fun item hitem =>
      (loadForUpdate_ok hstock (UpdateProductDto.Valid.stockQuantity h) hitem).stock
  | saveRead item movement => exact checked_reads fun _ _ => h
  | saveCell item movement existing => exact h
  | saveProduct item movement shelf => exact checked_commits (by cases movement <;> trivial)
  | createOrder | removeItem | updateStatus | confirmOrder | rollback | confirmRollback
  | cancelInvoice | cancelAppointment | decrementStock | checkMovement =>
    exact checked_reads fun _ _ => trivial
  | storeOrder | storeItem | changeItem | deleteItem | writeRollback | eInvoice | voidInvoice
  | storeCancellation | storeDecrement | storeIncrement | storeMovement =>
    exact checked_commits trivial
  | finished answer => trivial

end WorkshopTask

theorem WorkshopRequest.checked_enter {r : WorkshopRequest} (h : r.Valid) : r.enter.Checked := by
  cases r with
  | addWorkOrderItem tenantId workOrderId dto => exact h
  | updateWorkOrderItemQuantity tenantId workOrderId itemId data userRole => exact h
  | addStockMovement tenantId productId input => exact h
  | updateStockItem tenantId id dto => exact h
  | _ => trivial

def WorkshopPool.StoresSane (p : WorkshopPool) :
    PoolAction { r : WorkshopRequest // r.Valid } WorkshopEnv → Prop
  | .start _ => True
  | .step k env => ∀ t ∈ p.threads.get? k, t.StoresSane p.shared env

def WorkshopPool.Sane (p : WorkshopPool) : Prop :=
  Pool.Holds Db.Sane (fun _ t => t.Checked) p

/-- In every interleaving of requests whose bodies are valid, items have quantities of at
least one and prices that are not negative, and no stock is negative, precisely when
every new order that is stored has such items. -/
theorem stock_never_negative_iff (db : Db)
    (actions : List (PoolAction { r : WorkshopRequest // r.Valid } WorkshopEnv))
    (hitems : db.ItemsSane) (hstock : db.StockNonneg) :
    Always WorkshopPool.actValid (fun p => p.shared.ItemsSane ∧ p.shared.StockNonneg)
        (Pool.idle db) actions ↔
      EachStep WorkshopPool.actValid WorkshopPool.StoresSane (Pool.idle db) actions := by
  have good : ∀ p : WorkshopPool, p.Sane → p.shared.ItemsSane ∧ p.shared.StockNonneg :=
    fun p hp => ⟨hp.1.items, hp.1.stock⟩
  have keep : ∀ (p : WorkshopPool) a, p.Sane → p.StoresSane a → (p.actValid a).Sane := by
    intro p a hp ha
    cases a with
    | start r =>
      have hstart : WorkshopPool.Sane (WorkshopPool.actValid p (.start r)) :=
        Pool.Holds.start hp (WorkshopRequest.checked_enter r.2)
      exact hstart
    | step k env =>
      refine Pool.Holds.step hp fun t ht => ⟨⟨?_, ?_⟩, ?_, fun u hu => hu⟩
      · exact t.exec_itemsSane hp.1 (hp.2 k t ht) (ha t ht)
      · exact (t.exec_effect p.shared env).stockNonneg hp.1 (hp.2 k t ht)
      · exact (hp.2 k t ht).exec hp.1
  have bad : ∀ (p : WorkshopPool) a, p.Sane → ¬ p.StoresSane a →
      ¬ ((p.actValid a).shared.ItemsSane ∧ (p.actValid a).shared.StockNonneg) := by
    intro p a _ ha hafter
    cases a with
    | start r => exact ha trivial
    | step k env =>
      simp only [WorkshopPool.StoresSane, not_forall] at ha
      obtain ⟨t, ht, hstore⟩ := ha
      have hshared : (p.actValid (.step k env)).shared = (t.exec p.shared env).1 :=
        congrArg Pool.shared (Pool.act_step_some ht env)
      rw [hshared] at hafter
      exact t.exec_not_itemsSane hstore hafter.1
  have hstart : WorkshopPool.Sane (Pool.idle db) := Pool.holds_idle ⟨hitems, hstock⟩
  exact always_iff_eachStep good keep bad hstart actions

end Requests

section Sample

instance (item : CreateWorkOrderItemInput) : Decidable item.Sane :=
  inferInstanceAs (Decidable (_ ∧ _))

instance (it : WorkOrderItem) : Decidable it.Sane := inferInstanceAs (Decidable (_ ∧ _))

instance (db : Db) : Decidable db.ItemsSane := by
  unfold Db.ItemsSane
  infer_instance

instance (db : Db) : Decidable db.StockNonneg := by
  unfold Db.StockNonneg
  infer_instance

instance (db : Db) (env : WorkshopEnv) (t : WorkshopTask) : Decidable (t.StoresSane db env) := by
  unfold WorkshopTask.StoresSane
  split <;> infer_instance

instance (p : WorkshopPool) (a : PoolAction { r : WorkshopRequest // r.Valid } WorkshopEnv) :
    Decidable (p.StoresSane a) :=
  match a with
  | .start _ => .isTrue trivial
  | .step k env => inferInstanceAs (Decidable (∀ t ∈ p.threads.get? k, t.StoresSane p.shared env))

def taking (quantity : ℕ) : AddStockMovementInput where
  movementType := .outWorkOrder
  quantity := quantity
  referenceId := none

theorem taking_valid (quantity : ℕ) : (taking quantity).Valid := ⟨Int.natCast_nonneg quantity⟩

/-- An order is opened, then pads are taken out, and then the order is cancelled. -/
def orderTakingCancel (order : CreateWorkOrderInput) (quantity : ℕ) :
    List (PoolAction { r : WorkshopRequest // r.Valid } WorkshopEnv) :=
  .start ⟨.createWorkOrder 0 order, trivial⟩ :: List.replicate 3 (.step 0 shopEnv) ++
    .start ⟨.addStockMovement 0 0 (taking quantity), taking_valid quantity⟩ ::
      List.replicate 6 (.step 1 shopEnv) ++
    .start ⟨.updateWorkOrderStatus 0 0 "CANCELLED", trivial⟩ ::
      List.replicate 6 (.step 2 shopEnv)

theorem sample_stock_never_negative :
    Always WorkshopPool.actValid (fun p => p.shared.ItemsSane ∧ p.shared.StockNonneg)
      (Pool.idle shopDb) (orderTakingCancel padOrder 8) :=
  (stock_never_negative_iff shopDb _ (by decide +kernel) (by decide +kernel)).mpr
    (by decide +kernel)

def giftOrder : CreateWorkOrderInput :=
  { padOrder with items := padOrder.items.map fun item => { item with quantity := -5 } }

example : (run WorkshopPool.actValid (Pool.idle shopDb)
    (orderTakingCancel giftOrder 15)).shared.stockOf 0 = -5 := by decide +kernel

theorem gift_order_overdraws_stock :
    ¬ Always WorkshopPool.actValid (fun p => p.shared.ItemsSane ∧ p.shared.StockNonneg)
      (Pool.idle shopDb) (orderTakingCancel giftOrder 15) := by
  intro h
  have hstock := h.last.2
  revert hstock
  decide +kernel

end Sample

end WorksAuto
