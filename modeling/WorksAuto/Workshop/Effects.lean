import WorksAuto.Billing.Effects
import WorksAuto.Inventory.Posting
import WorksAuto.Workshop.System

/-! What a committed workshop transaction does to the database.
Each transaction is inverted once: the movements it posts, the items it leaves
on the order, and what becomes of the order. -/

namespace WorksAuto

open Lib

section Movements

def NewWorkOrderItem.consumption (tenantId workOrderId : Uuid) (item : NewWorkOrderItem) :
    List StockMovement :=
  item.part?.toList.map fun p => outMovement tenantId workOrderId p item.quantity

def WorkOrderItem.adjustment (tenantId workOrderId : Uuid) (diff : ℤ) (it : WorkOrderItem) :
    List StockMovement :=
  if 0 < diff then it.part?.toList.map fun p => outMovement tenantId workOrderId p diff
  else if diff < 0 then it.part?.toList.map fun p => returnMovement tenantId workOrderId p |diff|
  else []

def WorkOrderItem.returning (tenantId workOrderId : Uuid) (it : WorkOrderItem) :
    List StockMovement :=
  it.part?.toList.map fun p => returnMovement tenantId workOrderId p it.quantity

/-- Each movement is about a product that exists, takes no more than its stock and
leaves a stock that its column can hold. -/
def Db.Covers (db : Db) : List StockMovement → Prop
  | [] => True
  | m :: ms => db.hasProduct m.productId ∧
      (m.movementType = .outWorkOrder → m.quantity ≤ db.stockOf m.productId) ∧
      m.apply (db.stockOf m.productId) < 2 ^ 31 ∧ (db.post m).Covers ms

theorem Db.Covers.hasProduct {db : Db} {ms : List StockMovement} (h : db.Covers ms) :
    ∀ m ∈ ms, db.hasProduct m.productId := by
  induction ms generalizing db with
  | nil => simp
  | cons m ms ih =>
    intro n hn
    rcases List.mem_cons.mp hn with rfl | hn
    · exact h.1
    · exact (db.hasProduct_post m n.productId).mp (ih h.2.2.2 n hn)

theorem Db.Covers.append {db : Db} {ms ns : List StockMovement} (hm : db.Covers ms)
    (hn : (db.postAll ms).Covers ns) : db.Covers (ms ++ ns) := by
  induction ms generalizing db with
  | nil => exact hn
  | cons m ms ih => exact ⟨hm.1, hm.2.1, hm.2.2.1, ih hm.2.2.2 hn⟩

theorem Db.Covers.floor {db : Db} {ms : List StockMovement} (h : db.Covers ms)
    (hflow : ∀ m ∈ ms, m.Flow) (p : Uuid) :
    min (db.stockOf p) 0 ≤ (db.postAll ms).stockOf p := by
  induction ms generalizing db with
  | nil => exact min_le_left _ _
  | cons m ms ih =>
    obtain ⟨hm, hms⟩ := List.forall_mem_cons.mp hflow
    have hpost : (db.post m).stockOf p = db.stockOf p + net [m] p :=
      Db.stockOf_postAll_net (List.forall_mem_singleton.mpr h.1)
        (List.forall_mem_singleton.mpr hm) p
    have hfirst : min (db.stockOf p) 0 ≤ (db.post m).stockOf p := by
      rw [hpost, net_cons, net_nil, add_zero]
      split_ifs with hp
      · subst hp
        rcases hm with hout | ⟨hret, hq⟩
        · have henough := h.2.1 hout
          simp only [StockMovement.delta, StockMovement.apply, hout]
          omega
        · simp only [StockMovement.delta, StockMovement.apply, hret]
          omega
      · omega
    have hrest := ih h.2.2.2 hms
    rw [Db.postAll_cons]
    omega

theorem Db.Covers.ceiling {db : Db} {ms : List StockMovement} (h : db.Covers ms) (p : Uuid)
    (hp : db.stockOf p < 2 ^ 31) : (db.postAll ms).stockOf p < 2 ^ 31 := by
  induction ms generalizing db with
  | nil => exact hp
  | cons m ms ih =>
    apply ih h.2.2.2
    rw [db.stockOf_post m h.1]
    by_cases hm : p = m.productId
    · subst hm
      exact (stockJournal.post_self db.stockOf m).trans_lt h.2.2.1
    · rw [stockJournal.post_of_ne _ hm]
      exact hp

theorem consumePart_ok {db db' : Db} {t w : Uuid} {item : NewWorkOrderItem}
    (h : consumePart db t w item = .ok db') :
    db.Covers (item.consumption t w) ∧ db' = db.postAll (item.consumption t w) := by
  unfold consumePart at h
  unfold NewWorkOrderItem.consumption
  split at h
  · next p hp =>
    obtain ⟨hknown, henough, hfits, rfl⟩ := takeFromStock_ok h
    rw [hp]
    exact ⟨⟨hknown, fun _ => henough, hfits, trivial⟩, rfl⟩
  · next hp =>
    rw [hp]
    exact ⟨trivial, (Outcome.pure_eq_ok.mp h).symm⟩

theorem adjustPart_ok {db db' : Db} {t w : Uuid} {it : WorkOrderItem} {diff : ℤ}
    (h : adjustPart db t w it diff = .ok db') :
    db.Covers (it.adjustment t w diff) ∧ db' = db.postAll (it.adjustment t w diff) := by
  unfold adjustPart at h
  unfold WorkOrderItem.adjustment
  split at h
  · next p hp =>
    rw [hp]
    split_ifs at h ⊢
    · obtain ⟨hknown, henough, hfits, rfl⟩ := takeFromStock_ok h
      exact ⟨⟨hknown, fun _ => henough, hfits, trivial⟩, rfl⟩
    · obtain ⟨hknown, hfits, rfl⟩ := returnToStock_ok h
      exact ⟨⟨hknown, nofun, hfits, trivial⟩, rfl⟩
    · exact ⟨trivial, (Outcome.pure_eq_ok.mp h).symm⟩
  · next hp =>
    rw [hp]
    have hnil : (if 0 < diff then ([] : List StockMovement) else if diff < 0 then [] else []) = [] := by
      split_ifs <;> rfl
    simp only [Option.toList_none, List.map_nil, hnil]
    exact ⟨trivial, (Outcome.pure_eq_ok.mp h).symm⟩

theorem returnPart_ok {db db' : Db} {t w : Uuid} {it : WorkOrderItem}
    (h : returnPart db t w it = .ok db') :
    db.Covers (it.returning t w) ∧ db' = db.postAll (it.returning t w) := by
  unfold returnPart at h
  unfold WorkOrderItem.returning
  split at h
  · next p hp =>
    obtain ⟨hknown, hfits, rfl⟩ := returnToStock_ok h
    rw [hp]
    exact ⟨⟨hknown, nofun, hfits, trivial⟩, rfl⟩
  · next hp =>
    rw [hp]
    exact ⟨trivial, (Outcome.pure_eq_ok.mp h).symm⟩

def restoration (tenantId workOrderId : Uuid) (items : List (Uuid × WorkOrderItem)) :
    List StockMovement :=
  items.flatMap fun it => it.2.returning tenantId workOrderId

section Flow

variable {t w : Uuid}

theorem NewWorkOrderItem.consumption_flow (item : NewWorkOrderItem) :
    ∀ m ∈ item.consumption t w, m.Flow := by
  intro m hm
  obtain ⟨p, -, rfl⟩ := List.mem_map.mp hm
  exact .inl rfl

theorem WorkOrderItem.adjustment_flow (it : WorkOrderItem) (diff : ℤ) :
    ∀ m ∈ it.adjustment t w diff, m.Flow := by
  intro m hm
  unfold adjustment at hm
  split_ifs at hm
  · obtain ⟨p, -, rfl⟩ := List.mem_map.mp hm
    exact .inl rfl
  · obtain ⟨p, -, rfl⟩ := List.mem_map.mp hm
    exact .inr ⟨rfl, abs_nonneg diff⟩
  · cases hm

theorem WorkOrderItem.returning_flow {it : WorkOrderItem}
    (h : ∀ p, it.part? = some p → 0 ≤ it.quantity) : ∀ m ∈ it.returning t w, m.Flow := by
  intro m hm
  obtain ⟨p, hp, rfl⟩ := List.mem_map.mp hm
  exact .inr ⟨rfl, h p (Option.mem_toList.mp hp)⟩

theorem restoration_flow {items : List (Uuid × WorkOrderItem)}
    (h : ∀ it ∈ items, ∀ p, it.2.part? = some p → 0 ≤ it.2.quantity) :
    ∀ m ∈ restoration t w items, m.Flow := by
  intro m hm
  obtain ⟨it, hit, hmit⟩ := List.mem_flatMap.mp hm
  exact WorkOrderItem.returning_flow (h it hit) m hmit

theorem consumptions_flow {items : List NewWorkOrderItem} :
    ∀ m ∈ items.flatMap (NewWorkOrderItem.consumption t w), m.Flow := by
  intro m hm
  obtain ⟨item, -, hitem⟩ := List.mem_flatMap.mp hm
  exact item.consumption_flow m hitem

end Flow

theorem restoreCancelledStock_ok {db db' : Db} {t w : Uuid} {items : List (Uuid × WorkOrderItem)}
    (h : restoreCancelledStock db t w items = .ok db') :
    db.Covers (restoration t w items) ∧ db' = db.postAll (restoration t w items) := by
  unfold restoreCancelledStock at h
  induction items generalizing db with
  | nil => exact ⟨trivial, (Outcome.pure_eq_ok.mp h).symm⟩
  | cons it items ih =>
    rw [List.foldlM_cons] at h
    obtain ⟨mid, hmid, hrest⟩ := Outcome.bind_eq_ok.mp h
    obtain ⟨hfirst, rfl⟩ := returnPart_ok hmid
    obtain ⟨hothers, rfl⟩ := ih hrest
    refine ⟨hfirst.append hothers, ?_⟩
    rw [← Db.postAll_append]
    rfl

end Movements

section Edits

structure WorkOrder.AddedUp (wo : WorkOrder) (bases kdvs : List ℚ) : Prop where
  subtotal : numeric 12 (Double.written (Double.sum bases)) = .ok wo.subtotal
  kdvAmount : numeric 12 (Double.written (Double.sum kdvs)) = .ok wo.kdvAmount
  grandTotal : numeric 12 (Double.written
    (Double.nearest (Double.sum bases + Double.sum kdvs))) = .ok wo.grandTotal

def WorkOrder.Recalculated (wo : WorkOrder) (items : List WorkOrderItem) : Prop :=
  wo.AddedUp (items.map WorkOrderItem.base) (items.map WorkOrderItem.kdv)

structure OrderEdited (db : Db) (tenantId workOrderId : Uuid) (ms : List StockMovement)
    (items : Table WorkOrderItem) (db' : Db) : Prop where
  order : ∃ wo, db.workOrder? tenantId workOrderId = some wo
  covered : db.Covers ms
  products : db'.products = (db.postAll ms).products
  movements : db'.stockMovements = (db.postAll ms).stockMovements
  items_eq : db'.workOrderItems = items
  orders : ∃ s k g, db'.workOrders = db.workOrders.modify workOrderId (WorkOrder.retotal s k g)
  totals : ∀ wo, db'.workOrders.get? workOrderId = some wo →
    wo.Recalculated ((db'.itemsOf workOrderId).map Prod.snd)
  invoices : db'.invoices = db.invoices
  appointments : db'.appointments = db.appointments

structure StoredAs (workOrderId : Uuid) (item : NewWorkOrderItem) (row : WorkOrderItem) : Prop where
  order : row.workOrderId = workOrderId
  part : row.part? = item.part?
  quantity : row.quantity = item.quantity
  unitPrice : row.unitPrice = roundAway (item.unitPrice * 100)
  kdvRate : item.kdvRate ≠ 0 → row.kdvRate = roundAway (item.kdvRate * 100)
  fits : -2 ^ 31 ≤ row.quantity ∧ row.quantity < 2 ^ 31

theorem storedRows_mem {w : Uuid} {items : List NewWorkOrderItem} {rows : List WorkOrderItem}
    (h : List.Forall₂ (StoredAs w) items rows) :
    ∀ row ∈ rows, ∃ item ∈ items, StoredAs w item row := by
  induction h with
  | nil => simp
  | cons hrow _ ih =>
    refine List.forall_mem_cons.mpr ⟨⟨_, List.mem_cons_self, hrow⟩, fun row hmem => ?_⟩
    obtain ⟨item, hitem, hstored⟩ := ih row hmem
    exact ⟨item, List.mem_cons_of_mem _ hitem, hstored⟩

theorem storedRows_of_mem {w : Uuid} {items : List NewWorkOrderItem} {rows : List WorkOrderItem}
    (h : List.Forall₂ (StoredAs w) items rows) :
    ∀ item ∈ items, ∃ row ∈ rows, StoredAs w item row := by
  induction h with
  | nil => simp
  | cons hrow _ ih =>
    refine List.forall_mem_cons.mpr ⟨⟨_, List.mem_cons_self, hrow⟩, fun item hmem => ?_⟩
    obtain ⟨row, hrow', hstored⟩ := ih item hmem
    exact ⟨row, List.mem_cons_of_mem _ hrow', hstored⟩

theorem insertItem_ok {db db' : Db} {w : Uuid} {item : NewWorkOrderItem}
    (h : insertItem db w item = .ok db') :
    ∃ row, StoredAs w item row ∧
      db' = { db with workOrderItems := db.workOrderItems.insert row } := by
  obtain ⟨quantity, hq, h₁⟩ := Outcome.bind_eq_ok.mp h
  obtain ⟨unitPrice, hp, h₂⟩ := Outcome.bind_eq_ok.mp h₁
  obtain ⟨kdvRate, hr, h₃⟩ := Outcome.bind_eq_ok.mp h₂
  obtain ⟨totalPrice, -, h₄⟩ := Outcome.bind_eq_ok.mp h₃
  obtain ⟨rfl, hfits⟩ := int4_eq_ok.mp hq
  obtain ⟨rfl, -⟩ := numeric_eq_ok.mp hp
  obtain ⟨rfl, -⟩ := numeric_eq_ok.mp hr
  exact ⟨_, ⟨rfl, rfl, rfl, rfl, fun _ => rfl, hfits⟩, (Outcome.pure_eq_ok.mp h₄).symm⟩

theorem recalculateTotals_ok {db db' : Db} {w : Uuid} (h : recalculateTotals db w = .ok db') :
    ∃ s k g, (∀ wo, (WorkOrder.retotal s k g wo).Recalculated ((db.itemsOf w).map Prod.snd)) ∧
      db' = { db with workOrders := db.workOrders.modify w (WorkOrder.retotal s k g) } := by
  obtain ⟨subtotal, hs, h₁⟩ := Outcome.bind_eq_ok.mp h
  obtain ⟨kdvAmount, hk, h₂⟩ := Outcome.bind_eq_ok.mp h₁
  obtain ⟨grandTotal, hg, h₃⟩ := Outcome.bind_eq_ok.mp h₂
  refine ⟨subtotal, kdvAmount, grandTotal, ?_, (Outcome.pure_eq_ok.mp h₃).symm⟩
  exact fun wo => ⟨hs, hk, hg⟩

theorem OrderEdited.of_totals {db db' : Db} {t w : Uuid} {wo : WorkOrder} {ms : List StockMovement}
    {items : Table WorkOrderItem} (hwo : db.workOrder? t w = some wo) (hcov : db.Covers ms)
    (h : recalculateTotals { db.postAll ms with workOrderItems := items } w = .ok db') :
    OrderEdited db t w ms items db' := by
  obtain ⟨s, k, g, htotals, rfl⟩ := recalculateTotals_ok h
  have hframe := db.postAll_frame ms
  refine ⟨⟨wo, hwo⟩, hcov, rfl, rfl, rfl, ⟨s, k, g, ?_⟩, ?_, ?_, ?_⟩
  · rw [hframe]
  · intro wo' hwo'
    obtain ⟨old, -, rfl⟩ := Table.of_get?_modify hwo'
    rw [if_pos rfl]
    exact htotals old
  · rw [hframe]
  · rw [hframe]

theorem addItem_steps {db db' : Db} {t w : Uuid} {item : NewWorkOrderItem}
    (h : addItem db t w item = .ok db') :
    ∃ wo inserted, db.workOrder? t w = some wo ∧ db.Covers (item.consumption t w) ∧
      insertItem (db.postAll (item.consumption t w)) w item = .ok inserted ∧
      recalculateTotals inserted w = .ok db' := by
  obtain ⟨wo, hwo, h₁⟩ := Outcome.bind_eq_ok.mp h
  obtain ⟨consumed, hconsume, h₂⟩ := Outcome.bind_eq_ok.mp h₁
  obtain ⟨inserted, hinsert, htotals⟩ := Outcome.bind_eq_ok.mp h₂
  obtain ⟨hcov, rfl⟩ := consumePart_ok hconsume
  exact ⟨wo, inserted, Outcome.required_eq_ok.mp hwo, hcov, hinsert, htotals⟩

theorem addItem_ok {db db' : Db} {t w : Uuid} {item : NewWorkOrderItem}
    (h : addItem db t w item = .ok db') :
    ∃ row, StoredAs w item row ∧
      OrderEdited db t w (item.consumption t w) (db.workOrderItems.insert row) db' := by
  obtain ⟨wo, inserted, hwo, hcov, hinsert, htotals⟩ := addItem_steps h
  obtain ⟨row, hrow, rfl⟩ := insertItem_ok hinsert
  have hitems : (db.postAll (item.consumption t w)).workOrderItems = db.workOrderItems := by
    rw [db.postAll_frame]
  rw [hitems] at htotals
  exact ⟨row, hrow, .of_totals hwo hcov htotals⟩

theorem Db.workOrderItem?_eq_some {db : Db} {w k : Uuid} {it : WorkOrderItem} :
    db.workOrderItem? w k = some it ↔
      db.workOrderItems.get? k = some it ∧ it.workOrderId = w := by
  simp [workOrderItem?, Option.filter_eq_some_iff]

section Others

variable {db : Db} {v w k : Uuid} {it : WorkOrderItem}

/-- The items of the order `v` in a table of items. -/
abbrev itemsIn (items : Table WorkOrderItem) (v : Uuid) : List (Uuid × WorkOrderItem) :=
  items.filter fun it => it.workOrderId = v

theorem Db.itemsOf_eq (db : Db) (v : Uuid) : db.itemsOf v = itemsIn db.workOrderItems v := rfl

theorem StoredAs.itemsIn_insert {item : NewWorkOrderItem} {row : WorkOrderItem}
    (h : StoredAs w item row) (hv : v ≠ w) (items : Table WorkOrderItem) :
    itemsIn (items.insert row) v = itemsIn items v := by
  have hne : ¬ row.workOrderId = v := fun he => hv (he.symm.trans h.order)
  rw [itemsIn, Table.filter_insert]
  simp [hne]

theorem Db.itemsIn_modify (h : db.workOrderItem? w k = some it) (hv : v ≠ w)
    (f : WorkOrderItem → WorkOrderItem) (hf : (f it).workOrderId = it.workOrderId) :
    itemsIn (db.workOrderItems.modify k f) v = itemsIn db.workOrderItems v := by
  obtain ⟨hget, horder⟩ := Db.workOrderItem?_eq_some.mp h
  refine Table.filter_modify_of_false fun r hr => ?_
  cases hget.symm.trans hr
  have hne : ¬ it.workOrderId = v := fun he => hv (he.symm.trans horder)
  exact ⟨decide_eq_false hne, decide_eq_false (hf ▸ hne)⟩

theorem Db.itemsIn_erase (h : db.workOrderItem? w k = some it) (hv : v ≠ w) :
    itemsIn (db.workOrderItems.erase k) v = itemsIn db.workOrderItems v := by
  obtain ⟨hget, horder⟩ := Db.workOrderItem?_eq_some.mp h
  refine Table.filter_erase_of_false fun r hr => ?_
  cases hget.symm.trans hr
  exact decide_eq_false fun he => hv (he.symm.trans horder)

theorem itemsIn_storedRows {items : List NewWorkOrderItem} {rows : List WorkOrderItem}
    (h : List.Forall₂ (StoredAs w) items rows) (hv : v ≠ w) (old : Table WorkOrderItem) :
    itemsIn (rows.foldl Table.insert old) v = itemsIn old v := by
  induction h generalizing old with
  | nil => rfl
  | cons hrow _ ih => rw [List.foldl_cons, ih, hrow.itemsIn_insert hv]

end Others

theorem updateItem_steps {db db' : Db} {t w k : Uuid} {data : WorkOrderItemChanges}
    (h : updateItem db t w k data = .ok db') :
    ∃ wo it name totalPrice, db.workOrder? t w = some wo ∧ db.workOrderItem? w k = some it ∧
      (∀ q ∈ data.quantity, 0 < q) ∧
      (-2 ^ 31 ≤ data.quantity.getD it.quantity ∧ data.quantity.getD it.quantity < 2 ^ 31) ∧
      db.Covers (it.adjustment t w (data.quantity.getD it.quantity - it.quantity)) ∧
      recalculateTotals
        { db.postAll (it.adjustment t w (data.quantity.getD it.quantity - it.quantity)) with
          workOrderItems := db.workOrderItems.modify k (WorkOrderItem.revise name
            (roundAway (data.unitPrice.getD (toNumber it.unitPrice) * 100))
            (data.quantity.getD it.quantity) totalPrice) } w = .ok db' := by
  obtain ⟨wo, hwo, h₁⟩ := Outcome.bind_eq_ok.mp h
  obtain ⟨it, hit, h₂⟩ := Outcome.bind_eq_ok.mp h₁
  obtain ⟨u, hpos, h₃⟩ := Outcome.bind_eq_ok.mp h₂
  obtain ⟨adjusted, hadjust, h₄⟩ := Outcome.bind_eq_ok.mp h₃
  obtain ⟨unitPrice, hprice, h₅⟩ := Outcome.bind_eq_ok.mp h₄
  obtain ⟨quantity, hq, h₆⟩ := Outcome.bind_eq_ok.mp h₅
  obtain ⟨totalPrice, -, htotals⟩ := Outcome.bind_eq_ok.mp h₆
  obtain ⟨hcov, rfl⟩ := adjustPart_ok hadjust
  obtain ⟨rfl, hfits⟩ := int4_eq_ok.mp hq
  obtain ⟨rfl, -⟩ := numeric_eq_ok.mp hprice
  have hitems : (db.postAll (it.adjustment t w
      (data.quantity.getD it.quantity - it.quantity))).workOrderItems = db.workOrderItems := by
    rw [db.postAll_frame]
  rw [hitems] at htotals
  refine ⟨wo, it, _, totalPrice, Outcome.required_eq_ok.mp hwo, Outcome.required_eq_ok.mp hit, ?_,
    hfits, hcov, htotals⟩
  intro q hq
  rw [Option.mem_def] at hq
  simpa [hq] using hpos

theorem updateItem_ok {db db' : Db} {t w k : Uuid} {data : WorkOrderItemChanges}
    (h : updateItem db t w k data = .ok db') :
    ∃ it name unitPrice totalPrice, db.workOrderItem? w k = some it ∧
      (∀ q ∈ data.quantity, 0 < q) ∧
      (-2 ^ 31 ≤ data.quantity.getD it.quantity ∧ data.quantity.getD it.quantity < 2 ^ 31) ∧
      OrderEdited db t w (it.adjustment t w (data.quantity.getD it.quantity - it.quantity))
        (db.workOrderItems.modify k
          (WorkOrderItem.revise name unitPrice (data.quantity.getD it.quantity) totalPrice)) db' := by
  obtain ⟨wo, it, name, totalPrice, hwo, hit, hpos, hfits, hcov, htotals⟩ := updateItem_steps h
  exact ⟨it, name, _, totalPrice, hit, hpos, hfits, .of_totals hwo hcov htotals⟩

theorem removeItem_steps {db db' : Db} {t w k : Uuid} (h : removeItem db t w k = .ok db') :
    ∃ wo it, db.workOrder? t w = some wo ∧ db.workOrderItem? w k = some it ∧
      db.Covers (it.returning t w) ∧
      recalculateTotals { db.postAll (it.returning t w) with
        workOrderItems := db.workOrderItems.erase k } w = .ok db' := by
  obtain ⟨wo, hwo, h₁⟩ := Outcome.bind_eq_ok.mp h
  obtain ⟨it, hit, h₂⟩ := Outcome.bind_eq_ok.mp h₁
  obtain ⟨returned, hreturn, htotals⟩ := Outcome.bind_eq_ok.mp h₂
  obtain ⟨hcov, rfl⟩ := returnPart_ok hreturn
  have hitems : (db.postAll (it.returning t w)).workOrderItems = db.workOrderItems := by
    rw [db.postAll_frame]
  rw [hitems] at htotals
  exact ⟨wo, it, Outcome.required_eq_ok.mp hwo, Outcome.required_eq_ok.mp hit, hcov, htotals⟩

theorem removeItem_ok {db db' : Db} {t w k : Uuid} (h : removeItem db t w k = .ok db') :
    ∃ it, db.workOrderItem? w k = some it ∧
      OrderEdited db t w (it.returning t w) (db.workOrderItems.erase k) db' := by
  obtain ⟨wo, it, hwo, hit, hcov, htotals⟩ := removeItem_steps h
  exact ⟨it, hit, .of_totals hwo hcov htotals⟩

end Edits

section Orders

theorem Db.postAll_congr (db db₂ : Db) (hp : db₂.products = db.products)
    (hm : db₂.stockMovements = db.stockMovements) (ms : List StockMovement) :
    (db₂.postAll ms).products = (db.postAll ms).products ∧
      (db₂.postAll ms).stockMovements = (db.postAll ms).stockMovements := by
  induction ms generalizing db db₂ with
  | nil => exact ⟨hp, hm⟩
  | cons m ms ih =>
    apply ih
    · simp only [Db.post, hp]
    · simp only [Db.post, hm]

theorem Db.Covers.congr {db db₂ : Db} {ms : List StockMovement} (h : db.Covers ms)
    (hp : db₂.products = db.products) : db₂.Covers ms := by
  induction ms generalizing db db₂ with
  | nil => trivial
  | cons m ms ih =>
    have hknown : db₂.hasProduct m.productId = db.hasProduct m.productId := by
      simp only [Db.hasProduct, hp]
    have hstock : db₂.stockOf m.productId = db.stockOf m.productId := by
      simp only [Db.stockOf, hp]
    refine ⟨hknown ▸ h.1, hstock ▸ h.2.1, hstock ▸ h.2.2.1, ih h.2.2.2 ?_⟩
    simp only [Db.post, hp]

structure ItemsStored (db : Db) (tenantId workOrderId : Uuid) (items : List NewWorkOrderItem)
    (rows : List WorkOrderItem) (db' : Db) : Prop where
  stored : List.Forall₂ (StoredAs workOrderId) items rows
  covered : db.Covers (items.flatMap (NewWorkOrderItem.consumption tenantId workOrderId))
  products : db'.products =
    (db.postAll (items.flatMap (NewWorkOrderItem.consumption tenantId workOrderId))).products
  movements : db'.stockMovements =
    (db.postAll (items.flatMap (NewWorkOrderItem.consumption tenantId workOrderId))).stockMovements
  items_eq : db'.workOrderItems = rows.foldl Table.insert db.workOrderItems
  orders : db'.workOrders = db.workOrders
  invoices : db'.invoices = db.invoices
  appointments : db'.appointments = db.appointments

theorem storeNewItem_ok {db db' : Db} {t w : Uuid} {item : NewWorkOrderItem}
    (h : storeNewItem t w db item = .ok db') :
    ∃ row, StoredAs w item row ∧ db.Covers (item.consumption t w) ∧
      db' = { db.postAll (item.consumption t w) with
        workOrderItems := db.workOrderItems.insert row } := by
  obtain ⟨db₁, hconsume, h₁⟩ := Outcome.bind_eq_ok.mp h
  obtain ⟨hcov, rfl⟩ := consumePart_ok hconsume
  obtain ⟨row, hrow, rfl⟩ := insertItem_ok h₁
  have hrate : item.kdvRate ≠ 0 → row.kdvRate = roundAway (item.kdvRate * 100) := by
    intro hne
    have hkept := hrow.kdvRate
    simp only [if_neg hne] at hkept
    exact hkept hne
  refine ⟨row, ⟨hrow.order, hrow.part, hrow.quantity, hrow.unitPrice, hrate, hrow.fits⟩, hcov, ?_⟩
  rw [db.postAll_frame]

theorem storeNewItems_ok {db db' : Db} {t w : Uuid} {items : List NewWorkOrderItem}
    (h : items.foldlM (storeNewItem t w) db = .ok db') : ∃ rows, ItemsStored db t w items rows db' := by
  induction items generalizing db with
  | nil =>
    obtain rfl := Outcome.pure_eq_ok.mp h
    exact ⟨[], .nil, trivial, rfl, rfl, rfl, rfl, rfl, rfl⟩
  | cons item items ih =>
    rw [List.foldlM_cons] at h
    obtain ⟨mid, hmid, hrest⟩ := Outcome.bind_eq_ok.mp h
    obtain ⟨row, hrow, hcov, rfl⟩ := storeNewItem_ok hmid
    obtain ⟨rows, hrows⟩ := ih hrest
    have hposted := Db.postAll_congr (db.postAll (item.consumption t w))
      { db.postAll (item.consumption t w) with workOrderItems := db.workOrderItems.insert row }
      rfl rfl (items.flatMap (NewWorkOrderItem.consumption t w))
    have hframe := db.postAll_frame (item.consumption t w)
    refine ⟨row :: rows, .cons hrow hrows.stored, ?_, ?_, ?_, hrows.items_eq, ?_, ?_, ?_⟩
    · exact hcov.append (hrows.covered.congr rfl)
    · rw [hrows.products, hposted.1, List.flatMap_cons, Db.postAll_append]
    · rw [hrows.movements, hposted.2, List.flatMap_cons, Db.postAll_append]
    · rw [hrows.orders, hframe]
    · rw [hrows.invoices, hframe]
    · rw [hrows.appointments, hframe]

structure OpenedAs (data : CreateWorkOrderData) (order : WorkOrder) : Prop where
  status : order.status = data.status
  tenantId : order.tenantId = data.tenantId
  customerId : order.customerId = data.customerId
  vehicleId : order.vehicleId = data.vehicleId
  assignedMechanicId : order.assignedMechanicId = data.assignedMechanicId
  appointmentId : order.appointmentId = data.appointmentId
  subtotal : numeric 12 data.subtotal = .ok order.subtotal
  kdvAmount : numeric 12 data.kdvAmount = .ok order.kdvAmount
  grandTotal : numeric 12 data.grandTotal = .ok order.grandTotal
  completedAt : order.completedAt = none

def Db.admitted (db : Db) (appointmentId : Option Uuid) : Table Appointment :=
  appointmentId.elim db.appointments fun id =>
    db.appointments.modify id (setAppointmentStatus .inService)

structure OrderOpened (db : Db) (data : CreateWorkOrderData) (db' : Db) where
  order : WorkOrder
  rows : List WorkOrderItem
  opened : OpenedAs data order
  appointment_free : ∀ a, order.appointmentId = some a → ∀ k wo, db.workOrders.get? k = some wo →
    wo.appointmentId ≠ some a
  stored : List.Forall₂ (StoredAs db.workOrders.next) data.items rows
  covered : db.Covers
    (data.items.flatMap (NewWorkOrderItem.consumption data.tenantId db.workOrders.next))
  products : db'.products = (db.postAll
    (data.items.flatMap (NewWorkOrderItem.consumption data.tenantId db.workOrders.next))).products
  movements : db'.stockMovements = (db.postAll
    (data.items.flatMap
      (NewWorkOrderItem.consumption data.tenantId db.workOrders.next))).stockMovements
  orders : db'.workOrders = db.workOrders.insert order
  items_eq : db'.workOrderItems = rows.foldl Table.insert db.workOrderItems
  invoices : db'.invoices = db.invoices
  admitted : ∀ a, data.appointmentId = some a → ∃ row, db.appointment? data.tenantId a = some row
  appointments : db'.appointments = db.admitted data.appointmentId

theorem admitAppointment_ok {db db' : Db} {t : Uuid} {a : Option Uuid}
    (h : admitAppointment db t a = .ok db') :
    (∀ id, a = some id → ∃ row, db.appointment? t id = some row) ∧
      db' = { db with appointments := db.admitted a } := by
  cases a with
  | none => exact ⟨nofun, (Outcome.pure_eq_ok.mp h).symm⟩
  | some id =>
    obtain ⟨row, hrow, h₁⟩ := Outcome.bind_eq_ok.mp h
    refine ⟨?_, (Outcome.pure_eq_ok.mp h₁).symm⟩
    rintro _ ⟨⟩
    exact ⟨row, Outcome.required_eq_ok.mp hrow⟩

theorem insertWorkOrder_ok {db db' : Db} {data : CreateWorkOrderData} {id : Uuid}
    (h : insertWorkOrder db data = .ok (db', id)) :
    ∃ order : WorkOrder, OpenedAs data order ∧
      (∀ a, order.appointmentId = some a → ∀ k wo, db.workOrders.get? k = some wo →
        wo.appointmentId ≠ some a) ∧
      id = db.workOrders.next ∧ db' = { db with workOrders := db.workOrders.insert order } := by
  obtain ⟨u, hfree, h₁⟩ := Outcome.bind_eq_ok.mp h
  obtain ⟨v, -, h₂⟩ := Outcome.bind_eq_ok.mp h₁
  obtain ⟨initialKm, -, h₃⟩ := Outcome.bind_eq_ok.mp h₂
  obtain ⟨subtotal, hs, h₄⟩ := Outcome.bind_eq_ok.mp h₃
  obtain ⟨kdvAmount, hkdv, h₅⟩ := Outcome.bind_eq_ok.mp h₄
  obtain ⟨grandTotal, hg, h₆⟩ := Outcome.bind_eq_ok.mp h₅
  cases Outcome.pure_eq_ok.mp h₆
  refine ⟨_, ⟨rfl, rfl, rfl, rfl, rfl, rfl, hs, hkdv, hg, rfl⟩, ?_, rfl, rfl⟩
  intro a ha k wo hk hwo
  rw [Outcome.reject_eq_ok] at hfree
  simp only at ha
  rw [ha] at hfree
  have hnone : db.workOrders.find? (fun wo => decide (wo.appointmentId = some a)) = none := by
    simpa using hfree
  simpa [hwo] using Table.find?_none hnone hk

/-- The transaction of `createWorkOrder`, statement by statement. -/
theorem createWorkOrder_steps {clock : Clock} {db db' : Db} {data : CreateWorkOrderData} {id : Uuid}
    (h : createWorkOrder clock db data = .ok (db', id)) :
    ∃ customer vehicle inserted, db.liveCustomer? data.tenantId data.customerId = some customer ∧
      ((db.vehicles.get? data.vehicleId).filter fun v =>
        v.tenantId = data.tenantId ∧ v.deletedAt = none) = some vehicle ∧
      checkMechanic clock db data.tenantId data.assignedMechanicId = .ok () ∧
      (∀ a, data.appointmentId = some a → ∃ row, db.appointment? data.tenantId a = some row) ∧
      insertWorkOrder { db with appointments := db.admitted data.appointmentId } data =
        .ok (inserted, id) ∧
      data.items.foldlM (storeNewItem data.tenantId id)
        (advanceOdometer inserted data.vehicleId vehicle data.initialKm) = .ok db' := by
  obtain ⟨customer, hcustomer, h₁⟩ := Outcome.bind_eq_ok.mp h
  obtain ⟨vehicle, hvehicle, h₂⟩ := Outcome.bind_eq_ok.mp h₁
  obtain ⟨u, -, h₃⟩ := Outcome.bind_eq_ok.mp h₂
  obtain ⟨⟨⟩, hmechanic, h₄⟩ := Outcome.bind_eq_ok.mp h₃
  obtain ⟨admitted, hadmit, h₅⟩ := Outcome.bind_eq_ok.mp h₄
  obtain ⟨⟨inserted, w⟩, hinsert, h₆⟩ := Outcome.bind_eq_ok.mp h₅
  obtain ⟨stored, hitems, h₇⟩ := Outcome.bind_eq_ok.mp h₆
  cases Outcome.pure_eq_ok.mp h₇
  obtain ⟨hadmitted, rfl⟩ := admitAppointment_ok hadmit
  exact ⟨customer, vehicle, inserted, Outcome.required_eq_ok.mp hcustomer,
    Outcome.required_eq_ok.mp hvehicle, hmechanic, hadmitted, hinsert, hitems⟩

theorem createWorkOrder_ok {clock : Clock} {db db' : Db} {data : CreateWorkOrderData} {id : Uuid}
    (h : createWorkOrder clock db data = .ok (db', id)) : Nonempty (OrderOpened db data db') := by
  obtain ⟨-, vehicle, inserted, -, -, -, hadmitted, hinsert, hitems⟩ := createWorkOrder_steps h
  obtain ⟨order, hopened, hfree, rfl, rfl⟩ := insertWorkOrder_ok hinsert
  obtain ⟨rows, hrows⟩ := storeNewItems_ok hitems
  refine ⟨order, rows, hopened, hfree, hrows.stored, hrows.covered.congr rfl,
    hrows.products.trans (Db.postAll_congr _ _ ?_ ?_ _).1,
    hrows.movements.trans (Db.postAll_congr _ _ ?_ ?_ _).2, hrows.orders, hrows.items_eq,
    hrows.invoices, hadmitted, hrows.appointments⟩ <;> rfl

theorem writeStatus_ok {db db' : Db} {id : Uuid} {status : WorkOrderStatus}
    {completedAt : Option Instant} (h : writeStatus db id status completedAt = .ok db') :
    ∃ wo, db.workOrders.get? id = some wo ∧
      db' = { db with
        workOrders := db.workOrders.modify id (WorkOrder.setStatus status completedAt) } := by
  obtain ⟨wo, hwo, h₁⟩ := Outcome.bind_eq_ok.mp h
  exact ⟨wo, Outcome.required_eq_ok.mp hwo, (Outcome.pure_eq_ok.mp h₁).symm⟩

theorem writeStatus_found {db : Db} {id : Uuid} {wo : WorkOrder}
    (h : db.workOrders.get? id = some wo) (status : WorkOrderStatus)
    (completedAt : Option Instant) : writeStatus db id status completedAt =
      .ok { db with
        workOrders := db.workOrders.modify id (WorkOrder.setStatus status completedAt) } :=
  Outcome.bind_eq_ok.mpr ⟨wo, Outcome.required_eq_ok.mpr h, rfl⟩

/-- The order that goes with a cancelled appointment, when it is not cancelled yet. -/
def Db.withdrawnOrder? (db : Db) (appointmentId : Uuid) : Option (Uuid × WorkOrder) :=
  (db.orderOfAppointment? appointmentId).filter fun o => o.2.status ≠ .cancelled

theorem cancelAppointmentAndWorkOrder_ok {db db' : Db} {t id : Uuid} {reason : String}
    (h : cancelAppointmentAndWorkOrder db t id reason = .ok db') :
    db' = { db with
      appointments := db.appointments.modify id (Appointment.cancel reason)
      workOrders := (db.withdrawnOrder? id).elim db.workOrders fun o =>
        db.workOrders.modify o.1 WorkOrder.cancelWithAppointment } := by
  obtain ⟨a, -, h₁⟩ := Outcome.bind_eq_ok.mp h
  have hsame : ∀ appointments, Db.orderOfAppointment? { db with appointments } id =
      db.orderOfAppointment? id := fun _ => rfl
  simp only [hsame] at h₁
  cases ho : db.orderOfAppointment? id with
  | none =>
    have hnone : db.withdrawnOrder? id = none := by simp [Db.withdrawnOrder?, ho]
    rw [ho] at h₁
    rw [hnone]
    exact (Outcome.pure_eq_ok.mp h₁).symm
  | some o =>
    rw [ho] at h₁
    by_cases hc : o.2.status = .cancelled
    · have hnone : db.withdrawnOrder? id = none := by simp [Db.withdrawnOrder?, ho, hc]
      simp only [hc, if_true] at h₁
      rw [hnone]
      exact (Outcome.pure_eq_ok.mp h₁).symm
    · have hsome : db.withdrawnOrder? id = some o := by simp [Db.withdrawnOrder?, ho, hc]
      simp only [hc, if_false] at h₁
      rw [hsome]
      exact (Outcome.pure_eq_ok.mp h₁).symm

end Orders

end WorksAuto
