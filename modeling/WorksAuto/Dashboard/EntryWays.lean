import WorksAuto.Dashboard.Interchange
import WorksAuto.Workshop.Totals

/-! The ways in which items get onto an order, and what the report makes of them.
A new order stores its lines without KDV, an added item is stored with it, and an
item that is touched gets it from the price and the rate as they are stored. -/

namespace WorksAuto

open Lib

section UseCases

/-- `CreateWorkOrderUseCase`, run to its end. -/
def createWorkOrderUseCase (clock : Clock) (db : Db) (tenantId : Uuid)
    (input : CreateWorkOrderInput) : Outcome (Db × Uuid) := do
  checkNoActiveOrder db tenantId input.vehicleId
  let (db, woNumber) ← getNextWorkOrderNumber clock db tenantId
  createWorkOrder clock db (workOrderData tenantId input woNumber)

/-- `AddWorkOrderItemUseCase`, run to its end. -/
def addWorkOrderItemUseCase (tenantId workOrderId : Uuid) (db : Db) (dto : AddWorkOrderItemDto) :
    Outcome Db := do
  let _ ← checkAddItem db tenantId workOrderId
  addItem db tenantId workOrderId dto.item

/-- `UpdateWorkOrderItemQuantityUseCase`, run to its end. -/
def updateWorkOrderItemQuantityUseCase (db : Db) (tenantId workOrderId itemId : Uuid)
    (data : WorkOrderItemChanges) (userRole : Option UserRole) : Outcome Db := do
  let _ ← checkUpdateItem db tenantId workOrderId itemId data userRole
  updateItem db tenantId workOrderId itemId data

/-- `UpdateWorkOrderStatusUseCase`, as far as it writes the order. -/
def updateWorkOrderStatusUseCase (clock : Clock) (db : Db) (tenantId id : Uuid)
    (newStatus : String) : Outcome Db := do
  let (target, _) ← checkTransition db tenantId id newStatus
  let _ ← existingOrder db tenantId id
  writeStatus db id target (completionTime clock target)

end UseCases

section Ways

/-- The line of a new order as a request that adds it to an order. -/
def CreateWorkOrderItemInput.dto (item : CreateWorkOrderItemInput) : AddWorkOrderItemDto where
  itemType := item.itemType.getD .service
  itemId := item.itemId
  name := item.name
  quantity := item.quantity
  unitPrice := item.unitPrice
  kdvRate := item.kdvRate

/-- A request that leaves name, price and quantity of an item as they are. -/
structure WorkOrderItemChanges.Keeps (data : WorkOrderItemChanges) (it : WorkOrderItem) :
    Prop where
  name : data.name.elim it.name jsTrim = it.name
  unitPrice : data.unitPrice.getD (toNumber it.unitPrice) = toNumber it.unitPrice
  quantity : data.quantity.getD it.quantity = it.quantity

inductive EntryWay where
  | atCreation
  | oneByOne
  | touched
  deriving DecidableEq

structure Touch where
  data : WorkOrderItem → WorkOrderItemChanges
  userRole : Option UserRole
  keeps : ∀ it, (data it).Keeps it

def touchItem (tenantId workOrderId : Uuid) (touch : Touch) (db : Db)
    (item : Uuid × WorkOrderItem) : Outcome Db :=
  updateWorkOrderItemQuantityUseCase db tenantId workOrderId item.1 (touch.data item.2)
    touch.userRole

/-- Bring the items of a request onto a new order in the given way. -/
def EntryWay.enter (way : EntryWay) (clock : Clock) (db : Db) (tenantId : Uuid)
    (input : CreateWorkOrderInput) (touch : Touch) : Outcome (Db × Uuid) :=
  match way with
  | .atCreation => createWorkOrderUseCase clock db tenantId input
  | .oneByOne => do
    let (db, id) ← createWorkOrderUseCase clock db tenantId { input with items := [] }
    let db ← (input.items.map CreateWorkOrderItemInput.dto).foldlM
      (addWorkOrderItemUseCase tenantId id) db
    pure (db, id)
  | .touched => do
    let (db, id) ← createWorkOrderUseCase clock db tenantId input
    let db ← (db.itemsOf id).foldlM (touchItem tenantId id touch) db
    pure (db, id)

/-- When an order is opened, begun and completed, and the times of its rows' last writes. -/
structure OrderTimes where
  opened : Clock
  started : Clock
  completed : Clock
  updatedAt : Uuid → Instant

/-- Enter the items, have the order worked on and completed, and read it for a report. -/
def EntryWay.completed (way : EntryWay) (times : OrderTimes) (db : Db) (tenantId : Uuid)
    (input : CreateWorkOrderInput) (touch : Touch) : Outcome (Db × CompletedOrder) := do
  let (db, id) ← way.enter times.opened db tenantId input touch
  let db ← updateWorkOrderStatusUseCase times.started db tenantId id "IN_PROGRESS"
  let db ← updateWorkOrderStatusUseCase times.completed db tenantId id "COMPLETED"
  let order ← existingOrder db tenantId id
  pure (db, db.completedOrder times.updatedAt (id, order))

end Ways

section Lines

def held (x : ℚ) : ℚ := toNumber (roundAway (x * 100))

namespace CreateWorkOrderItemInput

variable (item : CreateWorkOrderItemInput)

def kind : LineKind :=
  match item.itemType.getD .service with
  | .service => .labour
  | .part => .part item.itemId

def storedRate : ℚ := if item.rate = 0 then 20 else item.rate

def gross : ℚ := priceWithKdv item.unitPrice item.quantity item.rate

def heldTotal : ℚ := basePrice (held item.unitPrice) item.quantity

def heldGross : ℚ := priceWithKdv (held item.unitPrice) item.quantity (held item.storedRate)

end CreateWorkOrderItemInput

def inCents (x : ℚ) : ℤ := roundAway (x * 100)

def sentTotal (items : List CreateWorkOrderItemInput) : ℤ :=
  inCents (Double.written (Double.nearest
    (Double.sum (items.map CreateWorkOrderItemInput.lineTotal) +
      Double.sum (items.map CreateWorkOrderItemInput.kdv))))

/-- The total of an order whose lines are edited, from prices and the given rates as they
are stored. -/
def heldOrderTotal (rate : CreateWorkOrderItemInput → ℚ) (items : List CreateWorkOrderItemInput) :
    ℤ :=
  inCents (Double.written (Double.nearest
    (Double.sum (items.map CreateWorkOrderItemInput.heldTotal) +
      Double.sum (items.map fun item => kdvOn item.heldTotal (held (rate item))))))

/-- The revenue of an order: its total, or where that is nothing, what its lines come to. -/
def revenueOf (value : CreateWorkOrderItemInput → ℚ) (total : ℤ)
    (items : List CreateWorkOrderItemInput) : ℤ :=
  if total = 0 then (items.map fun item => inCents (value item)).sum else total

/-- The KDV comes to nothing: with it or without it, from prices and rates as they are sent
or as they are stored, each line costs the same, and so does the order. -/
structure KdvVanishes (items : List CreateWorkOrderItemInput) : Prop where
  sent : ∀ item ∈ items, inCents item.gross = inCents (Double.written item.lineTotal)
  stored : ∀ item ∈ items, inCents item.heldGross = inCents (Double.written item.lineTotal)
  sentOrder : revenueOf (·.gross) (heldOrderTotal (·.rate) items) items =
    revenueOf (fun item => Double.written item.lineTotal) (sentTotal items) items
  storedOrder : revenueOf (·.heldGross) (heldOrderTotal (·.storedRate) items) items =
    revenueOf (fun item => Double.written item.lineTotal) (sentTotal items) items

end Lines

section Rows

variable {clock : Clock} {db db' : Db} {t w : Uuid}

def NewWorkOrderItem.row (workOrderId : Uuid) (item : NewWorkOrderItem) : WorkOrderItem where
  workOrderId := workOrderId
  itemType := item.itemType
  itemId := item.itemId
  name := item.name
  quantity := item.quantity
  unitPrice := roundAway (item.unitPrice * 100)
  kdvRate := roundAway (item.kdvRate * 100)
  totalPrice := roundAway (item.totalPrice * 100)

def CreateWorkOrderItemInput.row (workOrderId : Uuid) (item : CreateWorkOrderItemInput) :
    WorkOrderItem :=
  { item.format.row workOrderId with kdvRate := roundAway (item.storedRate * 100) }

def WorkOrderItem.retotalled (it : WorkOrderItem) : WorkOrderItem :=
  { it with
    totalPrice :=
      roundAway (priceWithKdv (toNumber it.unitPrice) it.quantity (toNumber it.kdvRate) * 100) }

theorem insertItem_row {item : NewWorkOrderItem} (h : insertItem db w item = .ok db') :
    db' = { db with workOrderItems := db.workOrderItems.insert (item.row w) } := by
  obtain ⟨quantity, hq, h₁⟩ := Outcome.bind_eq_ok.mp h
  obtain ⟨unitPrice, hp, h₂⟩ := Outcome.bind_eq_ok.mp h₁
  obtain ⟨kdvRate, hr, h₃⟩ := Outcome.bind_eq_ok.mp h₂
  obtain ⟨totalPrice, ht, h₄⟩ := Outcome.bind_eq_ok.mp h₃
  obtain ⟨rfl, -⟩ := int4_eq_ok.mp hq
  obtain ⟨rfl, -⟩ := numeric_eq_ok.mp hp
  obtain ⟨rfl, -⟩ := numeric_eq_ok.mp hr
  obtain ⟨rfl, -⟩ := numeric_eq_ok.mp ht
  exact (Outcome.pure_eq_ok.mp h₄).symm

theorem storeNewItems_row {items : List CreateWorkOrderItemInput}
    (h : (items.map CreateWorkOrderItemInput.format).foldlM (storeNewItem t w) db = .ok db') :
    db'.workOrderItems = (items.map (·.row w)).foldl Table.insert db.workOrderItems := by
  induction items generalizing db with
  | nil =>
    obtain rfl := Outcome.pure_eq_ok.mp h
    rfl
  | cons item items ih =>
    rw [List.map_cons, List.foldlM_cons] at h
    obtain ⟨mid, hmid, hrest⟩ := Outcome.bind_eq_ok.mp h
    obtain ⟨db₁, hconsume, hinsert⟩ := Outcome.bind_eq_ok.mp hmid
    obtain ⟨-, rfl⟩ := consumePart_ok hconsume
    obtain rfl := insertItem_row hinsert
    rw [ih hrest, db.postAll_frame]
    rfl

theorem map_itemsIn_inserted {rows : List WorkOrderItem} (h : ∀ row ∈ rows, row.workOrderId = w)
    (old : Table WorkOrderItem) :
    (itemsIn (rows.foldl Table.insert old) w).map Prod.snd =
      (itemsIn old w).map Prod.snd ++ rows := by
  induction rows generalizing old with
  | nil => rw [List.foldl_nil, List.append_nil]
  | cons row rows ih =>
    obtain ⟨hrow, hrows⟩ := List.forall_mem_cons.mp h
    rw [List.foldl_cons, ih hrows, itemsIn, Table.filter_insert, if_pos (decide_eq_true hrow),
      List.map_append, List.append_assoc]
    rfl

/-- An order as its items are being entered: its items so far, and its total. -/
structure Entered (db : Db) (tenantId w : Uuid) (items : List WorkOrderItem) (total : ℤ) :
    Prop where
  items_eq : (db.itemsOf w).map Prod.snd = items
  total_eq : ∀ wo, db.workOrder? tenantId w = some wo → wo.grandTotal = total

def editedTotal (items : List WorkOrderItem) : ℤ :=
  inCents (Double.written (Double.nearest
    (Double.sum (items.map WorkOrderItem.base) + Double.sum (items.map WorkOrderItem.kdv))))

theorem WorkOrder.Recalculated.grandTotal_eq {wo : WorkOrder} {items : List WorkOrderItem}
    (h : wo.Recalculated items) : wo.grandTotal = editedTotal items :=
  (numeric_eq_ok.mp h.grandTotal).1.symm

theorem itemsIn_next (hplaced : db.ItemsPlaced) :
    itemsIn db.workOrderItems db.workOrders.next = [] := by
  rw [List.eq_nil_iff_forall_not_mem]
  rintro ⟨k, it⟩ hit
  obtain ⟨hget, horder⟩ := Table.mem_filter_iff.mp hit
  exact absurd (of_decide_eq_true horder) (hplaced k it hget).ne

theorem createWorkOrder_entered {input : CreateWorkOrderInput} {woNumber : String}
    (hplaced : db.ItemsPlaced)
    (h : createWorkOrder clock db (workOrderData t input woNumber) = .ok (db', w)) :
    Entered db' t w (input.items.map (·.row w))
      (sentTotal input.items) := by
  obtain ⟨hopened⟩ := createWorkOrder_ok h
  obtain ⟨-, vehicle, inserted, -, -, -, -, hinsert, hitems⟩ := createWorkOrder_steps h
  obtain ⟨order, _, _, rfl, rfl⟩ := insertWorkOrder_ok hinsert
  have hrows := storeNewItems_row hitems
  refine ⟨?_, ?_⟩
  · have hmine : ∀ row ∈ input.items.map (·.row db.workOrders.next),
        row.workOrderId = db.workOrders.next := by
      intro row hrow
      obtain ⟨item, -, rfl⟩ := List.mem_map.mp hrow
      rfl
    rw [Db.itemsOf_eq, hrows]
    have hall := map_itemsIn_inserted hmine db.workOrderItems
    rw [itemsIn_next hplaced] at hall
    exact hall
  · intro wo hwo
    obtain ⟨hget, -⟩ := Db.workOrder?_eq_some.mp hwo
    rw [hopened.orders, Table.get?_insert_self] at hget
    cases hget
    exact (numeric_eq_ok.mp hopened.opened.grandTotal).1.symm

theorem createWorkOrderUseCase_entered {input : CreateWorkOrderInput} (hplaced : db.ItemsPlaced)
    (h : createWorkOrderUseCase clock db t input = .ok (db', w)) :
    Entered db' t w (input.items.map (·.row w))
      (sentTotal input.items) := by
  obtain ⟨u, -, h₁⟩ := Outcome.bind_eq_ok.mp h
  obtain ⟨⟨db₁, woNumber⟩, hnumber, h₂⟩ := Outcome.bind_eq_ok.mp h₁
  obtain ⟨⟨db₂, n⟩, hnext, h₃⟩ := Outcome.bind_eq_ok.mp hnumber
  cases Outcome.pure_eq_ok.mp h₃
  obtain ⟨seqs, rfl⟩ := nextDocumentNumber_ok hnext
  have hplaced' : ({ db with documentSequences := seqs } : Db).ItemsPlaced := hplaced
  exact createWorkOrder_entered hplaced' h₂

theorem addItem_entered {item : NewWorkOrderItem} {items : List WorkOrderItem} {total : ℤ}
    (hdb : Entered db t w items total) (h : addItem db t w item = .ok db') :
    Entered db' t w (items ++ [item.row w]) (editedTotal (items ++ [item.row w])) := by
  obtain ⟨wo, inserted, hwo, hcov, hinsert, htotals⟩ := addItem_steps h
  obtain rfl := insertItem_row hinsert
  have hedited := OrderEdited.of_totals hwo hcov htotals
  have hframe := db.postAll_frame (item.consumption t w)
  have hitems : (db'.itemsOf w).map Prod.snd = items ++ [item.row w] := by
    have hrow : ∀ row ∈ [item.row w], row.workOrderId = w := by simp [NewWorkOrderItem.row]
    rw [Db.itemsOf_eq, hedited.items_eq, hframe, ← hdb.items_eq]
    exact map_itemsIn_inserted hrow db.workOrderItems
  refine ⟨hitems, fun wo' hwo' => ?_⟩
  obtain ⟨hget, -⟩ := Db.workOrder?_eq_some.mp hwo'
  rw [(hedited.totals wo' hget).grandTotal_eq, hitems]

theorem addItems_entered {dtos : List AddWorkOrderItemDto} {items : List WorkOrderItem}
    (hdb : Entered db t w items (editedTotal items))
    (h : dtos.foldlM (addWorkOrderItemUseCase t w) db = .ok db') :
    Entered db' t w (items ++ dtos.map fun dto => dto.item.row w)
      (editedTotal (items ++ dtos.map fun dto => dto.item.row w)) := by
  induction dtos generalizing db items with
  | nil =>
    obtain rfl := Outcome.pure_eq_ok.mp h
    rw [List.map_nil, List.append_nil]
    exact hdb
  | cons dto dtos ih =>
    rw [List.foldlM_cons] at h
    obtain ⟨mid, hmid, hrest⟩ := Outcome.bind_eq_ok.mp h
    obtain ⟨wo, -, hadd⟩ := Outcome.bind_eq_ok.mp hmid
    have hafter := ih (addItem_entered hdb hadd) hrest
    rw [List.append_assoc] at hafter
    exact hafter

theorem workOrderItem?_of_mem {k : Uuid} {it : WorkOrderItem} (h : (k, it) ∈ db.itemsOf w) :
    db.workOrderItem? w k = some it :=
  Db.workOrderItem?_eq_some.mpr (Db.mem_itemsOf.mp h)

theorem itemsIn_modify {items : Table WorkOrderItem} {k : Uuid} {it : WorkOrderItem}
    {done todo : List (Uuid × WorkOrderItem)} {f : WorkOrderItem → WorkOrderItem}
    (h : itemsIn items w = done ++ (k, it) :: todo) (hf : ∀ r, (f r).workOrderId = r.workOrderId) :
    itemsIn (items.modify k f) w = done ++ (k, f it) :: todo := by
  have hkeys := items.filter_keys_nodup fun r => r.workOrderId = w
  rw [itemsIn] at h
  rw [h, List.map_append, List.map_cons, List.nodup_append] at hkeys
  obtain ⟨-, htodo, hdone⟩ := hkeys
  have hsame : ∀ l : List (Uuid × WorkOrderItem), k ∉ l.map Prod.fst →
      (l.map fun q => (q.1, if q.1 = k then f q.2 else q.2)) = l := by
    intro l hl
    refine (List.map_congr_left fun q hq => ?_).trans (List.map_id l)
    have hne : q.1 ≠ k := by
      rintro rfl
      exact hl (List.mem_map_of_mem hq)
    rw [if_neg hne]
    rfl
  rw [itemsIn, Table.filter_modify fun r => by rw [hf r], h, List.map_append, List.map_cons,
    hsame done fun hk => hdone k hk k List.mem_cons_self rfl,
    hsame todo (List.nodup_cons.mp htodo).1, if_pos rfl]

theorem touchItem_entered {touch : Touch} {k : Uuid} {it : WorkOrderItem}
    {done todo : List (Uuid × WorkOrderItem)} (hdb : db.itemsOf w = done ++ (k, it) :: todo)
    (h : touchItem t w touch db (k, it) = .ok db') :
    db'.itemsOf w = done ++ (k, it.retotalled) :: todo ∧
      Entered db' t w ((done ++ (k, it.retotalled) :: todo).map Prod.snd)
        (editedTotal ((done ++ (k, it.retotalled) :: todo).map Prod.snd)) := by
  have hmem : (k, it) ∈ db.itemsOf w := by
    rw [hdb]
    exact List.mem_append_right _ List.mem_cons_self
  have hfound := workOrderItem?_of_mem hmem
  obtain ⟨hname, hprice, hquantity⟩ := touch.keeps it
  obtain ⟨item, -, hupdate⟩ := Outcome.bind_eq_ok.mp h
  obtain ⟨wo, hwo, h₁⟩ := Outcome.bind_eq_ok.mp hupdate
  obtain ⟨it', hit, h₂⟩ := Outcome.bind_eq_ok.mp h₁
  cases hfound.symm.trans (Outcome.required_eq_ok.mp hit)
  obtain ⟨u, -, h₃⟩ := Outcome.bind_eq_ok.mp h₂
  obtain ⟨db₁, hadjust, h₄⟩ := Outcome.bind_eq_ok.mp h₃
  obtain ⟨unitPrice, hp, h₅⟩ := Outcome.bind_eq_ok.mp h₄
  obtain ⟨quantity, hq, h₆⟩ := Outcome.bind_eq_ok.mp h₅
  obtain ⟨totalPrice, ht, h₇⟩ := Outcome.bind_eq_ok.mp h₆
  obtain ⟨hcov, rfl⟩ := adjustPart_ok hadjust
  rw [hprice] at hp ht
  rw [hquantity] at hq ht
  obtain ⟨rfl, -⟩ := int4_eq_ok.mp hq
  obtain ⟨hp, -⟩ := numeric_eq_ok.mp hp
  obtain ⟨rfl, -⟩ := numeric_eq_ok.mp ht
  rw [toNumber_mul, roundAway_intCast] at hp
  have hedited := OrderEdited.of_totals (Outcome.required_eq_ok.mp hwo) hcov h₇
  have hget := (Db.workOrderItem?_eq_some.mp hfound).1
  have hrevised : WorkOrderItem.revise ((touch.data it).name.elim it.name jsTrim) unitPrice
      it.quantity (roundAway (priceWithKdv (toNumber it.unitPrice) it.quantity
        (toNumber it.kdvRate) * 100)) it =
      it.retotalled := by
    rw [hname, ← hp]
    rfl
  have hitems : db'.itemsOf w = done ++ (k, it.retotalled) :: todo := by
    rw [Db.itemsOf_eq, hedited.items_eq, db.postAll_frame, Table.modify_congr hget hrevised]
    exact itemsIn_modify hdb fun r => rfl
  refine ⟨hitems, congrArg (List.map Prod.snd) hitems, fun wo' hwo' => ?_⟩
  obtain ⟨hnew, -⟩ := Db.workOrder?_eq_some.mp hwo'
  rw [(hedited.totals wo' hnew).grandTotal_eq, hitems]

theorem touchItems_entered {touch : Touch} {done todo : List (Uuid × WorkOrderItem)} {total : ℤ}
    (hdb : db.itemsOf w = done ++ todo)
    (hentered : Entered db t w ((done ++ todo).map Prod.snd) total)
    (hempty : todo = [] → total = editedTotal (done.map Prod.snd))
    (h : todo.foldlM (touchItem t w touch) db = .ok db') :
    Entered db' t w (done.map Prod.snd ++ todo.map fun it => it.2.retotalled)
      (editedTotal (done.map Prod.snd ++ todo.map fun it => it.2.retotalled)) := by
  induction todo generalizing db done total with
  | nil =>
    obtain rfl := Outcome.pure_eq_ok.mp h
    rw [List.append_nil] at hentered
    rw [List.map_nil, List.append_nil, ← hempty rfl]
    exact hentered
  | cons it todo ih =>
    rw [List.foldlM_cons] at h
    obtain ⟨mid, hmid, hrest⟩ := Outcome.bind_eq_ok.mp h
    obtain ⟨hitems, hnow⟩ := touchItem_entered hdb hmid
    have hsplit : done ++ (it.1, it.2.retotalled) :: todo =
        (done ++ [(it.1, it.2.retotalled)]) ++ todo := by
      rw [List.append_assoc, List.singleton_append]
    rw [hsplit] at hitems hnow
    have hall := ih hitems hnow (by rintro rfl; rw [List.append_nil]) hrest
    rw [List.map_append, List.append_assoc] at hall
    exact hall

theorem Entered.updateStatus {items : List WorkOrderItem} {total : ℤ} {newStatus : String}
    (hdb : Entered db t w items total)
    (h : updateWorkOrderStatusUseCase clock db t w newStatus = .ok db') :
    Entered db' t w items total := by
  obtain ⟨⟨target, read⟩, -, h₁⟩ := Outcome.bind_eq_ok.mp h
  obtain ⟨found, -, h₂⟩ := Outcome.bind_eq_ok.mp h₁
  obtain ⟨wo, hwo, rfl⟩ := writeStatus_ok h₂
  refine ⟨hdb.items_eq, fun wo' hwo' => ?_⟩
  obtain ⟨hget, htenant⟩ := Db.workOrder?_eq_some.mp hwo'
  rw [Table.get?_modify_self hwo] at hget
  cases hget
  exact hdb.total_eq wo (Db.workOrder?_eq_some.mpr ⟨hwo, htenant⟩)

end Rows

namespace EntryWay

def rows (way : EntryWay) (w : Uuid) (items : List CreateWorkOrderItemInput) :
    List WorkOrderItem :=
  match way with
  | atCreation => items.map fun item => item.row w
  | oneByOne => items.map fun item => item.dto.item.row w
  | touched => items.map fun item => (item.row w).retotalled

def value : EntryWay → CreateWorkOrderItemInput → ℚ
  | atCreation, item => Double.written item.lineTotal
  | oneByOne, item => item.gross
  | touched, item => item.heldGross

def orderTotal : EntryWay → List CreateWorkOrderItemInput → ℤ
  | atCreation, items => sentTotal items
  | oneByOne, items => heldOrderTotal (·.rate) items
  | touched, items => heldOrderTotal (·.storedRate) items

theorem sentTotal_nil : sentTotal [] = editedTotal [] := rfl

theorem editedTotal_map {items : List CreateWorkOrderItemInput}
    {row : CreateWorkOrderItemInput → WorkOrderItem} {rate : CreateWorkOrderItemInput → ℚ}
    (hbase : ∀ item, (row item).base = item.heldTotal)
    (hrate : ∀ item, toNumber (row item).kdvRate = held (rate item)) :
    editedTotal (items.map row) = heldOrderTotal rate items := by
  have hbases : (items.map row).map WorkOrderItem.base =
      items.map CreateWorkOrderItemInput.heldTotal := by
    rw [List.map_map]
    exact List.map_congr_left fun item _ => hbase item
  have hkdvs : (items.map row).map WorkOrderItem.kdv =
      items.map fun item => kdvOn item.heldTotal (held (rate item)) := by
    rw [List.map_map]
    apply List.map_congr_left
    intro item _
    rw [Function.comp_apply, WorkOrderItem.kdv, hbase, hrate]
  rw [editedTotal, hbases, hkdvs, heldOrderTotal]

section Entering

variable {clock : Clock} {db db' : Db} {t w : Uuid} {input : CreateWorkOrderInput} {touch : Touch}

theorem enter_entered (way : EntryWay) (hplaced : db.ItemsPlaced)
    (h : way.enter clock db t input touch = .ok (db', w)) :
    Entered db' t w (way.rows w input.items) (way.orderTotal input.items) := by
  cases way with
  | atCreation => exact createWorkOrderUseCase_entered hplaced h
  | oneByOne =>
    obtain ⟨⟨db₁, id⟩, hcreate, h₁⟩ := Outcome.bind_eq_ok.mp h
    obtain ⟨db₂, hadd, h₂⟩ := Outcome.bind_eq_ok.mp h₁
    cases Outcome.pure_eq_ok.mp h₂
    have hnew := createWorkOrderUseCase_entered hplaced hcreate
    rw [List.map_nil, sentTotal_nil] at hnew
    have hall := addItems_entered hnew hadd
    rw [List.nil_append, List.map_map] at hall
    have htotal : editedTotal (input.items.map fun item => item.dto.item.row w) =
        orderTotal oneByOne input.items :=
      editedTotal_map (fun item => rfl) fun item => rfl
    rw [← htotal]
    exact hall
  | touched =>
    obtain ⟨⟨db₁, id⟩, hcreate, h₁⟩ := Outcome.bind_eq_ok.mp h
    obtain ⟨db₂, htouch, h₂⟩ := Outcome.bind_eq_ok.mp h₁
    cases Outcome.pure_eq_ok.mp h₂
    have hnew := createWorkOrderUseCase_entered hplaced hcreate
    have hall := touchItems_entered (List.nil_append _).symm
      (by rw [List.nil_append]; exact ⟨rfl, hnew.total_eq⟩) ?_ htouch
    · have hrows : (db₁.itemsOf w).map (fun it => it.2.retotalled) =
          rows touched w input.items := by
        have hmap := congrArg (List.map WorkOrderItem.retotalled) hnew.items_eq
        rw [List.map_map, List.map_map] at hmap
        exact hmap
      have htotal : editedTotal (rows touched w input.items) = orderTotal touched input.items :=
        editedTotal_map (fun item => rfl) fun item => rfl
      rw [List.map_nil, List.nil_append, hrows, htotal] at hall
      exact hall
    · intro hnone
      have hitems := hnew.items_eq
      rw [hnone, List.map_nil] at hitems
      rw [List.map_eq_nil_iff.mp hitems.symm]
      exact sentTotal_nil

theorem completed_order {way : EntryWay} {times : OrderTimes} {o : CompletedOrder}
    (hplaced : db.ItemsPlaced) (h : way.completed times db t input touch = .ok (db', o)) :
    ∃ w, o.items = way.rows w input.items ∧
      o.order.grandTotal = way.orderTotal input.items := by
  obtain ⟨⟨db₁, id⟩, henter, h₁⟩ := Outcome.bind_eq_ok.mp h
  obtain ⟨db₂, hstart, h₂⟩ := Outcome.bind_eq_ok.mp h₁
  obtain ⟨db₃, hcomplete, h₃⟩ := Outcome.bind_eq_ok.mp h₂
  obtain ⟨order, hread, h₄⟩ := Outcome.bind_eq_ok.mp h₃
  cases Outcome.pure_eq_ok.mp h₄
  have hentered := ((enter_entered way hplaced henter).updateStatus hstart).updateStatus hcomplete
  exact ⟨id, hentered.items_eq, hentered.total_eq order (Outcome.required_eq_ok.mp hread)⟩

end Entering

section Totals

variable (way : EntryWay) (w : Uuid) (items : List CreateWorkOrderItemInput)

theorem rows_eq : ∃ row : CreateWorkOrderItemInput → WorkOrderItem, way.rows w items = items.map row ∧
    ∀ item, (row item).kind = item.kind ∧ (row item).quantity = item.quantity ∧
      (row item).totalPrice = inCents (way.value item) := by
  cases way with
  | atCreation => exact ⟨_, rfl, fun item => ⟨rfl, rfl, rfl⟩⟩
  | oneByOne => exact ⟨_, rfl, fun item => ⟨rfl, rfl, rfl⟩⟩
  | touched => exact ⟨_, rfl, fun item => ⟨rfl, rfl, rfl⟩⟩

theorem map_amount_rows :
    (way.rows w items).map WorkOrderItem.amount = items.map fun item => (item.kind, item.quantity) := by
  obtain ⟨row, hrows, hrow⟩ := way.rows_eq w items
  rw [hrows, List.map_map]
  apply List.map_congr_left
  intro item _
  exact Prod.ext (hrow item).1 (hrow item).2.1

theorem map_totalPrice_rows : (way.rows w items).map WorkOrderItem.totalPrice =
    items.map fun item => inCents (way.value item) := by
  obtain ⟨row, hrows, hrow⟩ := way.rows_eq w items
  rw [hrows, List.map_map]
  exact List.map_congr_left fun item _ => (hrow item).2.2

theorem revenue_rows {o : CompletedOrder} (hitems : o.items = way.rows w items)
    (htotal : o.order.grandTotal = way.orderTotal items) :
    o.revenue = revenueOf way.value (way.orderTotal items) items := by
  rw [CompletedOrder.revenue, htotal, hitems, map_totalPrice_rows, revenueOf]

end Totals

end EntryWay

theorem kindTotal_congr {items items' : List WorkOrderItem}
    (hamounts : items.map WorkOrderItem.amount = items'.map WorkOrderItem.amount)
    (htotals : items.map WorkOrderItem.totalPrice = items'.map WorkOrderItem.totalPrice)
    (kind : LineKind) : kindTotal kind items = kindTotal kind items' := by
  induction items generalizing items' with
  | nil =>
    obtain rfl := List.map_eq_nil_iff.mp hamounts.symm
    rfl
  | cons it items ih =>
    cases items' with
    | nil => simp at hamounts
    | cons it' items' =>
      rw [List.map_cons, List.map_cons, List.cons.injEq] at hamounts htotals
      have hkind : it.kind = it'.kind := congrArg Prod.fst hamounts.1
      have hrest := ih hamounts.2 htotals.2
      rw [kindTotal, List.map_cons, List.sum_cons, hkind, htotals.1]
      exact congrArg (_ + ·) hrest

/-- The items of the two orders are stored at the same totals, and no report shows which of
the orders it is drawn up from. -/
structure EnteredAlike (o o' : CompletedOrder) : Prop where
  totals : o.items.map WorkOrderItem.totalPrice = o'.items.map WorkOrderItem.totalPrice
  report : Interchangeable o o'

theorem enteredAlike_iff {o o' : CompletedOrder}
    (hitems : o.items.map WorkOrderItem.amount = o'.items.map WorkOrderItem.amount) :
    EnteredAlike o o' ↔
      o.items.map WorkOrderItem.totalPrice = o'.items.map WorkOrderItem.totalPrice ∧
        o.revenue = o'.revenue := by
  constructor
  · rintro ⟨htotals, hreport⟩
    exact ⟨htotals, ((interchangeable_iff hitems).mp hreport).revenue⟩
  · rintro ⟨htotals, hrevenue⟩
    exact ⟨htotals,
      (interchangeable_iff hitems).mpr ⟨kindTotal_congr hitems htotals, hrevenue⟩⟩

theorem kdvVanishes_iff (items : List CreateWorkOrderItemInput) :
    KdvVanishes items ↔ ∀ way : EntryWay,
      (items.map fun item => inCents (way.value item)) =
          (items.map fun item => inCents (EntryWay.atCreation.value item)) ∧
        revenueOf way.value (way.orderTotal items) items =
          revenueOf EntryWay.atCreation.value (EntryWay.atCreation.orderTotal items) items := by
  simp only [List.map_inj_left]
  constructor
  · rintro ⟨hsent, hstored, hsentOrder, hstoredOrder⟩ way
    cases way with
    | atCreation => exact ⟨fun _ _ => rfl, rfl⟩
    | oneByOne => exact ⟨hsent, hsentOrder⟩
    | touched => exact ⟨hstored, hstoredOrder⟩
  · intro h
    exact ⟨(h .oneByOne).1, (h .touched).1, (h .oneByOne).2, (h .touched).2⟩

section Sample

/-- An order with one line of labour, which costs the given price at the given rate. -/
def checkOrder (unitPrice kdvRate : ℚ) : CreateWorkOrderInput :=
  { padOrder with
    items :=
      [{ itemType := some .service, itemId := none, name := "Kontrol", quantity := 1, unitPrice,
         kdvRate := some kdvRate }] }

/-- Nothing is changed, and whoever works on the order may touch its items. -/
def idleTouch : Touch where
  data := fun _ => { name := none, unitPrice := none, quantity := none }
  userRole := some .technician
  keeps := fun _ => ⟨rfl, rfl, rfl⟩

def sampleTimes : OrderTimes where
  opened := { now := 0, year := 2026 }
  started := { now := 1, year := 2026 }
  completed := { now := 2, year := 2026 }
  updatedAt := fun _ => 2

def checked (unitPrice kdvRate : ℚ) (way : EntryWay) : Outcome (Db × CompletedOrder) :=
  way.completed sampleTimes shopDb 0 (checkOrder unitPrice kdvRate) idleTouch

def checkedOrder (unitPrice kdvRate : ℚ) (way : EntryWay) : Db × CompletedOrder :=
  (checked unitPrice kdvRate way).toOption.getD (shopDb, otherOrder 0 (lineItem .service 0))

theorem checked_eq_ok {unitPrice kdvRate : ℚ} {way : EntryWay}
    (h : (checked unitPrice kdvRate way).isOk = true) :
    checked unitPrice kdvRate way = .ok (checkedOrder unitPrice kdvRate way) := by
  obtain ⟨x, hx⟩ := Outcome.isOk_iff.mp h
  rw [checkedOrder, hx]
  rfl

/-- What the report of a period makes of an order, and how its items are stored. -/
def checkedReport (unitPrice kdvRate : ℚ) (way : EntryWay) :
    ShownFigures × List (ℤ × ℤ × ℤ × ℤ) :=
  let (db, o) := checkedOrder unitPrice kdvRate way
  ((getFinancialReport db (fun _ => 2) 0 0 10).figures.1,
    o.items.map fun it => (it.unitPrice, it.quantity, it.kdvRate, it.totalPrice))

end Sample

end WorksAuto
