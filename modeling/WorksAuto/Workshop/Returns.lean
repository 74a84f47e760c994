import WorksAuto.Workshop.Conservation

/-! Returns of an order's parts under concurrency.
Status updates, removals and quantity changes of one order interleave part by
part. What was taken for the order and not returned is what its items hold, as
long as the parts of a cancelled order are read for their return only once and
what was read stays on the order. -/

namespace WorksAuto

open Lib

section Movements

/-- The quantity of a product that movements have taken for an order. -/
def Db.taken (db : Db) (w p : Uuid) : ℤ :=
  db.stockMovements.sumBy fun m =>
    if m.movementType = .outWorkOrder ∧ m.referenceId = orderReference w ∧ m.productId = p then
      m.quantity
    else 0

/-- The quantity of a product that movements have returned from an order. -/
def Db.returned (db : Db) (w p : Uuid) : ℤ :=
  db.stockMovements.sumBy fun m =>
    if m.movementType = .return ∧ m.referenceId = orderReference w ∧ m.productId = p then
      m.quantity
    else 0

def StockMovement.owes (w p : Uuid) (m : StockMovement) : ℤ :=
  if m.referenceId = orderReference w ∧ m.productId = p then
    match m.movementType with
    | .outWorkOrder => m.quantity
    | .return => -m.quantity
    | _ => 0
  else 0

def Db.owed (db : Db) (w p : Uuid) : ℤ := db.stockMovements.sumBy (StockMovement.owes w p)

theorem Db.owed_add_returned (db : Db) (w p : Uuid) :
    db.owed w p + db.returned w p = db.taken w p := by
  unfold owed returned taken
  rw [← Table.sumBy_add]
  apply Table.sumBy_congr
  intro k m _
  unfold StockMovement.owes
  cases m.movementType <;> simp
  split_ifs <;> simp

theorem orderReference_inj {v w : Uuid} : orderReference v = orderReference w ↔ v = w := by
  constructor
  · exact fun h => repr_injective (Option.some.inj h)
  · rintro rfl
    rfl

def ForOrder (w : Uuid) (ms : List StockMovement) : Prop :=
  ∀ m ∈ ms, (m.movementType = .outWorkOrder ∨ m.movementType = .return) ∧
    m.referenceId = orderReference w

variable {t v w p : Uuid}

theorem ForOrder.owes {ms : List StockMovement} (h : ForOrder v ms) :
    (ms.map (StockMovement.owes w p)).sum = if v = w then -net ms p else 0 := by
  induction ms with
  | nil => simp
  | cons m ms ih =>
    obtain ⟨⟨htype, href⟩, hms⟩ := List.forall_mem_cons.mp h
    have howes : m.owes w p = if v = w then -(if m.productId = p then m.delta else 0) else 0 := by
      rcases htype with ht | ht <;> by_cases hw : v = w <;> by_cases hp : m.productId = p <;>
        simp [StockMovement.owes, href, orderReference_inj, hw, hp, ht, StockMovement.delta,
          StockMovement.apply]
    rw [List.map_cons, List.sum_cons, ih hms, net_cons, howes]
    split_ifs <;> omega

theorem WorkOrderItem.forOrder_adjustment (it : WorkOrderItem) (diff : ℤ) :
    ForOrder w (it.adjustment t w diff) := by
  intro m hm
  unfold adjustment at hm
  split_ifs at hm
  · obtain ⟨q, -, rfl⟩ := List.mem_map.mp hm
    exact ⟨.inl rfl, rfl⟩
  · obtain ⟨q, -, rfl⟩ := List.mem_map.mp hm
    exact ⟨.inr rfl, rfl⟩
  · cases hm

theorem WorkOrderItem.forOrder_returning (it : WorkOrderItem) : ForOrder w (it.returning t w) := by
  intro m hm
  obtain ⟨q, -, rfl⟩ := List.mem_map.mp hm
  exact ⟨.inr rfl, rfl⟩

theorem forOrder_restoration (items : List (Uuid × WorkOrderItem)) :
    ForOrder w (restoration t w items) := by
  intro m hm
  obtain ⟨it, -, hit⟩ := List.mem_flatMap.mp hm
  exact it.2.forOrder_returning m hit

theorem Db.owed_postAll (db : Db) {ms : List StockMovement} (h : ForOrder v ms) :
    (db.postAll ms).owed w p = db.owed w p - if v = w then net ms p else 0 := by
  rw [owed, db.postAll_movements, Table.sumBy_foldl_insert, h.owes, owed]
  split_ifs <;> omega

end Movements

section Edits

variable {db db' : Db} {t v w : Uuid}

def SameOwed (w : Uuid) (db db' : Db) : Prop :=
  ∀ p, db'.owed w p - db'.onOrder w p = db.owed w p - db.onOrder w p

theorem OrderEdited.owed {ms : List StockMovement} {items : Table WorkOrderItem}
    (h : OrderEdited db t v ms items db') (hms : ForOrder v ms) (p : Uuid) :
    db'.owed w p = db.owed w p - if v = w then net ms p else 0 := by
  rw [← db.owed_postAll hms, Db.owed, h.movements, Db.owed]

theorem ItemChanged.sameOwed {k : Uuid} {it : WorkOrderItem} {name : String}
    {unitPrice quantity totalPrice : ℤ} (found : db.workOrderItem? v k = some it)
    (h : OrderEdited db t v (it.adjustment t v (quantity - it.quantity))
      (db.workOrderItems.modify k (WorkOrderItem.revise name unitPrice quantity totalPrice)) db') :
    SameOwed w db db' := by
  intro p
  obtain ⟨hget, horder⟩ := Db.workOrderItem?_eq_some.mp found
  have hsum := Table.sumBy_modify hget (WorkOrderItem.revise name unitPrice quantity totalPrice)
    fun it => if it.workOrderId = w then it.takes p else 0
  have hsame : (it.revise name unitPrice quantity totalPrice).workOrderId = v := horder
  have htakes : (it.revise name unitPrice quantity totalPrice).takes p =
      if it.part? = some p then quantity else 0 := rfl
  simp only [horder, hsame, htakes] at hsum
  rw [h.owed (it.forOrder_adjustment _), it.net_adjustment, Db.onOrder, h.items_eq, Db.onOrder]
  unfold WorkOrderItem.takes at hsum ⊢
  split_ifs at hsum ⊢ <;> omega

theorem ItemRemoved.sameOwed {k : Uuid} {it : WorkOrderItem}
    (found : db.workOrderItem? v k = some it)
    (h : OrderEdited db t v (it.returning t v) (db.workOrderItems.erase k) db') :
    SameOwed w db db' := by
  intro p
  obtain ⟨hget, horder⟩ := Db.workOrderItem?_eq_some.mp found
  have hsum := Table.sumBy_erase hget fun it => if it.workOrderId = w then it.takes p else 0
  have hnet : net (it.returning t v) p = it.takes p := net_return t v p _ _
  simp only [horder] at hsum
  rw [h.owed it.forOrder_returning, hnet, Db.onOrder, h.items_eq, Db.onOrder]
  split_ifs at hsum ⊢ <;> omega

end Edits

section Watch

/-- How far the parts of an order have got on their way back to stock. -/
inductive Restoration where
  | untouched
  | read (thread : ℕ) (parts : List (Uuid × WorkOrderItem))
  | returned (parts : List (Uuid × WorkOrderItem))
  deriving DecidableEq, Repr

def partsOf (items : List (Uuid × WorkOrderItem)) : List (Uuid × WorkOrderItem) :=
  items.filter fun it => it.2.part?.isSome

namespace Restoration

def parts : Restoration → List (Uuid × WorkOrderItem)
  | untouched => []
  | read _ parts => parts
  | returned parts => parts

/-- The quantity of a product that was returned but is still on the order. -/
def settled (p : Uuid) : Restoration → ℤ
  | returned parts => (parts.map fun it => it.2.takes p).sum
  | _ => 0

end Restoration

def WorkshopTask.watch (w : Uuid) (thread : ℕ) (db : Db) (g : Restoration) :
    WorkshopTask → Restoration
  | .readCancelled u =>
    if u.id = w ∧ (db.workOrder? u.tenantId u.id).isSome ∧ partsOf (db.itemsOf u.id) ≠ [] then
      .read thread (partsOf (db.itemsOf u.id))
    else g
  | .restoreStock u items =>
    if u.id = w ∧ partsOf items ≠ [] then
      match restoreCancelledStock db u.tenantId u.id items with
      | .ok _ => .returned (partsOf items)
      | .error _ => .untouched
    else g
  | _ => g

def WorkshopPool.watch (w : Uuid) (p : WorkshopPool) (g : Restoration) :
    PoolAction WorkshopRequest WorkshopEnv → Restoration
  | .start _ => g
  | .step k _ => (p.threads.get? k).elim g fun t => t.watch w k p.shared g

/-- The parts of the order are read for their return once, and what was read is
not taken off the order afterwards. -/
def WorkshopTask.Orderly (w : Uuid) (db : Db) (g : Restoration) : WorkshopTask → Prop
  | .readCancelled u => u.id = w → partsOf (db.itemsOf u.id) = [] ∨ g = .untouched
  | .deleteItem _ workOrderId itemId => workOrderId = w → itemId ∉ g.parts.map Prod.fst
  | .changeItem _ workOrderId itemId data => workOrderId = w →
    ∀ it ∈ g.parts, it.1 = itemId → ∀ q ∈ data.quantity, it.2.quantity ≤ q
  | _ => True

instance (w : Uuid) (db : Db) (g : Restoration) (t : WorkshopTask) :
    Decidable (t.Orderly w db g) := by
  induction t using WorkshopTask.casesOn <;> unfold WorkshopTask.Orderly <;> infer_instance

def WorkshopPool.Orderly (w : Uuid) (s : WorkshopPool × Restoration) :
    PoolAction WorkshopRequest WorkshopEnv → Prop
  | .start _ => True
  | .step k _ => ∀ t ∈ s.1.threads.get? k, t.Orderly w s.1.shared s.2

/-- Status updates, item changes and item removals, with what follows from them. -/
def WorkshopTask.HandlesOrder (t : WorkshopTask) : Prop :=
  t.useCase = .edit ∨ t.useCase = .status ∨ t.useCase = .issue ∨ t.useCase = .finished

def WorkshopRequest.HandlesOrder : WorkshopRequest → Prop
  | .updateWorkOrderStatus .. => True
  | .removeWorkOrderItem .. => True
  | .updateWorkOrderItemQuantity .. => True
  | _ => False

/-- What was taken for the order and not returned covers its items, those apart
that were returned while they stay on the order. -/
structure Db.Accounts (db : Db) (w : Uuid) (g : Restoration) : Prop where
  keys : (g.parts.map Prod.fst).Nodup
  kept : ∀ it ∈ g.parts, ∃ row, db.workOrderItems.get? it.1 = some row ∧ row.workOrderId = w ∧
    row.part? = it.2.part? ∧ it.2.quantity ≤ row.quantity
  positive : ∀ k it p, db.workOrderItems.get? k = some it → it.workOrderId = w →
    it.part? = some p → 0 ≤ it.quantity
  owed : ∀ p, db.onOrder w p ≤ db.owed w p + g.settled p

theorem WorkshopTask.HandlesOrder.exec {db : Db} {t : WorkshopTask} {env : WorkshopEnv}
    (h : t.HandlesOrder) : (t.exec db env).2.HandlesOrder := by
  unfold HandlesOrder at h ⊢
  rcases useCase_exec db t env with hnext | hnext | ⟨-, hnext⟩
  · rw [hnext]
    exact h
  · exact .inr (.inr (.inr hnext))
  · exact .inr (.inr (.inl hnext))

variable {db db' : Db} {w : Uuid} {g : Restoration}

theorem Db.Accounts.returned_le (h : db.Accounts w g) (p : Uuid) :
    db.returned w p ≤ db.taken w p := by
  have htakes : ∀ k row, db.workOrderItems.get? k = some row →
      0 ≤ if row.workOrderId = w then row.takes p else 0 := by
    intro k row hrow
    split_ifs with hw
    · exact WorkOrderItem.takes_nonneg (fun q hq => h.positive k row q hrow hw hq) p
    · exact le_rfl
  have hsettled : g.settled p ≤ db.onOrder w p := by
    cases g with
    | untouched => exact Table.sumBy_nonneg htakes
    | read thread parts => exact Table.sumBy_nonneg htakes
    | returned parts =>
      refine Table.sum_le_sumBy Prod.fst h.keys (fun it hit => ?_) htakes
      obtain ⟨row, hrow, hw, hpart, hle⟩ := h.kept it hit
      refine ⟨row, hrow, ?_⟩
      rw [if_pos hw, WorkOrderItem.takes, WorkOrderItem.takes, hpart]
      split_ifs
      · exact hle
      · exact le_rfl
  have howed := h.owed p
  have hsum := db.owed_add_returned w p
  omega

theorem Db.Accounts.congr (h : db.Accounts w g) (hi : db'.workOrderItems = db.workOrderItems)
    (hm : db'.stockMovements = db.stockMovements) : db'.Accounts w g := by
  refine ⟨h.keys, ?_, ?_, fun p => ?_⟩
  · rw [hi]
    exact h.kept
  · rw [hi]
    exact h.positive
  · have howed := h.owed p
    simp only [onOrder, Db.owed, hi, hm] at howed ⊢
    exact howed

theorem ItemChanged.accounts {t v k : Uuid} {data : WorkOrderItemChanges} {it : WorkOrderItem}
    {name : String} {unitPrice quantity totalPrice : ℤ} (hacc : db.Accounts w g)
    (hord : (WorkshopTask.changeItem t v k data).Orderly w db g)
    (found : db.workOrderItem? v k = some it) (hq : quantity = data.quantity.getD it.quantity)
    (hpos : ∀ q ∈ data.quantity, 0 < q)
    (h : OrderEdited db t v (it.adjustment t v (quantity - it.quantity))
      (db.workOrderItems.modify k (WorkOrderItem.revise name unitPrice quantity totalPrice)) db') :
    db'.Accounts w g := by
  obtain ⟨hget, horder⟩ := Db.workOrderItem?_eq_some.mp found
  refine ⟨hacc.keys, fun part hpart => ?_, fun i row p hrow hw hp => ?_, fun p => ?_⟩
  · obtain ⟨row, hrow, hw, hsame, hle⟩ := hacc.kept part hpart
    rw [h.items_eq, Table.get?_modify, hrow]
    refine ⟨_, rfl, ?_⟩
    split_ifs with hik
    · subst hik
      cases hget.symm.trans hrow
      refine ⟨hw, hsame, ?_⟩
      have hnew := hord (horder.symm.trans hw) part hpart rfl
      have hrevised : (it.revise name unitPrice quantity totalPrice).quantity = quantity := rfl
      rw [hrevised, hq]
      cases hdata : data.quantity with
      | none => exact hle
      | some q => exact hnew q hdata
    · exact ⟨hw, hsame, hle⟩
  · rw [h.items_eq, Table.get?_modify] at hrow
    obtain ⟨old, hold, rfl⟩ := Option.map_eq_some_iff.mp hrow
    split_ifs at hw hp ⊢ with hik
    · subst hik
      cases hget.symm.trans hold
      have hrevised : (it.revise name unitPrice quantity totalPrice).quantity = quantity := rfl
      rw [hrevised, hq]
      cases hdata : data.quantity with
      | none => exact hacc.positive i it p hget hw hp
      | some q => exact (hpos q hdata).le
    · exact hacc.positive i old p hold hw hp
  · have hsame := ItemChanged.sameOwed (w := w) found h p
    have howed := hacc.owed p
    omega

theorem ItemRemoved.accounts {t v k : Uuid} {it : WorkOrderItem} (hacc : db.Accounts w g)
    (hord : (WorkshopTask.deleteItem t v k).Orderly w db g)
    (found : db.workOrderItem? v k = some it)
    (h : OrderEdited db t v (it.returning t v) (db.workOrderItems.erase k) db') :
    db'.Accounts w g := by
  obtain ⟨hget, horder⟩ := Db.workOrderItem?_eq_some.mp found
  refine ⟨hacc.keys, fun part hpart => ?_, fun i row p hrow hw hp => ?_, fun p => ?_⟩
  · obtain ⟨row, hrow, hw, hsame, hle⟩ := hacc.kept part hpart
    have hne : part.1 ≠ k := by
      rintro rfl
      cases hget.symm.trans hrow
      exact hord (horder.symm.trans hw) (List.mem_map.mpr ⟨part, hpart, rfl⟩)
    refine ⟨row, ?_, hw, hsame, hle⟩
    rw [h.items_eq, Table.get?_erase, if_neg hne]
    exact hrow
  · rw [h.items_eq, Table.get?_erase] at hrow
    split_ifs at hrow
    exact hacc.positive i row p hrow hw hp
  · have hsame := ItemRemoved.sameOwed (w := w) found h p
    have howed := hacc.owed p
    omega

theorem WorkshopEffect.accounts {e : WorkshopEnv} {t : WorkshopTask}
    (hacc : db.Accounts w g) (ht : t.HandlesOrder) (hord : t.Orderly w db g)
    (hrestore : ∀ u items, t ≠ .restoreStock u items) (h : WorkshopEffect db e t db') :
    db'.Accounts w g := by
  cases h with
  | quiet h => exact hacc.congr h.workOrderItems h.stockMovements
  | changed found quantity_eq positive fits h =>
    exact ItemChanged.accounts hacc hord found quantity_eq positive h
  | removed found h => exact ItemRemoved.accounts hacc hord found h
  | statusWritten found => exact hacc.congr rfl rfl
  | restored covered => exact absurd rfl (hrestore _ _)
  | issued h => exact hacc.congr h.items h.stockMovements
  | detailed => exact hacc.congr rfl rfl
  | opened | added | rolledBack | voided | withdrawn | decremented | incremented | saved
  | recorded => simp [WorkshopTask.HandlesOrder, WorkshopTask.useCase] at ht

theorem partsOf_takes (items : List (Uuid × WorkOrderItem)) (p : Uuid) :
    ((partsOf items).map fun it => it.2.takes p).sum = (items.map fun it => it.2.takes p).sum := by
  induction items with
  | nil => rfl
  | cons it items ih =>
    rw [partsOf, List.filter_cons, List.map_cons, List.sum_cons, ← ih]
    split_ifs with hpart
    · rw [List.map_cons, List.sum_cons]
      rfl
    · have hnone : it.2.takes p = 0 := by
        rw [WorkOrderItem.takes, if_neg]
        intro hp
        simp [hp] at hpart
      rw [hnone, zero_add]
      rfl

theorem Db.Accounts.read (h : db.Accounts w .untouched) (thread : ℕ) :
    db.Accounts w (.read thread (partsOf (db.itemsOf w))) := by
  have hsub : List.Sublist (partsOf (db.itemsOf w)) db.workOrderItems.rows :=
    List.filter_sublist.trans List.filter_sublist
  refine ⟨db.workOrderItems.keys_nodup.sublist (hsub.map _), fun it hit => ?_, h.positive, h.owed⟩
  obtain ⟨hrow, hw⟩ := Table.mem_filter_iff.mp (List.mem_of_mem_filter hit)
  exact ⟨it.2, hrow, by simpa using hw, rfl, le_rfl⟩

theorem Db.Accounts.other_restored {u : StatusUpdate} {items : List (Uuid × WorkOrderItem)}
    (h : db.Accounts w g) (hother : ¬ (u.id = w ∧ partsOf items ≠ [])) :
    (db.postAll (restoration u.tenantId u.id items)).Accounts w g := by
  have hitems : (db.postAll (restoration u.tenantId u.id items)).workOrderItems =
      db.workOrderItems := by rw [db.postAll_frame]
  refine ⟨h.keys, ?_, ?_, fun p => ?_⟩
  · rw [hitems]
    exact h.kept
  · rw [hitems]
    exact h.positive
  · have howed := h.owed p
    have hnone : (if u.id = w then net (restoration u.tenantId u.id items) p else 0) = 0 := by
      split_ifs with hw
      · have hparts : partsOf items = [] := by
          by_contra hne
          exact hother ⟨hw, hne⟩
        rw [net_restoration, ← partsOf_takes, hparts]
        rfl
      · rfl
    rw [db.owed_postAll (forOrder_restoration items), hnone, sub_zero, onOrder, hitems]
    exact howed

theorem Db.Accounts.restored {u : StatusUpdate} {items : List (Uuid × WorkOrderItem)}
    {thread : ℕ} (h : db.Accounts w (.read thread (partsOf items))) (hw : u.id = w) :
    (db.postAll (restoration u.tenantId u.id items)).Accounts w (.returned (partsOf items)) := by
  have hitems : (db.postAll (restoration u.tenantId u.id items)).workOrderItems =
      db.workOrderItems := by rw [db.postAll_frame]
  refine ⟨h.keys, ?_, ?_, fun p => ?_⟩
  · rw [hitems]
    exact h.kept
  · rw [hitems]
    exact h.positive
  · have howed := h.owed p
    rw [db.owed_postAll (forOrder_restoration items), if_pos hw, net_restoration, onOrder, hitems,
      Restoration.settled, partsOf_takes]
    simp only [onOrder, Restoration.settled] at howed
    omega

theorem Db.Accounts.reset {g' : Restoration} (h : db.Accounts w g) (hp : g'.parts = [])
    (hs : ∀ p, g.settled p = 0) : db.Accounts w g' := by
  refine ⟨?_, ?_, h.positive, fun p => ?_⟩
  · rw [hp]
    exact List.nodup_nil
  · rw [hp]
    exact nofun
  · have howed := h.owed p
    have hzero : g'.settled p = 0 := by
      cases g' with
      | returned parts =>
        obtain rfl : parts = [] := hp
        rfl
      | _ => rfl
    rw [hs p] at howed
    rw [hzero]
    exact howed

end Watch

section Runs

variable {w : Uuid}

/-- The accounts of an order under concurrent requests, one of which at most is
about to return its parts. -/
structure ReturnsOnce (w : Uuid) (s : WorkshopPool × Restoration) : Prop where
  accounts : s.1.shared.Accounts w s.2
  tasks : ∀ k t, s.1.threads.get? k = some t → t.HandlesOrder
  restoring : ∀ k u items, s.1.threads.get? k = some (.restoreStock u items) → u.id = w →
    partsOf items ≠ [] → s.2 = .read k (partsOf items)

theorem WorkshopTask.afterSync_ne_restore (u v : StatusUpdate) (items : List (Uuid × WorkOrderItem)) :
    afterSync u ≠ .restoreStock v items := by
  unfold afterSync
  split_ifs <;> exact nofun

theorem WorkshopTask.afterRestore_ne_restore (u v : StatusUpdate)
    (items : List (Uuid × WorkOrderItem)) : afterRestore u ≠ .restoreStock v items := by
  unfold afterRestore
  split_ifs
  · exact nofun
  · exact afterSync_ne_restore u v items

theorem WorkshopTask.exec_restoreStock {db : Db} {t : WorkshopTask} {env : WorkshopEnv}
    {v : StatusUpdate} {items : List (Uuid × WorkOrderItem)} (ht : t.HandlesOrder)
    (h : (t.exec db env).2 = .restoreStock v items) :
    t = .readCancelled v ∧ (db.workOrder? v.tenantId v.id).isSome ∧ items = db.itemsOf v.id := by
  have hreads : ∀ {α : Type} {r : Outcome α} {next : α → WorkshopTask},
      (∀ a, next a ≠ .restoreStock v items) → (reads db r next).2 ≠ .restoreStock v items := by
    intro α r next hne
    cases r with
    | error e => exact fun h => by cases h
    | ok a => exact hne a
  have hcommits : ∀ {r : Outcome Db} {next : WorkshopTask}, next ≠ .restoreStock v items →
      (commits db r next).2 ≠ .restoreStock v items := by
    intro r next hne
    cases r with
    | error e => exact fun h => by cases h
    | ok a => exact hne
  cases t with
  | readCancelled u =>
    simp only [exec] at h
    split at h
    · exact absurd h (afterRestore_ne_restore u v items)
    · next wo hwo =>
      obtain ⟨rfl, rfl⟩ := WorkshopTask.restoreStock.inj h
      exact ⟨rfl, by rw [hwo]; rfl, rfl⟩
  | writeStatus u =>
    refine absurd h (hcommits ?_)
    unfold afterWrite
    split_ifs
    · exact fun h => by cases h
    · exact afterRestore_ne_restore u v items
  | restoreStock u its => exact absurd h (hcommits (afterRestore_ne_restore u v items))
  | syncAppointment u =>
    simp only [exec] at h
    split at h <;> exact absurd h (afterSync_ne_restore u v items)
  | readAutoInvoice u =>
    simp only [exec] at h
    split_ifs at h
  | readInvoice u =>
    simp only [exec] at h
    split_ifs at h
  | issueInvoice tenantId dto =>
    simp only [exec, afterIssue] at h
    split at h
    · cases h
    · split at h <;> cases h
  | updateItem | removeItem | updateStatus | confirmOrder =>
    exact absurd h (hreads fun _ h => by cases h)
  | changeItem | deleteItem | eInvoice => exact absurd h (hcommits fun h => by cases h)
  | finished answer => cases h
  | _ => simp [HandlesOrder, useCase] at ht

theorem WorkshopTask.accounts_exec {db : Db} {g : Restoration} {t : WorkshopTask}
    {env : WorkshopEnv} {k : ℕ} (hacc : db.Accounts w g) (ht : t.HandlesOrder)
    (hord : t.Orderly w db g)
    (hread : ∀ u items, t = .restoreStock u items → u.id = w → partsOf items ≠ [] →
      g = .read k (partsOf items)) :
    (t.exec db env).1.Accounts w (t.watch w k db g) := by
  by_cases hrestore : ∃ u items, t = .restoreStock u items
  · obtain ⟨u, items, rfl⟩ := hrestore
    simp only [exec, watch]
    rcases commits_cases db (restoreCancelledStock db u.tenantId u.id items) (afterRestore u) with
      ⟨db', hok, hc⟩ | ⟨e, herr, hc⟩
    · obtain ⟨-, rfl⟩ := restoreCancelledStock_ok hok
      rw [hc, hok]
      split_ifs with hw
      · obtain rfl := hread u items rfl hw.1 hw.2
        exact hacc.restored hw.1
      · exact hacc.other_restored hw
    · rw [hc, herr]
      split_ifs with hw
      · obtain rfl := hread u items rfl hw.1 hw.2
        exact hacc.reset rfl fun _ => rfl
      · exact hacc
  · simp only [not_exists] at hrestore
    have hkept := WorkshopEffect.accounts hacc ht hord hrestore (exec_effect db t env)
    by_cases hcancelled : ∃ u, t = .readCancelled u
    · obtain ⟨u, rfl⟩ := hcancelled
      simp only [watch]
      split_ifs with hw
      · obtain ⟨rfl, -, hparts⟩ := hw
        rcases hord rfl with hnone | rfl
        · exact absurd hnone hparts
        · have hsame : ((WorkshopTask.readCancelled u).exec db env).1 = db := by
            simp only [exec]
            split <;> rfl
          rw [hsame]
          exact hacc.read k
      · exact hkept
    · have hwatch : t.watch w k db g = g := by
        cases t with
        | readCancelled u => exact absurd ⟨u, rfl⟩ hcancelled
        | restoreStock u items => exact absurd rfl (hrestore u items)
        | _ => rfl
      rw [hwatch]
      exact hkept

theorem WorkshopTask.watch_of_read {db : Db} {t : WorkshopTask} {j k : ℕ}
    {parts : List (Uuid × WorkOrderItem)} (hjk : j ≠ k) (hord : t.Orderly w db (.read j parts))
    (hread : ∀ u items, t = .restoreStock u items → u.id = w → partsOf items ≠ [] →
      Restoration.read j parts = .read k (partsOf items)) :
    t.watch w k db (.read j parts) = .read j parts := by
  cases t with
  | readCancelled u =>
    simp only [watch]
    split_ifs with hw
    · rcases hord hw.1 with hnone | hnone
      · exact absurd hnone hw.2.2
      · cases hnone
    · rfl
  | restoreStock u items =>
    simp only [watch]
    split_ifs with hw
    · have hsame := hread u items rfl hw.1 hw.2
      exact absurd (Restoration.read.inj hsame).1 hjk
    · rfl
  | _ => rfl

theorem ReturnsOnce.act {s : WorkshopPool × Restoration}
    {a : PoolAction WorkshopRequest WorkshopEnv} (h : ReturnsOnce w s)
    (hreq : ∀ r, a = .start r → r.HandlesOrder) (hord : WorkshopPool.Orderly w s a) :
    ReturnsOnce w (observed WorkshopPool.act (WorkshopPool.watch w) s a) := by
  obtain ⟨p, g⟩ := s
  cases a with
  | start r =>
    have henter : r.enter.HandlesOrder := by
      have hr := hreq r rfl
      cases r <;> simp [WorkshopRequest.HandlesOrder, WorkshopTask.HandlesOrder,
        WorkshopRequest.enter, WorkshopTask.useCase] at hr ⊢
    have hnew : ∀ u items, r.enter ≠ .restoreStock u items := by
      intro u items
      cases r <;> simp [WorkshopRequest.enter]
    refine ⟨h.accounts, fun k t ht => ?_, fun k u items ht hw hparts => ?_⟩
    · simp only [observed, WorkshopPool.act, Pool.act_start, Table.get?_insert] at ht
      split_ifs at ht with hk
      · cases ht
        exact henter
      · exact h.tasks k t ht
    · simp only [observed, WorkshopPool.act, Pool.act_start, Table.get?_insert] at ht
      split_ifs at ht with hk
      · exact absurd (Option.some.inj ht) (hnew u items)
      · exact h.restoring k u items ht hw hparts
  | step k env =>
    cases hk : p.threads.get? k with
    | none =>
      have hsame : observed WorkshopPool.act (WorkshopPool.watch w) (p, g) (.step k env) =
          (p, g) := by
        simp only [observed, WorkshopPool.act, Pool.act_step_none hk, WorkshopPool.watch, hk,
          Option.elim_none]
      rw [hsame]
      exact h
    | some t =>
      have ht := h.tasks k t hk
      have htask : t.Orderly w p.shared g := hord t hk
      have hown : ∀ u items, t = .restoreStock u items → u.id = w → partsOf items ≠ [] →
          g = .read k (partsOf items) := by
        rintro u items rfl hw hparts
        exact h.restoring k u items hk hw hparts
      have hstep : observed WorkshopPool.act (WorkshopPool.watch w) (p, g) (.step k env) =
          ({ shared := (t.exec p.shared env).1
             threads := p.threads.modify k fun _ => (t.exec p.shared env).2 },
            t.watch w k p.shared g) := by
        simp only [observed, WorkshopPool.act, Pool.act_step_some hk, WorkshopPool.watch, hk,
          Option.elim_some]
      rw [hstep]
      refine ⟨WorkshopTask.accounts_exec h.accounts ht htask hown, fun i u hu => ?_,
        fun i v items hi hw hparts => ?_⟩
      · obtain ⟨old, hold, rfl⟩ := Table.of_get?_modify hu
        split_ifs with hik
        · exact ht.exec
        · exact h.tasks i old hold
      · obtain ⟨old, hold, hnext⟩ := Table.of_get?_modify hi
        split_ifs at hnext with hik
        · subst hik
          obtain ⟨rfl, hfound, rfl⟩ := WorkshopTask.exec_restoreStock ht hnext
          exact if_pos ⟨hw, hfound, hparts⟩
        · subst hnext
          have hg := h.restoring i v items hold hw hparts
          simp only at hg
          subst hg
          exact WorkshopTask.watch_of_read hik htask hown

/-- No more of a product is returned from an order than was taken for it, in
every interleaving in which its parts are read for their return only once and
stay on the order from then on. -/
theorem returned_at_most_once (w : Uuid) (db : Db) (g : Restoration)
    (actions : List (PoolAction WorkshopRequest WorkshopEnv)) (hdb : db.Accounts w g)
    (hreq : ∀ r, PoolAction.start r ∈ actions → r.HandlesOrder)
    (h : EachStep (observed WorkshopPool.act (WorkshopPool.watch w)) (WorkshopPool.Orderly w)
      (Pool.idle db, g) actions) :
    Always WorkshopPool.act
      (fun p => ∀ product, p.shared.returned w product ≤ p.shared.taken w product)
      (Pool.idle db) actions := by
  have hstart : ReturnsOnce w (Pool.idle db, g) := by
    refine ⟨hdb, fun k t ht => ?_, fun k u items ht => ?_⟩ <;> simp [Pool.idle] at ht
  have hsteps : EachStep (observed WorkshopPool.act (WorkshopPool.watch w))
      (fun s a => (∀ r, a = .start r → r.HandlesOrder) ∧ WorkshopPool.Orderly w s a)
      (Pool.idle db, g) actions := by
    intro before a after he
    refine ⟨?_, h before a after he⟩
    rintro r rfl
    exact hreq r (by simp [he])
  have hruns : Always (observed WorkshopPool.act (WorkshopPool.watch w)) (ReturnsOnce w)
      (Pool.idle db, g) actions :=
    always_of_step (fun s a hs ha => ReturnsOnce.act hs ha.1 ha.2) hstart hsteps
  have hbounds : Always (observed WorkshopPool.act (WorkshopPool.watch w))
      (fun s => ∀ product, s.1.shared.returned w product ≤ s.1.shared.taken w product)
      (Pool.idle db, g) actions := hruns.mono fun s hs => hs.accounts.returned_le
  exact always_observed
    (P := fun p : WorkshopPool =>
      ∀ product, p.shared.returned w product ≤ p.shared.taken w product) hbounds

end Runs

section Sample

def orderDb : Db := serve shopDb (served (.createWorkOrder 0 padOrder))

instance (w : Uuid) (s : WorkshopPool × Restoration)
    (a : PoolAction WorkshopRequest WorkshopEnv) : Decidable (WorkshopPool.Orderly w s a) :=
  match a with
  | .start _ => .isTrue trivial
  | .step k _ => inferInstanceAs (Decidable (∀ t ∈ s.1.threads.get? k, t.Orderly w s.1.shared s.2))

def padItem : WorkOrderItem where
  workOrderId := 0
  itemType := .part
  itemId := some 0
  name := "Fren Balatası"
  quantity := 2
  unitPrice := 10000
  kdvRate := 2000
  totalPrice := 20000

theorem orderDb_items : orderDb.workOrderItems.rows = [(0, padItem)] := by decide +kernel

theorem orderDb_movements :
    orderDb.stockMovements.rows = [(0, outMovement 0 0 0 2)] := by decide +kernel

theorem orderDb_accounts : orderDb.Accounts 0 .untouched := by
  refine ⟨List.nodup_nil, nofun, fun k it p hk _ _ => ?_, fun p => ?_⟩
  · rw [← Table.mem_rows_iff, orderDb_items, List.mem_singleton] at hk
    cases hk
    decide
  · have hitems : orderDb.onOrder 0 p = padItem.takes p := by
      rw [Db.onOrder, Table.sumBy, orderDb_items]
      simp [padItem]
    have hmovements : orderDb.owed 0 p = (outMovement 0 0 0 2).owes 0 p := by
      rw [Db.owed, Table.sumBy, orderDb_movements]
      simp
    rw [hitems, hmovements]
    by_cases hp : p = 0
    · subst hp
      decide +kernel
    · have hne : ¬ 0 = p := fun h => hp h.symm
      simp [WorkOrderItem.takes, WorkOrderItem.part?, padItem, StockMovement.owes, outMovement,
        Restoration.settled, hne]

/-- One client cancels the order while another one asks to take off its pads. -/
def cancelAndRemove : List (PoolAction WorkshopRequest WorkshopEnv) :=
  [.start (.updateWorkOrderStatus 0 0 "CANCELLED"), .start (.removeWorkOrderItem 0 0 0)] ++
    List.replicate 6 (.step 0 shopEnv) ++ List.replicate 2 (.step 1 shopEnv)

def cancelTwice : List (PoolAction WorkshopRequest WorkshopEnv) :=
  [.start (.updateWorkOrderStatus 0 0 "CANCELLED"),
    .start (.updateWorkOrderStatus 0 0 "CANCELLED")] ++
    List.replicate 2 (.step 0 shopEnv) ++ List.replicate 2 (.step 1 shopEnv) ++
    List.replicate 3 (.step 0 shopEnv) ++ List.replicate 3 (.step 1 shopEnv)

theorem sample_returned_once :
    Always WorkshopPool.act
      (fun p => ∀ product, p.shared.returned 0 product ≤ p.shared.taken 0 product)
      (Pool.idle orderDb) cancelAndRemove := by
  refine returned_at_most_once 0 orderDb .untouched _ orderDb_accounts (fun r hr => ?_) ?_
  · simp [cancelAndRemove] at hr
    rcases hr with rfl | rfl <;> trivial
  · decide +kernel

/-- Both find the order open, and each returns its pads. -/
theorem cancelled_twice_returns_twice :
    ¬ Always WorkshopPool.act
      (fun p => ∀ product, p.shared.returned 0 product ≤ p.shared.taken 0 product)
      (Pool.idle orderDb) cancelTwice := by
  intro h
  have hreturned : (run WorkshopPool.act (Pool.idle orderDb) cancelTwice).shared.returned 0 0 = 4 := by
    decide +kernel
  have htaken : (run WorkshopPool.act (Pool.idle orderDb) cancelTwice).shared.taken 0 0 = 2 := by
    decide +kernel
  have hle := h.last 0
  rw [hreturned, htaken] at hle
  exact absurd hle (by decide)

end Sample

end WorksAuto
