import WorksAuto.Workshop.Serial

/-! The totals of an order.
An edit computes them from the items as they are stored. A new order gets the
totals of its lines as they were sent, so they are those of its items when every
line is stored the way it was sent. Both add up in doubles, with the roundings in
different places; the cents come out exact as long as the tax of the items is
further from a half cent than these roundings reach. -/

namespace WorksAuto

open Lib

section Amounts

def WorkOrderItem.net (it : WorkOrderItem) : ℚ := toNumber it.unitPrice * it.quantity

def WorkOrderItem.tax (it : WorkOrderItem) : ℚ := it.net * toNumber it.kdvRate / 100

/-- The totals of an order are the exact ones of its items, as the columns hold them. -/
structure WorkOrder.Totalled (wo : WorkOrder) (items : List WorkOrderItem) : Prop where
  subtotal : numeric 12 (items.map WorkOrderItem.net).sum = .ok wo.subtotal
  kdvAmount : numeric 12 (items.map WorkOrderItem.tax).sum = .ok wo.kdvAmount
  grandTotal : numeric 12
    ((items.map WorkOrderItem.net).sum + (items.map WorkOrderItem.tax).sum) = .ok wo.grandTotal

/-- A column that holds what `k` roundings make of `x`. -/
def HoldsNear (k : ℕ) (bound x : ℚ) (c : ℤ) : Prop :=
  ∃ y, Double.Approx k bound x y ∧ numeric 12 y = .ok c

def roundingsOf (items : List WorkOrderItem) : ℕ := items.length + 9

def netBound (items : List WorkOrderItem) : ℚ := (items.map fun it => |it.net|).sum

def taxBound (items : List WorkOrderItem) : ℚ := (items.map fun it => |it.tax|).sum

def reachOf (items : List WorkOrderItem) : ℚ :=
  Double.slack (roundingsOf items) * ((netBound items + taxBound items) * 100)

/-- The totals of an order are those of its items but for the roundings of doubles. -/
structure WorkOrder.Computed (wo : WorkOrder) (items : List WorkOrderItem) : Prop where
  subtotal : HoldsNear (roundingsOf items) (netBound items)
    (items.map WorkOrderItem.net).sum wo.subtotal
  kdvAmount : HoldsNear (roundingsOf items) (taxBound items)
    (items.map WorkOrderItem.tax).sum wo.kdvAmount
  grandTotal : HoldsNear (roundingsOf items) (netBound items + taxBound items)
    ((items.map WorkOrderItem.net).sum + (items.map WorkOrderItem.tax).sum) wo.grandTotal

/-- The tax of the items, in cents, is further from every half cent than the roundings reach. -/
def ClearOfTies (items : List WorkOrderItem) : Prop :=
  reachOf items < |Int.fract ((items.map WorkOrderItem.tax).sum * 100) - 1 / 2|

variable {items : List WorkOrderItem} {wo : WorkOrder}

theorem netBound_nonneg (items : List WorkOrderItem) : 0 ≤ netBound items := by
  apply List.sum_nonneg
  intro x hx
  obtain ⟨it, -, rfl⟩ := List.mem_map.mp hx
  exact abs_nonneg _

theorem taxBound_nonneg (items : List WorkOrderItem) : 0 ≤ taxBound items := by
  apply List.sum_nonneg
  intro x hx
  obtain ⟨it, -, rfl⟩ := List.mem_map.mp hx
  exact abs_nonneg _

theorem HoldsNear.off {k : ℕ} {bound x : ℚ} {c : ℤ} (h : HoldsNear k bound x c) :
    |(c : ℚ) - x * 100| ≤ 1 / 2 + Double.slack k * (bound * 100) := by
  obtain ⟨y, hy, hstored⟩ := h
  obtain ⟨rfl, -⟩ := numeric_eq_ok.mp hstored
  have hround := abs_roundAway_sub_le (y * 100)
  have hscaled : |y * 100 - x * 100| ≤ Double.slack k * (bound * 100) := by
    rw [← sub_mul, abs_mul, abs_of_pos (by norm_num : (0 : ℚ) < 100), ← mul_assoc]
    exact mul_le_mul_of_nonneg_right hy.off (by norm_num)
  exact (abs_sub_le _ (y * 100) _).trans (add_le_add hround hscaled)

theorem HoldsNear.lt {k : ℕ} {bound x : ℚ} {c : ℤ} (h : HoldsNear k bound x c) :
    |c| < 10 ^ 12 := by
  obtain ⟨y, -, hstored⟩ := h
  obtain ⟨rfl, hlt⟩ := numeric_eq_ok.mp hstored
  exact hlt

theorem HoldsNear.exact {k : ℕ} {bound x : ℚ} {c : ℤ} (h : HoldsNear k bound x c)
    (hclear : Double.slack k * (bound * 100) < |Int.fract (x * 100) - 1 / 2|) :
    numeric 12 x = .ok c := by
  obtain ⟨y, hy, hstored⟩ := h
  obtain ⟨hc, hlt⟩ := numeric_eq_ok.mp hstored
  have hnear : |y * 100 - x * 100| < |Int.fract (x * 100) - 1 / 2| := by
    rw [← sub_mul, abs_mul, abs_of_pos (by norm_num : (0 : ℚ) < 100)]
    refine lt_of_le_of_lt ?_ hclear
    rw [← mul_assoc]
    exact mul_le_mul_of_nonneg_right hy.off (by norm_num)
  exact numeric_eq_ok.mpr ⟨(roundAway_congr hnear).symm.trans hc, hlt⟩

theorem sum_net_cents (items : List WorkOrderItem) :
    (items.map WorkOrderItem.net).sum * 100 =
      ((items.map fun it => it.unitPrice * it.quantity).sum : ℤ) := by
  induction items with
  | nil => simp
  | cons it items ih =>
    simp only [List.map_cons, List.sum_cons, add_mul, ih, WorkOrderItem.net]
    rw [mul_right_comm, toNumber_mul]
    push_cast
    ring

theorem WorkOrder.Computed.totalled (h : wo.Computed items) (hclear : ClearOfTies items) :
    wo.Totalled items := by
  have hslack := Double.slack_nonneg (roundingsOf items)
  have hnet := netBound_nonneg items
  have htax := taxBound_nonneg items
  have hhalf : |Int.fract ((items.map WorkOrderItem.tax).sum * 100) - 1 / 2| ≤ 1 / 2 := by
    have hnonneg := Int.fract_nonneg ((items.map WorkOrderItem.tax).sum * 100)
    have hone := Int.fract_lt_one ((items.map WorkOrderItem.tax).sum * 100)
    rw [abs_le]
    constructor <;> linarith
  rw [ClearOfTies, reachOf] at hclear
  refine ⟨h.subtotal.exact ?_, h.kdvAmount.exact ?_, h.grandTotal.exact ?_⟩
  · rw [sum_net_cents, Int.fract_intCast, zero_sub, abs_neg, abs_of_pos one_half_pos]
    refine lt_of_le_of_lt ?_ (hclear.trans_le hhalf)
    gcongr
    linarith
  · refine lt_of_le_of_lt ?_ hclear
    gcongr
    linarith
  · have hcents : ((items.map WorkOrderItem.net).sum + (items.map WorkOrderItem.tax).sum) * 100 =
        ((items.map fun it => it.unitPrice * it.quantity).sum : ℤ) +
          (items.map WorkOrderItem.tax).sum * 100 := by
      rw [add_mul, sum_net_cents]
    rw [hcents, Int.fract_intCast_add]
    exact hclear

theorem abs_sum_map_le (f : WorkOrderItem → ℚ) (items : List WorkOrderItem) :
    |(items.map f).sum| ≤ (items.map fun it => |f it|).sum := by
  induction items with
  | nil => simp
  | cons it items ih =>
    simp only [List.map_cons, List.sum_cons]
    exact (abs_add_le _ _).trans (add_le_add le_rfl ih)

theorem WorkOrder.Totalled.computed (h : wo.Totalled items) : wo.Computed items := by
  have hslack := Double.slack_nonneg (roundingsOf items)
  have hnet : |(items.map WorkOrderItem.net).sum| ≤ netBound items := abs_sum_map_le _ items
  have htax : |(items.map WorkOrderItem.tax).sum| ≤ taxBound items := abs_sum_map_le _ items
  have exactly : ∀ a x : ℚ, |x| ≤ a → Double.Approx (roundingsOf items) a x x := by
    intro a x ha
    refine ⟨ha, ?_⟩
    rw [sub_self, abs_zero]
    exact mul_nonneg hslack ((abs_nonneg x).trans ha)
  exact ⟨⟨_, exactly _ _ hnet, h.subtotal⟩, ⟨_, exactly _ _ htax, h.kdvAmount⟩,
    ⟨_, exactly _ _ ((abs_add_le _ _).trans (add_le_add hnet htax)), h.grandTotal⟩⟩

theorem WorkOrder.AddedUp.computed {α : Type} {sent : List α} {base kdv : α → ℚ}
    {net tax : α → ℚ} (h : wo.AddedUp (sent.map base) (sent.map kdv))
    (hbase : ∀ a ∈ sent, Double.Approx 3 |net a| (net a) (base a))
    (hkdv : ∀ a ∈ sent, Double.Approx 6 |tax a| (tax a) (kdv a))
    (hnet : items.map WorkOrderItem.net = sent.map net)
    (htax : items.map WorkOrderItem.tax = sent.map tax) : wo.Computed items := by
  have hlength : items.length = sent.length := by
    rw [← List.length_map (f := WorkOrderItem.net), hnet, List.length_map]
  have hnetBound : netBound items = (sent.map fun a => |net a|).sum := by
    have hmap := congrArg (List.map fun x : ℚ => |x|) hnet
    rw [List.map_map, List.map_map] at hmap
    exact congrArg List.sum hmap
  have htaxBound : taxBound items = (sent.map fun a => |tax a|).sum := by
    have hmap := congrArg (List.map fun x : ℚ => |x|) htax
    rw [List.map_map, List.map_map] at hmap
    exact congrArg List.sum hmap
  have hsubtotal := Double.Approx.sum hbase
  have hkdvTotal := Double.Approx.sum hkdv
  have hgrand := ((hsubtotal.mono (by omega)).add hkdvTotal).nearest
  rw [← hnet, ← hnetBound] at hsubtotal hgrand
  rw [← htax, ← htaxBound] at hkdvTotal hgrand
  have hcount : roundingsOf items = sent.length + 9 := by rw [roundingsOf, hlength]
  exact ⟨⟨_, (hsubtotal.written).mono (by omega), h.subtotal⟩,
    ⟨_, (hkdvTotal.written).mono (by omega), h.kdvAmount⟩,
    ⟨_, (hgrand.written).mono (by omega), h.grandTotal⟩⟩

theorem approx_basePrice (unitPrice : ℚ) (quantity : ℤ) :
    Double.Approx 3 |unitPrice * quantity| (unitPrice * quantity)
      (basePrice unitPrice quantity) := by
  rw [abs_mul]
  exact ((Double.Approx.refl unitPrice).nearest.mul
    (Double.Approx.refl (quantity : ℚ)).nearest).nearest

theorem approx_kdvOn (unitPrice : ℚ) (quantity : ℤ) (rate : ℚ) :
    Double.Approx 6 |unitPrice * quantity * rate / 100| (unitPrice * quantity * rate / 100)
      (kdvOn (basePrice unitPrice quantity) rate) := by
  have hproduct := (approx_basePrice unitPrice quantity).mul (Double.Approx.refl rate).nearest
  have htax := (hproduct.nearest.div (by norm_num : (0 : ℚ) < 100)).nearest
  rwa [← abs_mul, ← abs_of_pos (by norm_num : (0 : ℚ) < 100), ← abs_div,
    abs_of_pos (by norm_num : (0 : ℚ) < 100)] at htax

theorem WorkOrder.Recalculated.computed (h : wo.Recalculated items) : wo.Computed items := by
  refine WorkOrder.AddedUp.computed h ?_ ?_ rfl rfl
  · exact fun it _ => approx_basePrice _ _
  · exact fun it _ => approx_kdvOn _ _ _

end Amounts

/-- Every order has the totals of its items, but for the roundings of doubles. -/
def Db.Computed (db : Db) : Prop :=
  ∀ w wo, db.workOrders.get? w = some wo → wo.Computed ((db.itemsOf w).map Prod.snd)

def Db.Totalled (db : Db) : Prop :=
  ∀ w wo, db.workOrders.get? w = some wo → wo.Totalled ((db.itemsOf w).map Prod.snd)

def Db.ClearOfTies (db : Db) (w : Uuid) : Prop :=
  WorksAuto.ClearOfTies ((db.itemsOf w).map Prod.snd)

def Db.ItemsPlaced (db : Db) : Prop :=
  ∀ k it, db.workOrderItems.get? k = some it → it.workOrderId < db.workOrders.next

def HeldExactly (x : ℚ) : Prop := toNumber (roundAway (x * 100)) = x

/-- Price and rate of the line have at most two decimals, and the rate is not zero. -/
structure CreateWorkOrderItemInput.HeldAsSent (item : CreateWorkOrderItemInput) : Prop where
  unitPrice : HeldExactly item.unitPrice
  rate : HeldExactly item.rate
  taxed : item.rate ≠ 0

/-- A new order is sent with lines that are stored as they are. -/
def WorkshopTask.SendsHeldLines : WorkshopTask → Prop
  | .createOrder _ input | .numberOrder _ input | .storeOrder _ input _ =>
    ∀ item ∈ input.items, item.HeldAsSent
  | _ => True

def Served.SendsHeldLines (l : Served) : Prop := l.request.enter.SendsHeldLines

section Orders

variable {db db' : Db} {env : WorkshopEnv}

def WorkOrder.SameTotals (a b : WorkOrder) : Prop :=
  b.subtotal = a.subtotal ∧ b.kdvAmount = a.kdvAmount ∧ b.grandTotal = a.grandTotal

theorem WorkOrder.Computed.congr {a b : WorkOrder} {items : List WorkOrderItem}
    (h : a.Computed items) (hab : a.SameTotals b) : b.Computed items where
  subtotal := by rw [hab.1]; exact h.subtotal
  kdvAmount := by rw [hab.2.1]; exact h.kdvAmount
  grandTotal := by rw [hab.2.2]; exact h.grandTotal

theorem Db.Computed.modify (hdb : db.Computed) {k : Uuid} {f : WorkOrder → WorkOrder}
    (hitems : db'.workOrderItems = db.workOrderItems)
    (hrows : db'.workOrders = db.workOrders.modify k f)
    (hf : ∀ wo, WorkOrder.SameTotals wo (f wo)) : db'.Computed := by
  intro w wo' hwo'
  rw [hrows, Table.get?_modify] at hwo'
  obtain ⟨wo, hwo, rfl⟩ := Option.map_eq_some_iff.mp hwo'
  have hold := hdb w wo hwo
  rw [itemsOf_eq, hitems]
  split_ifs
  · exact hold.congr (hf wo)
  · exact hold

theorem Db.Computed.congr (hdb : db.Computed) (hitems : db'.workOrderItems = db.workOrderItems)
    (hrows : db'.workOrders = db.workOrders) : db'.Computed := by
  intro w wo hwo
  rw [itemsOf_eq, hitems]
  exact hdb w wo (hrows ▸ hwo)

theorem OrderEdited.computed {t w : Uuid} {ms : List StockMovement} {items : Table WorkOrderItem}
    (h : OrderEdited db t w ms items db')
    (hothers : ∀ v, v ≠ w → itemsIn items v = itemsIn db.workOrderItems v) (hdb : db.Computed) :
    db'.Computed := by
  intro v wo hwo
  by_cases hv : v = w
  · subst hv
    exact (h.totals wo hwo).computed
  · obtain ⟨s, k, g, hrows⟩ := h.orders
    rw [hrows, Table.get?_modify_ne _ hv] at hwo
    have hitems : db'.itemsOf v = db.itemsOf v := by
      rw [Db.itemsOf_eq, h.items_eq]
      exact hothers v hv
    rw [hitems]
    exact hdb v wo hwo

theorem OrderEdited.order_lt {t w : Uuid} {ms : List StockMovement} {items : Table WorkOrderItem}
    (h : OrderEdited db t w ms items db') : w < db'.workOrders.next := by
  obtain ⟨wo, hwo⟩ := h.order
  obtain ⟨s, k, g, hrows⟩ := h.orders
  rw [hrows, Table.modify_next]
  exact Table.get?_lt (Db.workOrder?_eq_some.mp hwo).1

theorem Db.ItemsPlaced.of_items (hdb : db.ItemsPlaced)
    (hitems : ∀ k it, db'.workOrderItems.get? k = some it →
      it.workOrderId < db'.workOrders.next ∨
        ∃ old, db.workOrderItems.get? k = some old ∧ it.workOrderId = old.workOrderId)
    (hnext : db.workOrders.next ≤ db'.workOrders.next) : db'.ItemsPlaced := by
  intro k it hit
  rcases hitems k it hit with hlt | ⟨old, hold, heq⟩
  · exact hlt
  · rw [heq]
    exact (hdb k old hold).trans_le hnext

theorem Db.ItemsPlaced.congr (hdb : db.ItemsPlaced)
    (hitems : db'.workOrderItems = db.workOrderItems)
    (hnext : db.workOrders.next ≤ db'.workOrders.next) : db'.ItemsPlaced :=
  hdb.of_items (fun _ it hit => .inr ⟨it, hitems ▸ hit, rfl⟩) hnext

theorem OrderEdited.itemsPlaced {t w : Uuid} {ms : List StockMovement} {items : Table WorkOrderItem}
    (h : OrderEdited db t w ms items db') (hdb : db.ItemsPlaced)
    (hitems : ∀ k it, items.get? k = some it → it.workOrderId = w ∨
      ∃ old, db.workOrderItems.get? k = some old ∧ it.workOrderId = old.workOrderId) :
    db'.ItemsPlaced := by
  obtain ⟨s, kdv, g, hrows⟩ := h.orders
  refine hdb.of_items (fun k it hit => ?_) (by rw [hrows, Table.modify_next])
  rw [h.items_eq] at hit
  rcases hitems k it hit with rfl | hold
  · exact .inl h.order_lt
  · exact .inr hold

end Orders

section Opening

variable {db db' : Db} {w : Uuid} {item : CreateWorkOrderItemInput} {row : WorkOrderItem}

def CreateWorkOrderItemInput.net (item : CreateWorkOrderItemInput) : ℚ :=
  item.unitPrice * item.quantity

def CreateWorkOrderItemInput.tax (item : CreateWorkOrderItemInput) : ℚ :=
  item.net * item.rate / 100

theorem approx_kdv (item : CreateWorkOrderItemInput) :
    Double.Approx 6 |item.tax| item.tax item.kdv := by
  have hrate := ((Double.Approx.refl item.rate).nearest.div
    (by norm_num : (0 : ℚ) < 100)).nearest
  have htax := ((approx_basePrice item.unitPrice item.quantity).mul hrate).nearest
  rwa [← abs_of_pos (by norm_num : (0 : ℚ) < 100), ← abs_div, ← abs_mul,
    abs_of_pos (by norm_num : (0 : ℚ) < 100), ← mul_div_assoc] at htax

theorem StoredAs.net (h : StoredAs w item.format row) (hsent : item.HeldAsSent) :
    row.net = item.net := by
  have hprice : toNumber row.unitPrice = item.unitPrice := by
    rw [h.unitPrice]
    exact hsent.unitPrice
  rw [WorkOrderItem.net, hprice, h.quantity]
  rfl

theorem StoredAs.tax (h : StoredAs w item.format row) (hsent : item.HeldAsSent) :
    row.tax = item.tax := by
  have hrate : toNumber row.kdvRate = item.rate := by
    rw [h.kdvRate hsent.taxed]
    exact hsent.rate
  rw [WorkOrderItem.tax, h.net hsent, hrate]
  rfl

theorem storedRows_amounts {items : List CreateWorkOrderItemInput} {rows : List WorkOrderItem}
    (h : List.Forall₂ (StoredAs w) (items.map CreateWorkOrderItemInput.format) rows)
    (hsent : ∀ item ∈ items, item.HeldAsSent) :
    rows.map WorkOrderItem.net = items.map CreateWorkOrderItemInput.net ∧
      rows.map WorkOrderItem.tax = items.map CreateWorkOrderItemInput.tax := by
  rw [List.forall₂_map_left_iff] at h
  induction h with
  | nil => exact ⟨rfl, rfl⟩
  | cons hrow _ ih =>
    obtain ⟨hitem, hitems⟩ := List.forall_mem_cons.mp hsent
    obtain ⟨hnet, htax⟩ := ih hitems
    simp only [List.map_cons, hrow.net hitem, hrow.tax hitem, hnet, htax, and_self]

theorem map_itemsIn_storedRows {items : List NewWorkOrderItem} {rows : List WorkOrderItem}
    (h : List.Forall₂ (StoredAs w) items rows) (old : Table WorkOrderItem) :
    (itemsIn (rows.foldl Table.insert old) w).map Prod.snd =
      (itemsIn old w).map Prod.snd ++ rows := by
  induction h generalizing old with
  | nil => rw [List.foldl_nil, List.append_nil]
  | @cons item row items rows hrow _ ih =>
    have hw : decide (row.workOrderId = w) = true := decide_eq_true hrow.order
    rw [List.foldl_cons, ih, itemsIn, Table.filter_insert, if_pos hw, List.map_append,
      List.append_assoc]
    rfl

theorem OrderOpened.computed {tenantId : Uuid} {input : CreateWorkOrderInput} {woNumber : String}
    (h : OrderOpened db (workOrderData tenantId input woNumber) db') (hdb : db.Computed)
    (hplaced : db.ItemsPlaced) (hsent : ∀ item ∈ input.items, item.HeldAsSent) :
    db'.Computed := by
  intro v wo hwo
  rw [h.orders, Table.get?_insert] at hwo
  rw [Db.itemsOf_eq, h.items_eq]
  split_ifs at hwo with hv
  · cases hwo
    have hnone : itemsIn db.workOrderItems db.workOrders.next = [] := by
      rw [List.eq_nil_iff_forall_not_mem]
      rintro ⟨k, it⟩ hit
      obtain ⟨hget, horder⟩ := Table.mem_filter_iff.mp hit
      exact absurd (of_decide_eq_true horder) (hplaced k it hget).ne
    have hrows := map_itemsIn_storedRows h.stored db.workOrderItems
    rw [hnone, List.map_nil, List.nil_append] at hrows
    rw [hv, hrows]
    obtain ⟨hnet, htax⟩ := storedRows_amounts h.stored hsent
    have hadded : h.order.AddedUp (input.items.map CreateWorkOrderItemInput.lineTotal)
        (input.items.map CreateWorkOrderItemInput.kdv) :=
      ⟨h.opened.subtotal, h.opened.kdvAmount, h.opened.grandTotal⟩
    refine hadded.computed ?_ ?_ hnet htax
    · exact fun item _ => approx_basePrice _ _
    · exact fun item _ => approx_kdv item
  · rw [itemsIn_storedRows h.stored hv db.workOrderItems]
    exact hdb v wo hwo

theorem OrderOpened.itemsPlaced {data : CreateWorkOrderData} (h : OrderOpened db data db')
    (hdb : db.ItemsPlaced) : db'.ItemsPlaced := by
  apply hdb.of_items
  · intro k it hit
    rw [h.items_eq] at hit
    rcases Table.get?_foldl_insert hit with hold | hnew
    · exact .inr ⟨it, hold, rfl⟩
    · obtain ⟨item, -, hstored⟩ := storedRows_mem h.stored it hnew
      left
      rw [hstored.order, h.orders, Table.insert_next]
      exact Nat.lt_succ_self _
  · rw [h.orders, Table.insert_next]
    exact Nat.le_succ _

end Opening

section Steps

variable {db db' : Db} {env : WorkshopEnv} {t : WorkshopTask}

theorem WorkshopEffect.itemsPlaced (h : WorkshopEffect db env t db') (hdb : db.ItemsPlaced) :
    db'.ItemsPlaced := by
  cases h with
  | quiet h => exact hdb.congr h.workOrderItems (by rw [h.workOrders])
  | opened h => exact h.itemsPlaced hdb
  | added stored h =>
    refine h.itemsPlaced hdb fun k it hit => ?_
    rw [Table.get?_insert] at hit
    split_ifs at hit
    · cases hit
      exact .inl stored.order
    · exact .inr ⟨it, hit, rfl⟩
  | changed found quantity_eq positive fits h =>
    refine h.itemsPlaced hdb fun k it hit => ?_
    rw [Table.get?_modify] at hit
    obtain ⟨old, hold, rfl⟩ := Option.map_eq_some_iff.mp hit
    refine .inr ⟨old, hold, ?_⟩
    split_ifs <;> rfl
  | removed found h =>
    refine h.itemsPlaced hdb fun k it hit => ?_
    rw [Table.get?_erase] at hit
    split_ifs at hit
    exact .inr ⟨it, hit, rfl⟩
  | restored covered =>
    have hframe := db.postAll_frame
    exact hdb.congr (by rw [hframe]) (by rw [hframe])
  | issued h =>
    refine hdb.congr h.items ?_
    rw [h.workOrders]
    cases (CreateInvoiceInput.entity _ _ _).workOrderId <;> exact Nat.le_refl _
  | voided h =>
    refine hdb.congr h.items ?_
    rw [h.workOrders]
    cases h.existing.workOrderId <;> exact Nat.le_refl _
  | @withdrawn tenantId id reason =>
    refine hdb.congr rfl ?_
    simp only
    cases db.withdrawnOrder? id <;> exact Nat.le_refl _
  | statusWritten | rolledBack | detailed | decremented | incremented | saved | recorded =>
    exact hdb.congr rfl (Nat.le_refl _)

theorem WorkshopEffect.computed (h : WorkshopEffect db env t db') (hdb : db.Computed)
    (hplaced : db.ItemsPlaced) (hsent : t.SendsHeldLines) : db'.Computed := by
  cases h with
  | quiet h => exact hdb.congr h.workOrderItems h.workOrders
  | opened h => exact h.computed hdb hplaced hsent
  | added stored h => exact h.computed (fun v hv => stored.itemsIn_insert hv _) hdb
  | changed found quantity_eq positive fits h =>
    exact h.computed (fun v hv => Db.itemsIn_modify found hv _ rfl) hdb
  | removed found h => exact h.computed (fun v hv => Db.itemsIn_erase found hv) hdb
  | statusWritten | rolledBack => exact hdb.modify rfl rfl fun wo => ⟨rfl, rfl, rfl⟩
  | restored covered =>
    have hframe := db.postAll_frame
    exact hdb.congr (by rw [hframe]) (by rw [hframe])
  | issued h =>
    have hrows := h.workOrders
    revert hrows
    cases (CreateInvoiceInput.entity _ _ _).workOrderId with
    | none => exact hdb.congr h.items
    | some w => exact fun hrows => hdb.modify h.items hrows fun wo => ⟨rfl, rfl, rfl⟩
  | voided h =>
    have hrows := h.workOrders
    revert hrows
    cases h.existing.workOrderId with
    | none => exact hdb.congr h.items
    | some w => exact fun hrows => hdb.modify h.items hrows fun wo => ⟨rfl, rfl, rfl⟩
  | @withdrawn tenantId id reason =>
    cases db.withdrawnOrder? id with
    | none => exact hdb.congr rfl rfl
    | some o => exact hdb.modify rfl rfl fun wo => ⟨rfl, rfl, rfl⟩
  | detailed | decremented | incremented | saved | recorded => exact hdb.congr rfl rfl

namespace WorkshopTask

theorem sendsHeldLines_of_useCase (h : t.useCase ≠ .create) : t.SendsHeldLines := by
  cases t <;> trivial

theorem SendsHeldLines.exec (h : t.SendsHeldLines) (db : Db) (env : WorkshopEnv) :
    (t.exec db env).2.SendsHeldLines := by
  cases t with
  | createOrder tenantId input =>
    simp only [WorkshopTask.exec]
    cases checkNoActiveOrder db tenantId input.vehicleId with
    | error e => trivial
    | ok u => exact h
  | numberOrder tenantId input =>
    simp only [WorkshopTask.exec]
    split
    · trivial
    · exact h
  | storeOrder tenantId input woNumber =>
    simp only [WorkshopTask.exec]
    cases (createWorkOrder env.clock db (workOrderData tenantId input woNumber)).map Prod.fst <;>
      trivial
  | _ =>
    apply sendsHeldLines_of_useCase
    exact useCase_exec_ne (by simp [useCase]) (by decide) (by decide)

end WorkshopTask

theorem serve_computed {l : Served} (hdb : db.Computed) (hplaced : db.ItemsPlaced)
    (hsent : l.SendsHeldLines) : (serve db l).Computed ∧ (serve db l).ItemsPlaced := by
  have henter : db.Computed ∧ db.ItemsPlaced ∧ l.request.enter.SendsHeldLines :=
    ⟨hdb, hplaced, hsent⟩
  have keep : ∀ (db : Db) (t : WorkshopTask) (env : WorkshopEnv),
      db.Computed ∧ db.ItemsPlaced ∧ t.SendsHeldLines →
        (t.exec db env).1.Computed ∧ (t.exec db env).1.ItemsPlaced ∧
          (t.exec db env).2.SendsHeldLines := by
    rintro db t env ⟨hdb, hplaced, hsent⟩
    have heffect := WorkshopTask.exec_effect db t env
    exact ⟨heffect.computed hdb hplaced hsent, heffect.itemsPlaced hplaced, hsent.exec db env⟩
  obtain ⟨answer, hcomputed, hitems, -⟩ := serve_invariant henter fun db t => keep db t _
  exact ⟨hcomputed, hitems⟩

theorem Db.Computed.recalculateTotals (hdb : db.Computed) {w : Uuid} (hclear : db.ClearOfTies w)
    (h : recalculateTotals db w = .ok db') : db' = db := by
  obtain ⟨s, k, g, hnew, rfl⟩ := recalculateTotals_ok h
  have hself : db.workOrders.modify w (WorkOrder.retotal s k g) = db.workOrders := by
    apply Table.modifyIf_eq_self
    intro v wo hwo hv
    obtain rfl : v = w := by simpa using hv
    have hold := (hdb v wo hwo).totalled hclear
    have hretotal := (hnew wo).computed.totalled hclear
    have hs : s = wo.subtotal := Except.ok.inj (hretotal.subtotal.symm.trans hold.subtotal)
    have hk : k = wo.kdvAmount := Except.ok.inj (hretotal.kdvAmount.symm.trans hold.kdvAmount)
    have hg : g = wo.grandTotal := Except.ok.inj (hretotal.grandTotal.symm.trans hold.grandTotal)
    rw [WorkOrder.retotal, hs, hk, hg]
  rw [hself]

end Steps

theorem always_computed {db : Db} {requests : List Served} (hdb : db.Computed)
    (hplaced : db.ItemsPlaced) (hsent : ∀ l ∈ requests, l.SendsHeldLines) :
    Always serve (fun db => db.Computed ∧ db.ItemsPlaced) db requests := by
  have keep : ∀ (db : Db) (l : Served), db.Computed ∧ db.ItemsPlaced → l.SendsHeldLines →
      (serve db l).Computed ∧ (serve db l).ItemsPlaced :=
    fun db l h hl => serve_computed h.1 h.2 hl
  exact always_of_step keep ⟨hdb, hplaced⟩ (eachStep_of_forall hsent)

theorem Db.Totalled.computed {db : Db} (h : db.Totalled) : db.Computed :=
  fun w wo hwo => (h w wo hwo).computed

/-- In a run of requests whose new orders are sent with lines that are stored as they
are, every order whose tax is clear of half cents has the totals of its items in every
state, and computing them again changes nothing. -/
theorem totals_match_items (db : Db) (requests : List Served) (hdb : db.Totalled)
    (hplaced : db.ItemsPlaced) (hsent : ∀ l ∈ requests, l.SendsHeldLines) :
    Always serve
      (fun db => ∀ w, db.ClearOfTies w →
        (∀ wo, db.workOrders.get? w = some wo → wo.Totalled ((db.itemsOf w).map Prod.snd)) ∧
          ∀ db', recalculateTotals db w = .ok db' → db' = db)
      db requests :=
  (always_computed hdb.computed hplaced hsent).mono fun _ h w hclear =>
    ⟨fun wo hwo => (h.1 w wo hwo).totalled hclear, fun _ => h.1.recalculateTotals hclear⟩

section Sample

instance (wo : WorkOrder) (items : List WorkOrderItem) : Decidable (wo.Totalled items) :=
  decidable_of_iff
    (numeric 12 (items.map WorkOrderItem.net).sum = .ok wo.subtotal ∧
      numeric 12 (items.map WorkOrderItem.tax).sum = .ok wo.kdvAmount ∧
      numeric 12 ((items.map WorkOrderItem.net).sum + (items.map WorkOrderItem.tax).sum) =
        .ok wo.grandTotal)
    ⟨fun h => ⟨h.1, h.2.1, h.2.2⟩, fun h => ⟨h.subtotal, h.kdvAmount, h.grandTotal⟩⟩

instance (db : Db) : Decidable db.Totalled := by
  unfold Db.Totalled
  infer_instance

instance (db : Db) (w : Uuid) : Decidable (db.ClearOfTies w) := by
  unfold Db.ClearOfTies ClearOfTies
  infer_instance

instance (item : CreateWorkOrderItemInput) : Decidable item.HeldAsSent :=
  decidable_of_iff
    (toNumber (roundAway (item.unitPrice * 100)) = item.unitPrice ∧
      toNumber (roundAway (item.rate * 100)) = item.rate ∧ item.rate ≠ 0)
    ⟨fun h => ⟨h.1, h.2.1, h.2.2⟩, fun h => ⟨h.unitPrice, h.rate, h.taxed⟩⟩

instance (t : WorkshopTask) : Decidable t.SendsHeldLines := by
  induction t using WorkshopTask.casesOn <;> unfold WorkshopTask.SendsHeldLines <;> infer_instance

instance (l : Served) : Decidable l.SendsHeldLines := by
  unfold Served.SendsHeldLines
  infer_instance

def ordersMorePads : List Served :=
  [served (.createWorkOrder 0 padOrder),
    served (.updateWorkOrderItemQuantity 0 0 0
      { name := none, unitPrice := none, quantity := some 5 } none)]

theorem sample_totals_match :
    Always serve
      (fun db => ∀ w, db.ClearOfTies w →
        (∀ wo, db.workOrders.get? w = some wo → wo.Totalled ((db.itemsOf w).map Prod.snd)) ∧
          ∀ db', recalculateTotals db w = .ok db' → db' = db)
      shopDb ordersMorePads ∧ (run serve shopDb ordersMorePads).ClearOfTies 0 := by
  constructor
  · apply totals_match_items
    · decide +kernel
    · intro k it hit
      cases hit
    · decide +kernel
  · decide +kernel

/-- A line sent with a tax rate of zero is stored with one of 20 %. -/
def untaxedLine : CreateWorkOrderItemInput where
  itemType := some .service
  itemId := none
  name := "Muayene"
  quantity := 1
  unitPrice := 100
  kdvRate := some 0

theorem untaxed_order_totals :
    ¬ Always serve Db.Totalled shopDb
      [served (.createWorkOrder 0 { padOrder with items := [untaxedLine] })] := by
  decide +kernel

end Sample

end WorksAuto
