import Mathlib.Algebra.BigOperators.Ring.Finset
import WorksAuto.Dashboard.FinancialReport

/-! When two orders make the same report.
Orders with the same kinds of items in the same quantities show alike in every
report exactly when the items of each kind come to the same sum and the orders to
the same revenue: any other difference moves a figure over the border between two
whole numbers in the report of some shop. -/

namespace WorksAuto

open Lib

section Figures

/-- The figures that a report shows of an order, or of all of them together. -/
structure ShownFigures where
  labour : ℤ
  parts : ℤ
  partsCost : ℤ
  profit : ℤ
  margin : ℤ
  deriving DecidableEq

def OrderFigures.shown (f : OrderFigures) : ShownFigures where
  labour := round f.labour
  parts := round f.parts
  partsCost := round f.partsCost
  profit := round f.estimatedProfit
  margin := f.profitMargin

def OrderReport.figures (r : OrderReport) : ShownFigures where
  labour := r.labourTotal
  parts := r.partsTotal
  partsCost := r.partsCost
  profit := r.estimatedProfit
  margin := r.profitMargin

def ReportSummary.figures (s : ReportSummary) : ShownFigures where
  labour := s.totalLabourRevenue
  parts := s.totalPartsRevenue
  partsCost := s.totalPartsCost
  profit := s.netProfit
  margin := s.profitMargin

/-- Labour revenue, parts revenue, parts cost, profit and margin, in all and by order. -/
def FinancialReport.figures (r : FinancialReport) : ShownFigures × List ShownFigures :=
  (r.summary.figures, r.recentCompletedOrders.map OrderReport.figures)

theorem figures_financialReport (costs : ProductCosts) (orders : List CompletedOrder) :
    (financialReport costs orders).figures =
      ((totalFigures (orders.map (CompletedOrder.figures costs))).shown,
        orders.map fun o => (o.figures costs).shown) := by
  simp only [FinancialReport.figures, financialReport, List.map_map]
  rfl

def Interchangeable (o o' : CompletedOrder) : Prop :=
  ∀ (costs : ProductCosts) (before after : List CompletedOrder),
    (financialReport costs (before ++ o :: after)).figures =
      (financialReport costs (before ++ o' :: after)).figures

theorem Interchangeable.of_figures {o o' : CompletedOrder}
    (h : ∀ costs, o.figures costs = o'.figures costs) : Interchangeable o o' := by
  intro costs before after
  simp only [figures_financialReport, List.map_append, List.map_cons, h costs]

def OrderFigures.add (f g : OrderFigures) : OrderFigures where
  labour := f.labour + g.labour
  parts := f.parts + g.parts
  partsCost := f.partsCost + g.partsCost
  grandTotal := f.grandTotal + g.grandTotal

theorem Interchangeable.shown_add {o o' : CompletedOrder} (h : Interchangeable o o')
    (costs : ProductCosts) (other : CompletedOrder) :
    ((other.figures costs).add (o.figures costs)).shown =
      ((other.figures costs).add (o'.figures costs)).shown := by
  have hreport := congrArg Prod.fst (h costs [other] [])
  simpa [figures_financialReport, totalFigures, OrderFigures.add] using hreport

end Figures

section Kinds

inductive LineKind where
  | labour
  | part (productId : Option Uuid)
  deriving DecidableEq

def WorkOrderItem.kind (item : WorkOrderItem) : LineKind :=
  match item.itemType with
  | .service => .labour
  | .part => .part item.itemId

namespace LineKind

def knownCost (costs : ProductCosts) : LineKind → ℚ
  | labour => 0
  | part productId => (productId.bind costs).getD 0

/-- Which share of the price is taken for the cost, where that is not recorded. -/
def costShare (costs : ProductCosts) : LineKind → ℚ
  | labour => 0
  | part productId => if (productId.bind costs).isSome then 0 else 3 / 4

def labourShare : LineKind → ℚ
  | labour => 1
  | part _ => 0

def partsShare : LineKind → ℚ
  | labour => 0
  | part _ => 1

end LineKind

theorem WorkOrderItem.labour_eq :
    labour = fun it => it.kind.labourShare * toNumber it.totalPrice := by
  funext it
  unfold labour kind
  cases it.itemType <;> simp [LineKind.labourShare]

theorem WorkOrderItem.parts_eq :
    parts = fun it => it.kind.partsShare * toNumber it.totalPrice := by
  funext it
  unfold parts kind
  cases it.itemType <;> simp [LineKind.partsShare]

theorem WorkOrderItem.partsCost_eq (costs : ProductCosts) : partsCost costs = fun it =>
    it.kind.knownCost costs * it.quantity + it.kind.costShare costs * toNumber it.totalPrice := by
  funext it
  unfold partsCost kind
  cases it.itemType with
  | service => simp [LineKind.knownCost, LineKind.costShare]
  | part =>
    cases hcost : it.itemId.bind costs with
    | none => simp [LineKind.knownCost, LineKind.costShare, hcost, mul_comm]
    | some c => simp [LineKind.knownCost, LineKind.costShare, hcost]

end Kinds

section Sums

variable {ι κ : Type} [DecidableEq κ]

theorem sum_weighted (lines : List ι) (key : ι → κ) (value : ι → ℚ) (weight : κ → ℚ)
    {keys : Finset κ} (hkeys : ∀ i ∈ lines, key i ∈ keys) :
    (lines.map fun i => weight (key i) * value i).sum =
      ∑ k ∈ keys, weight k * (lines.map fun i => if key i = k then value i else 0).sum := by
  induction lines with
  | nil => simp
  | cons i lines ih =>
    obtain ⟨hi, hlines⟩ := List.forall_mem_cons.mp hkeys
    have hhead : ∑ k ∈ keys, weight k * (if key i = k then value i else 0) =
        weight (key i) * value i := by
      simp [mul_ite, Finset.sum_ite_eq, hi]
    simp only [List.map_cons, List.sum_cons, mul_add, Finset.sum_add_distrib, ih hlines, hhead]

theorem sum_weighted_congr {lines lines' : List ι} {key : ι → κ} {value : ι → ℚ}
    (h : ∀ k, (lines.map fun i => if key i = k then value i else 0).sum =
      (lines'.map fun i => if key i = k then value i else 0).sum) (weight : κ → ℚ) :
    (lines.map fun i => weight (key i) * value i).sum =
      (lines'.map fun i => weight (key i) * value i).sum := by
  have hkeys : ∀ i ∈ lines ++ lines', key i ∈ ((lines ++ lines').map key).toFinset := fun i hi =>
    List.mem_toFinset.mpr (List.mem_map_of_mem hi)
  obtain ⟨hleft, hright⟩ := List.forall_mem_append.mp hkeys
  rw [sum_weighted lines key value weight hleft, sum_weighted lines' key value weight hright]
  exact Finset.sum_congr rfl fun k _ => by rw [h k]

end Sums

section Totals

def kindTotal (kind : LineKind) (items : List WorkOrderItem) : ℤ :=
  (items.map fun it => if it.kind = kind then it.totalPrice else 0).sum

/-- What a completed order counts as revenue, in whole cents. -/
def CompletedOrder.revenue (o : CompletedOrder) : ℤ :=
  if o.order.grandTotal = 0 then (o.items.map WorkOrderItem.totalPrice).sum
  else o.order.grandTotal

structure SameTotals (o o' : CompletedOrder) : Prop where
  lines : ∀ kind, kindTotal kind o.items = kindTotal kind o'.items
  revenue : o.revenue = o'.revenue

theorem toNumber_kindTotal (kind : LineKind) (items : List WorkOrderItem) :
    toNumber (kindTotal kind items) =
      (items.map fun it => if it.kind = kind then toNumber it.totalPrice else 0).sum := by
  rw [kindTotal, toNumber_sum, List.map_map]
  congr 1
  apply List.map_congr_left
  intro it _
  simp only [Function.comp_apply]
  split_ifs
  · rfl
  · exact toNumber_zero

variable {o o' : CompletedOrder}

theorem weighted_congr {items items' : List WorkOrderItem}
    (h : ∀ kind, kindTotal kind items = kindTotal kind items') (weight : LineKind → ℚ) :
    (items.map fun it => weight it.kind * toNumber it.totalPrice).sum =
      (items'.map fun it => weight it.kind * toNumber it.totalPrice).sum := by
  apply sum_weighted_congr
  intro kind
  rw [← toNumber_kindTotal, ← toNumber_kindTotal, h kind]

theorem labour_add_parts (items : List WorkOrderItem) :
    (items.map WorkOrderItem.labour).sum + (items.map WorkOrderItem.parts).sum =
      toNumber (items.map WorkOrderItem.totalPrice).sum := by
  rw [toNumber_sum, List.map_map, ← List.sum_map_add]
  congr 1
  apply List.map_congr_left
  intro it _
  unfold WorkOrderItem.labour WorkOrderItem.parts
  cases it.itemType <;> simp

theorem CompletedOrder.figures_grandTotal (costs : ProductCosts) (o : CompletedOrder) :
    (o.figures costs).grandTotal = toNumber o.revenue := by
  simp only [figures, revenue, labour_add_parts]
  split_ifs <;> rfl

def WorkOrderItem.amount (it : WorkOrderItem) : LineKind × ℤ := (it.kind, it.quantity)

theorem figures_lines (hlines : ∀ kind, kindTotal kind o.items = kindTotal kind o'.items)
    (hitems : o.items.map WorkOrderItem.amount = o'.items.map WorkOrderItem.amount)
    (costs : ProductCosts) :
    (o.figures costs).labour = (o'.figures costs).labour ∧
      (o.figures costs).parts = (o'.figures costs).parts ∧
      (o.figures costs).partsCost = (o'.figures costs).partsCost := by
  refine ⟨?_, ?_, ?_⟩
  · simp only [CompletedOrder.figures]
    rw [WorkOrderItem.labour_eq]
    exact weighted_congr hlines _
  · simp only [CompletedOrder.figures]
    rw [WorkOrderItem.parts_eq]
    exact weighted_congr hlines _
  · have hknown := congrArg
      (fun amounts => (amounts.map fun a : LineKind × ℤ => a.1.knownCost costs * a.2).sum) hitems
    simp only [List.map_map] at hknown
    simp only [CompletedOrder.figures]
    rw [WorkOrderItem.partsCost_eq, List.sum_map_add, List.sum_map_add, weighted_congr hlines]
    exact congrArg (· + _) hknown

theorem SameTotals.figures (h : SameTotals o o')
    (hitems : o.items.map WorkOrderItem.amount = o'.items.map WorkOrderItem.amount)
    (costs : ProductCosts) : o.figures costs = o'.figures costs := by
  have hgrand : (o.figures costs).grandTotal = (o'.figures costs).grandTotal := by
    rw [CompletedOrder.figures_grandTotal, CompletedOrder.figures_grandTotal, h.revenue]
  obtain ⟨hlabour, hparts, hcost⟩ := figures_lines h.lines hitems costs
  rw [OrderFigures.mk.injEq]
  exact ⟨hlabour, hparts, hcost, hgrand⟩

end Totals

section Telling

def lineItem (itemType : WorkOrderItemType) (totalPrice : ℤ) : WorkOrderItem where
  workOrderId := 0
  itemType := itemType
  itemId := none
  name := ""
  quantity := 1
  unitPrice := totalPrice
  kdvRate := 0
  totalPrice := totalPrice

def otherOrder (grandTotal : ℤ) (item : WorkOrderItem) : CompletedOrder where
  id := 0
  order :=
    { tenantId := 0, workOrderNumber := "", appointmentId := none, customerId := 0, vehicleId := 0,
      assignedMechanicId := none, assignedLift := none, status := .completed, initialKm := 0,
      fuelLevel := none, subtotal := 0, kdvAmount := 0, grandTotal, completedAt := some 0 }
  updatedAt := 0
  customer := none
  plate := none
  invoiceStatus := none
  items := [item]

theorem figures_labourOrder (costs : ProductCosts) (grandTotal total : ℤ) :
    (otherOrder grandTotal (lineItem .service total)).figures costs =
      { labour := toNumber total, parts := 0, partsCost := 0,
        grandTotal := if grandTotal = 0 then toNumber total else toNumber grandTotal } := by
  simp [CompletedOrder.figures, otherOrder, lineItem, WorkOrderItem.labour, WorkOrderItem.parts,
    WorkOrderItem.partsCost]

theorem figures_partOrder (costs : ProductCosts) (total : ℤ) :
    (otherOrder 0 (lineItem .part total)).figures costs =
      { labour := 0, parts := toNumber total, partsCost := toNumber total * (3 / 4),
        grandTotal := toNumber total } := by
  simp [CompletedOrder.figures, otherOrder, lineItem, WorkOrderItem.labour, WorkOrderItem.parts,
    WorkOrderItem.partsCost]

variable {o o' : CompletedOrder}

theorem figures_labour (costs : ProductCosts) (o : CompletedOrder) :
    (o.figures costs).labour = toNumber (kindTotal .labour o.items) := by
  rw [toNumber_kindTotal]
  simp only [CompletedOrder.figures]
  rw [WorkOrderItem.labour_eq]
  congr 1
  apply List.map_congr_left
  intro it _
  cases it.kind <;> simp [LineKind.labourShare]

theorem Interchangeable.labour_eq (h : Interchangeable o o') :
    kindTotal .labour o.items = kindTotal .labour o'.items := by
  apply eq_of_round_mul_add (K := ℚ) (c := 1 / 100) (t := 50) (m := 0) (by norm_num) (by norm_num)
  intro x
  have hshown := congrArg ShownFigures.labour
    (h.shown_add (fun _ => none) (otherOrder 0 (lineItem .service x)))
  simp only [OrderFigures.shown, OrderFigures.add, figures_labourOrder, figures_labour,
    ← toNumber_add] at hshown
  simpa only [toNumber, div_eq_inv_mul, mul_one] using hshown

def unrecorded (costs : ProductCosts) (items : List WorkOrderItem) : ℤ :=
  (items.map fun it => if it.kind.costShare costs = 0 then 0 else it.totalPrice).sum

theorem figures_partsCost {costs : ProductCosts} (hcosts : ∀ id, (costs id).getD 0 = 0)
    (o : CompletedOrder) :
    (o.figures costs).partsCost = 3 / 4 * toNumber (unrecorded costs o.items) := by
  have hknown : ∀ kind : LineKind, kind.knownCost costs = 0 := by
    intro kind
    cases kind with
    | labour => rfl
    | part productId => cases productId <;> simp [LineKind.knownCost, hcosts]
  have hshare : ∀ (kind : LineKind) (total : ℤ), kind.costShare costs * toNumber total =
      3 / 4 * toNumber (if kind.costShare costs = 0 then 0 else total) := by
    intro kind total
    cases kind with
    | labour => simp [LineKind.costShare]
    | part productId =>
      simp only [LineKind.costShare]
      split_ifs <;> simp_all
  simp only [CompletedOrder.figures]
  rw [WorkOrderItem.partsCost_eq, unrecorded, toNumber_sum, ← List.sum_map_mul_left, List.map_map]
  congr 1
  apply List.map_congr_left
  intro it _
  simp only [Function.comp_apply]
  rw [hknown, zero_mul, zero_add, hshare]

theorem Interchangeable.unrecorded_eq (h : Interchangeable o o') {costs : ProductCosts}
    (hcosts : ∀ id, (costs id).getD 0 = 0) :
    unrecorded costs o.items = unrecorded costs o'.items := by
  apply eq_of_round_mul_add (K := ℚ) (c := 3 / 400) (t := 200) (m := 1) (by norm_num) (by norm_num)
  intro x
  have hshown := congrArg ShownFigures.partsCost
    (h.shown_add costs (otherOrder 0 (lineItem .part x)))
  simp only [OrderFigures.shown, OrderFigures.add, figures_partOrder, figures_partsCost hcosts,
    mul_comm (toNumber x), ← mul_add, ← toNumber_add] at hshown
  have hscale : ∀ y : ℤ, 3 / 400 * (y : ℚ) = 3 / 4 * toNumber y := by
    intro y
    unfold toNumber
    ring
  rw [hscale, hscale]
  exact hshown

/-- The costs of a shop that recorded one for every product but the given ones. -/
def recordedBut (p : Uuid → Bool) : ProductCosts := fun id => if p id then none else some 0

theorem recordedBut_zero (p : Uuid → Bool) (id : Uuid) : (recordedBut p id).getD 0 = 0 := by
  unfold recordedBut
  split_ifs <;> rfl

theorem unrecorded_none (items : List WorkOrderItem) :
    unrecorded (recordedBut fun _ => false) items = kindTotal (.part none) items := by
  unfold unrecorded kindTotal
  congr 1
  apply List.map_congr_left
  intro it _
  cases it.kind with
  | labour => simp [LineKind.costShare]
  | part productId => cases productId <;> simp [LineKind.costShare, recordedBut]

theorem unrecorded_one (i : Uuid) (items : List WorkOrderItem) :
    unrecorded (recordedBut fun id => id = i) items =
      kindTotal (.part none) items + kindTotal (.part (some i)) items := by
  unfold unrecorded kindTotal
  rw [← List.sum_map_add]
  congr 1
  apply List.map_congr_left
  intro it _
  cases it.kind with
  | labour => simp [LineKind.costShare]
  | part productId =>
    cases productId with
    | none => simp [LineKind.costShare]
    | some id => by_cases hid : id = i <;> simp [LineKind.costShare, recordedBut, hid]

theorem Interchangeable.lines (h : Interchangeable o o') (kind : LineKind) :
    kindTotal kind o.items = kindTotal kind o'.items := by
  cases kind with
  | labour => exact h.labour_eq
  | part productId =>
    have hnone := h.unrecorded_eq (recordedBut_zero fun _ => false)
    rw [unrecorded_none, unrecorded_none] at hnone
    cases productId with
    | none => exact hnone
    | some i =>
      have hone := h.unrecorded_eq (recordedBut_zero fun id => id = i)
      rw [unrecorded_one, unrecorded_one, hnone] at hone
      exact add_left_cancel hone

/-- Of two revenues the larger one leaves less than half a percent of profit, next to a
labour order with which the smaller one leaves just that. -/
theorem exists_margin_ne {f g : OrderFigures} {n e e' : ℤ} (hf : f.estimatedProfit = n / 400)
    (hg : g.estimatedProfit = n / 400) (hfe : f.grandTotal = toNumber e)
    (hge : g.grandTotal = toNumber e') (hlt : e < e') :
    ∃ total grandTotal : ℤ, ∀ costs,
      let other := (otherOrder grandTotal (lineItem .service total)).figures costs
      (other.add f).profitMargin ≠ (other.add g).profitMargin := by
  obtain ⟨x, hx⟩ : ∃ x : ℤ, x = |n| + |e| + 1 := ⟨_, rfl⟩
  have hn := neg_abs_le n
  have he := le_abs_self e
  have hn0 := abs_nonneg n
  have he0 := abs_nonneg e
  have hbase : 0 < n + 4 * x := by omega
  have hy : 50 * n + 200 * x - e ≠ 0 := by omega
  refine ⟨x, 50 * n + 200 * x - e, fun costs => ?_⟩
  have hadd : ∀ {f : OrderFigures} {e' : ℤ}, f.estimatedProfit = n / 400 →
      f.grandTotal = toNumber e' →
      let other := (otherOrder (50 * n + 200 * x - e) (lineItem .service x)).figures costs
      (other.add f).estimatedProfit = ((n + 4 * x : ℤ) : ℚ) / 400 ∧
        (other.add f).grandTotal = ((50 * (n + 4 * x) + (e' - e) : ℤ) : ℚ) / 100 := by
    intro f e' hf hfe
    simp only [OrderFigures.estimatedProfit] at hf
    simp only [figures_labourOrder, OrderFigures.add, OrderFigures.estimatedProfit, if_neg hy, hfe,
      ← toNumber_add]
    unfold toNumber
    push_cast
    constructor <;> linarith
  have hbaseQ : (0 : ℚ) < ((n + 4 * x : ℤ) : ℚ) := by exact_mod_cast hbase
  have hltQ : (0 : ℚ) < ((e' - e : ℤ) : ℚ) := by exact_mod_cast sub_pos.mpr hlt
  have hone : profitMargin (((n + 4 * x : ℤ) : ℚ) / 400)
      (((50 * (n + 4 * x) + (e - e) : ℤ) : ℚ) / 100) = 1 := by
    have hratio : ((n + 4 * x : ℤ) : ℚ) / 400 /
        (((50 * (n + 4 * x) + (e - e) : ℤ) : ℚ) / 100) * 100 = 1 / 2 := by
      rw [sub_self, add_zero, Int.cast_mul]
      field_simp
      norm_num
    rw [profitMargin, if_pos, hratio]
    · exact round_eq_iff.mpr ⟨by norm_num, by norm_num⟩
    · push_cast at hbaseQ ⊢
      linarith
  have hzero : profitMargin (((n + 4 * x : ℤ) : ℚ) / 400)
      (((50 * (n + 4 * x) + (e' - e) : ℤ) : ℚ) / 100) = 0 := by
    have hpos : (0 : ℚ) < ((50 * (n + 4 * x) + (e' - e) : ℤ) : ℚ) / 100 := by
      push_cast at hbaseQ hltQ ⊢
      linarith
    rw [profitMargin, if_pos hpos]
    apply round_eq_iff.mpr
    have hlo : 0 ≤ ((n + 4 * x : ℤ) : ℚ) / 400 /
        (((50 * (n + 4 * x) + (e' - e) : ℤ) : ℚ) / 100) * 100 := by positivity
    have hhi : ((n + 4 * x : ℤ) : ℚ) / 400 /
        (((50 * (n + 4 * x) + (e' - e) : ℤ) : ℚ) / 100) * 100 < 1 / 2 := by
      rw [div_mul_eq_mul_div, div_lt_iff₀ hpos]
      push_cast at hbaseQ hltQ ⊢
      linarith
    constructor
    · push_cast at hlo ⊢
      linarith
    · push_cast at hhi ⊢
      linarith
  obtain ⟨hpf, hgf⟩ := hadd hf hfe
  obtain ⟨hpg, hgg⟩ := hadd hg hge
  simp only [OrderFigures.profitMargin]
  rw [hpf, hgf, hpg, hgg, hone, hzero]
  exact one_ne_zero

theorem estimatedProfit_eq (p : Uuid → Bool) (o : CompletedOrder) :
    (o.figures (recordedBut p)).estimatedProfit =
      ((4 * (o.items.map WorkOrderItem.totalPrice).sum - 3 * unrecorded (recordedBut p) o.items :
        ℤ) : ℚ) / 400 := by
  have hsum := labour_add_parts o.items
  have hcost := figures_partsCost (recordedBut_zero p) o
  rw [OrderFigures.estimatedProfit, hcost, ← add_sub_assoc]
  simp only [CompletedOrder.figures]
  rw [hsum]
  unfold toNumber
  push_cast
  ring

theorem Interchangeable.symm (h : Interchangeable o o') : Interchangeable o' o :=
  fun costs before after => (h costs before after).symm

theorem Interchangeable.revenue_le (h : Interchangeable o o')
    (hitems : o.items.map WorkOrderItem.amount = o'.items.map WorkOrderItem.amount) :
    o'.revenue ≤ o.revenue := by
  by_contra hlt
  have hprofit : (o'.figures (recordedBut fun _ => false)).estimatedProfit =
      (o.figures (recordedBut fun _ => false)).estimatedProfit := by
    obtain ⟨hlabour, hparts, hcost⟩ :=
      figures_lines h.lines hitems (recordedBut fun _ => false)
    simp only [OrderFigures.estimatedProfit, hlabour, hparts, hcost]
  have hself := estimatedProfit_eq (fun _ => false) o
  obtain ⟨total, grandTotal, hne⟩ := exists_margin_ne hself (hprofit.trans hself)
    (o.figures_grandTotal _) (o'.figures_grandTotal _) (not_le.mp hlt)
  exact hne (recordedBut fun _ => false)
    (congrArg ShownFigures.margin
      (h.shown_add (recordedBut fun _ => false) (otherOrder grandTotal (lineItem .service total))))

end Telling

/-- Two orders with the same kinds and quantities of items make the same report, whatever
else is in it, if and only if their items of each kind come to the same sum and they to
the same revenue. -/
theorem interchangeable_iff {o o' : CompletedOrder}
    (hitems : o.items.map WorkOrderItem.amount = o'.items.map WorkOrderItem.amount) :
    Interchangeable o o' ↔ SameTotals o o' := by
  constructor
  · intro h
    exact ⟨h.lines, le_antisymm (h.symm.revenue_le hitems.symm) (h.revenue_le hitems)⟩
  · intro h
    exact .of_figures (h.figures hitems)

end WorksAuto
