import Mathlib.Algebra.Order.BigOperators.Group.List
import WorksAuto.Schema

/-! Invoice totals, summed line by line in whole cents.
Each line is priced and taxed separately and rounded to a cent with
`Math.round`; an invalid line rejects the whole invoice. The totals are those of
doubles; the laws that hold without their roundings are about exact arithmetic. -/

namespace WorksAuto

open Lib

structure Arithmetic where
  op : ℚ → ℚ
  nonneg : ∀ {x}, 0 ≤ x → 0 ≤ op x

namespace Arithmetic

def exact : Arithmetic where
  op := id
  nonneg h := h

def double : Arithmetic where
  op := Double.nearest
  nonneg := Double.nearest_nonneg

end Arithmetic

/-- One line of an invoice, from the request or from the linked work order. -/
structure InvoiceLine where
  itemType : Option WorkOrderItemType
  name : String
  quantity : ℚ
  unitPrice : ℚ
  kdvRate : Option ℚ
  notes : Option String
  deriving DecidableEq, Repr

structure InvoiceTotals where
  subtotal : ℚ
  kdvAmount : ℚ
  grandTotal : ℚ
  deriving DecidableEq, Repr

namespace InvoiceLine

def ofWorkOrderItem (it : WorkOrderItem) : InvoiceLine where
  itemType := some it.itemType
  name := it.name
  quantity := it.quantity
  unitPrice := toNumber it.unitPrice
  kdvRate := some (toNumber it.kdvRate)
  notes := none

def rate (l : InvoiceLine) : ℚ := l.kdvRate.getD 20

def isValid (l : InvoiceLine) : Bool :=
  l.quantity.den = 1 ∧ 1 ≤ l.quantity ∧ 0 ≤ l.unitPrice ∧ 0 ≤ l.rate ∧ l.rate ≤ 100

/-- Whole cents are multiplied and added exactly: doubles hold more of them than any column. -/
def cents (ar : Arithmetic) (l : InvoiceLine) : ℤ :=
  round (ar.op (ar.op l.unitPrice * 100)) * l.quantity.num

def taxCents (ar : Arithmetic) (l : InvoiceLine) : ℤ :=
  round (ar.op (ar.op (l.cents ar * ar.op l.rate) / 100))

variable {ar : Arithmetic} {l : InvoiceLine}

theorem cents_nonneg (h : l.isValid = true) : 0 ≤ l.cents ar := by
  simp only [isValid, decide_eq_true_eq] at h
  obtain ⟨-, hq, hp, -, -⟩ := h
  have hnum : 0 ≤ l.quantity.num := Rat.num_nonneg.mpr (by linarith)
  have hprice := ar.nonneg hp
  exact mul_nonneg (round_nonneg (ar.nonneg (by positivity))) hnum

theorem taxCents_nonneg (h : l.isValid = true) : 0 ≤ l.taxCents ar := by
  have hc : (0 : ℚ) ≤ l.cents ar := by exact_mod_cast cents_nonneg h
  simp only [isValid, decide_eq_true_eq] at h
  obtain ⟨-, -, -, hr, -⟩ := h
  have hrate := ar.nonneg hr
  have htax := ar.nonneg (mul_nonneg hc hrate)
  exact round_nonneg (ar.nonneg (by positivity))

end InvoiceLine

def addLineTotals (ar : Arithmetic) (acc : ℤ × ℤ) (item : InvoiceLine) : Outcome (ℤ × ℤ) := do
  Outcome.reject (!item.isValid) (.plain "Invalid invoice line quantity, price or tax rate.")
  pure (acc.1 + item.cents ar, acc.2 + item.taxCents ar)

def totalsIn (ar : Arithmetic) (items : List InvoiceLine) : Outcome InvoiceTotals := do
  let (subtotalCents, taxCents) ← items.foldlM (addLineTotals ar) (0, 0)
  pure
    { subtotal := toNumber subtotalCents
      kdvAmount := toNumber taxCents
      grandTotal := toNumber (subtotalCents + taxCents) }

def calculateInvoiceTotals (items : List InvoiceLine) : Outcome InvoiceTotals :=
  totalsIn .double items

section Sums

variable {ar : Arithmetic}

theorem addLineTotals_ok {acc acc' : ℤ × ℤ} {item : InvoiceLine}
    (h : addLineTotals ar acc item = .ok acc') :
    item.isValid = true ∧ acc' = (acc.1 + item.cents ar, acc.2 + item.taxCents ar) := by
  obtain ⟨u, hu, hacc⟩ := Outcome.bind_eq_ok.mp h
  simp only [Outcome.reject_eq_ok, Bool.not_eq_false'] at hu
  exact ⟨hu, (Outcome.pure_eq_ok.mp hacc).symm⟩

theorem foldlM_addLineTotals_ok {items : List InvoiceLine} {acc acc' : ℤ × ℤ}
    (h : items.foldlM (addLineTotals ar) acc = .ok acc') :
    (∀ l ∈ items, l.isValid = true) ∧
      acc' = (acc.1 + (items.map (·.cents ar)).sum, acc.2 + (items.map (·.taxCents ar)).sum) := by
  induction items generalizing acc with
  | nil =>
    rw [List.foldlM_nil, Outcome.pure_eq_ok] at h
    simp [← h]
  | cons l items ih =>
    rw [List.foldlM_cons] at h
    obtain ⟨mid, hmid, hrest⟩ := Outcome.bind_eq_ok.mp h
    obtain ⟨hl, rfl⟩ := addLineTotals_ok hmid
    obtain ⟨hitems, rfl⟩ := ih hrest
    refine ⟨?_, ?_⟩
    · intro m hm
      rcases List.mem_cons.mp hm with rfl | hm
      · exact hl
      · exact hitems m hm
    · simp only [List.map_cons, List.sum_cons, add_assoc]

theorem foldlM_addLineTotals_valid {items : List InvoiceLine} (h : ∀ l ∈ items, l.isValid = true)
    (acc : ℤ × ℤ) : items.foldlM (addLineTotals ar) acc =
      .ok (acc.1 + (items.map (·.cents ar)).sum, acc.2 + (items.map (·.taxCents ar)).sum) := by
  induction items generalizing acc with
  | nil => simp [pure, Except.pure]
  | cons l items ih =>
    obtain ⟨hl, hrest⟩ := List.forall_mem_cons.mp h
    have hline : addLineTotals ar acc l = .ok (acc.1 + l.cents ar, acc.2 + l.taxCents ar) :=
      Outcome.bind_eq_ok.mpr ⟨(), by rw [Outcome.reject_eq_ok, hl]; rfl, rfl⟩
    rw [List.foldlM_cons]
    refine Outcome.bind_eq_ok.mpr ⟨_, hline, ?_⟩
    rw [ih hrest, List.map_cons, List.map_cons, List.sum_cons, List.sum_cons, add_assoc, add_assoc]

theorem totalsIn_valid {items : List InvoiceLine} (h : ∀ l ∈ items, l.isValid = true) :
    totalsIn ar items =
      .ok { subtotal := toNumber (items.map (·.cents ar)).sum
            kdvAmount := toNumber (items.map (·.taxCents ar)).sum
            grandTotal := toNumber
              ((items.map (·.cents ar)).sum + (items.map (·.taxCents ar)).sum) } := by
  refine Outcome.bind_eq_ok.mpr ⟨_, foldlM_addLineTotals_valid h (0, 0), ?_⟩
  simp only [zero_add]
  rfl

end Sums

theorem totalsIn_ok {ar : Arithmetic} {items : List InvoiceLine} {t : InvoiceTotals}
    (h : totalsIn ar items = .ok t) :
    (∀ l ∈ items, l.isValid = true) ∧
      t.subtotal = toNumber (items.map (·.cents ar)).sum ∧
      t.kdvAmount = toNumber (items.map (·.taxCents ar)).sum ∧
      t.grandTotal = t.subtotal + t.kdvAmount := by
  obtain ⟨acc, hacc, ht⟩ := Outcome.bind_eq_ok.mp h
  obtain ⟨hitems, rfl⟩ := foldlM_addLineTotals_ok hacc
  rw [← Outcome.pure_eq_ok.mp ht]
  refine ⟨hitems, by simp, by simp, ?_⟩
  simp only [zero_add]
  exact toNumber_add _ _

theorem calculateInvoiceTotals_cents {items : List InvoiceLine} {t : InvoiceTotals}
    (h : calculateInvoiceTotals items = .ok t) :
    ∃ g : ℤ, 0 ≤ g ∧ t.grandTotal = toNumber g := by
  obtain ⟨hitems, hs, hk, hg⟩ := totalsIn_ok h
  refine ⟨(items.map (·.cents .double)).sum + (items.map (·.taxCents .double)).sum, ?_, ?_⟩
  · apply add_nonneg
    · apply List.sum_nonneg
      intro c hc
      obtain ⟨l, hl, rfl⟩ := List.mem_map.mp hc
      exact InvoiceLine.cents_nonneg (hitems l hl)
    · apply List.sum_nonneg
      intro c hc
      obtain ⟨l, hl, rfl⟩ := List.mem_map.mp hc
      exact InvoiceLine.taxCents_nonneg (hitems l hl)
  · rw [hg, hs, hk, toNumber_add]

end WorksAuto
