import WorksAuto.Invoices.Totals

/-! The laws of the invoice totals.
The items are taken as they arrive, with numbers that may be infinite or not numbers at all. The
totals are those of the lines that the items are, so they add up and ignore the order, and
rounding each line moves the tax by at most half a cent a line. -/

namespace WorksAuto

open Lib

section Items

inductive JsNumber where
  | finite (value : ℚ)
  | infinite (negative : Bool)
  | nan
  deriving DecidableEq, Repr

def JsNumber.value? : JsNumber → Option ℚ
  | .finite value => some value
  | _ => none

structure TotalsItem where
  quantity : JsNumber
  unitPrice : JsNumber
  kdvRate : Option JsNumber
  deriving DecidableEq, Repr

namespace TotalsItem

def line? (item : TotalsItem) : Option InvoiceLine := do
  let quantity ← item.quantity.value?
  let unitPrice ← item.unitPrice.value?
  let rate ← (item.kdvRate.getD (.finite 20)).value?
  pure { itemType := none, name := "", quantity, unitPrice, kdvRate := some rate, notes := none }

/-- A whole quantity of at least one, a price that is not negative, and a rate up to 100. -/
def InBounds (item : TotalsItem) : Prop :=
  ∃ quantity unitPrice rate : ℚ, item.quantity = .finite quantity ∧
    item.unitPrice = .finite unitPrice ∧ item.kdvRate.getD (.finite 20) = .finite rate ∧
      quantity.den = 1 ∧ 1 ≤ quantity ∧ 0 ≤ unitPrice ∧ 0 ≤ rate ∧ rate ≤ 100

def addTotals (acc : ℤ × ℤ) (item : TotalsItem) : Outcome (ℤ × ℤ) := do
  let line ← Outcome.required item.line?
    (.plain "Invalid invoice line quantity, price or tax rate.")
  addLineTotals .exact acc line

/-- `calculateInvoiceTotals` in exact arithmetic, for whatever numbers it is given. -/
def calculateTotals (items : List TotalsItem) : Outcome InvoiceTotals := do
  let (subtotalCents, taxCents) ← items.foldlM addTotals (0, 0)
  pure
    { subtotal := toNumber subtotalCents
      kdvAmount := toNumber taxCents
      grandTotal := toNumber (subtotalCents + taxCents) }

/-- The tax on the line amounts, which are rounded to cents, before it is rounded itself. -/
def exactTax (items : List TotalsItem) : ℚ :=
  ((items.filterMap line?).map fun l => toNumber (l.cents .exact) * l.rate / 100).sum

variable {item : TotalsItem} {items items' : List TotalsItem} {l : InvoiceLine}

theorem value?_eq_some {n : JsNumber} {q : ℚ} : n.value? = some q ↔ n = .finite q := by
  cases n <;> simp [JsNumber.value?]

theorem line?_eq_some : item.line? = some l ↔ ∃ quantity unitPrice rate : ℚ,
    item.quantity = .finite quantity ∧ item.unitPrice = .finite unitPrice ∧
      item.kdvRate.getD (.finite 20) = .finite rate ∧
        ⟨none, "", quantity, unitPrice, some rate, none⟩ = l := by
  simp only [line?, bind, Option.bind_eq_some_iff, value?_eq_some, pure, Option.some.injEq]
  constructor
  · rintro ⟨quantity, hquantity, unitPrice, hprice, rate, hrate, rfl⟩
    exact ⟨quantity, unitPrice, rate, hquantity, hprice, hrate, rfl⟩
  · rintro ⟨quantity, unitPrice, rate, hquantity, hprice, hrate, rfl⟩
    exact ⟨quantity, hquantity, unitPrice, hprice, rate, hrate, rfl⟩

theorem inBounds_iff : item.InBounds ↔ ∃ l, item.line? = some l ∧ l.isValid = true := by
  constructor
  · rintro ⟨quantity, unitPrice, rate, hquantity, hprice, hrate, hbounds⟩
    exact ⟨_, line?_eq_some.mpr ⟨quantity, unitPrice, rate, hquantity, hprice, hrate, rfl⟩,
      decide_eq_true hbounds⟩
  · rintro ⟨l, hline, hvalid⟩
    obtain ⟨quantity, unitPrice, rate, hquantity, hprice, hrate, rfl⟩ := line?_eq_some.mp hline
    exact ⟨quantity, unitPrice, rate, hquantity, hprice, hrate, of_decide_eq_true hvalid⟩

def Lines (items : List TotalsItem) (lines : List InvoiceLine) : Prop :=
  items.map line? = lines.map some

theorem foldlM_addTotals {lines : List InvoiceLine} (h : Lines items lines) (acc : ℤ × ℤ) :
    items.foldlM addTotals acc = lines.foldlM (addLineTotals .exact) acc := by
  induction items generalizing lines acc with
  | nil =>
    obtain rfl := List.map_eq_nil_iff.mp h.symm
    rfl
  | cons item items ih =>
    cases lines with
    | nil => cases h
    | cons l lines =>
      obtain ⟨hline, hrest⟩ := List.cons.inj h
      have hadd : addTotals acc item = addLineTotals .exact acc l := by
        rw [addTotals, hline]
        rfl
      rw [List.foldlM_cons, List.foldlM_cons, hadd]
      exact congrArg _ (funext fun acc' => ih hrest acc')

theorem calculateTotals_lines {lines : List InvoiceLine} (h : Lines items lines) :
    calculateTotals items = totalsIn .exact lines := by
  rw [calculateTotals, totalsIn, foldlM_addTotals h]

theorem lines_of_foldlM {acc acc' : ℤ × ℤ} (h : items.foldlM addTotals acc = .ok acc') :
    ∃ lines, Lines items lines := by
  induction items generalizing acc with
  | nil => exact ⟨[], rfl⟩
  | cons item items ih =>
    rw [List.foldlM_cons] at h
    obtain ⟨mid, hadd, hrest⟩ := Outcome.bind_eq_ok.mp h
    obtain ⟨l, hline, -⟩ := Outcome.bind_eq_ok.mp hadd
    obtain ⟨lines, hlines⟩ := ih hrest
    exact ⟨l :: lines, by rw [Lines, List.map_cons, List.map_cons, hlines,
      Outcome.required_eq_ok.mp hline]⟩

theorem calculateTotals_eq_ok {t : InvoiceTotals} :
    calculateTotals items = .ok t ↔ ∃ lines, Lines items lines ∧
      (∀ l ∈ lines, l.isValid = true) ∧
        t = { subtotal := toNumber (lines.map (·.cents .exact)).sum
              kdvAmount := toNumber (lines.map (·.taxCents .exact)).sum
              grandTotal := toNumber
                ((lines.map (·.cents .exact)).sum + (lines.map (·.taxCents .exact)).sum) } := by
  constructor
  · intro h
    obtain ⟨acc, hacc, -⟩ := Outcome.bind_eq_ok.mp h
    obtain ⟨lines, hlines⟩ := lines_of_foldlM hacc
    rw [calculateTotals_lines hlines] at h
    have hvalid := (totalsIn_ok h).1
    rw [totalsIn_valid hvalid] at h
    exact ⟨lines, hlines, hvalid, (Except.ok.inj h).symm⟩
  · rintro ⟨lines, hlines, hvalid, rfl⟩
    rw [calculateTotals_lines hlines, totalsIn_valid hvalid]

theorem exists_totals_iff :
    (∃ t, calculateTotals items = .ok t) ↔ ∀ item ∈ items, item.InBounds := by
  constructor
  · rintro ⟨t, h⟩ item hitem
    obtain ⟨lines, hlines, hvalid, -⟩ := calculateTotals_eq_ok.mp h
    obtain ⟨l, hl, hline⟩ := List.mem_map.mp (hlines ▸ List.mem_map_of_mem hitem)
    exact inBounds_iff.mpr ⟨l, hline.symm, hvalid l hl⟩
  · intro h
    have hlines : ∃ lines, Lines items lines ∧ ∀ l ∈ lines, l.isValid = true := by
      induction items with
      | nil => exact ⟨[], rfl, by simp⟩
      | cons item items ih =>
        obtain ⟨hitem, hitems⟩ := List.forall_mem_cons.mp h
        obtain ⟨l, hline, hvalid⟩ := inBounds_iff.mp hitem
        obtain ⟨lines, hlines, hall⟩ := ih hitems
        exact ⟨l :: lines, by rw [Lines, List.map_cons, List.map_cons, hlines, hline],
          List.forall_mem_cons.mpr ⟨hvalid, hall⟩⟩
    obtain ⟨lines, hlines, hvalid⟩ := hlines
    exact ⟨_, calculateTotals_eq_ok.mpr ⟨lines, hlines, hvalid, rfl⟩⟩

theorem addTotals_error {acc : ℤ × ℤ} {e : ApiError} (h : addTotals acc item = .error e) :
    e = .plain "Invalid invoice line quantity, price or tax rate." := by
  unfold addTotals at h
  cases hline : item.line? with
  | none =>
    rw [hline] at h
    exact (Except.error.inj h).symm
  | some l =>
    rw [hline] at h
    change addLineTotals .exact acc l = .error e at h
    unfold addLineTotals at h
    cases hvalid : l.isValid with
    | true =>
      rw [hvalid] at h
      cases h
    | false =>
      rw [hvalid] at h
      exact (Except.error.inj h).symm

theorem calculateTotals_error {e : ApiError} (h : calculateTotals items = .error e) :
    e = .plain "Invalid invoice line quantity, price or tax rate." := by
  have hfold (items : List TotalsItem) (acc : ℤ × ℤ) (h : items.foldlM addTotals acc = .error e) :
      e = .plain "Invalid invoice line quantity, price or tax rate." := by
    induction items generalizing acc with
    | nil => cases h
    | cons item items ih =>
      rw [List.foldlM_cons] at h
      cases hadd : addTotals acc item with
      | error e' =>
        rw [hadd] at h
        exact Except.error.inj h ▸ addTotals_error hadd
      | ok mid =>
        rw [hadd] at h
        exact ih mid h
  unfold calculateTotals at h
  cases hacc : items.foldlM addTotals (0, 0) with
  | error e' =>
    rw [hacc] at h
    obtain rfl := Except.error.inj h
    exact hfold items (0, 0) hacc
  | ok acc =>
    rw [hacc] at h
    cases h

theorem calculateTotals_append {t t' : InvoiceTotals} (h : calculateTotals items = .ok t)
    (h' : calculateTotals items' = .ok t') : calculateTotals (items ++ items') =
      .ok { subtotal := t.subtotal + t'.subtotal
            kdvAmount := t.kdvAmount + t'.kdvAmount
            grandTotal := t.grandTotal + t'.grandTotal } := by
  obtain ⟨lines, hlines, hvalid, rfl⟩ := calculateTotals_eq_ok.mp h
  obtain ⟨lines', hlines', hvalid', rfl⟩ := calculateTotals_eq_ok.mp h'
  refine calculateTotals_eq_ok.mpr ⟨lines ++ lines', ?_, ?_, ?_⟩
  · rw [Lines, List.map_append, List.map_append, hlines, hlines']
  · intro l hl
    rcases List.mem_append.mp hl with hl | hl
    · exact hvalid l hl
    · exact hvalid' l hl
  · simp only [List.map_append, List.sum_append, ← toNumber_add]
    rw [add_add_add_comm]

theorem lines_eq {lines : List InvoiceLine} (h : Lines items lines) :
    lines = items.filterMap line? := by
  have hsome := congrArg (List.filterMap id) h
  rw [List.filterMap_map, List.filterMap_map] at hsome
  exact ((List.filterMap_some (l := lines)).symm.trans hsome.symm)

theorem calculateTotals_perm (h : items.Perm items') :
    calculateTotals items = calculateTotals items' := by
  have hbounds : (∀ item ∈ items, item.InBounds) ↔ ∀ item ∈ items', item.InBounds :=
    ⟨fun hall item hitem => hall item (h.mem_iff.mpr hitem),
      fun hall item hitem => hall item (h.mem_iff.mp hitem)⟩
  rw [← exists_totals_iff, ← exists_totals_iff] at hbounds
  cases ht : calculateTotals items with
  | ok t =>
    obtain ⟨t', ht'⟩ := hbounds.mp ⟨t, ht⟩
    obtain ⟨lines, hlines, -, rfl⟩ := calculateTotals_eq_ok.mp ht
    obtain ⟨lines', hlines', -, rfl⟩ := calculateTotals_eq_ok.mp ht'
    have hperm : lines.Perm lines' := by
      rw [lines_eq hlines, lines_eq hlines']
      exact h.filterMap line?
    rw [ht', (hperm.map (·.cents .exact)).sum_eq, (hperm.map (·.taxCents .exact)).sum_eq]
  | error e =>
    cases ht' : calculateTotals items' with
    | ok t' =>
      obtain ⟨t, hok⟩ := hbounds.mpr ⟨t', ht'⟩
      rw [ht] at hok
      cases hok
    | error e' => rw [calculateTotals_error ht, calculateTotals_error ht']

theorem taxCents_error (l : InvoiceLine) :
    |toNumber (l.taxCents .exact) - toNumber (l.cents .exact) * l.rate / 100| ≤ 1 / 200 := by
  have hround : |(l.cents .exact : ℚ) * l.rate / 100 - l.taxCents .exact| ≤ 1 / 2 := abs_sub_round _
  have hcents : toNumber (l.taxCents .exact) - toNumber (l.cents .exact) * l.rate / 100 =
      -((l.cents .exact : ℚ) * l.rate / 100 - l.taxCents .exact) / 100 := by
    unfold toNumber
    ring
  rw [hcents, abs_div, abs_neg, abs_of_pos (by norm_num : (0 : ℚ) < 100)]
  linarith

theorem sum_taxCents_error (lines : List InvoiceLine) :
    |toNumber (lines.map (·.taxCents .exact)).sum -
      (lines.map fun l => toNumber (l.cents .exact) * l.rate / 100).sum| ≤ lines.length / 200 := by
  induction lines with
  | nil => simp
  | cons l lines ih =>
    simp only [List.map_cons, List.sum_cons, List.length_cons, Nat.cast_add, Nat.cast_one,
      toNumber_add]
    have hline := taxCents_error l
    calc |toNumber (l.taxCents .exact) + toNumber (lines.map (·.taxCents .exact)).sum -
          (toNumber (l.cents .exact) * l.rate / 100 +
            (lines.map fun l => toNumber (l.cents .exact) * l.rate / 100).sum)|
        = |(toNumber (l.taxCents .exact) - toNumber (l.cents .exact) * l.rate / 100) +
            (toNumber (lines.map (·.taxCents .exact)).sum -
              (lines.map fun l => toNumber (l.cents .exact) * l.rate / 100).sum)| := by
          rw [add_sub_add_comm]
      _ ≤ 1 / 200 + lines.length / 200 := (abs_add_le _ _).trans (add_le_add hline ih)
      _ = (lines.length + 1) / 200 := by ring

theorem kdvAmount_error {t : InvoiceTotals} (h : calculateTotals items = .ok t) :
    |t.kdvAmount - exactTax items| ≤ items.length / 200 := by
  obtain ⟨lines, hlines, -, rfl⟩ := calculateTotals_eq_ok.mp h
  have hlength : items.length = lines.length := by
    rw [← List.length_map (f := line?), hlines, List.length_map]
  rw [exactTax, ← lines_eq hlines, hlength]
  exact sum_taxCents_error lines

end TotalsItem

def InWholeCents (x : ℚ) : Prop := ∃ cents : ℤ, x = toNumber cents

/-- The laws of the invoice totals, for items with any numbers. -/
theorem invoice_arithmetic :
    (∀ items, (∃ t, TotalsItem.calculateTotals items = .ok t) ↔
      ∀ item ∈ items, item.InBounds) ∧
    (∀ items t, TotalsItem.calculateTotals items = .ok t →
      t.grandTotal = t.subtotal + t.kdvAmount ∧
        InWholeCents t.subtotal ∧ InWholeCents t.kdvAmount ∧ InWholeCents t.grandTotal ∧
          |t.kdvAmount - TotalsItem.exactTax items| ≤ items.length / 200) ∧
    (∀ items items', items.Perm items' →
      TotalsItem.calculateTotals items = TotalsItem.calculateTotals items') ∧
    (∀ items items' t t', TotalsItem.calculateTotals items = .ok t →
      TotalsItem.calculateTotals items' = .ok t' →
        TotalsItem.calculateTotals (items ++ items') =
          .ok { subtotal := t.subtotal + t'.subtotal
                kdvAmount := t.kdvAmount + t'.kdvAmount
                grandTotal := t.grandTotal + t'.grandTotal }) := by
  refine ⟨fun items => TotalsItem.exists_totals_iff, fun items t h => ?_,
    fun _ _ h => TotalsItem.calculateTotals_perm h,
    fun _ _ _ _ h h' => TotalsItem.calculateTotals_append h h'⟩
  have herror := TotalsItem.kdvAmount_error h
  obtain ⟨lines, -, -, rfl⟩ := TotalsItem.calculateTotals_eq_ok.mp h
  exact ⟨toNumber_add _ _, ⟨_, rfl⟩, ⟨_, rfl⟩, ⟨_, rfl⟩, herror⟩

end Items

end WorksAuto
