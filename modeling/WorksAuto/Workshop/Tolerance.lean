import WorksAuto.Workshop.Totals

/-! The totals of an order against those of its invoice.
An order adds up the taxes of its lines and rounds once, an invoice rounds the
tax of each line. They differ by what the roundings leave over, so the three
cents that an invoice may be off by are enough while that is less than three and
a half, and too little once it is more; the roundings of doubles blur that border
by what they reach. -/

namespace WorksAuto

open Lib

/-- What an item must be like to be put on an invoice, with a price as its column holds it. -/
structure WorkOrderItem.Billable (it : WorkOrderItem) : Prop where
  quantity : 0 < it.quantity
  unitPrice : 0 ≤ it.unitPrice ∧ it.unitPrice < 10 ^ 10
  kdvRate : 0 ≤ it.kdvRate ∧ it.kdvRate < 100 * 100

def Db.rowsOf (db : Db) (w : Uuid) : List WorkOrderItem := (db.itemsOf w).map Prod.snd

def Db.linesOf (db : Db) (w : Uuid) : List InvoiceLine :=
  (db.rowsOf w).map InvoiceLine.ofWorkOrderItem

/-- In cents, what the taxes of the items exceed those of the invoice's lines by. -/
def Db.taxResidue (db : Db) (w : Uuid) : ℚ :=
  ((db.rowsOf w).map WorkOrderItem.tax).sum * 100 -
    (((db.linesOf w).map (·.taxCents .double)).sum : ℤ)

structure WorkOrder.Near (wo : WorkOrder) (t : InvoiceTotals) : Prop where
  subtotal : |toNumber wo.subtotal - t.subtotal| ≤ 3 / 100
  kdvAmount : |toNumber wo.kdvAmount - t.kdvAmount| ≤ 3 / 100
  grandTotal : |toNumber wo.grandTotal - t.grandTotal| ≤ 3 / 100

/-- The totals of the order are near those of its invoice, and the invoice made when the
order is completed is not refused for its totals. -/
structure Db.AgreesWithInvoice (db : Db) (w : Uuid) (wo : WorkOrder) : Prop where
  near : ∃ t, calculateInvoiceTotals (db.linesOf w) = .ok t ∧ wo.Near t
  accepted : ∀ clock : Clock, 0 < wo.grandTotal →
    (invoiceTotals db ((autoInvoiceInput clock w wo).entity clock wo.tenantId)).isOk

/-- What the roundings of the taxes leave over is less than three and a half cents, -/
def Db.TaxesRoundAlike (db : Db) (w : Uuid) : Prop :=
  |db.taxResidue w| + reachOf (db.rowsOf w) < 7 / 2

def Db.TaxesRoundApart (db : Db) (w : Uuid) : Prop :=
  7 / 2 + reachOf (db.rowsOf w) < |db.taxResidue w|

section Lines

variable {it : WorkOrderItem}

theorem WorkOrderItem.Billable.cents_eq (h : it.Billable) :
    (InvoiceLine.ofWorkOrderItem it).cents .double = it.unitPrice * it.quantity := by
  have hprice : mathRoundCents (toNumber it.unitPrice) = it.unitPrice := by
    apply mathRoundCents_toNumber
    rw [abs_of_nonneg h.unitPrice.1]
    exact h.unitPrice.2.trans (by norm_num)
  simp only [InvoiceLine.cents, InvoiceLine.ofWorkOrderItem, Rat.num_intCast]
  exact congrArg (· * it.quantity) hprice

theorem WorkOrderItem.Billable.isValid (h : it.Billable) :
    (InvoiceLine.ofWorkOrderItem it).isValid = true := by
  have hquantity : (1 : ℚ) ≤ it.quantity := by exact_mod_cast h.quantity
  have hprice : 0 ≤ toNumber it.unitPrice := by
    rw [← toNumber_zero, toNumber_le]
    exact h.unitPrice.1
  have hrate : 0 ≤ toNumber it.kdvRate := by
    rw [← toNumber_zero, toNumber_le]
    exact h.kdvRate.1
  have hmax : toNumber it.kdvRate ≤ 100 := by
    have hhundred : toNumber (100 * 100) = 100 := by norm_num [toNumber]
    rw [← hhundred, toNumber_le]
    exact h.kdvRate.2.le
  simp only [InvoiceLine.isValid, decide_eq_true_eq]
  exact ⟨Rat.den_intCast _, hquantity, hprice, hrate, hmax⟩

end Lines

section Totals

variable {db : Db} {w : Uuid} {wo : WorkOrder}

theorem Db.linesOf_valid (hitems : ∀ it ∈ db.rowsOf w, it.Billable) :
    ∀ l ∈ db.linesOf w, l.isValid = true := by
  intro l hl
  obtain ⟨it, hit, rfl⟩ := List.mem_map.mp hl
  exact (hitems it hit).isValid

theorem Db.cents_linesOf (hitems : ∀ it ∈ db.rowsOf w, it.Billable) :
    (db.linesOf w).map (·.cents .double) =
      (db.rowsOf w).map fun it => it.unitPrice * it.quantity := by
  rw [linesOf, List.map_map]
  exact List.map_congr_left fun it hit => (hitems it hit).cents_eq

/-- How far each total of the order can be from the one calculated, in cents. -/
structure WorkOrder.OffBy (wo : WorkOrder) (lines : List InvoiceLine) (reach residue : ℚ) :
    Prop where
  subtotal : |((wo.subtotal - (lines.map (·.cents .double)).sum : ℤ) : ℚ)| ≤ 1 / 2 + reach
  kdvAmount : |((wo.kdvAmount - (lines.map (·.taxCents .double)).sum : ℤ) - residue : ℚ)| ≤
    1 / 2 + reach
  grandTotal : |((wo.grandTotal - ((lines.map (·.cents .double)).sum +
    (lines.map (·.taxCents .double)).sum) : ℤ) - residue : ℚ)| ≤ 1 / 2 + reach

theorem WorkOrder.Computed.offBy (h : wo.Computed (db.rowsOf w))
    (hitems : ∀ it ∈ db.rowsOf w, it.Billable) :
    wo.OffBy (db.linesOf w) (reachOf (db.rowsOf w)) (db.taxResidue w) := by
  have hslack := Double.slack_nonneg (roundingsOf (db.rowsOf w))
  have hnetBound := netBound_nonneg (db.rowsOf w)
  have htaxBound := taxBound_nonneg (db.rowsOf w)
  have hcents := sum_net_cents (db.rowsOf w)
  rw [← Db.cents_linesOf hitems] at hcents
  have hs := h.subtotal.off
  have hk := h.kdvAmount.off
  have hg := h.grandTotal.off
  rw [hcents] at hs
  rw [add_mul, hcents] at hg
  refine ⟨?_, ?_, ?_⟩
  · push_cast at hs ⊢
    refine hs.trans (add_le_add le_rfl ?_)
    unfold reachOf
    gcongr
    linarith
  · have hsplit : ((wo.kdvAmount - ((db.linesOf w).map (·.taxCents .double)).sum : ℤ) : ℚ) -
        db.taxResidue w = wo.kdvAmount - ((db.rowsOf w).map WorkOrderItem.tax).sum * 100 := by
      rw [Db.taxResidue]
      push_cast
      ring
    rw [hsplit]
    refine hk.trans (add_le_add le_rfl ?_)
    unfold reachOf
    gcongr
    linarith
  · have hsplit : ((wo.grandTotal - (((db.linesOf w).map (·.cents .double)).sum +
        ((db.linesOf w).map (·.taxCents .double)).sum) : ℤ) : ℚ) - db.taxResidue w =
        wo.grandTotal - ((((db.linesOf w).map (·.cents .double)).sum : ℤ) +
          ((db.rowsOf w).map WorkOrderItem.tax).sum * 100) := by
      rw [Db.taxResidue]
      push_cast
      ring
    rw [hsplit]
    exact hg

theorem abs_toNumber_le {d : ℤ} : |toNumber d| ≤ 3 / 100 ↔ |d| ≤ 3 := by
  have hthree : toNumber 3 = 3 / 100 := by norm_num [toNumber]
  rw [abs_le, abs_le, ← hthree, ← toNumber_le, ← toNumber_le]
  norm_num [toNumber]

theorem abs_le_three_of {d : ℤ} {x y : ℚ} (h : |(d : ℚ) - x| ≤ 1 / 2 + y) (hx : |x| + y < 7 / 2) :
    |d| ≤ 3 := by
  have htriangle := abs_add_le ((d : ℚ) - x) x
  rw [sub_add_cancel] at htriangle
  have hfour : |(d : ℚ)| < 4 := by linarith
  have hint : |d| < 4 := by exact_mod_cast hfour
  omega

structure WorkOrder.Within (wo : WorkOrder) (lines : List InvoiceLine) : Prop where
  subtotal : |wo.subtotal - (lines.map (·.cents .double)).sum| ≤ 3
  kdvAmount : |wo.kdvAmount - (lines.map (·.taxCents .double)).sum| ≤ 3
  grandTotal : |wo.grandTotal - ((lines.map (·.cents .double)).sum +
    (lines.map (·.taxCents .double)).sum)| ≤ 3

theorem WorkOrder.OffBy.within {lines : List InvoiceLine} {reach residue : ℚ}
    (h : wo.OffBy lines reach residue) (hsmall : |residue| + reach < 7 / 2) : wo.Within lines where
  subtotal := by
    have hs := h.subtotal
    rw [← sub_zero ((_ : ℤ) : ℚ)] at hs
    refine abs_le_three_of hs ?_
    rw [abs_zero]
    linarith [abs_nonneg residue]
  kdvAmount := abs_le_three_of h.kdvAmount hsmall
  grandTotal := abs_le_three_of h.grandTotal hsmall

theorem WorkOrder.near_iff {lines : List InvoiceLine} {t : InvoiceTotals}
    (ht : calculateInvoiceTotals lines = .ok t) : wo.Near t ↔ wo.Within lines := by
  obtain ⟨-, hs, hk, hg⟩ := totalsIn_ok ht
  have hdiff : ∀ a b : ℤ, |toNumber a - toNumber b| ≤ 3 / 100 ↔ |a - b| ≤ 3 := by
    intro a b
    have hsub : toNumber a - toNumber b = toNumber (a - b) := by
      simp only [toNumber]
      push_cast
      ring
    rw [hsub, abs_toNumber_le]
  rw [hs, hk, ← toNumber_add] at hg
  constructor
  · rintro ⟨hsubtotal, hkdv, hgrand⟩
    rw [hs, hdiff] at hsubtotal
    rw [hk, hdiff] at hkdv
    rw [hg, hdiff] at hgrand
    exact ⟨hsubtotal, hkdv, hgrand⟩
  · rintro ⟨hsubtotal, hkdv, hgrand⟩
    rw [← hdiff] at hsubtotal hkdv hgrand
    refine ⟨?_, ?_, ?_⟩
    · rw [hs]
      exact hsubtotal
    · rw [hk]
      exact hkdv
    · rw [hg]
      exact hgrand

theorem reconcileTotal_of_near {c x : ℤ} (hc : |c| < 10 ^ 12) (h : |c - x| ≤ 3) :
    reconcileTotal (some (toNumber c)) (toNumber x) = .ok (toNumber x) := by
  have hx : |x| < 10 ^ 15 := by
    rw [abs_lt] at hc ⊢
    rw [abs_le] at h
    omega
  refine Outcome.bind_eq_ok.mpr ⟨(), ?_, rfl⟩
  rw [Outcome.reject_eq_ok, decide_eq_false_iff_not, mathRoundCents_toNumber (by omega),
    mathRoundCents_toNumber hx, not_lt]
  exact h

theorem effectiveItems_autoInvoice (clock : Clock) (hitems : db.linesOf w ≠ []) :
    effectiveItems db ((autoInvoiceInput clock w wo).entity clock wo.tenantId) = db.linesOf w := by
  have hlines : (db.linesOf w).isEmpty = false := by simpa using hitems
  have hmap : (db.itemsOf w).map (fun it => InvoiceLine.ofWorkOrderItem it.2) = db.linesOf w := by
    rw [Db.linesOf, Db.rowsOf, List.map_map]
    rfl
  simp only [effectiveItems, CreateInvoiceInput.entity, autoInvoiceInput, Option.getD_none,
    List.isEmpty_nil, if_true]
  change (if ((db.itemsOf w).map fun it => InvoiceLine.ofWorkOrderItem it.2).isEmpty then _
    else (db.itemsOf w).map fun it => InvoiceLine.ofWorkOrderItem it.2) = db.linesOf w
  rw [hmap, hlines]
  rfl

theorem WorkOrder.Within.accepted (h : wo.Within (db.linesOf w))
    (hcomputed : wo.Computed (db.rowsOf w)) (hitems : ∀ it ∈ db.rowsOf w, it.Billable)
    (hlines : db.linesOf w ≠ []) (clock : Clock) :
    (invoiceTotals db ((autoInvoiceInput clock w wo).entity clock wo.tenantId)).isOk := by
  have htotals := Outcome.asBadRequest_eq_ok.mpr
    (@totalsIn_valid .double (db.linesOf w) (Db.linesOf_valid hitems))
  rw [Outcome.isOk_iff, invoiceTotals, effectiveItems_autoInvoice clock hlines]
  exact ⟨_, Outcome.bind_eq_ok.mpr ⟨_, htotals,
    Outcome.bind_eq_ok.mpr ⟨_, reconcileTotal_of_near hcomputed.subtotal.lt h.subtotal,
      Outcome.bind_eq_ok.mpr ⟨_, reconcileTotal_of_near hcomputed.kdvAmount.lt h.kdvAmount,
        Outcome.bind_eq_ok.mpr
          ⟨_, reconcileTotal_of_near hcomputed.grandTotal.lt h.grandTotal, rfl⟩⟩⟩⟩⟩

theorem WorkOrder.Computed.grandTotal_nil (h : wo.Computed []) : wo.grandTotal = 0 := by
  have hoff := h.grandTotal.off
  simp only [netBound, taxBound, List.map_nil, List.sum_nil, add_zero, zero_mul, mul_zero,
    sub_zero] at hoff
  have hone : |(wo.grandTotal : ℚ)| < 1 := hoff.trans_lt (by norm_num)
  have hint : |wo.grandTotal| < 1 := by exact_mod_cast hone
  exact Int.abs_lt_one_iff.mp hint

theorem WorkOrder.Computed.agreesWithInvoice (h : wo.Computed (db.rowsOf w))
    (hitems : ∀ it ∈ db.rowsOf w, it.Billable) (halike : db.TaxesRoundAlike w) :
    db.AgreesWithInvoice w wo := by
  have hwithin := (h.offBy hitems).within halike
  have htotals := @totalsIn_valid .double (db.linesOf w) (Db.linesOf_valid hitems)
  refine ⟨⟨_, htotals, (WorkOrder.near_iff htotals).mpr hwithin⟩, fun clock hpos => ?_⟩
  refine hwithin.accepted h hitems ?_ clock
  intro hnone
  have hempty : db.rowsOf w = [] := List.map_eq_nil_iff.mp hnone
  rw [hempty] at h
  exact absurd h.grandTotal_nil hpos.ne'

theorem WorkOrder.Computed.not_agreesWithInvoice (h : wo.Computed (db.rowsOf w))
    (hitems : ∀ it ∈ db.rowsOf w, it.Billable) (hapart : db.TaxesRoundApart w) :
    ¬ db.AgreesWithInvoice w wo := by
  rintro ⟨⟨t, ht, hnear⟩, -⟩
  have hkdv := ((WorkOrder.near_iff ht).mp hnear).kdvAmount
  have hoff := (h.offBy hitems).kdvAmount
  have htriangle := abs_sub_abs_le_abs_sub (db.taxResidue w)
    ((wo.kdvAmount - ((db.linesOf w).map (·.taxCents .double)).sum : ℤ) : ℚ)
  rw [abs_sub_comm] at hoff
  have hthree : |((wo.kdvAmount - ((db.linesOf w).map (·.taxCents .double)).sum : ℤ) : ℚ)| ≤ 3 :=
    by exact_mod_cast hkdv
  rw [Db.TaxesRoundApart] at hapart
  linarith

end Totals

/-- In a run of requests whose new orders are sent with lines that are stored as they are,
an order with billable items agrees with its invoice when the roundings of the taxes leave
over less than three and a half cents, and not when they leave over more. -/
theorem order_agrees_with_invoice (db : Db) (requests : List Served) (hdb : db.Totalled)
    (hplaced : db.ItemsPlaced) (hsent : ∀ l ∈ requests, l.SendsHeldLines) :
    Always serve
      (fun db => ∀ w wo, db.workOrders.get? w = some wo →
        (∀ it ∈ db.rowsOf w, it.Billable) →
          (db.TaxesRoundAlike w → db.AgreesWithInvoice w wo) ∧
            (db.TaxesRoundApart w → ¬ db.AgreesWithInvoice w wo))
      db requests :=
  (always_computed hdb.computed hplaced hsent).mono fun _ h w wo hwo hitems =>
    ⟨(h.1 w wo hwo).agreesWithInvoice hitems, (h.1 w wo hwo).not_agreesWithInvoice hitems⟩

section Sample

instance (it : WorkOrderItem) : Decidable it.Billable :=
  decidable_of_iff (0 < it.quantity ∧ (0 ≤ it.unitPrice ∧ it.unitPrice < 10 ^ 10) ∧
      0 ≤ it.kdvRate ∧ it.kdvRate < 100 * 100)
    ⟨fun h => ⟨h.1, h.2.1, h.2.2⟩, fun h => ⟨h.quantity, h.unitPrice, h.kdvRate⟩⟩

instance (wo : WorkOrder) (t : InvoiceTotals) : Decidable (wo.Near t) :=
  decidable_of_iff
    (|toNumber wo.subtotal - t.subtotal| ≤ 3 / 100 ∧
      |toNumber wo.kdvAmount - t.kdvAmount| ≤ 3 / 100 ∧
      |toNumber wo.grandTotal - t.grandTotal| ≤ 3 / 100)
    ⟨fun h => ⟨h.1, h.2.1, h.2.2⟩, fun h => ⟨h.subtotal, h.kdvAmount, h.grandTotal⟩⟩

instance (x : Outcome InvoiceTotals) (wo : WorkOrder) :
    Decidable (∃ t, x = .ok t ∧ wo.Near t) :=
  match x with
  | .error _ => .isFalse (by simp)
  | .ok t => decidable_of_iff (wo.Near t) (by simp)

instance (db : Db) (w : Uuid) : Decidable (db.TaxesRoundAlike w) := by
  unfold Db.TaxesRoundAlike
  infer_instance

instance (db : Db) (w : Uuid) : Decidable (db.TaxesRoundApart w) := by
  unfold Db.TaxesRoundApart
  infer_instance

theorem sample_order_agrees :
    Always serve
      (fun db => ∀ w wo, db.workOrders.get? w = some wo →
        (∀ it ∈ db.rowsOf w, it.Billable) →
          (db.TaxesRoundAlike w → db.AgreesWithInvoice w wo) ∧
            (db.TaxesRoundApart w → ¬ db.AgreesWithInvoice w wo))
      shopDb ordersMorePads ∧ (run serve shopDb ordersMorePads).TaxesRoundAlike 0 := by
  constructor
  · apply order_agrees_with_invoice
    · decide +kernel
    · intro k it hit
      cases hit
    · decide +kernel
  · decide +kernel

def halfCentLine : CreateWorkOrderItemInput where
  itemType := some .service
  itemId := none
  name := "Yıkama"
  quantity := 1
  unitPrice := 25 / 2
  kdvRate := some 1

def eightLines : List Served :=
  [served (.createWorkOrder 0 { padOrder with items := List.replicate 8 halfCentLine })]

/-- Together they are taxed 1.00 on the order and 1.04 on its invoice. -/
theorem eight_lines_disagree :
    ¬ Always serve
      (fun db => ∀ w wo, db.workOrders.get? w = some wo →
        (∀ it ∈ db.rowsOf w, it.Billable) → db.AgreesWithInvoice w wo)
      shopDb eightLines := by
  intro h
  have hnear : ∀ w wo, (run serve shopDb eightLines).workOrders.get? w = some wo →
      (∀ it ∈ (run serve shopDb eightLines).rowsOf w, it.Billable) →
        ∃ t, calculateInvoiceTotals ((run serve shopDb eightLines).linesOf w) = .ok t ∧
          wo.Near t :=
    fun w wo hwo hitems => (h.last w wo hwo hitems).near
  revert hnear
  decide +kernel

end Sample

end WorksAuto
