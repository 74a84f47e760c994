import WorksAuto.Billing.Ledger

/-! The amounts of an invoice: what is paid, what remains, and the status.
At creation the rest is subtracted in doubles and the two amounts are rounded to
cents separately, which loses or invents a cent for some offsets that are not whole
cents; afterwards payments keep the amounts exact. -/

namespace WorksAuto

open Lib

def Db.paidTowards (db : Db) (invoiceId : Uuid) : ℤ :=
  db.payments.sumBy fun p => if p.invoiceId = some invoiceId then p.amount else 0

structure Invoice.Balanced (inv : Invoice) (paidTowards : ℤ) : Prop where
  sum : inv.paidAmount + inv.remainingAmount = inv.grandTotal
  remaining_nonneg : 0 ≤ inv.remainingAmount
  paid_eq : inv.paidAmount = paidTowards
  paid_iff : inv.status = .paid ↔ inv.remainingAmount = 0
  partiallyPaid_iff : inv.status = .partiallyPaid ↔ 0 < inv.paidAmount ∧ 0 < inv.remainingAmount
  unpaid_iff : inv.status = .unpaid ↔ inv.paidAmount = 0 ∧ 0 < inv.remainingAmount

def Db.AmountsBalanced (db : Db) : Prop :=
  ∀ id inv, db.invoices.get? id = some inv → inv.status ≠ .cancelled →
    inv.Balanced (db.paidTowards id)

/-- With what a step needs besides: totals are not negative, and payments name
invoices that exist. -/
structure AmountsInvariant (db : Db) : Prop where
  balanced : db.AmountsBalanced
  total_nonneg : ∀ k inv, db.invoices.get? k = some inv → 0 ≤ inv.grandTotal
  paymentInvoice : ∀ k p i, db.payments.get? k = some p → p.invoiceId = some i →
    ∃ inv, db.invoices.get? i = some inv

theorem Invoice.Balanced.paid_nonneg {inv : Invoice} {paid : ℤ} (h : inv.Balanced paid)
    (htotal : 0 ≤ inv.grandTotal) (hlive : inv.status ≠ .cancelled) : 0 ≤ inv.paidAmount := by
  cases hs : inv.status with
  | unpaid => exact (h.unpaid_iff.mp hs).1.ge
  | partiallyPaid => exact (h.partiallyPaid_iff.mp hs).1.le
  | paid =>
    have hr := h.paid_iff.mp hs
    have hsum := h.sum
    rw [hr, add_zero] at hsum
    rw [hsum]
    exact htotal
  | cancelled => exact absurd hs hlive

section Offset

/-- In cents, `x` and the rest of `total` are at least a half, and `x` is further from every
half cent than the subtraction in doubles can be off. -/
def ClearOfHalfCents (total x : ℚ) : Prop :=
  1 / 2 ≤ x * 100 ∧ 1 / 2 ≤ total * 100 - x * 100 ∧
    Double.slack 4 * (2 * (total * 100)) < |Int.fract (x * 100) - 1 / 2|

/-- The offset that a request asks for is clear of half cents, when it is used as it is,
being less than the invoice and the credit balance. -/
def OffsetClear (db : Db) (invoice : InvoiceEntity) (offset : Option ℚ) : Prop :=
  ∀ x t id a, offset = some x → invoiceTotals db invoice = .ok t →
    db.currentAccountOf? invoice.tenantId invoice.customerId = some (id, a) →
      0 < x → x < t.grandTotal → x < -toNumber a.balance → ClearOfHalfCents t.grandTotal x

theorem advanceOffset_cases (balance total : ℤ) (htotal : 0 ≤ total) (offset : Option ℚ) :
    (∃ c : ℤ, 0 ≤ c ∧ c ≤ total ∧ advanceOffset balance (toNumber total) offset = toNumber c) ∨
    (offset = some (advanceOffset balance (toNumber total) offset) ∧
      0 < advanceOffset balance (toNumber total) offset ∧
      advanceOffset balance (toNumber total) offset < toNumber total ∧
      advanceOffset balance (toNumber total) offset < -toNumber balance) := by
  cases offset with
  | none => exact .inl ⟨0, le_rfl, htotal, toNumber_zero.symm⟩
  | some o =>
    by_cases h : 0 < o ∧ toNumber balance < 0
    · have hbal : |toNumber balance| = toNumber (-balance) := by
        rw [abs_of_neg h.2]
        simp [toNumber, neg_div]
      have hpos : 0 < -balance := by
        have hneg := h.2
        rw [← toNumber_zero, toNumber_lt] at hneg
        exact neg_pos.mpr hneg
      have hx : advanceOffset balance (toNumber total) (some o) =
          min (toNumber total) (min (toNumber (-balance)) o) := by
        simp only [advanceOffset, if_pos h, hbal]
      rw [hx]
      rcases le_or_gt (toNumber total) (min (toNumber (-balance)) o) with hle | hgt
      · rw [min_eq_left hle]
        exact .inl ⟨total, htotal, le_rfl, rfl⟩
      rw [min_eq_right hgt.le]
      rcases le_or_gt (toNumber (-balance)) o with hle' | hgt'
      · rw [min_eq_left hle'] at hgt ⊢
        exact .inl ⟨-balance, hpos.le, (toNumber_lt.mp hgt).le, rfl⟩
      rw [min_eq_right hgt'.le] at hgt ⊢
      refine .inr ⟨rfl, h.1, hgt, ?_⟩
      have : toNumber (-balance) = -toNumber balance := by simp [toNumber, neg_div]
      rwa [← this]
    · left
      refine ⟨0, le_rfl, htotal, ?_⟩
      simp only [advanceOffset, if_neg h, toNumber_zero]

theorem advanceOffset_nonneg (balance total : ℤ) (htotal : 0 ≤ total) (offset : Option ℚ) :
    0 ≤ advanceOffset balance (toNumber total) offset := by
  rcases advanceOffset_cases balance total htotal offset with ⟨c, hc, -, hx⟩ | ⟨-, hpos, -⟩
  · rw [hx, ← toNumber_zero, toNumber_le]
    exact hc
  · exact hpos.le

/-- The amounts and the status of a new invoice of `total` cents, `x` of it offset. -/
structure Invoice.New (row : Invoice) (total : ℤ) (x : ℚ) : Prop where
  total_eq : row.grandTotal = total
  total_lt : total < 10 ^ 12
  paid_eq : row.paidAmount = roundAway (x * 100)
  remaining_eq : row.remainingAmount = roundAway (max 0 (jsSub (toNumber total) x) * 100)
  status_eq : row.status = initialStatus (max 0 (jsSub (toNumber total) x)) x

theorem Invoice.New.rest_eq {row : Invoice} {total : ℤ} {x : ℚ} (h : row.New total x)
    (hpos : 0 ≤ x) (hlt : x < toNumber total)
    (hclear : Double.slack 4 * (2 * (toNumber total * 100)) < |Int.fract (x * 100) - 1 / 2|)
    (hrest : 1 / 2 ≤ toNumber total * 100 - x * 100) :
    0 < jsSub (toNumber total) x ∧ row.remainingAmount = total - round (x * 100) := by
  have htie : Int.fract (x * 100) ≠ 1 / 2 := by
    intro heq
    rw [heq, sub_self, abs_zero] at hclear
    have hslack := Double.slack_nonneg 4
    exact absurd hclear (not_lt.mpr (by nlinarith))
  have hsize : |toNumber total| + |x| ≤ 2 * toNumber total := by
    rw [abs_of_nonneg hpos, abs_of_nonneg (hpos.trans hlt.le)]
    linarith
  have hoff : |jsSub (toNumber total) x * 100 - ((total : ℚ) - x * 100)| ≤
      Double.slack 4 * (2 * (toNumber total * 100)) := by
    have hsub := (abs_jsSub_sub_le (toNumber total) x).trans
      (mul_le_mul_of_nonneg_left hsize (Double.slack_nonneg 4))
    have hscaled : jsSub (toNumber total) x * 100 - ((total : ℚ) - x * 100) =
        (jsSub (toNumber total) x - (toNumber total - x)) * 100 := by
      rw [← toNumber_mul total]
      ring
    rw [hscaled, abs_mul, abs_of_pos (by norm_num : (0 : ℚ) < 100)]
    linarith
  have hmirror : |Int.fract ((total : ℚ) - x * 100) - 1 / 2| = |Int.fract (x * 100) - 1 / 2| := by
    rw [sub_eq_add_neg (total : ℚ), Int.fract_intCast_add]
    by_cases hzero : Int.fract (x * 100) = 0
    · rw [Int.fract_neg_eq_zero.mpr hzero, hzero]
    · rw [Int.fract_neg hzero, ← abs_neg]
      congr 1
      ring
  rw [toNumber_mul] at hrest
  have hhalf : |Int.fract (x * 100) - 1 / 2| ≤ 1 / 2 := by
    have hnonneg := Int.fract_nonneg (x * 100)
    have hone := Int.fract_lt_one (x * 100)
    rw [abs_le]
    constructor <;> linarith
  have hpositive : 0 < jsSub (toNumber total) x := by
    have hlow := (abs_le.mp hoff).1
    linarith
  refine ⟨hpositive, ?_⟩
  have hround : roundAway (jsSub (toNumber total) x * 100) = roundAway ((total : ℚ) - x * 100) :=
    roundAway_congr (hoff.trans_lt (hclear.trans_eq hmirror.symm))
  rw [h.remaining_eq, max_eq_right hpositive.le, hround, roundAway_of_nonneg (by linarith),
    round_sub_of_not_tie total htie]

theorem Invoice.New.balanced_whole {row : Invoice} {total c : ℤ} (h : row.New total (toNumber c))
    (hc : 0 ≤ c) (hle : c ≤ total) : row.Balanced c := by
  have hpaid : row.paidAmount = c := by rw [h.paid_eq, toNumber_mul, roundAway_intCast]
  have hnonneg : 0 ≤ toNumber c := by
    rw [← toNumber_zero, toNumber_le]
    exact hc
  have hrest : row.remainingAmount = total - c ∧
      (max 0 (jsSub (toNumber total) (toNumber c)) ≤ 0 ↔ total - c ≤ 0) := by
    rcases hle.lt_or_eq with hlt | rfl
    · have hbound : (total : ℚ) < 10 ^ 12 := by exact_mod_cast h.total_lt
      have hone : (1 : ℚ) ≤ total - c := by exact_mod_cast (by omega : 1 ≤ total - c)
      obtain ⟨hpos, hrest⟩ := h.rest_eq hnonneg (toNumber_lt.mpr hlt)
        (by
          have hslack : Double.slack 4 < 1 / 2 ^ 50 := by norm_num [Double.slack]
          have hsize : (0 : ℚ) ≤ 2 * total := by
            have hzero : (0 : ℚ) ≤ c := by exact_mod_cast hc
            linarith
          rw [toNumber_mul, toNumber_mul, Int.fract_intCast, zero_sub, abs_neg,
            abs_of_pos one_half_pos]
          calc Double.slack 4 * (2 * (total : ℚ)) ≤ 1 / 2 ^ 50 * (2 * (total : ℚ)) :=
                mul_le_mul_of_nonneg_right hslack.le hsize
            _ < 1 / 2 := by linarith)
        (by
          rw [toNumber_mul, toNumber_mul]
          linarith)
      rw [toNumber_mul, round_intCast] at hrest
      refine ⟨hrest, iff_of_false ?_ (by omega)⟩
      rw [max_eq_right hpos.le, not_le]
      exact hpos
    · have hsame : jsSub (toNumber c) (toNumber c) = 0 := by
        rw [jsSub, sub_self, Double.nearest_zero]
        decide +kernel
      rw [h.remaining_eq, hsame, max_self, zero_mul, roundAway_zero, sub_self]
      exact ⟨rfl, iff_of_true le_rfl le_rfl⟩
  obtain ⟨hremaining, hsettled⟩ := hrest
  have hstatus : row.status = if total - c ≤ 0 then .paid else if 0 < c then .partiallyPaid
      else .unpaid := by
    rw [h.status_eq, initialStatus, ← toNumber_zero]
    simp only [toNumber_lt]
    rw [toNumber_zero]
    simp only [hsettled]
  refine ⟨?_, ?_, hpaid, ?_, ?_, ?_⟩
  · rw [hpaid, hremaining, h.total_eq]
    ring
  · rw [hremaining]
    exact sub_nonneg.mpr hle
  all_goals
    rw [hstatus, hremaining]
    try rw [hpaid]
    split_ifs <;> simp <;> omega

theorem Invoice.New.balanced {row : Invoice} {total : ℤ} {x : ℚ} (h : row.New total x)
    (hpos : 0 < x) (hlt : x < toNumber total) (hclear : ClearOfHalfCents (toNumber total) x) :
    row.Balanced (roundAway (x * 100)) := by
  obtain ⟨hhalf, hrest, htie⟩ := hclear
  obtain ⟨hpositive, hremaining⟩ := h.rest_eq hpos.le hlt htie hrest
  have hpaid : row.paidAmount = round (x * 100) := by
    rw [h.paid_eq, roundAway_of_nonneg (by positivity)]
  have hstatus : row.status = .partiallyPaid := by
    rw [h.status_eq, max_eq_right hpositive.le, initialStatus, if_neg (not_le.mpr hpositive),
      if_pos hpos]
  have hp : 0 < round (x * 100) := round_pos_iff.mpr hhalf
  have hr : 0 < total - round (x * 100) := by
    have hfract : Int.fract (x * 100) ≠ 1 / 2 := by
      intro heq
      rw [heq, sub_self, abs_zero] at htie
      have hslack := Double.slack_nonneg 4
      exact absurd htie (not_lt.mpr (by nlinarith))
    rw [← round_sub_of_not_tie total hfract, round_pos_iff, ← toNumber_mul total]
    exact hrest
  refine ⟨?_, ?_, h.paid_eq, ?_, ?_, ?_⟩
  · rw [hpaid, hremaining, h.total_eq]
    ring
  · rw [hremaining]
    exact hr.le
  · rw [hstatus, hremaining]
    exact iff_of_false (by simp) hr.ne'
  · rw [hstatus, hremaining, hpaid]
    exact iff_of_true rfl ⟨hp, hr⟩
  · rw [hstatus, hremaining, hpaid]
    exact iff_of_false (by simp) (fun hz => hp.ne' hz.1)

end Offset

section Steps

theorem InvoiceIssued.row_new {clock : Clock} {db db' : Db} {invoice : InvoiceEntity}
    {offset : Option ℚ} (h : InvoiceIssued clock db invoice offset db') :
    h.row.New h.total (advanceOffset h.account.balance (toNumber h.total) offset) where
  total_eq := h.grandTotal_eq
  total_lt := h.total_lt
  paid_eq := h.paidAmount_eq
  remaining_eq := h.remainingAmount_eq
  status_eq := h.status_eq

theorem InvoiceIssued.paidTowards {clock : Clock} {db db' : Db} {invoice : InvoiceEntity}
    {offset : Option ℚ} (hI : AmountsInvariant db) (h : InvoiceIssued clock db invoice offset db') :
    db'.paidTowards db.invoices.next =
      roundAway (advanceOffset h.account.balance (toNumber h.total) offset * 100) := by
  have hold : db.paidTowards db.invoices.next = 0 := by
    apply Table.sumBy_eq_zero
    intro k p hk
    apply if_neg
    intro hp
    obtain ⟨inv, hinv⟩ := hI.paymentInvoice k p _ hk hp
    rw [Table.get?_next] at hinv
    cases hinv
  unfold Db.paidTowards at hold ⊢
  rw [h.payments]
  cases hp : h.payment with
  | none =>
    have hzero : advanceOffset h.account.balance (toNumber h.total) offset = 0 :=
      le_antisymm (not_lt.mp (h.payment_none hp))
        (advanceOffset_nonneg _ _ h.total_nonneg _)
    rw [Option.elim_none, hold, hzero, zero_mul, roundAway_zero]
  | some p =>
    have hoffset := h.payment_some p hp
    rw [Option.elim_some, Table.sumBy_insert, hold, zero_add, if_pos hoffset.invoiceId_eq,
      hoffset.amount_eq]

theorem InvoiceIssued.paidTowards_ne {clock : Clock} {db db' : Db} {invoice : InvoiceEntity}
    {offset : Option ℚ} (h : InvoiceIssued clock db invoice offset db') {id : Uuid}
    (hid : id ≠ db.invoices.next) : db'.paidTowards id = db.paidTowards id := by
  unfold Db.paidTowards
  rw [h.payments]
  cases hp : h.payment with
  | none => rfl
  | some p =>
    rw [Option.elim_some, Table.sumBy_insert, (h.payment_some p hp).invoiceId_eq,
      if_neg (fun he => hid (Option.some.inj he).symm), add_zero]

theorem InvoiceIssued.balanced {clock : Clock} {db db' : Db} {invoice : InvoiceEntity}
    {offset : Option ℚ} (hI : AmountsInvariant db) (h : InvoiceIssued clock db invoice offset db')
    (hclear : OffsetClear db invoice offset) :
    h.row.Balanced (db'.paidTowards db.invoices.next) := by
  rw [h.paidTowards hI]
  obtain ⟨t, ht, htotal⟩ := h.total_eq
  rcases advanceOffset_cases h.account.balance h.total h.total_nonneg offset with
    ⟨c, hc, hle, hx⟩ | ⟨hoffset, hpos, hlt, hbal⟩
  · have hnew := h.row_new
    rw [hx] at hnew ⊢
    rw [toNumber_mul, roundAway_intCast]
    exact hnew.balanced_whole hc hle
  · have hneg : h.account.balance < 0 := by
      have hless : toNumber h.account.balance < toNumber 0 := by
        rw [toNumber_zero]
        linarith
      exact toNumber_lt.mp hless
    have hfound : db.currentAccountOf? invoice.tenantId invoice.customerId =
        some (h.accountId, h.account) := by
      rcases h.found with ⟨-, hsome⟩ | ⟨-, hzero, -⟩
      · exact hsome
      · rw [hzero] at hneg
        exact absurd hneg (lt_irrefl _)
    have hoffsetClear := hclear _ t _ _ hoffset ht hfound hpos (htotal ▸ hlt) hbal
    rw [htotal] at hoffsetClear
    exact h.row_new.balanced hpos hlt hoffsetClear

theorem AmountsInvariant.issued {clock : Clock} {db db' : Db} {invoice : InvoiceEntity}
    {offset : Option ℚ} (hI : AmountsInvariant db) (h : InvoiceIssued clock db invoice offset db')
    (hclean : OffsetClear db invoice offset) : AmountsInvariant db' where
  balanced := by
    intro id inv hid hlive
    rw [h.invoices, Table.get?_insert] at hid
    split_ifs at hid with hnext
    · cases hid
      rw [hnext]
      exact h.balanced hI hclean
    · rw [h.paidTowards_ne hnext]
      exact hI.balanced id inv hid hlive
  total_nonneg := by
    intro k inv hk
    rw [h.invoices, Table.get?_insert] at hk
    split_ifs at hk
    · cases hk
      rw [h.grandTotal_eq]
      exact h.total_nonneg
    · exact hI.total_nonneg k inv hk
  paymentInvoice := by
    intro k p i hk hp
    rw [h.invoices]
    have hold : ∀ j q, db.payments.get? j = some q → q.invoiceId = some i →
        ∃ inv, (db.invoices.insert h.row).get? i = some inv := by
      intro j q hj hq
      obtain ⟨inv, hinv⟩ := hI.paymentInvoice j q i hj hq
      exact ⟨inv, Table.get?_insert_of_some hinv _⟩
    rw [h.payments] at hk
    cases hpay : h.payment with
    | none =>
      rw [hpay] at hk
      exact hold k p hk hp
    | some q =>
      rw [hpay, Option.elim_some, Table.get?_insert] at hk
      split_ifs at hk
      · cases hk
        rw [(h.payment_some p hpay).invoiceId_eq] at hp
        cases hp
        exact ⟨h.row, Table.get?_insert_self _ _⟩
      · exact hold k p hk hp

theorem AmountsInvariant.voided {db db' : Db} {tenantId id : Uuid} (hI : AmountsInvariant db)
    (h : InvoiceVoided db tenantId id db') : AmountsInvariant db' := by
  have hpaid : ∀ i, db'.paidTowards i = db.paidTowards i := by
    intro i
    unfold Db.paidTowards
    rcases h.posted with ⟨-, -, -, hpay⟩ | ⟨-, -, -, -, -, -, -, hpay⟩
    · rw [hpay]
    · rw [hpay]
      exact Table.sumBy_modifyIf_map _ _ _ _ fun _ => rfl
  refine ⟨?_, ?_, ?_⟩
  · intro i inv hi hlive
    rw [h.invoices, Table.get?_modify] at hi
    obtain ⟨inv₀, h₀, rfl⟩ := Option.map_eq_some_iff.mp hi
    split_ifs at hlive ⊢ with hid
    · exact absurd rfl hlive
    · rw [hpaid]
      exact hI.balanced i inv₀ h₀ hlive
  · intro k inv hk
    rw [h.invoices, Table.get?_modify] at hk
    obtain ⟨inv₀, h₀, rfl⟩ := Option.map_eq_some_iff.mp hk
    have := hI.total_nonneg k inv₀ h₀
    split_ifs <;> exact this
  · intro k p i hk hp
    have horigin : ∃ p₀, db.payments.get? k = some p₀ ∧ p.invoiceId = p₀.invoiceId := by
      rcases h.posted with ⟨-, -, -, hpay⟩ | ⟨-, -, -, -, -, -, -, hpay⟩
      · rw [hpay] at hk
        exact ⟨p, hk, rfl⟩
      · rw [hpay, Table.get?_modifyIf] at hk
        obtain ⟨p₀, h₀, rfl⟩ := Option.map_eq_some_iff.mp hk
        refine ⟨p₀, h₀, ?_⟩
        split_ifs <;> rfl
    obtain ⟨p₀, h₀, hinv⟩ := horigin
    obtain ⟨inv, hget⟩ := hI.paymentInvoice k p₀ i h₀ (hinv ▸ hp)
    rw [h.invoices, Table.get?_modify, hget]
    exact ⟨_, rfl⟩

theorem Invoice.Balanced.afterPayment {inv : Invoice} {paid amount : ℤ} (h : inv.Balanced paid)
    (htotal : 0 ≤ inv.grandTotal) (hlive : inv.status ≠ .cancelled) (hpos : 1 ≤ amount)
    (hle : amount ≤ inv.remainingAmount) : (inv.afterPayment amount).Balanced (paid + amount) := by
  have hpaid := h.paid_nonneg htotal hlive
  have hsum := h.sum
  have heq := h.paid_eq
  have hrest : max 0 (inv.grandTotal - (inv.paidAmount + amount)) =
      inv.grandTotal - (inv.paidAmount + amount) := max_eq_right (by omega)
  refine ⟨?_, ?_, ?_, ?_, ?_, ?_⟩
  all_goals
    simp only [Invoice.afterPayment, hrest]
  · ring
  · omega
  · rw [heq]
  all_goals
    split_ifs with hdone
    · simp
      omega
    · simp
      omega

theorem AmountsInvariant.collected {db db' : Db} {call : PaymentCall} {customerId : Uuid}
    {amount : ℤ} (hI : AmountsInvariant db) (howner : CallOwner db call customerId)
    (hpos : 1 ≤ amount) (h : PaymentCollected db call customerId amount db') :
    AmountsInvariant db' := by
  have hpaid : ∀ i, db'.paidTowards i =
      db.paidTowards i + if call.dto.invoiceId = some i then amount else 0 := by
    intro i
    unfold Db.paidTowards
    rw [h.payments, Table.sumBy_insert]
    rfl
  have hinvoice : ∀ k inv', db'.invoices.get? k = some inv' → ∃ inv,
      db.invoices.get? k = some inv ∧
        ((call.dto.invoiceId ≠ some k ∧ inv' = inv) ∨
          (call.dto.invoiceId = some k ∧ inv.status ≠ .cancelled ∧ amount ≤ inv.remainingAmount ∧
            inv' = inv.afterPayment amount)) := by
    intro k inv' hk
    rcases h.invoices with ⟨hnone, hsame⟩ | ⟨id, paid, hid, hpaid, hlive, hle, hmod⟩
    · rw [hsame] at hk
      exact ⟨inv', hk, .inl ⟨by simp [hnone], rfl⟩⟩
    · rw [hmod, Table.get?_modify] at hk
      obtain ⟨inv, hinv, rfl⟩ := Option.map_eq_some_iff.mp hk
      refine ⟨inv, hinv, ?_⟩
      obtain ⟨hget, -⟩ := Db.invoice?_eq_some.mp hpaid
      split_ifs with hki
      · subst hki
        cases hinv.symm.trans hget
        exact .inr ⟨hid, hlive, hle, rfl⟩
      · refine .inl ⟨?_, rfl⟩
        rw [hid]
        exact fun he => hki (Option.some.inj he).symm
  refine ⟨?_, ?_, ?_⟩
  · intro k inv' hk hlive'
    obtain ⟨inv, hinv, ⟨hne, rfl⟩ | ⟨hid, hlive, hle, rfl⟩⟩ := hinvoice k inv' hk
    · rw [hpaid, if_neg hne, add_zero]
      exact hI.balanced k inv' hinv hlive'
    · rw [hpaid, if_pos hid]
      exact (hI.balanced k inv hinv hlive).afterPayment (hI.total_nonneg k inv hinv) hlive hpos hle
  · intro k inv' hk
    obtain ⟨inv, hinv, ⟨-, rfl⟩ | ⟨-, -, -, rfl⟩⟩ := hinvoice k inv' hk
    · exact hI.total_nonneg k inv' hinv
    · exact hI.total_nonneg k inv hinv
  · intro k p i hk hp
    have hold : ∃ inv, db.invoices.get? i = some inv := by
      rw [h.payments, Table.get?_insert] at hk
      split_ifs at hk
      · cases hk
        obtain ⟨inv, hinv, -⟩ := howner i hp
        exact ⟨inv, hinv⟩
      · exact hI.paymentInvoice k p i hk hp
    obtain ⟨inv, hinv⟩ := hold
    obtain ⟨inv', hinv', -⟩ := h.extends.invoice i inv hinv
    exact ⟨inv', hinv'⟩

theorem AmountsInvariant.effect {db db' : Db} {t : BillingTask} {env : Env}
    (hI : AmountsInvariant db) (h : BillingEffect db t env db')
    (hclean : ∀ invoice offset, t = .issue invoice offset →
      Nonempty (InvoiceIssued env.clock db invoice offset db') →
        OffsetClear db invoice offset) : AmountsInvariant db' := by
  cases h with
  | idle => exact hI
  | issued task h => exact hI.issued h (hclean _ _ task ⟨h⟩)
  | voided h => exact hI.voided h
  | collected ok owner positive amount_eq h => exact hI.collected owner positive h
  | attempted h =>
    rw [h.result]
    exact ⟨hI.balanced, hI.total_nonneg, hI.paymentInvoice⟩

theorem Db.FreshBooks.amounts {db : Db} (h : db.FreshBooks) : AmountsInvariant db where
  balanced := by
    intro id inv hid
    rw [Table.get?_of_rows_nil h.invoices] at hid
    cases hid
  total_nonneg := by simp [Table.get?_of_rows_nil h.invoices]
  paymentInvoice := by simp [Table.get?_of_rows_nil h.payments]

end Steps

section Runs

/-- An invoice that the task creates has an offset that is clear of half cents. -/
def BillingTask.OffsetsClear (db : Db) (env : Env) : BillingTask → Prop
  | .issue invoice offset =>
    (createWithCariMovement env.clock db invoice offset).isOk = true → OffsetClear db invoice offset
  | _ => True

def CleanOffset (s : Billing) : BillingAction → Prop
  | .start _ => True
  | .step k env => ∀ t ∈ s.threads.get? k, t.OffsetsClear s.shared env

theorem billingStep_issue {cfg : PayTrConfig} {s : Billing} {k : ℕ} {env : Env}
    {invoice : InvoiceEntity} {offset : Option ℚ}
    (hk : s.threads.get? k = some (.issue invoice offset)) :
    (billingStep cfg s (.step k env)).shared = commit s.shared
      ((createWithCariMovement env.clock s.shared invoice offset).map Prod.fst) :=
  congrArg Pool.shared (Pool.act_step_some hk env)

theorem AmountsInvariant.step (cfg : PayTrConfig) {s : Billing} {a : BillingAction}
    (hs : s.WellFormed) (hI : AmountsInvariant s.shared) (hclean : CleanOffset s a) :
    AmountsInvariant (billingStep cfg s a).shared := by
  rcases hs.effect cfg a with hsame | ⟨k, env, t, rfl, hk, hshared, heffect⟩
  · rw [hsame]
    exact hI
  · cases t with
    | issue invoice offset =>
      cases hcreate : createWithCariMovement env.clock s.shared invoice offset with
      | error e =>
        rw [billingStep_issue hk, hcreate]
        exact hI
      | ok r =>
        refine hI.effect heffect fun invoice' offset' ht _ => ?_
        cases ht
        exact hclean _ hk (by rw [hcreate]; rfl)
    | void tenantId id => exact hI.effect heffect (by simp)
    | payment phase => exact hI.effect heffect (by simp)
    | token invoiceId => exact hI.effect heffect (by simp)
    | newAttempt invoiceId tenantId amount => exact hI.effect heffect (by simp)
    | callback payload => exact hI.effect heffect (by simp)
    | callbackInvoice payload attempt => exact hI.effect heffect (by simp)
    | callbackPayment payload phase => exact hI.effect heffect (by simp)
    | answered payload answer => exact hI.effect heffect (by simp)
    | finished => exact hI.effect heffect (by simp)

/-- In a run whose new invoices have offsets that are clear of half cents, all invoices
have balanced amounts at every moment. -/
theorem invoice_amounts_balanced (cfg : PayTrConfig) {db : Db} (h : db.FreshBooks)
    (actions : List BillingAction)
    (hclean : EachStep (billingStep cfg) CleanOffset (Pool.idle db) actions) :
    Always (billingStep cfg) (fun s => s.shared.AmountsBalanced) (Pool.idle db) actions :=
  (always_of_step (P := fun s : Billing => s.WellFormed ∧ AmountsInvariant s.shared)
    (fun _ a hs hclean => ⟨hs.1.step a, hs.2.step cfg hs.1 hclean⟩)
    ⟨Billing.wellFormed_idle h.attemptsOk, h.amounts⟩ hclean).mono fun _ hs => hs.2.balanced

/-- An advance of 50.00, then an invoice of 1.00 of which half a cent is offset. -/
def halfCentActions : List BillingAction :=
  alone 0 (.createPayment 0 sampleDeposit "Kasa") ++
  alone 1 (.createWithCariMovement (sampleInvoice 1) (some (toNumber 1 / 2)))

/-- The half cent is stored as a whole one and the rest as 1.00. -/
theorem half_cent_offset_unbalanced :
    ¬ Always (billingStep sampleConfig) (fun s => s.shared.AmountsBalanced)
      (Pool.idle sampleDb) halfCentActions := by
  intro h
  have hlast := h.last
  have hinvoice : ((run (billingStep sampleConfig) (Pool.idle sampleDb)
      halfCentActions).shared.invoices.get? 0).map
        (fun inv => (inv.grandTotal, inv.paidAmount, inv.remainingAmount, inv.status)) =
      some (100, 1, 100, .partiallyPaid) := by
    decide +kernel
  obtain ⟨inv, hinv, hamounts⟩ := Option.map_eq_some_iff.mp hinvoice
  simp only [Prod.mk.injEq] at hamounts
  obtain ⟨htotal, hpaid, hremaining, hstatus⟩ := hamounts
  have hsum := (hlast 0 inv hinv (by simp [hstatus])).sum
  rw [htotal, hpaid, hremaining] at hsum
  omega

instance (total x : ℚ) : Decidable (ClearOfHalfCents total x) := by
  unfold ClearOfHalfCents
  infer_instance

instance (db : Db) (invoice : InvoiceEntity) (offset : Option ℚ) :
    Decidable (OffsetClear db invoice offset) :=
  decidable_of_iff
    (∀ x ∈ offset, ∀ t ∈ (invoiceTotals db invoice).toOption,
      ∀ r ∈ db.currentAccountOf? invoice.tenantId invoice.customerId,
        0 < x → x < t.grandTotal → x < -toNumber r.2.balance → ClearOfHalfCents t.grandTotal x)
    ⟨fun h x t id a hx ht hr => h x hx t (by rw [ht]; rfl) (id, a) hr,
      fun h x hx t ht r hr => h x t r.1 r.2 hx
        (by
          revert ht
          cases invoiceTotals db invoice with
          | error e => intro ht; cases ht
          | ok t' => intro ht; cases ht; rfl) hr⟩

instance (db : Db) (env : Env) (t : BillingTask) : Decidable (t.OffsetsClear db env) := by
  cases t <;> unfold BillingTask.OffsetsClear <;> infer_instance

instance (s : Billing) (a : BillingAction) : Decidable (CleanOffset s a) :=
  match a with
  | .start _ => .isTrue trivial
  | .step k env => inferInstanceAs (Decidable (∀ t ∈ s.threads.get? k, t.OffsetsClear s.shared env))

def thirdOffsetActions : List BillingAction :=
  alone 0 (.createPayment 0 sampleDeposit "Kasa") ++
  alone 1 (.createWithCariMovement (sampleInvoice 1) (some (333 / 1000)))

theorem sample_amounts_balanced :
    Always (billingStep sampleConfig) (fun s => s.shared.AmountsBalanced) (Pool.idle sampleDb)
      thirdOffsetActions :=
  invoice_amounts_balanced sampleConfig sampleDb_fresh thirdOffsetActions (by decide +kernel)

end Runs

end WorksAuto
