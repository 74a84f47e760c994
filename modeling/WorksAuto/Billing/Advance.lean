import WorksAuto.Lib.Book
import WorksAuto.Billing.InvoiceAmounts

/-! Advances are spent once.
A customer's books, read off the database, are a `Book`: every billing step is
an event that the book allows, so it stays solvent. Offsets are whole cents here,
as amounts of payments are. -/

namespace WorksAuto

open Lib

/-- A customer's invoices, money received, and what is settled on live invoices. -/
def Db.bookOf (db : Db) (customerId : Uuid) : Book ℤ where
  debits := db.invoicedTo customerId
  credits := db.receivedFrom customerId
  settled := db.liveSum customerId Invoice.paidAmount

def WholeCents (offset : Option ℚ) : Prop := ∀ x ∈ offset, ∃ c : ℤ, x = toNumber c

section Refinement

theorem AmountsInvariant.settled_le {db : Db} (h : AmountsInvariant db) (c : Uuid) :
    (db.bookOf c).settled ≤ (db.bookOf c).debits := by
  simp only [Db.bookOf, Db.invoicedTo, Db.liveSum]
  apply Table.sumBy_le_sumBy
  intro k inv hk
  split_ifs with hlive
  · have hb := h.balanced k inv hk hlive.2
    have hsum := hb.sum
    have hrest := hb.remaining_nonneg
    omega
  · exact le_rfl

theorem advanceOffset_le (balance total : ℤ) (offset : Option ℚ) :
    advanceOffset balance (toNumber total) offset = 0 ∨
      advanceOffset balance (toNumber total) offset ≤ toNumber (-balance) := by
  unfold advanceOffset
  split
  · exact .inl rfl
  · next o =>
    split_ifs with h
    · right
      have hbal : |toNumber balance| = toNumber (-balance) := by
        rw [abs_of_neg h.2]
        simp [toNumber, neg_div]
      rw [hbal]
      exact (min_le_right _ _).trans (min_le_left _ _)
    · exact .inl rfl

theorem InvoiceIssued.offsetClear_of_whole {clock : Clock} {db db' : Db} {invoice : InvoiceEntity}
    {offset : Option ℚ} (h : InvoiceIssued clock db invoice offset db') (hwhole : WholeCents offset) :
    OffsetClear db invoice offset := by
  intro x t id a hx ht _ hpos hlt _
  obtain ⟨c, rfl⟩ := hwhole x hx
  obtain ⟨t', ht', htotal⟩ := h.total_eq
  obtain rfl : t = t' := Except.ok.inj (ht.symm.trans ht')
  rw [htotal] at hlt ⊢
  rw [← toNumber_zero, toNumber_lt] at hpos
  rw [toNumber_lt] at hlt
  have hc : (1 : ℚ) ≤ c := by exact_mod_cast hpos
  have hrest : (c : ℚ) + 1 ≤ h.total := by exact_mod_cast hlt
  have hbound : (h.total : ℚ) < 10 ^ 12 := by exact_mod_cast h.total_lt
  have hslack : Double.slack 4 < 1 / 2 ^ 50 := by norm_num [Double.slack]
  rw [ClearOfHalfCents, toNumber_mul, toNumber_mul, Int.fract_intCast, zero_sub, abs_neg,
    abs_of_pos one_half_pos]
  refine ⟨by linarith, by linarith, ?_⟩
  calc Double.slack 4 * (2 * (h.total : ℚ)) ≤ 1 / 2 ^ 50 * (2 * (h.total : ℚ)) :=
        mul_le_mul_of_nonneg_right hslack.le (by linarith)
    _ < 1 / 2 := by linarith

theorem InvoiceIssued.offset_cents {clock : Clock} {db db' : Db} {invoice : InvoiceEntity}
    {offset : Option ℚ} (hL : LedgerConsistent db) (hwhole : WholeCents offset)
    (h : InvoiceIssued clock db invoice offset db') :
    h.row.paidAmount ≤ h.total ∧
      (h.row.paidAmount ≤ 0 ∨ h.row.paidAmount ≤
        (db.bookOf h.account.customerId).credits - (db.bookOf h.account.customerId).debits) := by
  have hcents : ∃ c : ℤ, c ≤ h.total ∧
      advanceOffset h.account.balance (toNumber h.total) offset = toNumber c := by
    rcases advanceOffset_cases h.account.balance h.total h.total_nonneg offset with
      ⟨c, -, hle, hx⟩ | ⟨hoffset, -, hlt, -⟩
    · exact ⟨c, hle, hx⟩
    · obtain ⟨c, hc⟩ := hwhole _ hoffset
      rw [hc, toNumber_lt] at hlt
      exact ⟨c, hlt.le, hc⟩
  obtain ⟨c, hle, hx⟩ := hcents
  have hpaid : h.row.paidAmount = c := by
    rw [h.paidAmount_eq, hx, toNumber_mul, roundAway_intCast]
  refine ⟨hpaid ▸ hle, ?_⟩
  rw [hpaid]
  have hagrees := (hL.open h.found).agrees _ _ h.found.get.1
  have hbalance : -h.account.balance = (db.bookOf h.account.customerId).credits -
      (db.bookOf h.account.customerId).debits := by
    rw [hagrees.balance, hagrees.debits, hagrees.credits]
    exact neg_sub _ _
  rcases advanceOffset_le h.account.balance h.total offset with hzero | hadvance
  · left
    rw [hx, ← toNumber_zero] at hzero
    exact toNumber_le.mp hzero.le
  · right
    rw [hx, toNumber_le, hbalance] at hadvance
    exact hadvance

theorem BillingEffect.book {db db' : Db} {t : BillingTask} {env : Env}
    (hL : LedgerConsistent db) (hI : AmountsInvariant db) (hI' : AmountsInvariant db')
    (h : BillingEffect db t env db')
    (hwhole : ∀ invoice offset, t = .issue invoice offset → WholeCents offset) (c : Uuid) :
    db'.bookOf c = db.bookOf c ∨
      ∃ e, (db.bookOf c).Allows e ∧ db'.bookOf c = (db.bookOf c).apply e := by
  have hroom := hI'.settled_le c
  cases h with
  | idle => exact .inl rfl
  | issued task h =>
    have hdebits := h.liveSum c Invoice.grandTotal
    have hsettled := h.liveSum c Invoice.paidAmount
    have hcredits := h.receivedFrom c
    rw [h.grandTotal_eq] at hdebits
    by_cases hc : h.account.customerId = c
    · rw [if_pos hc] at hdebits hsettled
      obtain ⟨htotal, hadvance⟩ := h.offset_cents hL (hwhole _ _ task)
      rw [hc] at hadvance
      refine .inr ⟨.issue h.total h.row.paidAmount, ⟨htotal, hadvance⟩, ?_⟩
      simp only [Db.bookOf, Db.invoicedTo, Book.apply, hdebits, hsettled, hcredits]
    · rw [if_neg hc, add_zero] at hdebits hsettled
      left
      simp only [Db.bookOf, Db.invoicedTo, hdebits, hsettled, hcredits]
  | voided h =>
    have hdebits := h.liveSum c Invoice.grandTotal
    have hsettled := h.liveSum c Invoice.paidAmount
    have hcredits := h.receivedFrom c
    by_cases hc : h.existing.customerId = c
    · rw [if_pos hc] at hdebits hsettled
      obtain ⟨hget, -⟩ := Db.invoice?_eq_some.mp h.found
      have hpaid := (hI.balanced _ _ hget h.live).paid_nonneg (hI.total_nonneg _ _ hget) h.live
      have hresult : db'.bookOf c =
          (db.bookOf c).apply (.void h.existing.grandTotal h.existing.paidAmount) := by
        simp only [Db.bookOf, Db.invoicedTo, Book.apply, hdebits, hsettled, hcredits, sub_eq_add_neg]
      rw [hresult] at hroom
      exact .inr ⟨.void h.existing.grandTotal h.existing.paidAmount, ⟨hpaid, hroom⟩, hresult⟩
    · rw [if_neg hc, add_zero] at hdebits hsettled
      left
      simp only [Db.bookOf, Db.invoicedTo, hdebits, hsettled, hcredits]
  | @collected call customerId amount db' ok owner positive amount_eq h =>
    have hcredits := h.receivedFrom ok.method c
    have hsums : ∃ applied, (applied = 0 ∨ (applied = amount ∧ customerId = c)) ∧
        db'.liveSum c Invoice.grandTotal = db.liveSum c Invoice.grandTotal ∧
        db'.liveSum c Invoice.paidAmount = db.liveSum c Invoice.paidAmount + applied := by
      cases hid : call.dto.invoiceId with
      | none =>
        exact ⟨0, .inl rfl, h.liveSum_none hid c _, by rw [h.liveSum_none hid c, add_zero]⟩
      | some id =>
        obtain ⟨inv, hinv, -, -, hdebits⟩ := h.liveSum_some hid c Invoice.grandTotal
        obtain ⟨inv', hinv', -, -, hsettled⟩ := h.liveSum_some hid c Invoice.paidAmount
        cases hinv.symm.trans hinv'
        obtain ⟨inv', hinv', howner⟩ := owner id hid
        cases hinv.symm.trans hinv'
        have hsame : (inv.afterPayment amount).grandTotal = inv.grandTotal := rfl
        have hpaid : (inv.afterPayment amount).paidAmount = inv.paidAmount + amount := rfl
        rw [hsame, sub_self, ite_self, add_zero] at hdebits
        rw [hpaid, add_sub_cancel_left, howner] at hsettled
        refine ⟨_, ?_, hdebits, hsettled⟩
        split_ifs with hc
        · exact .inr ⟨rfl, hc⟩
        · exact .inl rfl
    obtain ⟨applied, happlied, hdebits, hsettled⟩ := hsums
    by_cases hc : customerId = c
    · rw [if_pos hc] at hcredits
      have hresult : db'.bookOf c = (db.bookOf c).apply (.receive amount applied) := by
        simp only [Db.bookOf, Db.invoicedTo, Book.apply, hdebits, hsettled, hcredits]
      rw [hresult] at hroom
      refine .inr ⟨.receive amount applied, ⟨?_, by omega, hroom⟩, hresult⟩
      rcases happlied with rfl | ⟨rfl, -⟩
      · omega
      · exact le_rfl
    · rw [if_neg hc, add_zero] at hcredits
      have hzero : applied = 0 := happlied.elim id fun h => absurd h.2 hc
      rw [hzero, add_zero] at hsettled
      left
      simp only [Db.bookOf, Db.invoicedTo, hdebits, hsettled, hcredits]
  | attempted h =>
    rw [h.result]
    exact .inl rfl

end Refinement

section Runs

/-- The invoices that requests ask for, waiting ones included, offset whole cents. -/
def Billing.WholeOffsets (s : Billing) : Prop :=
  ∀ k invoice offset, s.threads.get? k = some (.issue invoice offset) → WholeCents offset

/-- The request does not ask for an offset in fractions of a cent. -/
def WholeRequest (a : BillingAction) : Prop :=
  ∀ invoice offset, a = .start (.createWithCariMovement invoice offset) → WholeCents offset

theorem exec_ne_issue (cfg : PayTrConfig) (db : Db) (t : BillingTask) (env : Env)
    (invoice : InvoiceEntity) (offset : Option ℚ) :
    (t.exec cfg db env).2 ≠ .issue invoice offset := by
  cases t with
  | issue invoice offset => simp [BillingTask.exec]
  | void tenantId id => simp [BillingTask.exec]
  | payment phase => simp [BillingTask.exec]
  | token i =>
    simp only [BillingTask.exec]
    split <;> simp
  | newAttempt i t x => simp [BillingTask.exec]
  | callback payload =>
    simp only [BillingTask.exec]
    split <;> simp
  | callbackInvoice payload attempt =>
    simp only [BillingTask.exec]
    split <;> simp
  | callbackPayment payload phase => cases phase <;> simp [BillingTask.exec]
  | answered payload answer => simp [BillingTask.exec]
  | finished => simp [BillingTask.exec]

theorem Billing.WholeOffsets.step {cfg : PayTrConfig} {s : Billing} (h : s.WholeOffsets)
    {a : BillingAction} (ha : WholeRequest a) : (billingStep cfg s a).WholeOffsets := by
  intro k invoice offset hk
  cases a with
  | start r =>
    change (s.threads.insert r.enter).get? k = _ at hk
    rw [Table.get?_insert] at hk
    split_ifs at hk
    · cases r with
      | createWithCariMovement i o =>
        cases hk
        exact ha invoice offset rfl
      | cancelWithCariReversal tenantId id => cases hk
      | createPayment tenantId dto cashierName => cases hk
      | createPayTrPaymentToken invoiceId => cases hk
      | handlePayTrWebhook payload => cases hk
    · exact h k invoice offset hk
  | step i env =>
    cases hi : s.threads.get? i with
    | none =>
      rw [billingStep, Pool.act_step_none hi] at hk
      exact h k invoice offset hk
    | some t =>
      rw [billingStep, Pool.act_step_some hi, Table.get?_modify] at hk
      obtain ⟨u, hu, hk⟩ := Option.map_eq_some_iff.mp hk
      split_ifs at hk
      · exact absurd hk (exec_ne_issue cfg _ t env invoice offset)
      · exact h k invoice offset (hk ▸ hu)

structure Billing.Sound (s : Billing) : Prop where
  wellFormed : s.WellFormed
  whole : s.WholeOffsets
  ledger : LedgerConsistent s.shared
  amounts : AmountsInvariant s.shared
  solvent : ∀ c, (s.shared.bookOf c).Solvent

theorem Billing.Sound.step {cfg : PayTrConfig} {s : Billing} (h : s.Sound) {a : BillingAction}
    (ha : WholeRequest a) : (billingStep cfg s a).Sound := by
  have hclean : CleanOffset s a := by
    cases a with
    | start r => trivial
    | step k env =>
      intro t hk
      cases t with
      | issue invoice offset =>
        intro hok
        obtain ⟨⟨db', r⟩, hcreate⟩ := Outcome.isOk_iff.mp hok
        obtain ⟨hissued⟩ := createWithCariMovement_ok hcreate
        exact hissued.offsetClear_of_whole (h.whole k invoice offset hk)
      | _ => trivial
  have hamounts := h.amounts.step cfg h.wellFormed hclean
  rcases h.wellFormed.effect cfg a with hsame | ⟨k, env, t, rfl, hk, -, heffect⟩
  · refine ⟨h.wellFormed.step a, h.whole.step ha, ?_, hamounts, ?_⟩
    · rw [hsame]
      exact h.ledger
    · rw [hsame]
      exact h.solvent
  · refine ⟨h.wellFormed.step _, h.whole.step ha, h.ledger.effect heffect, hamounts, ?_⟩
    intro c
    have hwhole : ∀ invoice offset, t = .issue invoice offset → WholeCents offset := by
      rintro invoice offset rfl
      exact h.whole k invoice offset hk
    rcases heffect.book h.ledger h.amounts hamounts hwhole c with hsame | ⟨e, he, hbook⟩
    · rw [hsame]
      exact h.solvent c
    · rw [hbook]
      exact (h.solvent c).apply he

theorem Db.FreshBooks.sound {db : Db} (h : db.FreshBooks) : Billing.Sound (Pool.idle db) where
  wellFormed := Billing.wellFormed_idle h.attemptsOk
  whole := by
    intro k invoice offset hk
    simp [Pool.idle] at hk
  ledger := h.consistent
  amounts := h.amounts
  solvent := by
    intro c
    have hzero : ∀ f, db.liveSum c f = 0 := fun f =>
      Db.liveSum_eq_zero (by simp [Table.get?_of_rows_nil h.invoices]) f
    refine ⟨?_, ?_⟩
    · simp only [Pool.idle, Db.bookOf, Db.invoicedTo, hzero]
      exact le_rfl
    · simp only [Pool.idle, Db.bookOf, hzero, Db.receivedFrom,
        Table.sumBy_of_rows_nil h.payments]
      exact le_rfl

/-- With whole-cent offsets, what is paid on a customer's live invoices never
exceeds the money received from that customer, at any moment of any run. -/
theorem advance_spent_once (cfg : PayTrConfig) {db : Db} (h : db.FreshBooks)
    (actions : List BillingAction) (hwhole : ∀ a ∈ actions, WholeRequest a) :
    Always (billingStep cfg)
      (fun s => ∀ c, s.shared.liveSum c Invoice.paidAmount ≤ s.shared.receivedFrom c)
      (Pool.idle db) actions := by
  have hrun : Always (billingStep cfg) Billing.Sound (Pool.idle db) actions :=
    always_of_step (C := fun _ a => WholeRequest a) (fun s a hs ha => hs.step ha) h.sound
      (eachStep_of_forall hwhole)
  exact hrun.mono fun s hs c => (hs.solvent c).settled_le_credits

theorem advanceActions_whole : ∀ a ∈ advanceActions, WholeRequest a := by
  rintro a ha invoice offset rfl
  simp only [advanceActions, alone, List.mem_append, List.mem_cons, List.mem_replicate,
    PoolAction.start.injEq, BillingRequest.createWithCariMovement.injEq, reduceCtorEq,
    and_false, or_false, false_or] at ha
  rintro x hx
  rw [ha.2] at hx
  cases hx
  exact ⟨3000, by norm_num [toNumber]⟩

theorem sample_advance_spent_once :
    Always (billingStep sampleConfig)
      (fun s => ∀ c, s.shared.liveSum c Invoice.paidAmount ≤ s.shared.receivedFrom c)
      (Pool.idle sampleDb) advanceActions :=
  advance_spent_once sampleConfig sampleDb_fresh advanceActions advanceActions_whole

end Runs

end WorksAuto
