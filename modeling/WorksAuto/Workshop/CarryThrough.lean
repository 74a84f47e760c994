import WorksAuto.Billing.Snapshot
import WorksAuto.Workshop.Serial

/-! What the later parts of a status change ask of the database.
The return of the parts of a cancelled order and the automatic invoice of a
completed one can be refused; each condition is spelled out on the rows that the
part looks at. -/

namespace WorksAuto

open Lib

section Parts

variable {db db' : Db} {t w : Uuid} {it : WorkOrderItem} {items : List WorkOrderItem}

def broughtBack (p : Uuid) (items : List WorkOrderItem) : ℤ :=
  (items.map fun it => if it.part? = some p then it.quantity else 0).sum

/-- The products of the parts are there, and their stocks stay in an `integer` column while
the items come back one after another. -/
structure Db.TakesBack (db : Db) (items : List WorkOrderItem) : Prop where
  products : ∀ it ∈ items, ∀ p ∈ it.part?, db.hasProduct p
  quantities : ∀ it ∈ items, ∀ p ∈ it.part?, -2 ^ 31 ≤ it.quantity ∧ it.quantity < 2 ^ 31
  stocks : ∀ before it after, items = before ++ it :: after → ∀ p ∈ it.part?,
    -2 ^ 31 ≤ db.stockOf p + broughtBack p (before ++ [it]) ∧
      db.stockOf p + broughtBack p (before ++ [it]) < 2 ^ 31

def Db.TakesBackOne (db : Db) (it : WorkOrderItem) : Prop :=
  ∀ p ∈ it.part?, db.hasProduct p ∧ (-2 ^ 31 ≤ it.quantity ∧ it.quantity < 2 ^ 31) ∧
    -2 ^ 31 ≤ db.stockOf p + it.quantity ∧ db.stockOf p + it.quantity < 2 ^ 31

theorem returnToStock_ok_iff {p : Uuid} {q : ℤ} :
    (∃ db', returnToStock db t w p q = .ok db') ↔
      db.hasProduct p ∧ (-2 ^ 31 ≤ q ∧ q < 2 ^ 31) ∧
        -2 ^ 31 ≤ db.stockOf p + q ∧ db.stockOf p + q < 2 ^ 31 := by
  constructor
  · rintro ⟨db', h⟩
    obtain ⟨db₁, hinc, hmove⟩ := Outcome.bind_eq_ok.mp h
    obtain ⟨row, hrow, h₁⟩ := Outcome.bind_eq_ok.mp hinc
    obtain ⟨n, hn, -⟩ := Outcome.bind_eq_ok.mp h₁
    obtain ⟨m, hm, -⟩ := Outcome.bind_eq_ok.mp hmove
    have hget := Outcome.required_eq_ok.mp hrow
    have hstock : db.stockOf p = row.stockQuantity := by simp [Db.stockOf, hget]
    rw [hstock]
    exact ⟨by simp [Db.hasProduct, hget], (int4_eq_ok.mp hm).2, (int4_eq_ok.mp hn).2⟩
  · rintro ⟨hknown, hquantity, hstock⟩
    obtain ⟨row, hget⟩ := Option.isSome_iff_exists.mp hknown
    have hrow : db.stockOf p = row.stockQuantity := by simp [Db.stockOf, hget]
    rw [hrow] at hstock
    exact ⟨_, Outcome.bind_eq_ok.mpr ⟨_, Outcome.bind_eq_ok.mpr ⟨row,
      Outcome.required_eq_ok.mpr hget, Outcome.bind_eq_ok.mpr
        ⟨_, int4_eq_ok.mpr ⟨rfl, hstock⟩, rfl⟩⟩,
      Outcome.bind_eq_ok.mpr ⟨_, int4_eq_ok.mpr ⟨rfl, hquantity⟩, rfl⟩⟩⟩

theorem returnPart_ok_iff : (∃ db', returnPart db t w it = .ok db') ↔ db.TakesBackOne it := by
  unfold returnPart Db.TakesBackOne
  cases it.part? with
  | none => simp
  | some p => simpa using returnToStock_ok_iff

theorem stockOf_returned (h : db.TakesBackOne it) (p : Uuid) :
    (db.postAll (it.returning t w)).stockOf p = db.stockOf p + broughtBack p [it] := by
  unfold WorkOrderItem.returning broughtBack
  unfold Db.TakesBackOne at h
  cases hpart : it.part? with
  | none => simp [hpart]
  | some q =>
    have hknown : db.hasProduct (returnMovement t w q it.quantity).productId :=
      (h q hpart).1
    have hpost := db.stockOf_post (returnMovement t w q it.quantity) hknown
    simp only [Option.toList_some, List.map_cons, List.map_nil, Db.postAll_cons, Db.postAll_nil,
      hpart, Option.some.injEq, List.sum_cons, List.sum_nil, add_zero]
    rw [hpost]
    split_ifs with hp
    · subst hp
      exact stockJournal.post_self db.stockOf (returnMovement t w q it.quantity)
    · rw [add_zero]
      exact stockJournal.post_of_ne db.stockOf (Ne.symm hp)

theorem Db.takesBack_cons : db.TakesBack (it :: items) ↔
    db.TakesBackOne it ∧ (db.postAll (it.returning t w)).TakesBack items := by
  have hknown : ∀ p, (db.postAll (it.returning t w)).hasProduct p ↔ db.hasProduct p := by
    intro p
    unfold WorkOrderItem.returning
    cases it.part? with
    | none => exact Iff.rfl
    | some q => exact db.hasProduct_post (returnMovement t w q it.quantity) p
  have hsum : ∀ p (before : List WorkOrderItem), broughtBack p (it :: before) =
      broughtBack p [it] + broughtBack p before := by
    intro p before
    simp [broughtBack]
  constructor
  · intro h
    have hone : db.TakesBackOne it := by
      intro p hp
      have hstock := h.stocks [] it items rfl p hp
      have hback : broughtBack p [it] = it.quantity := by
        simp [broughtBack, Option.mem_def.mp hp]
      rw [List.nil_append, hback] at hstock
      exact ⟨h.products it List.mem_cons_self p hp, h.quantities it List.mem_cons_self p hp, hstock⟩
    refine ⟨hone, ?_, ?_, ?_⟩
    · exact fun i hi p hp => (hknown p).mpr (h.products i (List.mem_cons_of_mem _ hi) p hp)
    · exact fun i hi => h.quantities i (List.mem_cons_of_mem _ hi)
    · rintro before i after rfl p hp
      have hstock := h.stocks (it :: before) i after rfl p hp
      rw [List.cons_append, hsum, ← add_assoc, ← stockOf_returned hone] at hstock
      exact hstock
  · rintro ⟨hone, h⟩
    refine ⟨?_, ?_, ?_⟩
    · rw [List.forall_mem_cons]
      exact ⟨fun p hp => (hone p hp).1, fun i hi p hp => (hknown p).mp (h.products i hi p hp)⟩
    · rw [List.forall_mem_cons]
      exact ⟨fun p hp => (hone p hp).2.1, h.quantities⟩
    · intro before i after heq p hp
      cases before with
      | nil =>
        obtain ⟨rfl, -⟩ := List.cons.inj heq
        have hback : broughtBack p [it] = it.quantity := by
          simp [broughtBack, Option.mem_def.mp hp]
        rw [List.nil_append, hback]
        exact (hone p hp).2.2
      | cons first before =>
        obtain ⟨rfl, htail⟩ := List.cons.inj heq
        have hstock := h.stocks before i after htail p hp
        rw [List.cons_append, hsum, ← add_assoc, ← stockOf_returned hone]
        exact hstock

theorem restoreCancelledStock_isOk_iff {items : List (Uuid × WorkOrderItem)} :
    (restoreCancelledStock db t w items).isOk ↔ db.TakesBack (items.map Prod.snd) := by
  unfold restoreCancelledStock
  induction items generalizing db with
  | nil => exact iff_of_true rfl ⟨nofun, nofun, by simp⟩
  | cons it items ih =>
    rw [List.map_cons, Db.takesBack_cons (t := t) (w := w), ← ih, Outcome.isOk_iff, List.foldlM_cons]
    constructor
    · rintro ⟨db', h⟩
      obtain ⟨mid, hmid, hrest⟩ := Outcome.bind_eq_ok.mp h
      obtain ⟨-, rfl⟩ := returnPart_ok hmid
      exact ⟨returnPart_ok_iff.mp ⟨_, hmid⟩, Outcome.isOk_iff.mpr ⟨db', hrest⟩⟩
    · rintro ⟨hone, hrest⟩
      obtain ⟨mid, hmid⟩ := (returnPart_ok_iff (t := t) (w := w)).mpr hone
      obtain ⟨-, rfl⟩ := returnPart_ok hmid
      obtain ⟨db', hrest⟩ := Outcome.isOk_iff.mp hrest
      exact ⟨db', Outcome.bind_eq_ok.mpr ⟨_, hmid, hrest⟩⟩

end Parts

section Invoice

/-- The account that an invoice of the customer is booked on: the one in the tenant, or a
new one where the customer has none anywhere. -/
def Db.invoicedAccount? (db : Db) (tenantId customerId : Uuid) : Option CurrentAccount :=
  match db.currentAccountOf? tenantId customerId with
  | some (_, account) => some account
  | none =>
    if (db.currentAccounts.find? fun a => a.customerId = customerId).isSome then none
    else
      some
        { tenantId, customerId, totalDebits := 0, totalCredits := 0, balance := 0,
          isBlocked := false }

def subtotalOf (lines : List InvoiceLine) : ℤ := (lines.map (·.cents .double)).sum

def kdvOf (lines : List InvoiceLine) : ℤ := (lines.map (·.taxCents .double)).sum

def WithinThree (stated : Option ℚ) (total : ℤ) : Prop :=
  ∀ x ∈ stated, |mathRoundCents x - mathRoundCents (toNumber total)| ≤ 3

/-- What an invoice must be like to be accepted with the next number of its tenant. -/
structure Db.AcceptsInvoice (db : Db) (clock : Clock) (invoice : InvoiceEntity)
    (lines : List InvoiceLine) : Prop where
  customer : (db.liveCustomer? invoice.tenantId invoice.customerId).isSome
  valid : ∀ l ∈ lines, l.isValid = true
  subtotal : WithinThree invoice.subtotal (subtotalOf lines)
  kdvAmount : WithinThree invoice.kdvAmount (kdvOf lines)
  grandTotal : WithinThree invoice.grandTotal (subtotalOf lines + kdvOf lines)
  total_lt : subtotalOf lines + kdvOf lines < 10 ^ 12
  columns : ∀ l ∈ lines, l.InColumns
  account : ∃ a ∈ db.invoicedAccount? invoice.tenantId invoice.customerId,
    a.isBlocked = false ∧ |a.totalDebits + (subtotalOf lines + kdvOf lines)| < 10 ^ 12 ∧
      |a.balance + (subtotalOf lines + kdvOf lines)| < 10 ^ 12
  sequence : ((db.lastNumber invoice.tenantId .invoice clock.year : ℕ) : ℤ) + 1 < 2 ^ 31
  unlinked : ∀ w ∈ invoice.workOrderId, ∀ k inv, db.invoices.get? k = some inv →
    inv.workOrderId ≠ some w
  unused : ∀ k inv, db.invoices.get? k = some inv → inv.tenantId = invoice.tenantId →
    inv.invoiceNumber ≠
      invoiceNumber clock.year (db.lastNumber invoice.tenantId .invoice clock.year + 1)

variable {db : Db} {clock : Clock} {invoice : InvoiceEntity}

theorem reconcileTotal_ok_iff {stated : Option ℚ} {total : ℤ} :
    reconcileTotal stated (toNumber total) = .ok (toNumber total) ↔ WithinThree stated total := by
  unfold WithinThree
  cases stated with
  | none => exact iff_of_true rfl nofun
  | some x =>
    rw [reconcileTotal, Outcome.bind_eq_ok]
    simp [not_lt]

def totalsOf (lines : List InvoiceLine) : InvoiceTotals where
  subtotal := toNumber (subtotalOf lines)
  kdvAmount := toNumber (kdvOf lines)
  grandTotal := toNumber (subtotalOf lines + kdvOf lines)

theorem calculateInvoiceTotals_eq_ok {lines : List InvoiceLine} {totals : InvoiceTotals} :
    calculateInvoiceTotals lines = .ok totals ↔
      (∀ l ∈ lines, l.isValid = true) ∧ totals = totalsOf lines := by
  constructor
  · intro h
    obtain ⟨hvalid, -⟩ := totalsIn_ok h
    exact ⟨hvalid, Except.ok.inj (h.symm.trans (totalsIn_valid hvalid))⟩
  · rintro ⟨hvalid, rfl⟩
    exact totalsIn_valid hvalid

theorem invoiceTotals_eq_ok {totals : InvoiceTotals} : invoiceTotals db invoice = .ok totals ↔
    (∀ l ∈ effectiveItems db invoice, l.isValid = true) ∧
      (WithinThree invoice.subtotal (subtotalOf (effectiveItems db invoice)) ∧
        WithinThree invoice.kdvAmount (kdvOf (effectiveItems db invoice)) ∧
        WithinThree invoice.grandTotal
          (subtotalOf (effectiveItems db invoice) + kdvOf (effectiveItems db invoice))) ∧
      totals = totalsOf (effectiveItems db invoice) := by
  have hkept : ∀ {stated : Option ℚ} {x y : ℚ}, reconcileTotal stated x = .ok y → y = x := by
    intro stated x y h
    cases stated with
    | none => exact (Outcome.pure_eq_ok.mp h).symm
    | some v =>
      obtain ⟨u, -, h⟩ := Outcome.bind_eq_ok.mp h
      exact (Outcome.pure_eq_ok.mp h).symm
  constructor
  · intro h
    obtain ⟨calculated, hcalculated, h₁⟩ := Outcome.bind_eq_ok.mp h
    obtain ⟨hvalid, rfl⟩ :=
      calculateInvoiceTotals_eq_ok.mp (Outcome.asBadRequest_eq_ok.mp hcalculated)
    obtain ⟨s, hs, h₂⟩ := Outcome.bind_eq_ok.mp h₁
    obtain ⟨k, hk, h₃⟩ := Outcome.bind_eq_ok.mp h₂
    obtain ⟨g, hg, h₄⟩ := Outcome.bind_eq_ok.mp h₃
    obtain rfl := hkept hs
    obtain rfl := hkept hk
    obtain rfl := hkept hg
    exact ⟨hvalid, ⟨reconcileTotal_ok_iff.mp hs, reconcileTotal_ok_iff.mp hk,
      reconcileTotal_ok_iff.mp hg⟩, (Outcome.pure_eq_ok.mp h₄).symm⟩
  · rintro ⟨hvalid, ⟨hs, hk, hg⟩, rfl⟩
    exact Outcome.bind_eq_ok.mpr ⟨_, Outcome.asBadRequest_eq_ok.mpr
        (calculateInvoiceTotals_eq_ok.mpr ⟨hvalid, rfl⟩),
      Outcome.bind_eq_ok.mpr ⟨_, reconcileTotal_ok_iff.mpr hs,
        Outcome.bind_eq_ok.mpr ⟨_, reconcileTotal_ok_iff.mpr hk,
          Outcome.bind_eq_ok.mpr ⟨_, reconcileTotal_ok_iff.mpr hg, rfl⟩⟩⟩⟩

theorem findOrCreateAccount_ok_iff {tenantId customerId : Uuid} {a : CurrentAccount} :
    (∃ db' id, findOrCreateAccount db tenantId customerId = .ok (db', id, a)) ↔
      db.invoicedAccount? tenantId customerId = some a := by
  unfold findOrCreateAccount Db.invoicedAccount?
  cases db.currentAccountOf? tenantId customerId with
  | some found =>
    obtain ⟨id, account⟩ := found
    simp
  | none =>
    simp only [Outcome.bind_eq_ok, Outcome.reject_eq_ok]
    split_ifs with hother
    · simp [hother]
    · simp only [Bool.not_eq_true] at hother
      simp [hother, pure, Except.pure]

theorem drawNumber_ok_iff (hunnumbered : invoice.isUnnumbered = true) :
    (∃ d, drawNumber clock db invoice = .ok d) ↔
      ((db.lastNumber invoice.tenantId .invoice clock.year : ℕ) : ℤ) + 1 < 2 ^ 31 := by
  rw [drawNumber, if_pos hunnumbered, nextDocumentNumber, Db.lastNumber]
  unfold DocumentSequence.isFor
  cases db.documentSequences.find? fun s =>
      s.tenantId = invoice.tenantId ∧ s.docType = .invoice ∧ s.year = clock.year with
  | none => exact iff_of_true ⟨_, rfl⟩ (by simp)
  | some found =>
    obtain ⟨id, s⟩ := found
    constructor
    · rintro ⟨d, h⟩
      obtain ⟨next, hnext, -⟩ := Outcome.bind_eq_ok.mp h
      obtain ⟨n, hn, -⟩ := Outcome.bind_eq_ok.mp hnext
      exact (int4_eq_ok.mp hn).2.2
    · intro h
      have hfits : int4 ((s.lastNumber : ℤ) + 1) = .ok ((s.lastNumber : ℤ) + 1) :=
        int4_eq_ok.mpr ⟨rfl, by omega, h⟩
      exact ⟨_, Outcome.bind_eq_ok.mpr ⟨_, Outcome.bind_eq_ok.mpr ⟨_, hfits, rfl⟩, rfl⟩⟩

theorem subtotalOf_nonneg {lines : List InvoiceLine} (h : ∀ l ∈ lines, l.isValid = true) :
    0 ≤ subtotalOf lines := by
  apply List.sum_nonneg
  intro c hc
  obtain ⟨l, hl, rfl⟩ := List.mem_map.mp hc
  exact InvoiceLine.cents_nonneg (h l hl)

theorem kdvOf_nonneg {lines : List InvoiceLine} (h : ∀ l ∈ lines, l.isValid = true) :
    0 ≤ kdvOf lines := by
  apply List.sum_nonneg
  intro c hc
  obtain ⟨l, hl, rfl⟩ := List.mem_map.mp hc
  exact InvoiceLine.taxCents_nonneg (h l hl)

theorem numeric_remaining {g : ℤ} (hnonneg : 0 ≤ g) (hlt : g < 10 ^ 12) :
    ∃ c, numeric 12 (max 0 (jsSub (toNumber g) 0)) = .ok c := by
  have hg : (0 : ℚ) ≤ g := by exact_mod_cast hnonneg
  have hlast : (g : ℚ) + 1 ≤ 10 ^ 12 := by exact_mod_cast hlt
  have hslack : Double.slack 4 < 1 / 2 ^ 50 := by norm_num [Double.slack]
  have hoff := (abs_le.mp (abs_jsSub_sub_le (toNumber g) 0)).2
  rw [abs_zero, add_zero, sub_zero, toNumber, abs_of_nonneg (by positivity)] at hoff
  have hbelow : max 0 (jsSub (toNumber g) 0) * 100 + 1 / 2 < ((10 ^ 12 : ℤ) : ℚ) := by
    have hreach : Double.slack 4 * ((g : ℚ) / 100) ≤ 1 / 2 ^ 50 * ((g : ℚ) / 100) := by gcongr
    rw [max_mul_of_nonneg _ _ (by norm_num), max_add, max_lt_iff]
    push_cast
    rw [toNumber]
    constructor <;> linarith
  have hpos : 0 ≤ max 0 (jsSub (toNumber g) 0) * 100 := by positivity
  refine ⟨_, numeric_eq_ok.mpr ⟨rfl, ?_⟩⟩
  rw [abs_of_nonneg (roundAway_nonneg hpos), roundAway_of_nonneg hpos, round_eq]
  exact Int.floor_lt.mpr hbelow

theorem invoiceRow_ok_iff {lines : List InvoiceLine} {number : String} {gib : Option String}
    (hvalid : ∀ l ∈ lines, l.isValid = true) :
    (∃ row, invoiceRow invoice (totalsOf lines) 0 number gib = .ok row) ↔
      subtotalOf lines + kdvOf lines < 10 ^ 12 := by
  have hs := subtotalOf_nonneg hvalid
  have hk := kdvOf_nonneg hvalid
  have hcolumn : ∀ c : ℤ, 0 ≤ c → c < 10 ^ 12 → numeric 12 (toNumber c) = .ok c := by
    intro c hnonneg hlt
    rw [numeric_eq_ok, toNumber_mul, roundAway_intCast, abs_of_nonneg hnonneg]
    exact ⟨rfl, hlt⟩
  constructor
  · rintro ⟨row, h⟩
    obtain ⟨s, -, h₁⟩ := Outcome.bind_eq_ok.mp h
    obtain ⟨k, -, h₂⟩ := Outcome.bind_eq_ok.mp h₁
    obtain ⟨g, hg, -⟩ := Outcome.bind_eq_ok.mp h₂
    obtain ⟨rfl, hlt⟩ := numeric_eq_ok.mp hg
    simp only [totalsOf, toNumber_mul, roundAway_intCast] at hlt
    exact (abs_lt.mp hlt).2
  · intro hlt
    obtain ⟨c, hc⟩ := numeric_remaining (add_nonneg hs hk) hlt
    have hzero : numeric 12 0 = .ok 0 := by
      rw [numeric_eq_ok, zero_mul, roundAway_zero]
      exact ⟨rfl, by norm_num⟩
    exact ⟨_, Outcome.bind_eq_ok.mpr ⟨_, hcolumn _ hs (by omega),
      Outcome.bind_eq_ok.mpr ⟨_, hcolumn _ hk (by omega),
        Outcome.bind_eq_ok.mpr ⟨_, hcolumn _ (add_nonneg hs hk) hlt,
          Outcome.bind_eq_ok.mpr ⟨_, hzero, Outcome.bind_eq_ok.mpr ⟨c, hc, rfl⟩⟩⟩⟩⟩⟩

theorem insertInvoice_ok_iff {row : Invoice} : (∃ r, insertInvoice db row = .ok r) ↔
    (∀ w ∈ row.workOrderId, ∀ k inv, db.invoices.get? k = some inv → inv.workOrderId ≠ some w) ∧
      ∀ k inv, db.invoices.get? k = some inv → inv.tenantId = row.tenantId →
        inv.invoiceNumber ≠ row.invoiceNumber := by
  have hlinked : (row.workOrderId.isSome &&
      (db.invoices.find? fun inv => inv.workOrderId = row.workOrderId).isSome) = false ↔
        ∀ w ∈ row.workOrderId, ∀ k inv, db.invoices.get? k = some inv → inv.workOrderId ≠ some w := by
    rw [← Bool.not_eq_true, Bool.and_eq_true, Table.find?_isSome_iff]
    cases row.workOrderId with
    | none => simp
    | some w => simp
  have hnumber : (db.invoices.find? fun inv =>
      inv.tenantId = row.tenantId ∧ inv.invoiceNumber = row.invoiceNumber).isSome = false ↔
        ∀ k inv, db.invoices.get? k = some inv → inv.tenantId = row.tenantId →
          inv.invoiceNumber ≠ row.invoiceNumber := by
    rw [← Bool.not_eq_true, Table.find?_isSome_iff]
    simp
  rw [← hlinked, ← hnumber]
  constructor
  · rintro ⟨r, h⟩
    obtain ⟨u, hu, h₁⟩ := Outcome.bind_eq_ok.mp h
    obtain ⟨v, hv, -⟩ := Outcome.bind_eq_ok.mp h₁
    exact ⟨Outcome.reject_eq_ok.mp hu, Outcome.reject_eq_ok.mp hv⟩
  · rintro ⟨hu, hv⟩
    exact ⟨_, Outcome.bind_eq_ok.mpr ⟨(), Outcome.reject_eq_ok.mpr hu,
      Outcome.bind_eq_ok.mpr ⟨(), Outcome.reject_eq_ok.mpr hv, rfl⟩⟩⟩

theorem debitAccount_ok_iff {id : Uuid} {a : CurrentAccount} {g : ℤ}
    (ha : db.currentAccounts.get? id = some a) :
    (∃ r, debitAccount db id (toNumber g) = .ok r) ↔
      |a.totalDebits + g| < 10 ^ 12 ∧ |a.balance + g| < 10 ^ 12 := by
  have hsum : ∀ c : ℤ, (∃ d, numeric 12 (toNumber c + toNumber g) = .ok d) ↔ |c + g| < 10 ^ 12 := by
    intro c
    simp only [← toNumber_add, numeric_eq_ok, toNumber_mul, roundAway_intCast]
    constructor
    · rintro ⟨d, rfl, h⟩
      exact h
    · exact fun h => ⟨_, rfl, h⟩
  rw [← hsum, ← hsum]
  constructor
  · rintro ⟨r, h⟩
    obtain ⟨found, hfound, h₁⟩ := Outcome.bind_eq_ok.mp h
    cases Option.some.inj (ha.symm.trans (Outcome.required_eq_ok.mp hfound))
    obtain ⟨debits, hd, h₂⟩ := Outcome.bind_eq_ok.mp h₁
    obtain ⟨balance, hb, -⟩ := Outcome.bind_eq_ok.mp h₂
    exact ⟨⟨debits, hd⟩, ⟨balance, hb⟩⟩
  · rintro ⟨⟨debits, hd⟩, ⟨balance, hb⟩⟩
    exact ⟨_, Outcome.bind_eq_ok.mpr ⟨a, Outcome.required_eq_ok.mpr ha,
      Outcome.bind_eq_ok.mpr ⟨debits, hd, Outcome.bind_eq_ok.mpr ⟨balance, hb, rfl⟩⟩⟩⟩

theorem cents_lt_of_total {lines : List InvoiceLine} (hvalid : ∀ l ∈ lines, l.isValid = true)
    (hlt : subtotalOf lines + kdvOf lines < 10 ^ 12) : ∀ l ∈ lines, l.cents .double < 10 ^ 12 := by
  intro l hl
  have hle : l.cents .double ≤ subtotalOf lines := by
    apply List.single_le_sum _ _ (List.mem_map_of_mem hl)
    intro c hc
    obtain ⟨m, hm, rfl⟩ := List.mem_map.mp hc
    exact InvoiceLine.cents_nonneg (hvalid m hm)
  have hkdv := kdvOf_nonneg hvalid
  omega

/-- The writes of the transaction go through when the numbers fit their columns, the order
and the number have no invoice yet, and the account can be debited. -/
theorem storeInvoice_ok_iff {lines : List InvoiceLine} {customer : Customer} {d : DrawnNumber}
    {a : CurrentAccount} (hvalid : ∀ l ∈ lines, l.isValid = true)
    (ha : db.invoicedAccount? invoice.tenantId invoice.customerId = some a) :
    (∃ r, storeInvoice clock db invoice
        { customer, items := lines, totals := totalsOf lines, advancePaid := 0 } d = .ok r) ↔
      subtotalOf lines + kdvOf lines < 10 ^ 12 ∧
        ((∀ w ∈ invoice.workOrderId, ∀ k inv, db.invoices.get? k = some inv →
            inv.workOrderId ≠ some w) ∧
          ∀ k inv, db.invoices.get? k = some inv → inv.tenantId = invoice.tenantId →
            inv.invoiceNumber ≠ d.number) ∧
        (∀ l ∈ lines, l.InColumns) ∧
        |a.totalDebits + (subtotalOf lines + kdvOf lines)| < 10 ^ 12 ∧
        |a.balance + (subtotalOf lines + kdvOf lines)| < 10 ^ 12 := by
  obtain ⟨opened, accountId, hfound⟩ := findOrCreateAccount_ok_iff.mpr ha
  obtain ⟨accounts, rfl, hopened⟩ := findOrCreateAccount_ok hfound
  have hframe := d.record_frame { db with currentAccounts := accounts } invoice.tenantId
  have hinsertable : ∀ {row : Invoice} {gib : Option String},
      invoiceRow invoice (totalsOf lines) 0 d.number gib = .ok row →
        ((∃ r, insertInvoice (d.record { db with currentAccounts := accounts } invoice.tenantId) row =
          .ok r) ↔
          (∀ w ∈ invoice.workOrderId, ∀ k inv, db.invoices.get? k = some inv →
              inv.workOrderId ≠ some w) ∧
            ∀ k inv, db.invoices.get? k = some inv → inv.tenantId = invoice.tenantId →
              inv.invoiceNumber ≠ d.number) := by
    intro row gib hrow
    have hstored := invoiceRow_ok hrow
    rw [insertInvoice_ok_iff, hframe, hstored.tenantId, hstored.workOrderId, hstored.invoiceNumber]
  have hget : ∀ {row : Invoice} {inserted snapped : Db} {invoiceId : Uuid},
      insertInvoice (d.record { db with currentAccounts := accounts } invoice.tenantId) row =
        .ok (inserted, invoiceId) → (∃ items, snapped = { inserted with invoiceItems := items }) →
          snapped.currentAccounts.get? accountId = some a := by
    rintro row inserted snapped invoiceId hinsert ⟨items, rfl⟩
    obtain ⟨-, rfl, -⟩ := insertInvoice_ok hinsert
    rw [hframe]
    exact hopened.get.1
  constructor
  · rintro ⟨r, h⟩
    obtain ⟨⟨opened', accountId', account'⟩, hfound', h₁⟩ := Outcome.bind_eq_ok.mp h
    cases Except.ok.inj (hfound.symm.trans hfound')
    obtain ⟨row, hrow, h₂⟩ := Outcome.bind_eq_ok.mp h₁
    obtain ⟨⟨inserted, invoiceId⟩, hinsert, h₃⟩ := Outcome.bind_eq_ok.mp h₂
    obtain ⟨snapped, hsnap, h₄⟩ := Outcome.bind_eq_ok.mp h₃
    obtain ⟨offset, hoffset, h₅⟩ := Outcome.bind_eq_ok.mp h₄
    obtain ⟨⟨debited, newBalance⟩, hdebit, -⟩ := Outcome.bind_eq_ok.mp h₅
    have hlt := (invoiceRow_ok_iff hvalid).mp ⟨row, hrow⟩
    have hcents := cents_lt_of_total hvalid hlt
    obtain ⟨hcolumns, hitems⟩ := (snapshotItems_ok_iff hvalid hcents).mp hsnap
    obtain rfl := Outcome.pure_eq_ok.mp hoffset
    exact ⟨hlt, (hinsertable hrow).mp ⟨_, hinsert⟩, hcolumns,
      (debitAccount_ok_iff (hget hinsert ⟨_, hitems⟩)).mp ⟨_, hdebit⟩⟩
  · rintro ⟨hlt, hfree, hcolumns, hdebit⟩
    have hcents := cents_lt_of_total hvalid hlt
    obtain ⟨row, hrow⟩ :
        ∃ row, invoiceRow invoice (totalsOf lines) 0 d.number d.gibNumber = .ok row :=
      (invoiceRow_ok_iff hvalid).mpr hlt
    obtain ⟨⟨inserted, invoiceId⟩, hinsert⟩ := (hinsertable hrow).mpr hfree
    have hsnap := (@snapshotItems_ok_iff lines inserted _ invoiceId hvalid hcents).mpr
      ⟨hcolumns, rfl⟩
    obtain ⟨⟨debited, newBalance⟩, hdebited⟩ :=
      (debitAccount_ok_iff (hget hinsert ⟨_, rfl⟩)).mpr hdebit
    have hs := subtotalOf_nonneg hvalid
    have hk := kdvOf_nonneg hvalid
    have htotal : numeric 12 (totalsOf lines).grandTotal =
        .ok (subtotalOf lines + kdvOf lines) := by
      rw [numeric_eq_ok, totalsOf, toNumber_mul, roundAway_intCast, abs_of_nonneg (by omega)]
      exact ⟨rfl, hlt⟩
    exact ⟨_, Outcome.bind_eq_ok.mpr ⟨_, hfound, Outcome.bind_eq_ok.mpr ⟨row, hrow,
      Outcome.bind_eq_ok.mpr ⟨_, hinsert, Outcome.bind_eq_ok.mpr ⟨_, hsnap,
        Outcome.bind_eq_ok.mpr ⟨_, rfl, Outcome.bind_eq_ok.mpr ⟨_, hdebited,
          Outcome.bind_eq_ok.mpr ⟨_, htotal, rfl⟩⟩⟩⟩⟩⟩⟩⟩

/-- The transaction of an invoice that gets the next number of its tenant goes through
precisely when the rows it looks at let it. -/
theorem createWithCariMovement_isOk_iff (hunnumbered : invoice.isUnnumbered = true)
    (hcheck : (∀ w ∈ invoice.workOrderId, ∀ k inv, db.invoices.get? k = some inv →
      inv.workOrderId ≠ some w) → checkWorkOrder db invoice = .ok ()) :
    (createWithCariMovement clock db invoice none).isOk ↔
      db.AcceptsInvoice clock invoice (effectiveItems db invoice) := by
  rw [Outcome.isOk_iff, createWithCariMovement_eq]
  constructor
  · rintro ⟨r, h⟩
    obtain ⟨p, hp, h₁⟩ := Outcome.bind_eq_ok.mp h
    obtain ⟨d, hd, hstore⟩ := Outcome.bind_eq_ok.mp h₁
    obtain ⟨customer, hcustomer, hp₁⟩ := Outcome.bind_eq_ok.mp hp
    obtain ⟨u, -, hp₂⟩ := Outcome.bind_eq_ok.mp hp₁
    obtain ⟨totals, htotals, hp₃⟩ := Outcome.bind_eq_ok.mp hp₂
    obtain ⟨⟨opened, accountId, a⟩, hfound, hp₄⟩ := Outcome.bind_eq_ok.mp hp₃
    obtain ⟨v, hblocked, hp₅⟩ := Outcome.bind_eq_ok.mp hp₄
    obtain rfl := Outcome.pure_eq_ok.mp hp₅
    obtain ⟨hvalid, ⟨hs, hk, hg⟩, rfl⟩ := invoiceTotals_eq_ok.mp htotals
    obtain ⟨n, rfl, hnumber, -⟩ := drawNumber_ok hunnumbered hd
    have ha := findOrCreateAccount_ok_iff.mp ⟨opened, accountId, hfound⟩
    obtain ⟨hlt, ⟨hunlinked, hunused⟩, hcolumns, hdebits, hbalance⟩ :=
      (storeInvoice_ok_iff hvalid ha).mp ⟨r, hstore⟩
    exact
      { customer := Option.isSome_iff_exists.mpr ⟨customer, Outcome.required_eq_ok.mp hcustomer⟩
        valid := hvalid, subtotal := hs, kdvAmount := hk, grandTotal := hg, total_lt := hlt
        columns := hcolumns, unlinked := hunlinked
        account := ⟨a, ha, Outcome.reject_eq_ok.mp hblocked, hdebits, hbalance⟩
        sequence := (drawNumber_ok_iff hunnumbered).mp ⟨d, hd⟩
        unused := hnumber ▸ hunused }
  · intro h
    obtain ⟨customer, hcustomer⟩ := Option.isSome_iff_exists.mp h.customer
    obtain ⟨a, ha, hblocked, hdebits, hbalance⟩ := h.account
    obtain ⟨opened, accountId, hfound⟩ := findOrCreateAccount_ok_iff.mpr ha
    obtain ⟨d, hd⟩ := (drawNumber_ok_iff hunnumbered).mpr h.sequence
    obtain ⟨n, rfl, hnumber, -⟩ := drawNumber_ok hunnumbered hd
    have htotals := invoiceTotals_eq_ok.mpr
      ⟨h.valid, ⟨h.subtotal, h.kdvAmount, h.grandTotal⟩, rfl⟩
    have hunused := h.unused
    rw [← hnumber] at hunused
    obtain ⟨r, hstore⟩ := (@storeInvoice_ok_iff db clock invoice _ customer d a h.valid ha).mpr
      ⟨h.total_lt, ⟨h.unlinked, hunused⟩, h.columns, hdebits, hbalance⟩
    refine ⟨r, Outcome.bind_eq_ok.mpr ⟨_, ?_, Outcome.bind_eq_ok.mpr ⟨d, hd, hstore⟩⟩⟩
    exact Outcome.bind_eq_ok.mpr ⟨customer, Outcome.required_eq_ok.mpr hcustomer,
      Outcome.bind_eq_ok.mpr ⟨(), hcheck h.unlinked, Outcome.bind_eq_ok.mpr ⟨_, htotals,
        Outcome.bind_eq_ok.mpr ⟨_, hfound, Outcome.bind_eq_ok.mpr
          ⟨(), Outcome.reject_eq_ok.mpr hblocked, rfl⟩⟩⟩⟩⟩

end Invoice

end WorksAuto
