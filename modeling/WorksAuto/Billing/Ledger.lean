import WorksAuto.Billing.Step

/-! The current accounts against the documents they summarise.
An account repeats four times what the invoices, the payments and its own
movements already say. `LedgerConsistent` states that they agree, and every
billing step keeps it. -/

namespace WorksAuto

open Lib

/-- An amount summed over the customer's invoices that are not cancelled. -/
def Db.liveSum (db : Db) (customerId : Uuid) (f : Invoice → ℤ) : ℤ :=
  db.invoices.sumBy fun inv =>
    if inv.customerId = customerId ∧ inv.status ≠ .cancelled then f inv else 0

def Db.invoicedTo (db : Db) (customerId : Uuid) : ℤ := db.liveSum customerId Invoice.grandTotal

theorem Db.liveSum_eq_zero {db : Db} {c : Uuid}
    (h : ∀ k inv, db.invoices.get? k = some inv → inv.customerId ≠ c) (f : Invoice → ℤ) :
    db.liveSum c f = 0 :=
  Table.sumBy_eq_zero _ fun k inv hk => if_neg fun hc => h k inv hk hc.1

/-- The customer's payments in money: advances that were offset are not among them. -/
def Db.receivedFrom (db : Db) (customerId : Uuid) : ℤ :=
  db.payments.sumBy fun p =>
    if p.customerId = customerId ∧ p.paymentMethod ≠ .advanceOffset then p.amount else 0

def Db.movementTotal (db : Db) (accountId : Uuid) : ℤ :=
  db.cariMovements.sumBy fun m =>
    if m.currentAccountId = accountId then m.debit - m.credit else 0

/-- `balanceAfter` of the movement appended last; zero before the first. -/
def Db.lastBalance (db : Db) (accountId : Uuid) : ℤ :=
  ((db.cariMovements.filter fun m => m.currentAccountId = accountId).getLast?.map
    fun m => m.2.balanceAfter).getD 0

structure AccountAgrees (db : Db) (id : Uuid) (a : CurrentAccount) : Prop where
  balance : a.balance = a.totalDebits - a.totalCredits
  debits : a.totalDebits = db.invoicedTo a.customerId
  credits : a.totalCredits = db.receivedFrom a.customerId
  movements : a.balance = db.movementTotal id
  last : a.balance = db.lastBalance id

structure LedgerConsistent (db : Db) : Prop where
  unique : ∀ i j a b, db.currentAccounts.get? i = some a → db.currentAccounts.get? j = some b →
    a.customerId = b.customerId → i = j
  invoiceAccount : ∀ k inv, db.invoices.get? k = some inv → ∃ i a,
    db.currentAccounts.get? i = some a ∧ a.customerId = inv.customerId ∧ a.tenantId = inv.tenantId
  paymentAccount : ∀ k p, db.payments.get? k = some p → ∃ i a,
    db.currentAccounts.get? i = some a ∧ a.customerId = p.customerId
  movementAccount : ∀ k m, db.cariMovements.get? k = some m →
    ∃ a, db.currentAccounts.get? m.currentAccountId = some a
  total_nonneg : ∀ k inv, db.invoices.get? k = some inv → 0 ≤ inv.grandTotal
  agrees : ∀ id a, db.currentAccounts.get? id = some a → AccountAgrees db id a

structure Db.FreshBooks (db : Db) : Prop where
  unique : ∀ i j a b, db.currentAccounts.get? i = some a → db.currentAccounts.get? j = some b →
    a.customerId = b.customerId → i = j
  zero : ∀ id a, db.currentAccounts.get? id = some a →
    a.totalDebits = 0 ∧ a.totalCredits = 0 ∧ a.balance = 0
  invoices : db.invoices.rows = []
  payments : db.payments.rows = []
  movements : db.cariMovements.rows = []
  attempts : db.paymentAttempts.rows = []

theorem Db.FreshBooks.consistent {db : Db} (h : db.FreshBooks) : LedgerConsistent db where
  unique := h.unique
  invoiceAccount := by simp [Table.get?_of_rows_nil h.invoices]
  paymentAccount := by simp [Table.get?_of_rows_nil h.payments]
  movementAccount := by simp [Table.get?_of_rows_nil h.movements]
  total_nonneg := by simp [Table.get?_of_rows_nil h.invoices]
  agrees := by
    intro id a ha
    obtain ⟨hd, hc, hb⟩ := h.zero id a ha
    refine ⟨by rw [hd, hc, hb, sub_zero], ?_, ?_, ?_, ?_⟩
    · rw [hd, Db.invoicedTo, Db.liveSum_eq_zero (by simp [Table.get?_of_rows_nil h.invoices])]
    · rw [hc, Db.receivedFrom, Table.sumBy_of_rows_nil h.payments]
    · rw [hb, Db.movementTotal, Table.sumBy_of_rows_nil h.movements]
    · simp [hb, Db.lastBalance, Table.filter, h.movements]

theorem Db.FreshBooks.attemptsOk {db : Db} (h : db.FreshBooks) : AttemptsOk db where
  unique := by simp [Table.get?_of_rows_nil h.attempts]
  positive := by simp [Table.get?_of_rows_nil h.attempts]
  invoice := by simp [Table.get?_of_rows_nil h.attempts]

section Post

theorem LedgerConsistent.open {db : Db} {opened : Table CurrentAccount} {t c id : Uuid}
    {a : CurrentAccount} (hL : LedgerConsistent db)
    (h : AccountFound db.currentAccounts opened t c id a) :
    LedgerConsistent { db with currentAccounts := opened } := by
  rcases h with ⟨rfl, -⟩ | ⟨hnone, ha, rfl, rfl⟩
  · exact hL
  have hother : ∀ i b, db.currentAccounts.get? i = some b → b.customerId ≠ c := by
    intro i b hb
    simpa using Table.find?_none hnone hb
  have hcust : a.customerId = c := by rw [ha]
  have hold : ∀ i b, db.currentAccounts.get? i = some b →
      (db.currentAccounts.insert a).get? i = some b :=
    fun i b hb => Table.get?_insert_of_some hb a
  refine ⟨?_, ?_, ?_, ?_, hL.total_nonneg, ?_⟩
  · intro i j x y hx hy hxy
    rw [Table.get?_insert] at hx hy
    split_ifs at hx hy with hi hj hj
    · rw [hi, hj]
    · cases hx
      exact absurd (hxy.symm.trans hcust) (hother j y hy)
    · cases hy
      exact absurd (hxy.trans hcust) (hother i x hx)
    · exact hL.unique i j x y hx hy hxy
  · intro k inv hk
    obtain ⟨i, b, hb, hrest⟩ := hL.invoiceAccount k inv hk
    exact ⟨i, b, hold i b hb, hrest⟩
  · intro k p hk
    obtain ⟨i, b, hb, hrest⟩ := hL.paymentAccount k p hk
    exact ⟨i, b, hold i b hb, hrest⟩
  · intro k m hk
    obtain ⟨b, hb⟩ := hL.movementAccount k m hk
    exact ⟨b, hold _ b hb⟩
  · intro i b hb
    rw [Table.get?_insert] at hb
    split_ifs at hb with hi
    · cases hb
      -- no invoice, payment or movement can name the customer or the new account
      have hinv : db.invoicedTo c = 0 := by
        refine Db.liveSum_eq_zero (fun k inv hk hc => ?_) _
        obtain ⟨j, b, hb, hbc, -⟩ := hL.invoiceAccount k inv hk
        exact hother j b hb (hbc.trans hc)
      have hpay : db.receivedFrom c = 0 := by
        apply Table.sumBy_eq_zero
        intro k p hk
        obtain ⟨j, b, hb, hbc⟩ := hL.paymentAccount k p hk
        have := hother j b hb
        rw [if_neg (fun hc => this (hbc.trans hc.1))]
      have hmov : ∀ k m, db.cariMovements.get? k = some m → m.currentAccountId ≠ i := by
        intro k m hk he
        obtain ⟨b, hb⟩ := hL.movementAccount k m hk
        rw [he, hi, Table.get?_next] at hb
        cases hb
      have htotal : db.movementTotal i = 0 := by
        apply Table.sumBy_eq_zero
        intro k m hk
        rw [if_neg (hmov k m hk)]
      have hlast : db.lastBalance i = 0 := by
        have hempty : (db.cariMovements.filter fun m => m.currentAccountId = i) = [] := by
          apply List.eq_nil_iff_forall_not_mem.mpr
          rintro ⟨k, m⟩ hm
          obtain ⟨hk, hp⟩ := Table.mem_filter_iff.mp hm
          exact hmov k m hk (by simpa using hp)
        simp [Db.lastBalance, hempty]
      rw [ha]
      exact ⟨rfl, hinv.symm, hpay.symm, htotal.symm, hlast.symm⟩
    · obtain ⟨h₁, h₂, h₃, h₄, h₅⟩ := hL.agrees i b hb
      exact ⟨h₁, h₂, h₃, h₄, h₅⟩

theorem movementTotal_insert (db : Db) (m : CariMovement) (i : Uuid) :
    Db.movementTotal { db with cariMovements := db.cariMovements.insert m } i =
      db.movementTotal i + if m.currentAccountId = i then m.debit - m.credit else 0 :=
  Table.sumBy_insert _ _ _

theorem lastBalance_insert (db : Db) (m : CariMovement) (i : Uuid) :
    Db.lastBalance { db with cariMovements := db.cariMovements.insert m } i =
      if m.currentAccountId = i then m.balanceAfter else db.lastBalance i := by
  unfold Db.lastBalance
  rw [Table.filter_insert]
  by_cases h : m.currentAccountId = i
  · simp [h]
  · simp [h]

/-- A document that moves an account by `dd` in debits and `dc` in credits, with
the one movement that records it. -/
structure Posting (db : Db) (id : Uuid) (a : CurrentAccount) (dd dc : ℤ) (db' : Db) where
  update : CurrentAccount → CurrentAccount
  movement : CariMovement
  account : db.currentAccounts.get? id = some a
  owner : ∀ b, (update b).customerId = b.customerId ∧ (update b).tenantId = b.tenantId
  debits : (update a).totalDebits = a.totalDebits + dd
  credits : (update a).totalCredits = a.totalCredits + dc
  balance : (update a).balance = a.balance + dd - dc
  accounts : db'.currentAccounts = db.currentAccounts.modify id update
  movements : db'.cariMovements = db.cariMovements.insert movement
  movement_account : movement.currentAccountId = id
  movement_amount : movement.debit - movement.credit = dd - dc
  movement_balance : movement.balanceAfter = a.balance + dd - dc
  invoiced : ∀ c, db'.invoicedTo c = db.invoicedTo c + if a.customerId = c then dd else 0
  received : ∀ c, db'.receivedFrom c = db.receivedFrom c + if a.customerId = c then dc else 0
  invoiceAccount : ∀ k inv, db'.invoices.get? k = some inv → ∃ i b,
    db.currentAccounts.get? i = some b ∧ b.customerId = inv.customerId ∧ b.tenantId = inv.tenantId
  paymentAccount : ∀ k p, db'.payments.get? k = some p → ∃ i b,
    db.currentAccounts.get? i = some b ∧ b.customerId = p.customerId
  total_nonneg : ∀ k inv, db'.invoices.get? k = some inv → 0 ≤ inv.grandTotal

theorem Posting.get {db db' : Db} {id : Uuid} {a : CurrentAccount} {dd dc : ℤ}
    (h : Posting db id a dd dc db') {i : Uuid} {b : CurrentAccount}
    (hb : db.currentAccounts.get? i = some b) :
    db'.currentAccounts.get? i = some (if i = id then h.update b else b) := by
  rw [h.accounts, Table.get?_modify, hb]
  rfl

theorem Posting.get_owner {db db' : Db} {id : Uuid} {a : CurrentAccount} {dd dc : ℤ}
    (h : Posting db id a dd dc db') {i : Uuid} {b : CurrentAccount}
    (hb : db.currentAccounts.get? i = some b) :
    ∃ b', db'.currentAccounts.get? i = some b' ∧ b'.customerId = b.customerId ∧
      b'.tenantId = b.tenantId := by
  refine ⟨_, h.get hb, ?_⟩
  split_ifs
  · exact h.owner b
  · exact ⟨rfl, rfl⟩

theorem Posting.origin {db db' : Db} {id : Uuid} {a : CurrentAccount} {dd dc : ℤ}
    (h : Posting db id a dd dc db') {i : Uuid} {b' : CurrentAccount}
    (hb' : db'.currentAccounts.get? i = some b') :
    ∃ b, db.currentAccounts.get? i = some b ∧ b' = if i = id then h.update b else b := by
  rw [h.accounts, Table.get?_modify] at hb'
  obtain ⟨b, hb, rfl⟩ := Option.map_eq_some_iff.mp hb'
  exact ⟨b, hb, rfl⟩

theorem LedgerConsistent.post {db db' : Db} {id : Uuid} {a : CurrentAccount} {dd dc : ℤ}
    (hL : LedgerConsistent db) (h : Posting db id a dd dc db') : LedgerConsistent db' := by
  have hmovement : ∀ i, db'.movementTotal i =
      db.movementTotal i + if id = i then dd - dc else 0 := by
    intro i
    have := movementTotal_insert db h.movement i
    rw [h.movement_account, h.movement_amount] at this
    rw [← this]
    simp only [Db.movementTotal, h.movements]
  have hlast : ∀ i, db'.lastBalance i =
      if id = i then a.balance + dd - dc else db.lastBalance i := by
    intro i
    have := lastBalance_insert db h.movement i
    rw [h.movement_account, h.movement_balance] at this
    rw [← this]
    simp only [Db.lastBalance, h.movements]
  refine ⟨?_, ?_, ?_, ?_, h.total_nonneg, ?_⟩
  · intro i j x y hx hy hxy
    obtain ⟨b, hb, rfl⟩ := h.origin hx
    obtain ⟨d, hd, rfl⟩ := h.origin hy
    apply hL.unique i j b d hb hd
    have hown : ∀ k (e : CurrentAccount),
        (if k = id then h.update e else e).customerId = e.customerId := by
      intro k e
      split_ifs
      · exact (h.owner e).1
      · rfl
    rw [← hown i b, ← hown j d, hxy]
  · intro k inv hk
    obtain ⟨i, b, hb, hc, ht⟩ := h.invoiceAccount k inv hk
    obtain ⟨b', hb', hc', ht'⟩ := h.get_owner hb
    exact ⟨i, b', hb', hc'.trans hc, ht'.trans ht⟩
  · intro k p hk
    obtain ⟨i, b, hb, hc⟩ := h.paymentAccount k p hk
    obtain ⟨b', hb', hc', -⟩ := h.get_owner hb
    exact ⟨i, b', hb', hc'.trans hc⟩
  · intro k m hk
    rw [h.movements, Table.get?_insert] at hk
    split_ifs at hk
    · cases hk
      rw [h.movement_account]
      exact ⟨_, h.get h.account⟩
    · obtain ⟨b, hb⟩ := hL.movementAccount k m hk
      exact ⟨_, h.get hb⟩
  · intro i b' hb'
    obtain ⟨b, hb, rfl⟩ := h.origin hb'
    have hold := hL.agrees i b hb
    by_cases hi : i = id
    · subst hi
      cases hb.symm.trans h.account
      simp only [if_true]
      have hown := (h.owner a).1
      refine ⟨?_, ?_, ?_, ?_, ?_⟩
      · rw [h.balance, h.debits, h.credits, hold.balance]
        ring
      · rw [h.debits, hown, h.invoiced, if_pos rfl, hold.debits]
      · rw [h.credits, hown, h.received, if_pos rfl, hold.credits]
      · rw [h.balance, hmovement, if_pos rfl, hold.movements]
        ring
      · rw [h.balance, hlast, if_pos rfl]
    · simp only [if_neg hi]
      have hne : ¬ a.customerId = b.customerId :=
        fun he => hi (hL.unique i id b a hb h.account he.symm)
      have hne' : ¬ id = i := fun he => hi he.symm
      refine ⟨hold.balance, ?_, ?_, ?_, ?_⟩
      · rw [h.invoiced, if_neg hne, add_zero, hold.debits]
      · rw [h.received, if_neg hne, add_zero, hold.credits]
      · rw [hmovement, if_neg hne', add_zero, hold.movements]
      · rw [hlast, if_neg hne', hold.last]

end Post

section LiveSums

theorem initialStatus_ne_cancelled (r x : ℚ) : initialStatus r x ≠ .cancelled := by
  unfold initialStatus
  split_ifs <;> simp

theorem Invoice.afterPayment_live (inv : Invoice) (amount : ℤ) :
    (inv.afterPayment amount).status ≠ .cancelled := by
  unfold Invoice.afterPayment
  dsimp only
  split_ifs <;> simp

theorem InvoiceIssued.liveSum {clock : Clock} {db db' : Db} {invoice : InvoiceEntity}
    {offset : Option ℚ} (h : InvoiceIssued clock db invoice offset db') (c : Uuid)
    (f : Invoice → ℤ) :
    db'.liveSum c f = db.liveSum c f + if h.account.customerId = c then f h.row else 0 := by
  have hlive : h.row.status ≠ .cancelled := by
    rw [h.status_eq]
    exact initialStatus_ne_cancelled _ _
  simp only [Db.liveSum, h.invoices, Table.sumBy_insert, h.customerId_eq, h.found.get.2.1, hlive,
    ne_eq, not_false_eq_true, and_true]

theorem InvoiceVoided.liveSum {db db' : Db} {tenantId id : Uuid}
    (h : InvoiceVoided db tenantId id db') (c : Uuid) (f : Invoice → ℤ) :
    db'.liveSum c f = db.liveSum c f + if h.existing.customerId = c then -f h.existing else 0 := by
  obtain ⟨hget, -⟩ := Db.invoice?_eq_some.mp h.found
  have hmod := Table.sumBy_modify hget cancelInvoiceRow fun inv =>
    if inv.customerId = c ∧ inv.status ≠ .cancelled then f inv else 0
  have hzero : (if (cancelInvoiceRow h.existing).customerId = c ∧
      (cancelInvoiceRow h.existing).status ≠ .cancelled
      then f (cancelInvoiceRow h.existing) else 0) = 0 := by
    simp [cancelInvoiceRow]
  rw [hzero, ← h.invoices] at hmod
  simp only [h.live, ne_eq, not_false_eq_true, and_true] at hmod
  unfold Db.liveSum
  split_ifs at hmod ⊢ <;> linarith

theorem PaymentCollected.liveSum_none {db db' : Db} {call : PaymentCall} {customerId : Uuid}
    {amount : ℤ} (h : PaymentCollected db call customerId amount db')
    (hnone : call.dto.invoiceId = none) (c : Uuid) (f : Invoice → ℤ) :
    db'.liveSum c f = db.liveSum c f := by
  rcases h.invoices with ⟨-, hsame⟩ | ⟨id, -, hid, -⟩
  · unfold Db.liveSum
    rw [hsame]
  · rw [hnone] at hid
    cases hid

theorem PaymentCollected.liveSum_some {db db' : Db} {call : PaymentCall} {customerId : Uuid}
    {amount : ℤ} (h : PaymentCollected db call customerId amount db') {id : Uuid}
    (hid : call.dto.invoiceId = some id) (c : Uuid) (f : Invoice → ℤ) :
    ∃ inv, db.invoices.get? id = some inv ∧ inv.status ≠ .cancelled ∧
      amount ≤ inv.remainingAmount ∧
      db'.liveSum c f = db.liveSum c f +
        if inv.customerId = c then f (inv.afterPayment amount) - f inv else 0 := by
  rcases h.invoices with ⟨hnone, -⟩ | ⟨i, inv, hi, hinv, hlive, hle, hmod⟩
  · rw [hnone] at hid
    cases hid
  · cases hid.symm.trans hi
    obtain ⟨hget, -⟩ := Db.invoice?_eq_some.mp hinv
    refine ⟨inv, hget, hlive, hle, ?_⟩
    have hsum := Table.sumBy_modify hget (fun _ => inv.afterPayment amount) fun inv =>
      if inv.customerId = c ∧ inv.status ≠ .cancelled then f inv else 0
    rw [← hmod] at hsum
    have howner : (inv.afterPayment amount).customerId = inv.customerId := rfl
    simp only [hlive, inv.afterPayment_live amount, howner, ne_eq, not_false_eq_true,
      and_true] at hsum
    unfold Db.liveSum
    split_ifs at hsum ⊢ <;> linarith

theorem InvoiceIssued.receivedFrom {clock : Clock} {db db' : Db} {invoice : InvoiceEntity}
    {offset : Option ℚ} (h : InvoiceIssued clock db invoice offset db') (c : Uuid) :
    db'.receivedFrom c = db.receivedFrom c := by
  unfold Db.receivedFrom
  rw [h.payments]
  cases hp : h.payment with
  | none => rfl
  | some p =>
    rw [Option.elim_some, Table.sumBy_insert]
    simp [(h.payment_some p hp).method_eq]

theorem InvoiceVoided.receivedFrom {db db' : Db} {tenantId id : Uuid}
    (h : InvoiceVoided db tenantId id db') (c : Uuid) :
    db'.receivedFrom c = db.receivedFrom c := by
  unfold Db.receivedFrom
  rcases h.posted with ⟨-, -, -, hpay⟩ | ⟨-, -, -, -, -, -, -, hpay⟩
  · rw [hpay]
  · rw [hpay]
    exact Table.sumBy_modifyIf_map _ _ _ _ fun _ => rfl

theorem PaymentCollected.receivedFrom {db db' : Db} {call : PaymentCall} {customerId : Uuid}
    {amount : ℤ} (h : PaymentCollected db call customerId amount db')
    (hmethod : call.dto.effectiveMethod ≠ .advanceOffset) (c : Uuid) :
    db'.receivedFrom c = db.receivedFrom c + if customerId = c then amount else 0 := by
  simp only [Db.receivedFrom, h.payments, Table.sumBy_insert]
  simp only [paymentRow, ne_eq, hmethod, not_false_eq_true, and_true]

end LiveSums

section Steps

/-- A new invoice is a debit posting on the (opened) account of its customer. -/
def InvoiceIssued.posting {clock : Clock} {db db' : Db} {invoice : InvoiceEntity}
    {offset : Option ℚ} (hL : LedgerConsistent db)
    (h : InvoiceIssued clock db invoice offset db') :
    Posting { db with currentAccounts := h.opened } h.accountId h.account h.total 0 db' where
  update a := { a with totalDebits := a.totalDebits + h.total, balance := a.balance + h.total }
  movement := _
  account := h.found.get.1
  owner := fun _ => ⟨rfl, rfl⟩
  debits := rfl
  credits := (add_zero _).symm
  balance := (sub_zero _).symm
  accounts := h.accounts
  movements := h.movements
  movement_account := rfl
  movement_amount := rfl
  movement_balance := (sub_zero _).symm
  invoiced := by
    intro c
    have hsum := h.liveSum c Invoice.grandTotal
    rw [h.grandTotal_eq] at hsum
    exact hsum
  received := by
    intro c
    rw [h.receivedFrom, ite_self, add_zero]
    rfl
  invoiceAccount := by
    intro k inv hk
    rw [h.invoices, Table.get?_insert] at hk
    split_ifs at hk
    · cases hk
      obtain ⟨hget, hc, ht⟩ := h.found.get
      exact ⟨_, _, hget, hc.trans h.customerId_eq.symm, ht.trans h.tenantId_eq.symm⟩
    · exact (hL.open h.found).invoiceAccount k inv hk
  paymentAccount := by
    intro k p hk
    rw [h.payments] at hk
    cases hp : h.payment with
    | none =>
      rw [hp] at hk
      exact (hL.open h.found).paymentAccount k p hk
    | some q =>
      rw [hp, Option.elim_some, Table.get?_insert] at hk
      split_ifs at hk
      · cases hk
        obtain ⟨hget, hc, -⟩ := h.found.get
        exact ⟨_, _, hget, hc.trans (h.payment_some p hp).customerId_eq.symm⟩
      · exact (hL.open h.found).paymentAccount k p hk
  total_nonneg := by
    intro k inv hk
    rw [h.invoices, Table.get?_insert] at hk
    split_ifs at hk
    · cases hk
      rw [h.grandTotal_eq]
      exact h.total_nonneg
    · exact hL.total_nonneg k inv hk

def PaymentCollected.posting {db db' : Db} {call : PaymentCall} {customerId : Uuid}
    {amount : ℤ} (hL : LedgerConsistent db) (hmethod : call.dto.effectiveMethod ≠ .advanceOffset)
    (h : PaymentCollected db call customerId amount db') :
    Posting { db with currentAccounts := h.opened } h.accountId h.account 0 amount db' where
  update a := { a with totalCredits := a.totalCredits + amount, balance := a.balance - amount }
  movement := _
  account := h.found.get.1
  owner := fun _ => ⟨rfl, rfl⟩
  debits := (add_zero _).symm
  credits := rfl
  balance := by rw [add_zero]
  accounts := h.accounts
  movements := h.movements
  movement_account := rfl
  movement_amount := rfl
  movement_balance := by rw [add_zero]
  invoiced := by
    intro c
    rw [ite_self, add_zero]
    cases hid : call.dto.invoiceId with
    | none => exact h.liveSum_none hid c Invoice.grandTotal
    | some id =>
      obtain ⟨inv, -, -, -, hsum⟩ := h.liveSum_some hid c Invoice.grandTotal
      have hsame : (inv.afterPayment amount).grandTotal = inv.grandTotal := rfl
      rw [hsame, sub_self, ite_self, add_zero] at hsum
      exact hsum
  received := by
    intro c
    rw [h.found.get.2.1]
    exact h.receivedFrom hmethod c
  invoiceAccount := by
    intro k inv hk
    have horigin : ∃ inv₀, db.invoices.get? k = some inv₀ ∧ inv.customerId = inv₀.customerId ∧
        inv.tenantId = inv₀.tenantId := by
      rcases h.invoices with ⟨-, hsame⟩ | ⟨id, paid, -, hpaid, -, -, hmod⟩
      · rw [hsame] at hk
        exact ⟨inv, hk, rfl, rfl⟩
      · rw [hmod, Table.get?_modify] at hk
        obtain ⟨inv₀, h₀, rfl⟩ := Option.map_eq_some_iff.mp hk
        obtain ⟨hget, -⟩ := Db.invoice?_eq_some.mp hpaid
        refine ⟨inv₀, h₀, ?_⟩
        split_ifs with hid
        · subst hid
          cases h₀.symm.trans hget
          exact ⟨rfl, rfl⟩
        · exact ⟨rfl, rfl⟩
    obtain ⟨inv₀, h₀, hc, ht⟩ := horigin
    rw [hc, ht]
    exact (hL.open h.found).invoiceAccount k inv₀ h₀
  paymentAccount := by
    intro k p hk
    rw [h.payments, Table.get?_insert] at hk
    split_ifs at hk
    · cases hk
      obtain ⟨hget, hc, -⟩ := h.found.get
      exact ⟨_, _, hget, hc⟩
    · exact (hL.open h.found).paymentAccount k p hk
  total_nonneg := by
    intro k inv hk
    rcases h.invoices with ⟨-, hsame⟩ | ⟨id, paid, -, hpaid, -, -, hmod⟩
    · rw [hsame] at hk
      exact hL.total_nonneg k inv hk
    · rw [hmod, Table.get?_modify] at hk
      obtain ⟨inv₀, h₀, rfl⟩ := Option.map_eq_some_iff.mp hk
      obtain ⟨hget, -⟩ := Db.invoice?_eq_some.mp hpaid
      split_ifs with hid
      · exact hL.total_nonneg id paid hget
      · exact hL.total_nonneg k inv₀ h₀

theorem LedgerConsistent.total_le_debits {db : Db} (hL : LedgerConsistent db) {i k : Uuid}
    {a : CurrentAccount} {inv : Invoice} (ha : db.currentAccounts.get? i = some a)
    (hk : db.invoices.get? k = some inv) (hc : inv.customerId = a.customerId)
    (hlive : inv.status ≠ .cancelled) : inv.grandTotal ≤ a.totalDebits := by
  rw [(hL.agrees i a ha).debits]
  have hnonneg : ∀ j r, db.invoices.get? j = some r →
      0 ≤ if r.customerId = a.customerId ∧ r.status ≠ .cancelled then r.grandTotal else 0 := by
    intro j r hr
    split_ifs
    · exact hL.total_nonneg j r hr
    · exact le_rfl
  have hle := Table.le_sumBy hnonneg hk
  rwa [if_pos ⟨hc, hlive⟩] at hle

theorem LedgerConsistent.clamp {db : Db} (hL : LedgerConsistent db) {i k : Uuid}
    {a : CurrentAccount} {inv : Invoice} (ha : db.currentAccounts.get? i = some a)
    (hk : db.invoices.get? k = some inv) (hc : inv.customerId = a.customerId)
    (hlive : inv.status ≠ .cancelled) :
    max 0 (a.totalDebits - inv.grandTotal) = a.totalDebits - inv.grandTotal := by
  exact max_eq_right (sub_nonneg.mpr (hL.total_le_debits ha hk hc hlive))

theorem LedgerConsistent.void {db db' : Db} {tenantId id : Uuid} (hL : LedgerConsistent db)
    (h : InvoiceVoided db tenantId id db') : LedgerConsistent db' := by
  obtain ⟨hget, htenant⟩ := Db.invoice?_eq_some.mp h.found
  have horigin : ∀ k inv, db'.invoices.get? k = some inv → ∃ inv₀,
      db.invoices.get? k = some inv₀ ∧ inv.customerId = inv₀.customerId ∧
        inv.tenantId = inv₀.tenantId ∧ inv.grandTotal = inv₀.grandTotal := by
    intro k inv hk
    rw [h.invoices, Table.get?_modify] at hk
    obtain ⟨inv₀, h₀, rfl⟩ := Option.map_eq_some_iff.mp hk
    refine ⟨inv₀, h₀, ?_⟩
    split_ifs <;> exact ⟨rfl, rfl, rfl⟩
  rcases h.posted with ⟨hnone, -⟩ | ⟨i, a, balance, hsome, hbalance, hacc, hmov, hpay⟩
  · -- the invoice has an account of its tenant and customer, so the search cannot fail
    obtain ⟨i, a, ha, hc, ht⟩ := hL.invoiceAccount id h.existing hget
    have := Table.find?_none hnone ha
    simp [hc, ht, htenant] at this
  obtain ⟨ha, hc, -⟩ := Db.currentAccountOf?_some hsome
  have hclamp := hL.clamp ha hget hc.symm h.live
  have hposting : Posting db i a (-h.existing.grandTotal) 0 db' :=
    { update := fun b =>
        { b with
          totalDebits := max 0 (a.totalDebits - h.existing.grandTotal)
          balance := balance }
      movement := _
      account := ha
      owner := fun _ => ⟨rfl, rfl⟩
      debits := hclamp.trans (sub_eq_add_neg _ _)
      credits := (add_zero _).symm
      balance := by
        dsimp only
        rw [hbalance, hclamp, (hL.agrees i a ha).balance]
        ring
      accounts := hacc
      movements := hmov
      movement_account := rfl
      movement_amount := by ring
      movement_balance := by
        dsimp only
        rw [hbalance, hclamp, (hL.agrees i a ha).balance]
        ring
      invoiced := by
        intro c
        rw [hc]
        exact h.liveSum c Invoice.grandTotal
      received := by
        intro c
        rw [h.receivedFrom, ite_self, add_zero]
      invoiceAccount := by
        intro k inv hk
        obtain ⟨inv₀, h₀, hc₀, ht₀, -⟩ := horigin k inv hk
        rw [hc₀, ht₀]
        exact hL.invoiceAccount k inv₀ h₀
      paymentAccount := by
        intro k p hk
        rw [hpay, Table.get?_modifyIf] at hk
        obtain ⟨p₀, h₀, rfl⟩ := Option.map_eq_some_iff.mp hk
        obtain ⟨j, b, hb, hcb⟩ := hL.paymentAccount k p₀ h₀
        refine ⟨j, b, hb, ?_⟩
        split_ifs <;> exact hcb
      total_nonneg := by
        intro k inv hk
        obtain ⟨inv₀, h₀, -, -, hg⟩ := horigin k inv hk
        rw [hg]
        exact hL.total_nonneg k inv₀ h₀ }
  exact hL.post hposting

theorem LedgerConsistent.effect {db db' : Db} {t : BillingTask} {env : Env}
    (hL : LedgerConsistent db) (h : BillingEffect db t env db') : LedgerConsistent db' := by
  cases h with
  | idle => exact hL
  | issued task h => exact (hL.open h.found).post (h.posting hL)
  | voided h => exact hL.void h
  | collected ok owner positive amount_eq h =>
    exact (hL.open h.found).post (h.posting hL ok.method)
  | attempted h =>
    rw [h.result]
    obtain ⟨h₁, h₂, h₃, h₄, h₅, h₆⟩ := hL
    refine ⟨h₁, h₂, h₃, h₄, h₅, ?_⟩
    intro id a ha
    obtain ⟨k₁, k₂, k₃, k₄, k₅⟩ := h₆ id a ha
    exact ⟨k₁, k₂, k₃, k₄, k₅⟩

end Steps

section Runs

/-- Every account agrees with the books, a customer without an account has
nothing booked, and no cancellation would be clamped at zero. -/
structure Db.Reconciled (db : Db) : Prop where
  accounts : ∀ id a, db.currentAccounts.get? id = some a → AccountAgrees db id a
  strangers : ∀ c, (∀ id a, db.currentAccounts.get? id = some a → a.customerId ≠ c) →
    db.invoicedTo c = 0 ∧ db.receivedFrom c = 0
  clamp : ∀ id a k inv, db.currentAccounts.get? id = some a → db.invoices.get? k = some inv →
    inv.customerId = a.customerId → inv.status ≠ .cancelled →
      max 0 (a.totalDebits - inv.grandTotal) = a.totalDebits - inv.grandTotal

theorem LedgerConsistent.reconciled {db : Db} (hL : LedgerConsistent db) : db.Reconciled where
  accounts := hL.agrees
  strangers := by
    intro c hc
    constructor
    · refine Db.liveSum_eq_zero (fun k inv hk hinv => ?_) _
      obtain ⟨i, a, ha, hac, -⟩ := hL.invoiceAccount k inv hk
      exact hc i a ha (hac.trans hinv)
    · apply Table.sumBy_eq_zero
      intro k p hk
      obtain ⟨i, a, ha, hac⟩ := hL.paymentAccount k p hk
      exact if_neg fun h => hc i a ha (hac.trans h.1)
  clamp := fun _ _ _ _ ha hk hc hlive => hL.clamp ha hk hc hlive

/-- In every interleaving of invoices, cancellations, payments and gateway
callbacks, the current accounts agree with the books at every moment. -/
theorem current_accounts_reconciled (cfg : PayTrConfig) {db : Db} (h : db.FreshBooks)
    (actions : List BillingAction) :
    Always (billingStep cfg) (fun s => s.shared.Reconciled) (Pool.idle db) actions := by
  have hrun := billing_always cfg (fun _ _ _ _ hL he => LedgerConsistent.effect hL he)
    (Billing.wellFormed_idle h.attemptsOk) h.consistent actions
  exact hrun.mono fun s hs => hs.2.reconciled

theorem sampleDb_fresh : sampleDb.FreshBooks where
  unique := by simp [sampleDb, Db.empty]
  zero := by simp [sampleDb, Db.empty]
  invoices := rfl
  payments := rfl
  movements := rfl
  attempts := rfl

/-- An advance of 50.00, an invoice of 100.00 that uses 30.00 of it, and its
cancellation. -/
def advanceActions : List BillingAction :=
  alone 0 (.createPayment 0 sampleDeposit "Kasa") ++
  alone 1 (.createWithCariMovement (sampleInvoice 100) (some 30)) ++
  alone 2 (.cancelWithCariReversal 0 0)

theorem sample_reconciled :
    Always (billingStep sampleConfig) (fun s => s.shared.Reconciled) (Pool.idle sampleDb)
        advanceActions ∧
      ((run (billingStep sampleConfig) (Pool.idle sampleDb)
        advanceActions).shared.currentAccounts.get? 0).map CurrentAccount.balance =
          some (-5000) :=
  ⟨current_accounts_reconciled sampleConfig sampleDb_fresh advanceActions, by decide +kernel⟩

end Runs

end WorksAuto
