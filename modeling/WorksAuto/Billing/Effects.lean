import WorksAuto.Payments.PayTr

/-! What a successful billing transaction does to the database.
Each transaction is inverted once, into a record that names the rows it wrote
and says table by table what became of the database. Everything about runs is
proved from these records. -/

namespace WorksAuto

open Lib

section Issue

structure OffsetPayment (invoice : InvoiceEntity) (invoiceId : Uuid) (x : ℚ) (p : Payment) :
    Prop where
  positive : 0 < x
  tenantId_eq : p.tenantId = invoice.tenantId
  invoiceId_eq : p.invoiceId = some invoiceId
  customerId_eq : p.customerId = invoice.customerId
  amount_eq : p.amount = roundAway (x * 100)
  method_eq : p.paymentMethod = .advanceOffset
  provider_eq : p.gatewayProvider = none

/-- A successful `createWithCariMovement`. -/
structure InvoiceIssued (clock : Clock) (db : Db) (invoice : InvoiceEntity) (offset : Option ℚ)
    (db' : Db) where
  opened : Table CurrentAccount
  accountId : Uuid
  account : CurrentAccount
  total : ℤ
  row : Invoice
  payment : Option Payment
  checked : checkWorkOrder db invoice = .ok ()
  found : AccountFound db.currentAccounts opened invoice.tenantId invoice.customerId accountId
    account
  total_nonneg : 0 ≤ total
  total_lt : total < 10 ^ 12
  total_eq : ∃ t, invoiceTotals db invoice = .ok t ∧ t.grandTotal = toNumber total
  tenantId_eq : row.tenantId = invoice.tenantId
  customerId_eq : row.customerId = invoice.customerId
  workOrderId_eq : row.workOrderId = invoice.workOrderId
  grandTotal_eq : row.grandTotal = total
  paidAmount_eq : row.paidAmount =
    roundAway (advanceOffset account.balance (toNumber total) offset * 100)
  remainingAmount_eq : row.remainingAmount =
    roundAway (max 0 (jsSub (toNumber total)
      (advanceOffset account.balance (toNumber total) offset)) * 100)
  status_eq : row.status =
    initialStatus (max 0 (jsSub (toNumber total)
      (advanceOffset account.balance (toNumber total) offset)))
        (advanceOffset account.balance (toNumber total) offset)
  payment_some : ∀ p, payment = some p → OffsetPayment invoice db.invoices.next
    (advanceOffset account.balance (toNumber total) offset) p
  payment_none : payment = none → ¬ 0 < advanceOffset account.balance (toNumber total) offset
  order_free : ∀ w, invoice.workOrderId = some w → ∀ k inv, db.invoices.get? k = some inv →
    inv.workOrderId ≠ some w
  invoices : db'.invoices = db.invoices.insert row
  payments : db'.payments = payment.elim db.payments db.payments.insert
  accounts : db'.currentAccounts = opened.modify accountId fun a =>
    { a with totalDebits := a.totalDebits + total, balance := a.balance + total }
  movements : db'.cariMovements = db.cariMovements.insert
    { tenantId := invoice.tenantId, currentAccountId := accountId, referenceType := .invoice,
      debit := total, credit := 0, balanceAfter := account.balance + total }
  attempts : db'.paymentAttempts = db.paymentAttempts
  workOrders : db'.workOrders = invoice.workOrderId.elim db.workOrders fun w =>
    db.workOrders.modify w (WorkOrder.complete clock)
  items : db'.workOrderItems = db.workOrderItems
  products : db'.products = db.products
  stockMovements : db'.stockMovements = db.stockMovements
  appointments : db'.appointments = db.appointments

theorem invoiceTotals_calculate {db : Db} {invoice : InvoiceEntity} {t : InvoiceTotals}
    (h : invoiceTotals db invoice = .ok t) :
    calculateInvoiceTotals (effectiveItems db invoice) = .ok t := by
  have reconcile : ∀ {s : Option ℚ} {x y : ℚ}, reconcileTotal s x = .ok y → y = x := by
    intro s x y hs
    cases s with
    | none => exact (Outcome.pure_eq_ok.mp hs).symm
    | some v =>
      obtain ⟨u, -, hs⟩ := Outcome.bind_eq_ok.mp hs
      exact (Outcome.pure_eq_ok.mp hs).symm
  obtain ⟨totals, ht, h⟩ := Outcome.bind_eq_ok.mp h
  obtain ⟨s, hs, h⟩ := Outcome.bind_eq_ok.mp h
  obtain ⟨k, hk, h⟩ := Outcome.bind_eq_ok.mp h
  obtain ⟨g, hg, h⟩ := Outcome.bind_eq_ok.mp h
  rw [← Outcome.pure_eq_ok.mp h, reconcile hs, reconcile hk, reconcile hg]
  exact Outcome.asBadRequest_eq_ok.mp ht

theorem invoiceTotals_ok {db : Db} {invoice : InvoiceEntity} {t : InvoiceTotals}
    (h : invoiceTotals db invoice = .ok t) : ∃ g : ℤ, 0 ≤ g ∧ t.grandTotal = toNumber g :=
  calculateInvoiceTotals_cents (invoiceTotals_calculate h)

theorem snapshotItem_ok {id : Uuid} {db db' : Db} {item : InvoiceLine}
    (h : snapshotItem id db item = .ok db') :
    ∃ it : InvoiceItem, it.invoiceId = id ∧
      db' = { db with invoiceItems := db.invoiceItems.insert it } := by
  obtain ⟨_, -, h⟩ := Outcome.bind_eq_ok.mp h
  obtain ⟨_, -, h⟩ := Outcome.bind_eq_ok.mp h
  obtain ⟨_, -, h⟩ := Outcome.bind_eq_ok.mp h
  obtain ⟨_, -, h⟩ := Outcome.bind_eq_ok.mp h
  exact ⟨_, rfl, (Outcome.pure_eq_ok.mp h).symm⟩

theorem snapshotItems_frame {id : Uuid} {items : List InvoiceLine} {db db' : Db}
    (h : items.foldlM (snapshotItem id) db = .ok db') :
    ∃ rows, db' = { db with invoiceItems := rows } := by
  induction items generalizing db with
  | nil => exact ⟨_, (Outcome.pure_eq_ok.mp h).symm⟩
  | cons l items ih =>
    rw [List.foldlM_cons] at h
    obtain ⟨mid, hmid, hrest⟩ := Outcome.bind_eq_ok.mp h
    obtain ⟨it, -, rfl⟩ := snapshotItem_ok hmid
    obtain ⟨rows', rfl⟩ := ih hrest
    exact ⟨rows', rfl⟩

theorem insertPayment_ok {db db' : Db} {row : Payment} {id : Uuid}
    (h : insertPayment db row = .ok (db', id)) :
    id = db.payments.next ∧ db' = { db with payments := db.payments.insert row } ∧
      ∀ provider tx, row.gatewayProvider = some provider → row.transactionId = some tx →
        ∀ k p, db.payments.get? k = some p →
          ¬ (p.tenantId = row.tenantId ∧ p.gatewayProvider = row.gatewayProvider ∧
            p.transactionId = row.transactionId) := by
  obtain ⟨u, hu, h⟩ := Outcome.bind_eq_ok.mp h
  cases Outcome.pure_eq_ok.mp h
  refine ⟨rfl, rfl, ?_⟩
  intro provider tx hp htx k p hk hsame
  rw [Outcome.reject_eq_ok, hp, htx] at hu
  simp only [Option.isSome_some, Bool.true_and, Option.isSome_eq_false_iff,
    Option.isNone_iff_eq_none] at hu
  have := Table.find?_none hu hk
  rw [hp, htx] at hsame
  simp [hsame] at this

theorem recordAdvanceOffset_ok {db db' : Db} {invoice : InvoiceEntity} {id : Uuid} {x : ℚ}
    (h : recordAdvanceOffset db invoice id x = .ok db') :
    ∃ payment : Option Payment,
      db' = { db with payments := payment.elim db.payments db.payments.insert } ∧
        (∀ p, payment = some p → OffsetPayment invoice id x p) ∧
        (payment = none → ¬ 0 < x) := by
  unfold recordAdvanceOffset at h
  split_ifs at h with hx
  · obtain ⟨amount, ha, h⟩ := Outcome.bind_eq_ok.mp h
    obtain ⟨⟨mid, pid⟩, hp, h⟩ := Outcome.bind_eq_ok.mp h
    obtain ⟨-, rfl, -⟩ := insertPayment_ok hp
    cases Outcome.pure_eq_ok.mp h
    refine ⟨some _, rfl, ?_, by simp⟩
    intro p hp
    cases hp
    exact ⟨hx, rfl, rfl, rfl, (numeric_eq_ok.mp ha).1.symm, rfl, rfl⟩
  · cases Outcome.pure_eq_ok.mp h
    exact ⟨none, rfl, by simp, fun _ => hx⟩

theorem debitAccount_frame {db db' : Db} {id : Uuid} {amount : ℚ} {balance : ℤ}
    (h : debitAccount db id amount = .ok (db', balance)) :
    ∃ accounts, db' = { db with currentAccounts := accounts } := by
  obtain ⟨f, -, rfl⟩ := debitAccount_set h
  exact ⟨_, rfl⟩

theorem creditAccount_frame {db db' : Db} {id : Uuid} {amount : ℚ} {balance : ℤ}
    (h : creditAccount db id amount = .ok (db', balance)) :
    ∃ accounts, db' = { db with currentAccounts := accounts } := by
  obtain ⟨f, -, rfl⟩ := creditAccount_set h
  exact ⟨_, rfl⟩

theorem allocateNumber_frame {clock : Clock} {db db' : Db} {invoice : InvoiceEntity}
    {number : String} {gib : Option String}
    (h : allocateNumber clock db invoice = .ok (db', number, gib)) :
    ∃ seqs, db' = { db with documentSequences := seqs } := by
  unfold allocateNumber at h
  split_ifs at h
  · obtain ⟨⟨mid, n⟩, hn, h⟩ := Outcome.bind_eq_ok.mp h
    obtain ⟨seqs, rfl⟩ := nextDocumentNumber_ok hn
    cases Outcome.pure_eq_ok.mp h
    exact ⟨seqs, rfl⟩
  · cases Outcome.pure_eq_ok.mp h
    exact ⟨db.documentSequences, rfl⟩

/-- What `invoiceRow` puts into the row of an invoice. -/
structure RowOf (invoice : InvoiceEntity) (totals : InvoiceTotals) (advancePaid : ℚ)
    (number : String) (row : Invoice) : Prop where
  tenantId : row.tenantId = invoice.tenantId
  customerId : row.customerId = invoice.customerId
  workOrderId : row.workOrderId = invoice.workOrderId
  invoiceNumber : row.invoiceNumber = number
  subtotal : numeric 12 totals.subtotal = .ok row.subtotal
  kdvAmount : numeric 12 totals.kdvAmount = .ok row.kdvAmount
  grandTotal : numeric 12 totals.grandTotal = .ok row.grandTotal
  paidAmount : numeric 12 advancePaid = .ok row.paidAmount
  remainingAmount : numeric 12 (max 0 (jsSub totals.grandTotal advancePaid)) = .ok row.remainingAmount
  status : row.status = initialStatus (max 0 (jsSub totals.grandTotal advancePaid)) advancePaid

theorem invoiceRow_ok {invoice : InvoiceEntity} {t : InvoiceTotals} {x : ℚ} {number : String}
    {gib : Option String} {row : Invoice} (h : invoiceRow invoice t x number gib = .ok row) :
    RowOf invoice t x number row := by
  obtain ⟨subtotal, hs, h₁⟩ := Outcome.bind_eq_ok.mp h
  obtain ⟨kdvAmount, hk, h₂⟩ := Outcome.bind_eq_ok.mp h₁
  obtain ⟨grandTotal, hg, h₃⟩ := Outcome.bind_eq_ok.mp h₂
  obtain ⟨paidAmount, hp, h₄⟩ := Outcome.bind_eq_ok.mp h₃
  obtain ⟨remainingAmount, hr, h₅⟩ := Outcome.bind_eq_ok.mp h₄
  rw [← Outcome.pure_eq_ok.mp h₅]
  exact ⟨rfl, rfl, rfl, rfl, hs, hk, hg, hp, hr, rfl⟩

theorem insertInvoice_ok {db db' : Db} {row : Invoice} {id : Uuid}
    (h : insertInvoice db row = .ok (db', id)) :
    id = db.invoices.next ∧ db' = { db with invoices := db.invoices.insert row } ∧
      ∀ w, row.workOrderId = some w → ∀ k inv, db.invoices.get? k = some inv →
        inv.workOrderId ≠ some w := by
  obtain ⟨u, hu, h⟩ := Outcome.bind_eq_ok.mp h
  obtain ⟨v, -, h⟩ := Outcome.bind_eq_ok.mp h
  cases Outcome.pure_eq_ok.mp h
  refine ⟨rfl, rfl, ?_⟩
  intro w hw k inv hk hsame
  rw [Outcome.reject_eq_ok, hw] at hu
  simp only [Option.isSome_some, Bool.true_and, Option.isSome_eq_false_iff,
    Option.isNone_iff_eq_none] at hu
  have := Table.find?_none hu hk
  simp [hsame] at this

/-- The statements of a successful `createWithCariMovement`, each on the database that the one
before it leaves. -/
structure InvoiceSteps (clock : Clock) (db : Db) (invoice : InvoiceEntity) (offset : Option ℚ)
    (db' : Db) (r : CreateInvoiceTransactionResult) where
  customer : Customer
  totals : InvoiceTotals
  opened : Db
  accountId : Uuid
  account : CurrentAccount
  advancePaid : ℚ
  numbered : Db
  number : String
  gibNumber : Option String
  row : Invoice
  inserted : Db
  snapshot : Db
  offsetted : Db
  debited : Db
  newBalance : ℤ
  debit : ℤ
  found : db.liveCustomer? invoice.tenantId invoice.customerId = some customer
  checked : checkWorkOrder db invoice = .ok ()
  totals_eq : invoiceTotals db invoice = .ok totals
  opens : findOrCreateAccount db invoice.tenantId invoice.customerId =
    .ok (opened, accountId, account)
  advance_eq : advancePaid = advanceOffset account.balance totals.grandTotal offset
  numbers : allocateNumber clock opened invoice = .ok (numbered, number, gibNumber)
  row_eq : invoiceRow invoice totals advancePaid number gibNumber = .ok row
  inserts : insertInvoice numbered row = .ok (inserted, r.invoiceId)
  snapshots : (effectiveItems db invoice).foldlM (snapshotItem r.invoiceId) inserted = .ok snapshot
  offsets : recordAdvanceOffset snapshot invoice r.invoiceId advancePaid = .ok offsetted
  debits : debitAccount offsetted accountId totals.grandTotal = .ok (debited, newBalance)
  debit_eq : numeric 12 totals.grandTotal = .ok debit
  db_eq : db' = completeWorkOrder clock (debited.addCariMovement
    { tenantId := invoice.tenantId, currentAccountId := accountId, referenceType := .invoice,
      debit, credit := 0, balanceAfter := newBalance }) invoice.workOrderId

theorem createWithCariMovement_steps {clock : Clock} {db db' : Db} {invoice : InvoiceEntity}
    {offset : Option ℚ} {r : CreateInvoiceTransactionResult}
    (h : createWithCariMovement clock db invoice offset = .ok (db', r)) :
    Nonempty (InvoiceSteps clock db invoice offset db' r) := by
  obtain ⟨customer, hcustomer, h₁⟩ := Outcome.bind_eq_ok.mp h
  obtain ⟨⟨⟩, hchecked, h₂⟩ := Outcome.bind_eq_ok.mp h₁
  obtain ⟨totals, htotals, h₃⟩ := Outcome.bind_eq_ok.mp h₂
  obtain ⟨⟨opened, accountId, account⟩, hopened, h₄⟩ := Outcome.bind_eq_ok.mp h₃
  obtain ⟨u, -, h₅⟩ := Outcome.bind_eq_ok.mp h₄
  obtain ⟨⟨numbered, number, gibNumber⟩, hnumber, h₆⟩ := Outcome.bind_eq_ok.mp h₅
  obtain ⟨row, hrow, h₇⟩ := Outcome.bind_eq_ok.mp h₆
  obtain ⟨⟨inserted, invoiceId⟩, hinsert, h₈⟩ := Outcome.bind_eq_ok.mp h₇
  obtain ⟨snapshot, hsnapshot, h₉⟩ := Outcome.bind_eq_ok.mp h₈
  obtain ⟨offsetted, hoffset, h₁₀⟩ := Outcome.bind_eq_ok.mp h₉
  obtain ⟨⟨debited, newBalance⟩, hdebited, h₁₁⟩ := Outcome.bind_eq_ok.mp h₁₀
  obtain ⟨debit, hdebit, hlast⟩ := Outcome.bind_eq_ok.mp h₁₁
  clear h h₁ h₂ h₃ h₄ h₅ h₆ h₇ h₈ h₉ h₁₀ h₁₁
  cases Outcome.pure_eq_ok.mp hlast
  exact ⟨
    { customer, totals, opened, accountId, account
      advancePaid := advanceOffset account.balance totals.grandTotal offset
      numbered, number, gibNumber, row, inserted, snapshot, offsetted, debited, newBalance, debit
      found := Outcome.required_eq_ok.mp hcustomer, checked := hchecked, totals_eq := htotals
      opens := hopened, advance_eq := rfl, numbers := hnumber, row_eq := hrow, inserts := hinsert
      snapshots := hsnapshot, offsets := hoffset, debits := hdebited, debit_eq := hdebit
      db_eq := rfl }⟩

theorem InvoiceSteps.total {clock : Clock} {db db' : Db} {invoice : InvoiceEntity}
    {offset : Option ℚ} {r : CreateInvoiceTransactionResult}
    (s : InvoiceSteps clock db invoice offset db' r) :
    0 ≤ s.debit ∧ s.debit < 10 ^ 12 ∧ s.totals.grandTotal = toNumber s.debit := by
  obtain ⟨g, hg, hgrand⟩ := invoiceTotals_ok s.totals_eq
  have hdebit := s.debit_eq
  rw [hgrand] at hdebit
  have hsame : s.debit = g := numeric_toNumber_ok hdebit
  rw [hsame]
  exact ⟨hg, hsame ▸ (abs_lt.mp (numeric_eq_ok.mp hdebit).2).2, hgrand⟩

/-- The state in which the account is debited. -/
theorem InvoiceSteps.offsetted_eq {clock : Clock} {db db' : Db} {invoice : InvoiceEntity}
    {offset : Option ℚ} {r : CreateInvoiceTransactionResult}
    (s : InvoiceSteps clock db invoice offset db' r) :
    r.invoiceId = db.invoices.next ∧
      ∃ opened seqs rows, ∃ payment : Option Payment,
        AccountFound db.currentAccounts opened invoice.tenantId invoice.customerId s.accountId
          s.account ∧
        (∀ w, s.row.workOrderId = some w → ∀ k inv, db.invoices.get? k = some inv →
          inv.workOrderId ≠ some w) ∧
        (∀ p, payment = some p → OffsetPayment invoice db.invoices.next s.advancePaid p) ∧
        (payment = none → ¬ 0 < s.advancePaid) ∧
        s.offsetted = { db with
          currentAccounts := opened
          documentSequences := seqs
          invoices := db.invoices.insert s.row
          invoiceItems := rows
          payments := payment.elim db.payments db.payments.insert } := by
  obtain ⟨opened, hopened, hfound⟩ := findOrCreateAccount_ok s.opens
  obtain ⟨seqs, hnumbered⟩ := allocateNumber_frame s.numbers
  obtain ⟨hid, hinserted, hfree⟩ := insertInvoice_ok s.inserts
  obtain ⟨rows, hsnapshot⟩ := snapshotItems_frame s.snapshots
  obtain ⟨payment, hoffsetted, hsome, hnone⟩ := recordAdvanceOffset_ok s.offsets
  rw [hopened] at hnumbered
  rw [hnumbered] at hinserted hid hfree
  rw [hinserted] at hsnapshot
  rw [hsnapshot] at hoffsetted
  rw [hid] at hsome
  exact ⟨hid, opened, seqs, rows, payment, hfound, hfree, hsome, hnone, hoffsetted⟩

theorem InvoiceSteps.issued {clock : Clock} {db db' : Db} {invoice : InvoiceEntity}
    {offset : Option ℚ} {r : CreateInvoiceTransactionResult}
    (s : InvoiceSteps clock db invoice offset db' r) :
    Nonempty (InvoiceIssued clock db invoice offset db') ∧ r.invoiceId = db.invoices.next := by
  obtain ⟨hg, hlt, hgrand⟩ := s.total
  obtain ⟨hid, opened, seqs, rows, payment, hfound, hfree, hsome, hnone, hoffsetted⟩ :=
    s.offsetted_eq
  have hstored := invoiceRow_ok s.row_eq
  have hadvance := s.advance_eq
  rw [hgrand] at hadvance
  have hdebits := s.debits
  rw [hgrand] at hdebits
  obtain ⟨a, ha, hbalance, hdebited⟩ := debitAccount_ok hdebits
  rw [hoffsetted] at ha hdebited
  have hsame : a = s.account := Option.some.inj (ha.symm.trans hfound.get.1)
  have hdb := s.db_eq
  rw [hdebited, hbalance, hsame] at hdb
  have htotal := hstored.grandTotal
  have hpaid := (numeric_eq_ok.mp hstored.paidAmount).1.symm
  have hremaining := (numeric_eq_ok.mp hstored.remainingAmount).1.symm
  have hstatus := hstored.status
  rw [hgrand] at htotal hremaining hstatus
  rw [hadvance] at hpaid hremaining hstatus hsome hnone
  exact ⟨⟨
    { opened, accountId := s.accountId, account := s.account, total := s.debit, row := s.row
      payment, checked := s.checked, found := hfound, total_nonneg := hg, total_lt := hlt
      total_eq := ⟨s.totals, s.totals_eq, hgrand⟩, tenantId_eq := hstored.tenantId
      customerId_eq := hstored.customerId, workOrderId_eq := hstored.workOrderId
      grandTotal_eq := numeric_toNumber_ok htotal, paidAmount_eq := hpaid
      remainingAmount_eq := hremaining, status_eq := hstatus
      payment_some := hsome, payment_none := hnone
      order_free := fun w hw => hfree w (hstored.workOrderId.trans hw)
      invoices := (congrArg Db.invoices hdb :)
      payments := (congrArg Db.payments hdb :)
      accounts := (congrArg Db.currentAccounts hdb :)
      movements := (congrArg Db.cariMovements hdb :)
      attempts := (congrArg Db.paymentAttempts hdb :)
      workOrders := (congrArg Db.workOrders hdb :)
      items := (congrArg Db.workOrderItems hdb :)
      products := (congrArg Db.products hdb :)
      stockMovements := (congrArg Db.stockMovements hdb :)
      appointments := (congrArg Db.appointments hdb :) }⟩, hid⟩

theorem createWithCariMovement_ok {clock : Clock} {db db' : Db} {invoice : InvoiceEntity}
    {offset : Option ℚ} {r : CreateInvoiceTransactionResult}
    (h : createWithCariMovement clock db invoice offset = .ok (db', r)) :
    Nonempty (InvoiceIssued clock db invoice offset db') := by
  obtain ⟨s⟩ := createWithCariMovement_steps h
  exact s.issued.1

theorem createWithCariMovement_invoice {clock : Clock} {db db' : Db} {invoice : InvoiceEntity}
    {offset : Option ℚ} {r : CreateInvoiceTransactionResult}
    (h : createWithCariMovement clock db invoice offset = .ok (db', r)) :
    ∃ row, db'.invoice? invoice.tenantId r.invoiceId = some row := by
  obtain ⟨s⟩ := createWithCariMovement_steps h
  obtain ⟨⟨hissued⟩, hid⟩ := s.issued
  refine ⟨hissued.row, Db.invoice?_eq_some.mpr ⟨?_, hissued.tenantId_eq⟩⟩
  rw [hid, hissued.invoices]
  exact Table.get?_insert_self _ _

end Issue

section Void

/-- A successful `cancelWithCariReversal`. -/
structure InvoiceVoided (db : Db) (tenantId id : Uuid) (db' : Db) where
  existing : Invoice
  found : db.invoice? tenantId id = some existing
  live : existing.status ≠ .cancelled
  invoices : db'.invoices = db.invoices.modify id cancelInvoiceRow
  posted :
    (db.currentAccountOf? tenantId existing.customerId = none ∧
      db'.currentAccounts = db.currentAccounts ∧ db'.cariMovements = db.cariMovements ∧
      db'.payments = db.payments) ∨
    ∃ accountId account balance,
      db.currentAccountOf? tenantId existing.customerId = some (accountId, account) ∧
      balance = max 0 (account.totalDebits - existing.grandTotal) - account.totalCredits ∧
      (db'.currentAccounts = db.currentAccounts.modify accountId fun a =>
        { a with
          totalDebits := max 0 (account.totalDebits - existing.grandTotal)
          balance := balance }) ∧
      db'.cariMovements = db.cariMovements.insert
        { tenantId, currentAccountId := accountId, referenceType := .invoice, debit := 0,
          credit := existing.grandTotal, balanceAfter := balance } ∧
      db'.payments = db.payments.modifyIf
        (fun _ p => p.invoiceId = some id ∧ p.tenantId = tenantId)
        (carryToAdvance existing.invoiceNumber)
  attempts : db'.paymentAttempts = db.paymentAttempts
  workOrders : db'.workOrders = existing.workOrderId.elim db.workOrders fun w =>
    db.workOrders.modify w WorkOrder.reopen
  items : db'.workOrderItems = db.workOrderItems
  products : db'.products = db.products
  stockMovements : db'.stockMovements = db.stockMovements
  appointments : db'.appointments = db.appointments

theorem reopenWorkOrder_ok {db db' : Db} {w : Option Uuid} (h : reopenWorkOrder db w = .ok db') :
    db' = { db with
      workOrders := w.elim db.workOrders fun id => db.workOrders.modify id WorkOrder.reopen } := by
  cases w with
  | none => exact (Outcome.pure_eq_ok.mp h).symm
  | some id =>
    obtain ⟨wo, -, h⟩ := Outcome.bind_eq_ok.mp h
    exact (Outcome.pure_eq_ok.mp h).symm

/-- A customer without an account has nothing reversed. -/
theorem reverseDebit_cases {db db' : Db} {tenantId id : Uuid} {cancelled : Invoice}
    (h : reverseDebit db tenantId id cancelled = .ok db') :
    (db.currentAccountOf? tenantId cancelled.customerId = none ∧ db' = db) ∨
      ∃ accountId account totalDebits balance,
        db.currentAccountOf? tenantId cancelled.customerId = some (accountId, account) ∧
        numeric 12 (max 0 (toNumber account.totalDebits - toNumber cancelled.grandTotal)) =
          .ok totalDebits ∧
        numeric 12 (max 0 (toNumber account.totalDebits - toNumber cancelled.grandTotal) -
          toNumber account.totalCredits) = .ok balance ∧
        db' =
          let reversed := (db.setAccount accountId fun a =>
            { a with totalDebits, balance }).addCariMovement
              { tenantId, currentAccountId := accountId, referenceType := .invoice, debit := 0,
                credit := cancelled.grandTotal, balanceAfter := balance }
          { reversed with
            payments := reversed.payments.modifyIf
              (fun _ p => p.invoiceId = some id ∧ p.tenantId = tenantId)
              (carryToAdvance cancelled.invoiceNumber) } := by
  unfold reverseDebit at h
  split at h
  · next hnone => exact .inl ⟨hnone, (Outcome.pure_eq_ok.mp h).symm⟩
  · next accountId account hsome =>
    obtain ⟨totalDebits, hdebits, h₁⟩ := Outcome.bind_eq_ok.mp h
    obtain ⟨balance, hbalance, h₂⟩ := Outcome.bind_eq_ok.mp h₁
    exact .inr ⟨accountId, account, totalDebits, balance, hsome, hdebits, hbalance,
      (Outcome.pure_eq_ok.mp h₂).symm⟩

theorem cancelWithCariReversal_steps {db db' : Db} {tenantId id : Uuid}
    (h : cancelWithCariReversal db tenantId id = .ok db') :
    ∃ existing mid, db.invoice? tenantId id = some existing ∧ existing.status ≠ .cancelled ∧
      reverseDebit { db with invoices := db.invoices.modify id cancelInvoiceRow } tenantId id
        existing = .ok mid ∧
      reopenWorkOrder mid existing.workOrderId = .ok db' := by
  obtain ⟨owner, -, h₁⟩ := Outcome.bind_eq_ok.mp h
  obtain ⟨existing, hfound, h₂⟩ := Outcome.bind_eq_ok.mp h₁
  obtain ⟨u, hlive, h₃⟩ := Outcome.bind_eq_ok.mp h₂
  obtain ⟨mid, hreverse, hlast⟩ := Outcome.bind_eq_ok.mp h₃
  rw [Outcome.reject_eq_ok, decide_eq_false_iff_not] at hlive
  exact ⟨existing, mid, Outcome.required_eq_ok.mp hfound, hlive, hreverse, hlast⟩

theorem cancelWithCariReversal_ok {db db' : Db} {tenantId id : Uuid}
    (h : cancelWithCariReversal db tenantId id = .ok db') :
    Nonempty (InvoiceVoided db tenantId id db') := by
  obtain ⟨existing, mid, hfound, hlive, hreverse, hlast⟩ := cancelWithCariReversal_steps h
  obtain rfl := reopenWorkOrder_ok hlast
  obtain ⟨hnone, rfl⟩ | ⟨accountId, account, debits, balance, hsome, hdebits, hbalance, rfl⟩ :=
    reverseDebit_cases hreverse
  · exact ⟨
      { existing, found := hfound, live := hlive, invoices := rfl
        posted := .inl ⟨hnone, rfl, rfl, rfl⟩
        attempts := rfl, workOrders := rfl, items := rfl, products := rfl
        stockMovements := rfl, appointments := rfl }⟩
  · rw [← toNumber_sub, ← toNumber_zero, ← toNumber_max] at hdebits hbalance
    rw [← toNumber_sub] at hbalance
    obtain rfl := numeric_toNumber_ok hdebits
    obtain rfl := numeric_toNumber_ok hbalance
    exact ⟨
      { existing, found := hfound, live := hlive, invoices := rfl
        posted := .inr ⟨accountId, account, _, hsome, rfl, rfl, rfl, rfl⟩
        attempts := rfl, workOrders := rfl, items := rfl, products := rfl
        stockMovements := rfl, appointments := rfl }⟩

end Void

section Collect

/-- What a payment of `amount` cents makes of the invoice it is for. -/
def Invoice.afterPayment (inv : Invoice) (amount : ℤ) : Invoice :=
  { inv with
    paidAmount := inv.paidAmount + amount
    remainingAmount := max 0 (inv.grandTotal - (inv.paidAmount + amount))
    status := if inv.grandTotal - (inv.paidAmount + amount) ≤ 0 then .paid else .partiallyPaid }

/-- A successful `PaymentsService.create` that recorded a new payment. -/
structure PaymentCollected (db : Db) (call : PaymentCall) (customerId : Uuid) (amount : ℤ)
    (db' : Db) where
  opened : Table CurrentAccount
  accountId : Uuid
  account : CurrentAccount
  fresh : call.recorded? db = none
  found : AccountFound db.currentAccounts opened call.tenantId customerId accountId account
  invoices :
    (call.dto.invoiceId = none ∧ db'.invoices = db.invoices) ∨
    ∃ id inv, call.dto.invoiceId = some id ∧ db.invoice? call.tenantId id = some inv ∧
      inv.status ≠ .cancelled ∧ amount ≤ inv.remainingAmount ∧
      db'.invoices = db.invoices.modify id fun _ => inv.afterPayment amount
  payments : db'.payments = db.payments.insert (paymentRow call customerId amount)
  accounts : db'.currentAccounts = opened.modify accountId fun a =>
    { a with totalCredits := a.totalCredits + amount, balance := a.balance - amount }
  movements : db'.cariMovements = db.cariMovements.insert
    { tenantId := call.tenantId, currentAccountId := accountId, referenceType := .payment,
      debit := 0, credit := amount, balanceAfter := account.balance - amount }
  attempts :
    (call.gatewayAttemptId = none ∧ db'.paymentAttempts = db.paymentAttempts) ∨
    ∃ attemptId k attempt, call.gatewayAttemptId = some attemptId ∧
      db.paymentAttempts.find? (fun a => a.id = attemptId) = some (k, attempt) ∧
      db'.paymentAttempts = db.paymentAttempts.modify k fun a => { a with status := .paid }
  workOrders : db'.workOrders = db.workOrders

theorem payInvoice_ok {inv inv' : Invoice} {amount : ℤ}
    (h : payInvoice inv (toNumber amount) = .ok inv') : inv' = inv.afterPayment amount := by
  have hpaid : (round ((toNumber inv.paidAmount + toNumber amount) * 100) : ℚ) / 100 =
      toNumber (inv.paidAmount + amount) := by
    rw [← toNumber_add, toNumber_mul, round_intCast, toNumber]
  obtain ⟨paid, hp, h⟩ := Outcome.bind_eq_ok.mp h
  obtain ⟨remaining, hr, h⟩ := Outcome.bind_eq_ok.mp h
  rw [hpaid] at hp hr
  rw [← toNumber_sub, ← toNumber_zero, ← toNumber_max] at hr
  obtain rfl := numeric_toNumber_ok hp
  obtain rfl := numeric_toNumber_ok hr
  rw [← Outcome.pure_eq_ok.mp h, hpaid, ← toNumber_sub, ← toNumber_zero]
  simp only [toNumber_le, Invoice.afterPayment]

theorem checkOpenBalance_ok {db : Db} {call : PaymentCall} {amount : ℤ}
    (hamount : call.dto.amount = toNumber amount) (h : checkOpenBalance db call = .ok ()) :
    ∀ id, call.dto.invoiceId = some id → ∃ inv, db.invoice? call.tenantId id = some inv ∧
      inv.status ≠ .cancelled ∧ amount ≤ inv.remainingAmount := by
  intro id hid
  simp only [checkOpenBalance, hid, Outcome.reject_eq_ok] at h
  cases hinv : db.invoice? call.tenantId id with
  | none => simp [hinv] at h
  | some inv =>
    simp only [hinv, hamount, toNumber_lt, decide_eq_false_iff_not, not_or, not_lt] at h
    exact ⟨inv, rfl, h.1, h.2⟩

theorem applyToInvoice_cases {db db' : Db} {t : Uuid} {invoiceId : Option Uuid} {amount : ℚ}
    (h : applyToInvoice db t invoiceId amount = .ok db') :
    ((∀ id, invoiceId = some id → db.invoice? t id = none) ∧ db' = db) ∨
      ∃ id inv paid, invoiceId = some id ∧ db.invoice? t id = some inv ∧
        payInvoice inv amount = .ok paid ∧
        db' = { db with invoices := db.invoices.modify id fun _ => paid } := by
  unfold applyToInvoice at h
  split at h
  · exact .inl ⟨by simp, (Outcome.pure_eq_ok.mp h).symm⟩
  · next id =>
    split at h
    · next hnone =>
      refine .inl ⟨?_, (Outcome.pure_eq_ok.mp h).symm⟩
      rintro _ ⟨⟩
      exact hnone
    · next inv hsome =>
      obtain ⟨paid, hpaid, h₁⟩ := Outcome.bind_eq_ok.mp h
      exact .inr ⟨id, inv, paid, rfl, hsome, hpaid, (Outcome.pure_eq_ok.mp h₁).symm⟩

theorem applyToInvoice_ok {db db' : Db} {t : Uuid} {id : Option Uuid} {amount : ℤ}
    (h : applyToInvoice db t id (toNumber amount) = .ok db') :
    ∃ invoices, db' = { db with invoices := invoices } ∧
      (id = none → invoices = db.invoices) ∧
      ∀ i inv, id = some i → db.invoice? t i = some inv →
        invoices = db.invoices.modify i fun _ => inv.afterPayment amount := by
  obtain ⟨hnone, rfl⟩ | ⟨i, inv, paid, rfl, hsome, hpaid, rfl⟩ := applyToInvoice_cases h
  · refine ⟨db'.invoices, rfl, fun _ => rfl, fun i inv hi hinv => ?_⟩
    rw [hnone i hi] at hinv
    cases hinv
  · obtain rfl := payInvoice_ok hpaid
    refine ⟨_, rfl, by simp, ?_⟩
    intro j inv' hj hinv
    cases hj
    cases hsome.symm.trans hinv
    rfl

theorem markAttemptPaid_ok {db db' : Db} {attemptId : Option String}
    (h : markAttemptPaid db attemptId = .ok db') :
    ∃ attempts, db' = { db with paymentAttempts := attempts } ∧
      ((attemptId = none ∧ attempts = db.paymentAttempts) ∨
        ∃ id k attempt, attemptId = some id ∧
          db.paymentAttempts.find? (fun a => a.id = id) = some (k, attempt) ∧
          attempts = db.paymentAttempts.modify k fun a => { a with status := .paid }) := by
  cases attemptId with
  | none =>
    cases Outcome.pure_eq_ok.mp h
    exact ⟨db.paymentAttempts, rfl, .inl ⟨rfl, rfl⟩⟩
  | some id =>
    obtain ⟨⟨k, attempt⟩, hk, h⟩ := Outcome.bind_eq_ok.mp h
    cases Outcome.pure_eq_ok.mp h
    exact ⟨_, rfl, .inr ⟨id, k, attempt, rfl, Outcome.required_eq_ok.mp hk, rfl⟩⟩

/-- The statements of a successful `collectPayment`, each on the database that the one before
it leaves. -/
structure PaymentSteps (db : Db) (call : PaymentCall) (customerId : Uuid) (db' : Db)
    (id : Uuid) where
  amount : ℤ
  inserted : Db
  applied : Db
  opened : Db
  accountId : Uuid
  account : CurrentAccount
  credited : Db
  newBalance : ℤ
  credit : ℤ
  checked : checkOpenBalance db call = .ok ()
  amount_eq : numeric 12 call.dto.amount = .ok amount
  inserts : insertPayment db (paymentRow call customerId amount) = .ok (inserted, id)
  applies : applyToInvoice inserted call.tenantId call.dto.invoiceId call.dto.amount = .ok applied
  opens : findOrCreateAccount applied call.tenantId customerId = .ok (opened, accountId, account)
  credits : creditAccount opened accountId call.dto.amount = .ok (credited, newBalance)
  credit_eq : numeric 12 call.dto.amount = .ok credit
  marks : markAttemptPaid (credited.addCariMovement
    { tenantId := call.tenantId, currentAccountId := accountId, referenceType := .payment,
      debit := 0, credit, balanceAfter := newBalance }) call.gatewayAttemptId = .ok db'

theorem collectPayment_steps {db db' : Db} {call : PaymentCall} {customerId id : Uuid}
    (h : collectPayment db call customerId = .ok (db', id)) :
    Nonempty (PaymentSteps db call customerId db' id) := by
  obtain ⟨⟨⟩, hopen, h₁⟩ := Outcome.bind_eq_ok.mp h
  obtain ⟨amount, hamount, h₂⟩ := Outcome.bind_eq_ok.mp h₁
  obtain ⟨⟨inserted, paymentId⟩, hinsert, h₃⟩ := Outcome.bind_eq_ok.mp h₂
  obtain ⟨applied, happly, h₄⟩ := Outcome.bind_eq_ok.mp h₃
  obtain ⟨⟨opened, accountId, account⟩, hopened, h₅⟩ := Outcome.bind_eq_ok.mp h₄
  obtain ⟨⟨credited, newBalance⟩, hcredited, h₆⟩ := Outcome.bind_eq_ok.mp h₅
  obtain ⟨credit, hcredit, h₇⟩ := Outcome.bind_eq_ok.mp h₆
  obtain ⟨marked, hmark, hlast⟩ := Outcome.bind_eq_ok.mp h₇
  cases Outcome.pure_eq_ok.mp hlast
  exact ⟨
    { amount, inserted, applied, opened, accountId, account, credited, newBalance, credit
      checked := hopen, amount_eq := hamount, inserts := hinsert, applies := happly
      opens := hopened, credits := hcredited, credit_eq := hcredit, marks := hmark }⟩

theorem collectPayment_ok {db db' : Db} {call : PaymentCall} {customerId id : Uuid}
    {amount : ℤ} (hamount : call.dto.amount = toNumber amount)
    (hfresh : call.recorded? db = none)
    (h : collectPayment db call customerId = .ok (db', id)) :
    Nonempty (PaymentCollected db call customerId amount db') := by
  obtain ⟨⟨stored, inserted, applied, opened, accountId, account, credited, newBalance, credit,
    hopen, hstored, hinsert, happly, hopened, hcredit, hcreditCents, hmark⟩⟩ :=
      collectPayment_steps h
  rw [hamount] at hstored happly hcredit hcreditCents
  obtain rfl := numeric_toNumber_ok hstored
  obtain rfl := numeric_toNumber_ok hcreditCents
  obtain ⟨rfl, rfl, -⟩ := insertPayment_ok hinsert
  obtain ⟨invoices, rfl, hnone, hsome⟩ := applyToInvoice_ok happly
  obtain ⟨accounts, rfl, hfound⟩ := findOrCreateAccount_ok hopened
  obtain ⟨a, ha, rfl, rfl⟩ := creditAccount_ok hcredit
  obtain ⟨attempts, rfl, hattempts⟩ := markAttemptPaid_ok hmark
  obtain rfl : a = account := by
    have hsame := ha.symm.trans hfound.get.1
    exact Option.some.inj hsame
  refine ⟨
    { opened := accounts, accountId, account := a, fresh := hfresh, found := hfound
      invoices := ?_, payments := rfl, accounts := rfl, movements := rfl
      attempts := hattempts, workOrders := rfl }⟩
  cases hid : call.dto.invoiceId with
  | none => exact .inl ⟨rfl, hnone hid⟩
  | some i =>
    obtain ⟨inv, hinv, hlive, hle⟩ := checkOpenBalance_ok hamount hopen i hid
    exact .inr ⟨i, inv, rfl, hinv, hlive, hle, hsome i inv hid hinv⟩

theorem collectPayment_id {db db' : Db} {call : PaymentCall} {customerId id : Uuid}
    (h : collectPayment db call customerId = .ok (db', id)) : id = db.payments.next := by
  obtain ⟨s⟩ := collectPayment_steps h
  exact (insertPayment_ok s.inserts).1

end Collect

end WorksAuto
