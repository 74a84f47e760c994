import WorksAuto.Invoices.UseCases

/-! The transaction of a new invoice, in the order of its locks.
Under the lock of its customer it looks up what the invoice needs. The upsert
that draws the number takes the lock of the sequence row. What is written after
that becomes visible with the commit. -/

namespace WorksAuto

open Lib

structure PreparedInvoice where
  customer : Customer
  items : List InvoiceLine
  totals : InvoiceTotals
  advancePaid : ℚ

def prepareInvoice (db : Db) (invoice : InvoiceEntity) (offsetAdvanceAmount : Option ℚ) :
    Outcome PreparedInvoice := do
  let customer ← Outcome.required (db.liveCustomer? invoice.tenantId invoice.customerId)
    (.badRequest "Faturanın ait olduğu müşteri bulunamadı veya bu işletmeye ait değil.")
  checkWorkOrder db invoice
  let totals ← invoiceTotals db invoice
  let (_, _, account) ← findOrCreateAccount db invoice.tenantId invoice.customerId
  Outcome.reject account.isBlocked
    (.badRequest "Bu müşterinin cari hesabı bloke durumdadır. Yeni fatura kesilemez.")
  pure
    { customer, items := effectiveItems db invoice, totals
      advancePaid := advanceOffset account.balance totals.grandTotal offsetAdvanceAmount }

def invoiceNumber (year n : ℕ) : String := "INV-" ++ Nat.repr year ++ "-" ++ padStart n 5

def gibInvoiceNumber (year n : ℕ) : String := "GIB" ++ Nat.repr year ++ padStart n 9

structure DrawnNumber where
  number : String
  gibNumber : Option String
  /-- Year and last number of the sequence, unless the invoice states its number. -/
  sequence : Option (ℕ × ℕ)

def InvoiceEntity.isUnnumbered (invoice : InvoiceEntity) : Bool :=
  invoice.invoiceNumber = "" ∨ invoice.invoiceNumber = "PENDING"

def drawNumber (clock : Clock) (db : Db) (invoice : InvoiceEntity) : Outcome DrawnNumber :=
  if invoice.isUnnumbered then do
    let (_, n) ← nextDocumentNumber db invoice.tenantId .invoice clock.year
    pure
      { number := invoiceNumber clock.year n, gibNumber := some (gibInvoiceNumber clock.year n)
        sequence := some (clock.year, n) }
  else
    pure
      { number := invoice.invoiceNumber, gibNumber := invoice.gibInvoiceNumber, sequence := none }

def DrawnNumber.record (d : DrawnNumber) (db : Db) (tenantId : Uuid) : Db :=
  match d.sequence with
  | some (year, n) => db.setLastNumber tenantId .invoice year n
  | none => db

/-- The writes of the transaction, on the database that its commit finds. An account that
it has opened is not there yet. -/
def storeInvoice (clock : Clock) (db : Db) (invoice : InvoiceEntity) (p : PreparedInvoice)
    (d : DrawnNumber) : Outcome (Db × CreateInvoiceTransactionResult) := do
  let (db, accountId, _) ← findOrCreateAccount db invoice.tenantId invoice.customerId
  let db := d.record db invoice.tenantId
  let row ← invoiceRow invoice p.totals p.advancePaid d.number d.gibNumber
  let (db, invoiceId) ← insertInvoice db row
  let db ← p.items.foldlM (snapshotItem invoiceId) db
  let db ← recordAdvanceOffset db invoice invoiceId p.advancePaid
  let (db, newBalance) ← debitAccount db accountId p.totals.grandTotal
  let debit ← numeric 12 p.totals.grandTotal
  let db := db.addCariMovement
    { tenantId := invoice.tenantId, currentAccountId := accountId, referenceType := .invoice,
      debit, credit := 0, balanceAfter := newBalance }
  let db := completeWorkOrder clock db invoice.workOrderId
  pure (db,
    { invoiceId, newBalance := toNumber newBalance, creditLimit := toNumber p.customer.creditLimit,
      customerName := customerDisplayName p.customer, customerEmail := p.customer.email,
      customerPhone := p.customer.phone,
      tenantTitle := (firstText [(db.tenants.get? invoice.tenantId).map Tenant.title]).getD
        "WorksAuto Servis" })

section Whole

variable {clock : Clock} {db db' : Db} {invoice : InvoiceEntity} {d : DrawnNumber}

theorem drawNumber_ok (hunnumbered : invoice.isUnnumbered = true)
    (h : drawNumber clock db invoice = .ok d) :
    ∃ n, n = db.lastNumber invoice.tenantId .invoice clock.year + 1 ∧
      d.number = invoiceNumber clock.year n ∧ d.sequence = some (clock.year, n) := by
  rw [drawNumber, if_pos hunnumbered] at h
  obtain ⟨⟨next, n⟩, hnext, h₁⟩ := Outcome.bind_eq_ok.mp h
  cases Outcome.pure_eq_ok.mp h₁
  exact ⟨n, (nextDocumentNumber_eq_ok hnext).1, rfl, rfl⟩

theorem DrawnNumber.record_frame (d : DrawnNumber) (db : Db) (t : Uuid) :
    d.record db t = { db with documentSequences := (d.record db t).documentSequences } := by
  unfold DrawnNumber.record
  split <;> rfl

theorem allocateNumber_eq (accounts : Table CurrentAccount) :
    allocateNumber clock { db with currentAccounts := accounts } invoice =
      (drawNumber clock db invoice).map fun d =>
        (d.record { db with currentAccounts := accounts } invoice.tenantId, d.number,
          d.gibNumber) := by
  have hnext : nextDocumentNumber { db with currentAccounts := accounts } invoice.tenantId
      .invoice clock.year = (nextDocumentNumber db invoice.tenantId .invoice clock.year).map
        fun r => ({ r.1 with currentAccounts := accounts }, r.2) := by
    unfold nextDocumentNumber
    split
    · next id s hfound =>
      simp only [hfound]
      cases int4 (s.lastNumber + 1) <;> rfl
    · next hnone =>
      simp only [hnone]
      rfl
  unfold allocateNumber drawNumber InvoiceEntity.isUnnumbered
  simp only [decide_eq_true_eq]
  split_ifs
  · rw [hnext]
    cases hdraw : nextDocumentNumber db invoice.tenantId .invoice clock.year with
    | error e => rfl
    | ok r =>
      obtain ⟨-, hset⟩ := nextDocumentNumber_eq_ok hdraw
      simp only [Except.map, bind, Except.bind, pure, Except.pure, DrawnNumber.record, hset]
      rfl
  · rfl

theorem createWithCariMovement_eq (offset : Option ℚ) :
    createWithCariMovement clock db invoice offset =
      (do
        let p ← prepareInvoice db invoice offset
        let d ← drawNumber clock db invoice
        storeInvoice clock db invoice p d) := by
  unfold createWithCariMovement prepareInvoice
  cases Outcome.required (db.liveCustomer? invoice.tenantId invoice.customerId)
    (.badRequest "Faturanın ait olduğu müşteri bulunamadı veya bu işletmeye ait değil.") with
  | error e => rfl
  | ok customer =>
    cases checkWorkOrder db invoice with
    | error e => rfl
    | ok u =>
      cases invoiceTotals db invoice with
      | error e => rfl
      | ok totals =>
        cases hfound : findOrCreateAccount db invoice.tenantId invoice.customerId with
        | error e => rfl
        | ok r =>
          obtain ⟨opened, accountId, account⟩ := r
          obtain ⟨accounts, rfl, -⟩ := findOrCreateAccount_ok hfound
          simp only [bind, Except.bind]
          cases Outcome.reject account.isBlocked
            (.badRequest "Bu müşterinin cari hesabı bloke durumdadır. Yeni fatura kesilemez.") with
          | error e => rfl
          | ok u =>
            simp only [allocateNumber_eq, pure, Except.pure]
            cases drawNumber clock db invoice with
            | error e => rfl
            | ok d =>
              simp only [storeInvoice, hfound, Except.map, bind, Except.bind]
              rfl

end Whole

end WorksAuto
