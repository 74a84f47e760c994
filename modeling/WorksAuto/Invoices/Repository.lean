import WorksAuto.Invoices.Totals
import WorksAuto.Store

/-! The invoice repository: creation with its debit to the current account, and
cancellation with the reversal of that debit. Both are one transaction under
the customer's advisory lock, so each is a function of the whole database. -/

namespace WorksAuto

open Lib

/-- The entity a new invoice is created from. `none` in a total stands for a
value that is not a finite number. -/
structure InvoiceEntity where
  tenantId : Uuid
  workOrderId : Option Uuid
  customerId : Uuid
  invoiceNumber : String
  issueDate : Instant
  dueDate : Instant
  subtotal : Option ℚ
  kdvAmount : Option ℚ
  grandTotal : Option ℚ
  gibInvoiceNumber : Option String
  eInvoiceStatus : Option String
  eInvoiceUuid : Option String
  profileId : Option String
  invoiceTypeCode : String
  notes : Option String
  items : Option (List InvoiceLine)
  deriving DecidableEq, Repr

structure CreateInvoiceTransactionResult where
  invoiceId : Uuid
  newBalance : ℚ
  creditLimit : ℚ
  customerName : String
  customerEmail : Option String
  customerPhone : String
  tenantTitle : String
  deriving DecidableEq, Repr

def Db.activeInvoiceOf? (db : Db) (tenantId workOrderId : Uuid) : Option (Uuid × Invoice) :=
  db.invoices.find? fun inv =>
    inv.workOrderId = some workOrderId ∧ inv.tenantId = tenantId ∧ inv.status ≠ .cancelled

/-- The order an invoice is linked to belongs to the tenant and the customer, is
not cancelled and has no active invoice. -/
def checkWorkOrder (db : Db) (invoice : InvoiceEntity) : Outcome Unit :=
  match invoice.workOrderId with
  | none => pure ()
  | some id => do
    let workOrder ← Outcome.required (db.workOrder? invoice.tenantId id)
      (.badRequest "Faturanın ait olduğu iş emri bulunamadı veya bu işletmeye ait değil.")
    Outcome.reject (workOrder.customerId ≠ invoice.customerId)
      (.badRequest "İş emri ile faturanın müşterisi aynı olmalıdır.")
    Outcome.reject (workOrder.status = .cancelled)
      (.badRequest "İptal edilmiş bir iş emrine fatura kesilemez.")
    match db.activeInvoiceOf? invoice.tenantId id with
    | none => pure ()
    | some (_, existing) =>
      .error (.badRequest
        ("Bu iş emrine ait aktif bir fatura (" ++ existing.invoiceNumber ++
          ") zaten mevcuttur."))

def fallbackSubtotal (invoice : InvoiceEntity) : ℚ :=
  match invoice.subtotal with
  | some s => if s = 0 then fromGrandTotal else s
  | none => fromGrandTotal
where
  fromGrandTotal : ℚ :=
    let quotient := Double.nearest (invoice.grandTotal.getD 0) / Double.nearest (12 / 10)
    toNumber (mathRoundCents quotient)

def effectiveItems (db : Db) (invoice : InvoiceEntity) : List InvoiceLine :=
  let given := invoice.items.getD []
  let linked := match invoice.workOrderId with
    | some id => (db.itemsOf id).map fun it => InvoiceLine.ofWorkOrderItem it.2
    | none => []
  let lines := if given.isEmpty then linked else given
  if lines.isEmpty then
    [{ itemType := none, name := "Genel Servis & Bakım Bedeli", quantity := 1,
       unitPrice := fallbackSubtotal invoice, kdvRate := some 20, notes := none }]
  else lines

/-- A total stated in the request may differ from the lines by three cents; the
lines decide. -/
def reconcileTotal (stated : Option ℚ) (total : ℚ) : Outcome ℚ :=
  match stated with
  | none => pure total
  | some x => do
    Outcome.reject (3 < |mathRoundCents x - mathRoundCents total|)
      (.badRequest "Fatura toplamları kalemler ile uyuşmuyor.")
    pure total

def invoiceTotals (db : Db) (invoice : InvoiceEntity) : Outcome InvoiceTotals := do
  let totals ← Outcome.asBadRequest (calculateInvoiceTotals (effectiveItems db invoice))
  let subtotal ← reconcileTotal invoice.subtotal totals.subtotal
  let kdvAmount ← reconcileTotal invoice.kdvAmount totals.kdvAmount
  let grandTotal ← reconcileTotal invoice.grandTotal totals.grandTotal
  pure { subtotal, kdvAmount, grandTotal }

def advanceOffset (balance : ℤ) (grandTotal : ℚ) (offsetAdvanceAmount : Option ℚ) : ℚ :=
  match offsetAdvanceAmount with
  | none => 0
  | some offset =>
    if 0 < offset ∧ toNumber balance < 0 then
      min grandTotal (min |toNumber balance| offset)
    else 0

def initialStatus (initialRemaining advancePaid : ℚ) : InvoiceStatus :=
  if initialRemaining ≤ 0 then .paid
  else if 0 < advancePaid then .partiallyPaid
  else .unpaid

/-- The number stated in the entity, or the next one of the tenant's sequence. -/
def allocateNumber (clock : Clock) (db : Db) (invoice : InvoiceEntity) :
    Outcome (Db × String × Option String) :=
  if invoice.invoiceNumber = "" ∨ invoice.invoiceNumber = "PENDING" then do
    let (db, n) ← nextDocumentNumber db invoice.tenantId .invoice clock.year
    pure (db, "INV-" ++ Nat.repr clock.year ++ "-" ++ padStart n 5,
      some ("GIB" ++ Nat.repr clock.year ++ padStart n 9))
  else pure (db, invoice.invoiceNumber, invoice.gibInvoiceNumber)

/-- `invoice.create`: an order has one invoice row, a number is used once per tenant. -/
def insertInvoice (db : Db) (row : Invoice) : Outcome (Db × Uuid) := do
  Outcome.reject
    (row.workOrderId.isSome &&
      (db.invoices.find? fun inv => inv.workOrderId = row.workOrderId).isSome)
    (.database "P2002")
  Outcome.reject
    (db.invoices.find? fun inv =>
      inv.tenantId = row.tenantId ∧ inv.invoiceNumber = row.invoiceNumber).isSome
    (.database "P2002")
  pure ({ db with invoices := db.invoices.insert row }, db.invoices.next)

def snapshotItem (invoiceId : Uuid) (db : Db) (item : InvoiceLine) : Outcome Db := do
  let quantity ← int4 item.quantity.num
  let unitPrice ← numeric 10 item.unitPrice
  let kdvRate ← numeric 4 item.rate
  let totalPrice ← numeric 12 (toNumber (item.cents .double))
  let row : InvoiceItem :=
    { invoiceId, itemType := item.itemType.getD .service,
      name := if item.name = "" then "Hizmet / Kalem" else item.name,
      quantity, unitPrice, kdvRate, totalPrice,
      notes := item.notes.filter (· ≠ "") }
  pure { db with invoiceItems := db.invoiceItems.insert row }

/-- `payment.create`: a gateway transaction is recorded once per tenant. -/
def insertPayment (db : Db) (row : Payment) : Outcome (Db × Uuid) := do
  Outcome.reject
    (row.gatewayProvider.isSome && row.transactionId.isSome &&
      (db.payments.find? fun p =>
        p.tenantId = row.tenantId ∧ p.gatewayProvider = row.gatewayProvider ∧
          p.transactionId = row.transactionId).isSome)
    (.database "P2002")
  pure ({ db with payments := db.payments.insert row }, db.payments.next)

def recordAdvanceOffset (db : Db) (invoice : InvoiceEntity) (invoiceId : Uuid)
    (advancePaid : ℚ) : Outcome Db :=
  if 0 < advancePaid then do
    let amount ← numeric 12 advancePaid
    let row : Payment :=
      { tenantId := invoice.tenantId, invoiceId := some invoiceId,
        customerId := invoice.customerId, amount, paymentMethod := .advanceOffset,
        cashierName := "Sistem (Cari Avans Mahsubu)", posSlipNo := none,
        notes := some ("Fatura #" ++ invoice.invoiceNumber ++ " için müşteri cari avansından " ++
          trLocale advancePaid ++ " ₺ mahsup edildi."),
        gatewayProvider := none, transactionId := none }
    let (db, _) ← insertPayment db row
    pure db
  else pure db

def WorkOrder.complete (clock : Clock) (wo : WorkOrder) : WorkOrder :=
  { wo with status := .completed, completedAt := some clock.now }

def WorkOrder.reopen (wo : WorkOrder) : WorkOrder :=
  { wo with status := .inProgress, completedAt := none }

def completeWorkOrder (clock : Clock) (db : Db) (workOrderId : Option Uuid) : Db :=
  { db with
    workOrders := workOrderId.elim db.workOrders fun id =>
      db.workOrders.modify id (WorkOrder.complete clock) }

def customerDisplayName (c : Customer) : String :=
  (firstText [c.companyTitle, some (jsTrim (c.firstName ++ " " ++ c.lastName))]).getD "Müşteri"

def invoiceRow (invoice : InvoiceEntity) (totals : InvoiceTotals) (advancePaid : ℚ)
    (number : String) (gibNumber : Option String) : Outcome Invoice := do
  let initialRemaining := max 0 (jsSub totals.grandTotal advancePaid)
  let subtotal ← numeric 12 totals.subtotal
  let kdvAmount ← numeric 12 totals.kdvAmount
  let grandTotal ← numeric 12 totals.grandTotal
  let paidAmount ← numeric 12 advancePaid
  let remainingAmount ← numeric 12 initialRemaining
  pure
    { tenantId := invoice.tenantId, workOrderId := invoice.workOrderId,
      customerId := invoice.customerId, invoiceNumber := number,
      issueDate := invoice.issueDate, dueDate := invoice.dueDate,
      subtotal, kdvAmount, grandTotal, paidAmount, remainingAmount,
      status := initialStatus initialRemaining advancePaid,
      eInvoiceUuid := invoice.eInvoiceUuid,
      eInvoiceStatus := some ((firstText [invoice.eInvoiceStatus]).getD "COMPLETED"),
      gibInvoiceNumber := gibNumber, profileId := invoice.profileId,
      invoiceTypeCode := if invoice.invoiceTypeCode = "" then "SATIS" else invoice.invoiceTypeCode,
      notes := invoice.notes }

def createWithCariMovement (clock : Clock) (db : Db) (invoice : InvoiceEntity)
    (offsetAdvanceAmount : Option ℚ) : Outcome (Db × CreateInvoiceTransactionResult) := do
  let customer ← Outcome.required (db.liveCustomer? invoice.tenantId invoice.customerId)
    (.badRequest "Faturanın ait olduğu müşteri bulunamadı veya bu işletmeye ait değil.")
  checkWorkOrder db invoice
  let items := effectiveItems db invoice
  let totals ← invoiceTotals db invoice
  let (db, accountId, account) ← findOrCreateAccount db invoice.tenantId invoice.customerId
  Outcome.reject account.isBlocked
    (.badRequest "Bu müşterinin cari hesabı bloke durumdadır. Yeni fatura kesilemez.")
  let advancePaid := advanceOffset account.balance totals.grandTotal offsetAdvanceAmount
  let (db, number, gibNumber) ← allocateNumber clock db invoice
  let row ← invoiceRow invoice totals advancePaid number gibNumber
  let (db, invoiceId) ← insertInvoice db row
  let db ← items.foldlM (snapshotItem invoiceId) db
  let db ← recordAdvanceOffset db invoice invoiceId advancePaid
  let (db, newBalance) ← debitAccount db accountId totals.grandTotal
  let debit ← numeric 12 totals.grandTotal
  let db := db.addCariMovement
    { tenantId := invoice.tenantId, currentAccountId := accountId, referenceType := .invoice,
      debit, credit := 0, balanceAfter := newBalance }
  let db := completeWorkOrder clock db invoice.workOrderId
  pure (db,
    { invoiceId, newBalance := toNumber newBalance, creditLimit := toNumber customer.creditLimit,
      customerName := customerDisplayName customer, customerEmail := customer.email,
      customerPhone := customer.phone,
      tenantTitle := (firstText [(db.tenants.get? invoice.tenantId).map Tenant.title]).getD
        "WorksAuto Servis" })

def carryToAdvance (invoiceNumber : String) (p : Payment) : Payment :=
  { p with notes := match firstText [p.notes] with
      | some notes => some (notes ++ " (Fatura #" ++ invoiceNumber ++
          " iptali nedeniyle avansa aktarıldı)")
      | none => some ("Fatura #" ++ invoiceNumber ++
          " iptali nedeniyle müşteri avansına aktarıldı") }

/-- Take the invoice out of the debits; the payments stay and become an advance. -/
def reverseDebit (db : Db) (tenantId id : Uuid) (cancelled : Invoice) : Outcome Db :=
  match db.currentAccountOf? tenantId cancelled.customerId with
  | none => pure db
  | some (accountId, account) => do
    let newTotalDebits :=
      max 0 (toNumber account.totalDebits - toNumber cancelled.grandTotal)
    let newBalance := newTotalDebits - toNumber account.totalCredits
    let totalDebits ← numeric 12 newTotalDebits
    let balance ← numeric 12 newBalance
    let db := db.setAccount accountId fun a => { a with totalDebits, balance }
    let db := db.addCariMovement
      { tenantId, currentAccountId := accountId, referenceType := .invoice, debit := 0,
        credit := cancelled.grandTotal, balanceAfter := balance }
    let attached (_ : Uuid) (p : Payment) : Bool :=
      p.invoiceId = some id ∧ p.tenantId = tenantId
    pure { db with
      payments := db.payments.modifyIf attached (carryToAdvance cancelled.invoiceNumber) }

def reopenWorkOrder (db : Db) (workOrderId : Option Uuid) : Outcome Db :=
  match workOrderId with
  | none => pure db
  | some id => do
    let _ ← Outcome.required (db.workOrders.get? id) (.database "P2025")
    pure { db with workOrders := db.workOrders.modify id WorkOrder.reopen }

def cancelInvoiceRow (inv : Invoice) : Invoice :=
  { inv with status := .cancelled, remainingAmount := 0, workOrderId := none }

def cancelWithCariReversal (db : Db) (tenantId id : Uuid) : Outcome Db := do
  let _ ← Outcome.required (db.invoice? tenantId id) (.notFound "Fatura bulunamadı.")
  let existing ← Outcome.required (db.invoice? tenantId id)
    (.notFound "Fatura bulunamadı veya bu işletmeye ait değil.")
  Outcome.reject (existing.status = .cancelled)
    (.badRequest "Bu fatura zaten iptal edilmiştir.")
  let db := { db with invoices := db.invoices.modify id cancelInvoiceRow }
  let db ← reverseDebit db tenantId id existing
  reopenWorkOrder db existing.workOrderId

structure EInvoiceDetails where
  eInvoiceUuid : Option String
  gibInvoiceNumber : Option String
  eInvoiceStatus : Option String
  profileId : Option String
  notes : Option String
  deriving DecidableEq, Repr

def EInvoiceDetails.apply (d : EInvoiceDetails) (inv : Invoice) : Invoice :=
  { inv with
    eInvoiceUuid := d.eInvoiceUuid.orElse fun _ => inv.eInvoiceUuid
    gibInvoiceNumber := d.gibInvoiceNumber.orElse fun _ => inv.gibInvoiceNumber
    eInvoiceStatus := d.eInvoiceStatus.orElse fun _ => inv.eInvoiceStatus
    profileId := d.profileId.orElse fun _ => inv.profileId
    notes := d.notes.orElse fun _ => inv.notes }

def updateEInvoiceDetails (db : Db) (tenantId id : Uuid) (d : EInvoiceDetails) : Outcome Db := do
  let _ ← Outcome.required (db.invoice? tenantId id) (.database "P2025")
  pure { db with invoices := db.invoices.modify id d.apply }

end WorksAuto
