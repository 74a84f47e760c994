import WorksAuto.Invoices.Repository

/-! Collecting payments.
`PaymentsService.create` reads the gateway payment, the invoice and the customer
before it opens its transaction, and reads the first two again under the
customer's lock. The four parts are separate definitions here, since other
requests run between them. -/

namespace WorksAuto

open Lib

structure CreatePaymentDto where
  invoiceId : Option Uuid
  customerId : Option Uuid
  amount : ℚ
  paymentMethod : Option PaymentMethod
  method : Option PaymentMethod
  posSlipNo : Option String
  notes : Option String
  deriving DecidableEq, Repr

/-- The arguments of one call of `PaymentsService.create`. -/
structure PaymentCall where
  tenantId : Uuid
  dto : CreatePaymentDto
  cashierName : String
  gatewayAttemptId : Option String
  deriving DecidableEq, Repr

/-- The methods a request may name; advances are offset by the system only. -/
def collectionMethods : List PaymentMethod := [.cash, .pos, .bankTransfer, .online]

/-- What request validation lets through: whole cents, at least one, and a
collection method. -/
structure CreatePaymentDto.Valid (dto : CreatePaymentDto) : Prop where
  amount_cents : ∃ c : ℤ, 1 ≤ c ∧ dto.amount = toNumber c
  paymentMethod_mem : ∀ m ∈ dto.paymentMethod, m ∈ collectionMethods
  method_mem : ∀ m ∈ dto.method, m ∈ collectionMethods

def CreatePaymentDto.effectiveMethod (dto : CreatePaymentDto) : PaymentMethod :=
  ((dto.paymentMethod.orElse fun _ => dto.method)).getD .cash

theorem CreatePaymentDto.Valid.effectiveMethod_ne {dto : CreatePaymentDto} (h : dto.Valid) :
    dto.effectiveMethod ≠ .advanceOffset := by
  have hmem : dto.effectiveMethod ∈ collectionMethods := by
    unfold effectiveMethod
    cases hp : dto.paymentMethod with
    | some m => exact h.paymentMethod_mem m hp
    | none =>
      cases hm : dto.method with
      | some m => exact h.method_mem m hm
      | none => simp [collectionMethods]
  intro he
  rw [he] at hmem
  simp [collectionMethods] at hmem

def checkAmount (dto : CreatePaymentDto) : Outcome Unit :=
  Outcome.reject
    (dto.amount ≤ 0 ∨ 1 / 1000000 < |dto.amount * 100 - (round (dto.amount * 100) : ℚ)|)
    (.badRequest "Tahsilat tutarı 0 dan büyük bir değer olmalıdır.")

def Db.gatewayPayment? (db : Db) (tenantId : Uuid) (attemptId : String) : Option (Uuid × Payment) :=
  db.payments.find? fun p =>
    p.tenantId = tenantId ∧ p.gatewayProvider = some "PAYTR" ∧ p.transactionId = some attemptId

def PaymentCall.recorded? (call : PaymentCall) (db : Db) : Option Uuid :=
  call.gatewayAttemptId.bind fun attemptId =>
    (db.gatewayPayment? call.tenantId attemptId).map Prod.fst

/-- The checks on the invoice before the transaction; they also settle whose
payment it is. -/
def resolveCustomer (db : Db) (call : PaymentCall) : Outcome Uuid :=
  let dto := call.dto
  match dto.invoiceId with
  | some invoiceId => do
    let inv ← Outcome.required (db.invoice? call.tenantId invoiceId)
      (.badRequest "Belirtilen fatura bulunamadı veya bu işletmeye ait değil.")
    Outcome.reject (inv.status = .cancelled)
      (.badRequest "İptal edilmiş bir faturaya tahsilat eklenemez.")
    Outcome.reject (inv.status = .paid ∨ toNumber inv.remainingAmount ≤ 0)
      (.badRequest "Bu faturanın ödemesi zaten tamamlanmıştır.")
    Outcome.reject (toNumber inv.remainingAmount < dto.amount)
      (.badRequest ("Tahsilat tutarı (" ++ trLocale dto.amount ++
        " ₺), faturanın kalan açık bakiyesinden (" ++ trLocale (toNumber inv.remainingAmount) ++
        " ₺) fazla olamaz."))
    Outcome.reject (dto.customerId.any fun c => c ≠ inv.customerId)
      (.badRequest "Faturanın ait olduğu müşteri ile ödeme yapılan müşteri uyuşmuyor.")
    pure inv.customerId
  | none => do
    let customerId ← Outcome.required dto.customerId
      (.badRequest "Müşteri ID (customerId) belirtilmelidir.")
    let reference := jsTrim ((firstText [dto.posSlipNo, dto.notes]).getD "")
    Outcome.reject (jsLength reference < 3)
      (.badRequest ("Faturasız serbest cari/avans tahsilatlarında dekont/fiş no veya açıklama " ++
        "(en az 3 karakter) girilmesi zorunludur."))
    pure customerId

def checkCustomer (db : Db) (tenantId customerId : Uuid) : Outcome Customer :=
  Outcome.required (db.liveCustomer? tenantId customerId)
    (.badRequest "Belirtilen müşteri bulunamadı veya bu işletmeye ait değil.")

def checkOpenBalance (db : Db) (call : PaymentCall) : Outcome Unit :=
  match call.dto.invoiceId with
  | none => pure ()
  | some invoiceId =>
    let changed := match db.invoice? call.tenantId invoiceId with
      | none => true
      | some current =>
        current.status = .cancelled ∨ toNumber current.remainingAmount < call.dto.amount
    Outcome.reject changed
      (.badRequest "Fatura bakiyesi değişti. Lütfen güncel bakiyeyi kontrol ediniz.")

def payInvoice (invoice : Invoice) (amount : ℚ) : Outcome Invoice := do
  let newPaid : ℚ := (round ((toNumber invoice.paidAmount + amount) * 100) : ℚ) / 100
  let newRemaining := toNumber invoice.grandTotal - newPaid
  let paidAmount ← numeric 12 newPaid
  let remainingAmount ← numeric 12 (max 0 newRemaining)
  pure { invoice with
    paidAmount, remainingAmount, status := if newRemaining ≤ 0 then .paid else .partiallyPaid }

def applyToInvoice (db : Db) (tenantId : Uuid) (invoiceId : Option Uuid) (amount : ℚ) :
    Outcome Db :=
  match invoiceId with
  | none => pure db
  | some id =>
    match db.invoice? tenantId id with
    | none => pure db
    | some invoice => do
      let invoice ← payInvoice invoice amount
      pure { db with invoices := db.invoices.modify id fun _ => invoice }

def markAttemptPaid (db : Db) (gatewayAttemptId : Option String) : Outcome Db :=
  match gatewayAttemptId with
  | none => pure db
  | some attemptId => do
    let (k, _) ← Outcome.required (db.paymentAttempts.find? fun a => a.id = attemptId)
      (.database "P2025")
    let paid (a : PaymentAttempt) := { a with status := .paid }
    pure { db with paymentAttempts := db.paymentAttempts.modify k paid }

def paymentRow (call : PaymentCall) (customerId : Uuid) (amount : ℤ) : Payment where
  tenantId := call.tenantId
  invoiceId := call.dto.invoiceId
  customerId := customerId
  amount := amount
  paymentMethod := call.dto.effectiveMethod
  cashierName := call.cashierName
  posSlipNo := call.dto.posSlipNo
  notes := call.dto.notes
  gatewayProvider := call.gatewayAttemptId.map fun _ => "PAYTR"
  transactionId := call.gatewayAttemptId

/-- The transaction of `PaymentsService.create` when no payment is recorded yet. -/
def collectPayment (db : Db) (call : PaymentCall) (customerId : Uuid) : Outcome (Db × Uuid) := do
  checkOpenBalance db call
  let amount ← numeric 12 call.dto.amount
  let (db, paymentId) ← insertPayment db (paymentRow call customerId amount)
  let db ← applyToInvoice db call.tenantId call.dto.invoiceId call.dto.amount
  let (db, accountId, _) ← findOrCreateAccount db call.tenantId customerId
  let (db, newBalance) ← creditAccount db accountId call.dto.amount
  let credit ← numeric 12 call.dto.amount
  let db := db.addCariMovement
    { tenantId := call.tenantId, currentAccountId := accountId, referenceType := .payment,
      debit := 0, credit, balanceAfter := newBalance }
  let db ← markAttemptPaid db call.gatewayAttemptId
  pure (db, paymentId)

def recordPayment (db : Db) (call : PaymentCall) (customerId : Uuid) : Outcome (Db × Uuid) :=
  match call.recorded? db with
  | some paymentId => pure (db, paymentId)
  | none => collectPayment db call customerId

end WorksAuto
