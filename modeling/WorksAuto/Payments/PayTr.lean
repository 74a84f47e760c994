import WorksAuto.Payments.Service

/-! PayTR: checkout attempts and the signed callbacks that report on them.
The keyed hash is a parameter; nothing below depends on what it computes. -/

namespace WorksAuto

open Lib

structure PayTrConfig where
  merchantKey : String
  merchantSalt : String
  /-- `createHmac('sha256', key).update(text).digest('base64')`. -/
  hmacSha256 : String → String → String

structure PayTrWebhookPayload where
  merchantOid : String
  status : String
  totalAmount : String
  hash : String
  deriving DecidableEq, Repr

/-- `/^\d+$/`. -/
def isDigits (s : String) : Bool := s ≠ "" ∧ s.toList.all fun c => '0' ≤ c ∧ c ≤ '9'

/-- `Number(text)` of a text of digits. -/
def digitsToNumber (s : String) : ℕ :=
  s.toList.foldl (fun n c => 10 * n + (c.toNat - '0'.toNat)) 0

def verifyWebhook (cfg : PayTrConfig) (p : PayTrWebhookPayload) : Bool :=
  p.merchantOid ≠ "" ∧ p.status ≠ "" ∧ p.totalAmount ≠ "" ∧ p.hash ≠ "" ∧
    cfg.merchantKey ≠ "" ∧ cfg.merchantSalt ≠ "" ∧ (p.status = "success" ∨ p.status = "failed") ∧
    isDigits p.totalAmount ∧
    p.hash = cfg.hmacSha256 cfg.merchantKey
      (p.merchantOid ++ cfg.merchantSalt ++ p.status ++ p.totalAmount)

/-- What `createPayTrPaymentToken` decides from the invoice: the amount to attempt. -/
def attemptAmount (db : Db) (invoiceId : Uuid) : Outcome (Uuid × ℚ) := do
  let invoice ← Outcome.required (db.invoices.get? invoiceId) (.badRequest "Fatura bulunamadı.")
  Outcome.reject (invoice.status = .cancelled ∨ invoice.status = .paid)
    (.badRequest "Bu fatura zaten tamamen ödenmiştir.")
  let remainingAmount := toNumber invoice.grandTotal - toNumber invoice.paidAmount
  Outcome.reject (remainingAmount ≤ 0) (.badRequest "Ödenecek kalan bakiye bulunmuyor.")
  let customer := db.customers.get? invoice.customerId
  let present (t : Option String) : Bool := t.any (· ≠ "")
  Outcome.reject
    (!(present (customer.bind Customer.email) && present (customer.map Customer.phone) &&
      present (customer.bind Customer.address)))
    (.badRequest "Online ödeme için müşteri e-posta, telefon ve adres bilgileri gereklidir.")
  pure (invoice.tenantId, remainingAmount)

/-- `paymentAttempt.create`: the id is unique and the amount positive. -/
def insertAttempt (db : Db) (id : String) (tenantId invoiceId : Uuid) (amount : ℚ) :
    Outcome Db := do
  let amount ← numeric 12 amount
  Outcome.reject (db.paymentAttempts.find? fun a => a.id = id).isSome (.database "P2002")
  Outcome.reject (amount ≤ 0) (.database "23514")
  let row : PaymentAttempt := { id, tenantId, invoiceId, amount, status := .pending }
  pure { db with paymentAttempts := db.paymentAttempts.insert row }

/-- The call of `PaymentsService.create` made for a successful callback. -/
def callbackPayment (attempt : PaymentAttempt) (invoiceId : Uuid) (invoice : Invoice)
    (payload : PayTrWebhookPayload) : PaymentCall where
  tenantId := invoice.tenantId
  dto :=
    { invoiceId := some invoiceId, customerId := some invoice.customerId,
      amount := (digitsToNumber payload.totalAmount : ℚ) / 100, paymentMethod := some .online,
      method := none, posSlipNo := none,
      notes := some ("PayTR Online 3D-Secure Tahsilat (Sipariş: " ++ payload.merchantOid ++ ")") }
  cashierName := "PayTR Sanal POS"
  gatewayAttemptId := some attempt.id

/-- The first read of `handlePayTrWebhook`: the attempt, or the answer at once. -/
def findAttempt (cfg : PayTrConfig) (db : Db) (payload : PayTrWebhookPayload) :
    Outcome (Option PaymentAttempt) := do
  Outcome.reject (!verifyWebhook cfg payload) (.badRequest "PAYTR_SIGNATURE_INVALID")
  let (_, attempt) ← Outcome.required
    (db.paymentAttempts.find? fun a => a.id = payload.merchantOid)
    (.badRequest "Unknown payment attempt.")
  pure (if attempt.status = .paid then none else some attempt)

def callbackCall (db : Db) (payload : PayTrWebhookPayload) (attempt : PaymentAttempt) :
    Outcome (Option PaymentCall) := do
  let invoice ← Outcome.required (db.invoices.get? attempt.invoiceId)
    (.badRequest "Payment invoice was not found.")
  Outcome.reject (payload.status = "success" ∧ invoice.status = .paid)
    (.badRequest "PAYMENT_RECONCILIATION_REQUIRED")
  if payload.status = "success" then do
    Outcome.reject ((digitsToNumber payload.totalAmount : ℚ) / 100 ≠ toNumber attempt.amount)
      (.badRequest "PAYMENT_AMOUNT_MISMATCH")
    pure (some (callbackPayment attempt attempt.invoiceId invoice payload))
  else pure none

end WorksAuto
