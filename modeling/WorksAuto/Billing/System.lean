import WorksAuto.Lib.Pool
import WorksAuto.Lib.Run
import WorksAuto.Billing.Effects

/-! The billing service as a system of concurrent requests.
A request runs in the parts between which other requests can run: each read
outside a transaction is a part, and each transaction is one. Runs of this
system are all the interleavings of any number of requests. -/

namespace WorksAuto

open Lib

/-- What the surroundings decide when a request goes on: the time, the random
id of a new attempt, and whether the notification at the end fails. -/
structure Env where
  clock : Clock
  attemptId : String
  notificationError : Option ApiError
  deriving DecidableEq, Repr

/-- `PaymentsService.create` between two accesses to the database. -/
inductive PaymentPhase where
  | start (call : PaymentCall)
  | readInvoice (call : PaymentCall)
  | readCustomer (call : PaymentCall) (customerId : Uuid)
  | transact (call : PaymentCall) (customerId : Uuid)
  | notify (call : PaymentCall) (paymentId : Uuid)
  | done (call : PaymentCall) (result : Outcome Uuid)

def PaymentPhase.exec (db : Db) (env : Env) : PaymentPhase → Db × PaymentPhase
  | .start call =>
    match checkAmount call.dto with
    | .error e => (db, .done call (.error e))
    | .ok _ =>
      match call.recorded? db with
      | some paymentId => (db, .done call (.ok paymentId))
      | none => (db, .readInvoice call)
  | .readInvoice call =>
    match resolveCustomer db call with
    | .error e => (db, .done call (.error e))
    | .ok customerId => (db, .readCustomer call customerId)
  | .readCustomer call customerId =>
    match checkCustomer db call.tenantId customerId with
    | .error e => (db, .done call (.error e))
    | .ok _ => (db, .transact call customerId)
  | .transact call customerId =>
    match recordPayment db call customerId with
    | .error e => (db, .done call (.error e))
    | .ok (db', paymentId) => (db', .notify call paymentId)
  | .notify call paymentId =>
    match env.notificationError with
    | some e => (db, .done call (.error e))
    | none => (db, .done call (.ok paymentId))
  | .done call result => (db, .done call result)

inductive BillingTask where
  | issue (invoice : InvoiceEntity) (offsetAdvanceAmount : Option ℚ)
  | void (tenantId id : Uuid)
  | payment (phase : PaymentPhase)
  /-- `createPayTrPaymentToken` before its read of the invoice. -/
  | token (invoiceId : Uuid)
  /-- `createPayTrPaymentToken` before it stores the attempt. -/
  | newAttempt (invoiceId tenantId : Uuid) (amount : ℚ)
  /-- `handlePayTrWebhook` before its read of the attempt. -/
  | callback (payload : PayTrWebhookPayload)
  /-- `handlePayTrWebhook` before its read of the invoice. -/
  | callbackInvoice (payload : PayTrWebhookPayload) (attempt : PaymentAttempt)
  /-- `handlePayTrWebhook` inside `PaymentsService.create`. -/
  | callbackPayment (payload : PayTrWebhookPayload) (phase : PaymentPhase)
  | answered (payload : PayTrWebhookPayload) (answer : Outcome String)
  | finished

def commit (db : Db) (r : Outcome Db) : Db := r.toOption.getD db

def BillingTask.exec (cfg : PayTrConfig) (db : Db) (t : BillingTask) (env : Env) :
    Db × BillingTask :=
  match t with
  | .issue invoice offset =>
    (commit db ((createWithCariMovement env.clock db invoice offset).map Prod.fst), .finished)
  | .void tenantId id => (commit db (cancelWithCariReversal db tenantId id), .finished)
  | .payment phase =>
    let (db', phase') := phase.exec db env
    (db', .payment phase')
  | .token invoiceId =>
    match attemptAmount db invoiceId with
    | .error _ => (db, .finished)
    | .ok (tenantId, amount) => (db, .newAttempt invoiceId tenantId amount)
  | .newAttempt invoiceId tenantId amount =>
    (commit db (insertAttempt db env.attemptId tenantId invoiceId amount), .finished)
  | .callback payload =>
    match findAttempt cfg db payload with
    | .error e => (db, .answered payload (.error e))
    | .ok none => (db, .answered payload (.ok "OK"))
    | .ok (some attempt) => (db, .callbackInvoice payload attempt)
  | .callbackInvoice payload attempt =>
    match callbackCall db payload attempt with
    | .error e => (db, .answered payload (.error e))
    | .ok none => (db, .answered payload (.ok "OK"))
    | .ok (some call) => (db, .callbackPayment payload (.start call))
  | .callbackPayment payload (.done _ result) =>
    (db, .answered payload (result.map fun _ => "OK"))
  | .callbackPayment payload phase =>
    let (db', phase') := phase.exec db env
    (db', .callbackPayment payload phase')
  | .answered payload answer => (db, .answered payload answer)
  | .finished => (db, .finished)

inductive BillingRequest where
  | createWithCariMovement (invoice : InvoiceEntity) (offsetAdvanceAmount : Option ℚ)
  | cancelWithCariReversal (tenantId id : Uuid)
  | createPayment (tenantId : Uuid) (dto : { dto : CreatePaymentDto // dto.Valid })
      (cashierName : String)
  | createPayTrPaymentToken (invoiceId : Uuid)
  | handlePayTrWebhook (payload : PayTrWebhookPayload)

def BillingRequest.enter : BillingRequest → BillingTask
  | .createWithCariMovement invoice offset => .issue invoice offset
  | .cancelWithCariReversal tenantId id => .void tenantId id
  | .createPayment tenantId dto cashierName =>
    .payment (.start { tenantId, dto := dto.1, cashierName, gatewayAttemptId := none })
  | .createPayTrPaymentToken invoiceId => .token invoiceId
  | .handlePayTrWebhook payload => .callback payload

abbrev Billing := Pool Db BillingTask

abbrev BillingAction := PoolAction BillingRequest Env

def billingStep (cfg : PayTrConfig) : Billing → BillingAction → Billing :=
  Pool.act BillingRequest.enter (BillingTask.exec cfg)

section Sample

/-! A tenant with one customer, for the concrete runs below. -/

def sampleCustomer : Customer where
  tenantId := 0
  firstName := "Ayşe"
  lastName := "Yılmaz"
  companyTitle := none
  phone := "+905550000000"
  email := some "ayse@example.com"
  address := some "Bağdat Cad. 1"
  creditLimit := 0
  deletedAt := none

def sampleDb : Db :=
  { Db.empty with
    tenants := .ofList 
      [{ slug := "servis", title := "Servis", isActive := true, autoInvoiceOnComplete := true }]
    customers := .ofList [sampleCustomer] }

def sampleEnv : Env where
  clock := { now := 0, year := 2026 }
  attemptId := "a1"
  notificationError := none

def sampleConfig : PayTrConfig where
  merchantKey := "key"
  merchantSalt := "salt"
  hmacSha256 := fun key text => key ++ ":" ++ text

def sampleInvoice (price : ℚ) : InvoiceEntity where
  tenantId := 0
  workOrderId := none
  customerId := 0
  invoiceNumber := "PENDING"
  issueDate := 0
  dueDate := 0
  subtotal := some price
  kdvAmount := some 0
  grandTotal := some price
  gibInvoiceNumber := some "PENDING"
  eInvoiceStatus := some "DRAFT"
  eInvoiceUuid := none
  profileId := none
  invoiceTypeCode := "SATIS"
  notes := none
  items := some [{ itemType := none, name := "Bakım", quantity := 1, unitPrice := price,
                   kdvRate := some 0, notes := none }]

def sampleDeposit : { dto : CreatePaymentDto // dto.Valid } where
  val :=
    { invoiceId := none, customerId := some 0, amount := toNumber 5000,
      paymentMethod := some .cash, method := none, posSlipNo := some "F-001", notes := none }
  property :=
    { amount_cents := ⟨5000, by decide, rfl⟩
      paymentMethod_mem := by simp [collectionMethods]
      method_mem := by simp }

/-- Start a request and run it to its end before anything else happens; `k` is
its place among all requests started. -/
def alone (k : ℕ) (r : BillingRequest) : List BillingAction :=
  .start r :: List.replicate 8 (.step k sampleEnv)

end Sample

section Growth

/-- Invoices and attempts are never deleted, and keep their owner and amount. -/
structure Db.Extends (db db' : Db) : Prop where
  invoice : ∀ k inv, db.invoices.get? k = some inv → ∃ inv', db'.invoices.get? k = some inv' ∧
    inv'.customerId = inv.customerId ∧ inv'.tenantId = inv.tenantId
  attempt : ∀ k a, db.paymentAttempts.get? k = some a → ∃ a', db'.paymentAttempts.get? k = some a' ∧
    a'.id = a.id ∧ a'.tenantId = a.tenantId ∧ a'.invoiceId = a.invoiceId ∧ a'.amount = a.amount

theorem Db.Extends.refl (db : Db) : db.Extends db where
  invoice := fun _ inv h => ⟨inv, h, rfl, rfl⟩
  attempt := fun _ a h => ⟨a, h, rfl, rfl, rfl, rfl⟩

/-- The attempt a call records, with the amount and the invoice it was made for. -/
def GatewayCall (db : Db) (call : PaymentCall) : Prop :=
  ∀ attemptId, call.gatewayAttemptId = some attemptId → ∃ k a,
    db.paymentAttempts.get? k = some a ∧ a.id = attemptId ∧ a.tenantId = call.tenantId ∧
      call.dto.amount = toNumber a.amount ∧ call.dto.invoiceId = some a.invoiceId

/-- A call with a whole positive number of cents, made with a collection method. -/
structure CallOk (db : Db) (call : PaymentCall) : Prop where
  amount : ∃ c : ℤ, 1 ≤ c ∧ call.dto.amount = toNumber c
  method : call.dto.effectiveMethod ≠ .advanceOffset
  gateway : GatewayCall db call

/-- The customer a payment is booked for owns the invoice it is made towards. -/
def CallOwner (db : Db) (call : PaymentCall) (customerId : Uuid) : Prop :=
  ∀ id, call.dto.invoiceId = some id → ∃ inv, db.invoices.get? id = some inv ∧
    inv.customerId = customerId

def PaymentPhase.Ok (db : Db) : PaymentPhase → Prop
  | .start call | .readInvoice call | .notify call _ | .done call _ => CallOk db call
  | .readCustomer call customerId | .transact call customerId =>
    CallOk db call ∧ CallOwner db call customerId

def BillingTask.Ok (db : Db) : BillingTask → Prop
  | .payment phase | .callbackPayment _ phase => phase.Ok db
  | .newAttempt invoiceId tenantId amount =>
    (∃ inv, db.invoices.get? invoiceId = some inv ∧ inv.tenantId = tenantId) ∧
      ∃ c : ℤ, amount = toNumber c
  | .callbackInvoice _ attempt => ∃ k a, db.paymentAttempts.get? k = some a ∧ a.id = attempt.id ∧
      a.tenantId = attempt.tenantId ∧ a.invoiceId = attempt.invoiceId ∧ a.amount = attempt.amount
  | _ => True

theorem CallOk.mono {db db' : Db} {call : PaymentCall} (hx : db.Extends db')
    (h : CallOk db call) : CallOk db' call where
  amount := h.amount
  method := h.method
  gateway := by
    intro attemptId hid
    obtain ⟨k, a, hk, hida, ht, ham, hinv⟩ := h.gateway attemptId hid
    obtain ⟨a', hk', hid', ht', hinv', ham'⟩ := hx.attempt k a hk
    exact ⟨k, a', hk', by rw [hid', hida], by rw [ht', ht], by rw [ham', ham], by rw [hinv', hinv]⟩

theorem CallOwner.mono {db db' : Db} {call : PaymentCall} {c : Uuid} (hx : db.Extends db')
    (h : CallOwner db call c) : CallOwner db' call c := by
  intro id hid
  obtain ⟨inv, hinv, hc⟩ := h id hid
  obtain ⟨inv', hinv', hc', -⟩ := hx.invoice id inv hinv
  exact ⟨inv', hinv', hc'.trans hc⟩

theorem PaymentPhase.Ok.mono {db db' : Db} {phase : PaymentPhase} (hx : db.Extends db')
    (h : phase.Ok db) : phase.Ok db' := by
  cases phase with
  | start call => exact CallOk.mono hx h
  | readInvoice call => exact CallOk.mono hx h
  | notify call p => exact CallOk.mono hx h
  | done call r => exact CallOk.mono hx h
  | readCustomer call c => exact ⟨h.1.mono hx, h.2.mono hx⟩
  | transact call c => exact ⟨h.1.mono hx, h.2.mono hx⟩

theorem BillingTask.Ok.mono {db db' : Db} {t : BillingTask} (hx : db.Extends db')
    (h : t.Ok db) : t.Ok db' := by
  cases t with
  | payment phase => exact PaymentPhase.Ok.mono hx h
  | callbackPayment payload phase => exact PaymentPhase.Ok.mono hx h
  | newAttempt invoiceId tenantId amount =>
    obtain ⟨⟨inv, hinv, ht⟩, hc⟩ := h
    obtain ⟨inv', hinv', -, ht'⟩ := hx.invoice _ inv hinv
    exact ⟨⟨inv', hinv', ht'.trans ht⟩, hc⟩
  | callbackInvoice payload attempt =>
    obtain ⟨k, a, hk, hid, ht, hinv, ham⟩ := h
    obtain ⟨a', hk', hid', ht', hinv', ham'⟩ := hx.attempt k a hk
    exact ⟨k, a', hk', hid'.trans hid, ht'.trans ht, hinv'.trans hinv, ham'.trans ham⟩
  | issue invoice offset => trivial
  | void tenantId id => trivial
  | token invoiceId => trivial
  | callback payload => trivial
  | answered payload answer => trivial
  | finished => trivial

end Growth

end WorksAuto
