import WorksAuto.Invoices.Repository

/-! The invoice use cases around the two transactions of the repository, with the
e-invoice provider as a parameter: what it answers is given, what the use case
does with the answer is modelled. -/

namespace WorksAuto

open Lib

structure CreateInvoiceInput where
  workOrderId : Option Uuid
  customerId : Uuid
  dueDate : Instant
  subtotal : Option ℚ
  kdvAmount : Option ℚ
  grandTotal : Option ℚ
  offsetAdvanceAmount : Option ℚ
  invoiceNumber : Option String
  gibInvoiceNumber : Option String
  items : Option (List InvoiceLine)
  notes : Option String
  profileId : Option String
  deriving DecidableEq, Repr

def standardNotes (notes : Option String) : String :=
  let statement := "İşbu fatura muhteviyatı teslim edilmiş olup, irsaliye yerine geçer."
  match firstText [notes] with
  | some given => given ++ " | " ++ statement
  | none => statement

def CreateInvoiceInput.entity (clock : Clock) (tenantId : Uuid) (dto : CreateInvoiceInput) :
    InvoiceEntity where
  tenantId := tenantId
  workOrderId := dto.workOrderId
  customerId := dto.customerId
  invoiceNumber := (firstText [dto.invoiceNumber]).getD "PENDING"
  issueDate := clock.now
  dueDate := dto.dueDate
  subtotal := dto.subtotal
  kdvAmount := dto.kdvAmount
  grandTotal := dto.grandTotal
  gibInvoiceNumber := some ((firstText [dto.gibInvoiceNumber]).getD "PENDING")
  eInvoiceStatus := some "DRAFT"
  eInvoiceUuid := none
  profileId := dto.profileId
  invoiceTypeCode := "SATIS"
  notes := some (standardNotes dto.notes)
  items := dto.items

inductive EInvoiceOutcome where
  | noProvider
  | answered (success : Bool) (eInvoiceUuid gibInvoiceNumber eInvoiceStatus : Option String)
  | failed
  deriving DecidableEq, Repr

def EInvoiceOutcome.details (dto : CreateInvoiceInput) : EInvoiceOutcome → Option EInvoiceDetails
  | .noProvider => none
  | .answered success eInvoiceUuid gibInvoiceNumber eInvoiceStatus =>
    if success ∨ eInvoiceStatus = some "FAILED" then
      some { eInvoiceUuid, gibInvoiceNumber, eInvoiceStatus, profileId := dto.profileId,
             notes := some (standardNotes dto.notes) }
    else none
  | .failed =>
    some { eInvoiceUuid := none, gibInvoiceNumber := none, eInvoiceStatus := some "FAILED",
           profileId := none, notes := none }

def cancellationReference (db : Db) (inv : Invoice) : Instant :=
  ((inv.workOrderId.bind db.workOrders.get?).bind WorkOrder.completedAt).getD inv.issueDate

/-- The checks of a cancellation, up to and including the provider's consent. -/
def checkCancelInvoice (clock : Clock) (db : Db) (tenantId id : Uuid) (reason : String)
    (providerCancellation : Option (Outcome Unit)) : Outcome Unit := do
  let inv ← Outcome.required (db.invoice? tenantId id) (.notFound "Fatura bulunamadı.")
  Outcome.reject (jsLength (jsTrim reason) < 5)
    (.badRequest "Fatura iptal gerekçesi zorunludur ve en az 5 karakter olmalıdır.")
  Outcome.reject (inv.status = .cancelled) (.badRequest "Bu fatura zaten iptal edilmiştir.")
  Outcome.reject (48 * 60 * 60 * 1000 < clock.now - cancellationReference db inv)
    (.badRequest
      ("Bu iş emri tamamlanalı 48 saatten fazla olduğu için muhasebe ve denetim güvenliği " ++
        "gereği geri açılamaz. Lütfen düzeltme veya ilave işlemler için yeni bir iş emri " ++
        "oluşturun."))
  if (firstText [inv.eInvoiceUuid]).isSome ∧ inv.eInvoiceStatus ≠ some "DRAFT" then
    providerCancellation.getD (pure ())
  else pure ()

end WorksAuto
