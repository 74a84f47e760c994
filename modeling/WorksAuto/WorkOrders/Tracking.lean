import WorksAuto.Accounts.Phone
import WorksAuto.WorkOrders.UseCases

/-! The public tracking page of a work order.
Whoever has the link reads the order without signing in, and may rate it. Some days
after the order is closed the page only says so. How long ago that was is taken from
`completedAt` or from `updatedAt`, which every write to the row sets. -/

namespace WorksAuto

open Lib Accounts

/-- The columns of an order that only its tracking and its notifications use. -/
structure OrderColumns where
  createdAt : Instant
  updatedAt : Instant
  lastNotifiedAt : Option Instant
  customerRating : Option ℤ
  customerComment : Option String
  customerRatedAt : Option Instant
  deriving DecidableEq, Repr

structure TrackServer where
  db : Db
  columns : Uuid → OrderColumns
  now : Instant

def maskName (name : String) : String :=
  let trimmed := (jsTrim name).toList
  if name = "" then "Değerli Müşterimiz"
  else if trimmed.length ≤ 2 then String.ofList (trimmed ++ ['*'])
  else String.ofList (trimmed.take 2 ++ List.replicate (max 2 (trimmed.length - 2)) '*')

def maskPhone (phone : String) : String :=
  let clean := digitsOf phone
  if clean.length < 10 then "05** *** ** **"
  else
    "0" ++ String.ofList (slice (clean.length - 10) (clean.length - 7) clean) ++ " *** ** " ++
      String.ofList (sliceLast 2 clean)

example : maskPhone "+90 532 111 22 33" = "0532 *** ** 33" := by decide +kernel

structure TrackedCustomer where
  name : String
  phone : String
  deriving DecidableEq, Repr

structure ClosedTrack where
  status : WorkOrderStatus
  workOrderNumber : String
  completedAt : Option Instant
  expiredDays : ℕ
  expiredReason : String
  message : String
  plate : String
  customer : TrackedCustomer
  deriving DecidableEq, Repr

structure TrackedInvoice where
  id : Uuid
  invoiceNumber : String
  grandTotal : ℚ
  paidAmount : ℚ
  remainingAmount : ℚ
  status : InvoiceStatus
  isPaid : Bool
  deriving DecidableEq, Repr

structure LiveTrack where
  isArchiveMode : Bool
  workOrderNumber : String
  status : WorkOrderStatus
  createdAt : Instant
  completedAt : Option Instant
  initialKm : ℤ
  fuelLevel : Option String
  assignedLift : String
  mechanicName : String
  customer : TrackedCustomer
  plate : String
  kilometer : ℤ
  services : List (Uuid × String × Bool)
  parts : List (Uuid × String × ℤ)
  invoice : Option TrackedInvoice
  deriving DecidableEq, Repr

inductive PublicTrack where
  | closed (track : ClosedTrack)
  | live (track : LiveTrack)
  deriving DecidableEq, Repr

/-- The field `expired` of the answer. -/
def PublicTrack.expired : PublicTrack → Bool
  | closed _ => true
  | live _ => false

namespace TrackServer

def sevenDays : ℤ := 7 * 24 * 60 * 60 * 1000

def oneDay : ℤ := 24 * 60 * 60 * 1000

def isCompletedExpired (s : TrackServer) (id : Uuid) (wo : WorkOrder) : Bool :=
  wo.status = .completed ∧
    sevenDays < s.now - wo.completedAt.getD (s.columns id).updatedAt

def isCancelledExpired (s : TrackServer) (id : Uuid) (wo : WorkOrder) : Bool :=
  wo.status = .cancelled ∧ oneDay < s.now - (s.columns id).updatedAt

/-- `findPublicTrackByTokenOrNumber`; a token that is no id finds nothing. -/
def findPublicTrack (s : TrackServer) (token : Option Uuid) : Outcome (Uuid × WorkOrder) :=
  Outcome.required (token.bind fun id => (s.db.workOrders.get? id).map (id, ·))
    (.notFound "İş emri veya araç takip kaydı bulunamadı.")

def trackedCustomer (s : TrackServer) (wo : WorkOrder) : TrackedCustomer :=
  match s.db.customers.get? wo.customerId with
  | none => { name := "Değerli Müşterimiz", phone := "05** *** ** **" }
  | some c =>
    { name := maskName (jsTrim (c.firstName ++ " " ++ c.lastName)), phone := maskPhone c.phone }

def trackedMechanic (s : TrackServer) (wo : WorkOrder) : String :=
  match (wo.assignedMechanicId.bind s.db.mechanics.get?).bind fun m => s.db.users.get? m.userId with
  | none => "Atölye Sorumlusu"
  | some u => jsTrim (u.name ++ " " ++ u.surname)

def trackedPlate (s : TrackServer) (wo : WorkOrder) : String :=
  (firstText [(s.db.vehicles.get? wo.vehicleId).map Vehicle.plate]).getD "Plaka Belirtilmedi"

def closedTrack (s : TrackServer) (wo : WorkOrder) : ClosedTrack where
  status := wo.status
  workOrderNumber := wo.workOrderNumber
  completedAt := wo.completedAt
  expiredDays := if wo.status = .completed then 7 else 1
  expiredReason :=
    if wo.status = .completed then "COMPLETED_RETENTION_EXPIRED"
    else "CANCELLED_RETENTION_EXPIRED"
  message :=
    if wo.status = .completed then
      "Bu araca ait servis işlemleri tamamlanmış olup, güvenlik ve KVKK gizlilik politikaları " ++
        "gereğince canlı takip bağlantısı 7 günlük arşiv süresinin ardından erişime " ++
        "kapatılmıştır."
    else "Bu iş emri iptal edilmiş olup takip bağlantısı erişime kapatılmıştır."
  plate := s.trackedPlate wo
  customer := s.trackedCustomer wo

def trackedInvoice (row : Uuid × Invoice) : TrackedInvoice where
  id := row.1
  invoiceNumber := row.2.invoiceNumber
  grandTotal := toNumber row.2.grandTotal
  paidAmount := toNumber row.2.paidAmount
  remainingAmount := toNumber row.2.remainingAmount
  status := row.2.status
  isPaid := row.2.status = .paid

def liveTrack (s : TrackServer) (id : Uuid) (wo : WorkOrder) : LiveTrack where
  isArchiveMode := wo.status = .completed
  workOrderNumber := wo.workOrderNumber
  status := wo.status
  createdAt := (s.columns id).createdAt
  completedAt := wo.completedAt
  initialKm := wo.initialKm
  fuelLevel := wo.fuelLevel
  assignedLift := (firstText [wo.assignedLift]).getD "Mekanik Lift"
  mechanicName := s.trackedMechanic wo
  customer := s.trackedCustomer wo
  plate := s.trackedPlate wo
  kilometer :=
    if wo.initialKm ≠ 0 then wo.initialKm
    else ((s.db.vehicles.get? wo.vehicleId).map Vehicle.currentKm).getD 0
  services := ((s.db.itemsOf id).filter fun it => it.2.itemType = .service).map fun it =>
    (it.1, it.2.name, decide (wo.status = .completed))
  parts := ((s.db.itemsOf id).filter fun it => it.2.itemType = .part).map fun it =>
    (it.1, it.2.name, it.2.quantity)
  invoice := (s.db.invoices.find? fun inv => inv.workOrderId = some id).map trackedInvoice

/-- `GetPublicWorkOrderTrackUseCase.execute`. -/
def getPublicWorkOrderTrack (s : TrackServer) (token : Option Uuid) : Outcome PublicTrack := do
  let (id, wo) ← s.findPublicTrack token
  if s.isCompletedExpired id wo ∨ s.isCancelledExpired id wo then pure (.closed (s.closedTrack wo))
  else pure (.live (s.liveTrack id wo))

/-- An update of an order that sets `updatedAt`, whatever else it sets. -/
def updateOrder (s : TrackServer) (id : Uuid) (f : OrderColumns → OrderColumns) : TrackServer :=
  { s with
    columns := Function.update s.columns id { f (s.columns id) with updatedAt := s.now } }

end TrackServer

structure SubmitCustomerFeedbackDto where
  rating : ℤ
  comment : Option String
  deriving DecidableEq, Repr

/-- `updateCustomerFeedback`. -/
def updateCustomerFeedback (s : TrackServer) (workOrderId : Uuid)
    (dto : SubmitCustomerFeedbackDto) : Outcome TrackServer := do
  let _ ← Outcome.required (s.db.workOrders.get? workOrderId) (.database "P2025")
  pure <| s.updateOrder workOrderId fun c =>
    { c with
      customerRating := some dto.rating
      customerComment := firstText [dto.comment.map jsTrim]
      customerRatedAt := some s.now }

/-- `updateLastNotifiedAt`. -/
def updateLastNotifiedAt (s : TrackServer) (id : Uuid) : Outcome TrackServer := do
  let _ ← Outcome.required (s.db.workOrders.get? id) (.database "P2025")
  pure <| s.updateOrder id fun c => { c with lastNotifiedAt := some s.now }

inductive NotificationChannel where
  | email | whatsApp | sms
  deriving DecidableEq, Repr

structure NotifyWorkOrderStatusDto where
  channels : List NotificationChannel
  customMessage : Option String
  deriving DecidableEq, Repr

/-- The checks of a status notification: the order has a customer, who can be reached. -/
def checkNotify (db : Db) (tenantId workOrderId : Uuid) (dto : NotifyWorkOrderStatusDto) :
    Outcome Unit := do
  let wo ← Outcome.required (db.workOrder? tenantId workOrderId) (.notFound "İş emri bulunamadı.")
  let customer ← Outcome.required (db.customers.get? wo.customerId)
    (.badRequest "İş emrine atanmış bir müşteri bulunamadı.")
  let requested := if dto.channels.isEmpty then [.email, .whatsApp, .sms] else dto.channels
  let hasPhone := customer.phone ≠ ""
  let sendEmail := .email ∈ requested ∧ (firstText [customer.email]).isSome
  let sendWhatsApp := .whatsApp ∈ requested ∧ hasPhone
  let sendSms := .sms ∈ requested ∧ hasPhone
  Outcome.reject (¬ sendEmail ∧ ¬ sendWhatsApp ∧ ¬ sendSms)
    (.badRequest
      "Müşterinin seçilen kanallar için iletişim bilgisi (telefon veya e-posta) bulunmuyor.")

end WorksAuto
