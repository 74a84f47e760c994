import WorksAuto.Invoices.UseCases
import WorksAuto.WorkOrders.Repository

/-! The work order use cases between their accesses to the database: what a
request checks on the rows it has read, and what it hands to the repository. -/

namespace WorksAuto

open Lib

structure CreateWorkOrderItemInput where
  itemType : Option WorkOrderItemType
  itemId : Option Uuid
  name : String
  quantity : ℤ
  unitPrice : ℚ
  kdvRate : Option ℚ
  deriving DecidableEq, Repr

structure CreateWorkOrderInput where
  appointmentId : Option Uuid
  customerId : Uuid
  vehicleId : Uuid
  assignedMechanicId : Option Uuid
  assignedLift : Option String
  initialKm : ℤ
  fuelLevel : Option String
  items : List CreateWorkOrderItemInput
  deriving DecidableEq, Repr

structure AddWorkOrderItemDto where
  itemType : WorkOrderItemType
  itemId : Option Uuid
  name : String
  quantity : ℤ
  unitPrice : ℚ
  kdvRate : Option ℚ
  deriving DecidableEq, Repr

section Create

def activeOrderMessage (existing : WorkOrder) : String :=
  "Bu araca ait halen devam eden (" ++
    (if existing.status = .inProgress then "İşlemde" else "Kuyrukta") ++ ") #" ++
    existing.workOrderNumber ++
    " numaralı bir iş emri bulunmaktadır. Aynı araca mükerrer iş emri açılamaz. " ++
    "Lütfen mevcut iş emrine işlem veya parça ekleyiniz."

def checkNoActiveOrder (db : Db) (tenantId vehicleId : Uuid) : Outcome Unit :=
  match findActiveByVehicleId db tenantId vehicleId with
  | none => pure ()
  | some (_, existing) => .error (.badRequest (activeOrderMessage existing))

def CreateWorkOrderItemInput.rate (item : CreateWorkOrderItemInput) : ℚ := item.kdvRate.getD 20

def CreateWorkOrderItemInput.lineTotal (item : CreateWorkOrderItemInput) : ℚ :=
  basePrice item.unitPrice item.quantity

/-- `lineTotal * (kdvRate / 100)`, in doubles: the division comes first here. -/
def CreateWorkOrderItemInput.kdv (item : CreateWorkOrderItemInput) : ℚ :=
  Double.nearest (item.lineTotal * Double.nearest (Double.nearest item.rate / 100))

def CreateWorkOrderItemInput.format (item : CreateWorkOrderItemInput) : NewWorkOrderItem where
  itemType := item.itemType.getD .service
  itemId := item.itemId
  name := item.name
  quantity := item.quantity
  unitPrice := item.unitPrice
  kdvRate := item.rate
  totalPrice := Double.written item.lineTotal

def workOrderData (tenantId : Uuid) (input : CreateWorkOrderInput) (woNumber : String) :
    CreateWorkOrderData :=
  let subtotal := Double.sum (input.items.map CreateWorkOrderItemInput.lineTotal)
  let kdvTotal := Double.sum (input.items.map CreateWorkOrderItemInput.kdv)
  { tenantId, workOrderNumber := woNumber, appointmentId := input.appointmentId,
    customerId := input.customerId, vehicleId := input.vehicleId,
    assignedMechanicId := input.assignedMechanicId, assignedLift := input.assignedLift,
    initialKm := input.initialKm, fuelLevel := input.fuelLevel,
    subtotal := Double.written subtotal, kdvAmount := Double.written kdvTotal,
    grandTotal := Double.written (Double.nearest (subtotal + kdvTotal)), status := .queue,
    items := input.items.map CreateWorkOrderItemInput.format }

end Create

section Items

/-- The order an item edit is about; a closed order is refused with the given text. -/
def editableOrder (db : Db) (tenantId workOrderId : Uuid) (closedMessage : String) :
    Outcome WorkOrder := do
  let wo ← Outcome.required (db.workOrder? tenantId workOrderId) (.notFound "İş emri bulunamadı.")
  Outcome.reject wo.status.isClosed (.badRequest closedMessage)
  pure wo

def checkAddItem (db : Db) (tenantId workOrderId : Uuid) : Outcome WorkOrder :=
  editableOrder db tenantId workOrderId
    "Tamamlanmış veya iptal edilmiş iş emrine yeni kalem eklenemez."

def AddWorkOrderItemDto.item (dto : AddWorkOrderItemDto) : NewWorkOrderItem :=
  let kdvRate := dto.kdvRate.getD 20
  { itemType := dto.itemType, itemId := dto.itemId, name := dto.name, quantity := dto.quantity,
    unitPrice := dto.unitPrice, kdvRate,
    totalPrice := priceWithKdv dto.unitPrice dto.quantity kdvRate }

def listedItem (db : Db) (workOrderId itemId : Uuid) : Outcome WorkOrderItem :=
  Outcome.required (db.workOrderItem? workOrderId itemId) (.notFound "İş emri kalemi bulunamadı.")

def checkUpdateItem (db : Db) (tenantId workOrderId itemId : Uuid) (data : WorkOrderItemChanges)
    (userRole : Option UserRole) : Outcome WorkOrderItem := do
  Outcome.reject (userRole = some .technician ∧ data.unitPrice.isSome)
    (.badRequest
      ("Teknisyenler iş emrindeki birim fiyatları veya işçilik ücretlerini değiştiremez. " ++
        "Yalnızca parça adedi veya sarfiyat güncelleyebilir."))
  let _ ← editableOrder db tenantId workOrderId
    "Tamamlanmış veya iptal edilmiş iş emrinde kalem güncellenemez."
  listedItem db workOrderId itemId

def checkRemoveItem (db : Db) (tenantId workOrderId itemId : Uuid) : Outcome WorkOrderItem := do
  let _ ← editableOrder db tenantId workOrderId
    "Tamamlanmış veya iptal edilmiş iş emrinden kalem silinemez."
  listedItem db workOrderId itemId

end Items

section Status

def transitionMessage (current target : WorkOrderStatus) : String :=
  "İş emri '" ++ current.label ++ "' durumundan doğrudan '" ++ target.label ++
    "' durumuna geçirilemez. Tamamlanmış veya iptal edilmiş iş emirleri için lütfen " ++
    "'Geri Al' akışını kullanın."

/-- The target a status update asks for and the order it finds. -/
def checkTransition (db : Db) (tenantId id : Uuid) (newStatus : String) :
    Outcome (WorkOrderStatus × WorkOrder) := do
  let target ← WorkOrderStatus.parse newStatus
  let wo ← Outcome.required (db.workOrder? tenantId id) (.notFound "İş emri bulunamadı.")
  Outcome.reject (!wo.status.canTransitionTo target)
    (.badRequest (transitionMessage wo.status target))
  pure (target, wo)

def completionTime (clock : Clock) (target : WorkOrderStatus) : Option Instant :=
  if target = .completed then some clock.now else none

def appointmentStatusFor : WorkOrderStatus → Option AppointmentStatus
  | .completed => some .completed
  | .inProgress => some .inService
  | _ => none

def rollbackTarget (db : Db) (tenantId id : Uuid) : Outcome WorkOrderStatus := do
  let wo ← Outcome.required (db.workOrder? tenantId id) (.notFound "İş emri bulunamadı.")
  Outcome.asBadRequest wo.status.getPreviousStatus

def autoInvoiceInput (clock : Clock) (id : Uuid) (wo : WorkOrder) : CreateInvoiceInput :=
  let day := 24 * 60 * 60 * 1000
  { workOrderId := some id, customerId := wo.customerId,
    dueDate := (clock.now + 7 * day) / day * day, subtotal := some (toNumber wo.subtotal),
    kdvAmount := some (toNumber wo.kdvAmount), grandTotal := some (toNumber wo.grandTotal),
    offsetAdvanceAmount := none, invoiceNumber := none, gibInvoiceNumber := none, items := none,
    notes := none, profileId := none }

end Status

end WorksAuto
