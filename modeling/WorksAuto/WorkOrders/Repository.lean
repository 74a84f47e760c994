import WorksAuto.Store
import WorksAuto.WorkOrders.Status

/-! The work order repository.
Every function is one statement or one transaction: it returns the database
after the commit, or the error that leaves the database as it was. A part on an
order is taken from stock when it is put on the order and returned when it is
taken off or the order is cancelled, each time with a movement that refers to
the order. -/

namespace WorksAuto

open Lib

structure NewWorkOrderItem where
  itemType : WorkOrderItemType
  itemId : Option Uuid
  name : String
  quantity : ℤ
  unitPrice : ℚ
  kdvRate : ℚ
  totalPrice : ℚ
  deriving DecidableEq, Repr

structure CreateWorkOrderData where
  tenantId : Uuid
  workOrderNumber : String
  appointmentId : Option Uuid
  customerId : Uuid
  vehicleId : Uuid
  assignedMechanicId : Option Uuid
  assignedLift : Option String
  initialKm : ℤ
  fuelLevel : Option String
  subtotal : ℚ
  kdvAmount : ℚ
  grandTotal : ℚ
  status : WorkOrderStatus
  items : List NewWorkOrderItem
  deriving DecidableEq, Repr

structure WorkOrderItemChanges where
  name : Option String
  unitPrice : Option ℚ
  quantity : Option ℤ
  deriving DecidableEq, Repr

def WorkOrderItem.part? (it : WorkOrderItem) : Option Uuid :=
  match it.itemType with
  | .part => it.itemId
  | .service => none

def NewWorkOrderItem.part? (it : NewWorkOrderItem) : Option Uuid :=
  match it.itemType with
  | .part => it.itemId
  | .service => none

def orderReference (workOrderId : Uuid) : Option String := some (Nat.repr workOrderId)

section Stock

def outMovement (tenantId workOrderId productId : Uuid) (quantity : ℤ) : StockMovement where
  tenantId := tenantId
  productId := productId
  movementType := .outWorkOrder
  quantity := quantity
  referenceId := orderReference workOrderId

def returnMovement (tenantId workOrderId productId : Uuid) (quantity : ℤ) : StockMovement where
  tenantId := tenantId
  productId := productId
  movementType := .return
  quantity := quantity
  referenceId := orderReference workOrderId

def takeFromStock (db : Db) (tenantId workOrderId productId : Uuid) (quantity : ℤ)
    (shortage : Option Product → ApiError) : Outcome Db := do
  let (db, updatedCount) ← decrementStock db tenantId productId quantity
  Outcome.reject (updatedCount = 0) (shortage (db.product? tenantId productId))
  addStockMovement db (outMovement tenantId workOrderId productId quantity)

def returnToStock (db : Db) (tenantId workOrderId productId : Uuid) (quantity : ℤ) :
    Outcome Db := do
  let db ← incrementStock db productId quantity
  addStockMovement db (returnMovement tenantId workOrderId productId quantity)

def newItemShortage (quantity : ℤ) : Option Product → ApiError
  | none => .notFound "Belirtilen yedek parça depoda bulunamadı."
  | some product => .badRequest
      ("Yetersiz stok! \"" ++ product.name ++ "\" için mevcut stok (" ++
        toString product.stockQuantity ++ ") talep edilen miktarı (" ++ toString quantity ++
        ") karşılamıyor.")

def changedItemShortage (diff : ℤ) (product : Option Product) : ApiError :=
  .badRequest
    ("Yetersiz stok! \"" ++ (firstText [product.map Product.name]).getD "Ürün" ++
      "\" için mevcut stok (" ++ toString (product.elim 0 Product.stockQuantity) ++
      ") eklenen " ++ toString diff ++ " adedi karşılamıyor.")

def consumePart (db : Db) (tenantId workOrderId : Uuid) (item : NewWorkOrderItem) : Outcome Db :=
  match item.part? with
  | some productId =>
    takeFromStock db tenantId workOrderId productId item.quantity (newItemShortage item.quantity)
  | none => pure db

def adjustPart (db : Db) (tenantId workOrderId : Uuid) (item : WorkOrderItem) (diff : ℤ) :
    Outcome Db :=
  match item.part? with
  | some productId =>
    if 0 < diff then
      takeFromStock db tenantId workOrderId productId diff (changedItemShortage diff)
    else if diff < 0 then returnToStock db tenantId workOrderId productId |diff|
    else pure db
  | none => pure db

def returnPart (db : Db) (tenantId workOrderId : Uuid) (item : WorkOrderItem) : Outcome Db :=
  match item.part? with
  | some productId => returnToStock db tenantId workOrderId productId item.quantity
  | none => pure db

end Stock

section Items

def Db.workOrderItem? (db : Db) (workOrderId itemId : Uuid) : Option WorkOrderItem :=
  (db.workOrderItems.get? itemId).filter fun it => it.workOrderId = workOrderId

def insertItem (db : Db) (workOrderId : Uuid) (item : NewWorkOrderItem) : Outcome Db := do
  let quantity ← int4 item.quantity
  let unitPrice ← numeric 10 item.unitPrice
  let kdvRate ← numeric 4 item.kdvRate
  let totalPrice ← numeric 12 item.totalPrice
  let row : WorkOrderItem :=
    { workOrderId, itemType := item.itemType, itemId := item.itemId, name := item.name,
      quantity, unitPrice, kdvRate, totalPrice }
  pure { db with workOrderItems := db.workOrderItems.insert row }

/-- `unitPrice * quantity`, in doubles. -/
def basePrice (unitPrice : ℚ) (quantity : ℤ) : ℚ :=
  Double.nearest (Double.nearest unitPrice * Double.nearest quantity)

/-- `basePrice * kdvRate / 100`, in doubles. -/
def kdvOn (basePrice kdvRate : ℚ) : ℚ :=
  Double.nearest (Double.nearest (basePrice * Double.nearest kdvRate) / 100)

def priceWithKdv (unitPrice : ℚ) (quantity : ℤ) (kdvRate : ℚ) : ℚ :=
  let base := basePrice unitPrice quantity
  Double.written (Double.nearest (base + kdvOn base kdvRate))

def WorkOrderItem.base (it : WorkOrderItem) : ℚ := basePrice (toNumber it.unitPrice) it.quantity

def WorkOrderItem.kdv (it : WorkOrderItem) : ℚ := kdvOn it.base (toNumber it.kdvRate)

def WorkOrder.retotal (subtotal kdvAmount grandTotal : ℤ) (wo : WorkOrder) : WorkOrder :=
  { wo with subtotal, kdvAmount, grandTotal }

def recalculateTotals (db : Db) (workOrderId : Uuid) : Outcome Db := do
  let items := (db.itemsOf workOrderId).map Prod.snd
  let newSubtotal := Double.sum (items.map WorkOrderItem.base)
  let newKdvTotal := Double.sum (items.map WorkOrderItem.kdv)
  let subtotal ← numeric 12 (Double.written newSubtotal)
  let kdvAmount ← numeric 12 (Double.written newKdvTotal)
  let grandTotal ← numeric 12 (Double.written (Double.nearest (newSubtotal + newKdvTotal)))
  pure { db with
    workOrders := db.workOrders.modify workOrderId
      (WorkOrder.retotal subtotal kdvAmount grandTotal) }

def addItem (db : Db) (tenantId workOrderId : Uuid) (item : NewWorkOrderItem) : Outcome Db := do
  let _ ← Outcome.required (db.workOrder? tenantId workOrderId) (.notFound "İş emri bulunamadı.")
  let db ← consumePart db tenantId workOrderId item
  let db ← insertItem db workOrderId item
  recalculateTotals db workOrderId

def WorkOrderItem.revise (name : String) (unitPrice quantity totalPrice : ℤ)
    (it : WorkOrderItem) : WorkOrderItem :=
  { it with name, unitPrice, quantity, totalPrice }

def updateItem (db : Db) (tenantId workOrderId itemId : Uuid) (data : WorkOrderItemChanges) :
    Outcome Db := do
  let _ ← Outcome.required (db.workOrder? tenantId workOrderId) (.notFound "İş emri bulunamadı.")
  let item ← Outcome.required (db.workOrderItem? workOrderId itemId)
    (.notFound "İş emri kalemi bulunamadı.")
  Outcome.reject (data.quantity.any fun q => q ≤ 0)
    (.badRequest "Kalem adedi en az 1 olmalıdır.")
  let newQuantity := data.quantity.getD item.quantity
  let db ← adjustPart db tenantId workOrderId item (newQuantity - item.quantity)
  let newName := data.name.elim item.name jsTrim
  let newUnitPrice := data.unitPrice.getD (toNumber item.unitPrice)
  let unitPrice ← numeric 10 newUnitPrice
  let quantity ← int4 newQuantity
  let totalPrice ← numeric 12 (priceWithKdv newUnitPrice newQuantity (toNumber item.kdvRate))
  let change := WorkOrderItem.revise newName unitPrice quantity totalPrice
  recalculateTotals { db with workOrderItems := db.workOrderItems.modify itemId change }
    workOrderId

def removeItem (db : Db) (tenantId workOrderId itemId : Uuid) : Outcome Db := do
  let _ ← Outcome.required (db.workOrder? tenantId workOrderId) (.notFound "İş emri bulunamadı.")
  let item ← Outcome.required (db.workOrderItem? workOrderId itemId)
    (.notFound "İş emri kalemi bulunamadı.")
  let db ← returnPart db tenantId workOrderId item
  recalculateTotals { db with workOrderItems := db.workOrderItems.erase itemId } workOrderId

/-- The transaction of `restoreCancelledStock`, for the items read before it. -/
def restoreCancelledStock (db : Db) (tenantId workOrderId : Uuid)
    (items : List (Uuid × WorkOrderItem)) : Outcome Db :=
  items.foldlM (fun db it => returnPart db tenantId workOrderId it.2) db

end Items

section Orders

def findActiveByVehicleId (db : Db) (tenantId vehicleId : Uuid) : Option (Uuid × WorkOrder) :=
  db.workOrders.find? fun wo =>
    wo.tenantId = tenantId ∧ wo.vehicleId = vehicleId ∧
      (wo.status = .queue ∨ wo.status = .inProgress)

def getNextWorkOrderNumber (clock : Clock) (db : Db) (tenantId : Uuid) :
    Outcome (Db × String) := do
  let (db, n) ← nextDocumentNumber db tenantId .workOrder clock.year
  pure (db, "WO-" ++ Nat.repr clock.year ++ "-" ++ padStart n 5)

def Db.onLeave (db : Db) (clock : Clock) (tenantId userId : Uuid) : Bool :=
  (db.staffLeaves.find? fun l =>
    l.tenantId = tenantId ∧ l.userId = userId ∧ l.status ≠ .cancelled ∧
      l.startDate ≤ clock.now ∧ clock.now ≤ l.endDate).isSome

/-- A technician put on an order works for the tenant, is active and is not on leave. -/
def checkMechanic (clock : Clock) (db : Db) (tenantId : Uuid) : Option Uuid → Outcome Unit
  | none => pure ()
  | some id => do
    let mechanic ← Outcome.required
      ((db.mechanics.get? id).filter fun m => m.tenantId = tenantId)
      (.badRequest "Seçilen teknisyen bulunamadı veya bu işletmeye ait değil.")
    let user := db.users.get? mechanic.userId
    Outcome.reject (user.any fun u => !u.isActive)
      (.badRequest "Seçilen personel pasif durumdadır, iş emrine atanamaz.")
    Outcome.reject (db.onLeave clock tenantId mechanic.userId)
      (.badRequest
        ("Seçilen teknisyen (" ++ user.elim "undefined" User.name ++ " " ++
          user.elim "" User.surname ++
          ") şu anda izinli/raporlu olduğu için iş emrine atanamaz."))

def setAppointmentStatus (status : AppointmentStatus) (a : Appointment) : Appointment :=
  { a with status }

def admitAppointment (db : Db) (tenantId : Uuid) : Option Uuid → Outcome Db
  | none => pure db
  | some id => do
    let _ ← Outcome.required (db.appointment? tenantId id)
      (.badRequest "Seçilen randevu bulunamadı veya bu işletmeye ait değil.")
    pure { db with appointments := db.appointments.modify id (setAppointmentStatus .inService) }

/-- `workOrder.create`: an appointment has one order, a number is used once per tenant. -/
def insertWorkOrder (db : Db) (data : CreateWorkOrderData) : Outcome (Db × Uuid) := do
  Outcome.reject
    (data.appointmentId.isSome &&
      (db.workOrders.find? fun wo => wo.appointmentId = data.appointmentId).isSome)
    (.database "P2002")
  Outcome.reject
    (db.workOrders.find? fun wo =>
      wo.tenantId = data.tenantId ∧ wo.workOrderNumber = data.workOrderNumber).isSome
    (.database "P2002")
  let initialKm ← int4 data.initialKm
  let subtotal ← numeric 12 data.subtotal
  let kdvAmount ← numeric 12 data.kdvAmount
  let grandTotal ← numeric 12 data.grandTotal
  let row : WorkOrder :=
    { tenantId := data.tenantId, workOrderNumber := data.workOrderNumber,
      appointmentId := data.appointmentId, customerId := data.customerId,
      vehicleId := data.vehicleId, assignedMechanicId := data.assignedMechanicId,
      assignedLift := data.assignedLift, status := data.status, initialKm,
      fuelLevel := data.fuelLevel, subtotal, kdvAmount, grandTotal, completedAt := none }
  pure ({ db with workOrders := db.workOrders.insert row }, db.workOrders.next)

def advanceOdometer (db : Db) (vehicleId : Uuid) (vehicle : Vehicle) (initialKm : ℤ) : Db :=
  { db with
    vehicles :=
      if 0 < initialKm ∧ vehicle.currentKm < initialKm then
        db.vehicles.modify vehicleId fun v => { v with currentKm := initialKm }
      else db.vehicles }

/-- A rate of zero is stored as the default here, unlike in `addItem`. -/
def storeNewItem (tenantId workOrderId : Uuid) (db : Db) (item : NewWorkOrderItem) :
    Outcome Db := do
  let db ← consumePart db tenantId workOrderId item
  insertItem db workOrderId { item with kdvRate := if item.kdvRate = 0 then 20 else item.kdvRate }

def createWorkOrder (clock : Clock) (db : Db) (data : CreateWorkOrderData) :
    Outcome (Db × Uuid) := do
  let _ ← Outcome.required (db.liveCustomer? data.tenantId data.customerId)
    (.badRequest "Seçilen müşteri bulunamadı veya bu işletmeye ait değil.")
  let vehicle ← Outcome.required
    ((db.vehicles.get? data.vehicleId).filter fun v =>
      v.tenantId = data.tenantId ∧ v.deletedAt = none)
    (.badRequest "Seçilen araç bulunamadı veya bu işletmeye ait değil.")
  Outcome.reject (vehicle.customerId ≠ data.customerId)
    (.badRequest "Seçilen araç ile müşteri eşleşmiyor.")
  checkMechanic clock db data.tenantId data.assignedMechanicId
  let db ← admitAppointment db data.tenantId data.appointmentId
  let (db, workOrderId) ← insertWorkOrder db data
  let db := advanceOdometer db data.vehicleId vehicle data.initialKm
  let db ← data.items.foldlM (storeNewItem data.tenantId workOrderId) db
  pure (db, workOrderId)

def existingOrder (db : Db) (tenantId id : Uuid) : Outcome WorkOrder :=
  Outcome.required (db.workOrder? tenantId id)
    (.notFound "İş emri bulunamadı veya bu işletmeye ait değil.")

def WorkOrder.setStatus (status : WorkOrderStatus) (completedAt : Option Instant)
    (wo : WorkOrder) : WorkOrder :=
  { wo with status, completedAt }

/-- The write of `updateStatus` and `rollbackStatus`; it does not look at the status it replaces. -/
def writeStatus (db : Db) (id : Uuid) (status : WorkOrderStatus) (completedAt : Option Instant) :
    Outcome Db := do
  let _ ← Outcome.required (db.workOrders.get? id) (.database "P2025")
  pure { db with workOrders := db.workOrders.modify id (WorkOrder.setStatus status completedAt) }

def getTenantAutoInvoiceConfig (db : Db) (tenantId : Uuid) : Bool :=
  (db.tenants.get? tenantId).any Tenant.autoInvoiceOnComplete

def findInvoiceByWorkOrder (db : Db) (tenantId workOrderId : Uuid) : Option (Uuid × Invoice) :=
  db.invoices.find? fun inv => inv.tenantId = tenantId ∧ inv.workOrderId = some workOrderId

def syncAppointmentStatus (db : Db) (tenantId appointmentId : Uuid) (status : AppointmentStatus) :
    Db :=
  { db with
    appointments := db.appointments.modifyIf
      (fun id a => id = appointmentId ∧ a.tenantId = tenantId) (setAppointmentStatus status) }

end Orders

end WorksAuto
