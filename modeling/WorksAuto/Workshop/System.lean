import WorksAuto.Appointments.Cancel
import WorksAuto.Inventory.StockItem
import WorksAuto.Lib.Pool
import WorksAuto.Lib.Run
import WorksAuto.WorkOrders.UseCases

/-! The workshop as a system of requests.
A request runs in parts: each read outside a transaction is a part, and each
statement or transaction that writes is one. `WorkshopTask` says how far a
request has come and what it has read so far. Requests of concurrent clients
interleave part by part; requests served one after another are completed by
`serve`. -/

namespace WorksAuto

open Lib

/-- What the surroundings decide when a request goes on: the time, the answers of
the e-invoice provider, whether the notification at the end fails, and the case
mapping of the runtime. -/
structure WorkshopEnv where
  clock : Clock
  eInvoice : EInvoiceOutcome
  eInvoiceCancellation : Option (Outcome Unit)
  notificationError : Option ApiError
  toUpperCase : String → String

structure StatusUpdate where
  tenantId : Uuid
  id : Uuid
  target : WorkOrderStatus
  /-- The order as it was read first. -/
  order : WorkOrder
  deriving DecidableEq, Repr

inductive WorkshopTask where
  -- CreateWorkOrderUseCase
  | createOrder (tenantId : Uuid) (input : CreateWorkOrderInput)
  | numberOrder (tenantId : Uuid) (input : CreateWorkOrderInput)
  | storeOrder (tenantId : Uuid) (input : CreateWorkOrderInput) (woNumber : String)
  -- AddWorkOrderItemUseCase, UpdateWorkOrderItemQuantityUseCase, RemoveWorkOrderItemUseCase
  | addItem (tenantId workOrderId : Uuid) (dto : AddWorkOrderItemDto)
  | storeItem (tenantId workOrderId : Uuid) (dto : AddWorkOrderItemDto)
  | updateItem (tenantId workOrderId itemId : Uuid) (data : WorkOrderItemChanges)
      (userRole : Option UserRole)
  | changeItem (tenantId workOrderId itemId : Uuid) (data : WorkOrderItemChanges)
  | removeItem (tenantId workOrderId itemId : Uuid)
  | deleteItem (tenantId workOrderId itemId : Uuid)
  -- UpdateWorkOrderStatusUseCase
  | updateStatus (tenantId id : Uuid) (newStatus : String)
  | confirmOrder (u : StatusUpdate)
  | writeStatus (u : StatusUpdate)
  | readCancelled (u : StatusUpdate)
  | restoreStock (u : StatusUpdate) (items : List (Uuid × WorkOrderItem))
  | syncAppointment (u : StatusUpdate)
  | readAutoInvoice (u : StatusUpdate)
  | readInvoice (u : StatusUpdate)
  -- RollbackWorkOrderUseCase
  | rollback (tenantId id : Uuid)
  | confirmRollback (tenantId id : Uuid) (prevStatus : WorkOrderStatus)
  | writeRollback (tenantId id : Uuid) (prevStatus : WorkOrderStatus)
  -- CreateInvoiceUseCase, CancelInvoiceUseCase
  | issueInvoice (tenantId : Uuid) (dto : CreateInvoiceInput)
  | eInvoice (tenantId id : Uuid) (details : EInvoiceDetails)
  | cancelInvoice (tenantId id : Uuid) (reason : String)
  | voidInvoice (tenantId id : Uuid)
  -- CancelAppointmentUseCase
  | cancelAppointment (tenantId id : Uuid) (reason : String)
  | storeCancellation (tenantId id : Uuid) (reason : String)
  -- DecrementStockUseCase, IncrementStockUseCase
  | decrementStock (tenantId productId : Uuid) (quantity : ℤ) (refId : String)
  | storeDecrement (tenantId productId : Uuid) (quantity : ℤ) (refId : String)
  | incrementStock (tenantId productId : Uuid) (quantity : ℤ) (refId : String)
  | storeIncrement (tenantId productId : Uuid) (quantity : ℤ) (refId : String)
  -- AddStockMovementUseCase and UpdateStockItemUseCase, which go on with `save`
  | addMovement (tenantId productId : Uuid) (input : AddStockMovementInput)
  | updateProduct (tenantId id : Uuid) (dto : UpdateProductDto)
  | saveRead (item : StockItemEntity) (movement : Option StockMovement)
  | saveCell (item : StockItemEntity) (movement : Option StockMovement) (existing : Product)
  | saveProduct (item : StockItemEntity) (movement : Option StockMovement) (shelf : ResolvedShelf)
  | checkMovement (movement : StockMovement)
  | storeMovement (movement : StockMovement)
  | finished (answer : Outcome Unit)

namespace WorkshopTask

def reads {α : Type} (db : Db) (r : Outcome α) (next : α → WorkshopTask) : Db × WorkshopTask :=
  match r with
  | .error e => (db, .finished (.error e))
  | .ok a => (db, next a)

def commits (db : Db) (r : Outcome Db) (next : WorkshopTask) : Db × WorkshopTask :=
  match r with
  | .error e => (db, .finished (.error e))
  | .ok db' => (db', next)

def notified (env : WorkshopEnv) : WorkshopTask :=
  .finished (env.notificationError.elim (.ok ()) .error)

def afterSync (u : StatusUpdate) : WorkshopTask :=
  if u.target = .completed then .readAutoInvoice u else .finished (.ok ())

def afterRestore (u : StatusUpdate) : WorkshopTask :=
  if u.order.appointmentId.isSome ∧ (appointmentStatusFor u.target).isSome then
    .syncAppointment u
  else afterSync u

def afterWrite (u : StatusUpdate) : WorkshopTask :=
  if u.target = .cancelled ∧ u.order.status ≠ .cancelled then .readCancelled u
  else afterRestore u

def afterIssue (env : WorkshopEnv) (tenantId : Uuid) (dto : CreateInvoiceInput) (id : Uuid) :
    WorkshopTask :=
  match env.eInvoice.details dto with
  | some details => .eInvoice tenantId id details
  | none => .finished (.ok ())

def exec (db : Db) (t : WorkshopTask) (env : WorkshopEnv) : Db × WorkshopTask :=
  match t with
  | .createOrder tenantId input =>
    reads db (checkNoActiveOrder db tenantId input.vehicleId) fun _ => .numberOrder tenantId input
  | .numberOrder tenantId input =>
    match getNextWorkOrderNumber env.clock db tenantId with
    | .error e => (db, .finished (.error e))
    | .ok (db', woNumber) => (db', .storeOrder tenantId input woNumber)
  | .storeOrder tenantId input woNumber =>
    commits db
      ((createWorkOrder env.clock db (workOrderData tenantId input woNumber)).map Prod.fst)
      (notified env)
  | .addItem tenantId workOrderId dto =>
    reads db (checkAddItem db tenantId workOrderId) fun _ => .storeItem tenantId workOrderId dto
  | .storeItem tenantId workOrderId dto =>
    commits db (WorksAuto.addItem db tenantId workOrderId dto.item) (.finished (.ok ()))
  | .updateItem tenantId workOrderId itemId data userRole =>
    reads db (checkUpdateItem db tenantId workOrderId itemId data userRole) fun _ =>
      .changeItem tenantId workOrderId itemId data
  | .changeItem tenantId workOrderId itemId data =>
    commits db (WorksAuto.updateItem db tenantId workOrderId itemId data) (.finished (.ok ()))
  | .removeItem tenantId workOrderId itemId =>
    reads db (checkRemoveItem db tenantId workOrderId itemId) fun _ =>
      .deleteItem tenantId workOrderId itemId
  | .deleteItem tenantId workOrderId itemId =>
    commits db (WorksAuto.removeItem db tenantId workOrderId itemId) (.finished (.ok ()))
  | .updateStatus tenantId id newStatus =>
    reads db (checkTransition db tenantId id newStatus) fun (target, order) =>
      .confirmOrder { tenantId, id, target, order }
  | .confirmOrder u => reads db (existingOrder db u.tenantId u.id) fun _ => .writeStatus u
  | .writeStatus u =>
    commits db (WorksAuto.writeStatus db u.id u.target (completionTime env.clock u.target))
      (afterWrite u)
  | .readCancelled u =>
    match db.workOrder? u.tenantId u.id with
    | none => (db, afterRestore u)
    | some _ => (db, .restoreStock u (db.itemsOf u.id))
  | .restoreStock u items =>
    commits db (restoreCancelledStock db u.tenantId u.id items) (afterRestore u)
  | .syncAppointment u =>
    match u.order.appointmentId, appointmentStatusFor u.target with
    | some appointmentId, some status =>
      (syncAppointmentStatus db u.tenantId appointmentId status, afterSync u)
    | _, _ => (db, afterSync u)
  | .readAutoInvoice u =>
    if getTenantAutoInvoiceConfig db u.tenantId then (db, .readInvoice u)
    else (db, .finished (.ok ()))
  | .readInvoice u =>
    if (findInvoiceByWorkOrder db u.tenantId u.id).isNone ∧ 0 < u.order.grandTotal then
      (db, .issueInvoice u.tenantId (autoInvoiceInput env.clock u.id u.order))
    else (db, .finished (.ok ()))
  | .rollback tenantId id =>
    reads db (rollbackTarget db tenantId id) fun prev => .confirmRollback tenantId id prev
  | .confirmRollback tenantId id prev =>
    reads db (existingOrder db tenantId id) fun _ => .writeRollback tenantId id prev
  | .writeRollback _ id prev =>
    commits db (WorksAuto.writeStatus db id prev none) (.finished (.ok ()))
  | .issueInvoice tenantId dto =>
    match createWithCariMovement env.clock db (dto.entity env.clock tenantId)
        dto.offsetAdvanceAmount with
    | .error e => (db, .finished (.error e))
    | .ok (db', result) => (db', afterIssue env tenantId dto result.invoiceId)
  | .eInvoice tenantId id details =>
    commits db (updateEInvoiceDetails db tenantId id details) (.finished (.ok ()))
  | .cancelInvoice tenantId id reason =>
    reads db (checkCancelInvoice env.clock db tenantId id reason env.eInvoiceCancellation)
      fun _ => .voidInvoice tenantId id
  | .voidInvoice tenantId id =>
    commits db (cancelWithCariReversal db tenantId id) (.finished (.ok ()))
  | .cancelAppointment tenantId id reason =>
    reads db (checkCancelAppointment db tenantId id) fun _ => .storeCancellation tenantId id reason
  | .storeCancellation tenantId id reason =>
    commits db (cancelAppointmentAndWorkOrder db tenantId id reason) (notified env)
  | .decrementStock tenantId productId quantity refId =>
    reads db (checkDecrement env.toUpperCase db tenantId productId quantity) fun _ =>
      .storeDecrement tenantId productId quantity refId
  | .storeDecrement tenantId productId quantity refId =>
    commits db (decrementAtomic db tenantId productId quantity refId) (notified env)
  | .incrementStock tenantId productId quantity refId =>
    reads db (checkIncrement env.toUpperCase db tenantId productId quantity) fun _ =>
      .storeIncrement tenantId productId quantity refId
  | .storeIncrement tenantId productId quantity refId =>
    commits db (incrementAtomic db tenantId productId quantity refId) (.finished (.ok ()))
  | .addMovement tenantId productId input =>
    reads db (loadForMovement env.toUpperCase db tenantId productId input) fun item =>
      .saveRead item (some (input.movement tenantId productId))
  | .updateProduct tenantId id dto =>
    reads db (loadForUpdate env.toUpperCase db tenantId id dto) fun item => .saveRead item none
  | .saveRead item movement =>
    reads db (savedProduct db item) fun existing => .saveCell item movement existing
  | .saveCell item movement existing =>
    (db, .saveProduct item movement (resolveShelf existing item (item.cell? db)))
  | .saveProduct item movement shelf =>
    commits db (WorksAuto.saveProduct db item shelf)
      (movement.elim (.finished (.ok ())) .checkMovement)
  | .checkMovement movement =>
    reads db (movementProduct db movement) fun _ => .storeMovement movement
  | .storeMovement movement => commits db (addStockMovement db movement) (notified env)
  | .finished answer => (db, .finished answer)

end WorkshopTask

inductive WorkshopRequest where
  | createWorkOrder (tenantId : Uuid) (input : CreateWorkOrderInput)
  | addWorkOrderItem (tenantId workOrderId : Uuid) (dto : AddWorkOrderItemDto)
  | updateWorkOrderItemQuantity (tenantId workOrderId itemId : Uuid)
      (data : WorkOrderItemChanges) (userRole : Option UserRole)
  | removeWorkOrderItem (tenantId workOrderId itemId : Uuid)
  | updateWorkOrderStatus (tenantId id : Uuid) (newStatus : String)
  | rollbackWorkOrder (tenantId id : Uuid)
  | createInvoice (tenantId : Uuid) (dto : CreateInvoiceInput)
  | cancelInvoice (tenantId id : Uuid) (reason : String)
  | cancelAppointment (tenantId id : Uuid) (reason : String)
  | decrementStock (tenantId productId : Uuid) (quantity : ℤ) (refId : String)
  | incrementStock (tenantId productId : Uuid) (quantity : ℤ) (refId : String)
  | addStockMovement (tenantId productId : Uuid) (input : AddStockMovementInput)
  | updateStockItem (tenantId id : Uuid) (dto : UpdateProductDto)

def WorkshopRequest.enter : WorkshopRequest → WorkshopTask
  | .createWorkOrder tenantId input => .createOrder tenantId input
  | .addWorkOrderItem tenantId workOrderId dto => .addItem tenantId workOrderId dto
  | .updateWorkOrderItemQuantity tenantId workOrderId itemId data userRole =>
    .updateItem tenantId workOrderId itemId data userRole
  | .removeWorkOrderItem tenantId workOrderId itemId => .removeItem tenantId workOrderId itemId
  | .updateWorkOrderStatus tenantId id newStatus => .updateStatus tenantId id newStatus
  | .rollbackWorkOrder tenantId id => .rollback tenantId id
  | .createInvoice tenantId dto => .issueInvoice tenantId dto
  | .cancelInvoice tenantId id reason => .cancelInvoice tenantId id reason
  | .cancelAppointment tenantId id reason => .cancelAppointment tenantId id reason
  | .decrementStock tenantId productId quantity refId =>
    .decrementStock tenantId productId quantity refId
  | .incrementStock tenantId productId quantity refId =>
    .incrementStock tenantId productId quantity refId
  | .addStockMovement tenantId productId input => .addMovement tenantId productId input
  | .updateStockItem tenantId id dto => .updateProduct tenantId id dto

abbrev WorkshopPool := Pool Db WorkshopTask

/-- Concurrent clients: a request begins, or one that is under way runs its next part. -/
def WorkshopPool.act :
    WorkshopPool → PoolAction WorkshopRequest WorkshopEnv → WorkshopPool :=
  Pool.act WorkshopRequest.enter WorkshopTask.exec

end WorksAuto
