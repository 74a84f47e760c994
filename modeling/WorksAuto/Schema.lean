import WorksAuto.Lib.Table
import WorksAuto.Values

/-! The relational schema: enumerations, rows and the database.
A row holds the columns that the modelled services read or write; its `id` is
the key of its table. Amounts are whole hundredths. Unique columns are checked
where rows are created. -/

namespace WorksAuto

open Lib

inductive UserRole where
  | superAdmin | owner | serviceManager | technician | cashier | warehouseKeeper
  deriving DecidableEq, Repr

inductive AppointmentStatus where
  | pending | confirmed | inService | completed | cancelled | noShow
  deriving DecidableEq, Repr

inductive WorkOrderStatus where
  | queue | inProgress | completed | cancelled
  deriving DecidableEq, Repr

inductive WorkOrderItemType where
  | service | part
  deriving DecidableEq, Repr

inductive StockMovementType where
  | inPurchase | outWorkOrder | adjustment | return
  deriving DecidableEq, Repr

inductive InvoiceStatus where
  | unpaid | partiallyPaid | paid | cancelled
  deriving DecidableEq, Repr

inductive PaymentMethod where
  | advanceOffset | cash | pos | bankTransfer | online
  deriving DecidableEq, Repr

inductive CariReferenceType where
  | invoice | payment | manualCollection
  deriving DecidableEq, Repr

inductive LeaveStatus where
  | approved | pending | cancelled
  deriving DecidableEq, Repr

inductive PaymentAttemptStatus where
  | pending | paid
  deriving DecidableEq, Repr

inductive DocType where
  | invoice | workOrder
  deriving DecidableEq, Repr

structure Tenant where
  slug : String
  title : String
  isActive : Bool
  autoInvoiceOnComplete : Bool
  deriving DecidableEq, Repr

structure User where
  tenantId : Option Uuid
  name : String
  surname : String
  role : UserRole
  isActive : Bool
  deriving DecidableEq, Repr

structure Customer where
  tenantId : Uuid
  firstName : String
  lastName : String
  companyTitle : Option String
  phone : String
  email : Option String
  address : Option String
  creditLimit : ℤ
  deletedAt : Option Instant
  deriving DecidableEq, Repr

structure Vehicle where
  tenantId : Uuid
  customerId : Uuid
  plate : String
  currentKm : ℤ
  deletedAt : Option Instant
  deriving DecidableEq, Repr

structure Mechanic where
  tenantId : Uuid
  userId : Uuid
  deriving DecidableEq, Repr

structure StaffLeave where
  tenantId : Uuid
  userId : Uuid
  startDate : Instant
  endDate : Instant
  status : LeaveStatus
  deriving DecidableEq, Repr

structure Service where
  tenantId : Uuid
  deriving DecidableEq, Repr

structure WorkshopBay where
  tenantId : Uuid
  name : String
  isActive : Bool
  isAvailableForOnline : Bool
  orderIndex : ℤ
  deriving DecidableEq, Repr

structure Appointment where
  tenantId : Uuid
  customerId : Uuid
  vehicleId : Uuid
  serviceId : Option Uuid
  assignedMechanicId : Option Uuid
  assignedLift : Option String
  slotDate : Instant
  slotStartTime : Instant
  slotEndTime : Instant
  status : AppointmentStatus
  customerNotes : Option String
  cancellationReason : Option String
  deriving DecidableEq, Repr

structure WorkOrder where
  tenantId : Uuid
  workOrderNumber : String
  appointmentId : Option Uuid
  customerId : Uuid
  vehicleId : Uuid
  assignedMechanicId : Option Uuid
  assignedLift : Option String
  status : WorkOrderStatus
  initialKm : ℤ
  fuelLevel : Option String
  subtotal : ℤ
  kdvAmount : ℤ
  grandTotal : ℤ
  completedAt : Option Instant
  deriving DecidableEq, Repr

structure WorkOrderItem where
  workOrderId : Uuid
  itemType : WorkOrderItemType
  itemId : Option Uuid
  name : String
  quantity : ℤ
  unitPrice : ℤ
  /-- Hundredths of a percent. -/
  kdvRate : ℤ
  totalPrice : ℤ
  deriving DecidableEq, Repr

structure Product where
  tenantId : Uuid
  name : String
  oemCode : String
  barcode : Option String
  category : String
  brand : String
  stockQuantity : ℤ
  minStockLevel : ℤ
  shelfLocation : String
  purchasePrice : ℤ
  salePrice : ℤ
  kdvRate : ℤ
  deletedAt : Option Instant
  shelfId : Option Uuid
  shelfCellId : Option Uuid
  aisle : Option String
  rack : Option String
  tier : Option String
  bin : Option String
  deriving DecidableEq, Repr

structure StockMovement where
  tenantId : Uuid
  productId : Uuid
  movementType : StockMovementType
  quantity : ℤ
  referenceId : Option String
  deriving DecidableEq, Repr

structure WarehouseShelf where
  tenantId : Uuid
  name : String
  code : String
  zone : Option String
  deriving DecidableEq, Repr

structure ShelfCell where
  shelfId : Uuid
  cellCode : String
  rowNumber : ℤ
  colNumber : ℤ
  deriving DecidableEq, Repr

structure Invoice where
  tenantId : Uuid
  workOrderId : Option Uuid
  customerId : Uuid
  invoiceNumber : String
  issueDate : Instant
  dueDate : Instant
  subtotal : ℤ
  kdvAmount : ℤ
  grandTotal : ℤ
  paidAmount : ℤ
  remainingAmount : ℤ
  status : InvoiceStatus
  eInvoiceUuid : Option String
  eInvoiceStatus : Option String
  gibInvoiceNumber : Option String
  profileId : Option String
  invoiceTypeCode : String
  notes : Option String
  deriving DecidableEq, Repr

structure InvoiceItem where
  invoiceId : Uuid
  itemType : WorkOrderItemType
  name : String
  quantity : ℤ
  unitPrice : ℤ
  kdvRate : ℤ
  totalPrice : ℤ
  notes : Option String
  deriving DecidableEq, Repr

structure Payment where
  tenantId : Uuid
  invoiceId : Option Uuid
  customerId : Uuid
  amount : ℤ
  paymentMethod : PaymentMethod
  cashierName : String
  posSlipNo : Option String
  notes : Option String
  gatewayProvider : Option String
  transactionId : Option String
  deriving DecidableEq, Repr

structure PaymentAttempt where
  /-- The order number under which the gateway knows the attempt; unique. -/
  id : String
  tenantId : Uuid
  invoiceId : Uuid
  amount : ℤ
  status : PaymentAttemptStatus
  deriving DecidableEq, Repr

structure CurrentAccount where
  tenantId : Uuid
  customerId : Uuid
  totalDebits : ℤ
  totalCredits : ℤ
  balance : ℤ
  isBlocked : Bool
  deriving DecidableEq, Repr

structure CariMovement where
  tenantId : Uuid
  currentAccountId : Uuid
  referenceType : CariReferenceType
  debit : ℤ
  credit : ℤ
  balanceAfter : ℤ
  deriving DecidableEq, Repr

structure DocumentSequence where
  tenantId : Uuid
  docType : DocType
  year : ℕ
  lastNumber : ℕ
  deriving DecidableEq, Repr

structure Db where
  tenants : Table Tenant
  users : Table User
  customers : Table Customer
  vehicles : Table Vehicle
  mechanics : Table Mechanic
  staffLeaves : Table StaffLeave
  services : Table Service
  workshopBays : Table WorkshopBay
  appointments : Table Appointment
  workOrders : Table WorkOrder
  workOrderItems : Table WorkOrderItem
  products : Table Product
  stockMovements : Table StockMovement
  warehouseShelves : Table WarehouseShelf
  shelfCells : Table ShelfCell
  invoices : Table Invoice
  invoiceItems : Table InvoiceItem
  payments : Table Payment
  paymentAttempts : Table PaymentAttempt
  currentAccounts : Table CurrentAccount
  cariMovements : Table CariMovement
  documentSequences : Table DocumentSequence

def Db.empty : Db where
  tenants := .empty
  users := .empty
  customers := .empty
  vehicles := .empty
  mechanics := .empty
  staffLeaves := .empty
  services := .empty
  workshopBays := .empty
  appointments := .empty
  workOrders := .empty
  workOrderItems := .empty
  products := .empty
  stockMovements := .empty
  warehouseShelves := .empty
  shelfCells := .empty
  invoices := .empty
  invoiceItems := .empty
  payments := .empty
  paymentAttempts := .empty
  currentAccounts := .empty
  cariMovements := .empty
  documentSequences := .empty

/-- What a request reads from the running process: `new Date()` and its year. -/
structure Clock where
  now : Instant
  year : ℕ
  deriving DecidableEq, Repr

namespace Db

/-- `findFirst({ where: { id, tenantId } })` on a work order. -/
def workOrder? (db : Db) (tenantId id : Uuid) : Option WorkOrder :=
  (db.workOrders.get? id).filter fun wo => wo.tenantId = tenantId

def invoice? (db : Db) (tenantId id : Uuid) : Option Invoice :=
  (db.invoices.get? id).filter fun inv => inv.tenantId = tenantId

def product? (db : Db) (tenantId id : Uuid) : Option Product :=
  (db.products.get? id).filter fun p => p.tenantId = tenantId

def appointment? (db : Db) (tenantId id : Uuid) : Option Appointment :=
  (db.appointments.get? id).filter fun a => a.tenantId = tenantId

def liveCustomer? (db : Db) (tenantId id : Uuid) : Option Customer :=
  (db.customers.get? id).filter fun c => c.tenantId = tenantId ∧ c.deletedAt = none

/-- The items of an order with their ids, as `include: { items: true }` reads them. -/
def itemsOf (db : Db) (workOrderId : Uuid) : List (Uuid × WorkOrderItem) :=
  db.workOrderItems.filter fun it => it.workOrderId = workOrderId

def currentAccountOf? (db : Db) (tenantId customerId : Uuid) : Option (Uuid × CurrentAccount) :=
  db.currentAccounts.find? fun a => a.customerId = customerId ∧ a.tenantId = tenantId

theorem workOrder?_eq_some {db : Db} {t id : Uuid} {wo : WorkOrder} :
    db.workOrder? t id = some wo ↔ db.workOrders.get? id = some wo ∧ wo.tenantId = t := by
  simp [workOrder?, Option.filter_eq_some_iff]

theorem invoice?_eq_some {db : Db} {t id : Uuid} {inv : Invoice} :
    db.invoice? t id = some inv ↔ db.invoices.get? id = some inv ∧ inv.tenantId = t := by
  simp [invoice?, Option.filter_eq_some_iff]

theorem product?_eq_some {db : Db} {t id : Uuid} {p : Product} :
    db.product? t id = some p ↔ db.products.get? id = some p ∧ p.tenantId = t := by
  simp [product?, Option.filter_eq_some_iff]

theorem appointment?_eq_some {db : Db} {t id : Uuid} {a : Appointment} :
    db.appointment? t id = some a ↔ db.appointments.get? id = some a ∧ a.tenantId = t := by
  simp [appointment?, Option.filter_eq_some_iff]

theorem mem_itemsOf {db : Db} {w k : Uuid} {it : WorkOrderItem} :
    (k, it) ∈ db.itemsOf w ↔ db.workOrderItems.get? k = some it ∧ it.workOrderId = w := by
  simp [itemsOf, Table.mem_filter_iff]

theorem currentAccountOf?_some {db : Db} {t c k : Uuid} {a : CurrentAccount}
    (h : db.currentAccountOf? t c = some (k, a)) :
    db.currentAccounts.get? k = some a ∧ a.customerId = c ∧ a.tenantId = t := by
  obtain ⟨hk, hp⟩ := Table.find?_some h
  exact ⟨hk, by simpa using hp⟩

end Db

end WorksAuto
