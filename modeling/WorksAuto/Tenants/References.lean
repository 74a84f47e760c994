import WorksAuto.Appointments.System
import WorksAuto.Billing.System
import WorksAuto.Inventory.Shelves
import WorksAuto.Lib.Ownership

/-! The references between the rows of tenants, and the requests that write them.
The requests of all modules run in parts over one database. A lookup sees what the row policies
show to the tenant of its request. A foreign key is checked without them: it asks for a row, not
for one of the tenant. -/

namespace WorksAuto

open Lib

section References

inductive Target where
  | customer | vehicle | mechanic | service | appointment | workOrder | invoice | shelfCell
  deriving DecidableEq, Repr

abbrev Reference := Target × Uuid

def Target.ref? (target : Target) (id : Option Uuid) : List Reference :=
  id.toList.map fun id => (target, id)

def Product.references (p : Product) : List Reference := Target.shelfCell.ref? p.shelfCellId

def Appointment.references (a : Appointment) : List Reference :=
  (.customer, a.customerId) :: (.vehicle, a.vehicleId) ::
    (Target.service.ref? a.serviceId ++ Target.mechanic.ref? a.assignedMechanicId)

def WorkOrder.references (wo : WorkOrder) : List Reference :=
  (.customer, wo.customerId) :: (.vehicle, wo.vehicleId) ::
    (Target.mechanic.ref? wo.assignedMechanicId ++ Target.appointment.ref? wo.appointmentId)

def Invoice.references (inv : Invoice) : List Reference :=
  (.customer, inv.customerId) :: Target.workOrder.ref? inv.workOrderId

def Payment.references (p : Payment) : List Reference :=
  (.customer, p.customerId) :: Target.invoice.ref? p.invoiceId

/-- The tenant of the row that a reference names, if there is a row. A cell is its shelf's. -/
def Db.owner? (db : Db) : Reference → Option Uuid
  | (.customer, id) => (db.customers.get? id).map Customer.tenantId
  | (.vehicle, id) => (db.vehicles.get? id).map Vehicle.tenantId
  | (.mechanic, id) => (db.mechanics.get? id).map Mechanic.tenantId
  | (.service, id) => (db.services.get? id).map Service.tenantId
  | (.appointment, id) => (db.appointments.get? id).map Appointment.tenantId
  | (.workOrder, id) => (db.workOrders.get? id).map WorkOrder.tenantId
  | (.invoice, id) => (db.invoices.get? id).map Invoice.tenantId
  | (.shelfCell, id) => (db.cellAndShelf? id).map fun c => c.2.tenantId

/-- Every reference of every row satisfies a property, together with the tenant of the row. -/
structure Db.EachReference (db : Db) (R : Uuid → Reference → Prop) : Prop where
  products : db.products.All fun p => ∀ x ∈ p.references, R p.tenantId x
  appointments : db.appointments.All fun a => ∀ x ∈ a.references, R a.tenantId x
  workOrders : db.workOrders.All fun wo => ∀ x ∈ wo.references, R wo.tenantId x
  invoices : db.invoices.All fun inv => ∀ x ∈ inv.references, R inv.tenantId x
  payments : db.payments.All fun p => ∀ x ∈ p.references, R p.tenantId x

instance (db : Db) (R : Uuid → Reference → Prop) [∀ t x, Decidable (R t x)] :
    Decidable (db.EachReference R) :=
  decidable_of_iff (_ ∧ _ ∧ _ ∧ _ ∧ _)
    ⟨fun h => ⟨h.1, h.2.1, h.2.2.1, h.2.2.2.1, h.2.2.2.2⟩, fun h => ⟨h.1, h.2, h.3, h.4, h.5⟩⟩

def Db.Owned (db : Db) : Prop := db.EachReference fun tenantId x => db.owner? x = some tenantId

/-- The foreign keys hold: each reference names a row, whoever it belongs to. -/
def Db.Referential (db : Db) : Prop := db.EachReference fun _ x => (db.owner? x).isSome = true

instance (db : Db) : Decidable db.Owned :=
  inferInstanceAs (Decidable (db.EachReference fun tenantId x => db.owner? x = some tenantId))

instance (db : Db) : Decidable db.Referential :=
  inferInstanceAs (Decidable (db.EachReference fun _ x => (db.owner? x).isSome = true))

def Db.foreign (db : Db) (tenantId : Uuid) (x : Reference) : Bool :=
  (db.owner? x).any fun owner => owner ≠ tenantId

end References

section Directory

/-! Customers and vehicles are stored with whatever columns their use cases compute; the
tenant of a row is that of the request that creates it, and no update names it. -/

inductive DirectoryTask where
  | createCustomer (tenantId : Uuid) (customer : Customer)
  | updateCustomer (tenantId id : Uuid) (customer : Customer)
  | createVehicle (tenantId : Uuid) (vehicle : Vehicle)
  | updateVehicle (tenantId id : Uuid) (vehicle : Vehicle)
  -- GetCustomerCurrentAccountUseCase
  | findAccount (tenantId customerId : Uuid)
  | customerExists (tenantId customerId : Uuid)
  | createAccount (tenantId customerId : Uuid)
  | insertAccount (tenantId customerId : Uuid)
  -- ServicesService
  | createService (tenantId : Uuid)
  | removeService (tenantId id : Uuid)
  | deleteService (id : Uuid)
  -- StaffService
  | createStaff (tenantId : Uuid) (user : User)
  | updateStaff (tenantId id : Uuid) (role : Option UserRole)
  | removeStaff (tenantId id : Uuid)
  | deleteMechanic (mechanicId id : Uuid)
  | deleteUser (id : Uuid)
  | finished (answer : Outcome Unit)

def Appointment.dropService (a : Appointment) : Appointment := { a with serviceId := none }

def Appointment.dropMechanic (a : Appointment) : Appointment := { a with assignedMechanicId := none }

def WorkOrder.dropMechanic (wo : WorkOrder) : WorkOrder := { wo with assignedMechanicId := none }

def Db.withoutService (db : Db) (id : Uuid) : Db :=
  { db with
    services := db.services.erase id
    appointments := db.appointments.modifyIf (fun _ a => a.serviceId = some id)
      Appointment.dropService }

def Db.withoutMechanic (db : Db) (id : Uuid) : Db :=
  { db with
    mechanics := db.mechanics.erase id
    appointments := db.appointments.modifyIf (fun _ a => a.assignedMechanicId = some id)
      Appointment.dropMechanic
    workOrders := db.workOrders.modifyIf (fun _ wo => wo.assignedMechanicId = some id)
      WorkOrder.dropMechanic }

def Db.withoutUser (db : Db) (id : Uuid) : Db :=
  let mechanics := (db.mechanics.filter fun m => m.userId = id).map Prod.fst
  { mechanics.foldl Db.withoutMechanic db with users := db.users.erase id }

def newAccount (tenantId customerId : Uuid) : CurrentAccount where
  tenantId := tenantId
  customerId := customerId
  totalDebits := 0
  totalCredits := 0
  balance := 0
  isBlocked := false

/-- A customer has one account, in whatever tenant: the unique index on `customer_id`. -/
def Db.openAccount (db : Db) (tenantId customerId : Uuid) : Outcome Db := do
  Outcome.reject (db.currentAccounts.find? fun a => a.customerId = customerId).isSome
    (.database "P2002")
  pure { db with currentAccounts := db.currentAccounts.insert (newAccount tenantId customerId) }

def Db.createCustomer (db : Db) (tenantId : Uuid) (customer : Customer) : Outcome Db :=
  let stored := { db with customers := db.customers.insert { customer with tenantId } }
  stored.openAccount tenantId db.customers.next

def Db.addMechanic (db : Db) (tenantId userId : Uuid) : Db :=
  { db with mechanics := db.mechanics.insert { tenantId, userId } }

def Db.findUser (db : Db) (tenantId id : Uuid) : Option User :=
  (db.users.get? id).filter fun u => u.tenantId = some tenantId

def Db.mechanicOf? (db : Db) (userId : Uuid) : Option (Uuid × Mechanic) :=
  db.mechanics.find? fun m => m.userId = userId

def createStaff (db : Db) (tenantId : Uuid) (user : User) : Db :=
  let stored := { db with users := db.users.insert { user with tenantId := some tenantId } }
  if user.role = .technician then stored.addMechanic tenantId db.users.next else stored

def updateStaff (db : Db) (tenantId id : Uuid) (role : Option UserRole) : Outcome Db := do
  let user ← Outcome.required (db.findUser tenantId id) (.notFound "Personel bulunamadı.")
  let role := role.getD user.role
  let stored := { db with users := db.users.modify id fun u => { u with role } }
  if role = .technician ∧ (db.mechanicOf? id).isNone then pure (stored.addMechanic tenantId id)
  else pure stored

/-- `hasReferences`: the orders and appointments that the tenant sees. -/
def Db.mechanicInUse (db : Db) (tenantId mechanicId : Uuid) : Bool :=
  (db.workOrders.find? fun wo =>
    wo.tenantId = tenantId ∧ wo.assignedMechanicId = some mechanicId).isSome ||
  (db.appointments.find? fun a =>
    a.tenantId = tenantId ∧ a.assignedMechanicId = some mechanicId).isSome

def User.deactivate (u : User) : User := { u with isActive := false }

namespace DirectoryTask

def commits (db : Db) (r : Outcome Db) : Db × DirectoryTask :=
  match r with
  | .error e => (db, .finished (.error e))
  | .ok db' => (db', .finished (.ok ()))

def exec (db : Db) : DirectoryTask → Db × DirectoryTask
  | .createCustomer tenantId customer => commits db (db.createCustomer tenantId customer)
  | .updateCustomer tenantId id customer =>
    ({ db with
        customers := db.customers.modifyIf (fun i c => i = id && c.tenantId = tenantId) fun c =>
          { customer with tenantId := c.tenantId } },
      .finished (.ok ()))
  | .createVehicle tenantId vehicle =>
    ({ db with vehicles := db.vehicles.insert { vehicle with tenantId } }, .finished (.ok ()))
  | .updateVehicle tenantId id vehicle =>
    ({ db with
        vehicles := db.vehicles.modifyIf (fun i v => i = id && v.tenantId = tenantId) fun v =>
          { vehicle with tenantId := v.tenantId } },
      .finished (.ok ()))
  | .findAccount tenantId customerId =>
    match db.currentAccountOf? tenantId customerId with
    | some _ => (db, .finished (.ok ()))
    | none => (db, .customerExists tenantId customerId)
  | .customerExists tenantId customerId =>
    match db.liveCustomer? tenantId customerId with
    | none => (db, .finished (.error (.notFound "Müşteri bulunamadı.")))
    | some _ => (db, .createAccount tenantId customerId)
  | .createAccount tenantId customerId =>
    match db.liveCustomer? tenantId customerId with
    | none =>
      (db, .finished (.error (.badRequest "Müşteri bulunamadı veya bu işletmeye ait değil.")))
    | some _ => (db, .insertAccount tenantId customerId)
  | .insertAccount tenantId customerId => commits db (db.openAccount tenantId customerId)
  | .createService tenantId =>
    ({ db with services := db.services.insert { tenantId } }, .finished (.ok ()))
  | .removeService tenantId id =>
    if !(db.services.get? id).any fun s => s.tenantId = tenantId then
      (db, .finished (.error (.notFound "Hizmet / işçilik kalemi bulunamadı.")))
    else if (db.appointments.find? fun a => a.tenantId = tenantId ∧ a.serviceId = some id).isSome then
      -- it is only deactivated
      (db, .finished (.ok ()))
    else (db, .deleteService id)
  | .deleteService id => (db.withoutService id, .finished (.ok ()))
  | .createStaff tenantId user => (WorksAuto.createStaff db tenantId user, .finished (.ok ()))
  | .updateStaff tenantId id role => commits db (WorksAuto.updateStaff db tenantId id role)
  | .removeStaff tenantId id =>
    match db.findUser tenantId id, db.mechanicOf? id with
    | none, _ => (db, .finished (.error (.notFound "Personel bulunamadı.")))
    | some _, none => (db, .deleteUser id)
    | some _, some (mechanicId, _) =>
      if db.mechanicInUse tenantId mechanicId then
        ({ db with users := db.users.modify id User.deactivate }, .finished (.ok ()))
      else (db, .deleteMechanic mechanicId id)
  | .deleteMechanic mechanicId id => (db.withoutMechanic mechanicId, .deleteUser id)
  | .deleteUser id => (db.withoutUser id, .finished (.ok ()))
  | .finished answer => (db, .finished answer)

end DirectoryTask

inductive DirectoryRequest where
  | createCustomer (tenantId : Uuid) (customer : Customer)
  | updateCustomer (tenantId id : Uuid) (customer : Customer)
  | createVehicle (tenantId : Uuid) (vehicle : Vehicle)
  | updateVehicle (tenantId id : Uuid) (vehicle : Vehicle)
  | getCustomerCurrentAccount (tenantId customerId : Uuid)
  | createService (tenantId : Uuid)
  | removeService (tenantId id : Uuid)
  | createStaff (tenantId : Uuid) (user : User)
  | updateStaff (tenantId id : Uuid) (role : Option UserRole)
  | removeStaff (tenantId id : Uuid)

def DirectoryRequest.enter : DirectoryRequest → DirectoryTask
  | .createCustomer tenantId customer => .createCustomer tenantId customer
  | .updateCustomer tenantId id customer => .updateCustomer tenantId id customer
  | .createVehicle tenantId vehicle => .createVehicle tenantId vehicle
  | .updateVehicle tenantId id vehicle => .updateVehicle tenantId id vehicle
  | .getCustomerCurrentAccount tenantId customerId => .findAccount tenantId customerId
  | .createService tenantId => .createService tenantId
  | .removeService tenantId id => .removeService tenantId id
  | .createStaff tenantId user => .createStaff tenantId user
  | .updateStaff tenantId id role => .updateStaff tenantId id role
  | .removeStaff tenantId id => .removeStaff tenantId id

end Directory

section Policies

def Db.visibleTo (db : Db) (tenantId : Uuid) : Db :=
  { db with
    warehouseShelves := db.warehouseShelves.eraseIf fun s => s.tenantId ≠ tenantId
    shelfCells := db.shelfCells.eraseIf fun c =>
      !(db.warehouseShelves.get? c.shelfId).any fun s => s.tenantId = tenantId }

/-- The tenant of a part that looks up cells by their id alone. The other lookups name the
tenant themselves. -/
def WorkshopTask.cellReader? : WorkshopTask → Option Uuid
  | .addMovement tenantId _ _ | .updateProduct tenantId _ _ | .decrementStock tenantId _ _ _
  | .incrementStock tenantId _ _ _ => some tenantId
  | .saveCell item _ _ => some item.tenantId
  | _ => none

def AgendaTask.execVisible (s : Agenda) (t : AgendaTask) (env : WorkshopEnv) :
    Agenda × AgendaTask :=
  match t with
  | .work task =>
    match task.cellReader? with
    | some tenantId => (s, .work (task.exec (s.db.visibleTo tenantId) env).2)
    | none => AgendaTask.exec s (.work task) env
  | t => t.exec s env

end Policies

section Requests

structure TenantEnv where
  workshop : WorkshopEnv
  billing : Env

/-- A request under way. A part of the agenda keeps the request that it belongs to. -/
inductive TenantTask where
  | agenda (request : AgendaRequest) (task : AgendaTask)
  | billing (task : BillingTask)
  | warehouse (tenantId : Uuid) (request : WarehouseRequest)
  | directory (task : DirectoryTask)
  | finished (answer : Outcome Unit)

def Session.ofTenant (tenantId : Uuid) : Session where
  tenantId := tenantId
  superAdmin := false
  bypassRls := false

def TenantTask.attempt (cfg : PayTrConfig) (s : Agenda) (t : TenantTask) (env : TenantEnv) :
    Agenda × TenantTask :=
  match t with
  | .agenda request task =>
    let (s', next) := task.execVisible s env.workshop
    (s', .agenda request next)
  | .billing task =>
    let (db, next) := task.exec cfg s.db env.billing
    ({ s with db }, .billing next)
  | .warehouse tenantId request =>
    ({ s with db := s.db.serve env.workshop.toUpperCase (.ofTenant tenantId, request) },
      .finished (.ok ()))
  | .directory task =>
    let (db, next) := task.exec s.db
    ({ s with db }, .directory next)
  | .finished answer => (s, .finished answer)

def TenantTask.exec (cfg : PayTrConfig) (s : Agenda) (t : TenantTask) (env : TenantEnv) :
    Agenda × TenantTask :=
  let (s', next) := t.attempt cfg s env
  if s'.db.Referential then (s', next)
  else ({ s' with db := s.db }, .finished (.error (.database "P2003")))

inductive TenantRequest where
  | agenda (request : AgendaRequest)
  | billing (request : BillingRequest)
  | warehouse (tenantId : Uuid) (request : WarehouseRequest)
  | directory (request : DirectoryRequest)

def TenantRequest.enter : TenantRequest → TenantTask
  | .agenda request => .agenda request request.enter
  | .billing request => .billing request.enter
  | .warehouse tenantId request => .warehouse tenantId request
  | .directory request => .directory request.enter

abbrev TenantPool := Pool Agenda TenantTask

abbrev TenantAction := PoolAction TenantRequest TenantEnv

def TenantPool.act (cfg : PayTrConfig) : TenantPool → TenantAction → TenantPool :=
  Pool.act TenantRequest.enter (TenantTask.exec cfg)

def TenantPool.idle (db : Db) : TenantPool := Pool.idle { db, locks := [] }

end Requests

section Crossing

/-- The row that a request puts in a reference without asking whose it is: the mechanic of a
rescheduling, the cell of a product. -/
def AgendaRequest.named : AgendaRequest → Option (Uuid × Reference)
  | .rescheduleAppointment tenantId _ dto =>
    dto.assignedMechanicId.join.map fun id => (tenantId, .mechanic, id)
  | .workshop (.updateStockItem tenantId _ dto) =>
    dto.shelfCellId.join.map fun id => (tenantId, .shelfCell, id)
  | _ => none

def WarehouseRequest.named : WarehouseRequest → Option Reference
  | .createStockItem dto => dto.shelfCellId.map fun id => (.shelfCell, id)
  | .updateStockItem _ dto => dto.shelfCellId.join.map fun id => (.shelfCell, id)
  | _ => none

def AgendaTask.stores : AgendaTask → Bool
  | .write .. => true
  | .work (.saveProduct ..) => true
  | _ => false

/-- The part is about to store a row that its request names and that is another tenant's. -/
def TenantTask.crosses (db : Db) : TenantTask → Bool
  | .agenda request task => task.stores && request.named.any fun n => db.foreign n.1 n.2
  | .warehouse tenantId request => request.named.any fun x => db.foreign tenantId x
  | _ => false

def TenantPool.StaysApart (p : TenantPool) : TenantAction → Prop
  | .start _ => True
  | .step k _ => ∀ t, p.threads.get? k = some t → t.crosses p.shared.db = false

end Crossing

end WorksAuto
