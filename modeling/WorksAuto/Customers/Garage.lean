import WorksAuto.Billing.System
import WorksAuto.Customers.System
import WorksAuto.Workshop.Step

/-! The registry of customers and vehicles next to the books of the workshop.
Each side reads tables that the other one writes. A transaction of the workshop reads
its customer and its vehicle when it begins, and what it writes is seen when it ends; both
may be deleted in between. -/

namespace WorksAuto

open Lib

structure Garage where
  /-- The tables of the registry; what it reads of the books is in `Garage.office`. -/
  registry : Customers.Db
  /-- The other tables; what the workshop reads of the registry is in `Garage.shop`. -/
  books : Db

section Rows

def Customer.ofRegistry (c : Customers.Customer) : Customer where
  tenantId := c.tenantId
  firstName := c.firstName
  lastName := c.lastName
  companyTitle := c.companyTitle
  phone := c.phone
  email := c.email
  address := c.address
  creditLimit := c.creditLimit
  deletedAt := c.deletedAt

def Vehicle.ofRegistry (v : Customers.Vehicle) : Vehicle where
  tenantId := v.tenantId
  customerId := v.customerId
  plate := v.plate
  currentKm := v.currentKm
  deletedAt := v.deletedAt

def WorkOrder.record (wo : WorkOrder) : Customers.WorkOrder where
  customerId := wo.customerId
  workOrderNumber := wo.workOrderNumber
  status := wo.status

def Invoice.record (inv : Invoice) : Customers.Invoice where
  tenantId := inv.tenantId
  customerId := inv.customerId
  invoiceNumber := inv.invoiceNumber
  status := inv.status

def CurrentAccount.record (a : CurrentAccount) : Customers.CurrentAccount where
  tenantId := a.tenantId
  customerId := a.customerId
  balance := a.balance

end Rows

namespace Garage

variable (g : Garage)

def office : Customers.Db :=
  { g.registry with
    records := { g.registry.records with
      currentAccounts := g.books.currentAccounts.mapRows fun _ a => a.record
      invoices := g.books.invoices.mapRows fun _ inv => inv.record
      workOrders := g.books.workOrders.mapRows fun _ wo => wo.record } }

/-- The database as the workshop reads it, with customers and vehicles as it has read them. -/
def shop (customers : Table Customers.Customer) (vehicles : Table Customers.Vehicle) : Db :=
  { g.books with
    customers := customers.mapRows fun _ c => .ofRegistry c
    vehicles := vehicles.mapRows fun _ v => .ofRegistry v }

/-- After a part of the workshop that had read the vehicles `seen`: of customers and vehicles
it writes the odometers that it has advanced. -/
def follow (seen : Table Customers.Vehicle) (db : Db) : Garage where
  registry :=
    { g.registry with
      vehicles := g.registry.vehicles.mapRows fun k v =>
        { v with
          currentKm :=
            match (db.vehicles.get? k).map Vehicle.currentKm with
            | none => v.currentKm
            | some km =>
              if (seen.get? k).map Customers.Vehicle.currentKm = some km then v.currentKm else km } }
  books := db

end Garage

structure GarageEnv where
  registry : Customers.Env
  workshop : WorkshopEnv
  payment : Env

inductive GarageTask where
  | registry (t : Customers.Task)
  | workshop (t : WorkshopTask)
  /-- A part of the workshop has begun and has read the customers and the vehicles. -/
  | reading (t : WorkshopTask) (customers : Table Customers.Customer)
      (vehicles : Table Customers.Vehicle)
  | payment (phase : PaymentPhase)

def GarageTask.exec (uc : Customers.UpperCase) (g : Garage) (t : GarageTask) (env : GarageEnv) :
    Garage × GarageTask :=
  match t with
  | .registry t =>
    let (db, next) := t.exec uc g.office env.registry
    ({ g with registry := db }, .registry next)
  | .workshop t => (g, .reading t g.registry.customers g.registry.vehicles)
  | .reading t customers vehicles =>
    let (db, next) := t.exec (g.shop customers vehicles) env.workshop
    (g.follow vehicles db, .workshop next)
  | .payment phase =>
    let (db, next) := phase.exec (g.shop g.registry.customers g.registry.vehicles) env.payment
    (g.follow g.registry.vehicles db, .payment next)

inductive GarageRequest where
  | softDelete (tenantId id : Uuid)
  | anonymizeCustomer (args : Customers.AnonymizeInput)
  | restore (tenantId id : Uuid)
  | createVehicle (tenantId : Uuid) (dto : Customers.CreateVehicleInput)
  | transferOwnership (tenantId vehicleId newCustomerId : Uuid)
  | createWorkOrder (tenantId : Uuid) (input : CreateWorkOrderInput)
  | rollbackWorkOrder (tenantId id : Uuid)
  | createInvoice (tenantId : Uuid) (dto : CreateInvoiceInput)
  | cancelInvoice (tenantId id : Uuid) (reason : String)
  | createPayment (tenantId : Uuid) (dto : { dto : CreatePaymentDto // dto.Valid })
      (cashierName : String)

def GarageRequest.enter (uc : Customers.UpperCase) : GarageRequest → GarageTask
  | softDelete tenantId id => .registry ((Customers.Call.softDelete tenantId id).enter uc)
  | anonymizeCustomer args => .registry ((Customers.Call.anonymizeCustomer args).enter uc)
  | restore tenantId id => .registry ((Customers.Call.restore tenantId id).enter uc)
  | createVehicle tenantId dto => .registry ((Customers.Call.createVehicle tenantId dto).enter uc)
  | transferOwnership tenantId vehicleId newCustomerId =>
    .registry ((Customers.Call.transferVehicle tenantId vehicleId newCustomerId).enter uc)
  | createWorkOrder tenantId input =>
    .workshop (WorkshopRequest.createWorkOrder tenantId input).enter
  | rollbackWorkOrder tenantId id => .workshop (WorkshopRequest.rollbackWorkOrder tenantId id).enter
  | createInvoice tenantId dto => .workshop (WorkshopRequest.createInvoice tenantId dto).enter
  | cancelInvoice tenantId id reason =>
    .workshop (WorkshopRequest.cancelInvoice tenantId id reason).enter
  | createPayment tenantId dto cashierName =>
    .payment (.start { tenantId, dto := dto.1, cashierName, gatewayAttemptId := none })

abbrev GaragePool := Pool Garage GarageTask

abbrev GarageAction := PoolAction GarageRequest GarageEnv

def GaragePool.act (uc : Customers.UpperCase) : GaragePool → GarageAction → GaragePool :=
  Pool.act (GarageRequest.enter uc) (GarageTask.exec uc)

end WorksAuto
