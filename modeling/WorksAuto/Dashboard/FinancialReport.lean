import WorksAuto.WorkOrders.Repository

/-! The financial report of the dashboard, as far as it is drawn up from completed
orders. What an order brings in is added up exactly; the report shows its figures
in whole liras. -/

namespace WorksAuto

open Lib

structure CompletedOrder where
  id : Uuid
  order : WorkOrder
  updatedAt : Instant
  customer : Option Customer
  plate : Option String
  invoiceStatus : Option InvoiceStatus
  items : List WorkOrderItem

abbrev ProductCosts := Uuid → Option ℚ

section Items

def WorkOrderItem.labour (item : WorkOrderItem) : ℚ :=
  match item.itemType with
  | .service => toNumber item.totalPrice
  | .part => 0

def WorkOrderItem.parts (item : WorkOrderItem) : ℚ :=
  match item.itemType with
  | .service => 0
  | .part => toNumber item.totalPrice

/-- A part without a recorded cost is taken to have cost three quarters of its price. -/
def WorkOrderItem.partsCost (productCostMap : ProductCosts) (item : WorkOrderItem) : ℚ :=
  match item.itemType with
  | .service => 0
  | .part =>
    match item.itemId.bind productCostMap with
    | some knownCost => knownCost * item.quantity
    | none => toNumber item.totalPrice * (3 / 4)

end Items

def profitMargin (profit revenue : ℚ) : ℤ :=
  if 0 < revenue then round (profit / revenue * 100) else 0

structure OrderFigures where
  labour : ℚ
  parts : ℚ
  partsCost : ℚ
  grandTotal : ℚ
  deriving DecidableEq

namespace OrderFigures

def estimatedProfit (f : OrderFigures) : ℚ := f.labour + (f.parts - f.partsCost)

def profitMargin (f : OrderFigures) : ℤ := WorksAuto.profitMargin f.estimatedProfit f.grandTotal

end OrderFigures

namespace CompletedOrder

def figures (productCostMap : ProductCosts) (o : CompletedOrder) : OrderFigures :=
  let labour := (o.items.map WorkOrderItem.labour).sum
  let parts := (o.items.map WorkOrderItem.parts).sum
  { labour, parts, partsCost := (o.items.map (WorkOrderItem.partsCost productCostMap)).sum,
    grandTotal :=
      if o.order.grandTotal = 0 then labour + parts else toNumber o.order.grandTotal }

def customerName (o : CompletedOrder) : String :=
  match o.customer with
  | none => "Müşteri"
  | some c => (firstText [c.companyTitle]).getD (jsTrim (c.firstName ++ " " ++ c.lastName))

end CompletedOrder

structure OrderReport where
  id : Uuid
  workOrderNumber : String
  completedAt : Instant
  plate : String
  customerName : String
  labourTotal : ℤ
  partsTotal : ℤ
  partsCost : ℤ
  grandTotal : ℤ
  estimatedProfit : ℤ
  profitMargin : ℤ
  invoiceStatus : Option InvoiceStatus
  deriving DecidableEq

structure ReportSummary where
  totalRevenue : ℤ
  totalLabourRevenue : ℤ
  totalPartsRevenue : ℤ
  totalPartsCost : ℤ
  netProfit : ℤ
  profitMargin : ℤ
  completedWorkOrdersCount : ℕ
  averageOrderValue : ℤ
  totalVehiclesServiced : ℕ
  deriving DecidableEq

structure FinancialReport where
  summary : ReportSummary
  recentCompletedOrders : List OrderReport
  deriving DecidableEq

def CompletedOrder.report (productCostMap : ProductCosts) (o : CompletedOrder) : OrderReport :=
  let f := o.figures productCostMap
  { id := o.id
    workOrderNumber := o.order.workOrderNumber
    completedAt := o.order.completedAt.getD o.updatedAt
    plate := (firstText [o.plate]).getD "Plaka Yok"
    customerName := o.customerName
    labourTotal := round f.labour
    partsTotal := round f.parts
    partsCost := round f.partsCost
    grandTotal := round f.grandTotal
    estimatedProfit := round f.estimatedProfit
    profitMargin := f.profitMargin
    invoiceStatus := o.invoiceStatus }

def totalFigures (figures : List OrderFigures) : OrderFigures where
  labour := (figures.map OrderFigures.labour).sum
  parts := (figures.map OrderFigures.parts).sum
  partsCost := (figures.map OrderFigures.partsCost).sum
  grandTotal := (figures.map OrderFigures.grandTotal).sum

def financialReport (productCostMap : ProductCosts) (completedOrders : List CompletedOrder) :
    FinancialReport :=
  let total := totalFigures (completedOrders.map (CompletedOrder.figures productCostMap))
  { summary :=
      { totalRevenue := round total.grandTotal
        totalLabourRevenue := round total.labour
        totalPartsRevenue := round total.parts
        totalPartsCost := round total.partsCost
        netProfit := round total.estimatedProfit
        profitMargin := total.profitMargin
        completedWorkOrdersCount := completedOrders.length
        averageOrderValue :=
          if 0 < completedOrders.length then round (total.grandTotal / completedOrders.length)
          else 0
        totalVehiclesServiced :=
          (completedOrders.filterMap fun o => firstText [o.plate]).dedup.length }
    recentCompletedOrders := completedOrders.map (CompletedOrder.report productCostMap) }

section Reading

/-- An order as the report reads it; `updatedAt` is the column of that name. -/
def Db.completedOrder (db : Db) (updatedAt : Uuid → Instant) (row : Uuid × WorkOrder) :
    CompletedOrder where
  id := row.1
  order := row.2
  updatedAt := updatedAt row.1
  customer := db.customers.get? row.2.customerId
  plate := (db.vehicles.get? row.2.vehicleId).map Vehicle.plate
  invoiceStatus :=
    (db.invoices.find? fun inv => inv.workOrderId = some row.1).map fun inv => inv.2.status
  items := (db.itemsOf row.1).map Prod.snd

def CompletedOrder.isIn (startDate endDate : Instant) (o : CompletedOrder) : Bool :=
  let time := o.order.completedAt.getD o.updatedAt
  startDate ≤ time ∧ time ≤ endDate

/-- `orderBy: { completedAt: 'desc' }`, which puts a missing time first. -/
def CompletedOrder.notBefore (a b : CompletedOrder) : Bool :=
  match a.order.completedAt, b.order.completedAt with
  | none, _ => true
  | some _, none => false
  | some x, some y => y ≤ x

def Db.completedOrders (db : Db) (updatedAt : Uuid → Instant) (tenantId : Uuid)
    (startDate endDate : Instant) : List CompletedOrder :=
  let rows := db.workOrders.filter fun wo => wo.tenantId = tenantId ∧ wo.status = .completed
  let orders := rows.map (db.completedOrder updatedAt)
  (orders.filter (CompletedOrder.isIn startDate endDate)).mergeSort CompletedOrder.notBefore

def Db.productCosts (db : Db) (tenantId : Uuid) : ProductCosts := fun id =>
  (db.product? tenantId id).map fun p => toNumber p.purchasePrice

def getFinancialReport (db : Db) (updatedAt : Uuid → Instant) (tenantId : Uuid)
    (startDate endDate : Instant) : FinancialReport :=
  financialReport (db.productCosts tenantId) (db.completedOrders updatedAt tenantId startDate endDate)

end Reading

end WorksAuto
