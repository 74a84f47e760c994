import WorksAuto.Accounts.Phone
import WorksAuto.Customers.Plate
import WorksAuto.Customers.Redaction
import WorksAuto.Schema

/-! Customers and vehicles: their rows, and what each request makes of them.
A request carries the fields that the use cases read; colours, engine numbers,
fuel and the dates of a vehicle are left out. -/

namespace WorksAuto.Customers

open Lib
open Accounts (digitsOf)

inductive CustomerType where
  | individual | corporate
  deriving DecidableEq, Repr

structure Customer where
  tenantId : Uuid
  type : CustomerType
  firstName : String
  lastName : String
  companyTitle : Option String
  phone : String
  email : Option String
  taxNumber : Option String
  taxOffice : Option String
  address : Option String
  city : Option String
  district : Option String
  creditLimit : ℤ
  notes : Option String
  isAnonymized : Bool
  isLead : Bool
  deletedAt : Option Instant
  deriving DecidableEq, Repr

structure Vehicle where
  tenantId : Uuid
  customerId : Uuid
  plate : String
  brand : String
  model : String
  year : ℤ
  vin : Option String
  currentKm : ℤ
  deletedAt : Option Instant
  deriving DecidableEq, Repr

structure CurrentAccount where
  tenantId : Uuid
  customerId : Uuid
  balance : ℤ
  deriving DecidableEq, Repr

structure Invoice where
  tenantId : Uuid
  customerId : Uuid
  invoiceNumber : String
  status : InvoiceStatus
  deriving DecidableEq, Repr

structure WorkOrder where
  customerId : Uuid
  workOrderNumber : String
  status : WorkOrderStatus
  deriving DecidableEq, Repr

abbrev Changes := List (String × String)

structure AuditLog where
  tenantId : Option Uuid
  entityName : String
  entityId : String
  changesBefore : Option Changes
  changesAfter : Option Changes
  deriving DecidableEq, Repr

structure Records where
  currentAccounts : Table CurrentAccount
  invoices : Table Invoice
  workOrders : Table WorkOrder
  auditLogs : Table AuditLog

structure Db where
  customers : Table Customer
  vehicles : Table Vehicle
  records : Records
  /-- In the order of insertion. -/
  redactionLogs : List ComplianceRedactionLog
  /-- The customers that a transaction has updated and not yet committed. -/
  lockedCustomers : List Uuid

section Rows

/-- `phone.replace(/[\s()-]/g, '')`. -/
def cleanPhone (phone : String) : String :=
  String.ofList (phone.toList.filter fun c => !(isJsSpace c || c == '(' || c == ')' || c == '-'))

/-- `text && text.trim()`. -/
def trimmed (text : Option String) : Option String := firstText [text.map jsTrim]

def defaultTaxNumber : String := "11111111111"

/-- The row of a potential customer, of whom a name and a phone are known. -/
def lead (tenantId : Uuid) (firstName lastName phone : String) (notes : Option String) : Customer where
  tenantId
  type := .individual
  firstName
  lastName
  companyTitle := none
  phone
  email := none
  taxNumber := some defaultTaxNumber
  taxOffice := none
  address := none
  city := none
  district := none
  creditLimit := 0
  notes
  isAnonymized := false
  isLead := true
  deletedAt := none

structure CreateCustomerInput where
  type : Option CustomerType
  firstName : String
  lastName : Option String
  companyTitle : Option String
  phone : String
  email : Option String
  taxNumber : Option String
  taxOffice : Option String
  address : Option String
  city : Option String
  district : Option String
  creditLimit : Option ℚ
  notes : Option String
  isLead : Option Bool
  deriving DecidableEq, Repr

def CreateCustomerInput.customer (dto : CreateCustomerInput) (tenantId : Uuid) (creditLimit : ℤ) :
    Customer where
  tenantId
  type := dto.type.getD .individual
  firstName := jsTrim dto.firstName
  lastName := jsTrim (dto.lastName.getD "")
  companyTitle := dto.companyTitle.map jsTrim
  phone := cleanPhone dto.phone
  email := dto.email.map jsTrim
  taxNumber := some ((trimmed dto.taxNumber).getD defaultTaxNumber)
  taxOffice := dto.taxOffice.map jsTrim
  address := dto.address.map jsTrim
  city := dto.city.map jsTrim
  district := dto.district.map jsTrim
  creditLimit
  notes := dto.notes.map jsTrim
  isAnonymized := false
  isLead := dto.isLead.getD false
  deletedAt := none

structure UpdateCustomerInput where
  type : Option CustomerType
  firstName : Option String
  lastName : Option String
  companyTitle : Option String
  phone : Option String
  email : Option String
  taxNumber : Option String
  taxOffice : Option String
  creditLimit : Option ℚ
  notes : Option String
  isLead : Option Bool
  deriving DecidableEq, Repr

/-- The fields that `UpdateCustomerUseCase` sets on the customer it has read, but for the
credit limit. -/
def UpdateCustomerInput.assign (dto : UpdateCustomerInput) (customer : Customer) : Customer :=
  { customer with
    type := dto.type.getD customer.type
    firstName := (dto.firstName.map jsTrim).getD customer.firstName
    lastName := (dto.lastName.map jsTrim).getD customer.lastName
    companyTitle := (dto.companyTitle.map jsTrim).or customer.companyTitle
    phone := ((firstText [dto.phone]).map cleanPhone).getD customer.phone
    email := (dto.email.map jsTrim).or customer.email
    taxNumber := (dto.taxNumber.map jsTrim).or customer.taxNumber
    taxOffice := (dto.taxOffice.map jsTrim).or customer.taxOffice
    notes := (dto.notes.map jsTrim).or customer.notes
    isLead := dto.isLead.getD customer.isLead }

structure QuickLeadInput where
  firstName : String
  lastName : Option String
  phone : String
  plate : String
  brand : Option String
  model : Option String
  year : Option ℤ
  deriving DecidableEq, Repr

structure ImportRow where
  type : Option CustomerType
  firstName : Option String
  lastName : Option String
  companyTitle : Option String
  phone : Option String
  email : Option String
  taxNumber : Option String
  taxOffice : Option String
  notes : Option String
  plate : Option String
  brand : Option String
  model : Option String
  year : Option ℤ
  currentKm : Option ℤ
  vin : Option String
  deriving DecidableEq, Repr

namespace ImportRow

variable (row : ImportRow)

def rawPhone : String := jsTrim (row.phone.getD "")

def standardPhone : String :=
  let digits := digitsOf row.rawPhone
  let national := if ['9', '0'].isPrefixOf digits ∧ digits.length = 12 then digits.drop 2 else digits
  String.ofList (if national.length = 10 ∧ ['5'].isPrefixOf national then '0' :: national else national)

def phoneCandidates : List String :=
  let standardPhone := row.standardPhone
  let national := standardPhone.toList
  if standardPhone = "" then []
  else [standardPhone, row.rawPhone,
    if ['0'].isPrefixOf national then String.ofList (national.drop 1) else "0" ++ standardPhone,
    if ['0'].isPrefixOf national then "+9" ++ standardPhone else "+90" ++ standardPhone].filter
      fun phone => phone ≠ ""

def unnamed : String := "İsimsiz Müşteri"

def cName : String := (firstText [row.firstName.map jsTrim, row.companyTitle.map jsTrim]).getD unnamed

def cSurname : String := jsTrim (row.lastName.getD "")

def customer (tenantId : Uuid) : Customer where
  tenantId
  type := row.type.getD (if (firstText [row.companyTitle]).isSome then .corporate else .individual)
  firstName := row.cName
  lastName := row.cSurname
  companyTitle := firstText [row.companyTitle]
  phone := (firstText [some row.standardPhone, some row.rawPhone]).getD "05000000000"
  email := firstText [row.email]
  taxNumber := some ((trimmed row.taxNumber).getD defaultTaxNumber)
  taxOffice := firstText [row.taxOffice]
  address := none
  city := none
  district := none
  creditLimit := 0
  notes := firstText [row.notes]
  isAnonymized := false
  isLead := false
  deletedAt := none

end ImportRow

/-- `customerUpdate`. -/
structure CustomerUpdate where
  type : Option CustomerType
  firstName : Option String
  lastName : Option String
  companyTitle : Option String
  email : Option String
  taxNumber : Option String
  taxOffice : Option String
  notes : Option String
  deriving DecidableEq, Repr

def ImportRow.customerUpdate (row : ImportRow) (customer : Customer) : CustomerUpdate where
  type := row.type
  firstName :=
    if row.cName ≠ ImportRow.unnamed ∧
      (customer.firstName = "" ∨ customer.firstName = ImportRow.unnamed) then some row.cName else none
  lastName := if row.cSurname ≠ "" ∧ customer.lastName = "" then some row.cSurname else none
  companyTitle := trimmed row.companyTitle
  email := trimmed row.email
  taxNumber := trimmed row.taxNumber
  taxOffice := trimmed row.taxOffice
  notes := trimmed row.notes

def CustomerUpdate.empty : CustomerUpdate := ⟨none, none, none, none, none, none, none, none⟩

/-- `vehicleUpdate`; `reassign` stands for a new `customerId`. -/
structure VehicleUpdate where
  currentKm : Option ℤ
  brand : Option String
  model : Option String
  year : Option ℤ
  vin : Option String
  reassign : Bool
  deriving DecidableEq, Repr

def VehicleUpdate.empty : VehicleUpdate := ⟨none, none, none, none, none, false⟩

def unknownBrand : String := "Belirtilmedi"

def unknownModel : String := "Model Belirtilmedi"

/-- `reassign` says whether the vehicle belongs to another customer than the row's. -/
def ImportRow.vehicleUpdate (row : ImportRow) (currentYear : ℤ) (reassign : Bool) : VehicleUpdate where
  currentKm := row.currentKm.filter fun km => 0 < km
  brand := (trimmed row.brand).filter fun brand => brand ≠ unknownBrand
  model := (trimmed row.model).filter fun model => model ≠ unknownModel
  year := row.year.filter fun year => 1900 ≤ year ∧ year ≤ currentYear + 1
  vin := trimmed row.vin
  reassign

end Rows

section Entity

variable (uc : UpperCase)

def validateDomainRules (currentYear : ℤ) (vehicle : Vehicle) : Outcome Unit := do
  Outcome.reject (vehicle.year < 1950 || currentYear + 1 < vehicle.year)
    (.plain ("Araç model yılı 1950 ile " ++ toString (currentYear + 1) ++ " arasında olmalıdır."))
  Outcome.reject (vehicle.currentKm < 0) (.plain "Araç kilometresi negatif olamaz.")
  Outcome.reject ((firstText [vehicle.vin]).any fun vin => jsLength vin ≠ 17)
    (.plain "Şasi numarası (VIN) 17 karakter olmalıdır.")

def entityVin (vin : Option String) : Option String :=
  (firstText [vin]).map fun vin => toUpperCase uc (jsTrim vin)

/-- The constructor of `VehicleEntity`. -/
def VehicleEntity (currentYear : ℤ) (props : Vehicle) : Outcome Vehicle := do
  let vehicle := { props with
    plate := normalizePlate uc props.plate
    vin := entityVin uc props.vin }
  validateDomainRules currentYear vehicle
  pure vehicle

structure CreateVehicleInput where
  customerId : Uuid
  plate : String
  brand : String
  model : String
  year : ℤ
  vin : Option String
  currentKm : Option ℤ
  transferIfExists : Bool
  deriving DecidableEq, Repr

def CreateVehicleInput.vehicle (dto : CreateVehicleInput) (tenantId : Uuid) : Vehicle where
  tenantId
  customerId := dto.customerId
  plate := normalizePlate uc dto.plate
  brand := dto.brand
  model := dto.model
  year := dto.year
  vin := dto.vin
  currentKm := dto.currentKm.getD 0
  deletedAt := none

structure UpdateVehicleInput where
  plate : Option String
  brand : Option String
  model : Option String
  year : Option ℤ
  vin : Option String
  currentKm : Option ℤ
  deriving DecidableEq, Repr

def updateDetails (currentYear : ℤ) (vehicle : Vehicle) (props : UpdateVehicleInput) :
    Outcome Vehicle := do
  Outcome.reject (props.currentKm.any fun newKm => newKm < 0) (.plain "Araç kilometresi negatif olamaz.")
  let updated := { vehicle with
    plate := ((firstText [props.plate]).map (normalizePlate uc)).getD vehicle.plate
    brand := (firstText [props.brand]).getD vehicle.brand
    model := (firstText [props.model]).getD vehicle.model
    year := props.year.getD vehicle.year
    vin := match props.vin with
      | none => vehicle.vin
      | some vin => entityVin uc (some vin)
    currentKm := props.currentKm.getD vehicle.currentKm }
  validateDomainRules currentYear updated
  pure updated

end Entity

end WorksAuto.Customers
