import WorksAuto.Customers.System
import WorksAuto.Lib.Tally

/-! The import of customers and vehicles from a table.
A row is any object, and each of its fields any value. Every row has a transaction of its
own; what the transaction counts is counted for good, whether it commits or not. -/

namespace WorksAuto.Customers

open Lib

section Values

inductive JsNumber where
  | nan
  | infinite (negative : Bool)
  | finite (q : ℚ)
  deriving DecidableEq, Repr

/-- A value of a field. `absent` stands for everything that is false and no text, `object`
for everything that is true and no text, with the number that it counts as. -/
inductive JsValue where
  | absent
  | text (s : String)
  | object (asNumber : JsNumber)
  deriving DecidableEq, Repr

def digitValue (c : Char) : ℕ :=
  if c.isDigit then c.toNat - '0'.toNat
  else if 'a' ≤ c ∧ c ≤ 'f' then c.toNat - 'a'.toNat + 10
  else if 'A' ≤ c ∧ c ≤ 'F' then c.toNat - 'A'.toNat + 10
  else 16

def digits? (base : ℕ) (digits : List Char) : Option ℕ :=
  if digits.all fun c => digitValue c < base then
    some (digits.foldl (fun n c => n * base + digitValue c) 0)
  else none

def exponent? : List Char → Option ℤ
  | [] => some 0
  | _ :: '-' :: digits => if digits = [] then none else (digits? 10 digits).map fun n => -(n : ℤ)
  | _ :: '+' :: digits => if digits = [] then none else (digits? 10 digits).map fun n => (n : ℤ)
  | _ :: digits => if digits = [] then none else (digits? 10 digits).map fun n => (n : ℤ)

def unsignedDecimal (text : List Char) : JsNumber :=
  let mantissa := text.takeWhile fun c => c ≠ 'e' && c ≠ 'E'
  let whole := mantissa.takeWhile fun c => c ≠ '.'
  let fraction := (mantissa.drop whole.length).drop 1
  match digits? 10 (whole ++ fraction), exponent? (text.drop mantissa.length) with
  | some n, some e =>
    if whole = [] ∧ fraction = [] then .nan else .finite (n * (10 : ℚ) ^ (e - fraction.length))
  | _, _ => .nan

def baseNumber (base : ℕ) (digits : List Char) : JsNumber :=
  if digits = [] then .nan else ((digits? base digits).map fun n => .finite n).getD .nan

/-- `Number(text)`. -/
def numberOfText (text : String) : JsNumber :=
  match (jsTrim text).toList with
  | [] => .finite 0
  | '0' :: 'x' :: digits | '0' :: 'X' :: digits => baseNumber 16 digits
  | '0' :: 'o' :: digits | '0' :: 'O' :: digits => baseNumber 8 digits
  | '0' :: 'b' :: digits | '0' :: 'B' :: digits => baseNumber 2 digits
  | '-' :: rest =>
    if rest = "Infinity".toList then .infinite true
    else match unsignedDecimal rest with
      | .finite q => .finite (-q)
      | other => other
  | '+' :: rest => if rest = "Infinity".toList then .infinite false else unsignedDecimal rest
  | rest => if rest = "Infinity".toList then .infinite false else unsignedDecimal rest

example : numberOfText " 12.50e1 " = .finite 125 := by decide +kernel

namespace JsNumber

/-- `n || d`. -/
def orElse (n : JsNumber) (d : ℤ) : JsNumber :=
  match n with
  | nan => .finite d
  | finite q => if q = 0 then .finite d else .finite q
  | infinite negative => .infinite negative

def positive : JsNumber → Bool
  | nan => false
  | infinite negative => !negative
  | finite q => 0 < q

def between (n : JsNumber) (low high : ℤ) : Bool :=
  match n with
  | finite q => low ≤ q && q ≤ high
  | _ => false

/-- What an `Int` column makes of it. -/
def column (n : JsNumber) : Outcome ℤ :=
  match n with
  | finite q => if q.den = 1 then int4 q.num else .error (.plain "Invalid value provided.")
  | _ => .error (.plain "Invalid value provided.")

end JsNumber

namespace JsValue

def number : JsValue → JsNumber
  | absent => .nan
  | text s => numberOfText s
  | object asNumber => asNumber

def text? : JsValue → Option String
  | text s => some s
  | _ => none

def isObject : JsValue → Bool
  | object _ => true
  | _ => false

def customerType : JsValue → Outcome (Option CustomerType)
  | absent | text "" => .ok none
  | text "INDIVIDUAL" => .ok (some .individual)
  | text "CORPORATE" => .ok (some .corporate)
  | _ => .error (.plain "Invalid value provided.")

end JsValue

def storable (texts : List (Option String)) : Outcome Unit :=
  Outcome.reject (texts.any fun text => text.any fun s => s.toList.any fun c => c.toNat = 0)
    (.database "22021")

/-- `text.includes(part)`. -/
def includes (text part : String) : Bool := part.toList <:+: text.toList

end Values

inductive FuelType where
  | gasoline | diesel | lpg | hybrid | electric
  deriving DecidableEq, Repr

inductive TransmissionType where
  | manual | automatic | semiAutomatic
  deriving DecidableEq, Repr

structure ImportVehicle extends Vehicle where
  fuelType : FuelType
  transmission : TransmissionType
  deriving DecidableEq, Repr

structure ImportVehicleUpdate extends VehicleUpdate where
  fuelType : Option FuelType
  transmission : Option TransmissionType
  deriving DecidableEq, Repr

def ImportVehicleUpdate.empty : ImportVehicleUpdate := ⟨.empty, none, none⟩

structure ImportDb where
  customers : Table Customer
  vehicles : Table ImportVehicle
  currentAccounts : Table CurrentAccount

structure RawRow where
  type : JsValue
  firstName : JsValue
  lastName : JsValue
  companyTitle : JsValue
  phone : JsValue
  email : JsValue
  taxNumber : JsValue
  taxOffice : JsValue
  notes : JsValue
  plate : JsValue
  brand : JsValue
  model : JsValue
  year : JsValue
  currentKm : JsValue
  vin : JsValue
  fuelType : JsValue
  transmission : JsValue
  deriving DecidableEq, Repr

/-- What the surroundings decide for a row: which customer a search finds, the year, and
whether the transaction is refused at its end. -/
structure ImportEnv where
  choice : ℕ
  currentYear : ℤ
  refusal : Option ApiError

@[ext] structure Counters where
  importedCustomers : ℕ
  existingCustomers : ℕ
  updatedCustomers : ℕ
  importedVehicles : ℕ
  existingVehicles : ℕ
  updatedVehicles : ℕ
  deriving DecidableEq, Repr

namespace Counters

instance : Zero Counters := ⟨⟨0, 0, 0, 0, 0, 0⟩⟩

instance : Add Counters where
  add a b :=
    { importedCustomers := a.importedCustomers + b.importedCustomers
      existingCustomers := a.existingCustomers + b.existingCustomers
      updatedCustomers := a.updatedCustomers + b.updatedCustomers
      importedVehicles := a.importedVehicles + b.importedVehicles
      existingVehicles := a.existingVehicles + b.existingVehicles
      updatedVehicles := a.updatedVehicles + b.updatedVehicles }

instance : AddMonoid Counters where
  add_assoc a b c := Counters.ext (Nat.add_assoc ..) (Nat.add_assoc ..) (Nat.add_assoc ..)
    (Nat.add_assoc ..) (Nat.add_assoc ..) (Nat.add_assoc ..)
  zero_add a := Counters.ext (Nat.zero_add _) (Nat.zero_add _) (Nat.zero_add _) (Nat.zero_add _)
    (Nat.zero_add _) (Nat.zero_add _)
  add_zero a := rfl
  nsmul := nsmulRec

def oneImportedCustomer : Counters := { (0 : Counters) with importedCustomers := 1 }

def oneExistingCustomer : Counters := { (0 : Counters) with existingCustomers := 1 }

def oneUpdatedCustomer : Counters := { (0 : Counters) with updatedCustomers := 1 }

def oneImportedVehicle : Counters := { (0 : Counters) with importedVehicles := 1 }

def oneExistingVehicle : Counters := { (0 : Counters) with existingVehicles := 1 }

def oneUpdatedVehicle : Counters := { (0 : Counters) with updatedVehicles := 1 }

end Counters

namespace RawRow

variable (row : RawRow)

def noTrim : ApiError := .plain "trim is not a function"

def noUpperCase : ApiError := .plain "toUpperCase is not a function"

def invalidValue : ApiError := .plain "Invalid value provided."

def texts : ImportRow where
  type := none
  firstName := row.firstName.text?
  lastName := row.lastName.text?
  companyTitle := row.companyTitle.text?
  phone := row.phone.text?
  email := row.email.text?
  taxNumber := row.taxNumber.text?
  taxOffice := row.taxOffice.text?
  notes := row.notes.text?
  plate := row.plate.text?
  brand := row.brand.text?
  model := row.model.text?
  year := none
  currentKm := none
  vin := row.vin.text?

def areTexts (values : List JsValue) (e : ApiError) : Outcome Unit :=
  Outcome.reject (values.any JsValue.isObject) e

def findCustomer (db : ImportDb) (tenantId : Uuid) (choice : ℕ) :
    Outcome (Option (Uuid × Customer)) := do
  areTexts [row.phone] noTrim
  storable (row.texts.phoneCandidates.map some)
  pure (pick choice (db.customers.filter fun c => c.tenantId = tenantId &&
    decide (c.phone ∈ row.texts.phoneCandidates) && c.deletedAt.isNone))

/-- `cName` and `cSurname` can be told. -/
def checkNames : Outcome Unit := do
  areTexts [row.firstName] noTrim
  if (trimmed row.firstName.text?).isNone then areTexts [row.companyTitle] noTrim
  areTexts [row.lastName] noTrim

def newCustomer (tenantId : Uuid) : Outcome Customer := do
  areTexts [row.taxNumber] noTrim
  let type ← row.type.customerType
  areTexts [row.companyTitle, row.email, row.taxOffice, row.notes] invalidValue
  let customer := { row.texts with type }.customer tenantId
  storable [some customer.firstName, some customer.lastName, customer.companyTitle,
    some customer.phone, customer.email, customer.taxNumber, customer.taxOffice, customer.notes]
  pure customer

def customerUpdate (customer : Customer) : Outcome CustomerUpdate := do
  areTexts [row.companyTitle, row.email, row.taxNumber, row.taxOffice, row.notes] noTrim
  let type ← row.type.customerType
  let update := { row.texts with type }.customerUpdate customer
  storable [update.firstName, update.lastName, update.companyTitle, update.email, update.taxNumber,
    update.taxOffice, update.notes]
  pure update

/-- What the transaction makes of the customer; `found` is a live one with the phone. -/
def customerWrite (tenantId : Uuid) (updateExisting : Bool) :
    Option (Uuid × Customer) → Outcome CustomerWrite
  | none => do
    let customer ← row.newCustomer tenantId
    pure (.insert customer true)
  | some (id, customer) =>
    if updateExisting then do
      let update ← row.customerUpdate customer
      pure (if update = .empty then .keep id else .update id (.patch update))
    else pure (.keep id)

end RawRow

namespace CustomerWrite

def writes : CustomerWrite → Bool
  | keep _ => false
  | _ => true

def counters : CustomerWrite → Counters
  | keep _ => 0
  | insert _ _ => .oneImportedCustomer
  | update _ _ => .oneUpdatedCustomer

end CustomerWrite

def ImportDb.storeCustomer (db : ImportDb) (w : CustomerWrite) : ImportDb :=
  { db with
    customers := w.store db.customers
    currentAccounts := (w.newAccount db.customers).elim db.currentAccounts
      db.currentAccounts.insert }

inductive ImportVehicleWrite where
  | none
  | keep
  | insert (row : ImportVehicle)
  | update (id : Uuid) (customerId : Uuid) (update : ImportVehicleUpdate)

namespace ImportVehicleWrite

def writes : ImportVehicleWrite → Bool
  | insert _ | update _ _ _ => true
  | _ => false

def counters : ImportVehicleWrite → Counters
  | insert _ => .oneImportedVehicle
  | update _ _ _ => .oneUpdatedVehicle
  | _ => 0

def patch (customerId : Uuid) (update : ImportVehicleUpdate) (row : ImportVehicle) : ImportVehicle where
  toVehicle := (VehicleChange.patch update.toVehicleUpdate).apply customerId row.toVehicle
  fuelType := update.fuelType.getD row.fuelType
  transmission := update.transmission.getD row.transmission

end ImportVehicleWrite

def ImportDb.storeVehicle (db : ImportDb) (w : ImportVehicleWrite) : ImportDb :=
  { db with
    vehicles := match w with
      | .insert row => db.vehicles.insert row
      | .update id customerId update => db.vehicles.modify id (ImportVehicleWrite.patch customerId update)
      | _ => db.vehicles }

namespace RawRow

variable (uc : UpperCase) (row : RawRow)

def fuelTypeOf (text : String) : FuelType :=
  let ft := toUpperCase uc text
  if includes ft "BENZ" then .gasoline
  else if includes ft "LPG" then .lpg
  else if includes ft "HİB" || includes ft "HIB" then .hybrid
  else if includes ft "ELEK" then .electric
  else .diesel

def transmissionOf (text : String) : TransmissionType :=
  let tr := toUpperCase uc text
  if includes tr "OTO" then .automatic
  else if includes tr "YARI" then .semiAutomatic
  else .manual

def newVehicle (tenantId customerId : Uuid) (plate : String) (currentYear : ℤ) :
    Outcome ImportVehicle := do
  areTexts [row.brand, row.model, row.vin] noTrim
  let year ← (row.year.number.orElse currentYear).column
  let currentKm ← (row.currentKm.number.orElse 0).column
  let vehicle := row.texts.vehicle tenantId plate currentYear
  storable [some vehicle.plate, some vehicle.brand, some vehicle.model, vehicle.vin]
  pure
    { toVehicle := { vehicle with customerId, year, currentKm }
      fuelType := fuelTypeOf uc (row.fuelType.text?.getD "")
      transmission := transmissionOf uc (row.transmission.text?.getD "") }

def given (test : Bool) (n : JsNumber) : Outcome (Option ℤ) :=
  if test then some <$> n.column else pure none

def vehicleUpdate (customerId : Uuid) (vehicle : ImportVehicle) (currentYear : ℤ) :
    Outcome ImportVehicleUpdate := do
  areTexts [row.brand, row.model, row.vin] noTrim
  let currentKm ← given row.currentKm.number.positive row.currentKm.number
  let year ← given (row.year.number.between 1900 (currentYear + 1)) row.year.number
  let update := row.texts.vehicleUpdate currentYear (vehicle.customerId ≠ customerId)
  storable [update.brand, update.model, update.vin]
  pure
    { toVehicleUpdate := { update with currentKm, year }
      fuelType := (trimmed row.fuelType.text?).map fun _ => fuelTypeOf uc (row.fuelType.text?.getD "")
      transmission := (trimmed row.transmission.text?).map fun _ =>
        transmissionOf uc (row.transmission.text?.getD "") }

end RawRow

section Lookups

variable (db : ImportDb) (tenantId : Uuid) (plate : String)

def ImportDb.findVehicle : Option (Uuid × ImportVehicle) :=
  db.vehicles.find? fun v => v.tenantId = tenantId && v.plate = plate && v.deletedAt.isNone

/-- The unique index on the plates of a tenant knows the deleted vehicles too. -/
def ImportDb.plateTaken : Bool :=
  (db.vehicles.find? fun v => v.tenantId = tenantId && v.plate = plate).isSome

end Lookups

namespace RawRow

variable (uc : UpperCase) (tenantId : Uuid) (updateExisting : Bool) (row : RawRow) (db : ImportDb)
  (env : ImportEnv)

def vehicleWrite (customerId : Uuid) (plate : String) :
    Option (Uuid × ImportVehicle) → Outcome ImportVehicleWrite
  | none => do
    let vehicle ← row.newVehicle uc tenantId customerId plate env.currentYear
    Outcome.reject (db.plateTaken tenantId plate) (.database "P2002")
    pure (.insert vehicle)
  | some (id, vehicle) =>
    if updateExisting then do
      let update ← row.vehicleUpdate uc customerId vehicle env.currentYear
      pure (if update = .empty then .keep else .update id customerId update)
    else pure .keep

def importCustomer : Attempt ApiError Counters (ImportDb × Uuid) := do
  let found ← Attempt.of (row.findCustomer db tenantId env.choice)
  Attempt.of row.checkNames
  Attempt.count (if found.isSome then .oneExistingCustomer else 0)
  let w ← Attempt.of (row.customerWrite tenantId updateExisting found)
  Attempt.count w.counters
  pure (db.storeCustomer w, w.customerId db.customers)

/-- The vehicle with a plate, after the fields that are read before it is looked at. -/
def lookUpVehicle (plate : String) : Outcome (Option (Uuid × ImportVehicle)) := do
  storable [some plate]
  areTexts [row.fuelType, row.transmission] noUpperCase
  pure (db.findVehicle tenantId plate)

def plateText? : Outcome (Option String) := do
  areTexts [row.plate] noTrim
  pure (row.texts.plateText? uc)

def importVehicle (customerId : Uuid) : Attempt ApiError Counters ImportDb := do
  let plate? ← Attempt.of (row.plateText? uc)
  match plate? with
  | none => pure db
  | some plate => do
    let found ← Attempt.of (row.lookUpVehicle tenantId db plate)
    Attempt.count (if found.isSome then .oneExistingVehicle else 0)
    let w ← Attempt.of (row.vehicleWrite uc tenantId updateExisting db env customerId plate found)
    Attempt.count w.counters
    pure (db.storeVehicle w)

def transaction : Attempt ApiError Counters ImportDb := do
  let (stored, customerId) ← row.importCustomer tenantId updateExisting db env
  let stored ← row.importVehicle uc tenantId updateExisting stored env customerId
  Attempt.of (env.refusal.elim (.ok ()) .error)
  pure stored

end RawRow

structure ImportState where
  db : ImportDb
  counters : Counters
  errors : List (ℕ × ApiError)
  rowNum : ℕ

/-- A row, if it is an object, and what surrounds its transaction. -/
abbrev ImportStep := Option RawRow × ImportEnv

section Loop

variable (uc : UpperCase) (tenantId : Uuid) (updateExisting : Bool)

def importTransaction (db : ImportDb) (l : ImportStep) : Attempt ApiError Counters ImportDb :=
  match l.1 with
  | none => Attempt.of (.error (.plain "Cannot read properties of null (reading 'phone')"))
  | some row => row.transaction uc tenantId updateExisting db l.2

def importStep (s : ImportState) (l : ImportStep) : ImportState :=
  let attempt := importTransaction uc tenantId updateExisting s.db l
  match attempt.outcome with
  | .ok db =>
    { db, counters := s.counters + attempt.tally, errors := s.errors, rowNum := s.rowNum + 1 }
  | .error e =>
    { db := s.db
      counters := s.counters + attempt.tally
      errors := s.errors ++ [(s.rowNum + 1, e)]
      rowNum := s.rowNum + 1 }

def ImportState.start (db : ImportDb) : ImportState := ⟨db, 0, [], 0⟩

def batchImport (db : ImportDb) (rows : List ImportStep) : Outcome ImportState := do
  Outcome.reject (200 < rows.length) (.badRequest "Tek seferde maksimum 200 satır içe aktarılabilir.")
  pure (run (importStep uc tenantId updateExisting) (.start db) rows)

end Loop

end WorksAuto.Customers
