import WorksAuto.Customers.Repository
import WorksAuto.Lib.Pool
import WorksAuto.Lib.Run

/-! The writers of customers and vehicles as a system of requests.
Every query of a call is a part of its own and the transaction that ends it is one
more, so the checks of a call may be out of date when it stores its rows. An
anonymisation holds the row of its customer from its update to its end. -/

namespace WorksAuto.Customers

open Lib

inductive Call where
  | createCustomer (tenantId : Uuid) (dto : CreateCustomerInput)
  | updateCustomer (tenantId id : Uuid) (dto : UpdateCustomerInput)
  | softDelete (tenantId id : Uuid)
  | restore (tenantId id : Uuid)
  | anonymizeCustomer (args : AnonymizeInput)
  | quickLead (tenantId : Uuid) (dto : QuickLeadInput)
  | batchImport (tenantId : Uuid) (rows : List ImportRow) (updateExisting : Bool)
  /-- The part of a public booking that finds or creates its customer and vehicle. -/
  | publicBooking (tenantId : Uuid) (name phone plate : String) (brandModel : Option String)
  | createVehicle (tenantId : Uuid) (dto : CreateVehicleInput)
  | updateVehicle (tenantId id : Uuid) (dto : UpdateVehicleInput)
  | transferVehicle (tenantId vehicleId newCustomerId : Uuid)
  | deleteVehicle (tenantId id : Uuid)
  /-- The rest of the program leaves other records behind. -/
  | elsewhere (records : Records)

inductive Next where
  | finish
  | importRows (tenantId : Uuid) (updateExisting : Bool) (rows : List ImportRow)
  | bookVehicle (tenantId : Uuid) (plate : String) (brandModel : Option String)

inductive Task where
  | findPhone (tenantId : Uuid) (dto : CreateCustomerInput)
  | findCustomer (tenantId id : Uuid) (dto : UpdateCustomerInput)
  | findPhoneOwner (tenantId id : Uuid) (dto : UpdateCustomerInput) (phone : String)
      (customer : Customer)
  | saveCustomer (tenantId id : Uuid) (customer : Customer) (creditLimit : ℚ)
  | findToArchive (tenantId id : Uuid)
  | archiveCustomer (tenantId id : Uuid)
  | findArchived (tenantId id : Uuid)
  | findForAnonymize (args : AnonymizeInput)
  | anonymizeFind (args : AnonymizeInput)
  | anonymizeDebt (args : AnonymizeInput)
  | anonymizeInvoice (args : AnonymizeInput)
  | anonymizeUpdate (args : AnonymizeInput)
  | findAffected (args : AnonymizeInput) (deletedAt : Instant)
  | maskLogs (args : AnonymizeInput) (deletedAt : Instant) (affected : List Uuid)
  | findLast (args : AnonymizeInput) (deletedAt : Instant) (affected masked : List Uuid)
  | insertRedaction (args : AnonymizeInput) (deletedAt : Instant) (affected masked : List Uuid)
      (lastRedaction : Option ComplianceRedactionLog)
  | leadCustomer (tenantId : Uuid) (dto : QuickLeadInput)
  | leadVehicle (tenantId : Uuid) (dto : QuickLeadInput) (customer : CustomerWrite)
  | importCustomer (tenantId : Uuid) (updateExisting : Bool) (rows : List ImportRow)
  | importVehicle (tenantId : Uuid) (updateExisting : Bool) (row : ImportRow) (rows : List ImportRow)
      (customer : CustomerWrite)
  | bookCustomer (tenantId : Uuid) (name phone plate : String) (brandModel : Option String)
  | bookVehicle (tenantId customerId : Uuid) (plate : String) (brandModel : Option String)
  | findPlateAny (tenantId : Uuid) (dto : CreateVehicleInput)
  | saveVehicle (tenantId : Uuid) (vehicle : Vehicle)
  | findVehicle (tenantId id : Uuid) (dto : UpdateVehicleInput)
  | findPlateOwner (tenantId id : Uuid) (dto : UpdateVehicleInput) (plate : String) (vehicle : Vehicle)
  | updateVehicle (tenantId id : Uuid) (vehicle : Vehicle)
  | findOwner (tenantId id : Uuid) (vehicle : Vehicle)
  | findNewOwner (tenantId vehicleId newCustomerId : Uuid)
  | findTransferred (tenantId vehicleId newCustomerId : Uuid)
  | findToDelete (tenantId id : Uuid)
  | elsewhere (records : Records)
  | commit (w : Write) (next : Next)
  | finished (answer : Outcome Unit)

section Texts

def customerNotFound : ApiError := .notFound "Müşteri bulunamadı."

def foreignCustomer : String := "Müşteri bulunamadı veya bu işletmeye ait değil."

def vehicleNotFound : ApiError := .notFound "Araç bulunamadı."

/-- `text.split(/\s+/)`. -/
def splitSpaces (text : String) : List String :=
  (text.toList.splitBy fun a b => isJsSpace a == isJsSpace b).filterMap fun part =>
    if part.all isJsSpace then none else some (String.ofList part)

def firstAndRest (text : String) : Option String × String :=
  let parts := splitSpaces (jsTrim text)
  (parts.head?, jsTrim (String.intercalate " " (parts.drop 1)))

/-- `year || new Date().getFullYear()`. -/
def orCurrentYear (currentYear : ℤ) (year : Option ℤ) : ℤ :=
  (year.filter fun year => year ≠ 0).getD currentYear

example : firstAndRest " Ali  Veli Can " = (some "Ali", "Veli Can") := by decide +kernel

end Texts

section Rows

def Vehicle.checkColumns (vehicle : Vehicle) : Outcome Unit := do
  let _ ← int4 vehicle.year
  let _ ← int4 vehicle.currentKm
  pure ()

variable (uc : UpperCase)

def QuickLeadInput.plateText (dto : QuickLeadInput) : String := cleanPlate uc (cleanPlate uc dto.plate)

/-- `customerId` is set when the row is stored. -/
def QuickLeadInput.vehicle (dto : QuickLeadInput) (tenantId : Uuid) (currentYear : ℤ) : Vehicle where
  tenantId
  customerId := 0
  plate := dto.plateText uc
  brand := (firstText [dto.brand]).getD unknownBrand
  model := (firstText [dto.model]).getD unknownModel
  year := orCurrentYear currentYear dto.year
  vin := none
  currentKm := 0
  deletedAt := none

def ImportRow.plateText? (row : ImportRow) : Option String :=
  firstText [row.plate.map fun plate => cleanPlate uc (jsTrim plate)]

def ImportRow.vehicle (row : ImportRow) (tenantId : Uuid) (plate : String) (currentYear : ℤ) : Vehicle where
  tenantId
  customerId := 0
  plate
  brand := (trimmed row.brand).getD unknownBrand
  model := (trimmed row.model).getD unknownModel
  year := orCurrentYear currentYear row.year
  vin := trimmed row.vin
  currentKm := row.currentKm.getD 0
  deletedAt := none

def bookedVehicle (tenantId customerId : Uuid) (plate : String) (brandModel : Option String)
    (currentYear : ℤ) : Vehicle :=
  let parts := firstAndRest (brandModel.getD "")
  { tenantId
    customerId
    plate
    brand := parts.1.getD unknownBrand
    model := (firstText [some parts.2]).getD "Genel Model"
    year := currentYear
    vin := none
    currentKm := 0
    deletedAt := none }

def bookedCustomer (tenantId : Uuid) (name phone : String) : Customer :=
  let parts := firstAndRest name
  lead tenantId (parts.1.getD "Müşteri") parts.2 (jsTrim phone)
    (some "Web Online Randevu Sistemi ile oluşturuldu.")

end Rows

namespace Task

/-- Go on after a check with what it found, or answer with its error. -/
def after {α : Type} (check : Outcome α) (next : α → Task) : Task :=
  match check with
  | .error e => .finished (.error e)
  | .ok a => next a

/-- The fields are set, then `save` is called. -/
def assign (tenantId id : Uuid) (dto : UpdateCustomerInput) (customer : Customer) : Task :=
  after (Outcome.reject (dto.creditLimit.any fun limit => limit < 0)
      (.plain "Kredi limiti negatif olamaz.")) fun _ =>
    .saveCustomer tenantId id (dto.assign customer)
      (dto.creditLimit.getD (toNumber customer.creditLimit))

def updateDetails (uc : UpperCase) (tenantId id : Uuid) (dto : UpdateVehicleInput) (vehicle : Vehicle)
    (currentYear : ℤ) : Task :=
  after (Customers.updateDetails uc currentYear vehicle dto).asBadRequest fun updated =>
    .updateVehicle tenantId id updated

/-- The vehicle of an import: `found` is the live one with the plate. -/
def importWrite (row : ImportRow) (updateExisting : Bool) (customer : CustomerWrite)
    (found : Option (Uuid × Vehicle)) (created : Vehicle) (currentYear : ℤ) : Outcome VehicleWrite :=
  match found with
  | none => do
    created.checkColumns
    pure (.insert created)
  | some (id, vehicle) => do
    let reassign := match customer with
      | .keep customerId | .update customerId _ => decide (vehicle.customerId ≠ customerId)
      | .insert _ _ => true
    let update := row.vehicleUpdate currentYear reassign
    if !updateExisting || update = .empty then pure .none
    else do
      let _ ← int4 (update.currentKm.getD 0)
      pure (.update id (.patch update))

/-- The customer of an import: `found` is a live one with the phone. -/
def importedCustomer (tenantId : Uuid) (row : ImportRow) (updateExisting : Bool)
    (found : Option (Uuid × Customer)) : CustomerWrite :=
  match found with
  | none => .insert (row.customer tenantId) true
  | some (id, customer) =>
    let update := row.customerUpdate customer
    if !updateExisting || update = .empty then .keep id else .update id (.patch update)

variable (uc : UpperCase)

def exec (db : Db) (t : Task) (env : Env) : Db × Task :=
  match t with
  | .findPhone tenantId dto =>
    (db, after (do
      Outcome.reject (db.findByPhone tenantId [cleanPhone dto.phone] env.choice).isSome
        (.conflict "Bu telefon numarasıyla kayıtlı bir müşteri zaten mevcut.")
      numeric 12 (dto.creditLimit.getD 0)) fun creditLimit =>
        .commit ⟨.insert (dto.customer tenantId creditLimit) true, .none⟩ .finish)
  | .findCustomer tenantId id dto =>
    (db, after (Outcome.required (db.liveCustomer? tenantId id) customerNotFound) fun customer =>
      match firstText [dto.phone] with
      | none => assign tenantId id dto customer
      | some phone => .findPhoneOwner tenantId id dto phone customer)
  | .findPhoneOwner tenantId id dto phone customer =>
    (db, after (Outcome.reject
        ((db.findByPhone tenantId [cleanPhone phone] env.choice).any fun existing => existing.1 ≠ id)
        (.conflict "Bu telefon numarası başka bir müşteri tarafından kullanılmaktadır.")) fun _ =>
      assign tenantId id dto customer)
  | .saveCustomer tenantId id customer creditLimit =>
    (db, after (do
      let _ ← Outcome.required (db.liveCustomer? tenantId id) (.notFound foreignCustomer)
      numeric 12 creditLimit) fun creditLimit =>
        .commit ⟨.update id (.save { customer with creditLimit }), .none⟩ .finish)
  | .findToArchive tenantId id =>
    (db, after (Outcome.required (db.liveCustomer? tenantId id) customerNotFound) fun _ =>
      .archiveCustomer tenantId id)
  | .archiveCustomer tenantId id =>
    (db, after (do
      let _ ← Outcome.required (db.liveCustomer? tenantId id) (.notFound foreignCustomer)
      db.checkArchive id) fun _ =>
        .commit ⟨.update id (.archive env.now), .archiveAll env.now⟩ .finish)
  | .findArchived tenantId id =>
    (db, after (Outcome.required (db.archivedCustomer? tenantId id)
        (.notFound "Arşivlenmiş müşteri bulunamadı veya bu işletmeye ait değil.")) fun _ =>
      .commit ⟨.update id .revive, .reviveAll⟩ .finish)
  | .findForAnonymize args =>
    (db, after (Outcome.required (db.liveCustomer? args.tenantId args.customerId) customerNotFound)
      fun _ => .anonymizeFind args)
  | .anonymizeFind args =>
    (db, after (Outcome.required (db.liveCustomer? args.tenantId args.customerId) customerNotFound)
      fun _ => .anonymizeDebt args)
  | .anonymizeDebt args =>
    (db, after (db.checkDebt args.tenantId args.customerId) fun _ => .anonymizeInvoice args)
  | .anonymizeInvoice args =>
    (db, after (db.checkOpenInvoice args.tenantId args.customerId env.choice) fun _ =>
      .anonymizeUpdate args)
  | .anonymizeUpdate args =>
    if args.customerId ∈ db.lockedCustomers then (db, t)
    else ({ db with lockedCustomers := args.customerId :: db.lockedCustomers },
      .findAffected args env.now)
  | .findAffected args deletedAt => (db, .maskLogs args deletedAt (db.customerLogs args))
  | .maskLogs args deletedAt affected =>
    (db, .findLast args deletedAt affected (db.customerLogs args))
  | .findLast args deletedAt affected masked =>
    (db, .insertRedaction args deletedAt affected masked (db.lastRedaction? env.choice))
  | .insertRedaction args deletedAt affected masked lastRedaction =>
    match db.commitRedaction args deletedAt affected masked lastRedaction env with
    | .error e => (db, .finished (.error e))
    | .ok db' => (db', .finished (.ok ()))
  | .leadCustomer tenantId dto =>
    (db, .leadVehicle tenantId dto
      (match db.findByPhone tenantId [cleanPhone dto.phone] env.choice with
      | some (id, _) => .keep id
      | none => .insert (lead tenantId dto.firstName (dto.lastName.getD "") (cleanPhone dto.phone) none)
          true))
  | .leadVehicle tenantId dto customer =>
    (db, match db.findByPlateLive tenantId (dto.plateText uc) with
      | some _ => .commit ⟨customer, .none⟩ .finish
      | none => after (dto.vehicle uc tenantId env.currentYear).checkColumns fun _ =>
        .commit ⟨customer, .insert (dto.vehicle uc tenantId env.currentYear)⟩ .finish)
  | .importCustomer _ _ [] => (db, .finished (.ok ()))
  | .importCustomer tenantId updateExisting (row :: rows) =>
    (db, .importVehicle tenantId updateExisting row rows (importedCustomer tenantId row updateExisting
      (db.findByPhone tenantId row.phoneCandidates env.choice)))
  | .importVehicle tenantId updateExisting row rows customer =>
    (db, match row.plateText? uc with
      | none => .commit ⟨customer, .none⟩ (.importRows tenantId updateExisting rows)
      | some plate =>
        match importWrite row updateExisting customer (db.findByPlateLive tenantId plate)
          (row.vehicle tenantId plate env.currentYear) env.currentYear with
        -- the row is given up, the import goes on
        | .error _ => .importCustomer tenantId updateExisting rows
        | .ok vehicle => .commit ⟨customer, vehicle⟩ (.importRows tenantId updateExisting rows))
  | .bookCustomer tenantId name phone plate brandModel =>
    (db, match db.findByPhoneForPublic tenantId (jsTrim phone) env.choice with
      | none => .commit ⟨.insert (bookedCustomer tenantId name phone) false, .none⟩
          (.bookVehicle tenantId plate brandModel)
      | some (id, customer) =>
        if customer.deletedAt.isSome then
          .commit ⟨.update id .revive, .none⟩ (.bookVehicle tenantId plate brandModel)
        else .bookVehicle tenantId id plate brandModel)
  | .bookVehicle tenantId customerId plate brandModel =>
    (db, match db.findByPlateAny tenantId (cleanPlate uc plate) with
      | none => .commit ⟨.keep customerId,
          .insert (bookedVehicle tenantId customerId (cleanPlate uc plate) brandModel env.currentYear)⟩
          .finish
      | some (id, vehicle) =>
        if vehicle.customerId ≠ customerId then .finished (.error (.badRequest
          ("Araç bilgileri servis tarafından doğrulanmalıdır. " ++
            "Lütfen işletmeyle iletişime geçiniz.")))
        else if vehicle.deletedAt.isSome then
          .commit ⟨.keep customerId, .update id .revive⟩ .finish
        else .finished (.ok ()))
  | .findPlateAny tenantId dto =>
    (db, match db.findByPlateAny tenantId (normalizePlate uc (normalizePlate uc dto.plate)) with
      | some (id, found) => after (VehicleEntity uc env.currentYear found) fun _ =>
        if dto.transferIfExists then .findNewOwner tenantId id dto.customerId
        else .finished (.error (.conflict "Bu plaka ile kayıtlı bir araç zaten mevcut."))
      | none => after (VehicleEntity uc env.currentYear (dto.vehicle uc tenantId)).asBadRequest
        fun vehicle => .saveVehicle tenantId vehicle)
  | .saveVehicle tenantId vehicle =>
    (db, after (do
      let _ ← Outcome.required (db.liveCustomer? tenantId vehicle.customerId)
        (.badRequest foreignCustomer)
      vehicle.checkColumns) fun _ =>
        .commit ⟨.keep vehicle.customerId, .insert vehicle⟩ .finish)
  | .findVehicle tenantId id dto =>
    (db, after (do
      let found ← Outcome.required ((db.liveVehicle? tenantId id).filter db.ownerIsLive) vehicleNotFound
      VehicleEntity uc env.currentYear found) fun vehicle =>
        match firstText [dto.plate] with
        | none => updateDetails uc tenantId id dto vehicle env.currentYear
        | some plate => .findPlateOwner tenantId id dto plate vehicle)
  | .findPlateOwner tenantId id dto plate vehicle =>
    (db, match db.findByPlate tenantId (normalizePlate uc (normalizePlate uc plate)) with
      | none => updateDetails uc tenantId id dto vehicle env.currentYear
      | some (other, found) => after (VehicleEntity uc env.currentYear found) fun _ =>
        if other ≠ id then
          .finished (.error (.conflict "Bu plaka ile kayıtlı başka bir araç zaten mevcut."))
        else updateDetails uc tenantId id dto vehicle env.currentYear)
  | .updateVehicle tenantId id vehicle =>
    (db, after (do
      let existing ← Outcome.required (db.liveVehicle? tenantId id)
        (.badRequest "Araç bulunamadı veya bu işletmeye ait değil.")
      vehicle.checkColumns
      pure existing) fun existing =>
        if vehicle.customerId ≠ existing.customerId then .findOwner tenantId id vehicle
        else .commit ⟨.keep vehicle.customerId, .update id (.save vehicle)⟩ .finish)
  | .findOwner tenantId id vehicle =>
    (db, after (Outcome.required (db.liveCustomer? tenantId vehicle.customerId)
        (.badRequest foreignCustomer)) fun _ =>
      .commit ⟨.keep vehicle.customerId, .update id (.save vehicle)⟩ .finish)
  | .findNewOwner tenantId vehicleId newCustomerId =>
    (db, after (Outcome.required (db.liveCustomer? tenantId newCustomerId)
        (.badRequest "Devralacak müşteri bulunamadı veya silinmiş.")) fun _ =>
      .findTransferred tenantId vehicleId newCustomerId)
  | .findTransferred tenantId vehicleId newCustomerId =>
    (db, after (Outcome.required (db.vehicle? tenantId vehicleId)
        (.notFound "Devredilecek araç bulunamadı.")) fun _ =>
      .commit ⟨.keep newCustomerId, .update vehicleId .transfer⟩ .finish)
  | .findToDelete tenantId id =>
    (db, after (do
      let found ← Outcome.required ((db.liveVehicle? tenantId id).filter db.ownerIsLive) vehicleNotFound
      VehicleEntity uc env.currentYear found) fun vehicle =>
        .commit ⟨.keep vehicle.customerId, .update id (.archive env.now)⟩ .finish)
  | .elsewhere records => ({ db with records }, .finished (.ok ()))
  | .commit w next =>
    if w.waits db then (db, t)
    else match db.commit w with
      | .error e => (db, match next with
        | .importRows tenantId updateExisting rows => .importCustomer tenantId updateExisting rows
        | _ => .finished (.error e))
      | .ok db' => (db', match next with
        | .finish => .finished (.ok ())
        | .importRows tenantId updateExisting rows => .importCustomer tenantId updateExisting rows
        | .bookVehicle tenantId plate brandModel =>
          .bookVehicle tenantId (w.customerId db) plate brandModel)
  | .finished answer => (db, .finished answer)

end Task

def Call.enter (uc : UpperCase) : Call → Task
  | createCustomer tenantId dto => .findPhone tenantId dto
  | updateCustomer tenantId id dto => .findCustomer tenantId id dto
  | softDelete tenantId id => .findToArchive tenantId id
  | restore tenantId id => .findArchived tenantId id
  | anonymizeCustomer args => .findForAnonymize args
  | quickLead tenantId dto =>
    .after (Outcome.reject (dto.firstName = "" || dto.phone = "" || dto.plate = "")
      (.badRequest "Müşteri adı, telefon ve araç plakası zorunludur.")) fun _ =>
        .leadCustomer tenantId dto
  | batchImport tenantId rows updateExisting =>
    .after (Outcome.reject (200 < rows.length)
      (.badRequest "Tek seferde maksimum 200 satır içe aktarılabilir.")) fun _ =>
        .importCustomer tenantId updateExisting rows
  | publicBooking tenantId name phone plate brandModel =>
    .bookCustomer tenantId name phone plate brandModel
  | createVehicle tenantId dto =>
    .after (Outcome.reject (normalizePlate uc dto.plate = "") (.badRequest "Araç plakası zorunludur."))
      fun _ => .findPlateAny tenantId dto
  | updateVehicle tenantId id dto => .findVehicle tenantId id dto
  | transferVehicle tenantId vehicleId newCustomerId =>
    .findNewOwner tenantId vehicleId newCustomerId
  | deleteVehicle tenantId id => .findToDelete tenantId id
  | elsewhere records => .elsewhere records

abbrev System := Pool Db Task

def System.act (uc : UpperCase) : System → PoolAction Call Env → System :=
  Pool.act (Call.enter uc) (Task.exec uc)

section Step

theorem importWrite_cases {row : ImportRow} {updateExisting : Bool} {customer : CustomerWrite}
    {found : Option (Uuid × Vehicle)} {created : Vehicle} {currentYear : ℤ} {vehicle : VehicleWrite}
    (h : Task.importWrite row updateExisting customer found created currentYear = .ok vehicle) :
    vehicle = .insert created ∨ vehicle = .none ∨ ∃ id update, vehicle = .update id (.patch update) := by
  cases found with
  | none =>
    obtain ⟨_, -, h₁⟩ := Outcome.bind_eq_ok.mp h
    exact .inl (Outcome.pure_eq_ok.mp h₁).symm
  | some found =>
    simp only [Task.importWrite] at h
    split_ifs at h
    · exact .inr (.inl (Outcome.pure_eq_ok.mp h).symm)
    · obtain ⟨_, -, h₁⟩ := Outcome.bind_eq_ok.mp h
      exact .inr (.inr ⟨_, _, (Outcome.pure_eq_ok.mp h₁).symm⟩)

def Task.customerWrite? : Task → Option CustomerWrite
  | commit w _ => some w.customer
  | leadVehicle _ _ customer => some customer
  | importVehicle _ _ _ _ customer => some customer
  | _ => none

/-- The transaction that a step of the task ends, when the database lets it through. -/
def Task.through? (t : Task) (db : Db) : Option Write :=
  match t with
  | .commit w _ => if w.waits db = false ∧ w.Accepted db then some w else none
  | _ => none

def Task.redacts? (t : Task) (db : Db) : Option AnonymizeInput :=
  match t with
  | .insertRedaction args _ _ _ _ => if (db.customers.get? args.customerId).isSome then some args else none
  | _ => none

variable (uc : UpperCase) (db : Db)

/-- What one step does to the database. Only a transaction that goes through changes a
customer, a vehicle or the log of anonymised customers. -/
theorem exec_shared (t : Task) (env : Env) :
    (∃ w next, t = .commit w next ∧ t.through? db = some w ∧ w.Accepted db ∧
      (t.exec uc db env).1 = db.store w) ∨
    (∃ args deletedAt affected masked lastRedaction,
      t = .insertRedaction args deletedAt affected masked lastRedaction ∧ t.redacts? db = some args ∧
      (t.exec uc db env).1 =
        db.redact args deletedAt masked (redactionEntry args affected lastRedaction env)) ∨
    (t.through? db = none ∧ t.redacts? db = none ∧ (t.exec uc db env).1.customers = db.customers ∧
      (t.exec uc db env).1.vehicles = db.vehicles ∧
      (t.exec uc db env).1.redactionLogs = db.redactionLogs) := by
  cases t with
  | commit w next =>
    simp only [Task.exec]
    cases hw : w.waits db with
    | true => exact .inr (.inr ⟨if_neg (by simp [hw]), rfl, rfl, rfl, rfl⟩)
    | false =>
      rw [if_neg (by simp)]
      cases hc : db.commit w with
      | ok db' =>
        obtain ⟨hacc, rfl⟩ := commit_eq_ok.mp hc
        exact .inl ⟨w, next, rfl, if_pos ⟨hw, hacc⟩, hacc, rfl⟩
      | error e =>
        have hnot : ¬ w.Accepted db := by
          intro hacc
          rw [commit_eq_ok.mpr ⟨hacc, rfl⟩] at hc
          cases hc
        exact .inr (.inr ⟨if_neg fun h => hnot h.2, rfl, rfl, rfl, rfl⟩)
  | insertRedaction args deletedAt affected masked lastRedaction =>
    simp only [Task.exec]
    cases hc : db.commitRedaction args deletedAt affected masked lastRedaction env with
    | ok db' =>
      obtain ⟨hrow, rfl⟩ := commitRedaction_eq_ok.mp hc
      exact .inr (.inl ⟨args, deletedAt, affected, masked, lastRedaction, rfl, if_pos hrow, rfl⟩)
    | error e =>
      have hnot : ¬ (db.customers.get? args.customerId).isSome = true := by
        intro hrow
        rw [commitRedaction_eq_ok.mpr ⟨hrow, rfl⟩] at hc
        cases hc
      exact .inr (.inr ⟨rfl, if_neg hnot, rfl, rfl, rfl⟩)
  | anonymizeUpdate args =>
    refine .inr (.inr ⟨rfl, rfl, ?_⟩)
    simp only [Task.exec]
    split <;> exact ⟨rfl, rfl, rfl⟩
  | importCustomer tenantId updateExisting rows =>
    cases rows <;> exact .inr (.inr ⟨rfl, rfl, rfl, rfl, rfl⟩)
  | _ => exact .inr (.inr ⟨rfl, rfl, rfl, rfl, rfl⟩)

end Step

section Example

def exampleCustomer (tenantId : Uuid) : Customer :=
  lead tenantId "Ahmet" "Yılmaz" "05321112233" none

def noRecords : Records := ⟨.empty, .empty, .empty, .empty⟩

def exampleDb : Db where
  customers := .ofList [exampleCustomer 0, exampleCustomer 1]
  vehicles := .empty
  records := noRecords
  redactionLogs := []
  lockedCustomers := []

def exampleEnv : Env where
  choice := 0
  now := 1767225600000
  currentYear := 2026
  createdAt := 1767225600000000

/-- A request to anonymise the customer with the same id as the tenant. -/
def exampleInput (tenantId : ℕ) : AnonymizeInput where
  tenantId
  id := ⟨uuidText (BitVec.ofNat 128 tenantId), BitVec.ofNat 128 tenantId⟩
  authorizedByUserId := 7
  legalRef := none

def stepsToInsertion (thread : ℕ) : List (PoolAction Call Env) :=
  List.replicate 8 (.step thread exampleEnv)

end Example

end WorksAuto.Customers
