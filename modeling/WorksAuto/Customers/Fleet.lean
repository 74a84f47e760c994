import WorksAuto.Customers.System

/-! Every stored vehicle can be read back.
Each reader builds the entity, whose constructor refuses a row with a year, an
odometer or a chassis number out of bounds. Vehicles that are created or edited by
themselves have passed that check; those of quick leads and imports have not. -/

namespace WorksAuto.Customers

open Lib

structure Fleet where
  db : Db
  year : ℤ

/-- The surroundings of a step; the year is the fleet's. A work order may be refused for
what it does to other tables. -/
structure FleetEnv extends Env where
  refusal : Option ApiError

inductive FleetTask where
  | call (task : Task)
  -- PrismaWorkOrderRepository.create, as far as it is about the vehicle
  | openOrder (tenantId customerId vehicleId : Uuid) (initialKm : ℤ)
  | recordKm (vehicleId : Uuid) (initialKm currentKm : ℤ)
  | newYear
  | finished (answer : Outcome Unit)

def Vehicle.advance (initialKm : ℤ) (v : Vehicle) : Vehicle := { v with currentKm := initialKm }

def checkOrderVehicle (db : Db) (tenantId customerId vehicleId : Uuid) (initialKm : ℤ) :
    Outcome Vehicle := do
  let _ ← Outcome.required (db.liveCustomer? tenantId customerId)
    (.badRequest "Seçilen müşteri bulunamadı veya bu işletmeye ait değil.")
  let vehicle ← Outcome.required (db.liveVehicle? tenantId vehicleId)
    (.badRequest "Seçilen araç bulunamadı veya bu işletmeye ait değil.")
  Outcome.reject (vehicle.customerId ≠ customerId)
    (.badRequest "Seçilen araç ile müşteri eşleşmiyor.")
  let _ ← int4 initialKm
  pure vehicle

namespace FleetTask

variable (uc : UpperCase)

def exec (s : Fleet) (t : FleetTask) (env : FleetEnv) : Fleet × FleetTask :=
  match t with
  | .call task =>
    let (db, next) := task.exec uc s.db { env.toEnv with currentYear := s.year }
    ({ s with db }, .call next)
  | .openOrder tenantId customerId vehicleId initialKm =>
    match checkOrderVehicle s.db tenantId customerId vehicleId initialKm with
    | .error e => (s, .finished (.error e))
    | .ok vehicle => (s, .recordKm vehicleId initialKm vehicle.currentKm)
  | .recordKm vehicleId initialKm currentKm =>
    match env.refusal with
    | some e => (s, .finished (.error e))
    | none =>
      if 0 < initialKm ∧ currentKm < initialKm then
        let vehicles := s.db.vehicles.modify vehicleId (Vehicle.advance initialKm)
        ({ s with db := { s.db with vehicles } }, .finished (.ok ()))
      else (s, .finished (.ok ()))
  | .newYear => ({ s with year := s.year + 1 }, .finished (.ok ()))
  | .finished answer => (s, .finished answer)

end FleetTask

inductive FleetRequest where
  | call (call : Call)
  | createWorkOrder (tenantId customerId vehicleId : Uuid) (initialKm : ℤ)
  | newYear

def FleetRequest.enter (uc : UpperCase) : FleetRequest → FleetTask
  | call c => .call (c.enter uc)
  | createWorkOrder tenantId customerId vehicleId initialKm =>
    .openOrder tenantId customerId vehicleId initialKm
  | newYear => .newYear

abbrev FleetPool := Pool Fleet FleetTask

def FleetPool.act (uc : UpperCase) : FleetPool → PoolAction FleetRequest FleetEnv → FleetPool :=
  Pool.act (FleetRequest.enter uc) (FleetTask.exec uc)

section Readers

variable (uc : UpperCase) (s : Fleet) (tenantId : Uuid)

def Fleet.findById (id : Uuid) : Outcome (Option Vehicle) :=
  match (s.db.liveVehicle? tenantId id).filter s.db.ownerIsLive with
  | none => pure none
  | some record => some <$> VehicleEntity uc s.year record

/-- `search` stands for the conditions that the options add. -/
def Fleet.findAll (search : Uuid × Vehicle → Bool) : Outcome (List Vehicle) :=
  ((s.db.vehicles.filter fun v =>
      v.tenantId = tenantId && v.deletedAt.isNone && s.db.ownerIsLive v).filter search).mapM
    fun r => VehicleEntity uc s.year r.2

/-- The rules of the entity hold of every row, and no reader throws. -/
structure Fleet.Readable : Prop where
  rules : ∀ k v, s.db.vehicles.get? k = some v →
    (validateDomainRules s.year v).isOk = true ∧ (VehicleEntity uc s.year v).isOk = true
  findById : ∀ tenantId id, (s.findById uc tenantId id).isOk = true
  findAll : ∀ tenantId search, (s.findAll uc tenantId search).isOk = true

end Readers

section Sound

variable (uc : UpperCase) (year : ℤ)

/-- A chassis number is missing, or 17 characters long as it stands and in capitals. -/
def SoundVin (vin : Option String) : Prop :=
  (∀ text ∈ firstText [vin], jsLength text = 17) ∧
    ∀ text ∈ firstText [entityVin uc vin], jsLength text = 17

def SoundYear (y : ℤ) : Prop := 1950 ≤ y ∧ y ≤ year + 1

structure Vehicle.Sound (v : Vehicle) : Prop where
  year : SoundYear year v.year
  km : 0 ≤ v.currentKm
  vin : SoundVin uc v.vin

/-- What a quick lead, an import or a booking stores is within the bounds: all values of
a new vehicle, and of an old one those that are given. -/
def Write.StoresSound (w : Write) : Prop :=
  match w.vehicle with
  | .insert row => row.Sound uc year
  | .update _ (.patch update) =>
    (∀ y ∈ update.year, SoundYear year y) ∧ (∀ km ∈ update.currentKm, 0 ≤ km) ∧
      ∀ text ∈ update.vin, SoundVin uc (some text)
  | _ => True

/-- The transaction of a call that a step ends, when the database lets it through. -/
def FleetTask.through? (t : FleetTask) (db : Db) : Option Write :=
  match t with
  | .call task => task.through? db
  | _ => none

def FleetPool.StoresSound (p : FleetPool) : PoolAction FleetRequest FleetEnv → Prop
  | .start _ => True
  | .step k _ => ∀ t ∈ p.threads.get? k, ∀ w ∈ t.through? p.shared.db,
      w.StoresSound uc p.shared.year

end Sound

section Vin

variable {uc : UpperCase}

theorem toUpperCase_reread (huc : ∀ c, uc.upper c ≠ []) (text : String) :
    toUpperCase uc (jsTrim (toUpperCase uc (jsTrim text))) = toUpperCase uc (jsTrim text) := by
  obtain ⟨hhead, hlast⟩ := jsTrim_ends text
  have htrim : jsTrim (toUpperCase uc (jsTrim text)) = toUpperCase uc (jsTrim text) := by
    apply jsTrim_eq_self
    · intro d hd
      cases hlist : (jsTrim text).toList with
      | nil =>
        rw [hlist] at hd
        cases hd
      | cons c rest =>
        rw [hlist, List.flatMap_cons, List.head?_append_of_ne_nil _ (huc c)] at hd
        exact uc.upper_not_space c (hhead c (by rw [hlist]; rfl)) d (List.mem_of_mem_head? hd)
    · intro d hd
      rcases List.eq_nil_or_concat' (jsTrim text).toList with hlist | ⟨rest, c, hlist⟩
      · rw [hlist] at hd
        cases hd
      · rw [hlist, List.flatMap_append, List.flatMap_singleton,
          List.getLast?_append_of_ne_nil _ (huc c)] at hd
        refine uc.upper_not_space c (hlast c ?_) d (List.mem_of_getLast? hd)
        rw [hlist, List.getLast?_concat]
        rfl
  rw [htrim, toUpperCase, toUpperCase, String.toList_ofList, flatMap_upper_upper]

theorem entityVin_entityVin (huc : ∀ c, uc.upper c ≠ []) (vin : Option String) :
    firstText [entityVin uc (entityVin uc vin)] = firstText [entityVin uc vin] := by
  cases hvin : firstText [vin] with
  | none =>
    have hentity : entityVin uc vin = none := by rw [entityVin, hvin, Option.map_none]
    rw [hentity]
    rfl
  | some text =>
    have hentity : entityVin uc vin = some (toUpperCase uc (jsTrim text)) := by
      rw [entityVin, hvin, Option.map_some]
    rw [hentity]
    by_cases hempty : toUpperCase uc (jsTrim text) = ""
    · simp [entityVin, hempty, firstText]
    · have hfirst : firstText [some (toUpperCase uc (jsTrim text))] =
          some (toUpperCase uc (jsTrim text)) := by
        simp [firstText, hempty]
      rw [entityVin, hfirst, Option.map_some, toUpperCase_reread huc, hfirst]

end Vin

section Rules

variable {uc : UpperCase} {year : ℤ} {v : Vehicle}

theorem validateDomainRules_isOk :
    (validateDomainRules year v).isOk = true ↔
      SoundYear year v.year ∧ 0 ≤ v.currentKm ∧ ∀ text ∈ firstText [v.vin], jsLength text = 17 := by
  have hvin : (firstText [v.vin]).any (fun vin => decide (jsLength vin ≠ 17)) = false ↔
      ∀ text ∈ firstText [v.vin], jsLength text = 17 := by
    cases firstText [v.vin] <;> simp
  rw [Outcome.isOk_iff]
  constructor
  · rintro ⟨u, h⟩
    obtain ⟨_, hyear, h₁⟩ := Outcome.bind_eq_ok.mp h
    obtain ⟨_, hkm, h₂⟩ := Outcome.bind_eq_ok.mp h₁
    rw [Outcome.reject_eq_ok] at hyear hkm h₂
    simp only [Bool.or_eq_false_iff, decide_eq_false_iff_not, not_lt] at hyear hkm
    exact ⟨hyear, hkm, hvin.mp h₂⟩
  · rintro ⟨hyear, hkm, htext⟩
    refine ⟨(), Outcome.bind_eq_ok.mpr ⟨(), ?_, Outcome.bind_eq_ok.mpr ⟨(), ?_, ?_⟩⟩⟩
    · rw [Outcome.reject_eq_ok]
      simp only [Bool.or_eq_false_iff, decide_eq_false_iff_not, not_lt]
      exact hyear
    · rw [Outcome.reject_eq_ok, decide_eq_false_iff_not, not_lt]
      exact hkm
    · rw [Outcome.reject_eq_ok]
      exact hvin.mpr htext

def Vehicle.entity (uc : UpperCase) (v : Vehicle) : Vehicle :=
  { v with
    plate := normalizePlate uc v.plate
    vin := entityVin uc v.vin }

@[simp] theorem Vehicle.entity_year : (v.entity uc).year = v.year := by
  rw [Vehicle.entity]

@[simp] theorem Vehicle.entity_currentKm : (v.entity uc).currentKm = v.currentKm := by
  rw [Vehicle.entity]

@[simp] theorem Vehicle.entity_vin : (v.entity uc).vin = entityVin uc v.vin := by
  rw [Vehicle.entity]

theorem VehicleEntity_eq_ok {entity : Vehicle} :
    VehicleEntity uc year v = .ok entity ↔
      (validateDomainRules year (v.entity uc)).isOk = true ∧ entity = v.entity uc := by
  have hbind : VehicleEntity uc year v =
      (validateDomainRules year (v.entity uc)).bind fun _ => .ok (v.entity uc) := rfl
  rw [hbind, Outcome.isOk_iff]
  cases validateDomainRules year (v.entity uc) with
  | error e => simp [Except.bind]
  | ok u => simp [Except.bind, eq_comm]

theorem sound_iff :
    v.Sound uc year ↔
      (validateDomainRules year v).isOk = true ∧ (VehicleEntity uc year v).isOk = true := by
  have hentity : (VehicleEntity uc year v).isOk = true ↔
      (validateDomainRules year (v.entity uc)).isOk = true := by
    rw [Outcome.isOk_iff]
    constructor
    · rintro ⟨entity, h⟩
      exact (VehicleEntity_eq_ok.mp h).1
    · intro h
      exact ⟨v.entity uc, VehicleEntity_eq_ok.mpr ⟨h, rfl⟩⟩
  rw [hentity, validateDomainRules_isOk, validateDomainRules_isOk, Vehicle.entity_year,
    Vehicle.entity_currentKm, Vehicle.entity_vin]
  constructor
  · rintro ⟨hyear, hkm, htext, hcapitals⟩
    exact ⟨⟨hyear, hkm, htext⟩, hyear, hkm, hcapitals⟩
  · rintro ⟨⟨hyear, hkm, htext⟩, -, -, hcapitals⟩
    exact ⟨hyear, hkm, htext, hcapitals⟩

theorem Vehicle.Sound.later (h : v.Sound uc year) {year' : ℤ} (hyear : year ≤ year') :
    v.Sound uc year' :=
  ⟨⟨h.year.1, h.year.2.trans (by omega)⟩, h.km, h.vin⟩

theorem sound_of_entityVin (huc : ∀ c, uc.upper c ≠ []) {vin : Option String}
    (hvin : v.vin = entityVin uc vin) (h : (validateDomainRules year v).isOk = true) :
    v.Sound uc year := by
  obtain ⟨hyear, hkm, htext⟩ := validateDomainRules_isOk.mp h
  refine ⟨hyear, hkm, htext, ?_⟩
  rw [hvin, entityVin_entityVin huc, ← hvin]
  exact htext

end Rules

section Store

variable {uc : UpperCase} {year : ℤ} {db : Db} {w : Write}

def Db.AllSound (uc : UpperCase) (year : ℤ) (db : Db) : Prop :=
  ∀ k v, db.vehicles.get? k = some v → v.Sound uc year

def Write.SavesSound (uc : UpperCase) (year : ℤ) (w : Write) : Prop :=
  ∀ id vehicle, w.vehicle = .update id (.save vehicle) → vehicle.Sound uc year

theorem VehicleChange.apply_sound {change : VehicleChange} {customerId : Uuid} {row : Vehicle}
    (hrow : row.Sound uc year) (hsaves : ∀ vehicle, change = .save vehicle → vehicle.Sound uc year)
    (hpatch : ∀ update, change = .patch update →
      (∀ y ∈ update.year, SoundYear year y) ∧ (∀ km ∈ update.currentKm, 0 ≤ km) ∧
        ∀ text ∈ update.vin, SoundVin uc (some text)) :
    (change.apply customerId row).Sound uc year := by
  cases change with
  | save vehicle =>
    have hvehicle := hsaves vehicle rfl
    refine ⟨hvehicle.year, hvehicle.km, ?_⟩
    cases hvin : vehicle.vin with
    | none =>
      simp only [apply, hvin, Option.none_or]
      exact hrow.vin
    | some text =>
      simp only [apply, hvin, Option.some_or]
      exact hvin ▸ hvehicle.vin
  | patch update =>
    obtain ⟨hyear, hkm, hvin⟩ := hpatch update rfl
    refine ⟨?_, ?_, ?_⟩
    · cases h : update.year with
      | none =>
        simp only [apply, h, Option.getD_none]
        exact hrow.year
      | some y =>
        simp only [apply, h, Option.getD_some]
        exact hyear y h
    · cases h : update.currentKm with
      | none =>
        simp only [apply, h, Option.getD_none]
        exact hrow.km
      | some km =>
        simp only [apply, h, Option.getD_some]
        exact hkm km h
    · cases h : update.vin with
      | none =>
        simp only [apply, h, Option.none_or]
        exact hrow.vin
      | some text =>
        simp only [apply, h, Option.some_or]
        exact hvin text h
  | _ => exact ⟨hrow.year, hrow.km, hrow.vin⟩

theorem Db.AllSound.store (h : db.AllSound uc year) (hsaves : w.SavesSound uc year)
    (hstores : w.StoresSound uc year) : (db.store w).AllSound uc year := by
  intro k v hv
  obtain ⟨customer, vehicle⟩ := w
  simp only [Db.store] at hv
  cases vehicle with
  | none => exact h k v hv
  | insert row =>
    simp only [VehicleWrite.store, Table.get?_insert] at hv
    split_ifs at hv with hk
    · obtain rfl := Option.some.inj hv
      exact ⟨hstores.year, hstores.km, hstores.vin⟩
    · exact h k v hv
  | update id change =>
    obtain ⟨row, hrow, rfl⟩ := Table.of_get?_modify hv
    split_ifs
    · refine VehicleChange.apply_sound (h k row hrow) ?_ ?_
      · rintro vehicle rfl
        exact hsaves id vehicle rfl
      · rintro update rfl
        exact hstores
    · exact h k row hrow
  | archiveAll deletedAt | reviveAll =>
    obtain ⟨row, hrow, rfl⟩ := Table.of_get?_modifyIf hv
    have hsound := h k row hrow
    split_ifs
    · exact ⟨hsound.year, hsound.km, hsound.vin⟩
    · exact hsound

theorem Write.StoresSound.of_store (haccepted : w.Accepted db)
    (h : (db.store w).AllSound uc year) : w.StoresSound uc year := by
  obtain ⟨customer, vehicle⟩ := w
  cases vehicle with
  | insert row =>
    have hstored := h db.vehicles.next { row with customerId := customer.customerId db.customers }
      (Table.get?_insert_self _ _)
    exact ⟨hstored.year, hstored.km, hstored.vin⟩
  | update id change =>
    cases change with
    | patch update =>
      have hexists : (db.vehicles.get? id).isSome = true :=
        (Bool.and_eq_true_iff.mp haccepted.1).2
      obtain ⟨row, hrow⟩ := Option.isSome_iff_exists.mp hexists
      have hstored := h id _ (Table.get?_modify_self hrow _)
      refine ⟨fun y hy => ?_, fun km hkm => ?_, fun text htext => ?_⟩
      · have hyear := hstored.year
        simp only [VehicleChange.apply, Option.mem_def.mp hy, Option.getD_some] at hyear
        exact hyear
      · have hnonneg := hstored.km
        simp only [VehicleChange.apply, Option.mem_def.mp hkm, Option.getD_some] at hnonneg
        exact hnonneg
      · have hvin := hstored.vin
        simp only [VehicleChange.apply, Option.mem_def.mp htext, Option.some_or] at hvin
        exact hvin
    | _ => trivial
  | _ => trivial

end Store

section Tasks

variable {uc : UpperCase} {year : ℤ}

/-- What a call has in hand: an entity, or a vehicle that has passed its rules. -/
def Task.Checked (uc : UpperCase) (year : ℤ) : Task → Prop
  | .findPlateOwner _ _ _ _ vehicle => ∃ vin, vehicle.vin = entityVin uc vin
  | .updateVehicle _ _ vehicle | .findOwner _ _ vehicle => vehicle.Sound uc year
  | .commit w _ => w.SavesSound uc year
  | _ => True

theorem Task.Checked.later {t : Task} (h : t.Checked uc year) {year' : ℤ} (hyear : year ≤ year') :
    t.Checked uc year' := by
  cases t with
  | updateVehicle tenantId id vehicle => exact Vehicle.Sound.later h hyear
  | findOwner tenantId id vehicle => exact Vehicle.Sound.later h hyear
  | commit w next => exact fun id vehicle hw => (h id vehicle hw).later hyear
  | _ => exact h

namespace Task

theorem checked_after {α : Type} {check : Outcome α} {next : α → Task}
    (h : ∀ a, check = .ok a → (next a).Checked uc year) : (after check next).Checked uc year := by
  cases check with
  | error e => trivial
  | ok a => exact h a rfl

theorem checked_assign (tenantId id : Uuid) (dto : UpdateCustomerInput) (customer : Customer) :
    (assign tenantId id dto customer).Checked uc year :=
  checked_after fun _ _ => trivial

theorem checked_updateDetails (huc : ∀ c, uc.upper c ≠ []) {tenantId id : Uuid}
    {dto : UpdateVehicleInput} {vehicle : Vehicle} (hvin : ∃ vin, vehicle.vin = entityVin uc vin) :
    (updateDetails uc tenantId id dto vehicle year).Checked uc year := by
  refine checked_after fun updated h => ?_
  rw [Outcome.asBadRequest_eq_ok] at h
  obtain ⟨_, -, h₁⟩ := Outcome.bind_eq_ok.mp h
  dsimp only at h₁
  obtain ⟨_, hrules, h₂⟩ := Outcome.bind_eq_ok.mp h₁
  have hupdated := (Outcome.pure_eq_ok.mp h₂).symm
  have hentity : ∃ vin, updated.vin = entityVin uc vin := by
    rw [hupdated]
    cases hnew : dto.vin with
    | none => simpa only [hnew] using hvin
    | some vin => exact ⟨some vin, by simp only⟩
  obtain ⟨vin, hentity⟩ := hentity
  exact sound_of_entityVin huc hentity (Outcome.isOk_iff.mpr ⟨_, hupdated ▸ hrules⟩)

theorem importWrite_ne_save {row : ImportRow} {updateExisting : Bool} {customer : CustomerWrite}
    {found : Option (Uuid × Vehicle)} {created : Vehicle} {vehicleWrite : VehicleWrite}
    (h : importWrite row updateExisting customer found created year = .ok vehicleWrite)
    (id : Uuid) (vehicle : Vehicle) : vehicleWrite ≠ .update id (.save vehicle) := by
  rcases importWrite_cases h with rfl | rfl | ⟨k, update, rfl⟩
  · exact nofun
  · exact nofun
  · exact nofun

variable {t : Task}

theorem exec_checked (db : Db) (env : Env) (huc : ∀ c, uc.upper c ≠ [])
    (ht : t.Checked uc env.currentYear) :
    (t.exec uc db env).2.Checked uc env.currentYear := by
  cases t with
  | findPhone tenantId dto => exact checked_after fun _ _ => by rintro id vehicle ⟨⟩
  | findCustomer tenantId id dto =>
    refine checked_after fun customer _ => ?_
    split
    · exact checked_assign tenantId id dto customer
    · trivial
  | findPhoneOwner tenantId id dto phone customer =>
    exact checked_after fun _ _ => checked_assign tenantId id dto customer
  | saveCustomer tenantId id customer creditLimit =>
    exact checked_after fun _ _ => by rintro id vehicle ⟨⟩
  | findToArchive tenantId id => exact checked_after fun _ _ => trivial
  | archiveCustomer tenantId id => exact checked_after fun _ _ => by rintro id vehicle ⟨⟩
  | findArchived tenantId id => exact checked_after fun _ _ => by rintro id vehicle ⟨⟩
  | findForAnonymize args => exact checked_after fun _ _ => trivial
  | anonymizeFind args => exact checked_after fun _ _ => trivial
  | anonymizeDebt args => exact checked_after fun _ _ => trivial
  | anonymizeInvoice args => exact checked_after fun _ _ => trivial
  | anonymizeUpdate args =>
    simp only [exec]
    split <;> trivial
  | insertRedaction args deletedAt affected masked lastRedaction =>
    simp only [exec]
    split <;> trivial
  | leadVehicle tenantId dto customer =>
    simp only [exec]
    split
    · rintro id vehicle ⟨⟩
    · exact checked_after fun _ _ => by rintro id vehicle ⟨⟩
  | importCustomer tenantId updateExisting rows => cases rows <;> trivial
  | importVehicle tenantId updateExisting row rows customer =>
    simp only [exec]
    split
    · rintro id vehicle ⟨⟩
    · split
      · trivial
      · next himport =>
        intro id vehicle hw
        exact absurd hw (importWrite_ne_save himport id vehicle)
  | bookCustomer tenantId name phone plate brandModel =>
    simp only [exec]
    split
    · rintro id vehicle ⟨⟩
    · split_ifs
      · rintro id vehicle ⟨⟩
      · trivial
  | bookVehicle tenantId customerId plate brandModel =>
    simp only [exec]
    split
    · rintro id vehicle ⟨⟩
    · split_ifs
      · trivial
      · rintro id vehicle ⟨⟩
      · trivial
  | findPlateAny tenantId dto =>
    simp only [exec]
    split
    · refine checked_after fun _ _ => ?_
      split_ifs <;> trivial
    · exact checked_after fun _ _ => trivial
  | saveVehicle tenantId vehicle => exact checked_after fun _ _ => by rintro id vehicle ⟨⟩
  | findVehicle tenantId id dto =>
    refine checked_after fun vehicle h => ?_
    obtain ⟨found, -, hentity⟩ := Outcome.bind_eq_ok.mp h
    obtain ⟨-, rfl⟩ := VehicleEntity_eq_ok.mp hentity
    have hvin : ∃ vin, (found.entity uc).vin = entityVin uc vin := ⟨_, Vehicle.entity_vin⟩
    split
    · exact checked_updateDetails huc hvin
    · exact hvin
  | findPlateOwner tenantId id dto plate vehicle =>
    simp only [exec]
    split
    · exact checked_updateDetails huc ht
    · refine checked_after fun _ _ => ?_
      split_ifs
      · trivial
      · exact checked_updateDetails huc ht
  | updateVehicle tenantId id vehicle =>
    refine checked_after fun existing _ => ?_
    split_ifs
    · exact ht
    · rintro id' vehicle' ⟨⟩
      exact ht
  | findOwner tenantId id vehicle =>
    refine checked_after fun _ _ => ?_
    rintro id' vehicle' ⟨⟩
    exact ht
  | findNewOwner tenantId vehicleId newCustomerId => exact checked_after fun _ _ => trivial
  | findTransferred tenantId vehicleId newCustomerId =>
    exact checked_after fun _ _ => by rintro id vehicle ⟨⟩
  | findToDelete tenantId id => exact checked_after fun _ _ => by rintro id vehicle ⟨⟩
  | commit w next =>
    simp only [exec]
    split_ifs
    · exact ht
    · split
      · split <;> trivial
      · split <;> trivial
  | _ => trivial

end Task

end Tasks

section Run

variable {uc : UpperCase}

def FleetTask.Checked (uc : UpperCase) (s : Fleet) : FleetTask → Prop
  | .call t => t.Checked uc s.year
  | _ => True

def Fleet.AllSound (uc : UpperCase) (s : Fleet) : Prop := s.db.AllSound uc s.year

theorem mapM_isOk {α β : Type} {f : α → Outcome β} {l : List α}
    (h : ∀ a ∈ l, (f a).isOk = true) : (l.mapM f).isOk = true := by
  induction l with
  | nil => rfl
  | cons a l ih =>
    obtain ⟨b, hb⟩ := Outcome.isOk_iff.mp (h a List.mem_cons_self)
    obtain ⟨bs, hbs⟩ := Outcome.isOk_iff.mp (ih fun x hx => h x (List.mem_cons_of_mem a hx))
    rw [List.mapM_cons]
    exact Outcome.isOk_iff.mpr ⟨b :: bs,
      Outcome.bind_eq_ok.mpr ⟨b, hb, Outcome.bind_eq_ok.mpr ⟨bs, hbs, rfl⟩⟩⟩

theorem Fleet.readable_iff {s : Fleet} : s.Readable uc ↔ s.AllSound uc := by
  constructor
  · exact fun h k v hv => sound_iff.mpr (h.rules k v hv)
  · intro h
    have hread : ∀ k v, s.db.vehicles.get? k = some v → (VehicleEntity uc s.year v).isOk = true :=
      fun k v hv => (sound_iff.mp (h k v hv)).2
    refine ⟨fun k v hv => sound_iff.mp (h k v hv), fun tenantId id => ?_, fun tenantId search => ?_⟩
    · unfold Fleet.findById
      split
      · rfl
      · next record hfound =>
        have hrow := (Option.filter_eq_some_iff.mp hfound).1
        have hget := (Option.filter_eq_some_iff.mp
          (Option.filter_eq_some_iff.mp hrow).1).1
        obtain ⟨entity, hentity⟩ := Outcome.isOk_iff.mp (hread id record hget)
        rw [hentity]
        rfl
    · refine mapM_isOk fun r hr => ?_
      exact hread r.1 r.2 (Table.mem_filter_iff.mp (List.mem_filter.mp hr).1).1

theorem FleetTask.Checked.later {s s' : Fleet} {t : FleetTask} (h : t.Checked uc s)
    (hyear : s.year ≤ s'.year) : t.Checked uc s' := by
  cases t with
  | call task => exact Task.Checked.later h hyear
  | _ => trivial

theorem FleetTask.exec_sound (huc : ∀ c, uc.upper c ≠ []) {s : Fleet} {t : FleetTask}
    (env : FleetEnv) (hs : s.AllSound uc) (ht : t.Checked uc s)
    (hstores : ∀ w ∈ t.through? s.db, w.StoresSound uc s.year) :
    (t.exec uc s env).1.AllSound uc ∧ (t.exec uc s env).2.Checked uc (t.exec uc s env).1 ∧
      s.year ≤ (t.exec uc s env).1.year := by
  cases t with
  | call task =>
    have hchecked := Task.exec_checked s.db { env.toEnv with currentYear := s.year } huc ht
    refine ⟨?_, hchecked, le_rfl⟩
    rcases exec_shared uc s.db task { env.toEnv with currentYear := s.year } with
      ⟨w, next, rfl, hthrough, -, hstore⟩ |
        ⟨args, deletedAt, affected, masked, last, -, -, hstore⟩ |
        ⟨-, -, -, hsame, -⟩
    · have hsound := Db.AllSound.store hs ht (hstores w hthrough)
      simp only [exec, hstore, Fleet.AllSound]
      exact hsound
    · simp only [exec, hstore, Fleet.AllSound]
      exact hs
    · intro k v hv
      simp only [exec, hsame] at hv
      exact hs k v hv
  | openOrder tenantId customerId vehicleId initialKm =>
    simp only [exec]
    split <;> exact ⟨hs, trivial, le_rfl⟩
  | recordKm vehicleId initialKm currentKm =>
    simp only [exec]
    split
    · exact ⟨hs, trivial, le_rfl⟩
    · split_ifs with hkm
      · refine ⟨fun k v hv => ?_, trivial, le_rfl⟩
        obtain ⟨row, hrow, rfl⟩ := Table.of_get?_modify hv
        have hsound := hs k row hrow
        split_ifs
        · exact ⟨hsound.year, hkm.1.le, hsound.vin⟩
        · exact hsound
      · exact ⟨hs, trivial, le_rfl⟩
  | newYear =>
    have hlater : s.year ≤ s.year + 1 := by omega
    exact ⟨fun k v hv => (hs k v hv).later hlater, trivial, hlater⟩
  | finished answer => exact ⟨hs, trivial, le_rfl⟩

theorem FleetTask.exec_unsound {s : Fleet} {t : FleetTask} {env : FleetEnv} {w : Write}
    (hthrough : t.through? s.db = some w) (hstores : ¬ w.StoresSound uc s.year) :
    ¬ (t.exec uc s env).1.AllSound uc := by
  intro hsound
  cases t with
  | call task =>
    have hcall : task.through? s.db = some w := hthrough
    rcases exec_shared uc s.db task { env.toEnv with currentYear := s.year } with
      ⟨w', next, -, hw', haccepted, hstore⟩ | ⟨args, _, _, _, _, rfl, -, -⟩ | ⟨hnone, -⟩
    · obtain rfl := Option.some.inj (hcall.symm.trans hw')
      simp only [exec, hstore, Fleet.AllSound] at hsound
      exact hstores (.of_store haccepted hsound)
    · cases hcall
    · rw [hnone] at hcall
      cases hcall
  | _ => cases hthrough

def FleetPool.Sound (uc : UpperCase) (p : FleetPool) : Prop :=
  Pool.Holds (fun s : Fleet => s.AllSound uc) (fun s t => t.Checked uc s) p

theorem Call.enter_checked (c : Call) (year : ℤ) : (c.enter uc).Checked uc year := by
  cases c with
  | quickLead tenantId dto =>
    rw [Call.enter]
    exact Task.checked_after fun _ _ => trivial
  | batchImport tenantId rows updateExisting =>
    rw [Call.enter]
    exact Task.checked_after fun _ _ => trivial
  | createVehicle tenantId dto =>
    have hafter : ∀ check : Outcome Unit,
        (Task.after check fun _ => .findPlateAny tenantId dto).Checked uc year :=
      fun check => Task.checked_after fun _ _ => trivial
    rw [Call.enter]
    exact hafter _
  | _ => trivial

theorem FleetRequest.enter_checked (r : FleetRequest) (s : Fleet) : (r.enter uc).Checked uc s := by
  cases r with
  | call c => exact c.enter_checked s.year
  | _ => trivial

/-- In every interleaving of the writers of vehicles, over any number of years, every
vehicle can be read back precisely when no quick lead, import or booking stores a value
that is out of bounds. -/
theorem fleet_readable_iff (uc : UpperCase) (huc : ∀ c, uc.upper c ≠ []) {db : Db} {year : ℤ}
    (hdb : (Fleet.mk db year).Readable uc)
    (actions : List (PoolAction FleetRequest FleetEnv)) :
    Always (FleetPool.act uc) (fun p => p.shared.Readable uc) (Pool.idle ⟨db, year⟩) actions ↔
      EachStep (FleetPool.act uc) (FleetPool.StoresSound uc) (Pool.idle ⟨db, year⟩) actions := by
  have good : ∀ p : FleetPool, p.Sound uc → p.shared.Readable uc :=
    fun p hp => Fleet.readable_iff.mpr hp.1
  have keep : ∀ (p : FleetPool) a, p.Sound uc → p.StoresSound uc a →
      FleetPool.Sound uc (p.act uc a) := by
    intro p a hp ha
    cases a with
    | start r => exact Pool.Holds.start hp (r.enter_checked p.shared)
    | step k env =>
      refine Pool.Holds.step hp fun t ht => ?_
      obtain ⟨hsound, hchecked, hyear⟩ :=
        FleetTask.exec_sound huc env hp.1 (hp.2 k t ht) (ha t ht)
      exact ⟨hsound, hchecked, fun u hu => hu.later hyear⟩
  have bad : ∀ (p : FleetPool) a, p.Sound uc → ¬ p.StoresSound uc a →
      ¬ (p.act uc a).shared.Readable uc := by
    intro p a _ ha
    cases a with
    | start r => exact absurd trivial ha
    | step k env =>
      simp only [FleetPool.StoresSound, not_forall] at ha
      obtain ⟨t, ht, w, hw, hstores⟩ := ha
      have hshared : (p.act uc (.step k env)).shared = (t.exec uc p.shared env).1 :=
        congrArg Pool.shared (Pool.act_step_some ht env)
      rw [hshared, Fleet.readable_iff]
      exact FleetTask.exec_unsound hw hstores
  have hstart : FleetPool.Sound uc (Pool.idle ⟨db, year⟩) :=
    Pool.holds_idle (Fleet.readable_iff.mp hdb)
  exact always_iff_eachStep good keep bad hstart actions

end Run

section Example

def exampleRow (vin : String) : ImportRow where
  type := none
  firstName := some "Mehmet"
  lastName := none
  companyTitle := none
  phone := some "05441234567"
  email := none
  taxNumber := none
  taxOffice := none
  notes := none
  plate := some "34 ABC 123"
  brand := none
  model := none
  year := some 2020
  currentKm := none
  vin := some vin

def exampleFleetEnv : FleetEnv where
  toEnv := exampleEnv
  refusal := none

def importOne (vin : String) : List (PoolAction FleetRequest FleetEnv) :=
  .start (.call (.batchImport 0 [exampleRow vin] false)) ::
    List.replicate 4 (.step 0 exampleFleetEnv)

instance (uc : UpperCase) (year : ℤ) (v : Vehicle) : Decidable (v.Sound uc year) :=
  decidable_of_iff _ sound_iff.symm

instance (uc : UpperCase) (vin : Option String) : Decidable (SoundVin uc vin) :=
  inferInstanceAs (Decidable (_ ∧ _))

instance (year y : ℤ) : Decidable (SoundYear year y) := inferInstanceAs (Decidable (_ ∧ _))

instance (uc : UpperCase) (year : ℤ) (w : Write) : Decidable (w.StoresSound uc year) := by
  unfold Write.StoresSound
  split <;> infer_instance

theorem exampleFleet_readable : (Fleet.mk exampleDb 2026).Readable asciiUpper := by
  rw [Fleet.readable_iff]
  intro k v hv
  cases hv

theorem asciiUpper_ne_nil (c : Char) : asciiUpper.upper c ≠ [] := by
  simp only [asciiUpper]
  split_ifs <;> exact List.cons_ne_nil _ _

instance (uc : UpperCase) (p : FleetPool) (a : PoolAction FleetRequest FleetEnv) :
    Decidable (p.StoresSound uc a) :=
  match a with
  | .start _ => .isTrue trivial
  | .step k _ => inferInstanceAs (Decidable
      (∀ t ∈ p.threads.get? k, ∀ w ∈ t.through? p.shared.db, w.StoresSound uc p.shared.year))

theorem fleet_readable_import :
    (Always (FleetPool.act asciiUpper) (fun p => p.shared.Readable asciiUpper)
        (Pool.idle ⟨exampleDb, 2026⟩) (importOne "WVWZZZ1KZAM123456") ↔
      EachStep (FleetPool.act asciiUpper) (FleetPool.StoresSound asciiUpper)
        (Pool.idle ⟨exampleDb, 2026⟩) (importOne "WVWZZZ1KZAM123456")) ∧
      EachStep (FleetPool.act asciiUpper) (FleetPool.StoresSound asciiUpper)
        (Pool.idle ⟨exampleDb, 2026⟩) (importOne "WVWZZZ1KZAM123456") :=
  ⟨fleet_readable_iff asciiUpper asciiUpper_ne_nil exampleFleet_readable _, by decide +kernel⟩

/-- The last character of the chassis number is missing. -/
theorem import_of_short_vin :
    ¬ Always (FleetPool.act asciiUpper) (fun p => p.shared.Readable asciiUpper)
      (Pool.idle ⟨exampleDb, 2026⟩) (importOne "WVWZZZ1KZAM12345") := by
  intro h
  have hthrows : ((run (FleetPool.act asciiUpper) (Pool.idle ⟨exampleDb, 2026⟩)
      (importOne "WVWZZZ1KZAM12345")).shared.findAll asciiUpper 0 fun _ => true).isOk = false := by
    decide +kernel
  have hreads := h.last.findAll 0 fun _ => true
  rw [hthrows] at hreads
  cases hreads

end Example

end WorksAuto.Customers
