import WorksAuto.Customers.System

/-! One vehicle for each plate of a tenant, however the plate is written.
The unique index and the lookups compare texts, and a plate is stored with single
blanks by some writers and without blanks by others. A plate stays one vehicle as long
as each lookup is for the plate with the blanks that it is stored with, and calls for
one plate with different blanks do not overlap. -/

namespace WorksAuto.Customers

open Lib

/-- No two vehicles of a tenant have one plate, up to blanks and case. -/
def Db.OnePlate (uc : UpperCase) (db : Db) : Prop :=
  ∀ i v, db.vehicles.get? i = some v → ∀ j w, db.vehicles.get? j = some w →
    v.tenantId = w.tenantId → compactPlate uc v.plate = compactPlate uc w.plate → i = j

def Write.KeepsPlates (uc : UpperCase) (w : Write) (db : Db) : Prop :=
  ∀ p ∈ w.plate? db, ∀ j v, db.vehicles.get? j = some v → j ≠ p.1 → v.tenantId = p.2.1 →
    compactPlate uc v.plate ≠ compactPlate uc p.2.2

/-- A vehicle that is created has a plate that no vehicle has. -/
def Write.CreatesNew (uc : UpperCase) (w : Write) (db : Db) : Prop :=
  ∀ row, w.vehicle = .insert row → ∀ j v, db.vehicles.get? j = some v → v.tenantId = row.tenantId →
    compactPlate uc v.plate ≠ compactPlate uc row.plate

instance (uc : UpperCase) (db : Db) : Decidable (db.OnePlate uc) := by
  unfold Db.OnePlate
  infer_instance

/-- A plate that a call is to store, for a vehicle that is there already or for a new one. -/
structure PlateEntry where
  self : Option Uuid
  tenantId : Uuid
  plate : String
  deriving DecidableEq, Repr

def PlateEntry.Names (e : PlateEntry) (letters : List Char) (uc : UpperCase) (j : Uuid) (v : Vehicle) :
    Prop :=
  e.self ≠ some j ∧ v.tenantId = e.tenantId ∧ compactPlate uc v.plate = letters

/-- Every other vehicle that has the plate, as it was entered, has it with the blanks that it
is looked up and stored with. -/
def Db.SameBlanks (uc : UpperCase) (db : Db) (entered : String) (e : PlateEntry) : Prop :=
  ∀ j v, db.vehicles.get? j = some v → e.Names (compactPlate uc entered) uc j v → v.plate = e.plate

def PlateEntry.Differs (uc : UpperCase) (e f : PlateEntry) : Prop :=
  f.tenantId = e.tenantId ∧ compactPlate uc f.plate = compactPlate uc e.plate ∧
    f.plate ≠ e.plate ∧ (f.self = none ∨ f.self ≠ e.self)

instance (e : PlateEntry) (letters : List Char) (uc : UpperCase) (j : Uuid) (v : Vehicle) :
    Decidable (e.Names letters uc j v) :=
  inferInstanceAs (Decidable (_ ∧ _ ∧ _))

instance (uc : UpperCase) (db : Db) (entered : String) (e : PlateEntry) :
    Decidable (db.SameBlanks uc entered e) := by
  unfold Db.SameBlanks
  infer_instance

instance (uc : UpperCase) (e f : PlateEntry) : Decidable (e.Differs uc f) :=
  inferInstanceAs (Decidable (_ ∧ _ ∧ _ ∧ _))

def Write.plateEntered? (w : Write) : Option PlateEntry :=
  match w.vehicle with
  | .insert row => some ⟨none, row.tenantId, row.plate⟩
  | .update id (.save vehicle) => some ⟨some id, vehicle.tenantId, vehicle.plate⟩
  | _ => none

namespace Task

def plateEntered? : Task → Option PlateEntry
  | saveVehicle _ vehicle => some ⟨none, vehicle.tenantId, vehicle.plate⟩
  | updateVehicle _ id vehicle | findOwner _ id vehicle =>
    some ⟨some id, vehicle.tenantId, vehicle.plate⟩
  | commit w _ => w.plateEntered?
  | _ => none

def revised? : Task → Option (Uuid × Uuid)
  | findPlateOwner _ id _ _ vehicle | updateVehicle _ id vehicle | findOwner _ id vehicle =>
    some (id, vehicle.tenantId)
  | commit ⟨_, .update id (.save vehicle)⟩ _ => some (id, vehicle.tenantId)
  | _ => none

/-- The plate of a request that is looked up next, and its text in the request. -/
def entered? : Task → Option (Option String × String)
  | findPlateOwner _ _ dto plate _ => some (dto.plate, plate)
  | _ => none

variable (uc : UpperCase)

/-- The plate that a step looks up: as it was entered, and in the form that is stored. -/
def plateLookup? : Task → Option (String × PlateEntry)
  | findPlateAny tenantId dto =>
    some (dto.plate, ⟨none, tenantId, normalizePlate uc (normalizePlate uc dto.plate)⟩)
  | findPlateOwner _ id _ plate vehicle =>
    some (plate, ⟨some id, vehicle.tenantId, normalizePlate uc plate⟩)
  | leadVehicle tenantId dto _ => some (dto.plate, ⟨none, tenantId, dto.plateText uc⟩)
  | importVehicle tenantId _ row _ _ =>
    (row.plateText? uc).map fun plate => (row.plate.getD "", ⟨none, tenantId, plate⟩)
  | bookVehicle tenantId _ plate _ => some (plate, ⟨none, tenantId, cleanPlate uc plate⟩)
  | _ => none

def plateStored? : Task → Option PlateEntry
  | commit w _ => w.plateEntered?
  | _ => none

end Task

/-- A plate is looked up with the blanks that it is stored with, and it is stored while no
other call has looked it up with other blanks. -/
def System.SameBlanks (uc : UpperCase) (s : System) : PoolAction Call Env → Prop
  | .start _ => True
  | .step k _ => ∀ t ∈ s.threads.get? k,
      (∀ q ∈ t.plateLookup? uc, s.shared.SameBlanks uc q.1 q.2) ∧
        ∀ e ∈ t.plateStored?, s.Alone (fun u => ∃ f ∈ u.plateEntered?, e.Differs uc f) k

instance (uc : UpperCase) (s : System) (a : PoolAction Call Env) : Decidable (s.SameBlanks uc a) :=
  match a with
  | .start _ => .isTrue trivial
  | .step k _ => inferInstanceAs (Decidable (∀ t ∈ s.threads.get? k,
      (∀ q ∈ t.plateLookup? uc, s.shared.SameBlanks uc q.1 q.2) ∧
        ∀ e ∈ t.plateStored?, s.Alone (fun u => ∃ f ∈ u.plateEntered?, e.Differs uc f) k))

/-- A property of the transaction that a step ends, if it ends one. -/
def System.Ends (P : Write → Db → Prop) (s : System) : PoolAction Call Env → Prop
  | .start _ => True
  | .step k _ => ∀ t ∈ s.threads.get? k, ∀ w ∈ t.through? s.shared, P w s.shared

instance (P : Write → Db → Prop) [∀ w db, Decidable (P w db)] (s : System) (a : PoolAction Call Env) :
    Decidable (s.Ends P a) :=
  match a with
  | .start _ => .isTrue trivial
  | .step k _ => inferInstanceAs (Decidable
      (∀ t ∈ s.threads.get? k, ∀ w ∈ t.through? s.shared, P w s.shared))

section Store

variable {uc : UpperCase} {db : Db} {w : Write} {k : Uuid} {v : Vehicle}

theorem VehicleChange.apply_plate (change : VehicleChange) (customerId : Uuid) (row : Vehicle) :
    (change.apply customerId row).tenantId = row.tenantId ∧
      ((change.apply customerId row).plate = row.plate ∨
        ∃ vehicle, change = .save vehicle ∧ (change.apply customerId row).plate = vehicle.plate) := by
  cases change with
  | save vehicle => exact ⟨rfl, .inr ⟨vehicle, rfl, rfl⟩⟩
  | _ => exact ⟨rfl, .inl rfl⟩

theorem plate_of_store (h : (db.store w).vehicles.get? k = some v) :
    w.plate? db = some (k, v.tenantId, v.plate) ∨
      ∃ old, db.vehicles.get? k = some old ∧ v.tenantId = old.tenantId ∧ v.plate = old.plate := by
  obtain ⟨customer, vehicle⟩ := w
  simp only [Db.store] at h
  cases vehicle with
  | none => exact .inr ⟨v, h, rfl, rfl⟩
  | insert row =>
    simp only [VehicleWrite.store, Table.get?_insert] at h
    split_ifs at h with hk
    · obtain rfl := Option.some.inj h
      subst hk
      exact .inl rfl
    · exact .inr ⟨v, h, rfl, rfl⟩
  | update id change =>
    simp only [VehicleWrite.store, Table.get?_modify] at h
    obtain ⟨old, hold, hv⟩ := Option.map_eq_some_iff.mp h
    split_ifs at hv with hk
    · subst hk hv
      obtain ⟨htenant, hplate | ⟨saved, rfl, hplate⟩⟩ := change.apply_plate _ old
      · exact .inr ⟨old, hold, htenant, hplate⟩
      · refine .inl ?_
        simp only [Write.plate?, hold, Option.map_some]
        rfl
    · exact .inr ⟨old, hold, by rw [← hv], by rw [← hv]⟩
  | archiveAll deletedAt | reviveAll =>
    simp only [VehicleWrite.store, Table.get?_modifyIf] at h
    obtain ⟨old, hold, hv⟩ := Option.map_eq_some_iff.mp h
    refine .inr ⟨old, hold, ?_⟩
    rw [← hv]
    split_ifs <;> exact ⟨rfl, rfl⟩

theorem tenant_of_store {row : Vehicle} (h : db.vehicles.get? k = some row) :
    ∃ row', (db.store w).vehicles.get? k = some row' ∧ row'.tenantId = row.tenantId := by
  have hthere : ∃ row', (db.store w).vehicles.get? k = some row' := by
    obtain ⟨customer, vehicle⟩ := w
    cases vehicle with
    | none => exact ⟨row, h⟩
    | insert new => exact ⟨row, Table.get?_insert_of_some h _⟩
    | update id change =>
      simp only [Db.store, VehicleWrite.store, Table.get?_modify, h, Option.map_some]
      exact ⟨_, rfl⟩
    | archiveAll deletedAt | reviveAll =>
      simp only [Db.store, VehicleWrite.store, Table.get?_modifyIf, h, Option.map_some]
      exact ⟨_, rfl⟩
  obtain ⟨row', hrow'⟩ := hthere
  refine ⟨row', hrow', ?_⟩
  rcases plate_of_store hrow' with hstored | ⟨old, hold, htenant, -⟩
  · obtain ⟨customer, vehicle⟩ := w
    cases vehicle with
    | insert new =>
      have hk := congrArg Prod.fst (Option.some.inj hstored)
      exact absurd (Table.get?_lt h) (Nat.not_lt.mpr (Nat.le_of_eq hk))
    | update id change =>
      cases change with
      | save saved =>
        obtain ⟨old, hold, he⟩ := Option.map_eq_some_iff.mp hstored
        obtain ⟨rfl, hold', -⟩ := Prod.mk.inj he |>.imp_right Prod.mk.inj
        obtain rfl := Option.some.inj (hold.symm.trans h)
        exact hold'.symm
      | _ => cases hstored
    | _ => cases hstored
  · obtain rfl := Option.some.inj (hold.symm.trans h)
    exact htenant

def Db.OneText (uc : UpperCase) (db : Db) (e : PlateEntry) : Prop :=
  ∀ j v, db.vehicles.get? j = some v → e.Names (compactPlate uc e.plate) uc j v → v.plate = e.plate

/-- The vehicle that a transaction saves belongs to the tenant that it was read for. -/
def Write.RevisesOwn (w : Write) (db : Db) : Prop :=
  ∀ id vehicle, w.vehicle = .update id (.save vehicle) →
    ∃ row, db.vehicles.get? id = some row ∧ row.tenantId = vehicle.tenantId

theorem plateEntered?_of_plate? (hrevises : w.RevisesOwn db) {p : Uuid × Uuid × String}
    (hp : w.plate? db = some p) :
    ∃ e ∈ w.plateEntered?, e.tenantId = p.2.1 ∧ e.plate = p.2.2 ∧
      (e.self = some p.1 ∨ e.self = none ∧ p.1 = db.vehicles.next) := by
  obtain ⟨customer, vehicle⟩ := w
  cases vehicle with
  | insert row =>
    obtain rfl := Option.some.inj hp
    exact ⟨_, rfl, rfl, rfl, .inr ⟨rfl, rfl⟩⟩
  | update id change =>
    cases change with
    | save saved =>
      obtain ⟨row, hrow, rfl⟩ := Option.map_eq_some_iff.mp hp
      obtain ⟨row', hrow', htenant⟩ := hrevises id saved rfl
      obtain rfl := Option.some.inj (hrow'.symm.trans hrow)
      exact ⟨_, rfl, htenant.symm, rfl, .inl rfl⟩
    | _ => cases hp
  | _ => cases hp

theorem keepsPlates_of_oneText (hfree : w.plateFree db = true) (hrevises : w.RevisesOwn db)
    (htext : ∀ e ∈ w.plateEntered?, db.OneText uc e) : w.KeepsPlates uc db := by
  intro p hp j v hv hj htenant hplate
  obtain ⟨e, he, hetenant, heplate, hself⟩ := plateEntered?_of_plate? hrevises hp
  have hother : e.self ≠ some j := by
    rcases hself with hself | ⟨hself, -⟩
    · rw [hself]
      exact fun h => hj (Option.some.inj h).symm
    · rw [hself]
      exact nofun
  have hsame : v.plate = p.2.2 :=
    (htext e he j v hv ⟨hother, htenant.trans hetenant.symm, heplate ▸ hplate⟩).trans heplate
  have hrows := hfree
  simp only [Write.plateFree, Option.mem_def.mp hp, Option.all_some, List.all_eq_true,
    Bool.or_eq_true, decide_eq_true_eq] at hrows
  rcases hrows _ ((Table.mem_rows_iff _ _ _).mpr hv) with (hk | hother') | hother'
  · exact hj hk
  · exact hother' htenant
  · exact hother' hsame

theorem Db.OneText.store {e : PlateEntry} (h : db.OneText uc e) (hrevises : w.RevisesOwn db)
    (hapart : ∀ f ∈ w.plateEntered?, ¬ f.Differs uc e) : (db.store w).OneText uc e := by
  rintro j v hv ⟨hself, htenant, hplate⟩
  rcases plate_of_store hv with hstored | ⟨old, hold, ht, hp⟩
  · obtain ⟨f, hf, hftenant, hfplate, hfself⟩ := plateEntered?_of_plate? hrevises hstored
    by_contra hne
    refine hapart f hf ⟨htenant.symm.trans hftenant.symm, ?_, ?_, ?_⟩
    · rw [hfplate, hplate]
    · rw [hfplate]
      exact Ne.symm hne
    · rcases hfself with hfself | ⟨hfself, -⟩
      · exact .inr (hfself ▸ hself)
      · cases hnone : e.self with
        | none => exact .inl rfl
        | some k => exact .inr (by rw [hfself]; exact nofun)
  · rw [hp]
    exact h j old hold ⟨hself, ht ▸ htenant, hp ▸ hplate⟩

theorem Db.OnePlate.store (h : db.OnePlate uc) (hkeeps : w.KeepsPlates uc db) :
    (db.store w).OnePlate uc := by
  intro i v hv j v' hv' htenant hplate
  by_contra hne
  rcases plate_of_store hv with hi | ⟨old, hold, ht, hp⟩
  · rcases plate_of_store hv' with hj | ⟨old', hold', ht', hp'⟩
    · have hsame := congrArg Prod.fst (Option.some.inj (hi.symm.trans hj))
      exact hne hsame
    · refine hkeeps _ hi j old' hold' (Ne.symm hne) (ht'.symm.trans htenant.symm) ?_
      rw [← hp', hplate]
  · rcases plate_of_store hv' with hj | ⟨old', hold', ht', hp'⟩
    · refine hkeeps _ hj i old hold hne (ht.symm.trans htenant) ?_
      rw [← hp, hplate]
    · exact hne (h i old hold j old' hold' (by rw [← ht, ← ht', htenant]) (by rw [← hp, ← hp', hplate]))

theorem Write.KeepsPlates.createsNew (h : w.KeepsPlates uc db) : w.CreatesNew uc db := by
  intro row hrow j v hv htenant
  have hplate : w.plate? db = some (db.vehicles.next, row.tenantId, row.plate) := by
    rw [Write.plate?, hrow]
  exact h _ hplate j v hv (Nat.ne_of_lt (Table.get?_lt hv)) htenant

end Store

section Steps

variable {uc : UpperCase} {db : Db} {t : Task} {e : PlateEntry} {entered : String}

structure Task.PlateKept (uc : UpperCase) (db : Db) (t : Task) : Prop where
  text : ∀ e ∈ t.plateEntered?, db.OneText uc e
  revised : ∀ r ∈ t.revised?, ∃ row, db.vehicles.get? r.1 = some row ∧ row.tenantId = r.2
  entered : ∀ q ∈ t.entered?, firstText [q.1] = some q.2

theorem Db.SameBlanks.oneText (h : db.SameBlanks uc entered e)
    (hletters : compactPlate uc e.plate = compactPlate uc entered) : db.OneText uc e :=
  fun j v hv hnames => h j v hv (hletters ▸ hnames)

theorem plateKept_of_none (hentry : t.plateEntered? = none) (hrevised : t.revised? = none) :
    t.PlateKept uc db where
  text e he := by
    rw [hentry] at he
    cases he
  revised r hr := by
    rw [hrevised] at hr
    cases hr
  entered q hq := by
    cases t with
    | findPlateOwner => cases hrevised
    | _ => cases hq

theorem plateKept_after {α : Type} {check : Outcome α} {next : α → Task}
    (h : ∀ a, check = .ok a → (next a).PlateKept uc db) : (Task.after check next).PlateKept uc db := by
  cases check with
  | error err => exact plateKept_of_none rfl rfl
  | ok a => exact h a rfl

theorem plateKept_insert {customer : CustomerWrite} {row : Vehicle} {next : Next}
    (h : db.OneText uc ⟨none, row.tenantId, row.plate⟩) :
    (Task.commit ⟨customer, .insert row⟩ next).PlateKept uc db where
  text e he := by
    obtain rfl := Option.some.inj he
    exact h
  revised := nofun
  entered := nofun

theorem plateKept_save (id : Uuid) (vehicle : Vehicle) (hentry : t.plateEntered? =
      some ⟨some id, vehicle.tenantId, vehicle.plate⟩)
    (hrevised : t.revised? = some (id, vehicle.tenantId)) (hentered : t.entered? = none)
    (h : db.OneText uc ⟨some id, vehicle.tenantId, vehicle.plate⟩)
    (hrow : ∃ row, db.vehicles.get? id = some row ∧ row.tenantId = vehicle.tenantId) :
    t.PlateKept uc db where
  text e he := by
    obtain rfl := Option.some.inj (hentry.symm.trans he)
    exact h
  revised r hr := by
    obtain rfl := Option.some.inj (hrevised.symm.trans hr)
    exact hrow
  entered q hq := by
    rw [hentered] at hq
    cases hq

theorem entity_keeps {currentYear : ℤ} {props vehicle : Vehicle}
    (h : VehicleEntity uc currentYear props = .ok vehicle) :
    vehicle.tenantId = props.tenantId ∧ vehicle.plate = normalizePlate uc props.plate := by
  obtain ⟨_, -, hpure⟩ := Outcome.bind_eq_ok.mp h
  obtain rfl := Outcome.pure_eq_ok.mp hpure
  exact ⟨rfl, rfl⟩

theorem updateDetails_keeps {currentYear : ℤ} {vehicle updated : Vehicle} {dto : UpdateVehicleInput}
    (h : updateDetails uc currentYear vehicle dto = .ok updated) :
    updated.tenantId = vehicle.tenantId ∧
      updated.plate = ((firstText [dto.plate]).map (normalizePlate uc)).getD vehicle.plate := by
  obtain ⟨_, -, h₁⟩ := Outcome.bind_eq_ok.mp h
  obtain ⟨_, -, hpure⟩ := Outcome.bind_eq_ok.mp h₁
  obtain rfl := Outcome.pure_eq_ok.mp hpure
  exact ⟨rfl, rfl⟩

theorem plateKept_updateDetails {tenantId id : Uuid} {dto : UpdateVehicleInput} {vehicle row : Vehicle}
    {currentYear : ℤ} (hrow : db.vehicles.get? id = some row) (htenant : row.tenantId = vehicle.tenantId)
    (h : db.OneText uc ⟨some id, vehicle.tenantId,
      ((firstText [dto.plate]).map (normalizePlate uc)).getD vehicle.plate⟩) :
    (Task.updateDetails uc tenantId id dto vehicle currentYear).PlateKept uc db := by
  refine plateKept_after fun updated hupdated => ?_
  rw [Outcome.asBadRequest_eq_ok] at hupdated
  obtain ⟨hkept, hplate⟩ := updateDetails_keeps hupdated
  refine plateKept_save id updated rfl rfl rfl ?_ ⟨row, hrow, htenant.trans hkept.symm⟩
  rw [hkept, hplate]
  exact h

theorem of_liveVehicle? {tenantId id : Uuid} {row : Vehicle}
    (h : db.liveVehicle? tenantId id = some row) : db.vehicles.get? id = some row :=
  (Option.filter_eq_some_iff.mp (Option.filter_eq_some_iff.mp h).1).1

theorem plateText_letters {row : ImportRow} {plate : String} (h : row.plateText? uc = some plate) :
    compactPlate uc plate = compactPlate uc (row.plate.getD "") := by
  obtain hmem := List.mem_of_find?_eq_some h
  cases hplate : row.plate with
  | none =>
    rw [hplate] at hmem
    cases hmem
  | some text =>
    rw [hplate] at hmem
    obtain rfl := List.mem_singleton.mp hmem
    rw [compactPlate_cleanPlate, compactPlate_jsTrim, Option.getD_some]

theorem exec_plateKept (env : Env) (hdb : db.OnePlate uc) (h : t.PlateKept uc db)
    (hlookup : ∀ q ∈ t.plateLookup? uc, db.SameBlanks uc q.1 q.2) :
    (t.exec uc db env).2.PlateKept uc db := by
  cases t with
  | findPhone | saveCustomer | findToArchive | archiveCustomer | findArchived | findForAnonymize |
    anonymizeFind | anonymizeDebt | anonymizeInvoice | findNewOwner | findTransferred |
    findToDelete => exact plateKept_after fun _ _ => plateKept_of_none rfl rfl
  | findAffected | maskLogs | findLast | leadCustomer | elsewhere | finished =>
    exact plateKept_of_none rfl rfl
  | findCustomer tenantId id dto =>
    refine plateKept_after fun customer _ => ?_
    split
    · exact plateKept_after fun _ _ => plateKept_of_none rfl rfl
    · exact plateKept_of_none rfl rfl
  | findPhoneOwner =>
    exact plateKept_after fun _ _ => plateKept_after fun _ _ => plateKept_of_none rfl rfl
  | anonymizeUpdate args =>
    simp only [Task.exec]
    split <;> exact plateKept_of_none rfl rfl
  | insertRedaction args deletedAt affected masked lastRedaction =>
    simp only [Task.exec]
    split <;> exact plateKept_of_none rfl rfl
  | leadVehicle tenantId dto customer =>
    simp only [Task.exec]
    split
    · exact plateKept_of_none rfl rfl
    · refine plateKept_after fun _ _ => plateKept_insert ((hlookup _ rfl).oneText ?_)
      simp only [QuickLeadInput.plateText, compactPlate_cleanPlate]
  | importCustomer tenantId updateExisting rows => cases rows <;> exact plateKept_of_none rfl rfl
  | importVehicle tenantId updateExisting row rows customer =>
    simp only [Task.exec]
    split
    · exact plateKept_of_none rfl rfl
    · next plate hplate =>
      have htext : db.OneText uc ⟨none, tenantId, plate⟩ :=
        (hlookup (row.plate.getD "", ⟨none, tenantId, plate⟩)
          (by rw [Task.plateLookup?, hplate]; rfl)).oneText (plateText_letters hplate)
      split
      · exact plateKept_of_none rfl rfl
      · next vehicle himport =>
        rcases importWrite_cases himport with rfl | rfl | ⟨id, update, rfl⟩
        · exact plateKept_insert htext
        · exact plateKept_of_none rfl rfl
        · exact plateKept_of_none rfl rfl
  | bookCustomer tenantId name phone plate brandModel =>
    simp only [Task.exec]
    split
    · exact plateKept_of_none rfl rfl
    · split <;> exact plateKept_of_none rfl rfl
  | bookVehicle tenantId customerId plate brandModel =>
    simp only [Task.exec]
    split
    · exact plateKept_insert ((hlookup _ rfl).oneText (compactPlate_cleanPlate plate))
    · split
      · exact plateKept_of_none rfl rfl
      · split <;> exact plateKept_of_none rfl rfl
  | findPlateAny tenantId dto =>
    simp only [Task.exec]
    split
    · refine plateKept_after fun _ _ => ?_
      split <;> exact plateKept_of_none rfl rfl
    · refine plateKept_after fun vehicle hvehicle => ?_
      rw [Outcome.asBadRequest_eq_ok] at hvehicle
      obtain ⟨htenant, hplate⟩ := entity_keeps hvehicle
      refine ⟨fun e he => ?_, fun _ h => (by cases h), fun _ h => (by cases h)⟩
      obtain rfl := Option.some.inj he
      rw [htenant, hplate]
      refine (hlookup _ rfl).oneText ?_
      rw [compactPlate_normalizePlate, compactPlate_normalizePlate]
  | saveVehicle tenantId vehicle =>
    exact plateKept_after fun _ _ => plateKept_insert (h.text _ rfl)
  | findVehicle tenantId id dto =>
    refine plateKept_after fun vehicle hvehicle => ?_
    obtain ⟨row, hfound, hentity⟩ := Outcome.bind_eq_ok.mp hvehicle
    obtain ⟨hkept, hplate⟩ := entity_keeps hentity
    rw [Outcome.required_eq_ok] at hfound
    have hrow := of_liveVehicle? (Option.filter_eq_some_iff.mp hfound).1
    split
    · next hnone =>
      refine plateKept_updateDetails hrow hkept.symm ?_
      rw [hnone, Option.map_none, Option.getD_none, hplate, hkept]
      -- the vehicle keeps its plate, and no other one has it
      rintro j v hv ⟨hself, htenant, hletters⟩
      rw [compactPlate_normalizePlate] at hletters
      exact absurd (congrArg some (hdb j v hv id row hrow htenant hletters)).symm hself
    · next plate hplate' =>
      refine ⟨fun _ h => (by cases h), fun r hr => ?_, fun q hq => ?_⟩
      · obtain rfl := Option.some.inj hr
        exact ⟨row, hrow, hkept.symm⟩
      · obtain rfl := Option.some.inj hq
        exact hplate'
  | findPlateOwner tenantId id dto plate vehicle =>
    obtain ⟨row, hrow, htenant⟩ := h.revised _ rfl
    have hentered := h.entered _ rfl
    have hupdate : (Task.updateDetails uc tenantId id dto vehicle env.currentYear).PlateKept uc db := by
      refine plateKept_updateDetails hrow htenant ?_
      rw [hentered]
      exact (hlookup _ rfl).oneText (compactPlate_normalizePlate plate)
    simp only [Task.exec]
    split
    · exact hupdate
    · refine plateKept_after fun _ _ => ?_
      split
      · exact plateKept_of_none rfl rfl
      · exact hupdate
  | updateVehicle tenantId id vehicle =>
    have htext := h.text _ rfl
    have hrow := h.revised _ rfl
    refine plateKept_after fun existing _ => ?_
    split
    · exact plateKept_save id vehicle rfl rfl rfl htext hrow
    · exact plateKept_save id vehicle rfl rfl rfl htext hrow
  | findOwner tenantId id vehicle =>
    have htext := h.text _ rfl
    have hrow := h.revised _ rfl
    exact plateKept_after fun _ _ => plateKept_save id vehicle rfl rfl rfl htext hrow
  | commit w next =>
    simp only [Task.exec]
    split
    · exact h
    · split <;> split <;> exact plateKept_of_none rfl rfl

theorem Task.PlateKept.revisesOwn {w : Write} {next : Next} (h : (Task.commit w next).PlateKept uc db) :
    w.RevisesOwn db := by
  obtain ⟨customer, vehicle⟩ := w
  rintro id saved rfl
  exact h.revised _ rfl

theorem Task.PlateKept.store {w : Write} (h : t.PlateKept uc db) (hrevises : w.RevisesOwn db)
    (hapart : ∀ f ∈ w.plateEntered?, ∀ e ∈ t.plateEntered?, ¬ f.Differs uc e) :
    t.PlateKept uc (db.store w) where
  text e he := (h.text e he).store hrevises fun f hf => hapart f hf e he
  revised r hr := by
    obtain ⟨row, hrow, htenant⟩ := h.revised r hr
    obtain ⟨row', hrow', hsame⟩ := tenant_of_store hrow
    exact ⟨row', hrow', hsame.trans htenant⟩
  entered := h.entered

theorem Task.PlateKept.congr {db' : Db} (h : t.PlateKept uc db) (hsame : db'.vehicles = db.vehicles) :
    t.PlateKept uc db' where
  text e he j v hv := h.text e he j v (hsame ▸ hv)
  revised r hr := by
    rw [hsame]
    exact h.revised r hr
  entered := h.entered

theorem plateKept_enter (r : Call) : (r.enter uc).PlateKept uc db := by
  cases r with
  | quickLead | batchImport | createVehicle =>
    rw [Call.enter]
    exact plateKept_after fun _ _ => plateKept_of_none rfl rfl
  | _ =>
    rw [Call.enter]
    exact plateKept_of_none rfl rfl

theorem exec_plateEntered? {w : Write} {next : Next} (env : Env)
    (h : (Task.commit w next).through? db = some w) :
    ((Task.commit w next).exec uc db env).2.plateEntered? = none := by
  simp only [Task.through?] at h
  split_ifs at h with hw
  simp only [Task.exec, hw.1, Bool.false_eq_true, if_false, commit_eq_ok.mpr ⟨hw.2, rfl⟩]
  cases next <;> rfl

end Steps

section Run

variable {uc : UpperCase} {s : System} {a : PoolAction Call Env}

/-- Each plate is one vehicle, and what the calls have looked up still holds. -/
def System.PlatesKept (uc : UpperCase) : System → Prop :=
  Pool.Holds (Db.OnePlate uc) (Task.PlateKept uc)

theorem keepsPlates_of_kept (h : s.PlatesKept uc) {k : ℕ} {t : Task} {w : Write}
    (ht : s.threads.get? k = some t) (hthrough : t.through? s.shared = some w) :
    w.KeepsPlates uc s.shared := by
  have hkept := h.2 k t ht
  cases t with
  | commit w' next =>
    simp only [Task.through?] at hthrough
    split_ifs at hthrough with hw
    obtain rfl := Option.some.inj hthrough
    exact keepsPlates_of_oneText hw.2.2 hkept.revisesOwn hkept.text
  | _ => cases hthrough

theorem act_platesKept (h : s.PlatesKept uc) (hblanks : s.SameBlanks uc a) :
    (System.act uc s a).PlatesKept uc := by
  cases a with
  | start r => exact h.start (plateKept_enter r)
  | step k env =>
    refine h.step_among fun t ht => ?_
    obtain ⟨hlookup, halone⟩ := hblanks t ht
    have hkept := h.2 k t ht
    have hnext := exec_plateKept env h.1 hkept hlookup
    rcases exec_shared uc s.shared t env with ⟨w, next, rfl, hthrough, -, hstore⟩ |
      ⟨args, deletedAt, affected, masked, lastRedaction, rfl, -, hstore⟩ |
        ⟨-, -, -, hvehicles, -⟩
    · rw [hstore]
      refine ⟨h.1.store (keepsPlates_of_kept h ht hthrough), ?_, fun i u hu hi => ?_⟩
      · refine hnext.store hkept.revisesOwn fun f hf e he => ?_
        rw [exec_plateEntered? env hthrough] at he
        cases he
      · refine (h.2 i u hu).store hkept.revisesOwn fun f hf e he hdiffers => ?_
        exact halone f hf i u hu hi ⟨e, he, hdiffers⟩
    · rw [hstore]
      exact ⟨h.1, hnext.congr rfl, fun i u hu _ => (h.2 i u hu).congr rfl⟩
    · refine ⟨?_, hnext.congr hvehicles, fun i u hu _ => (h.2 i u hu).congr hvehicles⟩
      unfold Db.OnePlate
      rw [hvehicles]
      exact h.1

/-- A plate is one vehicle throughout, and none is created for a plate that a vehicle has, in
the runs in which each plate is looked up with the blanks that it is stored with. -/
theorem always_onePlate (uc : UpperCase) {db : Db} (hdb : db.OnePlate uc)
    (calls : List (PoolAction Call Env))
    (hblanks : EachStep (System.act uc) (System.SameBlanks uc) (Pool.idle db) calls) :
    Always (System.act uc) (fun s => s.shared.OnePlate uc) (Pool.idle db) calls ∧
      EachStep (System.act uc) (System.Ends (Write.CreatesNew uc)) (Pool.idle db) calls := by
  have hstart : System.PlatesKept uc (Pool.idle db) := Pool.holds_idle hdb
  have good : ∀ s : System, s.PlatesKept uc → s.shared.OnePlate uc := fun _ h => h.1
  have keep : ∀ (s : System) a, s.PlatesKept uc → s.SameBlanks uc a →
      (System.act uc s a).PlatesKept uc := fun s a h ha => act_platesKept h ha
  have hold : ∀ (s : System) a, s.PlatesKept uc → s.SameBlanks uc a →
      s.Ends (Write.CreatesNew uc) a := by
    intro s a h _
    cases a with
    | start r => trivial
    | step k env => exact fun t ht w hw => (keepsPlates_of_kept h ht hw).createsNew
  exact always_eachStep_of_step good keep hold hstart hblanks

end Run

section Example

def exampleVehicle (plate : String) : CreateVehicleInput where
  customerId := 0
  plate
  brand := "Volkswagen"
  model := "Golf"
  year := 2022
  vin := none
  currentKm := none
  transferIfExists := false

def exampleLead (plate : String) : QuickLeadInput where
  firstName := "Mehmet"
  lastName := none
  phone := "05441234567"
  plate
  brand := none
  model := none
  year := none

/-- A vehicle is created, and then a quick lead comes with a plate. -/
def createThenLead (created leads : String) : List (PoolAction Call Env) :=
  .start (.createVehicle 0 (exampleVehicle created)) :: List.replicate 3 (.step 0 exampleEnv) ++
    .start (.quickLead 0 (exampleLead leads)) :: List.replicate 3 (.step 1 exampleEnv)

theorem always_onePlate_sameSpelling :
    (Always (System.act asciiUpper) (fun s => s.shared.OnePlate asciiUpper) (Pool.idle exampleDb)
        (createThenLead "34abc123" "34 ABC 123") ∧
      EachStep (System.act asciiUpper) (System.Ends (Write.CreatesNew asciiUpper))
        (Pool.idle exampleDb) (createThenLead "34abc123" "34 ABC 123")) ∧
      (run (System.act asciiUpper) (Pool.idle exampleDb)
        (createThenLead "34abc123" "34 ABC 123")).shared.vehicles.rows.length = 1 :=
  ⟨always_onePlate asciiUpper (by decide +kernel) _ (by decide +kernel), by decide +kernel⟩

/-- The plate of the vehicle is stored with its blanks, the quick lead looks for it without. -/
theorem plate_with_blanks :
    ¬ ∀ calls, Always (System.act asciiUpper) (fun s => s.shared.OnePlate asciiUpper)
      (Pool.idle exampleDb) calls := by
  intro h
  have hone := (h (createThenLead "34 ABC 123" "34ABC123")).last
  revert hone
  decide +kernel

end Example

end WorksAuto.Customers
