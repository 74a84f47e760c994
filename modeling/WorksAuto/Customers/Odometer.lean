import WorksAuto.Customers.Fleet
import WorksAuto.Customers.Restoring

/-! The odometers of the fleet.
A work order advances the reading of its vehicle when it is above the one that the order has
read before; an edit and an import store the reading that they come with. -/

namespace WorksAuto.Customers

open Lib

structure WorkOrderKm where
  vehicleId : Uuid
  initialKm : ℤ
  deriving DecidableEq, Repr

structure Odometer where
  fleet : Fleet
  workOrders : Table WorkOrderKm

def FleetTask.opens? (t : FleetTask) (env : FleetEnv) : Option WorkOrderKm :=
  match t with
  | .recordKm vehicleId initialKm _ => if env.refusal = none then some ⟨vehicleId, initialKm⟩ else none
  | _ => none

def Odometer.exec (uc : UpperCase) (s : Odometer) (t : FleetTask) (env : FleetEnv) :
    Odometer × FleetTask :=
  ({ fleet := (t.exec uc s.fleet env).1
     workOrders := (t.opens? env).elim s.workOrders s.workOrders.insert }, (t.exec uc s.fleet env).2)

abbrev OdometerPool := Pool Odometer FleetTask

def OdometerPool.act (uc : UpperCase) :
    OdometerPool → PoolAction FleetRequest FleetEnv → OdometerPool :=
  Pool.act (FleetRequest.enter uc) (Odometer.exec uc)

section Statements

/-- Every vehicle stays, and none of its readings is below an earlier one. -/
def Db.NeverBack (db db' : Db) : Prop :=
  ∀ k v, db.vehicles.get? k = some v →
    ∃ w, db'.vehicles.get? k = some w ∧ v.currentKm ≤ w.currentKm

/-- The reading of a vehicle is not below that of any of its work orders. -/
def Odometer.Covers (s : Odometer) : Prop :=
  ∀ k o, s.workOrders.get? k = some o →
    ∃ v, s.fleet.db.vehicles.get? o.vehicleId = some v ∧ o.initialKm ≤ v.currentKm

/-- A reading that is stored with an edit or an import is not below the one that is there. -/
def Write.Advances (w : Write) (db : Db) : Prop :=
  match w.vehicle with
  | .update id (.save vehicle) =>
    ∀ v ∈ db.vehicles.get? id, v.currentKm ≤ vehicle.currentKm
  | .update id (.patch update) =>
    ∀ v ∈ db.vehicles.get? id, ∀ km ∈ update.currentKm, v.currentKm ≤ km
  | _ => True

/-- For a work order: the reading is not above the order's when the order is to advance it,
and an order without a reading is not for a vehicle with a negative one. -/
def FleetTask.Advances (t : FleetTask) (s : Fleet) (env : FleetEnv) : Prop :=
  match t with
  | .call task => ∀ w ∈ task.through? s.db, w.Advances s.db
  | .recordKm vehicleId initialKm currentKm =>
    env.refusal = none → ∀ v ∈ s.db.vehicles.get? vehicleId,
      (0 < initialKm → currentKm < initialKm → v.currentKm ≤ initialKm) ∧
        (initialKm ≤ 0 → initialKm ≤ v.currentKm)
  | _ => True

def OdometerPool.Advances (p : OdometerPool) : PoolAction FleetRequest FleetEnv → Prop
  | .start _ => True
  | .step k env => ∀ t ∈ p.threads.get? k, t.Advances p.shared.fleet env

end Statements

section Vehicles

variable {db db' db'' : Db} {w : Write}

theorem Db.NeverBack.refl (db : Db) : db.NeverBack db := fun _ v hv => ⟨v, hv, le_rfl⟩

theorem Db.NeverBack.trans (h : db.NeverBack db') (h' : db'.NeverBack db'') :
    db.NeverBack db'' := by
  intro k v hv
  obtain ⟨u, hu, hkm⟩ := h k v hv
  obtain ⟨w, hw, hkm'⟩ := h' k u hu
  exact ⟨w, hw, hkm.trans hkm'⟩

theorem neverBack_of_vehicles (h : db'.vehicles = db.vehicles) : db.NeverBack db' :=
  fun k v hv => ⟨v, by rw [h]; exact hv, le_rfl⟩

theorem neverBack_modify_iff {id : Uuid} {f : Vehicle → Vehicle}
    (h : db'.vehicles = db.vehicles.modify id f) :
    db.NeverBack db' ↔ ∀ v ∈ db.vehicles.get? id, v.currentKm ≤ (f v).currentKm := by
  constructor
  · intro hback v hv
    obtain ⟨u, hu, hkm⟩ := hback id v hv
    rw [h, Table.get?_modify_self hv] at hu
    exact Option.some.inj hu ▸ hkm
  · intro hle k v hv
    by_cases hk : k = id
    · subst hk
      exact ⟨f v, by rw [h, Table.get?_modify_self hv], hle v hv⟩
    · exact ⟨v, by rw [h, Table.get?_modify_ne _ hk, hv], le_rfl⟩

theorem neverBack_modifyIf {c : Uuid → Vehicle → Bool} {f : Vehicle → Vehicle}
    (h : db'.vehicles = db.vehicles.modifyIf c f) (hf : ∀ v, (f v).currentKm = v.currentKm) :
    db.NeverBack db' := by
  intro k v hv
  refine ⟨if c k v then f v else v, ?_, ?_⟩
  · rw [h, Table.get?_modifyIf, hv]
    rfl
  · split_ifs
    · exact (hf v).ge
    · exact le_rfl

theorem neverBack_store_iff (db : Db) (w : Write) : db.NeverBack (db.store w) ↔ w.Advances db := by
  obtain ⟨customer, vehicle⟩ := w
  cases vehicle with
  | none => exact iff_of_true (neverBack_of_vehicles rfl) trivial
  | insert row =>
    refine iff_of_true (fun k v hv => ⟨v, ?_, le_rfl⟩) trivial
    exact Table.get?_insert_of_some hv _
  | update id change =>
    refine (neverBack_modify_iff rfl).trans ?_
    cases change with
    | save vehicle => exact Iff.rfl
    | patch update =>
      refine forall₂_congr fun v _ => ?_
      cases hkm : update.currentKm with
      | none => simp [VehicleChange.apply, hkm]
      | some km => simp [VehicleChange.apply, hkm]
    | transfer | archive deletedAt | revive => exact iff_of_true (fun _ _ => le_rfl) trivial
  | archiveAll deletedAt =>
    refine iff_of_true (neverBack_modifyIf
      (c := fun _ v => v.customerId = customer.customerId db.customers && v.deletedAt.isNone)
      (f := (VehicleChange.archive deletedAt).apply _) rfl fun _ => rfl) trivial
  | reviveAll =>
    refine iff_of_true (neverBack_modifyIf
      (c := fun _ v => v.customerId = customer.customerId db.customers && v.deletedAt.isSome)
      (f := VehicleChange.revive.apply _) rfl fun _ => rfl) trivial

end Vehicles

section Step

variable {uc : UpperCase} {s : Odometer} {t : FleetTask} {env : FleetEnv}

def FleetTask.HasRead (s : Odometer) : FleetTask → Prop
  | .recordKm vehicleId _ currentKm =>
    ∃ v, s.fleet.db.vehicles.get? vehicleId = some v ∧ currentKm ≤ v.currentKm
  | _ => True

theorem FleetTask.HasRead.mono {s' : Odometer} (h : t.HasRead s)
    (hback : s.fleet.db.NeverBack s'.fleet.db) : t.HasRead s' := by
  cases t with
  | recordKm vehicleId initialKm currentKm =>
    obtain ⟨v, hv, hkm⟩ := h
    obtain ⟨w, hw, hle⟩ := hback _ v hv
    exact ⟨w, hw, hkm.trans hle⟩
  | _ => trivial

theorem Odometer.Covers.mono {s' : Odometer} (h : s.Covers)
    (hback : s.fleet.db.NeverBack s'.fleet.db) (horders : s'.workOrders = s.workOrders) :
    s'.Covers := by
  intro k o ho
  obtain ⟨v, hv, hkm⟩ := h k o (by rw [← horders]; exact ho)
  obtain ⟨w, hw, hle⟩ := hback _ v hv
  exact ⟨w, hw, hkm.trans hle⟩

theorem covers_insert_iff {s' : Odometer} {o : WorkOrderKm} (h : s.Covers)
    (hback : s.fleet.db.NeverBack s'.fleet.db) (horders : s'.workOrders = s.workOrders.insert o) :
    s'.Covers ↔
      ∃ v, s'.fleet.db.vehicles.get? o.vehicleId = some v ∧ o.initialKm ≤ v.currentKm := by
  constructor
  · intro hcovers
    refine hcovers s.workOrders.next o ?_
    rw [horders, Table.get?_insert_self]
  · intro ho k o' hget
    rw [horders, Table.get?_insert] at hget
    split_ifs at hget
    · obtain rfl := Option.some.inj hget
      exact ho
    · obtain ⟨v, hv, hkm⟩ := h k o' hget
      obtain ⟨w, hw, hle⟩ := hback _ v hv
      exact ⟨w, hw, hkm.trans hle⟩

theorem exec_hasRead (hback : s.fleet.db.NeverBack (s.exec uc t env).1.fleet.db) :
    (s.exec uc t env).2.HasRead (s.exec uc t env).1 := by
  cases t with
  | openOrder tenantId customerId vehicleId initialKm =>
    simp only [Odometer.exec, FleetTask.exec]
    cases hcheck : checkOrderVehicle s.fleet.db tenantId customerId vehicleId initialKm with
    | error e => trivial
    | ok vehicle =>
      obtain ⟨_, -, h⟩ := Outcome.bind_eq_ok.mp hcheck
      obtain ⟨found, hlive, h⟩ := Outcome.bind_eq_ok.mp h
      obtain ⟨_, -, h⟩ := Outcome.bind_eq_ok.mp h
      obtain ⟨_, -, h⟩ := Outcome.bind_eq_ok.mp h
      obtain rfl := Outcome.pure_eq_ok.mp h
      have hrow := (Option.filter_eq_some_iff.mp (Outcome.required_eq_ok.mp hlive)).1
      exact ⟨found, (Option.filter_eq_some_iff.mp hrow).1, le_rfl⟩
  | recordKm vehicleId initialKm currentKm =>
    simp only [Odometer.exec, FleetTask.exec]
    split
    · trivial
    · split_ifs <;> trivial
  | _ => trivial

theorem exec_iff (hs : s.Covers) (ht : t.HasRead s) :
    s.fleet.db.NeverBack (s.exec uc t env).1.fleet.db ∧ (s.exec uc t env).1.Covers ↔
      t.Advances s.fleet env := by
  cases t with
  | call task =>
    have hcovers : s.fleet.db.NeverBack (s.exec uc (.call task) env).1.fleet.db →
        (s.exec uc (.call task) env).1.Covers := fun hback => hs.mono hback rfl
    rw [and_iff_left_of_imp hcovers]
    rcases exec_shared uc s.fleet.db task { env.toEnv with currentYear := s.fleet.year } with
      ⟨w, next, -, hthrough, -, hstore⟩ | ⟨args, deletedAt, affected, masked, last, rfl, -, hstore⟩ |
        ⟨hnone, -, -, hsame, -⟩
    · have hdb : (s.exec uc (.call task) env).1.fleet.db = s.fleet.db.store w := hstore
      rw [hdb, neverBack_store_iff, FleetTask.Advances, hthrough]
      simp
    · refine iff_of_true (neverBack_of_vehicles ?_) fun w hw => by cases hw
      exact (congrArg Db.vehicles hstore : _)
    · refine iff_of_true (neverBack_of_vehicles hsame) fun w hw => ?_
      rw [hnone] at hw
      cases hw
  | recordKm vehicleId initialKm currentKm =>
    obtain ⟨v, hv, hread⟩ := ht
    cases hrefusal : env.refusal with
    | some e =>
      have hexec : (s.exec uc (.recordKm vehicleId initialKm currentKm) env).1 = s := by
        simp only [Odometer.exec, FleetTask.exec, FleetTask.opens?, hrefusal, reduceCtorEq, if_false,
          Option.elim_none]
      rw [hexec]
      refine iff_of_true ⟨.refl _, hs⟩ fun hnone => ?_
      rw [hrefusal] at hnone
      cases hnone
    | none =>
      have horders : (s.exec uc (.recordKm vehicleId initialKm currentKm) env).1.workOrders =
          s.workOrders.insert ⟨vehicleId, initialKm⟩ := by
        simp only [Odometer.exec, FleetTask.opens?, hrefusal, if_true, Option.elim_some]
      have hadvances : FleetTask.Advances (.recordKm vehicleId initialKm currentKm) s.fleet env ↔
          (0 < initialKm → currentKm < initialKm → v.currentKm ≤ initialKm) ∧
            (initialKm ≤ 0 → initialKm ≤ v.currentKm) := by
        simp only [FleetTask.Advances, hrefusal, forall_const, hv, Option.mem_def, Option.some.injEq,
          forall_eq']
      rw [hadvances]
      by_cases hadvance : 0 < initialKm ∧ currentKm < initialKm
      · have hvehicles : (s.exec uc (.recordKm vehicleId initialKm currentKm) env).1.fleet.db.vehicles =
            s.fleet.db.vehicles.modify vehicleId (Vehicle.advance initialKm) := by
          simp only [Odometer.exec, FleetTask.exec, hrefusal, if_pos hadvance]
        have hback := neverBack_modify_iff hvehicles
        have hcovers : s.fleet.db.NeverBack
            (s.exec uc (.recordKm vehicleId initialKm currentKm) env).1.fleet.db →
              (s.exec uc (.recordKm vehicleId initialKm currentKm) env).1.Covers := by
          intro h
          refine (covers_insert_iff hs h horders).mpr ⟨v.advance initialKm, ?_, le_rfl⟩
          rw [hvehicles, Table.get?_modify_self hv]
        rw [and_iff_left_of_imp hcovers, hback, hv]
        simp only [Option.mem_def, Option.some.injEq, forall_eq', Vehicle.advance]
        exact ⟨fun h => ⟨fun _ _ => h, fun h₀ => absurd hadvance.1 (not_lt.mpr h₀)⟩,
          fun h => h.1 hadvance.1 hadvance.2⟩
      · have hdb : (s.exec uc (.recordKm vehicleId initialKm currentKm) env).1.fleet = s.fleet := by
          simp only [Odometer.exec, FleetTask.exec, hrefusal, if_neg hadvance]
        have hback : s.fleet.db.NeverBack
            (s.exec uc (.recordKm vehicleId initialKm currentKm) env).1.fleet.db := by
          rw [hdb]
          exact .refl _
        rw [and_iff_right hback, covers_insert_iff hs hback horders, hdb, hv]
        simp only [Option.some.injEq, exists_eq_left']
        constructor
        · exact fun h => ⟨fun h₀ hlt => absurd ⟨h₀, hlt⟩ hadvance, fun _ => h⟩
        · rintro ⟨-, hnone⟩
          by_cases h₀ : 0 < initialKm
          · have hle : initialKm ≤ currentKm := not_lt.mp fun hlt => hadvance ⟨h₀, hlt⟩
            exact hle.trans hread
          · exact hnone (not_lt.mp h₀)
  | openOrder tenantId customerId vehicleId initialKm =>
    have hexec : (s.exec uc (.openOrder tenantId customerId vehicleId initialKm) env).1 = s := by
      simp only [Odometer.exec, FleetTask.exec]
      split <;> rfl
    rw [hexec]
    exact iff_of_true ⟨.refl _, hs⟩ trivial
  | newYear => exact iff_of_true ⟨neverBack_of_vehicles rfl, hs⟩ trivial
  | finished answer => exact iff_of_true ⟨.refl _, hs⟩ trivial

end Step

section Run

variable {uc : UpperCase}

/-- The readings are covered, and every work order under way has read one that still counts. -/
def OdometerPool.Sound (p : OdometerPool) : Prop :=
  Pool.Holds Odometer.Covers FleetTask.HasRead p

theorem FleetRequest.enter_hasRead (r : FleetRequest) (s : Odometer) : (r.enter uc).HasRead s := by
  cases r <;> trivial

theorem sound_act {p : OdometerPool} {a : PoolAction FleetRequest FleetEnv} (h : p.Sound)
    (ha : p.Advances a) : (OdometerPool.act uc p a).Sound := by
  cases a with
  | start r => exact Pool.Holds.start h (r.enter_hasRead p.shared)
  | step k env =>
    refine Pool.Holds.step h fun t ht => ?_
    have hgood : p.shared.fleet.db.NeverBack (p.shared.exec uc t env).1.fleet.db ∧
        (p.shared.exec uc t env).1.Covers := (exec_iff h.1 (h.2 k t ht)).mpr (ha t ht)
    obtain ⟨hback, hcovers⟩ := hgood
    exact ⟨hcovers, exec_hasRead hback, fun u hu => hu.mono hback⟩

theorem neverBack_act {p : OdometerPool} {a : PoolAction FleetRequest FleetEnv} (h : p.Sound)
    (ha : p.Advances a) :
    p.shared.fleet.db.NeverBack (OdometerPool.act uc p a).shared.fleet.db := by
  rcases Pool.shared_act (FleetRequest.enter uc) (Odometer.exec uc) p a with
    hsame | ⟨k, env, t, rfl, ht, hexec⟩
  · exact neverBack_of_vehicles (congrArg (fun s : Odometer => s.fleet.db.vehicles) hsame)
  · have hback : p.shared.fleet.db.NeverBack (p.shared.exec uc t env).1.fleet.db :=
      ((exec_iff h.1 (h.2 k t ht)).mpr (ha t ht)).1
    rw [← hexec] at hback
    exact hback

theorem not_advances {p : OdometerPool} {a : PoolAction FleetRequest FleetEnv} (h : p.Sound)
    (ha : ¬ p.Advances a) :
    ¬ (p.shared.fleet.db.NeverBack (OdometerPool.act uc p a).shared.fleet.db ∧
      (OdometerPool.act uc p a).shared.Covers) := by
  cases a with
  | start r => exact absurd trivial ha
  | step k env =>
    simp only [OdometerPool.Advances, not_forall] at ha
    obtain ⟨t, ht, hnot⟩ := ha
    have hshared : (OdometerPool.act uc p (.step k env)).shared = (p.shared.exec uc t env).1 :=
      congrArg Pool.shared (Pool.act_step_some ht env)
    rw [hshared]
    exact fun hgood => hnot ((exec_iff h.1 (h.2 k t ht)).mp hgood)

/-- In every interleaving, no odometer runs back and every work order stays covered, precisely
when every reading that is stored is not below the one that is there. -/
theorem odometer_advances_iff (uc : UpperCase) {s : Odometer} (hs : s.Covers)
    (actions : List (PoolAction FleetRequest FleetEnv)) :
    Lasting (OdometerPool.act uc) (fun p q => p.shared.fleet.db.NeverBack q.shared.fleet.db)
          (Pool.idle s) actions ∧
        Always (OdometerPool.act uc) (fun p => p.shared.Covers) (Pool.idle s) actions ↔
      EachStep (OdometerPool.act uc) OdometerPool.Advances (Pool.idle s) actions := by
  have hstart : OdometerPool.Sound (Pool.idle s) := Pool.holds_idle hs
  refine lasting_always_iff_eachStep ?_ ?_ ?_ ?_ ?_ ?_ hstart actions
  · exact fun p => .refl _
  · exact fun p q r hpq hqr => hpq.trans hqr
  · exact fun p hp => hp.1
  · exact fun p a hp ha => sound_act hp ha
  · exact fun p a hp ha => neverBack_act hp ha
  · exact fun p a hp ha => not_advances hp ha

end Run

section Example

def drivenFleet : Odometer where
  fleet :=
    { db := { exampleDb with
        vehicles := .ofList [{ soldVehicle none with currentKm := 120000 }] }
      year := 2026 }
  workOrders := .empty

def setKm (currentKm : ℤ) : List (PoolAction FleetRequest FleetEnv) :=
  .start (.call (.updateVehicle 0 0
      { plate := none, brand := none, model := none, year := none, vin := none
        currentKm := some currentKm })) ::
    List.replicate 3 (.step 0 exampleFleetEnv)

theorem drivenFleet_covers : drivenFleet.Covers := by
  intro k o ho
  cases ho

instance (w : Write) (db : Db) : Decidable (w.Advances db) := by
  obtain ⟨customer, vehicle⟩ := w
  unfold Write.Advances
  cases vehicle with
  | update id change => cases change <;> infer_instance
  | _ => infer_instance

instance (t : FleetTask) (s : Fleet) (env : FleetEnv) : Decidable (t.Advances s env) := by
  unfold FleetTask.Advances
  split <;> infer_instance

instance (p : OdometerPool) : (a : PoolAction FleetRequest FleetEnv) → Decidable (p.Advances a)
  | .start _ => .isTrue trivial
  | .step k env => inferInstanceAs (Decidable (∀ t ∈ p.threads.get? k, _))

theorem odometer_advances_setKm :
    Lasting (OdometerPool.act asciiUpper)
        (fun p q => p.shared.fleet.db.NeverBack q.shared.fleet.db)
        (Pool.idle drivenFleet) (setKm 125000) ∧
      Always (OdometerPool.act asciiUpper) (fun p => p.shared.Covers)
        (Pool.idle drivenFleet) (setKm 125000) :=
  (odometer_advances_iff asciiUpper drivenFleet_covers (setKm 125000)).mpr (by decide +kernel)

/-- An edit turns the odometer back. -/
theorem edit_turns_back :
    ¬ Lasting (OdometerPool.act asciiUpper)
      (fun p q => p.shared.fleet.db.NeverBack q.shared.fleet.db)
      (Pool.idle drivenFleet) (setKm 12000) := by
  intro h
  obtain ⟨w, hw, hkm⟩ := h [] (setKm 12000) [] rfl 0 { soldVehicle none with currentKm := 120000 } rfl
  have hrow : (run (OdometerPool.act asciiUpper) (Pool.idle drivenFleet)
      (setKm 12000)).shared.fleet.db.vehicles.get? 0 =
        some { soldVehicle none with currentKm := 12000 } := by
    decide +kernel
  obtain rfl := Option.some.inj (hw.symm.trans hrow)
  exact absurd hkm (by decide)

end Example

end WorksAuto.Customers
