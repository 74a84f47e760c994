import WorksAuto.Customers.System

/-! Restoring a customer after deleting it.
Deleting a customer deletes those of its vehicles that are live; restoring it restores
all that are deleted, those included that had been deleted by themselves before. -/

namespace WorksAuto.Customers

open Lib

def Task.steps (uc : UpperCase) (t : Task) (db : Db) : List Env → Db × Task
  | [] => (db, t)
  | env :: envs => (t.exec uc db env).2.steps uc (t.exec uc db env).1 envs

def Call.perform (uc : UpperCase) (c : Call) (db : Db) (envs : List Env) : Db × Task :=
  (c.enter uc).steps uc db envs

def Task.succeeded : Task → Bool
  | .finished (.ok _) => true
  | _ => false

def Vehicle.live (v : Vehicle) : Vehicle := { v with deletedAt := none }

/-- The customers are as before, and so are the vehicles, but that those of the customer
are all live. -/
structure Db.RestoredFrom (db : Db) (id : Uuid) (db' : Db) : Prop where
  customers : ∀ k, db'.customers.get? k = db.customers.get? k
  vehicles : ∀ k, db'.vehicles.get? k =
    (db.vehicles.get? k).map fun v => if v.customerId = id then v.live else v

section Steps

variable {uc : UpperCase} {db db' : Db} {t : Task} {envs : List Env}

@[simp] theorem steps_finished (answer : Outcome Unit) :
    (Task.finished answer).steps uc db envs = (db, .finished answer) := by
  induction envs with
  | nil => rfl
  | cons env envs ih => exact ih

theorem steps_after {α : Type} {check : Outcome α} {next : α → Task}
    (h : ((Task.after check next).steps uc db envs).2.succeeded = true) :
    ∃ a, check = .ok a ∧ Task.after check next = next a := by
  cases check with
  | error e =>
    have hend : (Task.after (.error e : Outcome α) next).steps uc db envs =
        (db, .finished (.error e)) := steps_finished _
    rw [hend] at h
    cases h
  | ok a => exact ⟨a, rfl, rfl⟩

theorem steps_commit {w : Write}
    (h : ((Task.commit w .finish).steps uc db envs).2.succeeded = true) :
    w.waits db = false ∧
      (Task.commit w .finish).steps uc db envs = (db.store w, .finished (.ok ())) := by
  induction envs with
  | nil => cases h
  | cons env envs ih =>
    cases hwaits : w.waits db with
    | true =>
      have hstay : (Task.commit w .finish).exec uc db env = (db, .commit w .finish) := by
        simp only [Task.exec, hwaits, if_true]
      rw [Task.steps, hstay] at h ⊢
      have hnot := (ih h).1
      rw [hwaits] at hnot
      cases hnot
    | false =>
      cases hc : db.commit w with
      | error e =>
        have hexec : (Task.commit w .finish).exec uc db env = (db, .finished (.error e)) := by
          simp only [Task.exec, hwaits, hc, Bool.false_eq_true, if_false]
        rw [Task.steps, hexec, steps_finished] at h
        cases h
      | ok db' =>
        obtain ⟨-, rfl⟩ := commit_eq_ok.mp hc
        have hexec : (Task.commit w .finish).exec uc db env =
            (db.store w, .finished (.ok ())) := by
          simp only [Task.exec, hwaits, hc, Bool.false_eq_true, if_false]
        rw [Task.steps, hexec, steps_finished]
        exact ⟨rfl, rfl⟩

theorem exec_commit {w : Write} (hwaits : w.waits db = false) (haccepted : w.Accepted db)
    (env : Env) : (Task.commit w .finish).exec uc db env = (db.store w, .finished (.ok ())) := by
  have hcommit : db.commit w = .ok (db.store w) := commit_eq_ok.mpr ⟨haccepted, rfl⟩
  simp only [Task.exec, hwaits, hcommit, Bool.false_eq_true, if_false]

end Steps

section RoundTrip

variable {uc : UpperCase} {db : Db} {tenantId id : Uuid} {row : Customer}

def archival (id : Uuid) (now : Instant) : Write := ⟨.update id (.archive now), .archiveAll now⟩

def revival (id : Uuid) : Write := ⟨.update id .revive, .reviveAll⟩

theorem softDelete_succeeds {envs : List Env}
    (h : ((Call.softDelete tenantId id).perform uc db envs).2.succeeded = true) :
    ∃ row now, db.liveCustomer? tenantId id = some row ∧ id ∉ db.lockedCustomers ∧
      ((Call.softDelete tenantId id).perform uc db envs).1 = db.store (archival id now) := by
  cases envs with
  | nil => cases h
  | cons first envs =>
    have hfind : (Call.softDelete tenantId id).perform uc db (first :: envs) =
        (Task.after (Outcome.required (db.liveCustomer? tenantId id) customerNotFound)
          fun _ => .archiveCustomer tenantId id).steps uc db envs := rfl
    rw [hfind] at h ⊢
    obtain ⟨row, hlive, hnext⟩ := steps_after h
    rw [hnext] at h ⊢
    cases envs with
    | nil => cases h
    | cons second envs =>
      rw [Task.steps, Task.exec] at h ⊢
      obtain ⟨_, -, hnext'⟩ := steps_after h
      rw [hnext'] at h ⊢
      obtain ⟨hwaits, hend⟩ := steps_commit h
      refine ⟨row, second.now, Outcome.required_eq_ok.mp hlive, ?_, congrArg Prod.fst hend⟩
      simpa [Write.waits] using hwaits

theorem archived_customer (hrow : db.liveCustomer? tenantId id = some row) (now : Instant) :
    (db.store (archival id now)).archivedCustomer? tenantId id =
      some { row with deletedAt := some now } := by
  obtain ⟨hget, hlive⟩ := Option.filter_eq_some_iff.mp hrow
  rw [Bool.and_eq_true] at hlive
  have hstored : (db.store (archival id now)).customers.get? id =
      some { row with deletedAt := some now } := Table.get?_modify_self hget _
  rw [Db.archivedCustomer?, hstored, Option.filter_some, if_pos]
  simpa using hlive.1

theorem restore_perform {archived : Customer} {envs : List Env} (henough : 2 ≤ envs.length)
    (harchived : db.archivedCustomer? tenantId id = some archived) (hfree : id ∉ db.lockedCustomers) :
    (Call.restore tenantId id).perform uc db envs = (db.store (revival id), .finished (.ok ())) := by
  obtain ⟨first, second, rest, rfl⟩ : ∃ first second rest, envs = first :: second :: rest := by
    rcases envs with - | ⟨first, - | ⟨second, rest⟩⟩
    · cases henough
    · exact absurd henough (by simp)
    · exact ⟨first, second, rest, rfl⟩
  have hget := (Option.filter_eq_some_iff.mp harchived).1
  have hfound : (Task.findArchived tenantId id).exec uc db first =
      (db, .commit (revival id) .finish) := by
    rw [Task.exec, harchived]
    rfl
  have hwaits : (revival id).waits db = false := by simpa [Write.waits, revival] using hfree
  have haccepted : (revival id).Accepted db :=
    ⟨by simp [Write.rowsExist, revival, hget], rfl⟩
  rw [Call.perform, Call.enter, Task.steps, hfound, Task.steps, exec_commit hwaits haccepted,
    steps_finished]

theorem restoredFrom_store (hrow : db.liveCustomer? tenantId id = some row) (now : Instant) :
    db.RestoredFrom id ((db.store (archival id now)).store (revival id)) := by
  obtain ⟨hget, hlive⟩ := Option.filter_eq_some_iff.mp hrow
  rw [Bool.and_eq_true, Option.isNone_iff_eq_none] at hlive
  refine ⟨fun k => ?_, fun k => ?_⟩
  · have hboth : ((db.store (archival id now)).store (revival id)).customers.get? k =
        ((db.customers.get? k).map fun r =>
          if k = id then CustomerChange.apply (.archive now) r else r).map fun r =>
            if k = id then CustomerChange.apply .revive r else r := by
      rw [← Table.get?_modify, ← Table.get?_modify]
      rfl
    rw [hboth]
    by_cases hk : k = id
    · subst hk
      simp only [hget, if_true, Option.map_some, CustomerChange.apply]
      rw [← hlive.2]
    · simp [hk]
  · have hboth : ((db.store (archival id now)).store (revival id)).vehicles.get? k =
        ((db.vehicles.get? k).map fun v =>
          if v.customerId = id && v.deletedAt.isNone then
            (VehicleChange.archive now).apply id v else v).map fun v =>
              if v.customerId = id && v.deletedAt.isSome then VehicleChange.revive.apply id v
              else v := by
      refine (Table.get?_modifyIf _ _ _ k).trans ?_
      exact congrArg _ (Table.get?_modifyIf _ _ _ k)
    rw [hboth]
    cases db.vehicles.get? k with
    | none => rfl
    | some v =>
      obtain ⟨_, customerId, _, _, _, _, _, _, deletedAt⟩ := v
      by_cases hcustomer : customerId = id
      · cases deletedAt <;> simp [hcustomer, VehicleChange.apply, Vehicle.live]
      · simp [hcustomer]

/-- A customer that has been deleted can be restored. It is what it was before; its
vehicles are all live, so a vehicle is deleted or not as it was before precisely when it
is another customer's or was live. -/
theorem softDelete_restore (uc : UpperCase) {db : Db} {tenantId id : Uuid} {envs envs' : List Env}
    (haccepts : ((Call.softDelete tenantId id).perform uc db envs).2.succeeded = true)
    (henough : 2 ≤ envs'.length) :
    ∃ db', (Call.restore tenantId id).perform uc
        ((Call.softDelete tenantId id).perform uc db envs).1 envs' = (db', .finished (.ok ())) ∧
      db.RestoredFrom id db' ∧
      ∀ k v, db.vehicles.get? k = some v →
        ((db'.vehicles.get? k).map Vehicle.deletedAt = some v.deletedAt ↔
          v.customerId ≠ id ∨ v.deletedAt = none) := by
  obtain ⟨row, now, hrow, hfree, hdeleted⟩ := softDelete_succeeds haccepts
  rw [hdeleted]
  have hrestored := restoredFrom_store hrow now
  refine ⟨_, restore_perform henough (archived_customer hrow now) hfree, hrestored, ?_⟩
  intro k v hv
  rw [hrestored.vehicles k, hv, Option.map_some, Option.map_some, Option.some.injEq]
  by_cases hcustomer : v.customerId = id
  · simp [hcustomer, Vehicle.live, eq_comm]
  · simp [hcustomer]

end RoundTrip

section Example

def soldVehicle (deletedAt : Option Instant) : Vehicle where
  tenantId := 0
  customerId := 0
  plate := "34ABC123"
  brand := unknownBrand
  model := unknownModel
  year := 2020
  vin := none
  currentKm := 0
  deletedAt

def garageOf (deletedAt : Option Instant) : Db :=
  { exampleDb with vehicles := .ofList [soldVehicle deletedAt] }

theorem softDelete_restore_liveVehicle :
    ∃ db', (Call.restore 0 0).perform asciiUpper
        ((Call.softDelete 0 0).perform asciiUpper (garageOf none)
          (List.replicate 3 exampleEnv)).1 (List.replicate 2 exampleEnv) =
            (db', .finished (.ok ())) ∧
      (garageOf none).RestoredFrom 0 db' ∧
      ∀ k v, (garageOf none).vehicles.get? k = some v →
        ((db'.vehicles.get? k).map Vehicle.deletedAt = some v.deletedAt ↔
          v.customerId ≠ 0 ∨ v.deletedAt = none) :=
  softDelete_restore asciiUpper (by decide +kernel) (by decide)

/-- The vehicle had been deleted by itself; deleting and restoring its owner brings it back. -/
theorem deleted_vehicle_comes_back :
    ((Call.softDelete 0 0).perform asciiUpper (garageOf (some 1767139200000))
        (List.replicate 3 exampleEnv)).2.succeeded = true ∧
      ((Call.restore 0 0).perform asciiUpper
        ((Call.softDelete 0 0).perform asciiUpper (garageOf (some 1767139200000))
          (List.replicate 3 exampleEnv)).1 (List.replicate 2 exampleEnv)).2.succeeded = true ∧
      (((Call.restore 0 0).perform asciiUpper
        ((Call.softDelete 0 0).perform asciiUpper (garageOf (some 1767139200000))
          (List.replicate 3 exampleEnv)).1 (List.replicate 2 exampleEnv)).1.vehicles.get? 0).map
            Vehicle.deletedAt = some none ∧
      ((garageOf (some 1767139200000)).vehicles.get? 0).map Vehicle.deletedAt =
        some (some 1767139200000) := by
  decide +kernel

end Example

end WorksAuto.Customers
