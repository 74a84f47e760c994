import WorksAuto.Customers.Import

/-! What the counters of an import tell.
A row that fails is rolled back, its counts are not. So the counters tell what was stored
precisely when no row fails after it has written a customer or a vehicle. -/

namespace WorksAuto.Customers

open Lib

def added {ρ : Type} (t t' : Table ρ) : ℕ := t'.rows.countP fun q => (t.get? q.1).isNone

def CustomerWrite.isUpdate : CustomerWrite → Bool
  | update _ _ => true
  | _ => false

def ImportVehicleWrite.isUpdate : ImportVehicleWrite → Bool
  | update _ _ _ => true
  | _ => false

section Writes

variable (uc : UpperCase) (tenantId : Uuid) (updateExisting : Bool) (db : ImportDb)

namespace RawRow

variable (row : RawRow) (env : ImportEnv)

def customer? : Outcome CustomerWrite := do
  let found ← row.findCustomer db tenantId env.choice
  row.checkNames
  row.customerWrite tenantId updateExisting found

def vehicle? (customerId : Uuid) : Outcome ImportVehicleWrite := do
  let plate? ← row.plateText? uc
  match plate? with
  | none => pure .none
  | some plate => do
    let found ← row.lookUpVehicle tenantId db plate
    row.vehicleWrite uc tenantId updateExisting db env customerId plate found

def vehicleAfter? (w : CustomerWrite) : Outcome ImportVehicleWrite :=
  row.vehicle? uc tenantId updateExisting (db.storeCustomer w) env (w.customerId db.customers)

def Stores : Prop :=
  ∃ w, row.customer? tenantId updateExisting db env = .ok w ∧
    (w.writes = true ∨
      ∃ v, row.vehicleAfter? uc tenantId updateExisting db env w = .ok v ∧ v.writes = true)

def Succeeds : Prop :=
  env.refusal = none ∧ ∃ w, row.customer? tenantId updateExisting db env = .ok w ∧
    (row.vehicleAfter? uc tenantId updateExisting db env w).isOk = true

end RawRow

/-- No row fails after it has written a customer or a vehicle. -/
def StoredIsKept (s : ImportState) (l : ImportStep) : Prop :=
  ∀ row ∈ l.1, row.Stores uc tenantId updateExisting s.db l.2 →
    row.Succeeds uc tenantId updateExisting s.db l.2

def commits (s : ImportState) (l : ImportStep) : Bool :=
  (importTransaction uc tenantId updateExisting s.db l).outcome.isOk

def updatesCustomer (s : ImportState) (l : ImportStep) : Bool :=
  l.1.any fun row => (row.customer? tenantId updateExisting s.db l.2).toOption.any
    CustomerWrite.isUpdate

def updatesVehicle (s : ImportState) (l : ImportStep) : Bool :=
  l.1.any fun row => ((row.customer? tenantId updateExisting s.db l.2).bind
    (row.vehicleAfter? uc tenantId updateExisting s.db l.2)).toOption.any
      ImportVehicleWrite.isUpdate

def countSteps (test : ImportState → ImportStep → Bool) (rows : List ImportStep) : ℕ :=
  sumAlong (importStep uc tenantId updateExisting) (fun s l => (test s l).toNat) (.start db) rows

/-- What the counters and the errors say of an import that ends in a state. -/
structure ImportTold (rows : List ImportStep) (final : ImportState) : Prop where
  importedCustomers :
    final.counters.importedCustomers = added db.customers final.db.customers
  importedVehicles : final.counters.importedVehicles = added db.vehicles final.db.vehicles
  updatedCustomers : final.counters.updatedCustomers =
    countSteps uc tenantId updateExisting db (fun s l =>
      commits uc tenantId updateExisting s l && updatesCustomer tenantId updateExisting s l) rows
  updatedVehicles : final.counters.updatedVehicles =
    countSteps uc tenantId updateExisting db (fun s l =>
      commits uc tenantId updateExisting s l && updatesVehicle uc tenantId updateExisting s l) rows
  errors : ∀ n e, (n, e) ∈ final.errors → ∃ before l after, rows = before ++ l :: after ∧
    n = before.length + 1 ∧
    (run (importStep uc tenantId updateExisting) (.start db) (before ++ [l])).db =
      (run (importStep uc tenantId updateExisting) (.start db) before).db

end Writes

section Added

variable {ρ : Type} {t t' : Table ρ}

theorem added_self (t : Table ρ) : added t t = 0 := by
  rw [added, List.countP_eq_zero]
  rintro ⟨k, r⟩ hr
  simp [(t.mem_rows_iff k r).mp hr]

theorem added_insert (h : t.next ≤ t'.next) (r : ρ) : added t (t'.insert r) = added t t' + 1 := by
  have hnew : (t.get? t'.next).isNone = true := by
    cases hk : t.get? t'.next with
    | none => rfl
    | some s => exact absurd (Table.get?_lt hk) (by omega)
  simp [added, Table.insert, List.countP_append, hnew]

theorem added_modify (k : ℕ) (f : ρ → ρ) : added t (t'.modify k f) = added t t' := by
  simp only [added, Table.modify, Table.modifyIf, List.countP_map]
  rfl

end Added

section Tallies

variable (uc : UpperCase) (tenantId : Uuid) (updateExisting : Bool) (row : RawRow) (db : ImportDb)
  (env : ImportEnv)

def Counters.written (c : Counters) : Counters :=
  { c with existingCustomers := 0, existingVehicles := 0 }

@[simp] theorem Counters.written_add (a b : Counters) :
    (a + b).written = a.written + b.written := rfl

@[simp] theorem Counters.written_zero : (0 : Counters).written = 0 := rfl

theorem written_found (found : Bool) :
    (if found then Counters.oneExistingCustomer else 0).written = 0 ∧
      (if found then Counters.oneExistingVehicle else 0).written = 0 := by
  cases found <;> exact ⟨rfl, rfl⟩

/-- What an outcome has counted: the counts of what is written, if anything is. -/
def countsOf {α : Type} (counters : α → Counters) (x : Outcome α) : Counters :=
  (x.toOption.map counters).getD 0

theorem written_countsOf_customer (x : Outcome CustomerWrite) :
    (countsOf CustomerWrite.counters x).written = countsOf CustomerWrite.counters x := by
  rcases x with e | (id | ⟨customer, withAccount⟩ | ⟨id, change⟩) <;> rfl

theorem written_countsOf_vehicle (x : Outcome ImportVehicleWrite) :
    (countsOf ImportVehicleWrite.counters x).written = countsOf ImportVehicleWrite.counters x := by
  rcases x with e | (_ | _ | vehicle | ⟨id, customerId, update⟩) <;> rfl

namespace RawRow

theorem importCustomer_spec :
    (row.importCustomer tenantId updateExisting db env).outcome =
        (row.customer? tenantId updateExisting db env).map
          (fun w => (db.storeCustomer w, w.customerId db.customers)) ∧
      (row.importCustomer tenantId updateExisting db env).tally.written =
        countsOf CustomerWrite.counters (row.customer? tenantId updateExisting db env) := by
  rw [importCustomer, customer?]
  cases row.findCustomer db tenantId env.choice with
  | error e => exact ⟨rfl, rfl⟩
  | ok found =>
    rw [Attempt.bind_of_ok]
    cases row.checkNames with
    | error e => exact ⟨rfl, rfl⟩
    | ok _ =>
      rw [Attempt.bind_of_ok, Attempt.count_of_count]
      refine ⟨rfl, ?_⟩
      rw [Counters.written_add, (written_found found.isSome).1, zero_add]
      exact written_countsOf_customer _

theorem importVehicle_spec (customerId : Uuid) :
    (row.importVehicle uc tenantId updateExisting db env customerId).outcome =
        (row.vehicle? uc tenantId updateExisting db env customerId).map db.storeVehicle ∧
      (row.importVehicle uc tenantId updateExisting db env customerId).tally.written =
        countsOf ImportVehicleWrite.counters
          (row.vehicle? uc tenantId updateExisting db env customerId) := by
  cases hplate : row.plateText? uc with
  | error e =>
    rw [importVehicle, vehicle?, hplate]
    exact ⟨rfl, rfl⟩
  | ok plate? =>
    rw [importVehicle, hplate, Attempt.bind_of_ok]
    cases plate? with
    | none =>
      rw [vehicle?, hplate]
      exact ⟨rfl, rfl⟩
    | some plate =>
      have hvehicle : row.vehicle? uc tenantId updateExisting db env customerId =
          row.lookUpVehicle tenantId db plate >>=
            row.vehicleWrite uc tenantId updateExisting db env customerId plate := by
        rw [vehicle?, hplate]
        rfl
      rw [hvehicle]
      dsimp only
      cases row.lookUpVehicle tenantId db plate with
      | error e => exact ⟨rfl, rfl⟩
      | ok found =>
        rw [Attempt.bind_of_ok, Attempt.count_of_count]
        refine ⟨rfl, ?_⟩
        rw [Counters.written_add, (written_found found.isSome).2, zero_add]
        exact written_countsOf_vehicle _

/-- The transaction ends well precisely when both decisions do and its end is not refused,
and counts what each decision that is made writes. -/
theorem transaction_spec :
    (row.transaction uc tenantId updateExisting db env).outcome =
        (do
          let w ← row.customer? tenantId updateExisting db env
          let v ← row.vehicleAfter? uc tenantId updateExisting db env w
          env.refusal.elim (.ok ()) .error
          pure ((db.storeCustomer w).storeVehicle v)) ∧
      (row.transaction uc tenantId updateExisting db env).tally.written =
        countsOf CustomerWrite.counters (row.customer? tenantId updateExisting db env) +
          countsOf ImportVehicleWrite.counters ((row.customer? tenantId updateExisting db env).bind
            (row.vehicleAfter? uc tenantId updateExisting db env)) := by
  obtain ⟨houtcome, htally⟩ := importCustomer_spec tenantId updateExisting row db env
  rw [transaction]
  cases hw : row.customer? tenantId updateExisting db env with
  | error e =>
    rw [hw] at houtcome htally
    rw [Attempt.bind_error houtcome]
    exact ⟨rfl, htally.trans (add_zero _).symm⟩
  | ok w =>
    rw [hw] at houtcome htally
    rw [Attempt.bind_ok houtcome]
    obtain ⟨hvehicle, hvehicleTally⟩ := importVehicle_spec uc tenantId updateExisting row
      (db.storeCustomer w) env (w.customerId db.customers)
    have hafter : (Except.ok w : Outcome CustomerWrite).bind
        (row.vehicleAfter? uc tenantId updateExisting db env) =
          row.vehicle? uc tenantId updateExisting (db.storeCustomer w) env
            (w.customerId db.customers) := rfl
    rw [hafter]
    dsimp only
    cases hv : row.vehicle? uc tenantId updateExisting (db.storeCustomer w) env
        (w.customerId db.customers) with
    | error e =>
      rw [hv] at hvehicle hvehicleTally
      have hnone : row.vehicleAfter? uc tenantId updateExisting db env w = .error e := hv
      rw [Attempt.bind_error hvehicle]
      refine ⟨?_, ?_⟩
      · change _ = row.vehicleAfter? uc tenantId updateExisting db env w >>= _
        rw [hnone]
        rfl
      · rw [Counters.written_add, htally, hvehicleTally]
    | ok v =>
      rw [hv] at hvehicle hvehicleTally
      have hsome : row.vehicleAfter? uc tenantId updateExisting db env w = .ok v := hv
      rw [Attempt.bind_ok hvehicle]
      refine ⟨?_, ?_⟩
      · change _ = row.vehicleAfter? uc tenantId updateExisting db env w >>= _
        rw [hsome]
        cases env.refusal <;> rfl
      · rw [Counters.written_add, Counters.written_add, htally, hvehicleTally]
        cases env.refusal <;> exact congrArg _ (add_zero _)

variable {tenantId updateExisting row db env uc}

theorem transaction_ok {db' : ImportDb}
    (h : (row.transaction uc tenantId updateExisting db env).outcome = .ok db') :
    ∃ w v, row.customer? tenantId updateExisting db env = .ok w ∧
      row.vehicleAfter? uc tenantId updateExisting db env w = .ok v ∧ env.refusal = none ∧
      db' = (db.storeCustomer w).storeVehicle v := by
  rw [(transaction_spec uc tenantId updateExisting row db env).1] at h
  obtain ⟨w, hw, h₁⟩ := Outcome.bind_eq_ok.mp h
  obtain ⟨v, hv, h₂⟩ := Outcome.bind_eq_ok.mp h₁
  obtain ⟨_, hend, h₃⟩ := Outcome.bind_eq_ok.mp h₂
  refine ⟨w, v, hw, hv, ?_, (Outcome.pure_eq_ok.mp h₃).symm⟩
  cases hrefusal : env.refusal with
  | none => rfl
  | some e =>
    rw [hrefusal] at hend
    cases hend

theorem transaction_isOk_iff :
    (row.transaction uc tenantId updateExisting db env).outcome.isOk = true ↔
      row.Succeeds uc tenantId updateExisting db env := by
  rw [Outcome.isOk_iff]
  constructor
  · rintro ⟨db', h⟩
    obtain ⟨w, v, hw, hv, hend, -⟩ := transaction_ok h
    exact ⟨hend, w, hw, by rw [hv]; rfl⟩
  · rintro ⟨hend, w, hw, hvehicle⟩
    obtain ⟨v, hv⟩ := Outcome.isOk_iff.mp hvehicle
    refine ⟨(db.storeCustomer w).storeVehicle v, ?_⟩
    rw [(transaction_spec uc tenantId updateExisting row db env).1, hend]
    exact Outcome.bind_eq_ok.mpr ⟨w, hw, Outcome.bind_eq_ok.mpr ⟨v, hv, rfl⟩⟩

theorem counters_eq_zero_customer {w : CustomerWrite} : w.counters = 0 ↔ w.writes = false := by
  have himported : Counters.oneImportedCustomer ≠ 0 := by decide
  have hupdated : Counters.oneUpdatedCustomer ≠ 0 := by decide
  cases w with
  | keep id => exact iff_of_true rfl rfl
  | insert row withAccount => exact iff_of_false himported Bool.noConfusion
  | update id change => exact iff_of_false hupdated Bool.noConfusion

theorem counters_eq_zero_vehicle {v : ImportVehicleWrite} :
    v.counters = 0 ↔ v.writes = false := by
  have himported : Counters.oneImportedVehicle ≠ 0 := by decide
  have hupdated : Counters.oneUpdatedVehicle ≠ 0 := by decide
  cases v with
  | insert row => exact iff_of_false himported Bool.noConfusion
  | update id customerId update => exact iff_of_false hupdated Bool.noConfusion
  | _ => exact iff_of_true rfl rfl

theorem add_counters_eq_zero {a b : Counters} : a + b = 0 ↔ a = 0 ∧ b = 0 := by
  constructor
  · intro h
    have h₁ : a.importedCustomers + b.importedCustomers = 0 := congrArg Counters.importedCustomers h
    have h₂ : a.existingCustomers + b.existingCustomers = 0 := congrArg Counters.existingCustomers h
    have h₃ : a.updatedCustomers + b.updatedCustomers = 0 := congrArg Counters.updatedCustomers h
    have h₄ : a.importedVehicles + b.importedVehicles = 0 := congrArg Counters.importedVehicles h
    have h₅ : a.existingVehicles + b.existingVehicles = 0 := congrArg Counters.existingVehicles h
    have h₆ : a.updatedVehicles + b.updatedVehicles = 0 := congrArg Counters.updatedVehicles h
    rw [Nat.add_eq_zero_iff] at h₁ h₂ h₃ h₄ h₅ h₆
    exact ⟨Counters.ext h₁.1 h₂.1 h₃.1 h₄.1 h₅.1 h₆.1, Counters.ext h₁.2 h₂.2 h₃.2 h₄.2 h₅.2 h₆.2⟩
  · rintro ⟨rfl, rfl⟩
    rfl

theorem tally_eq_zero_iff :
    (row.transaction uc tenantId updateExisting db env).tally.written = 0 ↔
      ¬ row.Stores uc tenantId updateExisting db env := by
  rw [(transaction_spec uc tenantId updateExisting row db env).2, add_counters_eq_zero, Stores]
  cases row.customer? tenantId updateExisting db env with
  | error e =>
    simp [countsOf, Except.toOption, Except.bind]
  | ok w =>
    have hbind : (Except.ok w : Outcome CustomerWrite).bind
        (row.vehicleAfter? uc tenantId updateExisting db env) =
          row.vehicleAfter? uc tenantId updateExisting db env w := rfl
    rw [hbind]
    cases hv : row.vehicleAfter? uc tenantId updateExisting db env w with
    | error e =>
      simp [countsOf, Except.toOption, hv, counters_eq_zero_customer]
    | ok v =>
      simp [countsOf, Except.toOption, hv, counters_eq_zero_customer, counters_eq_zero_vehicle]

end RawRow

end Tallies

section Loop

variable {uc : UpperCase} {tenantId : Uuid} {updateExisting : Bool} {s : ImportState}
  {l : ImportStep}

def stepTally (uc : UpperCase) (tenantId : Uuid) (updateExisting : Bool) (s : ImportState)
    (l : ImportStep) : Counters :=
  (importTransaction uc tenantId updateExisting s.db l).tally.written

theorem importStep_counters :
    (importStep uc tenantId updateExisting s l).counters =
      s.counters + (importTransaction uc tenantId updateExisting s.db l).tally := by
  rw [importStep]
  split <;> rfl

theorem step_of_commits (h : commits uc tenantId updateExisting s l = true) :
    ∃ row w v, l.1 = some row ∧ row.customer? tenantId updateExisting s.db l.2 = .ok w ∧
      row.vehicleAfter? uc tenantId updateExisting s.db l.2 w = .ok v ∧
      (importStep uc tenantId updateExisting s l).db = (s.db.storeCustomer w).storeVehicle v ∧
      stepTally uc tenantId updateExisting s l = w.counters + v.counters := by
  obtain ⟨row?, env⟩ := l
  cases row? with
  | none => cases h
  | some row =>
    obtain ⟨db', hdb⟩ := Outcome.isOk_iff.mp h
    have houtcome : (row.transaction uc tenantId updateExisting s.db env).outcome = .ok db' := hdb
    obtain ⟨w, v, hw, hv, -, rfl⟩ := RawRow.transaction_ok houtcome
    refine ⟨row, w, v, rfl, hw, hv, ?_, ?_⟩
    · rw [importStep, hdb]
    · have htally := (RawRow.transaction_spec uc tenantId updateExisting row s.db env).2
      have hbind : (Except.ok w : Outcome CustomerWrite).bind
          (row.vehicleAfter? uc tenantId updateExisting s.db env) = .ok v := hv
      rw [hw, hbind] at htally
      exact htally

theorem db_of_fails (h : commits uc tenantId updateExisting s l = false) :
    (importStep uc tenantId updateExisting s l).db = s.db := by
  rw [importStep]
  split
  · next hok =>
    rw [commits, hok] at h
    cases h
  · rfl

theorem storedIsKept_iff :
    StoredIsKept uc tenantId updateExisting s l ↔
      (commits uc tenantId updateExisting s l = false →
        stepTally uc tenantId updateExisting s l = 0) := by
  obtain ⟨row?, env⟩ := l
  cases row? with
  | none =>
    refine iff_of_true ?_ fun _ => rfl
    intro row hrow
    cases hrow
  | some row =>
    have hkept : StoredIsKept uc tenantId updateExisting s (some row, env) ↔
        (row.Stores uc tenantId updateExisting s.db env →
          row.Succeeds uc tenantId updateExisting s.db env) := by
      constructor
      · exact fun h => h row rfl
      · rintro h row' ⟨⟩
        exact h
    have hcommits : commits uc tenantId updateExisting s (some row, env) = false ↔
        ¬ row.Succeeds uc tenantId updateExisting s.db env := by
      rw [← Bool.not_eq_true, ← RawRow.transaction_isOk_iff]
      rfl
    have htally : stepTally uc tenantId updateExisting s (some row, env) = 0 ↔
        ¬ row.Stores uc tenantId updateExisting s.db env := RawRow.tally_eq_zero_iff
    rw [hkept, hcommits, htally, not_imp_not]

end Loop

section Run

variable (uc : UpperCase) (tenantId : Uuid) (updateExisting : Bool) (db : ImportDb)

theorem counter_run {p : Counters → ℕ} (hzero : p 0 = 0) (hadd : ∀ a b, p (a + b) = p a + p b)
    (hwritten : ∀ c : Counters, p c.written = p c) (rows : List ImportStep) :
    p (run (importStep uc tenantId updateExisting) (.start db) rows).counters =
      sumAlong (importStep uc tenantId updateExisting)
        (fun s l => p (stepTally uc tenantId updateExisting s l)) (.start db) rows := by
  have hstep : ∀ s l, p (importStep uc tenantId updateExisting s l).counters =
      p s.counters + p (stepTally uc tenantId updateExisting s l) := by
    intro s l
    rw [importStep_counters, hadd, stepTally, hwritten]
  have hrun := measure_run (m := fun s : ImportState => p s.counters) hstep (.start db) rows
  have hstart : p (ImportState.start db).counters = 0 := hzero
  simp only [hstart, zero_add] at hrun
  exact hrun

theorem added_customers_run (rows : List ImportStep) :
    added db.customers (run (importStep uc tenantId updateExisting) (.start db) rows).db.customers =
      sumAlong (importStep uc tenantId updateExisting)
        (fun s l => if commits uc tenantId updateExisting s l then
          (stepTally uc tenantId updateExisting s l).importedCustomers else 0) (.start db) rows := by
  have hstep : ∀ s l, db.customers.next ≤ s.db.customers.next →
      db.customers.next ≤ (importStep uc tenantId updateExisting s l).db.customers.next ∧
      added db.customers (importStep uc tenantId updateExisting s l).db.customers =
        added db.customers s.db.customers + if commits uc tenantId updateExisting s l then
          (stepTally uc tenantId updateExisting s l).importedCustomers else 0 := by
    intro s l hs
    cases hcommits : commits uc tenantId updateExisting s l with
    | false =>
      rw [db_of_fails hcommits]
      exact ⟨hs, rfl⟩
    | true =>
      obtain ⟨row, w, v, -, -, -, hdb, htally⟩ := step_of_commits hcommits
      have hv : (w.counters + v.counters).importedCustomers = w.counters.importedCustomers := by
        cases v <;> rfl
      have hcustomers : (importStep uc tenantId updateExisting s l).db.customers =
          w.store s.db.customers := by
        rw [hdb]
        rfl
      rw [hcustomers, htally, hv, if_pos rfl]
      cases w with
      | keep id => exact ⟨hs, rfl⟩
      | insert row withAccount => exact ⟨Nat.le_succ_of_le hs, added_insert hs row⟩
      | update id change => exact ⟨hs, added_modify id _⟩
  have hfirst : db.customers.next ≤ (ImportState.start db).db.customers.next := le_rfl
  have hrun := measure_run_of_invariant
    (I := fun s : ImportState => db.customers.next ≤ s.db.customers.next)
    (m := fun s : ImportState => added db.customers s.db.customers)
    (fun s l hs => (hstep s l hs).1) (fun s l hs => (hstep s l hs).2) hfirst rows
  have hstart : added db.customers (ImportState.start db).db.customers = 0 := added_self _
  rwa [hstart, zero_add] at hrun

theorem added_vehicles_run (rows : List ImportStep) :
    added db.vehicles (run (importStep uc tenantId updateExisting) (.start db) rows).db.vehicles =
      sumAlong (importStep uc tenantId updateExisting)
        (fun s l => if commits uc tenantId updateExisting s l then
          (stepTally uc tenantId updateExisting s l).importedVehicles else 0) (.start db) rows := by
  have hstep : ∀ s l, db.vehicles.next ≤ s.db.vehicles.next →
      db.vehicles.next ≤ (importStep uc tenantId updateExisting s l).db.vehicles.next ∧
      added db.vehicles (importStep uc tenantId updateExisting s l).db.vehicles =
        added db.vehicles s.db.vehicles + if commits uc tenantId updateExisting s l then
          (stepTally uc tenantId updateExisting s l).importedVehicles else 0 := by
    intro s l hs
    cases hcommits : commits uc tenantId updateExisting s l with
    | false =>
      rw [db_of_fails hcommits]
      exact ⟨hs, rfl⟩
    | true =>
      obtain ⟨row, w, v, -, -, -, hdb, htally⟩ := step_of_commits hcommits
      have hw : (w.counters + v.counters).importedVehicles = v.counters.importedVehicles := by
        cases w <;> exact Nat.zero_add _
      rw [hdb, htally, hw, if_pos rfl]
      cases v with
      | insert row => exact ⟨Nat.le_succ_of_le hs, added_insert hs row⟩
      | update id customerId update => exact ⟨hs, added_modify id _⟩
      | _ => exact ⟨hs, rfl⟩
  have hfirst : db.vehicles.next ≤ (ImportState.start db).db.vehicles.next := le_rfl
  have hrun := measure_run_of_invariant
    (I := fun s : ImportState => db.vehicles.next ≤ s.db.vehicles.next)
    (m := fun s : ImportState => added db.vehicles s.db.vehicles)
    (fun s l hs => (hstep s l hs).1) (fun s l hs => (hstep s l hs).2) hfirst rows
  have hstart : added db.vehicles (ImportState.start db).db.vehicles = 0 := added_self _
  rwa [hstart, zero_add] at hrun

variable {uc tenantId updateExisting}

theorem updatesCustomer_toNat (s : ImportState) (l : ImportStep) :
    (commits uc tenantId updateExisting s l && updatesCustomer tenantId updateExisting s l).toNat =
      if commits uc tenantId updateExisting s l then
        (stepTally uc tenantId updateExisting s l).updatedCustomers else 0 := by
  cases hcommits : commits uc tenantId updateExisting s l with
  | false => rfl
  | true =>
    obtain ⟨row, w, v, hrow, hw, -, -, htally⟩ := step_of_commits hcommits
    have hupdates : updatesCustomer tenantId updateExisting s l = w.isUpdate := by
      rw [updatesCustomer, hrow, Option.any_some, hw]
      rfl
    rw [hupdates, htally, if_pos rfl]
    cases w <;> cases v <;> rfl

theorem updatesVehicle_toNat (s : ImportState) (l : ImportStep) :
    (commits uc tenantId updateExisting s l && updatesVehicle uc tenantId updateExisting s l).toNat =
      if commits uc tenantId updateExisting s l then
        (stepTally uc tenantId updateExisting s l).updatedVehicles else 0 := by
  cases hcommits : commits uc tenantId updateExisting s l with
  | false => rfl
  | true =>
    obtain ⟨row, w, v, hrow, hw, hv, -, htally⟩ := step_of_commits hcommits
    have hupdates : updatesVehicle uc tenantId updateExisting s l = v.isUpdate := by
      rw [updatesVehicle, hrow, Option.any_some, hw]
      exact congrArg (fun x => (Except.toOption x).any ImportVehicleWrite.isUpdate) hv
    rw [hupdates, htally, if_pos rfl]
    cases w <;> cases v <;> rfl

theorem errors_run {s : ImportState} {rows : List ImportStep} {n : ℕ} {e : ApiError}
    (h : (n, e) ∈ (run (importStep uc tenantId updateExisting) s rows).errors) :
    (n, e) ∈ s.errors ∨ ∃ before l after, rows = before ++ l :: after ∧
      n = s.rowNum + before.length + 1 ∧
      (run (importStep uc tenantId updateExisting) s (before ++ [l])).db =
        (run (importStep uc tenantId updateExisting) s before).db := by
  induction rows generalizing s with
  | nil => exact .inl h
  | cons l rows ih =>
    have hnum : (importStep uc tenantId updateExisting s l).rowNum = s.rowNum + 1 := by
      rw [importStep]
      split <;> rfl
    rcases ih h with hfirst | ⟨before, m, after, rfl, hn, hsame⟩
    · cases hcommits : commits uc tenantId updateExisting s l with
      | true =>
        obtain ⟨db', hdb⟩ := Outcome.isOk_iff.mp hcommits
        rw [importStep, hdb] at hfirst
        exact .inl hfirst
      | false =>
        have herror : ∃ e', (importStep uc tenantId updateExisting s l).errors =
            s.errors ++ [(s.rowNum + 1, e')] := by
          rw [importStep]
          split
          · next hok =>
            rw [commits, hok] at hcommits
            cases hcommits
          · next e' _ => exact ⟨e', rfl⟩
        obtain ⟨e', he'⟩ := herror
        rw [he', List.mem_append, List.mem_singleton] at hfirst
        rcases hfirst with hold | hnew
        · exact .inl hold
        · refine .inr ⟨[], l, rows, rfl, congrArg Prod.fst hnew, ?_⟩
          exact db_of_fails hcommits
    · refine .inr ⟨l :: before, m, after, rfl, ?_, hsame⟩
      rw [hn, hnum, List.length_cons]
      omega

/-- The counters of an import of up to 200 rows tell what was stored precisely when no row
fails after it has written a customer or a vehicle. A row that fails has changed nothing. -/
theorem importTold_iff (uc : UpperCase) (tenantId : Uuid) (updateExisting : Bool) (db : ImportDb)
    {rows : List ImportStep} (hrows : rows.length ≤ 200) :
    ∃ final, batchImport uc tenantId updateExisting db rows = .ok final ∧
      (ImportTold uc tenantId updateExisting db rows final ↔
        EachStep (importStep uc tenantId updateExisting) (StoredIsKept uc tenantId updateExisting)
          (.start db) rows) := by
  refine ⟨run (importStep uc tenantId updateExisting) (.start db) rows, ?_, ?_⟩
  · have hlength : decide (200 < rows.length) = false := decide_eq_false (by omega)
    rw [batchImport, hlength]
    rfl
  have himportedCustomers := counter_run uc tenantId updateExisting db
    (p := Counters.importedCustomers) rfl (fun _ _ => rfl) (fun _ => rfl) rows
  have hupdatedCustomers := counter_run uc tenantId updateExisting db
    (p := Counters.updatedCustomers) rfl (fun _ _ => rfl) (fun _ => rfl) rows
  have himportedVehicles := counter_run uc tenantId updateExisting db
    (p := Counters.importedVehicles) rfl (fun _ _ => rfl) (fun _ => rfl) rows
  have hupdatedVehicles := counter_run uc tenantId updateExisting db
    (p := Counters.updatedVehicles) rfl (fun _ _ => rfl) (fun _ => rfl) rows
  have haddedCustomers := added_customers_run uc tenantId updateExisting db rows
  have haddedVehicles := added_vehicles_run uc tenantId updateExisting db rows
  have hcustomers : countSteps uc tenantId updateExisting db (fun s l =>
      commits uc tenantId updateExisting s l && updatesCustomer tenantId updateExisting s l) rows =
        sumAlong (importStep uc tenantId updateExisting)
          (fun s l => if commits uc tenantId updateExisting s l then
            (stepTally uc tenantId updateExisting s l).updatedCustomers else 0) (.start db) rows := by
    unfold countSteps
    congr 1
    funext s l
    exact updatesCustomer_toNat s l
  have hvehicles : countSteps uc tenantId updateExisting db (fun s l =>
      commits uc tenantId updateExisting s l && updatesVehicle uc tenantId updateExisting s l) rows =
        sumAlong (importStep uc tenantId updateExisting)
          (fun s l => if commits uc tenantId updateExisting s l then
            (stepTally uc tenantId updateExisting s l).updatedVehicles else 0) (.start db) rows := by
    unfold countSteps
    congr 1
    funext s l
    exact updatesVehicle_toNat s l
  constructor
  · intro h before l after hsplit
    have hfirst := h.importedCustomers
    have hsecond := h.updatedCustomers
    have hthird := h.importedVehicles
    have hfourth := h.updatedVehicles
    rw [himportedCustomers, haddedCustomers, sumAlong_eq_iff] at hfirst
    rw [hupdatedCustomers, hcustomers, sumAlong_eq_iff] at hsecond
    rw [himportedVehicles, haddedVehicles, sumAlong_eq_iff] at hthird
    rw [hupdatedVehicles, hvehicles, sumAlong_eq_iff] at hfourth
    rw [storedIsKept_iff]
    intro hfails
    exact Counters.ext (hfirst before l after hsplit hfails) rfl (hsecond before l after hsplit hfails)
      (hthird before l after hsplit hfails) rfl (hfourth before l after hsplit hfails)
  · intro h
    have hzero : ∀ p : Counters → ℕ, p 0 = 0 → EachStep (importStep uc tenantId updateExisting)
        (fun s l => commits uc tenantId updateExisting s l = false →
          p (stepTally uc tenantId updateExisting s l) = 0) (.start db) rows := by
      intro p hp
      refine h.mono fun s l hkept hfails => ?_
      rw [storedIsKept_iff.mp hkept hfails, hp]
    refine ⟨?_, ?_, ?_, ?_, fun n e he => ?_⟩
    · rw [himportedCustomers, haddedCustomers, sumAlong_eq_iff]
      exact hzero Counters.importedCustomers rfl
    · rw [himportedVehicles, haddedVehicles, sumAlong_eq_iff]
      exact hzero Counters.importedVehicles rfl
    · rw [hupdatedCustomers, hcustomers, sumAlong_eq_iff]
      exact hzero Counters.updatedCustomers rfl
    · rw [hupdatedVehicles, hvehicles, sumAlong_eq_iff]
      exact hzero Counters.updatedVehicles rfl
    · rcases errors_run he with hnone | ⟨before, l, after, hsplit, hn, hsame⟩
      · cases hnone
      · exact ⟨before, l, after, hsplit, hn.trans (by rw [ImportState.start, Nat.zero_add]), hsame⟩

end Run

section Example

def exampleRawRow (plate : JsValue) : RawRow where
  type := .absent
  firstName := .text "Mehmet"
  lastName := .absent
  companyTitle := .absent
  phone := .text "0544 123 45 67"
  email := .absent
  taxNumber := .absent
  taxOffice := .absent
  notes := .absent
  plate
  brand := .absent
  model := .absent
  year := .text "2020"
  currentKm := .absent
  vin := .absent
  fuelType := .absent
  transmission := .absent

def exampleImportDb : ImportDb := ⟨.empty, .empty, .empty⟩

def deletedVehicleDb : ImportDb :=
  { exampleImportDb with
    vehicles := .ofList [
      { tenantId := 0
        customerId := 0
        plate := "34ABC123"
        brand := unknownBrand
        model := unknownModel
        year := 2020
        vin := none
        currentKm := 0
        deletedAt := some 1767139200000
        fuelType := .diesel
        transmission := .manual }] }

def exampleImport (plate : JsValue) : List ImportStep :=
  [(some (exampleRawRow plate), { choice := 0, currentYear := 2026, refusal := none })]

theorem importTold_firstRow :
    ∃ final, batchImport asciiUpper 0 false exampleImportDb (exampleImport (.text "34 ABC 123")) =
        .ok final ∧
      ImportTold asciiUpper 0 false exampleImportDb (exampleImport (.text "34 ABC 123")) final := by
  have hshort : (exampleImport (.text "34 ABC 123")).length ≤ 200 := by decide
  obtain ⟨final, hfinal, hiff⟩ := importTold_iff asciiUpper 0 false exampleImportDb hshort
  refine ⟨final, hfinal, hiff.mpr ((eachStep_cons _ _ _).mpr ⟨fun row hrow _ => ?_, eachStep_nil _⟩)⟩
  cases hrow
  exact ⟨rfl, _, rfl, by decide +kernel⟩

/-- The plate is a deleted vehicle's: the index refuses the row, whose customer is counted. -/
theorem import_of_deleted_plate :
    ¬ ∃ final, batchImport asciiUpper 0 false deletedVehicleDb
        (exampleImport (.text "34 ABC 123")) = .ok final ∧
      ImportTold asciiUpper 0 false deletedVehicleDb (exampleImport (.text "34 ABC 123")) final := by
  rintro ⟨final, hfinal, h⟩
  have hcounted : (batchImport asciiUpper 0 false deletedVehicleDb
      (exampleImport (.text "34 ABC 123"))).map (fun s => (s.counters.importedCustomers,
        added deletedVehicleDb.customers s.db.customers)) = .ok (1, 0) := by
    decide +kernel
  rw [hfinal] at hcounted
  obtain ⟨hone, hnone⟩ := Prod.mk.inj (Except.ok.inj hcounted)
  have hequal := h.importedCustomers
  rw [hone, hnone] at hequal
  cases hequal

end Example

end WorksAuto.Customers
