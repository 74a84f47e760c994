import WorksAuto.Customers.System

/-! The log of anonymised customers as a chain.
A transaction looks for the latest entry without a lock and appends its own later,
so the log is one chain in precisely those runs in which each transaction that goes
through found the entry that is still the last one then. -/

namespace WorksAuto.Customers

open Lib

def Db.Unforked (db : Db) : Prop :=
  HashChain.Unforked ComplianceRedactionLog.previousHash ComplianceRedactionLog.currentHash
    genesisHash db.redactionLogs

structure Db.Chained (db : Db) : Prop where
  linked : HashChain.Linked ComplianceRedactionLog.previousHash ComplianceRedactionLog.currentHash
    genesisHash db.redactionLogs
  grows : ∀ e ∈ db.redactionLogs, e.previousHash.length < e.currentHash.length

def Task.lastRedaction? : Task → Option ComplianceRedactionLog
  | .insertRedaction _ _ _ _ lastRedaction => lastRedaction
  | _ => none

def Task.FoundInLog (db : Db) (t : Task) : Prop := ∀ e ∈ t.lastRedaction?, e ∈ db.redactionLogs

/-- What the transaction found, if it goes through now, is the last entry. -/
def Task.FoundLast (db : Db) (t : Task) : Prop :=
  match t with
  | .insertRedaction _ _ _ _ lastRedaction =>
    (t.redacts? db).isSome → lastRedaction = db.redactionLogs.getLast?
  | _ => True

/-- No entry was inserted since the transaction looked for the latest one, and it found the
one that was inserted last. -/
def System.FoundLast (s : System) : PoolAction Call Env → Prop
  | .start _ => True
  | .step k _ => ∀ t ∈ s.threads.get? k, t.FoundLast s.shared

instance (db : Db) (t : Task) : Decidable (t.FoundLast db) := by
  induction t using Task.casesOn <;> unfold Task.FoundLast <;> infer_instance

instance (s : System) (a : PoolAction Call Env) : Decidable (s.FoundLast a) :=
  match a with
  | .start _ => .isTrue trivial
  | .step k _ => inferInstanceAs (Decidable (∀ t ∈ s.threads.get? k, t.FoundLast s.shared))

section Append

variable {db : Db} {args : AnonymizeInput} {affected : List Uuid} {env : Env}
  {lastRedaction : Option ComplianceRedactionLog}

theorem length_lt_currentHash (args : AnonymizeInput) (affected : List Uuid)
    (lastRedaction : Option ComplianceRedactionLog) (env : Env) :
    (redactionEntry args affected lastRedaction env).previousHash.length <
      (redactionEntry args affected lastRedaction env).currentHash.length :=
  length_lt_redactionHash ..

theorem Db.Chained.unforked (h : db.Chained) : db.Unforked := h.linked.unforked h.grows

theorem Db.Chained.linked_append_iff (h : db.Chained) (hfound : ∀ e ∈ lastRedaction, e ∈ db.redactionLogs) :
    HashChain.Linked ComplianceRedactionLog.previousHash ComplianceRedactionLog.currentHash genesisHash
        (db.redactionLogs ++ [redactionEntry args affected lastRedaction env]) ↔
      lastRedaction = db.redactionLogs.getLast? := by
  rw [HashChain.linked_append_singleton, ← h.linked.found_eq_last_iff h.grows hfound]
  exact and_iff_right h.linked

theorem grows_append (h : ∀ e ∈ db.redactionLogs, e.previousHash.length < e.currentHash.length) :
    ∀ e ∈ db.redactionLogs ++ [redactionEntry args affected lastRedaction env],
      e.previousHash.length < e.currentHash.length := by
  intro e he
  rcases List.mem_append.mp he with hold | hnew
  · exact h e hold
  · rw [List.mem_singleton.mp hnew]
    exact length_lt_currentHash ..

end Append

section Step

variable {uc : UpperCase} {db : Db} {t : Task} {env : Env}

theorem exec_redactionLogs (uc : UpperCase) (db : Db) (t : Task) (env : Env) :
    (∃ args deletedAt affected masked lastRedaction,
      t = .insertRedaction args deletedAt affected masked lastRedaction ∧
      (t.redacts? db).isSome = true ∧ (t.exec uc db env).1.redactionLogs =
        db.redactionLogs ++ [redactionEntry args affected lastRedaction env]) ∨
    ((t.exec uc db env).1.redactionLogs = db.redactionLogs ∧ t.FoundLast db) := by
  rcases exec_shared uc db t env with ⟨w, next, rfl, -, -, hstore⟩ |
    ⟨args, deletedAt, affected, masked, lastRedaction, rfl, hredacts, hstore⟩ | ⟨-, hnone, -, -, hsame⟩
  · exact .inr ⟨by rw [hstore]; rfl, trivial⟩
  · exact .inl ⟨args, deletedAt, affected, masked, lastRedaction, rfl, by rw [hredacts]; rfl,
      by rw [hstore]; rfl⟩
  · refine .inr ⟨hsame, ?_⟩
    cases t with
    | insertRedaction => exact fun h => by rw [hnone] at h; cases h
    | _ => trivial

theorem exec_chained (h : db.Chained) (hfound : t.FoundInLog db) (hlast : t.FoundLast db) :
    (t.exec uc db env).1.Chained := by
  rcases exec_redactionLogs uc db t env with
    ⟨args, deletedAt, affected, masked, lastRedaction, rfl, hredacts, hlog⟩ | ⟨hlog, -⟩
  · constructor <;> rw [hlog]
    · exact (h.linked_append_iff hfound).mpr (hlast hredacts)
    · exact grows_append h.grows
  · constructor <;> rw [hlog]
    · exact h.linked
    · exact h.grows

theorem exec_not_unforked (h : db.Chained) (hfound : t.FoundInLog db) (hlast : ¬ t.FoundLast db) :
    ¬ (t.exec uc db env).1.Unforked := by
  rcases exec_redactionLogs uc db t env with
    ⟨args, deletedAt, affected, masked, lastRedaction, rfl, hredacts, hlog⟩ | ⟨-, hlast'⟩
  · intro hunforked
    have hlinked := hunforked.linked
    rw [hlog] at hlinked
    exact hlast fun _ => (h.linked_append_iff hfound).mp hlinked
  · exact absurd hlast' hlast

theorem mem_exec_redactionLogs {e : ComplianceRedactionLog} (he : e ∈ db.redactionLogs) :
    e ∈ (t.exec uc db env).1.redactionLogs := by
  rcases exec_redactionLogs uc db t env with
    ⟨args, deletedAt, affected, masked, lastRedaction, rfl, -, hlog⟩ | ⟨hlog, -⟩
  · rw [hlog]
    exact List.mem_append_left _ he
  · rw [hlog]
    exact he

theorem mem_of_lastRedaction? {choice : ℕ} {e : ComplianceRedactionLog}
    (h : db.lastRedaction? choice = some e) : e ∈ db.redactionLogs :=
  List.mem_of_mem_filter (List.mem_of_getElem? h)

theorem lastRedaction?_after {α : Type} {check : Outcome α} {next : α → Task}
    (h : ∀ a, (next a).lastRedaction? = none) : (Task.after check next).lastRedaction? = none := by
  cases check with
  | error e => rfl
  | ok a => exact h a

theorem lastRedaction?_assign {tenantId id : Uuid} {dto : UpdateCustomerInput} {customer : Customer} :
    (Task.assign tenantId id dto customer).lastRedaction? = none :=
  lastRedaction?_after fun _ => rfl

theorem lastRedaction?_updateDetails {tenantId id : Uuid} {dto : UpdateVehicleInput} {vehicle : Vehicle}
    {currentYear : ℤ} :
    (Task.updateDetails uc tenantId id dto vehicle currentYear).lastRedaction? = none :=
  lastRedaction?_after fun _ => rfl

theorem exec_lastRedaction? (uc : UpperCase) (db : Db) (t : Task) (env : Env)
    (h : ∀ args deletedAt affected masked, t ≠ .findLast args deletedAt affected masked) :
    (t.exec uc db env).2.lastRedaction? = none := by
  cases t with
  | findLast args deletedAt affected masked => exact absurd rfl (h args deletedAt affected masked)
  | findPhone | saveCustomer | findToArchive | archiveCustomer | findArchived | findForAnonymize |
    anonymizeFind | anonymizeDebt | anonymizeInvoice | saveVehicle | findOwner | findNewOwner |
    findTransferred | findToDelete => exact lastRedaction?_after fun _ => rfl
  | findAffected | maskLogs | leadCustomer | elsewhere | finished => rfl
  | findCustomer tenantId id dto =>
    refine lastRedaction?_after fun customer => ?_
    split
    · exact lastRedaction?_assign
    · rfl
  | findPhoneOwner => exact lastRedaction?_after fun _ => lastRedaction?_assign
  | findVehicle tenantId id dto =>
    refine lastRedaction?_after fun vehicle => ?_
    split
    · exact lastRedaction?_updateDetails
    · rfl
  | findPlateOwner tenantId id dto plate vehicle =>
    simp only [Task.exec]
    split
    · exact lastRedaction?_updateDetails
    · refine lastRedaction?_after fun _ => ?_
      split
      · rfl
      · exact lastRedaction?_updateDetails
  | updateVehicle tenantId id vehicle =>
    refine lastRedaction?_after fun existing => ?_
    split <;> rfl
  | findPlateAny tenantId dto =>
    simp only [Task.exec]
    split
    · refine lastRedaction?_after fun _ => ?_
      split <;> rfl
    · exact lastRedaction?_after fun _ => rfl
  | leadVehicle tenantId dto customer =>
    simp only [Task.exec]
    split
    · rfl
    · exact lastRedaction?_after fun _ => rfl
  | importCustomer tenantId updateExisting rows => cases rows <;> rfl
  | importVehicle tenantId updateExisting row rows customer =>
    simp only [Task.exec]
    split
    · rfl
    · split <;> rfl
  | bookCustomer tenantId name phone plate brandModel =>
    simp only [Task.exec]
    split
    · rfl
    · split <;> rfl
  | bookVehicle tenantId customerId plate brandModel =>
    simp only [Task.exec]
    split
    · rfl
    · split
      · rfl
      · split <;> rfl
  | anonymizeUpdate args =>
    simp only [Task.exec]
    split <;> rfl
  | insertRedaction args deletedAt affected masked lastRedaction =>
    simp only [Task.exec]
    split <;> rfl
  | commit w next =>
    simp only [Task.exec]
    split
    · rfl
    · split <;> split <;> rfl

theorem exec_foundInLog (uc : UpperCase) (db : Db) (t : Task) (env : Env) :
    (t.exec uc db env).2.FoundInLog (t.exec uc db env).1 := by
  intro e he
  by_cases h : ∃ args deletedAt affected masked, t = .findLast args deletedAt affected masked
  · obtain ⟨args, deletedAt, affected, masked, rfl⟩ := h
    exact mem_of_lastRedaction? he
  · have hnone := exec_lastRedaction? uc db t env fun args deletedAt affected masked ht =>
      h ⟨args, deletedAt, affected, masked, ht⟩
    rw [hnone] at he
    cases he

end Step

section Run

variable {uc : UpperCase} {s : System} {a : PoolAction Call Env}

def System.Chained (s : System) : Prop := Pool.Holds Db.Chained Task.FoundInLog s

theorem enter_lastRedaction? (uc : UpperCase) (r : Call) : (r.enter uc).lastRedaction? = none := by
  cases r with
  | quickLead | batchImport | createVehicle =>
    rw [Call.enter]
    exact lastRedaction?_after fun _ => rfl
  | _ => rfl

theorem act_chained (h : s.Chained) (hlast : s.FoundLast a) : (System.act uc s a).Chained := by
  cases a with
  | start r =>
    refine Pool.Holds.start h fun e he => ?_
    rw [enter_lastRedaction?] at he
    cases he
  | step k env =>
    refine Pool.Holds.step h fun t ht => ⟨?_, exec_foundInLog uc _ t env, fun u hu => ?_⟩
    · exact exec_chained h.1 (h.2 k t ht) (hlast t ht)
    · exact fun e he => mem_exec_redactionLogs (hu e he)

theorem act_not_unforked (h : s.Chained) (hlast : ¬ s.FoundLast a) :
    ¬ (System.act uc s a).shared.Unforked := by
  cases a with
  | start r => exact absurd trivial hlast
  | step k env =>
    have hthread : ∃ t, s.threads.get? k = some t ∧ ¬ t.FoundLast s.shared := by
      by_contra hall
      exact hlast fun t ht => by
        by_contra hnot
        exact hall ⟨t, ht, hnot⟩
    obtain ⟨t, ht, hnot⟩ := hthread
    have hshared : (System.act uc s (.step k env)).shared = (t.exec uc s.shared env).1 :=
      congrArg Pool.shared (Pool.act_step_some ht env)
    rw [hshared]
    exact exec_not_unforked h.1 (h.2 k t ht) hnot

/-- From an empty log, the log is one chain throughout precisely in the runs in which every
anonymisation that goes through found the entry that was inserted last. -/
theorem always_unforked_iff (uc : UpperCase) {db : Db} (hdb : db.redactionLogs = [])
    (calls : List (PoolAction Call Env)) :
    Always (System.act uc) (fun s => s.shared.Unforked) (Pool.idle db) calls ↔
      EachStep (System.act uc) System.FoundLast (Pool.idle db) calls := by
  have good : ∀ s : System, s.Chained → s.shared.Unforked := fun s h => h.1.unforked
  have keep : ∀ (s : System) a, s.Chained → s.FoundLast a → (System.act uc s a).Chained :=
    fun s a h hlast => act_chained h hlast
  have bad : ∀ (s : System) a, s.Chained → ¬ s.FoundLast a →
      ¬ (System.act uc s a).shared.Unforked := fun s a h hlast => act_not_unforked h hlast
  have hstart : System.Chained (Pool.idle db) := by
    refine Pool.holds_idle ⟨?_, ?_⟩
    · rw [hdb]
      trivial
    · rw [hdb]
      exact fun e he => absurd he (List.not_mem_nil)
  exact always_iff_eachStep good keep bad hstart calls

end Run

section Example

def oneAfterTheOther : List (PoolAction Call Env) :=
  .start (.anonymizeCustomer (exampleInput 0)) :: stepsToInsertion 0 ++ [.step 0 exampleEnv] ++
    .start (.anonymizeCustomer (exampleInput 1)) :: stepsToInsertion 1 ++ [.step 1 exampleEnv]

def bothAtOnce : List (PoolAction Call Env) :=
  .start (.anonymizeCustomer (exampleInput 0)) :: .start (.anonymizeCustomer (exampleInput 1)) ::
    stepsToInsertion 0 ++ stepsToInsertion 1 ++ [.step 0 exampleEnv, .step 1 exampleEnv]

theorem always_unforked_oneAfterTheOther :
    (Always (System.act asciiUpper) (fun s => s.shared.Unforked) (Pool.idle exampleDb)
        oneAfterTheOther ↔
      EachStep (System.act asciiUpper) System.FoundLast (Pool.idle exampleDb) oneAfterTheOther) ∧
      Always (System.act asciiUpper) (fun s => s.shared.Unforked) (Pool.idle exampleDb)
        oneAfterTheOther := by
  have hempty : exampleDb.redactionLogs = [] := rfl
  have h := always_unforked_iff asciiUpper hempty oneAfterTheOther
  exact ⟨h, h.mpr (by decide +kernel)⟩

/-- Two tenants anonymise a customer each, and both entries have the genesis hash. -/
theorem fork_of_two_tenants :
    ¬ ∀ calls, Always (System.act asciiUpper) (fun s => s.shared.Unforked) (Pool.idle exampleDb)
      calls := by
  intro h
  have hnodup := (h bothAtOnce).last.nodup
  revert hnodup
  decide +kernel

end Example

end WorksAuto.Customers
