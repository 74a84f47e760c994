import WorksAuto.Customers.Chain

/-! What shows in the log of anonymised customers when a stored entry is changed.
The hash is of a time that the row does not hold and of the id as the request spells
it, and two columns are in no hash, nor is what a time has below the millisecond. So a
log verifies when the clock, the stamp and the spelling agree, and then a change of
what is hashed shows. -/

namespace WorksAuto.Customers

open Lib

def Db.anonymizeNext (db : Db) (call : AnonymizeInput × (ℕ → Env)) : Db :=
  match db.anonymizeCustomer call.1 call.2 with
  | .ok db' => db'
  | .error _ => db

def alone (uc : UpperCase) (s : Db × Task) : List Env → Db × Task
  | [] => s
  | env :: envs => alone uc (s.2.exec uc s.1 env) envs

theorem alone_finished (uc : UpperCase) (db : Db) (answer : Outcome Unit) (envs : List Env) :
    alone uc (db, .finished answer) envs = (db, .finished answer) := by
  induction envs with
  | nil => rfl
  | cons env envs ih => exact ih

section Alone

variable {α : Type} {uc : UpperCase} {db : Db} {t : Task} {env : Env} {envs : List Env}
  {check : Outcome α} {next : α → Task}

theorem alone_ok {a : α} (h : t.exec uc db env = (db, Task.after check next)) (hcheck : check = .ok a) :
    alone uc (db, t) (env :: envs) = alone uc (db, next a) envs := by
  rw [alone, h, hcheck]
  rfl

theorem alone_error {e : ApiError} (h : t.exec uc db env = (db, Task.after check next))
    (hcheck : check = .error e) : alone uc (db, t) (env :: envs) = (db, .finished (.error e)) := by
  rw [alone, h, hcheck]
  exact alone_finished uc db _ envs

theorem alone_anonymizeUpdate {args : AnonymizeInput} (env : ℕ → Env)
    (hrow : (db.customers.get? args.customerId).isSome = true)
    (hfree : args.customerId ∉ db.lockedCustomers) :
    (alone uc (db, .anonymizeUpdate args) [env 4, env 5, env 6, env 7, env 8]).1 =
      db.redact args (env 4).now (db.customerLogs args)
        (redactionEntry args (db.customerLogs args) (db.lastRedaction? (env 7).choice) (env 8)) := by
  set held : Db := { db with lockedCustomers := args.customerId :: db.lockedCustomers } with hheld
  have hupdate : (Task.anonymizeUpdate args).exec uc db (env 4) =
      (held, .findAffected args (env 4).now) := by
    rw [Task.exec, if_neg hfree]
  have hcommit : held.commitRedaction args (env 4).now (db.customerLogs args) (db.customerLogs args)
      (db.lastRedaction? (env 7).choice) (env 8) = .ok _ :=
    commitRedaction_eq_ok.mpr ⟨hrow, rfl⟩
  have hinsert : alone uc (db, .anonymizeUpdate args) [env 4, env 5, env 6, env 7, env 8] =
      (Task.insertRedaction args (env 4).now (db.customerLogs args) (db.customerLogs args)
        (db.lastRedaction? (env 7).choice)).exec uc held (env 8) := by
    rw [alone, hupdate]
    rfl
  rw [hinsert, Task.exec, hcommit]
  simp only [Db.redact, hheld, List.erase_cons_head, List.erase_of_not_mem hfree]

theorem alone_anonymizeCustomer {args : AnonymizeInput} (env : ℕ → Env)
    (hfree : args.customerId ∉ db.lockedCustomers) :
    (alone uc (db, .findForAnonymize args) ((List.range 9).map env)).1 =
      db.anonymizeNext (args, env) := by
  have hrange : (List.range 9).map env =
    [env 0, env 1, env 2, env 3, env 4, env 5, env 6, env 7, env 8] := rfl
  rw [hrange, Db.anonymizeNext]
  cases hlive : db.liveCustomer? args.tenantId args.customerId with
  | none =>
    have hcall : db.anonymizeCustomer args env = .error customerNotFound := by
      rw [Db.anonymizeCustomer, hlive]
      rfl
    have hfound : Outcome.required (db.liveCustomer? args.tenantId args.customerId) customerNotFound =
        .error customerNotFound := by
      rw [hlive]
      rfl
    rw [alone_error rfl hfound, hcall]
  | some row =>
    have hfound : Outcome.required (db.liveCustomer? args.tenantId args.customerId) customerNotFound =
        .ok row := by
      rw [hlive]
      rfl
    rw [alone_ok rfl hfound, alone_ok rfl hfound]
    cases hdebt : db.checkDebt args.tenantId args.customerId with
    | error err =>
      have hcall : db.anonymizeCustomer args env = .error err := by
        rw [Db.anonymizeCustomer, hlive, hdebt]
        rfl
      rw [alone_error rfl hdebt, hcall]
    | ok _ =>
      rw [alone_ok rfl hdebt]
      cases hinvoice : db.checkOpenInvoice args.tenantId args.customerId (env 3).choice with
      | error err =>
        have hcall : db.anonymizeCustomer args env = .error err := by
          rw [Db.anonymizeCustomer, hlive, hdebt, hinvoice]
          rfl
        rw [alone_error rfl hinvoice, hcall]
      | ok _ =>
        have hrow : (db.customers.get? args.customerId).isSome = true := by
          rw [(Option.filter_eq_some_iff.mp hlive).1]
          rfl
        have hcall := anonymizeCustomer_eq_ok.mpr ⟨by rw [hlive]; rfl, hdebt, hinvoice, rfl⟩
        rw [alone_ok rfl hinvoice, alone_anonymizeUpdate env hrow hfree, hcall]

end Alone

def ComplianceRedactionLog.recomputedHash (e : ComplianceRedactionLog) : String :=
  redactionHash e.previousHash (uuidText e.redactedCustomerId) (uuidText e.authorizedByUserId)
    e.createdAt.toDate

/-- Recomputing the hashes from the stored columns reproduces the stored chain. -/
structure Verifies (log : List ComplianceRedactionLog) : Prop where
  linked : HashChain.Linked ComplianceRedactionLog.previousHash ComplianceRedactionLog.currentHash
    genesisHash log
  hashed : ∀ e ∈ log, e.currentHash = e.recomputedHash

instance (log : List ComplianceRedactionLog) : Decidable (Verifies log) :=
  decidable_of_iff (HashChain.Linked ComplianceRedactionLog.previousHash
      ComplianceRedactionLog.currentHash genesisHash log ∧ ∀ e ∈ log, e.currentHash = e.recomputedHash)
    ⟨fun h => ⟨h.1, h.2⟩, fun h => ⟨h.linked, h.hashed⟩⟩

inductive FieldEdit where
  | redactedCustomerId (value : UuidValue)
  | authorizedByUserId (value : UuidValue)
  | legalRequestRef (value : String)
  | affectedAuditLogIds (value : List Uuid)
  | createdAt (value : Timestamptz)

namespace FieldEdit

def apply (edit : FieldEdit) (e : ComplianceRedactionLog) : ComplianceRedactionLog :=
  match edit with
  | redactedCustomerId value => { e with redactedCustomerId := value }
  | authorizedByUserId value => { e with authorizedByUserId := value }
  | legalRequestRef value => { e with legalRequestRef := value }
  | affectedAuditLogIds value => { e with affectedAuditLogIds := value }
  | createdAt value => { e with createdAt := value }

/-- The column is hashed, and a new time is in another millisecond. -/
def Hashed (e : ComplianceRedactionLog) : FieldEdit → Prop
  | legalRequestRef _ | affectedAuditLogIds _ => False
  | createdAt value => value.toDate ≠ e.createdAt.toDate
  | _ => True

end FieldEdit

/-- A change of one column of one entry, or the removal of one. -/
inductive Tampering where
  | change (i : ℕ) (edit : FieldEdit)
  | remove (i : ℕ)

namespace Tampering

def apply (t : Tampering) (log : List ComplianceRedactionLog) : List ComplianceRedactionLog :=
  match t with
  | change i edit => log.modify i edit.apply
  | remove i => log.eraseIdx i

/-- There is an entry that becomes another one, or one that is not the last. -/
def Applies (t : Tampering) (log : List ComplianceRedactionLog) : Prop :=
  match t with
  | change i edit => ∃ e, log[i]? = some e ∧ edit.apply e ≠ e
  | remove i => i + 1 < log.length

def Hashed (t : Tampering) (log : List ComplianceRedactionLog) : Prop :=
  match t with
  | change i edit => ∀ e ∈ log[i]?, edit.Hashed e
  | remove _ => True

end Tampering

/-- A call that goes through spells the id as it is stored, hashes the millisecond that the
row is stamped in and finds the entry that was inserted last. -/
def Db.Faithful (db : Db) (call : AnonymizeInput × (ℕ → Env)) : Prop :=
  (db.anonymizeCustomer call.1 call.2).isOk → call.1.id.text = uuidText call.1.id.value ∧
    (call.2 8).now = (call.2 8).createdAt.toDate ∧
    db.lastRedaction? (call.2 7).choice = db.redactionLogs.getLast?

instance (db : Db) (call : AnonymizeInput × (ℕ → Env)) : Decidable (db.Faithful call) :=
  inferInstanceAs (Decidable (_ → _))

section Verify

variable {db : Db} {log : List ComplianceRedactionLog} {e : ComplianceRedactionLog}

theorem Verifies.grows (h : Verifies log) : ∀ e ∈ log, e.previousHash.length < e.currentHash.length := by
  intro e he
  rw [h.hashed e he]
  exact length_lt_redactionHash ..

theorem verifies_append : Verifies (log ++ [e]) ↔ Verifies log ∧
    (e.previousHash = HashChain.lastHash ComplianceRedactionLog.currentHash genesisHash log ∧
      e.currentHash = e.recomputedHash) := by
  constructor
  · intro h
    obtain ⟨hlinked, hprevious⟩ := HashChain.linked_append_singleton.mp h.linked
    refine ⟨⟨hlinked, fun f hf => h.hashed f (List.mem_append_left _ hf)⟩, hprevious, ?_⟩
    exact h.hashed e (List.mem_append_right _ (List.mem_singleton_self _))
  · rintro ⟨h, hprevious, hhash⟩
    refine ⟨HashChain.linked_append_singleton.mpr ⟨h.linked, hprevious⟩, fun f hf => ?_⟩
    rcases List.mem_append.mp hf with hold | hnew
    · exact h.hashed f hold
    · rw [List.mem_singleton.mp hnew]
      exact hhash

theorem recomputedHash_redactionEntry {args : AnonymizeInput} {affected : List Uuid}
    {lastRedaction : Option ComplianceRedactionLog} {env : Env} :
    (redactionEntry args affected lastRedaction env).currentHash =
        (redactionEntry args affected lastRedaction env).recomputedHash ↔
      args.id.text = uuidText args.id.value ∧ env.now = env.createdAt.toDate := by
  constructor
  · intro h
    obtain ⟨hid, -, htime⟩ := redactionHash_id h
    exact ⟨hid, htime⟩
  · rintro ⟨hid, htime⟩
    simp only [ComplianceRedactionLog.recomputedHash, redactionEntry, hid, htime]

theorem verifies_anonymizeNext (db : Db) (call : AnonymizeInput × (ℕ → Env)) :
    Verifies (db.anonymizeNext call).redactionLogs ↔ Verifies db.redactionLogs ∧ db.Faithful call := by
  unfold Db.anonymizeNext Db.Faithful
  cases hcall : db.anonymizeCustomer call.1 call.2 with
  | error err => exact (and_iff_left fun h => by cases h).symm
  | ok db' =>
    obtain ⟨-, -, -, rfl⟩ := anonymizeCustomer_eq_ok.mp hcall
    rw [Db.redact, verifies_append]
    refine and_congr_right fun hlog => ?_
    have hfound : ∀ e ∈ db.lastRedaction? (call.2 7).choice, e ∈ db.redactionLogs :=
      fun e he => mem_of_lastRedaction? he
    have hlast := hlog.linked.found_eq_last_iff hlog.grows hfound
    rw [recomputedHash_redactionEntry]
    constructor
    · rintro ⟨hprevious, hid, htime⟩ -
      exact ⟨hid, htime, hlast.mp hprevious⟩
    · intro h
      obtain ⟨hid, htime, hlatest⟩ := h rfl
      exact ⟨hlast.mpr hlatest, hid, htime⟩

end Verify

section Edit

variable {log : List ComplianceRedactionLog} {e : ComplianceRedactionLog} {edit : FieldEdit}

theorem FieldEdit.apply_previousHash (edit : FieldEdit) (e : ComplianceRedactionLog) :
    (edit.apply e).previousHash = e.previousHash := by
  cases edit <;> rfl

theorem FieldEdit.apply_currentHash (edit : FieldEdit) (e : ComplianceRedactionLog) :
    (edit.apply e).currentHash = e.currentHash := by
  cases edit <;> rfl

theorem FieldEdit.recomputedHash_apply (hne : edit.apply e ≠ e) :
    (edit.apply e).recomputedHash = e.recomputedHash ↔ ¬ edit.Hashed e := by
  cases edit with
  | redactedCustomerId value =>
    refine iff_of_false (fun h => hne ?_) (not_not_intro trivial)
    have hvalue := uuidText_injective (redactionHash_id h).1
    simp only [FieldEdit.apply] at hvalue ⊢
    rw [hvalue]
  | authorizedByUserId value =>
    refine iff_of_false (fun h => hne ?_) (not_not_intro trivial)
    have hvalue := (redactionHash_id h).2.1
    simp only [FieldEdit.apply] at hvalue ⊢
    rw [hvalue]
  | createdAt value =>
    rw [FieldEdit.Hashed, not_not]
    refine ⟨fun h => (redactionHash_id h).2.2, fun h => ?_⟩
    exact congrArg (redactionHash e.previousHash (uuidText e.redactedCustomerId)
      (uuidText e.authorizedByUserId)) h
  | legalRequestRef value | affectedAuditLogIds value => exact iff_of_true rfl not_false

theorem verifies_modify (hlog : Verifies log) {i : ℕ} (he : log[i]? = some e) (hne : edit.apply e ≠ e) :
    Verifies (log.modify i edit.apply) ↔ ¬ edit.Hashed e := by
  have hlinked : HashChain.Linked ComplianceRedactionLog.previousHash
      ComplianceRedactionLog.currentHash genesisHash (log.modify i edit.apply) :=
    (HashChain.linked_modify edit.apply_previousHash edit.apply_currentHash i).mpr hlog.linked
  rw [← FieldEdit.recomputedHash_apply hne, ← hlog.hashed e (List.mem_of_getElem? he),
    ← edit.apply_currentHash e]
  constructor
  · intro h
    have hmem : edit.apply e ∈ log.modify i edit.apply := by
      apply List.mem_of_getElem? (i := i)
      rw [List.getElem?_modify, he]
      simp
    exact (h.hashed _ hmem).symm
  · intro h
    refine ⟨hlinked, fun f hf => ?_⟩
    obtain ⟨j, hj⟩ := List.mem_iff_getElem?.mp hf
    rw [List.getElem?_modify] at hj
    obtain ⟨old, hold, hf⟩ := Option.map_eq_some_iff.mp hj
    by_cases hij : i = j
    · subst hij
      obtain rfl := Option.some.inj (hold.symm.trans he)
      rw [← hf, if_pos rfl]
      exact h.symm
    · rw [if_neg hij] at hf
      rw [← hf]
      exact hlog.hashed old (List.mem_of_getElem? hold)

theorem verifies_tampered (hlog : Verifies log) {t : Tampering} (ht : t.Applies log) :
    Verifies (t.apply log) ↔ ¬ t.Hashed log := by
  cases t with
  | change i edit =>
    obtain ⟨e, he, hne⟩ := ht
    have hhashed : (Tampering.change i edit).Hashed log ↔ edit.Hashed e := by
      simp [Tampering.Hashed, he]
    rw [hhashed]
    exact verifies_modify hlog he hne
  | remove i =>
    refine iff_of_false (fun h => ?_) (not_not_intro trivial)
    exact hlog.linked.not_eraseIdx hlog.grows ht h.linked

end Edit

/-- The log of a sequence of calls verifies, and a change of it does not, precisely when each
call was faithful to what it stored and the change is of what the hash is of. -/
theorem tampering_shows_iff {db : Db} (hdb : db.redactionLogs = [])
    (calls : List (AnonymizeInput × (ℕ → Env))) {t : Tampering}
    (ht : t.Applies (run Db.anonymizeNext db calls).redactionLogs) :
    (Verifies (run Db.anonymizeNext db calls).redactionLogs ∧
        ¬ Verifies (t.apply (run Db.anonymizeNext db calls).redactionLogs)) ↔
      EachStep Db.anonymizeNext Db.Faithful db calls ∧
        t.Hashed (run Db.anonymizeNext db calls).redactionLogs := by
  have hempty : Verifies db.redactionLogs := by
    rw [hdb]
    exact ⟨trivial, fun e he => absurd he List.not_mem_nil⟩
  have hrun : Verifies (run Db.anonymizeNext db calls).redactionLogs ↔
      EachStep Db.anonymizeNext Db.Faithful db calls := by
    have hboth := run_iff_eachStep (P := fun db => Verifies db.redactionLogs) verifies_anonymizeNext db
      calls
    rw [hboth]
    exact and_iff_right hempty
  rw [← hrun]
  refine and_congr_right fun hlog => ?_
  rw [verifies_tampered hlog ht, not_not]

section Example

def exampleCall (delay : ℤ) : AnonymizeInput × (ℕ → Env) :=
  (exampleInput 0, fun _ => { exampleEnv with createdAt := exampleEnv.createdAt + delay })

theorem otherTime_applies (delay : ℤ) (h : exampleEnv.createdAt + delay ≠ 0) :
    (Tampering.change 0 (.createdAt 0)).Applies
      (run Db.anonymizeNext exampleDb [exampleCall delay]).redactionLogs :=
  ⟨_, rfl, fun hsame => h (congrArg ComplianceRedactionLog.createdAt hsame).symm⟩

theorem tampering_shows_change :
    ((Verifies (run Db.anonymizeNext exampleDb [exampleCall 0]).redactionLogs ∧
        ¬ Verifies ((Tampering.change 0 (.createdAt 0)).apply
          (run Db.anonymizeNext exampleDb [exampleCall 0]).redactionLogs)) ↔
      EachStep Db.anonymizeNext Db.Faithful exampleDb [exampleCall 0] ∧
        (Tampering.change 0 (.createdAt 0)).Hashed
          (run Db.anonymizeNext exampleDb [exampleCall 0]).redactionLogs) ∧
      EachStep Db.anonymizeNext Db.Faithful exampleDb [exampleCall 0] := by
  have hempty : exampleDb.redactionLogs = [] := rfl
  have happlies := otherTime_applies 0 (by decide)
  exact ⟨tampering_shows_iff hempty [exampleCall 0] happlies, by decide +kernel⟩

/-- The row is stamped two milliseconds after the time that is hashed. -/
theorem stamped_later :
    ¬ ∀ (calls : List (AnonymizeInput × (ℕ → Env))) (t : Tampering),
      t.Applies (run Db.anonymizeNext exampleDb calls).redactionLogs →
        Verifies (run Db.anonymizeNext exampleDb calls).redactionLogs ∧
          ¬ Verifies (t.apply (run Db.anonymizeNext exampleDb calls).redactionLogs) := by
  intro h
  have hverifies :=
    (h [exampleCall 2000] (.change 0 (.createdAt 0)) (otherTime_applies 2000 (by decide))).1
  have hfaithful := ((verifies_anonymizeNext exampleDb (exampleCall 2000)).mp hverifies).2
  revert hfaithful
  decide +kernel

end Example

end WorksAuto.Customers
