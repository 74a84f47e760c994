import WorksAuto.Lib.Run
import WorksAuto.Platform.AdminUsers

/-! The last administrator of the platform.
No call acts on its own caller, so as long as the callers stay administrators until their calls
have written, one of them is left. Two administrators who act on each other at the same time can
both be gone. -/

namespace WorksAuto.Platform

open Lib Accounts

def Db.IsAdmin (db : Db) (id : Uuid) : Prop :=
  ∃ user, db.users.get? id = some user ∧ user.isAdministrator = true

def Db.Administrated (db : Db) : Prop := ∃ id, db.IsAdmin id

instance (db : Db) : Decidable db.Administrated :=
  decidable_of_iff (¬ ∀ id user, db.users.get? id = some user → ¬ user.isAdministrator = true) <| by
    simp only [Db.Administrated, Db.IsAdmin, not_forall, not_not, exists_prop]

def AdminStep.takes : AdminStep → Option Uuid
  | .writeStatus id false | .deleteUser id => some id
  | _ => none

/-- The account that a call acts against, once it has been compared with the caller's. -/
def AdminStep.against : AdminStep → Option Uuid
  | .countActive id | .writeStatus id false | .countAll id | .deleteUser id => some id
  | _ => none

def AdminStep.InProgress : AdminStep → Prop
  | .validateAccess _ | .finished _ => False
  | _ => True

instance (step : AdminStep) : Decidable step.InProgress := by
  cases step <;> unfold AdminStep.InProgress <;> infer_instance

abbrev AdminAction := PoolAction (Uuid × AdminCall) AdminEnv

/-- Nobody takes away the caller of another call in progress. -/
def AdminPool.Undisturbed (p : AdminPool) : AdminAction → Prop
  | .start _ => True
  | .step k _ => ∀ t ∈ p.threads.get? k, ∀ id ∈ t.step.takes,
    p.Alone (fun u => u.step.InProgress ∧ u.currentAdminId = id) k

instance (p : AdminPool) (a : AdminAction) : Decidable (p.Undisturbed a) := by
  cases a <;> unfold AdminPool.Undisturbed <;> infer_instance

section Step

variable {rt : Runtime} {db : Db}

theorem AdminStep.against_of_takes {step : AdminStep} {id : Uuid} (h : id ∈ step.takes) :
    step.InProgress ∧ id ∈ step.against := by
  cases step with
  | writeStatus target isActive =>
    cases isActive with
    | true => cases h
    | false => exact ⟨trivial, h⟩
  | deleteUser target => exact ⟨trivial, h⟩
  | _ => cases h

theorem AdminStep.exec_isAdmin {step : AdminStep} {id : Uuid} (h : db.IsAdmin id)
    (hother : ∀ target ∈ step.takes, id ≠ target) (currentAdminId : Uuid) (env : AdminEnv) :
    (step.exec rt db currentAdminId env).1.IsAdmin id := by
  obtain ⟨user, hid, hadmin⟩ := h
  cases step with
  | createUser dto =>
    obtain ⟨e, -, hnext⟩ | ⟨db', hstored, hnext⟩ := AdminStep.stored_cases db
      (db.createAdmin rt dto env.salt env.now)
    all_goals simp only [AdminStep.exec, hnext]
    · exact ⟨user, hid, hadmin⟩
    · obtain ⟨new, -, husers⟩ := Db.createAdmin_users hstored
      exact ⟨user, by rw [husers]; exact Table.get?_insert_of_some hid new, hadmin⟩
  | writeStatus target isActive =>
    obtain ⟨e, -, hnext⟩ | ⟨db', hstored, hnext⟩ := AdminStep.stored_cases db
      (db.setActive target isActive env.now)
    all_goals simp only [AdminStep.exec, hnext]
    · exact ⟨user, hid, hadmin⟩
    · obtain ⟨-, rfl⟩ := Db.setActive_eq_ok.mp hstored
      by_cases htarget : id = target
      · cases isActive with
        | true =>
          refine ⟨_, by rw [htarget]; exact Table.get?_modify_self (htarget ▸ hid) _, ?_⟩
          simp only [User.isAdministrator, Bool.and_eq_true] at hadmin ⊢
          exact ⟨hadmin.1, trivial⟩
        | false => exact absurd htarget (hother target rfl)
      · exact ⟨user, by rw [Table.get?_modify_ne _ htarget, hid], hadmin⟩
  | deleteUser target =>
    obtain ⟨e, -, hnext⟩ | ⟨db', hstored, hnext⟩ := AdminStep.stored_cases db
      (db.deleteUser target fun _ => true)
    all_goals simp only [AdminStep.exec, hnext]
    · exact ⟨user, hid, hadmin⟩
    · obtain ⟨-, -, husers, -⟩ := Db.deleteUser_eq_ok hstored
      exact ⟨user, by rw [husers, Table.get?_erase, if_neg (hother target rfl), hid], hadmin⟩
  | validateAccess call => exact ⟨user, hid, hadmin⟩
  | findEmail dto => exact ⟨user, hid, hadmin⟩
  | findPhone dto => exact ⟨user, hid, hadmin⟩
  | findTarget target isActive => exact ⟨user, hid, hadmin⟩
  | countActive target => exact ⟨user, hid, hadmin⟩
  | findRemoved target => exact ⟨user, hid, hadmin⟩
  | countAll target => exact ⟨user, hid, hadmin⟩
  | finished answer => exact ⟨user, hid, hadmin⟩

/-- The caller of a call in progress is an administrator, and not its target. -/
def AdminTask.Entitled (db : Db) (t : AdminTask) : Prop :=
  t.step.InProgress → db.IsAdmin t.currentAdminId ∧ ∀ id ∈ t.step.against, id ≠ t.currentAdminId

theorem AdminTask.Entitled.exec {t : AdminTask} (h : t.Entitled db) (env : AdminEnv) :
    (t.exec rt db env).2.Entitled (t.exec rt db env).1 := by
  obtain ⟨caller, step⟩ := t
  have stops : ∀ result : Outcome Db, (AdminTask.mk caller (AdminStep.stored db result).2).Entitled
      (AdminStep.stored db result).1 := by
    intro result
    obtain ⟨e, -, hnext⟩ | ⟨db', -, hnext⟩ := AdminStep.stored_cases db result
    all_goals
      rw [hnext]
      exact fun hprogress => hprogress.elim
  have goes : ∀ (check : Outcome Unit) next,
      (check = .ok () → (AdminTask.mk caller next).Entitled db) →
        (AdminTask.mk caller (AdminStep.after check next)).Entitled db := by
    intro check next hnext
    obtain ⟨e, hafter⟩ | ⟨hok, hafter⟩ := AdminStep.after_cases check next
    · rw [hafter]
      exact fun hprogress => hprogress.elim
    · rw [hafter]
      exact hnext hok
  cases step with
  | validateAccess call =>
    refine goes _ _ fun hok _ => ⟨accessCheck_eq_ok.mp hok, fun id hid => ?_⟩
    cases call <;> cases hid
  | findEmail dto => exact goes _ _ fun _ _ => h trivial
  | findPhone dto => exact goes _ _ fun _ _ => h trivial
  | createUser dto => exact stops _
  | findTarget id isActive =>
    refine goes _ _ fun hok _ => ⟨(h trivial).1, fun target htarget => ?_⟩
    obtain ⟨user, -, hself⟩ := Outcome.bind_eq_ok.mp hok
    have hne : (decide (id = caller) && !isActive) = false := Outcome.reject_eq_ok.mp hself
    cases isActive with
    | true => cases htarget
    | false =>
      cases htarget
      simpa using hne
  | countActive id => exact goes _ _ fun _ _ => h trivial
  | writeStatus id isActive => exact stops _
  | findRemoved id =>
    refine goes _ _ fun hok _ => ⟨(h trivial).1, fun target htarget => ?_⟩
    obtain ⟨user, -, hself⟩ := Outcome.bind_eq_ok.mp hok
    have hne : decide (id = caller) = false := Outcome.reject_eq_ok.mp hself
    cases htarget
    simpa using hne
  | countAll id => exact goes _ _ fun _ _ => h trivial
  | deleteUser id => exact stops _
  | finished answer => exact fun hprogress => hprogress.elim

theorem AdminTask.Entitled.administrated {t : AdminTask} (h : t.Entitled db)
    (hadmin : db.Administrated) (env : AdminEnv) : (t.exec rt db env).1.Administrated := by
  cases htakes : t.step.takes with
  | none =>
    obtain ⟨id, hid⟩ := hadmin
    refine ⟨id, AdminStep.exec_isAdmin hid (fun target htarget => ?_) _ env⟩
    rw [htakes] at htarget
    cases htarget
  | some target =>
    obtain ⟨hprogress, hagainst⟩ := AdminStep.against_of_takes htakes
    obtain ⟨hcaller, hother⟩ := h hprogress
    refine ⟨t.currentAdminId, AdminStep.exec_isAdmin hcaller (fun taken htaken => ?_) _ env⟩
    obtain rfl := Option.some.inj (htakes.symm.trans htaken)
    exact (hother target hagainst).symm

end Step

section Runs

variable {rt : Runtime} {db : Db}

abbrev AdminPool.Entitled : AdminPool → Prop := Pool.Holds Db.Administrated AdminTask.Entitled

theorem AdminPool.Entitled.act {p : AdminPool} (h : p.Entitled) {a : AdminAction}
    (hcalm : p.Undisturbed a) : (p.act rt a).Entitled := by
  cases a with
  | start request => exact Pool.Holds.start h fun hprogress => hprogress.elim
  | step k env =>
    refine Pool.Holds.step_among h fun t ht => ?_
    have hentitled := h.2 k t ht
    refine ⟨hentitled.administrated h.1 env, hentitled.exec env, fun i u hu hi hprogress => ?_⟩
    obtain ⟨hcaller, hagainst⟩ := h.2 i u hu hprogress
    have hspared : ∀ target ∈ t.step.takes, u.currentAdminId ≠ target :=
      fun target htarget heq => hcalm t ht target htarget i u hu hi ⟨hprogress, heq⟩
    exact ⟨AdminStep.exec_isAdmin hcaller hspared _ env, hagainst⟩

/-- In every interleaving in which nobody takes away the caller of another call in progress, an
active administrator is left at all times. -/
theorem always_administrated (rt : Runtime) {db : Db} (h : db.Administrated)
    {actions : List AdminAction}
    (hcalm : EachStep (AdminPool.act rt) AdminPool.Undisturbed (Pool.idle db) actions) :
    Always (AdminPool.act rt) (fun p => p.shared.Administrated) (Pool.idle db) actions := by
  have start : AdminPool.Entitled (Pool.idle db) := Pool.holds_idle h
  have keep : ∀ (p : AdminPool) a, p.Entitled → p.Undisturbed a → AdminPool.Entitled (p.act rt a) :=
    fun p a hentitled hundisturbed => hentitled.act hundisturbed
  exact (always_of_step keep start hcalm).mono fun p hp => hp.1

end Runs

section Example

def twoAdmins : Db :=
  staffed [account none "+905550000001" .superAdmin, account none "+905550000002" .superAdmin]

def asAdmin (now : Instant) : AdminEnv := ⟨0, now⟩

/-- Two administrators suspend each other, one after the other. -/
theorem always_administrated_in_turn :
    Always (AdminPool.act asciiRuntime) (fun p => p.shared.Administrated) (Pool.idle twoAdmins)
      [.start (0, .updateStatus 1 false), .step 0 (asAdmin 1), .step 0 (asAdmin 2),
        .step 0 (asAdmin 3), .step 0 (asAdmin 4), .start (1, .updateStatus 0 false),
        .step 1 (asAdmin 5), .step 1 (asAdmin 6)] := by
  have hstart : twoAdmins.Administrated := ⟨0, _, rfl, rfl⟩
  exact always_administrated asciiRuntime hstart (by decide +kernel)

/-- Both have been counted before either of them is suspended. -/
theorem suspended_by_each_other :
    ¬ ∀ rt db actions, db.Administrated →
      Always (AdminPool.act rt) (fun p => p.shared.Administrated) (Pool.idle db) actions := by
  intro h
  have hstart : twoAdmins.Administrated := ⟨0, _, rfl, rfl⟩
  have hrun := h asciiRuntime twoAdmins
    [.start (0, .updateStatus 1 false), .start (1, .updateStatus 0 false), .step 0 (asAdmin 1),
      .step 1 (asAdmin 2), .step 0 (asAdmin 3), .step 1 (asAdmin 4), .step 0 (asAdmin 5),
      .step 1 (asAdmin 6), .step 0 (asAdmin 7), .step 1 (asAdmin 8)] hstart
  revert hrun
  decide +kernel

end Example

end WorksAuto.Platform
