import WorksAuto.Platform.Staff

/-! What the calls of a service manager do to the ranks above.
The rules on roles are checked on the request, and on the account as it was when the call read
it. The rules on the request hold in every interleaving; the one on the account fails for an
account that its owner promotes between the read and the write, and for no other. -/

namespace WorksAuto.Platform

open Lib Accounts

def ranks : List UserRole := [.serviceManager, .owner, .superAdmin]

structure Respects (before after : Db) : Prop where
  owners : ∀ id user, before.users.get? id = some user → user.role = .owner →
    after.users.get? id = some user
  ranked : ∀ id user, after.users.get? id = some user → user.role ∈ ranks →
    (before.users.get? id).map User.role = some user.role

instance (before after : Db) : Decidable (Respects before after) :=
  decidable_of_iff
    ((∀ id user, before.users.get? id = some user → user.role = .owner →
        after.users.get? id = some user) ∧
      ∀ id user, after.users.get? id = some user → user.role ∈ ranks →
        (before.users.get? id).map User.role = some user.role)
    ⟨fun h => ⟨h.1, h.2⟩, fun h => ⟨h.1, h.2⟩⟩

/-- No step of a service manager's call touches an owner or gives a rank. -/
def StaffPool.ManagersRespect (p : StaffPool) : PoolAction StaffCall Env → Prop
  | .start _ => True
  | .step k env => ∀ t ∈ p.threads.get? k, t.currentUserRole = .serviceManager →
    Respects p.shared (t.exec p.shared env).1

instance (p : StaffPool) (a : PoolAction StaffCall Env) : Decidable (p.ManagersRespect a) :=
  match a with
  | .start _ => .isTrue trivial
  | .step k env => inferInstanceAs (Decidable (∀ t ∈ p.threads.get? k,
      t.currentUserRole = .serviceManager → Respects p.shared (t.exec p.shared env).1))

def StaffStep.promotes (db : Db) (env : Env) : StaffStep → Option Uuid
  | .updateRows tenantId id dto =>
    if dto.role = some .owner ∧ (db.updateStaff tenantId id dto env.now).isOk then some id else none
  | _ => none

def StaffStep.updating : StaffStep → Option Uuid
  | .findOther _ id _ | .updateRows _ id _ => some id
  | _ => none

/-- No account becomes an owner while a service manager's update of it is between its read and
its write. -/
def StaffPool.Unpromoted (p : StaffPool) : PoolAction StaffCall Env → Prop
  | .start _ => True
  | .step k env => ∀ t ∈ p.threads.get? k, ∀ id ∈ t.step.promotes p.shared env,
    p.Alone (fun u => u.currentUserRole = .serviceManager ∧ id ∈ u.step.updating) k

instance (p : StaffPool) (a : PoolAction StaffCall Env) : Decidable (p.Unpromoted a) := by
  cases a <;> unfold StaffPool.Unpromoted <;> infer_instance

structure Db.Unowned (db : Db) (id : Uuid) : Prop where
  known : id < db.users.next
  unowned : ∀ user, db.users.get? id = some user → user.role ≠ .owner

def StaffTask.Modest (db : Db) (t : StaffTask) : Prop :=
  t.currentUserRole = .serviceManager →
    match t.step with
    | .findPhone _ dto | .createRows _ dto => dto.role ∉ ranks
    | .findOther _ id dto | .updateRows _ id dto => (∀ role ∈ dto.role, role ∉ ranks) ∧ db.Unowned id
    | .findOne _ _ _ | .finished _ => True
    | _ => False

section Checks

theorem checkCreateRole_modest {role : UserRole} {u : Unit}
    (h : checkCreateRole .serviceManager role = .ok u) : role ∉ ranks := by
  unfold checkCreateRole at h
  cases role <;> simp [ranks] <;> cases h

theorem checkUpdateRole_modest {role : Option UserRole} {previousRole : UserRole} {u : Unit}
    (h : checkUpdateRole .serviceManager role previousRole = .ok u) :
    ∀ r ∈ role, r ∉ ranks := by
  unfold checkUpdateRole at h
  rintro r rfl
  cases r <;> simp [ranks] <;> cases h

theorem checkUpdateRole_unowned {role : Option UserRole} {previousRole : UserRole} {u : Unit}
    (h : checkUpdateRole .serviceManager role previousRole = .ok u) : previousRole ≠ .owner := by
  obtain ⟨_, -, h⟩ := Outcome.bind_eq_ok.mp h
  obtain ⟨_, -, h⟩ := Outcome.bind_eq_ok.mp h
  obtain ⟨_, -, h⟩ := Outcome.bind_eq_ok.mp h
  rintro rfl
  cases h

end Checks

section Writes

variable {db db' : Db}

theorem Db.Unowned.of_findOne {tenantId id : Uuid} {user : User}
    (h : db.findOne tenantId id = .ok user) (hrole : user.role ≠ .owner) : db.Unowned id := by
  obtain ⟨hid, -⟩ := Db.user?_eq_some.mp (Outcome.required_eq_ok.mp h)
  refine ⟨Table.get?_lt hid, fun u hu => ?_⟩
  obtain rfl := Option.some.inj (hid.symm.trans hu)
  exact hrole

inductive StaffTask.UsersStep (db : Db) (env : Env) : StaffStep → Table User → Prop where
  | same (step : StaffStep) : UsersStep db env step db.users
  | insert {tenantId : Uuid} {dto : CreateStaffDto} {user : User} (hrole : user.role = dto.role) :
    UsersStep db env (.createRows tenantId dto) (db.users.insert user)
  | modify {tenantId id : Uuid} {dto : UpdateStaffDto} {data : UpdateData}
    (hok : (db.updateStaff tenantId id dto env.now).isOk) (hrole : data.role = dto.role) :
    UsersStep db env (.updateRows tenantId id dto) (db.users.modify id (data.apply env.now))
  | erase {tenantId id : Uuid} : UsersStep db env (.deleteUser tenantId id) (db.users.erase id)
  | deactivate {tenantId id : Uuid} : UsersStep db env (.deactivate tenantId id)
    (db.users.modify id fun u => { u with isActive := false, updatedAt := env.now })

theorem StaffTask.exec_users (t : StaffTask) (db : Db) (env : Env) :
    StaffTask.UsersStep db env t.step (t.exec db env).1.users := by
  obtain ⟨role, step⟩ := t
  cases step with
  | createRows tenantId dto =>
    obtain ⟨e, -, hnext⟩ | ⟨db', hstored, hnext⟩ := StaffStep.stored_cases db
      (db.createStaff tenantId dto env.now) (.finished (.ok ()))
    all_goals simp only [StaffTask.exec, StaffStep.exec, hnext]
    · exact .same _
    · obtain ⟨user, huser, husers⟩ := Db.createStaff_users hstored
      rw [husers]
      exact .insert (CreateStaffDto.user_role huser).1
  | updateRows tenantId id dto =>
    obtain ⟨e, -, hnext⟩ | ⟨db', hstored, hnext⟩ := StaffStep.stored_cases db
      (db.updateStaff tenantId id dto env.now) (.finished (.ok ()))
    all_goals simp only [StaffTask.exec, StaffStep.exec, hnext]
    · exact .same _
    · have hok : (db.updateStaff tenantId id dto env.now).isOk := by rw [hstored]; rfl
      obtain ⟨data, user, hchecks, hprofile⟩ := Db.updateStaff_eq_ok hstored
      rw [Db.updateProfile_users hprofile]
      exact .modify hok (UpdateStaffDto.updateData_role (Db.updateChecks_eq_ok hchecks).1)
  | deleteMechanic tenantId id k =>
    obtain ⟨e, -, hnext⟩ | ⟨db', hstored, hnext⟩ := StaffStep.stored_cases db
      (db.deleteMechanic tenantId k) (.deleteUser tenantId id)
    all_goals simp only [StaffTask.exec, StaffStep.exec, hnext]
    · exact .same _
    · obtain ⟨-, rfl⟩ := Db.deleteMechanic_eq_ok.mp hstored
      exact .same _
  | deleteUser tenantId id =>
    obtain ⟨e, -, hnext⟩ | ⟨db', hstored, hnext⟩ := StaffStep.stored_cases db
      (db.deleteUser id fun u => u.tenantId = some tenantId) (.finished (.ok ()))
    all_goals simp only [StaffTask.exec, StaffStep.exec, hnext]
    · exact .same _
    · obtain ⟨-, -, husers, -⟩ := Db.deleteUser_eq_ok hstored
      rw [husers]
      exact .erase
  | deactivate tenantId id =>
    obtain ⟨e, -, hnext⟩ | ⟨db', hstored, hnext⟩ := StaffStep.stored_cases db
      (db.deactivate tenantId id env.now) (.finished (.ok ()))
    all_goals simp only [StaffTask.exec, StaffStep.exec, hnext]
    · exact .same _
    · obtain ⟨user, -, hstored⟩ := Outcome.bind_eq_ok.mp hstored
      obtain rfl := Outcome.pure_eq_ok.mp hstored
      exact .deactivate
  | findPhone tenantId dto => exact .same _
  | findOne tenantId id dto => exact .same _
  | findOther tenantId id dto => exact .same _
  | findRemoved tenantId id => exact .same _
  | countWorkOrders tenantId id k => exact .same _
  | countAppointments tenantId id k hasReferences => exact .same _
  | finished answer => exact .same _

theorem Db.Unowned.modify {id : Uuid} (h : db.Unowned id) {k : Uuid} {f : User → User}
    (husers : db'.users = db.users.modify k f)
    (hrole : k = id → ∀ user, user.role ≠ .owner → (f user).role ≠ .owner) : db'.Unowned id := by
  refine ⟨by rw [husers]; exact h.known, fun user huser => ?_⟩
  rw [husers, Table.get?_modify] at huser
  obtain ⟨before, hbefore, rfl⟩ := Option.map_eq_some_iff.mp huser
  split_ifs with hk
  · exact hrole hk.symm before (h.unowned before hbefore)
  · exact h.unowned before hbefore

theorem Db.Unowned.exec {id : Uuid} (h : db.Unowned id) (t : StaffTask) (env : Env)
    (hspared : ∀ promoted ∈ t.step.promotes db env, promoted ≠ id) : (t.exec db env).1.Unowned id := by
  generalize hstep : t.step = step at hspared
  have heffect := t.exec_users db env
  rw [hstep] at heffect
  generalize husers : (t.exec db env).1.users = users at heffect
  cases heffect with
  | same => exact ⟨by rw [husers]; exact h.known, fun user huser => h.unowned user (husers ▸ huser)⟩
  | @insert tenantId dto user hrole =>
    refine ⟨by rw [husers]; exact Nat.lt_succ_of_lt h.known, fun other hother => ?_⟩
    rw [husers, Table.get?_insert, if_neg h.known.ne] at hother
    exact h.unowned other hother
  | @modify tenantId target dto data hok hrole =>
    refine h.modify husers fun htarget user huser => ?_
    have hgiven : (data.apply env.now user).role = dto.role.getD user.role := by rw [← hrole]; rfl
    have hnot : dto.role ≠ some .owner := by
      intro howner
      exact hspared target (if_pos ⟨howner, hok⟩) htarget
    cases hr : dto.role with
    | none => rwa [hgiven, hr, Option.getD_none]
    | some role =>
      rw [hgiven, hr, Option.getD_some]
      exact fun howner => hnot (hr.trans (congrArg some howner))
  | erase =>
    refine ⟨by rw [husers]; exact h.known, fun user huser => ?_⟩
    rw [husers, Table.get?_erase] at huser
    split_ifs at huser
    exact h.unowned user huser
  | deactivate => exact h.modify husers fun _ user huser => huser

theorem Respects.of_users_eq (h : db'.users = db.users) : Respects db db' where
  owners id user hid _ := by rw [h, hid]
  ranked id user hid _ := by rw [← h, hid]; rfl

theorem Respects.insert {user : User} (h : db'.users = db.users.insert user)
    (hrole : user.role ∉ ranks) : Respects db db' where
  owners id u hid _ := by
    rw [h]
    exact Table.get?_insert_of_some hid user
  ranked id u hid hranked := by
    rw [h, Table.get?_insert] at hid
    split_ifs at hid with hnext
    · cases hid
      exact absurd hranked hrole
    · rw [hid]
      rfl

theorem Respects.modify {id : Uuid} {f : User → User} (h : db'.users = db.users.modify id f)
    (hunowned : db.Unowned id)
    (hrole : ∀ user, (f user).role ∈ ranks → user.role = (f user).role) : Respects db db' where
  owners i user hi howner := by
    have hother : i ≠ id := by
      rintro rfl
      exact hunowned.unowned user hi howner
    rw [h, Table.get?_modify_ne _ hother, hi]
  ranked i user hi hranked := by
    rw [h, Table.get?_modify] at hi
    obtain ⟨before, hbefore, rfl⟩ := Option.map_eq_some_iff.mp hi
    rw [hbefore, Option.map_some]
    split_ifs at hranked ⊢
    · rw [hrole before hranked]
    · rfl

end Writes

section Steps

variable {db : Db} {t : StaffTask}

theorem StaffCall.enter_modest (call : StaffCall) (db : Db) : call.enter.Modest db := by
  cases call with
  | create tenantId role dto =>
    intro hrole
    cases hrole
    obtain ⟨e, hnext⟩ | ⟨u, hcheck, hnext⟩ := StaffStep.after_cases (do
      rolesGuard [.owner, .serviceManager] .serviceManager
      checkCreateRole .serviceManager dto.role) fun _ => .findPhone tenantId dto
    · rw [StaffCall.enter, hnext]
      trivial
    · obtain ⟨_, -, hcheck⟩ := Outcome.bind_eq_ok.mp hcheck
      rw [StaffCall.enter, hnext]
      exact checkCreateRole_modest hcheck
  | update tenantId id role dto =>
    intro hrole
    cases hrole
    trivial
  | remove tenantId id role =>
    intro hrole
    cases hrole
    trivial

theorem StaffTask.Modest.exec (h : t.Modest db) (env : Env) :
    (t.exec db env).2.Modest (t.exec db env).1 := by
  obtain ⟨role, step⟩ := t
  intro hrole
  have hchecked := h hrole
  change role = .serviceManager at hrole
  subst hrole
  cases step with
  | findPhone tenantId dto =>
    obtain ⟨e, hnext⟩ | ⟨u, -, hnext⟩ := StaffStep.after_cases (db.createStaffCheck tenantId dto)
      fun _ => .createRows tenantId dto
    · simp only [StaffTask.exec, StaffStep.exec, hnext]
    · simpa only [StaffTask.exec, StaffStep.exec, hnext] using hchecked
  | createRows tenantId dto =>
    obtain ⟨e, -, hnext⟩ | ⟨db', -, hnext⟩ := StaffStep.stored_cases db
      (db.createStaff tenantId dto env.now) (.finished (.ok ()))
    all_goals simp only [StaffTask.exec, StaffStep.exec, hnext]
  | findOne tenantId id dto =>
    obtain ⟨e, hnext⟩ | ⟨u, hcheck, hnext⟩ := StaffStep.after_cases (do
      let previousUser ← db.findOne tenantId id
      checkUpdateRole .serviceManager dto.role previousUser.role)
        fun _ => .findOther tenantId id dto
    · simp only [StaffTask.exec, StaffStep.exec, hnext]
    · obtain ⟨previousUser, hfound, hcheck⟩ := Outcome.bind_eq_ok.mp hcheck
      simp only [StaffTask.exec, StaffStep.exec, hnext]
      exact ⟨checkUpdateRole_modest hcheck, .of_findOne hfound (checkUpdateRole_unowned hcheck)⟩
  | findOther tenantId id dto =>
    obtain ⟨e, hnext⟩ | ⟨u, -, hnext⟩ := StaffStep.after_cases
      (db.updateStaffCheck tenantId id dto env.choice) fun _ => .updateRows tenantId id dto
    · simp only [StaffTask.exec, StaffStep.exec, hnext]
    · simpa only [StaffTask.exec, StaffStep.exec, hnext] using hchecked
  | updateRows tenantId id dto =>
    obtain ⟨e, -, hnext⟩ | ⟨db', -, hnext⟩ := StaffStep.stored_cases db
      (db.updateStaff tenantId id dto env.now) (.finished (.ok ()))
    all_goals simp only [StaffTask.exec, StaffStep.exec, hnext]
  | finished answer => trivial
  | findRemoved tenantId id => exact hchecked.elim
  | countWorkOrders tenantId id k => exact hchecked.elim
  | countAppointments tenantId id k hasReferences => exact hchecked.elim
  | deleteMechanic tenantId id k => exact hchecked.elim
  | deleteUser tenantId id => exact hchecked.elim
  | deactivate tenantId id => exact hchecked.elim

theorem StaffTask.Modest.frame {u : StaffTask} (h : u.Modest db) (t : StaffTask) (env : Env)
    (hspared : ∀ id ∈ t.step.promotes db env,
      ¬ (u.currentUserRole = .serviceManager ∧ id ∈ u.step.updating)) :
    u.Modest (t.exec db env).1 := by
  obtain ⟨role, step⟩ := u
  intro hrole
  have hchecked := h hrole
  have still : ∀ id ∈ step.updating, db.Unowned id → (t.exec db env).1.Unowned id := by
    intro id hid hunowned
    refine hunowned.exec t env fun promoted hpromoted heq => ?_
    exact hspared promoted hpromoted ⟨hrole, heq ▸ hid⟩
  cases step with
  | findOther tenantId id dto => exact ⟨hchecked.1, still id rfl hchecked.2⟩
  | updateRows tenantId id dto => exact ⟨hchecked.1, still id rfl hchecked.2⟩
  | _ => exact hchecked

theorem StaffTask.Modest.respects (h : t.Modest db) (hrole : t.currentUserRole = .serviceManager)
    (env : Env) : Respects db (t.exec db env).1 := by
  obtain ⟨role, step⟩ := t
  have hchecked := h hrole
  have heffect := StaffTask.exec_users ⟨role, step⟩ db env
  generalize husers : ((StaffTask.mk role step).exec db env).1.users = users at heffect
  cases heffect with
  | same => exact .of_users_eq husers
  | @insert tenantId dto user hgiven =>
    have hmodest : user.role ∉ ranks := by
      rw [hgiven]
      exact hchecked
    exact .insert husers hmodest
  | @modify tenantId id dto data hok hgiven =>
    refine .modify husers hchecked.2 fun user hranked => ?_
    have hkept : (data.apply env.now user).role = dto.role.getD user.role := by rw [← hgiven]; rfl
    cases hr : dto.role with
    | none => rw [hkept, hr, Option.getD_none]
    | some given =>
      rw [hkept, hr, Option.getD_some] at hranked
      exact absurd hranked (hchecked.1 given hr)
  | erase => exact hchecked.elim
  | deactivate => exact hchecked.elim

end Steps

section Runs

abbrev StaffPool.Modest : StaffPool → Prop := Pool.Holds (fun _ => True) StaffTask.Modest

theorem StaffPool.Modest.act {p : StaffPool} (h : p.Modest) {a : PoolAction StaffCall Env}
    (hunpromoted : p.Unpromoted a) : (p.act a).Modest := by
  cases a with
  | start call => exact Pool.Holds.start h (call.enter_modest p.shared)
  | step k env =>
    refine Pool.Holds.step_among h fun t ht => ⟨trivial, (h.2 k t ht).exec env, fun i u hu hi => ?_⟩
    exact (h.2 i u hu).frame t env fun id hid => hunpromoted t ht id hid i u hu hi

theorem StaffPool.Modest.respects {p : StaffPool} (h : p.Modest) (a : PoolAction StaffCall Env) :
    p.ManagersRespect a := by
  cases a with
  | start call => trivial
  | step k env => exact fun t ht hrole => (h.2 k t ht).respects hrole env

/-- In every interleaving in which no account is promoted under a service manager's hands, the
calls of service managers respect the ranks at every step. -/
theorem managers_respect {db : Db} {actions : List (PoolAction StaffCall Env)}
    (h : EachStep StaffPool.act StaffPool.Unpromoted (Pool.idle db) actions) :
    EachStep StaffPool.act StaffPool.ManagersRespect (Pool.idle db) actions := by
  have start : StaffPool.Modest (Pool.idle db) := Pool.holds_idle trivial
  have keep : ∀ (p : StaffPool) a, p.Modest → p.Unpromoted a → StaffPool.Modest (p.act a) :=
    fun p a hmodest hunpromoted => hmodest.act hunpromoted
  have hold : ∀ (p : StaffPool) a, p.Modest → p.Unpromoted a → p.ManagersRespect a :=
    fun p a hmodest _ => hmodest.respects a
  exact (always_eachStep_of_step (fun _ _ => trivial) keep hold start h).2

end Runs

section Example

def clockAt (now : Instant) : Env := ⟨0, now⟩

/-- A cashier is deactivated by a service manager, and then made an owner: what the manager's
second update finds, it refuses. -/
theorem managers_respect_promoted_before :
    EachStep StaffPool.act StaffPool.ManagersRespect
      (Pool.idle (staffed [account (some 0) "905550000001" .cashier]))
      [.start (.update 0 0 .serviceManager { noUpdate with isActive := some (some false) }),
        .step 0 (clockAt 1), .step 0 (clockAt 2), .step 0 (clockAt 3),
        .start (.update 0 0 .owner { noUpdate with role := some .owner }),
        .start (.update 0 0 .serviceManager { noUpdate with isActive := some (some true) }),
        .step 1 (clockAt 4), .step 1 (clockAt 5), .step 1 (clockAt 6), .step 2 (clockAt 7)] :=
  managers_respect (by decide +kernel)

/-- The manager's call reads a cashier, whom the owner then promotes, and deactivates an owner. -/
theorem promoted_meanwhile :
    ¬ ∀ db actions, EachStep StaffPool.act StaffPool.ManagersRespect (Pool.idle db) actions := by
  intro h
  have hrun := h (staffed [account (some 0) "905550000001" .cashier])
    [.start (.update 0 0 .serviceManager { noUpdate with isActive := some (some false) }),
      .start (.update 0 0 .owner { noUpdate with role := some .owner }),
      .step 0 (clockAt 1), .step 1 (clockAt 2), .step 1 (clockAt 3), .step 1 (clockAt 4), .step 0 (clockAt 5),
      .step 0 (clockAt 6)]
  revert hrun
  decide +kernel

end Example

end WorksAuto.Platform
