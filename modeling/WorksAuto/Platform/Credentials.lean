import WorksAuto.Lib.Run
import WorksAuto.Platform.Registration

/-! The sign-in of the administrators.
It takes one active account with the e-mail address that is typed, whichever it finds, and only
then looks at the role. An administrator signs in for certain precisely while no other active
account has the same address. -/

namespace WorksAuto.Platform

open Lib Accounts

structure AdminLoginDto where
  email : String
  password : String
  deriving DecidableEq, Repr

structure AdminLogin where
  id : Uuid
  name : String
  surname : String
  email : Option String
  phone : String
  role : UserRole
  deriving DecidableEq, Repr

def User.adminLogin (user : User) (id : Uuid) : AdminLogin where
  id
  name := user.name
  surname := user.surname
  email := user.email
  phone := user.phone
  role := user.role

section Login

variable (rt : Runtime) (db : Db)

def Db.activeWith (email : String) : List (Uuid × User) :=
  db.users.filter fun u => u.email = some email && u.isActive

/-- `AdminAuthService.login`; `choice` is the row that the query finds. -/
def Db.login (dto : AdminLoginDto) (choice : ℕ) : Outcome AdminLogin := do
  let found := db.activeWith (rt.emailNormalized dto.email)
  let (id, user) ← Outcome.required
    (found[choice % found.length]?.filter fun q => q.2.role = .superAdmin)
    (.unauthorized "Geçersiz yönetici kimlik bilgileri veya yetkisiz hesap.")
  let passwordHash ← Outcome.required (firstText [user.passwordHash])
    (.unauthorized "Bu hesap için parola tanımlanmamıştır.")
  Outcome.reject (!rt.compare dto.password passwordHash) (.unauthorized "Girdiğiniz şifre hatalı.")
  pure (user.adminLogin id)

end Login

section Machine

variable (rt : Runtime) (db : Db)

/-- `AdminUsersService.create`, without a break. -/
def Db.createSuperAdmin (dto : CreateSuperAdminDto) (salt : ℕ) (now : Instant) : Outcome Db := do
  db.emailCheck rt dto
  db.phoneCheck dto
  db.createAdmin rt dto salt now

/-- `AdminUsersService.updateStatus`, without a break. -/
def Db.updateStatus (id : Uuid) (isActive : Bool) (currentAdminId : Uuid) (now : Instant) :
    Outcome Db := do
  db.statusCheck id isActive currentAdminId
  let _ ← (if isActive then pure () else db.activeCheck : Outcome Unit)
  db.setActive id isActive now

section Alone

variable (id currentAdminId : Uuid) (isActive : Bool)

/-- The steps of a call after the check of the token, with no other call in between. -/
def AdminTask.alone (env : AdminEnv) (s : Db × AdminTask) : Db × AdminTask :=
  (fun s => s.2.exec rt s.1 env)^[3] s

attribute [local simp] AdminTask.alone AdminTask.exec AdminStep.begin AdminStep.exec
  AdminStep.after AdminStep.stored settle bind Except.bind

theorem createSuperAdmin_alone (dto : CreateSuperAdminDto) (env : AdminEnv) :
    AdminTask.alone rt env (db, ⟨currentAdminId, .begin (.create dto)⟩) =
      ((settle db (db.createSuperAdmin rt dto env.salt env.now)).1, ⟨currentAdminId,
        .finished (settle db (db.createSuperAdmin rt dto env.salt env.now)).2⟩) := by
  cases hemail : db.emailCheck rt dto <;>
    cases hphone : db.phoneCheck dto <;>
      cases hstore : db.createAdmin rt dto env.salt env.now <;>
        simp [Db.createSuperAdmin, hemail, hphone, hstore]

theorem updateStatus_alone (env : AdminEnv) :
    AdminTask.alone rt env (db, ⟨currentAdminId, .begin (.updateStatus id isActive)⟩) =
      ((settle db (db.updateStatus id isActive currentAdminId env.now)).1, ⟨currentAdminId,
        .finished (settle db (db.updateStatus id isActive currentAdminId env.now)).2⟩) := by
  cases hstatus : db.statusCheck id isActive currentAdminId <;>
    cases hactive : db.activeCheck <;>
      cases hstore : db.setActive id isActive env.now <;>
        cases isActive <;>
          simp [Db.updateStatus, hstatus, hactive, hstore, pure, Except.pure]

end Alone

inductive AccountCall where
  | createSuperAdmin (dto : CreateSuperAdminDto)
  | updateStatus (id : Uuid) (isActive : Bool) (currentAdminId : Uuid)
  | registerTenant (dto : RegisterTenantDto)
  | createTenant (dto : CreateTenantDto)
  | completeOnboarding (tenantId : Uuid) (dto : CompleteOnboardingDto)
  | createStaff (tenantId : Uuid) (role : UserRole) (dto : CreateStaffDto)
  | updateStaff (tenantId id : Uuid) (role : UserRole) (dto : UpdateStaffDto)

structure AccountEnv extends Env where
  salt : ℕ
  others : Outcome Unit

abbrev AccountLabel := AccountCall × AccountEnv

def AccountCall.exec (env : AccountEnv) : AccountCall → Outcome Db
  | createSuperAdmin dto => db.createSuperAdmin rt dto env.salt env.now
  | updateStatus id isActive currentAdminId => db.updateStatus id isActive currentAdminId env.now
  | registerTenant dto => db.registerTenant env.now dto
  | createTenant dto => db.createTenant rt env.now dto
  | completeOnboarding tenantId dto => db.completeOnboarding tenantId env.now dto env.others
  | createStaff tenantId role dto => db.create tenantId role dto env.toEnv
  | updateStaff tenantId id role dto => db.update tenantId id role dto env.toEnv

abbrev Passwords := Uuid → Option String

def notePassword (db : Db) (passwords : Passwords) (l : AccountLabel) : Passwords :=
  match l.1 with
  | .createSuperAdmin dto =>
    if (l.1.exec rt db l.2).isOk then Function.update passwords db.users.next (some dto.password)
    else passwords
  | _ => passwords

def accountStep : Db × Passwords → AccountLabel → Db × Passwords :=
  observed (fun db l => (settle db (l.1.exec rt db l.2)).1) (notePassword rt)

end Machine

section Properties

variable (rt : Runtime)

/-- Every active administrator signs in with the password of the creation, in any letter case of
the e-mail address and whichever row the search finds. -/
def CredentialsWork (s : Db × Passwords) : Prop :=
  ∀ id user, s.1.users.get? id = some user → user.isAdministrator = true →
    ∃ email password, user.email = some email ∧ s.2 id = some password ∧
      ∀ typed, rt.toLowerCase typed = rt.toLowerCase email →
        ∀ choice, s.1.login rt ⟨typed, password⟩ choice = .ok (user.adminLogin id)

/-- An account that is active and shares the e-mail address of another active one, where either
of the two is an administrator's. -/
def Db.Shadows (db : Db) (id : Uuid) (user : User) : Prop :=
  user.isActive = true ∧ ∃ j other, j ≠ id ∧ db.users.get? j = some other ∧
    other.isActive = true ∧ other.email = user.email ∧
      (user.role = .superAdmin ∨ other.role = .superAdmin)

/-- The one account that a call writes when it goes through, where it can share an address. -/
def AccountCall.written (db : Db) (env : AccountEnv) : AccountCall → Option (Uuid × User)
  | createSuperAdmin _ => none
  | updateStatus id isActive _ =>
    (db.users.get? id).map fun u => (id, { u with isActive, updatedAt := env.now })
  | registerTenant dto => some (db.users.next, dto.owner env.now db.tenants.next)
  | createTenant dto => some (db.users.next, dto.owner rt env.now db.tenants.next)
  | completeOnboarding _ _ => none
  | createStaff tenantId _ dto =>
    (dto.user tenantId env.now).toOption.map fun user => (db.users.next, user)
  | updateStaff tenantId id _ dto =>
    (db.updateChecks tenantId id dto).toOption.map fun (data, user) => (id, data.apply env.now user)

def ShadowsNobody (db : Db) (l : AccountLabel) : Prop :=
  ∀ id user, l.1.written rt db l.2 = some (id, user) → (l.1.exec rt db l.2).isOk = true →
    ¬ db.Shadows id user

/-- No other active account has the e-mail address of an active administrator. -/
def Db.Unshadowed (db : Db) : Prop :=
  ∀ id user, db.users.get? id = some user → user.isAdministrator = true →
    ∀ j other, db.users.get? j = some other → other.isActive = true → other.email = user.email →
      j = id

/-- An administrator belongs to no tenant, has a normalised e-mail address and the hash of the
password of the creation. -/
def AdminsKnown (s : Db × Passwords) : Prop :=
  ∀ id user, s.1.users.get? id = some user → user.role = .superAdmin →
    user.tenantId = none ∧ ∃ email password salt, user.email = some email ∧
      rt.emailNormalized email = email ∧ s.2 id = some password ∧
        user.passwordHash = some (rt.hash password salt)

structure Credentialed (s : Db × Passwords) : Prop where
  known : AdminsKnown rt s
  unshadowed : s.1.Unshadowed

end Properties

section Login

variable {rt : Runtime} {db : Db} {id : Uuid} {user : User} {email password : String} {salt : ℕ}

theorem Runtime.emailNormalized_idem (text : String) :
    rt.emailNormalized (rt.emailNormalized text) = rt.emailNormalized text := by
  unfold Runtime.emailNormalized
  rw [rt.trim_lower, jsTrim_jsTrim, rt.lower_lower]

theorem Runtime.emailNormalized_typed {typed : String}
    (htyped : rt.toLowerCase typed = rt.toLowerCase email) :
    rt.emailNormalized typed = rt.emailNormalized email := by
  unfold Runtime.emailNormalized
  rw [← rt.trim_lower, ← rt.trim_lower, htyped]

theorem User.isAdministrator_iff :
    user.isAdministrator = true ↔ user.role = .superAdmin ∧ user.isActive = true := by
  simp [User.isAdministrator]

theorem Db.found_of_login {dto : AdminLoginDto} {choice : ℕ} {answer : AdminLogin}
    (h : db.login rt dto choice = .ok answer) (huser : db.users.get? answer.id = some user) :
    (db.activeWith (rt.emailNormalized dto.email))[
      choice % (db.activeWith (rt.emailNormalized dto.email)).length]? = some (answer.id, user) := by
  obtain ⟨⟨i, found⟩, hfound, h⟩ := Outcome.bind_eq_ok.mp h
  obtain ⟨_, -, h⟩ := Outcome.bind_eq_ok.mp h
  obtain ⟨_, -, h⟩ := Outcome.bind_eq_ok.mp h
  obtain rfl := Outcome.pure_eq_ok.mp h
  obtain ⟨hrow, -⟩ := Option.filter_eq_some_iff.mp (Outcome.required_eq_ok.mp hfound)
  obtain ⟨hget, -⟩ := Table.mem_filter_iff.mp (List.mem_of_getElem? hrow)
  have hsame : found = user := Option.some.inj (hget.symm.trans huser)
  rw [hrow, hsame]
  rfl

theorem Db.login_of_found {typed : String} {choice : ℕ}
    (hfound : (db.activeWith (rt.emailNormalized typed))[
      choice % (db.activeWith (rt.emailNormalized typed)).length]? = some (id, user))
    (hrole : user.role = .superAdmin) (hhash : user.passwordHash = some (rt.hash password salt)) :
    db.login rt ⟨typed, password⟩ choice = .ok (user.adminLogin id) := by
  refine Outcome.bind_eq_ok.mpr ⟨(id, user), Outcome.required_eq_ok.mpr ?_,
    Outcome.bind_eq_ok.mpr ⟨rt.hash password salt, Outcome.required_eq_ok.mpr ?_,
      Outcome.bind_eq_ok.mpr ⟨(), Outcome.reject_eq_ok.mpr ?_, rfl⟩⟩⟩
  · rw [hfound]
    simp [hrole]
  · simp [hhash, firstText, rt.hash_ne]
  · simp [rt.compare_hash]

theorem login_iff (huser : db.users.get? id = some user) (hadmin : user.isAdministrator = true)
    (hemail : user.email = some email) (hnormal : rt.emailNormalized email = email)
    (hhash : user.passwordHash = some (rt.hash password salt)) :
    (∀ typed, rt.toLowerCase typed = rt.toLowerCase email →
      ∀ choice, db.login rt ⟨typed, password⟩ choice = .ok (user.adminLogin id)) ↔
      ∀ j other, db.users.get? j = some other → other.isActive = true → other.email = user.email →
        j = id := by
  obtain ⟨hrole, hactive⟩ := User.isAdministrator_iff.mp hadmin
  constructor
  · intro h
    have hchoice : ∀ choice, (db.activeWith email)[choice % (db.activeWith email).length]? =
        some (id, user) := by
      intro choice
      have hfound := Db.found_of_login (h email rfl choice) huser
      rwa [show (⟨email, password⟩ : AdminLoginDto).email = email from rfl, hnormal] at hfound
    obtain ⟨-, -, honly⟩ := Table.forall_choice_iff.mp hchoice
    intro j other hother hactive' hsame
    apply honly j other hother
    simp [hactive', hsame, hemail]
  · intro honly typed htyped choice
    refine Db.login_of_found ?_ hrole hhash
    rw [Runtime.emailNormalized_typed htyped, hnormal]
    refine Table.forall_choice_iff.mpr ⟨huser, by simp [hemail, hactive], ?_⟩ choice
    intro j other hother hp
    have hfits : other.email = some email ∧ other.isActive = true := by simpa using hp
    exact honly j other hother hfits.2 (hfits.1.trans hemail.symm)

theorem AdminsKnown.work_iff {s : Db × Passwords} (h : AdminsKnown rt s) :
    CredentialsWork rt s ↔ s.1.Unshadowed := by
  constructor
  · intro hwork id user huser hadmin
    obtain ⟨-, email, password, salt, hemail, hnormal, hlog, hhash⟩ :=
      h id user huser (User.isAdministrator_iff.mp hadmin).1
    obtain ⟨email', password', hemail', hlog', hlogin⟩ := hwork id user huser hadmin
    obtain rfl := Option.some.inj (hemail.symm.trans hemail')
    obtain rfl := Option.some.inj (hlog.symm.trans hlog')
    exact (login_iff huser hadmin hemail hnormal hhash).mp hlogin
  · intro hunshadowed id user huser hadmin
    obtain ⟨-, email, password, salt, hemail, hnormal, hlog, hhash⟩ :=
      h id user huser (User.isAdministrator_iff.mp hadmin).1
    exact ⟨email, password, hemail, hlog,
      (login_iff huser hadmin hemail hnormal hhash).mpr (hunshadowed id user huser hadmin)⟩

end Login

section Writes

variable {rt : Runtime} {db db' : Db} {id : Uuid} {user : User} {passwords : Passwords}

def Puts (users users' : Table User) (id : Uuid) (user : User) : Prop :=
  ∀ i, users'.get? i = if i = id then some user else users.get? i

theorem puts_insert (users : Table User) (user : User) :
    Puts users (users.insert user) users.next user :=
  users.get?_insert user

theorem puts_modify {users : Table User} (h : users.get? id = some user) (f : User → User) :
    Puts users (users.modify id f) id (f user) := by
  intro i
  by_cases hi : i = id
  · rw [hi, if_pos rfl, Table.get?_modify_self h]
  · rw [if_neg hi, Table.get?_modify_ne users hi]

theorem Puts.self {users users' : Table User} (h : Puts users users' id user) :
    users'.get? id = some user := by
  rw [h id, if_pos rfl]

theorem Puts.of_ne {users users' : Table User} (h : Puts users users' id user) {i : Uuid}
    (hi : i ≠ id) : users'.get? i = users.get? i := by
  rw [h i, if_neg hi]

theorem Puts.unshadowed_iff (h : Puts db.users db'.users id user) (hs : db.Unshadowed) :
    db'.Unshadowed ↔ ¬ db.Shadows id user := by
  constructor
  · rintro hs' ⟨hactive, j, other, hj, hother, hactive', hsame, hrole⟩
    have hother' : db'.users.get? j = some other := (h.of_ne hj).trans hother
    rcases hrole with hrole | hrole
    · have hadmin : user.isAdministrator = true := User.isAdministrator_iff.mpr ⟨hrole, hactive⟩
      exact hj (hs' id user h.self hadmin j other hother' hactive' hsame)
    · have hadmin : other.isAdministrator = true := User.isAdministrator_iff.mpr ⟨hrole, hactive'⟩
      exact hj (hs' j other hother' hadmin id user h.self hactive hsame.symm).symm
  · intro hnone i admin hi hadmin j other hj hactive hsame
    by_contra hne
    obtain ⟨hrole, hactive'⟩ := User.isAdministrator_iff.mp hadmin
    by_cases hid : i = id
    · subst hid
      obtain rfl := Option.some.inj (h.self.symm.trans hi)
      rw [h.of_ne hne] at hj
      exact hnone ⟨hactive', j, other, hne, hj, hactive, hsame, .inl hrole⟩
    · rw [h.of_ne hid] at hi
      by_cases hjd : j = id
      · subst hjd
        obtain rfl := Option.some.inj (h.self.symm.trans hj)
        exact hnone ⟨hactive, i, admin, hid, hi, hactive', hsame.symm, .inr hrole⟩
      · rw [h.of_ne hjd] at hj
        exact hne (hs i admin hi hadmin j other hj hactive hsame)

theorem Puts.known (h : Puts db.users db'.users id user) (hs : AdminsKnown rt (db, passwords))
    (hkept : user.role = .superAdmin → ∃ old, db.users.get? id = some old ∧
      old.role = .superAdmin ∧ old.tenantId = user.tenantId ∧ old.email = user.email ∧
        old.passwordHash = user.passwordHash) : AdminsKnown rt (db', passwords) := by
  intro i admin hi hrole
  by_cases hid : i = id
  · subst hid
    obtain rfl := Option.some.inj (h.self.symm.trans hi)
    obtain ⟨old, hold, hrole', htenant, hemail, hhash⟩ := hkept hrole
    rw [← htenant, ← hemail, ← hhash]
    exact hs i old hold hrole'
  · exact hs i admin ((h.of_ne hid).symm.trans hi) hrole

end Writes

section Calls

variable {rt : Runtime} {db db' : Db} {passwords : Passwords} {tenantId id : Uuid} {user : User}
  {env : AccountEnv}

theorem Db.createSuperAdmin_eq_ok {dto : CreateSuperAdminDto} {salt : ℕ} {now : Instant}
    (h : db.createSuperAdmin rt dto salt now = .ok db') :
    (∀ i other, db.users.get? i = some other → other.email ≠ some (rt.emailNormalized dto.email)) ∧
      ∃ user, dto.user rt salt now = .ok user ∧ db'.users = db.users.insert user := by
  obtain ⟨_, hemail, h⟩ := Outcome.bind_eq_ok.mp h
  obtain ⟨_, -, h⟩ := Outcome.bind_eq_ok.mp h
  refine ⟨fun i other hother => ?_, Db.createAdmin_users h⟩
  have hnone : (db.users.find? fun u => u.email = some (rt.emailNormalized dto.email)) = none := by
    simpa [Db.emailCheck] using hemail
  exact of_decide_eq_false (Table.find?_none hnone hother)

theorem Credentialed.createSuperAdmin (h : Credentialed rt (db, passwords))
    {dto : CreateSuperAdminDto} {salt : ℕ} {now : Instant}
    (hok : db.createSuperAdmin rt dto salt now = .ok db') :
    Credentialed rt (db', Function.update passwords db.users.next (some dto.password)) := by
  obtain ⟨hfree, user, huser, husers⟩ := Db.createSuperAdmin_eq_ok hok
  obtain ⟨surname, -, huser⟩ := Outcome.bind_eq_ok.mp huser
  obtain rfl := Outcome.pure_eq_ok.mp huser
  have hputs := husers ▸ puts_insert db.users _
  constructor
  · intro i admin hi hrole
    by_cases hid : i = db.users.next
    · subst hid
      obtain rfl := Option.some.inj (hputs.self.symm.trans hi)
      exact ⟨rfl, _, dto.password, salt, rfl, Runtime.emailNormalized_idem dto.email,
        Function.update_self .., rfl⟩
    · obtain ⟨htenant, email, password, salt', hemail, hnormal, hlog, hhash⟩ :=
        h.known i admin ((hputs.of_ne hid).symm.trans hi) hrole
      exact ⟨htenant, email, password, salt', hemail, hnormal,
        (Function.update_of_ne hid ..).trans hlog, hhash⟩
  · refine (hputs.unshadowed_iff h.unshadowed).mpr ?_
    rintro ⟨-, j, other, -, hother, -, hsame, -⟩
    exact hfree j other hother hsame

theorem Credentialed.insertUnnamed (h : Credentialed rt (db, passwords))
    (hputs : Puts db.users db'.users id user) (hrole : user.role ≠ .superAdmin)
    (hemail : user.email = none) : Credentialed rt (db', passwords) := by
  refine ⟨hputs.known h.known fun hadmin => absurd hadmin hrole,
    (hputs.unshadowed_iff h.unshadowed).mpr ?_⟩
  rintro ⟨-, j, other, -, hother, -, hsame, hadmin⟩
  obtain ⟨-, email, _, _, hnamed, -⟩ := h.known j other hother (hadmin.resolve_left hrole)
  rw [hsame, hemail] at hnamed
  cases hnamed

theorem Credentialed.completeOnboarding (h : Credentialed rt (db, passwords)) {now : Instant}
    {dto : CompleteOnboardingDto} {others : Outcome Unit}
    (hok : db.completeOnboarding tenantId now dto others = .ok db') :
    Credentialed rt (db', passwords) := by
  refine Db.completeOnboarding_rel
    (R := fun s s' => Credentialed rt (s, passwords) → Credentialed rt (s', passwords))
    (fun _ => id) (fun h₁ h₂ => h₂ ∘ h₁) (fun hmember hs => ?_) (fun s f hs => ⟨hs.known, hs.unshadowed⟩)
    hok h
  obtain rfl | ⟨user, huser, hcreate⟩ := createOnboarded_eq_ok hmember
  · exact hs
  · obtain ⟨-, hrole, hemail⟩ := onboardingUser_eq_some huser
    obtain ⟨-, rfl⟩ := Db.createMechanic_eq_ok.mp hcreate
    exact hs.insertUnnamed (puts_insert _ user) (by rw [hrole]; decide) hemail

theorem Db.updateStatus_eq_ok {isActive : Bool} {currentAdminId : Uuid} {now : Instant}
    (h : db.updateStatus id isActive currentAdminId now = .ok db') :
    ∃ old, db.users.get? id = some old ∧ old.role = .superAdmin ∧
      db'.users = db.users.modify id fun u => { u with isActive, updatedAt := now } := by
  obtain ⟨_, hstatus, h⟩ := Outcome.bind_eq_ok.mp h
  obtain ⟨_, -, h⟩ := Outcome.bind_eq_ok.mp h
  obtain ⟨old, hold, -⟩ := Outcome.bind_eq_ok.mp hstatus
  obtain ⟨hget, hrole⟩ := Option.filter_eq_some_iff.mp (Outcome.required_eq_ok.mp hold)
  obtain ⟨-, rfl⟩ := Db.setActive_eq_ok.mp h
  exact ⟨old, hget, of_decide_eq_true hrole, rfl⟩

theorem checkCreateRole_ne {currentUserRole role : UserRole} {u : Unit}
    (h : checkCreateRole currentUserRole role = .ok u) : role ≠ .superAdmin := by
  obtain ⟨_, hrole, -⟩ := Outcome.bind_eq_ok.mp h
  simpa using hrole

theorem checkUpdateRole_ne {currentUserRole previousRole : UserRole} {role : Option UserRole}
    {u : Unit} (h : checkUpdateRole currentUserRole role previousRole = .ok u) :
    role ≠ some .superAdmin := by
  obtain ⟨_, hrole, -⟩ := Outcome.bind_eq_ok.mp h
  simpa using hrole

theorem Db.create_eq_ok {role : UserRole} {dto : CreateStaffDto} {env : Env}
    (h : db.create tenantId role dto env = .ok db') :
    dto.role ≠ .superAdmin ∧
      ∃ user, dto.user tenantId env.now = .ok user ∧ db'.users = db.users.insert user := by
  obtain ⟨_, -, h⟩ := Outcome.bind_eq_ok.mp h
  obtain ⟨_, hrole, h⟩ := Outcome.bind_eq_ok.mp h
  obtain ⟨_, -, h⟩ := Outcome.bind_eq_ok.mp h
  exact ⟨checkCreateRole_ne hrole, Db.createStaff_users h⟩

theorem Db.update_eq_ok {role : UserRole} {dto : UpdateStaffDto} {env : Env}
    (h : db.update tenantId id role dto env = .ok db') :
    dto.role ≠ some .superAdmin ∧ ∃ data old, db.updateChecks tenantId id dto = .ok (data, old) ∧
      db'.users = db.users.modify id (data.apply env.now) := by
  obtain ⟨_, -, h⟩ := Outcome.bind_eq_ok.mp h
  obtain ⟨_, -, h⟩ := Outcome.bind_eq_ok.mp h
  obtain ⟨_, hrole, h⟩ := Outcome.bind_eq_ok.mp h
  obtain ⟨_, -, h⟩ := Outcome.bind_eq_ok.mp h
  obtain ⟨data, old, hchecks, hprofile⟩ := Db.updateStaff_eq_ok h
  exact ⟨checkUpdateRole_ne hrole, data, old, hchecks, Db.updateProfile_users hprofile⟩

theorem UpdateStaffDto.updated_role (hs : AdminsKnown rt (db, passwords)) {dto : UpdateStaffDto}
    {data : UpdateData} {old : User} {now : Instant} (hrole : dto.role ≠ some .superAdmin)
    (hchecks : db.updateChecks tenantId id dto = .ok (data, old)) :
    (data.apply now old).role ≠ .superAdmin := by
  obtain ⟨hdata, hold, -⟩ := Db.updateChecks_eq_ok hchecks
  obtain ⟨hget, htenant⟩ := Db.user?_eq_some.mp hold
  have hmember : old.role ≠ .superAdmin := by
    intro hadmin
    rw [(hs id old hget hadmin).1] at htenant
    cases htenant
  have hgiven : (data.apply now old).role = dto.role.getD old.role := by
    rw [← UpdateStaffDto.updateData_role hdata]
    rfl
  rw [hgiven]
  cases hdto : dto.role with
  | none => exact hmember
  | some role => exact fun hadmin => hrole (hdto.trans (congrArg some hadmin))

theorem AccountCall.exec_puts (hs : AdminsKnown rt (db, passwords)) {call : AccountCall}
    (hok : call.exec rt db env = .ok db') (hwritten : call.written rt db env = some (id, user)) :
    Puts db.users db'.users id user ∧ (user.role = .superAdmin → ∃ old,
      db.users.get? id = some old ∧ old.role = .superAdmin ∧ old.tenantId = user.tenantId ∧
        old.email = user.email ∧ old.passwordHash = user.passwordHash) := by
  cases call with
  | createSuperAdmin dto => cases hwritten
  | completeOnboarding tenantId dto => cases hwritten
  | updateStatus target isActive currentAdminId =>
    obtain ⟨old, hold, hrole, husers⟩ := Db.updateStatus_eq_ok hok
    simp only [AccountCall.written, hold] at hwritten
    cases hwritten
    exact ⟨husers ▸ puts_modify hold _, fun _ => ⟨old, hold, hrole, rfl, rfl, rfl⟩⟩
  | registerTenant dto =>
    cases hwritten
    obtain rfl := Db.registerTenant_eq_ok hok
    exact ⟨puts_insert _ _, nofun⟩
  | createTenant dto =>
    cases hwritten
    obtain ⟨tenant, rfl⟩ := Db.createTenant_eq_ok hok
    exact ⟨puts_insert _ _, nofun⟩
  | createStaff tenantId role dto =>
    obtain ⟨hrole, created, hcreated, husers⟩ := Db.create_eq_ok hok
    simp only [AccountCall.written, hcreated] at hwritten
    cases hwritten
    refine ⟨husers ▸ puts_insert _ _, fun hadmin => absurd ?_ hrole⟩
    exact (CreateStaffDto.user_role hcreated).1.symm.trans hadmin
  | updateStaff tenantId target role dto =>
    obtain ⟨hrole, data, old, hchecks, husers⟩ := Db.update_eq_ok hok
    simp only [AccountCall.written, hchecks] at hwritten
    cases hwritten
    have hget := (Db.user?_eq_some.mp (Db.updateChecks_eq_ok hchecks).2.1).1
    exact ⟨husers ▸ puts_modify hget _,
      fun hadmin => absurd hadmin (UpdateStaffDto.updated_role hs hrole hchecks)⟩

end Calls

section Runs

variable {rt : Runtime} {db db' : Db} {passwords : Passwords} {l : AccountLabel}

theorem accountStep_error {e : ApiError} (h : l.1.exec rt db l.2 = .error e) :
    accountStep rt (db, passwords) l = (db, passwords) := by
  have hnote : notePassword rt db passwords l = passwords := by
    obtain ⟨call, env⟩ := l
    cases call with
    | createSuperAdmin dto =>
      simp only [notePassword, h]
      rfl
    | _ => rfl
  simp only [accountStep, observed, hnote, h, settle]

theorem accountStep_ok (h : l.1.exec rt db l.2 = .ok db') :
    accountStep rt (db, passwords) l = (db', notePassword rt db passwords l) := by
  simp only [accountStep, observed, h, settle]

theorem Credentialed.step (h : Credentialed rt (db, passwords)) (l : AccountLabel) :
    AdminsKnown rt (accountStep rt (db, passwords) l) ∧
      ((accountStep rt (db, passwords) l).1.Unshadowed ↔ ShadowsNobody rt db l) := by
  cases hok : l.1.exec rt db l.2 with
  | error e =>
    rw [accountStep_error hok]
    refine ⟨h.known, fun _ id user _ hisOk => ?_, fun _ => h.unshadowed⟩
    rw [hok] at hisOk
    cases hisOk
  | ok db' =>
    rw [accountStep_ok hok]
    cases hwritten : l.1.written rt db l.2 with
    | some w =>
      obtain ⟨id, user⟩ := w
      obtain ⟨hputs, hkept⟩ := AccountCall.exec_puts h.known hok hwritten
      have hnote : notePassword rt db passwords l = passwords := by
        obtain ⟨call, env⟩ := l
        cases call with
        | createSuperAdmin dto => cases hwritten
        | _ => rfl
      rw [hnote]
      refine ⟨hputs.known h.known hkept, (hputs.unshadowed_iff h.unshadowed).trans ?_⟩
      constructor
      · intro hnone i u hiu _
        obtain ⟨rfl, rfl⟩ := Prod.mk.inj (Option.some.inj (hwritten.symm.trans hiu))
        exact hnone
      · intro hnone
        exact hnone id user hwritten (by rw [hok]; rfl)
    | none =>
      have hnone : ShadowsNobody rt db l := by
        intro id user hsome
        rw [hwritten] at hsome
        cases hsome
      have hkept : Credentialed rt (db', notePassword rt db passwords l) := by
        obtain ⟨call, env⟩ := l
        cases call with
        | createSuperAdmin dto =>
          simp only [notePassword, hok]
          exact h.createSuperAdmin hok
        | completeOnboarding tenantId dto => exact h.completeOnboarding hok
        | updateStatus id isActive currentAdminId =>
          obtain ⟨old, hold, -⟩ := Db.updateStatus_eq_ok hok
          simp only [AccountCall.written, hold] at hwritten
          cases hwritten
        | registerTenant dto => cases hwritten
        | createTenant dto => cases hwritten
        | createStaff tenantId role dto =>
          obtain ⟨-, created, hcreated, -⟩ := Db.create_eq_ok hok
          simp only [AccountCall.written, hcreated] at hwritten
          cases hwritten
        | updateStaff tenantId id role dto =>
          obtain ⟨-, data, old, hchecks, -⟩ := Db.update_eq_ok hok
          simp only [AccountCall.written, hchecks] at hwritten
          cases hwritten
      exact ⟨hkept.known, fun _ => hnone, fun _ => hkept.unshadowed⟩

/-- The credentials of the administrators keep working precisely in the runs in which no account
that a call writes shares its address with another active one, either of them an
administrator's. -/
theorem credentials_work_iff (rt : Runtime) {s : Db × Passwords} (h : Credentialed rt s)
    (labels : List AccountLabel) :
    Always (accountStep rt) (CredentialsWork rt) s labels ↔
      EachStep (accountStep rt) (fun s l => ShadowsNobody rt s.1 l) s labels := by
  have good : ∀ s, Credentialed rt s → CredentialsWork rt s :=
    fun _ hs => hs.known.work_iff.mpr hs.unshadowed
  have keep : ∀ s l, Credentialed rt s → ShadowsNobody rt s.1 l →
      Credentialed rt (accountStep rt s l) :=
    fun _ l hs hl => ⟨(hs.step l).1, (hs.step l).2.mpr hl⟩
  have bad : ∀ s l, Credentialed rt s → ¬ ShadowsNobody rt s.1 l →
      ¬ CredentialsWork rt (accountStep rt s l) :=
    fun _ l hs hl hwork => hl ((hs.step l).2.mp ((hs.step l).1.work_iff.mp hwork))
  exact always_iff_eachStep good keep bad h labels

end Runs

section Example

def unattended : Db × Passwords := (staffed [], fun _ => none)

def accountsAt (now : Instant) : AccountEnv := ⟨⟨0, now⟩, 0, .ok ()⟩

def platformAdmin : CreateSuperAdminDto where
  email := "Admin@worksauto.com"
  password := "GucluSifre2026!*"
  name := "Ahmet"
  surname := some "Usta"
  phone := "+905320000001"

def newCashier (email : String) : CreateStaffDto where
  name := "Ahmet"
  surname := "Usta"
  phone := "05553334455"
  email := some email
  role := .cashier
  specialty := none
  assignedLift := none
  dailyCapacityHours := none
  annualLeaveDays := none
  transferredLeaveDays := none

theorem credentialed_unattended : Credentialed asciiRuntime unattended := by
  have hnone : ∀ i, unattended.1.users.get? i = none := fun _ => rfl
  constructor
  · intro i admin hi
    rw [hnone i] at hi
    cases hi
  · intro i admin hi
    rw [hnone i] at hi
    cases hi

/-- The e-mail address of an employee is his own. -/
theorem credentials_work_beside_staff :
    Always (accountStep asciiRuntime) (CredentialsWork asciiRuntime) unattended
      [(.createSuperAdmin platformAdmin, accountsAt 1),
        (.createStaff 0 .owner (newCashier "ahmet.usta@bayaroto.com"), accountsAt 2)] := by
  refine (credentials_work_iff asciiRuntime credentialed_unattended _).mpr ?_
  rw [eachStep_cons, eachStep_cons]
  refine ⟨(fun _ _ hnone => nomatch hnone), ?_, eachStep_nil _⟩
  rintro id user hwritten - ⟨-, j, other, -, hother, -, hsame, -⟩
  have hfree : ∀ j other,
      (accountStep asciiRuntime unattended (.createSuperAdmin platformAdmin, accountsAt 1)).1.users.get? j =
        some other → other.email ≠ some "ahmet.usta@bayaroto.com" := by
    decide +kernel
  cases hwritten
  exact hfree j other hother hsame

/-- An employee is entered with the e-mail address of the administrator. -/
theorem locked_out_by_staff :
    ¬ ∀ rt s labels, Credentialed rt s → Always (accountStep rt) (CredentialsWork rt) s labels := by
  intro h
  have hrun := (h asciiRuntime unattended
    [(.createSuperAdmin platformAdmin, accountsAt 1),
      (.createStaff 0 .owner (newCashier "admin@worksauto.com"), accountsAt 2)]
    credentialed_unattended).last
  obtain ⟨email, password, hemail, hpassword, hlogin⟩ := hrun 0 _ rfl (by decide +kernel)
  cases hemail
  cases hpassword
  have hwrong := hlogin "admin@worksauto.com" (by decide +kernel) 1
  revert hwrong
  decide +kernel

end Example

end WorksAuto.Platform
