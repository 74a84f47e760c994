import WorksAuto.Accounts.Slugs
import WorksAuto.Lib.Pool
import WorksAuto.Platform.Rows

/-! The accounts of the administrators of the platform.
A call first passes the check of its access token, which looks at the caller's account as it is
then. The searches, the counts and the write of a call are steps of their own. -/

namespace WorksAuto.Platform

open Lib Accounts

/-- What the runtime and the password library provide: lower case by the tables of Unicode,
which neither makes nor takes away outer blanks, and salted hashes with their comparison. -/
structure Runtime where
  toLowerCase : String → String
  lower_lower : ∀ text, toLowerCase (toLowerCase text) = toLowerCase text
  trim_lower : ∀ text, jsTrim (toLowerCase text) = toLowerCase (jsTrim text)
  hash : String → ℕ → String
  compare : String → String → Bool
  hash_ne : ∀ password salt, hash password salt ≠ ""
  compare_hash : ∀ password salt, compare password (hash password salt) = true

/-- `email.trim().toLowerCase()`. -/
def Runtime.emailNormalized (rt : Runtime) (email : String) : String := rt.toLowerCase (jsTrim email)

structure CreateSuperAdminDto where
  email : String
  password : String
  name : String
  surname : Option String
  phone : String
  deriving DecidableEq, Repr

def AdminUsersService.normalizePhone (phone : String) : String :=
  let digits := digitsOf phone
  if digits.length = 10 ∧ ['5'].isPrefixOf digits then String.ofList (['+', '9', '0'] ++ digits)
  else if digits.length = 11 ∧ ['0', '5'].isPrefixOf digits then String.ofList (['+', '9'] ++ digits)
  else if digits.length = 12 ∧ ['9', '0', '5'].isPrefixOf digits then String.ofList ('+' :: digits)
  else if ['+'].isPrefixOf phone.toList then phone else "+" ++ phone

def User.isAdministrator (user : User) : Bool := user.role = .superAdmin && user.isActive

section Create

variable (rt : Runtime)

/-- The column `surname` takes no null. -/
def CreateSuperAdminDto.user (dto : CreateSuperAdminDto) (salt : ℕ) (now : Instant) :
    Outcome User := do
  let surname ← Outcome.required (firstText [dto.surname.map jsTrim])
    (.plain "Argument must not be null.")
  pure
    { tenantId := none
      name := jsTrim dto.name
      surname
      phone := AdminUsersService.normalizePhone dto.phone
      email := some (rt.emailNormalized dto.email)
      passwordHash := some (rt.hash dto.password salt)
      role := .superAdmin
      isActive := true
      annualLeaveDays := 14
      transferredLeaveDays := 0
      updatedAt := now }

def Db.emailCheck (db : Db) (dto : CreateSuperAdminDto) : Outcome Unit :=
  Outcome.reject (db.users.find? fun u => u.email = some (rt.emailNormalized dto.email)).isSome
    (.conflict "Bu e-posta adresiyle kayıtlı bir kullanıcı zaten mevcut.")

def Db.phoneCheck (db : Db) (dto : CreateSuperAdminDto) : Outcome Unit :=
  Outcome.reject
    (db.users.find? fun u => u.phone = AdminUsersService.normalizePhone dto.phone).isSome
    (.conflict "Bu telefon numarasıyla kayıtlı bir kullanıcı zaten mevcut.")

def Db.createAdmin (db : Db) (dto : CreateSuperAdminDto) (salt : ℕ) (now : Instant) :
    Outcome Db := do
  let user ← dto.user rt salt now
  Outcome.reject (db.phoneTaken user.phone none) uniqueViolation
  pure { db with users := db.users.insert user }

end Create

section Status

variable (db : Db) (id : Uuid)

def Db.findAdmin : Outcome User :=
  Outcome.required ((db.users.get? id).filter fun u => u.role = .superAdmin)
    (.notFound "Yönetici bulunamadı.")

def Db.statusCheck (isActive : Bool) (currentAdminId : Uuid) : Outcome Unit := do
  let _ ← db.findAdmin id
  Outcome.reject (id = currentAdminId && !isActive)
    (.badRequest "Kendi hesabınızı askıya alamazsınız.")

def Db.activeCheck : Outcome Unit :=
  let activeCount := (db.users.filter User.isAdministrator).length
  Outcome.reject (activeCount ≤ 1)
    (.badRequest "Sistemdeki son aktif Super Admin hesabı askıya alınamaz.")

def Db.setActive (isActive : Bool) (now : Instant) : Outcome Db := do
  let _ ← Outcome.required (db.users.get? id) notFoundRow
  pure { db with users := db.users.modify id fun u => { u with isActive, updatedAt := now } }

def Db.removeCheck (currentAdminId : Uuid) : Outcome Unit := do
  let _ ← db.findAdmin id
  Outcome.reject (id = currentAdminId) (.badRequest "Kendi yönetici hesabınızı silemezsiniz.")

def Db.totalCheck : Outcome Unit :=
  let totalCount := (db.users.filter fun u => u.role = .superAdmin).length
  Outcome.reject (totalCount ≤ 1) (.badRequest "Sistemdeki son Super Admin hesabı silinemez.")

end Status

section Calls

structure AdminEnv where
  salt : ℕ
  now : Instant

inductive AdminCall where
  | create (dto : CreateSuperAdminDto)
  | updateStatus (id : Uuid) (isActive : Bool)
  | remove (id : Uuid)
  deriving DecidableEq, Repr

inductive AdminStep where
  | validateAccess (call : AdminCall)
  | findEmail (dto : CreateSuperAdminDto)
  | findPhone (dto : CreateSuperAdminDto)
  | createUser (dto : CreateSuperAdminDto)
  | findTarget (id : Uuid) (isActive : Bool)
  | countActive (id : Uuid)
  | writeStatus (id : Uuid) (isActive : Bool)
  | findRemoved (id : Uuid)
  | countAll (id : Uuid)
  | deleteUser (id : Uuid)
  | finished (answer : Outcome Unit)

structure AdminTask where
  currentAdminId : Uuid
  step : AdminStep

namespace AdminStep

def after (check : Outcome Unit) (next : AdminStep) : AdminStep :=
  match check with
  | .error e => .finished (.error e)
  | .ok _ => next

def stored (db : Db) (result : Outcome Db) : Db × AdminStep :=
  match result with
  | .error e => (db, .finished (.error e))
  | .ok db' => (db', .finished (.ok ()))

def begin : AdminCall → AdminStep
  | .create dto => .findEmail dto
  | .updateStatus id isActive => .findTarget id isActive
  | .remove id => .findRemoved id

/-- `validateAccessIdentity`, for a token that was given to an administrator. -/
def accessCheck (db : Db) (currentAdminId : Uuid) : Outcome Unit :=
  Outcome.reject (!(db.users.get? currentAdminId).any User.isAdministrator)
    (.unauthorized "This account or its permissions are no longer active.")

def exec (rt : Runtime) (db : Db) (currentAdminId : Uuid) (step : AdminStep) (env : AdminEnv) :
    Db × AdminStep :=
  match step with
  | .validateAccess call => (db, after (accessCheck db currentAdminId) (begin call))
  | .findEmail dto => (db, after (db.emailCheck rt dto) (.findPhone dto))
  | .findPhone dto => (db, after (db.phoneCheck dto) (.createUser dto))
  | .createUser dto => stored db (db.createAdmin rt dto env.salt env.now)
  | .findTarget id isActive =>
    (db, after (db.statusCheck id isActive currentAdminId)
      (if isActive then .writeStatus id true else .countActive id))
  | .countActive id => (db, after db.activeCheck (.writeStatus id false))
  | .writeStatus id isActive => stored db (db.setActive id isActive env.now)
  | .findRemoved id => (db, after (db.removeCheck id currentAdminId) (.countAll id))
  | .countAll id => (db, after db.totalCheck (.deleteUser id))
  | .deleteUser id => stored db (db.deleteUser id fun _ => true)
  | .finished answer => (db, .finished answer)

end AdminStep

def AdminTask.exec (rt : Runtime) (db : Db) (t : AdminTask) (env : AdminEnv) : Db × AdminTask :=
  let (db', step) := t.step.exec rt db t.currentAdminId env
  (db', { t with step := step })

def AdminTask.enter (request : Uuid × AdminCall) : AdminTask := ⟨request.1, .validateAccess request.2⟩

abbrev AdminPool := Pool Db AdminTask

def AdminPool.act (rt : Runtime) : AdminPool → PoolAction (Uuid × AdminCall) AdminEnv → AdminPool :=
  Pool.act AdminTask.enter (AdminTask.exec rt)

end Calls

section Effects

variable {rt : Runtime} {db db' : Db} {id : Uuid} {now : Instant}

theorem AdminStep.after_cases (check : Outcome Unit) (next : AdminStep) :
    (∃ e, after check next = .finished (.error e)) ∨ check = .ok () ∧ after check next = next := by
  cases check with
  | error e => exact .inl ⟨e, rfl⟩
  | ok u => exact .inr ⟨rfl, rfl⟩

theorem AdminStep.stored_cases (db : Db) (result : Outcome Db) :
    (∃ e, result = .error e ∧ stored db result = (db, .finished (.error e))) ∨
      ∃ db', result = .ok db' ∧ stored db result = (db', .finished (.ok ())) := by
  cases result with
  | error e => exact .inl ⟨e, rfl, rfl⟩
  | ok db' => exact .inr ⟨db', rfl, rfl⟩

theorem Db.setActive_eq_ok {isActive : Bool} :
    db.setActive id isActive now = .ok db' ↔ (db.users.get? id).isSome ∧
      { db with users := db.users.modify id fun u => { u with isActive, updatedAt := now } } = db' := by
  unfold Db.setActive
  rw [Outcome.bind_eq_ok]
  simp [Option.isSome_iff_exists]

theorem Db.createAdmin_users {dto : CreateSuperAdminDto} {salt : ℕ}
    (h : db.createAdmin rt dto salt now = .ok db') :
    ∃ user, dto.user rt salt now = .ok user ∧ db'.users = db.users.insert user := by
  obtain ⟨user, huser, h⟩ := Outcome.bind_eq_ok.mp h
  obtain ⟨_, -, h⟩ := Outcome.bind_eq_ok.mp h
  obtain rfl := Outcome.pure_eq_ok.mp h
  exact ⟨user, huser, rfl⟩

theorem accessCheck_eq_ok {currentAdminId : Uuid} {u : Unit} :
    AdminStep.accessCheck db currentAdminId = .ok u ↔
      ∃ user, db.users.get? currentAdminId = some user ∧ user.isAdministrator = true := by
  simp [AdminStep.accessCheck, Option.any_eq_true]

end Effects

section Example

theorem toLower_of_not_upper {c : Char} (h : c.isUpper = false) : c.toLower = c := by
  unfold Char.toLower
  rw [dif_neg]
  exact of_decide_eq_false h

theorem toLower_spec (c : Char) :
    c.toLower.toLower = c.toLower ∧ isJsSpace c.toLower = isJsSpace c := by
  cases h : c.isUpper with
  | false =>
    rw [toLower_of_not_upper h, toLower_of_not_upper h]
    exact ⟨rfl, rfl⟩
  | true =>
    have hsmall : ∀ n < 128, (Char.ofNat n).toLower.toLower = (Char.ofNat n).toLower ∧
        isJsSpace (Char.ofNat n).toLower = isJsSpace (Char.ofNat n) := by decide +kernel
    have halnum : ((c.isUpper || c.isLower) || c.isDigit) = true := by rw [h]; rfl
    have hc := hsmall c.toNat (toNat_lt_of_isAlphanum halnum)
    rwa [Char.ofNat_toNat] at hc

theorem jsTrim_map {f : Char → Char} (h : ∀ c, isJsSpace (f c) = isJsSpace c) (text : String) :
    jsTrim (String.ofList (text.toList.map f)) = String.ofList ((jsTrim text).toList.map f) := by
  have hp : isJsSpace ∘ f = isJsSpace := funext h
  simp only [jsTrim, String.toList_ofList, List.dropWhile_map, hp, ← List.map_reverse]

/-- A runtime for texts in ASCII, with hashes that are easy to read. -/
def asciiRuntime : Runtime where
  toLowerCase text := String.ofList (text.toList.map Char.toLower)
  lower_lower text := by simp [Function.comp_def, (toLower_spec _).1]
  trim_lower := jsTrim_map fun c => (toLower_spec c).2
  hash password _ := "hash of " ++ password
  compare password stored := stored = "hash of " ++ password
  hash_ne password _ h := by simpa using congrArg String.length h
  compare_hash password _ := decide_eq_true rfl

end Example

end WorksAuto.Platform
