import WorksAuto.Lib.Pool
import WorksAuto.Lib.Run
import WorksAuto.Platform.Rows

/-! The staff of a tenant.
Each query of a call is a step of its own, and the transaction at its end one more. The rules on
roles look at the request and at the account as it was when the call read it. -/

namespace WorksAuto.Platform

open Lib Accounts

structure CreateStaffDto where
  name : String
  surname : String
  phone : String
  email : Option String
  role : UserRole
  specialty : Option String
  assignedLift : Option String
  dailyCapacityHours : Option ℚ
  annualLeaveDays : Option ℚ
  transferredLeaveDays : Option ℚ

structure UpdateStaffDto where
  name : Option String
  surname : Option String
  phone : Option String
  email : Field String
  role : Option UserRole
  specialty : Field String
  assignedLift : Field String
  dailyCapacityHours : Field ℚ
  isActive : Field Bool
  annualLeaveDays : Field ℚ
  transferredLeaveDays : Field ℚ

section Columns

def notNull {α : Type} (field : Field α) : Outcome (Option α) :=
  match field with
  | some none => .error (.plain "Argument must not be null.")
  | some (some value) => .ok (some value)
  | none => .ok none

def intField (field : Option ℚ) : Outcome (Option ℤ) :=
  match field with
  | some value => (Tenants.intColumn value).map some
  | none => .ok none

/-- `value || otherwise`. -/
def orElseInt (value : Option ℤ) (otherwise : ℤ) : ℤ :=
  match value with
  | some n => if n = 0 then otherwise else n
  | none => otherwise

structure NewProfile where
  specialty : String
  assignedLift : Option String
  dailyCapacityHours : ℤ
  deriving DecidableEq, Repr

def NewProfile.mechanic (p : NewProfile) (tenantId userId : Uuid) : Mechanic where
  tenantId
  userId
  specialty := p.specialty
  assignedLift := p.assignedLift
  dailyCapacityHours := p.dailyCapacityHours

def CreateStaffDto.profile (dto : CreateStaffDto) : Outcome NewProfile := do
  let dailyCapacityHours ← intField dto.dailyCapacityHours
  pure
    { specialty := (firstText [dto.specialty]).getD "Genel Mekanik"
      assignedLift := firstText [dto.assignedLift]
      dailyCapacityHours := orElseInt dailyCapacityHours 8 }

def CreateStaffDto.user (dto : CreateStaffDto) (tenantId : Uuid) (now : Instant) :
    Outcome User := do
  let annualLeaveDays ← intField dto.annualLeaveDays
  let transferredLeaveDays ← intField dto.transferredLeaveDays
  pure
    { tenantId := some tenantId
      name := dto.name
      surname := dto.surname
      phone := StaffService.normalizePhone dto.phone
      email := firstText [dto.email]
      passwordHash := none
      role := dto.role
      isActive := true
      annualLeaveDays := annualLeaveDays.getD 14
      transferredLeaveDays := transferredLeaveDays.getD 0
      updatedAt := now }

structure UpdateData where
  name : Option String
  surname : Option String
  phone : Option String
  email : Field String
  role : Option UserRole
  isActive : Option Bool
  annualLeaveDays : Option ℤ
  transferredLeaveDays : Option ℤ
  deriving DecidableEq, Repr

def UpdateStaffDto.normalizedPhone (dto : UpdateStaffDto) : Option String :=
  (firstText [dto.phone]).map StaffService.normalizePhone

def UpdateStaffDto.updateData (dto : UpdateStaffDto) : Outcome UpdateData := do
  let isActive ← notNull dto.isActive
  let annualLeaveDays ← (notNull dto.annualLeaveDays).bind intField
  let transferredLeaveDays ← (notNull dto.transferredLeaveDays).bind intField
  pure
    { name := firstText [dto.name]
      surname := firstText [dto.surname]
      phone := firstText [dto.normalizedPhone]
      email := dto.email
      role := dto.role
      isActive
      annualLeaveDays
      transferredLeaveDays }

def UpdateData.isEmpty (d : UpdateData) : Bool :=
  d = ⟨none, none, none, none, none, none, none, none⟩

def UpdateData.apply (d : UpdateData) (now : Instant) (user : User) : User :=
  { user with
    name := d.name.getD user.name
    surname := d.surname.getD user.surname
    phone := d.phone.getD user.phone
    email := d.email.getD user.email
    role := d.role.getD user.role
    isActive := d.isActive.getD user.isActive
    annualLeaveDays := d.annualLeaveDays.getD user.annualLeaveDays
    transferredLeaveDays := d.transferredLeaveDays.getD user.transferredLeaveDays
    updatedAt := if d.isEmpty then user.updatedAt else now }

def UpdateStaffDto.profileOf (dto : UpdateStaffDto) (m : Mechanic) : Outcome Mechanic := do
  let specialty ← notNull dto.specialty
  let dailyCapacityHours ← (notNull dto.dailyCapacityHours).bind intField
  pure { m with
    specialty := specialty.getD m.specialty
    assignedLift := dto.assignedLift.getD m.assignedLift
    dailyCapacityHours := dailyCapacityHours.getD m.dailyCapacityHours }

def UpdateStaffDto.newProfile (dto : UpdateStaffDto) : Outcome NewProfile := do
  let dailyCapacityHours ← intField (dto.dailyCapacityHours.getD none)
  pure
    { specialty := (firstText [dto.specialty.getD none]).getD "Genel Mekanik"
      assignedLift := firstText [dto.assignedLift.getD none]
      dailyCapacityHours := orElseInt dailyCapacityHours 8 }

end Columns

section Transactions

variable (db : Db)

def Db.staffWith (tenantId : Uuid) (normalizedPhone : String) : List (Uuid × User) :=
  db.users.filter fun u =>
    u.tenantId = some tenantId && u.phone ∈ [normalizedPhone, "+" ++ normalizedPhone]

def Db.createStaffCheck (tenantId : Uuid) (dto : CreateStaffDto) : Outcome Unit :=
  Outcome.reject (!(db.staffWith tenantId (StaffService.normalizePhone dto.phone)).isEmpty)
    (.conflict "Bu telefon numarasıyla kayıtlı bir personel zaten var.")

/-- One profile a user: the unique index on `mechanics.user_id`. -/
def Db.createMechanic (tenantId userId : Uuid) (profile : NewProfile) : Outcome Db := do
  Outcome.reject (db.mechanics.find? fun m => m.userId = userId).isSome uniqueViolation
  pure { db with mechanics := db.mechanics.insert (profile.mechanic tenantId userId) }

def Db.createStaff (tenantId : Uuid) (dto : CreateStaffDto) (now : Instant) : Outcome Db := do
  let user ← dto.user tenantId now
  Outcome.reject (db.tenants.get? tenantId).isNone foreignKeyViolation
  Outcome.reject (db.phoneTaken user.phone none) uniqueViolation
  let stored := { db with users := db.users.insert user }
  if dto.role = .technician then
    let profile ← dto.profile
    stored.createMechanic tenantId db.users.next profile
  else pure stored

def Db.findOne (tenantId id : Uuid) : Outcome User :=
  Outcome.required (db.user? tenantId id) (.notFound "Personel bulunamadı.")

/-- The check of a new number, when there is one; `choice` is the row that the query finds. -/
def Db.updateStaffCheck (tenantId id : Uuid) (dto : UpdateStaffDto) (choice : ℕ) : Outcome Unit :=
  match firstText [dto.phone] with
  | none => pure ()
  | some phone =>
    let found := (db.staffWith tenantId (StaffService.normalizePhone phone)).filter
      fun q => q.1 ≠ id
    match found[choice % found.length]? with
    | none => pure ()
    | some existing => .error (.conflict ("Bu telefon numarası (" ++ phone ++
        ") zaten başka bir personele (" ++ existing.2.name ++ " " ++ existing.2.surname ++
        ") kayıtlıdır."))

/-- Update the profile of a user or create it, where the request asks for one. -/
def Db.updateProfile (tenantId id : Uuid) (dto : UpdateStaffDto) (role : UserRole) : Outcome Db :=
  let isTechnician := dto.role.getD role = .technician
  if isTechnician || dto.specialty.isSome || dto.assignedLift.isSome then
    match db.mechanic? tenantId id with
    | some (k, m) => do
      let m' ← dto.profileOf m
      pure { db with mechanics := db.mechanics.modify k fun _ => m' }
    | none =>
      if isTechnician then do
        let profile ← dto.newProfile
        db.createMechanic tenantId id profile
      else pure db
  else pure db

/-- What the update of the account needs: valid columns, a row that is there, a free number. -/
def Db.updateChecks (tenantId id : Uuid) (dto : UpdateStaffDto) : Outcome (UpdateData × User) := do
  let data ← dto.updateData
  let user ← Outcome.required (db.user? tenantId id) notFoundRow
  Outcome.reject (data.phone.any fun phone => db.phoneTaken phone (some id)) uniqueViolation
  pure (data, user)

def Db.updateStaff (tenantId id : Uuid) (dto : UpdateStaffDto) (now : Instant) : Outcome Db := do
  let (data, user) ← db.updateChecks tenantId id dto
  let stored := { db with users := db.users.modify id (data.apply now) }
  stored.updateProfile tenantId id dto (data.apply now user).role

def Db.deactivate (tenantId id : Uuid) (now : Instant) : Outcome Db := do
  let _ ← Outcome.required (db.user? tenantId id) notFoundRow
  pure { db with
    users := db.users.modify id fun u => { u with isActive := false, updatedAt := now } }

def assignedTo (tenantId mechanicId : Uuid) (assignments : Table Assignment) : Bool :=
  !(assignments.filter fun a =>
    a.tenantId = tenantId && a.assignedMechanicId = some mechanicId).isEmpty

end Transactions

section Effects

variable {db db' : Db} {tenantId id : Uuid}

theorem Db.user?_eq_some {user : User} :
    db.user? tenantId id = some user ↔ db.users.get? id = some user ∧ user.tenantId = some tenantId := by
  simp [Db.user?, Option.filter_eq_some_iff]

theorem CreateStaffDto.user_role {dto : CreateStaffDto} {now : Instant} {user : User}
    (h : dto.user tenantId now = .ok user) : user.role = dto.role ∧ user.tenantId = some tenantId := by
  obtain ⟨annual, -, h⟩ := Outcome.bind_eq_ok.mp h
  obtain ⟨transferred, -, h⟩ := Outcome.bind_eq_ok.mp h
  obtain rfl := Outcome.pure_eq_ok.mp h
  exact ⟨rfl, rfl⟩

theorem UpdateStaffDto.updateData_role {dto : UpdateStaffDto} {data : UpdateData}
    (h : dto.updateData = .ok data) : data.role = dto.role := by
  obtain ⟨active, -, h⟩ := Outcome.bind_eq_ok.mp h
  obtain ⟨annual, -, h⟩ := Outcome.bind_eq_ok.mp h
  obtain ⟨transferred, -, h⟩ := Outcome.bind_eq_ok.mp h
  obtain rfl := Outcome.pure_eq_ok.mp h
  rfl

theorem Db.createMechanic_eq_ok {userId : Uuid} {profile : NewProfile} :
    db.createMechanic tenantId userId profile = .ok db' ↔
      (db.mechanics.find? fun m => m.userId = userId) = none ∧
        { db with mechanics := db.mechanics.insert (profile.mechanic tenantId userId) } = db' := by
  unfold Db.createMechanic
  rw [Outcome.bind_eq_ok]
  simp

theorem Db.createStaff_eq_ok {dto : CreateStaffDto} {now : Instant}
    (h : db.createStaff tenantId dto now = .ok db') :
    ∃ user, dto.user tenantId now = .ok user ∧ (db.tenants.get? tenantId).isSome ∧
      db.phoneTaken user.phone none = false ∧
      (dto.role ≠ .technician ∧ { db with users := db.users.insert user } = db' ∨
        dto.role = .technician ∧ ∃ profile,
          Db.createMechanic { db with users := db.users.insert user } tenantId db.users.next profile =
            .ok db') := by
  obtain ⟨user, huser, h⟩ := Outcome.bind_eq_ok.mp h
  obtain ⟨_, htenant, h⟩ := Outcome.bind_eq_ok.mp h
  obtain ⟨_, hphone, h⟩ := Outcome.bind_eq_ok.mp h
  refine ⟨user, huser, ?_, Outcome.reject_eq_ok.mp hphone, ?_⟩
  · simpa [Option.isSome_iff_ne_none] using Outcome.reject_eq_ok.mp htenant
  · dsimp only at h
    split_ifs at h with hrole
    · obtain ⟨profile, -, h⟩ := Outcome.bind_eq_ok.mp h
      exact .inr ⟨hrole, profile, h⟩
    · exact .inl ⟨hrole, Outcome.pure_eq_ok.mp h⟩

theorem Db.createStaff_users {dto : CreateStaffDto} {now : Instant}
    (h : db.createStaff tenantId dto now = .ok db') :
    ∃ user, dto.user tenantId now = .ok user ∧ db'.users = db.users.insert user := by
  obtain ⟨user, huser, -, -, ⟨-, rfl⟩ | ⟨-, profile, h⟩⟩ := Db.createStaff_eq_ok h
  · exact ⟨user, huser, rfl⟩
  · obtain ⟨-, rfl⟩ := Db.createMechanic_eq_ok.mp h
    exact ⟨user, huser, rfl⟩

theorem Db.updateProfile_eq_ok {dto : UpdateStaffDto} {role : UserRole}
    (h : db.updateProfile tenantId id dto role = .ok db') :
    (∃ k m m', db.mechanic? tenantId id = some (k, m) ∧ dto.profileOf m = .ok m' ∧
      { db with mechanics := db.mechanics.modify k fun _ => m' } = db') ∨
    (dto.role.getD role = .technician ∧ db.mechanic? tenantId id = none ∧
      ∃ profile, db.createMechanic tenantId id profile = .ok db') ∨
    (dto.role.getD role ≠ .technician ∧ db = db') := by
  unfold Db.updateProfile at h
  by_cases htechnician : dto.role.getD role = .technician
  · cases hm : db.mechanic? tenantId id with
    | some q =>
      simp only [htechnician, hm, decide_true, Bool.true_or, if_true] at h
      obtain ⟨m', hm', h⟩ := Outcome.bind_eq_ok.mp h
      exact .inl ⟨q.1, q.2, m', rfl, hm', Outcome.pure_eq_ok.mp h⟩
    | none =>
      simp only [htechnician, hm, decide_true, Bool.true_or, if_true] at h
      obtain ⟨profile, -, h⟩ := Outcome.bind_eq_ok.mp h
      exact .inr (.inl ⟨htechnician, rfl, profile, h⟩)
  · simp only [htechnician, decide_false, Bool.false_or, if_false] at h
    split_ifs at h with hasked
    · cases hm : db.mechanic? tenantId id with
      | some q =>
        rw [hm] at h
        obtain ⟨m', hm', h⟩ := Outcome.bind_eq_ok.mp h
        exact .inl ⟨q.1, q.2, m', rfl, hm', Outcome.pure_eq_ok.mp h⟩
      | none =>
        rw [hm] at h
        exact .inr (.inr ⟨htechnician, Outcome.pure_eq_ok.mp h⟩)
    · exact .inr (.inr ⟨htechnician, Outcome.pure_eq_ok.mp h⟩)

theorem Db.updateProfile_users {dto : UpdateStaffDto} {role : UserRole}
    (h : db.updateProfile tenantId id dto role = .ok db') : db'.users = db.users := by
  obtain ⟨k, m, m', -, -, rfl⟩ | ⟨-, -, profile, h⟩ | ⟨-, rfl⟩ := Db.updateProfile_eq_ok h
  · rfl
  · obtain ⟨-, rfl⟩ := Db.createMechanic_eq_ok.mp h
    rfl
  · rfl

theorem Db.updateChecks_eq_ok {dto : UpdateStaffDto} {data : UpdateData} {user : User}
    (h : db.updateChecks tenantId id dto = .ok (data, user)) :
    dto.updateData = .ok data ∧ db.user? tenantId id = some user ∧
      (data.phone.any fun phone => db.phoneTaken phone (some id)) = false := by
  obtain ⟨data', hdata, h⟩ := Outcome.bind_eq_ok.mp h
  obtain ⟨user', huser, h⟩ := Outcome.bind_eq_ok.mp h
  obtain ⟨_, hphone, h⟩ := Outcome.bind_eq_ok.mp h
  obtain ⟨rfl, rfl⟩ := Prod.mk.inj (Outcome.pure_eq_ok.mp h)
  exact ⟨hdata, Outcome.required_eq_ok.mp huser, Outcome.reject_eq_ok.mp hphone⟩

theorem Db.updateStaff_eq_ok {dto : UpdateStaffDto} {now : Instant}
    (h : db.updateStaff tenantId id dto now = .ok db') :
    ∃ data user, db.updateChecks tenantId id dto = .ok (data, user) ∧
      Db.updateProfile { db with users := db.users.modify id (data.apply now) } tenantId id dto
        (data.apply now user).role = .ok db' := by
  obtain ⟨⟨data, user⟩, hchecks, h⟩ := Outcome.bind_eq_ok.mp h
  exact ⟨data, user, hchecks, h⟩

end Effects

section Calls

structure Env where
  choice : ℕ
  now : Instant

inductive StaffCall where
  | create (tenantId : Uuid) (currentUserRole : UserRole) (dto : CreateStaffDto)
  | update (tenantId id : Uuid) (currentUserRole : UserRole) (dto : UpdateStaffDto)
  | remove (tenantId id : Uuid) (currentUserRole : UserRole)

inductive StaffStep where
  | findPhone (tenantId : Uuid) (dto : CreateStaffDto)
  | createRows (tenantId : Uuid) (dto : CreateStaffDto)
  | findOne (tenantId id : Uuid) (dto : UpdateStaffDto)
  | findOther (tenantId id : Uuid) (dto : UpdateStaffDto)
  | updateRows (tenantId id : Uuid) (dto : UpdateStaffDto)
  | findRemoved (tenantId id : Uuid)
  | countWorkOrders (tenantId id mechanicId : Uuid)
  | countAppointments (tenantId id mechanicId : Uuid) (hasReferences : Bool)
  | deleteMechanic (tenantId id mechanicId : Uuid)
  | deleteUser (tenantId id : Uuid)
  | deactivate (tenantId id : Uuid)
  | finished (answer : Outcome Unit)

structure StaffTask where
  currentUserRole : UserRole
  step : StaffStep

namespace StaffStep

def after {α : Type} (check : Outcome α) (next : α → StaffStep) : StaffStep :=
  match check with
  | .error e => .finished (.error e)
  | .ok a => next a

/-- Store what a transaction leaves and go on, or roll it back and answer with its error. -/
def stored (db : Db) (result : Outcome Db) (next : StaffStep) : Db × StaffStep :=
  match result with
  | .error e => (db, .finished (.error e))
  | .ok db' => (db', next)

theorem after_cases {α : Type} (check : Outcome α) (next : α → StaffStep) :
    (∃ e, after check next = .finished (.error e)) ∨
      ∃ a, check = .ok a ∧ after check next = next a := by
  cases check with
  | error e => exact .inl ⟨e, rfl⟩
  | ok a => exact .inr ⟨a, rfl, rfl⟩

theorem stored_cases (db : Db) (result : Outcome Db) (next : StaffStep) :
    (∃ e, result = .error e ∧ stored db result next = (db, .finished (.error e))) ∨
      ∃ db', result = .ok db' ∧ stored db result next = (db', next) := by
  cases result with
  | error e => exact .inl ⟨e, rfl, rfl⟩
  | ok db' => exact .inr ⟨db', rfl, rfl⟩

def exec (db : Db) (role : UserRole) (step : StaffStep) (env : Env) : Db × StaffStep :=
  match step with
  | .findPhone tenantId dto =>
    (db, after (db.createStaffCheck tenantId dto) fun _ => .createRows tenantId dto)
  | .createRows tenantId dto => stored db (db.createStaff tenantId dto env.now) (.finished (.ok ()))
  | .findOne tenantId id dto =>
    (db, after (do
      let previousUser ← db.findOne tenantId id
      checkUpdateRole role dto.role previousUser.role) fun _ => .findOther tenantId id dto)
  | .findOther tenantId id dto =>
    (db, after (db.updateStaffCheck tenantId id dto env.choice) fun _ => .updateRows tenantId id dto)
  | .updateRows tenantId id dto =>
    stored db (db.updateStaff tenantId id dto env.now) (.finished (.ok ()))
  | .findRemoved tenantId id =>
    (db, after (db.findOne tenantId id) fun _ =>
      match db.mechanic? tenantId id with
      | some (k, _) => .countWorkOrders tenantId id k
      | none => .deleteUser tenantId id)
  | .countWorkOrders tenantId id k =>
    (db, .countAppointments tenantId id k (assignedTo tenantId k db.workOrders))
  | .countAppointments tenantId id k hasReferences =>
    (db, if hasReferences || assignedTo tenantId k db.appointments then .deactivate tenantId id
      else .deleteMechanic tenantId id k)
  | .deleteMechanic tenantId id k =>
    stored db (db.deleteMechanic tenantId k) (.deleteUser tenantId id)
  | .deleteUser tenantId id =>
    stored db (db.deleteUser id fun u => u.tenantId = some tenantId) (.finished (.ok ()))
  | .deactivate tenantId id =>
    stored db (db.deactivate tenantId id env.now) (.finished (.ok ()))
  | .finished answer => (db, .finished answer)

end StaffStep

def StaffTask.exec (db : Db) (t : StaffTask) (env : Env) : Db × StaffTask :=
  let (db', step) := t.step.exec db t.currentUserRole env
  (db', { t with step := step })

def roleLabel : UserRole → String
  | .owner => "İşletme Sahibi"
  | .serviceManager => "Servis Müdürü"
  | .technician => "Teknisyen"
  | .cashier => "Veznedar"
  | .warehouseKeeper => "Depo Sorumlusu"
  | .superAdmin => "Platform Yöneticisi"

def rolesGuard (requiredRoles : List UserRole) (role : UserRole) : Outcome Unit :=
  Outcome.reject (role ∉ requiredRoles)
    (.forbidden ("Bu işlemi gerçekleştirmek için yetkiniz yok. Gerekli roller: " ++
      String.intercalate ", " (requiredRoles.map roleLabel)))

def StaffCall.enter : StaffCall → StaffTask
  | create tenantId role dto => ⟨role, .after (do
      rolesGuard [.owner, .serviceManager] role
      checkCreateRole role dto.role) fun _ => .findPhone tenantId dto⟩
  | update tenantId id role dto =>
    ⟨role, .after (rolesGuard [.owner, .serviceManager] role) fun _ => .findOne tenantId id dto⟩
  | remove tenantId id role =>
    ⟨role, .after (rolesGuard [.owner] role) fun _ => .findRemoved tenantId id⟩

section Alone

variable (db : Db) (tenantId id : Uuid) (role : UserRole)

def settle (result : Outcome Db) : Db × Outcome Unit :=
  match result with
  | .error e => (db, .error e)
  | .ok db' => (db', .ok ())

def Db.create (dto : CreateStaffDto) (env : Env) : Outcome Db := do
  rolesGuard [.owner, .serviceManager] role
  checkCreateRole role dto.role
  db.createStaffCheck tenantId dto
  db.createStaff tenantId dto env.now

def Db.update (dto : UpdateStaffDto) (env : Env) : Outcome Db := do
  rolesGuard [.owner, .serviceManager] role
  let previousUser ← db.findOne tenantId id
  checkUpdateRole role dto.role previousUser.role
  db.updateStaffCheck tenantId id dto env.choice
  db.updateStaff tenantId id dto env.now

/-- The profile and the user are deleted in two transactions. -/
def Db.remove (env : Env) : Db × Outcome Unit :=
  match rolesGuard [.owner] role, db.findOne tenantId id, db.mechanic? tenantId id with
  | .error e, _, _ => (db, .error e)
  | .ok _, .error e, _ => (db, .error e)
  | .ok _, .ok _, none => settle db (db.deleteUser id fun u => u.tenantId = some tenantId)
  | .ok _, .ok _, some (k, _) =>
    if assignedTo tenantId k db.workOrders || assignedTo tenantId k db.appointments then
      settle db (db.deactivate tenantId id env.now)
    else
      match db.deleteMechanic tenantId k with
      | .error e => (db, .error e)
      | .ok withoutProfile =>
        settle withoutProfile (withoutProfile.deleteUser id fun u => u.tenantId = some tenantId)

def StaffTask.alone (env : Env) (steps : ℕ) (s : Db × StaffTask) : Db × StaffTask :=
  (fun s => s.2.exec s.1 env)^[steps] s

attribute [local simp] StaffTask.alone StaffCall.enter StaffTask.exec StaffStep.exec
  StaffStep.after StaffStep.stored settle bind Except.bind

theorem create_alone (dto : CreateStaffDto) (env : Env) :
    StaffTask.alone env 2 (db, (StaffCall.create tenantId role dto).enter) =
      ((settle db (db.create tenantId role dto env)).1,
        ⟨role, .finished (settle db (db.create tenantId role dto env)).2⟩) := by
  cases hguard : rolesGuard [.owner, .serviceManager] role with
  | error e => simp [Db.create, hguard]
  | ok _ =>
    cases hrole : checkCreateRole role dto.role with
    | error e => simp [Db.create, hguard, hrole]
    | ok _ =>
      cases hphone : db.createStaffCheck tenantId dto <;>
        cases hstore : db.createStaff tenantId dto env.now <;>
          simp [Db.create, hguard, hrole, hphone, hstore]

theorem update_alone (dto : UpdateStaffDto) (env : Env) :
    StaffTask.alone env 3 (db, (StaffCall.update tenantId id role dto).enter) =
      ((settle db (db.update tenantId id role dto env)).1,
        ⟨role, .finished (settle db (db.update tenantId id role dto env)).2⟩) := by
  cases hguard : rolesGuard [.owner, .serviceManager] role with
  | error e => simp [Db.update, hguard]
  | ok _ =>
    cases huser : db.findOne tenantId id with
    | error e => simp [Db.update, hguard, huser]
    | ok previousUser =>
      cases hrole : checkUpdateRole role dto.role previousUser.role with
      | error e => simp [Db.update, hguard, huser, hrole]
      | ok _ =>
        cases hphone : db.updateStaffCheck tenantId id dto env.choice <;>
          cases hstore : db.updateStaff tenantId id dto env.now <;>
            simp [Db.update, hguard, huser, hrole, hphone, hstore]

theorem remove_alone (env : Env) :
    StaffTask.alone env 5 (db, (StaffCall.remove tenantId id role).enter) =
      ((db.remove tenantId id role env).1, ⟨role, .finished (db.remove tenantId id role env).2⟩) := by
  cases hguard : rolesGuard [.owner] role with
  | error e => simp [Db.remove, hguard]
  | ok _ =>
    cases huser : db.findOne tenantId id with
    | error e => simp [Db.remove, hguard, huser]
    | ok user =>
      cases hmechanic : db.mechanic? tenantId id with
      | none =>
        cases hdelete : db.deleteUser id fun u => u.tenantId = some tenantId <;>
          simp [Db.remove, hguard, huser, hmechanic, hdelete]
      | some q =>
        cases hrefs : assignedTo tenantId q.1 db.workOrders ||
            assignedTo tenantId q.1 db.appointments with
        | true =>
          cases hstore : db.deactivate tenantId id env.now <;>
            simp_all [Db.remove]
        | false =>
          cases hprofile : db.deleteMechanic tenantId q.1 with
          | error e => simp_all [Db.remove]
          | ok withoutProfile =>
            cases hdelete : withoutProfile.deleteUser id fun u => u.tenantId = some tenantId <;>
              simp_all [Db.remove]

end Alone

abbrev StaffPool := Pool Db StaffTask

def StaffPool.act : StaffPool → PoolAction StaffCall Env → StaffPool :=
  Pool.act StaffCall.enter StaffTask.exec

end Calls

section Example

def noUpdate : UpdateStaffDto where
  name := none
  surname := none
  phone := none
  email := none
  role := none
  specialty := none
  assignedLift := none
  dailyCapacityHours := none
  isActive := none
  annualLeaveDays := none
  transferredLeaveDays := none

end Example

end WorksAuto.Platform
