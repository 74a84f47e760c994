import WorksAuto.Platform.AdminUsers
import WorksAuto.Platform.Staff

/-! The ways in which a tenant and its first accounts come to be.
A tenant registers itself, or an administrator creates it; its onboarding creates technicians with
their profiles. Only the administrator's form brings the e-mail address to lower case. -/

namespace WorksAuto.Platform

open Lib Accounts

structure RegisterTenantDto extends Accounts.RegisterTenantDto where
  email : Option String

structure CreateTenantDto extends Accounts.CreateTenantDto where
  email : String

structure CompleteOnboardingDto where
  name : Option String
  staff : List Tenants.OnboardingStaff

section Rows

def newTenant (tenant : Accounts.Tenant) (email : Option String) : Tenant where
  slug := tenant.slug
  title := tenant.title
  phone := tenant.phone
  email
  isActive := tenant.isActive
  b2bConsentAccepted := false
  b2bConsentAcceptedAt := none
  b2bContractVersion := "1.0"

def newUser (user : Accounts.User) (email : Option String) (now : Instant) : User where
  tenantId := user.tenantId
  name := user.name
  surname := user.surname
  phone := user.phone
  email
  passwordHash := none
  role := user.role
  isActive := user.isActive
  annualLeaveDays := 14
  transferredLeaveDays := 0
  updatedAt := now

end Rows

section Calls

variable (rt : Runtime) (db : Db) (now : Instant)

def Db.createOwned (tenant : Tenant) (owner : User) : Outcome Db := do
  Outcome.reject (db.tenants.find? fun t => t.slug = tenant.slug).isSome uniqueViolation
  Outcome.reject (db.phoneTaken owner.phone none) uniqueViolation
  pure { db with
    tenants := db.tenants.insert tenant
    users := db.users.insert owner }

def RegisterTenantDto.owner (dto : RegisterTenantDto) (tenantId : Uuid) : User :=
  newUser (dto.user tenantId) dto.email now

def Db.registerTenant (dto : RegisterTenantDto) : Outcome Db := do
  dto.validate
  Outcome.reject (db.tenants.find? fun t => t.slug = dto.slug).isSome
    (.conflict "Bu servis URL kodu (slug) zaten kullanımda.")
  db.createOwned (newTenant dto.tenant dto.email) (dto.owner now db.tenants.next)

def Db.freeSlug (title : String) : String :=
  let base := baseSlug title now.toNat
  let candidates := (List.range (db.tenants.rows.length + 1)).map (candidateSlug base)
  (candidates.find? fun slug => (db.tenants.find? fun t => t.slug = slug).isNone).getD base

def CreateTenantDto.owner (dto : CreateTenantDto) (tenantId : Uuid) : User :=
  newUser (dto.ownerUser tenantId 0) (some (rt.emailNormalized dto.email)) now

/-- `AdminTenantService.createTenant`. -/
def Db.createTenant (dto : CreateTenantDto) : Outcome Db := do
  dto.validate
  Outcome.reject
    (db.users.find? fun u => u.phone = AdminTenantService.formattedPhone dto.phone).isSome
    (.badRequest ("Bu telefon numarası (" ++ AdminTenantService.formattedPhone dto.phone ++
      ") ile kayıtlı bir kullanıcı zaten mevcut."))
  db.createOwned (newTenant (dto.tenant (db.freeSlug now dto.title)) (some (rt.emailNormalized dto.email)))
    (dto.owner rt now db.tenants.next)

end Calls

section Onboarding

variable (db : Db) (tenantId : Uuid) (now : Instant)

def onboardingUser (st : Tenants.OnboardingStaff) : Option User :=
  (st.user? tenantId none).map fun user => newUser user none now

def onboardingProfile (st : Tenants.OnboardingStaff) : NewProfile where
  specialty := (firstText [st.expertise.map jsTrim]).getD "Genel Mekanik"
  assignedLift := none
  dailyCapacityHours := 8

def onboardingFound (db : Db) (st : Tenants.OnboardingStaff) : Bool :=
  (onboardingUser tenantId now st).all fun user =>
    let rawDigits := String.ofList (digitsOf st.phone)
    !(db.users.filter fun u => u.tenantId = some tenantId &&
      u.phone ∈ [user.phone, rawDigits, "+" ++ rawDigits]).isEmpty

def createOnboarded (db : Db) (st : Tenants.OnboardingStaff) : Outcome Db :=
  match onboardingUser tenantId now st with
  | none => pure db
  | some user => do
    Outcome.reject (db.phoneTaken user.phone none) uniqueViolation
    Db.createMechanic { db with users := db.users.insert user } tenantId db.users.next
      (onboardingProfile st)

/-- One transaction, which also stores the profile, the services and the bays of the tenant. -/
def Db.completeOnboarding (dto : CompleteOnboardingDto) (others : Outcome Unit) : Outcome Db := do
  Outcome.reject (db.tenants.get? tenantId).isNone notFoundRow
  others
  let staffed ← ensureAll (onboardingFound tenantId now) (createOnboarded tenantId now) dto.staff db
  pure { staffed with
    tenants := staffed.tenants.modify tenantId fun t =>
      { t with title := ((firstText [dto.name]).map jsTrim).getD t.title } }

end Onboarding

section Effects

variable {rt : Runtime} {db db' : Db} {tenantId : Uuid} {now : Instant}

theorem onboardingUser_eq_some {st : Tenants.OnboardingStaff} {user : User}
    (h : onboardingUser tenantId now st = some user) :
    user.tenantId = some tenantId ∧ user.role = .technician ∧ user.email = none := by
  obtain ⟨account, haccount, rfl⟩ := Option.map_eq_some_iff.mp h
  unfold OnboardingStaffDto.user? at haccount
  split_ifs at haccount
  obtain ⟨normalizedPhone, -, rfl⟩ := Option.map_eq_some_iff.mp haccount
  exact ⟨rfl, rfl, rfl⟩

theorem Db.createOwned_eq_ok {tenant : Tenant} {owner : User}
    (h : db.createOwned tenant owner = .ok db') :
    { db with tenants := db.tenants.insert tenant, users := db.users.insert owner } = db' := by
  obtain ⟨_, -, h⟩ := Outcome.bind_eq_ok.mp h
  obtain ⟨_, -, h⟩ := Outcome.bind_eq_ok.mp h
  exact Outcome.pure_eq_ok.mp h

theorem Db.registerTenant_eq_ok {dto : RegisterTenantDto} (h : db.registerTenant now dto = .ok db') :
    { db with
      tenants := db.tenants.insert (newTenant dto.tenant dto.email)
      users := db.users.insert (dto.owner now db.tenants.next) } = db' := by
  obtain ⟨_, -, h⟩ := Outcome.bind_eq_ok.mp h
  obtain ⟨_, -, h⟩ := Outcome.bind_eq_ok.mp h
  exact Db.createOwned_eq_ok h

theorem Db.createTenant_eq_ok {dto : CreateTenantDto} (h : db.createTenant rt now dto = .ok db') :
    ∃ tenant, { db with
      tenants := db.tenants.insert tenant
      users := db.users.insert (dto.owner rt now db.tenants.next) } = db' := by
  obtain ⟨_, -, h⟩ := Outcome.bind_eq_ok.mp h
  obtain ⟨_, -, h⟩ := Outcome.bind_eq_ok.mp h
  exact ⟨_, Db.createOwned_eq_ok h⟩

theorem createOnboarded_eq_ok {st : Tenants.OnboardingStaff}
    (h : createOnboarded tenantId now db st = .ok db') :
    db = db' ∨ ∃ user, onboardingUser tenantId now st = some user ∧
      Db.createMechanic { db with users := db.users.insert user } tenantId db.users.next
        (onboardingProfile st) = .ok db' := by
  unfold createOnboarded at h
  cases hst : onboardingUser tenantId now st with
  | none =>
    rw [hst] at h
    exact .inl (Outcome.pure_eq_ok.mp h)
  | some user =>
    rw [hst] at h
    obtain ⟨_, -, h⟩ := Outcome.bind_eq_ok.mp h
    exact .inr ⟨user, rfl, h⟩

theorem Db.completeOnboarding_rel {R : Db → Db → Prop} (refl : ∀ s, R s s)
    (trans : ∀ {s₁ s₂ s₃}, R s₁ s₂ → R s₂ s₃ → R s₁ s₃)
    (member : ∀ {s st s'}, createOnboarded tenantId now s st = .ok s' → R s s')
    (title : ∀ s f, R s { s with tenants := s.tenants.modify tenantId f })
    {dto : CompleteOnboardingDto} {others : Outcome Unit}
    (h : db.completeOnboarding tenantId now dto others = .ok db') : R db db' := by
  obtain ⟨_, -, h⟩ := Outcome.bind_eq_ok.mp h
  obtain ⟨_, -, h⟩ := Outcome.bind_eq_ok.mp h
  obtain ⟨staffed, hstaffed, h⟩ := Outcome.bind_eq_ok.mp h
  obtain rfl := Outcome.pure_eq_ok.mp h
  have hmembers : R db staffed := ensureAll_rel refl trans (fun _ hc => member hc) hstaffed
  exact trans hmembers (title staffed _)

end Effects

end WorksAuto.Platform
