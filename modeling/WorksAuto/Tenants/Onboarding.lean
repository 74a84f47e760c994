import WorksAuto.Accounts.System
import WorksAuto.Lib.Ensure

/-! The onboarding of a workshop and the creation of its services.
Each is one transaction. The onboarding finds or creates services, members of staff and
bays, in this order; its services are numbered from one in every call. -/

namespace WorksAuto.Tenants

open Lib

structure Service where
  tenantId : Uuid
  name : String
  code : String
  category : String
  defaultDurationMin : ℤ
  basePrice : ℤ
  /-- Hundredths of a percent. -/
  kdvRate : ℤ
  isActive : Bool
  deriving DecidableEq, Repr

structure Mechanic where
  tenantId : Uuid
  userId : Uuid
  specialty : String
  dailyCapacityHours : ℕ
  deriving DecidableEq, Repr

structure WorkshopBay where
  tenantId : Uuid
  name : String
  code : String
  category : String
  orderIndex : ℕ
  isAvailableForOnline : Bool
  deriving DecidableEq, Repr

structure Db extends Accounts.Db where
  services : Table Service
  mechanics : Table Mechanic
  workshopBays : Table WorkshopBay

structure OnboardingService where
  name : String
  category : Option String
  durationMinutes : ℚ
  laborPrice : ℚ

structure OnboardingStaff extends Accounts.OnboardingStaffDto where
  expertise : Option String

structure CompleteOnboardingDto where
  name : Option String
  services : List OnboardingService
  staff : List OnboardingStaff
  activeLiftCount : Option ℕ

structure CreateServiceDto where
  name : String
  code : String
  category : String
  defaultDurationMin : Option ℚ
  basePrice : ℚ
  kdvRate : Option ℚ
  isActive : Option Bool

/-- Which branch an unordered query finds, whether the columns of the tenant take the rest of
the profile, and the upper case of the runtime. -/
structure Env where
  choice : ℕ
  storesProfile : Bool
  toUpperCase : String → String

section Services

/-- Prisma takes whole numbers only for an `integer` column. -/
def intColumn (x : ℚ) : Outcome ℤ :=
  if x.den = 1 then int4 x.num
  else .error (.plain "Invalid value provided. Expected Int, provided Float.")

def uniqueViolation : ApiError := .database "P2002"

/-- `@@unique([tenantId, code])`. -/
def Db.codeTaken (db : Db) (tenantId : Uuid) (code : String) : Bool :=
  (db.services.find? fun s => s.tenantId = tenantId ∧ s.code = code).isSome

def Db.servicesNamed (db : Db) (tenantId : Uuid) (name : String) : List (Uuid × Service) :=
  db.services.filter fun s => s.tenantId = tenantId ∧ s.name = name

namespace OnboardingService

def trimmedName (s : OnboardingService) : String := jsTrim s.name

def code (srvIndex : ℕ) : String := "SRV-" ++ padStart srvIndex 2

def columns (s : OnboardingService) : Outcome (ℤ × ℤ) := do
  let durationMinutes ← intColumn (if s.durationMinutes = 0 then 60 else s.durationMinutes)
  let laborPrice ← numeric 10 s.laborPrice
  pure (durationMinutes, laborPrice)

def row (s : OnboardingService) (tenantId : Uuid) (srvIndex : ℕ) (columns : ℤ × ℤ) : Service where
  tenantId
  name := s.trimmedName
  code := code srvIndex
  category := (firstText [s.category.map jsTrim]).getD "Periyodik Bakım"
  defaultDurationMin := columns.1
  basePrice := columns.2
  kdvRate := 2000
  isActive := true

end OnboardingService

def serviceFound (tenantId : Uuid) (state : Db × ℕ) (s : OnboardingService) : Bool :=
  s.trimmedName = "" || !(state.1.servicesNamed tenantId s.trimmedName).isEmpty

def createOnboardingService (tenantId : Uuid) (state : Db × ℕ) (s : OnboardingService) :
    Outcome (Db × ℕ) := do
  let (db, srvIndex) := state
  let columns ← s.columns
  Outcome.reject (db.codeTaken tenantId (OnboardingService.code srvIndex)) uniqueViolation
  pure ({ db with services := db.services.insert (s.row tenantId srvIndex columns) }, srvIndex + 1)

def Db.addServices (db : Db) (tenantId : Uuid) (services : List OnboardingService) :
    Outcome (Db × ℕ) :=
  ensureAll (serviceFound tenantId) (createOnboardingService tenantId) services (db, 1)

end Services

section Staff

def OnboardingStaff.phones (st : OnboardingStaff) (user : Accounts.User) : List String :=
  let rawDigits := String.ofList (Accounts.digitsOf st.phone)
  [user.phone, rawDigits, "+" ++ rawDigits]

def staffFound (tenantId : Uuid) (branchId : Option Uuid) (db : Db) (st : OnboardingStaff) : Bool :=
  (st.user? tenantId branchId).all fun user =>
    !(db.staffWith tenantId (st.phones user)).isEmpty

/-- The unique index on `users.phone`, which row security does not restrict. -/
def Db.phoneTaken (db : Db) (phone : String) : Bool :=
  (db.users.find? fun u => u.phone = phone).isSome

def createOnboardingStaff (tenantId : Uuid) (branchId : Option Uuid) (db : Db)
    (st : OnboardingStaff) : Outcome Db :=
  match st.user? tenantId branchId with
  | none => pure db
  | some user => do
    Outcome.reject (db.phoneTaken user.phone) uniqueViolation
    pure { db with
      users := db.users.insert user
      mechanics := db.mechanics.insert
        { tenantId
          userId := db.users.next
          specialty := (firstText [st.expertise.map jsTrim]).getD "Genel Mekanik"
          dailyCapacityHours := 8 } }

/-- `branch.findFirst({ where: { tenantId } })`. -/
def Db.anyBranch (db : Db) (tenantId : Uuid) (choice : ℕ) : Option Uuid :=
  let branches := db.branches.filter fun b => b.tenantId = tenantId
  branches[choice % branches.length]?.map Prod.fst

def Db.addStaff (db : Db) (tenantId : Uuid) (branchId : Option Uuid)
    (staff : List OnboardingStaff) : Outcome Db :=
  ensureAll (staffFound tenantId branchId) (createOnboardingStaff tenantId branchId) staff db

end Staff

section Bays

def onboardingBay (tenantId : Uuid) (i : ℕ) : WorkshopBay where
  tenantId
  name := "Lift " ++ Nat.repr i ++ " (Genel Mekanik)"
  code := "L-0" ++ Nat.repr i
  category := "TWO_POST_LIFT"
  orderIndex := i
  isAvailableForOnline := true

def Db.addBays (db : Db) (tenantId : Uuid) (activeLiftCount : Option ℕ) : Db :=
  if (db.workshopBays.filter fun b => b.tenantId = tenantId).isEmpty then
    { db with
      workshopBays := ((List.range (activeLiftCount.getD 0)).map fun i =>
        onboardingBay tenantId (i + 1)).foldl Table.insert db.workshopBays }
  else db

end Bays

section Calls

def Db.addRegister (db : Db) (tenantId : Uuid) (dto : CompleteOnboardingDto) (env : Env) :
    Outcome Db := do
  let (withServices, _) ← db.addServices tenantId dto.services
  let withStaff ← withServices.addStaff tenantId (db.anyBranch tenantId env.choice) dto.staff
  pure (withStaff.addBays tenantId dto.activeLiftCount)

def Db.completeOnboarding (db : Db) (tenantId : Uuid) (dto : CompleteOnboardingDto) (env : Env) :
    Outcome Db := do
  Outcome.reject (!env.storesProfile) (.plain "Invalid value provided.")
  Outcome.reject (db.tenants.get? tenantId).isNone (.database "P2025")
  let register ← db.addRegister tenantId dto env
  pure { register with
    tenants := register.tenants.modify tenantId fun t =>
      { t with title := ((firstText [dto.name]).map jsTrim).getD t.title } }

def Db.createService (db : Db) (tenantId : Uuid) (dto : CreateServiceDto) (env : Env) :
    Outcome Db := do
  Outcome.reject (db.codeTaken tenantId dto.code)
    (.conflict ("\"" ++ dto.code ++ "\" koduna sahip bir hizmet zaten mevcut."))
  let defaultDurationMin ← intColumn (dto.defaultDurationMin.getD 60)
  let basePrice ← numeric 10 dto.basePrice
  let kdvRate ← numeric 4 (dto.kdvRate.getD 20)
  Outcome.reject (db.codeTaken tenantId (env.toUpperCase dto.code)) uniqueViolation
  pure { db with
    services := db.services.insert
      { tenantId
        name := dto.name
        code := env.toUpperCase dto.code
        category := env.toUpperCase dto.category
        defaultDurationMin
        basePrice
        kdvRate
        isActive := dto.isActive.getD true } }

inductive Call where
  | completeOnboarding (tenantId : Uuid) (dto : CompleteOnboardingDto)
  | createService (tenantId : Uuid) (dto : CreateServiceDto)

def Db.exec (db : Db) : Call × Env → Outcome Db
  | (.completeOnboarding tenantId dto, env) => db.completeOnboarding tenantId dto env
  | (.createService tenantId dto, env) => db.createService tenantId dto env

def Db.act (db : Db) (l : Call × Env) : Db := (db.exec l).toOption.getD db

end Calls

end WorksAuto.Tenants
