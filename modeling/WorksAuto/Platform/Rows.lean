import WorksAuto.Inventory.StockItem
import WorksAuto.Tenants.Onboarding

/-! The accounts of the platform and the rows that refer to them.
A mechanic's profile is deleted with its user, work orders and appointments lose a mechanic that
is deleted, and a user who has signed a consent cannot be deleted. -/

namespace WorksAuto.Platform

open Lib

structure Tenant where
  slug : String
  title : String
  phone : String
  email : Option String
  isActive : Bool
  b2bConsentAccepted : Bool
  b2bConsentAcceptedAt : Option Instant
  b2bContractVersion : String
  deriving DecidableEq, Repr

structure User where
  tenantId : Option Uuid
  name : String
  surname : String
  phone : String
  email : Option String
  passwordHash : Option String
  role : UserRole
  isActive : Bool
  annualLeaveDays : ℤ
  transferredLeaveDays : ℤ
  updatedAt : Instant
  deriving DecidableEq, Repr

structure Mechanic where
  tenantId : Uuid
  userId : Uuid
  specialty : String
  assignedLift : Option String
  dailyCapacityHours : ℤ
  deriving DecidableEq, Repr

structure Assignment where
  tenantId : Uuid
  assignedMechanicId : Option Uuid
  deriving DecidableEq, Repr

structure TenantConsent where
  tenantId : Uuid
  signedByUserId : Uuid
  contractVersion : String
  ipAddress : String
  userAgent : String
  verifiedVia : String
  payloadHash : String
  saasTermsAccepted : Bool
  dataProcessingAccepted : Bool
  marketingAccepted : Bool
  signedAt : Instant
  deriving DecidableEq, Repr

structure Db where
  tenants : Table Tenant
  users : Table User
  mechanics : Table Mechanic
  workOrders : Table Assignment
  appointments : Table Assignment
  tenantConsents : Table TenantConsent

section Keys

def notFoundRow : ApiError := .database "P2025"
def uniqueViolation : ApiError := .database "P2002"
def foreignKeyViolation : ApiError := .database "P2003"

variable (db : Db)

/-- The unique index on `users.phone`, apart from one user. -/
def Db.phoneTaken (phone : String) (except : Option Uuid) : Bool :=
  db.users.rows.any fun q => some q.1 ≠ except && q.2.phone = phone

def Db.user? (tenantId id : Uuid) : Option User :=
  (db.users.get? id).filter fun u => u.tenantId = some tenantId

def Db.mechanic? (tenantId userId : Uuid) : Option (Uuid × Mechanic) :=
  db.mechanics.find? fun m => m.tenantId = tenantId && m.userId = userId

/-- `ON DELETE SET NULL` of `assigned_mechanic_id`. -/
def unassign (gone : Uuid → Bool) (assignments : Table Assignment) : Table Assignment :=
  assignments.modifyIf (fun _ a => a.assignedMechanicId.any gone)
    fun a => { a with assignedMechanicId := none }

def Db.deleteMechanic (tenantId id : Uuid) : Outcome Db := do
  let _ ← Outcome.required ((db.mechanics.get? id).filter fun m => m.tenantId = tenantId)
    notFoundRow
  pure { db with
    mechanics := db.mechanics.erase id
    workOrders := unassign (· = id) db.workOrders
    appointments := unassign (· = id) db.appointments }

/-- `tenant_consents_signed_by_user_id_fkey` is declared `ON DELETE RESTRICT`. -/
def Db.hasSigned (id : Uuid) : Bool :=
  (db.tenantConsents.find? fun c => c.signedByUserId = id).isSome

def Db.deleteUser (id : Uuid) (visible : User → Bool) : Outcome Db := do
  let _ ← Outcome.required ((db.users.get? id).filter visible) notFoundRow
  Outcome.reject (db.hasSigned id) foreignKeyViolation
  let profile (m : Uuid) : Bool := (db.mechanics.get? m).any fun m => m.userId = id
  pure { db with
    users := db.users.erase id
    mechanics := db.mechanics.eraseIf fun m => m.userId = id
    workOrders := unassign profile db.workOrders
    appointments := unassign profile db.appointments }

variable {db} {db' : Db} {tenantId id : Uuid}

theorem Db.deleteMechanic_eq_ok :
    db.deleteMechanic tenantId id = .ok db' ↔
      (∃ m, db.mechanics.get? id = some m ∧ m.tenantId = tenantId) ∧
        { db with
          mechanics := db.mechanics.erase id
          workOrders := unassign (· = id) db.workOrders
          appointments := unassign (· = id) db.appointments } = db' := by
  unfold Db.deleteMechanic
  rw [Outcome.bind_eq_ok]
  simp [Option.filter_eq_some_iff]

theorem Db.deleteUser_eq_ok {visible : User → Bool} (h : db.deleteUser id visible = .ok db') :
    (∃ user, db.users.get? id = some user ∧ visible user = true) ∧ db.hasSigned id = false ∧
      db'.users = db.users.erase id ∧
      db'.mechanics = db.mechanics.eraseIf fun m => m.userId = id := by
  obtain ⟨user, huser, h⟩ := Outcome.bind_eq_ok.mp h
  obtain ⟨_, hsigned, h⟩ := Outcome.bind_eq_ok.mp h
  obtain rfl := Outcome.pure_eq_ok.mp h
  exact ⟨⟨user, Option.filter_eq_some_iff.mp (Outcome.required_eq_ok.mp huser)⟩,
    Outcome.reject_eq_ok.mp hsigned, rfl, rfl⟩

theorem Db.deleteUser_isOk {visible : User → Bool} {user : User}
    (huser : db.users.get? id = some user) (hvisible : visible user = true) :
    (db.deleteUser id visible).isOk = !db.hasSigned id := by
  have hfound : (db.users.get? id).filter visible = some user := by
    rw [huser, Option.filter_some, if_pos hvisible]
  unfold Db.deleteUser
  rw [hfound]
  cases db.hasSigned id <;> rfl

end Keys

section Example

def garage : Tenant where
  slug := "garage"
  title := "Garage"
  phone := "905550000000"
  email := none
  isActive := true
  b2bConsentAccepted := false
  b2bConsentAcceptedAt := none
  b2bContractVersion := "1.0"

def account (tenantId : Option Uuid) (phone : String) (role : UserRole) : User where
  tenantId
  name := "Deniz"
  surname := "Usta"
  phone
  email := none
  passwordHash := none
  role
  isActive := true
  annualLeaveDays := 14
  transferredLeaveDays := 0
  updatedAt := 0

def staffed (users : List User) : Db where
  tenants := .ofList [garage]
  users := .ofList users
  mechanics := .empty
  workOrders := .empty
  appointments := .empty
  tenantConsents := .empty

end Example

end WorksAuto.Platform
