import WorksAuto.Accounts.Users
import WorksAuto.Lib.Pool
import WorksAuto.Lib.Run
import Mathlib.Data.Nat.Digits.Defs

/-! The writers of accounts as a system of requests.
Every query of a call is a part of its own and the transaction that ends it is one
more, so the checks of a call may be out of date when it stores its rows. Row
security shows a tenant its own users only. -/

namespace WorksAuto.Accounts

open Lib

/-- What the surroundings decide: which row an unordered query finds, and the time. -/
structure Env where
  choice : ℕ
  now : ℕ

inductive Call where
  | registerTenant (dto : RegisterTenantDto)
  | createStaff (tenantId : Uuid) (currentUserRole : UserRole) (dto : CreateStaffDto)
  | updateStaff (tenantId id : Uuid) (currentUserRole : UserRole) (dto : UpdateStaffDto)
  | createTenant (dto : CreateTenantDto)
  | completeOnboarding (tenantId : Uuid) (dto : CompleteOnboardingDto)

inductive Task where
  | findSlug (dto : RegisterTenantDto)
  | findStaff (tenantId : Uuid) (dto : CreateStaffDto)
  | findOne (tenantId id : Uuid) (currentUserRole : UserRole) (dto : UpdateStaffDto)
  | findOther (tenantId id : Uuid) (dto : UpdateStaffDto)
  | findOwner (dto : CreateTenantDto)
  | chooseSlug (dto : CreateTenantDto) (baseSlug : String) (counter : ℕ)
  | findBranch (tenantId : Uuid) (dto : CompleteOnboardingDto)
  /-- The loop over the staff: those still to be looked at, and those to be created. -/
  | onboard (tenantId : Uuid) (branchId : Option Uuid) (title : Option String)
      (staff created : List OnboardingStaffDto)
  | commit (w : Write)
  | finished (answer : Outcome Unit)

section Checks

def checkCreateRole (currentUserRole role : UserRole) : Outcome Unit := do
  Outcome.reject (role = .superAdmin)
    (.badRequest "Süper Admin hesabı işletme içerisinden oluşturulamaz.")
  Outcome.reject (role = .owner && currentUserRole ≠ .owner && currentUserRole ≠ .superAdmin)
    (.forbidden
      "Yalnızca işletme sahibi yeni bir İşletme Sahibi (OWNER) hesabı tanımlayabilir.")
  Outcome.reject (currentUserRole = .serviceManager && (role = .serviceManager || role = .owner))
    (.forbidden
      "Servis müdürleri yalnızca teknisyen, veznedar veya depo sorumlusu hesapları açabilir.")

def checkUpdateRole (currentUserRole : UserRole) (role : Option UserRole) (previousRole : UserRole) :
    Outcome Unit := do
  Outcome.reject (role = some .superAdmin)
    (.badRequest "Süper Admin rolü işletme içerisinden atanamaz.")
  Outcome.reject (role = some .owner && currentUserRole ≠ .owner && currentUserRole ≠ .superAdmin)
    (.forbidden
      "Yalnızca işletme sahibi bir personeli İşletme Sahibi (OWNER) yapabilir.")
  Outcome.reject
    (currentUserRole = .serviceManager && (role = some .serviceManager || role = some .owner))
    (.forbidden
      "Servis müdürleri rolü servis müdürü veya dükkan sahibi olarak değiştiremez.")
  Outcome.reject (previousRole = .owner && currentUserRole ≠ .owner && currentUserRole ≠ .superAdmin)
    (.forbidden "İşletme sahibi hesabında değişiklik yapma yetkiniz bulunmamaktadır.")

def Db.staffWith (db : Db) (tenantId : Uuid) (phones : List String) : List (Uuid × User) :=
  db.users.filter fun u => u.tenantId = some tenantId && u.phone ∈ phones

def Db.createStaffCheck (db : Db) (tenantId : Uuid) (dto : CreateStaffDto) : Outcome Unit :=
  let normalizedPhone := StaffService.normalizePhone dto.phone
  Outcome.reject (!(db.staffWith tenantId [normalizedPhone, "+" ++ normalizedPhone]).isEmpty)
    (.conflict "Bu telefon numarasıyla kayıtlı bir personel zaten var.")

def Db.findOne (db : Db) (tenantId id : Uuid) : Outcome User :=
  Outcome.required ((db.users.get? id).filter fun u => u.tenantId = some tenantId)
    (.notFound "Personel bulunamadı.")

def otherStaffMessage (phone : String) (existing : User) : String :=
  "Bu telefon numarası (" ++ phone ++ ") zaten başka bir personele (" ++ existing.name ++ " " ++
    existing.surname ++ ") kayıtlıdır."

def Db.updateStaffCheck (db : Db) (tenantId id : Uuid) (dto : UpdateStaffDto) (choice : ℕ) :
    Outcome Unit :=
  match firstText [dto.phone] with
  | none => pure ()
  | some phone =>
    let normalizedPhone := StaffService.normalizePhone phone
    let found := (db.staffWith tenantId [normalizedPhone, "+" ++ normalizedPhone]).filter
      fun q => q.1 ≠ id
    match found[choice % found.length]? with
    | none => pure ()
    | some existing => .error (.conflict (otherStaffMessage phone existing.2))

def Db.createTenantCheck (db : Db) (dto : CreateTenantDto) : Outcome Unit :=
  let formattedPhone := AdminTenantService.formattedPhone dto.phone
  Outcome.reject (db.users.find? fun u => u.phone = formattedPhone).isSome
    (.badRequest ("Bu telefon numarası (" ++ formattedPhone ++
      ") ile kayıtlı bir kullanıcı zaten mevcut."))

/-- A member of staff is created when it is not skipped and no user is found for it. -/
def Db.onboards (db : Db) (tenantId : Uuid) (branchId : Option Uuid)
    (created : List OnboardingStaffDto) (st : OnboardingStaffDto) : Bool :=
  match st.user? tenantId branchId with
  | none => false
  | some user =>
    let rawDigits := String.ofList (digitsOf st.phone)
    let phones := [user.phone, rawDigits, "+" ++ rawDigits]
    (db.staffWith tenantId phones).isEmpty &&
      created.all fun other => (other.user? tenantId branchId).all fun u => u.phone ∉ phones

end Checks

section Slug

def slugChar (c : Char) : List Char :=
  match c with
  | 'ğ' | 'Ğ' => ['g']
  | 'ü' | 'Ü' => ['u']
  | 'ş' | 'Ş' => ['s']
  | 'ı' => ['i']
  | 'İ' => ['i', '-']
  | 'ö' | 'Ö' => ['o']
  | 'ç' | 'Ç' => ['c']
  -- the Kelvin sign has an ASCII letter as its lower case
  | c => if c.toNat = 0x212A then ['k'] else if c.isAlphanum then [c.toLower] else ['-']

def collapseDashes : List Char → List Char
  | '-' :: '-' :: rest => collapseDashes ('-' :: rest)
  | c :: rest => c :: collapseDashes rest
  | [] => []

def base36 (n : ℕ) : String :=
  if n = 0 then "0"
  else String.ofList ((Nat.digits 36 n).reverse.map fun d =>
    Char.ofNat (if d < 10 then 48 + d else 87 + d))

def baseSlug (title : String) (now : ℕ) : String :=
  let dashed := collapseDashes ((jsTrim title).toList.flatMap slugChar)
  let slug := stripStart ['-'] (stripStart ['-'] dashed).reverse
  if slug.isEmpty then "servis-" ++ base36 now else String.ofList slug.reverse

def candidateSlug (baseSlug : String) (counter : ℕ) : String :=
  if counter = 0 then baseSlug else baseSlug ++ "-" ++ Nat.repr counter

example : baseSlug "  Şen & Öz Oto  " 0 = "sen-oz-oto" := by decide +kernel

end Slug

namespace Task

def after (check : Outcome Unit) (next : Task) : Task :=
  match check with
  | .error e => .finished (.error e)
  | .ok _ => next

def exec (db : Db) (t : Task) (env : Env) : Db × Task :=
  match t with
  | .findSlug dto =>
    (db, after (Outcome.reject (db.tenants.find? fun t => t.slug = dto.slug).isSome
      (.conflict "Bu servis URL kodu (slug) zaten kullanımda.")) (.commit (.registerTenant dto)))
  | .findStaff tenantId dto =>
    (db, after (db.createStaffCheck tenantId dto) (.commit (.createStaff tenantId dto)))
  | .findOne tenantId id currentUserRole dto =>
    (db, after (do
      let previousUser ← db.findOne tenantId id
      checkUpdateRole currentUserRole dto.role previousUser.role) (.findOther tenantId id dto))
  | .findOther tenantId id dto =>
    (db, after (db.updateStaffCheck tenantId id dto env.choice)
      (.commit (.updateStaff tenantId id dto)))
  | .findOwner dto =>
    (db, after (db.createTenantCheck dto) (.chooseSlug dto (baseSlug dto.title env.now) 0))
  | .chooseSlug dto baseSlug counter =>
    let slug := candidateSlug baseSlug counter
    (db, if (db.tenants.find? fun t => t.slug = slug).isSome
      then .chooseSlug dto baseSlug (counter + 1) else .commit (.createTenant dto slug))
  | .findBranch tenantId dto =>
    let branches := db.branches.filter fun b => b.tenantId = tenantId
    (db, after (Outcome.reject (db.tenants.get? tenantId).isNone (.database "P2025"))
      (.onboard tenantId (branches[env.choice % branches.length]?.map Prod.fst)
        ((firstText [dto.name]).map jsTrim) dto.staff []))
  | .onboard tenantId branchId title [] created =>
    (db, .commit (.completeOnboarding tenantId branchId title created))
  | .onboard tenantId branchId title (st :: staff) created =>
    (db, .onboard tenantId branchId title staff
      (if db.onboards tenantId branchId created st then created ++ [st] else created))
  | .commit w =>
    match db.commit w with
    | .error e => (db, .finished (.error e))
    | .ok db' => (db', .finished (.ok ()))
  | .finished answer => (db, .finished answer)

end Task

def Call.enter : Call → Task
  | registerTenant dto => .after dto.validate (.findSlug dto)
  | createStaff tenantId currentUserRole dto =>
    .after (do
      dto.validate
      checkCreateRole currentUserRole dto.role) (.findStaff tenantId dto)
  | updateStaff tenantId id currentUserRole dto =>
    .after dto.validate (.findOne tenantId id currentUserRole dto)
  | createTenant dto => .after dto.validate (.findOwner dto)
  | completeOnboarding tenantId dto => .after dto.validate (.findBranch tenantId dto)

abbrev System := Pool Db Task

def System.act : System → PoolAction Call Env → System := Pool.act Call.enter Task.exec

end WorksAuto.Accounts
