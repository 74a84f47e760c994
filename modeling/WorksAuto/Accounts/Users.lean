import WorksAuto.Accounts.Phone
import WorksAuto.Schema

/-! The writers of user accounts and the lookup of the sign-in.
Each writer reads what it checks first and stores its rows in one transaction at
the end; `Db.commit` is that transaction. The unique index on `users.phone`
compares texts, so it tells two forms of one number apart. -/

namespace WorksAuto.Accounts

open Lib

structure Tenant where
  slug : String
  title : String
  phone : String
  isActive : Bool
  deriving DecidableEq, Repr

structure Branch where
  tenantId : Uuid
  name : String
  code : String
  isCentral : Bool
  phone : String
  deriving DecidableEq, Repr

structure User where
  tenantId : Option Uuid
  branchId : Option Uuid
  name : String
  surname : String
  phone : String
  role : UserRole
  isActive : Bool
  deriving DecidableEq, Repr

structure Db where
  tenants : Table Tenant
  branches : Table Branch
  users : Table User

structure RegisterTenantDto where
  tenantTitle : String
  slug : String
  phone : String
  firstName : String
  lastName : String
  deriving DecidableEq, Repr

structure CreateStaffDto where
  name : String
  surname : String
  phone : String
  role : UserRole
  deriving DecidableEq, Repr

structure UpdateStaffDto where
  name : Option String
  surname : Option String
  phone : Option String
  role : Option UserRole
  isActive : Option Bool
  deriving DecidableEq, Repr

structure CreateTenantDto where
  title : String
  phone : String
  ownerName : String
  ownerSurname : String
  isActive : Option Bool
  deriving DecidableEq, Repr

structure OnboardingStaffDto where
  name : String
  surname : Option String
  phone : String
  deriving DecidableEq, Repr

structure CompleteOnboardingDto where
  name : Option String
  staff : List OnboardingStaffDto
  deriving DecidableEq, Repr

section Validation

def phoneMessage : ApiError := .badRequest "Telefon numarası boş bırakılamaz."

def gsmMessage (owner : String) (sample : String) : ApiError :=
  .badRequest (owner ++ " cep telefonu geçerli bir Türkiye GSM formatında olmalıdır (Örn: " ++
    sample ++ ")")

def RegisterTenantDto.validate (dto : RegisterTenantDto) : Outcome Unit :=
  Outcome.reject (dto.phone = "") phoneMessage

def CreateStaffDto.validate (dto : CreateStaffDto) : Outcome Unit := do
  Outcome.reject (dto.phone = "") phoneMessage
  Outcome.reject (!matchesGsm dto.phone) (gsmMessage "Personel" "0532 123 45 67")

def UpdateStaffDto.validate (dto : UpdateStaffDto) : Outcome Unit :=
  Outcome.reject (dto.phone.any fun phone => !matchesGsm phone)
    (gsmMessage "Personel" "0532 123 45 67")

def CreateTenantDto.validate (dto : CreateTenantDto) : Outcome Unit :=
  Outcome.reject (dto.phone = "") (.badRequest "phone should not be empty")

def CompleteOnboardingDto.validate (dto : CompleteOnboardingDto) : Outcome Unit :=
  Outcome.reject (dto.staff.any fun st => !matchesGsm st.phone) (gsmMessage "Usta" "0532 123 45 67")

end Validation

section Rows

def RegisterTenantDto.tenant (dto : RegisterTenantDto) : Tenant where
  slug := dto.slug
  title := dto.tenantTitle
  phone := AuthService.normalizePhone dto.phone
  isActive := true

def RegisterTenantDto.user (dto : RegisterTenantDto) (tenantId : Uuid) : User where
  tenantId := some tenantId
  branchId := none
  name := dto.firstName
  surname := dto.lastName
  phone := AuthService.normalizePhone dto.phone
  role := .owner
  isActive := true

def CreateStaffDto.user (dto : CreateStaffDto) (tenantId : Uuid) : User where
  tenantId := some tenantId
  branchId := none
  name := dto.name
  surname := dto.surname
  phone := StaffService.normalizePhone dto.phone
  role := dto.role
  isActive := true

/-- `if (dto.field) updateData.field = dto.field`. -/
def given (text : Option String) (old : String) : String := (firstText [text]).getD old

def UpdateStaffDto.normalizedPhone (dto : UpdateStaffDto) : Option String :=
  (firstText [dto.phone]).map StaffService.normalizePhone

def UpdateStaffDto.updateData (dto : UpdateStaffDto) (user : User) : User :=
  { user with
    name := given dto.name user.name
    surname := given dto.surname user.surname
    phone := given dto.normalizedPhone user.phone
    role := dto.role.getD user.role
    isActive := dto.isActive.getD user.isActive }

def CreateTenantDto.tenant (dto : CreateTenantDto) (slug : String) : Tenant where
  slug
  title := jsTrim dto.title
  phone := AdminTenantService.formattedPhone dto.phone
  isActive := dto.isActive.getD true

def CreateTenantDto.centralBranch (dto : CreateTenantDto) (tenantId : Uuid) : Branch where
  tenantId
  name := "Merkez Şube"
  code := "MKZ"
  isCentral := true
  phone := AdminTenantService.formattedPhone dto.phone

def CreateTenantDto.ownerUser (dto : CreateTenantDto) (tenantId branchId : Uuid) : User where
  tenantId := some tenantId
  branchId := some branchId
  name := jsTrim dto.ownerName
  surname := jsTrim dto.ownerSurname
  phone := AdminTenantService.formattedPhone dto.phone
  role := .owner
  isActive := true

/-- A member of staff that `completeOnboarding` does not skip. -/
def OnboardingStaffDto.user? (st : OnboardingStaffDto) (tenantId : Uuid) (branchId : Option Uuid) :
    Option User :=
  if jsTrim st.name = "" ∨ st.phone = "" then none
  else (TenantsService.normalizedPhone st.phone).map fun normalizedPhone =>
    { tenantId := some tenantId
      branchId
      name := jsTrim st.name
      surname := jsTrim (st.surname.getD "")
      phone := normalizedPhone
      role := .technician
      isActive := true }

end Rows

inductive Write where
  | registerTenant (dto : RegisterTenantDto)
  | createStaff (tenantId : Uuid) (dto : CreateStaffDto)
  | updateStaff (tenantId id : Uuid) (dto : UpdateStaffDto)
  | createTenant (dto : CreateTenantDto) (slug : String)
  /-- `staff` are the members that no user was found for. -/
  | completeOnboarding (tenantId : Uuid) (branchId : Option Uuid) (title : Option String)
      (staff : List OnboardingStaffDto)
  deriving DecidableEq, Repr

namespace Write

/-- The users a transaction creates, each with the phone text it was asked for. -/
def newUsers (db : Db) : Write → List (String × User)
  | registerTenant dto => [(dto.phone, dto.user db.tenants.next)]
  | createStaff tenantId dto => [(dto.phone, dto.user tenantId)]
  | updateStaff _ _ _ => []
  | createTenant dto _ => [(dto.phone, dto.ownerUser db.tenants.next db.branches.next)]
  | completeOnboarding tenantId branchId _ staff =>
    staff.filterMap fun st => (st.user? tenantId branchId).map fun user => (st.phone, user)

/-- The phone texts a transaction stores, with the users it stores them for. -/
def phones (db : Db) : Write → List (Uuid × String)
  | updateStaff _ id dto => (firstText [dto.normalizedPhone]).toList.map (id, ·)
  | w => ((w.newUsers db).zipIdx db.users.next).map fun q => (q.2, q.1.2.phone)

def rowExists (db : Db) : Write → Bool
  | updateStaff tenantId id _ => (db.users.get? id).any fun u => u.tenantId = some tenantId
  | completeOnboarding tenantId _ _ _ => (db.tenants.get? tenantId).isSome
  | _ => true

def slugFree (db : Db) : Write → Bool
  | registerTenant dto => (db.tenants.find? fun t => t.slug = dto.slug).isNone
  | createTenant _ slug => (db.tenants.find? fun t => t.slug = slug).isNone
  | _ => true

/-- The unique index on `users.phone`. -/
def phonesFree (db : Db) (w : Write) : Bool :=
  (w.phones db).all (fun q => db.users.rows.all fun r => r.1 = q.1 || r.2.phone ≠ q.2) &&
    ((w.phones db).map Prod.snd).Nodup

end Write

def Db.store (db : Db) (w : Write) : Db :=
  match w with
  | .registerTenant dto =>
    { db with
      tenants := db.tenants.insert dto.tenant
      users := ((w.newUsers db).map Prod.snd).foldl Table.insert db.users }
  | .createStaff _ _ =>
    { db with users := ((w.newUsers db).map Prod.snd).foldl Table.insert db.users }
  | .updateStaff _ id dto => { db with users := db.users.modify id dto.updateData }
  | .createTenant dto slug =>
    { tenants := db.tenants.insert (dto.tenant slug)
      branches := db.branches.insert (dto.centralBranch db.tenants.next)
      users := ((w.newUsers db).map Prod.snd).foldl Table.insert db.users }
  | .completeOnboarding tenantId _ title _ =>
    { db with
      tenants := db.tenants.modify tenantId fun t => { t with title := title.getD t.title }
      users := ((w.newUsers db).map Prod.snd).foldl Table.insert db.users }

def Db.commit (db : Db) (w : Write) : Outcome Db := do
  Outcome.reject (!w.rowExists db) (.database "P2025")
  Outcome.reject (!w.slugFree db) (.database "P2002")
  Outcome.reject (!w.phonesFree db) (.database "P2002")
  pure (db.store w)

section Store

variable {db db' : Db} {w : Write} {p : String} {user : User} {id k : Uuid} {text : String}

theorem commit_eq_ok :
    db.commit w = .ok db' ↔ w.rowExists db = true ∧ w.slugFree db = true ∧
      w.phonesFree db = true ∧ db.store w = db' := by
  constructor
  · intro h
    obtain ⟨_, hrow, h₁⟩ := Outcome.bind_eq_ok.mp h
    obtain ⟨_, hslug, h₂⟩ := Outcome.bind_eq_ok.mp h₁
    obtain ⟨_, hphones, h₃⟩ := Outcome.bind_eq_ok.mp h₂
    rw [Outcome.reject_eq_ok, Bool.not_eq_false'] at hrow hslug hphones
    exact ⟨hrow, hslug, hphones, Outcome.pure_eq_ok.mp h₃⟩
  · rintro ⟨hrow, hslug, hphones, rfl⟩
    simp only [Db.commit, hrow, hslug, hphones]
    rfl

theorem Write.newUsers_isActive (h : (p, user) ∈ w.newUsers db) : user.isActive = true := by
  cases w with
  | updateStaff tenantId id dto => cases h
  | completeOnboarding tenantId branchId title staff =>
    obtain ⟨st, -, hst⟩ := List.mem_filterMap.mp h
    obtain ⟨u, hu, he⟩ := Option.map_eq_some_iff.mp hst
    cases he
    unfold OnboardingStaffDto.user? at hu
    split_ifs at hu
    obtain ⟨normalizedPhone, -, rfl⟩ := Option.map_eq_some_iff.mp hu
    rfl
  | _ =>
    obtain ⟨-, rfl⟩ := Prod.mk.inj (List.mem_singleton.mp h)
    rfl

def Write.revise (w : Write) (k : Uuid) (user : User) : User :=
  match w with
  | updateStaff _ id dto => if k = id then dto.updateData user else user
  | _ => user

theorem get?_store_users (db : Db) (w : Write) (k : Uuid) :
    (db.store w).users.get? k = ((db.users.get? k).map (w.revise k)).or
      (if db.users.next ≤ k then ((w.newUsers db).map Prod.snd)[k - db.users.next]? else none) := by
  cases w with
  | updateStaff tenantId id dto =>
    simp only [Db.store, Table.get?_modify, Write.newUsers, List.map_nil, List.getElem?_nil,
      ite_self, Option.or_none]
    rfl
  | _ =>
    have hid : ∀ o : Option User, o.map (fun u => u) = o := fun o => Option.map_id' ..
    refine (Table.get?_foldl_insert_eq _ _ _).trans ?_
    exact congrArg (Option.or · _) (hid _).symm

theorem mem_zipIdx_newUsers :
    ((p, user), id) ∈ (w.newUsers db).zipIdx db.users.next ↔
      db.users.next ≤ id ∧ (w.newUsers db)[id - db.users.next]? = some (p, user) :=
  List.mem_zipIdx_iff_le_and_getElem?_sub

theorem get?_store_created (h : ((p, user), id) ∈ (w.newUsers db).zipIdx db.users.next) :
    (db.store w).users.get? id = some user := by
  obtain ⟨hle, hget⟩ := mem_zipIdx_newUsers.mp h
  have hnone : db.users.get? id = none := by
    cases hid : db.users.get? id with
    | none => rfl
    | some u => exact absurd (Table.get?_lt hid) (by omega)
  rw [get?_store_users, hnone, if_pos hle, List.getElem?_map, hget]
  rfl

theorem of_get?_store_users (h : (db.store w).users.get? k = some user) :
    (∃ p, ((p, user), k) ∈ (w.newUsers db).zipIdx db.users.next) ∨
      ∃ old, db.users.get? k = some old ∧ user = w.revise k old := by
  rw [get?_store_users] at h
  rcases Option.or_eq_some_iff.mp h with hold | ⟨-, hnew⟩
  · obtain ⟨old, hk, rfl⟩ := Option.map_eq_some_iff.mp hold
    exact .inr ⟨old, hk, rfl⟩
  · split_ifs at hnew with hle
    rw [List.getElem?_map] at hnew
    obtain ⟨q, hq, rfl⟩ := Option.map_eq_some_iff.mp hnew
    exact .inl ⟨q.1, mem_zipIdx_newUsers.mpr ⟨hle, hq⟩⟩

theorem get?_store_of_some {old : User} (h : db.users.get? k = some old) :
    (db.store w).users.get? k = some (w.revise k old) := by
  rw [get?_store_users, h]
  rfl

theorem Write.revise_phone (db : Db) (w : Write) (k : Uuid) (old : User) :
    (w.revise k old).phone = old.phone ∨ (k, (w.revise k old).phone) ∈ w.phones db := by
  cases w with
  | updateStaff tenantId id dto =>
    by_cases hk : k = id
    · subst hk
      simp only [revise, if_true, UpdateStaffDto.updateData, given, Write.phones]
      cases firstText [dto.normalizedPhone] with
      | none => exact .inl rfl
      | some text => exact .inr (List.mem_map.mpr ⟨text, List.mem_singleton_self _, rfl⟩)
    · exact .inl (congrArg User.phone (if_neg hk))
  | _ => exact .inl rfl

theorem mem_phones_of_created (h : ((p, user), id) ∈ (w.newUsers db).zipIdx db.users.next) :
    (id, user.phone) ∈ w.phones db := by
  cases w with
  | updateStaff tenantId id dto => cases h
  | _ => exact List.mem_map.mpr ⟨_, h, rfl⟩

theorem phones_text_unique {i j : Uuid} {a b : String} {number : List Char}
    (ha : (i, a) ∈ w.phones db) (hb : (j, b) ∈ w.phones db) (hna : subscriber? a = some number)
    (hnb : subscriber? b = some number) : a = b := by
  cases w with
  | completeOnboarding tenantId branchId title staff =>
    have hform : ∀ {k : Uuid} {text : String},
        (k, text) ∈ Write.phones db (.completeOnboarding tenantId branchId title staff) →
          subscriber? text = some number → text = String.ofList (['+', '9', '0'] ++ number) := by
      intro k text hmem hnumber
      obtain ⟨⟨⟨p, user⟩, i⟩, hzip, he⟩ := List.mem_map.mp hmem
      cases he
      obtain ⟨st, -, hst⟩ := List.mem_filterMap.mp (List.fst_mem_of_mem_zipIdx hzip)
      obtain ⟨u, hu, he⟩ := Option.map_eq_some_iff.mp hst
      cases he
      unfold OnboardingStaffDto.user? at hu
      split_ifs at hu
      obtain ⟨normalizedPhone, hphone, rfl⟩ := Option.map_eq_some_iff.mp hu
      obtain ⟨digits, rfl, hdigits⟩ := onboardingPhone_eq_some hphone
      obtain rfl := Option.some.inj (hdigits.symm.trans hnumber)
      rfl
    rw [hform ha hna, hform hb hnb]
  | updateStaff tenantId id dto =>
    obtain ⟨s, hs, he⟩ := List.mem_map.mp ha
    obtain ⟨t, ht, he'⟩ := List.mem_map.mp hb
    cases he
    cases he'
    exact Option.some.inj ((Option.mem_toList.mp hs).symm.trans (Option.mem_toList.mp ht))
  | _ =>
    have hone := (List.mem_singleton.mp ha).trans (List.mem_singleton.mp hb).symm
    exact congrArg Prod.snd hone

theorem phones_unique {i j : Uuid} {a b : String} {number : List Char}
    (hfree : w.phonesFree db = true) (ha : (i, a) ∈ w.phones db) (hb : (j, b) ∈ w.phones db)
    (hna : subscriber? a = some number) (hnb : subscriber? b = some number) : i = j := by
  have htext := phones_text_unique ha hb hna hnb
  subst htext
  have hnodup : ((w.phones db).map Prod.snd).Nodup := by
    simp only [Write.phonesFree, Bool.and_eq_true, decide_eq_true_eq] at hfree
    exact hfree.2
  exact congrArg Prod.fst (List.inj_on_of_nodup_map hnodup ha hb rfl)

end Store

section Login

/-- `findFirst` without an order: any of the rows that match. -/
def Db.findLoginUser (db : Db) (phone : String) (choice : ℕ) : Option (Uuid × User) :=
  let found := db.users.filter fun u => u.phone ∈ AuthService.loginPhones phone && u.isActive
  found[choice % found.length]?

/-- The user lookup of `sendOtp`. -/
def Db.sendOtpUser (db : Db) (phone : String) (choice : ℕ) : Outcome (Option (Uuid × User)) := do
  Outcome.reject ((AuthService.normalizePhone phone).length < 10)
    (.badRequest "Lütfen geçerli bir cep telefonu numarası giriniz.")
  pure (db.findLoginUser phone choice)

/-- The user lookup of `verifyOtp`. -/
def Db.verifyOtpUser (db : Db) (phone : String) (choice : ℕ) : Outcome (Uuid × User) :=
  Outcome.required (db.findLoginUser phone choice)
    (.unauthorized "Bu telefon numarasına ait kullanıcı hesabı bulunamadı.")

end Login

end WorksAuto.Accounts
