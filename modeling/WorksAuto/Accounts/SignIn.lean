import WorksAuto.Accounts.Users

/-! A created account can sign in.
Every spelling of a mobile number leads the sign-in to the same keys and to the
same five stored forms. A new account is under one of them unless `createTenant`
was given the number with a leading 0, and it is the user that is found when no
other active user is under one of them. -/

namespace WorksAuto.Accounts

open Lib

def Write.isCreateTenant : Write → Bool
  | createTenant _ _ => true
  | _ => false

def Db.NoneUnder (db : Db) (n : Mobile) : Prop :=
  ∀ k u, db.users.get? k = some u → u.isActive = true → u.phone ∉ n.formats

instance (db : Db) (n : Mobile) : Decidable (db.NoneUnder n) :=
  Table.decidableForall db.users

section Created

variable {db db' : Db} {w : Write} {n : Mobile} {p q : String} {user : User} {id k : Uuid}

theorem newUsers_phone_mem (h : (p, user) ∈ w.newUsers db) (hp : n.Spells p) :
    user.phone ∈ n.formats ↔ ¬ (w.isCreateTenant = true ∧ n.SpellsZero p) := by
  cases w with
  | registerTenant dto =>
    obtain ⟨rfl, rfl⟩ := Prod.mk.inj (List.mem_singleton.mp h)
    simp [Write.isCreateTenant, RegisterTenantDto.user, hp.normalizePhone, Mobile.formats]
  | createStaff tenantId dto =>
    obtain ⟨rfl, rfl⟩ := Prod.mk.inj (List.mem_singleton.mp h)
    simp [Write.isCreateTenant, CreateStaffDto.user, hp.staffPhone, Mobile.formats]
  | updateStaff tenantId id dto => cases h
  | createTenant dto slug =>
    obtain ⟨rfl, rfl⟩ := Prod.mk.inj (List.mem_singleton.mp h)
    simp only [Write.isCreateTenant, true_and, CreateTenantDto.ownerUser, hp.formattedPhone]
    split_ifs with hzero
    · simp only [hzero, not_true, iff_false]
      exact n.zeroForm_notMem_formats
    · simp [hzero, Mobile.formats]
  | completeOnboarding tenantId branchId title staff =>
    obtain ⟨st, -, hst⟩ := List.mem_filterMap.mp h
    obtain ⟨u, hu, he⟩ := Option.map_eq_some_iff.mp hst
    cases he
    unfold OnboardingStaffDto.user? at hu
    split_ifs at hu
    rw [hp.onboardingPhone] at hu
    cases hu
    simp [Write.isCreateTenant, Mobile.formats]

theorem revise_of_newUsers (h : (p, user) ∈ w.newUsers db) (k : Uuid) (old : User) :
    w.revise k old = old := by
  cases w with
  | updateStaff tenantId id dto => cases h
  | _ => rfl

theorem only_created (h : db.commit w = .ok db')
    (hnew : ((p, user), id) ∈ (w.newUsers db).zipIdx db.users.next)
    (hstored : user.phone ∈ n.formats) (hnone : db.NoneUnder n) {u : User}
    (hu : db'.users.get? k = some u) (hactive : u.isActive = true) (hphone : u.phone ∈ n.formats) :
    k = id := by
  obtain ⟨-, -, hfree, rfl⟩ := commit_eq_ok.mp h
  rcases of_get?_store_users hu with ⟨p', hp'⟩ | ⟨old, hold, rfl⟩
  · exact phones_unique hfree (mem_phones_of_created hp') (mem_phones_of_created hnew)
      (Mobile.subscriber?_of_mem_formats hphone) (Mobile.subscriber?_of_mem_formats hstored)
  · rw [revise_of_newUsers (List.fst_mem_of_mem_zipIdx hnew)] at hactive hphone
    exact absurd hphone (hnone k old hold hactive)

theorem findLoginUser_iff (hq : n.Spells q) :
    (∀ choice, db.findLoginUser q choice = some (id, user)) ↔ db.users.get? id = some user ∧
      (user.phone ∈ n.formats ∧ user.isActive = true) ∧
      ∀ k u, db.users.get? k = some u → u.phone ∈ n.formats ∧ u.isActive = true → k = id := by
  simp only [Db.findLoginUser, hq.loginPhones]
  refine Table.forall_choice_iff.trans ?_
  simp only [Bool.and_eq_true, decide_eq_true_eq]

theorem sendOtpUser_eq (hq : n.Spells q) (choice : ℕ) :
    db.sendOtpUser q choice = .ok (db.findLoginUser q choice) := by
  have hlength : ¬ (AuthService.normalizePhone q).length < 10 := by
    rw [hq.normalizePhone, String.length_ofList]
    simp
  simp [Db.sendOtpUser, hlength, Outcome.reject, bind, Except.bind, pure, Except.pure]

theorem verifyOtpUser_eq_ok {q : String} {choice : ℕ} {found : Uuid × User} :
    db.verifyOtpUser q choice = .ok found ↔ db.findLoginUser q choice = some found :=
  Outcome.required_eq_ok

/-- What an account is promised: whatever the spelling, both steps of the sign-in find it
and name the same keys. -/
structure Db.SignsIn (db : Db) (n : Mobile) (id : Uuid) (user : User) : Prop where
  sendOtp : ∀ q, n.Spells q → ∀ choice, db.sendOtpUser q choice = .ok (some (id, user))
  verifyOtp : ∀ q, n.Spells q → ∀ choice, db.verifyOtpUser q choice = .ok (id, user)
  redisKey : ∀ q r, n.Spells q → n.Spells r → AuthService.redisKey q = AuthService.redisKey r
  attemptKey : ∀ q r, n.Spells q → n.Spells r → AuthService.attemptKey q = AuthService.attemptKey r

theorem signsIn_iff : db.SignsIn n id user ↔
    ∀ q, n.Spells q → ∀ choice, db.findLoginUser q choice = some (id, user) := by
  constructor
  · intro h q hq choice
    exact verifyOtpUser_eq_ok.mp (h.verifyOtp q hq choice)
  · intro h
    refine ⟨fun q hq choice => ?_, fun q hq choice => verifyOtpUser_eq_ok.mpr (h q hq choice),
      fun q r hq hr => ?_, fun q r hq hr => ?_⟩
    · rw [sendOtpUser_eq hq, h q hq choice]
    · rw [AuthService.redisKey, AuthService.redisKey, hq.normalizePhone, hr.normalizePhone]
    · rw [AuthService.attemptKey, AuthService.attemptKey, hq.normalizePhone, hr.normalizePhone]

theorem created_signsIn_iff (h : db.commit w = .ok db')
    (hnew : ((p, user), id) ∈ (w.newUsers db).zipIdx db.users.next) (hp : n.Spells p) :
    db'.SignsIn n id user ↔
      ¬ (w.isCreateTenant = true ∧ n.SpellsZero p) ∧ db.NoneUnder n := by
  have hmem := List.fst_mem_of_mem_zipIdx hnew
  have hactive := Write.newUsers_isActive hmem
  have hstore : db.store w = db' := (commit_eq_ok.mp h).2.2.2
  have hget : db'.users.get? id = some user := by
    rw [← hstore]
    exact get?_store_created hnew
  rw [signsIn_iff, ← newUsers_phone_mem hmem hp]
  constructor
  · intro hfind
    obtain ⟨-, hstored, honly⟩ := (findLoginUser_iff n.spells_digits).mp (hfind _ n.spells_digits)
    refine ⟨hstored.1, fun k old hold hold_active hphone => ?_⟩
    have hstays : db'.users.get? k = some old := by
      rw [← hstore, get?_store_of_some hold, revise_of_newUsers hmem]
    obtain rfl := honly k old hstays ⟨hphone, hold_active⟩
    have hlt := Table.get?_lt hold
    have hle := (mem_zipIdx_newUsers.mp hnew).1
    omega
  · rintro ⟨hstored, hnone⟩ q hq
    refine (findLoginUser_iff hq).mpr ⟨hget, ⟨hstored, hactive⟩, fun k u hu hfound => ?_⟩
    exact only_created h hnew hstored hnone hu hfound.2 hfound.1

end Created

section Example

def emptyDb : Db where
  tenants := .empty
  branches := .empty
  users := .empty

def exampleMobile : Mobile where
  rest := ['3', '2', '1', '1', '1', '2', '2', '3', '3']
  nine := by decide +kernel
  isDigit := List.all_eq_true.mp (by decide +kernel)

def exampleStaffDto : CreateStaffDto where
  name := "Ali"
  surname := "Usta"
  phone := "0 (532) 111 22 33"
  role := .technician

def exampleTenantDto : CreateTenantDto where
  title := "Acar Oto"
  phone := "0532 111 22 33"
  ownerName := "Ahmet"
  ownerSurname := "Acar"
  isActive := none

theorem created_signsIn_staff :
    ((emptyDb.store (.createStaff 7 exampleStaffDto)).SignsIn exampleMobile 0
      (exampleStaffDto.user 7) ↔
      ¬ (Write.isCreateTenant (.createStaff 7 exampleStaffDto) = true ∧
        exampleMobile.SpellsZero exampleStaffDto.phone) ∧ emptyDb.NoneUnder exampleMobile) ∧
      (emptyDb.store (.createStaff 7 exampleStaffDto)).SignsIn exampleMobile 0
        (exampleStaffDto.user 7) := by
  have hnew : ((exampleStaffDto.phone, exampleStaffDto.user 7), 0) ∈
      (Write.newUsers emptyDb (.createStaff 7 exampleStaffDto)).zipIdx emptyDb.users.next :=
    List.mem_singleton_self _
  have h := created_signsIn_iff rfl hnew (show exampleMobile.Spells _ by decide +kernel)
  exact ⟨h, h.mpr (by decide +kernel)⟩

/-- `createTenant` with a leading 0 stores a number that no sign-in looks for. -/
theorem createTenant_zero_never_found :
    ¬ ∀ (db db' : Db) (w : Write) (n : Mobile) (p : String) (user : User) (id : Uuid),
      db.commit w = .ok db' → ((p, user), id) ∈ (w.newUsers db).zipIdx db.users.next →
        n.Spells p → db'.SignsIn n id user := by
  intro h
  have hsigns := h emptyDb _ (.createTenant exampleTenantDto "acar-oto") exampleMobile
    exampleTenantDto.phone (exampleTenantDto.ownerUser 0 0) 0 rfl (List.mem_singleton_self _)
    (by decide +kernel)
  have hfound := hsigns.verifyOtp "0532 111 22 33" (by decide +kernel) 0
  revert hfound
  decide +kernel

end Example

end WorksAuto.Accounts
