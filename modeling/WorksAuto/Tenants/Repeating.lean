import Mathlib.Data.List.TakeWhile
import WorksAuto.Lib.Run
import WorksAuto.Tenants.Onboarding

/-! When an onboarding can be repeated.
A call creates what it does not find, so the second call with the same body creates nothing.
The first one may fail: its codes begin at one again whatever codes there are, and a number
may belong to a user that row security hides. -/

namespace WorksAuto.Tenants

open Lib

section Statements

structure Db.SameRegister (db db' : Db) : Prop where
  services : db'.services = db.services
  users : db'.users = db.users
  mechanics : db'.mechanics = db.mechanics
  workshopBays : db'.workshopBays = db.workshopBays

/-- No collision, every submitted service is there once, and the same call again changes
nothing. -/
structure Db.OnboardsOnce (db : Db) (tenantId : Uuid) (dto : CompleteOnboardingDto) (env : Env) :
    Prop where
  noCollision : db.completeOnboarding tenantId dto env ≠ .error uniqueViolation
  named : ∀ db', db.completeOnboarding tenantId dto env = .ok db' →
    ∀ s ∈ dto.services, s.trimmedName ≠ "" →
      (db'.servicesNamed tenantId s.trimmedName).length = 1
  repeats : ∀ db', db.completeOnboarding tenantId dto env = .ok db' →
    ∀ again, db'.SameRegister (db'.act (.completeOnboarding tenantId dto, again))

def OnboardingService.storable (s : OnboardingService) : Bool := s.columns.isOk

/-- The services that have a name of their own, besides those that are known. -/
def newServices : (String → Bool) → List OnboardingService → List OnboardingService
  | _, [] => []
  | known, s :: rest =>
    if s.trimmedName = "" || known s.trimmedName then newServices known rest
    else s :: newServices (fun name => known name || name == s.trimmedName) rest

def Db.known (db : Db) (tenantId : Uuid) (name : String) : Bool :=
  !(db.servicesNamed tenantId name).isEmpty

def Db.newServices (db : Db) (tenantId : Uuid) (dto : CompleteOnboardingDto) :
    List OnboardingService :=
  Tenants.newServices (db.known tenantId) dto.services

def Db.startsOnboarding (db : Db) (tenantId : Uuid) (env : Env) : Prop :=
  env.storesProfile = true ∧ (db.tenants.get? tenantId).isSome = true

def Db.storesServices (db : Db) (tenantId : Uuid) (dto : CompleteOnboardingDto) (env : Env) :
    Prop :=
  db.startsOnboarding tenantId env ∧ ∀ s ∈ db.newServices tenantId dto, s.storable = true

/-- The tenant has a user for the member of staff, or nobody has the number. -/
def Db.staffFree (db : Db) (tenantId : Uuid) (st : OnboardingStaff) : Prop :=
  ∀ user ∈ st.user? tenantId none,
    db.staffWith tenantId (st.phones user) ≠ [] ∨ db.phoneTaken user.phone = false

/-- The codes from one on are free for the new services, every submitted name belongs to one
service at most, and the numbers of the staff are free or the tenant's own. -/
structure Db.Clear (db : Db) (tenantId : Uuid) (dto : CompleteOnboardingDto) (env : Env) :
    Prop where
  codes : db.startsOnboarding tenantId env →
    ∀ k < ((db.newServices tenantId dto).takeWhile OnboardingService.storable).length,
      db.codeTaken tenantId (OnboardingService.code (k + 1)) = false
  names : db.storesServices tenantId dto env → ∀ s ∈ dto.services, s.trimmedName ≠ "" →
    (db.servicesNamed tenantId s.trimmedName).length ≤ 1
  phones : db.storesServices tenantId dto env → ∀ st ∈ dto.staff, db.staffFree tenantId st

end Statements

section Services

variable {tenantId : Uuid} {db db' : Db} {i j : ℕ} {s : OnboardingService}
  {services : List OnboardingService}

theorem code_injective {i j : ℕ} (h : OnboardingService.code i = OnboardingService.code j) :
    i = j := by
  have hchars := congrArg String.toList h
  simp only [OnboardingService.code, String.toList_append] at hchars
  exact padStart_injective (String.toList_inj.mp (List.append_cancel_left hchars))

theorem columns_ne_unique : s.columns ≠ .error uniqueViolation := by
  unfold OnboardingService.columns intColumn int4 numeric
  split_ifs <;> simp [bind, Except.bind, pure, Except.pure, uniqueViolation]

theorem servicesNamed_insert (db : Db) (row : Service) (name : String) :
    ({ db with services := db.services.insert row } : Db).servicesNamed tenantId name =
      db.servicesNamed tenantId name ++
        if row.tenantId = tenantId ∧ row.name = name then [(db.services.next, row)] else [] := by
  simp only [Db.servicesNamed, Table.filter_insert, decide_eq_true_eq]

theorem codeTaken_insert (db : Db) (row : Service) (code : String) :
    ({ db with services := db.services.insert row } : Db).codeTaken tenantId code =
      (db.codeTaken tenantId code || decide (row.tenantId = tenantId ∧ row.code = code)) := by
  simp only [Db.codeTaken, Table.find?_insert, Option.isSome_or]
  split_ifs with h
  · simp only [h, Option.isSome_some]
  · simp only [h, Option.isSome_none]

def Db.withService (db : Db) (tenantId : Uuid) (i : ℕ) (s : OnboardingService)
    (columns : ℤ × ℤ) : Db :=
  { db with services := db.services.insert (s.row tenantId i columns) }

theorem known_withService (db : Db) (i : ℕ) (s : OnboardingService) (columns : ℤ × ℤ) :
    (db.withService tenantId i s columns).known tenantId =
      fun name => db.known tenantId name || name == s.trimmedName := by
  funext name
  simp only [Db.known, Db.withService, servicesNamed_insert, OnboardingService.row, true_and]
  by_cases h : s.trimmedName = name
  · subst h
    simp
  · have hne : (name == s.trimmedName) = false := by simpa using Ne.symm h
    simp [h, hne]

theorem codeTaken_withService (db : Db) (s : OnboardingService) (columns : ℤ × ℤ) (h : i ≠ j) :
    (db.withService tenantId i s columns).codeTaken tenantId (OnboardingService.code j) =
      db.codeTaken tenantId (OnboardingService.code j) := by
  have hne : ¬ OnboardingService.code i = OnboardingService.code j := fun hc => h (code_injective hc)
  simp only [Db.withService, codeTaken_insert, OnboardingService.row, hne, and_false, decide_false,
    Bool.or_false]

theorem create_of_free {columns : ℤ × ℤ} (hcolumns : s.columns = .ok columns)
    (hfree : db.codeTaken tenantId (OnboardingService.code i) = false) :
    createOnboardingService tenantId (db, i) s =
      .ok (db.withService tenantId i s columns, i + 1) := by
  simp only [createOnboardingService, hcolumns, hfree]
  rfl

theorem create_of_taken {columns : ℤ × ℤ} (hcolumns : s.columns = .ok columns)
    (htaken : db.codeTaken tenantId (OnboardingService.code i) = true) :
    createOnboardingService tenantId (db, i) s = .error uniqueViolation := by
  simp only [createOnboardingService, hcolumns, htaken]
  rfl

theorem create_of_refused {e : ApiError} (hcolumns : s.columns = .error e) :
    createOnboardingService tenantId (db, i) s = .error e := by
  simp only [createOnboardingService, hcolumns]
  rfl

theorem create_eq_ok {state : Db × ℕ} :
    createOnboardingService tenantId (db, i) s = .ok state ↔
      ∃ columns, s.columns = .ok columns ∧
        db.codeTaken tenantId (OnboardingService.code i) = false ∧
          (db.withService tenantId i s columns, i + 1) = state := by
  cases hcolumns : s.columns with
  | error e =>
    rw [create_of_refused hcolumns]
    simp
  | ok columns =>
    cases htaken : db.codeTaken tenantId (OnboardingService.code i) with
    | true =>
      rw [create_of_taken hcolumns htaken]
      simp
    | false =>
      rw [create_of_free hcolumns htaken]
      simp

theorem storable_iff : s.storable = true ↔ ∃ columns, s.columns = .ok columns := Outcome.isOk_iff

theorem serviceFound_eq_false :
    serviceFound tenantId (db, i) s = false ↔
      (s.trimmedName = "" || db.known tenantId s.trimmedName) = false := by
  rw [serviceFound, Db.known]

theorem newServices_of_found (h : serviceFound tenantId (db, i) s = true) :
    newServices (db.known tenantId) (s :: services) = newServices (db.known tenantId) services := by
  rw [newServices]
  exact if_pos h

theorem newServices_of_not_found (h : serviceFound tenantId (db, i) s = false) (columns : ℤ × ℤ) :
    newServices (db.known tenantId) (s :: services) =
      s :: newServices ((db.withService tenantId i s columns).known tenantId) services := by
  rw [newServices, known_withService]
  exact if_neg (by simpa using serviceFound_eq_false.mp h)

theorem services_collide_iff :
    ensureAll (serviceFound tenantId) (createOnboardingService tenantId) services (db, i) =
        .error uniqueViolation ↔
      ∃ k < ((newServices (db.known tenantId) services).takeWhile
          OnboardingService.storable).length,
        db.codeTaken tenantId (OnboardingService.code (i + k)) = true := by
  induction services generalizing db i with
  | nil => simp [ensureAll, newServices]
  | cons s services ih =>
    cases hfound : serviceFound tenantId (db, i) s with
    | true => rw [ensureAll_cons_of_found hfound, newServices_of_found hfound, ih]
    | false =>
      cases hcolumns : s.columns with
      | error e =>
        have hnot : s.storable = false := by rw [OnboardingService.storable, hcolumns]; rfl
        rw [ensureAll_cons_of_failed hfound (create_of_refused hcolumns),
          newServices_of_not_found hfound (0, 0), List.takeWhile_cons_of_neg (by simp [hnot])]
        refine iff_of_false (fun he => ?_) (by simp)
        rw [Except.error.inj he] at hcolumns
        exact columns_ne_unique hcolumns
      | ok columns =>
        have hstorable : s.storable = true := storable_iff.mpr ⟨columns, hcolumns⟩
        rw [newServices_of_not_found hfound columns, List.takeWhile_cons_of_pos hstorable,
          List.length_cons, Nat.exists_lt_succ_left]
        cases htaken : db.codeTaken tenantId (OnboardingService.code i) with
        | true =>
          rw [ensureAll_cons_of_failed hfound (create_of_taken hcolumns htaken)]
          exact iff_of_true rfl (.inl rfl)
        | false =>
          rw [ensureAll_cons_of_created hfound (create_of_free hcolumns htaken), ih]
          rw [or_iff_right Bool.false_ne_true]
          refine exists_congr fun k => and_congr_right fun _ => ?_
          rw [codeTaken_withService db s columns (by omega), Nat.add_right_comm, Nat.add_assoc]

theorem services_stored_iff :
    (∃ state, ensureAll (serviceFound tenantId) (createOnboardingService tenantId) services
        (db, i) = .ok state) ↔
      (∀ s ∈ newServices (db.known tenantId) services, s.storable = true) ∧
        ∀ k < (newServices (db.known tenantId) services).length,
          db.codeTaken tenantId (OnboardingService.code (i + k)) = false := by
  induction services generalizing db i with
  | nil => simp [ensureAll, newServices]
  | cons s services ih =>
    cases hfound : serviceFound tenantId (db, i) s with
    | true => rw [ensureAll_cons_of_found hfound, newServices_of_found hfound, ih]
    | false =>
      cases hcolumns : s.columns with
      | error e =>
        have hnot : s.storable = false := by rw [OnboardingService.storable, hcolumns]; rfl
        rw [ensureAll_cons_of_failed hfound (create_of_refused hcolumns),
          newServices_of_not_found hfound (0, 0)]
        refine iff_of_false (by simp) fun hall => ?_
        have hs := hall.1 s List.mem_cons_self
        rw [hnot] at hs
        cases hs
      | ok columns =>
        have hstorable : s.storable = true := storable_iff.mpr ⟨columns, hcolumns⟩
        rw [newServices_of_not_found hfound columns, List.forall_mem_cons, List.length_cons,
          Nat.forall_lt_succ_left]
        cases htaken : db.codeTaken tenantId (OnboardingService.code i) with
        | true =>
          rw [ensureAll_cons_of_failed hfound (create_of_taken hcolumns htaken)]
          refine iff_of_false (by simp) fun hall => ?_
          cases hall.2.1
        | false =>
          rw [ensureAll_cons_of_created hfound (create_of_free hcolumns htaken), ih,
            and_iff_right hstorable]
          refine and_congr_right fun _ => ?_
          rw [and_iff_right rfl]
          refine forall₂_congr fun k _ => ?_
          rw [codeTaken_withService db s columns (by omega), Nat.add_right_comm, Nat.add_assoc]

theorem ensures_services (tenantId : Uuid) :
    Ensures (serviceFound tenantId) (createOnboardingService tenantId) where
  finds := by
    rintro ⟨db, i⟩ s state h
    obtain ⟨columns, -, -, rfl⟩ := create_eq_ok.mp h
    have hknown : (db.withService tenantId i s columns).known tenantId s.trimmedName = true := by
      simp [known_withService]
    rw [serviceFound, Bool.or_eq_true]
    exact .inr hknown
  keeps := by
    rintro ⟨db, i⟩ s state q h hq
    obtain ⟨columns, -, -, rfl⟩ := create_eq_ok.mp h
    rw [serviceFound, Bool.or_eq_true] at hq ⊢
    refine hq.imp_right fun hq => ?_
    have hknown : (db.withService tenantId i s columns).known tenantId q.trimmedName = true := by
      rw [known_withService, Bool.or_eq_true]
      exact .inl hq
    exact hknown

def NamedWithin (tenantId : Uuid) (db db' : Db) : Prop :=
  ∀ name, (db.servicesNamed tenantId name).length ≤ (db'.servicesNamed tenantId name).length ∧
    (db'.servicesNamed tenantId name).length ≤ max 1 (db.servicesNamed tenantId name).length

structure Db.SameBesidesServices (db db' : Db) : Prop where
  tenants : db'.tenants = db.tenants
  users : db'.users = db.users
  mechanics : db'.mechanics = db.mechanics
  workshopBays : db'.workshopBays = db.workshopBays

theorem services_named {state : Db × ℕ}
    (h : ensureAll (serviceFound tenantId) (createOnboardingService tenantId) services (db, i) =
      .ok state) : NamedWithin tenantId db state.1 := by
  refine ensureAll_rel (R := fun x y => NamedWithin tenantId x.1 y.1) ?_ ?_ ?_ h
  · exact fun x name => ⟨le_rfl, le_max_right ..⟩
  · intro x y z hxy hyz name
    have h₁ := hxy name
    have h₂ := hyz name
    omega
  · rintro ⟨db, i⟩ s y hfound hc name
    obtain ⟨columns, -, -, rfl⟩ := create_eq_ok.mp hc
    have hinsert : ((db.withService tenantId i s columns).servicesNamed tenantId name).length =
        (db.servicesNamed tenantId name).length + if s.trimmedName = name then 1 else 0 := by
      simp only [Db.withService, servicesNamed_insert, OnboardingService.row, true_and,
        List.length_append]
      split_ifs <;> rfl
    change _ ≤ ((db.withService tenantId i s columns).servicesNamed tenantId name).length ∧
      ((db.withService tenantId i s columns).servicesNamed tenantId name).length ≤ _
    rw [hinsert]
    split_ifs with hname
    · have hnone : db.servicesNamed tenantId name = [] := by
        have hknown := (Bool.or_eq_false_iff.mp hfound).2
        rw [hname, Bool.not_eq_false'] at hknown
        exact List.isEmpty_iff.mp hknown
      rw [hnone]
      simp
    · simp

theorem services_same {state : Db × ℕ}
    (h : ensureAll (serviceFound tenantId) (createOnboardingService tenantId) services (db, i) =
      .ok state) : db.SameBesidesServices state.1 := by
  refine ensureAll_rel (R := fun x y => x.1.SameBesidesServices y.1) ?_ ?_ ?_ h
  · exact fun x => ⟨rfl, rfl, rfl, rfl⟩
  · rintro x y z ⟨ht, hu, hm, hb⟩ ⟨ht', hu', hm', hb'⟩
    exact ⟨ht'.trans ht, hu'.trans hu, hm'.trans hm, hb'.trans hb⟩
  · rintro ⟨db, i⟩ s y - hc
    obtain ⟨columns, -, -, rfl⟩ := create_eq_ok.mp hc
    exact ⟨rfl, rfl, rfl, rfl⟩

end Services

section Staff

variable {tenantId : Uuid} {branchId otherBranch : Option Uuid} {db db' : Db}
  {st other : OnboardingStaff} {staff : List OnboardingStaff} {user otherUser : Accounts.User}

theorem user?_branch (st : OnboardingStaff) :
    st.user? tenantId branchId = (st.user? tenantId none).map fun u => { u with branchId } := by
  simp only [Accounts.OnboardingStaffDto.user?]
  split_ifs
  · rfl
  · rw [Option.map_map]
    rfl

theorem phone_of_user? (h : st.user? tenantId branchId = some user) :
    Accounts.isClean (Accounts.clean10 (Accounts.digitsOf st.phone)) = true ∧
      user.tenantId = some tenantId ∧
        user.phone =
          String.ofList (['+', '9', '0'] ++ Accounts.clean10 (Accounts.digitsOf st.phone)) := by
  unfold Accounts.OnboardingStaffDto.user? at h
  split_ifs at h
  obtain ⟨phone, hphone, rfl⟩ := Option.map_eq_some_iff.mp h
  simp only [Accounts.TenantsService.normalizedPhone] at hphone
  split_ifs at hphone with hclean
  exact ⟨hclean, rfl, (Option.some.inj hphone).symm⟩

theorem clean10_prefixed {digits : List Char} (h : Accounts.isClean digits = true) :
    Accounts.clean10 (['9', '0'] ++ digits) = digits := by
  have hfive : ['5'].isPrefixOf digits = true := (Bool.and_eq_true_iff.mp h).1
  have hstart : Accounts.stripStart ['9', '0'] (['9', '0'] ++ digits) = digits := rfl
  rw [Accounts.clean10, hstart, Accounts.stripStart]
  refine if_neg fun hzero => ?_
  obtain ⟨rest, rfl⟩ := List.isPrefixOf_iff_prefix.mp hfive
  cases hzero

theorem phone_mem_phones_iff (h : st.user? tenantId branchId = some user)
    (hother : other.user? tenantId otherBranch = some otherUser) :
    user.phone ∈ other.phones otherUser ↔ user.phone = otherUser.phone := by
  obtain ⟨hclean, -, hphone⟩ := phone_of_user? h
  obtain ⟨-, -, hphone'⟩ := phone_of_user? hother
  constructor
  · intro hmem
    simp only [OnboardingStaff.phones, List.mem_cons, List.not_mem_nil, or_false] at hmem
    rcases hmem with hsame | hraw | hplus
    · exact hsame
    · have hchars := congrArg String.toList (hphone.symm.trans hraw)
      rw [String.toList_ofList, String.toList_ofList] at hchars
      have hplus : '+' ∈ Accounts.digitsOf other.phone := hchars ▸ List.mem_cons_self
      have hdigit := (List.mem_filter.mp hplus).2
      cases hdigit
    · have hchars := congrArg String.toList (hphone.symm.trans hplus)
      simp only [String.toList_ofList, String.toList_append] at hchars
      have hdigits : Accounts.digitsOf other.phone =
          ['9', '0'] ++ Accounts.clean10 (Accounts.digitsOf st.phone) :=
        (List.cons.inj hchars).2.symm
      have hsame : Accounts.clean10 (Accounts.digitsOf other.phone) =
          Accounts.clean10 (Accounts.digitsOf st.phone) := by
        rw [hdigits, clean10_prefixed hclean]
      rw [hphone, hphone', hsame]
  · intro hsame
    rw [hsame]
    exact List.mem_cons_self

def Db.withStaff (db : Db) (tenantId : Uuid) (st : OnboardingStaff) (user : Accounts.User) : Db :=
  { db with
    users := db.users.insert user
    mechanics := db.mechanics.insert
      { tenantId
        userId := db.users.next
        specialty := (firstText [st.expertise.map jsTrim]).getD "Genel Mekanik"
        dailyCapacityHours := 8 } }

theorem staffFound_eq_false :
    staffFound tenantId branchId db st = false ↔
      ∃ user, st.user? tenantId branchId = some user ∧
        db.staffWith tenantId (st.phones user) = [] := by
  unfold staffFound
  cases st.user? tenantId branchId with
  | none => simp
  | some user => simp

theorem createStaff_of_free (h : st.user? tenantId branchId = some user)
    (hfree : db.phoneTaken user.phone = false) :
    createOnboardingStaff tenantId branchId db st = .ok (db.withStaff tenantId st user) := by
  simp only [createOnboardingStaff, h, hfree]
  rfl

theorem createStaff_of_taken (h : st.user? tenantId branchId = some user)
    (htaken : db.phoneTaken user.phone = true) :
    createOnboardingStaff tenantId branchId db st = .error uniqueViolation := by
  simp only [createOnboardingStaff, h, htaken]
  rfl

theorem createStaff_eq_ok (h : st.user? tenantId branchId = some user) :
    createOnboardingStaff tenantId branchId db st = .ok db' ↔
      db.phoneTaken user.phone = false ∧ db.withStaff tenantId st user = db' := by
  cases htaken : db.phoneTaken user.phone with
  | true =>
    rw [createStaff_of_taken h htaken]
    simp
  | false =>
    rw [createStaff_of_free h htaken]
    simp

theorem phoneTaken_withStaff (phone : String) :
    (db.withStaff tenantId st user).phoneTaken phone =
      (db.phoneTaken phone || decide (user.phone = phone)) := by
  simp only [Db.phoneTaken, Db.withStaff, Table.find?_insert, Option.isSome_or]
  split_ifs with h
  · simp only [h, Option.isSome_some]
  · simp only [h, Option.isSome_none]

theorem staffWith_withStaff (h : st.user? tenantId branchId = some user)
    (hother : other.user? tenantId otherBranch = some otherUser) :
    (db.withStaff tenantId st user).staffWith tenantId (other.phones otherUser) =
      db.staffWith tenantId (other.phones otherUser) ++
        if user.phone = otherUser.phone then [(db.users.next, user)] else [] := by
  have htenant : user.tenantId = some tenantId := (phone_of_user? h).2.1
  simp only [Accounts.Db.staffWith, Db.withStaff, Table.filter_insert, htenant,
    phone_mem_phones_iff h hother, decide_true, Bool.true_and, decide_eq_true_eq]

/-- The tenant has a user for the member of staff, or nobody has the number. -/
def Db.staffFine (db : Db) (tenantId : Uuid) (branchId : Option Uuid) (st : OnboardingStaff) :
    Prop :=
  ∀ user, st.user? tenantId branchId = some user →
    db.staffWith tenantId (st.phones user) ≠ [] ∨ db.phoneTaken user.phone = false

theorem staffFine_iff : db.staffFine tenantId branchId st ↔ db.staffFree tenantId st := by
  unfold Db.staffFine Db.staffFree
  rw [user?_branch st]
  cases st.user? tenantId none with
  | none => simp
  | some user => simp [OnboardingStaff.phones]

theorem staffFound_branch (db : Db) (st : OnboardingStaff) :
    staffFound tenantId branchId db st = staffFound tenantId none db st := by
  unfold staffFound
  rw [user?_branch st]
  cases st.user? tenantId none with
  | none => rfl
  | some user => rfl

theorem staff_stored_iff :
    (∃ db', db.addStaff tenantId branchId staff = .ok db') ↔
      ∀ st ∈ staff, db.staffFree tenantId st := by
  unfold Db.addStaff
  have hfine (db : Db) (st : OnboardingStaff) :
      db.staffFree tenantId st ↔ db.staffFine tenantId branchId st := staffFine_iff.symm
  simp only [hfine]
  refine ensureAll_isOk_iff (fun (db : Db) st => db.staffFine tenantId branchId st) ?_ ?_ ?_
  · intro db st hfound user huser
    rw [staffFound, huser, Option.all_some, Bool.not_eq_true', List.isEmpty_eq_false_iff] at hfound
    exact .inl hfound
  · intro db st hfound
    obtain ⟨user, huser, hnone⟩ := staffFound_eq_false.mp hfound
    simp only [createStaff_eq_ok huser, Db.staffFine, huser, Option.some.injEq, forall_eq', hnone,
      ne_eq, not_true_eq_false, false_or, exists_and_left, exists_eq', and_true]
  · intro db st db' other hfound hc
    obtain ⟨user, huser, hnone⟩ := staffFound_eq_false.mp hfound
    obtain ⟨hfree, rfl⟩ := (createStaff_eq_ok huser).mp hc
    refine forall₂_congr fun otherUser hother => ?_
    rw [staffWith_withStaff huser hother, phoneTaken_withStaff]
    by_cases hsame : user.phone = otherUser.phone
    · rw [← hsame, hfree]
      simp
    · simp [hsame]

theorem staff_ne_error {e : ApiError} (h : db.addStaff tenantId branchId staff = .error e) :
    e = uniqueViolation := by
  unfold Db.addStaff at h
  induction staff generalizing db with
  | nil => cases h
  | cons st staff ih =>
    cases hfound : staffFound tenantId branchId db st with
    | true =>
      rw [ensureAll_cons_of_found hfound] at h
      exact ih h
    | false =>
      obtain ⟨user, huser, -⟩ := staffFound_eq_false.mp hfound
      cases htaken : db.phoneTaken user.phone with
      | true =>
        rw [ensureAll_cons_of_failed hfound (createStaff_of_taken huser htaken)] at h
        exact (Except.error.inj h).symm
      | false =>
        rw [ensureAll_cons_of_created hfound (createStaff_of_free huser htaken)] at h
        exact ih h

theorem ensures_staff (tenantId : Uuid) (branchId : Option Uuid) :
    Ensures (staffFound tenantId branchId) (createOnboardingStaff tenantId branchId) where
  finds := by
    intro db st db' h
    cases huser : st.user? tenantId branchId with
    | none => rw [staffFound, huser, Option.all_none]
    | some user =>
      obtain ⟨-, rfl⟩ := (createStaff_eq_ok huser).mp h
      rw [staffFound, huser, Option.all_some, staffWith_withStaff huser huser]
      simp
  keeps := by
    intro db st db' other h hother
    cases huser : st.user? tenantId branchId with
    | none =>
      rw [createOnboardingStaff, huser] at h
      rwa [← Except.ok.inj h]
    | some user =>
      obtain ⟨-, rfl⟩ := (createStaff_eq_ok huser).mp h
      cases hotherUser : other.user? tenantId branchId with
      | none => rw [staffFound, hotherUser, Option.all_none]
      | some otherUser =>
        rw [staffFound, hotherUser, Option.all_some] at hother ⊢
        rw [staffWith_withStaff huser hotherUser]
        simp only [Bool.not_eq_true', List.isEmpty_eq_false_iff] at hother ⊢
        simp [hother]

structure Db.SameBesidesStaff (db db' : Db) : Prop where
  tenants : db'.tenants = db.tenants
  services : db'.services = db.services
  workshopBays : db'.workshopBays = db.workshopBays

theorem staff_same (h : db.addStaff tenantId branchId staff = .ok db') :
    db.SameBesidesStaff db' := by
  refine ensureAll_rel (R := Db.SameBesidesStaff) ?_ ?_ ?_ h
  · exact fun _ => ⟨rfl, rfl, rfl⟩
  · rintro x y z ⟨ht, hs, hb⟩ ⟨ht', hs', hb'⟩
    exact ⟨ht'.trans ht, hs'.trans hs, hb'.trans hb⟩
  · intro db st db' hfound hc
    obtain ⟨user, huser, -⟩ := staffFound_eq_false.mp hfound
    obtain ⟨-, rfl⟩ := (createStaff_eq_ok huser).mp hc
    exact ⟨rfl, rfl, rfl⟩

end Staff

section Calls

variable {tenantId : Uuid} {dto : CompleteOnboardingDto} {env again : Env} {db db' db₁ db₂ : Db}
  {i : ℕ} {st : OnboardingStaff} {name : String}

theorem staffFree_congr (h : db'.users = db.users) :
    db'.staffFree tenantId st ↔ db.staffFree tenantId st := by
  simp only [Db.staffFree, Accounts.Db.staffWith, Db.phoneTaken, h]

theorem servicesNamed_congr (h : db'.services = db.services) :
    db'.servicesNamed tenantId name = db.servicesNamed tenantId name := by
  rw [Db.servicesNamed, Db.servicesNamed, h]

def Db.withProfile (db : Db) (tenantId : Uuid) (dto : CompleteOnboardingDto) : Db :=
  { db with
    tenants := db.tenants.modify tenantId fun t =>
      { t with title := ((firstText [dto.name]).map jsTrim).getD t.title } }

theorem addRegister_of_failed {e : ApiError}
    (hservices : db.addServices tenantId dto.services = .error e) :
    db.addRegister tenantId dto env = .error e := by
  rw [Db.addRegister, hservices]
  rfl

theorem addRegister_of_staff_failed {e : ApiError}
    (hservices : db.addServices tenantId dto.services = .ok (db₁, i))
    (hstaff : db₁.addStaff tenantId (db.anyBranch tenantId env.choice) dto.staff = .error e) :
    db.addRegister tenantId dto env = .error e := by
  simp only [Db.addRegister, hservices, bind, Except.bind, hstaff]

theorem addRegister_of_stored
    (hservices : db.addServices tenantId dto.services = .ok (db₁, i))
    (hstaff : db₁.addStaff tenantId (db.anyBranch tenantId env.choice) dto.staff = .ok db₂) :
    db.addRegister tenantId dto env = .ok (db₂.addBays tenantId dto.activeLiftCount) := by
  simp only [Db.addRegister, hservices, bind, Except.bind, hstaff]
  rfl

theorem addRegister_eq_ok (h : db.addRegister tenantId dto env = .ok db') :
    ∃ db₁ i db₂, db.addServices tenantId dto.services = .ok (db₁, i) ∧
      db₁.addStaff tenantId (db.anyBranch tenantId env.choice) dto.staff = .ok db₂ ∧
        db₂.addBays tenantId dto.activeLiftCount = db' := by
  obtain ⟨⟨db₁, i⟩, hservices, h⟩ := Outcome.bind_eq_ok.mp h
  obtain ⟨db₂, hstaff, h⟩ := Outcome.bind_eq_ok.mp h
  exact ⟨db₁, i, db₂, hservices, hstaff, Outcome.pure_eq_ok.mp h⟩

theorem addRegister_stored_iff :
    (∃ db', db.addRegister tenantId dto env = .ok db') ↔
      (∃ state, db.addServices tenantId dto.services = .ok state) ∧
        ∀ st ∈ dto.staff, db.staffFree tenantId st := by
  constructor
  · rintro ⟨db', h⟩
    obtain ⟨db₁, i, db₂, hservices, hstaff, -⟩ := addRegister_eq_ok h
    refine ⟨⟨_, hservices⟩, fun st hst => ?_⟩
    rw [← staffFree_congr (services_same hservices).users]
    exact staff_stored_iff.mp ⟨db₂, hstaff⟩ st hst
  · rintro ⟨⟨⟨db₁, i⟩, hservices⟩, hfree⟩
    have husers := (services_same hservices).users
    obtain ⟨db₂, hstaff⟩ := staff_stored_iff.mpr fun st hst =>
      (staffFree_congr husers).mpr (hfree st hst)
    exact ⟨_, addRegister_of_stored hservices hstaff⟩

theorem addRegister_collides_iff :
    db.addRegister tenantId dto env = .error uniqueViolation ↔
      db.addServices tenantId dto.services = .error uniqueViolation ∨
        (∃ state, db.addServices tenantId dto.services = .ok state) ∧
          ¬ ∀ st ∈ dto.staff, db.staffFree tenantId st := by
  cases hservices : db.addServices tenantId dto.services with
  | error e =>
    rw [addRegister_of_failed hservices]
    simp
  | ok state =>
    obtain ⟨db₁, i⟩ := state
    have hstored : (∃ db', db.addRegister tenantId dto env = .ok db') ↔ _ := addRegister_stored_iff
    simp only [hservices, Except.ok.injEq, exists_eq', true_and] at hstored
    simp only [reduceCtorEq, Except.ok.injEq, exists_eq', true_and, false_or, ← hstored]
    cases hstaff : db₁.addStaff tenantId (db.anyBranch tenantId env.choice) dto.staff with
    | ok db₂ =>
      rw [addRegister_of_stored hservices hstaff]
      simp
    | error e =>
      rw [addRegister_of_staff_failed hservices hstaff, staff_ne_error hstaff]
      simp

theorem completeOnboarding_of_starts (h : db.startsOnboarding tenantId env) :
    db.completeOnboarding tenantId dto env =
      (db.addRegister tenantId dto env).map fun register => register.withProfile tenantId dto := by
  obtain ⟨hprofile, htenant⟩ := h
  obtain ⟨tenant, htenant⟩ := Option.isSome_iff_exists.mp htenant
  rw [Db.completeOnboarding, hprofile, htenant]
  cases db.addRegister tenantId dto env with
  | error e => rfl
  | ok register => rfl

theorem completeOnboarding_of_not_starts (dto : CompleteOnboardingDto)
    (h : ¬ db.startsOnboarding tenantId env) :
    ∃ e, db.completeOnboarding tenantId dto env = .error e ∧ e ≠ uniqueViolation := by
  unfold Db.completeOnboarding
  cases hprofile : env.storesProfile with
  | false => exact ⟨_, rfl, ApiError.noConfusion⟩
  | true =>
    cases htenant : db.tenants.get? tenantId with
    | none => exact ⟨_, rfl, by decide⟩
    | some tenant => exact absurd ⟨hprofile, by rw [htenant]; rfl⟩ h

theorem completeOnboarding_eq_ok (h : db.completeOnboarding tenantId dto env = .ok db') :
    db.startsOnboarding tenantId env ∧ ∃ register,
      db.addRegister tenantId dto env = .ok register ∧ register.withProfile tenantId dto = db' := by
  by_cases hstarts : db.startsOnboarding tenantId env
  · rw [completeOnboarding_of_starts hstarts] at h
    exact ⟨hstarts, Outcome.map_eq_ok.mp h⟩
  · obtain ⟨e, he, -⟩ := completeOnboarding_of_not_starts dto hstarts
    rw [he] at h
    cases h

theorem collides_iff :
    db.completeOnboarding tenantId dto env = .error uniqueViolation ↔
      db.startsOnboarding tenantId env ∧
        db.addRegister tenantId dto env = .error uniqueViolation := by
  by_cases hstarts : db.startsOnboarding tenantId env
  · rw [completeOnboarding_of_starts hstarts, and_iff_right hstarts]
    cases db.addRegister tenantId dto env with
    | error e => simp [Except.map]
    | ok register => simp [Except.map]
  · obtain ⟨e, he, hne⟩ := completeOnboarding_of_not_starts dto hstarts
    refine iff_of_false ?_ fun h => hstarts h.1
    rw [he, Except.error.injEq]
    exact hne

@[simp] theorem addBays_services (db : Db) (count : Option ℕ) :
    (db.addBays tenantId count).services = db.services := by
  unfold Db.addBays
  split_ifs <;> rfl

@[simp] theorem addBays_users (db : Db) (count : Option ℕ) :
    (db.addBays tenantId count).users = db.users := by
  unfold Db.addBays
  split_ifs <;> rfl

@[simp] theorem addBays_mechanics (db : Db) (count : Option ℕ) :
    (db.addBays tenantId count).mechanics = db.mechanics := by
  unfold Db.addBays
  split_ifs <;> rfl

theorem addServices_stored_iff
    (hcodes : ∀ k < ((db.newServices tenantId dto).takeWhile OnboardingService.storable).length,
      db.codeTaken tenantId (OnboardingService.code (k + 1)) = false) :
    (∃ state, db.addServices tenantId dto.services = .ok state) ↔
      ∀ s ∈ db.newServices tenantId dto, s.storable = true := by
  refine services_stored_iff.trans (and_iff_left_of_imp fun hall k hk => ?_)
  have hwhole : (db.newServices tenantId dto).takeWhile OnboardingService.storable =
      db.newServices tenantId dto := List.takeWhile_eq_self_iff.mpr hall
  rw [hwhole] at hcodes
  rw [Nat.add_comm]
  exact hcodes k hk

theorem addServices_collides_iff :
    db.addServices tenantId dto.services ≠ .error uniqueViolation ↔
      ∀ k < ((db.newServices tenantId dto).takeWhile OnboardingService.storable).length,
        db.codeTaken tenantId (OnboardingService.code (k + 1)) = false := by
  rw [Ne, Db.addServices, services_collide_iff]
  push Not
  refine forall₂_congr fun k _ => ?_
  rw [Nat.add_comm, ne_eq, Bool.not_eq_true]

theorem noCollision_iff :
    db.completeOnboarding tenantId dto env ≠ .error uniqueViolation ↔
      (db.startsOnboarding tenantId env →
        ∀ k < ((db.newServices tenantId dto).takeWhile OnboardingService.storable).length,
          db.codeTaken tenantId (OnboardingService.code (k + 1)) = false) ∧
      (db.storesServices tenantId dto env → ∀ st ∈ dto.staff, db.staffFree tenantId st) := by
  rw [Ne, collides_iff, addRegister_collides_iff, Db.storesServices]
  by_cases hstarts : db.startsOnboarding tenantId env
  · simp only [hstarts, true_and, forall_const, not_or, ← addServices_collides_iff]
    refine and_congr_right fun hnone => ?_
    rw [addServices_stored_iff (addServices_collides_iff.mp hnone), not_and, not_not]
  · simp [hstarts]

theorem servicesNamed_of_ok (h : db.completeOnboarding tenantId dto env = .ok db') :
    (∃ state, db.addServices tenantId dto.services = .ok state) ∧
      NamedWithin tenantId db db' ∧
        ∀ s ∈ dto.services, s.trimmedName ≠ "" → db'.servicesNamed tenantId s.trimmedName ≠ [] := by
  obtain ⟨-, register, hregister, rfl⟩ := completeOnboarding_eq_ok h
  obtain ⟨db₁, i, db₂, hservices, hstaff, rfl⟩ := addRegister_eq_ok hregister
  have hsame : ((db₂.addBays tenantId dto.activeLiftCount).withProfile tenantId dto).services =
      db₁.services := (addBays_services db₂ dto.activeLiftCount).trans (staff_same hstaff).services
  refine ⟨⟨_, hservices⟩, fun name => ?_, fun s hs hname => ?_⟩
  · rw [servicesNamed_congr hsame]
    exact services_named hservices name
  · rw [servicesNamed_congr hsame]
    have hfound := (ensures_services tenantId).found_of_ensureAll hservices s hs
    rw [serviceFound, Bool.or_eq_true, decide_eq_true_eq, or_iff_right hname] at hfound
    simpa using hfound

theorem named_iff (h : db.completeOnboarding tenantId dto env = .ok db') :
    (∀ s ∈ dto.services, s.trimmedName ≠ "" →
        (db'.servicesNamed tenantId s.trimmedName).length = 1) ↔
      ∀ s ∈ dto.services, s.trimmedName ≠ "" →
        (db.servicesNamed tenantId s.trimmedName).length ≤ 1 := by
  obtain ⟨-, hwithin, hnamed⟩ := servicesNamed_of_ok h
  refine forall₃_congr fun s hs hname => ?_
  have hone := List.length_pos_iff.mpr (hnamed s hs hname)
  have hbounds := hwithin s.trimmedName
  omega

theorem addBays_again {x : Db} {count : Option ℕ}
    (h : x.workshopBays = (db.addBays tenantId count).workshopBays) :
    (x.addBays tenantId count).workshopBays = x.workshopBays := by
  cases hnone : (x.workshopBays.filter fun b => b.tenantId = tenantId).isEmpty with
  | false => rw [Db.addBays, hnone, if_neg Bool.false_ne_true]
  | true =>
    have hzero : count.getD 0 = 0 := by
      by_contra hcount
      have hnot : ¬ (db.workshopBays.filter fun b => b.tenantId = tenantId).isEmpty = true := by
        intro hempty
        rw [Db.addBays, if_pos hempty] at h
        have hmem : onboardingBay tenantId 1 ∈ (List.range (count.getD 0)).map fun i =>
            onboardingBay tenantId (i + 1) :=
          List.mem_map.mpr ⟨0, List.mem_range.mpr (Nat.pos_of_ne_zero hcount), rfl⟩
        obtain ⟨k, hk⟩ := Table.exists_get?_foldl_insert hmem db.workshopBays
        have hbay : (k, onboardingBay tenantId 1) ∈
            x.workshopBays.filter fun b => b.tenantId = tenantId :=
          Table.mem_filter_iff.mpr ⟨by rw [h]; exact hk, decide_eq_true rfl⟩
        rw [List.isEmpty_iff.mp hnone] at hbay
        cases hbay
      rw [Db.addBays, if_neg hnot] at h
      rw [h] at hnone
      exact hnot hnone
    rw [Db.addBays, if_pos hnone, hzero]
    rfl

theorem staffFound_congr {branchId : Option Uuid} (h : db'.users = db.users) :
    staffFound tenantId branchId db' st = staffFound tenantId branchId db st := by
  simp only [staffFound, Accounts.Db.staffWith, h]

theorem addRegister_again (h : db.completeOnboarding tenantId dto env = .ok db') (again : Env) :
    db'.addRegister tenantId dto again = .ok (db'.addBays tenantId dto.activeLiftCount) := by
  obtain ⟨-, -, hnamed⟩ := servicesNamed_of_ok h
  obtain ⟨-, register, hregister, rfl⟩ := completeOnboarding_eq_ok h
  obtain ⟨db₁, i, db₂, -, hstaff, rfl⟩ := addRegister_eq_ok hregister
  refine addRegister_of_stored (i := 1) (ensureAll_of_found fun s hs => ?_)
    (ensureAll_of_found fun st hst => ?_)
  · rw [serviceFound, Bool.or_eq_true, decide_eq_true_eq]
    by_cases hname : s.trimmedName = ""
    · exact .inl hname
    · exact .inr (by simpa using hnamed s hs hname)
  · have husers : ((db₂.addBays tenantId dto.activeLiftCount).withProfile tenantId dto).users =
        db₂.users := addBays_users db₂ dto.activeLiftCount
    rw [staffFound_congr husers, staffFound_branch, ← staffFound_branch]
    exact (ensures_staff tenantId _).found_of_ensureAll hstaff st hst

theorem again_same (h : db.completeOnboarding tenantId dto env = .ok db') (again : Env) :
    db'.SameRegister (db'.act (.completeOnboarding tenantId dto, again)) := by
  have hbays : (db'.addBays tenantId dto.activeLiftCount).workshopBays = db'.workshopBays := by
    obtain ⟨-, register, hregister, rfl⟩ := completeOnboarding_eq_ok h
    obtain ⟨db₁, i, db₂, -, -, rfl⟩ := addRegister_eq_ok hregister
    exact addBays_again rfl
  rw [Db.act, Db.exec]
  by_cases hstarts : db'.startsOnboarding tenantId again
  · rw [completeOnboarding_of_starts hstarts, addRegister_again h again]
    exact ⟨addBays_services _ _, addBays_users _ _, addBays_mechanics _ _, hbays⟩
  · obtain ⟨e, he, -⟩ := completeOnboarding_of_not_starts dto hstarts
    rw [he]
    exact ⟨rfl, rfl, rfl, rfl⟩

theorem onboardsOnce_iff :
    db.OnboardsOnce tenantId dto env ↔ db.Clear tenantId dto env := by
  constructor
  · rintro ⟨hnone, hnamed, -⟩
    obtain ⟨hcodes, hphones⟩ := noCollision_iff.mp hnone
    refine ⟨hcodes, fun hstores => ?_, hphones⟩
    have hservices := (addServices_stored_iff (hcodes hstores.1)).mpr hstores.2
    obtain ⟨register, hregister⟩ : ∃ register, db.addRegister tenantId dto env = .ok register :=
      addRegister_stored_iff.mpr ⟨hservices, hphones hstores⟩
    have hok : db.completeOnboarding tenantId dto env = .ok (register.withProfile tenantId dto) := by
      rw [completeOnboarding_of_starts hstores.1, hregister]
      rfl
    exact (named_iff hok).mp (hnamed _ hok)
  · rintro ⟨hcodes, hnames, hphones⟩
    refine ⟨noCollision_iff.mpr ⟨hcodes, hphones⟩, fun db' hok => ?_, fun db' hok => again_same hok⟩
    have hstarts := (completeOnboarding_eq_ok hok).1
    have hservices := (servicesNamed_of_ok hok).1
    have hstores : db.storesServices tenantId dto env :=
      ⟨hstarts, (addServices_stored_iff (hcodes hstarts)).mp hservices⟩
    exact (named_iff hok).mpr (hnames hstores)

def Db.Repeatable (db : Db) : Call × Env → Prop
  | (.completeOnboarding tenantId dto, env) => db.OnboardsOnce tenantId dto env
  | (.createService _ _, _) => True

def Db.ClearFor (db : Db) : Call × Env → Prop
  | (.completeOnboarding tenantId dto, env) => db.Clear tenantId dto env
  | (.createService _ _, _) => True

/-- Along every run of onboardings and new services. -/
theorem onboarding_repeatable_iff (db : Db) (calls : List (Call × Env)) :
    EachStep Db.act Db.Repeatable db calls ↔ EachStep Db.act Db.ClearFor db calls := by
  have hstep : ∀ (db : Db) (l : Call × Env), db.Repeatable l ↔ db.ClearFor l := by
    rintro db ⟨call, env⟩
    cases call with
    | completeOnboarding tenantId dto => exact onboardsOnce_iff
    | createService tenantId dto => exact Iff.rfl
  constructor
  · exact EachStep.mono fun db l => (hstep db l).mp
  · exact EachStep.mono fun db l => (hstep db l).mpr

end Calls

section Sample

def sampleDb : Db where
  tenants := .ofList [{ slug := "servis", title := "Servis", phone := "", isActive := true }]
  branches := .empty
  users := .empty
  services := .empty
  mechanics := .empty
  workshopBays := .empty

def sampleOnboarding (name : String) : CompleteOnboardingDto where
  name := none
  services := [{ name, category := none, durationMinutes := 60, laborPrice := 1250 }]
  staff := []
  activeLiftCount := none

def sampleEnv : Env where
  choice := 0
  storesProfile := true
  toUpperCase := id

/-- The second list begins with the code of the first one again. -/
theorem second_onboarding_collides :
    ¬ EachStep Db.act Db.Repeatable sampleDb
      [(.completeOnboarding 0 (sampleOnboarding "Periyodik Bakım"), sampleEnv),
        (.completeOnboarding 0 (sampleOnboarding "Fren Bakımı"), sampleEnv)] := by
  intro h
  have hclear : (sampleDb.act (.completeOnboarding 0 (sampleOnboarding "Periyodik Bakım"),
      sampleEnv)).Clear 0 (sampleOnboarding "Fren Bakımı") sampleEnv :=
    onboardsOnce_iff.mp (h [_] _ [] rfl)
  have hfree := hclear.codes ⟨by decide +kernel, by decide +kernel⟩ 0 (by decide +kernel)
  have htaken : (sampleDb.act (.completeOnboarding 0 (sampleOnboarding "Periyodik Bakım"),
      sampleEnv)).codeTaken 0 (OnboardingService.code (0 + 1)) = true := by
    decide +kernel
  rw [hfree] at htaken
  cases htaken

end Sample

end WorksAuto.Tenants
