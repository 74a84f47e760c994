import WorksAuto.Accounts.SignIn
import WorksAuto.Accounts.System

/-! What a phone number names, in every run of the writers of accounts.
The unique index refuses a phone text that is stored already, and no other text of
the same number. Each writer asks for some forms of a number among the users that row
security shows it, and stores one form. A number stays with one user as long as every
lookup covers the forms it is stored in, and no call stores a number that another call
has looked up and is to store as a different text. -/

namespace WorksAuto.Accounts

open Lib

/-- No two users have phone texts with one subscriber number in them. -/
def Db.OneUserPerNumber (db : Db) : Prop :=
  ∀ i u, db.users.get? i = some u → ∀ j v, db.users.get? j = some v →
    (subscriber? u.phone).isSome → subscriber? u.phone = subscriber? v.phone → i = j

instance (db : Db) : Decidable db.OneUserPerNumber := by
  unfold Db.OneUserPerNumber
  infer_instance

def Db.OneSignIn (db : Db) : Prop :=
  ∀ phone, (subscriber? phone).isSome →
    (db.users.filter fun u => u.phone ∈ AuthService.loginPhones phone && u.isActive).length ≤ 1

structure Db.Identifies (db : Db) : Prop where
  oneUser : db.OneUserPerNumber
  oneSignIn : db.OneSignIn

structure Lookup where
  stored : String
  /-- The user whose row is to be changed. -/
  self : Option Uuid
  forms : List String
  /-- The users that row security shows. -/
  sees : User → Bool

namespace Lookup

def Names (self : Option Uuid) (stored : String) (j : Uuid) (v : User) : Prop :=
  self ≠ some j ∧ (subscriber? stored).isSome ∧ subscriber? stored = subscriber? v.phone

/-- Whoever else has the number is stored in a form that the call asks for, or in the
text that it is to store and that the unique index refuses. -/
def Covers (l : Lookup) (db : Db) : Prop :=
  ∀ j v, db.users.get? j = some v → Names l.self l.stored j v →
    v.phone = l.stored ∨ (l.sees v = true ∧ v.phone ∈ l.forms)

def FindsNone (l : Lookup) (db : Db) : Prop :=
  ∀ j v, db.users.get? j = some v → l.self ≠ some j → l.sees v = true → v.phone ∉ l.forms

instance (self : Option Uuid) (stored : String) (j : Uuid) (v : User) :
    Decidable (Names self stored j v) :=
  inferInstanceAs (Decidable (_ ∧ _ ∧ _))

instance (l : Lookup) (db : Db) : Decidable (l.Covers db) := by
  unfold Covers
  infer_instance

end Lookup

/-- The phone texts of a transaction, each with the user whose row it changes. -/
def Write.texts : Write → List (Option Uuid × String)
  | registerTenant dto => [(none, AuthService.normalizePhone dto.phone)]
  | createStaff _ dto => [(none, StaffService.normalizePhone dto.phone)]
  | updateStaff _ id dto => (firstText [dto.normalizedPhone]).toList.map (some id, ·)
  | createTenant dto _ => [(none, AdminTenantService.formattedPhone dto.phone)]
  | completeOnboarding tenantId branchId _ staff =>
    staff.filterMap fun st => (st.user? tenantId branchId).map fun user => (none, user.phone)

namespace Task

/-- The lookups that a step makes for phone texts; `registerTenant` makes one for its slug only. -/
def lookups : Task → List Lookup
  | findSlug dto => [⟨AuthService.normalizePhone dto.phone, none, [], fun _ => false⟩]
  | findStaff tenantId dto =>
    let normalizedPhone := StaffService.normalizePhone dto.phone
    [⟨normalizedPhone, none, [normalizedPhone, "+" ++ normalizedPhone],
      fun u => u.tenantId = some tenantId⟩]
  | findOther tenantId id dto =>
    (firstText [dto.phone]).toList.map fun phone =>
      let normalizedPhone := StaffService.normalizePhone phone
      ⟨normalizedPhone, some id, [normalizedPhone, "+" ++ normalizedPhone],
        fun u => u.tenantId = some tenantId⟩
  | findOwner dto =>
    let formattedPhone := AdminTenantService.formattedPhone dto.phone
    [⟨formattedPhone, none, [formattedPhone], fun _ => true⟩]
  | onboard tenantId branchId _ (st :: _) _ =>
    let rawDigits := String.ofList (digitsOf st.phone)
    (st.user? tenantId branchId).toList.map fun user =>
      ⟨user.phone, none, [user.phone, rawDigits, "+" ++ rawDigits],
        fun u => u.tenantId = some tenantId⟩
  | _ => []

def pending : Task → List (Option Uuid × String)
  | chooseSlug dto _ _ => [(none, AdminTenantService.formattedPhone dto.phone)]
  | onboard tenantId branchId title _ created =>
    (Write.completeOnboarding tenantId branchId title created).texts
  | commit w => w.texts
  | _ => []

def Differs (text : String) (t : Task) : Prop :=
  ∃ p ∈ t.pending, (subscriber? p.2).isSome ∧ subscriber? p.2 = subscriber? text ∧ p.2 ≠ text

instance (text : String) : DecidablePred (Differs text) := fun t => by
  unfold Differs
  infer_instance

def writes : Task → List (Option Uuid × String)
  | commit w => w.texts
  | _ => []

end Task

/-- The lookups of a step cover the forms that their numbers are stored in, and a transaction
stores no number that another call has looked up and is to store as a different text. -/
def System.Covered (s : System) : PoolAction Call Env → Prop
  | .start _ => True
  | .step k _ =>
    ∀ t ∈ s.threads.get? k, (∀ l ∈ t.lookups, l.Covers s.shared) ∧
      ∀ q ∈ t.writes, s.Alone (Task.Differs q.2) k

instance (s : System) (a : PoolAction Call Env) : Decidable (s.Covered a) :=
  match a with
  | .start _ => .isTrue trivial
  | .step k _ => inferInstanceAs (Decidable
      (∀ t ∈ s.threads.get? k, (∀ l ∈ t.lookups, l.Covers s.shared) ∧
        ∀ q ∈ t.writes, s.Alone (Task.Differs q.2) k))

section Step

variable {db db' : Db} {w : Write}

theorem Db.OneUserPerNumber.oneSignIn (h : db.OneUserPerNumber) : db.OneSignIn := by
  intro phone hphone
  obtain ⟨number, hnumber⟩ := Option.isSome_iff_exists.mp hphone
  by_contra hmany
  set found := db.users.filter fun u => u.phone ∈ AuthService.loginPhones phone && u.isActive with hf
  have hrow : ∀ q ∈ found, db.users.get? q.1 = some q.2 ∧ subscriber? q.2.phone = some number := by
    rintro ⟨i, u⟩ hq
    obtain ⟨hu, hmatch⟩ := Table.mem_filter_iff.mp hq
    rw [Bool.and_eq_true, decide_eq_true_eq] at hmatch
    exact ⟨hu, subscriber?_of_mem_loginPhones hnumber hmatch.1⟩
  have hnodup : (found.map Prod.fst).Nodup :=
    db.users.keys_nodup.sublist (List.filter_sublist.map _)
  cases hfound : found with
  | nil => exact hmany (by rw [hfound]; exact Nat.zero_le _)
  | cons p rest =>
    cases rest with
    | nil => exact hmany (by rw [hfound]; exact le_rfl)
    | cons q rest =>
      obtain ⟨hfirst, hnfirst⟩ := hrow p (by rw [hfound]; exact List.mem_cons_self)
      obtain ⟨hsecond, hnsecond⟩ := hrow q (by rw [hfound]; simp)
      have hsame : p.1 = q.1 :=
        h _ _ hfirst _ _ hsecond (by rw [hnfirst]; rfl) (hnfirst.trans hnsecond.symm)
      rw [hfound, List.map_cons, List.map_cons, List.nodup_cons] at hnodup
      exact hnodup.1 (by rw [hsame]; exact List.mem_cons_self)

theorem phone_of_store {k : Uuid} {user : User} (h : (db.store w).users.get? k = some user) :
    (k, user.phone) ∈ w.phones db ∨
      ∃ old, db.users.get? k = some old ∧ user.phone = old.phone := by
  rcases of_get?_store_users h with ⟨p, hp⟩ | ⟨old, hold, rfl⟩
  · exact .inl (mem_phones_of_created hp)
  · rcases w.revise_phone db k old with hsame | hmem
    · exact .inr ⟨old, hold, hsame⟩
    · exact .inl hmem

def Db.OneText (db : Db) (p : Option Uuid × String) : Prop :=
  ∀ j v, db.users.get? j = some v → Lookup.Names p.1 p.2 j v → v.phone = p.2

theorem Write.mem_texts_of_phones {q : Uuid × String} (h : q ∈ w.phones db) :
    ∃ p ∈ w.texts, p.2 = q.2 ∧ (p.1 = none ∨ p.1 = some q.1) := by
  cases w with
  | updateStaff tenantId id dto =>
    obtain ⟨text, htext, rfl⟩ := List.mem_map.mp h
    exact ⟨_, List.mem_map.mpr ⟨text, htext, rfl⟩, rfl, .inr rfl⟩
  | completeOnboarding tenantId branchId title staff =>
    obtain ⟨⟨⟨text, user⟩, i⟩, hzip, rfl⟩ := List.mem_map.mp h
    obtain ⟨st, hst, huser⟩ := List.mem_filterMap.mp (List.fst_mem_of_mem_zipIdx hzip)
    obtain ⟨u, hu, he⟩ := Option.map_eq_some_iff.mp huser
    cases he
    exact ⟨(none, user.phone), List.mem_filterMap.mpr ⟨st, hst, by rw [hu]; rfl⟩, rfl, .inl rfl⟩
  | _ =>
    obtain rfl := List.mem_singleton.mp h
    exact ⟨_, List.mem_singleton_self _, rfl, .inl rfl⟩

theorem Db.OneUserPerNumber.store (h : db.OneUserPerNumber) (hfree : w.phonesFree db = true)
    (htexts : ∀ p ∈ w.texts, db.OneText p) : (db.store w).OneUserPerNumber := by
  have fresh : ∀ q ∈ w.phones db, ∀ j v, db.users.get? j = some v → j ≠ q.1 →
      (subscriber? q.2).isSome → subscriber? q.2 ≠ subscriber? v.phone := by
    intro q hq j v hv hj hsome hsame
    obtain ⟨p, hp, htext, hself⟩ := Write.mem_texts_of_phones hq
    have hother : p.1 ≠ some j := by
      rcases hself with hnone | hid
      · rw [hnone]
        exact nofun
      · rw [hid]
        exact fun he => hj (Option.some.inj he).symm
    rw [← htext] at hsome hsame
    have hstored := (htexts p hp j v hv ⟨hother, hsome, hsame⟩).trans htext
    simp only [Write.phonesFree, Bool.and_eq_true, List.all_eq_true, Bool.or_eq_true,
      decide_eq_true_eq] at hfree
    rcases hfree.1 q hq _ ((Table.mem_rows_iff _ _ _).mpr hv) with he | hne
    · exact hj he
    · exact hne hstored
  intro i u hu j v hv hsome hsame
  obtain ⟨number, hnumber⟩ := Option.isSome_iff_exists.mp hsome
  have hnumber' : subscriber? v.phone = some number := hsame.symm.trans hnumber
  by_contra hne
  rcases phone_of_store hu with hi | ⟨old, hold, hphone⟩
  · rcases phone_of_store hv with hj | ⟨old', hold', hphone'⟩
    · exact hne (phones_unique hfree hi hj hnumber hnumber')
    · exact fresh _ hi j old' hold' (Ne.symm hne) hsome (hphone' ▸ hsame)
  · rcases phone_of_store hv with hj | ⟨old', hold', hphone'⟩
    · exact fresh _ hj i old hold hne (hsame ▸ hsome) (hphone ▸ hsame.symm)
    · rw [hphone] at hsome
      exact hne (h i old hold j old' hold' hsome (by rw [← hphone, ← hphone', hsame]))

theorem Db.OneText.store {p : Option Uuid × String} (h : db.OneText p)
    (hapart : ∀ q ∈ w.texts, (subscriber? p.2).isSome → subscriber? p.2 = subscriber? q.2 →
      p.2 = q.2) : (db.store w).OneText p := by
  rintro j v hv ⟨hself, hsome, hsame⟩
  rcases phone_of_store hv with hmem | ⟨old, hold, hphone⟩
  · obtain ⟨q, hq, htext, -⟩ := Write.mem_texts_of_phones hmem
    exact htext.symm.trans (hapart q hq hsome (hsame.trans (congrArg subscriber? htext.symm))).symm
  · rw [hphone]
    exact h j old hold ⟨hself, hsome, hphone ▸ hsame⟩

theorem Lookup.Covers.oneText {l : Lookup} (h : l.Covers db) (hnone : l.FindsNone db) :
    db.OneText (l.self, l.stored) := by
  intro j v hv hnames
  rcases h j v hv hnames with hsame | ⟨hsees, hform⟩
  · exact hsame
  · exact absurd hform (hnone j v hv hnames.1 hsees)

theorem findsNone_of_staffWith {tenantId : Uuid} {text : String} {self : Option Uuid}
    {forms : List String}
    (h : ∀ q ∈ db.staffWith tenantId forms, self = some q.1) :
    (Lookup.mk text self forms fun u => u.tenantId = some tenantId).FindsNone db := by
  intro j v hv hself hsees hform
  refine hself (h (j, v) (Table.mem_filter_iff.mpr ⟨hv, ?_⟩))
  simpa [hform] using hsees

theorem createStaffCheck_eq_ok {tenantId : Uuid} {dto : CreateStaffDto}
    (h : db.createStaffCheck tenantId dto = .ok ()) :
    db.staffWith tenantId
      [StaffService.normalizePhone dto.phone, "+" ++ StaffService.normalizePhone dto.phone] = [] := by
  simpa [Db.createStaffCheck, Outcome.reject_eq_ok] using h

theorem updateStaffCheck_eq_ok {tenantId id : Uuid} {dto : UpdateStaffDto} {choice : ℕ}
    {phone : String} (hphone : firstText [dto.phone] = some phone)
    (h : db.updateStaffCheck tenantId id dto choice = .ok ()) :
    ∀ q ∈ db.staffWith tenantId
      [StaffService.normalizePhone phone, "+" ++ StaffService.normalizePhone phone], q.1 = id := by
  intro q hq
  by_contra hne
  simp only [Db.updateStaffCheck, hphone] at h
  set found := (db.staffWith tenantId
    [StaffService.normalizePhone phone, "+" ++ StaffService.normalizePhone phone]).filter
      fun q => q.1 ≠ id with hfound
  have hmem : q ∈ found := List.mem_filter.mpr ⟨hq, decide_eq_true hne⟩
  have hlt : choice % found.length < found.length := Nat.mod_lt _ (List.length_pos_of_mem hmem)
  rw [List.getElem?_eq_getElem hlt] at h
  cases h

theorem UpdateStaffDto.firstText_normalizedPhone {dto : UpdateStaffDto} {text : String}
    (h : firstText [dto.normalizedPhone] = some text) :
    ∃ phone, firstText [dto.phone] = some phone ∧ StaffService.normalizePhone phone = text := by
  cases hphone : firstText [dto.phone] with
  | none =>
    rw [normalizedPhone, hphone] at h
    cases h
  | some phone =>
    have htext := List.mem_of_find?_eq_some h
    rw [normalizedPhone, hphone] at htext
    exact ⟨phone, rfl, (List.mem_singleton.mp htext).symm⟩

theorem createTenantCheck_eq_ok {dto : CreateTenantDto} (h : db.createTenantCheck dto = .ok ()) :
    ∀ j v, db.users.get? j = some v → v.phone ≠ AdminTenantService.formattedPhone dto.phone := by
  intro j v hv hphone
  have hnone : db.users.find? (fun u => u.phone = AdminTenantService.formattedPhone dto.phone) =
      none := by
    simpa [Db.createTenantCheck, Outcome.reject_eq_ok] using h
  simpa [hphone] using Table.find?_none hnone hv

theorem Task.pending_after {check : Outcome Unit} {next : Task} {p : Option Uuid × String}
    (h : p ∈ (Task.after check next).pending) : check = .ok () ∧ p ∈ next.pending := by
  cases check with
  | ok _ => exact ⟨rfl, h⟩
  | error e => cases h

theorem Task.pending_exec {t : Task} {env : Env} {p : Option Uuid × String}
    (h : p ∈ (t.exec db env).2.pending) :
    p ∈ t.pending ∨ ∃ l ∈ t.lookups, p = (l.self, l.stored) ∧ l.FindsNone db := by
  cases t with
  | findSlug dto =>
    obtain rfl := List.mem_singleton.mp (pending_after h).2
    exact .inr ⟨_, List.mem_singleton_self _, rfl, fun _ _ _ _ hsees => nomatch hsees⟩
  | findStaff tenantId dto =>
    obtain ⟨hcheck, hp⟩ := pending_after h
    obtain rfl := List.mem_singleton.mp hp
    refine .inr ⟨_, List.mem_singleton_self _, rfl, findsNone_of_staffWith fun q hq => ?_⟩
    rw [createStaffCheck_eq_ok hcheck] at hq
    cases hq
  | findOne tenantId id currentUserRole dto => cases (pending_after h).2
  | findOther tenantId id dto =>
    obtain ⟨hcheck, hp⟩ := pending_after h
    obtain ⟨text, htext, rfl⟩ := List.mem_map.mp hp
    obtain ⟨phone, hphone, rfl⟩ := UpdateStaffDto.firstText_normalizedPhone (Option.mem_toList.mp htext)
    refine .inr ⟨_, List.mem_map.mpr ⟨phone, Option.mem_toList.mpr hphone, rfl⟩, rfl,
      findsNone_of_staffWith fun q hq => ?_⟩
    rw [updateStaffCheck_eq_ok hphone hcheck q hq]
  | findOwner dto =>
    obtain ⟨hcheck, hp⟩ := pending_after h
    obtain rfl := List.mem_singleton.mp hp
    refine .inr ⟨_, List.mem_singleton_self _, rfl, fun j v hv _ _ hform => ?_⟩
    exact createTenantCheck_eq_ok hcheck j v hv (List.mem_singleton.mp hform)
  | chooseSlug dto baseSlug counter =>
    left
    simp only [exec] at h
    split_ifs at h
    · exact h
    · exact h
  | findBranch tenantId dto => cases (pending_after h).2
  | onboard tenantId branchId title staff created =>
    cases staff with
    | nil => exact .inl h
    | cons st staff =>
      simp only [exec] at h
      split_ifs at h with honboards
      · obtain ⟨o, ho, hp⟩ := List.mem_filterMap.mp h
        rcases List.mem_append.mp ho with hcreated | hst
        · exact .inl (List.mem_filterMap.mpr ⟨o, hcreated, hp⟩)
        · obtain rfl := List.mem_singleton.mp hst
          obtain ⟨user, huser, rfl⟩ := Option.map_eq_some_iff.mp hp
          simp only [Db.onboards, huser, Bool.and_eq_true, List.isEmpty_iff] at honboards
          refine .inr ⟨_, List.mem_map.mpr ⟨user, Option.mem_toList.mpr huser, rfl⟩, rfl,
            findsNone_of_staffWith fun q hq => ?_⟩
          rw [honboards.1] at hq
          cases hq
      · exact .inl h
  | commit w =>
    simp only [exec] at h
    cases hc : db.commit w <;> rw [hc] at h <;> cases h
  | finished answer => cases h

theorem exec_shared (db : Db) (t : Task) (env : Env) :
    (∃ w, t = .commit w ∧ w.phonesFree db = true ∧ (t.exec db env).1 = db.store w) ∨
      (t.exec db env).1 = db := by
  cases t with
  | commit w =>
    simp only [Task.exec]
    cases hc : db.commit w with
    | ok db' =>
      obtain ⟨-, -, hfree, rfl⟩ := commit_eq_ok.mp hc
      exact .inl ⟨w, rfl, hfree, rfl⟩
    | error e => exact .inr rfl
  | onboard tenantId branchId title staff created => cases staff <;> exact .inr rfl
  | _ => exact .inr rfl

end Step

section Run

variable {s : System} {a : PoolAction Call Env}

/-- A number is for one user, and a call that has looked a number up finds it stored as the
text it is to store, if at all. -/
def System.Kept : System → Prop :=
  Pool.Holds Db.OneUserPerNumber fun db t => ∀ p ∈ t.pending, db.OneText p

theorem kept_act (h : s.Kept) (hcovered : s.Covered a) : (System.act s a).Kept := by
  cases a with
  | start r =>
    refine h.start fun p hp => ?_
    cases r <;> cases (Task.pending_after hp).2
  | step k env =>
    refine h.step_among fun t ht => ?_
    obtain ⟨hlookups, halone⟩ := hcovered t ht
    have hpending := h.2 k t ht
    rcases exec_shared s.shared t env with ⟨w, rfl, hfree, hstore⟩ | hsame
    · rw [hstore]
      refine ⟨h.1.store hfree hpending, fun p hp => ?_, fun i u hu hi p hp => ?_⟩
      · simp only [Task.exec] at hp
        cases hc : s.shared.commit w <;> rw [hc] at hp <;> cases hp
      · refine (h.2 i u hu p hp).store fun q hq hsome hsame => ?_
        by_contra hne
        exact halone q hq i u hu hi ⟨p, hp, hsome, hsame, hne⟩
    · rw [hsame]
      refine ⟨h.1, fun p hp => ?_, fun i u hu _ => h.2 i u hu⟩
      rcases Task.pending_exec hp with hold | ⟨l, hl, rfl, hnone⟩
      · exact hpending p hold
      · exact (hlookups l hl).oneText hnone

/-- A phone number identifies one user throughout every run in which the lookups cover the
forms that numbers are stored in and the calls for one number do not overlap. -/
theorem always_identifies {db : Db} (hdb : db.OneUserPerNumber)
    (calls : List (PoolAction Call Env))
    (hcovered : EachStep System.act System.Covered (Pool.idle db) calls) :
    Always System.act (fun s => s.shared.Identifies) (Pool.idle db) calls := by
  have hkept : System.Kept (Pool.idle db) := Pool.holds_idle hdb
  exact (always_of_step (fun _ _ h hc => kept_act h hc) hkept hcovered).mono
    fun _ h => ⟨h.1, h.1.oneSignIn⟩

end Run

section Example

def firstEnv : Env where
  choice := 0
  now := 0

def exampleRegistration : RegisterTenantDto where
  tenantTitle := "Bayar Oto"
  slug := "bayar-oto"
  phone := "0532 111 22 33"
  firstName := "Ahmet"
  lastName := "Bayar"

def registerThenHire (phone : String) : List (PoolAction Call Env) :=
  [.start (.registerTenant exampleRegistration), .step 0 firstEnv, .step 0 firstEnv,
    .start (.createStaff 0 .owner { exampleStaffDto with phone }), .step 1 firstEnv,
    .step 1 firstEnv]

/-- The owner is entered again at the onboarding, in a spelling that finds the registration. -/
def registerThenOnboard : List (PoolAction Call Env) :=
  [.start (.registerTenant exampleRegistration), .step 0 firstEnv, .step 0 firstEnv,
    .start (.completeOnboarding 0
      { name := none, staff := [{ name := "Ahmet", surname := none, phone := "+90 532 111 22 33" },
          { name := "Can", surname := none, phone := "0533 444 55 66" }] }),
    .step 1 firstEnv, .step 1 firstEnv, .step 1 firstEnv, .step 1 firstEnv, .step 1 firstEnv]

theorem always_identifies_onboard :
    Always System.act (fun s => s.shared.Identifies) (Pool.idle emptyDb) registerThenOnboard ∧
      (run System.act (Pool.idle emptyDb) registerThenOnboard).shared.users.rows.length = 2 := by
  have hempty : emptyDb.OneUserPerNumber := by decide +kernel
  exact ⟨always_identifies hempty _ (by decide +kernel), by decide +kernel⟩

/-- The registration stores the owner's number as 90..., so `createStaff` does not find it
and stores it again as +90.... -/
theorem registered_number_hired :
    ¬ ∀ calls, Always System.act (fun s => s.shared.Identifies) (Pool.idle emptyDb) calls := by
  intro h
  have hone := (h (registerThenHire "0532 111 22 33")).last.oneUser
  revert hone
  decide +kernel

end Example

end WorksAuto.Accounts
