import WorksAuto.Lib.Run
import WorksAuto.Platform.Legal
import WorksAuto.Platform.Registration

/-! The profiles of the technicians.
A profile is created with a technician, or when an account becomes one, and is never taken from an
account that stays, but for one case: the deletion of an account whose user has signed a contract
fails after its profile is gone. -/

namespace WorksAuto.Platform

open Lib Accounts

section Machine

inductive StaffingCall where
  | create (tenantId : Uuid) (role : UserRole) (dto : CreateStaffDto)
  | update (tenantId id : Uuid) (role : UserRole) (dto : UpdateStaffDto)
  | remove (tenantId id : Uuid) (role : UserRole)
  | completeOnboarding (tenantId : Uuid) (dto : CompleteOnboardingDto)
  | signB2bConsent (tenantId userId : Uuid) (dto : SignB2bConsentDto) (client : RequestMeta)
  | updateMarketingConsent (tenantId : Uuid) (marketingAccepted : Bool)

/-- The choices of the searches, the times, and whether the rest of an onboarding is stored. -/
structure StaffingEnv extends Env where
  legal : LegalEnv
  others : Outcome Unit

abbrev StaffingLabel := StaffingCall × StaffingEnv

def StaffingCall.exec (c : Contract) (db : Db) (env : StaffingEnv) : StaffingCall → Db × Outcome Unit
  | create tenantId role dto => settle db (db.create tenantId role dto env.toEnv)
  | update tenantId id role dto => settle db (db.update tenantId id role dto env.toEnv)
  | remove tenantId id role => db.remove tenantId id role env.toEnv
  | completeOnboarding tenantId dto =>
    settle db (db.completeOnboarding tenantId env.now dto env.others)
  | signB2bConsent tenantId userId dto client =>
    settle db (db.signB2bConsent c env.legal tenantId userId dto client)
  | updateMarketingConsent tenantId marketingAccepted =>
    settle db (db.updateMarketingConsent env.legal tenantId marketingAccepted)

def staffingStep (c : Contract) (db : Db) (l : StaffingLabel) : Db := (l.1.exec c db l.2).1

end Machine

section Properties

/-- Every technician has exactly one profile, and it is of the same tenant. -/
def Db.TechniciansProfiled (db : Db) : Prop :=
  ∀ id user, db.users.get? id = some user → user.role = .technician →
    ∃ k m, (db.mechanics.get? k = some m ∧ m.userId = id ∧ user.tenantId = some m.tenantId) ∧
      ∀ k' m', db.mechanics.get? k' = some m' → m'.userId = id → k' = k

/-- A removal that fails leaves the user and the profile as they were. -/
def FailsClean (c : Contract) (db : Db) (l : StaffingLabel) : Prop :=
  ∀ tenantId id role, l.1 = .remove tenantId id role → (l.1.exec c db l.2).2.isOk = false →
    (staffingStep c db l).users.get? id = db.users.get? id ∧
      ((staffingStep c db l).mechanics.find? fun m => m.userId = id) =
        db.mechanics.find? fun m => m.userId = id

/-- A removal that would delete the profile is for a user who has signed nothing. -/
def RemovesUnsigned (db : Db) (l : StaffingLabel) : Prop :=
  ∀ tenantId id, l.1 = .remove tenantId id .owner → (db.user? tenantId id).isSome →
    ∀ k m, db.mechanic? tenantId id = some (k, m) →
      assignedTo tenantId k db.workOrders = false → assignedTo tenantId k db.appointments = false →
        db.hasSigned id = false

/-- Technicians have profiles, apart from one account perhaps; no user has two; a profile belongs
to a user of its tenant. -/
structure Db.ProfiledBut (except : Option Uuid) (db : Db) : Prop where
  technicians : ∀ id user, db.users.get? id = some user → user.role = .technician →
    some id ≠ except → ∃ k m, db.mechanics.get? k = some m ∧ m.userId = id
  unique : ∀ k k' m m', db.mechanics.get? k = some m → db.mechanics.get? k' = some m' →
    m.userId = m'.userId → k = k'
  owned : ∀ k m, db.mechanics.get? k = some m →
    ∃ user, db.users.get? m.userId = some user ∧ user.tenantId = some m.tenantId

abbrev Db.Profiled (db : Db) : Prop := Db.ProfiledBut none db

end Properties

section Writes

variable {db db' : Db} {except : Option Uuid} {id k tenantId : Uuid}

theorem Db.Profiled.techniciansProfiled (h : db.Profiled) : db.TechniciansProfiled := by
  intro id user hid hrole
  obtain ⟨k, m, hm, huser⟩ := h.technicians id user hid hrole nofun
  obtain ⟨owner, howner, htenant⟩ := h.owned k m hm
  obtain rfl := Option.some.inj ((huser ▸ howner).symm.trans hid)
  exact ⟨k, m, ⟨hm, huser, htenant⟩, fun k' m' hm' huser' =>
    h.unique k' k m' m hm' hm (huser'.trans huser.symm)⟩

theorem Db.ProfiledBut.congr (h : Db.ProfiledBut except db) (husers : db'.users = db.users)
    (hmechanics : db'.mechanics = db.mechanics) : Db.ProfiledBut except db' := by
  refine ⟨?_, ?_, ?_⟩
  · rw [husers, hmechanics]
    exact h.technicians
  · rw [hmechanics]
    exact h.unique
  · rw [husers, hmechanics]
    exact h.owned

theorem Db.ProfiledBut.weaken (h : db.Profiled) : Db.ProfiledBut except db :=
  ⟨fun id user hid hrole _ => h.technicians id user hid hrole nofun, h.unique, h.owned⟩

theorem Db.ProfiledBut.fill (h : Db.ProfiledBut (some id) db)
    (hprofile : ∀ user, db.users.get? id = some user → user.role = .technician →
      ∃ k m, db.mechanics.get? k = some m ∧ m.userId = id) : db.Profiled := by
  refine ⟨fun i user hi hrole _ => ?_, h.unique, h.owned⟩
  by_cases hid : i = id
  · subst hid
    exact hprofile user hi hrole
  · exact h.technicians i user hi hrole fun he => hid (Option.some.inj he)

theorem Db.ProfiledBut.insertUser (h : db.Profiled) (user : User) :
    Db.ProfiledBut (some db.users.next) { db with users := db.users.insert user } := by
  refine ⟨fun i u hi hrole hne => ?_, h.unique, fun k m hm => ?_⟩
  · rw [Table.get?_insert, if_neg fun he => hne (congrArg some he)] at hi
    exact h.technicians i u hi hrole nofun
  · obtain ⟨owner, howner, htenant⟩ := h.owned k m hm
    exact ⟨owner, Table.get?_insert_of_some howner user, htenant⟩

theorem Db.ProfiledBut.modifyUser (h : db.Profiled) {f : User → User}
    (htenant : ∀ u, (f u).tenantId = u.tenantId) :
    Db.ProfiledBut (some id) { db with users := db.users.modify id f } := by
  refine ⟨fun i u hi hrole hne => ?_, h.unique, fun k m hm => ?_⟩
  · have hid : i ≠ id := fun he => hne (congrArg some he)
    rw [Table.get?_modify_ne _ hid] at hi
    exact h.technicians i u hi hrole nofun
  · obtain ⟨owner, howner, hsame⟩ := h.owned k m hm
    refine ⟨_, by rw [Table.get?_modify, howner, Option.map_some], ?_⟩
    split_ifs
    · rw [htenant, hsame]
    · exact hsame

theorem Db.ProfiledBut.createMechanic (h : Db.ProfiledBut (some id) db) {profile : NewProfile}
    (hid : ∃ user, db.users.get? id = some user ∧ user.tenantId = some tenantId)
    (hok : db.createMechanic tenantId id profile = .ok db') : db'.Profiled := by
  obtain ⟨hnone, rfl⟩ := Db.createMechanic_eq_ok.mp hok
  have hfree : ∀ k m, db.mechanics.get? k = some m → m.userId ≠ id := by
    intro k m hm hid
    have htest := Table.find?_none hnone hm
    exact of_decide_eq_false htest hid
  have hprofiled : Db.ProfiledBut (some id)
      { db with mechanics := db.mechanics.insert (profile.mechanic tenantId id) } := by
    refine ⟨fun i u hi hrole hne => ?_, fun k k' m m' hm hm' hsame => ?_, fun k m hm => ?_⟩
    · obtain ⟨k, m, hm, huser⟩ := h.technicians i u hi hrole hne
      exact ⟨k, m, Table.get?_insert_of_some hm _, huser⟩
    · rw [Table.get?_insert] at hm hm'
      split_ifs at hm hm' with hk hk' hk'
      · exact hk.trans hk'.symm
      · cases hm
        exact absurd hsame.symm (hfree k' m' hm')
      · cases hm'
        exact absurd hsame (hfree k m hm)
      · exact h.unique k k' m m' hm hm' hsame
    · rw [Table.get?_insert] at hm
      split_ifs at hm
      · cases hm
        exact hid
      · exact h.owned k m hm
  exact hprofiled.fill fun user _ _ => ⟨_, _, Table.get?_insert_self _ _, rfl⟩

theorem UpdateStaffDto.profileOf_keys {dto : UpdateStaffDto} {m m' : Mechanic}
    (h : dto.profileOf m = .ok m') : m'.userId = m.userId ∧ m'.tenantId = m.tenantId := by
  obtain ⟨specialty, -, h⟩ := Outcome.bind_eq_ok.mp h
  obtain ⟨hours, -, h⟩ := Outcome.bind_eq_ok.mp h
  obtain rfl := Outcome.pure_eq_ok.mp h
  exact ⟨rfl, rfl⟩

theorem Db.mechanic?_eq_some {m : Mechanic} (h : db.mechanic? tenantId id = some (k, m)) :
    db.mechanics.get? k = some m ∧ m.tenantId = tenantId ∧ m.userId = id := by
  obtain ⟨hm, hkeys⟩ := Table.find?_some h
  simp only [Bool.and_eq_true, decide_eq_true_eq] at hkeys
  exact ⟨hm, hkeys⟩

theorem Db.ProfiledBut.modifyMechanic (h : Db.ProfiledBut except db) {m m' : Mechanic}
    (hm : db.mechanics.get? k = some m) (huser : m'.userId = m.userId)
    (htenant : m'.tenantId = m.tenantId) :
    Db.ProfiledBut except { db with mechanics := db.mechanics.modify k fun _ => m' } := by
  have back : ∀ {i n}, (db.mechanics.modify k fun _ => m').get? i = some n →
      ∃ old, db.mechanics.get? i = some old ∧ n.userId = old.userId ∧ n.tenantId = old.tenantId := by
    intro i n hn
    obtain ⟨old, hold, rfl⟩ := Table.of_get?_modify hn
    refine ⟨old, hold, ?_⟩
    split_ifs with hi
    · subst hi
      obtain rfl := Option.some.inj (hm.symm.trans hold)
      exact ⟨huser, htenant⟩
    · exact ⟨rfl, rfl⟩
  refine ⟨fun i u hi hrole hne => ?_, fun i j n n' hn hn' hsame => ?_, fun i n hn => ?_⟩
  · obtain ⟨j, old, hold, holdUser⟩ := h.technicians i u hi hrole hne
    refine ⟨j, _, by rw [Table.get?_modify, hold, Option.map_some], ?_⟩
    split_ifs with hj
    · subst hj
      obtain rfl := Option.some.inj (hm.symm.trans hold)
      exact huser.trans holdUser
    · exact holdUser
  · obtain ⟨old, hold, heq, -⟩ := back hn
    obtain ⟨old', hold', heq', -⟩ := back hn'
    exact h.unique i j old old' hold hold' (heq.symm.trans (hsame.trans heq'))
  · obtain ⟨old, hold, heq, heqTenant⟩ := back hn
    rw [heq, heqTenant]
    exact h.owned i old hold

theorem Db.ProfiledBut.updateProfile (h : Db.ProfiledBut (some id) db) {dto : UpdateStaffDto}
    {user : User} (hid : db.users.get? id = some user) (htenant : user.tenantId = some tenantId)
    (hrole : dto.role.getD user.role = user.role)
    (hok : db.updateProfile tenantId id dto user.role = .ok db') : db'.Profiled := by
  obtain ⟨k, m, m', hm, hm', rfl⟩ | ⟨-, -, profile, hcreate⟩ | ⟨hnot, rfl⟩ :=
    Db.updateProfile_eq_ok hok
  · obtain ⟨hrow, -, huser⟩ := Db.mechanic?_eq_some hm
    obtain ⟨hkeptUser, hkeptTenant⟩ := UpdateStaffDto.profileOf_keys hm'
    refine (h.modifyMechanic hrow hkeptUser hkeptTenant).fill fun _ _ _ => ?_
    exact ⟨k, m', Table.get?_modify_self hrow _, hkeptUser.trans huser⟩
  · exact h.createMechanic ⟨user, hid, htenant⟩ hcreate
  · refine h.fill fun u hu htechnician => ?_
    obtain rfl := Option.some.inj (hid.symm.trans hu)
    exact absurd (hrole.trans htechnician) hnot

theorem Db.ProfiledBut.deleteMechanic (h : db.Profiled) {m : Mechanic}
    (hm : db.mechanics.get? k = some m) (huser : m.userId = id)
    (hok : db.deleteMechanic tenantId k = .ok db') : Db.ProfiledBut (some id) db' := by
  obtain ⟨-, rfl⟩ := Db.deleteMechanic_eq_ok.mp hok
  have back : ∀ {i n}, (db.mechanics.erase k).get? i = some n → db.mechanics.get? i = some n := by
    intro i n hn
    rw [Table.get?_erase] at hn
    split_ifs at hn
    exact hn
  refine ⟨fun i u hi hrole hne => ?_, fun i j n n' hn hn' => h.unique i j n n' (back hn) (back hn'),
    fun i n hn => h.owned i n (back hn)⟩
  obtain ⟨j, n, hn, hnUser⟩ := h.technicians i u hi hrole nofun
  refine ⟨j, n, ?_, hnUser⟩
  have hj : j ≠ k := by
    rintro rfl
    obtain rfl := Option.some.inj (hm.symm.trans hn)
    exact hne (congrArg some (hnUser.symm.trans huser))
  rw [Table.get?_erase, if_neg hj, hn]

theorem Db.ProfiledBut.deleteUser (h : Db.ProfiledBut (some id) db) {visible : User → Bool}
    (hok : db.deleteUser id visible = .ok db') : db'.Profiled := by
  obtain ⟨-, -, husers, hmechanics⟩ := Db.deleteUser_eq_ok hok
  have back : ∀ {i n}, db'.mechanics.get? i = some n → db.mechanics.get? i = some n ∧ n.userId ≠ id := by
    intro i n hn
    rw [hmechanics] at hn
    obtain ⟨hn, hother⟩ := Table.get?_eraseIf.mp hn
    exact ⟨hn, of_decide_eq_false hother⟩
  refine ⟨fun i u hi hrole _ => ?_, fun i j n n' hn hn' => h.unique i j n n' (back hn).1 (back hn').1,
    fun i n hn => ?_⟩
  · rw [husers, Table.get?_erase] at hi
    split_ifs at hi with hid
    obtain ⟨j, n, hn, hnUser⟩ := h.technicians i u hi hrole fun he => hid (Option.some.inj he)
    refine ⟨j, n, ?_, hnUser⟩
    rw [hmechanics]
    exact Table.get?_eraseIf.mpr ⟨hn, decide_eq_false (hnUser ▸ hid)⟩
  · obtain ⟨hn, hne⟩ := back hn
    obtain ⟨owner, howner, htenant⟩ := h.owned i n hn
    exact ⟨owner, by rw [husers, Table.get?_erase, if_neg hne, howner], htenant⟩

end Writes

section Calls

variable {c : Contract} {db db' : Db} {env : StaffingEnv} {tenantId id : Uuid} {role : UserRole}

theorem Db.Profiled.create (h : db.Profiled) {dto : CreateStaffDto} {env : Env}
    (hok : db.create tenantId role dto env = .ok db') : db'.Profiled := by
  obtain ⟨_, -, hok⟩ := Outcome.bind_eq_ok.mp hok
  obtain ⟨_, -, hok⟩ := Outcome.bind_eq_ok.mp hok
  obtain ⟨_, -, hok⟩ := Outcome.bind_eq_ok.mp hok
  obtain ⟨user, huser, -, -, ⟨hrole, rfl⟩ | ⟨-, profile, hcreate⟩⟩ := Db.createStaff_eq_ok hok
  all_goals
    obtain ⟨hsame, htenant⟩ := CreateStaffDto.user_role huser
    have hinserted := Db.ProfiledBut.insertUser h user
  · refine hinserted.fill fun u hu htechnician => ?_
    obtain rfl := Option.some.inj ((Table.get?_insert_self db.users user).symm.trans hu)
    exact absurd (hsame.symm.trans htechnician) hrole
  · exact hinserted.createMechanic ⟨user, Table.get?_insert_self _ _, htenant⟩ hcreate

theorem Db.Profiled.update (h : db.Profiled) {dto : UpdateStaffDto} {env : Env}
    (hok : db.update tenantId id role dto env = .ok db') : db'.Profiled := by
  obtain ⟨_, -, hok⟩ := Outcome.bind_eq_ok.mp hok
  obtain ⟨_, -, hok⟩ := Outcome.bind_eq_ok.mp hok
  obtain ⟨_, -, hok⟩ := Outcome.bind_eq_ok.mp hok
  obtain ⟨_, -, hok⟩ := Outcome.bind_eq_ok.mp hok
  obtain ⟨data, user, hchecks, hprofile⟩ := Db.updateStaff_eq_ok hok
  obtain ⟨hdata, huser, -⟩ := Db.updateChecks_eq_ok hchecks
  obtain ⟨hid, htenant⟩ := Db.user?_eq_some.mp huser
  have hwritten : Db.ProfiledBut (some id)
      { db with users := db.users.modify id (data.apply env.now) } :=
    Db.ProfiledBut.modifyUser h fun _ => rfl
  refine hwritten.updateProfile (Table.get?_modify_self hid _) htenant ?_ hprofile
  have hgiven : (data.apply env.now user).role = dto.role.getD user.role := by
    rw [← UpdateStaffDto.updateData_role hdata]
    rfl
  rw [hgiven]
  cases dto.role <;> rfl

theorem Db.Profiled.completeOnboarding (h : db.Profiled) {now : Instant}
    {dto : CompleteOnboardingDto} {others : Outcome Unit}
    (hok : db.completeOnboarding tenantId now dto others = .ok db') : db'.Profiled := by
  refine Db.completeOnboarding_rel (R := fun s s' => s.Profiled → s'.Profiled) (fun _ => id)
    (fun h₁ h₂ => h₂ ∘ h₁) (fun hmember hs => ?_) (fun s f hs => hs.congr rfl rfl) hok h
  obtain rfl | ⟨user, huser, hcreate⟩ := createOnboarded_eq_ok hmember
  · exact hs
  · exact (Db.ProfiledBut.insertUser hs user).createMechanic
      ⟨user, Table.get?_insert_self _ _, (onboardingUser_eq_some huser).1⟩ hcreate

theorem Db.signB2bConsent_rows {userId : Uuid} {dto : SignB2bConsentDto} {client : RequestMeta}
    {env : LegalEnv} (hok : db.signB2bConsent c env tenantId userId dto client = .ok db') :
    db'.users = db.users ∧ db'.mechanics = db.mechanics := by
  obtain ⟨-, -, rfl⟩ := Db.signB2bConsent_eq_ok hok
  exact ⟨rfl, rfl⟩

theorem Db.updateMarketingConsent_rows {marketingAccepted : Bool} {env : LegalEnv}
    (hok : db.updateMarketingConsent env tenantId marketingAccepted = .ok db') :
    db'.users = db.users ∧ db'.mechanics = db.mechanics := by
  obtain ⟨_, rfl⟩ | ⟨-, userId, hcreate⟩ | ⟨-, rfl⟩ := Db.updateMarketingConsent_eq_ok hok
  · exact ⟨rfl, rfl⟩
  · obtain ⟨-, rfl⟩ := Db.createConsent_eq_ok.mp hcreate
    exact ⟨rfl, rfl⟩
  · exact ⟨rfl, rfl⟩

theorem rolesGuard_eq_ok {requiredRoles : List UserRole} {u : Unit} :
    rolesGuard requiredRoles role = .ok u ↔ role ∈ requiredRoles := by
  simp [rolesGuard]

theorem Db.deleteUser_isOk_of_deleteMechanic {k : Uuid} {user : User}
    (huser : db.user? tenantId id = some user) (hok : db.deleteMechanic tenantId k = .ok db') :
    (db'.deleteUser id fun u => u.tenantId = some tenantId).isOk = !db.hasSigned id := by
  obtain ⟨-, rfl⟩ := Db.deleteMechanic_eq_ok.mp hok
  obtain ⟨hid, htenant⟩ := Db.user?_eq_some.mp huser
  exact Db.deleteUser_isOk hid (decide_eq_true htenant)

theorem Db.Profiled.remove (h : db.Profiled)
    (hunsigned : RemovesUnsigned db (.remove tenantId id role, env)) :
    (db.remove tenantId id role env.toEnv).1.Profiled ∧
      ((db.remove tenantId id role env.toEnv).2.isOk = false →
        (db.remove tenantId id role env.toEnv).1 = db) := by
  have settled : ∀ result : Outcome Db, (∀ db', result = .ok db' → db'.Profiled) →
      (settle db result).1.Profiled ∧
        ((settle db result).2.isOk = false → (settle db result).1 = db) := by
    intro result hresult
    cases result with
    | error e => exact ⟨h, fun _ => rfl⟩
    | ok db' => exact ⟨hresult db' rfl, nofun⟩
  unfold Db.remove
  cases hguard : rolesGuard [.owner] role with
  | error e => exact ⟨h, fun _ => rfl⟩
  | ok _ =>
    obtain rfl : role = .owner := List.mem_singleton.mp (rolesGuard_eq_ok.mp hguard)
    cases hfound : db.findOne tenantId id with
    | error e => exact ⟨h, fun _ => rfl⟩
    | ok user =>
      have huser : db.user? tenantId id = some user := Outcome.required_eq_ok.mp hfound
      cases hmechanic : db.mechanic? tenantId id with
      | none => exact settled _ fun db' hok => (Db.ProfiledBut.weaken h).deleteUser hok
      | some q =>
        obtain ⟨k, m⟩ := q
        obtain ⟨hm, -, hmUser⟩ := Db.mechanic?_eq_some hmechanic
        dsimp only
        split_ifs with hrefs
        · refine settled _ fun db' hok => ?_
          obtain ⟨_, -, hok⟩ := Outcome.bind_eq_ok.mp hok
          obtain rfl := Outcome.pure_eq_ok.mp hok
          have hwritten : Db.ProfiledBut (some id) { db with
              users := db.users.modify id fun u => { u with isActive := false, updatedAt := env.now } } :=
            Db.ProfiledBut.modifyUser h fun _ => rfl
          exact hwritten.fill fun _ _ _ => ⟨k, m, hm, hmUser⟩
        · cases hprofile : db.deleteMechanic tenantId k with
          | error e => exact ⟨h, fun _ => rfl⟩
          | ok withoutProfile =>
            have hbut := Db.ProfiledBut.deleteMechanic h hm hmUser hprofile
            have hfree : assignedTo tenantId k db.workOrders = false ∧
                assignedTo tenantId k db.appointments = false := by simpa using hrefs
            have hsigned := hunsigned tenantId id rfl (by rw [huser]; rfl) k m hmechanic hfree.1 hfree.2
            have hdeleted := Db.deleteUser_isOk_of_deleteMechanic huser hprofile
            rw [hsigned] at hdeleted
            obtain ⟨db', hdb'⟩ := Outcome.isOk_iff.mp hdeleted
            dsimp only
            rw [hdb']
            exact ⟨hbut.deleteUser hdb', nofun⟩

theorem Db.Profiled.not_failsClean (h : db.Profiled) {l : StaffingLabel}
    (hsigned : ¬ RemovesUnsigned db l) : ¬ FailsClean c db l := by
  obtain ⟨call, env⟩ := l
  simp only [RemovesUnsigned, not_forall] at hsigned
  obtain ⟨tenantId, id, rfl, hvisible, k, m, hmechanic, horders, happointments, hsigned⟩ := hsigned
  obtain ⟨user, huser⟩ := Option.isSome_iff_exists.mp hvisible
  obtain ⟨hm, hmTenant, hmUser⟩ := Db.mechanic?_eq_some hmechanic
  obtain ⟨withoutProfile, hprofile⟩ : ∃ db', db.deleteMechanic tenantId k = .ok db' :=
    ⟨_, Db.deleteMechanic_eq_ok.mpr ⟨⟨m, hm, hmTenant⟩, rfl⟩⟩
  have hrefused := Db.deleteUser_isOk_of_deleteMechanic huser hprofile
  rw [show db.hasSigned id = true by simpa using hsigned] at hrefused
  obtain ⟨e, he⟩ : ∃ e, (withoutProfile.deleteUser id fun u => u.tenantId = some tenantId) =
      .error e := by
    cases hdelete : withoutProfile.deleteUser id fun u => u.tenantId = some tenantId with
    | error e => exact ⟨e, rfl⟩
    | ok db' =>
      rw [hdelete] at hrefused
      cases hrefused
  have hremove : db.remove tenantId id .owner env.toEnv = (withoutProfile, .error e) := by
    have hguard : rolesGuard [.owner] .owner = .ok () := rolesGuard_eq_ok.mpr (by simp)
    have hfound : db.findOne tenantId id = .ok user := Outcome.required_eq_ok.mpr huser
    simp [Db.remove, hguard, hfound, hmechanic, horders, happointments, hprofile, settle, he]
  intro hclean
  have hrows := (hclean tenantId id .owner rfl (by
    change (db.remove tenantId id .owner env.toEnv).2.isOk = false
    rw [hremove]
    rfl)).2
  change ((db.remove tenantId id .owner env.toEnv).1.mechanics.find? fun m => m.userId = id) =
    db.mechanics.find? fun m => m.userId = id at hrows
  rw [hremove] at hrows
  have hbefore := Table.find?_isSome (p := fun m : Mechanic => m.userId = id) hm
    (decide_eq_true hmUser)
  obtain ⟨q, hq⟩ := Option.isSome_iff_exists.mp hbefore
  rw [hq] at hrows
  obtain ⟨hqRow, hqUser⟩ := Table.find?_some hrows
  obtain ⟨-, rfl⟩ := Db.deleteMechanic_eq_ok.mp hprofile
  rw [Table.get?_erase] at hqRow
  split_ifs at hqRow with hk
  exact hk (h.unique q.1 k q.2 m hqRow hm ((of_decide_eq_true hqUser).trans hmUser.symm))

theorem Db.Profiled.step (h : db.Profiled) {l : StaffingLabel} (hunsigned : RemovesUnsigned db l) :
    (staffingStep c db l).Profiled := by
  have settled : ∀ result : Outcome Db, (∀ db', result = .ok db' → db'.Profiled) →
      (settle db result).1.Profiled := by
    intro result hresult
    cases result with
    | error e => exact h
    | ok db' => exact hresult db' rfl
  obtain ⟨call, env⟩ := l
  cases call with
  | create tenantId role dto => exact settled _ fun db' hok => h.create hok
  | update tenantId id role dto => exact settled _ fun db' hok => h.update hok
  | remove tenantId id role => exact (h.remove hunsigned).1
  | completeOnboarding tenantId dto => exact settled _ fun db' hok => h.completeOnboarding hok
  | signB2bConsent tenantId userId dto client =>
    refine settled _ fun db' hok => ?_
    obtain ⟨husers, hmechanics⟩ := Db.signB2bConsent_rows hok
    exact h.congr husers hmechanics
  | updateMarketingConsent tenantId marketingAccepted =>
    refine settled _ fun db' hok => ?_
    obtain ⟨husers, hmechanics⟩ := Db.updateMarketingConsent_rows hok
    exact h.congr husers hmechanics

theorem Db.Profiled.failsClean (h : db.Profiled) {l : StaffingLabel}
    (hunsigned : RemovesUnsigned db l) : FailsClean c db l := by
  obtain ⟨call, env⟩ := l
  rintro tenantId id role rfl hfails
  have hsame : staffingStep c db (.remove tenantId id role, env) = db := (h.remove hunsigned).2 hfails
  rw [hsame]
  exact ⟨rfl, rfl⟩

end Calls

/-- Technicians keep their profiles and failed removals change nothing in precisely the runs in
which no removal of an unassigned account is for a user who has signed. -/
theorem profiles_kept_iff (c : Contract) {db : Db} (h : db.Profiled) (labels : List StaffingLabel) :
    Always (staffingStep c) Db.TechniciansProfiled db labels ∧
        EachStep (staffingStep c) (FailsClean c) db labels ↔
      EachStep (staffingStep c) RemovesUnsigned db labels := by
  have keep : ∀ db l, Db.Profiled db → RemovesUnsigned db l → (staffingStep c db l).Profiled :=
    fun _ _ hs hl => hs.step hl
  have clean : ∀ db l, Db.Profiled db → RemovesUnsigned db l → FailsClean c db l :=
    fun _ _ hs hl => hs.failsClean hl
  have bad : ∀ db l, Db.Profiled db → ¬ RemovesUnsigned db l →
      ¬ (FailsClean c db l ∧ (staffingStep c db l).TechniciansProfiled) :=
    fun _ _ hs hl hboth => hs.not_failsClean hl hboth.1
  exact always_eachStep_iff (fun _ => Db.Profiled.techniciansProfiled) keep clean bad h labels

section Example

def staffingAt (now : Instant) : StaffingEnv := ⟨⟨0, now⟩, legalAt now, .ok ()⟩

def managed : Db :=
  staffed [account (some 0) "+905550000001" .owner, account (some 0) "+905550000002" .serviceManager]

theorem profiled_managed : managed.Profiled := by
  have hroles : ∀ id user, managed.users.get? id = some user → user.role ≠ .technician := by
    decide +kernel
  refine ⟨fun id user hid hrole => absurd hrole (hroles id user hid), fun k m _ _ hm _ => ?_,
    fun k m hm => ?_⟩
  · cases hm
  · cases hm

def newTechnician : CreateStaffDto where
  name := "Ahmet"
  surname := "Usta"
  phone := "05553334455"
  email := none
  role := .technician
  specialty := some "Motor"
  assignedLift := none
  dailyCapacityHours := some 8
  annualLeaveDays := none
  transferredLeaveDays := none

/-- A technician comes and goes. -/
theorem profiles_kept_of_technician :
    Always (staffingStep plainContract) Db.TechniciansProfiled managed
      [(.create 0 .owner newTechnician, staffingAt 1), (.remove 0 2 .owner, staffingAt 2)] := by
  refine ((profiles_kept_iff plainContract profiled_managed _).mpr ?_).1
  rw [eachStep_cons, eachStep_cons]
  refine ⟨?_, ?_, eachStep_nil _⟩
  · intro tenantId id he
    cases he
  · intro tenantId id he _ k m _ _ _
    cases he
    decide +kernel

/-- A service manager signs, becomes a technician, and is then removed in vain. -/
theorem profile_lost :
    ¬ ∀ c db labels, Db.Profiled db → Always (staffingStep c) Db.TechniciansProfiled db labels ∧
      EachStep (staffingStep c) (FailsClean c) db labels := by
  intro h
  have hrun := h plainContract managed
    [(.signB2bConsent 0 1 ⟨true, true, true⟩ ⟨"10.0.0.1", "Safari"⟩, staffingAt 1),
      (.update 0 1 .owner { noUpdate with role := some .technician }, staffingAt 2),
      (.remove 0 1 .owner, staffingAt 3)] profiled_managed
  have hclean := (hrun.2 [_, _] _ [] rfl 0 1 .owner rfl (by decide +kernel)).2
  revert hclean
  decide +kernel

end Example

end WorksAuto.Platform
