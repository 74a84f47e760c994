import WorksAuto.Lib.Run
import WorksAuto.Platform.Legal

/-! The evidence of the contracts.
A signature leaves a row that names its signer and the text that was shown, and nothing but the
preference changes in a row later on. The public way to decline advertising is the one call that
can leave a row which nobody has signed. -/

namespace WorksAuto.Platform

open Lib

/-- A call of `signB2bConsent` that has succeeded, and the row that it has created. -/
structure Signing where
  consentId : Uuid
  tenantId : Uuid
  userId : Uuid
  contractText : String

abbrev LegalLabel := LegalCall × LegalEnv

def Db.legalAct (c : Contract) (db : Db) (l : LegalLabel) : Db :=
  (l.1.exec c db l.2).toOption.getD db

def noteSigning (c : Contract) (db : Db) (log : List Signing) (l : LegalLabel) : List Signing :=
  match l.1 with
  | .signB2bConsent tenantId userId _ _ =>
    if (l.1.exec c db l.2).isOk then
      ⟨db.tenantConsents.next, tenantId, userId, c.getContractDetails.contractText⟩ :: log
    else log
  | _ => log

def legalStep (c : Contract) : Db × List Signing → LegalLabel → Db × List Signing :=
  observed (Db.legalAct c) (noteSigning c)

def Db.HasAccepted (db : Db) (tenantId : Uuid) : Prop :=
  ∃ id row, db.tenantConsents.get? id = some row ∧ row.tenantId = tenantId ∧
    row.saasTermsAccepted = true

/-- A tenant counts as accepted by its evidence, and each piece of it has been signed by the user
it names, for the text whose digest it bears. -/
structure Genuine (c : Contract) (s : Db × List Signing) : Prop where
  accepted : ∀ tenantId tenant, s.1.tenants.get? tenantId = some tenant →
    (s.1.HasAccepted tenantId ↔ tenant.b2bConsentAccepted = true)
  signed : ∀ id row, s.1.tenantConsents.get? id = some row → row.saasTermsAccepted = true →
    ∃ signing ∈ s.2, signing.consentId = id ∧ signing.tenantId = row.tenantId ∧
      signing.userId = row.signedByUserId ∧ row.payloadHash = c.sha256 signing.contractText

def TenantConsent.evidence (row : TenantConsent) : TenantConsent :=
  { row with marketingAccepted := false }

def KeepsEvidence (s t : Db × List Signing) : Prop :=
  ∀ id row, s.1.tenantConsents.get? id = some row →
    (t.1.tenantConsents.get? id).map TenantConsent.evidence = some row.evidence

/-- Who declines advertising in public has a row already, or no user to sign one. -/
def OptsOutWithEvidence (c : Contract) (s : Db × List Signing) (l : LegalLabel) : Prop :=
  ∀ identifier, l.1 = .processPublicOptOut identifier → jsTrim identifier ≠ "" →
    ∀ tenantId, s.1.identify c l.2 (jsTrim identifier) = some tenantId →
      (∃ id row, s.1.tenantConsents.get? id = some row ∧ row.tenantId = tenantId) ∨
        s.1.usersOf tenantId = []

section Evidence

variable {s t u : Db × List Signing}

theorem KeepsEvidence.of_eq (h : t.1.tenantConsents = s.1.tenantConsents) : KeepsEvidence s t := by
  intro id row hrow
  rw [h, hrow]
  rfl

theorem KeepsEvidence.trans (h : KeepsEvidence s t) (h' : KeepsEvidence t u) :
    KeepsEvidence s u := by
  intro id row hrow
  obtain ⟨row', hrow', heq⟩ := Option.map_eq_some_iff.mp (h id row hrow)
  rw [h' id row' hrow', heq]

theorem KeepsEvidence.of_insert {row : TenantConsent}
    (h : t.1.tenantConsents = s.1.tenantConsents.insert row) : KeepsEvidence s t := by
  intro id old hold
  rw [h, Table.get?_insert_of_some hold]
  rfl

theorem KeepsEvidence.of_modify {id : Uuid} {marketingAccepted : Bool}
    (h : t.1.tenantConsents =
      s.1.tenantConsents.modify id fun r => { r with marketingAccepted }) : KeepsEvidence s t := by
  intro i old hold
  rw [h, Table.get?_modify, hold, Option.map_some, Option.map_some, Option.some.injEq]
  split_ifs <;> rfl

end Evidence

section Steps

variable {c : Contract} {db db' : Db} {env : LegalEnv} {log : List Signing}

theorem Genuine.modify (h : Genuine c (db, log)) (id : Uuid) (marketingAccepted : Bool) :
    Genuine c ({ db with
      tenantConsents := db.tenantConsents.modify id fun r => { r with marketingAccepted } }, log) := by
  have back : ∀ {i row}, (db.tenantConsents.modify id
      fun r => { r with marketingAccepted }).get? i = some row →
        ∃ old, db.tenantConsents.get? i = some old ∧ row.evidence = old.evidence := by
    intro i row hrow
    obtain ⟨old, hold, rfl⟩ := Table.of_get?_modify hrow
    refine ⟨old, hold, ?_⟩
    split_ifs <;> rfl
  refine ⟨fun tenantId tenant htenant => ?_, fun i row hrow haccepted => ?_⟩
  · rw [← h.accepted tenantId tenant htenant]
    constructor
    · rintro ⟨i, row, hrow, rfl, haccepted⟩
      obtain ⟨old, hold, heq⟩ := back hrow
      injection heq
      exact ⟨i, old, hold, by simp_all, by simp_all⟩
    · rintro ⟨i, old, hold, rfl, haccepted⟩
      refine ⟨i, _, by rw [Table.get?_modify, hold, Option.map_some], ?_⟩
      split_ifs <;> exact ⟨rfl, haccepted⟩
  · obtain ⟨old, hold, heq⟩ := back hrow
    injection heq
    have hsigned := h.signed i old hold (by simp_all)
    simp_all

theorem Genuine.sign (h : Genuine c (db, log)) {tenantId userId : Uuid} {dto : SignB2bConsentDto}
    {client : RequestMeta} (hterms : dto.saasTermsAccepted = true) :
    Genuine c ({ db with
        tenantConsents := db.tenantConsents.insert
          (c.signedConsent tenantId userId dto client env.signedAt)
        tenants := db.tenants.modify tenantId (accept env.acceptedAt) },
      ⟨db.tenantConsents.next, tenantId, userId, c.getContractDetails.contractText⟩ :: log) := by
  refine ⟨fun i tenant htenant => ?_, fun i row hrow haccepted => ?_⟩
  · obtain ⟨old, hold, rfl⟩ := Table.of_get?_modify htenant
    by_cases hi : i = tenantId
    · refine iff_of_true ⟨_, _, Table.get?_insert_self _ _, hi.symm, hterms⟩ ?_
      rw [if_pos hi]
      rfl
    · rw [if_neg hi, ← h.accepted i old hold]
      constructor
      · rintro ⟨k, row, hrow, hrowTenant, haccepted⟩
        rw [Table.get?_insert] at hrow
        split_ifs at hrow with hk
        · cases hrow
          exact absurd hrowTenant.symm hi
        · exact ⟨k, row, hrow, hrowTenant, haccepted⟩
      · rintro ⟨k, row, hrow, hrest⟩
        exact ⟨k, row, Table.get?_insert_of_some hrow _, hrest⟩
  · rw [Table.get?_insert] at hrow
    split_ifs at hrow with hi
    · cases hrow
      exact ⟨_, List.mem_cons_self, hi.symm, rfl, rfl, rfl⟩
    · obtain ⟨signing, hmem, hsigning⟩ := h.signed i row hrow haccepted
      exact ⟨signing, List.mem_cons_of_mem _ hmem, hsigning⟩

theorem Genuine.updateMarketing (h : Genuine c (db, log)) {tenantId : Uuid}
    {marketingAccepted : Bool}
    (hrow : (∃ id row, db.tenantConsents.get? id = some row ∧ row.tenantId = tenantId) ∨
      db.usersOf tenantId = [])
    (hok : db.updateMarketingConsent env tenantId marketingAccepted = .ok db') :
    Genuine c (db', log) := by
  obtain ⟨id, rfl⟩ | ⟨hnone, -⟩ | ⟨-, rfl⟩ := Db.updateMarketingConsent_eq_ok hok
  · exact h.modify id marketingAccepted
  · rcases hrow with ⟨id, row, hid, htenant⟩ | husers
    · exact absurd htenant (Db.latestConsent_eq_none.mp hnone id row hid)
    · unfold Db.updateMarketingConsent at hok
      rw [hnone, pick_eq_none.mpr husers] at hok
      obtain rfl := Outcome.pure_eq_ok.mp hok
      exact h
  · exact h

theorem legalStep_error {l : LegalLabel} {e : ApiError} (h : l.1.exec c db l.2 = .error e) :
    legalStep c (db, log) l = (db, log) := by
  have hlog : noteSigning c db log l = log := by
    unfold noteSigning
    split
    · rw [h]
      rfl
    · rfl
  simp only [legalStep, observed, Db.legalAct, h, hlog]
  rfl

theorem Genuine.step (h : Genuine c (db, log)) {l : LegalLabel}
    (hcalm : OptsOutWithEvidence c (db, log) l) : Genuine c (legalStep c (db, log) l) := by
  obtain ⟨call, env⟩ := l
  cases hexec : call.exec c db env with
  | error e =>
    rw [legalStep_error hexec]
    exact h
  | ok db' =>
    have hact : Db.legalAct c db (call, env) = db' := by simp only [Db.legalAct, hexec]; rfl
    cases call with
    | signB2bConsent tenantId userId dto client =>
      obtain ⟨hterms, -, hdb⟩ := Db.signB2bConsent_eq_ok hexec
      have hlog : noteSigning c db log (.signB2bConsent tenantId userId dto client, env) =
          ⟨db.tenantConsents.next, tenantId, userId, c.getContractDetails.contractText⟩ :: log := by
        simp only [noteSigning, hexec]
        rfl
      simp only [legalStep, observed, hact, hlog, ← hdb]
      exact h.sign hterms
    | updateMarketingConsent tenantId marketingAccepted =>
      obtain ⟨_, hguard, hupdate⟩ := Outcome.bind_eq_ok.mp hexec
      have haccepted : (db.tenants.get? tenantId).any Tenant.b2bConsentAccepted = true := by
        simpa using Outcome.reject_eq_ok.mp hguard
      obtain ⟨tenant, htenant, hflag⟩ : ∃ tenant, db.tenants.get? tenantId = some tenant ∧
          tenant.b2bConsentAccepted = true := by
        simpa [Option.any_eq_true] using haccepted
      obtain ⟨id, row, hrow, hrowTenant, -⟩ := (h.accepted tenantId tenant htenant).mpr hflag
      simp only [legalStep, observed, hact]
      exact h.updateMarketing (.inl ⟨id, row, hrow, hrowTenant⟩) hupdate
    | processPublicOptOut identifier =>
      obtain ⟨_, hblank, hexec⟩ := Outcome.bind_eq_ok.mp hexec
      have hne : jsTrim identifier ≠ "" := by simpa using Outcome.reject_eq_ok.mp hblank
      simp only [legalStep, observed, hact]
      cases hfound : db.identify c env (jsTrim identifier) with
      | none =>
        rw [hfound] at hexec
        obtain rfl := Outcome.pure_eq_ok.mp hexec
        exact h
      | some tenantId =>
        rw [hfound] at hexec
        exact h.updateMarketing (hcalm identifier rfl hne tenantId hfound) hexec

theorem keepsEvidence_step (c : Contract) (s : Db × List Signing) (l : LegalLabel) :
    KeepsEvidence s (legalStep c s l) := by
  obtain ⟨db, log⟩ := s
  obtain ⟨call, env⟩ := l
  cases hexec : call.exec c db env with
  | error e =>
    rw [legalStep_error hexec]
    exact KeepsEvidence.of_eq rfl
  | ok db' =>
    have hact : (legalStep c (db, log) (call, env)).1 = db' := by
      simp only [legalStep, observed, Db.legalAct, hexec]
      rfl
    have updated : ∀ {tenantId marketingAccepted},
        db.updateMarketingConsent env tenantId marketingAccepted = .ok db' →
          KeepsEvidence (db, log) (legalStep c (db, log) (call, env)) := by
      intro tenantId marketingAccepted hok
      obtain ⟨id, hdb⟩ | ⟨-, userId, hcreate⟩ | ⟨-, hdb⟩ := Db.updateMarketingConsent_eq_ok hok
      · exact KeepsEvidence.of_modify (by rw [hact, ← hdb])
      · exact KeepsEvidence.of_insert (by rw [hact, ← (Db.createConsent_eq_ok.mp hcreate).2])
      · exact KeepsEvidence.of_eq (by rw [hact, ← hdb])
    cases call with
    | signB2bConsent tenantId userId dto client =>
      obtain ⟨-, -, hdb⟩ := Db.signB2bConsent_eq_ok hexec
      exact KeepsEvidence.of_insert (by rw [hact, ← hdb])
    | updateMarketingConsent tenantId marketingAccepted =>
      obtain ⟨_, -, hupdate⟩ := Outcome.bind_eq_ok.mp hexec
      exact updated hupdate
    | processPublicOptOut identifier =>
      obtain ⟨_, -, hexec⟩ := Outcome.bind_eq_ok.mp hexec
      cases hfound : db.identify c env (jsTrim identifier) with
      | none =>
        rw [hfound] at hexec
        exact KeepsEvidence.of_eq (by rw [hact, ← Outcome.pure_eq_ok.mp hexec])
      | some tenantId =>
        rw [hfound] at hexec
        exact updated hexec

theorem Genuine.forged (h : Genuine c (db, log)) {l : LegalLabel}
    (hcalm : ¬ OptsOutWithEvidence c (db, log) l) : ¬ Genuine c (legalStep c (db, log) l) := by
  obtain ⟨call, env⟩ := l
  simp only [OptsOutWithEvidence, not_forall, not_or] at hcalm
  obtain ⟨identifier, rfl, hne, tenantId, hfound, hnone, husers⟩ := hcalm
  have hlatest : db.latestConsent env tenantId = none :=
    Db.latestConsent_eq_none.mpr fun id row hrow htenant => hnone ⟨id, row, hrow, htenant⟩
  obtain ⟨tenant, htenant⟩ := Option.isSome_iff_exists.mp (Db.identify_isSome hfound)
  obtain ⟨userId, hupdate⟩ := Db.updateMarketingConsent_of_none hlatest
    (Db.identify_isSome hfound) husers
  have hexec : LegalCall.exec c db env (.processPublicOptOut identifier) = .ok { db with
      tenantConsents := db.tenantConsents.insert
        (preferenceConsent tenantId userId false env.signedAt) } := by
    refine Outcome.bind_eq_ok.mpr ⟨(), Outcome.reject_eq_ok.mpr (by simpa using hne), ?_⟩
    rw [hfound]
    exact hupdate
  intro hafter
  have hdb : (legalStep c (db, log) (.processPublicOptOut identifier, env)).1 = { db with
      tenantConsents := db.tenantConsents.insert
        (preferenceConsent tenantId userId false env.signedAt) } := by
    simp only [legalStep, observed, Db.legalAct, hexec]
    rfl
  have hflag : tenant.b2bConsentAccepted = true := by
    refine (hafter.accepted tenantId tenant (by rw [hdb]; exact htenant)).mp ?_
    rw [hdb]
    exact ⟨_, _, Table.get?_insert_self _ _, rfl, rfl⟩
  obtain ⟨id, row, hrow, hrowTenant, -⟩ := (h.accepted tenantId tenant htenant).mpr hflag
  exact hnone ⟨id, row, hrow, hrowTenant⟩

end Steps

/-- The evidence is genuine and fixed in precisely the runs in which nobody declines advertising
in public for a tenant that has users and no row. -/
theorem evidence_iff (c : Contract) {db : Db} {log : List Signing} (h : Genuine c (db, log))
    (labels : List LegalLabel) :
    Lasting (legalStep c) KeepsEvidence (db, log) labels ∧
        Always (legalStep c) (Genuine c) (db, log) labels ↔
      EachStep (legalStep c) (OptsOutWithEvidence c) (db, log) labels := by
  have keep : ∀ s l, Genuine c s → OptsOutWithEvidence c s l → Genuine c (legalStep c s l) :=
    fun _ _ hs hl => Genuine.step hs hl
  have bad : ∀ s l, Genuine c s → ¬ OptsOutWithEvidence c s l →
      ¬ (KeepsEvidence s (legalStep c s l) ∧ Genuine c (legalStep c s l)) :=
    fun _ _ hs hl hboth => Genuine.forged hs hl hboth.2
  exact lasting_always_iff_eachStep (fun _ => KeepsEvidence.of_eq rfl)
    (fun _ _ _ => KeepsEvidence.trans) (fun _ hs => hs) keep
    (fun s l _ _ => keepsEvidence_step c s l) bad h labels

section Example

def owned : Db := staffed [account (some 0) "905550000001" .owner]

theorem genuine_owned : Genuine plainContract (owned, []) := by
  refine ⟨fun tenantId tenant htenant => ?_, fun id row hrow => by cases hrow⟩
  have hflag : ∀ id t, owned.tenants.get? id = some t → t.b2bConsentAccepted = false := by
    decide +kernel
  rw [hflag tenantId tenant htenant]
  refine iff_of_false ?_ Bool.false_ne_true
  rintro ⟨id, row, hrow, -⟩
  cases hrow

/-- The owner signs and declines advertising later. -/
theorem evidence_of_owner :
    Always (legalStep plainContract) (Genuine plainContract) (owned, [])
      [(.signB2bConsent 0 0 ⟨true, true, true⟩ ⟨"10.0.0.1", "Safari"⟩, legalAt 1),
        (.processPublicOptOut "905550000000", legalAt 2)] := by
  refine ((evidence_iff plainContract genuine_owned _).mpr ?_).2
  rw [eachStep_cons, eachStep_cons]
  refine ⟨?_, ?_, eachStep_nil _⟩
  · intro identifier he
    cases he
  · intro identifier he _ tenantId hfound
    cases he
    have hgarage : Db.identify plainContract
        (legalStep plainContract (owned, [])
          (.signB2bConsent 0 0 ⟨true, true, true⟩ ⟨"10.0.0.1", "Safari"⟩, legalAt 1)).1
        (legalAt 2) (jsTrim "905550000000") = some 0 := by decide +kernel
    rw [hgarage] at hfound
    cases hfound
    exact .inl ⟨0, _, rfl, rfl⟩

/-- Somebody declines advertising for a tenant that has not signed. -/
theorem forged_by_opt_out :
    ¬ ∀ c db log labels, Genuine c (db, log) →
      Lasting (legalStep c) KeepsEvidence (db, log) labels ∧
        Always (legalStep c) (Genuine c) (db, log) labels := by
  intro h
  have hafter := (h plainContract owned [] [(.processPublicOptOut "905550000000", legalAt 1)]
    genuine_owned).2.last
  have hflag := (hafter.accepted 0 garage rfl).mp ⟨0, _, rfl, rfl, rfl⟩
  cases hflag

end Example

end WorksAuto.Platform
