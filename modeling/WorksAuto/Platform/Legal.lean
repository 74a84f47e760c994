import WorksAuto.Platform.Rows
import Mathlib.Data.Finset.Max

/-! The contract between a tenant and the platform.
A signature stores its evidence and the acceptance of the tenant in one transaction. The
preference for advertising is kept in the same rows; without one, the update makes one up. -/

namespace WorksAuto.Platform

open Lib

/-- The text of the contract, the digest of the runtime, and how Prisma reads a text as a key. -/
structure Contract where
  b2bContractText : String
  sha256 : String → String
  uuid? : String → Option Uuid

def currentB2bContractVersion : String := "1.0"

structure ContractDetails where
  version : String
  contractText : String
  payloadHash : String
  updatedAt : String

def Contract.getContractDetails (c : Contract) : ContractDetails where
  version := currentB2bContractVersion
  contractText := c.b2bContractText
  payloadHash := c.sha256 c.b2bContractText
  updatedAt := "2026-09-11"

structure SignB2bConsentDto where
  saasTermsAccepted : Bool
  dataProcessingAccepted : Bool
  marketingAccepted : Bool
  deriving DecidableEq, Repr

structure RequestMeta where
  ip : String
  userAgent : String
  deriving DecidableEq, Repr

/-- Which rows the unordered searches find, and the times at which a signature is stored. -/
structure LegalEnv where
  tenant : ℕ
  user : ℕ
  latest : ℕ
  signer : ℕ
  signedAt : Instant
  acceptedAt : Instant

def pick {α : Type} (rows : List α) (choice : ℕ) : Option α := rows[choice % rows.length]?

theorem pick_eq_none {α : Type} {rows : List α} {choice : ℕ} :
    pick rows choice = none ↔ rows = [] := by
  constructor
  · intro h
    by_contra hne
    have hlt := Nat.mod_lt choice (List.length_pos_iff.mpr hne)
    rw [pick, List.getElem?_eq_getElem hlt] at h
    cases h
  · rintro rfl
    rfl

theorem mem_of_pick {α : Type} {rows : List α} {choice : ℕ} {r : α} (h : pick rows choice = some r) :
    r ∈ rows :=
  List.mem_of_getElem? h

section Service

variable (c : Contract) (db : Db) (env : LegalEnv)

/-- `findFirst({ where: { tenantId }, orderBy: { signedAt: 'desc' } })`. -/
def Db.latestConsent (tenantId : Uuid) : Option (Uuid × TenantConsent) :=
  let consents := db.tenantConsents.filter fun r => r.tenantId = tenantId
  pick (consents.filter fun q => consents.all fun other => other.2.signedAt ≤ q.2.signedAt) env.latest

def Db.usersOf (tenantId : Uuid) : List (Uuid × User) :=
  db.users.filter fun u => u.tenantId = some tenantId

def Db.createConsent (row : TenantConsent) : Outcome Db := do
  Outcome.reject ((db.tenants.get? row.tenantId).isNone || (db.users.get? row.signedByUserId).isNone)
    foreignKeyViolation
  pure { db with tenantConsents := db.tenantConsents.insert row }

def preferenceConsent (tenantId signedByUserId : Uuid) (marketingAccepted : Bool)
    (signedAt : Instant) : TenantConsent where
  tenantId
  signedByUserId
  contractVersion := currentB2bContractVersion
  ipAddress := "127.0.0.1"
  userAgent := "SETTINGS_PANEL_PREFERENCE"
  verifiedVia := "WEB_SETTINGS_TOGGLE"
  payloadHash := "MARKETING_PREFERENCE_UPDATE"
  saasTermsAccepted := true
  dataProcessingAccepted := true
  marketingAccepted
  signedAt

def Db.updateMarketingConsent (tenantId : Uuid) (marketingAccepted : Bool) : Outcome Db :=
  match db.latestConsent env tenantId with
  | some (id, _) =>
    pure { db with
      tenantConsents := db.tenantConsents.modify id fun r => { r with marketingAccepted } }
  | none =>
    match pick (db.usersOf tenantId) env.signer with
    | some (userId, _) =>
      db.createConsent (preferenceConsent tenantId userId marketingAccepted env.signedAt)
    | none => pure db

/-- The tenant with the text as its key, else as its phone or e-mail address, else the tenant of a
user who has it so. -/
def Db.identify (cleanId : String) : Option Uuid :=
  let byId := (c.uuid? cleanId).filter fun id => (db.tenants.get? id).isSome
  let byContact := (pick (db.tenants.filter fun t => t.phone = cleanId || t.email = some cleanId)
    env.tenant).map Prod.fst
  let byUser := (pick (db.users.filter fun u => u.phone = cleanId || u.email = some cleanId)
    env.user).bind fun q => q.2.tenantId.filter fun id => (db.tenants.get? id).isSome
  byId.or (byContact.or byUser)

def Db.processPublicOptOut (identifier : String) : Outcome Db := do
  Outcome.reject (jsTrim identifier = "")
    (.badRequest "Geçersiz ret talebi. Tanımlayıcı belirtilmedi.")
  match db.identify c env (jsTrim identifier) with
  | some tenantId => db.updateMarketingConsent env tenantId false
  | none => pure db

def Contract.signedConsent (c : Contract) (tenantId userId : Uuid) (dto : SignB2bConsentDto)
    (client : RequestMeta) (signedAt : Instant) : TenantConsent where
  tenantId
  signedByUserId := userId
  contractVersion := currentB2bContractVersion
  ipAddress := (firstText [some client.ip]).getD "127.0.0.1"
  userAgent := (firstText [some client.userAgent]).getD "Unknown Client"
  verifiedVia := "WEB_DIGITAL_SIGNATURE"
  payloadHash := c.sha256 c.b2bContractText
  saasTermsAccepted := dto.saasTermsAccepted
  dataProcessingAccepted := dto.dataProcessingAccepted
  marketingAccepted := dto.marketingAccepted
  signedAt

def accept (acceptedAt : Instant) (tenant : Tenant) : Tenant :=
  { tenant with
    b2bConsentAccepted := true
    b2bConsentAcceptedAt := some acceptedAt
    b2bContractVersion := currentB2bContractVersion }

def Db.signB2bConsent (tenantId userId : Uuid) (dto : SignB2bConsentDto) (client : RequestMeta) :
    Outcome Db := do
  Outcome.reject (!dto.saasTermsAccepted || !dto.dataProcessingAccepted)
    (.badRequest ("Sistemi kullanabilmek için WorksAuto B2B SaaS Sözleşmesi ve KVKK Veri İşleme " ++
      "Protokolü zorunlu olarak onaylanmalıdır."))
  let recorded ← db.createConsent (c.signedConsent tenantId userId dto client env.signedAt)
  pure { recorded with tenants := recorded.tenants.modify tenantId (accept env.acceptedAt) }

/-- `LegalConsentGuard`, for a user of the tenant. -/
def Db.legalConsentGuard (tenantId : Uuid) : Outcome Unit :=
  Outcome.reject (!(db.tenants.get? tenantId).any Tenant.b2bConsentAccepted)
    (.forbidden ("WorksAuto B2B Hizmet Şartları ve KVKK Veri İşleme Sözleşmesi henüz " ++
      "onaylanmamıştır. Sistemi kullanabilmek için işletme yetkilisinin yasal sözleşmeyi " ++
      "onaylaması zorunludur."))

end Service

section Calls

/-- The calls of the controller: the last one is public, and only the second one is guarded. -/
inductive LegalCall where
  | signB2bConsent (tenantId userId : Uuid) (dto : SignB2bConsentDto) (client : RequestMeta)
  | updateMarketingConsent (tenantId : Uuid) (marketingAccepted : Bool)
  | processPublicOptOut (identifier : String)
  deriving DecidableEq, Repr

def LegalCall.exec (c : Contract) (db : Db) (env : LegalEnv) : LegalCall → Outcome Db
  | signB2bConsent tenantId userId dto client => db.signB2bConsent c env tenantId userId dto client
  | updateMarketingConsent tenantId marketingAccepted => do
    db.legalConsentGuard tenantId
    db.updateMarketingConsent env tenantId marketingAccepted
  | processPublicOptOut identifier => db.processPublicOptOut c env identifier

end Calls

section Effects

variable {c : Contract} {db db' : Db} {env : LegalEnv} {tenantId : Uuid}

theorem Db.createConsent_eq_ok {row : TenantConsent} :
    db.createConsent row = .ok db' ↔
      ((db.tenants.get? row.tenantId).isSome ∧ (db.users.get? row.signedByUserId).isSome) ∧
        { db with tenantConsents := db.tenantConsents.insert row } = db' := by
  unfold Db.createConsent
  rw [Outcome.bind_eq_ok]
  simp [Option.isSome_iff_ne_none]

theorem Db.latestConsent_eq_none :
    db.latestConsent env tenantId = none ↔
      ∀ id row, db.tenantConsents.get? id = some row → row.tenantId ≠ tenantId := by
  unfold Db.latestConsent
  simp only
  rw [pick_eq_none]
  constructor
  · intro hnone id row hrow htenant
    have hmem : (id, row) ∈ db.tenantConsents.filter fun r => r.tenantId = tenantId :=
      Table.mem_filter_iff.mpr ⟨hrow, decide_eq_true htenant⟩
    obtain ⟨q, hq, hmax⟩ := Finset.exists_max_image
      (db.tenantConsents.filter fun r => r.tenantId = tenantId).toFinset (fun q => q.2.signedAt)
      ⟨(id, row), List.mem_toFinset.mpr hmem⟩
    refine List.filter_eq_nil_iff.mp hnone q (List.mem_toFinset.mp hq) ?_
    exact List.all_eq_true.mpr fun other hother =>
      decide_eq_true (hmax other (List.mem_toFinset.mpr hother))
  · intro hnone
    have hempty : (db.tenantConsents.filter fun r => r.tenantId = tenantId) = [] := by
      refine List.eq_nil_iff_forall_not_mem.mpr fun q hq => ?_
      obtain ⟨hrow, htenant⟩ := Table.mem_filter_iff.mp hq
      exact hnone q.1 q.2 hrow (of_decide_eq_true htenant)
    rw [hempty]
    rfl

theorem Db.signB2bConsent_eq_ok {userId : Uuid} {dto : SignB2bConsentDto} {client : RequestMeta}
    (h : db.signB2bConsent c env tenantId userId dto client = .ok db') :
    dto.saasTermsAccepted = true ∧
      ((db.tenants.get? tenantId).isSome ∧ (db.users.get? userId).isSome) ∧
      { db with
        tenantConsents := db.tenantConsents.insert
          (c.signedConsent tenantId userId dto client env.signedAt)
        tenants := db.tenants.modify tenantId (accept env.acceptedAt) } = db' := by
  obtain ⟨_, hterms, h⟩ := Outcome.bind_eq_ok.mp h
  obtain ⟨recorded, hrecorded, h⟩ := Outcome.bind_eq_ok.mp h
  obtain ⟨hkeys, rfl⟩ := Db.createConsent_eq_ok.mp hrecorded
  obtain rfl := Outcome.pure_eq_ok.mp h
  refine ⟨?_, hkeys, rfl⟩
  have hboth := Outcome.reject_eq_ok.mp hterms
  simp only [Bool.or_eq_false_iff, Bool.not_eq_false'] at hboth
  exact hboth.1

theorem Db.updateMarketingConsent_eq_ok {marketingAccepted : Bool}
    (h : db.updateMarketingConsent env tenantId marketingAccepted = .ok db') :
    (∃ id, { db with
      tenantConsents := db.tenantConsents.modify id fun r => { r with marketingAccepted } } = db') ∨
    (db.latestConsent env tenantId = none ∧ ∃ userId,
      db.createConsent (preferenceConsent tenantId userId marketingAccepted env.signedAt) = .ok db') ∨
    (db.usersOf tenantId = [] ∧ db = db') := by
  unfold Db.updateMarketingConsent at h
  cases hlatest : db.latestConsent env tenantId with
  | some q =>
    rw [hlatest] at h
    exact .inl ⟨q.1, Outcome.pure_eq_ok.mp h⟩
  | none =>
    rw [hlatest] at h
    cases huser : pick (db.usersOf tenantId) env.signer with
    | some q =>
      simp only [huser] at h
      exact .inr (.inl ⟨rfl, q.1, h⟩)
    | none =>
      simp only [huser] at h
      exact .inr (.inr ⟨pick_eq_none.mp huser, Outcome.pure_eq_ok.mp h⟩)

theorem Db.updateMarketingConsent_of_none {marketingAccepted : Bool}
    (hlatest : db.latestConsent env tenantId = none) (htenant : (db.tenants.get? tenantId).isSome)
    (husers : db.usersOf tenantId ≠ []) :
    ∃ userId, db.updateMarketingConsent env tenantId marketingAccepted = .ok { db with
      tenantConsents := db.tenantConsents.insert
        (preferenceConsent tenantId userId marketingAccepted env.signedAt) } := by
  cases huser : pick (db.usersOf tenantId) env.signer with
  | none => exact absurd (pick_eq_none.mp huser) husers
  | some q =>
    have hq := (Table.mem_filter_iff.mp (mem_of_pick huser)).1
    refine ⟨q.1, ?_⟩
    unfold Db.updateMarketingConsent
    simp only [hlatest, huser]
    refine Db.createConsent_eq_ok.mpr ⟨⟨htenant, ?_⟩, rfl⟩
    change (db.users.get? q.1).isSome = true
    rw [hq]
    rfl

theorem Db.identify_isSome {cleanId : String} (h : db.identify c env cleanId = some tenantId) :
    (db.tenants.get? tenantId).isSome := by
  unfold Db.identify at h
  rcases Option.or_eq_some_iff.mp h with hid | ⟨-, h⟩
  · exact (Option.filter_eq_some_iff.mp hid).2
  · rcases Option.or_eq_some_iff.mp h with hcontact | ⟨-, huser⟩
    · obtain ⟨q, hq, rfl⟩ := Option.map_eq_some_iff.mp hcontact
      rw [(Table.mem_filter_iff.mp (mem_of_pick hq)).1]
      rfl
    · obtain ⟨q, -, hq⟩ := Option.bind_eq_some_iff.mp huser
      exact (Option.filter_eq_some_iff.mp hq).2

end Effects

section Example

def plainContract : Contract where
  b2bContractText := "WORKSAUTO KURUMSAL BULUT HİZMET SÖZLEŞMESİ"
  sha256 text := "digest of " ++ text
  uuid? _ := none

def legalAt (now : Instant) : LegalEnv := ⟨0, 0, 0, 0, now, now⟩

end Example

end WorksAuto.Platform
