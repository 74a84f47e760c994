import WorksAuto.Customers.ConsentLink

/-! The consents of customers.
Staff send a link or record a consent on paper; whoever holds the token of a
link confirms it. What is shown as approved is read off the rows. -/

namespace WorksAuto.Customers

open Lib

/-- A call of `recordDirectConsent`. -/
structure DirectConsentDto where
  channel : String
  policyVersion : Option String
  commercialSms : Option Bool
  ipAddress : Option String
  userAgent : Option String

namespace ConsentDb

variable (db : ConsentDb)

def findCustomerWithTenant (tenantId customerId : Uuid) : Option Customer :=
  (db.customers.get? customerId).filter fun c => c.tenantId = tenantId && c.deletedAt.isNone

/-- `orderBy: { grantedAt: 'desc' }` -/
def findCustomerConsents (tenantId customerId : Uuid) : List (Uuid × CustomerConsent) :=
  (db.consents.filter fun c => c.tenantId = tenantId && c.customerId = customerId).mergeSort
    fun a b => b.2.grantedAt ≤ a.2.grantedAt

end ConsentDb

section GetConsents

def CustomerConsent.approves (type : ConsentType) (c : CustomerConsent) : Bool :=
  c.consentType = type && c.isGranted && c.revokedAt.isNone

theorem CustomerConsent.approves_iff {type : ConsentType} {c : CustomerConsent} :
    c.approves type = true ↔ c.consentType = type ∧ c.isGranted = true ∧ c.revokedAt = none := by
  simp [approves, and_assoc]

structure ConsentStatus where
  customerId : Uuid
  isKvkkApproved : Bool
  isCommercialSmsApproved : Bool
  latestConsentDate : Option Instant
  latestChannel : Option String
  history : List (Uuid × CustomerConsent)
  deriving DecidableEq, Repr

def getConsents (db : ConsentDb) (tenantId customerId : Uuid) : Outcome ConsentStatus := do
  let _ ← Outcome.required (db.findCustomerWithTenant tenantId customerId)
    (.notFound "Müşteri bulunamadı.")
  let records := db.findCustomerConsents tenantId customerId
  let activeKvkk := records.find? fun r => r.2.approves .kvkkAydinlatma
  let activeSms := records.find? fun r => r.2.approves .commercialSms
  pure
    { customerId
      isKvkkApproved := activeKvkk.isSome
      isCommercialSmsApproved := activeSms.isSome
      latestConsentDate := activeKvkk.map (·.2.grantedAt)
      latestChannel := activeKvkk.map (·.2.channel)
      history := records }

def ConsentDb.Approved (db : ConsentDb) (type : ConsentType) (tenantId customerId : Uuid) : Prop :=
  ∃ k c, db.consents.get? k = some c ∧ c.tenantId = tenantId ∧ c.customerId = customerId ∧
    c.approves type = true

theorem isSome_find?_consents (db : ConsentDb) (type : ConsentType) (tenantId customerId : Uuid) :
    ((db.findCustomerConsents tenantId customerId).find? fun r => r.2.approves type).isSome ↔
      db.Approved type tenantId customerId := by
  rw [List.find?_isSome]
  constructor
  · rintro ⟨⟨k, c⟩, hmem, happroves⟩
    obtain ⟨hget, howner⟩ := Table.mem_filter_iff.mp (List.mem_mergeSort.mp hmem)
    simp only [Bool.and_eq_true, decide_eq_true_eq] at howner
    exact ⟨k, c, hget, howner.1, howner.2, happroves⟩
  · rintro ⟨k, c, hget, htenant, hcustomer, happroves⟩
    refine ⟨(k, c), List.mem_mergeSort.mpr (Table.mem_filter_iff.mpr ⟨hget, ?_⟩), happroves⟩
    simp [htenant, hcustomer]

theorem getConsents_approved {db : ConsentDb} {tenantId customerId : Uuid} {status : ConsentStatus}
    (h : getConsents db tenantId customerId = .ok status) :
    (status.isKvkkApproved = true ↔ db.Approved .kvkkAydinlatma tenantId customerId) ∧
      (status.isCommercialSmsApproved = true ↔ db.Approved .commercialSms tenantId customerId) := by
  obtain ⟨customer, -, h⟩ := Outcome.bind_eq_ok.mp h
  obtain rfl := Outcome.pure_eq_ok.mp h
  exact ⟨isSome_find?_consents .., isSome_find?_consents ..⟩

end GetConsents

section Registry

inductive RegistryRequest where
  | sendConsentSms (tenantId customerId : Uuid)
  | confirmConsent (token : String) (dto : ConfirmConsentDto)
  | recordDirectConsent (tenantId customerId : Uuid) (dto : DirectConsentDto)
  /-- any change of the customers -/
  | customers (change : Table Customer → Table Customer)

inductive RegistryTask where
  | asked (request : RegistryRequest)
  | creating (tenantId customerId : Uuid)
  | confirming (token : String) (task : ConsentTask)
  | recording (tenantId customerId : Uuid) (dto : DirectConsentDto)
  | answered (answer : Outcome Unit)

/-- Also whether a statement is refused, and the `randomBytes` of a new link. -/
structure RegistryEnv extends ConsentEnv where
  refused : Bool
  token : String

def linkLifetime : ℤ := 7 * 24 * 60 * 60 * 1000

def linkConsent (tenantId customerId : Uuid) (token : String) (now : Instant) :
    CustomerConsent where
  tenantId := tenantId
  customerId := customerId
  consentType := .kvkkAydinlatma
  isGranted := false
  grantedAt := now
  revokedAt := none
  channel := "SMS_LINK"
  ipAddress := none
  userAgent := none
  policyVersion := "1.0"
  verificationToken := some token
  expiresAt := some (now + linkLifetime)

def directConsent (tenantId customerId : Uuid) (dto : DirectConsentDto) (now : Instant)
    (type : ConsentType) : CustomerConsent where
  tenantId := tenantId
  customerId := customerId
  consentType := type
  isGranted := true
  grantedAt := now
  revokedAt := none
  channel := dto.channel
  ipAddress := firstText [dto.ipAddress]
  userAgent := firstText [dto.userAgent]
  policyVersion := (firstText [dto.policyVersion]).getD "1.0"
  verificationToken := none
  expiresAt := none

namespace ConsentDb

variable (db : ConsentDb)

def createConsent (row : CustomerConsent) : Outcome ConsentDb := do
  Outcome.reject (row.verificationToken.any fun token => (db.link? token).isSome)
    (.database "P2002")
  pure { db with consents := db.consents.insert row }

def recordDirectConsent (tenantId customerId : Uuid) (dto : DirectConsentDto) (now : Instant) :
    ConsentDb :=
  let consents := db.consents.insert (directConsent tenantId customerId dto now .kvkkAydinlatma)
  { db with
    consents :=
      if dto.commercialSms.getD false then
        consents.insert (directConsent tenantId customerId dto now .commercialSms)
      else consents }

end ConsentDb

/-- `exec` of a confirmation, as a part of the registry's. -/
def RegistryTask.confirm (db : ConsentDb) (token : String) (task : ConsentTask)
    (env : RegistryEnv) : ConsentDb × RegistryTask :=
  ((task.exec token db env.toConsentEnv).1,
    .confirming token (task.exec token db env.toConsentEnv).2)

def RegistryTask.exec (db : ConsentDb) (task : RegistryTask) (env : RegistryEnv) :
    ConsentDb × RegistryTask :=
  if env.refused then (db, .answered (.error (.database "P1001")))
  else
    match task with
    | .asked (.sendConsentSms tenantId customerId) =>
      match db.findCustomerWithTenant tenantId customerId with
      | none => (db, .answered (.error (.notFound "Müşteri bulunamadı.")))
      | some _ => (db, .creating tenantId customerId)
    | .creating tenantId customerId =>
      match db.createConsent (linkConsent tenantId customerId env.token env.now) with
      | .error e => (db, .answered (.error e))
      | .ok db' => (db', .answered (.ok ()))
    | .asked (.confirmConsent token dto) => confirm db token (.findConsent dto) env
    | .confirming token task => confirm db token task env
    | .asked (.recordDirectConsent tenantId customerId dto) =>
      match db.findCustomerWithTenant tenantId customerId with
      | none => (db, .answered (.error (.notFound "Müşteri bulunamadı.")))
      | some _ => (db, .recording tenantId customerId dto)
    | .recording tenantId customerId dto =>
      (db.recordDirectConsent tenantId customerId dto env.now, .answered (.ok ()))
    | .asked (.customers change) =>
      ({ db with customers := change db.customers }, .answered (.ok ()))
    | .answered answer => (db, .answered answer)

abbrev RegistryPool := Pool ConsentDb RegistryTask

abbrev RegistryAction := PoolAction RegistryRequest RegistryEnv

def registryAct : RegistryPool → RegistryAction → RegistryPool :=
  Pool.act RegistryTask.asked RegistryTask.exec

end Registry

end WorksAuto.Customers
