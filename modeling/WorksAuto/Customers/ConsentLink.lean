import WorksAuto.Customers.Rows
import WorksAuto.Lib.Pool
import WorksAuto.Lib.Run

/-! The link by which a customer consents.
A confirmation looks its token up in one query and stores the consent in a transaction
later on. The lookup does not ask whether the consent is granted already, and neither does
the transaction: only the time at which the link expires puts an end to its use. -/

namespace WorksAuto.Customers

open Lib

inductive ConsentType where
  | kvkkAydinlatma | commercialSms | commercialCall
  deriving DecidableEq, Repr

structure CustomerConsent where
  tenantId : Uuid
  customerId : Uuid
  consentType : ConsentType
  isGranted : Bool
  grantedAt : Instant
  revokedAt : Option Instant
  channel : String
  ipAddress : Option String
  userAgent : Option String
  policyVersion : String
  verificationToken : Option String
  expiresAt : Option Instant
  deriving DecidableEq, Repr

/-- `auditData`, and the time that is added to it. -/
structure ConsentAudit where
  customerName : String
  channel : String
  commercialSms : Bool
  timestamp : Instant
  deriving DecidableEq, Repr

structure ConsentAuditLog where
  tenantId : Option Uuid
  action : String
  entityName : String
  entityId : Uuid
  ipAddress : Option String
  userAgent : Option String
  changesAfter : Option ConsentAudit
  deriving DecidableEq, Repr

structure ConsentDb where
  customers : Table Customer
  consents : Table CustomerConsent
  auditLogs : Table ConsentAuditLog

/-- A call of `confirmConsent`, but for its token. -/
structure ConfirmConsentDto where
  commercialSms : Option Bool
  ipAddress : Option String
  userAgent : Option String
  deriving DecidableEq, Repr

structure ConsentEnv where
  now : Instant
  auditFails : Bool

section Repository

def ConsentDb.link? (db : ConsentDb) (token : String) : Option (Uuid × CustomerConsent) :=
  db.consents.find? fun c => c.verificationToken = some token

def CustomerConsent.grant (dto : ConfirmConsentDto) (now : Instant) (c : CustomerConsent) :
    CustomerConsent :=
  { c with
    isGranted := true
    grantedAt := now
    ipAddress := firstText [dto.ipAddress]
    userAgent := firstText [dto.userAgent] }

def CustomerConsent.commercialSms (updated : CustomerConsent) : CustomerConsent where
  tenantId := updated.tenantId
  customerId := updated.customerId
  consentType := .commercialSms
  isGranted := true
  grantedAt := updated.grantedAt
  revokedAt := none
  channel := "SMS_LINK"
  ipAddress := updated.ipAddress
  userAgent := updated.userAgent
  policyVersion := updated.policyVersion
  verificationToken := none
  expiresAt := none

def grantedAction : String := "customer.kvkk_consent_granted"

def CustomerConsent.auditLog (updated : CustomerConsent) (id : Uuid) (customerName : String)
    (commercialSms : Bool) : ConsentAuditLog where
  tenantId := some updated.tenantId
  action := grantedAction
  entityName := "CustomerConsent"
  entityId := id
  ipAddress := updated.ipAddress
  userAgent := updated.userAgent
  changesAfter := some
    { customerName, channel := "SMS_LINK", commercialSms, timestamp := updated.grantedAt }

def ConsentDb.grant (db : ConsentDb) (id : Uuid) (row : CustomerConsent) (customerName : String)
    (dto : ConfirmConsentDto) (now : Instant) : ConsentDb where
  customers := db.customers
  consents :=
    if dto.commercialSms.getD false then
      (db.consents.modify id (CustomerConsent.grant dto now)).insert (row.grant dto now).commercialSms
    else db.consents.modify id (CustomerConsent.grant dto now)
  auditLogs := db.auditLogs.insert
    ((row.grant dto now).auditLog id customerName (dto.commercialSms.getD false))

/-- The failure of the audit entry is caught, but the database has given the transaction
up by then: its commit stores nothing. -/
def ConsentDb.confirmConsentWithAudit (db : ConsentDb) (id : Uuid) (customerName : String)
    (dto : ConfirmConsentDto) (env : ConsentEnv) : Outcome ConsentDb := do
  let row ← Outcome.required (db.consents.get? id) (.database "P2025")
  pure (if env.auditFails then db else db.grant id row customerName dto env.now)

end Repository

inductive ConsentTask where
  | findConsent (dto : ConfirmConsentDto)
  | confirm (id : Uuid) (customerName : String) (dto : ConfirmConsentDto)
  | finished (answer : Outcome Instant)

/-- `${firstName} ${lastName || ''}`, trimmed. -/
def Customer.fullName (c : Customer) : String := jsTrim (c.firstName ++ " " ++ c.lastName)

def ConsentDb.customerName (db : ConsentDb) (customerId : Uuid) : String :=
  ((db.customers.get? customerId).map Customer.fullName).getD ""

def checkExpiry (consent : CustomerConsent) (now : Instant) : Outcome Unit :=
  Outcome.reject (consent.expiresAt.any fun expiresAt => expiresAt < now)
    (.badRequest "Bu onay bağlantısının geçerlilik süresi dolmuştur.")

namespace ConsentTask

variable (token : String)

def exec (db : ConsentDb) (t : ConsentTask) (env : ConsentEnv) : ConsentDb × ConsentTask :=
  match t with
  | .findConsent dto =>
    match db.link? token with
    | none => (db, .finished (.error (.notFound "Geçersiz onay bağlantısı.")))
    | some (id, consent) =>
      match checkExpiry consent env.now with
      | .error e => (db, .finished (.error e))
      | .ok _ => (db, .confirm id (db.customerName consent.customerId) dto)
  | .confirm id customerName dto =>
    match db.confirmConsentWithAudit id customerName dto env with
    | .error e => (db, .finished (.error e))
    | .ok db' => (db', .finished (.ok env.now))
  | .finished answer => (db, .finished answer)

def passed : ConsentTask → Bool
  | .confirm _ _ _ => true
  | _ => false

def confirms (t : ConsentTask) (env : ConsentEnv) : Bool := t.passed && !env.auditFails

end ConsentTask

abbrev ConsentSystem := Pool ConsentDb ConsentTask

abbrev ConsentAction := PoolAction ConfirmConsentDto ConsentEnv

/-- Any calls of `confirmConsent` with one token, in any interleaving. -/
def ConsentSystem.act (token : String) : ConsentSystem → ConsentAction → ConsentSystem :=
  Pool.act .findConsent (ConsentTask.exec token)

section Once

variable (token : String)

def ConsentDb.used (db : ConsentDb) : Bool := (db.link? token).any fun q => q.2.isGranted

/-- How many confirmations have taken effect: each leaves one audit entry. -/
def ConsentDb.effects (db : ConsentDb) : ℕ :=
  db.auditLogs.sumBy fun e => if e.action = grantedAction then 1 else 0

def ConsentDb.commercial (db : ConsentDb) : ℕ :=
  db.consents.sumBy fun c => if c.consentType = .commercialSms then 1 else 0

/-- At most one call has taken effect since `start`. -/
structure ConsentDb.UsedOnce (start db : ConsentDb) : Prop where
  effects : db.effects ≤ start.effects + 1
  commercial : db.commercial ≤ start.commercial + 1

/-- A granted consent keeps its time, address and user agent. -/
def KeepsEvidence (db db' : ConsentDb) : Prop :=
  ∀ id c, db.link? token = some (id, c) → c.isGranted = true →
    ∃ c', db'.link? token = some (id, c') ∧ c'.isGranted = true ∧
      c'.grantedAt = c.grantedAt ∧ c'.ipAddress = c.ipAddress ∧ c'.userAgent = c.userAgent

/-- A call that looks up a consent which is granted comes after the link has expired. -/
def ConsentTask.FindsExpired (db : ConsentDb) (now : Instant) : ConsentTask → Prop
  | .findConsent _ => ∀ q ∈ db.link? token, q.2.isGranted = true →
      q.2.expiresAt.any (fun expiresAt => expiresAt < now) = true
  | _ => True

/-- No call looks the token up between a confirmation and the end of the link, and none that
has passed its lookup waits while another one is stored. -/
def ConsentSystem.ComesLate (p : ConsentSystem) : ConsentAction → Prop
  | .start _ => True
  | .step k env => ∀ t ∈ p.threads.get? k,
      t.FindsExpired token p.shared env.now ∧
        (t.confirms env = true → p.Alone (fun u => u.passed = true) k)

/-- The calls with one token, from a link that nobody has used. -/
structure LinkWorksOnce (start : ConsentDb) (actions : List ConsentAction) : Prop where
  once : Always (ConsentSystem.act token) (fun p => start.UsedOnce p.shared) (Pool.idle start)
    actions
  evidence : Lasting (ConsentSystem.act token) (fun p q => KeepsEvidence token p.shared q.shared)
    (Pool.idle start) actions

end Once

section Grant

variable {token : String} {db : ConsentDb} {id : Uuid} {row : CustomerConsent}
  {customerName : String} {dto : ConfirmConsentDto} {now : Instant}

theorem link?_grant (h : db.link? token = some (id, row)) :
    (db.grant id row customerName dto now).link? token = some (id, row.grant dto now) := by
  have hmodify : (db.consents.modify id (CustomerConsent.grant dto now)).find?
      (fun c => c.verificationToken = some token) = some (id, row.grant dto now) := by
    have hkeeps : ∀ r : CustomerConsent, decide ((r.grant dto now).verificationToken = some token) =
        decide (r.verificationToken = some token) := fun _ => rfl
    have hfind : db.consents.find? (fun c => c.verificationToken = some token) = some (id, row) := h
    rw [Table.find?_modify hkeeps, hfind, Option.map_some, if_pos rfl]
  simp only [ConsentDb.link?, ConsentDb.grant]
  split_ifs
  · rw [Table.find?_insert, hmodify, Option.some_or]
  · exact hmodify

theorem effects_grant : (db.grant id row customerName dto now).effects = db.effects + 1 := by
  rw [ConsentDb.effects, ConsentDb.grant, Table.sumBy_insert]
  rfl

theorem commercial_grant :
    (db.grant id row customerName dto now).commercial ≤ db.commercial + 1 := by
  have hmodify : (db.consents.modify id (CustomerConsent.grant dto now)).sumBy
      (fun c => if c.consentType = .commercialSms then 1 else 0) = db.commercial :=
    Table.sumBy_modifyIf_map _ _ _ _ fun _ => rfl
  simp only [ConsentDb.commercial, ConsentDb.grant]
  split_ifs
  · rw [Table.sumBy_insert, hmodify]
    rfl
  · rw [hmodify]
    exact Nat.le_succ _

end Grant

section Run

variable {token : String} {start : ConsentDb}

/-- The calls that have taken effect so far are one if the link is used, and none if not. -/
structure ConsentDb.Progress (token : String) (start db : ConsentDb) : Prop where
  effects : db.effects = start.effects + (db.used token).toNat
  commercial : db.commercial ≤ start.commercial + (db.used token).toNat

/-- A call that is about to confirm has found the consent of the token, not granted. -/
def ConsentTask.Found (token : String) (db : ConsentDb) : ConsentTask → Prop
  | .confirm id _ _ => ∃ row, db.link? token = some (id, row) ∧ row.isGranted = false
  | _ => True

def ConsentSystem.Tracked (token : String) (start : ConsentDb) (p : ConsentSystem) : Prop :=
  Pool.Holds (ConsentDb.Progress token start) (ConsentTask.Found token) p

theorem link_of_link? {db : ConsentDb} {id : Uuid} {row : CustomerConsent}
    (h : db.link? token = some (id, row)) : db.consents.get? id = some row :=
  (Table.find?_some h).1

theorem ConsentTask.Found.of_not_passed {db : ConsentDb} {t : ConsentTask}
    (h : t.passed ≠ true) : t.Found token db := by
  cases t with
  | confirm => exact absurd rfl h
  | findConsent | finished => trivial

theorem ConsentTask.exec_cases {db : ConsentDb} {t : ConsentTask} (ht : t.Found token db)
    {env : ConsentEnv} (hlate : t.FindsExpired token db env.now) :
    ((t.exec token db env).1 = db ∧ (t.exec token db env).2.Found token db) ∨
    (t.confirms env = true ∧ ∃ id customerName dto row, db.link? token = some (id, row) ∧
      row.isGranted = false ∧ (t.exec token db env).1 = db.grant id row customerName dto env.now ∧
      (t.exec token db env).2 = .finished (.ok env.now)) := by
  cases t with
  | findConsent dto =>
    left
    simp only [exec]
    cases hlink : db.link? token with
    | none => exact ⟨rfl, trivial⟩
    | some q =>
      simp only
      cases hexpiry : checkExpiry q.2 env.now with
      | error e => exact ⟨rfl, trivial⟩
      | ok _ =>
        refine ⟨rfl, q.2, hlink, ?_⟩
        rw [← Bool.not_eq_true]
        intro hgranted
        rw [checkExpiry, Outcome.reject_eq_ok, hlate q hlink hgranted] at hexpiry
        cases hexpiry
  | confirm id customerName dto =>
    obtain ⟨row, hrow, hunused⟩ := ht
    have hconfirm : db.confirmConsentWithAudit id customerName dto env =
        .ok (if env.auditFails then db else db.grant id row customerName dto env.now) := by
      rw [ConsentDb.confirmConsentWithAudit, link_of_link? hrow]
      rfl
    simp only [exec, confirms, passed, hconfirm]
    cases env.auditFails with
    | true => exact .inl ⟨rfl, trivial⟩
    | false => exact .inr ⟨rfl, id, customerName, dto, row, hrow, hunused, rfl, trivial⟩
  | finished answer => exact .inl ⟨rfl, trivial⟩

theorem used_of_link? {db : ConsentDb} {id : Uuid} {row : CustomerConsent}
    (h : db.link? token = some (id, row)) : db.used token = row.isGranted := by
  rw [ConsentDb.used, h]
  rfl

theorem used_grant {db : ConsentDb} {id : Uuid} {row : CustomerConsent}
    (hlink : db.link? token = some (id, row)) (customerName : String) (dto : ConfirmConsentDto)
    (now : Instant) : (db.grant id row customerName dto now).used token = true := by
  rw [ConsentDb.used, link?_grant hlink]
  rfl

theorem act_tracked {p : ConsentSystem} {a : ConsentAction} (h : p.Tracked token start)
    (ha : p.ComesLate token a) : ConsentSystem.Tracked token start (p.act token a) := by
  cases a with
  | start dto => exact Pool.Holds.start h trivial
  | step k env =>
    refine Pool.Holds.step_among h fun t ht => ?_
    obtain ⟨hlate, halone⟩ := ha t ht
    rcases ConsentTask.exec_cases (h.2 k t ht) hlate with ⟨hsame, hfound⟩ |
      ⟨hconfirms, id, customerName, dto, row, hlink, hunused, hgrant, hend⟩
    · rw [hsame]
      exact ⟨h.1, hfound, fun i u hu _ => h.2 i u hu⟩
    · have heffects := h.1.effects
      have hcommercial := h.1.commercial
      rw [used_of_link? hlink, hunused] at heffects hcommercial
      rw [hgrant, hend]
      refine ⟨⟨?_, ?_⟩, trivial, fun i u hu hne => .of_not_passed (halone hconfirms i u hu hne)⟩
      · rw [used_grant hlink, effects_grant, heffects]
        rfl
      · rw [used_grant hlink]
        exact commercial_grant.trans (Nat.add_le_add_right hcommercial 1)

theorem usedOnce_of_tracked {p : ConsentSystem} (h : p.Tracked token start) :
    start.UsedOnce p.shared := by
  have hone := (p.shared.used token).toNat_le
  exact ⟨h.1.effects.le.trans (Nat.add_le_add_left hone _),
    h.1.commercial.trans (Nat.add_le_add_left hone _)⟩

theorem KeepsEvidence.refl (db : ConsentDb) : KeepsEvidence token db db :=
  fun _ c hlink hgranted => ⟨c, hlink, hgranted, rfl, rfl, rfl⟩

theorem KeepsEvidence.trans {db db' db'' : ConsentDb} (h : KeepsEvidence token db db')
    (h' : KeepsEvidence token db' db'') : KeepsEvidence token db db'' := by
  intro id c hlink hgranted
  obtain ⟨c', hlink', hgranted', htime, hip, hagent⟩ := h id c hlink hgranted
  obtain ⟨c'', hlink'', hgranted'', htime', hip', hagent'⟩ := h' id c' hlink' hgranted'
  exact ⟨c'', hlink'', hgranted'', htime'.trans htime, hip'.trans hip, hagent'.trans hagent⟩

theorem act_keepsEvidence {p : ConsentSystem} {a : ConsentAction} (h : p.Tracked token start)
    (ha : p.ComesLate token a) : KeepsEvidence token p.shared (p.act token a).shared := by
  rcases Pool.shared_act .findConsent (ConsentTask.exec token) p a with hsame |
    ⟨k, env, t, rfl, ht, hshared⟩
  · have hact : (p.act token a).shared = p.shared := hsame
    rw [hact]
    exact .refl _
  · have hact : (p.act token (.step k env)).shared = (t.exec token p.shared env).1 := hshared
    rw [hact]
    rcases ConsentTask.exec_cases (h.2 k t ht) (ha t ht).1 with ⟨hstays, -⟩ |
      ⟨-, id, customerName, dto, row, hlink, hunused, -⟩
    · rw [hstays]
      exact .refl _
    · intro id' c hlink' hgranted
      obtain ⟨-, rfl⟩ := Prod.mk.inj (Option.some.inj (hlink.symm.trans hlink'))
      rw [hunused] at hgranted
      cases hgranted

/-- From a link that nobody has used: when no call looks it up between its confirmation and
its end, and none waits past its lookup while another one confirms, at most one call takes
effect and the evidence is fixed. -/
theorem linkWorksOnce (token : String) {db : ConsentDb} (hunused : db.used token = false)
    {actions : List ConsentAction}
    (h : EachStep (ConsentSystem.act token) (ConsentSystem.ComesLate token) (Pool.idle db)
      actions) : LinkWorksOnce token db actions := by
  have hstart : ConsentSystem.Tracked token db (Pool.idle db) := by
    refine Pool.holds_idle ⟨?_, ?_⟩
    · rw [hunused]
      rfl
    · rw [hunused]
      exact le_rfl
  have htracked := always_of_step (fun _ _ => act_tracked) hstart h
  refine ⟨htracked.mono fun _ => usedOnce_of_tracked, ?_⟩
  exact lasting_of_step (R := fun p q : ConsentSystem => KeepsEvidence token p.shared q.shared)
    (fun _ => .refl _) (fun _ _ _ => .trans) (fun _ _ => act_tracked)
    (fun _ _ => act_keepsEvidence) hstart h

end Run

section Example

def exampleConsent : CustomerConsent where
  tenantId := 0
  customerId := 0
  consentType := .kvkkAydinlatma
  isGranted := false
  grantedAt := 1767225600000
  revokedAt := none
  channel := "SMS_LINK"
  ipAddress := none
  userAgent := none
  policyVersion := "1.0"
  verificationToken := some "a1b2"
  expiresAt := some 1767830400000

def exampleConsents : ConsentDb where
  customers := .ofList [lead 0 "Ahmet" "Yılmaz" "05321112233" none]
  consents := .ofList [exampleConsent]
  auditLogs := .empty

def confirmFrom (thread : ℕ) (ipAddress : String) (now : Instant) : List ConsentAction :=
  .start { commercialSms := some true, ipAddress := some ipAddress, userAgent := none } ::
    List.replicate 2 (.step thread { now, auditFails := false })

instance (token : String) (db : ConsentDb) (now : Instant) :
    (t : ConsentTask) → Decidable (t.FindsExpired token db now)
  | .findConsent _ => inferInstanceAs (Decidable (∀ q ∈ db.link? token, q.2.isGranted = true →
      q.2.expiresAt.any (fun expiresAt => expiresAt < now) = true))
  | .confirm _ _ _ | .finished _ => .isTrue trivial

instance (token : String) (p : ConsentSystem) : (a : ConsentAction) → Decidable (p.ComesLate token a)
  | .start _ => .isTrue trivial
  | .step k env => inferInstanceAs (Decidable (∀ t ∈ p.threads.get? k,
      t.FindsExpired token p.shared env.now ∧
        (t.confirms env = true → p.Alone (fun u => u.passed = true) k)))

/-- The link is confirmed, and opened again when it has expired. -/
theorem linkWorksOnce_expired : LinkWorksOnce "a1b2" exampleConsents
    (confirmFrom 0 "10.0.0.1" 1767312000000 ++ confirmFrom 1 "10.0.0.2" 1767916800000) :=
  linkWorksOnce "a1b2" (by decide +kernel) (by decide +kernel)

/-- The link is opened again the day after, from elsewhere. -/
theorem link_used_twice :
    ¬ LinkWorksOnce "a1b2" exampleConsents
      (confirmFrom 0 "10.0.0.1" 1767312000000 ++ confirmFrom 1 "10.0.0.2" 1767398400000) := by
  intro h
  have htwo : (run (ConsentSystem.act "a1b2") (Pool.idle exampleConsents)
      (confirmFrom 0 "10.0.0.1" 1767312000000 ++
        confirmFrom 1 "10.0.0.2" 1767398400000)).shared.effects = exampleConsents.effects + 2 := by
    decide +kernel
  have hone := h.once.last.effects
  rw [htwo] at hone
  omega

end Example

end WorksAuto.Customers
