import WorksAuto.Customers.Consents
import WorksAuto.Lib.Requests

/-! Where an approval comes from.
What is shown as approved for a customer was confirmed by the holder of a link
that his own workshop had sent for him, or recorded for him by its staff; and
nothing takes an approval back. -/

namespace WorksAuto.Customers

open Lib

section Run

variable (start : ConsentDb) (labels : List RegistryAction)

/-- In the run, request `i` took this step, and the database did not refuse it. -/
def Carried (i : ℕ) (r : RegistryRequest) (task : RegistryTask) (env : RegistryEnv)
    (now : ConsentDb) : Prop :=
  (Pool.requests labels)[i]? = some r ∧
    Pool.Took RegistryTask.asked RegistryTask.exec start labels i env task now ∧
    env.refused = false

/-- The token stood for the customer before, or it was drawn, as a new one, for the link that
the tenant sent the customer in the run. -/
def SentTo (token : String) (tenantId customerId : Uuid) (type : ConsentType) : Prop :=
  (∃ k c, start.consents.get? k = some c ∧ c.verificationToken = some token ∧
    c.tenantId = tenantId ∧ c.customerId = customerId ∧ c.consentType = type) ∨
  type = .kvkkAydinlatma ∧ ∃ i env now,
    Carried start labels i (.sendConsentSms tenantId customerId) (.creating tenantId customerId)
      env now ∧ env.token = token ∧ now.link? token = none

def Confirmed (token : String) (dto : ConfirmConsentDto) : Prop :=
  ∃ i id name env now c,
    Carried start labels i (.confirmConsent token dto) (.confirming token (.confirm id name dto))
      env now ∧ env.auditFails = false ∧ now.consents.get? id = some c ∧
      c.verificationToken = some token

def Recorded (tenantId customerId : Uuid) (dto : DirectConsentDto) : Prop :=
  ∃ i env now, Carried start labels i (.recordDirectConsent tenantId customerId dto)
    (.recording tenantId customerId dto) env now

def Gave (type : ConsentType) (tenantId customerId : Uuid) : Prop :=
  start.Approved type tenantId customerId ∨
  (∃ dto, Recorded start labels tenantId customerId dto ∧
    (type = .kvkkAydinlatma ∨ type = .commercialSms ∧ dto.commercialSms = some true)) ∨
  ∃ token dto asked, Confirmed start labels token dto ∧
    SentTo start labels token tenantId customerId asked ∧
    (type = asked ∨ type = .commercialSms ∧ dto.commercialSms = some true)

structure RowGiven (c : CustomerConsent) : Prop where
  approved : ∀ type, c.approves type = true → Gave start labels type c.tenantId c.customerId
  sent : ∀ token, c.verificationToken = some token →
    SentTo start labels token c.tenantId c.customerId c.consentType

def RegistryGiven (db : ConsentDb) : Prop :=
  ∀ k c, db.consents.get? k = some c → RowGiven start labels c

def TaskGiven (r : RegistryRequest) (db : ConsentDb) : RegistryTask → Prop
  | .asked request => request = r
  | .creating tenantId customerId => r = .sendConsentSms tenantId customerId
  | .confirming token (.findConsent dto) => r = .confirmConsent token dto
  | .confirming token (.confirm id _ dto) => r = .confirmConsent token dto ∧
    ∃ c, db.consents.get? id = some c ∧ c.verificationToken = some token
  | .recording tenantId customerId dto => r = .recordDirectConsent tenantId customerId dto
  | _ => True

/-- A row stays the same customer's, under its token, and approves what it approved. -/
structure CustomerConsent.KeptAs (c c' : CustomerConsent) : Prop where
  token : c'.verificationToken = c.verificationToken
  tenant : c'.tenantId = c.tenantId
  customer : c'.customerId = c.customerId
  approves : ∀ type, c.approves type = true → c'.approves type = true

def ConsentDb.Keeps (db db' : ConsentDb) : Prop :=
  ∀ k c, db.consents.get? k = some c → ∃ c', db'.consents.get? k = some c' ∧ c.KeptAs c'

theorem CustomerConsent.KeptAs.refl (c : CustomerConsent) : c.KeptAs c :=
  ⟨rfl, rfl, rfl, fun _ h => h⟩

theorem CustomerConsent.keptAs_grant (c : CustomerConsent) (dto : ConfirmConsentDto)
    (now : Instant) : c.KeptAs (c.grant dto now) := by
  refine ⟨rfl, rfl, rfl, fun type h => ?_⟩
  obtain ⟨htype, -, hrevoked⟩ := CustomerConsent.approves_iff.mp h
  exact CustomerConsent.approves_iff.mpr ⟨htype, rfl, hrevoked⟩

theorem ConsentDb.Keeps.refl (db : ConsentDb) : db.Keeps db := fun _ c hc => ⟨c, hc, .refl c⟩

theorem ConsentDb.Keeps.trans {db db' db'' : ConsentDb} (h : db.Keeps db') (h' : db'.Keeps db'') :
    db.Keeps db'' := by
  intro k c hc
  obtain ⟨c', hc', hkept⟩ := h k c hc
  obtain ⟨c'', hc'', hkept'⟩ := h' k c' hc'
  exact ⟨c'', hc'', hkept'.token.trans hkept.token, hkept'.tenant.trans hkept.tenant,
    hkept'.customer.trans hkept.customer,
    fun type happroves => hkept'.approves type (hkept.approves type happroves)⟩

theorem ConsentDb.Keeps.approved {db db' : ConsentDb} (h : db.Keeps db') {type : ConsentType}
    {tenantId customerId : Uuid} (happroved : db.Approved type tenantId customerId) :
    db'.Approved type tenantId customerId := by
  obtain ⟨k, c, hc, rfl, rfl, happroves⟩ := happroved
  obtain ⟨c', hc', hkept⟩ := h k c hc
  exact ⟨k, c', hc', hkept.tenant, hkept.customer, hkept.approves type happroves⟩

variable {start labels}

theorem TaskGiven.mono {r : RegistryRequest} {db db' : ConsentDb} {task : RegistryTask}
    (h : TaskGiven r db task) (hkeeps : db.Keeps db') : TaskGiven r db' task := by
  cases task with
  | confirming token t =>
    cases t with
    | confirm id name dto =>
      obtain ⟨hconfirmed, c, hc, htoken⟩ := h
      obtain ⟨c', hc', hkept⟩ := hkeeps id c hc
      exact ⟨hconfirmed, c', hc', hkept.token.trans htoken⟩
    | _ => exact h
  | _ => exact h

theorem RegistryGiven.insert {db : ConsentDb} (h : RegistryGiven start labels db) {row : CustomerConsent}
    (hrow : RowGiven start labels row) :
    RegistryGiven start labels { db with consents := db.consents.insert row } := by
  intro k c hc
  rw [Table.get?_insert] at hc
  split at hc
  · cases hc
    exact hrow
  · exact h k c hc

theorem keeps_insert (db : ConsentDb) (row : CustomerConsent) :
    db.Keeps { db with consents := db.consents.insert row } :=
  fun _ c hc => ⟨c, Table.get?_insert_of_some hc row, .refl c⟩

theorem RowGiven.grant {c : CustomerConsent} (h : RowGiven start labels c) {token : String}
    (htoken : c.verificationToken = some token) {dto : ConfirmConsentDto}
    (hconfirmed : Confirmed start labels token dto) (now : Instant) : RowGiven start labels (c.grant dto now) where
  approved type happroves := by
    obtain ⟨htype, -⟩ := CustomerConsent.approves_iff.mp happroves
    exact .inr (.inr ⟨token, dto, c.consentType, hconfirmed, h.sent token htoken, .inl htype.symm⟩)
  sent := h.sent

theorem RowGiven.commercialSms {c : CustomerConsent} (h : RowGiven start labels c) {token : String}
    (htoken : c.verificationToken = some token) {dto : ConfirmConsentDto}
    (hconfirmed : Confirmed start labels token dto) (hticked : dto.commercialSms.getD false = true)
    (now : Instant) : RowGiven start labels (c.grant dto now).commercialSms where
  approved type happroves := by
    obtain ⟨htype, -⟩ := CustomerConsent.approves_iff.mp happroves
    have hbox : dto.commercialSms = some true := by
      simpa using Option.getD_eq_iff.mp hticked
    exact .inr (.inr ⟨token, dto, c.consentType, hconfirmed, h.sent token htoken,
      .inr ⟨htype.symm, hbox⟩⟩)
  sent token' htoken' := by cases htoken'

theorem rowGiven_link {tenantId customerId : Uuid} {token : String}
    (hsent : SentTo start labels token tenantId customerId .kvkkAydinlatma) (now : Instant) :
    RowGiven start labels (linkConsent tenantId customerId token now) where
  approved type happroves := by cases (CustomerConsent.approves_iff.mp happroves).2.1
  sent token' htoken' := by
    cases htoken'
    exact hsent

theorem rowGiven_direct {tenantId customerId : Uuid} {dto : DirectConsentDto}
    (hrecorded : Recorded start labels tenantId customerId dto) {type : ConsentType}
    (htype : type = .kvkkAydinlatma ∨ type = .commercialSms ∧ dto.commercialSms = some true)
    (now : Instant) : RowGiven start labels (directConsent tenantId customerId dto now type) where
  approved type' happroves := by
    obtain ⟨rfl, -⟩ := CustomerConsent.approves_iff.mp happroves
    exact .inr (.inl ⟨dto, hrecorded, htype⟩)
  sent token htoken := by cases htoken

theorem RegistryGiven.confirm {db : ConsentDb} (h : RegistryGiven start labels db) {id : Uuid}
    {row : CustomerConsent} (hrow : db.consents.get? id = some row) {token : String}
    (htoken : row.verificationToken = some token) {dto : ConfirmConsentDto}
    (hconfirmed : Confirmed start labels token dto) (name : String) (now : Instant) :
    RegistryGiven start labels (db.grant id row name dto now) := by
  have hmodify : RegistryGiven start labels
      { db with consents := db.consents.modify id (CustomerConsent.grant dto now) } := by
    intro k c hc
    obtain ⟨old, hold, rfl⟩ := Table.of_get?_modify hc
    split
    next hk =>
      subst hk
      obtain rfl := Option.some.inj (hold.symm.trans hrow)
      exact (h _ _ hold).grant htoken hconfirmed now
    next => exact h k old hold
  intro k c hc
  simp only [ConsentDb.grant] at hc
  split at hc
  next hticked =>
    have hboth := hmodify.insert ((h id row hrow).commercialSms htoken hconfirmed hticked now)
    exact hboth k c hc
  next => exact hmodify k c hc

theorem keeps_grant (db : ConsentDb) (id : Uuid) (row : CustomerConsent) (name : String)
    (dto : ConfirmConsentDto) (now : Instant) : db.Keeps (db.grant id row name dto now) := by
  have hmodify : db.Keeps
      { db with consents := db.consents.modify id (CustomerConsent.grant dto now) } := by
    intro k c hc
    simp only [Table.get?_modify, hc, Option.map_some]
    split
    · exact ⟨_, rfl, c.keptAs_grant dto now⟩
    · exact ⟨c, rfl, .refl c⟩
  unfold ConsentDb.grant
  split
  · exact hmodify.trans (keeps_insert _ _)
  · exact hmodify

theorem keeps_confirm (db : ConsentDb) (token : String) (task : ConsentTask) (env : RegistryEnv) :
    db.Keeps (RegistryTask.confirm db token task env).1 := by
  have hsame : db.Keeps db := .refl db
  unfold RegistryTask.confirm ConsentTask.exec
  cases task with
  | findConsent dto =>
    simp only
    split
    · exact hsame
    · split <;> exact hsame
  | confirm id name dto =>
    simp only [ConsentDb.confirmConsentWithAudit]
    cases hrow : db.consents.get? id with
    | none => exact hsame
    | some row =>
      cases haudit : env.auditFails with
      | true => exact hsame
      | false => exact keeps_grant db id row name dto env.now
  | finished answer => exact hsame

theorem keeps_record (db : ConsentDb) (tenantId customerId : Uuid) (dto : DirectConsentDto)
    (now : Instant) : db.Keeps (db.recordDirectConsent tenantId customerId dto now) := by
  have hfirst := keeps_insert db (directConsent tenantId customerId dto now .kvkkAydinlatma)
  unfold ConsentDb.recordDirectConsent
  split
  · exact hfirst.trans (keeps_insert _ _)
  · exact hfirst

theorem exec_keeps (db : ConsentDb) (task : RegistryTask) (env : RegistryEnv) :
    db.Keeps (task.exec db env).1 := by
  have hsame : db.Keeps db := .refl db
  unfold RegistryTask.exec
  split
  · exact hsame
  · cases task with
    | asked request =>
      cases request with
      | sendConsentSms t c =>
        simp only
        split <;> exact hsame
      | confirmConsent token dto => exact keeps_confirm db token _ env
      | recordDirectConsent t c dto =>
        simp only
        split <;> exact hsame
      | customers change => exact hsame
    | creating t c =>
      simp only
      split
      · exact hsame
      next db' hcreate =>
        obtain ⟨u, -, hcreate⟩ := Outcome.bind_eq_ok.mp hcreate
        obtain rfl := Outcome.pure_eq_ok.mp hcreate
        exact keeps_insert db _
    | confirming token task => exact keeps_confirm db token task env
    | recording t c dto => exact keeps_record db t c dto env.now
    | answered answer => exact hsame

theorem act_keeps (p : RegistryPool) (l : RegistryAction) :
    p.shared.Keeps (registryAct p l).shared := by
  rcases Pool.shared_act RegistryTask.asked RegistryTask.exec p l with
    hsame | ⟨i, env, task, -, -, hshared⟩
  · rw [registryAct, hsame]
    exact .refl _
  · rw [registryAct, hshared]
    exact exec_keeps p.shared task env

theorem find_given {db : ConsentDb} (h : RegistryGiven start labels db) (token : String)
    (dto : ConfirmConsentDto) (env : RegistryEnv) :
    RegistryGiven start labels (RegistryTask.confirm db token (.findConsent dto) env).1 ∧
      TaskGiven (.confirmConsent token dto)
        (RegistryTask.confirm db token (.findConsent dto) env).1
        (RegistryTask.confirm db token (.findConsent dto) env).2 := by
  simp only [RegistryTask.confirm, ConsentTask.exec]
  cases hlink : db.link? token with
  | none => exact ⟨h, trivial⟩
  | some q =>
    simp only
    cases checkExpiry q.2 env.now with
    | error e => exact ⟨h, trivial⟩
    | ok _ =>
      obtain ⟨hget, htoken⟩ := Table.find?_some hlink
      exact ⟨h, rfl, q.2, hget, by simpa using htoken⟩

theorem confirm_given {db : ConsentDb} (h : RegistryGiven start labels db) {token : String}
    {id : Uuid} {name : String} {dto : ConfirmConsentDto} {i : ℕ} {r : RegistryRequest}
    (hr : (Pool.requests labels)[i]? = some r)
    (ht : TaskGiven r db (.confirming token (.confirm id name dto))) {env : RegistryEnv}
    (htook : Pool.Took RegistryTask.asked RegistryTask.exec start labels i env
      (.confirming token (.confirm id name dto)) db) (hrefused : env.refused = false) :
    RegistryGiven start labels (RegistryTask.confirm db token (.confirm id name dto) env).1 ∧
      TaskGiven r (RegistryTask.confirm db token (.confirm id name dto) env).1
        (RegistryTask.confirm db token (.confirm id name dto) env).2 := by
  obtain ⟨rfl, row, hrow, htoken⟩ := ht
  have hconfirm : db.confirmConsentWithAudit id name dto env.toConsentEnv =
      .ok (if env.auditFails then db else db.grant id row name dto env.now) := by
    rw [ConsentDb.confirmConsentWithAudit, hrow]
    rfl
  simp only [RegistryTask.confirm, ConsentTask.exec, hconfirm]
  cases haudit : env.auditFails with
  | true => exact ⟨h, trivial⟩
  | false =>
    have hconfirmed : Confirmed start labels token dto :=
      ⟨i, id, name, env, db, row, ⟨hr, htook, hrefused⟩, haudit, hrow, htoken⟩
    exact ⟨h.confirm hrow htoken hconfirmed name env.now, trivial⟩

theorem RegistryGiven.record {db : ConsentDb} (h : RegistryGiven start labels db)
    {tenantId customerId : Uuid} {dto : DirectConsentDto}
    (hrecorded : Recorded start labels tenantId customerId dto) (now : Instant) :
    RegistryGiven start labels (db.recordDirectConsent tenantId customerId dto now) := by
  have hfirst := h.insert (rowGiven_direct hrecorded (.inl rfl) now)
  unfold ConsentDb.recordDirectConsent
  cases hdto : dto.commercialSms.getD false with
  | false => exact hfirst
  | true =>
    have hbox : dto.commercialSms = some true := by
      simpa using Option.getD_eq_iff.mp hdto
    exact hfirst.insert (rowGiven_direct hrecorded (.inr ⟨rfl, hbox⟩) now)

theorem exec_given {db : ConsentDb} (h : RegistryGiven start labels db) {i : ℕ}
    {r : RegistryRequest} (hr : (Pool.requests labels)[i]? = some r) {task : RegistryTask}
    (ht : TaskGiven r db task) {env : RegistryEnv}
    (htook : Pool.Took RegistryTask.asked RegistryTask.exec start labels i env task db) :
    RegistryGiven start labels (task.exec db env).1 ∧
      TaskGiven r (task.exec db env).1 (task.exec db env).2 := by
  unfold RegistryTask.exec
  split
  · exact ⟨h, trivial⟩
  next hrefused =>
    replace hrefused : env.refused = false := by simpa using hrefused
    cases task with
    | asked request =>
      obtain rfl : request = r := ht
      cases request with
      | sendConsentSms t c =>
        simp only
        split
        · exact ⟨h, trivial⟩
        · exact ⟨h, rfl⟩
      | confirmConsent token dto => exact find_given h token dto env
      | recordDirectConsent t c dto =>
        simp only
        split
        · exact ⟨h, trivial⟩
        · exact ⟨h, rfl⟩
      | customers change => exact ⟨h, trivial⟩
    | creating t c =>
      obtain rfl : r = .sendConsentSms t c := ht
      simp only
      split
      · exact ⟨h, trivial⟩
      next db' hcreate =>
        obtain ⟨u, hnew, hcreate⟩ := Outcome.bind_eq_ok.mp hcreate
        obtain rfl := Outcome.pure_eq_ok.mp hcreate
        have hlink : db.link? env.token = none := by
          simpa [linkConsent] using Outcome.reject_eq_ok.mp hnew
        have hsent : SentTo start labels env.token t c .kvkkAydinlatma :=
          .inr ⟨rfl, i, env, db, ⟨hr, htook, hrefused⟩, rfl, hlink⟩
        exact ⟨h.insert (rowGiven_link hsent env.now), trivial⟩
    | confirming token task =>
      cases task with
      | findConsent dto =>
        obtain rfl : r = .confirmConsent token dto := ht
        exact find_given h token dto env
      | confirm id name dto => exact confirm_given h hr ht htook hrefused
      | finished answer => exact ⟨h, trivial⟩
    | recording t c dto =>
      obtain rfl : r = .recordDirectConsent t c dto := ht
      exact ⟨h.record ⟨i, env, db, hr, htook, hrefused⟩ env.now, trivial⟩
    | answered answer => exact ⟨h, trivial⟩

variable (start labels)

theorem run_given :
    Pool.Serves (RegistryGiven start labels) TaskGiven (Pool.requests labels)
      (run registryAct (.idle start) labels) := by
  have hstart : RegistryGiven start labels start := fun k c hc =>
    ⟨fun type happroves => .inl ⟨k, c, hc, rfl, rfl, happroves⟩,
      fun token htoken => .inl ⟨k, c, hc, htoken, rfl, rfl, rfl⟩⟩
  apply Pool.serves_run hstart
  · intro r now hr
    rfl
  · intro i env task now r htook hr hgiven htask
    obtain ⟨hgiven', htask'⟩ := exec_given hgiven hr htask htook
    exact ⟨hgiven', htask', fun r' u hu => hu.mono (exec_keeps now task env)⟩

/-- Whatever interleaves, what a workshop is shown as approved by a customer was approved
before the run, recorded for him by its staff, or confirmed under a token that was sent to
him on its behalf; the commercial approval was ticked on that occasion. -/
theorem approvals_given {tenantId customerId : Uuid} {status : ConsentStatus}
    (h : getConsents (run registryAct (.idle start) labels).shared tenantId customerId =
      .ok status) :
    (status.isKvkkApproved = true →
      Gave start labels .kvkkAydinlatma tenantId customerId) ∧
    (status.isCommercialSmsApproved = true →
      Gave start labels .commercialSms tenantId customerId) := by
  have hgave : ∀ type, (run registryAct (.idle start) labels).shared.Approved type tenantId
      customerId → Gave start labels type tenantId customerId := by
    rintro type ⟨k, c, hc, rfl, rfl, happroves⟩
    exact ((run_given start labels).shared k c hc).approved type happroves
  obtain ⟨hkvkk, hsms⟩ := getConsents_approved h
  exact ⟨fun hshown => hgave _ (hkvkk.mp hshown), fun hshown => hgave _ (hsms.mp hshown)⟩

/-- No request takes an approval back: what is shown as approved at one moment of a run is
shown as approved at every later one. -/
theorem approvals_last (tenantId customerId : Uuid) :
    Lasting registryAct
      (fun p q => ∀ earlier later, getConsents p.shared tenantId customerId = .ok earlier →
        getConsents q.shared tenantId customerId = .ok later →
        (earlier.isKvkkApproved = true → later.isKvkkApproved = true) ∧
        (earlier.isCommercialSmsApproved = true → later.isCommercialSmsApproved = true))
      (.idle start) labels := by
  have hkeeps : Lasting registryAct (fun p q => p.shared.Keeps q.shared) (.idle start) labels :=
    lasting_of_step (I := fun _ => True) (C := fun _ _ => True) (fun p => .refl p.shared)
      (fun _ _ _ h h' => h.trans h') (fun _ _ _ _ => trivial) (fun p l _ _ => act_keeps p l) trivial
      (eachStep_of_forall fun _ _ => trivial)
  intro before mid after he earlier later hearlier hlater
  have hkept := hkeeps before mid after he
  obtain ⟨hkvkk, hsms⟩ := getConsents_approved hearlier
  obtain ⟨hkvkk', hsms'⟩ := getConsents_approved hlater
  exact ⟨fun h => hkvkk'.mpr (hkept.approved (hkvkk.mp h)),
    fun h => hsms'.mpr (hkept.approved (hsms.mp h))⟩

end Run

/-- The customer confirms the link that was sent to him, without the box for advertising. -/
def sampleConfirmation : List RegistryAction :=
  [.start (.confirmConsent "a1b2" ⟨some false, none, none⟩),
    .step 0 ⟨⟨1767312000000, false⟩, false, ""⟩, .step 0 ⟨⟨1767312000001, false⟩, false, ""⟩]

def sampleStatus : ConsentStatus :=
  let granted := { exampleConsent with isGranted := true, grantedAt := 1767312000001 }
  { customerId := 0
    isKvkkApproved := true
    isCommercialSmsApproved := false
    latestConsentDate := some 1767312000001
    latestChannel := some "SMS_LINK"
    history := [(0, granted)] }

theorem approvals_given_sample :
    (sampleStatus.isKvkkApproved = true →
      Gave exampleConsents sampleConfirmation .kvkkAydinlatma 0 0) ∧
    (sampleStatus.isCommercialSmsApproved = true →
      Gave exampleConsents sampleConfirmation .commercialSms 0 0) :=
  approvals_given exampleConsents sampleConfirmation (by decide +kernel)

end WorksAuto.Customers
