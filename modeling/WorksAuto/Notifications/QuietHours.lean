import WorksAuto.Appointments.Reminders

/-! Quiet hours.
A notification with a message of its own for the customer waits at night until nine in the
morning; the other senders of texts queue or send them at once. A job is run when its delay is
over. What the texts say is left out. -/

namespace WorksAuto.Notifications

open Lib

inductive Channel where
  | sms | whatsApp | email
  deriving DecidableEq, Repr

structure CreateNotificationDto where
  tenantId : Option Uuid
  userId : Option Uuid
  actorUserId : Option Uuid
  recipientPhone : Option String
  recipientEmail : Option String
  customerMessage : Option String
  sendSms : Bool
  sendWhatsApp : Bool
  sendEmail : Bool

structure TenantNotificationSetting where
  whatsappEnabled : Bool
  smsEnabled : Bool
  emailEnabled : Bool
  deriving DecidableEq, Repr

structure Message where
  channel : Channel
  recipient : String
  sentAt : Instant
  deriving DecidableEq, Repr

/-- The database, and whether a job of a kind gets through: rows are stored, the queue is there
and delivery is on. -/
structure Env where
  db : Db
  settings : Uuid → Option TenantNotificationSetting
  takes : Channel → Bool

section Clock

def msPerMinute : ℤ := 60 * 1000

/-- `(getUTCHours() + 3) % 24 * 60 + getUTCMinutes()`. -/
def currentTotalMinutes (now : Instant) : ℤ :=
  (now / (60 * msPerMinute) % 24 + 3) % 24 * 60 + now / msPerMinute % 60

def nightStartMinutes : ℤ := 21 * 60 + 30

def morningEndMinutes : ℤ := 8 * 60 + 30

def minutesUntilNineAm (minutes : ℤ) : ℤ :=
  if nightStartMinutes ≤ minutes then 24 * 60 - minutes + 9 * 60
  else if minutes < morningEndMinutes then 9 * 60 - minutes
  else 0

def turkishTime (t : Instant) : ℤ := (t + 3 * 60 * msPerMinute) % (24 * 60 * msPerMinute)

def IsNight (t : Instant) : Prop :=
  nightStartMinutes * msPerMinute ≤ turkishTime t ∨ turkishTime t < morningEndMinutes * msPerMinute

instance (t : Instant) : Decidable (IsNight t) := inferInstanceAs (Decidable (_ ∨ _))

theorem currentTotalMinutes_eq (now : Instant) :
    currentTotalMinutes now = turkishTime now / msPerMinute := by
  simp only [Instant] at now
  unfold currentTotalMinutes turkishTime msPerMinute
  omega

theorem not_isNight_delayed (now : Instant) :
    ¬ IsNight (now + minutesUntilNineAm (currentTotalMinutes now) * msPerMinute) := by
  simp only [Instant] at now
  rw [currentTotalMinutes_eq]
  unfold IsNight turkishTime minutesUntilNineAm nightStartMinutes morningEndMinutes msPerMinute
  split_ifs <;> omega

end Clock

section Senders

namespace CreateNotificationDto

variable (dto : CreateNotificationDto) (env : Env)

def isOwn : Bool := dto.userId.isSome && dto.userId = dto.actorUserId

def tenantSettings : Option TenantNotificationSetting := dto.tenantId.bind env.settings

def canSend : Channel → Bool
  | .sms => dto.sendSms && ((dto.tenantSettings env).elim true (·.smsEnabled))
  | .whatsApp => dto.sendWhatsApp && ((dto.tenantSettings env).elim true (·.whatsappEnabled))
  | .email => dto.sendEmail && ((dto.tenantSettings env).elim true (·.emailEnabled))

def recipient : Channel → Option String
  | .email => firstText [dto.recipientEmail]
  | _ => firstText [dto.recipientPhone]

def nightDelayMs (now : Instant) : ℤ :=
  if (firstText [dto.customerMessage]).isSome && (firstText [dto.recipientPhone]).isSome then
    minutesUntilNineAm (currentTotalMinutes now) * 60 * 1000
  else 0

def job (now : Instant) (channel : Channel) : Option Message :=
  if dto.canSend env channel && env.takes channel then
    (dto.recipient channel).map fun recipient =>
      { channel, recipient, sentAt := now + dto.nightDelayMs now }
  else none

end CreateNotificationDto

/-- `createNotification`, as far as it is about messages. -/
def createNotification (dto : CreateNotificationDto) (env : Env) (now : Instant) : List Message :=
  if dto.isOwn then []
  else [.sms, .whatsApp, .email].filterMap (dto.job env now)

/-- The approval, up to the row that is saved; the appointment as it was read is kept. -/
def approve (db : Db) (tenantId id : Uuid) : Outcome Appointment := do
  let (_, app) ← db.edited tenantId id Appointment.confirm
  let entity ← readForSave db id app
  let _ ← saveAppointment db id entity
  pure app

def staffNotification (tenantId : Uuid) : CreateNotificationDto where
  tenantId := some tenantId
  userId := none
  actorUserId := none
  recipientPhone := none
  recipientEmail := none
  customerMessage := none
  sendSms := false
  sendWhatsApp := false
  sendEmail := false

def approvalNotification (tenantId : Uuid) (userId : Option Uuid) (phone : String) :
    CreateNotificationDto where
  tenantId := some tenantId
  userId := none
  actorUserId := userId
  recipientPhone := some phone
  recipientEmail := none
  customerMessage := none
  sendSms := true
  sendWhatsApp := false
  sendEmail := false

def customerPhone (db : Db) (a : Appointment) : Option String :=
  firstText [(db.customers.get? a.customerId).map Customer.phone]

def approveMessages (tenantId id : Uuid) (userId : Option Uuid) (env : Env) (now : Instant) :
    List Message :=
  match approve env.db tenantId id with
  | .error _ => []
  | .ok app =>
    createNotification (staffNotification tenantId) env now ++
      match customerPhone env.db app with
      | none => []
      | some phone => createNotification (approvalNotification tenantId userId phone) env now

def smsNow (phone : Option String) (env : Env) (now : Instant) : List Message :=
  if env.takes .sms then
    (firstText [phone]).toList.map fun recipient => { channel := .sms, recipient, sentAt := now }
  else []

def sendConsentSms (tenantId customerId : Uuid) (env : Env) (now : Instant) : List Message :=
  match env.db.liveCustomer? tenantId customerId with
  | none => []
  | some customer => smsNow (some customer.phone) env now

/-- The reminder that a booking schedules at `now`; the database is the one that the worker
finds. -/
def appointmentReminder (id : Uuid) (slotStartTime : Instant) (env : Env) (now : Instant) :
    List Message :=
  let reminderTime := slotStartTime - reminderLead
  if 0 < reminderTime - now then
    match env.db.appointments.get? id with
    | none => []
    | some appt =>
      if appt.expectsReminder then smsNow (customerPhone env.db appt) env reminderTime else []
  else []

inductive Call where
  | createNotification (dto : CreateNotificationDto)
  | approve (tenantId id : Uuid) (userId : Option Uuid)
  | sendConsentSms (tenantId customerId : Uuid)
  | appointmentReminder (id : Uuid) (slotStartTime : Instant)

def Call.messages (env : Env) (now : Instant) : Call → List Message
  | createNotification dto => Notifications.createNotification dto env now
  | approve tenantId id userId => approveMessages tenantId id userId env now
  | sendConsentSms tenantId customerId => Notifications.sendConsentSms tenantId customerId env now
  | appointmentReminder id slotStartTime =>
    Notifications.appointmentReminder id slotStartTime env now

end Senders

section Statements

def QuietNights (messages : List Message) : Prop :=
  ∀ m ∈ messages, m.channel ≠ .email → ¬ IsNight m.sentAt

def CreateNotificationDto.texts (dto : CreateNotificationDto) (env : Env) : Prop :=
  dto.isOwn = false ∧ (firstText [dto.recipientPhone]).isSome = true ∧
    ((dto.canSend env .sms && env.takes .sms) = true ∨
      (dto.canSend env .whatsApp && env.takes .whatsApp) = true)

def approvedAppointment (db : Db) (app : Appointment) : Appointment :=
  { app with
    status := .confirmed
    serviceId :=
      if app.serviceId.isSome then db.validServiceId app.tenantId app.serviceId else none }

/-- The appointment is one of the tenant that is not cancelled, and that it is confirmed breaks
no constraint. -/
def Approvable (db : Db) (tenantId id : Uuid) (app : Appointment) : Prop :=
  db.appointment? tenantId id = some app ∧ app.status ≠ .cancelled ∧
    (saveAppointment db id (approvedAppointment db app)).isOk = true

/-- At night a call has nobody to text, or a notification with a message for the customer; a
reminder for an appointment from 23:30 on and before 10:30 has nobody to text. -/
def Call.Quiet (env : Env) (now : Instant) : Call → Prop
  | createNotification dto =>
    IsNight now → dto.texts env → (firstText [dto.customerMessage]).isSome = true
  | approve tenantId id userId =>
    IsNight now → ∀ app, Approvable env.db tenantId id app →
      ∀ phone ∈ customerPhone env.db app, ¬ (approvalNotification tenantId userId phone).texts env
  | sendConsentSms tenantId customerId =>
    IsNight now → env.takes .sms = true →
      ∀ customer ∈ env.db.liveCustomer? tenantId customerId, customer.phone = ""
  | appointmentReminder id slotStartTime =>
    IsNight (slotStartTime - reminderLead) → now < slotStartTime - reminderLead →
      env.takes .sms = true → ∀ appt ∈ env.db.appointments.get? id,
        appt.expectsReminder = true → customerPhone env.db appt = none

end Statements

section Results

variable {env : Env} {now : Instant} {dto : CreateNotificationDto}

theorem firstText_some_eq_none {text : String} : firstText [some text] = none ↔ text = "" := by
  by_cases h : text = "" <;> simp [firstText, h]

theorem firstText_of_firstText {text : Option String} {t : String} (h : firstText [text] = some t) :
    firstText [some t] = some t := by
  have hne : t ≠ "" := by simpa using List.find?_some h
  simp [firstText, hne]

theorem nightDelay_of_message (hmessage : (firstText [dto.customerMessage]).isSome = true)
    (hphone : (firstText [dto.recipientPhone]).isSome = true) :
    ¬ IsNight (now + dto.nightDelayMs now) := by
  have hdelay : dto.nightDelayMs now = minutesUntilNineAm (currentTotalMinutes now) * msPerMinute := by
    rw [CreateNotificationDto.nightDelayMs, hmessage, hphone, msPerMinute, mul_assoc]
    rfl
  rw [hdelay]
  exact not_isNight_delayed now

theorem nightDelay_of_no_message (hmessage : (firstText [dto.customerMessage]).isSome = false) :
    now + dto.nightDelayMs now = now := by
  rw [CreateNotificationDto.nightDelayMs, hmessage]
  exact add_zero now

theorem job_eq_some {channel : Channel} {m : Message} :
    dto.job env now channel = some m ↔
      (dto.canSend env channel && env.takes channel) = true ∧
        dto.recipient channel = some m.recipient ∧ m.channel = channel ∧
          m.sentAt = now + dto.nightDelayMs now := by
  unfold CreateNotificationDto.job
  split_ifs with h
  · rw [and_iff_right h, Option.map_eq_some_iff]
    constructor
    · rintro ⟨recipient, hrecipient, rfl⟩
      exact ⟨hrecipient, rfl, rfl⟩
    · rintro ⟨hrecipient, rfl, hsent⟩
      exact ⟨m.recipient, hrecipient, by rw [← hsent]⟩
  · exact iff_of_false (by simp) fun hall => h hall.1

theorem mem_createNotification {m : Message} :
    m ∈ createNotification dto env now ↔ dto.isOwn = false ∧
      (dto.canSend env m.channel && env.takes m.channel) = true ∧
        dto.recipient m.channel = some m.recipient ∧ m.sentAt = now + dto.nightDelayMs now := by
  unfold createNotification
  cases dto.isOwn with
  | true => simp
  | false =>
    have hall : m.channel ∈ [Channel.sms, .whatsApp, .email] := by
      cases m.channel <;> decide
    rw [if_neg Bool.false_ne_true, List.mem_filterMap, and_iff_right rfl]
    constructor
    · rintro ⟨channel, -, hjob⟩
      obtain ⟨hsend, hrecipient, rfl, hsent⟩ := job_eq_some.mp hjob
      exact ⟨hsend, hrecipient, hsent⟩
    · rintro ⟨hsend, hrecipient, hsent⟩
      exact ⟨m.channel, hall, job_eq_some.mpr ⟨hsend, hrecipient, rfl, hsent⟩⟩

theorem recipient_of_text {channel : Channel} (h : channel ≠ .email) :
    dto.recipient channel = firstText [dto.recipientPhone] := by
  cases channel with
  | email => exact absurd rfl h
  | _ => rfl

theorem createNotification_quiet_iff :
    QuietNights (createNotification dto env now) ↔
      (IsNight now → dto.texts env → (firstText [dto.customerMessage]).isSome = true) := by
  constructor
  · rintro hquiet hnight ⟨hown, hphone, hsends⟩
    by_contra hmessage
    rw [Bool.not_eq_true] at hmessage
    obtain ⟨phone, hphone⟩ := Option.isSome_iff_exists.mp hphone
    obtain ⟨channel, htext, hsend⟩ : ∃ channel, channel ≠ Channel.email ∧
        (dto.canSend env channel && env.takes channel) = true := by
      rcases hsends with hsms | hwhatsApp
      · exact ⟨.sms, by decide, hsms⟩
      · exact ⟨.whatsApp, by decide, hwhatsApp⟩
    have hmem : (⟨channel, phone, now⟩ : Message) ∈ createNotification dto env now := by
      refine mem_createNotification.mpr ⟨hown, hsend, ?_, (nightDelay_of_no_message hmessage).symm⟩
      rw [recipient_of_text htext, hphone]
    exact hquiet _ hmem htext hnight
  · intro hquiet m hm htext
    obtain ⟨hown, hsend, hrecipient, hsent⟩ := mem_createNotification.mp hm
    rw [recipient_of_text htext] at hrecipient
    have hphone : (firstText [dto.recipientPhone]).isSome = true := by rw [hrecipient]; rfl
    rw [hsent]
    cases hmessage : (firstText [dto.customerMessage]).isSome with
    | true => exact nightDelay_of_message hmessage hphone
    | false =>
      rw [nightDelay_of_no_message hmessage]
      intro hnight
      have hsends : (dto.canSend env .sms && env.takes .sms) = true ∨
          (dto.canSend env .whatsApp && env.takes .whatsApp) = true := by
        cases hchannel : m.channel with
        | sms => exact .inl (hchannel ▸ hsend)
        | whatsApp => exact .inr (hchannel ▸ hsend)
        | email => exact absurd hchannel htext
      have hsome := hquiet hnight ⟨hown, hphone, hsends⟩
      rw [hmessage] at hsome
      cases hsome

theorem quietNights_nil : QuietNights [] := fun _ hm => absurd hm List.not_mem_nil

theorem staffNotification_nil (tenantId : Uuid) :
    createNotification (staffNotification tenantId) env now = [] := by
  refine List.eq_nil_iff_forall_not_mem.mpr fun m hm => ?_
  have hrecipient := (mem_createNotification.mp hm).2.2.1
  cases hchannel : m.channel <;> rw [hchannel] at hrecipient <;> cases hrecipient

theorem smsNow_quiet_iff {phone : Option String} {t : Instant} :
    QuietNights (smsNow phone env t) ↔
      (IsNight t → env.takes .sms = true → firstText [phone] = none) := by
  unfold smsNow
  cases htakes : env.takes .sms with
  | false => exact iff_of_true quietNights_nil fun _ h => by cases h
  | true =>
    cases hphone : firstText [phone] with
    | none => exact iff_of_true quietNights_nil fun _ _ => rfl
    | some recipient =>
      constructor
      · intro hquiet hnight _
        exact absurd hnight (hquiet ⟨.sms, recipient, t⟩ (List.mem_singleton_self _)
          (fun h => by cases h))
      · intro hquiet m hm _ hnight
        obtain rfl := List.mem_singleton.mp hm
        have hnone := hquiet hnight rfl
        cases hnone

theorem readForSave_confirmed {db : Db} {tenantId id : Uuid} {app : Appointment}
    (hrow : db.appointment? tenantId id = some app) :
    readForSave db id { app with status := .confirmed } = .ok (approvedAppointment db app) := by
  obtain ⟨-, rfl⟩ := Db.appointment?_eq_some.mp hrow
  unfold readForSave
  refine Outcome.bind_eq_ok.mpr ⟨app, Outcome.required_eq_ok.mpr hrow, ?_⟩
  refine Outcome.pure_eq_ok.mpr ?_
  unfold approvedAppointment
  cases hservice : app.serviceId with
  | none => rfl
  | some serviceId => rfl

theorem approve_eq_ok {db : Db} {tenantId id : Uuid} {app' : Appointment} :
    approve db tenantId id = .ok app' ↔
      ∃ app, Approvable db tenantId id app ∧ app' = { app with status := .confirmed } := by
  constructor
  · intro h
    obtain ⟨⟨status, entity⟩, hedited, h⟩ := Outcome.bind_eq_ok.mp h
    obtain ⟨app, hread, hconfirmed⟩ := Outcome.bind_eq_ok.mp hedited
    obtain ⟨entity', hconfirm, hpair⟩ := Outcome.bind_eq_ok.mp hconfirmed
    obtain ⟨_, hstatus, hentity⟩ := Outcome.bind_eq_ok.mp hconfirm
    have hrow := Outcome.required_eq_ok.mp hread
    obtain rfl := Outcome.pure_eq_ok.mp hentity
    cases Outcome.pure_eq_ok.mp hpair
    obtain ⟨saved, hforSave, h⟩ := Outcome.bind_eq_ok.mp h
    obtain ⟨db', hsaved, h⟩ := Outcome.bind_eq_ok.mp h
    obtain rfl := Outcome.pure_eq_ok.mp h
    obtain rfl := Except.ok.inj ((readForSave_confirmed hrow).symm.trans hforSave)
    refine ⟨app, ⟨hrow, ?_, Outcome.isOk_iff.mpr ⟨db', hsaved⟩⟩, rfl⟩
    simpa using hstatus
  · rintro ⟨app, ⟨hrow, hstatus, hsaved⟩, rfl⟩
    obtain ⟨db', hsaved⟩ := Outcome.isOk_iff.mp hsaved
    have hconfirm : app.confirm = .ok { app with status := .confirmed } :=
      Outcome.bind_eq_ok.mpr ⟨(), Outcome.reject_eq_ok.mpr (decide_eq_false hstatus), rfl⟩
    have hedited : db.edited tenantId id Appointment.confirm =
        .ok (app.status, { app with status := .confirmed }) :=
      Outcome.bind_eq_ok.mpr ⟨app, Outcome.required_eq_ok.mpr hrow,
        Outcome.bind_eq_ok.mpr ⟨_, hconfirm, rfl⟩⟩
    exact Outcome.bind_eq_ok.mpr ⟨_, hedited, Outcome.bind_eq_ok.mpr
      ⟨_, readForSave_confirmed hrow, Outcome.bind_eq_ok.mpr ⟨db', hsaved, rfl⟩⟩⟩

theorem approveMessages_of_refused {tenantId id : Uuid} {userId : Option Uuid}
    (h : ∀ app, ¬ Approvable env.db tenantId id app) :
    approveMessages tenantId id userId env now = [] := by
  unfold approveMessages
  cases happrove : approve env.db tenantId id with
  | error e => rfl
  | ok app' =>
    obtain ⟨app, happ, -⟩ := approve_eq_ok.mp happrove
    exact absurd happ (h app)

theorem approveMessages_of_approvable {tenantId id : Uuid} {userId : Option Uuid}
    {app : Appointment} (h : Approvable env.db tenantId id app) :
    approveMessages tenantId id userId env now =
      (customerPhone env.db app).elim []
        fun phone => createNotification (approvalNotification tenantId userId phone) env now := by
  rw [approveMessages, approve_eq_ok.mpr ⟨app, h, rfl⟩]
  change _ ++ _ = _
  rw [staffNotification_nil, List.nil_append]
  change (match customerPhone env.db app with | none => _ | some phone => _) = _
  cases customerPhone env.db app with
  | none => rfl
  | some phone => rfl

theorem approve_quiet_iff {tenantId id : Uuid} {userId : Option Uuid} :
    QuietNights (approveMessages tenantId id userId env now) ↔
      (Call.approve tenantId id userId).Quiet env now := by
  by_cases h : ∃ app, Approvable env.db tenantId id app
  · obtain ⟨app, happ⟩ := h
    have hunique : ∀ app', Approvable env.db tenantId id app' → app' = app := fun app' happ' =>
      Option.some.inj (happ'.1.symm.trans happ.1)
    rw [approveMessages_of_approvable happ]
    cases hphone : customerPhone env.db app with
    | none =>
      refine iff_of_true quietNights_nil fun _ app' happ' phone hsome => ?_
      rw [hunique app' happ', hphone] at hsome
      cases hsome
    | some phone =>
      refine createNotification_quiet_iff.trans (imp_congr_right fun _ => ?_)
      constructor
      · intro hmessage app' happ' phone' hsome htexts
        rw [hunique app' happ', hphone] at hsome
        obtain rfl := Option.some.inj hsome
        exact absurd (hmessage htexts) Bool.false_ne_true
      · intro hsilent htexts
        exact absurd htexts (hsilent app happ phone hphone)
  · rw [not_exists] at h
    rw [approveMessages_of_refused h]
    exact iff_of_true quietNights_nil fun _ app happ => absurd happ (h app)

theorem customerPhone_firstText (db : Db) (a : Appointment) :
    firstText [customerPhone db a] = customerPhone db a := by
  cases h : customerPhone db a with
  | none => rfl
  | some phone => exact firstText_of_firstText h

theorem reminder_quiet_iff {id : Uuid} {slotStartTime : Instant} :
    QuietNights (appointmentReminder id slotStartTime env now) ↔
      (Call.appointmentReminder id slotStartTime).Quiet env now := by
  unfold appointmentReminder Call.Quiet
  by_cases htime : now < slotStartTime - reminderLead
  · rw [if_pos (sub_pos.mpr htime)]
    cases happt : env.db.appointments.get? id with
    | none =>
      refine iff_of_true quietNights_nil fun _ _ _ a ha => ?_
      rw [happt] at ha
      cases ha
    | some appt =>
      change QuietNights (if appt.expectsReminder then _ else _) ↔ _
      cases hexpects : appt.expectsReminder with
      | false =>
        refine iff_of_true quietNights_nil fun _ _ _ a ha hexpected => ?_
        obtain rfl := Option.some.inj (happt.symm.trans ha)
        rw [hexpects] at hexpected
        cases hexpected
      | true =>
        refine smsNow_quiet_iff.trans (imp_congr_right fun _ => ?_)
        rw [customerPhone_firstText]
        constructor
        · intro hnone _ htakes a ha _
          obtain rfl := Option.some.inj (happt.symm.trans ha)
          exact hnone htakes
        · intro hnone htakes
          exact hnone htime htakes appt happt hexpects
  · rw [if_neg fun hpos => htime (sub_pos.mp hpos)]
    exact iff_of_true quietNights_nil fun _ htime' => absurd htime' htime

/-- In every call and at every instant, nobody is texted at night precisely when the call is
quiet. -/
theorem quietNights_iff (env : Env) (now : Instant) (call : Call) :
    QuietNights (call.messages env now) ↔ call.Quiet env now := by
  cases call with
  | createNotification dto => exact createNotification_quiet_iff
  | approve tenantId id userId => exact approve_quiet_iff
  | sendConsentSms tenantId customerId =>
    simp only [Call.messages, sendConsentSms, Call.Quiet]
    cases hcustomer : env.db.liveCustomer? tenantId customerId with
    | none => exact iff_of_true quietNights_nil fun _ _ customer hc => by cases hc
    | some customer =>
      simp only [smsNow_quiet_iff, firstText_some_eq_none, Option.mem_def, Option.some.injEq,
        forall_eq']
  | appointmentReminder id slotStartTime => exact reminder_quiet_iff

end Results

section Sample

def shopDelivery : Env := { db := shopDb, settings := fun _ => none, takes := fun _ => true }

/-- Approved at eleven in the evening, an appointment is announced at once. -/
theorem approval_texts_at_night :
    ¬ QuietNights ((Call.approve 0 0 none).messages shopDelivery 72000000) := by
  intro hquiet
  exact hquiet { channel := .sms, recipient := shopCustomer.phone, sentAt := 72000000 }
    (by decide +kernel) (by decide) (by decide +kernel)

end Sample

end WorksAuto.Notifications
