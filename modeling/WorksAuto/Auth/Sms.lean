import WorksAuto.Accounts.Phone
import WorksAuto.Auth.Otp
import WorksAuto.Lib.Window

/-! The calls of `sendOtp` and the messages that the provider accepts from them.
Each Redis command and each message is a step of its own, with any time and any other calls in
between. The cooldown and the hourly count of a number are read before the message and written
after it. -/

namespace WorksAuto.Auth.Sms

open Lib Accounts

/-- `NODE_ENV` and `ENABLE_DEV_OTP_BYPASS`. -/
structure Config where
  nodeEnv : String
  enableDevOtpBypass : String

def Config.production (c : Config) : Bool := c.nodeEnv = "production"

def Config.bypass (c : Config) : Bool := !c.production || c.enableDevOtpBypass = "true"

def Config.showsCode (c : Config) : Bool :=
  c.nodeEnv = "development" && c.enableDevOtpBypass = "true"

/-- A message that the provider has accepted; `reported` where the call has learned of it. -/
structure Message where
  phone : String
  text : String
  acceptedAt : ℕ
  reported : Bool
  deriving DecidableEq, Repr

/-- The clock in milliseconds, what stands under the keys of each number, and what the provider
has accepted. -/
structure World where
  now : ℕ
  code : String → Option (Otp.Entry String)
  cooldown : String → Option (Otp.Entry String)
  hourly : String → Option (Otp.Entry ℕ)
  accepted : List Message

inductive Delivery where
  | accepted
  | unanswered
  | refused
  deriving DecidableEq, Repr

/-- The time that has passed, whether the number is found, the code, and the provider. -/
structure Env where
  elapsed : ℕ
  registered : Bool
  random : ℕ
  delivery : Delivery

inductive SendOtpError where
  | badRequest (message : String)
  | serviceUnavailable (message : String)
  deriving DecidableEq, Repr

structure SendOtpAnswer where
  success : Bool
  message : String
  phone : String
  expiresInSeconds : ℕ
  devCode : Option String
  deriving DecidableEq, Repr

namespace World

variable (w : World)

def live {α : Type} (entry : Option (Otp.Entry α)) : Option α :=
  (entry.filter fun e => w.now < e.expiresAt).map Otp.Entry.value

def elapse (milliseconds : ℕ) : World := { w with now := w.now + milliseconds }

def expiry (ttlSeconds : ℕ) : ℕ := w.now + 1000 * ttlSeconds

def setCode (phone value : String) (ttlSeconds : ℕ) : World :=
  { w with code := Function.update w.code phone (some ⟨value, w.expiry ttlSeconds⟩) }

def delCode (phone : String) : World := { w with code := Function.update w.code phone none }

def setCooldown (phone value : String) (ttlSeconds : ℕ) : World :=
  { w with cooldown := Function.update w.cooldown phone (some ⟨value, w.expiry ttlSeconds⟩) }

def setHourly (phone : String) (value ttlSeconds : ℕ) : World :=
  { w with hourly := Function.update w.hourly phone (some ⟨value, w.expiry ttlSeconds⟩) }

def sendSms (phone text : String) : Delivery → World
  | .accepted => { w with accepted := ⟨phone, text, w.now, true⟩ :: w.accepted }
  | .unanswered => { w with accepted := ⟨phone, text, w.now, false⟩ :: w.accepted }
  | .refused => w

end World

structure Readings where
  isCoolingDown : Option String
  hourlyCount : ℕ
  deriving DecidableEq, Repr

inductive Step where
  | readCooldown
  | readHourly (isCoolingDown : Option String)
  | findUser (read : Readings)
  | setCode (read : Readings) (otpCode : String)
  | sendSms (read : Readings) (otpCode : String)
  | delCode
  | setCooldown (hourlyCount : ℕ) (otpCode : String)
  | setHourly (hourlyCount : ℕ) (otpCode : String)
  | ended (answer : Except SendOtpError SendOtpAnswer)

structure Task where
  normalizedPhone : String
  step : Step

def sent (normalizedPhone : String) (devCode : Option String) : SendOtpAnswer where
  success := true
  message := "Doğrulama kodu telefonunuza SMS ile gönderildi."
  phone := normalizedPhone
  expiresInSeconds := 180
  devCode

def Config.otpCode (c : Config) (random : ℕ) : String :=
  if c.production then Nat.repr (100000 + random % 900000) else "123456"

def otpMessage (otpCode : String) : String :=
  "WorksAuto doğrulama kodunuz: " ++ otpCode ++ ". Kod 3 dakika geçerlidir."

namespace Task

/-- A call of `sendOtp`, with the number as it is spelled. -/
def enter (phone : String) : Task :=
  let normalizedPhone := AuthService.normalizePhone phone
  { normalizedPhone
    step :=
      if normalizedPhone.length < 10 then
        .ended (.error (.badRequest "Lütfen geçerli bir cep telefonu numarası giriniz."))
      else .readCooldown }

def next (c : Config) (w : World) (phone : String) (env : Env) : Step → World × Step
  | .readCooldown =>
    let isCoolingDown := w.live (w.cooldown phone)
    (w, if (firstText [isCoolingDown]).isSome then
        .ended (.error (.badRequest
          "Lütfen yeni bir SMS kodu istemeden önce 60 saniye bekleyiniz."))
      else .readHourly isCoolingDown)
  | .readHourly isCoolingDown =>
    let hourlyCount := (w.live (w.hourly phone)).getD 0
    (w, if hourlyCount ≥ 5 then
        .ended (.error (.badRequest ("Bu telefon numarası için saatlik SMS gönderim limiti (5) " ++
          "aşıldı. Lütfen 1 saat sonra tekrar deneyiniz.")))
      else .findUser ⟨isCoolingDown, hourlyCount⟩)
  | .findUser read =>
    (w, if env.registered then .setCode read (c.otpCode env.random)
      else .ended (.ok (sent phone none)))
  | .setCode read otpCode => (w.setCode phone otpCode 180, .sendSms read otpCode)
  | .sendSms read otpCode =>
    (w.sendSms phone (otpMessage otpCode) env.delivery,
      if env.delivery = .accepted ∨ c.bypass = true then .setCooldown read.hourlyCount otpCode
      else .delCode)
  | .delCode =>
    (w.delCode phone, .ended (.error (.serviceUnavailable
      "Doğrulama kodu gönderilemedi. Lütfen tekrar deneyiniz.")))
  | .setCooldown hourlyCount otpCode => (w.setCooldown phone "1" 60, .setHourly hourlyCount otpCode)
  | .setHourly hourlyCount otpCode =>
    (w.setHourly phone (hourlyCount + 1) 3600,
      .ended (.ok (sent phone (if c.showsCode then some otpCode else none))))
  | .ended answer => (w, .ended answer)

def exec (c : Config) (w : World) (t : Task) (env : Env) : World × Task :=
  let (w', step) := next c (w.elapse env.elapsed) t.normalizedPhone env t.step
  (w', { t with step })

end Task

abbrev System := Pool World Task

def System.act (c : Config) : System → PoolAction String Env → System :=
  Pool.act Task.enter (Task.exec c)

section Properties

def World.sentTo (w : World) (phone : String) : List Message := w.accepted.filter fun m => m.phone = phone

/-- At most one message in any 60 seconds, and at most five in any 60 minutes. -/
structure World.WithinBudget (w : World) (phone : String) : Prop where
  minute : AtMostWithin Message.acceptedAt 1 60000 (w.sentTo phone)
  hour : AtMostWithin Message.acceptedAt 5 3600000 (w.sentTo phone)

def Step.entering : Step → Bool
  | setCooldown _ _ | setHourly _ _ => true
  | _ => false

def Task.entering (phone : String) (t : Task) : Bool := t.normalizedPhone = phone && t.step.entering

def Message.recorded (c : Config) (m : Message) : Bool := m.reported || c.bypass

/-- How many messages of the last hour are not counted because the answer was lost. -/
def World.unrecorded (c : Config) (w : World) (phone : String) : ℕ :=
  (recent Message.acceptedAt 3600000 w.now (w.sentTo phone)).countP fun m => !m.recorded c

/-- What a call has read of the number is up to date when it sends its message: no other call
has sent one that it has not counted, the cooldown is what the call has read and the count has not
grown. If answers were lost in the last hour, none was in the last minute, and with these messages
the count is still below the limit. -/
structure System.UpToDate (c : Config) (s : System) (w : World) (phone : String) (read : Readings) :
    Prop where
  alone : s.count (Task.entering phone) = 0
  cooldown : w.live (w.cooldown phone) = read.isCoolingDown
  hourly : (w.live (w.hourly phone)).getD 0 ≤ read.hourlyCount
  minute : ∀ m ∈ recent Message.acceptedAt 60000 w.now (w.sentTo phone), m.recorded c = true
  hour : w.unrecorded c phone = 0 ∨ read.hourlyCount + w.unrecorded c phone < 5

instance (c : Config) (s : System) (w : World) (phone : String) (read : Readings) :
    Decidable (s.UpToDate c w phone read) :=
  decidable_of_iff (s.count (Task.entering phone) = 0 ∧
      w.live (w.cooldown phone) = read.isCoolingDown ∧
      (w.live (w.hourly phone)).getD 0 ≤ read.hourlyCount ∧
      (∀ m ∈ recent Message.acceptedAt 60000 w.now (w.sentTo phone), m.recorded c = true) ∧
      (w.unrecorded c phone = 0 ∨ read.hourlyCount + w.unrecorded c phone < 5))
    ⟨fun h => ⟨h.1, h.2.1, h.2.2.1, h.2.2.2.1, h.2.2.2.2⟩, fun h => ⟨h.1, h.2, h.3, h.4, h.5⟩⟩

/-- A message that the provider refuses, and the call with it, does not matter. -/
def Task.Timely (c : Config) (s : System) (phone : String) (env : Env) (t : Task) : Prop :=
  match t.step with
  | .sendSms read _ => t.normalizedPhone = phone → ¬ (env.delivery = .refused ∧ c.bypass = false) →
      s.UpToDate c (s.shared.elapse env.elapsed) phone read
  | _ => True

def System.Timely (c : Config) (phone : String) (s : System) : PoolAction String Env → Prop
  | .start _ => True
  | .step k env => ∀ t ∈ s.threads.get? k, t.Timely c s phone env

instance (c : Config) (s : System) (phone : String) (env : Env) (t : Task) :
    Decidable (t.Timely c s phone env) := by
  unfold Task.Timely
  split <;> infer_instance

instance (c : Config) (phone : String) (s : System) (a : PoolAction String Env) :
    Decidable (s.Timely c phone a) :=
  match a with
  | .start _ => .isTrue trivial
  | .step k env => inferInstanceAs (Decidable (∀ t ∈ s.threads.get? k, t.Timely c s phone env))

end Properties

end WorksAuto.Auth.Sms
