import WorksAuto.Lib.Pool
import WorksAuto.Lib.Run
import WorksAuto.Values

/-! One-time codes and the calls of `verifyOtp` that compare with them.
The two keys of one phone number are the shared state; every Redis command is a
step of its own, and it may not reach the server. The counter of wrong codes is
read, compared and written back, and the code is read and deleted, with other
calls in between. -/

namespace WorksAuto.Auth.Otp

open Lib

structure Entry (α : Type) where
  value : α
  expiresAt : ℕ
  deriving DecidableEq, Repr

/-- The clock in seconds, and what stands under `otp:` and `otp_attempts:` of one number. -/
structure Redis where
  now : ℕ
  code : Option (Entry String)
  attempts : Option (Entry ℕ)
  deriving DecidableEq, Repr

/-- The time that has passed, and whether the command reaches Redis. -/
structure Env where
  elapsed : ℕ
  reaches : Bool

namespace Redis

def live {α : Type} (redis : Redis) (entry : Option (Entry α)) : Option α :=
  (entry.filter fun e => redis.now < e.expiresAt).map Entry.value

def elapse (redis : Redis) (seconds : ℕ) : Redis := { redis with now := redis.now + seconds }

/-- `get` answers `null` when the command fails. -/
def get {α : Type} (redis : Redis) (env : Env) (entry : Option (Entry α)) : Option α :=
  if env.reaches then redis.live entry else none

def setCode (redis : Redis) (env : Env) (value : String) (ttlSeconds : ℕ) : Redis :=
  if env.reaches then { redis with code := some ⟨value, redis.now + ttlSeconds⟩ } else redis

def setAttempts (redis : Redis) (env : Env) (value ttlSeconds : ℕ) : Redis :=
  if env.reaches then { redis with attempts := some ⟨value, redis.now + ttlSeconds⟩ } else redis

def delCode (redis : Redis) (env : Env) : Redis :=
  if env.reaches then { redis with code := none } else redis

def delAttempts (redis : Redis) (env : Env) : Redis :=
  if env.reaches then { redis with attempts := none } else redis

/-- `sendOtp` stores the code and leaves the counter as it is. -/
def sendOtp (redis : Redis) (otpCode : String) : Redis :=
  redis.setCode ⟨0, true⟩ otpCode 180

end Redis

/-- Which statement of `verifyOtp` ended the call. -/
inductive Answer where
  | blocked
  | expired
  | wrong (remaining : ℕ)
  | exhausted
  | signedIn
  deriving DecidableEq, Repr

def tooManyAttempts : ApiError :=
  .unauthorized ("Çok fazla hatalı kod denemesi yapıldı. Güvenliğiniz için doğrulama kodu iptal " ++
    "edildi. Lütfen 15 dakika sonra yeni bir kod isteyiniz.")

def Answer.toOutcome : Answer → Outcome Unit
  | blocked => .error tooManyAttempts
  | expired => .error (.unauthorized "Doğrulama kodunun süresi dolmuş veya hiç istenmemiş.")
  | wrong remaining =>
    .error (.unauthorized ("Girdiğiniz doğrulama kodu hatalı. Kalan deneme hakkı: " ++
      Nat.repr remaining))
  | exhausted => .error tooManyAttempts
  | signedIn => .ok ()

/-- A call of `verifyOtp` for a user that was found. -/
inductive Task where
  | readAttempts (code : String)
  | block
  | readCode (code : String) (attempts : ℕ)
  | countWrong (attempts : ℕ)
  | invalidate
  | deleteCode
  | deleteAttempts
  | ended (answer : Answer)
  deriving DecidableEq, Repr

namespace Task

def exec (before : Redis) (t : Task) (env : Env) : Redis × Task :=
  let redis := before.elapse env.elapsed
  match t with
  | readAttempts code =>
    let attempts := (redis.get env redis.attempts).getD 0
    (redis, if attempts ≥ 5 then block else readCode code attempts)
  | block => (redis.delCode env, ended .blocked)
  | readCode code attempts =>
    match redis.get env redis.code with
    | none => (redis, ended .expired)
    | some cachedCode => (redis, if cachedCode ≠ code then countWrong attempts else deleteCode)
  | countWrong attempts =>
    let newAttempts := attempts + 1
    (redis.setAttempts env newAttempts 900,
      if newAttempts ≥ 5 then invalidate else ended (.wrong (5 - newAttempts)))
  | invalidate => (redis.delCode env, ended .exhausted)
  | deleteCode => (redis.delCode env, deleteAttempts)
  | deleteAttempts => (redis.delAttempts env, ended .signedIn)
  | ended answer => (redis, ended answer)

/-- The call has compared the code with a wrong one and has not counted it. -/
def counting : Task → Bool
  | countWrong _ => true
  | _ => false

def wrong : Task → Bool
  | countWrong _ | invalidate | ended (.wrong _) | ended .exhausted => true
  | _ => false

def deleting : Task → Bool
  | deleteCode => true
  | _ => false

def passed : Task → Bool
  | deleteAttempts | ended .signedIn => true
  | _ => false

def right (t : Task) : Bool := t.deleting || t.passed

end Task

abbrev System := Pool Redis Task

def System.act : System → PoolAction String Env → System := Pool.act Task.readAttempts Task.exec

/-- At most five wrong codes are compared with the code, and at most one call succeeds. -/
structure System.Guarded (s : System) : Prop where
  wrong : s.count Task.wrong ≤ 5
  right : s.count Task.right ≤ 1

instance (s : System) : Decidable s.Guarded :=
  decidable_of_iff (s.count Task.wrong ≤ 5 ∧ s.count Task.right ≤ 1)
    ⟨fun h => ⟨h.1, h.2⟩, fun h => ⟨h.1, h.2⟩⟩

/-- No call compares its code while another one is between its comparison and the write
that follows from it, or on a counter that has changed; these writes reach Redis. -/
def Task.Orderly (s : System) (env : Env) : Task → Prop
  | readCode code attempts =>
    let redis := s.shared.elapse env.elapsed
    ∀ cachedCode ∈ redis.get env redis.code,
      if cachedCode = code then s.count Task.deleting = 0
      else s.count Task.counting = 0 ∧ (redis.live redis.attempts).getD 0 = attempts
  | countWrong _ => env.reaches = true
  | deleteCode => env.reaches = true
  | _ => True

def System.Orderly (s : System) : PoolAction String Env → Prop
  | .start _ => True
  | .step k env => ∀ t ∈ s.threads.get? k, t.Orderly s env

instance (s : System) (env : Env) (t : Task) : Decidable (t.Orderly s env) := by
  induction t using Task.casesOn <;> unfold Task.Orderly <;> infer_instance

instance (s : System) (a : PoolAction String Env) : Decidable (s.Orderly a) :=
  match a with
  | .start _ => .isTrue trivial
  | .step k env => inferInstanceAs (Decidable (∀ t ∈ s.threads.get? k, t.Orderly s env))

end WorksAuto.Auth.Otp
