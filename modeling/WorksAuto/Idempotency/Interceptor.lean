import Mathlib.Data.List.Infix
import WorksAuto.Lib.Json
import WorksAuto.Lib.Pool
import WorksAuto.Values

/-! `IdempotencyInterceptor`: requests that share a key meet in Redis.
A request with a key takes a lock for 60 seconds, runs its handler and stores
the response for 24 hours; an error frees the key. SHA-256 is a parameter, and
every Redis command may fail, before or after it took effect. -/

namespace WorksAuto.Idempotency

open Lib

/-- A request as the interceptor reads it. The body is the JSON text of
`request.body`, missing where that is empty. -/
structure Request where
  xIdempotencyKey : Option String
  idempotencyKey : Option String
  xTenantId : Option String
  userTenantId : Option String
  userId : Option String
  userSub : Option String
  method : String
  originalUrl : String
  url : String
  body : Option String
  deriving DecidableEq, Repr

/-- What a handler answers with; the status is `response.statusCode || 200`. -/
structure Response where
  statusCode : ℕ
  body : String
  deriving DecidableEq, Repr

namespace Request

def keyStr (r : Request) : String :=
  jsTrim ((firstText [r.xIdempotencyKey, r.idempotencyKey]).getD "")

def redisKey (r : Request) : String :=
  "idempotency:" ++ (firstText [r.userTenantId, r.xTenantId]).getD "default" ++ ":" ++
    (firstText [r.userId, r.userSub]).getD "public" ++ ":" ++ r.keyStr

def bodyStr (r : Request) : String := r.body.getD "\x7b\x7d"

/-- `request.originalUrl || request.url`. -/
def fullUrl (r : Request) : String := if r.originalUrl = "" then r.url else r.originalUrl

def payloadHash (sha256 : String → String) (r : Request) : String :=
  sha256 (Json.stringify [r.method, r.fullUrl, r.bodyStr])

def isFinancialRoute (r : Request) : Bool :=
  ["/payments", "/invoices", "/current-accounts"].any fun part => part.toList <:+: r.url.toList

def SameAs (r r' : Request) : Prop :=
  r.method = r'.method ∧ r.fullUrl = r'.fullUrl ∧ r.bodyStr = r'.bodyStr

theorem sameAs_of_stringify {r r' : Request}
    (h : Json.stringify [r.method, r.fullUrl, r.bodyStr] =
      Json.stringify [r'.method, r'.fullUrl, r'.bodyStr]) : r.SameAs r' := by
  have hlist := Json.stringify_injective h
  simp only [List.cons.injEq, and_true] at hlist
  exact hlist

end Request

/-- The text stored under a key: `PROCESSING:` with a hash, or a record. -/
inductive Entry where
  | processing (hash : String)
  | completed (hash : String) (response : Response)
  deriving DecidableEq, Repr

/-- The keys of Redis, each with the time at which it expires. -/
structure Redis where
  cells : String → Option (Entry × ℕ)

/-- How a command ends for its caller. A failed command may have been applied. -/
inductive Reply where
  | done
  | failed (applied : Bool)
  deriving DecidableEq, Repr

def Reply.applied : Reply → Bool
  | .done => true
  | .failed applied => applied

def second : ℕ := 1000

def day : ℕ := 86400 * second

namespace Redis

def get (redis : Redis) (now : ℕ) (key : String) : Option Entry :=
  ((redis.cells key).filter fun cell => now < cell.2).map Prod.fst

def set (redis : Redis) (now : ℕ) (key : String) (e : Entry) (ttl : ℕ) : Redis where
  cells := Function.update redis.cells key (some (e, now + ttl))

/-- `SET key value EX ttl NX`. -/
def setNx (redis : Redis) (now : ℕ) (key : String) (e : Entry) (ttl : ℕ) : Redis :=
  if (redis.get now key).isNone then redis.set now key e ttl else redis

def del (redis : Redis) (key : String) : Redis where
  cells := Function.update redis.cells key none

end Redis

structure Server where
  now : ℕ
  redis : Redis

/-- What the surroundings decide at one step: the time that has passed, the
connection, the fate of a command and the end of a handler. -/
structure Env where
  elapsed : ℕ
  healthy : Bool
  reply : Reply
  outcome : Option Response

inductive Refusal where
  | serviceUnavailable (message : String)
  | conflict (message : String)
  deriving DecidableEq, Repr

/-- How far a request has come. A lock is known by its expiry; `stored` tells
whether the response reached Redis. -/
inductive Phase where
  | arrived
  | lookup
  | refused (reason : Refusal)
  | replayed (response : Response)
  | handling (lock : Option ℕ)
  | caching (lock : ℕ) (completedAt : ℕ) (response : Response)
  | executed (lock : Option ℕ) (completedAt : ℕ) (response : Response) (stored : Bool)
  | unlocking (lock : ℕ)
  | failed
  deriving DecidableEq, Repr

structure Thread where
  request : Request
  phase : Phase
  deriving DecidableEq, Repr

def unavailable : Refusal :=
  .serviceUnavailable "Finansal işlem güvenliği için kilit servisi (Redis) şu anda yanıt vermiyor. Çift işlem riskini önlemek için talep durduruldu, lütfen az sonra tekrar deneyiniz."

def lockError : Refusal :=
  .serviceUnavailable "Finansal işlem kilit servisinde hata oluştu. Çift işlem riskini önlemek için talep durduruldu."

def inProgress : Refusal := .conflict "İşlem şu anda yürütülüyor, lütfen bekleyiniz."

def payloadMismatch : Refusal :=
  .conflict "Idempotency Payload Mismatch: Aynı anahtar farklı bir istek gövdesiyle tekrar kullanılamaz."

def lockUnverified : Refusal :=
  .conflict "İşlem kilidi doğrulanamadı; aynı anahtarla tekrar deneyiniz."

section Steps

variable (sha256 : String → String) (s : Server) (r : Request) (env : Env)

/-- `next.handle()` without a lock: fail-open, except on financial routes. -/
def Request.unguarded (reason : Refusal) : Phase :=
  if r.isFinancialRoute then .refused reason else .handling none

def Request.acquire : Server × Phase :=
  if r.keyStr = "" then (s, .handling none)
  else if !env.healthy then (s, r.unguarded unavailable)
  else
    let locked := { s with
      redis := s.redis.setNx s.now r.redisKey (.processing (r.payloadHash sha256)) (60 * second) }
    match env.reply with
    | .failed applied => (if applied then locked else s, r.unguarded lockError)
    | .done =>
      if (s.redis.get s.now r.redisKey).isNone then (locked, .handling (some (s.now + 60 * second)))
      else (s, .lookup)

def Request.evaluate : Phase :=
  let existing := if env.healthy && env.reply = .done then s.redis.get s.now r.redisKey else none
  match existing with
  | none => .refused lockUnverified
  | some (.processing _) => .refused inProgress
  | some (.completed hash response) =>
    if hash ≠ "" ∧ hash ≠ r.payloadHash sha256 then .refused payloadMismatch
    else .replayed response

def finish (lock : Option ℕ) : Phase :=
  match lock, env.outcome with
  | some lock, some response => .caching lock s.now response
  | some lock, none => .unlocking lock
  | none, some response => .executed none s.now response false
  | none, none => .failed

/-- A command of `RedisService` whose errors are swallowed. -/
def Server.command (f : Redis → Redis) : Server :=
  if env.healthy && env.reply.applied then { s with redis := f s.redis } else s

def Request.cache (lock completedAt : ℕ) (response : Response) : Server × Phase :=
  (s.command env fun redis =>
      redis.set s.now r.redisKey (.completed (r.payloadHash sha256) response) day,
    .executed (some lock) completedAt response (env.healthy && env.reply.applied))

end Steps

def Server.after (s : Server) (elapsed : ℕ) : Server := { s with now := s.now + elapsed }

/-- One atomic part of `intercept`, at its time. -/
def Thread.part (sha256 : String → String) (s : Server) (t : Thread) (env : Env) : Server × Phase :=
  match t.phase with
  | .arrived => t.request.acquire sha256 s env
  | .lookup => (s, t.request.evaluate sha256 s env)
  | .handling lock => (s, finish s env lock)
  | .caching lock completedAt response => t.request.cache sha256 s env lock completedAt response
  | .unlocking _ => (s.command env fun redis => redis.del t.request.redisKey, .failed)
  | ended => (s, ended)

def Thread.exec (sha256 : String → String) (s : Server) (t : Thread) (env : Env) :
    Server × Thread :=
  let result := t.part sha256 (s.after env.elapsed) env
  (result.1, { t with phase := result.2 })

def Request.enter (r : Request) : Thread where
  request := r
  phase := .arrived

abbrev Requests := Pool Server Thread

def Requests.act (sha256 : String → String) : Requests → PoolAction Request Env → Requests :=
  Pool.act Request.enter (Thread.exec sha256)

end WorksAuto.Idempotency
