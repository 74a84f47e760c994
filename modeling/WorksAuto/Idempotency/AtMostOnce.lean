import WorksAuto.Idempotency.Interceptor
import WorksAuto.Lib.Run

/-! What an idempotency key guarantees.
As long as no lock runs out before the response of its request is stored, at
most one of the requests that share a key has a handler in flight or completed.
A replayed response always belongs to the request it answers. -/

namespace WorksAuto.Idempotency

open Lib

namespace Phase

def InFlight : Phase → Prop
  | .handling _ => True
  | _ => False

def response? : Phase → Option Response
  | .caching _ _ response => some response
  | .executed _ _ response _ => some response
  | _ => none

def completedAt? : Phase → Option ℕ
  | .caching _ completedAt _ => some completedAt
  | .executed _ completedAt _ _ => some completedAt
  | _ => none

def Succeeded (ph : Phase) : Prop := ph.response?.isSome

/-- The lock is over, or there was none, while the handler is still in flight or
its response is not in Redis. -/
def Lapsed (now : ℕ) : Phase → Prop
  | .handling lock => ∀ expiry ∈ lock, expiry ≤ now
  | .caching lock _ _ => lock ≤ now
  | .executed lock _ _ stored => stored = false ∧ ∀ expiry ∈ lock, expiry ≤ now
  | _ => False

def Engaged (now : ℕ) : Phase → Prop
  | .handling _ => True
  | .caching _ _ _ => True
  | .executed _ _ _ _ => True
  | .unlocking lock => now < lock
  | _ => False

def Locks (now : ℕ) (cell : Option (Entry × ℕ)) (lock : ℕ) : Prop :=
  now < lock → ∃ hash, cell = some (.processing hash, lock)

/-- What the cell of its key holds for the sake of a request. -/
def Guarded (now : ℕ) (cell : Option (Entry × ℕ)) : Phase → Prop
  | .handling lock => ∃ expiry, lock = some expiry ∧ Locks now cell expiry
  | .caching lock completedAt _ => Locks now cell lock ∧ completedAt ≤ now
  | .executed lock completedAt _ stored =>
    if stored then ∃ e expiry, cell = some (e, expiry) ∧ completedAt + day ≤ expiry
    else ∃ expiry, lock = some expiry ∧ Locks now cell expiry
  | .unlocking lock => Locks now cell lock
  | _ => True

def Recent (now : ℕ) (ph : Phase) : Prop := ∀ completedAt ∈ ph.completedAt?, now < completedAt + day

def Lockless : Phase → Prop
  | .arrived => True
  | .handling lock => lock = none
  | .executed _ _ _ _ => True
  | .failed => True
  | _ => False

end Phase

def Free (now : ℕ) (cell : Option (Entry × ℕ)) : Prop := ∀ e expiry, cell = some (e, expiry) → expiry ≤ now

theorem Redis.get_eq_none {redis : Redis} {now : ℕ} {k : String} :
    redis.get now k = none ↔ Free now (redis.cells k) := by
  simp only [Redis.get, Option.map_eq_none_iff, Option.filter_eq_none_iff, Free, Prod.forall,
    decide_eq_true_eq, not_lt]

section Phases

variable {now now' : ℕ} {cell : Option (Entry × ℕ)} {ph : Phase}

theorem Phase.Locks.mono {lock : ℕ} (h : Phase.Locks now cell lock) (hle : now ≤ now') :
    Phase.Locks now' cell lock :=
  fun hlt => h (hle.trans_lt hlt)

theorem Phase.Locks.of_expired {lock : ℕ} (h : lock ≤ now) (cell : Option (Entry × ℕ)) :
    Phase.Locks now cell lock :=
  fun hlt => absurd hlt h.not_gt

theorem Phase.Locks.expired {lock : ℕ} (h : Phase.Locks now cell lock) (hfree : Free now cell) :
    lock ≤ now := by
  by_contra hlt
  obtain ⟨hash, hcell⟩ := h (not_le.mp hlt)
  exact hlt (hfree _ _ hcell)

theorem Phase.Guarded.mono (h : ph.Guarded now cell) (hle : now ≤ now') :
    ph.Guarded now' cell := by
  cases ph with
  | handling lock =>
    obtain ⟨expiry, hlock, hcell⟩ := h
    exact ⟨expiry, hlock, hcell.mono hle⟩
  | caching lock completedAt response => exact ⟨h.1.mono hle, h.2.trans hle⟩
  | executed lock completedAt response stored =>
    cases stored with
    | true => exact h
    | false =>
      obtain ⟨expiry, hlock, hcell⟩ := h
      exact ⟨expiry, hlock, hcell.mono hle⟩
  | unlocking lock => exact Phase.Locks.mono h hle
  | _ => trivial

theorem Phase.Engaged.mono (h : ph.Engaged now') (hle : now ≤ now') : ph.Engaged now := by
  cases ph with
  | unlocking lock => exact hle.trans_lt h
  | _ => exact h

theorem Phase.guarded_of_not_engaged (h : ¬ ph.Engaged now) (cell : Option (Entry × ℕ)) :
    ph.Guarded now cell := by
  cases ph with
  | handling lock => exact absurd trivial h
  | caching lock completedAt response => exact absurd trivial h
  | executed lock completedAt response stored => exact absurd trivial h
  | unlocking lock => exact .of_expired (not_lt.mp h) cell
  | _ => trivial

theorem Phase.Guarded.lapsed (h : ph.Guarded now cell) (hfree : Free now cell)
    (hrecent : ph.Recent now) (hengaged : ph.Engaged now) : ph.Lapsed now := by
  cases ph with
  | handling lock =>
    obtain ⟨expiry, rfl, hcell⟩ := h
    intro other hother
    cases hother
    exact hcell.expired hfree
  | caching lock completedAt response => exact h.1.expired hfree
  | executed lock completedAt response stored =>
    cases stored with
    | true =>
      obtain ⟨e, expiry, hcell, hday⟩ := h
      have hnow := hrecent completedAt rfl
      have hexpired := hfree e expiry hcell
      omega
    | false =>
      obtain ⟨expiry, rfl, hcell⟩ := h
      refine ⟨rfl, fun other hother => ?_⟩
      cases hother
      exact hcell.expired hfree
  | unlocking lock => exact absurd hengaged (Phase.Locks.expired h hfree).not_gt
  | _ => exact hengaged.elim

theorem Phase.Guarded.overwrite (h : ph.Guarded now cell) (hfree : Free now cell)
    (hrecent : ph.Recent now) (cell' : Option (Entry × ℕ)) : ph.Guarded now cell' := by
  by_cases hengaged : ph.Engaged now
  · have hlapsed := h.lapsed hfree hrecent hengaged
    cases ph with
    | handling lock =>
      obtain ⟨expiry, rfl, hcell⟩ := h
      exact ⟨expiry, rfl, .of_expired (hlapsed expiry rfl) cell'⟩
    | caching lock completedAt response => exact ⟨.of_expired hlapsed cell', h.2⟩
    | executed lock completedAt response stored =>
      obtain ⟨rfl, hexpired⟩ := hlapsed
      obtain ⟨expiry, rfl, hcell⟩ := h
      exact ⟨expiry, rfl, .of_expired (hexpired expiry rfl) cell'⟩
    | _ => exact hlapsed.elim
  · exact guarded_of_not_engaged hengaged cell'

end Phases

/-- The request carries a key, and it is `k`. -/
def Thread.Keyed (k : String) (t : Thread) : Prop :=
  t.request.keyStr ≠ "" ∧ t.request.redisKey = k

namespace Requests

/-- Redis stays up, and less than a day has passed since a request of the key completed. -/
def Within (k : String) (p : Requests) : PoolAction Request Env → Prop
  | .start _ => True
  | .step _ env => env.healthy = true ∧ ∀ j u, p.threads.get? j = some u → u.Keyed k →
      u.phase.Recent (p.shared.now + env.elapsed)

/-- A lock attempt does not fail on a route that would go on without the lock, and
does not find the key free while a request has outlived its lock; a deletion finds
its own lock, or nothing. -/
def Orderly (k : String) (p : Requests) : PoolAction Request Env → Prop
  | .start _ => True
  | .step i env => ∀ t, p.threads.get? i = some t → t.Keyed k →
    match t.phase with
    | .arrived =>
      (t.request.isFinancialRoute = true ∨ env.reply = .done) ∧
        (p.shared.redis.get (p.shared.now + env.elapsed) k = none →
          ∀ j u, p.threads.get? j = some u → u.Keyed k →
            ¬ u.phase.Lapsed (p.shared.now + env.elapsed))
    | .unlocking lock =>
      env.reply.applied = true → p.shared.now + env.elapsed < lock ∨
        p.shared.redis.get (p.shared.now + env.elapsed) k = none
    | _ => True

/-- One effective execution, and replays only for the request that was executed. -/
structure AtMostOnce (k : String) (p : Requests) : Prop where
  one_in_flight : ∀ i j t u, p.threads.get? i = some t → p.threads.get? j = some u →
    t.Keyed k → u.Keyed k → t.phase.InFlight → u.phase.InFlight → i = j
  none_after : ∀ i j t u, p.threads.get? i = some t → p.threads.get? j = some u →
    t.Keyed k → u.Keyed k → t.phase.Succeeded → u.phase.InFlight ∨ u.phase.Succeeded → i = j
  replayed : ∀ i t response, p.threads.get? i = some t → t.Keyed k →
    t.phase = .replayed response → ∃ j u, p.threads.get? j = some u ∧ u.Keyed k ∧
      u.phase.response? = some response ∧ u.request.SameAs t.request

end Requests

section Step

variable (sha256 : String → String)

inductive Touch (now : ℕ) (cell cell' : Option (Entry × ℕ)) (ph ph' : Phase) : Prop where
  | quiet (same : cell' = cell) (engaged : ph'.Engaged now → ph.Engaged now)
      (guarded : ph.Guarded now cell → ph'.Guarded now cell)
  | own (engaged : ph.Engaged now) (guarded : ph.Guarded now cell → ph'.Guarded now cell')
  | clear (free : Free now cell) (idle : ¬ ph'.Engaged now)
  | take (free : Free now cell) (arrived : ph = .arrived) (guarded : ph'.Guarded now cell')

theorem Redis.set_cells (redis : Redis) (now : ℕ) (key : String) (e : Entry) (ttl : ℕ) :
    (redis.set now key e ttl).cells key = some (e, now + ttl) := by
  simp [Redis.set]

theorem Redis.del_cells (redis : Redis) (key : String) : (redis.del key).cells key = none := by
  simp [Redis.del]

theorem Request.acquire_touch {s : Server} {r : Request} {env : Env} (hkey : r.keyStr ≠ "")
    (hhealthy : env.healthy = true) (hreply : r.isFinancialRoute = true ∨ env.reply = .done) :
    Touch s.now (s.redis.cells r.redisKey) ((r.acquire sha256 s env).1.redis.cells r.redisKey)
      .arrived (r.acquire sha256 s env).2 := by
  unfold Request.acquire
  rw [if_neg hkey, hhealthy, if_neg (by decide)]
  cases hr : env.reply with
  | done =>
    by_cases hnone : s.redis.get s.now r.redisKey = none
    · simp only [Redis.setNx, hnone, Option.isNone_none, if_true]
      refine .take (Redis.get_eq_none.mp hnone) rfl ⟨_, rfl, fun _ => ?_⟩
      exact ⟨r.payloadHash sha256, Redis.set_cells ..⟩
    · rw [← Option.isNone_iff_eq_none, Bool.not_eq_true] at hnone
      simp only [hnone]
      exact .quiet rfl id fun _ => trivial
  | failed applied =>
    have hfinancial : r.isFinancialRoute = true := by
      simpa [hr] using hreply
    have hidle : ¬ (r.unguarded lockError).Engaged s.now := by
      rw [Request.unguarded, if_pos hfinancial]
      exact id
    by_cases hnone : s.redis.get s.now r.redisKey = none
    · exact .clear (Redis.get_eq_none.mp hnone) hidle
    · rw [← Option.isNone_iff_eq_none, Bool.not_eq_true] at hnone
      have hsame : s.redis.setNx s.now r.redisKey (.processing (r.payloadHash sha256))
          (60 * second) = s.redis := by
        rw [Redis.setNx, hnone, if_neg (by decide)]
      refine .quiet ?_ (fun h => absurd h hidle) fun _ => Phase.guarded_of_not_engaged hidle _
      cases applied <;> simp [hsame]

theorem finish_touch (s : Server) (env : Env) (lock : Option ℕ) (cell : Option (Entry × ℕ)) :
    Touch s.now cell cell (.handling lock) (finish s env lock) := by
  refine .quiet rfl (fun _ => trivial) fun h => ?_
  obtain ⟨expiry, rfl, hcell⟩ := h
  cases ho : env.outcome with
  | none =>
    simp only [finish, ho]
    exact hcell
  | some response =>
    simp only [finish, ho]
    exact ⟨hcell, le_rfl⟩

theorem Request.cache_touch {s : Server} {r : Request} {env : Env} {lock completedAt : ℕ}
    {response : Response} (hhealthy : env.healthy = true) :
    Touch s.now (s.redis.cells r.redisKey)
      ((r.cache sha256 s env lock completedAt response).1.redis.cells r.redisKey)
      (.caching lock completedAt response) (r.cache sha256 s env lock completedAt response).2 := by
  unfold Request.cache Server.command
  cases happlied : env.reply.applied with
  | true =>
    refine .own trivial fun h => ?_
    simp only [hhealthy, Bool.and_self, if_true, Phase.Guarded]
    exact ⟨_, _, Redis.set_cells .., Nat.add_le_add_right h.2 day⟩
  | false =>
    simp only [hhealthy, Bool.and_false]
    exact .quiet rfl id fun h => ⟨lock, rfl, h.1⟩

theorem unlock_touch {s : Server} {r : Request} {env : Env} {lock : ℕ}
    (hhealthy : env.healthy = true)
    (howner : env.reply.applied = true → s.now < lock ∨ s.redis.get s.now r.redisKey = none) :
    Touch s.now (s.redis.cells r.redisKey)
      ((s.command env fun redis => redis.del r.redisKey).redis.cells r.redisKey)
      (.unlocking lock) .failed := by
  unfold Server.command
  cases happlied : env.reply.applied with
  | true =>
    rcases howner happlied with hlive | hfree
    · exact .own hlive fun _ => trivial
    · exact .clear (Redis.get_eq_none.mp hfree) id
  | false =>
    simp only [hhealthy, Bool.and_false]
    exact .quiet rfl (fun h => h.elim) fun _ => trivial

inductive Writes (s : Server) (t : Thread) : Server → Prop where
  | nothing : Writes s t s
  | lock (key : t.request.keyStr ≠ "") (free : s.redis.get s.now t.request.redisKey = none) :
    Writes s t { s with
      redis := s.redis.set s.now t.request.redisKey (.processing (t.request.payloadHash sha256))
        (60 * second) }
  | cache (lock completedAt : ℕ) (response : Response)
      (phase : t.phase = .caching lock completedAt response) :
    Writes s t { s with
      redis := s.redis.set s.now t.request.redisKey
        (.completed (t.request.payloadHash sha256) response) day }
  | unlock (lock : ℕ) (phase : t.phase = .unlocking lock) :
    Writes s t { s with redis := s.redis.del t.request.redisKey }

theorem Request.acquire_writes (s : Server) (t : Thread) (env : Env) :
    Writes sha256 s t (t.request.acquire sha256 s env).1 := by
  unfold Request.acquire
  by_cases hkey : t.request.keyStr = ""
  · rw [if_pos hkey]
    exact .nothing
  rw [if_neg hkey]
  cases hhealthy : env.healthy with
  | false => exact .nothing
  | true =>
    rw [if_neg (by decide)]
    by_cases hnone : s.redis.get s.now t.request.redisKey = none
    · simp only [Redis.setNx, hnone, Option.isNone_none, if_true]
      have hlock : Writes sha256 s t { s with
          redis := s.redis.set s.now t.request.redisKey
            (.processing (t.request.payloadHash sha256)) (60 * second) } :=
        .lock hkey hnone
      cases env.reply with
      | done => exact hlock
      | failed applied =>
        cases applied with
        | true => exact hlock
        | false => exact .nothing
    · rw [← Option.isNone_iff_eq_none, Bool.not_eq_true] at hnone
      simp only [Redis.setNx, hnone]
      cases env.reply with
      | done => exact .nothing
      | failed applied => cases applied <;> exact .nothing

theorem Thread.exec_writes (s : Server) (t : Thread) (env : Env) :
    Writes sha256 (s.after env.elapsed) t (t.exec sha256 s env).1 := by
  cases hp : t.phase with
  | arrived =>
    simp only [Thread.exec, Thread.part, hp]
    exact Request.acquire_writes sha256 (s.after env.elapsed) t env
  | caching lock completedAt response =>
    simp only [Thread.exec, Thread.part, hp, Request.cache, Server.command]
    split_ifs
    · exact .cache lock completedAt response hp
    · exact .nothing
  | unlocking lock =>
    simp only [Thread.exec, Thread.part, hp, Server.command]
    split_ifs
    · exact .unlock lock hp
    · exact .nothing
  | _ =>
    simp only [Thread.exec, Thread.part, hp]
    exact .nothing

theorem Thread.exec_now (s : Server) (t : Thread) (env : Env) :
    (t.exec sha256 s env).1.now = s.now + env.elapsed := by
  have h := t.exec_writes sha256 s env
  generalize (t.exec sha256 s env).1 = s' at h
  cases h <;> rfl

theorem Thread.exec_other {s : Server} {t : Thread} {k : String} (env : Env)
    (hless : t.request.keyStr = "" → t.phase.Lockless) (hk : ¬ t.Keyed k) :
    (t.exec sha256 s env).1.redis.cells k = s.redis.cells k := by
  have hne : t.request.keyStr ≠ "" → k ≠ t.request.redisKey := fun hkey h => hk ⟨hkey, h.symm⟩
  have hlocked : ¬ t.phase.Lockless → k ≠ t.request.redisKey := fun h => hne fun hkey => h (hless hkey)
  have h := t.exec_writes sha256 s env
  generalize (t.exec sha256 s env).1 = s' at h
  cases h with
  | nothing => rfl
  | lock hkey hfree => exact Function.update_of_ne (hne hkey) ..
  | cache lock completedAt response hp =>
    exact Function.update_of_ne (hlocked (by simp [hp, Phase.Lockless])) ..
  | unlock lock hp =>
    exact Function.update_of_ne (hlocked (by simp [hp, Phase.Lockless])) ..

theorem Request.evaluate_idle (s : Server) (r : Request) (env : Env) :
    ¬ (r.evaluate sha256 s env).Engaged s.now := by
  unfold Request.evaluate
  simp only
  split
  · exact id
  · exact id
  · split_ifs <;> exact id

theorem Thread.touch {s : Server} {t : Thread} {k : String} {env : Env} (hk : t.Keyed k)
    (hhealthy : env.healthy = true)
    (hreply : t.phase = .arrived → t.request.isFinancialRoute = true ∨ env.reply = .done)
    (howner : ∀ lock, t.phase = .unlocking lock → env.reply.applied = true →
      s.now + env.elapsed < lock ∨ s.redis.get (s.now + env.elapsed) k = none) :
    Touch (s.now + env.elapsed) (s.redis.cells k) ((t.exec sha256 s env).1.redis.cells k) t.phase
      (t.exec sha256 s env).2.phase := by
  obtain ⟨hkey, rfl⟩ := hk
  cases hp : t.phase with
  | arrived =>
    simp only [Thread.exec, Thread.part, hp]
    exact Request.acquire_touch sha256 (s := s.after env.elapsed) hkey hhealthy (hreply hp)
  | lookup =>
    simp only [Thread.exec, Thread.part, hp]
    have hidle := t.request.evaluate_idle sha256 (s.after env.elapsed) env
    exact .quiet rfl (fun h => absurd h hidle) fun _ => Phase.guarded_of_not_engaged hidle _
  | handling lock =>
    simp only [Thread.exec, Thread.part, hp]
    exact finish_touch (s.after env.elapsed) env lock _
  | caching lock completedAt response =>
    simp only [Thread.exec, Thread.part, hp]
    exact Request.cache_touch sha256 (s := s.after env.elapsed) hhealthy
  | unlocking lock =>
    simp only [Thread.exec, Thread.part, hp]
    exact unlock_touch (s := s.after env.elapsed) hhealthy (howner lock hp)
  | _ =>
    simp only [Thread.exec, Thread.part, hp]
    exact .quiet rfl id id

theorem Thread.exec_lockless {s : Server} {t : Thread} (env : Env)
    (hkey : t.request.keyStr = "") (h : t.phase.Lockless) :
    (t.exec sha256 s env).2.phase.Lockless := by
  cases hp : t.phase with
  | arrived => simp only [Thread.exec, Thread.part, hp, Request.acquire, hkey, if_true, Phase.Lockless]
  | handling lock =>
    rw [hp] at h
    have hlock : lock = none := h
    simp only [Thread.exec, Thread.part, hp, finish, hlock]
    cases env.outcome <;> trivial
  | executed lock completedAt response stored => simp only [Thread.exec, Thread.part, hp, Phase.Lockless]
  | failed => simp only [Thread.exec, Thread.part, hp, Phase.Lockless]
  | _ => simp only [hp, Phase.Lockless] at h

end Step

section Runs

variable {sha256 : String → String} {k : String} {p : Requests}

/-- At most one request of the key is engaged, and the cell is there for it. -/
structure Exclusive (k : String) (p : Requests) : Prop where
  lockless : ∀ i t, p.threads.get? i = some t → t.request.keyStr = "" → t.phase.Lockless
  guarded : ∀ i t, p.threads.get? i = some t → t.Keyed k →
    t.phase.Guarded p.shared.now (p.shared.redis.cells k)
  unique : ∀ i j t u, p.threads.get? i = some t → p.threads.get? j = some u →
    t.Keyed k → u.Keyed k → t.phase.Engaged p.shared.now → u.phase.Engaged p.shared.now → i = j

theorem Exclusive.start (h : Exclusive k p) (r : Request) :
    Exclusive k (Requests.act sha256 p (.start r)) := by
  have hget : ∀ i t, (Requests.act sha256 p (.start r)).threads.get? i = some t →
      t.phase = .arrived ∨ p.threads.get? i = some t := by
    intro i t ht
    rw [Requests.act, Pool.act_start, Table.get?_insert] at ht
    split_ifs at ht with hi
    · cases ht
      exact .inl rfl
    · exact .inr ht
  refine ⟨fun i t ht hkey => ?_, fun i t ht hk => ?_, fun i j t u ht hu hkt hku het heu => ?_⟩
  · rcases hget i t ht with hp | hold
    · rw [hp]
      trivial
    · exact h.lockless i t hold hkey
  · rcases hget i t ht with hp | hold
    · rw [hp]
      trivial
    · exact h.guarded i t hold hk
  · rcases hget i t ht with hp | hold
    · rw [hp] at het
      exact het.elim
    · rcases hget j u hu with hp | hold'
      · rw [hp] at heu
        exact heu.elim
      · exact h.unique i j t u hold hold' hkt hku het heu

theorem Exclusive.of_step {i : ℕ} {t : Thread} {env : Env} (h : Exclusive k p)
    (ht : p.threads.get? i = some t)
    (hguarded : t.Keyed k → (t.exec sha256 p.shared env).2.phase.Guarded
      (p.shared.now + env.elapsed) ((t.exec sha256 p.shared env).1.redis.cells k))
    (hothers : ∀ j u, j ≠ i → p.threads.get? j = some u → u.Keyed k →
      u.phase.Guarded (p.shared.now + env.elapsed) ((t.exec sha256 p.shared env).1.redis.cells k))
    (halone : t.Keyed k → (t.exec sha256 p.shared env).2.phase.Engaged (p.shared.now + env.elapsed) →
      ∀ j u, j ≠ i → p.threads.get? j = some u → u.Keyed k →
        ¬ u.phase.Engaged (p.shared.now + env.elapsed)) :
    Exclusive k (Requests.act sha256 p (.step i env)) := by
  have hle : p.shared.now ≤ p.shared.now + env.elapsed := Nat.le_add_right _ _
  have hget : ∀ j u, (Requests.act sha256 p (.step i env)).threads.get? j = some u →
      (j = i ∧ u = (t.exec sha256 p.shared env).2) ∨ (j ≠ i ∧ p.threads.get? j = some u) := by
    intro j u hu
    rw [Requests.act, Pool.act_step_some ht, Table.get?_modify] at hu
    obtain ⟨old, hold, rfl⟩ := Option.map_eq_some_iff.mp hu
    split_ifs with hj
    · exact .inl ⟨hj, rfl⟩
    · exact .inr ⟨hj, hold⟩
  have hshared : (Requests.act sha256 p (.step i env)).shared = (t.exec sha256 p.shared env).1 := by
    rw [Requests.act, Pool.act_step_some ht]
  refine ⟨fun j u hu hkey => ?_, fun j u hu hk => ?_, fun j l u v hu hv hku hkv heu hev => ?_⟩
  · rcases hget j u hu with ⟨rfl, rfl⟩ | ⟨-, hold⟩
    · exact t.exec_lockless sha256 env hkey (h.lockless j t ht hkey)
    · exact h.lockless j u hold hkey
  · rw [hshared, t.exec_now]
    rcases hget j u hu with ⟨rfl, rfl⟩ | ⟨hj, hold⟩
    · exact hguarded hk
    · exact hothers j u hj hold hk
  · rw [hshared, t.exec_now] at heu hev
    rcases hget j u hu with ⟨rfl, rfl⟩ | ⟨hj, holdu⟩
    · rcases hget l v hv with ⟨rfl, rfl⟩ | ⟨hl, holdv⟩
      · rfl
      · exact absurd hev (halone hku heu l v hl holdv hkv)
    · rcases hget l v hv with ⟨rfl, rfl⟩ | ⟨hl, holdv⟩
      · exact absurd heu (halone hkv hev j u hj holdu hku)
      · exact h.unique j l u v holdu holdv hku hkv (heu.mono hle) (hev.mono hle)

theorem Exclusive.step {i : ℕ} {env : Env} (h : Exclusive k p)
    (hwithin : Requests.Within k p (.step i env)) (hord : Requests.Orderly k p (.step i env)) :
    Exclusive k (Requests.act sha256 p (.step i env)) := by
  have hle : p.shared.now ≤ p.shared.now + env.elapsed := Nat.le_add_right _ _
  cases ht : p.threads.get? i with
  | none =>
    rw [Requests.act, Pool.act_step_none ht]
    exact h
  | some t =>
    have hlater : ∀ j u, p.threads.get? j = some u → u.Keyed k →
        u.phase.Guarded (p.shared.now + env.elapsed) (p.shared.redis.cells k) :=
      fun j u hu hk => (h.guarded j u hu hk).mono hle
    by_cases hk : t.Keyed k
    · have hown := hord t ht hk
      have htouch := t.touch sha256 hk hwithin.1
        (fun hp => by rw [hp] at hown; exact hown.1)
        (fun lock hp => by rw [hp] at hown; exact hown)
      cases htouch with
      | quiet same engaged guarded =>
        refine h.of_step ht (fun _ => ?_) (fun j u _ hu hku => ?_) fun _ he j u hj hu hku heu => ?_
        · rw [same]
          exact guarded (hlater i t ht hk)
        · rw [same]
          exact hlater j u hu hku
        · exact hj (h.unique j i u t hu ht hku hk (heu.mono hle) ((engaged he).mono hle))
      | own engaged guarded =>
        have hrest : ∀ j u, j ≠ i → p.threads.get? j = some u → u.Keyed k →
            ¬ u.phase.Engaged (p.shared.now + env.elapsed) :=
          fun j u hj hu hku heu =>
            hj (h.unique j i u t hu ht hku hk (heu.mono hle) (engaged.mono hle))
        refine h.of_step ht (fun _ => guarded (hlater i t ht hk)) (fun j u hj hu hku => ?_)
          fun _ _ => hrest
        exact Phase.guarded_of_not_engaged (hrest j u hj hu hku) _
      | clear free idle =>
        refine h.of_step ht (fun _ => Phase.guarded_of_not_engaged idle _) (fun j u _ hu hku => ?_)
          fun _ he => absurd he idle
        exact (hlater j u hu hku).overwrite free (hwithin.2 j u hu hku) _
      | take free arrived guarded =>
        rw [arrived] at hown
        refine h.of_step ht (fun _ => guarded) (fun j u _ hu hku => ?_)
          fun _ _ j u _ hu hku heu => ?_
        · exact (hlater j u hu hku).overwrite free (hwithin.2 j u hu hku) _
        · have hlapsed := (hlater j u hu hku).lapsed free (hwithin.2 j u hu hku) heu
          exact hown.2 (Redis.get_eq_none.mpr free) j u hu hku hlapsed
    · have hcell := t.exec_other sha256 (s := p.shared) env (h.lockless i t ht) hk
      refine h.of_step ht (fun hk' => absurd hk' hk) (fun j u _ hu hku => ?_)
        fun hk' => absurd hk' hk
      rw [hcell]
      exact hlater j u hu hku

theorem Exclusive.act (h : Exclusive k p) {a : PoolAction Request Env}
    (hwithin : Requests.Within k p a) (hord : Requests.Orderly k p a) :
    Exclusive k (Requests.act sha256 p a) := by
  cases a with
  | start r => exact h.start r
  | step i env => exact h.step hwithin hord

def Requests.Source (sha256 : String → String) (k : String) (p : Requests) (hash : String)
    (response : Response) : Prop :=
  ∃ j u, p.threads.get? j = some u ∧ u.Keyed k ∧ u.phase.response? = some response ∧
    u.request.payloadHash sha256 = hash

/-- Every record in the cell and every replay go back to a completed request. -/
structure Sourced (sha256 : String → String) (R : Request → Prop) (k : String) (p : Requests) :
    Prop where
  requests : ∀ i t, p.threads.get? i = some t → R t.request
  cell : ∀ hash response, p.shared.redis.get p.shared.now k = some (.completed hash response) →
    p.Source sha256 k hash response
  replayed : ∀ i t response, p.threads.get? i = some t → t.Keyed k →
    t.phase = .replayed response → p.Source sha256 k (t.request.payloadHash sha256) response

theorem Thread.exec_response {s : Server} {t : Thread} {response : Response} (env : Env)
    (h : t.phase.response? = some response) :
    (t.exec sha256 s env).2.phase.response? = some response := by
  cases hp : t.phase with
  | caching lock completedAt r =>
    rw [hp] at h
    simpa only [Thread.exec, Thread.part, hp, Request.cache, Phase.response?] using h
  | executed lock completedAt r stored =>
    rw [hp] at h
    simpa only [Thread.exec, Thread.part, hp, Phase.response?] using h
  | _ =>
    rw [hp] at h
    cases h

theorem Requests.Source.act {hash : String} {response : Response}
    (h : p.Source sha256 k hash response) (a : PoolAction Request Env) :
    Requests.Source sha256 k (Requests.act sha256 p a) hash response := by
  obtain ⟨j, u, hu, hk, hr, hh⟩ := h
  cases a with
  | start r =>
    refine ⟨j, u, ?_, hk, hr, hh⟩
    rw [Requests.act, Pool.act_start]
    exact Table.get?_insert_of_some hu _
  | step i env =>
    cases ht : p.threads.get? i with
    | none =>
      rw [Requests.act, Pool.act_step_none ht]
      exact ⟨j, u, hu, hk, hr, hh⟩
    | some t =>
      rw [Requests.act, Pool.act_step_some ht]
      by_cases hj : j = i
      · subst hj
        obtain rfl := Option.some.inj (ht.symm.trans hu)
        exact ⟨j, _, Table.get?_modify_self ht _, hk, t.exec_response env hr, hh⟩
      · exact ⟨j, u, (Table.get?_modify_ne p.threads hj _).trans hu, hk, hr, hh⟩

theorem Redis.get_mono {redis : Redis} {now now' : ℕ} {e : Entry} (hle : now ≤ now')
    (h : redis.get now' k = some e) : redis.get now k = some e := by
  obtain ⟨cell, hcell, rfl⟩ := Option.map_eq_some_iff.mp h
  obtain ⟨hsome, hlive⟩ := Option.filter_eq_some_iff.mp hcell
  simp only [decide_eq_true_eq] at hlive
  have hlive' : now < cell.2 := hle.trans_lt hlive
  rw [Redis.get, hsome, Option.filter_some, if_pos (decide_eq_true hlive'), Option.map_some]

theorem Redis.get_of_cells {redis redis' : Redis} {now : ℕ}
    (h : redis'.cells k = redis.cells k) : redis'.get now k = redis.get now k := by
  rw [Redis.get, Redis.get, h]

theorem Redis.get_set {redis : Redis} {now ttl : ℕ} {e e' : Entry}
    (h : (redis.set now k e ttl).get now k = some e') : e' = e := by
  obtain ⟨cell, hcell, rfl⟩ := Option.map_eq_some_iff.mp h
  obtain ⟨hsome, -⟩ := Option.filter_eq_some_iff.mp hcell
  rw [Redis.set_cells] at hsome
  cases hsome
  rfl

theorem Thread.exec_cell {s : Server} {t : Thread} {env : Env} {hash : String}
    {response : Response} (hless : t.request.keyStr = "" → t.phase.Lockless)
    (h : (t.exec sha256 s env).1.redis.get (s.now + env.elapsed) k =
      some (.completed hash response)) :
    s.redis.get s.now k = some (.completed hash response) ∨
      (t.Keyed k ∧ hash = t.request.payloadHash sha256 ∧ t.phase.response? = some response) := by
  have hle : s.now ≤ s.now + env.elapsed := Nat.le_add_right _ _
  by_cases hk : t.Keyed k
  · obtain ⟨hkey, rfl⟩ := hk
    have hwrites := t.exec_writes sha256 s env
    generalize (t.exec sha256 s env).1 = s' at h hwrites
    cases hwrites with
    | nothing => exact .inl (Redis.get_mono hle h)
    | lock _ _ => cases Redis.get_set h
    | cache lock completedAt r hp =>
      cases Redis.get_set h
      exact .inr ⟨⟨hkey, rfl⟩, rfl, by rw [hp]; rfl⟩
    | unlock lock hp =>
      rw [Redis.get, Server.after, Redis.del_cells] at h
      cases h
  · rw [Redis.get_of_cells (t.exec_other sha256 env hless hk)] at h
    exact .inl (Redis.get_mono hle h)

theorem Request.evaluate_replayed {s : Server} {r : Request} {env : Env} {response : Response}
    (h : r.evaluate sha256 s env = .replayed response) :
    ∃ hash, s.redis.get s.now r.redisKey = some (.completed hash response) ∧
      (hash = "" ∨ hash = r.payloadHash sha256) := by
  unfold Request.evaluate at h
  simp only at h
  split at h
  · cases h
  · cases h
  · rename_i hash found hexisting
    split_ifs at h with hmatch
    cases h
    refine ⟨hash, ?_, ?_⟩
    · split_ifs at hexisting
      exact hexisting
    · by_contra hne
      exact hmatch (not_or.mp hne)

theorem Thread.exec_replayed {s : Server} {t : Thread} {env : Env} {response : Response}
    (h : (t.exec sha256 s env).2.phase = .replayed response) :
    t.phase = .replayed response ∨ ∃ hash,
      s.redis.get s.now t.request.redisKey = some (.completed hash response) ∧
        (hash = "" ∨ hash = t.request.payloadHash sha256) := by
  cases hp : t.phase with
  | arrived =>
    simp only [Thread.exec, Thread.part, hp, Request.acquire, Request.unguarded] at h
    split_ifs at h
    all_goals (split at h <;> cases h)
  | lookup =>
    simp only [Thread.exec, Thread.part, hp] at h
    obtain ⟨hash, hget, hhash⟩ := Request.evaluate_replayed h
    exact .inr ⟨hash, Redis.get_mono (Nat.le_add_right _ _) hget, hhash⟩
  | handling lock =>
    simp only [Thread.exec, Thread.part, hp, finish] at h
    split at h <;> cases h
  | replayed r =>
    simp only [Thread.exec, Thread.part, hp] at h
    exact .inl h
  | _ => simp [Thread.exec, Thread.part, hp, Request.cache] at h

theorem Sourced.act {R : Request → Prop} (hsha : ∀ text, sha256 text ≠ "")
    (h : Sourced sha256 R k p)
    (hless : ∀ i t, p.threads.get? i = some t → t.request.keyStr = "" → t.phase.Lockless)
    {a : PoolAction Request Env} (hreq : ∀ r, a = .start r → R r) :
    Sourced sha256 R k (Requests.act sha256 p a) := by
  cases a with
  | start r =>
    refine ⟨fun i t ht => ?_, fun hash response hcell => (h.cell hash response hcell).act _,
      fun i t response ht hk hp => ?_⟩
    · rw [Requests.act, Pool.act_start, Table.get?_insert] at ht
      split_ifs at ht with hi
      · cases ht
        exact hreq r rfl
      · exact h.requests i t ht
    · rw [Requests.act, Pool.act_start, Table.get?_insert] at ht
      split_ifs at ht with hi
      · cases ht
        cases hp
      · exact (h.replayed i t response ht hk hp).act _
  | step i env =>
    cases ht : p.threads.get? i with
    | none =>
      rw [Requests.act, Pool.act_step_none ht]
      exact h
    | some t =>
      have hshared : (Requests.act sha256 p (.step i env)).shared =
          (t.exec sha256 p.shared env).1 := by
        rw [Requests.act, Pool.act_step_some ht]
      have hget : ∀ j u, (Requests.act sha256 p (.step i env)).threads.get? j = some u →
          u = (t.exec sha256 p.shared env).2 ∨ p.threads.get? j = some u := by
        intro j u hu
        rw [Requests.act, Pool.act_step_some ht, Table.get?_modify] at hu
        obtain ⟨old, hold, rfl⟩ := Option.map_eq_some_iff.mp hu
        split_ifs
        · exact .inl rfl
        · exact .inr hold
      refine ⟨fun j u hu => ?_, fun hash response hcell => ?_, fun j u response hu hk hp => ?_⟩
      · rcases hget j u hu with rfl | hold
        · exact h.requests i t ht
        · exact h.requests j u hold
      · rw [hshared, t.exec_now] at hcell
        rcases Thread.exec_cell (hless i t ht) hcell with hold | ⟨hk, rfl, hr⟩
        · exact (h.cell hash response hold).act _
        · exact Requests.Source.act ⟨i, t, ht, hk, hr, rfl⟩ _
      · rcases hget j u hu with rfl | hold
        · have hk' : t.Keyed k := hk
          rcases Thread.exec_replayed hp with hold | ⟨hash, hcell, hhash⟩
          · exact (h.replayed i t response ht hk' hold).act _
          · rw [hk'.2] at hcell
            have hsource := h.cell hash response hcell
            obtain ⟨l, v, hv, hkv, hrv, rfl⟩ := hsource
            rcases hhash with hempty | hsame
            · exact absurd hempty (hsha _)
            · exact Requests.Source.act ⟨l, v, hv, hkv, hrv, hsame⟩ _
        · exact (h.replayed j u response hold hk hp).act _

theorem Exclusive.atMostOnce {R : Request → Prop} (h : Exclusive k p) (hs : Sourced sha256 R k p)
    (hfree : ∀ r r', R r → R r' → r.payloadHash sha256 = r'.payloadHash sha256 → r.SameAs r') :
    p.AtMostOnce k := by
  have hflight : ∀ {ph : Phase}, ph.InFlight → ph.Engaged p.shared.now := by
    intro ph hph
    cases ph with
    | handling lock => trivial
    | _ => exact hph.elim
  have hdone : ∀ {ph : Phase}, ph.Succeeded → ph.Engaged p.shared.now := by
    intro ph hph
    cases ph with
    | caching lock completedAt response => trivial
    | executed lock completedAt response stored => trivial
    | _ => cases hph
  refine ⟨fun i j t u ht hu hkt hku hpt hpu => ?_, fun i j t u ht hu hkt hku hpt hpu => ?_,
    fun i t response ht hk hp => ?_⟩
  · exact h.unique i j t u ht hu hkt hku (hflight hpt) (hflight hpu)
  · exact h.unique i j t u ht hu hkt hku (hdone hpt) (hpu.elim hflight hdone)
  · obtain ⟨j, u, hu, hku, hr, hhash⟩ := hs.replayed i t response ht hk hp
    exact ⟨j, u, hu, hku, hr, hfree _ _ (hs.requests j u hu) (hs.requests i t ht) hhash⟩

/-- Requests that share a key are executed at most once, and only the request that
was executed is answered again with its response: in every interleaving in which
each response is stored before its lock runs out. -/
theorem executed_at_most_once (sha256 : String → String) (k : String) (s : Server)
    (actions : List (PoolAction Request Env)) (hnew : s.redis.get s.now k = none)
    (hsha : ∀ text, sha256 text ≠ "")
    (hfree : ∀ r r', .start r ∈ actions → .start r' ∈ actions →
      sha256 (Json.stringify [r.method, r.fullUrl, r.bodyStr]) =
        sha256 (Json.stringify [r'.method, r'.fullUrl, r'.bodyStr]) →
      Json.stringify [r.method, r.fullUrl, r.bodyStr] =
        Json.stringify [r'.method, r'.fullUrl, r'.bodyStr])
    (hwithin : EachStep (Requests.act sha256) (Requests.Within k) (Pool.idle s) actions)
    (h : EachStep (Requests.act sha256) (Requests.Orderly k) (Pool.idle s) actions) :
    Always (Requests.act sha256) (Requests.AtMostOnce k) (Pool.idle s) actions := by
  let R : Request → Prop := fun r => .start r ∈ actions
  have hstart : Exclusive k (Pool.idle s) ∧ Sourced sha256 R k (Pool.idle s) := by
    refine ⟨⟨fun i t ht => ?_, fun i t ht => ?_, fun i j t u ht => ?_⟩,
      ⟨fun i t ht => ?_, fun hash response hcell => ?_, fun i t response ht => ?_⟩⟩
    case refine_5 => exact absurd (hnew.symm.trans hcell) (by simp)
    all_goals simp [Pool.idle] at ht
  have hsteps : EachStep (Requests.act sha256) (fun p a => (∀ r, a = .start r → R r) ∧
      Requests.Within k p a ∧ Requests.Orderly k p a) (Pool.idle s) actions := by
    intro before a after he
    refine ⟨?_, hwithin before a after he, h before a after he⟩
    rintro r rfl
    simp [R, he]
  have hruns : Always (Requests.act sha256) (fun p => Exclusive k p ∧ Sourced sha256 R k p)
      (Pool.idle s) actions :=
    always_of_step (fun p a hp ha => ⟨hp.1.act ha.2.1 ha.2.2, hp.2.act hsha hp.1.lockless ha.1⟩)
      hstart hsteps
  refine hruns.mono fun p hp => hp.1.atMostOnce hp.2 fun r r' hr hr' hhash => ?_
  exact Request.sameAs_of_stringify (hfree r r' hr hr' hhash)

end Runs

section Sample

instance (now : ℕ) (ph : Phase) : Decidable (ph.Lapsed now) := by
  cases ph <;> unfold Phase.Lapsed <;> infer_instance

instance (now : ℕ) (ph : Phase) : Decidable (ph.Recent now) :=
  inferInstanceAs (Decidable (∀ completedAt ∈ ph.completedAt?, now < completedAt + day))

instance (k : String) (t : Thread) : Decidable (t.Keyed k) :=
  inferInstanceAs (Decidable (_ ∧ _))

instance (k : String) (p : Requests) (a : PoolAction Request Env) :
    Decidable (Requests.Within k p a) := by
  cases a <;> unfold Requests.Within <;> infer_instance

instance (k : String) (p : Requests) (a : PoolAction Request Env) :
    Decidable (Requests.Orderly k p a) := by
  cases a with
  | start r => exact .isTrue trivial
  | step i env =>
    unfold Requests.Orderly
    have (t : Thread) : Decidable (match t.phase with
        | .arrived =>
          (t.request.isFinancialRoute = true ∨ env.reply = .done) ∧
            (p.shared.redis.get (p.shared.now + env.elapsed) k = none →
              ∀ j u, p.threads.get? j = some u → u.Keyed k →
                ¬ u.phase.Lapsed (p.shared.now + env.elapsed))
        | .unlocking lock =>
          env.reply.applied = true → p.shared.now + env.elapsed < lock ∨
            p.shared.redis.get (p.shared.now + env.elapsed) k = none
        | _ => True) := by
      split <;> infer_instance
    infer_instance

/-- A payment of the amount, under the key `odeme-1`. -/
def payment (body : String) : Request where
  xIdempotencyKey := some "odeme-1"
  idempotencyKey := none
  xTenantId := none
  userTenantId := some "t1"
  userId := some "u1"
  userSub := none
  method := "POST"
  originalUrl := "/api/v1/payments"
  url := "/api/v1/payments"
  body := some body

def hundred : Request := payment "\x7b\"amount\":100\x7d"

def twoHundred : Request := payment "\x7b\"amount\":200\x7d"

def sampleSha256 (text : String) : String :=
  if text = "[\"POST\",\"/api/v1/payments\",\"\x7b\\\"amount\\\":100\x7d\"]" then
    "2a433d8417d376c0ce0ce41f08e9c47ebad809f3e8d295dc9b72a6e8d83f83c4"
  else "90da2485332bc271ba2b51e2c59199399050a9817acf35e473fe3f6eb35ec982"

def sampleServer : Server where
  now := 0
  redis := { cells := fun _ => none }

def sampleKey : String := "idempotency:t1:u1:odeme-1"

def later (seconds : ℕ) : Env where
  elapsed := seconds * second
  healthy := true
  reply := .done
  outcome := some { statusCode := 201, body := "\x7b\"id\":1\x7d" }

/-- The payment is sent three times, during and after its handler, and then another
amount under the same key. -/
def repeatedPayment : List (PoolAction Request Env) :=
  [.start hundred, .step 0 (later 0), .start hundred, .step 1 (later 1), .step 1 (later 0),
    .step 0 (later 1), .step 0 (later 0), .start hundred, .step 2 (later 60), .step 2 (later 0),
    .start twoHundred, .step 3 (later 0), .step 3 (later 0)]

example :
    ((run (Requests.act sampleSha256) (Pool.idle sampleServer) repeatedPayment).threads.rows.map
      fun row => row.2.phase) =
      [.executed (some (60 * second)) (2 * second) { statusCode := 201, body := "\x7b\"id\":1\x7d" } true,
        .refused inProgress, .replayed { statusCode := 201, body := "\x7b\"id\":1\x7d" },
        .refused payloadMismatch] := by decide +kernel

theorem sample_executed_once :
    Always (Requests.act sampleSha256) (Requests.AtMostOnce sampleKey) (Pool.idle sampleServer)
      repeatedPayment := by
  have hdistinct : sampleSha256 (Json.stringify [hundred.method, hundred.fullUrl, hundred.bodyStr]) ≠
      sampleSha256
        (Json.stringify [twoHundred.method, twoHundred.fullUrl, twoHundred.bodyStr]) := by
    decide +kernel
  refine executed_at_most_once sampleSha256 sampleKey sampleServer repeatedPayment rfl
    (fun text => ?_) (fun r r' hr hr' hhash => ?_) ?_ ?_
  · unfold sampleSha256
    split_ifs <;> decide
  · simp only [repeatedPayment, List.mem_cons, PoolAction.start.injEq, reduceCtorEq, false_or,
      List.not_mem_nil, or_false, or_self_left] at hr hr'
    rcases hr with rfl | rfl <;> rcases hr' with rfl | rfl
    · rfl
    · exact absurd hhash hdistinct
    · exact absurd hhash.symm hdistinct
    · rfl
  · decide +kernel
  · decide +kernel

def slowPayment : List (PoolAction Request Env) :=
  [.start hundred, .step 0 (later 0), .start hundred, .step 1 (later 61)]

theorem slow_handler_runs_twice :
    ¬ Always (Requests.act sampleSha256) (Requests.AtMostOnce sampleKey) (Pool.idle sampleServer)
      slowPayment := by
  intro h
  have hfirst : (run (Requests.act sampleSha256) (Pool.idle sampleServer) slowPayment).threads.get? 0 =
      some { request := hundred, phase := .handling (some (60 * second)) } := by decide +kernel
  have hsecond : (run (Requests.act sampleSha256) (Pool.idle sampleServer) slowPayment).threads.get? 1 =
      some { request := hundred, phase := .handling (some (121 * second)) } := by decide +kernel
  have hkey : hundred.keyStr ≠ "" ∧ hundred.redisKey = sampleKey := by decide +kernel
  have hkeyed : ∀ ph, Thread.Keyed sampleKey { request := hundred, phase := ph } := fun _ => hkey
  exact absurd (h.last.one_in_flight 0 1 _ _ hfirst hsecond (hkeyed _) (hkeyed _) trivial trivial)
    (by decide)

end Sample

end WorksAuto.Idempotency
