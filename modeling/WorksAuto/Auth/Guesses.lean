import WorksAuto.Auth.Otp

/-! How often a code can be guessed, and how often it can be used.
As long as the calls keep out of each other's way, the counter covers every wrong
code that was compared, so a sixth one is not reached, and the code is gone once
a call has succeeded with it. -/

namespace WorksAuto.Auth.Otp

open Lib

/-- The counter covers the wrong codes and lasts as long as the code. -/
def Redis.Covers (redis : Redis) (wrong : ℕ) : Prop :=
  ∀ e, redis.code = some e → wrong = 0 ∨
    ∃ counter, redis.attempts = some counter ∧ wrong ≤ counter.value ∧
      e.expiresAt ≤ counter.expiresAt

/-- The invariant of the runs in which the calls keep out of each other's way. -/
structure System.Counted (s : System) : Prop where
  wrong : s.count Task.wrong ≤ 5
  right : s.count Task.right ≤ 1
  reader : ∀ k code attempts, s.threads.get? k = some (.readCode code attempts) → attempts < 5
  pending : ∀ k attempts, s.threads.get? k = some (.countWrong attempts) →
    s.count Task.wrong ≤ attempts + 1
  covered : s.count Task.counting = 0 → s.shared.Covers (s.count Task.wrong)
  ttl : ∀ e, s.shared.code = some e → e.expiresAt ≤ s.shared.now + 900
  unpassed : s.shared.code.isSome → s.count Task.passed = 0

section Redis

variable {redis : Redis} {env : Env}

theorem Redis.live_eq_some {α : Type} {entry : Option (Entry α)} {value : α} :
    redis.live entry = some value ↔
      ∃ e, entry = some e ∧ redis.now < e.expiresAt ∧ e.value = value := by
  cases entry with
  | none => simp [Redis.live]
  | some e =>
    simp only [Redis.live, Option.filter_some, decide_eq_true_eq, Option.some.injEq,
      exists_eq_left']
    split_ifs with h <;> simp [h]

theorem Redis.get_eq_some {α : Type} {entry : Option (Entry α)} {value : α}
    (h : redis.get env entry = some value) : redis.live entry = some value := by
  unfold Redis.get at h
  split_ifs at h
  exact h

theorem Redis.delCode_code :
    (redis.delCode env).code = redis.code ∨ (redis.delCode env).code = none := by
  unfold Redis.delCode
  split_ifs
  · exact .inr rfl
  · exact .inl rfl

@[simp] theorem Redis.delCode_attempts : (redis.delCode env).attempts = redis.attempts := by
  unfold Redis.delCode
  split_ifs <;> rfl

@[simp] theorem Redis.delCode_now : (redis.delCode env).now = redis.now := by
  unfold Redis.delCode
  split_ifs <;> rfl

theorem Redis.Covers.le {wrong : ℕ} (h : redis.Covers wrong) {code : String}
    (hcode : redis.live redis.code = some code) :
    wrong ≤ (redis.live redis.attempts).getD 0 := by
  obtain ⟨e, he, hlive, -⟩ := Redis.live_eq_some.mp hcode
  rcases h e he with rfl | ⟨counter, hcounter, hle, hlasts⟩
  · exact Nat.zero_le _
  · have hvalue : redis.live redis.attempts = some counter.value :=
      Redis.live_eq_some.mpr ⟨counter, hcounter, by omega, rfl⟩
    rw [hvalue]
    exact hle

end Redis

section Step

variable {s : System} {k : ℕ} {t : Task} {env : Env}

theorem count_right (s : System) :
    s.count Task.right = s.count Task.deleting + s.count Task.passed := by
  refine Pool.count_or Task.deleting Task.passed (fun t => ?_) s
  cases t <;> rfl

theorem shared_step (hk : s.threads.get? k = some t) (env : Env) :
    (System.act s (.step k env)).shared = (t.exec s.shared env).1 :=
  congrArg Pool.shared (Pool.act_step_some hk env)

theorem count_step (hk : s.threads.get? k = some t) (env : Env) (f : Task → Bool) :
    (System.act s (.step k env)).count f + (f t).toNat =
      s.count f + (f (t.exec s.shared env).2).toNat :=
  Pool.count_step _ _ hk env f

theorem of_get?_step (hk : s.threads.get? k = some t) {i : ℕ} {u : Task}
    (h : (System.act s (.step k env)).threads.get? i = some u) :
    u = (t.exec s.shared env).2 ∨ s.threads.get? i = some u := by
  have hthreads : (System.act s (.step k env)).threads =
      s.threads.modify k fun _ => (t.exec s.shared env).2 :=
    congrArg Pool.threads (Pool.act_step_some hk env)
  rw [hthreads] at h
  obtain ⟨old, hold, he⟩ := Table.of_get?_modify h
  split_ifs at he
  · exact .inl he.symm
  · exact .inr (he ▸ hold)

theorem System.Counted.quiet (h : s.Counted) (hk : s.threads.get? k = some t)
    (flags : ∀ f ∈ [Task.wrong, Task.right, Task.counting, Task.passed],
      f (t.exec s.shared env).2 = f t) (still : t.counting = false)
    (reader : ∀ code attempts, (t.exec s.shared env).2 = .readCode code attempts → attempts < 5)
    (code : (t.exec s.shared env).1.code = s.shared.code ∨ (t.exec s.shared env).1.code = none)
    (attempts : (t.exec s.shared env).1.attempts = s.shared.attempts)
    (now : (t.exec s.shared env).1.now = s.shared.now + env.elapsed) :
    (System.act s (.step k env)).Counted := by
  have same : ∀ f ∈ [Task.wrong, Task.right, Task.counting, Task.passed],
      (System.act s (.step k env)).count f = s.count f := by
    intro f hf
    have hcount := count_step hk env f
    rw [flags f hf] at hcount
    omega
  have hwrong := same Task.wrong (by simp)
  have old : ∀ e, (System.act s (.step k env)).shared.code = some e → s.shared.code = some e := by
    intro e he
    rw [shared_step hk] at he
    rcases code with hsame | hnone
    · rwa [← hsame]
    · rw [hnone] at he
      cases he
  refine ⟨hwrong.trans_le h.wrong, (same Task.right (by simp)).trans_le h.right, ?_, ?_, ?_, ?_, ?_⟩
  · intro i c a hi
    rcases of_get?_step hk hi with hnew | hold
    · exact reader c a hnew.symm
    · exact h.reader i c a hold
  · intro i a hi
    rw [hwrong]
    rcases of_get?_step hk hi with hnew | hold
    · have hflag := flags Task.counting (by simp)
      rw [still, ← hnew] at hflag
      cases hflag
    · exact h.pending i a hold
  · intro hzero e he
    rw [same Task.counting (by simp)] at hzero
    rw [hwrong, shared_step hk, attempts]
    exact h.covered hzero e (old e he)
  · intro e he
    rw [shared_step hk, now]
    have httl := h.ttl e (old e he)
    omega
  · intro hsome
    obtain ⟨e, he⟩ := Option.isSome_iff_exists.mp hsome
    rw [same Task.passed (by simp)]
    exact h.unpassed (Option.isSome_iff_exists.mpr ⟨e, old e he⟩)

theorem exec_readCode (code : String) (attempts : ℕ) {cachedCode : String} {redis : Redis}
    (h : (redis.elapse env.elapsed).get env redis.code = some cachedCode) :
    Task.exec redis (.readCode code attempts) env =
      (redis.elapse env.elapsed, if cachedCode ≠ code then .countWrong attempts else .deleteCode) := by
  have hget : (redis.elapse env.elapsed).get env (redis.elapse env.elapsed).code =
      some cachedCode := h
  simp only [Task.exec, hget]

theorem System.Counted.elapse_covers (h : s.Counted) (hzero : s.count Task.counting = 0) :
    (s.shared.elapse env.elapsed).Covers (s.count Task.wrong) :=
  h.covered hzero

theorem System.Counted.compareWrong (h : s.Counted) {code cachedCode : String} {attempts : ℕ}
    (hk : s.threads.get? k = some (.readCode code attempts))
    (hget : (s.shared.elapse env.elapsed).get env s.shared.code = some cachedCode)
    (hne : cachedCode ≠ code) (hzero : s.count Task.counting = 0)
    (hfresh : ((s.shared.elapse env.elapsed).live s.shared.attempts).getD 0 = attempts) :
    (System.act s (.step k env)).Counted := by
  have hexec := exec_readCode code attempts hget
  rw [if_pos hne] at hexec
  have hcount := count_step hk env
  rw [hexec] at hcount
  have hshared := shared_step hk env
  rw [hexec] at hshared
  have hlive := Redis.get_eq_some hget
  have hcovered : s.count Task.wrong ≤ attempts := by
    rw [← hfresh]
    exact (h.elapse_covers hzero).le hlive
  have hlt := h.reader k code attempts hk
  have hwrong : (System.act s (.step k env)).count Task.wrong = s.count Task.wrong + 1 :=
    hcount Task.wrong
  have hcounting : (System.act s (.step k env)).count Task.counting = s.count Task.counting + 1 :=
    hcount Task.counting
  have hright : (System.act s (.step k env)).count Task.right = s.count Task.right :=
    hcount Task.right
  have hpassed : (System.act s (.step k env)).count Task.passed = s.count Task.passed :=
    hcount Task.passed
  refine ⟨by omega, hright.trans_le h.right, ?_, ?_, fun hnone => by omega, ?_, ?_⟩
  · intro i c a hi
    rcases of_get?_step hk hi with hnew | hold
    · rw [hexec] at hnew
      cases hnew
    · exact h.reader i c a hold
  · intro i a hi
    rw [hwrong]
    rcases of_get?_step hk hi with hnew | hold
    · rw [hexec] at hnew
      cases hnew
      omega
    · cases Pool.count_eq_zero hzero hold
  · intro e he
    rw [hshared] at he ⊢
    exact (h.ttl e he).trans (Nat.add_le_add_right (Nat.le_add_right _ _) 900)
  · intro hsome
    rw [hpassed]
    rw [hshared] at hsome
    exact h.unpassed hsome

theorem System.Counted.compareRight (h : s.Counted) {code : String} {attempts : ℕ}
    (hk : s.threads.get? k = some (.readCode code attempts))
    (hget : (s.shared.elapse env.elapsed).get env s.shared.code = some code)
    (hzero : s.count Task.deleting = 0) : (System.act s (.step k env)).Counted := by
  have hexec := exec_readCode code attempts hget
  rw [if_neg (by simp)] at hexec
  have hcount := count_step hk env
  rw [hexec] at hcount
  have hshared := shared_step hk env
  rw [hexec] at hshared
  obtain ⟨e, he, -⟩ := Redis.live_eq_some.mp (Redis.get_eq_some hget)
  have hunpassed := h.unpassed (Option.isSome_iff_exists.mpr ⟨e, he⟩)
  have hsum := count_right s
  have hwrong : (System.act s (.step k env)).count Task.wrong = s.count Task.wrong :=
    hcount Task.wrong
  have hcounting : (System.act s (.step k env)).count Task.counting = s.count Task.counting :=
    hcount Task.counting
  have hright : (System.act s (.step k env)).count Task.right = s.count Task.right + 1 :=
    hcount Task.right
  have hpassed : (System.act s (.step k env)).count Task.passed = s.count Task.passed :=
    hcount Task.passed
  refine ⟨hwrong.trans_le h.wrong, by omega, ?_, ?_, fun hnone => ?_, ?_, fun _ => by omega⟩
  · intro i c a hi
    rcases of_get?_step hk hi with hnew | hold
    · rw [hexec] at hnew
      cases hnew
    · exact h.reader i c a hold
  · intro i a hi
    rw [hwrong]
    rcases of_get?_step hk hi with hnew | hold
    · rw [hexec] at hnew
      cases hnew
    · exact h.pending i a hold
  · rw [hshared, hwrong]
    exact h.elapse_covers (by omega)
  · intro e he
    rw [hshared] at he ⊢
    exact (h.ttl e he).trans (Nat.add_le_add_right (Nat.le_add_right _ _) 900)

theorem System.Counted.count (h : s.Counted) {attempts : ℕ}
    (hk : s.threads.get? k = some (.countWrong attempts)) (hreaches : env.reaches = true) :
    (System.act s (.step k env)).Counted := by
  have hwrong := count_step hk env Task.wrong
  have hright := count_step hk env Task.right
  have hpassed := count_step hk env Task.passed
  have hnext : (Task.exec s.shared (.countWrong attempts) env).2 = .invalidate ∨
      ∃ remaining, (Task.exec s.shared (.countWrong attempts) env).2 = .ended (.wrong remaining) := by
    simp only [Task.exec]
    split_ifs
    · exact .inl rfl
    · exact .inr ⟨_, rfl⟩
  have hflags : (Task.exec s.shared (.countWrong attempts) env).2.wrong = true ∧
      (Task.exec s.shared (.countWrong attempts) env).2.right = false ∧
      (Task.exec s.shared (.countWrong attempts) env).2.passed = false := by
    rcases hnext with hnext | ⟨remaining, hnext⟩ <;> rw [hnext] <;> exact ⟨rfl, rfl, rfl⟩
  obtain ⟨hw, hr, hp⟩ := hflags
  rw [hw] at hwrong
  rw [hr] at hright
  rw [hp] at hpassed
  have hshared : (System.act s (.step k env)).shared =
      { s.shared.elapse env.elapsed with
        attempts := some ⟨attempts + 1, s.shared.now + env.elapsed + 900⟩ } := by
    rw [shared_step hk]
    simp only [Task.exec, Redis.setAttempts, hreaches, if_true]
    rfl
  have hsame : (System.act s (.step k env)).count Task.wrong = s.count Task.wrong :=
    Nat.add_right_cancel hwrong
  refine ⟨hsame.trans_le h.wrong, (Nat.add_right_cancel hright).trans_le h.right, ?_, ?_, ?_, ?_, ?_⟩
  · intro i c a hi
    rcases of_get?_step hk hi with hnew | hold
    · rcases hnext with hnext | ⟨remaining, hnext⟩ <;> rw [hnext] at hnew <;> cases hnew
    · exact h.reader i c a hold
  · intro i a hi
    rw [hsame]
    rcases of_get?_step hk hi with hnew | hold
    · rcases hnext with hnext | ⟨remaining, hnext⟩ <;> rw [hnext] at hnew <;> cases hnew
    · exact h.pending i a hold
  · intro _ e he
    rw [hsame, hshared]
    rw [hshared] at he
    exact .inr ⟨_, rfl, h.pending k attempts hk,
      (h.ttl e he).trans (Nat.add_le_add_right (Nat.le_add_right _ _) 900)⟩
  · intro e he
    rw [hshared] at he ⊢
    exact (h.ttl e he).trans (Nat.add_le_add_right (Nat.le_add_right _ _) 900)
  · intro hsome
    rw [hshared] at hsome
    rw [Nat.add_right_cancel hpassed]
    exact h.unpassed hsome

theorem System.Counted.gone (h : s.Counted) (hk : s.threads.get? k = some t)
    (flags : ∀ f ∈ [Task.wrong, Task.right], f (t.exec s.shared env).2 = f t)
    (reader : ∀ code attempts, (t.exec s.shared env).2 ≠ .readCode code attempts)
    (pending : ∀ attempts, (t.exec s.shared env).2 ≠ .countWrong attempts)
    (code : (t.exec s.shared env).1.code = none) : (System.act s (.step k env)).Counted := by
  have same : ∀ f ∈ [Task.wrong, Task.right],
      (System.act s (.step k env)).count f = s.count f := by
    intro f hf
    have hcount := count_step hk env f
    rw [flags f hf] at hcount
    omega
  have hcode : (System.act s (.step k env)).shared.code = none := by rw [shared_step hk, code]
  refine ⟨(same Task.wrong (by simp)).trans_le h.wrong, (same Task.right (by simp)).trans_le h.right,
    ?_, ?_, ?_, ?_, ?_⟩
  · intro i c a hi
    rcases of_get?_step hk hi with hnew | hold
    · exact absurd hnew.symm (reader c a)
    · exact h.reader i c a hold
  · intro i a hi
    rw [same Task.wrong (by simp)]
    rcases of_get?_step hk hi with hnew | hold
    · exact absurd hnew.symm (pending a)
    · exact h.pending i a hold
  · intro _ e he
    rw [hcode] at he
    cases he
  · intro e he
    rw [hcode] at he
    cases he
  · intro hsome
    rw [hcode] at hsome
    cases hsome

theorem System.Counted.step (h : s.Counted) (hk : s.threads.get? k = some t)
    (horderly : t.Orderly s env) : (System.act s (.step k env)).Counted := by
  cases t with
  | readAttempts code =>
    refine h.quiet hk ?_ rfl ?_ (.inl rfl) rfl rfl
    · intro f hf
      simp only [List.mem_cons, List.not_mem_nil, or_false] at hf
      simp only [Task.exec]
      rcases hf with rfl | rfl | rfl | rfl <;> split_ifs <;> rfl
    · intro c a hnext
      simp only [Task.exec] at hnext
      split_ifs at hnext with hfive
      cases hnext
      omega
  | block =>
    exact h.quiet hk (by simp [Task.exec, Task.wrong, Task.right, Task.counting, Task.passed,
      Task.deleting]) rfl (by simp [Task.exec]) Redis.delCode_code Redis.delCode_attempts
      Redis.delCode_now
  | readCode code attempts =>
    cases hget : (s.shared.elapse env.elapsed).get env s.shared.code with
    | none =>
      have hexec : Task.exec s.shared (.readCode code attempts) env =
          (s.shared.elapse env.elapsed, .ended .expired) := by
        have hget' : (s.shared.elapse env.elapsed).get env (s.shared.elapse env.elapsed).code =
            none := hget
        simp only [Task.exec, hget']
      refine h.quiet hk ?_ rfl ?_ (.inl (by rw [hexec]; rfl)) (by rw [hexec]; rfl)
        (by rw [hexec]; rfl)
      · rw [hexec]
        simp [Task.wrong, Task.right, Task.counting, Task.passed, Task.deleting]
      · rw [hexec]
        simp
    | some cachedCode =>
      have hturn := horderly cachedCode hget
      by_cases hright : cachedCode = code
      · subst hright
        rw [if_pos rfl] at hturn
        exact h.compareRight hk hget hturn
      · rw [if_neg hright] at hturn
        exact h.compareWrong hk hget hright hturn.1 hturn.2
  | countWrong attempts => exact h.count hk horderly
  | invalidate =>
    exact h.quiet hk (by simp [Task.exec, Task.wrong, Task.right, Task.counting, Task.passed,
      Task.deleting]) rfl (by simp [Task.exec]) Redis.delCode_code Redis.delCode_attempts
      Redis.delCode_now
  | deleteCode =>
    have hreaches : env.reaches = true := horderly
    exact h.gone hk (by simp [Task.exec, Task.wrong, Task.right, Task.passed, Task.deleting])
      (by simp [Task.exec]) (by simp [Task.exec]) (by simp [Task.exec, Redis.delCode, hreaches])
  | deleteAttempts =>
    have hcode : s.shared.code = none := by
      cases hc : s.shared.code with
      | none => rfl
      | some e => cases Pool.count_eq_zero (h.unpassed (by rw [hc]; rfl)) hk
    refine h.gone hk (by simp [Task.exec, Task.wrong, Task.right, Task.passed, Task.deleting])
      (by simp [Task.exec]) (by simp [Task.exec]) ?_
    simp only [Task.exec, Redis.delAttempts]
    split_ifs <;> exact hcode
  | ended answer =>
    exact h.quiet hk (by simp [Task.exec]) rfl (by simp [Task.exec]) (.inl rfl) rfl rfl

theorem System.Counted.act (h : s.Counted) {a : PoolAction String Env} (horderly : s.Orderly a) :
    (System.act s a).Counted := by
  cases a with
  | start code =>
    have same : ∀ f : Task → Bool, f (.readAttempts code) = false →
        (System.act s (.start code)).count f = s.count f := fun f hf => Pool.count_start hf s
    have old : ∀ {i : ℕ} {u : Task}, (System.act s (.start code)).threads.get? i = some u →
        u = .readAttempts code ∨ s.threads.get? i = some u := by
      intro i u hu
      rw [System.act, Pool.act_start, Table.get?_insert] at hu
      split_ifs at hu
      · exact .inl (Option.some.inj hu).symm
      · exact .inr hu
    refine ⟨(same Task.wrong rfl).trans_le h.wrong, (same Task.right rfl).trans_le h.right,
      ?_, ?_, ?_, h.ttl, ?_⟩
    · intro i c a hi
      rcases old hi with hnew | hold
      · cases hnew
      · exact h.reader i c a hold
    · intro i a hi
      rw [same Task.wrong rfl]
      rcases old hi with hnew | hold
      · cases hnew
      · exact h.pending i a hold
    · rw [same Task.counting rfl, same Task.wrong rfl]
      exact h.covered
    · rw [same Task.passed rfl]
      exact h.unpassed
  | step k env =>
    cases hk : s.threads.get? k with
    | none =>
      rw [System.act, Pool.act_step_none hk]
      exact h
    | some t => exact h.step hk (horderly t hk)

end Step

theorem counted_sendOtp (redis : Redis) (otpCode : String) :
    System.Counted (Pool.idle (redis.sendOtp otpCode)) := by
  refine ⟨Nat.zero_le _, Nat.zero_le _, ?_, ?_, fun _ _ _ => .inl rfl, ?_, fun _ => rfl⟩
  · intro k code a hk
    cases hk
  · intro k a hk
    cases hk
  · intro e he
    cases he
    simp [Pool.idle, Redis.sendOtp, Redis.setCode]

/-- From the moment a code is sent, in every run of calls that keep out of each other's way, at
most five wrong codes are compared with it and at most one call succeeds. -/
theorem always_guarded {redis : Redis} {otpCode : String} {calls : List (PoolAction String Env)}
    (h : EachStep System.act System.Orderly (Pool.idle (redis.sendOtp otpCode)) calls) :
    Always System.act System.Guarded (Pool.idle (redis.sendOtp otpCode)) calls := by
  have keep : ∀ (s : System) a, s.Counted → s.Orderly a → (System.act s a).Counted :=
    fun s a hs ha => hs.act ha
  have good : ∀ s : System, s.Counted → s.Guarded := fun s hs => ⟨hs.wrong, hs.right⟩
  exact (always_of_step keep (counted_sendOtp redis otpCode) h).mono good

section Example

def freshRedis : Redis where
  now := 0
  code := none
  attempts := none

def atOnce : Env where
  elapsed := 0
  reaches := true

/-- `count` calls with one code, each after the other. -/
def oneByOne (code : String) (steps : ℕ) (threads : List ℕ) : List (PoolAction String Env) :=
  threads.flatMap fun k => .start code :: List.replicate steps (.step k atOnce)

/-- The same calls, the first steps of all before the next step of any. -/
def inParallel (code : String) (steps : ℕ) (threads : List ℕ) : List (PoolAction String Env) :=
  threads.map (fun _ => .start code) ++
    (List.replicate steps (threads.map fun k => .step k atOnce)).flatten

theorem always_guarded_oneByOne :
    Always System.act System.Guarded (Pool.idle (freshRedis.sendOtp "123456"))
      (oneByOne "000000" 4 [0, 1, 2, 3, 4, 5, 6] ++ oneByOne "123456" 4 [7]) :=
  always_guarded (by decide +kernel)

/-- Six calls in parallel read one counter and compare six wrong codes; two with the right code
both succeed. -/
theorem parallel_guesses :
    ¬ (∀ calls, Always System.act System.Guarded (Pool.idle (freshRedis.sendOtp "123456")) calls) ∧
      ¬ (Pool.count Task.wrong (run System.act (Pool.idle (freshRedis.sendOtp "123456"))
        (inParallel "000000" 2 [0, 1, 2, 3, 4, 5])) ≤ 5) ∧
      ¬ (Pool.count Task.right (run System.act (Pool.idle (freshRedis.sendOtp "123456"))
        (inParallel "123456" 4 [0, 1])) ≤ 1) := by
  have hsix : ¬ (Pool.count Task.wrong (run System.act (Pool.idle (freshRedis.sendOtp "123456"))
      (inParallel "000000" 2 [0, 1, 2, 3, 4, 5])) ≤ 5) := by decide +kernel
  exact ⟨fun h => hsix (h (inParallel "000000" 2 [0, 1, 2, 3, 4, 5])).last.wrong, hsix,
    by decide +kernel⟩

end Example

end WorksAuto.Auth.Otp
