import Mathlib.Data.List.Forall2
import WorksAuto.Lib.Pool
import WorksAuto.Lib.Run

/-! Two runs in lockstep.
A relation between the states of two machines that related labels keep holds
after related runs. For pools it is enough to relate what the two shared states
hold, what threads of one number are about to do, and one step of each. -/

namespace WorksAuto.Lib

universe u v w x

section Runs

variable {σ σ' : Type u} {ℓ ℓ' : Type v}

theorem run_related {step : σ → ℓ → σ} {step' : σ' → ℓ' → σ'} {R : σ → σ' → Prop}
    {L : ℓ → ℓ' → Prop} (keep : ∀ s s' l l', R s s' → L l l' → R (step s l) (step' s' l'))
    {ls : List ℓ} {ls' : List ℓ'} (hls : List.Forall₂ L ls ls') {s : σ} {s' : σ'}
    (hs : R s s') : R (run step s ls) (run step' s' ls') := by
  induction hls generalizing s s' with
  | nil => exact hs
  | cons hl _ ih => exact ih (keep _ _ _ _ hs hl)

end Runs

section Options

variable {α β γ δ : Type u} {r : α → β → Prop}

theorem rel_orElse {a b : Option α} {a' b' : Option β} (ha : Option.Rel r a a')
    (hb : Option.Rel r b b') : Option.Rel r (a <|> b) (a' <|> b') := by
  cases ha with
  | none => exact hb
  | some h => exact .some h

theorem rel_isNone {a : Option α} {b : Option β} (h : Option.Rel r a b) :
    a.isNone = b.isNone := by
  cases h with
  | none => rfl
  | some => rfl

theorem rel_map {q : γ → δ → Prop} {f : α → γ} {g : β → δ} {a : Option α} {b : Option β}
    (h : Option.Rel r a b) (hfg : ∀ x y, r x y → q (f x) (g y)) :
    Option.Rel q (a.map f) (b.map g) := by
  cases h with
  | none => exact .none
  | some h => exact .some (hfg _ _ h)

end Options

variable {σ σ' : Type u} {τ τ' : Type v} {ρ ρ' : Type w} {κ κ' : Type x}

/-- Two actions of one shape on related requests or with related choices. -/
inductive PoolAction.Related (Q : ρ → ρ' → Prop) (C : κ → κ' → Prop) :
    PoolAction ρ κ → PoolAction ρ' κ' → Prop
  | start {r : ρ} {r' : ρ'} (h : Q r r') : Related Q C (.start r) (.start r')
  | step (k : ℕ) {c : κ} {c' : κ'} (h : C c c') : Related Q C (.step k c) (.step k c')

namespace Pool

/-- Related shared states, and threads that are related number by number. -/
structure Related (S : σ → σ' → Prop) (T : τ → τ' → Prop) (p : Pool σ τ) (q : Pool σ' τ') :
    Prop where
  shared : S p.shared q.shared
  next : p.threads.next = q.threads.next
  threads : ∀ k, Option.Rel T (p.threads.get? k) (q.threads.get? k)

theorem related_idle {S : σ → σ' → Prop} (T : τ → τ' → Prop) {s : σ} {s' : σ'} (h : S s s') :
    Related S T (idle s) (idle s') where
  shared := h
  next := rfl
  threads _ := .none

section Step

variable {S : σ → σ' → Prop} {T : τ → τ' → Prop} {Q : ρ → ρ' → Prop} {C : κ → κ' → Prop}
  {enter : ρ → τ} {enter' : ρ' → τ'} {exec : σ → τ → κ → σ × τ} {exec' : σ' → τ' → κ' → σ' × τ'}

theorem Related.act {p : Pool σ τ} {q : Pool σ' τ'} (h : Related S T p q)
    (enters : ∀ r r', Q r r' → T (enter r) (enter' r'))
    (execs : ∀ s s' t t' c c', S s s' → T t t' → C c c' →
      S (exec s t c).1 (exec' s' t' c').1 ∧ T (exec s t c).2 (exec' s' t' c').2)
    {a : PoolAction ρ κ} {a' : PoolAction ρ' κ'} (ha : PoolAction.Related Q C a a') :
    Related S T (Pool.act enter exec p a) (Pool.act enter' exec' q a') := by
  cases ha with
  | start hr =>
    refine ⟨h.shared, congrArg (· + 1) h.next, fun i => ?_⟩
    simp only [act_start, Table.get?_insert, h.next]
    split
    · exact .some (enters _ _ hr)
    · exact h.threads i
  | step k hc =>
    have hk := h.threads k
    cases ht : p.threads.get? k with
    | none =>
      have hnone : q.threads.get? k = none := by
        rw [ht] at hk
        generalize q.threads.get? k = other at hk
        cases hk
        rfl
      rwa [act_step_none ht, act_step_none hnone]
    | some t =>
      obtain ⟨t', ht', hrel⟩ : ∃ t', q.threads.get? k = some t' ∧ T t t' := by
        rw [ht] at hk
        generalize q.threads.get? k = other at hk
        cases hk with
        | some hrel => exact ⟨_, rfl, hrel⟩
      obtain ⟨hshared, hthread⟩ := execs _ _ _ _ _ _ h.shared hrel hc
      rw [act_step_some ht, act_step_some ht']
      refine ⟨hshared, by simpa using h.next, fun i => ?_⟩
      simp only [Table.get?_modify]
      split
      next heq =>
        subst heq
        rw [ht, ht']
        exact .some hthread
      next =>
        rw [Option.map_id', Option.map_id']
        exact h.threads i

theorem related_run {s : σ} {s' : σ'} (hs : S s s')
    (enters : ∀ r r', Q r r' → T (enter r) (enter' r'))
    (execs : ∀ s s' t t' c c', S s s' → T t t' → C c c' →
      S (exec s t c).1 (exec' s' t' c').1 ∧ T (exec s t c).2 (exec' s' t' c').2)
    {ls : List (PoolAction ρ κ)} {ls' : List (PoolAction ρ' κ')}
    (hls : List.Forall₂ (PoolAction.Related Q C) ls ls') :
    Related S T (run (Pool.act enter exec) (idle s) ls)
      (run (Pool.act enter' exec') (idle s') ls') :=
  run_related (fun _ _ _ _ h ha => h.act enters execs ha) hls (related_idle T hs)

end Step

end Pool

end WorksAuto.Lib
