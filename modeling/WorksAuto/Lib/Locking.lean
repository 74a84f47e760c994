import WorksAuto.Lib.Pool
import WorksAuto.Lib.Run

/-! Threads that hold locks.
The shared state says which locks are taken. A thread takes a lock only while it
is free and gives back only its own, so a lock is held by one thread at a time.
What a thread relies on has to survive the steps of the threads it shares no lock
with, and of no others. -/

namespace WorksAuto.Lib.Pool

universe u v w x y

variable {σ : Type u} {τ : Type v} {ρ : Type w} {κ : Type x} {α : Type y}

structure Disciplined (taken : σ → α → Prop) (holds : τ → α → Prop) (enter : ρ → τ)
    (exec : σ → τ → κ → σ × τ) : Prop where
  starts : ∀ r a, ¬ holds (enter r) a
  registers : ∀ s t c, (∀ a, holds t a → taken s a) →
    ∀ a, holds (exec s t c).2 a → taken (exec s t c).1 a
  acquires : ∀ s t c a, holds (exec s t c).2 a → holds t a ∨ ¬ taken s a
  releases : ∀ s t c a, taken s a → taken (exec s t c).1 a ∨ holds t a

/-- The locks that threads hold are taken, and none is held by two of them. -/
structure Exclusive (taken : σ → α → Prop) (holds : τ → α → Prop) (p : Pool σ τ) : Prop where
  registered : ∀ k t, p.threads.get? k = some t → ∀ a, holds t a → taken p.shared a
  once : ∀ j k t u a, p.threads.get? j = some t → p.threads.get? k = some u →
    holds t a → holds u a → j = k

section Exclusion

variable {taken : σ → α → Prop} {holds : τ → α → Prop} {enter : ρ → τ}
  {exec : σ → τ → κ → σ × τ} {p : Pool σ τ}

theorem exclusive_idle (s : σ) : Exclusive taken holds (idle s : Pool σ τ) where
  registered := by
    intro k t ht
    cases ht
  once := by
    intro j k t u a ht
    cases ht

theorem Exclusive.start (h : Exclusive taken holds p) (hd : Disciplined taken holds enter exec)
    (r : ρ) : Exclusive taken holds (act enter exec p (.start r : PoolAction ρ κ)) := by
  rw [act_start]
  have hold : ∀ k t a, (p.threads.insert (enter r)).get? k = some t → holds t a →
      p.threads.get? k = some t := by
    intro k t a ht ha
    rw [Table.get?_insert] at ht
    split_ifs at ht with hk
    · cases ht
      exact absurd ha (hd.starts r a)
    · exact ht
  refine ⟨fun k t ht a ha => h.registered k t (hold k t a ht ha) a ha, ?_⟩
  intro j k t u a ht hu hta hua
  exact h.once j k t u a (hold j t a ht hta) (hold k u a hu hua) hta hua

theorem Exclusive.step (h : Exclusive taken holds p) (hd : Disciplined taken holds enter exec)
    (k : ℕ) (c : κ) : Exclusive taken holds (act enter exec p (.step k c)) := by
  cases hk : p.threads.get? k with
  | none =>
    rw [act_step_none hk]
    exact h
  | some t =>
    rw [act_step_some hk]
    have hfree : ∀ j v a, j ≠ k → p.threads.get? j = some v → holds v a →
        ¬ holds (exec p.shared t c).2 a := by
      intro j v a hne hv hva hnew
      rcases hd.acquires _ _ _ _ hnew with hta | hnot
      · exact hne (h.once j k v t a hv hk hva hta)
      · exact hnot (h.registered j v hv a hva)
    refine ⟨?_, ?_⟩
    · intro j v hv a hva
      by_cases hj : j = k
      · subst hj
        rw [Table.get?_modify_self hk] at hv
        cases hv
        exact hd.registers _ _ _ (h.registered j t hk) a hva
      · rw [Table.get?_modify_ne _ hj] at hv
        rcases hd.releases p.shared t c a (h.registered j v hv a hva) with hstill | hta
        · exact hstill
        · exact absurd (h.once j k v t a hv hk hva hta) hj
    · intro i j v v' a hv hv' hva hva'
      by_cases hi : i = k
      · by_cases hj : j = k
        · exact hi.trans hj.symm
        · subst hi
          rw [Table.get?_modify_self hk] at hv
          rw [Table.get?_modify_ne _ hj] at hv'
          cases hv
          exact absurd hva (hfree j v' a hj hv' hva')
      · rw [Table.get?_modify_ne _ hi] at hv
        by_cases hj : j = k
        · subst hj
          rw [Table.get?_modify_self hk] at hv'
          cases hv'
          exact absurd hva' (hfree i v a hi hv hva)
        · rw [Table.get?_modify_ne _ hj] at hv'
          exact h.once i j v v' a hv hv' hva hva'

theorem Holds.step_exclusive {I : σ → Prop} {T : σ → τ → Prop} (h : Holds I T p)
    (he : Exclusive taken holds p) {k : ℕ} {c : κ}
    (keep : ∀ t, p.threads.get? k = some t →
      I (exec p.shared t c).1 ∧ T (exec p.shared t c).1 (exec p.shared t c).2 ∧
        ∀ u, (∀ a, holds t a → ¬ holds u a) → T p.shared u → T (exec p.shared t c).1 u) :
    Holds I T (act enter exec p (.step k c)) := by
  cases hk : p.threads.get? k with
  | none =>
    rw [act_step_none hk]
    exact h
  | some t =>
    obtain ⟨hI, hT, hother⟩ := keep t hk
    rw [act_step_some hk]
    refine ⟨hI, fun j u hu => ?_⟩
    by_cases hj : j = k
    · subst hj
      rw [Table.get?_modify_self hk] at hu
      cases hu
      exact hT
    · rw [Table.get?_modify_ne _ hj] at hu
      refine hother u (fun a hta hua => ?_) (h.2 j u hu)
      exact hj (he.once j k u t a hu hk hua hta)

/-- Threads that are disciplined keep an invariant in every interleaving when each part
keeps it, with what its own thread and those it shares no lock with rely on. -/
theorem always_holds_of_locks {I : σ → Prop} {T : σ → τ → Prop}
    (hd : Disciplined taken holds enter exec) (start : ∀ s r, I s → T s (enter r))
    (keep : ∀ s t c, I s → T s t →
      I (exec s t c).1 ∧ T (exec s t c).1 (exec s t c).2 ∧
        ∀ u, (∀ a, holds t a → ¬ holds u a) → T s u → T (exec s t c).1 u)
    {s : σ} (hs : I s) (actions : List (PoolAction ρ κ)) :
    Always (act enter exec) (Holds I T) (idle s) actions := by
  have hrun : Always (act enter exec) (fun p => Exclusive taken holds p ∧ Holds I T p) (idle s)
      actions := by
    refine always_of_invariant ?_ ⟨exclusive_idle s, holds_idle hs⟩ actions
    rintro p (r | ⟨k, c⟩) ⟨he, hp⟩
    · exact ⟨he.start hd r, hp.start (start p.shared r hp.1)⟩
    · exact ⟨he.step hd k c,
        hp.step_exclusive he fun t ht => keep p.shared t c hp.1 (hp.2 k t ht)⟩
  exact hrun.mono fun _ h => h.2

end Exclusion

end WorksAuto.Lib.Pool
