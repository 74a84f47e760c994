import WorksAuto.Lib.Table

/-! Interleavings of requests over a shared state.
A request is a thread; starting it adds it to the pool, and a step runs the
next atomic part of one thread. Every interleaving of any number of requests
is a run of `Pool.act`. -/

namespace WorksAuto.Lib

universe u v w x

structure Pool (σ : Type u) (τ : Type v) where
  shared : σ
  threads : Table τ

inductive PoolAction (ρ : Type u) (κ : Type v) where
  | start (request : ρ)
  | step (thread : ℕ) (choice : κ)

namespace Pool

variable {σ : Type u} {τ : Type v} {ρ : Type w} {κ : Type x}

def act (enter : ρ → τ) (exec : σ → τ → κ → σ × τ) (p : Pool σ τ) :
    PoolAction ρ κ → Pool σ τ
  | .start r => { p with threads := p.threads.insert (enter r) }
  | .step k c =>
    match p.threads.get? k with
    | none => p
    | some t =>
      { shared := (exec p.shared t c).1
        threads := p.threads.modify k fun _ => (exec p.shared t c).2 }

def idle (s : σ) : Pool σ τ where
  shared := s
  threads := .empty

/-- No thread but `k` passes the test. -/
def Alone (q : τ → Prop) (p : Pool σ τ) (k : ℕ) : Prop :=
  ∀ i t, p.threads.get? i = some t → i ≠ k → ¬ q t

instance (q : τ → Prop) [DecidablePred q] (p : Pool σ τ) (k : ℕ) : Decidable (Alone q p k) := by
  unfold Alone
  infer_instance

/-- An invariant of the shared state together with one that every thread meets. -/
def Holds (I : σ → Prop) (T : σ → τ → Prop) (p : Pool σ τ) : Prop :=
  I p.shared ∧ ∀ k t, p.threads.get? k = some t → T p.shared t

section Rules

variable {enter : ρ → τ} {exec : σ → τ → κ → σ × τ}

@[simp] theorem act_start (p : Pool σ τ) (r : ρ) :
    act enter exec p (.start r : PoolAction ρ κ) =
      { p with threads := p.threads.insert (enter r) } := rfl

theorem act_step_none {p : Pool σ τ} {k : ℕ} (h : p.threads.get? k = none) (c : κ) :
    act enter exec p (.step k c) = p := by
  simp only [act, h]

theorem act_step_some {p : Pool σ τ} {k : ℕ} {t : τ} (h : p.threads.get? k = some t) (c : κ) :
    act enter exec p (.step k c) =
      { shared := (exec p.shared t c).1
        threads := p.threads.modify k fun _ => (exec p.shared t c).2 } := by
  simp only [act, h]

theorem shared_act (enter : ρ → τ) (exec : σ → τ → κ → σ × τ) (p : Pool σ τ)
    (a : PoolAction ρ κ) :
    (act enter exec p a).shared = p.shared ∨ ∃ k c t, a = .step k c ∧
      p.threads.get? k = some t ∧ (act enter exec p a).shared = (exec p.shared t c).1 := by
  cases a with
  | start r => exact .inl rfl
  | step k c =>
    cases hk : p.threads.get? k with
    | none => exact .inl (congrArg Pool.shared (act_step_none hk c))
    | some t => exact .inr ⟨k, c, t, rfl, hk, congrArg Pool.shared (act_step_some hk c)⟩

theorem sumBy_step {M : Type*} [AddCommMonoid M] (enter : ρ → τ) (exec : σ → τ → κ → σ × τ)
    {p : Pool σ τ} {k : ℕ} {t : τ} (h : p.threads.get? k = some t) (c : κ) (f : τ → M) :
    (act enter exec p (.step k c)).threads.sumBy f + f t =
      p.threads.sumBy f + f (exec p.shared t c).2 := by
  rw [act_step_some h]
  exact Table.sumBy_modify h _ f

theorem holds_idle {I : σ → Prop} {T : σ → τ → Prop} {s : σ} (h : I s) :
    Holds I T (idle s : Pool σ τ) := by
  refine ⟨h, fun k t ht => ?_⟩
  simp [idle] at ht

theorem Holds.start {I : σ → Prop} {T : σ → τ → Prop} {p : Pool σ τ} (h : Holds I T p)
    {r : ρ} (hr : T p.shared (enter r)) :
    Holds I T (act enter exec p (.start r : PoolAction ρ κ)) := by
  refine ⟨h.1, fun k t ht => ?_⟩
  rw [act_start] at ht
  rw [Table.get?_insert] at ht
  split_ifs at ht with hk
  · cases ht
    exact hr
  · exact h.2 k t ht

/-- What a step of one thread establishes: the shared part, the thread's own part, and the
part of every other thread of the pool. -/
theorem holds_step {I : σ → Prop} {T : σ → τ → Prop} {p : Pool σ τ} {k : ℕ} {t : τ}
    (hk : p.threads.get? k = some t) {c : κ} (hI : I (exec p.shared t c).1)
    (hT : T (exec p.shared t c).1 (exec p.shared t c).2)
    (hother : ∀ i u, p.threads.get? i = some u → i ≠ k → T (exec p.shared t c).1 u) :
    Holds I T (act enter exec p (.step k c)) := by
  rw [act_step_some hk]
  refine ⟨hI, fun i u hu => ?_⟩
  rw [Table.get?_modify] at hu
  obtain ⟨v, hv, rfl⟩ := Option.map_eq_some_iff.mp hu
  split_ifs with hi
  · exact hT
  · exact hother i v hv hi

/-- A step of one thread keeps the invariant when it keeps the shared part, the
thread's own part, and the part of every other thread of the pool. -/
theorem Holds.step_among {I : σ → Prop} {T : σ → τ → Prop} {p : Pool σ τ} (h : Holds I T p)
    {k : ℕ} {c : κ}
    (keep : ∀ t, p.threads.get? k = some t →
      I (exec p.shared t c).1 ∧ T (exec p.shared t c).1 (exec p.shared t c).2 ∧
        ∀ i u, p.threads.get? i = some u → i ≠ k → T (exec p.shared t c).1 u) :
    Holds I T (act enter exec p (.step k c)) := by
  cases hk : p.threads.get? k with
  | none =>
    rw [act_step_none hk]
    exact h
  | some t =>
    obtain ⟨hI, hT, hother⟩ := keep t hk
    exact holds_step hk hI hT hother

theorem Holds.step {I : σ → Prop} {T : σ → τ → Prop} {p : Pool σ τ} (h : Holds I T p)
    {k : ℕ} {c : κ}
    (keep : ∀ t, p.threads.get? k = some t →
      I (exec p.shared t c).1 ∧ T (exec p.shared t c).1 (exec p.shared t c).2 ∧
        ∀ u, T p.shared u → T (exec p.shared t c).1 u) :
    Holds I T (act enter exec p (.step k c)) := by
  refine h.step_among fun t ht => ?_
  obtain ⟨hI, hT, hother⟩ := keep t ht
  exact ⟨hI, hT, fun i u hu _ => hother u (h.2 i u hu)⟩

def count (f : τ → Bool) (p : Pool σ τ) : ℕ := p.threads.sumBy fun t => (f t).toNat

@[simp] theorem count_idle (f : τ → Bool) (s : σ) : count f (idle s : Pool σ τ) = 0 := rfl

theorem count_start {f : τ → Bool} {r : ρ} (h : f (enter r) = false) (p : Pool σ τ) :
    count f (act enter exec p (.start r : PoolAction ρ κ)) = count f p := by
  rw [act_start, count, Table.sumBy_insert, h]
  rfl

theorem count_step (enter : ρ → τ) (exec : σ → τ → κ → σ × τ) {p : Pool σ τ} {k : ℕ} {t : τ}
    (h : p.threads.get? k = some t) (c : κ) (f : τ → Bool) :
    count f (act enter exec p (.step k c)) + (f t).toNat =
      count f p + (f (exec p.shared t c).2).toNat :=
  sumBy_step enter exec h c fun t => (f t).toNat

theorem count_eq_zero {f : τ → Bool} {p : Pool σ τ} (h : count f p = 0) {k : ℕ} {t : τ}
    (ht : p.threads.get? k = some t) : f t = false := by
  have hsum := Table.sumBy_erase ht fun t => (f t).toNat
  rw [count] at h
  cases hf : f t with
  | false => rfl
  | true =>
    simp only [hf, Bool.toNat_true] at hsum
    omega

theorem count_or (f g : τ → Bool) (h : ∀ t, (f t && g t) = false) (p : Pool σ τ) :
    count (fun t => f t || g t) p = count f p + count g p := by
  unfold count
  rw [← Table.sumBy_add]
  apply Table.sumBy_congr
  intro k t _
  have ht := h t
  cases hf : f t <;> cases hg : g t <;> simp_all

/-- A quantity of the shared state together with what the threads hold of it. -/
def total (m : σ → ℕ) (f : τ → ℕ) (p : Pool σ τ) : ℕ := m p.shared + p.threads.sumBy f

theorem total_start {m : σ → ℕ} {f : τ → ℕ} {r : ρ} (h : f (enter r) = 0) (p : Pool σ τ) :
    total m f (act enter exec p (.start r : PoolAction ρ κ)) = total m f p := by
  rw [act_start, total, Table.sumBy_insert, h, add_zero]
  rfl

theorem total_step_le (enter : ρ → τ) (exec : σ → τ → κ → σ × τ) (m : σ → ℕ) (f : τ → ℕ)
    {p : Pool σ τ} {k : ℕ} {c : κ} {d : ℕ}
    (h : ∀ t, p.threads.get? k = some t →
      m (exec p.shared t c).1 + f (exec p.shared t c).2 ≤ m p.shared + f t + d) :
    total m f (act enter exec p (.step k c)) ≤ total m f p + d := by
  cases hk : p.threads.get? k with
  | none =>
    rw [act_step_none hk]
    exact Nat.le_add_right _ _
  | some t =>
    have hstep := h t hk
    have hsum := sumBy_step enter exec hk c f
    have hshared : (act enter exec p (.step k c)).shared = (exec p.shared t c).1 := by
      rw [act_step_some hk]
    unfold total
    rw [hshared]
    omega

end Rules

end Pool

end WorksAuto.Lib
