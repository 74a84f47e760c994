import Mathlib.Algebra.BigOperators.Group.List.Basic
import Mathlib.Algebra.GroupWithZero.Nat
import Mathlib.Algebra.Order.Monoid.Canonical.Defs
import WorksAuto.Lib.Run

/-! What a run counts.
An attempt is a piece of work that may fail; what it has counted by then stays counted.
Along a run, what is counted is the sum over the steps, so a count is right precisely when
the steps that are to be left out of it have counted nothing. -/

namespace WorksAuto.Lib

universe u v w

structure Attempt (ε : Type u) (κ : Type v) (α : Type w) where
  outcome : Except ε α
  tally : κ

namespace Attempt

variable {ε : Type u} {κ : Type v} {α β : Type w}

def andThen [Add κ] (x : Attempt ε κ α) (f : α → Attempt ε κ β) : Attempt ε κ β :=
  match x.outcome with
  | .error e => ⟨.error e, x.tally⟩
  | .ok a => ⟨(f a).outcome, x.tally + (f a).tally⟩

instance [AddMonoid κ] : Monad (Attempt ε κ) where
  pure a := ⟨.ok a, 0⟩
  bind := andThen

def of [Zero κ] (x : Except ε α) : Attempt ε κ α := ⟨x, 0⟩

def count (k : κ) : Attempt ε κ PUnit.{w + 1} := ⟨.ok .unit, k⟩

variable [AddMonoid κ]

@[simp] theorem outcome_pure (a : α) : (pure a : Attempt ε κ α).outcome = .ok a := rfl

@[simp] theorem tally_pure (a : α) : (pure a : Attempt ε κ α).tally = 0 := rfl

@[simp] theorem bind_of_ok (a : α) (f : α → Attempt ε κ β) :
    ((of (.ok a) : Attempt ε κ α) >>= f) = f a := by
  change Attempt.mk (f a).outcome (0 + (f a).tally) = f a
  rw [zero_add]

@[simp] theorem bind_of_error (e : ε) (f : α → Attempt ε κ β) :
    ((of (.error e) : Attempt ε κ α) >>= f) = of (.error e) := rfl

@[simp] theorem bind_count (k : κ) (f : PUnit.{w + 1} → Attempt ε κ β) :
    ((count k : Attempt ε κ PUnit.{w + 1}) >>= f) = ⟨(f .unit).outcome, k + (f .unit).tally⟩ := rfl

theorem count_of_count (k : κ) (x : Except ε α) (f : α → κ) (g : α → β) :
    (do
      count k
      let a ← of x
      count (f a)
      pure (g a) : Attempt ε κ β) = ⟨x.map g, k + (x.toOption.map f).getD 0⟩ := by
  cases x with
  | error e => rfl
  | ok a =>
    simp only [bind_of_ok, bind_count, tally_pure, outcome_pure, add_zero]
    rfl

theorem bind_ok {x : Attempt ε κ α} {a : α} (h : x.outcome = .ok a) (f : α → Attempt ε κ β) :
    x >>= f = ⟨(f a).outcome, x.tally + (f a).tally⟩ := by
  change x.andThen f = _
  rw [andThen, h]

theorem bind_error {x : Attempt ε κ α} {e : ε} (h : x.outcome = .error e)
    (f : α → Attempt ε κ β) : x >>= f = ⟨.error e, x.tally⟩ := by
  change x.andThen f = _
  rw [andThen, h]

end Attempt

section Sums

variable {σ : Type u} {ℓ : Type v} {M : Type w} {step : σ → ℓ → σ}

def sumAlong [Add M] [Zero M] (step : σ → ℓ → σ) (f : σ → ℓ → M) (s : σ) : List ℓ → M
  | [] => 0
  | l :: ls => f s l + sumAlong step f (step s l) ls

theorem measure_run [AddMonoid M] {m : σ → M} {f : σ → ℓ → M}
    (h : ∀ s l, m (step s l) = m s + f s l) (s : σ) (ls : List ℓ) :
    m (run step s ls) = m s + sumAlong step f s ls := by
  induction ls generalizing s with
  | nil => exact (add_zero _).symm
  | cons l ls ih => rw [run_cons, ih, h, sumAlong, add_assoc]

theorem measure_run_of_invariant [AddMonoid M] {I : σ → Prop} {m : σ → M} {f : σ → ℓ → M}
    (keep : ∀ s l, I s → I (step s l)) (h : ∀ s l, I s → m (step s l) = m s + f s l) {s : σ}
    (hs : I s) (ls : List ℓ) : m (run step s ls) = m s + sumAlong step f s ls := by
  induction ls generalizing s with
  | nil => exact (add_zero _).symm
  | cons l ls ih => rw [run_cons, ih (keep s l hs), h s l hs, sumAlong, add_assoc]

theorem sumAlong_add [AddCommMonoid M] (f g : σ → ℓ → M) (s : σ) (ls : List ℓ) :
    sumAlong step (fun s l => f s l + g s l) s ls = sumAlong step f s ls + sumAlong step g s ls := by
  induction ls generalizing s with
  | nil => exact (add_zero _).symm
  | cons l ls ih => rw [sumAlong, sumAlong, sumAlong, ih, add_add_add_comm]

theorem sumAlong_eq_zero_iff {f : σ → ℓ → ℕ} (s : σ) (ls : List ℓ) :
    sumAlong step f s ls = 0 ↔ EachStep step (fun s l => f s l = 0) s ls := by
  induction ls generalizing s with
  | nil => exact ⟨fun _ => eachStep_nil s, fun _ => rfl⟩
  | cons l ls ih => rw [sumAlong, Nat.add_eq_zero_iff, ih, eachStep_cons]

theorem sumAlong_eq_iff {f : σ → ℓ → ℕ} {keeps : σ → ℓ → Bool} (s : σ) (ls : List ℓ) :
    sumAlong step f s ls = sumAlong step (fun s l => if keeps s l then f s l else 0) s ls ↔
      EachStep step (fun s l => keeps s l = false → f s l = 0) s ls := by
  have hsplit : sumAlong step f s ls =
      sumAlong step (fun s l => if keeps s l then f s l else 0) s ls +
        sumAlong step (fun s l => if keeps s l then 0 else f s l) s ls := by
    rw [← sumAlong_add]
    congr 1
    funext s l
    split_ifs <;> simp
  rw [hsplit, Nat.add_eq_left, sumAlong_eq_zero_iff]
  constructor
  · refine EachStep.mono fun s l h hnot => ?_
    rwa [hnot, if_neg Bool.false_ne_true] at h
  · refine EachStep.mono fun s l h => ?_
    split_ifs with hkeeps
    · rfl
    · exact h (Bool.eq_false_iff.mpr hkeeps)

end Sums

end WorksAuto.Lib
