import Mathlib.Algebra.BigOperators.Group.List.Basic
import Mathlib.Tactic.Common

/-! Values by key that change only through recorded entries.
An entry is about one key and says what becomes of the value there. The value
at a key is then determined by the entries about that key, in their order; for
entries that add an amount it is determined by the sum of the amounts. -/

namespace WorksAuto.Lib

universe u v w

structure Journal (K : Type u) (S : Type v) (E : Type w) where
  key : E → K
  apply : E → S → S

namespace Journal

variable {K : Type u} {S : Type v} {E : Type w} [DecidableEq K] (J : Journal K S E)

def post (f : K → S) (e : E) : K → S := Function.update f (J.key e) (J.apply e (f (J.key e)))

def postAll (f : K → S) (es : List E) : K → S := es.foldl J.post f

def about (k : K) (es : List E) : List E := es.filter fun e => J.key e = k

/-- The value that the given entries make of `s`, taken in order. -/
def replay (es : List E) (s : S) : S := es.foldl (fun s e => J.apply e s) s

@[simp] theorem postAll_nil (f : K → S) : J.postAll f [] = f := rfl

@[simp] theorem postAll_cons (f : K → S) (e : E) (es : List E) :
    J.postAll f (e :: es) = J.postAll (J.post f e) es := rfl

theorem postAll_append (f : K → S) (es ds : List E) :
    J.postAll f (es ++ ds) = J.postAll (J.postAll f es) ds := List.foldl_append

theorem post_self (f : K → S) (e : E) : J.post f e (J.key e) = J.apply e (f (J.key e)) :=
  Function.update_self ..

theorem post_of_ne (f : K → S) {e : E} {k : K} (h : k ≠ J.key e) : J.post f e k = f k :=
  Function.update_of_ne h ..

theorem postAll_apply (f : K → S) (es : List E) (k : K) :
    J.postAll f es k = J.replay (J.about k es) (f k) := by
  induction es generalizing f with
  | nil => rfl
  | cons e es ih =>
    rw [postAll_cons, ih]
    by_cases hk : J.key e = k
    · subst hk
      rw [post_self]
      simp [about, replay]
    · rw [post_of_ne J f (Ne.symm hk)]
      simp [about, hk]

theorem postAll_eq_add [AddCommMonoid S] {d : E → S} {es : List E}
    (h : ∀ e ∈ es, ∀ s, J.apply e s = s + d e) (f : K → S) (k : K) :
    J.postAll f es k = f k + (es.map fun e => if J.key e = k then d e else 0).sum := by
  induction es generalizing f with
  | nil => simp
  | cons e es ih =>
    obtain ⟨he, hes⟩ := List.forall_mem_cons.mp h
    rw [postAll_cons, ih hes, List.map_cons, List.sum_cons, ← add_assoc]
    congr 1
    by_cases hk : J.key e = k
    · subst hk
      rw [post_self, he, if_pos rfl]
    · rw [post_of_ne J f (Ne.symm hk), if_neg hk, add_zero]

end Journal

end WorksAuto.Lib
