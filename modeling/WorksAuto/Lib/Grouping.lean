import Mathlib.Algebra.BigOperators.Group.List.Basic
import Mathlib.Data.List.Induction
import Mathlib.Data.List.Nodup
import Mathlib.Tactic.Common

/-! Values added up under keys, in the order in which the keys come up.
The list plays the part of a map whose entries stay where they were first put. -/

namespace WorksAuto.Lib.Grouping

universe u v w

variable {α : Type u} {κ : Type v} {M : Type w} [DecidableEq κ] [AddCommMonoid M]

/-- Add a value to the entry of its key, or make an entry of it at the end. -/
def put (k : κ) (m : M) : List (κ × M) → List (κ × M)
  | [] => [(k, m)]
  | e :: entries => if e.1 = k then (k, e.2 + m) :: entries else e :: put k m entries

def groupBy (key : α → κ) (value : α → M) (xs : List α) : List (κ × M) :=
  xs.foldl (fun entries x => put (key x) (value x) entries) []

section Entries

theorem keys_put (k : κ) (m : M) (entries : List (κ × M)) :
    (put k m entries).map Prod.fst =
      if k ∈ entries.map Prod.fst then entries.map Prod.fst else entries.map Prod.fst ++ [k] := by
  induction entries with
  | nil => rfl
  | cons e entries ih =>
    rw [put]
    split
    next hk =>
      subst hk
      simp
    next hk =>
      rw [List.map_cons, List.map_cons, ih]
      have hmem : k ∈ e.1 :: entries.map Prod.fst ↔ k ∈ entries.map Prod.fst := by
        simp [Ne.symm hk]
      simp only [hmem]
      split <;> rfl

theorem nodup_keys_put {k : κ} {m : M} {entries : List (κ × M)}
    (h : (entries.map Prod.fst).Nodup) : ((put k m entries).map Prod.fst).Nodup := by
  rw [keys_put]
  split
  · exact h
  next hk =>
    rw [List.nodup_append]
    refine ⟨h, List.nodup_singleton k, fun a ha b hb => ?_⟩
    rintro rfl
    exact hk (List.mem_singleton.mp hb ▸ ha)

def held (entries : List (κ × M)) (k : κ) : M :=
  ((entries.filter fun e => e.1 = k).map Prod.snd).sum

theorem held_cons (e : κ × M) (entries : List (κ × M)) (k : κ) :
    held (e :: entries) k = (if e.1 = k then e.2 else 0) + held entries k := by
  unfold held
  rw [List.filter_cons]
  by_cases h : e.1 = k
  · simp [h]
  · simp [h]

theorem held_put (k : κ) (m : M) (entries : List (κ × M)) (i : κ) :
    held (put k m entries) i = held entries i + if k = i then m else 0 := by
  induction entries with
  | nil => rw [put, held_cons, add_comm]
  | cons e entries ih =>
    rw [put]
    split
    next hk =>
      subst hk
      rw [held_cons, held_cons]
      split
      · exact add_right_comm _ _ _
      · rw [add_zero]
    next => rw [held_cons, held_cons, ih, add_assoc]

theorem held_of_mem {entries : List (κ × M)} (h : (entries.map Prod.fst).Nodup) {e : κ × M}
    (he : e ∈ entries) : held entries e.1 = e.2 := by
  induction entries with
  | nil => cases he
  | cons d entries ih =>
    rw [List.map_cons, List.nodup_cons] at h
    rw [held_cons]
    rcases List.mem_cons.mp he with rfl | he
    · have hnone : held entries e.1 = 0 := by
        have hfilter : (entries.filter fun d => d.1 = e.1) = [] := by
          rw [List.filter_eq_nil_iff]
          intro d hd heq
          exact h.1 (List.mem_map.mpr ⟨d, hd, of_decide_eq_true heq⟩)
        rw [held, hfilter]
        rfl
      rw [if_pos rfl, hnone, add_zero]
    · have hne : d.1 ≠ e.1 := fun heq => h.1 (heq ▸ List.mem_map_of_mem he)
      rw [if_neg hne, zero_add, ih h.2 he]

theorem sum_put (k : κ) (m : M) (entries : List (κ × M)) :
    ((put k m entries).map Prod.snd).sum = (entries.map Prod.snd).sum + m := by
  induction entries with
  | nil => simp [put]
  | cons e entries ih =>
    rw [put]
    split
    · simp only [List.map_cons, List.sum_cons]
      exact add_right_comm _ _ _
    · simp only [List.map_cons, List.sum_cons, ih]
      exact (add_assoc _ _ _).symm

end Entries

section Groups

variable (key : α → κ) (value : α → M) (xs : List α)

theorem groupBy_concat (x : α) :
    groupBy key value (xs ++ [x]) = put (key x) (value x) (groupBy key value xs) := by
  simp [groupBy]

theorem nodup_keys_groupBy : ((groupBy key value xs).map Prod.fst).Nodup := by
  induction xs using List.reverseRec with
  | nil => exact List.nodup_nil
  | append_singleton xs x ih =>
    rw [groupBy_concat]
    exact nodup_keys_put ih

theorem mem_keys_groupBy {k : κ} :
    k ∈ (groupBy key value xs).map Prod.fst ↔ ∃ x ∈ xs, key x = k := by
  induction xs using List.reverseRec with
  | nil => simp [groupBy]
  | append_singleton xs x ih =>
    rw [groupBy_concat, keys_put]
    split
    next hx =>
      rw [ih]
      constructor
      · rintro ⟨y, hy, rfl⟩
        exact ⟨y, List.mem_append_left _ hy, rfl⟩
      · rintro ⟨y, hy, rfl⟩
        rcases List.mem_append.mp hy with hy | hy
        · exact ⟨y, hy, rfl⟩
        · obtain rfl := List.mem_singleton.mp hy
          exact ih.mp hx
    next => simp [ih, or_and_right, exists_or, eq_comm]

theorem eq_of_mem_groupBy {e : κ × M} (he : e ∈ groupBy key value xs) :
    e.2 = ((xs.filter fun x => key x = e.1).map value).sum := by
  have hheld : held (groupBy key value xs) e.1 =
      ((xs.filter fun x => key x = e.1).map value).sum := by
    clear he
    induction xs using List.reverseRec with
    | nil => rfl
    | append_singleton xs x ih =>
      rw [groupBy_concat, held_put, ih, List.filter_append, List.map_append, List.sum_append]
      by_cases hx : key x = e.1
      · simp [hx]
      · simp [hx]
  rw [← hheld, held_of_mem (nodup_keys_groupBy key value xs) he]

theorem sum_groupBy : ((groupBy key value xs).map Prod.snd).sum = (xs.map value).sum := by
  induction xs using List.reverseRec with
  | nil => rfl
  | append_singleton xs x ih =>
    rw [groupBy_concat, sum_put, ih, List.map_append, List.sum_append, List.map_singleton,
      List.sum_singleton]

end Groups

end WorksAuto.Lib.Grouping
