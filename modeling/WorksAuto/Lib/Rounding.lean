import Mathlib.Algebra.Order.Round
import Mathlib.Data.Rat.Floor
import Mathlib.Tactic.Linarith
import Mathlib.Tactic.NormNum
import Mathlib.Tactic.Ring

/-! Rounding to an integer with ties away from zero.
Mathlib's `round` sends a tie upwards; the two agree on nonnegative numbers.
The complement lemmas say when a number and what is left of an integer after
taking it away can both be rounded without their sum changing; the residue of a
list is by how much rounding its sum differs from rounding its members. -/

namespace WorksAuto.Lib

variable {K : Type*} [Field K] [LinearOrder K] [IsStrictOrderedRing K] [FloorRing K]

def roundAway (x : K) : ℤ := if 0 ≤ x then round x else -round (-x)

omit [IsStrictOrderedRing K] in
theorem roundAway_of_nonneg {x : K} (h : 0 ≤ x) : roundAway x = round x := if_pos h

@[simp] theorem roundAway_intCast (n : ℤ) : roundAway (n : K) = n := by
  unfold roundAway
  split_ifs
  · exact round_intCast n
  · rw [← Int.cast_neg, round_intCast, neg_neg]

@[simp] theorem roundAway_zero : roundAway (0 : K) = 0 := by
  simpa using roundAway_intCast (K := K) 0

theorem round_nonneg {x : K} (h : 0 ≤ x) : 0 ≤ round x := by
  rw [round_eq]
  exact Int.floor_nonneg.mpr (by linarith [one_half_pos (α := K)])

theorem roundAway_nonneg {x : K} (h : 0 ≤ x) : 0 ≤ roundAway x := by
  rw [roundAway_of_nonneg h]
  exact round_nonneg h

theorem round_sub_of_not_tie {x : K} (n : ℤ) (h : Int.fract x ≠ 1 / 2) :
    round (n - x) = n - round x := by
  have hf := Int.floor_add_fract x
  have h0 := Int.fract_nonneg x
  have h1 := Int.fract_lt_one x
  rcases lt_or_gt_of_ne h with hlt | hgt
  · have hx : round x = ⌊x⌋ := round_eq_iff.mpr ⟨by linarith, by linarith⟩
    rw [hx]
    exact round_eq_iff.mpr ⟨by push_cast; linarith, by push_cast; linarith⟩
  · have hx : round x = ⌊x⌋ + 1 :=
      round_eq_iff.mpr ⟨by push_cast; linarith, by push_cast; linarith⟩
    rw [hx]
    exact round_eq_iff.mpr ⟨by push_cast; linarith, by push_cast; linarith⟩

theorem round_pos_iff {x : K} : 0 < round x ↔ 1 / 2 ≤ x := by
  rw [round_eq, Int.floor_pos]
  have hh := add_halves (1 : K)
  constructor <;> intro h <;> linarith

theorem abs_roundAway_sub_le (x : K) : |(roundAway x : K) - x| ≤ 1 / 2 := by
  unfold roundAway
  split_ifs
  · rw [abs_sub_comm]
    exact abs_sub_round x
  · push_cast
    rw [← neg_add', abs_neg, ← sub_neg_eq_add, abs_sub_comm]
    exact abs_sub_round (-x)

theorem roundAway_of_not_tie {x : K} (h : Int.fract x ≠ 1 / 2) : roundAway x = round x := by
  unfold roundAway
  split_ifs
  · rfl
  · have hneg := round_sub_of_not_tie 0 h
    rw [Int.cast_zero, zero_sub, zero_sub] at hneg
    rw [hneg, neg_neg]

theorem roundAway_congr {x y : K} (h : |y - x| < |Int.fract x - 1 / 2|) :
    roundAway y = roundAway x := by
  have hx := Int.floor_add_fract x
  have h0 := Int.fract_nonneg x
  have h1 := Int.fract_lt_one x
  have htie : Int.fract x ≠ 1 / 2 := by
    intro heq
    rw [heq, sub_self, abs_zero] at h
    exact absurd h (not_lt.mpr (abs_nonneg _))
  obtain ⟨n, hl, hu, hnx, hxn⟩ : ∃ n : ℤ, (n : K) - 1 / 2 < y ∧ y < n + 1 / 2 ∧
      (n : K) - 1 / 2 ≤ x ∧ x < n + 1 / 2 := by
    obtain ⟨hyl, hyu⟩ := abs_lt.mp h
    rcases lt_or_gt_of_ne htie with hlt | hgt
    · rw [abs_of_neg (by linarith)] at hyl hyu
      exact ⟨⌊x⌋, by linarith, by linarith, by linarith, by linarith⟩
    · rw [abs_of_pos (by linarith)] at hyl hyu
      exact ⟨⌊x⌋ + 1, by push_cast; linarith, by push_cast; linarith, by push_cast; linarith,
        by push_cast; linarith⟩
  have hy : Int.fract y ≠ 1 / 2 := by
    intro heq
    have hsplit := Int.floor_add_fract y
    rw [heq] at hsplit
    have hlow : (n : K) < ⌊y⌋ + 1 := by linarith
    have hhigh : (⌊y⌋ : K) < n := by linarith
    norm_cast at hlow hhigh
    omega
  rw [roundAway_of_not_tie hy, roundAway_of_not_tie htie, round_eq_iff.mpr ⟨hnx, hxn⟩]
  exact round_eq_iff.mpr ⟨hl.le, hu⟩

theorem sub_round_bounds (x : K) : -(1 / 2) ≤ x - round x ∧ x - round x < 1 / 2 := by
  have hle := Int.floor_le (x + 1 / 2)
  have hlt := Int.lt_floor_add_one (x + 1 / 2)
  rw [round_eq]
  constructor <;> linarith

theorem eq_of_round_mul_add {c : K} {a b t m : ℤ} (hc : 0 < c) (ht : c * t = m + 1 / 2)
    (h : ∀ x : ℤ, round (c * ((x + a : ℤ) : K)) = round (c * ((x + b : ℤ) : K))) : a = b := by
  have key : ∀ a b : ℤ, a < b →
      round (c * ((t - b + a : ℤ) : K)) ≠ round (c * ((t - b + b : ℤ) : K)) := by
    intro a b hab
    have htie : round (c * ((t - b + b : ℤ) : K)) = m + 1 := by
      rw [sub_add_cancel, ht]
      exact round_eq_iff.mpr ⟨by push_cast; linarith, by push_cast; linarith⟩
    have hbelow : c * ((t - b + a : ℤ) : K) < m + 1 / 2 := by
      rw [← ht]
      exact mul_lt_mul_of_pos_left (by exact_mod_cast (by omega)) hc
    rw [htie, round_eq, ne_eq, Int.floor_eq_iff, not_and_or]
    left
    push_cast at hbelow ⊢
    linarith
  rcases lt_trichotomy a b with hab | hab | hab
  · exact absurd (h _) (key a b hab)
  · exact hab
  · exact absurd (h _).symm (key b a hab)

/-- What the members of a list exceed their roundings by, in all. -/
def residue (xs : List K) : K := (xs.map fun x => x - (round x : K)).sum

theorem round_sum (xs : List K) :
    round xs.sum = (xs.map fun x => round x).sum + round (residue xs) := by
  have hsplit : xs.sum = residue xs + ((xs.map fun x => round x).sum : ℤ) := by
    unfold residue
    induction xs with
    | nil => simp
    | cons x xs ih =>
      simp only [List.map_cons, List.sum_cons, ih]
      push_cast
      ring
  rw [hsplit, round_add_intCast, add_comm]

theorem residue_bounds (xs : List K) {n : ℕ} (hn : 0 < n)
    (h : (xs.filter fun x => x ≠ (round x : K)).length ≤ n) :
    -(n / 2 : K) ≤ residue xs ∧ residue xs < n / 2 := by
  induction xs generalizing n with
  | nil =>
    have hpos : (0 : K) < n / 2 := by positivity
    simp only [residue, List.map_nil, List.sum_nil]
    exact ⟨by linarith, hpos⟩
  | cons x xs ih =>
    have hcons : residue (x :: xs) = (x - round x) + residue xs := rfl
    obtain ⟨hl, hu⟩ := sub_round_bounds x
    rw [hcons]
    by_cases hx : x = round x
    · rw [List.filter_cons_of_neg (by simpa using hx)] at h
      rw [← hx, sub_self, zero_add]
      exact ih hn h
    · rw [List.filter_cons_of_pos (by simpa using hx), List.length_cons] at h
      obtain ⟨n, rfl⟩ : ∃ m, n = m + 1 := ⟨n - 1, by omega⟩
      push_cast
      rcases Nat.eq_zero_or_pos n with rfl | hpos
      · have hnone : xs.filter (fun x => x ≠ (round x : K)) = [] :=
          List.length_eq_zero_iff.mp (by omega)
        have hzero : residue xs = 0 := by
          apply List.sum_eq_zero
          intro y hy
          obtain ⟨z, hz, rfl⟩ := List.mem_map.mp hy
          simpa [sub_eq_zero] using List.filter_eq_nil_iff.mp hnone z hz
        rw [hzero]
        push_cast
        constructor <;> linarith
      · obtain ⟨hl', hu'⟩ := ih hpos (by omega)
        constructor <;> linarith

theorem two_mul_abs_sum_round_sub_le (xs : List K) :
    2 * |(xs.map fun x => round x).sum - round xs.sum| ≤ xs.length + 1 := by
  have hbounds : -(xs.length / 2 : K) ≤ residue xs ∧ residue xs ≤ xs.length / 2 := by
    rcases Nat.eq_zero_or_pos xs.length with hzero | hpos
    · rw [List.length_eq_zero_iff.mp hzero]
      simp [residue]
    · obtain ⟨hl, hu⟩ := residue_bounds xs hpos (List.length_filter_le ..)
      exact ⟨hl, hu.le⟩
  obtain ⟨hl, hu⟩ := sub_round_bounds (residue xs)
  have hround : 2 * |(round (residue xs) : K)| ≤ xs.length + 1 := by
    rcases abs_cases (round (residue xs) : K) with ⟨habs, -⟩ | ⟨habs, -⟩ <;> rw [habs] <;> linarith
  rw [round_sum, sub_add_cancel_left, abs_neg]
  exact_mod_cast hround

end WorksAuto.Lib
