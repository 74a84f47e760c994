import Mathlib.Algebra.Order.BigOperators.Group.List
import Mathlib.Algebra.Order.Round
import Mathlib.Data.Int.Log
import Mathlib.Data.Rat.Floor
import Mathlib.Tactic.Linarith
import Mathlib.Tactic.NormNum
import Mathlib.Tactic.Positivity
import Mathlib.Tactic.Ring

/-! Numbers in double precision.
A double is the rational it stands for, and an operation is its exact result
brought to the nearest double, ties to the even significand. The exponent is not
bounded: sums of money are far from both ends of it. A double is written with
the fewest decimals that name it. `Approx` counts the roundings of a computation
and bounds by how much they can be off in all. -/

namespace WorksAuto.Lib.Double

def roundEven (x : ℚ) : ℤ :=
  if Int.fract x = 1 / 2 then (if ⌊x⌋ % 2 = 0 then ⌊x⌋ else ⌊x⌋ + 1) else round x

/-- The distance of the doubles next to `x`. -/
def ulp (x : ℚ) : ℚ := 2 ^ (Int.log 2 |x| - 52)

/-- The double next to `x`. -/
def nearest (x : ℚ) : ℚ := roundEven (x / ulp x) * ulp x

def sum (xs : List ℚ) : ℚ := xs.foldl (fun acc x => nearest (acc + x)) 0

def toDecimals (d : ℕ) (x : ℚ) : ℚ := (round (x * 10 ^ d) : ℚ) / 10 ^ d

/-- `y` with the fewest decimals, from `d` on, that name it; with all of them in the end. -/
def writtenFrom (y : ℚ) : (fuel d : ℕ) → ℚ
  | 0, _ => y
  | fuel + 1, d =>
    if nearest (toDecimals d y) = y then toDecimals d y else writtenFrom y fuel (d + 1)

/-- The decimal that a double is written as. No double has more than 1074 decimals. -/
def written (y : ℚ) : ℚ := writtenFrom y 1075 0

section Nearest

variable {x : ℚ}

theorem abs_roundEven_sub_le (x : ℚ) : |(roundEven x : ℚ) - x| ≤ 1 / 2 := by
  unfold roundEven
  split_ifs with htie heven
  · have hx := Int.floor_add_fract x
    rw [abs_le]
    constructor <;> linarith
  · have hx := Int.floor_add_fract x
    push_cast
    rw [abs_le]
    constructor <;> linarith
  · rw [abs_sub_comm]
    exact abs_sub_round x

@[simp] theorem roundEven_intCast (n : ℤ) : roundEven n = n := by
  rw [roundEven, if_neg (by rw [Int.fract_intCast]; norm_num), round_intCast]

theorem ulp_pos (x : ℚ) : 0 < ulp x := zpow_pos (by norm_num) _

theorem ulp_le (h : x ≠ 0) : ulp x ≤ |x| / 2 ^ 52 := by
  have hlog := Int.zpow_log_le_self (b := 2) (by norm_num) (abs_pos.mpr h)
  have hsplit : ulp x = ((2 : ℕ) : ℚ) ^ Int.log 2 |x| / 2 ^ 52 := by
    rw [ulp, zpow_sub₀ (by norm_num)]
    norm_num
  rw [hsplit]
  gcongr

@[simp] theorem nearest_zero : nearest 0 = 0 := by
  simp [nearest, roundEven]

theorem abs_nearest_sub_le (x : ℚ) : |nearest x - x| ≤ |x| / 2 ^ 53 := by
  by_cases hx : x = 0
  · simp [hx]
  · have hulp := ulp_pos x
    have hscaled : nearest x - x = ((roundEven (x / ulp x) : ℚ) - x / ulp x) * ulp x := by
      rw [sub_mul, div_mul_cancel₀ _ hulp.ne']
      rfl
    calc |nearest x - x| = |(roundEven (x / ulp x) : ℚ) - x / ulp x| * ulp x := by
          rw [hscaled, abs_mul, abs_of_pos hulp]
      _ ≤ 1 / 2 * (|x| / 2 ^ 52) := by
          gcongr
          · exact abs_roundEven_sub_le _
          · exact ulp_le hx
      _ = |x| / 2 ^ 53 := by ring

theorem nearest_nonneg (h : 0 ≤ x) : 0 ≤ nearest x := by
  have hoff := (abs_le.mp (abs_nearest_sub_le x)).1
  rw [abs_of_nonneg h] at hoff
  linarith

theorem abs_written_sub_le (y : ℚ) : |written y - y| ≤ |written y| / 2 ^ 53 := by
  have search (fuel d : ℕ) :
      |writtenFrom y fuel d - y| ≤ |writtenFrom y fuel d| / 2 ^ 53 := by
    induction fuel generalizing d with
    | zero =>
      rw [writtenFrom, sub_self, abs_zero]
      positivity
    | succ fuel ih =>
      rw [writtenFrom]
      split_ifs with hfound
      · have hoff := abs_nearest_sub_le (toDecimals d y)
        rwa [hfound, abs_sub_comm] at hoff
      · exact ih (d + 1)
  exact search 1075 0

end Nearest

/-- By how much, as a part of the whole, a number is off after `k` roundings. -/
def slack (k : ℕ) : ℚ := (1 + 1 / 2 ^ 53) ^ k - 1

/-- `y` is computed with `k` roundings where `x` is exact; `a` bounds the amounts in `x`. -/
structure Approx (k : ℕ) (a x y : ℚ) : Prop where
  bound : |x| ≤ a
  off : |y - x| ≤ slack k * a

section Approx

variable {j k : ℕ} {a b x y u v : ℚ}

@[simp] theorem slack_zero : slack 0 = 0 := by
  simp [slack]

theorem slack_mono (h : j ≤ k) : slack j ≤ slack k := by
  unfold slack
  gcongr
  norm_num

theorem slack_nonneg (k : ℕ) : 0 ≤ slack k := by
  have hzero := slack_mono (Nat.zero_le k)
  rwa [slack_zero] at hzero

theorem slack_succ (k : ℕ) : slack (k + 1) = slack k + (1 + slack k) / 2 ^ 53 := by
  unfold slack
  ring

theorem slack_add (j k : ℕ) : slack (j + k) = slack j + slack k + slack j * slack k := by
  unfold slack
  ring

namespace Approx

theorem refl (x : ℚ) : Approx 0 |x| x x where
  bound := le_refl _
  off := by simp

theorem nonneg (h : Approx k a x y) : 0 ≤ a := (abs_nonneg x).trans h.bound

theorem mono (h : Approx j a x y) (hjk : j ≤ k) : Approx k a x y where
  bound := h.bound
  off := h.off.trans (mul_le_mul_of_nonneg_right (slack_mono hjk) h.nonneg)

theorem abs_le (h : Approx k a x y) : |y| ≤ (1 + slack k) * a := by
  have htriangle := abs_add_le (y - x) x
  rw [sub_add_cancel] at htriangle
  linarith [h.bound, h.off]

theorem nearest (h : Approx k a x y) : Approx (k + 1) a x (nearest y) where
  bound := h.bound
  off := by
    have hstep := abs_nearest_sub_le y
    have hsize := h.abs_le
    calc |Double.nearest y - x| ≤ |Double.nearest y - y| + |y - x| := abs_sub_le _ _ _
      _ ≤ (1 + slack k) * a / 2 ^ 53 + slack k * a := by
          refine add_le_add (hstep.trans ?_) h.off
          gcongr
      _ = slack (k + 1) * a := by
          rw [slack_succ]
          ring

theorem add (h : Approx k a x y) (h' : Approx k b u v) : Approx k (a + b) (x + u) (y + v) where
  bound := (abs_add_le x u).trans (add_le_add h.bound h'.bound)
  off := by
    have hsplit : y + v - (x + u) = (y - x) + (v - u) := by ring
    rw [hsplit, mul_add]
    exact (abs_add_le _ _).trans (add_le_add h.off h'.off)

theorem sub (h : Approx k a x y) (h' : Approx k b u v) : Approx k (a + b) (x - u) (y - v) where
  bound := (abs_sub x u).trans (add_le_add h.bound h'.bound)
  off := by
    have hsplit : y - v - (x - u) = (y - x) - (v - u) := by ring
    rw [hsplit, mul_add]
    exact (abs_sub _ _).trans (add_le_add h.off h'.off)

theorem mul (h : Approx j a x y) (h' : Approx k b u v) :
    Approx (j + k) (a * b) (x * u) (y * v) where
  bound := by
    rw [abs_mul]
    exact mul_le_mul h.bound h'.bound (abs_nonneg u) h.nonneg
  off := by
    have hsplit : y * v - x * u = y * (v - u) + (y - x) * u := by ring
    have hfirst : |y * (v - u)| ≤ (1 + slack j) * a * (slack k * b) := by
      rw [abs_mul]
      exact mul_le_mul h.abs_le h'.off (abs_nonneg _) ((abs_nonneg y).trans h.abs_le)
    have hsecond : |(y - x) * u| ≤ slack j * a * b := by
      rw [abs_mul]
      exact mul_le_mul h.off h'.bound (abs_nonneg u)
        (mul_nonneg (slack_nonneg j) h.nonneg)
    calc |y * v - x * u| ≤ |y * (v - u)| + |(y - x) * u| := by
          rw [hsplit]
          exact abs_add_le _ _
      _ ≤ (1 + slack j) * a * (slack k * b) + slack j * a * b := add_le_add hfirst hsecond
      _ = slack (j + k) * (a * b) := by
          rw [slack_add]
          ring

theorem div (h : Approx k a x y) {c : ℚ} (hc : 0 < c) : Approx k (a / c) (x / c) (y / c) where
  bound := by
    rw [abs_div, abs_of_pos hc]
    exact div_le_div_of_nonneg_right h.bound hc.le
  off := by
    rw [← sub_div, abs_div, abs_of_pos hc, ← mul_div_assoc]
    exact div_le_div_of_nonneg_right h.off hc.le

theorem written (h : Approx k a x y) : Approx (k + 2) a x (written y) where
  bound := h.bound
  off := by
    have hoff := abs_written_sub_le y
    have hsize : |Double.written y| ≤ |Double.written y - y| + |y| := by
      have htriangle := abs_add_le (Double.written y - y) y
      rwa [sub_add_cancel] at htriangle
    have hstep : |Double.written y - y| ≤ slack 2 * |y| := by
      have hslack : slack 2 = 1 / 2 ^ 52 + 1 / 2 ^ 106 := by norm_num [slack]
      rw [le_div_iff₀ (by norm_num)] at hoff
      rw [hslack]
      linarith [abs_nonneg y]
    calc |Double.written y - x| ≤ |Double.written y - y| + |y - x| := abs_sub_le _ _ _
      _ ≤ slack 2 * ((1 + slack k) * a) + slack k * a := by
          refine add_le_add (hstep.trans ?_) h.off
          exact mul_le_mul_of_nonneg_left h.abs_le (slack_nonneg 2)
      _ = slack (k + 2) * a := by
          rw [slack_add]
          ring

theorem sum {α : Type*} {items : List α} {bound exact computed : α → ℚ}
    (h : ∀ i ∈ items, Approx k (bound i) (exact i) (computed i)) :
    Approx (k + items.length) (items.map bound).sum (items.map exact).sum
      (sum (items.map computed)) := by
  have loop (m : ℕ) (hm : k ≤ m) (a x y : ℚ) (hstart : Approx m a x y) :
      Approx (m + items.length) (a + (items.map bound).sum) (x + (items.map exact).sum)
        ((items.map computed).foldl (fun acc x => Double.nearest (acc + x)) y) := by
    induction items generalizing m a x y with
    | nil => simpa using hstart
    | cons i items ih =>
      obtain ⟨hi, hitems⟩ := List.forall_mem_cons.mp h
      have hnext := (hstart.add (hi.mono hm)).nearest
      have hrest := ih hitems (m + 1) (by omega) _ _ _ hnext
      simp only [List.map_cons, List.sum_cons, List.foldl_cons, List.length_cons, ← add_assoc]
      rwa [add_right_comm m] at hrest
  have hzero : Approx k 0 0 0 := ⟨by simp, by simp⟩
  have hloop := loop k le_rfl 0 0 0 hzero
  rwa [zero_add, zero_add] at hloop

end Approx

end Approx

end WorksAuto.Lib.Double
