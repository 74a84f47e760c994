import Mathlib.Algebra.BigOperators.Group.List.Basic
import Mathlib.Data.List.Perm.Basic
import Mathlib.Order.Basic
import Mathlib.Tactic.Order

/-! Closed windows on a timeline.
A list is cut by the times of its members. Two windows that follow each other make up
the window over both but for what lies strictly between them. -/

namespace WorksAuto.Lib

universe u v w

variable {α : Type u} {τ : Type v} [LinearOrder τ]

/-- The members with a time from `lo` to `hi`. -/
def window (time : α → τ) (lo hi : τ) (xs : List α) : List α :=
  xs.filter fun x => lo ≤ time x ∧ time x ≤ hi

/-- The members with a time strictly between `lo` and `hi`. -/
def gap (time : α → τ) (lo hi : τ) (xs : List α) : List α :=
  xs.filter fun x => lo < time x ∧ time x < hi

section Window

variable {time : α → τ} {a b b' c : τ} {xs : List α} {x : α}

theorem mem_window : x ∈ window time a c xs ↔ x ∈ xs ∧ a ≤ time x ∧ time x ≤ c := by
  simp [window]

theorem gap_eq_nil : gap time a c xs = [] ↔ ∀ x ∈ xs, ¬ (a < time x ∧ time x < c) := by
  simp [gap]

theorem window_cons_of_mem (h : a ≤ time x ∧ time x ≤ c) :
    window time a c (x :: xs) = x :: window time a c xs :=
  List.filter_cons_of_pos (decide_eq_true h)

theorem window_cons_of_notMem (h : ¬ (a ≤ time x ∧ time x ≤ c)) :
    window time a c (x :: xs) = window time a c xs :=
  List.filter_cons_of_neg (by simpa using h)

theorem gap_cons_of_mem (h : a < time x ∧ time x < c) :
    gap time a c (x :: xs) = x :: gap time a c xs :=
  List.filter_cons_of_pos (decide_eq_true h)

theorem gap_cons_of_notMem (h : ¬ (a < time x ∧ time x < c)) :
    gap time a c (x :: xs) = gap time a c xs :=
  List.filter_cons_of_neg (by simpa using h)

theorem window_perm (hab : a ≤ b) (hbb' : b < b') (hbc : b' ≤ c) (time : α → τ) (xs : List α) :
    (window time a c xs).Perm
      (window time a b xs ++ (window time b' c xs ++ gap time b b' xs)) := by
  induction xs with
  | nil => exact List.Perm.refl _
  | cons x xs ih =>
    rcases lt_or_ge (time x) a with hbefore | ha
    · rw [window_cons_of_notMem fun h => absurd h.1 hbefore.not_ge,
        window_cons_of_notMem fun h => absurd h.1 hbefore.not_ge,
        window_cons_of_notMem fun h => absurd h.1 (by order),
        gap_cons_of_notMem fun h => absurd h.1 (by order)]
      exact ih
    rcases le_or_gt (time x) b with hb | hb
    · rw [window_cons_of_mem ⟨ha, by order⟩, window_cons_of_mem ⟨ha, hb⟩,
        window_cons_of_notMem fun h => absurd h.1 (by order),
        gap_cons_of_notMem fun h => absurd h.1 (by order)]
      exact ih.cons x
    rw [window_cons_of_notMem (c := b) fun h => absurd h.2 (by order)]
    rcases lt_or_ge (time x) b' with hb' | hb'
    · rw [window_cons_of_mem ⟨ha, by order⟩,
        window_cons_of_notMem fun h => absurd h.1 (by order), gap_cons_of_mem ⟨hb, hb'⟩,
        ← List.append_assoc]
      rw [← List.append_assoc] at ih
      exact (ih.cons x).trans List.perm_middle.symm
    rw [gap_cons_of_notMem fun h => absurd h.2 (by order)]
    rcases le_or_gt (time x) c with hc | hc
    · rw [window_cons_of_mem ⟨ha, hc⟩, window_cons_of_mem ⟨hb', hc⟩, List.cons_append]
      exact (ih.cons x).trans List.perm_middle.symm
    · rw [window_cons_of_notMem fun h => absurd h.2 (by order),
        window_cons_of_notMem fun h => absurd h.2 (by order)]
      exact ih

theorem length_window (hab : a ≤ b) (hbb' : b < b') (hbc : b' ≤ c) (time : α → τ) (xs : List α) :
    (window time a c xs).length =
      (window time a b xs).length + (window time b' c xs).length + (gap time b b' xs).length := by
  rw [(window_perm hab hbb' hbc time xs).length_eq, List.length_append, List.length_append,
    add_assoc]

theorem sum_window {M : Type w} [AddCommMonoid M] (hab : a ≤ b) (hbb' : b < b') (hbc : b' ≤ c)
    (time : α → τ) (f : α → M) (xs : List α) :
    ((window time a c xs).map f).sum =
      ((window time a b xs).map f).sum + ((window time b' c xs).map f).sum +
        ((gap time b b' xs).map f).sum := by
  rw [((window_perm hab hbb' hbc time xs).map f).sum_eq, List.map_append, List.map_append,
    List.sum_append, List.sum_append, add_assoc]

theorem xor_mem_window (hbb' : b < b') (hx : x ∈ xs)
    (hin : a ≤ time x ∧ time x ≤ c) (hgap : ¬ (b < time x ∧ time x < b')) :
    Xor (x ∈ window time a b xs) (x ∈ window time b' c xs) := by
  simp only [mem_window, hx, true_and]
  rcases le_or_gt (time x) b with hb | hb
  · exact .inl ⟨⟨hin.1, hb⟩, fun h => absurd h.1 (by order)⟩
  · have hb' : b' ≤ time x := not_lt.mp fun h => hgap ⟨hb, h⟩
    exact .inr ⟨⟨hb', hin.2⟩, fun h => absurd h.2 hb.not_ge⟩

end Window

section Sliding

variable [Add τ]

/-- The members with a time less than `len` before `now`. -/
def recent (time : α → τ) (len now : τ) (xs : List α) : List α :=
  xs.filter fun x => now < time x + len

def AtMostWithin (time : α → τ) (count : ℕ) (len : τ) (xs : List α) : Prop :=
  ∀ now, (recent time len now xs).countP (fun x => time x ≤ now) ≤ count

variable {time : α → τ} {count : ℕ} {len now later : τ} {xs : List α} {x : α}

theorem mem_recent : x ∈ recent time len now xs ↔ x ∈ xs ∧ now < time x + len := by
  simp [recent]

theorem length_recent_cons_le :
    (recent time len now (x :: xs)).length ≤ (recent time len now xs).length + 1 := by
  unfold recent
  rw [List.filter_cons]
  split_ifs
  · exact le_rfl
  · exact Nat.le_succ _

theorem atMostWithin_nil : AtMostWithin time count len [] :=
  fun _ => Nat.zero_le _

theorem recent_sublist (h : now ≤ later) :
    (recent time len later xs).Sublist (recent time len now xs) := by
  apply List.monotone_filter_right
  intro x hx
  exact decide_eq_true (lt_of_le_of_lt h (of_decide_eq_true hx))

theorem AtMostWithin.cons (h : AtMostWithin time (count + 1) len xs)
    (hrecent : (recent time len (time x) xs).length ≤ count) :
    AtMostWithin time (count + 1) len (x :: xs) := by
  intro now
  rcases le_or_gt (time x) now with hle | hgt
  · have hfew : (recent time len now xs).length ≤ count :=
      (recent_sublist hle).length_le.trans hrecent
    exact List.countP_le_length.trans (length_recent_cons_le.trans (Nat.succ_le_succ hfew))
  · have hsame : (recent time len now (x :: xs)).countP (fun y => time y ≤ now) =
        (recent time len now xs).countP fun y => time y ≤ now := by
      unfold recent
      rw [List.filter_cons]
      split_ifs
      · rw [List.countP_cons_of_neg (by simpa using hgt)]
      · rfl
    exact hsame.trans_le (h now)

end Sliding

end WorksAuto.Lib
