import Mathlib.Algebra.Order.Group.Nat
import Mathlib.Data.List.Basic
import Mathlib.Tactic.Common

/-! Pages of a list: `skip` and `take`, counted from one. -/

namespace WorksAuto.Lib.Paging

universe u

variable {α : Type u}

def page (limit number : ℕ) (xs : List α) : List α :=
  (xs.drop ((number - 1) * limit)).take limit

/-- `Math.ceil(total / limit)`. -/
def pageCount (limit total : ℕ) : ℕ := (total + limit - 1) / limit

theorem length_page_le (limit number : ℕ) (xs : List α) :
    (page limit number xs).length ≤ limit :=
  List.length_take_le ..

theorem map_page {β : Type u} (f : α → β) (limit number : ℕ) (xs : List α) :
    (page limit number xs).map f = page limit number (xs.map f) := by
  rw [page, page, List.map_take, List.map_drop]

theorem mem_of_mem_page {limit number : ℕ} {xs : List α} {x : α}
    (h : x ∈ page limit number xs) : x ∈ xs :=
  List.mem_of_mem_drop (List.mem_of_mem_take h)

theorem flatMap_page (limit count : ℕ) (xs : List α) :
    ((List.range count).flatMap fun i => page limit (i + 1) xs) = xs.take (count * limit) := by
  induction count with
  | zero => simp
  | succ count ih =>
    rw [List.range_succ, List.flatMap_append, ih, Nat.succ_mul, List.take_add]
    simp [page]

theorem flatMap_page_eq {limit : ℕ} (hlimit : 0 < limit) {count : ℕ} (xs : List α)
    (h : pageCount limit xs.length ≤ count) :
    ((List.range count).flatMap fun i => page limit (i + 1) xs) = xs := by
  rw [flatMap_page, List.take_of_length_le]
  have hceil : xs.length ≤ pageCount limit xs.length * limit := by
    have hdiv := Nat.div_add_mod (xs.length + limit - 1) limit
    have hmod := Nat.mod_lt (xs.length + limit - 1) hlimit
    rw [pageCount, Nat.mul_comm]
    omega
  exact hceil.trans (Nat.mul_le_mul_right limit h)

end WorksAuto.Lib.Paging
