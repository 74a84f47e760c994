import Mathlib.Data.List.Basic
import Mathlib.Data.List.Infix
import Mathlib.Data.List.InsertIdx
import Mathlib.Data.List.Nodup
import Mathlib.Tactic.Common

/-! Logs whose entries name their predecessor by its hash.
An entry has the hash of the one before it and a hash of its own. A log that is
linked in order is the same as one that is not forked, when every hash is larger
than the one it builds on; and an entry that is taken out of a linked log, or
given another hash, shows at the next one. -/

namespace WorksAuto.Lib.HashChain

universe u v

variable {ε : Type u} {η : Type v} (previous current : ε → η)

/-- From the hash `h` on, every entry has the hash of the one before it. -/
def Linked (h : η) : List ε → Prop
  | [] => True
  | e :: rest => previous e = h ∧ Linked (current e) rest

instance decidableLinked [DecidableEq η] (h : η) : (log : List ε) →
    Decidable (Linked previous current h log)
  | [] => .isTrue trivial
  | e :: rest =>
    have := decidableLinked (current e) rest
    inferInstanceAs (Decidable (_ ∧ _))

def lastHash (h : η) (log : List ε) : η := (log.getLast?.map current).getD h

/-- One chain: exactly one entry begins it, every other entry follows exactly one
earlier entry, and no two entries follow the same one. -/
structure Unforked (genesis : η) (log : List ε) : Prop where
  begins : log ≠ [] → ∃! i : Fin log.length, previous log[i] = genesis
  follows : ∀ i : Fin log.length, previous log[i] ≠ genesis →
    ∃! j : Fin log.length, j < i ∧ current log[j] = previous log[i]
  unshared : ∀ i j : Fin log.length, previous log[i] = previous log[j] → i = j

section Linked

variable {previous current} {h genesis : η} {log rest : List ε} {e : ε}

@[simp] theorem lastHash_nil : lastHash current h [] = h := rfl

@[simp] theorem lastHash_append_singleton :
    lastHash current h (log ++ [e]) = current e := by
  simp [lastHash]

theorem lastHash_cons : lastHash current h (e :: log) = lastHash current (current e) log := by
  cases log with
  | nil => rfl
  | cons f log =>
    rw [lastHash, lastHash, List.getLast?_cons_cons, List.getLast?_eq_some_getLast (by simp)]
    rfl

theorem linked_append : Linked previous current h (log ++ rest) ↔
    Linked previous current h log ∧ Linked previous current (lastHash current h log) rest := by
  induction log generalizing h with
  | nil => simp [Linked]
  | cons e log ih => rw [List.cons_append, Linked, Linked, ih, lastHash_cons, and_assoc]

theorem linked_append_singleton : Linked previous current h (log ++ [e]) ↔
    Linked previous current h log ∧ previous e = lastHash current h log := by
  rw [linked_append, Linked, Linked, and_true]

theorem Linked.getElem (hlog : Linked previous current h log) {i : ℕ} (hi : i < log.length) :
    previous log[i] = lastHash current h (log.take i) := by
  have hsplit : log.take i ++ log[i] :: log.drop (i + 1) = log := by
    rw [← List.drop_eq_getElem_cons hi, List.take_append_drop]
  rw [← hsplit, linked_append] at hlog
  exact hlog.2.1

theorem linked_modify {f : ε → ε} (hprevious : ∀ e, previous (f e) = previous e)
    (hcurrent : ∀ e, current (f e) = current e) (i : ℕ) :
    Linked previous current h (log.modify i f) ↔ Linked previous current h log := by
  induction log generalizing h i with
  | nil => rw [List.modify_nil]
  | cons e log ih =>
    cases i with
    | zero => rw [List.modify_zero_cons, Linked, Linked, hprevious, hcurrent]
    | succ i => rw [List.modify_succ_cons, Linked, Linked, ih]

end Linked

section Growing

variable {previous current} {genesis : η} {log : List ε} {size : η → ℕ}

theorem Linked.size_lt (hlog : Linked previous current genesis log)
    (grows : ∀ e ∈ log, size (previous e) < size (current e)) {i j : ℕ} (hj : j < log.length)
    (hij : i < j) : size (current log[i]) < size (current log[j]) := by
  induction j with
  | zero => omega
  | succ j ih =>
    have hlt : j < log.length := by omega
    have htake : log.take (j + 1) = log.take j ++ [log[j]] := by
      rw [List.take_concat_get' _ _ hlt]
    have hprevious : previous log[j + 1] = current log[j] := by
      rw [hlog.getElem hj, htake, lastHash_append_singleton]
    have hgrows := grows log[j + 1] (List.getElem_mem hj)
    rw [hprevious] at hgrows
    rcases Nat.lt_succ_iff_lt_or_eq.mp hij with hlt' | rfl
    · exact (ih hlt hlt').trans hgrows
    · exact hgrows

theorem Linked.genesis_lt (hlog : Linked previous current genesis log)
    (grows : ∀ e ∈ log, size (previous e) < size (current e)) {j : ℕ} (hj : j < log.length) :
    size genesis < size (current log[j]) := by
  have hfirst : size genesis < size (current log[0]) := by
    have h0 := hlog.getElem (i := 0) (by omega)
    rw [List.take_zero, lastHash_nil] at h0
    rw [← h0]
    exact grows _ (List.getElem_mem _)
  rcases Nat.eq_zero_or_pos j with rfl | hpos
  · exact hfirst
  · exact hfirst.trans (hlog.size_lt grows hj hpos)

theorem Linked.previous_eq (hlog : Linked previous current genesis log) {i : ℕ}
    (hi : i < log.length) :
    (i = 0 ∧ previous log[i] = genesis) ∨
      ∃ j, ∃ hj : j + 1 = i, previous log[i] = current log[j] := by
  cases i with
  | zero => exact .inl ⟨rfl, by rw [hlog.getElem hi, List.take_zero, lastHash_nil]⟩
  | succ j =>
    refine .inr ⟨j, rfl, ?_⟩
    have htake : log.take (j + 1) = log.take j ++ [log[j]] := by
      rw [List.take_concat_get' _ _ (by omega)]
    rw [hlog.getElem hi, htake, lastHash_append_singleton]

theorem Linked.unforked (hlog : Linked previous current genesis log)
    (grows : ∀ e ∈ log, size (previous e) < size (current e)) : Unforked previous current genesis log := by
  have inj : ∀ {i j : ℕ} (hi : i < log.length) (hj : j < log.length),
      current log[i] = current log[j] → i = j := by
    intro i j hi hj he
    rcases Nat.lt_trichotomy i j with hlt | heq | hgt
    · exact absurd (hlog.size_lt grows hj hlt) (by rw [he]; omega)
    · exact heq
    · exact absurd (hlog.size_lt grows hi hgt) (by rw [he]; omega)
  have fresh : ∀ {j : ℕ} (hj : j < log.length), current log[j] ≠ genesis := by
    intro j hj he
    exact absurd (hlog.genesis_lt grows hj) (by rw [he]; omega)
  refine ⟨fun hne => ?_, fun i hi => ?_, fun i j hij => ?_⟩
  · have hpos := List.length_pos_iff.mpr hne
    refine ⟨⟨0, hpos⟩, by simpa using hlog.getElem hpos, fun i hi => ?_⟩
    rcases hlog.previous_eq i.isLt with ⟨h0, -⟩ | ⟨j, _, hj⟩
    · exact Fin.ext h0
    · exact absurd (hj.symm.trans hi) (fresh _)
  · rcases hlog.previous_eq i.isLt with ⟨-, h0⟩ | ⟨j, hj, hprevious⟩
    · exact absurd h0 hi
    · have hlt : j < log.length := by omega
      refine ⟨⟨j, hlt⟩, ⟨Fin.lt_def.mpr (by simp only; omega), hprevious.symm⟩, ?_⟩
      rintro k ⟨-, hk⟩
      exact Fin.ext (inj k.isLt hlt (hk.trans hprevious))
  · rcases hlog.previous_eq i.isLt with ⟨hi, hi'⟩ | ⟨a, ha, ha'⟩ <;>
      rcases hlog.previous_eq j.isLt with ⟨hj, hj'⟩ | ⟨b, hb, hb'⟩
    · exact Fin.ext (hi.trans hj.symm)
    · exact absurd (hb'.symm.trans (hij.symm.trans hi')) (fresh _)
    · exact absurd (ha'.symm.trans (hij.trans hj')) (fresh _)
    · have hab := inj (by omega) (by omega) (ha'.symm.trans (hij.trans hb'))
      exact Fin.ext (by omega)

theorem Linked.not_eraseIdx (hlog : Linked previous current genesis log)
    (grows : ∀ e ∈ log, size (previous e) < size (current e)) {i : ℕ} (hi : i + 1 < log.length) :
    ¬ Linked previous current genesis (log.eraseIdx i) := by
  intro hrest
  have hlt : i < log.length := by omega
  have hlt' : i < (log.eraseIdx i).length := by
    rw [List.length_eraseIdx_of_lt hlt]
    omega
  have hnext := hrest.getElem hlt'
  rw [List.getElem_eraseIdx_of_ge hlt' le_rfl, List.take_eraseIdx_eq_take_of_le log i i le_rfl,
    ← hlog.getElem hlt, hlog.getElem hi, ← List.take_concat_get' _ _ hlt,
    lastHash_append_singleton] at hnext
  have hgrows := grows log[i] (List.getElem_mem hlt)
  rw [hnext] at hgrows
  exact lt_irrefl _ hgrows

theorem Linked.found_eq_last_iff (hlog : Linked previous current genesis log)
    (grows : ∀ e ∈ log, size (previous e) < size (current e)) {found : Option ε}
    (hfound : ∀ e ∈ found, e ∈ log) :
    (found.map current).getD genesis = lastHash current genesis log ↔ found = log.getLast? := by
  refine ⟨fun hhash => ?_, fun h => by rw [h]; rfl⟩
  rcases List.eq_nil_or_concat' log with rfl | ⟨start, final, rfl⟩
  · cases found with
    | none => rfl
    | some e => cases hfound e rfl
  · have hlt : start.length < (start ++ [final]).length := by simp
    have hfinal : (start ++ [final])[start.length] = final := by simp
    rw [lastHash_append_singleton] at hhash
    rw [List.getLast?_append, List.getLast?_singleton]
    cases found with
    | none =>
      have hgenesis := hlog.genesis_lt grows hlt
      rw [hfinal, ← hhash] at hgenesis
      exact absurd hgenesis (lt_irrefl _)
    | some e =>
      obtain ⟨i, hi, rfl⟩ := List.mem_iff_getElem.mp (hfound e rfl)
      rcases Nat.lt_or_ge i start.length with hbefore | hafter
      · have hsize := hlog.size_lt grows hlt hbefore
        have hsame : current (start ++ [final])[i] = current final := hhash
        rw [hfinal, hsame] at hsize
        exact absurd hsize (lt_irrefl _)
      · have hi' : i = start.length := by
          rw [List.length_append, List.length_singleton] at hi
          omega
        subst hi'
        rw [hfinal]
        rfl

theorem Unforked.linked (hlog : Unforked previous current genesis log) :
    Linked previous current genesis log := by
  have prefix_linked : ∀ n ≤ log.length, Linked previous current genesis (log.take n) := by
    intro n
    induction n with
    | zero => exact fun _ => trivial
    | succ n ih =>
      intro hn
      have hlt : n < log.length := hn
      have htake : log.take (n + 1) = log.take n ++ [log[n]] := by
        rw [List.take_concat_get' _ _ hlt]
      have hbefore := ih hlt.le
      rw [htake, linked_append_singleton]
      refine ⟨hbefore, ?_⟩
      by_cases hgenesis : previous log[n] = genesis
      · -- only the first entry can begin the chain
        have hzero : n = 0 := by
          obtain ⟨first, -, hone⟩ := hlog.begins (List.ne_nil_of_length_pos (by omega))
          have hfirst : previous log[0] = genesis := by
            by_contra hne
            obtain ⟨j, ⟨hj, -⟩, -⟩ := hlog.follows ⟨0, by omega⟩ hne
            exact absurd (Fin.lt_def.mp hj) (Nat.not_lt_zero _)
          have h0 := (hone ⟨0, by omega⟩ hfirst).trans (hone ⟨n, hlt⟩ hgenesis).symm
          exact (Fin.mk.inj h0).symm
        subst hzero
        exact hgenesis
      · obtain ⟨j, ⟨hjn, hj⟩, -⟩ := hlog.follows ⟨n, hlt⟩ hgenesis
        have hjlt : j.val < n := Fin.lt_def.mp hjn
        -- an earlier predecessor already has its successor
        have hlast : j.val + 1 = n := by
          by_contra hne
          have hnext : j.val + 1 < (log.take n).length := by
            rw [List.length_take]
            omega
          have hprevious := hbefore.getElem hnext
          rw [List.getElem_take, List.take_take, Nat.min_eq_left (by omega)] at hprevious
          rw [← List.take_concat_get' _ _ j.isLt, lastHash_append_singleton] at hprevious
          have hsame := hlog.unshared ⟨j.val + 1, by omega⟩ ⟨n, hlt⟩ (hprevious.trans hj)
          exact hne (congrArg Fin.val hsame)
        subst hlast
        rw [← List.take_concat_get' _ _ j.isLt, lastHash_append_singleton]
        exact hj.symm
  have hall := prefix_linked log.length le_rfl
  rwa [List.take_length] at hall

theorem Unforked.nodup (hlog : Unforked previous current genesis log) : (log.map previous).Nodup := by
  refine List.nodup_iff_injective_getElem.mpr fun i j hij => ?_
  simp only [List.getElem_map] at hij
  have hi : i.val < log.length := by simpa using i.isLt
  have hj : j.val < log.length := by simpa using j.isLt
  have hsame := hlog.unshared ⟨i, hi⟩ ⟨j, hj⟩ hij
  exact Fin.ext (Fin.mk.inj hsame)

end Growing

end WorksAuto.Lib.HashChain
