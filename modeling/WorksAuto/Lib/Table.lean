import Mathlib.Algebra.BigOperators.Group.List.Basic
import Mathlib.Algebra.Order.BigOperators.Group.List
import Mathlib.Data.List.Nodup
import Mathlib.Tactic.Common

/-! Keyed tables: rows in insertion order under natural-number keys.
Keys are handed out by a counter that only grows, so a deleted key is never
reused. Both facts are fields of `Table`; no operation can break them.
Sums over a table are related to insertion, modification and deletion of a
single row, which is what invariants over whole runs need. -/

namespace WorksAuto.Lib

universe u v

structure Table (ρ : Type u) where
  rows : List (ℕ × ρ)
  next : ℕ
  keys_nodup : (rows.map Prod.fst).Nodup
  keys_lt : ∀ p ∈ rows, p.1 < next

namespace Table

variable {ρ : Type u} {M : Type v}

def empty : Table ρ where
  rows := []
  next := 0
  keys_nodup := List.nodup_nil
  keys_lt := by simp

def get? (t : Table ρ) (k : ℕ) : Option ρ :=
  (t.rows.find? fun p => p.1 == k).map Prod.snd

def find? (t : Table ρ) (p : ρ → Bool) : Option (ℕ × ρ) :=
  t.rows.find? fun q => p q.2

def filter (t : Table ρ) (p : ρ → Bool) : List (ℕ × ρ) :=
  t.rows.filter fun q => p q.2

def insert (t : Table ρ) (r : ρ) : Table ρ where
  rows := t.rows ++ [(t.next, r)]
  next := t.next + 1
  keys_nodup := by
    rw [List.map_append, List.nodup_append]
    refine ⟨t.keys_nodup, by simp, ?_⟩
    intro a ha b hb
    obtain ⟨p, hp, rfl⟩ := List.mem_map.mp ha
    have hlt := t.keys_lt p hp
    simp only [List.map_cons, List.map_nil, List.mem_singleton] at hb
    omega
  keys_lt := by
    intro p hp
    rcases List.mem_append.mp hp with hp | hp
    · have hlt := t.keys_lt p hp
      omega
    · rw [List.mem_singleton.mp hp]
      exact Nat.lt_succ_self _

/-- Rewrite the rows that satisfy a test on key and row; keys stay. -/
def modifyIf (t : Table ρ) (c : ℕ → ρ → Bool) (f : ρ → ρ) : Table ρ where
  rows := t.rows.map fun p => (p.1, if c p.1 p.2 then f p.2 else p.2)
  next := t.next
  keys_nodup := by
    have h : Prod.fst ∘ (fun p : ℕ × ρ => (p.1, if c p.1 p.2 then f p.2 else p.2)) =
        Prod.fst := rfl
    rw [List.map_map, h]
    exact t.keys_nodup
  keys_lt := by
    intro p hp
    obtain ⟨q, hq, rfl⟩ := List.mem_map.mp hp
    exact t.keys_lt q hq

def modify (t : Table ρ) (k : ℕ) (f : ρ → ρ) : Table ρ :=
  t.modifyIf (fun i _ => i == k) f

def mapRows {β : Type v} (t : Table ρ) (f : ℕ → ρ → β) : Table β where
  rows := t.rows.map fun p => (p.1, f p.1 p.2)
  next := t.next
  keys_nodup := by
    have h : Prod.fst ∘ (fun p : ℕ × ρ => (p.1, f p.1 p.2)) = Prod.fst := rfl
    rw [List.map_map, h]
    exact t.keys_nodup
  keys_lt := by
    intro p hp
    obtain ⟨q, hq, rfl⟩ := List.mem_map.mp hp
    exact t.keys_lt q hq

def erase (t : Table ρ) (k : ℕ) : Table ρ where
  rows := t.rows.filter fun p => p.1 != k
  next := t.next
  keys_nodup := t.keys_nodup.sublist (List.filter_sublist.map _)
  keys_lt := fun p hp => t.keys_lt p (List.mem_of_mem_filter hp)

def eraseIf (t : Table ρ) (c : ρ → Bool) : Table ρ where
  rows := t.rows.filter fun p => !c p.2
  next := t.next
  keys_nodup := t.keys_nodup.sublist (List.filter_sublist.map _)
  keys_lt := fun p hp => t.keys_lt p (List.mem_of_mem_filter hp)

def sumBy [AddCommMonoid M] (t : Table ρ) (f : ρ → M) : M :=
  (t.rows.map fun p => f p.2).sum

/-- A table of the given rows under the keys `0, 1, ...`. -/
def ofList (rs : List ρ) : Table ρ := rs.foldl insert empty

theorem mem_rows_iff (t : Table ρ) (k : ℕ) (r : ρ) :
    (k, r) ∈ t.rows ↔ t.get? k = some r := by
  constructor
  · intro h
    cases hf : t.rows.find? (fun p => p.1 == k) with
    | none => simpa using List.find?_eq_none.mp hf _ h
    | some q =>
      have hq := List.mem_of_find?_eq_some hf
      have hk : q.1 = k := by simpa using List.find?_some hf
      have heq : q = (k, r) := List.inj_on_of_nodup_map t.keys_nodup hq h hk
      simp [get?, hf, heq]
  · intro h
    obtain ⟨q, hf, rfl⟩ := Option.map_eq_some_iff.mp h
    have hq := List.mem_of_find?_eq_some hf
    have hk : q.1 = k := by simpa using List.find?_some hf
    rwa [← hk]

instance decidableForall (t : Table ρ) {P : ℕ → ρ → Prop} [∀ k r, Decidable (P k r)] :
    Decidable (∀ k r, t.get? k = some r → P k r) :=
  decidable_of_iff (∀ q ∈ t.rows, P q.1 q.2) <| by
    simp only [Prod.forall, mem_rows_iff]

theorem get?_lt {t : Table ρ} {k : ℕ} {r : ρ} (h : t.get? k = some r) : k < t.next :=
  t.keys_lt _ ((t.mem_rows_iff k r).mpr h)

theorem get?_next (t : Table ρ) : t.get? t.next = none := by
  cases h : t.get? t.next with
  | none => rfl
  | some r => exact absurd (get?_lt h) (Nat.lt_irrefl _)

theorem find?_some {t : Table ρ} {p : ρ → Bool} {k : ℕ} {r : ρ}
    (h : t.find? p = some (k, r)) : t.get? k = some r ∧ p r = true := by
  unfold find? at h
  have hp := List.find?_some h
  exact ⟨(t.mem_rows_iff k r).mp (List.mem_of_find?_eq_some h), hp⟩

theorem find?_none {t : Table ρ} {p : ρ → Bool} (h : t.find? p = none)
    {k : ℕ} {r : ρ} (hr : t.get? k = some r) : p r = false := by
  simpa using List.find?_eq_none.mp h _ ((t.mem_rows_iff k r).mpr hr)

theorem find?_isSome_iff {t : Table ρ} {p : ρ → Bool} :
    (t.find? p).isSome ↔ ∃ k r, t.get? k = some r ∧ p r = true := by
  constructor
  · intro h
    obtain ⟨⟨k, r⟩, hfound⟩ := Option.isSome_iff_exists.mp h
    exact ⟨k, r, find?_some hfound⟩
  · rintro ⟨k, r, hr, hp⟩
    by_contra hnone
    rw [Option.not_isSome_iff_eq_none] at hnone
    rw [find?_none hnone hr] at hp
    cases hp

theorem find?_isSome {t : Table ρ} {p : ρ → Bool} {k : ℕ} {r : ρ} (h : t.get? k = some r)
    (hp : p r = true) : (t.find? p).isSome = true :=
  find?_isSome_iff.mpr ⟨k, r, h, hp⟩

theorem mem_filter_iff {t : Table ρ} {p : ρ → Bool} {k : ℕ} {r : ρ} :
    (k, r) ∈ t.filter p ↔ t.get? k = some r ∧ p r = true := by
  rw [filter, List.mem_filter, mem_rows_iff]

@[simp] theorem get?_empty (k : ℕ) : (empty : Table ρ).get? k = none := rfl

@[simp] theorem insert_next (t : Table ρ) (r : ρ) : (t.insert r).next = t.next + 1 := rfl

@[simp] theorem modifyIf_next (t : Table ρ) (c : ℕ → ρ → Bool) (f : ρ → ρ) :
    (t.modifyIf c f).next = t.next := rfl

@[simp] theorem modify_next (t : Table ρ) (k : ℕ) (f : ρ → ρ) :
    (t.modify k f).next = t.next := rfl

@[simp] theorem erase_next (t : Table ρ) (k : ℕ) : (t.erase k).next = t.next := rfl

theorem get?_insert (t : Table ρ) (r : ρ) (k : ℕ) :
    (t.insert r).get? k = if k = t.next then some r else t.get? k := by
  have happ : (t.insert r).get? k =
      ((t.rows.find? fun p => p.1 == k).or ([(t.next, r)].find? fun p => p.1 == k)).map
        Prod.snd := by
    rw [← List.find?_append]
    rfl
  rw [happ]
  split_ifs with h
  · have hnone : (t.rows.find? fun p => p.1 == k) = none := by
      simpa [get?, h] using t.get?_next
    rw [hnone, h]
    simp
  · have hne : t.next ≠ k := fun he => h he.symm
    rw [List.find?_singleton]
    simp [hne, get?]

@[simp] theorem get?_insert_self (t : Table ρ) (r : ρ) :
    (t.insert r).get? t.next = some r := by
  rw [get?_insert, if_pos rfl]

theorem get?_insert_of_some {t : Table ρ} {k : ℕ} {s : ρ} (h : t.get? k = some s) (r : ρ) :
    (t.insert r).get? k = some s := by
  have hlt := get?_lt h
  rw [get?_insert, if_neg (by omega), h]

theorem get?_foldl_insert {rows : List ρ} {t : Table ρ} {k : ℕ} {r : ρ}
    (h : (rows.foldl insert t).get? k = some r) : t.get? k = some r ∨ r ∈ rows := by
  induction rows generalizing t with
  | nil => exact .inl h
  | cons s rows ih =>
    rcases ih h with hk | hk
    · rw [get?_insert] at hk
      split_ifs at hk
      · cases hk
        exact .inr List.mem_cons_self
      · exact .inl hk
    · exact .inr (List.mem_cons_of_mem _ hk)

theorem get?_foldl_insert_eq (rows : List ρ) (t : Table ρ) (k : ℕ) :
    (rows.foldl insert t).get? k =
      (t.get? k).or (if t.next ≤ k then rows[k - t.next]? else none) := by
  induction rows generalizing t with
  | nil => simp
  | cons r rows ih =>
    rw [List.foldl_cons, ih, get?_insert, insert_next]
    rcases Nat.lt_trichotomy k t.next with hlt | heq | hgt
    · rw [if_neg (by omega), if_neg (by omega), if_neg (by omega)]
    · subst heq
      simp [get?_next]
    · have hsub : k - t.next = k - (t.next + 1) + 1 := by omega
      rw [if_neg (by omega), if_pos (by omega), if_pos (by omega), hsub, List.getElem?_cons_succ]

theorem exists_get?_foldl_insert {rows : List ρ} {r : ρ} (h : r ∈ rows) (t : Table ρ) :
    ∃ k, (rows.foldl insert t).get? k = some r := by
  obtain ⟨i, hi⟩ := List.getElem?_of_mem h
  refine ⟨t.next + i, ?_⟩
  have hnone : t.get? (t.next + i) = none := by
    cases hk : t.get? (t.next + i) with
    | none => rfl
    | some s => exact absurd (get?_lt hk) (by omega)
  rw [get?_foldl_insert_eq, hnone, if_pos (Nat.le_add_right _ _), Nat.add_sub_cancel_left, hi]
  rfl

/-- A search that may return any of the rows it finds returns a given one for
certain precisely when that is the only one. -/
theorem forall_choice_iff {t : Table ρ} {p : ρ → Bool} {k : ℕ} {r : ρ} :
    (∀ choice, (t.filter p)[choice % (t.filter p).length]? = some (k, r)) ↔
      t.get? k = some r ∧ p r = true ∧ ∀ i s, t.get? i = some s → p s = true → i = k := by
  constructor
  · intro h
    obtain ⟨hk, hp⟩ := mem_filter_iff.mp (List.mem_of_getElem? (h 0))
    refine ⟨hk, hp, fun i s hs hps => ?_⟩
    obtain ⟨j, hj, hget⟩ := List.mem_iff_getElem.mp (mem_filter_iff.mpr ⟨hs, hps⟩)
    have hchoice := h j
    rw [Nat.mod_eq_of_lt hj, List.getElem?_eq_getElem hj, hget, Option.some.injEq] at hchoice
    exact congrArg Prod.fst hchoice
  · rintro ⟨hk, hp, honly⟩ choice
    have hpos : 0 < (t.filter p).length := List.length_pos_of_mem (mem_filter_iff.mpr ⟨hk, hp⟩)
    have hlt := Nat.mod_lt choice hpos
    rw [List.getElem?_eq_getElem hlt, Option.some.injEq]
    obtain ⟨hs, hps⟩ := mem_filter_iff.mp (List.getElem_mem hlt)
    have hkey := honly _ _ hs hps
    rw [hkey, hk] at hs
    exact Prod.ext hkey (Option.some.inj hs).symm

theorem get?_modifyIf (t : Table ρ) (c : ℕ → ρ → Bool) (f : ρ → ρ) (k : ℕ) :
    (t.modifyIf c f).get? k = (t.get? k).map fun r => if c k r then f r else r := by
  cases h : t.get? k with
  | none =>
    cases h' : (t.modifyIf c f).get? k with
    | none => rfl
    | some r =>
      obtain ⟨q, hq, he⟩ := List.mem_map.mp ((mem_rows_iff _ k r).mpr h')
      have hk : q.1 = k := congrArg Prod.fst he
      have := (t.mem_rows_iff k q.2).mp (by rw [← hk]; exact hq)
      rw [h] at this
      cases this
  | some r =>
    have hr := (t.mem_rows_iff k r).mpr h
    exact (mem_rows_iff _ _ _).mp (List.mem_map.mpr ⟨(k, r), hr, rfl⟩)

theorem get?_mapRows {β : Type v} (t : Table ρ) (f : ℕ → ρ → β) (k : ℕ) :
    (t.mapRows f).get? k = (t.get? k).map (f k) := by
  apply Option.ext
  intro s
  rw [← mem_rows_iff, Option.map_eq_some_iff]
  constructor
  · intro h
    obtain ⟨⟨i, r⟩, hr, he⟩ := List.mem_map.mp h
    obtain ⟨rfl, rfl⟩ := Prod.mk.inj he
    exact ⟨r, (t.mem_rows_iff i r).mp hr, rfl⟩
  · rintro ⟨r, hr, rfl⟩
    exact List.mem_map.mpr ⟨(k, r), (t.mem_rows_iff k r).mpr hr, rfl⟩

theorem filter_insert (t : Table ρ) (r : ρ) (p : ρ → Bool) :
    (t.insert r).filter p = t.filter p ++ if p r then [(t.next, r)] else [] := by
  simp only [filter, insert, List.filter_append]
  split_ifs with h <;> simp [h]

theorem find?_insert (t : Table ρ) (r : ρ) (p : ρ → Bool) :
    (t.insert r).find? p = (t.find? p).or (if p r then some (t.next, r) else none) := by
  simp only [find?, insert, List.find?_append]
  split_ifs with h <;> simp [h]

theorem find?_modify {t : Table ρ} {k : ℕ} {f : ρ → ρ} {p : ρ → Bool} (h : ∀ r, p (f r) = p r) :
    (t.modify k f).find? p =
      (t.find? p).map fun q => (q.1, if q.1 = k then f q.2 else q.2) := by
  have hrows : (t.modify k f).rows = t.rows.map fun q => (q.1, if q.1 = k then f q.2 else q.2) := by
    simp [modify, modifyIf]
  have htest : (fun q : ℕ × ρ => p q.2) ∘
      (fun q : ℕ × ρ => (q.1, if q.1 = k then f q.2 else q.2)) = fun q => p q.2 := by
    funext q
    simp only [Function.comp_apply]
    split_ifs
    · exact h q.2
    · rfl
  rw [find?, hrows, List.find?_map, htest]
  rfl

theorem filter_modify {t : Table ρ} {k : ℕ} {f : ρ → ρ} {p : ρ → Bool} (h : ∀ r, p (f r) = p r) :
    (t.modify k f).filter p =
      (t.filter p).map fun q => (q.1, if q.1 = k then f q.2 else q.2) := by
  have hrows : (t.modify k f).rows = t.rows.map fun q => (q.1, if q.1 = k then f q.2 else q.2) := by
    simp [modify, modifyIf]
  have htest : (fun q : ℕ × ρ => p q.2) ∘
      (fun q : ℕ × ρ => (q.1, if q.1 = k then f q.2 else q.2)) = fun q => p q.2 := by
    funext q
    simp only [Function.comp_apply]
    split_ifs
    · exact h q.2
    · rfl
  rw [filter, hrows, List.filter_map, htest]
  rfl

theorem filter_modifyIf (t : Table ρ) (c : ℕ → ρ → Bool) {f : ρ → ρ} {p : ρ → Bool}
    (h : ∀ r, p (f r) = p r) :
    (t.modifyIf c f).filter p =
      (t.filter p).map fun q => (q.1, if c q.1 q.2 then f q.2 else q.2) := by
  simp only [filter, modifyIf, List.filter_map]
  congr 1
  refine List.filter_congr fun q _ => ?_
  simp only [Function.comp_apply]
  split
  · exact h q.2
  · rfl

theorem filter_keys_nodup (t : Table ρ) (p : ρ → Bool) : ((t.filter p).map Prod.fst).Nodup :=
  t.keys_nodup.sublist (List.filter_sublist.map _)

theorem filter_modify_of_false {t : Table ρ} {k : ℕ} {f : ρ → ρ} {p : ρ → Bool}
    (h : ∀ r, t.get? k = some r → p r = false ∧ p (f r) = false) :
    (t.modify k f).filter p = t.filter p := by
  have split : ∀ l : List (ℕ × ρ), (∀ q ∈ l, t.get? q.1 = some q.2) →
      (l.map fun q => (q.1, if q.1 == k then f q.2 else q.2)).filter (fun q => p q.2) =
        l.filter fun q => p q.2 := by
    intro l hl
    induction l with
    | nil => rfl
    | cons q l ih =>
      obtain ⟨hq, hrest⟩ := List.forall_mem_cons.mp hl
      rw [List.map_cons]
      by_cases hk : q.1 = k
      · obtain ⟨hold, hnew⟩ := h q.2 (hk ▸ hq)
        rw [List.filter_cons_of_neg (by simp [hk, hnew]), List.filter_cons_of_neg (by simp [hold]),
          ih hrest]
      · have hsame : (q.1, if q.1 == k then f q.2 else q.2) = q := by simp [hk]
        rw [hsame, List.filter_cons, List.filter_cons, ih hrest]
  apply split
  rintro ⟨i, r⟩ hq
  exact (t.mem_rows_iff i r).mp hq

theorem filter_erase_of_false {t : Table ρ} {k : ℕ} {p : ρ → Bool}
    (h : ∀ r, t.get? k = some r → p r = false) : (t.erase k).filter p = t.filter p := by
  simp only [filter, erase, List.filter_filter]
  apply List.filter_congr
  rintro ⟨i, r⟩ hr
  by_cases hi : i = k
  · simp [h r (hi ▸ (t.mem_rows_iff i r).mp hr)]
  · simp [hi]

theorem get?_modify (t : Table ρ) (k : ℕ) (f : ρ → ρ) (i : ℕ) :
    (t.modify k f).get? i = (t.get? i).map fun r => if i = k then f r else r := by
  rw [modify, get?_modifyIf]
  simp

theorem of_get?_modifyIf {t : Table ρ} {c : ℕ → ρ → Bool} {f : ρ → ρ} {k : ℕ} {r : ρ}
    (h : (t.modifyIf c f).get? k = some r) :
    ∃ old, t.get? k = some old ∧ (if c k old then f old else old) = r := by
  rw [get?_modifyIf] at h
  exact Option.map_eq_some_iff.mp h

theorem of_get?_modify {t : Table ρ} {k i : ℕ} {f : ρ → ρ} {r : ρ}
    (h : (t.modify k f).get? i = some r) :
    ∃ old, t.get? i = some old ∧ (if i = k then f old else old) = r := by
  rw [get?_modify] at h
  exact Option.map_eq_some_iff.mp h

theorem get?_modify_self {t : Table ρ} {k : ℕ} {r : ρ} (h : t.get? k = some r) (f : ρ → ρ) :
    (t.modify k f).get? k = some (f r) := by
  simp [get?_modify, h]

theorem get?_modify_ne (t : Table ρ) {k i : ℕ} (h : i ≠ k) (f : ρ → ρ) :
    (t.modify k f).get? i = t.get? i := by
  simp [get?_modify, h]

theorem modify_congr {t : Table ρ} {k : ℕ} {r : ρ} {f g : ρ → ρ} (h : t.get? k = some r)
    (hfg : f r = g r) : t.modify k f = t.modify k g := by
  have hrows : (t.modify k f).rows = (t.modify k g).rows := by
    apply List.map_congr_left
    rintro ⟨i, s⟩ hs
    by_cases hi : i = k
    · subst hi
      have : s = r := Option.some.inj (((t.mem_rows_iff i s).mp hs).symm.trans h)
      simp [this, hfg]
    · simp [hi]
  simp only [modify, modifyIf] at hrows ⊢
  congr 1

theorem modifyIf_eq_self {t : Table ρ} {c : ℕ → ρ → Bool} {f : ρ → ρ}
    (h : ∀ k r, t.get? k = some r → c k r = true → f r = r) : t.modifyIf c f = t := by
  have hrows : (t.modifyIf c f).rows = t.rows := by
    refine (List.map_congr_left ?_).trans (List.map_id t.rows)
    rintro ⟨k, r⟩ hr
    simp only [id]
    split_ifs with hc
    · rw [h k r ((t.mem_rows_iff k r).mp hr) hc]
    · rfl
  cases t
  simp only [modifyIf] at hrows ⊢
  congr 1

theorem get?_erase (t : Table ρ) (k i : ℕ) :
    (t.erase k).get? i = if i = k then none else t.get? i := by
  have hmem : ∀ r, (t.erase k).get? i = some r ↔ t.get? i = some r ∧ i ≠ k := by
    intro r
    rw [← mem_rows_iff, ← mem_rows_iff, erase, List.mem_filter]
    simp
  apply Option.ext
  intro r
  rw [hmem r]
  split_ifs with h <;> simp [h]

theorem get?_eraseIf {t : Table ρ} {c : ρ → Bool} {i : ℕ} {r : ρ} :
    (t.eraseIf c).get? i = some r ↔ t.get? i = some r ∧ c r = false := by
  rw [← mem_rows_iff, ← mem_rows_iff, eraseIf, List.mem_filter]
  simp

end Table

section Sums

variable {ρ : Type u} {M : Type v} [AddCommMonoid M]

namespace Table

theorem sumBy_insert (t : Table ρ) (r : ρ) (f : ρ → M) :
    (t.insert r).sumBy f = t.sumBy f + f r := by
  simp [sumBy, insert]

theorem sumBy_foldl_insert (rows : List ρ) (t : Table ρ) (f : ρ → M) :
    (rows.foldl insert t).sumBy f = t.sumBy f + (rows.map f).sum := by
  induction rows generalizing t with
  | nil => simp
  | cons r rows ih => rw [List.foldl_cons, ih, sumBy_insert, List.map_cons, List.sum_cons, add_assoc]

theorem sumBy_modifyIf_congr (t : Table ρ) (c : ℕ → ρ → Bool) (g : ρ → ρ) (f : ρ → M)
    (h : ∀ k r, t.get? k = some r → c k r = true → f (g r) = f r) :
    (t.modifyIf c g).sumBy f = t.sumBy f := by
  simp only [sumBy, modifyIf, List.map_map]
  congr 1
  apply List.map_congr_left
  rintro ⟨k, r⟩ hp
  have hr := (t.mem_rows_iff k r).mp hp
  by_cases hc : c k r = true
  · simp [hc, h k r hr hc]
  · simp [hc]

theorem sumBy_congr (t : Table ρ) {f g : ρ → M}
    (h : ∀ k r, t.get? k = some r → f r = g r) : t.sumBy f = t.sumBy g := by
  simp only [sumBy]
  congr 1
  apply List.map_congr_left
  rintro ⟨k, r⟩ hp
  exact h k r ((t.mem_rows_iff k r).mp hp)

theorem sum_filter (t : Table ρ) (c : ρ → Bool) (f : ρ → M) :
    ((t.filter c).map fun q => f q.2).sum = t.sumBy fun r => if c r then f r else 0 := by
  simp only [filter, sumBy]
  induction t.rows with
  | nil => rfl
  | cons q rows ih =>
    rw [List.map_cons, List.sum_cons, ← ih, List.filter_cons]
    split_ifs <;> simp

theorem sumBy_add (t : Table ρ) (f g : ρ → M) :
    t.sumBy (fun r => f r + g r) = t.sumBy f + t.sumBy g := by
  simp only [sumBy]
  exact List.sum_map_add

theorem sumBy_zero (t : Table ρ) : t.sumBy (fun _ => (0 : M)) = 0 := by
  simp [sumBy]

theorem sumBy_erase {t : Table ρ} {k : ℕ} {r : ρ} (h : t.get? k = some r) (f : ρ → M) :
    (t.erase k).sumBy f + f r = t.sumBy f := by
  have hmem := (t.mem_rows_iff k r).mpr h
  have split : ∀ l : List (ℕ × ρ), (l.map Prod.fst).Nodup → (k, r) ∈ l →
      ((l.filter fun p => p.1 != k).map fun p => f p.2).sum + f r =
        (l.map fun p => f p.2).sum := by
    intro l
    induction l with
    | nil => simp
    | cons q l ih =>
      intro hn hm
      rw [List.map_cons, List.nodup_cons] at hn
      rcases List.mem_cons.mp hm with rfl | hm'
      · have hall : l.filter (fun p => p.1 != k) = l := by
          rw [List.filter_eq_self]
          intro p hp
          have : p.1 ≠ k := fun he => hn.1 (List.mem_map.mpr ⟨p, hp, he⟩)
          simpa using this
        simp [hall, add_comm]
      · have hne : q.1 ≠ k := fun he => hn.1 (List.mem_map.mpr ⟨(k, r), hm', he.symm⟩)
        rw [List.filter_cons_of_pos (by simpa using hne), List.map_cons, List.map_cons,
          List.sum_cons, List.sum_cons, add_assoc, ih hn.2 hm']
  exact split t.rows t.keys_nodup hmem

theorem sumBy_modify {t : Table ρ} {k : ℕ} {r : ρ} (h : t.get? k = some r)
    (g : ρ → ρ) (f : ρ → M) :
    (t.modify k g).sumBy f + f r = t.sumBy f + f (g r) := by
  have herase : ((t.modify k g).erase k).sumBy f = (t.erase k).sumBy f := by
    simp only [sumBy, erase, modify, modifyIf, List.filter_map, List.map_map]
    congr 1
    have hf : ((fun p : ℕ × ρ => p.1 != k) ∘
        fun p : ℕ × ρ => (p.1, if (p.1 == k) = true then g p.2 else p.2)) =
        fun p => p.1 != k := rfl
    rw [hf]
    apply List.map_congr_left
    intro p hp
    have hne : p.1 ≠ k := by simpa using (List.mem_filter.mp hp).2
    simp [hne]
  have hold := sumBy_erase h f
  have hnew := sumBy_erase (get?_modify_self h g) f
  rw [← hold, ← hnew, herase, add_assoc, add_assoc, add_comm (f r)]

theorem sumBy_modifyIf_map (t : Table ρ) (c : ℕ → ρ → Bool) (g : ρ → ρ) (f : ρ → M)
    (h : ∀ r, f (g r) = f r) : (t.modifyIf c g).sumBy f = t.sumBy f :=
  t.sumBy_modifyIf_congr c g f fun _ r _ _ => h r

theorem sumBy_of_rows_nil {t : Table ρ} (h : t.rows = []) (f : ρ → M) : t.sumBy f = 0 := by
  simp [sumBy, h]

theorem get?_of_rows_nil {t : Table ρ} (h : t.rows = []) (k : ℕ) : t.get? k = none := by
  simp [get?, h]

theorem sumBy_eq_zero (t : Table ρ) {f : ρ → M} (h : ∀ k r, t.get? k = some r → f r = 0) :
    t.sumBy f = 0 := by
  rw [t.sumBy_congr h, sumBy_zero]

end Table

end Sums

section Order

variable {ρ : Type u} {M : Type v} [AddCommMonoid M] [PartialOrder M] [IsOrderedAddMonoid M]

namespace Table

theorem sumBy_nonneg {t : Table ρ} {f : ρ → M} (h : ∀ k r, t.get? k = some r → 0 ≤ f r) :
    0 ≤ t.sumBy f := by
  apply List.sum_nonneg
  intro x hx
  obtain ⟨⟨k, r⟩, hp, rfl⟩ := List.mem_map.mp hx
  exact h k r ((t.mem_rows_iff k r).mp hp)

theorem sumBy_le_sumBy {t : Table ρ} {f g : ρ → M}
    (h : ∀ k r, t.get? k = some r → f r ≤ g r) : t.sumBy f ≤ t.sumBy g := by
  apply List.sum_le_sum
  rintro ⟨k, r⟩ hp
  exact h k r ((t.mem_rows_iff k r).mp hp)

theorem le_sumBy {t : Table ρ} {f : ρ → M} (h : ∀ k r, t.get? k = some r → 0 ≤ f r)
    {k : ℕ} {r : ρ} (hk : t.get? k = some r) : f r ≤ t.sumBy f := by
  rw [← sumBy_erase hk f]
  apply le_add_of_nonneg_left
  apply sumBy_nonneg
  intro i s hs
  rw [get?_erase] at hs
  split_ifs at hs
  exact h i s hs

theorem sum_le_sumBy {ι : Type*} {l : List ι} (key : ι → ℕ) {value : ι → M} {t : Table ρ}
    {f : ρ → M} (hkeys : (l.map key).Nodup)
    (hrow : ∀ i ∈ l, ∃ r, t.get? (key i) = some r ∧ value i ≤ f r)
    (h : ∀ k r, t.get? k = some r → 0 ≤ f r) : (l.map value).sum ≤ t.sumBy f := by
  induction l generalizing t with
  | nil => exact sumBy_nonneg h
  | cons i l ih =>
    obtain ⟨hnew, hrest⟩ := List.nodup_cons.mp hkeys
    obtain ⟨hfirst, hothers⟩ := List.forall_mem_cons.mp hrow
    obtain ⟨r, hr, hle⟩ := hfirst
    have htail : (l.map value).sum ≤ (t.erase (key i)).sumBy f := by
      refine ih hrest (fun j hj => ?_) fun k s hs => ?_
      · obtain ⟨s, hs, hsle⟩ := hothers j hj
        have hne : key j ≠ key i := fun he => hnew (List.mem_map.mpr ⟨j, hj, he⟩)
        exact ⟨s, by rw [get?_erase, if_neg hne]; exact hs, hsle⟩
      · rw [get?_erase] at hs
        split_ifs at hs
        exact h k s hs
    rw [List.map_cons, List.sum_cons, ← sumBy_erase hr f, add_comm]
    exact add_le_add htail hle

end Table

end Order

end WorksAuto.Lib
