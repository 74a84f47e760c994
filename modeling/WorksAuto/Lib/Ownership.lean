import WorksAuto.Lib.Table

/-! Rows that belong to somebody.
A column says whose a row is. A table may grow, change and lose rows; as long as
the rows that stay keep the column, a key once given out stays with its owner,
since no key is given out twice. -/

namespace WorksAuto.Lib.Table

universe u v

variable {ρ : Type u} {α : Type v} {old mid new t : Table ρ} {col : ρ → α} {a : α} {k : ℕ}

section Keeping

/-- No key is forgotten, and a row that was there already has its column as it was. -/
structure Keeps (col : ρ → α) (old new : Table ρ) : Prop where
  next_le : old.next ≤ new.next
  column : ∀ k r, k < old.next → new.get? k = some r → ∃ s, old.get? k = some s ∧ col s = col r

theorem Keeps.refl (col : ρ → α) (t : Table ρ) : Keeps col t t :=
  ⟨le_rfl, fun _ r _ hr => ⟨r, hr, rfl⟩⟩

theorem Keeps.trans (h : Keeps col old mid) (h' : Keeps col mid new) : Keeps col old new where
  next_le := h.next_le.trans h'.next_le
  column := by
    intro k r hk hr
    obtain ⟨s, hs, hsr⟩ := h'.column k r (hk.trans_le h.next_le) hr
    obtain ⟨q, hq, hqs⟩ := h.column k s hk hs
    exact ⟨q, hq, hqs.trans hsr⟩

theorem keeps_insert (col : ρ → α) (t : Table ρ) (r : ρ) : Keeps col t (t.insert r) where
  next_le := Nat.le_succ _
  column := by
    intro k s hk hs
    rw [get?_insert, if_neg hk.ne] at hs
    exact ⟨s, hs, rfl⟩

theorem keeps_foldl_insert (col : ρ → α) (rows : List ρ) (t : Table ρ) :
    Keeps col t (rows.foldl insert t) := by
  induction rows generalizing t with
  | nil => exact .refl col t
  | cons r rows ih => exact (keeps_insert col t r).trans (ih (t.insert r))

theorem keeps_modifyIf {c : ℕ → ρ → Bool} {f : ρ → ρ}
    (h : ∀ k r, t.get? k = some r → c k r = true → col (f r) = col r) :
    Keeps col t (t.modifyIf c f) where
  next_le := le_rfl
  column := by
    intro k r _ hr
    obtain ⟨s, hs, rfl⟩ := of_get?_modifyIf hr
    refine ⟨s, hs, ?_⟩
    split_ifs with hc
    · exact (h k s hs hc).symm
    · rfl

theorem keeps_modify {f : ρ → ρ} (h : ∀ r, t.get? k = some r → col (f r) = col r) :
    Keeps col t (t.modify k f) := by
  refine keeps_modifyIf fun i r hr hi => ?_
  rw [beq_iff_eq] at hi
  exact h r (hi ▸ hr)

theorem keeps_erase (col : ρ → α) (t : Table ρ) (k : ℕ) : Keeps col t (t.erase k) where
  next_le := le_rfl
  column := by
    intro i r _ hr
    rw [get?_erase] at hr
    split_ifs at hr
    exact ⟨r, hr, rfl⟩

theorem keeps_eraseIf (col : ρ → α) (t : Table ρ) (c : ρ → Bool) :
    Keeps col t (t.eraseIf c) :=
  ⟨le_rfl, fun _ r _ hr => ⟨r, (get?_eraseIf.mp hr).1, rfl⟩⟩

end Keeping

section Belonging

/-- The key has been given out, and its row, while it is there, has the column `a`. -/
def Belongs (t : Table ρ) (col : ρ → α) (a : α) (k : ℕ) : Prop :=
  k < t.next ∧ ∀ r, t.get? k = some r → col r = a

theorem belongs_of_get? {r : ρ} (h : t.get? k = some r) (col : ρ → α) :
    t.Belongs col (col r) k := by
  refine ⟨get?_lt h, fun s hs => ?_⟩
  rw [Option.some.inj (hs.symm.trans h)]

theorem belongs_insert_next (t : Table ρ) (col : ρ → α) (r : ρ) :
    (t.insert r).Belongs col (col r) t.next := belongs_of_get? (get?_insert_self t r) col

theorem Belongs.mono (hk : Keeps col old new) (h : old.Belongs col a k) : new.Belongs col a k := by
  refine ⟨h.1.trans_le hk.next_le, fun r hr => ?_⟩
  obtain ⟨s, hs, hsr⟩ := hk.column k r h.1 hr
  exact hsr.symm.trans (h.2 s hs)

end Belonging

section Everywhere

variable {P Q : ρ → Prop}

def All (t : Table ρ) (P : ρ → Prop) : Prop := ∀ k r, t.get? k = some r → P r

instance [DecidablePred P] (t : Table ρ) : Decidable (t.All P) :=
  inferInstanceAs (Decidable (∀ k r, t.get? k = some r → P r))

theorem All.mono (h : ∀ r, P r → Q r) (ht : t.All P) : t.All Q :=
  fun k r hr => h r (ht k r hr)

theorem all_empty : (empty : Table ρ).All P := by
  intro k r hr
  rw [get?_empty] at hr
  cases hr

theorem All.insert (ht : t.All P) {r : ρ} (hr : P r) : (t.insert r).All P := by
  intro k s hs
  rw [get?_insert] at hs
  split_ifs at hs with hk
  · cases hs
    exact hr
  · exact ht k s hs

theorem All.modifyIf {c : ℕ → ρ → Bool} {f : ρ → ρ} (ht : t.All P)
    (h : ∀ k r, t.get? k = some r → c k r = true → P r → P (f r)) : (t.modifyIf c f).All P := by
  intro k s hs
  obtain ⟨r, hr, rfl⟩ := of_get?_modifyIf hs
  split_ifs with hc
  · exact h k r hr hc (ht k r hr)
  · exact ht k r hr

theorem All.modify {i : ℕ} {f : ρ → ρ} (ht : t.All P)
    (h : ∀ r, t.get? i = some r → P r → P (f r)) : (t.modify i f).All P := by
  refine ht.modifyIf fun k r hr hk hP => ?_
  rw [beq_iff_eq] at hk
  subst hk
  exact h r hr hP

end Everywhere

end WorksAuto.Lib.Table
