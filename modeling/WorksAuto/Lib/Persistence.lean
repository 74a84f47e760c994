import WorksAuto.Lib.Table

/-! Rows that are never lost.
A table may grow and its rows may change; each row that was there is still there, as a
continuation of what it was. What a column says persists when continuations keep the column. -/

namespace WorksAuto.Lib.Table

universe u v

variable {ρ : Type u} {α : Type v} {R : ρ → ρ → Prop} {old mid new t : Table ρ}

def Persists (R : ρ → ρ → Prop) (old new : Table ρ) : Prop :=
  ∀ k r, old.get? k = some r → ∃ s, new.get? k = some s ∧ R r s

theorem Persists.refl (hR : ∀ r, R r r) (t : Table ρ) : t.Persists R t :=
  fun _ r hr => ⟨r, hr, hR r⟩

theorem Persists.trans (hR : ∀ {p q r}, R p q → R q r → R p r) (h : old.Persists R mid)
    (h' : mid.Persists R new) : old.Persists R new := by
  intro k r hr
  obtain ⟨s, hs, hrs⟩ := h k r hr
  obtain ⟨q, hq, hsq⟩ := h' k s hs
  exact ⟨q, hq, hR hrs hsq⟩

theorem persists_insert (hR : ∀ r, R r r) (t : Table ρ) (r : ρ) : t.Persists R (t.insert r) :=
  fun _ s hs => ⟨s, get?_insert_of_some hs r, hR s⟩

theorem persists_modifyIf (hR : ∀ r, R r r) {c : ℕ → ρ → Bool} {f : ρ → ρ}
    (h : ∀ k r, t.get? k = some r → c k r = true → R r (f r)) : t.Persists R (t.modifyIf c f) := by
  intro k r hr
  rw [get?_modifyIf, hr]
  refine ⟨if c k r then f r else r, rfl, ?_⟩
  split_ifs with hc
  · exact h k r hr hc
  · exact hR r

theorem persists_modify (hR : ∀ r, R r r) {k : ℕ} {f : ρ → ρ}
    (h : ∀ r, t.get? k = some r → R r (f r)) : t.Persists R (t.modify k f) := by
  refine persists_modifyIf hR fun i r hr hi => ?_
  rw [beq_iff_eq] at hi
  exact h r (hi ▸ hr)

section Records

variable {col : ρ → α}

def Records (col : ρ → α) (old new : Table ρ) : Prop :=
  old.Persists (fun r s => col s = col r) new

theorem Records.refl (col : ρ → α) (t : Table ρ) : Records col t t :=
  Persists.refl (R := fun r s => col s = col r) (fun _ => rfl) t

theorem Records.trans (h : Records col old mid) (h' : Records col mid new) :
    Records col old new :=
  Persists.trans (fun hpq hqr => hqr.trans hpq) h h'

theorem records_insert (col : ρ → α) (t : Table ρ) (r : ρ) : Records col t (t.insert r) :=
  persists_insert (R := fun r s => col s = col r) (fun _ => rfl) t r

theorem records_modifyIf {c : ℕ → ρ → Bool} {f : ρ → ρ} (h : ∀ r, col (f r) = col r) :
    Records col t (t.modifyIf c f) :=
  persists_modifyIf (R := fun r s => col s = col r) (fun _ => rfl) fun _ r _ _ => h r

end Records

end WorksAuto.Lib.Table
