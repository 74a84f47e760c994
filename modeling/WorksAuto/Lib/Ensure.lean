import Mathlib.Tactic.Common

/-! Find or create.
A request is met when it is found; otherwise something is created for it, which may fail.
Where a creation finds what it was made for and hides nothing that was found before, a list
of requests that has been met is met again by changing nothing. -/

namespace WorksAuto.Lib

universe u v w

variable {σ : Type u} {ρ : Type v} {ε : Type w}

def ensure (found : σ → ρ → Bool) (create : σ → ρ → Except ε σ) (s : σ) (r : ρ) : Except ε σ :=
  if found s r then .ok s else create s r

def ensureAll (found : σ → ρ → Bool) (create : σ → ρ → Except ε σ) : List ρ → σ → Except ε σ
  | [], s => .ok s
  | r :: rest, s => do
    let s' ← ensure found create s r
    ensureAll found create rest s'

/-- A creation finds what it was made for, and whatever was found before it. -/
structure Ensures (found : σ → ρ → Bool) (create : σ → ρ → Except ε σ) : Prop where
  finds : ∀ {s r s'}, create s r = .ok s' → found s' r = true
  keeps : ∀ {s r s' q}, create s r = .ok s' → found s q = true → found s' q = true

section Rules

variable {found : σ → ρ → Bool} {create : σ → ρ → Except ε σ} {s s' : σ} {r : ρ} {rs : List ρ}

theorem ensure_of_found (h : found s r = true) : ensure found create s r = .ok s := by
  rw [ensure, if_pos h]

theorem ensure_of_not_found (h : found s r = false) :
    ensure found create s r = create s r := by
  rw [ensure, if_neg (by simp [h])]

theorem ensureAll_cons_of_found (h : found s r = true) :
    ensureAll found create (r :: rs) s = ensureAll found create rs s := by
  rw [ensureAll, ensure_of_found h]
  rfl

theorem ensureAll_cons_of_created (h : found s r = false) (hc : create s r = .ok s') :
    ensureAll found create (r :: rs) s = ensureAll found create rs s' := by
  rw [ensureAll, ensure_of_not_found h, hc]
  rfl

theorem ensureAll_cons_of_failed {e : ε} (h : found s r = false) (hc : create s r = .error e) :
    ensureAll found create (r :: rs) s = .error e := by
  rw [ensureAll, ensure_of_not_found h, hc]
  rfl

theorem ensureAll_of_found (h : ∀ r ∈ rs, found s r = true) :
    ensureAll found create rs s = .ok s := by
  induction rs with
  | nil => rfl
  | cons r rs ih =>
    rw [ensureAll_cons_of_found (h r List.mem_cons_self)]
    exact ih fun q hq => h q (List.mem_cons_of_mem r hq)

theorem ensureAll_rel {R : σ → σ → Prop} (refl : ∀ s, R s s)
    (trans : ∀ {s₁ s₂ s₃}, R s₁ s₂ → R s₂ s₃ → R s₁ s₃)
    (step : ∀ {s r s'}, found s r = false → create s r = .ok s' → R s s')
    (h : ensureAll found create rs s = .ok s') : R s s' := by
  induction rs generalizing s with
  | nil =>
    obtain rfl := Except.ok.inj h
    exact refl s
  | cons r rs ih =>
    cases hr : found s r with
    | true =>
      rw [ensureAll_cons_of_found hr] at h
      exact ih h
    | false =>
      cases hc : create s r with
      | error e =>
        rw [ensureAll_cons_of_failed hr hc] at h
        cases h
      | ok s₁ =>
        rw [ensureAll_cons_of_created hr hc] at h
        exact trans (step hr hc) (ih h)

namespace Ensures

variable (hE : Ensures found create)

include hE

theorem keeps_ensureAll {q : ρ} (h : ensureAll found create rs s = .ok s')
    (hq : found s q = true) : found s' q = true := by
  have hrel := ensureAll_rel (R := fun s s' => found s q = true → found s' q = true)
    (fun _ => id) (fun h₁ h₂ => h₂ ∘ h₁) (fun _ hc => hE.keeps hc) h
  exact hrel hq

theorem found_of_ensureAll (h : ensureAll found create rs s = .ok s') :
    ∀ r ∈ rs, found s' r = true := by
  induction rs generalizing s with
  | nil => exact fun r hr => absurd hr List.not_mem_nil
  | cons r rs ih =>
    cases hr : found s r with
    | true =>
      rw [ensureAll_cons_of_found hr] at h
      exact List.forall_mem_cons.mpr ⟨hE.keeps_ensureAll h hr, ih h⟩
    | false =>
      cases hc : create s r with
      | error e =>
        rw [ensureAll_cons_of_failed hr hc] at h
        cases h
      | ok s₁ =>
        rw [ensureAll_cons_of_created hr hc] at h
        exact List.forall_mem_cons.mpr ⟨hE.keeps_ensureAll h (hE.finds hc), ih h⟩

end Ensures

/-- Where a creation for one request changes nothing for the others that are fine, the list
is met precisely when every request is fine at the start. -/
theorem ensureAll_isOk_iff (fine : σ → ρ → Prop) (of_found : ∀ {s r}, found s r = true → fine s r)
    (create_iff : ∀ {s r}, found s r = false → ((∃ s', create s r = .ok s') ↔ fine s r))
    (stable : ∀ {s r s' q}, found s r = false → create s r = .ok s' → (fine s' q ↔ fine s q)) :
    (∃ s', ensureAll found create rs s = .ok s') ↔ ∀ r ∈ rs, fine s r := by
  induction rs generalizing s with
  | nil => exact iff_of_true ⟨s, rfl⟩ fun r hr => absurd hr List.not_mem_nil
  | cons r rs ih =>
    rw [List.forall_mem_cons]
    cases hr : found s r with
    | true =>
      rw [ensureAll_cons_of_found hr, ih]
      exact (and_iff_right (of_found hr)).symm
    | false =>
      cases hc : create s r with
      | error e =>
        rw [ensureAll_cons_of_failed hr hc]
        refine iff_of_false ?_ fun hfine => ?_
        · rintro ⟨s', hs'⟩
          cases hs'
        · obtain ⟨s', hs'⟩ := (create_iff hr).mpr hfine.1
          rw [hc] at hs'
          cases hs'
      | ok s₁ =>
        rw [ensureAll_cons_of_created hr hc, ih, and_iff_right ((create_iff hr).mp ⟨s₁, hc⟩)]
        exact forall₂_congr fun q _ => stable hr hc

end Rules

end WorksAuto.Lib
