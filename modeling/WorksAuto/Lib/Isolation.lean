import Mathlib.Tactic.Common

/-! Isolation of state changes.
A view says which states look the same, what one state keeps of another behind the view, and which
states are clear of trouble. A change is isolated when its result and what it leaves in view are
the same in states that look the same, as long as both runs stay clear, and it keeps the rest.
Isolated changes compose. -/

namespace WorksAuto.Lib

universe u v w

structure View (σ : Type u) where
  same : σ → σ → Prop
  keeps : σ → σ → Prop
  clear : σ → Prop
  keeps_refl : ∀ s, keeps s s
  keeps_trans : ∀ {a b c}, keeps a b → keeps b c → keeps a c

structure Isolated {σ : Type u} {β : Type v} (V : View σ) (f : σ → β × σ) : Prop where
  clear : ∀ s, V.clear (f s).2 → V.clear s
  keeps : ∀ s, V.keeps s (f s).2
  same : ∀ s t, V.same s t → V.clear (f s).2 → V.clear (f t).2 →
    (f s).1 = (f t).1 ∧ V.same (f s).2 (f t).2

namespace Isolated

variable {σ : Type u} {β : Type v} {γ : Type w} {V : View σ}

theorem result (b : β) : Isolated V fun s => (b, s) where
  clear _ h := h
  keeps s := V.keeps_refl s
  same _ _ h _ _ := ⟨rfl, h⟩

theorem bind {f : σ → β × σ} {g : β → σ → γ × σ} (hf : Isolated V f) (hg : ∀ b, Isolated V (g b)) :
    Isolated V fun s => g (f s).1 (f s).2 where
  clear s h := hf.clear s ((hg _).clear _ h)
  keeps s := V.keeps_trans (hf.keeps s) ((hg _).keeps _)
  same s t h hs ht := by
    obtain ⟨hresult, hsame⟩ := hf.same s t h ((hg _).clear _ hs) ((hg _).clear _ ht)
    rw [← hresult] at ht ⊢
    exact (hg _).same _ _ hsame hs ht

end Isolated

end WorksAuto.Lib
