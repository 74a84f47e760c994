import WorksAuto.Lib.Run

/-! What an onlooker sees of a machine.
A view of the state with a meaning for each step: when every step changes the
view by what it means, a run changes it by all that its steps mean, one after
the other. -/

namespace WorksAuto.Lib

universe u v w x

variable {σ : Type u} {ℓ : Type v} {ε : Type w} {α : Type x}

def eventsAlong (step : σ → ℓ → σ) (events : σ → ℓ → List ε) : σ → List ℓ → List ε
  | _, [] => []
  | s, l :: ls => events s l ++ eventsAlong step events (step s l) ls

section View

variable {step : σ → ℓ → σ} {events : σ → ℓ → List ε}

theorem view_run {V : σ → α} {apply : α → ε → α} {I : σ → Prop}
    (keep : ∀ s l, I s → I (step s l))
    (h : ∀ s l, I s → V (step s l) = (events s l).foldl apply (V s)) {s : σ} (hs : I s)
    (ls : List ℓ) :
    V (run step s ls) = (eventsAlong step events s ls).foldl apply (V s) := by
  induction ls generalizing s with
  | nil => rfl
  | cons l ls ih =>
    rw [run_cons, ih (keep s l hs), h s l hs, eventsAlong, List.foldl_append]

theorem history_run {P : List ℓ → σ → Prop} {s : σ} (start : P [] s)
    (keep : ∀ before l, P before (run step s before) →
      P (before ++ [l]) (step (run step s before) l)) (ls : List ℓ) : P ls (run step s ls) := by
  induction ls using List.reverseRecOn with
  | nil => exact start
  | append_singleton before l ih =>
    rw [run_append]
    exact keep before l ih

end View

end WorksAuto.Lib
