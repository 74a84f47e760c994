import Mathlib.Data.List.Infix
import Mathlib.Tactic.Common

/-! Runs of a deterministic labelled machine.
A label resolves every choice the environment has, so a run is a list of
labels. `Always` speaks of every state on the way, `EachStep` of every state
and label at which a step is taken; the rules below are the only inductions
over runs that a development needs. -/

namespace WorksAuto.Lib

universe u v

variable {σ : Type u} {ℓ : Type v}

def run (step : σ → ℓ → σ) (s : σ) (labels : List ℓ) : σ := labels.foldl step s

/-- `P` holds in the first state, in the last one, and in all between. -/
def Always (step : σ → ℓ → σ) (P : σ → Prop) (s : σ) (labels : List ℓ) : Prop :=
  ∀ before, before <+: labels → P (run step s before)

/-- `C` holds of every state of the run together with the label taken there. -/
def EachStep (step : σ → ℓ → σ) (C : σ → ℓ → Prop) (s : σ) (labels : List ℓ) : Prop :=
  ∀ before l after, labels = before ++ l :: after → C (run step s before) l

section Rules

variable {step : σ → ℓ → σ} {P Q : σ → Prop} {C D : σ → ℓ → Prop}

@[simp] theorem run_nil (s : σ) : run step s [] = s := rfl

@[simp] theorem run_cons (s : σ) (l : ℓ) (ls : List ℓ) :
    run step s (l :: ls) = run step (step s l) ls := rfl

theorem run_append (s : σ) (ls ms : List ℓ) :
    run step s (ls ++ ms) = run step (run step s ls) ms := List.foldl_append

@[simp] theorem always_nil (s : σ) : Always step P s [] ↔ P s := by
  simp [Always]

theorem always_cons (s : σ) (l : ℓ) (ls : List ℓ) :
    Always step P s (l :: ls) ↔ P s ∧ Always step P (step s l) ls := by
  constructor
  · intro h
    refine ⟨h [] List.nil_prefix, fun before hb => ?_⟩
    exact h (l :: before) (by simpa using hb)
  · rintro ⟨hs, h⟩ before hb
    cases before with
    | nil => exact hs
    | cons m before =>
      obtain ⟨rfl, hb'⟩ := List.cons_prefix_cons.mp hb
      exact h before hb'

@[simp] theorem eachStep_nil (s : σ) : EachStep step C s [] := by
  intro before l after h
  simp at h

theorem eachStep_cons (s : σ) (l : ℓ) (ls : List ℓ) :
    EachStep step C s (l :: ls) ↔ C s l ∧ EachStep step C (step s l) ls := by
  constructor
  · intro h
    refine ⟨h [] l ls rfl, fun before m after hm => ?_⟩
    exact h (l :: before) m after (by rw [hm]; rfl)
  · rintro ⟨hs, h⟩ before m after hm
    cases before with
    | nil =>
      obtain ⟨rfl, -⟩ := List.cons.inj hm
      exact hs
    | cons k before =>
      obtain ⟨rfl, htail⟩ := List.cons.inj hm
      exact h before m after htail

theorem Always.mono (h : ∀ s, P s → Q s) {s : σ} {ls : List ℓ} (hP : Always step P s ls) :
    Always step Q s ls :=
  fun before hb => h _ (hP before hb)

theorem Always.last {s : σ} {ls : List ℓ} (h : Always step P s ls) : P (run step s ls) :=
  h ls List.prefix_rfl

theorem EachStep.mono (h : ∀ s l, C s l → D s l) {s : σ} {ls : List ℓ}
    (hC : EachStep step C s ls) : EachStep step D s ls :=
  fun before l after he => h _ _ (hC before l after he)

theorem eachStep_of_forall {D : ℓ → Prop} {s : σ} {ls : List ℓ} (h : ∀ l ∈ ls, D l) :
    EachStep step (fun _ l => D l) s ls := by
  intro before l after he
  exact h l (by simp [he])

theorem always_of_step (keep : ∀ s l, P s → C s l → P (step s l)) {s : σ} {ls : List ℓ}
    (hs : P s) (hC : EachStep step C s ls) : Always step P s ls := by
  induction ls generalizing s with
  | nil => exact (always_nil s).mpr hs
  | cons l ls ih =>
    obtain ⟨hl, hls⟩ := (eachStep_cons s l ls).mp hC
    exact (always_cons s l ls).mpr ⟨hs, ih (keep s l hs hl) hls⟩

theorem always_eachStep_of_step {I : σ → Prop} (good : ∀ s, I s → P s)
    (keep : ∀ s l, I s → C s l → I (step s l)) (hold : ∀ s l, I s → C s l → D s l) {s : σ}
    {ls : List ℓ} (hs : I s) (hC : EachStep step C s ls) :
    Always step P s ls ∧ EachStep step D s ls := by
  refine ⟨(always_of_step keep hs hC).mono good, fun before l after he => ?_⟩
  have hbefore : EachStep step C s before := fun b m rest hb =>
    hC b m (rest ++ l :: after) (by rw [he, hb, List.append_assoc, List.cons_append])
  exact hold _ l (always_of_step keep hs hbefore).last (hC before l after he)

theorem always_of_invariant (keep : ∀ s l, P s → P (step s l)) {s : σ} (hs : P s)
    (ls : List ℓ) : Always step P s ls :=
  always_of_step (C := fun _ _ => True) (fun s l h _ => keep s l h) hs
    (fun _ _ _ _ => trivial)

/-- Exactness, for a property of the states together with one of the steps. When permitted
steps keep an invariant that implies both, and a forbidden step breaks one of the two at
once, both hold throughout precisely in the runs of permitted steps. -/
theorem always_eachStep_iff {I : σ → Prop} (good : ∀ s, I s → P s)
    (keep : ∀ s l, I s → C s l → I (step s l)) (hold : ∀ s l, I s → C s l → D s l)
    (bad : ∀ s l, I s → ¬ C s l → ¬ (D s l ∧ P (step s l))) {s : σ} (hs : I s) (ls : List ℓ) :
    Always step P s ls ∧ EachStep step D s ls ↔ EachStep step C s ls := by
  induction ls generalizing s with
  | nil => simp [good s hs]
  | cons l ls ih =>
    rw [always_cons, eachStep_cons, eachStep_cons]
    constructor
    · rintro ⟨⟨-, hP⟩, hD, hrest⟩
      have hl : C s l := by
        by_contra hn
        exact bad s l hs hn ⟨hD, hP [] List.nil_prefix⟩
      exact ⟨hl, (ih (keep s l hs hl)).mp ⟨hP, hrest⟩⟩
    · rintro ⟨hl, hC⟩
      obtain ⟨hP, hD⟩ := (ih (keep s l hs hl)).mpr hC
      exact ⟨⟨good s hs, hP⟩, hold s l hs hl, hD⟩

theorem always_iff_eachStep {I : σ → Prop} (good : ∀ s, I s → P s)
    (keep : ∀ s l, I s → C s l → I (step s l))
    (bad : ∀ s l, I s → ¬ C s l → ¬ P (step s l)) {s : σ} (hs : I s) (ls : List ℓ) :
    Always step P s ls ↔ EachStep step C s ls := by
  have hiff := always_eachStep_iff (D := fun _ _ => True) good keep (fun _ _ _ _ => trivial)
    (fun s l h hn hP => bad s l h hn hP.2) hs ls
  rw [← hiff]
  exact ⟨fun h => ⟨h, fun _ _ _ _ => trivial⟩, fun h => h.1⟩

theorem run_iff_eachStep (h : ∀ s l, P (step s l) ↔ P s ∧ C s l) (s : σ) (ls : List ℓ) :
    P (run step s ls) ↔ P s ∧ EachStep step C s ls := by
  induction ls generalizing s with
  | nil => simp
  | cons l ls ih => rw [run_cons, ih, h, eachStep_cons, and_assoc]

theorem eachStep_append (s : σ) (ls ms : List ℓ) :
    EachStep step C s (ls ++ ms) ↔ EachStep step C s ls ∧ EachStep step C (run step s ls) ms := by
  induction ls generalizing s with
  | nil => simp
  | cons l ls ih => rw [List.cons_append, eachStep_cons, eachStep_cons, ih, and_assoc, run_cons]

end Rules

section Decide

variable {step : σ → ℓ → σ} {P : σ → Prop} {C : σ → ℓ → Prop}

instance decidableAlways [DecidablePred P] :
    (ls : List ℓ) → (s : σ) → Decidable (Always step P s ls)
  | [], s => decidable_of_iff _ (always_nil s).symm
  | l :: ls, s =>
    have := decidableAlways ls (step s l)
    decidable_of_iff _ (always_cons s l ls).symm

instance decidableEachStep [∀ s l, Decidable (C s l)] :
    (ls : List ℓ) → (s : σ) → Decidable (EachStep step C s ls)
  | [], s => .isTrue (eachStep_nil s)
  | l :: ls, s =>
    have := decidableEachStep ls (step s l)
    decidable_of_iff _ (eachStep_cons s l ls).symm

end Decide

/-- While `L` holds without a break, `R` relates the state where it begins to each
later one. -/
def WhileHolds (step : σ → ℓ → σ) (L : σ → Prop) (R : σ → σ → Prop) (s : σ) (labels : List ℓ) :
    Prop :=
  ∀ before mid after, labels = before ++ (mid ++ after) →
    Always step L (run step s before) mid →
      R (run step s before) (run step (run step s before) mid)

section While

variable {step : σ → ℓ → σ} {I : σ → Prop} {C : σ → ℓ → Prop}

/-- Permitted steps that keep an invariant and `R` extend `R` over a run. -/
theorem whileHolds_of_step {L : σ → Prop} {R : σ → σ → Prop} (start : ∀ s, I s → L s → R s s)
    (trans : ∀ s t u, R s t → R t u → R s u) (keep : ∀ s l, I s → C s l → I (step s l))
    (hold : ∀ s l, I s → C s l → L s → L (step s l) → R s (step s l)) {s : σ} {ls : List ℓ}
    (hs : I s) (hC : EachStep step C s ls) : WhileHolds step L R s ls := by
  have extend : ∀ (mid : List ℓ) (s : σ), I s → EachStep step C s mid → Always step L s mid →
      R s (run step s mid) := by
    intro mid
    induction mid with
    | nil => exact fun s hs _ hL => start s hs ((always_nil s).mp hL)
    | cons l mid ih =>
      intro s hs hC hL
      obtain ⟨hl, hmid⟩ := (eachStep_cons s l mid).mp hC
      obtain ⟨hfirst, hrest⟩ := (always_cons s l mid).mp hL
      have hnext : L (step s l) := hrest [] List.nil_prefix
      exact trans _ _ _ (hold s l hs hl hfirst hnext) (ih _ (keep s l hs hl) hmid hrest)
  rintro before mid after rfl hL
  obtain ⟨hbefore, hrest⟩ := (eachStep_append s before _).mp hC
  obtain ⟨hmid, -⟩ := (eachStep_append _ mid after).mp hrest
  exact extend mid _ (always_of_step keep hs hbefore).last hmid hL

/-- Exactness, for a family of conditions: when a forbidden step breaks one of
them at once, they hold precisely in the runs of permitted steps. -/
theorem whileHolds_iff_eachStep {ι : Type*} {L : ι → σ → Prop} {R : ι → σ → σ → Prop}
    (start : ∀ i s, I s → L i s → R i s s) (trans : ∀ i s t u, R i s t → R i t u → R i s u)
    (keep : ∀ s l, I s → C s l → I (step s l))
    (hold : ∀ i s l, I s → C s l → L i s → L i (step s l) → R i s (step s l))
    (bad : ∀ s l, I s → ¬ C s l → ∃ i, L i s ∧ L i (step s l) ∧ ¬ R i s (step s l)) {s : σ}
    (hs : I s) (ls : List ℓ) :
    (∀ i, WhileHolds step (L i) (R i) s ls) ↔ EachStep step C s ls := by
  constructor
  · induction ls generalizing s with
    | nil => exact fun _ => eachStep_nil s
    | cons l ls ih =>
      intro h
      have hl : C s l := by
        by_contra hn
        obtain ⟨i, hL, hL', hR⟩ := bad s l hs hn
        apply hR
        apply h i [] [l] ls rfl
        rw [run_nil, always_cons, always_nil]
        exact ⟨hL, hL'⟩
      refine (eachStep_cons s l ls).mpr ⟨hl, ih (keep s l hs hl) fun i before mid after he => ?_⟩
      exact h i (l :: before) mid after (congrArg (l :: ·) he)
  · intro h i
    exact whileHolds_of_step (start i) (trans i) keep (hold i) hs h

/-- `R` relates the ends of a run that is `L` throughout. -/
theorem WhileHolds.whole {L : σ → Prop} {R : σ → σ → Prop} {s : σ} {ls : List ℓ}
    (h : WhileHolds step L R s ls) (hL : Always step L s ls) : R s (run step s ls) :=
  h [] ls [] (List.append_nil ls).symm hL

theorem always_iff_whileHolds {P : σ → Prop} {s : σ} {ls : List ℓ} :
    Always step P s ls ↔ WhileHolds step (fun _ => True) (fun _ t => P t) s ls := by
  constructor
  · rintro h before mid after rfl -
    rw [← run_append]
    exact h (before ++ mid) ⟨after, by rw [List.append_assoc]⟩
  · rintro h before ⟨after, rfl⟩
    exact h [] before after rfl fun _ _ => trivial

end While

/-- `R` relates each state of the run to each later one. -/
def Lasting (step : σ → ℓ → σ) (R : σ → σ → Prop) (s : σ) (labels : List ℓ) : Prop :=
  ∀ before mid after, labels = before ++ (mid ++ after) →
    R (run step s before) (run step (run step s before) mid)

theorem lasting_of_step {step : σ → ℓ → σ} {I : σ → Prop} {C : σ → ℓ → Prop} {R : σ → σ → Prop}
    (refl : ∀ s, R s s) (trans : ∀ s t u, R s t → R t u → R s u)
    (keep : ∀ s l, I s → C s l → I (step s l)) (hold : ∀ s l, I s → C s l → R s (step s l))
    {s : σ} {ls : List ℓ} (hs : I s) (hC : EachStep step C s ls) : Lasting step R s ls := by
  intro before mid after he
  have hwhile : WhileHolds step (fun _ => True) R s ls :=
    whileHolds_of_step (fun s _ _ => refl s) trans keep (fun s l hI hl _ _ => hold s l hI hl) hs hC
  exact hwhile before mid after he fun _ _ => trivial

theorem lasting_always_iff_eachStep {step : σ → ℓ → σ} {I P : σ → Prop} {C : σ → ℓ → Prop}
    {R : σ → σ → Prop} (refl : ∀ s, R s s) (trans : ∀ s t u, R s t → R t u → R s u)
    (good : ∀ s, I s → P s) (keep : ∀ s l, I s → C s l → I (step s l))
    (hold : ∀ s l, I s → C s l → R s (step s l))
    (bad : ∀ s l, I s → ¬ C s l → ¬ (R s (step s l) ∧ P (step s l))) {s : σ} (hs : I s)
    (ls : List ℓ) :
    Lasting step R s ls ∧ Always step P s ls ↔ EachStep step C s ls := by
  constructor
  · induction ls generalizing s with
    | nil => exact fun _ => eachStep_nil s
    | cons l ls ih =>
      rintro ⟨hR, hP⟩
      obtain ⟨-, hrest⟩ := (always_cons s l ls).mp hP
      have hl : C s l := by
        by_contra hn
        exact bad s l hs hn ⟨hR [] [l] ls rfl, hrest [] List.nil_prefix⟩
      refine (eachStep_cons s l ls).mpr ⟨hl, ih (keep s l hs hl) ⟨?_, hrest⟩⟩
      intro before mid after he
      exact hR (l :: before) mid after (congrArg (l :: ·) he)
  · intro h
    exact ⟨lasting_of_step refl trans keep hold hs h, (always_of_step keep hs h).mono good⟩

/-- From every step with `T` on, `P` holds for the rest of the run. -/
def EverAfter (step : σ → ℓ → σ) (T : σ → ℓ → Prop) (P : σ → Prop) (s : σ) (labels : List ℓ) :
    Prop :=
  ∀ before l after, labels = before ++ l :: after → T (run step s before) l →
    Always step P (step (run step s before) l) after

/-- A second invariant, which the steps with `T` establish, holds ever after them. -/
theorem everAfter_of_step {step : σ → ℓ → σ} {I J : σ → Prop} {C T : σ → ℓ → Prop}
    (keep : ∀ s l, I s → C s l → I (step s l))
    (start : ∀ s l, I s → C s l → T s l → J (step s l))
    (hold : ∀ s l, I s → J s → C s l → J (step s l)) {s : σ} {ls : List ℓ} (hs : I s)
    (hC : EachStep step C s ls) : EverAfter step T J s ls := by
  rintro before l after rfl hT
  obtain ⟨hbefore, hrest⟩ := (eachStep_append s before (l :: after)).mp hC
  obtain ⟨hl, hafter⟩ := (eachStep_cons _ l after).mp hrest
  have hI := (always_of_step keep hs hbefore).last
  have hboth : Always step (fun s => I s ∧ J s) (step (run step s before) l) after :=
    always_of_step (fun s l h hl => ⟨keep s l h.1 hl, hold s l h.1 h.2 hl⟩)
      ⟨keep _ l hI hl, start _ l hI hl hT⟩ hafter
  exact hboth.mono fun s h => h.2

section Observer

universe w

variable {γ : Type w}

/-- A machine together with the record that an observer keeps of its steps. -/
def observed (step : σ → ℓ → σ) (note : σ → γ → ℓ → γ) (s : σ × γ) (l : ℓ) : σ × γ :=
  (step s.1 l, note s.1 s.2 l)

variable {step : σ → ℓ → σ} {note : σ → γ → ℓ → γ}

theorem run_observed (s : σ × γ) (ls : List ℓ) :
    (run (observed step note) s ls).1 = run step s.1 ls := by
  induction ls generalizing s with
  | nil => rfl
  | cons l ls ih => exact ih (observed step note s l)

theorem always_observed {P : σ → Prop} {s : σ × γ} {ls : List ℓ}
    (h : Always (observed step note) (fun s => P s.1) s ls) : Always step P s.1 ls := by
  intro before hb
  have hP : P (run (observed step note) s before).1 := h before hb
  rwa [run_observed] at hP

end Observer

end WorksAuto.Lib
