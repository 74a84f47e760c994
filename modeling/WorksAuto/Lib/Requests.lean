import WorksAuto.Lib.Pool
import WorksAuto.Lib.Run

/-! The requests behind the threads of a pool.
The threads are numbered in the order in which their requests were started, so that a thread can
be held against the very request it works on, and a step of the run against the state and the
thread it was taken from. -/

namespace WorksAuto.Lib.Pool

universe u v w x

variable {σ : Type u} {τ : Type v} {ρ : Type w} {κ : Type x}

def requests (labels : List (PoolAction ρ κ)) : List ρ :=
  labels.filterMap fun
    | .start r => some r
    | .step _ _ => none

/-- An invariant of the shared state, and one that every thread meets for its request. -/
structure Serves (I : σ → Prop) (T : ρ → σ → τ → Prop) (rs : List ρ) (p : Pool σ τ) : Prop where
  shared : I p.shared
  next : p.threads.next = rs.length
  threads : ∀ k t, p.threads.get? k = some t → ∃ r, rs[k]? = some r ∧ T r p.shared t

/-- In the run, thread `k` took a step as `t`, when the shared state was `now`. -/
def Took (enter : ρ → τ) (exec : σ → τ → κ → σ × τ) (s : σ) (labels : List (PoolAction ρ κ))
    (k : ℕ) (c : κ) (t : τ) (now : σ) : Prop :=
  ∃ before after, labels = before ++ .step k c :: after ∧
    (run (act enter exec) (idle s) before).threads.get? k = some t ∧
    (run (act enter exec) (idle s) before).shared = now

section Requests

variable (before after : List (PoolAction ρ κ))

@[simp] theorem requests_append : requests (before ++ after) = requests before ++ requests after :=
  List.filterMap_append

@[simp] theorem requests_nil : requests ([] : List (PoolAction ρ κ)) = [] := rfl

@[simp] theorem requests_start (r : ρ) :
    requests ((.start r : PoolAction ρ κ) :: after) = r :: requests after := rfl

@[simp] theorem requests_step (k : ℕ) (c : κ) :
    requests ((.step k c : PoolAction ρ κ) :: after) = requests after := rfl

variable {before after}

theorem mem_requests {r : ρ} {labels : List (PoolAction ρ κ)} :
    r ∈ requests labels ↔ .start r ∈ labels := by
  constructor
  · intro h
    obtain ⟨l, hl, he⟩ := List.mem_filterMap.mp h
    cases l with
    | start r' =>
      cases he
      exact hl
    | step k c => cases he
  · exact fun h => List.mem_filterMap.mpr ⟨.start r, h, rfl⟩

theorem requests_mono {k : ℕ} {r : ρ} (h : (requests before)[k]? = some r) :
    (requests (before ++ after))[k]? = some r := by
  obtain ⟨hlt, -⟩ := List.getElem?_eq_some_iff.mp h
  rw [requests_append, List.getElem?_append_left hlt, h]

end Requests

section Run

variable {enter : ρ → τ} {exec : σ → τ → κ → σ × τ} {I : σ → Prop} {T : ρ → σ → τ → Prop}
  {rs : List ρ} {p : Pool σ τ}

theorem Serves.start (h : Serves I T rs p) {r : ρ} (hr : T r p.shared (enter r)) :
    Serves I T (rs ++ [r]) (act enter exec p (.start r : PoolAction ρ κ)) := by
  refine ⟨h.shared, by simp [h.next], fun k t ht => ?_⟩
  rw [act_start] at ht
  rw [Table.get?_insert] at ht
  split_ifs at ht with hk
  · cases ht
    refine ⟨r, ?_, hr⟩
    rw [hk, h.next, List.getElem?_append_right le_rfl, Nat.sub_self]
    rfl
  · obtain ⟨r', hr', ht'⟩ := h.threads k t ht
    obtain ⟨hlt, -⟩ := List.getElem?_eq_some_iff.mp hr'
    exact ⟨r', by rw [List.getElem?_append_left hlt, hr'], ht'⟩

theorem Serves.step (h : Serves I T rs p) {k : ℕ} {c : κ}
    (keep : ∀ t r, p.threads.get? k = some t → rs[k]? = some r → T r p.shared t →
      I (exec p.shared t c).1 ∧ T r (exec p.shared t c).1 (exec p.shared t c).2 ∧
        ∀ r' u, T r' p.shared u → T r' (exec p.shared t c).1 u) :
    Serves I T rs (act enter exec p (.step k c)) := by
  cases hk : p.threads.get? k with
  | none =>
    rw [act_step_none hk]
    exact h
  | some t =>
    obtain ⟨r, hr, ht⟩ := h.threads k t hk
    obtain ⟨hI, hT, hother⟩ := keep t r hk hr ht
    rw [act_step_some hk]
    refine ⟨hI, h.next, fun i u hu => ?_⟩
    rw [Table.get?_modify] at hu
    obtain ⟨v, hv, rfl⟩ := Option.map_eq_some_iff.mp hu
    split_ifs with hi
    · exact ⟨r, hi ▸ hr, hT⟩
    · obtain ⟨r', hr', hv'⟩ := h.threads i v hv
      exact ⟨r', hr', hother r' v hv'⟩

theorem Took.mono {s : σ} {labels : List (PoolAction ρ κ)} {k : ℕ} {c : κ} {t : τ} {now : σ}
    (h : Took enter exec s labels k c t now) (more : List (PoolAction ρ κ)) :
    Took enter exec s (labels ++ more) k c t now := by
  obtain ⟨before, after, rfl, ht, hnow⟩ := h
  exact ⟨before, after ++ more, by rw [List.append_assoc, List.cons_append], ht, hnow⟩

theorem serves_run {s : σ} (hs : I s) (labels : List (PoolAction ρ κ))
    (start : ∀ r now, r ∈ requests labels → T r now (enter r))
    (step : ∀ k c t now r, Took enter exec s labels k c t now → (requests labels)[k]? = some r →
      I now → T r now t →
        I (exec now t c).1 ∧ T r (exec now t c).1 (exec now t c).2 ∧
          ∀ r' u, T r' now u → T r' (exec now t c).1 u) :
    Serves I T (requests labels) (run (act enter exec) (idle s) labels) := by
  induction labels using List.reverseRecOn with
  | nil => exact ⟨hs, rfl, fun k t ht => by cases ht⟩
  | append_singleton before l ih =>
    have hbefore : Serves I T (requests before) (run (act enter exec) (idle s) before) := by
      refine ih (fun r now hr => start r now ?_) fun k c t now r htook hr => ?_
      · rw [requests_append]
        exact List.mem_append_left _ hr
      · exact step k c t now r (htook.mono [l]) (requests_mono hr)
    rw [run_append, requests_append, run_cons, run_nil]
    cases l with
    | start r =>
      refine hbefore.start (start r _ ?_)
      rw [requests_append]
      exact List.mem_append_right _ List.mem_cons_self
    | step k c =>
      rw [requests_step, requests_nil, List.append_nil]
      refine hbefore.step fun t r ht hr hT => ?_
      exact step k c t _ r ⟨before, [], rfl, ht, rfl⟩ (requests_mono hr) hbefore.shared hT

end Run

end WorksAuto.Lib.Pool
