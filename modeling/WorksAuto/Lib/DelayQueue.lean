import Mathlib.Algebra.Ring.Int.Defs
import Mathlib.Data.List.Basic
import Mathlib.Tactic.Common

/-! Queues of delayed jobs.
A job waits under an id until its time has come. The operations are known by
their laws: an id is added only while no job has it, and the work on one job
leaves the jobs under all other ids alone. -/

namespace WorksAuto.Lib

universe u v w

structure Job (α : Type u) where
  data : α
  due : ℤ
  deriving DecidableEq, Repr

structure DelayQueue (Q : Type u) (ι : Type v) (α : Type w) where
  empty : Q
  /-- The jobs that wait under an id. -/
  pending : Q → ι → List (Job α)
  /-- A job has this id, whether it waits, is being worked on, or has failed. -/
  known : Q → ι → Bool
  add : Q → ι → α → ℤ → Q
  /-- A worker asks, at a time, for the job under an id. -/
  take : Q → ι → ℤ → Q × Option α
  /-- The worker reports the end of the job at a time, and whether it succeeded. -/
  settle : Q → ι → Bool → ℤ → Q
  known_empty : ∀ i, known empty i = false
  known_of_pending : ∀ q i, pending q i ≠ [] → known q i = true
  known_add : ∀ q i a due j, known (add q i a due) j = true → known q j = true ∨ j = i
  add_new : ∀ q i a due, known q i = false → pending (add q i a due) i = [⟨a, due⟩]
  add_known : ∀ q i a due, known q i = true → pending (add q i a due) i = pending q i
  add_other : ∀ q i a due j, j ≠ i → pending (add q i a due) j = pending q j
  known_take : ∀ q i now j, known (take q i now).1 j = true → known q j = true
  known_of_take : ∀ q i now a, (take q i now).2 = some a → known q i = true
  take_none : ∀ q i now, (take q i now).2 = none → (take q i now).1 = q
  take_other : ∀ q i now j, j ≠ i → pending (take q i now).1 j = pending q j
  known_settle : ∀ q i done now j, known (settle q i done now) j = true → known q j = true
  settle_other : ∀ q i done now j, j ≠ i → pending (settle q i done now) j = pending q j

namespace DelayQueue

variable {Q : Type u} {ι : Type v} {α : Type w} (B : DelayQueue Q ι α)

theorem take_cases (q : Q) (i : ι) (now : ℤ) : B.take q i now = (q, none) ∨
    ∃ q' a, B.take q i now = (q', some a) ∧ B.known q i = true := by
  cases h : (B.take q i now).2 with
  | none => exact .inl (Prod.ext (B.take_none q i now h) h)
  | some a =>
    exact .inr ⟨(B.take q i now).1, a, Prod.ext rfl h, B.known_of_take q i now a h⟩

theorem pending_unknown {q : Q} {i : ι} (h : B.known q i = false) : B.pending q i = [] := by
  by_contra hpending
  rw [B.known_of_pending q i hpending] at h
  cases h

end DelayQueue

section Lists

inductive JobState where
  | waiting
  | active
  | failed
  deriving DecidableEq, Repr

structure JobEntry (ι : Type v) (α : Type w) where
  id : ι
  job : Job α
  state : JobState
  attemptsMade : ℕ
  deriving DecidableEq, Repr

namespace JobEntry

variable {ι : Type v} {α : Type w}

def start (e : JobEntry ι α) : JobEntry ι α := { e with state := .active }

@[simp] theorem start_id (e : JobEntry ι α) : e.start.id = e.id := rfl

/-- A failed attempt is repeated after a delay that doubles, up to a number of attempts. -/
def fail (attempts : ℕ) (backoff now : ℤ) (e : JobEntry ι α) : JobEntry ι α :=
  if e.attemptsMade + 1 < attempts then
    { e with
      job.due := now + backoff * 2 ^ e.attemptsMade
      state := .waiting
      attemptsMade := e.attemptsMade + 1 }
  else { e with state := .failed, attemptsMade := e.attemptsMade + 1 }

@[simp] theorem fail_id (attempts : ℕ) (backoff now : ℤ) (e : JobEntry ι α) :
    (e.fail attempts backoff now).id = e.id := by
  unfold fail
  split_ifs <;> rfl

end JobEntry

variable {ι : Type v} {α : Type w} [DecidableEq ι]

def entriesUnder (q : List (JobEntry ι α)) (i : ι) : List (JobEntry ι α) := q.filter (·.id = i)

def changeUnder (i : ι) (f : JobEntry ι α → JobEntry ι α) (q : List (JobEntry ι α)) :
    List (JobEntry ι α) :=
  q.map fun e => if e.id = i then f e else e

def waitingJobs (q : List (JobEntry ι α)) (i : ι) : List (Job α) :=
  ((entriesUnder q i).filter fun e => e.state = .waiting).map JobEntry.job

theorem entriesUnder_changeUnder {i j : ι} (hij : j ≠ i) {f : JobEntry ι α → JobEntry ι α}
    (hf : ∀ e, (f e).id = e.id) (q : List (JobEntry ι α)) :
    entriesUnder (changeUnder i f q) j = entriesUnder q j := by
  induction q with
  | nil => rfl
  | cons e q ih =>
    simp only [entriesUnder, changeUnder] at ih ⊢
    rw [List.map_cons]
    by_cases he : e.id = i
    · have hne : e.id ≠ j := fun h => hij (h.symm.trans he)
      rw [if_pos he, List.filter_cons_of_neg (by simp [hf, hne]),
        List.filter_cons_of_neg (by simp [hne]), ih]
    · rw [if_neg he, List.filter_cons, List.filter_cons, ih]

theorem any_changeUnder {i j : ι} {f : JobEntry ι α → JobEntry ι α} (hf : ∀ e, (f e).id = e.id)
    (q : List (JobEntry ι α)) :
    (changeUnder i f q).any (fun e => e.id = j) = q.any fun e => e.id = j := by
  have hid : ∀ e : JobEntry ι α, (if e.id = i then f e else e).id = e.id := by
    intro e
    split_ifs
    · exact hf e
    · rfl
  simp [changeUnder, List.any_map, Function.comp_def, hid]

/-- Jobs in a list, with a number of attempts and a first delay between them. -/
def listQueue (ι : Type v) (α : Type w) [DecidableEq ι] (attempts : ℕ) (backoff : ℤ) :
    DelayQueue (List (JobEntry ι α)) ι α where
  empty := []
  pending := waitingJobs
  known q i := q.any fun e => e.id = i
  add q i a due :=
    if q.any fun e => e.id = i then q
    else q ++ [{ id := i, job := ⟨a, due⟩, state := .waiting, attemptsMade := 0 }]
  take q i now :=
    match q.find? fun e => e.id = i ∧ e.state = .waiting ∧ e.job.due ≤ now with
    | none => (q, none)
    | some e => (changeUnder i JobEntry.start q, some e.job.data)
  settle q i done now :=
    if done then q.filter fun e => e.id ≠ i
    else changeUnder i (JobEntry.fail attempts backoff now) q
  known_empty _ := rfl
  known_of_pending q i h := by
    obtain ⟨e, he⟩ := List.exists_mem_of_ne_nil _ h
    simp only [waitingJobs, entriesUnder, List.mem_map, List.mem_filter] at he
    obtain ⟨e', ⟨⟨hmem, hid⟩, -⟩, -⟩ := he
    exact List.any_eq_true.mpr ⟨e', hmem, hid⟩
  known_add q i a due j h := by
    split_ifs at h with hq
    · exact .inl h
    · simp only [List.any_append, Bool.or_eq_true] at h
      refine h.imp id fun hnew => ?_
      simpa [eq_comm] using hnew
  add_new q i a due h := by
    have hnone : q.filter (fun e => e.id = i) = [] := by
      rw [List.filter_eq_nil_iff]
      simpa using h
    simp [waitingJobs, entriesUnder, h, hnone]
  add_known q i a due h := by rw [if_pos h]
  add_other q i a due j hij := by
    split_ifs
    · rfl
    · simp [waitingJobs, entriesUnder, Ne.symm hij]
  known_take q i now j h := by
    split at h
    · exact h
    · rwa [any_changeUnder JobEntry.start_id] at h
  known_of_take q i now a h := by
    split at h
    · cases h
    · next e he =>
      refine List.any_eq_true.mpr ⟨e, List.mem_of_find?_eq_some he, ?_⟩
      have hfound := List.find?_some he
      simp only [decide_eq_true_eq] at hfound ⊢
      exact hfound.1
  take_none q i now h := by
    split at h
    · rfl
    · cases h
  take_other q i now j hij := by
    split
    · rfl
    · simp only [waitingJobs]
      rw [entriesUnder_changeUnder hij JobEntry.start_id]
  known_settle q i done now j h := by
    split_ifs at h
    · obtain ⟨e, he, hid⟩ := List.any_eq_true.mp h
      exact List.any_eq_true.mpr ⟨e, (List.mem_filter.mp he).1, hid⟩
    · rwa [any_changeUnder (JobEntry.fail_id attempts backoff now)] at h
  settle_other q i done now j hij := by
    split_ifs
    · have hsame : entriesUnder (q.filter fun e => e.id ≠ i) j = entriesUnder q j := by
        unfold entriesUnder
        rw [List.filter_filter]
        refine List.filter_congr fun e _ => ?_
        by_cases he : e.id = j <;> simp [he, hij]
      simp only [waitingJobs, hsame]
    · simp only [waitingJobs]
      rw [entriesUnder_changeUnder hij (JobEntry.fail_id attempts backoff now)]

end Lists

end WorksAuto.Lib
