import WorksAuto.Lib.Isolation
import Mathlib.Data.List.Basic

/-! Row security.
A query sees the rows that a policy shows it, answers from them, and changes them only; what it
writes must pass the policy's check, and the rows it leaves must satisfy the constraints of the
database. Under a policy that shows each owner its rows, and the rows that lie under these, the
answers and the owner's rows depend on the owner's rows alone, and all other rows stay. -/

namespace WorksAuto.Lib

universe u v w x

section Definitions

variable {ρ : Type u} {ν : Type v} {ε : Type w} {β : Type x}

/-- Which rows a query sees, and which it may write, in a database of these rows. -/
structure RowPolicy (ρ : Type u) where
  visible : List ρ → ρ → Bool
  check : List ρ → ρ → Bool

namespace RowPolicy

def seen (P : RowPolicy ρ) (rows : List ρ) : List ρ := rows.filter (P.visible rows)

def hidden (P : RowPolicy ρ) (rows : List ρ) : List ρ := rows.filter fun r => !P.visible rows r

end RowPolicy

inductive RowChange (ρ : Type u) where
  | keep | delete | replace (r : ρ)

structure RowEdit (ρ : Type u) where
  change : ρ → RowChange ρ
  inserted : List ρ

namespace RowEdit

def result (e : RowEdit ρ) (r : ρ) : Option ρ :=
  match e.change r with
  | .keep => some r
  | .delete => none
  | .replace r' => some r'

def replacement? (e : RowEdit ρ) (r : ρ) : Option ρ :=
  match e.change r with
  | .replace r' => some r'
  | _ => none

def written (e : RowEdit ρ) (rows : List ρ) : List ρ := rows.filterMap e.replacement? ++ e.inserted

def apply (e : RowEdit ρ) (seen : ρ → Bool) (rows : List ρ) : List ρ :=
  rows.filterMap (fun r => if seen r then e.result r else some r) ++ e.inserted

end RowEdit

/-- A query answers and changes rows as a function of the rows it sees, or fails. -/
abbrev RowQuery (ρ : Type u) (ε : Type w) (β : Type x) := List ρ → Except ε (β × RowEdit ρ)

inductive Refusal (ν : Type v) (ε : Type w) where
  | failed (e : ε)
  | policy
  | violates (v : ν)
  | aborted
  deriving DecidableEq

/-- The rows of a database satisfy its constraints: these find no violation. -/
structure RowDatabase (constraints : List ρ → Option ν) where
  rows : List ρ
  holds : constraints rows = none

/-- A transaction, aborted by the first query that fails, and the violations met so far. -/
structure RowSession (constraints : List ρ → Option ν) where
  database : RowDatabase constraints
  aborted : Bool
  violations : List ν

variable {constraints : List ρ → Option ν}

namespace RowSession

def rows (s : RowSession constraints) : List ρ := s.database.rows

def abort (s : RowSession constraints) : RowSession constraints := { s with aborted := true }

def violate (s : RowSession constraints) (v : ν) : RowSession constraints :=
  { s with aborted := true, violations := s.violations ++ [v] }

def store (s : RowSession constraints) (rows : List ρ) : Except ν (RowSession constraints) :=
  match h : constraints rows with
  | none => .ok { s with database := ⟨rows, h⟩ }
  | some v => .error v

end RowSession

/-- What a query answers and changes, if it does not fail and writes only what it may. -/
def RowQuery.plan (ν : Type v) (P : RowPolicy ρ) (q : RowQuery ρ ε β) (rows : List ρ) :
    Except (Refusal ν ε) (β × RowEdit ρ) :=
  match q (P.seen rows) with
  | .error e => .error (.failed e)
  | .ok (answer, edit) =>
    if (edit.written (P.seen rows)).all (P.check rows) then .ok (answer, edit) else .error .policy

def RowQuery.exec (P : RowPolicy ρ) (q : RowQuery ρ ε β) (s : RowSession constraints) :
    Except (Refusal ν ε) β × RowSession constraints :=
  if s.aborted then (.error .aborted, s)
  else
    match q.plan ν P s.rows with
    | .error e => (.error e, s.abort)
    | .ok (answer, edit) =>
      match s.store (edit.apply (P.visible s.rows) s.rows) with
      | .ok s' => (.ok answer, s')
      | .error v => (.error (.violates v), s.violate v)

/-- Queries one after the other, each chosen by the answers to those before it. -/
inductive Queries (ρ : Type u) (ν : Type v) (ε : Type w) (β : Type x) where
  | answer (result : Except (Refusal ν ε) β)
  | query (q : RowQuery ρ ε β) (next : Except (Refusal ν ε) β → Queries ρ ν ε β)

def Queries.exec (P : RowPolicy ρ) : Queries ρ ν ε β → RowSession constraints →
    Except (Refusal ν ε) β × RowSession constraints
  | .answer result, s => (result, s)
  | .query q next, s =>
    let (result, s) := q.exec P s
    (next result).exec P s

/-- Some rows have their owner themselves, others lie under a row that has one. -/
structure Ownership (ρ : Type u) where
  own : ρ → Bool
  under : ρ → ρ → Bool
  child : ρ → Bool
  child_of_under : ∀ {r p}, under r p = true → child r = true
  not_child_of_under : ∀ {r p}, under r p = true → child p = false
  not_own_of_child : ∀ {r}, child r = true → own r = false

namespace Ownership

variable (O : Ownership ρ)

def owns (rows : List ρ) (r : ρ) : Bool := O.own r || rows.any fun p => O.own p && O.under r p

def policy : RowPolicy ρ := ⟨O.owns, O.owns⟩

/-- What lies under some row lies under one of the database, and under no other. -/
structure Rooted (rows : List ρ) : Prop where
  parent : ∀ r ∈ rows, ∀ p, O.under r p = true → ∃ q ∈ rows, O.under r q = true
  unique : ∀ r, ∀ p ∈ rows, ∀ q ∈ rows, O.under r p = true → O.under r q = true → p = q

end Ownership

/-- Two transactions show the same rows and are both aborted or both not. -/
structure RowSession.Alike (P : RowPolicy ρ) (s t : RowSession constraints) : Prop where
  seen : P.seen s.rows = P.seen t.rows
  aborted : s.aborted = t.aborted

end Definitions

section Owned

variable {ρ : Type u} {O : Ownership ρ} {rows : List ρ} {e : RowEdit ρ} {r r' p : ρ}

namespace Ownership

theorem owns_of_not_child (h : O.child r = false) : O.owns rows r = O.own r := by
  have hunder : (rows.any fun p => O.own p && O.under r p) = false := by
    refine List.any_eq_false.mpr fun p _ hp => ?_
    have hchild := O.child_of_under (Bool.and_eq_true_iff.mp hp).2
    rw [h] at hchild
    cases hchild
  rw [owns, hunder, Bool.or_false]

theorem owns_of_child (h : O.child r = true) :
    O.owns rows r = true ↔ ∃ p ∈ rows, O.own p = true ∧ O.under r p = true := by
  simp only [owns, O.not_own_of_child h, Bool.false_or, List.any_eq_true, Bool.and_eq_true]

theorem owns_seen (rows : List ρ) (r : ρ) : O.owns (O.policy.seen rows) r = O.owns rows r := by
  rw [Bool.eq_iff_iff]
  simp only [owns, Bool.or_eq_true, List.any_eq_true, Bool.and_eq_true, RowPolicy.seen, policy,
    List.mem_filter]
  constructor
  · rintro (hown | ⟨p, ⟨hp, -⟩, hpr⟩)
    · exact .inl hown
    · exact .inr ⟨p, hp, hpr⟩
  · rintro (hown | ⟨p, hp, hpr⟩)
    · exact .inl hown
    · exact .inr ⟨p, ⟨hp, .inl hpr.1⟩, hpr⟩

end Ownership

namespace RowEdit

theorem mem_apply {seen : ρ → Bool} (h : r' ∈ e.apply seen rows) :
    (r' ∈ rows ∧ seen r' = false) ∨ (r' ∈ rows ∧ seen r' = true) ∨
      r' ∈ e.written (rows.filter seen) := by
  rcases List.mem_append.mp h with hold | hnew
  · obtain ⟨r, hr, hresult⟩ := List.mem_filterMap.mp hold
    split_ifs at hresult with hseen
    · unfold result at hresult
      cases hchange : e.change r with
      | keep =>
        rw [hchange] at hresult
        obtain rfl := Option.some.inj hresult
        exact .inr (.inl ⟨hr, hseen⟩)
      | delete =>
        rw [hchange] at hresult
        cases hresult
      | replace r'' =>
        rw [hchange] at hresult
        refine .inr (.inr (List.mem_append_left _ (List.mem_filterMap.mpr
          ⟨r, List.mem_filter.mpr ⟨hr, hseen⟩, ?_⟩)))
        rw [replacement?, hchange]
        exact hresult
    · obtain rfl := Option.some.inj hresult
      exact .inl ⟨hr, (Bool.not_eq_true _).mp hseen⟩
  · exact .inr (.inr (List.mem_append_right _ hnew))

theorem hidden_mem_apply {seen : ρ → Bool} (hr : r ∈ rows) (h : seen r = false) :
    r ∈ e.apply seen rows := by
  refine List.mem_append_left _ (List.mem_filterMap.mpr ⟨r, hr, ?_⟩)
  rw [h]
  rfl

theorem result_mem_apply {seen : ρ → Bool} (hr : r ∈ rows) (h : seen r = true)
    (hresult : e.result r = some r') : r' ∈ e.apply seen rows := by
  refine List.mem_append_left _ (List.mem_filterMap.mpr ⟨r, hr, ?_⟩)
  rw [h, if_pos rfl, hresult]

/-- What an edit makes of seen rows, and only that, is seen afterwards. -/
structure Splits (e : RowEdit ρ) (rows : List ρ) (seen after : ρ → Bool) : Prop where
  result : ∀ r ∈ rows, seen r = true → ∀ r', e.result r = some r' → after r' = true
  hidden : ∀ r ∈ rows, seen r = false → after r = false
  inserted : ∀ r ∈ e.inserted, after r = true

theorem Splits.seen_apply {seen after : ρ → Bool} (h : e.Splits rows seen after) :
    (e.apply seen rows).filter after = (rows.filter seen).filterMap e.result ++ e.inserted := by
  rw [apply, List.filter_append, List.filter_eq_self.mpr h.inserted, List.filter_filterMap,
    List.filterMap_filter]
  congr 1
  refine List.filterMap_congr fun r hr => ?_
  cases hseen : seen r with
  | true =>
    cases hresult : e.result r with
    | none => simp only [if_true, Option.filter_none]
    | some r' => simp only [if_true, Option.filter_some, h.result r hr hseen r' hresult]
  | false =>
    simp only [Bool.false_eq_true, if_false, Option.filter_some, h.hidden r hr hseen]

theorem Splits.hidden_apply {seen after : ρ → Bool} (h : e.Splits rows seen after) :
    ((e.apply seen rows).filter fun r => !after r) = rows.filter fun r => !seen r := by
  have hinserted : e.inserted.filter (fun r => !after r) = [] :=
    List.filter_eq_nil_iff.mpr fun r hr hnot => by simp [h.inserted r hr] at hnot
  rw [apply, List.filter_append, hinserted, List.append_nil, List.filter_filterMap,
    ← List.filterMap_eq_filter]
  refine List.filterMap_congr fun r hr => ?_
  cases hseen : seen r with
  | true =>
    cases hresult : e.result r with
    | none => simp [Option.guard, hseen]
    | some r' => simp [Option.guard, hseen, h.result r hr hseen r' hresult]
  | false => simp [Option.guard, hseen, h.hidden r hr hseen]

end RowEdit

theorem Ownership.owns_apply (hold : O.Rooted rows)
    (hnew : O.Rooted (e.apply (O.owns rows) rows))
    (hwritten : ∀ r ∈ e.written (O.policy.seen rows), O.owns rows r = true)
    (hr : r ∈ e.apply (O.owns rows) rows) (howns : O.owns rows r = true) :
    O.owns (e.apply (O.owns rows) rows) r = true := by
  cases hchild : O.child r with
  | false =>
    rw [owns_of_not_child hchild] at howns ⊢
    exact howns
  | true =>
    obtain ⟨q, hq, hqown, hqr⟩ := (owns_of_child hchild).mp howns
    obtain ⟨p, hp, hpr⟩ := hnew.parent r hr q hqr
    refine (owns_of_child hchild).mpr ⟨p, hp, ?_, hpr⟩
    have hpchild := O.not_child_of_under hpr
    rcases e.mem_apply hp with ⟨hp', hhidden⟩ | ⟨-, hseen⟩ | hpwritten
    · obtain rfl := hold.unique r p hp' q hq hpr hqr
      exact hqown
    · rwa [owns_of_not_child hpchild] at hseen
    · have hpowns := hwritten p hpwritten
      rwa [owns_of_not_child hpchild] at hpowns

theorem Ownership.not_owns_apply (hold : O.Rooted rows)
    (hnew : O.Rooted (e.apply (O.owns rows) rows)) (hr : r ∈ rows)
    (hhidden : O.owns rows r = false) : O.owns (e.apply (O.owns rows) rows) r = false := by
  cases hchild : O.child r with
  | false =>
    rw [owns_of_not_child hchild] at hhidden ⊢
    exact hhidden
  | true =>
    rw [← Bool.not_eq_true, owns_of_child hchild]
    rintro ⟨p, hp, hpown, hpr⟩
    obtain ⟨q, hq, hqr⟩ := hold.parent r hr p hpr
    have hqown : O.own q = false := by
      by_contra hqown
      have howns := (owns_of_child hchild).mpr ⟨q, hq, (Bool.not_eq_false _).mp hqown, hqr⟩
      rw [hhidden] at howns
      cases howns
    have hqhidden : O.owns rows q = false := by
      rw [owns_of_not_child (O.not_child_of_under hqr), hqown]
    obtain rfl := hnew.unique r p hp q (e.hidden_mem_apply hq hqhidden) hpr hqr
    rw [hqown] at hpown
    cases hpown

theorem Ownership.Rooted.splits (hold : O.Rooted rows) (hnew : O.Rooted (e.apply (O.owns rows) rows))
    (hwritten : ∀ r ∈ e.written (O.policy.seen rows), O.owns rows r = true) :
    e.Splits rows (O.owns rows) (O.owns (e.apply (O.owns rows) rows)) where
  result r hr hseen r' hresult := by
    refine Ownership.owns_apply hold hnew hwritten (RowEdit.result_mem_apply hr hseen hresult) ?_
    cases hchange : e.change r with
    | keep =>
      rw [RowEdit.result, hchange] at hresult
      exact Option.some.inj hresult ▸ hseen
    | delete =>
      rw [RowEdit.result, hchange] at hresult
      cases hresult
    | replace r'' =>
      rw [RowEdit.result, hchange] at hresult
      refine hwritten r' (List.mem_append_left _ (List.mem_filterMap.mpr
        ⟨r, List.mem_filter.mpr ⟨hr, hseen⟩, ?_⟩))
      rw [RowEdit.replacement?, hchange]
      exact hresult
  hidden _ hr hhidden := Ownership.not_owns_apply hold hnew hr hhidden
  inserted r hr :=
    Ownership.owns_apply hold hnew hwritten (List.mem_append_right _ hr)
      (hwritten r (List.mem_append_right _ hr))

end Owned

section Runs

variable {ρ : Type u} {ν : Type v} {ε : Type w} {β : Type x} {constraints : List ρ → Option ν}
  {O : Ownership ρ} {P : RowPolicy ρ} {q : RowQuery ρ ε β}
  {s t : RowSession constraints}

theorem RowSession.store_eq_ok {rows : List ρ} {s' : RowSession constraints}
    (h : s.store rows = .ok s') :
    s'.rows = rows ∧ s'.aborted = s.aborted ∧ s'.violations = s.violations := by
  unfold store at h
  split at h
  · obtain rfl := Except.ok.inj h
    exact ⟨rfl, rfl, rfl⟩
  · cases h

namespace RowQuery

theorem written_of_plan {rows : List ρ} {answer : β} {e : RowEdit ρ}
    (h : q.plan ν O.policy rows = .ok (answer, e)) :
    ∀ r ∈ e.written (O.policy.seen rows), O.owns rows r = true := by
  unfold plan at h
  split at h
  · cases h
  · split_ifs at h with hwritten
    obtain ⟨rfl, rfl⟩ := Prod.mk.inj (Except.ok.inj h)
    exact List.all_eq_true.mp hwritten

theorem plan_congr {rows rows' : List ρ} (h : O.policy.seen rows = O.policy.seen rows') :
    q.plan ν O.policy rows = q.plan ν O.policy rows' := by
  have hcheck : O.policy.check rows = O.policy.check rows' := by
    funext r
    change O.owns rows r = O.owns rows' r
    rw [← O.owns_seen rows r, ← O.owns_seen rows' r, h]
  rw [plan, plan, h, hcheck]

theorem exec_of_aborted (h : s.aborted = true) : q.exec P s = (.error .aborted, s) := by
  rw [exec, h, if_pos rfl]

theorem exec_of_error {e : Refusal ν ε} (h : s.aborted = false)
    (hplan : q.plan ν P s.rows = .error e) : q.exec P s = (.error e, s.abort) := by
  rw [exec, h, if_neg Bool.false_ne_true, hplan]

theorem exec_of_ok {answer : β} {e : RowEdit ρ} (h : s.aborted = false)
    (hplan : q.plan ν P s.rows = .ok (answer, e)) :
    (∃ s', s.store (e.apply (P.visible s.rows) s.rows) = .ok s' ∧
        q.exec P s = (.ok answer, s')) ∨
      ∃ v, q.exec P s = (.error (.violates v), s.violate v) := by
  rw [exec, h, if_neg Bool.false_ne_true, hplan]
  cases hstore : s.store (e.apply (P.visible s.rows) s.rows) with
  | ok s' => exact .inl ⟨s', rfl, by simp only [hstore]⟩
  | error v => exact .inr ⟨v, by simp only [hstore]⟩

theorem exec_of_clear {answer : β} {e : RowEdit ρ} (h : s.aborted = false)
    (hplan : q.plan ν P s.rows = .ok (answer, e)) (hclear : (q.exec P s).2.violations = []) :
    ∃ s', s.store (e.apply (P.visible s.rows) s.rows) = .ok s' ∧ q.exec P s = (.ok answer, s') := by
  rcases exec_of_ok h hplan with hok | ⟨v, hviolates⟩
  · exact hok
  · rw [hviolates] at hclear
    cases (List.append_eq_nil_iff.mp hclear).2

theorem violations_of_exec (h : (q.exec P s).2.violations = []) : s.violations = [] := by
  cases haborted : s.aborted with
  | true => rwa [exec_of_aborted haborted] at h
  | false =>
    cases hplan : q.plan ν P s.rows with
    | error e => rwa [exec_of_error haborted hplan] at h
    | ok plan =>
      obtain ⟨s', hstore, hexec⟩ := exec_of_clear haborted hplan h
      rw [hexec] at h
      exact (RowSession.store_eq_ok hstore).2.2 ▸ h

theorem seen_of_store (hC : ∀ rows, constraints rows = none → O.Rooted rows) {answer : β}
    {e : RowEdit ρ} {s' : RowSession constraints}
    (hplan : q.plan ν O.policy s.rows = .ok (answer, e))
    (hstore : s.store (e.apply (O.policy.visible s.rows) s.rows) = .ok s') :
    O.policy.seen s'.rows = (O.policy.seen s.rows).filterMap e.result ++ e.inserted := by
  have hrows := (RowSession.store_eq_ok hstore).1
  have hnew := hC s'.rows s'.database.holds
  rw [hrows] at hnew ⊢
  exact ((hC s.rows s.database.holds).splits hnew (written_of_plan hplan)).seen_apply

theorem exec_hidden (hC : ∀ rows, constraints rows = none → O.Rooted rows)
    (q : RowQuery ρ ε β) (s : RowSession constraints) :
    O.policy.hidden (q.exec O.policy s).2.rows = O.policy.hidden s.rows := by
  cases haborted : s.aborted with
  | true => rw [exec_of_aborted haborted]
  | false =>
    cases hplan : q.plan ν O.policy s.rows with
    | error e =>
      rw [exec_of_error haborted hplan]
      rfl
    | ok plan =>
      rcases exec_of_ok haborted hplan with ⟨s', hstore, hexec⟩ | ⟨v, hexec⟩
      · have hrows := (RowSession.store_eq_ok hstore).1
        have hnew := hC s'.rows s'.database.holds
        rw [hrows] at hnew
        rw [hexec, hrows]
        exact ((hC s.rows s.database.holds).splits hnew (written_of_plan hplan)).hidden_apply
      · rw [hexec]
        rfl

/-- In transactions that show the same rows, a query that meets no violation gives the same
answer and leaves the same rows. -/
theorem exec_alike (hC : ∀ rows, constraints rows = none → O.Rooted rows)
    (h : s.Alike O.policy t) (hs : (q.exec O.policy s).2.violations = [])
    (ht : (q.exec O.policy t).2.violations = []) :
    (q.exec O.policy s).1 = (q.exec O.policy t).1 ∧
      (q.exec O.policy s).2.Alike O.policy (q.exec O.policy t).2 := by
  have hplans : q.plan ν O.policy t.rows = q.plan ν O.policy s.rows := plan_congr h.seen.symm
  cases haborted : s.aborted with
  | true =>
    rw [exec_of_aborted haborted, exec_of_aborted (h.aborted ▸ haborted)]
    exact ⟨rfl, h⟩
  | false =>
    have haborted' : t.aborted = false := h.aborted ▸ haborted
    cases hplan : q.plan ν O.policy s.rows with
    | error e =>
      rw [exec_of_error haborted hplan, exec_of_error haborted' (hplans.trans hplan)]
      exact ⟨rfl, h.seen, rfl⟩
    | ok plan =>
      obtain ⟨answer, edit⟩ := plan
      obtain ⟨s', hstore, hexec⟩ := exec_of_clear haborted hplan hs
      obtain ⟨t', hstore', hexec'⟩ := exec_of_clear haborted' (hplans.trans hplan) ht
      rw [hexec, hexec']
      refine ⟨rfl, ?_, ?_⟩
      · rw [seen_of_store hC hplan hstore, seen_of_store hC (hplans.trans hplan) hstore', h.seen]
      · rw [(RowSession.store_eq_ok hstore).2.1, (RowSession.store_eq_ok hstore').2.1, h.aborted]

end RowQuery

/-- What a transaction shows under a policy, and what it hides. -/
def RowSession.view (P : RowPolicy ρ) (constraints : List ρ → Option ν) :
    View (RowSession constraints) where
  same := RowSession.Alike P
  keeps s t := P.hidden t.rows = P.hidden s.rows
  clear s := s.violations = []
  keeps_refl _ := rfl
  keeps_trans h h' := h'.trans h

theorem RowQuery.isolated (hC : ∀ rows, constraints rows = none → O.Rooted rows)
    (q : RowQuery ρ ε β) : Isolated (RowSession.view O.policy constraints) (q.exec O.policy) where
  clear _ h := violations_of_exec h
  keeps s := exec_hidden hC q s
  same _ _ h hs ht := exec_alike hC h hs ht

theorem Queries.violations_of_exec {qs : Queries ρ ν ε β}
    (h : (qs.exec P s).2.violations = []) : s.violations = [] := by
  induction qs generalizing s with
  | answer result => exact h
  | query q next ih => exact RowQuery.violations_of_exec (ih _ h)

theorem Queries.isolated (hC : ∀ rows, constraints rows = none → O.Rooted rows)
    (qs : Queries ρ ν ε β) : Isolated (RowSession.view O.policy constraints) (qs.exec O.policy) := by
  induction qs with
  | answer result => exact .result result
  | query q next ih => exact (RowQuery.isolated hC q).bind ih

end Runs

end WorksAuto.Lib
