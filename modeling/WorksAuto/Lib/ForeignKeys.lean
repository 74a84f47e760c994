import Mathlib.Data.List.Basic
import Mathlib.Data.List.Nodup
import Mathlib.Logic.Function.Basic
import Mathlib.Tactic.Common

/-! Foreign keys.
The rows of several tables have columns that name other rows. When a row is deleted, the keys
to its table act one after the other: a restricting key fails while a row still refers to it,
a clearing key empties the column, and a cascading key deletes the rows that refer to it, each
with all that follows from it. -/

namespace WorksAuto.Lib

universe u v w

inductive OnDelete where
  | cascade | restrict | setNull
  deriving DecidableEq, Repr

structure ForeignKey (τ : Type u) (κ : Type v) where
  child : τ
  column : κ
  parent : τ
  onDelete : OnDelete
  deriving DecidableEq

structure Row (τ : Type u) (κ : Type v) (α : Type w) where
  table : τ
  id : ℕ
  ref : κ → Option ℕ
  data : α

/-- The foreign keys in their order. No two are for one column, and the tables from which a
deletion cascades have no cycle. -/
structure Schema (τ : Type u) (κ : Type v) where
  keys : List (ForeignKey τ κ)
  rank : τ → ℕ
  falls : ∀ k ∈ keys, k.onDelete = .cascade → rank k.child < rank k.parent
  single : ∀ k ∈ keys, ∀ l ∈ keys, k.child = l.child → k.column = l.column → k = l

section Definitions

variable {τ : Type u} {κ : Type v} {α : Type w} [DecidableEq τ] [DecidableEq κ]

namespace Row

def key (r : Row τ κ α) : τ × ℕ := (r.table, r.id)

/-- The row names the row `id` with the key. -/
def refers (r : Row τ κ α) (k : ForeignKey τ κ) (id : ℕ) : Bool :=
  r.table = k.child && r.ref k.column = some id

def clear (r : Row τ κ α) (c : κ) : Row τ κ α := { r with ref := Function.update r.ref c none }

end Row

/-- What a key does when the row `id` has been deleted; `next` acts for a deleted row. -/
def ForeignKey.act (k : ForeignKey τ κ)
    (next : τ → ℕ → List (Row τ κ α) → Option (List (Row τ κ α))) (id : ℕ)
    (rows : List (Row τ κ α)) : Option (List (Row τ κ α)) :=
  match k.onDelete with
  | .restrict => if rows.any (·.refers k id) then none else some rows
  | .setNull => some (rows.map fun r => if r.refers k id then r.clear k.column else r)
  | .cascade =>
    (rows.filter (·.refers k id)).foldlM (fun rows r => next r.table r.id rows)
      (rows.filter fun r => !r.refers k id)

namespace Schema

variable (S : Schema τ κ)

def keysOf (t : τ) : List (ForeignKey τ κ) := S.keys.filter fun k => k.parent = t

/-- The keys act for a deleted row, at most `n` cascades deep. -/
def afterDelete : ℕ → τ → ℕ → List (Row τ κ α) → Option (List (Row τ κ α))
  | 0, _, _, _ => none
  | n + 1, t, id, rows =>
    (S.keysOf t).foldlM (fun rows k => k.act (afterDelete n) id rows) rows

def delete (t : τ) (id : ℕ) (rows : List (Row τ κ α)) : Option (List (Row τ κ α)) :=
  S.afterDelete (S.rank t + 1) t id (rows.filter fun r => r.key ≠ (t, id))

def ValidBut (pending : ForeignKey τ κ → ℕ → Prop) (rows : List (Row τ κ α)) : Prop :=
  ∀ r ∈ rows, ∀ k ∈ S.keys, ∀ id, r.refers k id = true →
    (∃ p ∈ rows, p.key = (k.parent, id)) ∨ pending k id

def Valid (rows : List (Row τ κ α)) : Prop := S.ValidBut (fun _ _ => False) rows

/-- The rows that are deleted with the row `id` by way of some of the keys to its table. -/
inductive GoesWith (rows : List (Row τ κ α)) (start : List (ForeignKey τ κ)) (id : ℕ) :
    Row τ κ α → Prop where
  | first {r : Row τ κ α} {k : ForeignKey τ κ} : r ∈ rows → k ∈ start → k.onDelete = .cascade →
      r.refers k id = true → GoesWith rows start id r
  | next {p r : Row τ κ α} {k : ForeignKey τ κ} : GoesWith rows start id p → r ∈ rows →
      k ∈ S.keys → k.onDelete = .cascade → k.parent = p.table → r.refers k p.id = true →
      GoesWith rows start id r

/-- What is left of a row when rows in `Q` are deleted. -/
structure Trimmed (Q : τ → ℕ → Prop) (r r' : Row τ κ α) : Prop where
  table : r'.table = r.table
  id : r'.id = r.id
  data : r'.data = r.data
  ref : ∀ c, r'.ref c = r.ref c ∨ r'.ref c = none ∧
    ∃ k ∈ S.keys, k.onDelete = .setNull ∧ k.child = r.table ∧ k.column = c ∧
      ∃ id, r.ref c = some id ∧ Q k.parent id

/-- What is left of the rows when rows in `Q` are deleted. -/
structure Trims (Q : τ → ℕ → Prop) (rows rows' : List (Row τ κ α)) : Prop where
  old : ∀ r' ∈ rows', ∃ r ∈ rows, S.Trimmed Q r r'
  kept : ∀ r ∈ rows, ¬ Q r.table r.id → ∃ r' ∈ rows', S.Trimmed Q r r'

/-- What cascades from `Q` is in `Q`. -/
def Closed (Q : τ → ℕ → Prop) (rows : List (Row τ κ α)) : Prop :=
  ∀ r ∈ rows, ∀ k ∈ S.keys, k.onDelete = .cascade → ∀ id, r.refers k id = true →
    Q k.parent id → Q r.table r.id

/-- No row refers to one in `Q` with a restricting key. -/
def Unrestricted (Q : τ → ℕ → Prop) (rows : List (Row τ κ α)) : Prop :=
  ∀ r ∈ rows, ∀ k ∈ S.keys, k.onDelete = .restrict → ∀ id, r.refers k id = true →
    ¬ Q k.parent id

end Schema

end Definitions

section Rows

variable {τ : Type u} {κ : Type v} {α : Type w} {S : Schema τ κ} {Q : τ → ℕ → Prop}
  {pending : ForeignKey τ κ → ℕ → Prop} {r r' r'' : Row τ κ α}
  {rows rows' rows'' : List (Row τ κ α)} {k : ForeignKey τ κ} {t : τ} {id : ℕ}

namespace Schema

theorem Trimmed.refl (r : Row τ κ α) : S.Trimmed Q r r := ⟨rfl, rfl, rfl, fun _ => .inl rfl⟩

theorem Trimmed.trans (h : S.Trimmed Q r r') (h' : S.Trimmed Q r' r'') : S.Trimmed Q r r'' := by
  refine ⟨h'.table.trans h.table, h'.id.trans h.id, h'.data.trans h.data, fun c => ?_⟩
  rcases h.ref c with hsame | ⟨hnone, hkey⟩
  · rcases h'.ref c with hsame' | ⟨hnone', l, hl, hnull, hchild, hcolumn, id, hid, hq⟩
    · exact .inl (hsame'.trans hsame)
    · exact .inr ⟨hnone', l, hl, hnull, hchild.trans h.table, hcolumn, id, hsame ▸ hid, hq⟩
  · rcases h'.ref c with hsame' | ⟨hnone', -⟩
    · exact .inr ⟨hsame'.trans hnone, hkey⟩
    · exact .inr ⟨hnone', hkey⟩

theorem Trimmed.key (h : S.Trimmed Q r r') : r'.key = r.key := Prod.ext h.table h.id

theorem Trims.refl (rows : List (Row τ κ α)) : S.Trims Q rows rows :=
  ⟨fun r hr => ⟨r, hr, .refl r⟩, fun r hr _ => ⟨r, hr, .refl r⟩⟩

theorem Trims.trans (h : S.Trims Q rows rows') (h' : S.Trims Q rows' rows'') :
    S.Trims Q rows rows'' := by
  constructor
  · intro r'' hr''
    obtain ⟨r', hr', htrim'⟩ := h'.old r'' hr''
    obtain ⟨r, hr, htrim⟩ := h.old r' hr'
    exact ⟨r, hr, htrim.trans htrim'⟩
  · intro r hr hq
    obtain ⟨r', hr', htrim⟩ := h.kept r hr hq
    have hq' : ¬ Q r'.table r'.id := by rwa [htrim.table, htrim.id]
    obtain ⟨r'', hr'', htrim'⟩ := h'.kept r' hr' hq'
    exact ⟨r'', hr'', htrim.trans htrim'⟩

end Schema

/-- Deleting rows in `Q`. -/
theorem trims_filter {p : Row τ κ α → Bool} (hp : ∀ r ∈ rows, p r = false → Q r.table r.id) :
    S.Trims Q rows (rows.filter p) := by
  constructor
  · exact fun r hr => ⟨r, List.mem_of_mem_filter hr, .refl r⟩
  · intro r hr hq
    cases hpr : p r with
    | true => exact ⟨r, List.mem_filter.mpr ⟨hr, hpr⟩, .refl r⟩
    | false => exact absurd (hp r hr hpr) hq

theorem foldlM_isSome {β : Type*} {step : List (Row τ κ α) → β → Option (List (Row τ κ α))}
    {items : List β} (good : List (Row τ κ α) → Prop) (hgood : good rows)
    (hstep : ∀ {rows'}, good rows' → ∀ b ∈ items, ∃ rows'', step rows' b = some rows'' ∧
      good rows'') :
    ∃ rows', items.foldlM step rows = some rows' := by
  induction items generalizing rows with
  | nil => exact ⟨rows, rfl⟩
  | cons b items ih =>
    obtain ⟨mid, hmid, hgood'⟩ := hstep hgood b List.mem_cons_self
    obtain ⟨rows', hrows'⟩ := ih hgood' fun hg b hb => hstep hg b (List.mem_cons_of_mem _ hb)
    refine ⟨rows', ?_⟩
    rw [List.foldlM_cons, hmid]
    exact hrows'

variable [DecidableEq τ]

theorem refers_iff : r.refers k id = true ↔ r.table = k.child ∧ r.ref k.column = some id := by
  simp [Row.refers]

theorem mem_keysOf : k ∈ S.keysOf t ↔ k ∈ S.keys ∧ k.parent = t := by
  simp [Schema.keysOf]

namespace Schema

theorem Trimmed.refers (h : S.Trimmed Q r r') (hrefers : r'.refers k id = true) :
    r.refers k id = true := by
  obtain ⟨htable, href⟩ := refers_iff.mp hrefers
  refine refers_iff.mpr ⟨h.table.symm.trans htable, ?_⟩
  rcases h.ref k.column with hsame | ⟨hnone, -⟩
  · exact hsame.symm.trans href
  · rw [hnone] at href
    cases href

theorem Trimmed.keeps (h : S.Trimmed Q r r') (hk : k ∈ S.keys) (hkeep : k.onDelete ≠ .setNull)
    (hrefers : r.refers k id = true) : r'.refers k id = true := by
  obtain ⟨htable, href⟩ := refers_iff.mp hrefers
  refine refers_iff.mpr ⟨h.table.trans htable, ?_⟩
  rcases h.ref k.column with hsame | ⟨-, l, hl, hnull, hchild, hcolumn, -⟩
  · exact hsame.trans href
  · rw [S.single l hl k hk (hchild.trans htable) hcolumn] at hnull
    exact absurd hnull hkeep

/-- A row that refers to nothing in `Q` with a clearing key is left as it is. -/
theorem Trimmed.eq (h : S.Trimmed Q r r')
    (hclear : ∀ k ∈ S.keys, k.onDelete = .setNull → ∀ id, r.refers k id = true → ¬ Q k.parent id) :
    r' = r := by
  have href : r'.ref = r.ref := by
    funext c
    rcases h.ref c with hsame | ⟨-, k, hk, hnull, hchild, rfl, id, hid, hq⟩
    · exact hsame
    · exact absurd hq (hclear k hk hnull id (refers_iff.mpr ⟨hchild.symm, hid⟩))
  cases r
  cases r'
  obtain ⟨rfl, rfl, rfl, -⟩ := h
  obtain rfl := href
  rfl

theorem Closed.trims (h : S.Closed Q rows) (htrims : S.Trims Q rows rows') : S.Closed Q rows' := by
  intro r' hr' k hk hcascade id hrefers hq
  obtain ⟨r, hr, htrim⟩ := htrims.old r' hr'
  rw [htrim.table, htrim.id]
  exact h r hr k hk hcascade id (htrim.refers hrefers) hq

end Schema

theorem trims_foldlM {β : Type*} {step : List (Row τ κ α) → β → Option (List (Row τ κ α))}
    {items : List β} (hclosed : S.Closed Q rows)
    (hstep : ∀ {rows' rows''}, S.Trims Q rows rows' → ∀ b ∈ items, step rows' b = some rows'' →
      S.Trims Q rows' rows'')
    (h : items.foldlM step rows = some rows') : S.Trims Q rows rows' := by
  induction items generalizing rows with
  | nil =>
    obtain rfl := Option.some.inj h
    exact .refl rows
  | cons b items ih =>
    rw [List.foldlM_cons] at h
    obtain ⟨mid, hmid, h⟩ := Option.bind_eq_some_iff.mp h
    have hfirst := hstep (.refl rows) b List.mem_cons_self hmid
    refine hfirst.trans (ih (hclosed.trims hfirst) (fun htrims b hb => ?_) h)
    exact hstep (hfirst.trans htrims) b (List.mem_cons_of_mem _ hb)

theorem validBut_mono {pending' : ForeignKey τ κ → ℕ → Prop}
    (hpending : ∀ l i, pending l i → pending' l i) (h : S.ValidBut pending rows) :
    S.ValidBut pending' rows := by
  intro r hr l hl i hrefers
  exact (h r hr l hl i hrefers).imp_right (hpending l i)

theorem Schema.Unrestricted.trims (h : S.Unrestricted Q rows) (htrims : S.Trims Q rows rows') :
    S.Unrestricted Q rows' := by
  intro r' hr' k hk hrestrict id hrefers
  obtain ⟨r, hr, htrim⟩ := htrims.old r' hr'
  exact h r hr k hk hrestrict id (htrim.refers hrefers)

theorem valid_iff : S.Valid rows ↔ ∀ r ∈ rows, ∀ k ∈ S.keys, r.table = k.child →
    ∀ id ∈ r.ref k.column, ∃ p ∈ rows, p.key = (k.parent, id) := by
  constructor
  · intro h r hr k hk htable id hid
    exact (h r hr k hk id (refers_iff.mpr ⟨htable, hid⟩)).resolve_right (fun hfalse => hfalse)
  · intro h r hr k hk id hrefers
    obtain ⟨htable, hid⟩ := refers_iff.mp hrefers
    exact .inl (h r hr k hk htable id hid)

theorem validBut_foldlM {next : τ → ℕ → List (Row τ κ α) → Option (List (Row τ κ α))}
    (hnext : ∀ {rows rows'} (pending : ForeignKey τ κ → ℕ → Prop) (t : τ) (id : ℕ),
      S.ValidBut (fun l i => pending l i ∨ l.parent = t ∧ i = id) rows →
        next t id rows = some rows' → S.ValidBut pending rows')
    {gone : List (Row τ κ α)}
    (hvalid : S.ValidBut
      (fun l i => pending l i ∨ ∃ g ∈ gone, l.parent = g.table ∧ i = g.id) rows)
    (h : gone.foldlM (fun rows r => next r.table r.id rows) rows = some rows') :
    S.ValidBut pending rows' := by
  induction gone generalizing rows with
  | nil =>
    obtain rfl := Option.some.inj h
    exact validBut_mono (fun l i hpending => by simpa using hpending) hvalid
  | cons g gone ih =>
    rw [List.foldlM_cons] at h
    obtain ⟨mid, hmid, h⟩ := Option.bind_eq_some_iff.mp h
    refine ih (hnext _ g.table g.id (validBut_mono (fun l i hpending => ?_) hvalid) hmid) h
    rcases hpending with hpending | ⟨g', hg', hparent⟩
    · exact .inl (.inl hpending)
    · rcases List.mem_cons.mp hg' with rfl | hg'
      · exact .inr hparent
      · exact .inl (.inr ⟨g', hg', hparent⟩)

end Rows

section Deletion

variable {τ : Type u} {κ : Type v} {α : Type w} [DecidableEq τ] [DecidableEq κ]
  {S : Schema τ κ} {Q : τ → ℕ → Prop} {pending : ForeignKey τ κ → ℕ → Prop} {r : Row τ κ α}
  {rows rows' : List (Row τ κ α)} {k : ForeignKey τ κ} {keys : List (ForeignKey τ κ)} {t : τ}
  {id n : ℕ}

theorem clear_refers_iff {c : κ} :
    (r.clear c).refers k id = true ↔ r.refers k id = true ∧ k.column ≠ c := by
  rw [refers_iff, refers_iff]
  change r.table = k.child ∧ Function.update r.ref c none k.column = some id ↔ _
  by_cases hc : k.column = c
  · subst hc
    simp
  · simp [hc]

theorem trimmed_clear (hk : k ∈ S.keys) (hnull : k.onDelete = .setNull) (hq : Q k.parent id)
    (hrefers : r.refers k id = true) : S.Trimmed Q r (r.clear k.column) := by
  obtain ⟨htable, href⟩ := refers_iff.mp hrefers
  refine ⟨rfl, rfl, rfl, fun c => ?_⟩
  by_cases hc : c = k.column
  · subst hc
    exact .inr ⟨Function.update_self .., k, hk, hnull, htable.symm, rfl, id, href, hq⟩
  · exact .inl (Function.update_of_ne hc ..)

theorem trims_clear (hk : k ∈ S.keys) (hnull : k.onDelete = .setNull) (hq : Q k.parent id) :
    S.Trims Q rows (rows.map fun r => if r.refers k id then r.clear k.column else r) := by
  have hrow : ∀ r : Row τ κ α, S.Trimmed Q r (if r.refers k id then r.clear k.column else r) := by
    intro r
    split_ifs with hrefers
    · exact trimmed_clear hk hnull hq hrefers
    · exact .refl r
  constructor
  · intro r' hr'
    obtain ⟨r, hr, rfl⟩ := List.mem_map.mp hr'
    exact ⟨r, hr, hrow r⟩
  · exact fun r hr _ => ⟨_, List.mem_map_of_mem hr, hrow r⟩

/-- A key deletes rows in `Q` only, when those that refer with it and what follows are in `Q`. -/
theorem trims_act {next : τ → ℕ → List (Row τ κ α) → Option (List (Row τ κ α))}
    (hnext : ∀ {rows rows'} (t : τ) (id : ℕ), S.Closed Q rows → Q t id →
      next t id rows = some rows' → S.Trims Q rows rows')
    (hk : k ∈ S.keys) (hclosed : S.Closed Q rows)
    (hgone : k.onDelete = .cascade → ∀ r ∈ rows, r.refers k id = true → Q r.table r.id)
    (hclear : k.onDelete = .setNull → Q k.parent id) (h : k.act next id rows = some rows') :
    S.Trims Q rows rows' := by
  unfold ForeignKey.act at h
  cases hdelete : k.onDelete with
  | restrict =>
    simp only [hdelete] at h
    split_ifs at h
    obtain rfl := Option.some.inj h
    exact .refl rows
  | setNull =>
    simp only [hdelete] at h
    obtain rfl := Option.some.inj h
    exact trims_clear hk hdelete (hclear hdelete)
  | cascade =>
    simp only [hdelete] at h
    have hfirst : S.Trims Q rows (rows.filter fun r => !r.refers k id) :=
      trims_filter fun r hr hrefers => hgone hdelete r hr (by simpa using hrefers)
    refine hfirst.trans (trims_foldlM (hclosed.trims hfirst) ?_ h)
    intro mid rows'' htrims r hr hstep
    obtain ⟨hr, hrefers⟩ := List.mem_filter.mp hr
    exact hnext r.table r.id ((hclosed.trims hfirst).trims htrims) (hgone hdelete r hr hrefers)
      hstep

/-- What follows from the deletion of a row in `Q` stays in `Q`. -/
theorem trims_afterDelete (hclosed : S.Closed Q rows) (hq : Q t id)
    (h : S.afterDelete n t id rows = some rows') : S.Trims Q rows rows' := by
  induction n generalizing t id rows rows' with
  | zero => cases h
  | succ n ih =>
    refine trims_foldlM hclosed (fun htrims k hk hact => ?_) h
    obtain ⟨hmem, rfl⟩ := mem_keysOf.mp hk
    refine trims_act (fun t id hclosed hq => ih hclosed hq) hmem (hclosed.trims htrims) ?_
      (fun _ => hq) hact
    exact fun hcascade r hr hrefers => hclosed.trims htrims r hr k hmem hcascade id hrefers hq

/-- Some of the keys act for a deleted row, which need not be in `Q`. -/
theorem trims_start (hclosed : S.Closed Q rows) (hkeys : ∀ k ∈ keys, k ∈ S.keys)
    (hgone : ∀ k ∈ keys, k.onDelete = .cascade → ∀ r ∈ rows, r.refers k id = true →
      Q r.table r.id)
    (hclear : ∀ k ∈ keys, k.onDelete = .setNull → Q k.parent id)
    (h : keys.foldlM (fun rows k => k.act (S.afterDelete n) id rows) rows = some rows') :
    S.Trims Q rows rows' := by
  refine trims_foldlM hclosed (fun htrims k hk hact => ?_) h
  refine trims_act (fun t id => trims_afterDelete) (hkeys k hk) (hclosed.trims htrims) ?_
    (hclear k hk) hact
  intro hcascade r' hr' hrefers
  obtain ⟨r, hr, htrim⟩ := htrims.old r' hr'
  rw [htrim.table, htrim.id]
  exact hgone k hk hcascade r hr (htrim.refers hrefers)

theorem validBut_act {next : τ → ℕ → List (Row τ κ α) → Option (List (Row τ κ α))}
    (hnext : ∀ {rows rows'} (pending : ForeignKey τ κ → ℕ → Prop) (t : τ) (id : ℕ),
      S.ValidBut (fun l i => pending l i ∨ l.parent = t ∧ i = id) rows →
        next t id rows = some rows' → S.ValidBut pending rows')
    (hvalid : S.ValidBut (fun l i => pending l i ∨ l = k ∧ i = id) rows)
    (h : k.act next id rows = some rows') : S.ValidBut pending rows' := by
  unfold ForeignKey.act at h
  cases hdelete : k.onDelete with
  | restrict =>
    simp only [hdelete] at h
    split_ifs at h with hany
    obtain rfl := Option.some.inj h
    intro r hr l hl i hrefers
    rcases hvalid r hr l hl i hrefers with hthere | hpending | ⟨rfl, rfl⟩
    · exact .inl hthere
    · exact .inr hpending
    · exact absurd (List.any_eq_true.mpr ⟨r, hr, hrefers⟩) hany
  | setNull =>
    simp only [hdelete] at h
    obtain rfl := Option.some.inj h
    intro r' hr' l hl i hrefers
    obtain ⟨r, hr, rfl⟩ := List.mem_map.mp hr'
    have hkey : ∀ p : Row τ κ α, (if p.refers k id then p.clear k.column else p).key = p.key := by
      intro p
      split_ifs <;> rfl
    have hstill : r.refers l i = true ∧ ¬ (l = k ∧ i = id) := by
      split_ifs at hrefers with hcleared
      · obtain ⟨hrefers, hcolumn⟩ := clear_refers_iff.mp hrefers
        exact ⟨hrefers, fun hl => hcolumn (by rw [hl.1])⟩
      · exact ⟨hrefers, fun hl => hcleared (by rw [← hl.1, ← hl.2]; exact hrefers)⟩
    rcases hvalid r hr l hl i hstill.1 with ⟨p, hp, hpkey⟩ | hpending | hkeyed
    · exact .inl ⟨_, List.mem_map_of_mem hp, (hkey p).trans hpkey⟩
    · exact .inr hpending
    · exact absurd hkeyed hstill.2
  | cascade =>
    simp only [hdelete] at h
    refine validBut_foldlM hnext (fun r hr l hl i hrefers => ?_) h
    obtain ⟨hr, hkept⟩ := List.mem_filter.mp hr
    rcases hvalid r hr l hl i hrefers with ⟨p, hp, hpkey⟩ | hpending | ⟨rfl, rfl⟩
    · cases hgone : p.refers k id with
      | false => exact .inl ⟨p, List.mem_filter.mpr ⟨hp, by simp [hgone]⟩, hpkey⟩
      | true =>
        obtain ⟨htable, hid⟩ := Prod.mk.inj hpkey
        exact .inr (.inr ⟨p, List.mem_filter.mpr ⟨hp, hgone⟩, htable.symm, hid.symm⟩)
    · exact .inr (.inl hpending)
    · simp [hrefers] at hkept

theorem validBut_start {next : τ → ℕ → List (Row τ κ α) → Option (List (Row τ κ α))}
    (hnext : ∀ {rows rows'} (pending : ForeignKey τ κ → ℕ → Prop) (t : τ) (id : ℕ),
      S.ValidBut (fun l i => pending l i ∨ l.parent = t ∧ i = id) rows →
        next t id rows = some rows' → S.ValidBut pending rows')
    (hvalid : S.ValidBut (fun l i => pending l i ∨ l ∈ keys ∧ i = id) rows)
    (h : keys.foldlM (fun rows k => k.act next id rows) rows = some rows') :
    S.ValidBut pending rows' := by
  induction keys generalizing rows with
  | nil =>
    obtain rfl := Option.some.inj h
    exact validBut_mono (fun l i hpending => by simpa using hpending) hvalid
  | cons k keys ih =>
    rw [List.foldlM_cons] at h
    obtain ⟨mid, hmid, h⟩ := Option.bind_eq_some_iff.mp h
    refine ih (validBut_act hnext (validBut_mono (fun l i hpending => ?_) hvalid) hmid) h
    rcases hpending with hpending | ⟨hl, hi⟩
    · exact .inl (.inl hpending)
    · rcases List.mem_cons.mp hl with rfl | hl
      · exact .inr ⟨rfl, hi⟩
      · exact .inl (.inr ⟨hl, hi⟩)

theorem validBut_afterDelete (pending : ForeignKey τ κ → ℕ → Prop)
    (hvalid : S.ValidBut (fun l i => pending l i ∨ l.parent = t ∧ i = id) rows)
    (h : S.afterDelete n t id rows = some rows') : S.ValidBut pending rows' := by
  induction n generalizing pending t id rows rows' with
  | zero => cases h
  | succ n ih =>
    refine validBut_start (fun pending t id => ih pending) (fun r hr l hl i hrefers => ?_) h
    refine (hvalid r hr l hl i hrefers).imp_right (Or.imp_right fun hl' => ?_)
    exact ⟨mem_keysOf.mpr ⟨hl, hl'.1⟩, hl'.2⟩

theorem act_isSome {next : τ → ℕ → List (Row τ κ α) → Option (List (Row τ κ α))}
    (hnext : ∀ {rows} (r : Row τ κ α), r.table = k.child → k.onDelete = .cascade →
      S.Closed Q rows → S.Unrestricted Q rows → Q r.table r.id →
        ∃ rows', next r.table r.id rows = some rows' ∧ S.Trims Q rows rows')
    (hk : k ∈ S.keys) (hclosed : S.Closed Q rows) (hfree : S.Unrestricted Q rows)
    (hq : Q k.parent id) : ∃ rows', k.act next id rows = some rows' := by
  unfold ForeignKey.act
  cases hdelete : k.onDelete with
  | setNull => exact ⟨_, rfl⟩
  | restrict =>
    refine ⟨rows, if_neg fun hany => ?_⟩
    obtain ⟨r, hr, hrefers⟩ := List.any_eq_true.mp hany
    exact hfree r hr k hk hdelete id hrefers hq
  | cascade =>
    have hgone : ∀ r ∈ rows, r.refers k id = true → Q r.table r.id := fun r hr hrefers =>
      hclosed r hr k hk hdelete id hrefers hq
    have hfirst : S.Trims Q rows (rows.filter fun r => !r.refers k id) :=
      trims_filter fun r hr hrefers => hgone r hr (by simpa using hrefers)
    refine foldlM_isSome (fun mid => S.Closed Q mid ∧ S.Unrestricted Q mid)
      ⟨hclosed.trims hfirst, hfree.trims hfirst⟩ fun {mid} hmid r hr => ?_
    obtain ⟨hr, hrefers⟩ := List.mem_filter.mp hr
    obtain ⟨rows', hrows', htrims⟩ := hnext r (refers_iff.mp hrefers).1 hdelete hmid.1 hmid.2
      (hgone r hr hrefers)
    exact ⟨rows', hrows', hmid.1.trims htrims, hmid.2.trims htrims⟩

/-- The deletion of a row in `Q` succeeds when nothing restricts it. -/
theorem afterDelete_isSome (hn : S.rank t < n) (hclosed : S.Closed Q rows)
    (hfree : S.Unrestricted Q rows) (hq : Q t id) :
    ∃ rows', S.afterDelete n t id rows = some rows' := by
  induction n generalizing t id rows with
  | zero => exact absurd hn (Nat.not_lt_zero _)
  | succ n ih =>
    refine foldlM_isSome (fun mid => S.Closed Q mid ∧ S.Unrestricted Q mid) ⟨hclosed, hfree⟩
      fun {mid} hmid k hk => ?_
    obtain ⟨hmem, rfl⟩ := mem_keysOf.mp hk
    have hact : ∃ rows', k.act (S.afterDelete n) id mid = some rows' := by
      refine act_isSome (fun {rows} r htable hcascade hclosed hfree hqr => ?_) hmem hmid.1 hmid.2 hq
      have hrank : S.rank r.table < n := by
        have hfalls := S.falls k hmem hcascade
        rw [htable]
        omega
      obtain ⟨rows', hrows'⟩ := ih hrank hclosed hfree hqr
      exact ⟨rows', hrows', trims_afterDelete hclosed hqr hrows'⟩
    obtain ⟨rows', hrows'⟩ := hact
    have htrims : S.Trims Q mid rows' := by
      refine trims_act (fun t id => trims_afterDelete) hmem hmid.1 ?_ (fun _ => hq) hrows'
      exact fun hcascade r hr hrefers => hmid.1 r hr k hmem hcascade id hrefers hq
    exact ⟨rows', hrows', hmid.1.trims htrims, hmid.2.trims htrims⟩

end Deletion

section Whole

variable {τ : Type u} {κ : Type v} {α : Type w} [DecidableEq τ] [DecidableEq κ]
  {S : Schema τ κ} {Q : τ → ℕ → Prop} {r x : Row τ κ α} {rows rows' : List (Row τ κ α)}
  {k : ForeignKey τ κ} {start rest : List (ForeignKey τ κ)} {t : τ} {id : ℕ}

namespace Schema

omit [DecidableEq κ] in
theorem GoesWith.mem (h : S.GoesWith rows start id x) : x ∈ rows := by
  cases h with
  | first hx => exact hx
  | next _ hx => exact hx

omit [DecidableEq κ] in
theorem GoesWith.mono {start' : List (ForeignKey τ κ)} (hstart : ∀ k ∈ start, k ∈ start')
    (h : S.GoesWith rows start id x) : S.GoesWith rows start' id x := by
  induction h with
  | first hx hk hcascade hrefers => exact .first hx (hstart _ hk) hcascade hrefers
  | next _ hx hk hcascade hparent hrefers ih => exact .next ih hx hk hcascade hparent hrefers

omit [DecidableEq κ] in
theorem GoesWith.rank_lt (hstart : ∀ k ∈ start, k ∈ S.keysOf t)
    (h : S.GoesWith rows start id x) : S.rank x.table < S.rank t := by
  induction h with
  | first hx hk hcascade hrefers =>
    obtain ⟨hmem, rfl⟩ := mem_keysOf.mp (hstart _ hk)
    rw [(refers_iff.mp hrefers).1]
    exact S.falls _ hmem hcascade
  | next _ hx hk hcascade hparent hrefers ih =>
    have hfalls := S.falls _ hk hcascade
    rw [(refers_iff.mp hrefers).1]
    rw [hparent] at hfalls
    omega

omit [DecidableEq κ] in
theorem GoesWith.by_key (reach : ForeignKey τ κ → List τ)
    (hfirst : ∀ k ∈ start, k.child ∈ reach k)
    (hnext : ∀ k ∈ start, ∀ l ∈ S.keys, l.onDelete = .cascade → l.parent ∈ reach k →
      l.child ∈ reach k)
    (h : S.GoesWith rows start id x) :
    ∃ k ∈ start, x.table ∈ reach k ∧ S.GoesWith rows [k] id x := by
  induction h with
  | first hx hk hcascade hrefers =>
    refine ⟨_, hk, ?_, .first hx (List.mem_singleton_self _) hcascade hrefers⟩
    rw [(refers_iff.mp hrefers).1]
    exact hfirst _ hk
  | next _ hx hl hcascade hparent hrefers ih =>
    obtain ⟨k, hk, hreach, hgoes⟩ := ih
    refine ⟨k, hk, ?_, .next hgoes hx hl hcascade hparent hrefers⟩
    rw [(refers_iff.mp hrefers).1]
    exact hnext k hk _ hl hcascade (by rwa [hparent])

omit [DecidableEq κ] in
theorem GoesWith.gone (rest : List (ForeignKey τ κ)) (hunique : (rows.map Row.key).Nodup)
    (htrims : S.Trims (fun _ _ => True) rows rows') (hroot : ∀ y ∈ rows', y.key ≠ (t, id))
    (hvalid : S.ValidBut (fun l i => l ∈ rest ∧ i = id) rows')
    (hstart : ∀ k ∈ start, k ∈ S.keysOf t) (hrest : ∀ k ∈ rest, k ∈ S.keysOf t)
    (hapart : ∀ k ∈ start, k ∉ rest) (h : S.GoesWith rows start id x) :
    ∀ y ∈ rows', y.key ≠ x.key := by
  have hsame : ∀ {x}, x ∈ rows → ∀ y ∈ rows', y.key = x.key → S.Trimmed (fun _ _ => True) x y := by
    intro x hx y hy hkey
    obtain ⟨old, hold, htrim⟩ := htrims.old y hy
    rwa [← List.inj_on_of_nodup_map hunique hold hx (htrim.key.symm.trans hkey)]
  induction h with
  | @first x k hx hk hcascade hrefers =>
    intro y hy hkey
    obtain ⟨hmem, rfl⟩ := mem_keysOf.mp (hstart k hk)
    have hstill := (hsame hx y hy hkey).keeps hmem (by rw [hcascade]; decide) hrefers
    rcases hvalid y hy k hmem id hstill with ⟨p, hp, hpkey⟩ | ⟨hpending, -⟩
    · exact hroot p hp hpkey
    · exact hapart k hk hpending
  | @next p x k hp hx hk hcascade hparent hrefers ih =>
    intro y hy hkey
    have hstill := (hsame hx y hy hkey).keeps hk (by rw [hcascade]; decide) hrefers
    rcases hvalid y hy k hk p.id hstill with ⟨q, hq, hqkey⟩ | ⟨hpending, -⟩
    · exact ih q hq (hqkey.trans (by rw [hparent]; rfl))
    · have hlt := hp.rank_lt hstart
      rw [← hparent, (mem_keysOf.mp (hrest k hpending)).2] at hlt
      exact absurd hlt (Nat.lt_irrefl _)

omit [DecidableEq κ] in
theorem trims_root (hq : Q t id) :
    S.Trims Q rows (rows.filter fun r => r.key ≠ (t, id)) := by
  refine trims_filter fun r hr hkey => ?_
  obtain ⟨htable, hid⟩ := Prod.mk.inj (by simpa using hkey : r.key = (t, id))
  rwa [htable, hid]

theorem trims_delete (hclosed : S.Closed Q rows) (hq : Q t id)
    (h : S.delete t id rows = some rows') : S.Trims Q rows rows' :=
  (trims_root hq).trans (trims_afterDelete (hclosed.trims (trims_root hq)) hq h)

theorem delete_isSome (hclosed : S.Closed Q rows) (hfree : S.Unrestricted Q rows) (hq : Q t id) :
    ∃ rows', S.delete t id rows = some rows' :=
  afterDelete_isSome (Nat.lt_succ_self _) (hclosed.trims (trims_root hq))
    (hfree.trims (trims_root hq)) hq

omit [DecidableEq κ] in
theorem validBut_root (hvalid : S.Valid rows) :
    S.ValidBut (fun l i => l.parent = t ∧ i = id) (rows.filter fun r => r.key ≠ (t, id)) := by
  intro r hr k hk i hrefers
  rcases hvalid r (List.mem_of_mem_filter hr) k hk i hrefers with ⟨p, hp, hpkey⟩ | hfalse
  · by_cases hroot : p.key = (t, id)
    · obtain ⟨hparent, hid⟩ := Prod.mk.inj (hpkey.symm.trans hroot)
      exact .inr ⟨hparent, hid⟩
    · exact .inl ⟨p, List.mem_filter.mpr ⟨hp, by simpa using hroot⟩, hpkey⟩
  · exact hfalse.elim

theorem valid_delete (hvalid : S.Valid rows) (h : S.delete t id rows = some rows') :
    S.Valid rows' := by
  refine validBut_afterDelete (fun _ _ => False) (validBut_mono (fun l i hl => ?_)
    (validBut_root hvalid)) h
  exact .inr hl

omit [DecidableEq κ] in
theorem Trims.not_root {mid : List (Row τ κ α)}
    (h : S.Trims Q (rows.filter fun r => r.key ≠ (t, id)) mid) : ∀ y ∈ mid, y.key ≠ (t, id) := by
  intro y hy
  obtain ⟨r, hr, htrim⟩ := h.old y hy
  rw [htrim.key]
  simpa using (List.mem_filter.mp hr).2

theorem delete_not_root (h : S.delete t id rows = some rows') : ∀ y ∈ rows', y.key ≠ (t, id) := by
  have hclosed : S.Closed (fun _ _ => True) (rows.filter fun r => r.key ≠ (t, id)) :=
    fun _ _ _ _ _ _ _ _ => trivial
  exact (trims_afterDelete hclosed trivial h).not_root

theorem delete_gone (hunique : (rows.map Row.key).Nodup) (hvalid : S.Valid rows)
    (h : S.delete t id rows = some rows') (hx : S.GoesWith rows (S.keysOf t) id x) :
    ∀ y ∈ rows', y.key ≠ x.key := by
  have hclosed : S.Closed (fun _ _ => True) rows := fun _ _ _ _ _ _ _ _ => trivial
  refine hx.gone [] hunique (trims_delete hclosed trivial h) (delete_not_root h)
    (fun r hr k hk i hrefers => ?_) (fun k hk => hk) (fun k hk => by cases hk)
    fun k _ hk => by cases hk
  exact (valid_delete hvalid h r hr k hk i hrefers).imp_right False.elim

/-- A row whose table no key before a given place can reach is there when these have acted, and
keeps what goes by way of them from going. -/
theorem not_refers_of_order (hsplit : S.keysOf t = start ++ rest)
    (hapart : ∀ k ∈ start, k ∉ rest) (hunique : (rows.map Row.key).Nodup) (hvalid : S.Valid rows)
    (h : S.delete t id rows = some rows') (tables : List τ)
    (hfirst : ∀ l ∈ start, l.child ∈ tables) (hclear : ∀ l ∈ start, l.onDelete ≠ .setNull)
    (hnext : ∀ l ∈ S.keys, l.onDelete = .cascade → l.parent ∈ tables → l.child ∈ tables)
    (hk : k ∈ S.keys) (hrestrict : k.onDelete = .restrict) (hstay : k.child ∉ tables)
    (hroot : k.child ≠ t) (hr : r ∈ rows) (hx : S.GoesWith rows start id x)
    (hparent : k.parent = x.table) : r.refers k x.id = false := by
  have hkeys : ∀ l ∈ start, l ∈ S.keysOf t := fun l hl => by
    rw [hsplit]
    exact List.mem_append_left _ hl
  have hkeys' : ∀ l ∈ rest, l ∈ S.keysOf t := fun l hl => by
    rw [hsplit]
    exact List.mem_append_right _ hl
  rw [delete, afterDelete, hsplit, List.foldlM_append] at h
  obtain ⟨mid, hmid, -⟩ := Option.bind_eq_some_iff.mp h
  cases hrefers : r.refers k x.id with
  | false => rfl
  | true =>
    exfalso
    -- what the keys before that place do to the tables that they do not reach
    have hclosed : S.Closed (fun t' _ => t' ∈ tables) (rows.filter fun r => r.key ≠ (t, id)) := by
      intro r hr l hl hcascade i hrefers hparent
      rw [(refers_iff.mp hrefers).1]
      exact hnext l hl hcascade hparent
    have htrims : S.Trims (fun t' _ => t' ∈ tables) (rows.filter fun r => r.key ≠ (t, id)) mid := by
      refine trims_start hclosed (fun l hl => (mem_keysOf.mp (hkeys l hl)).1) ?_
        (fun l hl hnull => absurd hnull (hclear l hl)) hmid
      intro l hl _ r _ hrefers
      rw [(refers_iff.mp hrefers).1]
      exact hfirst l hl
    have hall : S.Closed (fun _ _ => True) (rows.filter fun r => r.key ≠ (t, id)) :=
      fun _ _ _ _ _ _ _ _ => trivial
    have htrims' : S.Trims (fun _ _ => True) (rows.filter fun r => r.key ≠ (t, id)) mid :=
      trims_start hall (fun l hl => (mem_keysOf.mp (hkeys l hl)).1) (fun _ _ _ _ _ _ => trivial)
        (fun _ _ _ => trivial) hmid
    have hvalid' : S.ValidBut (fun l i => l ∈ rest ∧ i = id) mid := by
      refine validBut_start (fun pending t id => validBut_afterDelete pending) ?_ hmid
      intro r hr l hl i hrefers
      refine (validBut_root hvalid r hr l hl i hrefers).imp_right fun ⟨hparent, hi⟩ => ?_
      have hmem : l ∈ start ++ rest := hsplit ▸ mem_keysOf.mpr ⟨hl, hparent⟩
      exact (List.mem_append.mp hmem).symm.imp (fun hl => ⟨hl, hi⟩) fun hl => ⟨hl, hi⟩
    have hgone := hx.gone rest hunique ((trims_root trivial).trans htrims') htrims'.not_root hvalid'
      hkeys hkeys' hapart
    have htable := (refers_iff.mp hrefers).1
    have hrow : r ∈ rows.filter fun r => r.key ≠ (t, id) := by
      refine List.mem_filter.mpr ⟨hr, ?_⟩
      have hkey : r.key ≠ (t, id) := fun hkey => hroot (htable.symm.trans (Prod.mk.inj hkey).1)
      simpa using hkey
    obtain ⟨r', hr', htrim⟩ := htrims.kept r hrow (by rwa [htable])
    have hstill := htrim.keeps hk (by rw [hrestrict]; decide) hrefers
    rcases hvalid' r' hr' k hk x.id hstill with ⟨p, hp, hpkey⟩ | ⟨hpending, -⟩
    · exact hgone p hp (hpkey.trans (by rw [hparent]; rfl))
    · have hlt := hx.rank_lt hkeys
      rw [← hparent, (mem_keysOf.mp (hkeys' k hpending)).2] at hlt
      exact absurd hlt (Nat.lt_irrefl _)

end Schema

end Whole

end WorksAuto.Lib
