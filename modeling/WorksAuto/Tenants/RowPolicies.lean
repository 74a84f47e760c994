import WorksAuto.Lib.RowSecurity
import WorksAuto.Tenants.Deletion

/-! The row policies of the migrations.
A policy compares the tenant of a row, or of the row that it belongs to, with the settings of the
transaction. For a transaction of a tenant all policies together show what the tenant owns. -/

namespace WorksAuto.Tenants

open Lib

section Policies

/-- The `tenant_isolation_policy` of a table: the row has the tenant itself, or lies below a row
that has it, or is a user, whose tenant may be null. -/
inductive TenantPolicy where
  | direct
  | viaParent (column : ColumnName) (parent : TableName)
  | users
  deriving DecidableEq, Repr

/-- The policies of all migrations; the tables of the last line have none. -/
def TableName.policy? : TableName → Option TenantPolicy
  | .branches | .customers | .vehicles | .services | .mechanics | .appointments | .workOrders
  | .products | .stockMovements | .warehouseShelves | .invoices | .payments | .currentAccounts
  | .cariMovements | .auditLogs | .idempotencyRecords | .documentSequences | .notifications
  | .customerConsents | .workshopBays => some .direct
  | .workOrderItems | .workOrderPhotos | .workOrderNotes => some (.viaParent .workOrderId .workOrders)
  | .shelfCells => some (.viaParent .shelfId .warehouseShelves)
  | .users => some .users
  | .tenantConsents | .tenantNotificationSettings => some .direct
  | .paymentAttempts | .tenantInvoiceSettings => some .direct
  | .invoiceItems => some (.viaParent .invoiceId .invoices)
  | .staffLeaves => some .direct
  | .tenants | .refreshTokens | .complianceRedactionLogs => none

/-- `id::text`. -/
def uuidText (id : Uuid) : String := toString id

/-- The settings `app.current_tenant_id` and `app.bypass_rls` of a transaction. -/
structure Settings where
  currentTenantId : String
  bypassRls : String

namespace Settings

variable {α : Type} (s : Settings)

/-- `current_tenant_id()`: `NULLIF(current_setting('app.current_tenant_id', true), '')`. -/
def tenantId? : Option String :=
  if s.currentTenantId = "" then none else some s.currentTenantId

def rlsBypassed : Bool := s.bypassRls = "on"

/-- `tenant_id::text = current_tenant_id()`, which holds of no null. -/
def isTenant (tenantId : Option Uuid) : Bool :=
  match tenantId, s.tenantId? with
  | some tenantId, some current => uuidText tenantId = current
  | _, _ => false

/-- `WITH CHECK` of a row. -/
def checks (rows : List (TenantRow α)) (r : TenantRow α) : Bool :=
  match r.table.policy? with
  | none => true
  | some .direct => s.rlsBypassed || s.isTenant (r.ref .tenantId)
  | some (.viaParent column parent) => s.rlsBypassed || rows.any fun p =>
      p.table = parent && r.ref column = some p.id && s.isTenant (p.ref .tenantId)
  | some .users => s.rlsBypassed || s.isTenant (r.ref .tenantId)

/-- `USING` of a row: what is checked, and without a tenant the users who have none. -/
def shows (rows : List (TenantRow α)) (r : TenantRow α) : Bool :=
  s.checks rows r ||
    (r.table.policy? = some .users && s.tenantId?.isNone && (r.ref .tenantId).isNone)

def policy : RowPolicy (TenantRow α) := ⟨s.shows, s.checks⟩

end Settings

end Policies

section Constraints

variable {α : Type}

inductive Violation where
  | uniqueIndex | foreignKey
  deriving DecidableEq, Repr

instance (rows : List (TenantRow α)) : Decidable (schema.Valid rows) :=
  decidable_of_iff _ valid_iff.symm

/-- The primary keys, the other unique indexes and exclusions, which `indexes` decides, and the
foreign keys. A row that is gone while another refers to it violates a key as well: what the key
would do then is left out. -/
def constraints (indexes : List (TenantRow α) → Bool) (rows : List (TenantRow α)) :
    Option Violation :=
  if (rows.map Row.key).Nodup ∧ indexes rows = true then
    if schema.Valid rows then none else some .foreignKey
  else some .uniqueIndex

theorem constraints_eq_none {indexes : List (TenantRow α) → Bool} {rows : List (TenantRow α)} :
    constraints indexes rows = none ↔
      ((rows.map Row.key).Nodup ∧ indexes rows = true) ∧ schema.Valid rows := by
  unfold constraints
  split_ifs with hunique hkeys
  · simp only [hunique, hkeys, and_self]
  · simp only [hunique, hkeys, and_self, and_false]
  · simp only [hunique, false_and]

end Constraints

section Ownership

theorem parents_have_tenants : ∀ t column parent,
    TableName.policy? t = some (.viaParent column parent) → parent.policy? = some .direct := by
  intro t column parent h
  cases t <;> cases h <;> rfl

theorem parents_have_keys : ∀ t column parent,
    TableName.policy? t = some (.viaParent column parent) →
      ∃ k ∈ foreignKeys, k.child = t ∧ k.column = column ∧ k.parent = parent := by
  intro t column parent h
  cases t <;> cases h <;> decide +kernel

variable {α : Type} {s : Settings} {r p : TenantRow α} {rows : List (TenantRow α)}

def isUnder (r p : TenantRow α) : Bool :=
  match r.table.policy? with
  | some (.viaParent column parent) => p.table = parent && r.ref column = some p.id
  | _ => false

theorem isUnder_iff : isUnder r p = true ↔ ∃ column,
    r.table.policy? = some (.viaParent column p.table) ∧ r.ref column = some p.id := by
  unfold isUnder
  split
  · rename_i column parent hpolicy
    simp only [Bool.and_eq_true, decide_eq_true_eq, hpolicy, Option.some.injEq,
      TenantPolicy.viaParent.injEq]
    constructor
    · rintro ⟨rfl, href⟩
      exact ⟨column, ⟨rfl, rfl⟩, href⟩
    · rintro ⟨_, ⟨rfl, rfl⟩, href⟩
      exact ⟨rfl, href⟩
  · rename_i hpolicy
    simp only [Bool.false_eq_true, false_iff, not_exists, not_and]
    exact fun column h => absurd h (hpolicy column p.table)

/-- The row has the tenant itself. Of the tables without a policy everybody owns all rows. -/
def Settings.own (s : Settings) (r : TenantRow α) : Bool :=
  match r.table.policy? with
  | none => true
  | some (.viaParent _ _) => false
  | some .direct | some .users => s.isTenant (r.ref .tenantId)

def Settings.ownership (s : Settings) : Ownership (TenantRow α) where
  own := s.own
  under := isUnder
  child r :=
    match r.table.policy? with
    | some (.viaParent _ _) => true
    | _ => false
  child_of_under h := by
    obtain ⟨column, hpolicy, -⟩ := isUnder_iff.mp h
    rw [hpolicy]
  not_child_of_under h := by
    obtain ⟨column, hpolicy, -⟩ := isUnder_iff.mp h
    rw [parents_have_tenants _ _ _ hpolicy]
  not_own_of_child {r} h := by
    unfold Settings.own
    split at h
    · rename_i hpolicy
      rw [hpolicy]
    · cases h

theorem checks_eq_owns (hbypass : s.rlsBypassed = false) :
    s.checks rows r = s.ownership.owns rows r := by
  cases hpolicy : r.table.policy? with
  | none => simp [Settings.checks, Ownership.owns, Settings.ownership, Settings.own, hpolicy]
  | some policy =>
    cases policy with
    | direct | users =>
      simp [Settings.checks, Ownership.owns, Settings.ownership, Settings.own, isUnder, hpolicy,
        hbypass]
    | viaParent column parent =>
      have hparent (p : TenantRow α) :
          (decide (p.table = parent) && decide (r.ref column = some p.id) &&
            s.isTenant (p.ref .tenantId)) = (s.own p && isUnder r p) := by
        by_cases htable : p.table = parent
        · have hdirect : p.table.policy? = some .direct :=
            htable ▸ parents_have_tenants _ _ _ hpolicy
          rw [Settings.own, hdirect, isUnder, hpolicy, Bool.and_comm]
        · simp only [isUnder, hpolicy, htable, decide_false, Bool.false_and, Bool.and_false]
      simp [Settings.checks, Ownership.owns, Settings.ownership, Settings.own, hpolicy, hbypass,
        hparent]

theorem policy_eq_ownership (hbypass : s.rlsBypassed = false) (htenant : s.tenantId?.isSome) :
    (s.policy : RowPolicy (TenantRow α)) = s.ownership.policy := by
  have hchecks : (s.checks : List (TenantRow α) → TenantRow α → Bool) = s.ownership.owns := by
    funext rows r
    exact checks_eq_owns hbypass
  have hshows : (s.shows : List (TenantRow α) → TenantRow α → Bool) = s.checks := by
    funext rows r
    rw [Settings.shows, Option.isNone_eq_false_iff.mpr htenant, Bool.and_false, Bool.false_and,
      Bool.or_false]
  rw [Settings.policy, Ownership.policy, hshows, hchecks]

theorem rooted_of_constraints {indexes : List (TenantRow α) → Bool}
    (h : constraints indexes rows = none) : s.ownership.Rooted rows := by
  obtain ⟨⟨hunique, -⟩, hkeys⟩ := constraints_eq_none.mp h
  refine ⟨fun r hr p hunder => ?_, fun r p hp q hq hpr hqr => ?_⟩
  · obtain ⟨column, hpolicy, href⟩ := isUnder_iff.mp hunder
    obtain ⟨k, hk, hchild, hcolumn, hparent⟩ := parents_have_keys _ _ _ hpolicy
    obtain ⟨q, hq, hkey⟩ := valid_iff.mp hkeys r hr k hk hchild.symm p.id (hcolumn ▸ href)
    obtain ⟨htable, hid⟩ := Prod.mk.inj hkey
    refine ⟨q, hq, isUnder_iff.mpr ⟨column, ?_, ?_⟩⟩
    · rw [hpolicy, htable, hparent]
    · rw [href, hid]
  · obtain ⟨column, hpolicy, href⟩ := isUnder_iff.mp hpr
    obtain ⟨column', hpolicy', href'⟩ := isUnder_iff.mp hqr
    obtain ⟨rfl, htable⟩ := TenantPolicy.viaParent.inj (Option.some.inj (hpolicy.symm.trans hpolicy'))
    have hid : p.id = q.id := Option.some.inj (href.symm.trans href')
    exact List.inj_on_of_nodup_map hunique hp hq (Prod.ext htable hid)

end Ownership

end WorksAuto.Tenants
