import WorksAuto.Lib.ForeignKeys
import WorksAuto.Values

/-! Deleting a tenant.
One statement deletes the row of the tenant, and the foreign keys of the migrations do the rest,
in the order in which these created them. The columns that are no keys, the tenant's apart, are
the other data of a row. -/

namespace WorksAuto.Tenants

open Lib

inductive TableName where
  | tenants | branches | users | refreshTokens | customers | vehicles | services | mechanics
  | appointments | workOrders | workOrderItems | workOrderPhotos | workOrderNotes | products
  | stockMovements | invoices | payments | currentAccounts | cariMovements | auditLogs
  | complianceRedactionLogs | idempotencyRecords | notifications | warehouseShelves | shelfCells
  | invoiceItems | documentSequences | customerConsents | workshopBays | tenantInvoiceSettings
  | tenantConsents | tenantNotificationSettings | paymentAttempts | staffLeaves
  deriving DecidableEq, Repr

inductive ColumnName where
  | tenantId | userId | customerId | vehicleId | serviceId | assignedMechanicId | appointmentId
  | workOrderId | productId | invoiceId | currentAccountId | shelfCellId | shelfId
  | signedByUserId | approvedById
  deriving DecidableEq, Repr

section Migrations

/-- The keys of `0_init` that no later migration drops. -/
def initialKeys : List (ForeignKey TableName ColumnName) :=
  [⟨.branches, .tenantId, .tenants, .cascade⟩,
    ⟨.users, .tenantId, .tenants, .cascade⟩,
    ⟨.refreshTokens, .userId, .users, .cascade⟩,
    ⟨.customers, .tenantId, .tenants, .cascade⟩,
    ⟨.vehicles, .tenantId, .tenants, .cascade⟩,
    ⟨.vehicles, .customerId, .customers, .cascade⟩,
    ⟨.services, .tenantId, .tenants, .cascade⟩,
    ⟨.mechanics, .tenantId, .tenants, .cascade⟩,
    ⟨.mechanics, .userId, .users, .cascade⟩,
    ⟨.appointments, .tenantId, .tenants, .cascade⟩,
    ⟨.appointments, .customerId, .customers, .cascade⟩,
    ⟨.appointments, .vehicleId, .vehicles, .cascade⟩,
    ⟨.appointments, .assignedMechanicId, .mechanics, .setNull⟩,
    ⟨.workOrders, .tenantId, .tenants, .cascade⟩,
    ⟨.workOrders, .appointmentId, .appointments, .setNull⟩,
    ⟨.workOrders, .assignedMechanicId, .mechanics, .setNull⟩,
    ⟨.workOrderItems, .workOrderId, .workOrders, .cascade⟩,
    ⟨.workOrderPhotos, .workOrderId, .workOrders, .cascade⟩,
    ⟨.workOrderNotes, .workOrderId, .workOrders, .cascade⟩,
    ⟨.products, .tenantId, .tenants, .cascade⟩,
    ⟨.stockMovements, .tenantId, .tenants, .cascade⟩,
    ⟨.stockMovements, .productId, .products, .cascade⟩,
    ⟨.invoices, .tenantId, .tenants, .cascade⟩,
    ⟨.invoices, .workOrderId, .workOrders, .setNull⟩,
    ⟨.payments, .tenantId, .tenants, .cascade⟩,
    ⟨.payments, .invoiceId, .invoices, .setNull⟩,
    ⟨.currentAccounts, .tenantId, .tenants, .cascade⟩,
    ⟨.cariMovements, .tenantId, .tenants, .cascade⟩,
    ⟨.cariMovements, .currentAccountId, .currentAccounts, .cascade⟩,
    ⟨.auditLogs, .tenantId, .tenants, .cascade⟩,
    ⟨.notifications, .tenantId, .tenants, .cascade⟩,
    ⟨.notifications, .userId, .users, .cascade⟩]

/-- The keys that the later migrations add, some of them in the place of one that they drop. -/
def addedKeys : List (ForeignKey TableName ColumnName) :=
  [⟨.appointments, .serviceId, .services, .setNull⟩,
    ⟨.workOrders, .customerId, .customers, .restrict⟩,
    ⟨.workOrders, .vehicleId, .vehicles, .restrict⟩,
    ⟨.products, .shelfCellId, .shelfCells, .setNull⟩,
    ⟨.warehouseShelves, .tenantId, .tenants, .cascade⟩,
    ⟨.shelfCells, .shelfId, .warehouseShelves, .cascade⟩,
    ⟨.invoices, .customerId, .customers, .restrict⟩,
    ⟨.invoiceItems, .invoiceId, .invoices, .cascade⟩,
    ⟨.payments, .customerId, .customers, .restrict⟩,
    ⟨.currentAccounts, .customerId, .customers, .restrict⟩,
    ⟨.customerConsents, .customerId, .customers, .cascade⟩,
    ⟨.customerConsents, .tenantId, .tenants, .cascade⟩,
    ⟨.workshopBays, .tenantId, .tenants, .cascade⟩,
    ⟨.tenantInvoiceSettings, .tenantId, .tenants, .cascade⟩,
    ⟨.tenantConsents, .tenantId, .tenants, .cascade⟩,
    ⟨.tenantConsents, .signedByUserId, .users, .restrict⟩,
    ⟨.tenantNotificationSettings, .tenantId, .tenants, .cascade⟩,
    ⟨.paymentAttempts, .tenantId, .tenants, .cascade⟩,
    ⟨.paymentAttempts, .invoiceId, .invoices, .restrict⟩,
    ⟨.staffLeaves, .tenantId, .tenants, .cascade⟩,
    ⟨.staffLeaves, .userId, .users, .cascade⟩,
    ⟨.staffLeaves, .approvedById, .users, .setNull⟩]

def foreignKeys : List (ForeignKey TableName ColumnName) := initialKeys ++ addedKeys

def TableName.rank : TableName → ℕ
  | .tenants => 3
  | .customers => 2
  | .users | .vehicles | .workOrders | .products | .invoices | .currentAccounts
  | .warehouseShelves => 1
  | _ => 0

def schema : Schema TableName ColumnName where
  keys := foreignKeys
  rank := TableName.rank
  falls := by decide +kernel
  single := by decide +kernel

end Migrations

section Rows

variable {α : Type}

abbrev TenantRow (α : Type) := Row TableName ColumnName α

/-- A state of the database: the primary keys are unique and the foreign keys hold. -/
structure TenantData (α : Type) where
  rows : List (TenantRow α)
  unique : (rows.map Row.key).Nodup
  valid : schema.Valid rows

def deleteTenant (rows : List (TenantRow α)) (tenantId : Uuid) :
    Outcome (List (TenantRow α)) := do
  let _ ← Outcome.required (rows.find? fun r => r.key = (.tenants, tenantId))
    (.notFound "Silinecek servis kaydı bulunamadı.")
  Outcome.required (schema.delete .tenants tenantId rows) (.database "P2003")

/-- The tables without a tenant column whose rows belong to a row of another table. -/
def TableName.parent? : TableName → Option (ColumnName × TableName)
  | .refreshTokens => some (.userId, .users)
  | .workOrderItems => some (.workOrderId, .workOrders)
  | .workOrderPhotos => some (.workOrderId, .workOrders)
  | .workOrderNotes => some (.workOrderId, .workOrders)
  | .shelfCells => some (.shelfId, .warehouseShelves)
  | .invoiceItems => some (.invoiceId, .invoices)
  | _ => none

def TableName.hasTenantId : TableName → Bool
  | .tenants | .complianceRedactionLogs => false
  | t => t.parent?.isNone

inductive OfTenant (rows : List (TenantRow α)) (tenantId : Uuid) : TenantRow α → Prop where
  | tenant {r : TenantRow α} : r.key = (.tenants, tenantId) → OfTenant rows tenantId r
  | own {r : TenantRow α} : r.table.hasTenantId = true → r.ref .tenantId = some tenantId →
      OfTenant rows tenantId r
  | child {r p : TenantRow α} {column : ColumnName} : r.table.parent? = some (column, p.table) →
      p ∈ rows → r.ref column = some p.id → p.ref .tenantId = some tenantId →
      OfTenant rows tenantId r

def GoesWithTenant (rows : List (TenantRow α)) (tenantId : Uuid) : TenantRow α → Prop :=
  schema.GoesWith rows (schema.keysOf .tenants) tenantId

/-- The tenant is gone with all of its rows, and the other tenants' rows are what they were. -/
structure TenantGone (rows rows' : List (TenantRow α)) (tenantId : Uuid) : Prop where
  own : ∀ r ∈ rows', r.table.hasTenantId = true → r.ref .tenantId ≠ some tenantId
  gone : ∀ r ∈ rows, OfTenant rows tenantId r → ∀ r' ∈ rows', r'.key ≠ r.key
  others : ∀ other, other ≠ tenantId → ∀ r, OfTenant rows other r → (r ∈ rows ↔ r ∈ rows')

/-- No key restricts what goes with the tenant, no row carries its id without a foreign key, and
no other tenant has a row that goes with it or refers with a clearing key to what does. -/
structure Deletable (rows : List (TenantRow α)) (tenantId : Uuid) : Prop where
  unrestricted : ∀ r ∈ rows, ∀ k ∈ foreignKeys, k.onDelete = .restrict →
    ∀ x, GoesWithTenant rows tenantId x → k.parent = x.table → r.refers k x.id = false
  untracked : ∀ r ∈ rows, r.table = .documentSequences ∨ r.table = .idempotencyRecords →
    r.ref .tenantId ≠ some tenantId
  apart : ∀ other, other ≠ tenantId → ∀ r ∈ rows, OfTenant rows other r →
    ¬ GoesWithTenant rows tenantId r ∧ ∀ k ∈ foreignKeys, k.onDelete = .setNull →
      ∀ x, GoesWithTenant rows tenantId x → k.parent = x.table → r.refers k x.id = false

end Rows

section Keys

def cascadesTo (t : TableName) : List TableName :=
  let next (t : TableName) : List TableName :=
    ((schema.keysOf t).filter fun k => k.onDelete = .cascade).map ForeignKey.child
  t :: next t ++ (next t).flatMap next

/-- The keys to the tenants that act before those rows of the table are deleted. -/
def before (t : TableName) : List (ForeignKey TableName ColumnName) :=
  (schema.keysOf .tenants).takeWhile fun l => l.child ≠ t

def after (t : TableName) : List (ForeignKey TableName ColumnName) :=
  (schema.keysOf .tenants).dropWhile fun l => l.child ≠ t

theorem before_append_after (t : TableName) :
    schema.keysOf .tenants = before t ++ after t := List.takeWhile_append_dropWhile.symm

theorem cascadesTo_closed : ∀ k ∈ schema.keysOf .tenants, ∀ l ∈ foreignKeys,
    l.onDelete = .cascade → l.parent ∈ cascadesTo k.child → l.child ∈ cascadesTo k.child := by
  decide +kernel

theorem restricting_keys_act_first : ∀ k ∈ foreignKeys, k.onDelete = .restrict →
    (∀ l ∈ before k.child, l ∉ after k.child) ∧
      (∀ l ∈ before k.child, l.onDelete ≠ .setNull) ∧
        k.child ∉ (before k.child).flatMap (fun l => cascadesTo l.child) ∧
          ∀ l ∈ schema.keysOf .tenants, k.parent ∈ cascadesTo l.child → l ∈ before k.child := by
  decide +kernel

theorem tenant_keys (t : TableName) : t.hasTenantId = true →
    (t = .documentSequences ∨ t = .idempotencyRecords) ∨
      ⟨t, .tenantId, .tenants, .cascade⟩ ∈ schema.keysOf .tenants := by
  cases t <;> decide +kernel

theorem parent_keys (t : TableName) : ∀ q ∈ t.parent?,
    ⟨t, q.1, q.2, .cascade⟩ ∈ foreignKeys ∧
      ⟨q.2, .tenantId, .tenants, .cascade⟩ ∈ schema.keysOf .tenants := by
  cases t <;> decide +kernel

theorem keyless_tables : ∀ k ∈ foreignKeys, k.child ≠ .tenants ∧
    k.child ≠ .documentSequences ∧ k.child ≠ .idempotencyRecords := by
  decide +kernel

theorem tenants_keys_cascade : ∀ k ∈ schema.keysOf .tenants, k.onDelete = .cascade := by
  decide +kernel

end Keys

section Results

variable {α : Type} {rows rows' : List (TenantRow α)} {tenantId : Uuid} {r x : TenantRow α}

theorem deleteTenant_ok (htenant : ∃ r ∈ rows, r.key = (.tenants, tenantId)) :
    deleteTenant rows tenantId = .ok rows' ↔ schema.delete .tenants tenantId rows = some rows' := by
  unfold deleteTenant
  rw [Outcome.bind_eq_ok]
  simp only [Outcome.required_eq_ok]
  constructor
  · rintro ⟨-, -, h⟩
    exact h
  · intro h
    obtain ⟨r, hr, hkey⟩ := htenant
    cases hfound : rows.find? fun r => r.key = (.tenants, tenantId) with
    | none => exact absurd (by simpa using hkey) (List.find?_eq_none.mp hfound r hr)
    | some found => exact ⟨found, rfl, h⟩

theorem goesWith_own (hr : r ∈ rows)
    (hkey : ⟨r.table, .tenantId, .tenants, .cascade⟩ ∈ schema.keysOf .tenants)
    (href : r.ref .tenantId = some tenantId) : GoesWithTenant rows tenantId r :=
  .first hr hkey rfl (refers_iff.mpr ⟨rfl, href⟩)

theorem goesWith_child {p : TenantRow α} {column : ColumnName} (hr : r ∈ rows)
    (hparent : r.table.parent? = some (column, p.table)) (hp : p ∈ rows)
    (href : r.ref column = some p.id) (htenant : p.ref .tenantId = some tenantId) :
    GoesWithTenant rows tenantId r := by
  obtain ⟨hkey, hparentKey⟩ := parent_keys r.table (column, p.table) hparent
  exact .next (goesWith_own hp hparentKey htenant) hr hkey rfl rfl (refers_iff.mpr ⟨rfl, href⟩)

def Doomed (rows : List (TenantRow α)) (tenantId : Uuid) (t : TableName) (id : ℕ) : Prop :=
  (t, id) = (.tenants, tenantId) ∨ ∃ x, GoesWithTenant rows tenantId x ∧ x.key = (t, id)

theorem doomed_closed : schema.Closed (Doomed rows tenantId) rows := by
  rintro r hr k hk hcascade id hrefers (hroot | ⟨x, hx, hkey⟩)
  · obtain ⟨hparent, rfl⟩ := Prod.mk.inj hroot
    exact .inr ⟨r, .first hr (mem_keysOf.mpr ⟨hk, hparent⟩) hcascade hrefers, rfl⟩
  · obtain ⟨htable, rfl⟩ := Prod.mk.inj hkey
    exact .inr ⟨r, .next hx hr hk hcascade htable.symm hrefers, rfl⟩

theorem doomed_parent {k : ForeignKey TableName ColumnName} {id : ℕ} (hk : k ∈ foreignKeys)
    (hcascade : k.onDelete ≠ .cascade) (h : Doomed rows tenantId k.parent id) :
    ∃ x, GoesWithTenant rows tenantId x ∧ k.parent = x.table ∧ id = x.id := by
  rcases h with hroot | ⟨x, hx, hkey⟩
  · have hparent := (Prod.mk.inj hroot).1
    exact absurd (tenants_keys_cascade k (mem_keysOf.mpr ⟨hk, hparent⟩)) hcascade
  · obtain ⟨htable, hid⟩ := Prod.mk.inj hkey
    exact ⟨x, hx, htable.symm, hid.symm⟩

theorem unrestricted_of_deleted (db : TenantData α)
    (h : schema.delete .tenants tenantId db.rows = some rows') :
    ∀ r ∈ db.rows, ∀ k ∈ foreignKeys, k.onDelete = .restrict →
      ∀ x, GoesWithTenant db.rows tenantId x → k.parent = x.table → r.refers k x.id = false := by
  intro r hr k hk hrestrict x hx hparent
  obtain ⟨hapart, hclear, hstay, hreach⟩ := restricting_keys_act_first k hk hrestrict
  obtain ⟨l, hl, htable, hgoes⟩ := hx.by_key (fun l => cascadesTo l.child)
    (fun l _ => List.mem_cons_self) cascadesTo_closed
  have hbefore : l ∈ before k.child := hreach l hl (hparent ▸ htable)
  have hgoes' : schema.GoesWith db.rows (before k.child) tenantId x :=
    hgoes.mono fun l' hl' => List.mem_singleton.mp hl' ▸ hbefore
  have hkeysOf : ∀ l ∈ before k.child, l ∈ schema.keysOf .tenants := by
    intro l hl
    rw [before_append_after k.child]
    exact List.mem_append_left _ hl
  refine Schema.not_refers_of_order (before_append_after k.child) hapart db.unique db.valid h
    ((before k.child).flatMap fun l => cascadesTo l.child) ?_ hclear ?_ hk hrestrict
    hstay (keyless_tables k hk).1 hr hgoes' hparent
  · exact fun l hl => List.mem_flatMap.mpr ⟨l, hl, List.mem_cons_self⟩
  · intro l hl hcascade hmem
    obtain ⟨m, hm, hmem⟩ := List.mem_flatMap.mp hmem
    exact List.mem_flatMap.mpr ⟨m, hm, cascadesTo_closed m (hkeysOf m hm) l hl hcascade hmem⟩

theorem delete_of_deletable (h : Deletable rows tenantId) :
    ∃ rows', schema.delete .tenants tenantId rows = some rows' := by
  refine Schema.delete_isSome doomed_closed ?_ (.inl rfl)
  intro r hr k hk hrestrict id hrefers hdoomed
  obtain ⟨x, hx, htable, rfl⟩ := doomed_parent hk (by rw [hrestrict]; decide) hdoomed
  rw [h.unrestricted r hr k hk hrestrict x hx htable] at hrefers
  cases hrefers

theorem eq_of_trimmed {other : Uuid} (h : Deletable rows tenantId) (hother : other ≠ tenantId)
    (hr : r ∈ rows) (hof : OfTenant rows other r) {r' : TenantRow α}
    (htrim : schema.Trimmed (Doomed rows tenantId) r r') : r' = r := by
  refine htrim.eq fun k hk hnull id hrefers hdoomed => ?_
  obtain ⟨x, hx, htable, rfl⟩ := doomed_parent hk (by rw [hnull]; decide) hdoomed
  rw [(h.apart other hother r hr hof).2 k hk hnull x hx htable] at hrefers
  cases hrefers

theorem ofTenant_of_trimmed {other : Uuid} {r' : TenantRow α} {Q : TableName → ℕ → Prop}
    (htrim : schema.Trimmed Q r r') (h : OfTenant rows other r') : OfTenant rows other r := by
  have href : ∀ {c : ColumnName} {id : ℕ}, r'.ref c = some id → r.ref c = some id := by
    intro c id hid
    rcases htrim.ref c with hsame | ⟨hnone, -⟩
    · exact hsame.symm.trans hid
    · rw [hnone] at hid
      cases hid
  cases h with
  | tenant hkey => exact .tenant (htrim.key.symm.trans hkey)
  | own htable hid => exact .own (htrim.table ▸ htable) (href hid)
  | child hparent hp hid htenant => exact .child (htrim.table ▸ hparent) hp (href hid) htenant

theorem ofTenant_tenants {other : Uuid} (hkey : r.key = (.tenants, tenantId))
    (h : OfTenant rows other r) : other = tenantId := by
  obtain ⟨htable, hid⟩ := Prod.mk.inj hkey
  cases h with
  | tenant hkey' => exact (Prod.mk.inj (hkey'.symm.trans hkey)).2
  | own hown =>
    rw [htable] at hown
    cases hown
  | child hparent =>
    rw [htable] at hparent
    cases hparent

theorem tenantGone_of_deletable (db : TenantData α) (h : Deletable db.rows tenantId)
    (hdeleted : schema.delete .tenants tenantId db.rows = some rows') :
    TenantGone db.rows rows' tenantId := by
  have htrims := Schema.trims_delete doomed_closed (.inl rfl) hdeleted
  have hvalid := Schema.valid_delete db.valid hdeleted
  constructor
  · intro r hr htable href
    rcases tenant_keys r.table htable with huntracked | hkey
    · obtain ⟨old, hold, htrim⟩ := htrims.old r hr
      refine h.untracked old hold (htrim.table ▸ huntracked) ?_
      rcases htrim.ref .tenantId with hsame | ⟨hnone, -⟩
      · exact hsame.symm.trans href
      · rw [hnone] at href
        cases href
    · rcases hvalid r hr _ (mem_keysOf.mp hkey).1 tenantId (refers_iff.mpr ⟨rfl, href⟩) with
        ⟨p, hp, hpkey⟩ | hfalse
      · exact Schema.delete_not_root hdeleted p hp hpkey
      · exact hfalse
  · intro r hr hof
    cases hof with
    | tenant hkey => exact fun r' hr' => hkey ▸ Schema.delete_not_root hdeleted r' hr'
    | own htable href =>
      rcases tenant_keys r.table htable with huntracked | hkey
      · exact absurd href (h.untracked r hr huntracked)
      · exact Schema.delete_gone db.unique db.valid hdeleted (goesWith_own hr hkey href)
    | child hparent hp href htenant =>
      exact Schema.delete_gone db.unique db.valid hdeleted
        (goesWith_child hr hparent hp href htenant)
  · intro other hother r hof
    constructor
    · intro hr
      have hnot : ¬ Doomed db.rows tenantId r.table r.id := by
        rintro (hroot | ⟨x, hx, hkey⟩)
        · exact hother (ofTenant_tenants hroot hof)
        · have hsame : x = r := List.inj_on_of_nodup_map db.unique hx.mem hr hkey
          exact (h.apart other hother r hr hof).1 (hsame ▸ hx)
      obtain ⟨r', hr', htrim⟩ := htrims.kept r hr hnot
      rwa [← eq_of_trimmed h hother hr hof htrim]
    · intro hr
      obtain ⟨old, hold, htrim⟩ := htrims.old r hr
      rwa [eq_of_trimmed h hother hold (ofTenant_of_trimmed htrim hof) htrim]

theorem untracked_stays (hdeleted : schema.delete .tenants tenantId rows = some rows')
    (hr : r ∈ rows) (htable : r.table = .documentSequences ∨ r.table = .idempotencyRecords) :
    r ∈ rows' := by
  let tracked (t : TableName) (_ : ℕ) : Prop := t ≠ .documentSequences ∧ t ≠ .idempotencyRecords
  have hclosed : schema.Closed tracked rows := by
    intro r _ k hk _ id hrefers _
    have hchild := (keyless_tables k hk).2
    rwa [← (refers_iff.mp hrefers).1] at hchild
  have htrims := Schema.trims_delete hclosed (t := .tenants) (by decide) hdeleted
  have hnot : ¬ tracked r.table r.id := fun htracked =>
    htable.elim htracked.1 htracked.2
  obtain ⟨r', hr', htrim⟩ := htrims.kept r hr hnot
  have hsame : r' = r := htrim.eq fun k hk _ id hrefers => by
    have hchild := (keyless_tables k hk).2
    rw [← (refers_iff.mp hrefers).1] at hchild
    exact absurd htable (not_or.mpr hchild)
  rwa [← hsame]

/-- The deletion of a tenant succeeds, deletes all that is the tenant's and leaves the rest alone
precisely when the tenant is deletable. -/
theorem deleteTenant_iff (db : TenantData α) (tenantId : Uuid)
    (htenant : ∃ r ∈ db.rows, r.key = (.tenants, tenantId)) :
    (∃ rows', deleteTenant db.rows tenantId = .ok rows' ∧ TenantGone db.rows rows' tenantId) ↔
      Deletable db.rows tenantId := by
  simp only [deleteTenant_ok htenant]
  constructor
  · rintro ⟨rows', hdeleted, hgone⟩
    refine ⟨unrestricted_of_deleted db hdeleted, ?_, ?_⟩
    · intro r hr htable
      have hown : r.table.hasTenantId = true := by
        rcases htable with htable | htable <;> rw [htable] <;> rfl
      exact hgone.own r (untracked_stays hdeleted hr htable) hown
    · intro other hother r hr hof
      have hstays : r ∈ rows' := (hgone.others other hother r hof).mp hr
      refine ⟨fun hgoes => ?_, fun k hk hnull x hx hparent => ?_⟩
      · exact Schema.delete_gone db.unique db.valid hdeleted hgoes r hstays rfl
      · cases hrefers : r.refers k x.id with
        | false => rfl
        | true =>
          obtain ⟨p, hp, hkey⟩ :=
            (Schema.valid_delete db.valid hdeleted r hstays k hk x.id hrefers).resolve_right id
          exact absurd (hkey.trans (by rw [hparent]; rfl))
            (Schema.delete_gone db.unique db.valid hdeleted hx p hp)
  · intro h
    obtain ⟨rows', hdeleted⟩ := delete_of_deletable h
    exact ⟨rows', hdeleted, tenantGone_of_deletable db h hdeleted⟩

end Results

section Sample

def tenantRow (table : TableName) (id : ℕ) (refs : List (ColumnName × ℕ)) : TenantRow Unit where
  table := table
  id := id
  ref c := (refs.find? fun q => q.1 = c).map Prod.snd
  data := ()

def newShop : TenantData Unit where
  rows := [tenantRow .tenants 0 [], tenantRow .tenants 1 [],
    tenantRow .users 0 [(.tenantId, 0)], tenantRow .customers 0 [(.tenantId, 0)],
    tenantRow .vehicles 0 [(.tenantId, 0), (.customerId, 0)]]
  unique := by decide +kernel
  valid := valid_iff.mpr (by decide +kernel)

theorem deleteTenant_newShop : ∃ rows', deleteTenant newShop.rows 0 = .ok rows' ∧
    TenantGone newShop.rows rows' 0 := by
  refine (deleteTenant_iff newShop 0 (by decide +kernel)).mpr ⟨?_, ?_, ?_⟩
  · have htables : ∀ r ∈ newShop.rows, ∀ k ∈ foreignKeys, k.onDelete = .restrict →
        r.table ≠ k.child := by decide +kernel
    intro r hr k hk hrestrict x _ _
    rw [Row.refers, decide_eq_false (htables r hr k hk hrestrict), Bool.false_and]
  · have htables : ∀ r ∈ newShop.rows,
        r.table ≠ .documentSequences ∧ r.table ≠ .idempotencyRecords := by decide +kernel
    exact fun r hr htable => absurd htable (not_or.mpr (htables r hr))
  · have hown : ∀ r ∈ newShop.rows, r.table.parent? = none ∧
        (r.table.hasTenantId = true → r.ref .tenantId = some 0) := by decide +kernel
    intro other hother r hr hof
    have htable : r.table = .tenants := by
      cases hof with
      | tenant hkey => exact (Prod.mk.inj hkey).1
      | own htable href =>
        exact absurd (Option.some.inj (href.symm.trans ((hown r hr).2 htable))) hother
      | child hparent =>
        rw [(hown r hr).1] at hparent
        cases hparent
    have hkeyless : ∀ k ∈ foreignKeys, ∀ id, r.refers k id = false := by
      intro k hk id
      rw [Row.refers, htable, decide_eq_false (keyless_tables k hk).1.symm, Bool.false_and]
    refine ⟨fun hgoes => ?_, fun k hk _ x _ _ => hkeyless k hk x.id⟩
    cases hgoes with
    | first _ hk _ hrefers =>
      rw [hkeyless _ (mem_keysOf.mp hk).1] at hrefers
      cases hrefers
    | next _ _ hk _ _ hrefers =>
      rw [hkeyless _ hk] at hrefers
      cases hrefers

def numberedShop : TenantData Unit where
  rows := [tenantRow .tenants 0 [], tenantRow .documentSequences 0 [(.tenantId, 0)]]
  unique := by decide +kernel
  valid := valid_iff.mpr (by decide +kernel)

/-- The row of the sequence has the tenant's id and no foreign key, and stays. -/
theorem numbered_tenant_stays : ¬ ∃ rows', deleteTenant numberedShop.rows 0 = .ok rows' ∧
    TenantGone numberedShop.rows rows' 0 := by
  rintro ⟨rows', hdeleted, hgone⟩
  have hdelete := (deleteTenant_ok (by decide +kernel)).mp hdeleted
  have hrow : tenantRow .documentSequences 0 [(.tenantId, 0)] ∈ numberedShop.rows :=
    List.mem_cons_of_mem _ List.mem_cons_self
  exact hgone.own _ (untracked_stays hdelete hrow (.inl rfl)) rfl rfl

end Sample

end WorksAuto.Tenants
