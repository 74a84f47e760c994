import WorksAuto.Tenants.PrismaService

/-! Isolation of the tenants.
Two databases that agree on the rows of a tenant and on the tables without a policy are the same
to every program that runs for the tenant, and such a program leaves all other rows alone, as long
as no unique index and no foreign key is violated. Foreign keys are checked against all rows, so a
violation can tell one database from the other. -/

namespace WorksAuto.Tenants

open Lib

section Rows

variable {α : Type}

def belongsTo (tenantId : String) (rows : List (TenantRow α)) (r : TenantRow α) : Bool :=
  match r.table.policy? with
  | none => false
  | some (.viaParent column parent) => rows.any fun p =>
      p.table = parent && r.ref column = some p.id &&
        (p.ref .tenantId).map uuidText = some tenantId
  | some .direct | some .users => (r.ref .tenantId).map uuidText = some tenantId

/-- The rows of the tenant and of the tables without a policy. -/
def sharedRows (tenantId : String) (rows : List (TenantRow α)) : List (TenantRow α) :=
  rows.filter fun r => r.table.policy?.isNone || belongsTo tenantId rows r

/-- The rows of the tables with a policy that are not the tenant's. -/
def othersRows (tenantId : String) (rows : List (TenantRow α)) : List (TenantRow α) :=
  rows.filter fun r => r.table.policy?.isSome && !belongsTo tenantId rows r

def tenantView (tenantId : String) : RowPolicy (TenantRow α) :=
  (Settings.ofTenant (some tenantId)).ownership.policy

variable {tenantId : String} {rows : List (TenantRow α)} {r : TenantRow α}

theorem tenantId_ofTenant (h : tenantId ≠ "") :
    (Settings.ofTenant (some tenantId)).tenantId? = some tenantId := if_neg h

theorem isTenant_ofTenant (h : tenantId ≠ "") (id : Option Uuid) :
    (Settings.ofTenant (some tenantId)).isTenant id =
      decide (id.map uuidText = some tenantId) := by
  cases id with
  | none => rfl
  | some id => simp [Settings.isTenant, tenantId_ofTenant h]

theorem owns_ofTenant (h : tenantId ≠ "") (rows : List (TenantRow α)) (r : TenantRow α) :
    (Settings.ofTenant (some tenantId)).ownership.owns rows r =
      (r.table.policy?.isNone || belongsTo tenantId rows r) := by
  have hbypass : (Settings.ofTenant (some tenantId)).rlsBypassed = false := rfl
  rw [← checks_eq_owns hbypass, Settings.checks, belongsTo, hbypass]
  cases hpolicy : r.table.policy? with
  | none => rfl
  | some policy =>
    cases policy with
    | direct | users => simp only [isTenant_ofTenant h, Option.isNone_some, Bool.false_or]
    | viaParent column parent =>
      simp only [isTenant_ofTenant h, Option.isNone_some, Bool.false_or]

theorem seen_tenantView (h : tenantId ≠ "") :
    (tenantView tenantId).seen rows = sharedRows tenantId rows :=
  List.filter_congr fun r _ => owns_ofTenant h rows r

theorem hidden_tenantView (h : tenantId ≠ "") :
    (tenantView tenantId).hidden rows = othersRows tenantId rows := by
  refine List.filter_congr fun r _ => ?_
  change (!(Settings.ofTenant (some tenantId)).ownership.owns rows r) = _
  rw [owns_ofTenant h, Bool.not_or, Option.not_isNone]

theorem policy_ofTenant (h : tenantId ≠ "") :
    ((Settings.ofTenant (some tenantId)).policy : RowPolicy (TenantRow α)) = tenantView tenantId :=
  policy_eq_ownership rfl (by rw [tenantId_ofTenant h]; rfl)

theorem currentTenant_eq {role : Option String} (hrole : role ≠ some "SUPER_ADMIN")
    (h : tenantId ≠ "") : currentTenant (some ⟨role, some tenantId⟩) = some tenantId := by
  simp [currentTenant, hrole, h]

end Rows

section Views

variable {α V : Type} {indexes : List (TenantRow α) → Bool} {tenantId : String} {cls : Option Cls}
  {prisma : Prisma α V}

/-- An open transaction of the tenant, as the tenant sees it. -/
def Transaction.view (tenantId : String) (indexes : List (TenantRow α) → Bool) :
    View (Transaction indexes) where
  same t u := t.tenantId = some tenantId ∧ u.tenantId = some tenantId ∧
    t.session.Alike (tenantView tenantId) u.session
  keeps t u := t.tenantId = some tenantId → u.tenantId = some tenantId ∧
    (tenantView tenantId).hidden u.session.rows = (tenantView tenantId).hidden t.session.rows
  clear t := t.session.violations = []
  keeps_refl _ h := ⟨h, rfl⟩
  keeps_trans h h' ha := ⟨(h' (h ha).1).1, (h' (h ha).1).2.trans (h ha).2⟩

def Server.view (tenantId : String) (indexes : List (TenantRow α) → Bool) :
    View (Server indexes) where
  same s t := (tenantView tenantId).seen s.rows = (tenantView tenantId).seen t.rows
  keeps s t := (tenantView tenantId).hidden t.rows = (tenantView tenantId).hidden s.rows
  clear s := s.violations = []
  keeps_refl _ := rfl
  keeps_trans h h' := h'.trans h

theorem exec_of_tenant (h : tenantId ≠ "") (qs : TenantQueries α V) {t : Transaction indexes}
    (ht : t.tenantId = some tenantId) :
    Transaction.exec qs t = ((qs.exec (tenantView tenantId) t.session).1,
      { t with session := (qs.exec (tenantView tenantId) t.session).2 }) := by
  rw [Transaction.exec, ht, policy_ofTenant h]

theorem exec_isolated (h : tenantId ≠ "") (qs : TenantQueries α V) :
    Isolated (Transaction.view tenantId indexes) (Transaction.exec qs) := by
  have hqs : Isolated (RowSession.view (tenantView tenantId) (constraints indexes))
      (qs.exec (tenantView tenantId)) := Queries.isolated (fun _ => rooted_of_constraints) qs
  refine ⟨fun t ht => Queries.violations_of_exec ht, fun t ht => ?_, fun t u htu ht hu => ?_⟩
  · rw [exec_of_tenant h qs ht]
    exact ⟨ht, hqs.keeps t.session⟩
  · obtain ⟨htenant, hutenant, halike⟩ := htu
    rw [exec_of_tenant h qs htenant] at ht ⊢
    rw [exec_of_tenant h qs hutenant] at hu ⊢
    obtain ⟨hresult, hsame⟩ := hqs.same t.session u.session halike ht hu
    exact ⟨hresult, htenant, hutenant, hsame⟩

theorem join_isolated {f : Transaction indexes → Result V × Transaction indexes}
    (hcls : currentTenant cls = some tenantId)
    (hf : Isolated (Transaction.view tenantId indexes) f) :
    Isolated (Transaction.view tenantId indexes) (Transaction.join cls f) := by
  have hjoin {t : Transaction indexes} (ht : t.tenantId = some tenantId) : t.join cls f = f t :=
    if_neg (not_not_intro (ht.trans hcls.symm))
  refine ⟨fun t ht => ?_, fun t ht => ?_, fun t u htu ht hu => ?_⟩
  · unfold Transaction.join at ht
    split_ifs at ht
    · exact ht
    · exact hf.clear t ht
  · rw [hjoin ht]
    exact hf.keeps t ht
  · rw [hjoin htu.1] at ht ⊢
    rw [hjoin htu.2.1] at hu ⊢
    exact hf.same t u htu ht hu

theorem rows_transact (f : Transaction indexes → Result V × Transaction indexes)
    (s : Server indexes) :
    let (result, t) := f ⟨currentTenant cls, s.database, false, s.violations⟩
    (s.transact cls f).2.rows =
      if result.isOk && !t.session.aborted then t.session.rows else s.rows := by
  simp only [Server.transact, Server.rows]
  split_ifs <;> rfl

theorem transact_isolated {f : Transaction indexes → Result V × Transaction indexes}
    (hcls : currentTenant cls = some tenantId)
    (hf : Isolated (Transaction.view tenantId indexes) f) :
    Isolated (Server.view tenantId indexes) (Server.transact cls f) where
  clear s hs := hf.clear ⟨currentTenant cls, s.database, false, s.violations⟩ hs
  keeps s := by
    have hkept := (hf.keeps ⟨currentTenant cls, s.database, false, s.violations⟩ hcls).2
    change (tenantView tenantId).hidden (s.transact cls f).2.rows = _
    rw [rows_transact]
    split_ifs
    · exact hkept
    · rfl
  same s t hst hs ht := by
    obtain ⟨hresult, -, -, hsame⟩ :=
      hf.same ⟨currentTenant cls, s.database, false, s.violations⟩
        ⟨currentTenant cls, t.database, false, t.violations⟩ ⟨hcls, hcls, hst, rfl⟩ hs ht
    refine ⟨hresult, ?_⟩
    change (tenantView tenantId).seen (s.transact cls f).2.rows =
      (tenantView tenantId).seen (t.transact cls f).2.rows
    rw [rows_transact, rows_transact, hresult, hsame.aborted]
    split_ifs
    · exact hsame.seen
    · exact hst

theorem within_isolated (h : tenantId ≠ "") (hcls : currentTenant cls = some tenantId)
    (p : Program α V) (handle : Bool) :
    Isolated (Transaction.view tenantId indexes) (p.within prisma cls handle) := by
  induction p generalizing handle with
  | done result => exact .result result
  | call client c next ih =>
    cases client with
    | service =>
      cases hcall : c.ofService prisma cls with
      | error e =>
        have hwithin : (Program.call .service c next).within prisma cls handle =
            fun t : Transaction indexes =>
              (next (.error (.failed e))).within prisma cls handle t := by
          funext t
          rw [Program.within, hcall]
        exact hwithin ▸ ih _ handle
      | ok qs =>
        have hwithin : (Program.call .service c next).within prisma cls handle =
            fun t : Transaction indexes => (next (t.join cls (Transaction.exec qs)).1).within prisma
              cls handle (t.join cls (Transaction.exec qs)).2 := by
          funext t
          rw [Program.within, hcall]
        rw [hwithin]
        exact (join_isolated hcls (exec_isolated h qs)).bind fun result => ih result handle
    | tx =>
      cases handle with
      | true => exact (exec_isolated h (c.ofTx prisma)).bind fun result => ih result true
      | false => exact ih _ false
  | transaction callback next ihcallback ih =>
    exact (join_isolated hcls (ihcallback true)).bind fun result => ih result handle

theorem run_isolated (h : tenantId ≠ "") (hcls : currentTenant cls = some tenantId)
    (p : Program α V) : Isolated (Server.view tenantId indexes) (p.run prisma cls) := by
  induction p with
  | done result => exact .result result
  | call client c next ih =>
    cases client with
    | service =>
      cases hcall : c.ofService prisma cls with
      | error e =>
        have hrun : (Program.call .service c next).run prisma cls =
            fun s : Server indexes => (next (.error (.failed e))).run prisma cls s := by
          funext s
          rw [Program.run, hcall]
        exact hrun ▸ ih _
      | ok qs =>
        have hrun : (Program.call .service c next).run prisma cls =
            fun s : Server indexes => (next (s.transact cls (Transaction.exec qs)).1).run prisma cls
              (s.transact cls (Transaction.exec qs)).2 := by
          funext s
          rw [Program.run, hcall]
        rw [hrun]
        exact (transact_isolated hcls (exec_isolated h qs)).bind ih
    | tx => exact ih _
  | transaction callback next _ ih =>
    exact (transact_isolated hcls (within_isolated h hcls callback true)).bind ih

theorem within_of_other (p : Program α V) : ∃ result, ∀ t : Transaction indexes,
    t.tenantId ≠ currentTenant cls → p.within prisma cls false t = (result, t) := by
  have hjoin (f : Transaction indexes → Result V × Transaction indexes) {t : Transaction indexes}
      (ht : t.tenantId ≠ currentTenant cls) : t.join cls f =
        (.error (.failed (.forbidden "Cannot change tenant inside a transaction.")), t) := if_pos ht
  induction p with
  | done result => exact ⟨result, fun _ _ => rfl⟩
  | call client c next ih =>
    cases client with
    | service =>
      unfold Program.within
      cases c.ofService prisma cls with
      | error e => exact ih _
      | ok qs =>
        obtain ⟨result, hresult⟩ := ih (.error (.failed (.forbidden
          "Cannot change tenant inside a transaction.")))
        refine ⟨result, fun t ht => ?_⟩
        simp only [hjoin _ ht]
        exact hresult t ht
    | tx => exact ih _
  | transaction callback next _ ih =>
    obtain ⟨result, hresult⟩ := ih (.error (.failed (.forbidden
      "Cannot change tenant inside a transaction.")))
    refine ⟨result, fun t ht => ?_⟩
    simp only [Program.within, hjoin _ ht]
    exact hresult t ht

end Views

section Results

variable {α V : Type} {indexes : List (TenantRow α) → Bool} {tenantId : String}
  {role : Option String}

/-- Programs that run for a tenant are isolated, outside of transactions and inside one that was
opened before, for whatever tenant. -/
theorem calls_isolated (hrole : role ≠ some "SUPER_ADMIN") (h : tenantId ≠ "")
    (prisma : Prisma α V) (p : Program α V) :
    let cls := some ⟨role, some tenantId⟩
    (∀ s t : Server indexes, sharedRows tenantId s.rows = sharedRows tenantId t.rows →
      (p.run prisma cls s).2.violations = [] → (p.run prisma cls t).2.violations = [] →
        (p.run prisma cls s).1 = (p.run prisma cls t).1 ∧
          sharedRows tenantId (p.run prisma cls s).2.rows =
            sharedRows tenantId (p.run prisma cls t).2.rows) ∧
    (∀ s : Server indexes,
      othersRows tenantId (p.run prisma cls s).2.rows = othersRows tenantId s.rows) ∧
    (∀ t u : Transaction indexes, t.tenantId = u.tenantId →
      t.session.aborted = u.session.aborted →
      sharedRows tenantId t.session.rows = sharedRows tenantId u.session.rows →
      (p.within prisma cls false t).2.session.violations = [] →
      (p.within prisma cls false u).2.session.violations = [] →
        (p.within prisma cls false t).1 = (p.within prisma cls false u).1 ∧
          sharedRows tenantId (p.within prisma cls false t).2.session.rows =
            sharedRows tenantId (p.within prisma cls false u).2.session.rows) ∧
    (∀ t : Transaction indexes,
      othersRows tenantId (p.within prisma cls false t).2.session.rows =
        othersRows tenantId t.session.rows) := by
  intro cls
  have hcls : currentTenant cls = some tenantId := currentTenant_eq hrole h
  have hrun : Isolated (Server.view tenantId indexes) (p.run prisma cls) := run_isolated h hcls p
  have hwithin : Isolated (Transaction.view tenantId indexes) (p.within prisma cls false) :=
    within_isolated h hcls p false
  obtain ⟨result, hother⟩ := @within_of_other α V indexes cls prisma p
  refine ⟨fun s t hst hs ht => ?_, fun s => ?_, fun t u htenant haborted htu ht hu => ?_,
    fun t => ?_⟩
  · rw [← seen_tenantView h, ← seen_tenantView h] at hst ⊢
    exact hrun.same s t hst hs ht
  · rw [← hidden_tenantView h, ← hidden_tenantView h]
    exact hrun.keeps s
  · rw [← seen_tenantView h, ← seen_tenantView h] at htu ⊢
    by_cases hsame : t.tenantId = some tenantId
    · obtain ⟨hresult, -, -, halike⟩ :=
        hwithin.same t u ⟨hsame, htenant ▸ hsame, htu, haborted⟩ ht hu
      exact ⟨hresult, halike.seen⟩
    · rw [hother t (hcls ▸ hsame), hother u (hcls ▸ htenant ▸ hsame)]
      exact ⟨rfl, htu⟩
  · rw [← hidden_tenantView h, ← hidden_tenantView h]
    by_cases hsame : t.tenantId = some tenantId
    · exact (hwithin.keeps t hsame).2
    · rw [hother t (hcls ▸ hsame)]

end Results

section Sample

def anyIndexes (_ : List (TenantRow Unit)) : Bool := true

def server (rows : List (TenantRow Unit)) (h : constraints anyIndexes rows = none) :
    Server anyIndexes := ⟨⟨rows, h⟩, []⟩

def noPrisma : Prisma Unit ℕ := fun _ _ _ => .answer (.ok 0)

def asManager (tenantId : String) : Option Cls := some ⟨some "TENANT_ADMIN", some tenantId⟩

def oneCustomer : Server anyIndexes :=
  server [tenantRow .tenants 0 [], tenantRow .tenants 1 [],
    tenantRow .customers 0 [(.tenantId, 0)]] (by decide +kernel)

def twoCustomers : Server anyIndexes :=
  server [tenantRow .tenants 0 [], tenantRow .tenants 1 [],
    tenantRow .customers 1 [(.tenantId, 1)], tenantRow .customers 0 [(.tenantId, 0)]]
    (by decide +kernel)

/-- `DELETE FROM customers` in a transaction, and the number of rows that are gone. -/
def deleteCustomers : Program Unit ℕ :=
  .transaction (.call .tx (.raw fun seen =>
    .ok ((seen.filter fun r => r.table = .customers).length,
      ⟨fun r => if r.table = .customers then .delete else .keep, []⟩)) .done) .done

theorem deleteCustomers_isolated :
    (deleteCustomers.run noPrisma (asManager "0") oneCustomer).1 =
        (deleteCustomers.run noPrisma (asManager "0") twoCustomers).1 ∧
      othersRows "0" (deleteCustomers.run noPrisma (asManager "0") twoCustomers).2.rows =
        othersRows "0" twoCustomers.rows := by
  obtain ⟨hruns, hothers, -, -⟩ := @calls_isolated Unit ℕ anyIndexes "0" (some "TENANT_ADMIN")
    (by decide) (by decide) noPrisma deleteCustomers
  exact ⟨(hruns oneCustomer twoCustomers rfl (by decide +kernel) (by decide +kernel)).1,
    hothers twoCustomers⟩

/-- `INSERT INTO vehicles`, for the customer with the number 1. -/
def insertVehicle : Program Unit ℕ :=
  .call .service (.raw fun _ =>
    .ok (1, ⟨fun _ => .keep, [tenantRow .vehicles 0 [(.tenantId, 0), (.customerId, 1)]]⟩)) .done

theorem foreign_key_tells : ¬ ∀ (p : Program Unit ℕ) (s t : Server anyIndexes),
    sharedRows "0" s.rows = sharedRows "0" t.rows →
    .uniqueIndex ∉ (p.run noPrisma (asManager "0") s).2.violations →
    .uniqueIndex ∉ (p.run noPrisma (asManager "0") t).2.violations →
    (p.run noPrisma (asManager "0") s).1 = (p.run noPrisma (asManager "0") t).1 := by
  intro hclaim
  have hsame := hclaim insertVehicle oneCustomer twoCustomers rfl (by decide +kernel)
    (by decide +kernel)
  have hrefused : (insertVehicle.run noPrisma (asManager "0") oneCustomer).1 =
      .error (.violates .foreignKey) := by decide +kernel
  have hinserted : (insertVehicle.run noPrisma (asManager "0") twoCustomers).1 = .ok 1 := by
    decide +kernel
  rw [hrefused, hinserted] at hsame
  cases hsame

end Sample

end WorksAuto.Tenants
