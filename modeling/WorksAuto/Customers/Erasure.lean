import WorksAuto.Customers.System

/-! What an anonymisation leaves of a customer.
The row keeps its address, city and district, and the audit entries are found by the
id as the request spells it. The row is only archived; it keeps its placeholders for as
long as no restore names it, no booking comes from the phone of the placeholders, and
no write was looked up before the anonymisation that is stored after it. -/

namespace WorksAuto.Customers

open Lib

def Customer.impersonal (row : Customer) : Customer :=
  { row with
    firstName := ""
    lastName := ""
    companyTitle := none
    phone := ""
    email := none
    taxNumber := none
    taxOffice := none
    address := none
    city := none
    district := none
    notes := none }

def AuditLog.impersonal (log : AuditLog) (tenantId : Uuid) (id : UuidValue) : AuditLog :=
  if log.isAbout tenantId (uuidText id) then { log with changesBefore := none, changesAfter := none }
  else log

/-- The states differ at most in the personal data of one customer. -/
structure Db.SameButFor (db₁ : Db) (tenantId : Uuid) (id : UuidValue) (db₂ : Db) : Prop where
  row : (db₁.customers.get? id.toNat).map Customer.impersonal =
    (db₂.customers.get? id.toNat).map Customer.impersonal
  otherRows : ∀ k ≠ id.toNat, db₁.customers.get? k = db₂.customers.get? k
  auditLogs : ∀ k, (db₁.records.auditLogs.get? k).map (·.impersonal tenantId id) =
    (db₂.records.auditLogs.get? k).map (·.impersonal tenantId id)
  currentAccounts : db₁.records.currentAccounts = db₂.records.currentAccounts
  invoices : db₁.records.invoices = db₂.records.invoices
  workOrders : db₁.records.workOrders = db₂.records.workOrders
  vehicles : db₁.vehicles = db₂.vehicles
  redactionLogs : db₁.redactionLogs = db₂.redactionLogs
  lockedCustomers : db₁.lockedCustomers = db₂.lockedCustomers

def Db.SameAudit (db₁ db₂ : Db) : Prop :=
  ∀ k, db₁.records.auditLogs.get? k = db₂.records.auditLogs.get? k

def Db.SameLeft (db₁ : Db) (id : UuidValue) (db₂ : Db) : Prop :=
  db₁.customers.get? id.toNat = db₂.customers.get? id.toNat ∧ db₁.SameAudit db₂

def Customer.untouched (row : Customer) : Option String × Option String × Option String :=
  (row.address, row.city, row.district)

def Db.SameUntouched (db₁ : Db) (id : UuidValue) (db₂ : Db) : Prop :=
  (db₁.customers.get? id.toNat).map Customer.untouched =
    (db₂.customers.get? id.toNat).map Customer.untouched

section TwoStates

variable {db₁ db₂ db₁' : Db} {args : AnonymizeInput} {env : ℕ → Env}

theorem anonymize_eq_iff {id : String} {deletedAt : Instant} {row₁ row₂ : Customer}
    (h : row₁.impersonal = row₂.impersonal) :
    row₁.anonymize id deletedAt = row₂.anonymize id deletedAt ↔ row₁.untouched = row₂.untouched := by
  cases row₁
  cases row₂
  simp only [Customer.impersonal, Customer.mk.injEq] at h
  simp only [Customer.anonymize, Customer.untouched, Customer.mk.injEq, Prod.mk.injEq]
  tauto

theorem impersonal_mask (tenantId : Uuid) (id : UuidValue) (log : AuditLog) :
    (log.impersonal tenantId id).mask = log.mask := by
  unfold AuditLog.impersonal
  split <;> rfl

theorem isAbout_impersonal (tenantId : Uuid) (id : UuidValue) (log : AuditLog) (entityId : String) :
    (log.impersonal tenantId id).isAbout tenantId entityId = log.isAbout tenantId entityId := by
  unfold AuditLog.impersonal
  split <;> rfl

theorem mem_customerLogs {db : Db} {k : Uuid} : k ∈ db.customerLogs args ↔
    ∃ log, db.records.auditLogs.get? k = some log ∧ log.isAbout args.tenantId args.id.text = true := by
  constructor
  · intro h
    obtain ⟨⟨i, log⟩, hlog, rfl⟩ := List.mem_map.mp h
    exact ⟨log, Table.mem_filter_iff.mp hlog⟩
  · rintro ⟨log, hlog⟩
    exact List.mem_map.mpr ⟨(k, log), Table.mem_filter_iff.mpr hlog, rfl⟩

def AuditLog.masked (log : AuditLog) (args : AnonymizeInput) : AuditLog :=
  if log.isAbout args.tenantId args.id.text then log.mask else log

theorem get?_redact_auditLogs (db : Db) (deletedAt : Instant) (entry : ComplianceRedactionLog)
    (k : Uuid) :
    (db.redact args deletedAt (db.customerLogs args) entry).records.auditLogs.get? k =
      (db.records.auditLogs.get? k).map (·.masked args) := by
  rw [Db.redact, Table.get?_modifyIf]
  cases hk : db.records.auditLogs.get? k with
  | none => rfl
  | some log =>
    have hmem : k ∈ db.customerLogs args ↔ log.isAbout args.tenantId args.id.text = true := by
      rw [mem_customerLogs, hk]
      simp
    simp only [Option.map_some, AuditLog.masked, hmem, decide_eq_true_eq]

/-- Masking makes two entries one that differ in their contents only, when the request
spells the id as it is stored; otherwise it hides nothing of the customer's. -/
theorem masked_eq_iff {log₁ log₂ : AuditLog}
    (h : log₁.impersonal args.tenantId args.id.value = log₂.impersonal args.tenantId args.id.value) :
    log₁.masked args = log₂.masked args ↔ args.id.text = uuidText args.id.value ∨ log₁ = log₂ := by
  have habout : ∀ entityId, log₁.isAbout args.tenantId entityId = log₂.isAbout args.tenantId entityId := by
    intro entityId
    rw [← isAbout_impersonal args.tenantId args.id.value, h, isAbout_impersonal]
  have hmask : log₁.mask = log₂.mask := by
    rw [← impersonal_mask args.tenantId args.id.value, h, impersonal_mask]
  have hother : log₁.isAbout args.tenantId (uuidText args.id.value) = false → log₁ = log₂ := by
    intro hnot
    rwa [AuditLog.impersonal, AuditLog.impersonal, ← habout, hnot] at h
  unfold AuditLog.masked
  rw [← habout]
  cases hspelled : log₁.isAbout args.tenantId args.id.text with
  | true =>
    refine iff_of_true hmask ?_
    by_cases htext : args.id.text = uuidText args.id.value
    · exact .inl htext
    · refine .inr (hother ?_)
      simp only [AuditLog.isAbout, Bool.and_eq_true, decide_eq_true_eq] at hspelled
      simp only [AuditLog.isAbout, hspelled.2, htext, decide_false, Bool.and_false]
  | false =>
    refine ⟨.inr, fun hcase => hcase.elim (fun htext => ?_) id⟩
    exact hother (htext ▸ hspelled)

theorem liveCustomer?_isSome_congr (h : db₁.SameButFor args.tenantId args.id.value db₂) :
    (db₁.liveCustomer? args.tenantId args.customerId).isSome =
      (db₂.liveCustomer? args.tenantId args.customerId).isSome := by
  have hlive : ∀ db : Db, (db.liveCustomer? args.tenantId args.customerId).isSome =
      (((db.customers.get? args.id.value.toNat).map Customer.impersonal).filter fun c =>
        c.tenantId = args.tenantId && c.deletedAt.isNone).isSome := by
    intro db
    unfold Db.liveCustomer? AnonymizeInput.customerId
    cases db.customers.get? args.id.value.toNat with
    | none => rfl
    | some row =>
      simp only [Option.map_some, Option.filter_some, Customer.impersonal]
      split <;> rfl
  rw [hlive, h.row, ← hlive]

theorem anonymizeCustomer_congr (h : db₁.SameButFor args.tenantId args.id.value db₂)
    (h₁ : db₁.anonymizeCustomer args env = .ok db₁') :
    db₂.anonymizeCustomer args env = .ok (db₂.redact args (env 4).now (db₂.customerLogs args)
      (redactionEntry args (db₂.customerLogs args) (db₂.lastRedaction? (env 7).choice) (env 8))) := by
  obtain ⟨hlive, hdebt, hinvoice, -⟩ := anonymizeCustomer_eq_ok.mp h₁
  refine anonymizeCustomer_eq_ok.mpr ⟨?_, ?_, ?_, rfl⟩
  · rw [← liveCustomer?_isSome_congr h]
    exact hlive
  · rw [Db.checkDebt, ← h.currentAccounts]
    exact hdebt
  · rw [Db.checkOpenInvoice, ← h.invoices]
    exact hinvoice

theorem redact_sameRow_iff (h : db₁.SameButFor args.tenantId args.id.value db₂) (deletedAt : Instant)
    (masked₁ masked₂ : List Uuid) (entry₁ entry₂ : ComplianceRedactionLog) :
    (db₁.redact args deletedAt masked₁ entry₁).customers.get? args.id.value.toNat =
        (db₂.redact args deletedAt masked₂ entry₂).customers.get? args.id.value.toNat ↔
      db₁.SameUntouched args.id.value db₂ := by
  have hrow := h.row
  simp only [Db.redact, AnonymizeInput.customerId, Table.get?_modify, if_true, Db.SameUntouched]
  cases h₁ : db₁.customers.get? args.id.value.toNat with
  | none =>
    rw [h₁] at hrow
    have hnone : db₂.customers.get? args.id.value.toNat = none :=
      Option.map_eq_none_iff.mp hrow.symm
    rw [hnone]
    exact iff_of_true rfl rfl
  | some row₁ =>
    rw [h₁] at hrow
    obtain ⟨row₂, h₂, himpersonal⟩ := Option.map_eq_some_iff.mp hrow.symm
    rw [h₂, Option.map_some, Option.map_some, Option.map_some, Option.map_some, Option.some.injEq,
      Option.some.injEq]
    exact anonymize_eq_iff himpersonal.symm

theorem redact_sameAudit_iff (h : db₁.SameButFor args.tenantId args.id.value db₂) (deletedAt : Instant)
    (entry₁ entry₂ : ComplianceRedactionLog) :
    (db₁.redact args deletedAt (db₁.customerLogs args) entry₁).SameAudit
        (db₂.redact args deletedAt (db₂.customerLogs args) entry₂) ↔
      args.id.text = uuidText args.id.value ∨ db₁.SameAudit db₂ := by
  have hentry : ∀ k, ((db₁.records.auditLogs.get? k).map (·.masked args) =
      (db₂.records.auditLogs.get? k).map (·.masked args)) ↔ args.id.text = uuidText args.id.value ∨
        db₁.records.auditLogs.get? k = db₂.records.auditLogs.get? k := by
    intro k
    have hlog := h.auditLogs k
    cases h₁ : db₁.records.auditLogs.get? k with
    | none =>
      rw [h₁] at hlog
      have hnone : db₂.records.auditLogs.get? k = none := Option.map_eq_none_iff.mp hlog.symm
      rw [hnone]
      simp
    | some log₁ =>
      rw [h₁] at hlog
      obtain ⟨log₂, h₂, himpersonal⟩ := Option.map_eq_some_iff.mp hlog.symm
      rw [h₂, Option.map_some, Option.map_some, Option.some.injEq, Option.some.injEq]
      exact masked_eq_iff himpersonal.symm
  simp only [Db.SameAudit, get?_redact_auditLogs, hentry]
  exact forall_or_left

/-- What is left of a customer does not depend on the personal data precisely when the data
that is not touched is the same, and the id is spelled as the audit entries have it. -/
theorem anonymize_sameLeft_iff (h : db₁.SameButFor args.tenantId args.id.value db₂)
    (h₁ : db₁.anonymizeCustomer args env = .ok db₁') :
    ∃ db₂', db₂.anonymizeCustomer args env = .ok db₂' ∧
      (db₁'.SameLeft args.id.value db₂' ↔ db₁.SameUntouched args.id.value db₂ ∧
        (args.id.text = uuidText args.id.value ∨ db₁.SameAudit db₂)) := by
  obtain ⟨-, -, -, rfl⟩ := anonymizeCustomer_eq_ok.mp h₁
  exact ⟨_, anonymizeCustomer_congr h h₁,
    and_congr (redact_sameRow_iff h _ _ _ _ _) (redact_sameAudit_iff h _ _ _)⟩

end TwoStates

section Run

structure Customer.IsErased (row : Customer) (id : String) : Prop where
  firstName : row.firstName = "ANONİM"
  lastName : row.lastName = "MÜŞTERİ_" ++ shortId id
  companyTitle : row.companyTitle = none
  phone : row.phone = "0000000000"
  email : row.email = some ("anonymized_" ++ shortId id ++ "@worksauto.local")
  taxNumber : row.taxNumber = none
  taxOffice : row.taxOffice = none
  address : row.address = none
  city : row.city = none
  district : row.district = none
  notes : row.notes = some "[KVKK Kapsamında Kişisel Veriler Anonimleştirildi]"
  isAnonymized : row.isAnonymized = true
  isDeleted : row.deletedAt.isSome = true

def Db.Erased (db : Db) (id : UuidValue) : Prop :=
  ∃ row, db.customers.get? id.toNat = some row ∧ row.IsErased (uuidText id)

def CustomerChange.IsImpersonal : CustomerChange → Prop
  | archive _ => True
  | patch update => { update with type := none } = CustomerUpdate.empty
  | _ => False

/-- The transaction changes personal columns of the customer, or brings the row back. -/
def CustomerWrite.Touches (k : Uuid) : CustomerWrite → Prop
  | .update id change => id = k ∧ ¬ change.IsImpersonal
  | _ => False

def Task.Touches (k : Uuid) (t : Task) : Prop := ∃ w ∈ t.customerWrite?, w.Touches k

def AnonymizeInput.LeavesNothing (args : AnonymizeInput) (db : Db) : Prop :=
  ∀ row ∈ db.customers.get? args.customerId, row.untouched = (none, none, none)

/-- No restore is asked for an anonymised customer, and no booking comes from the phone of
the placeholders. -/
def Task.AsksForLiving (db : Db) : Task → Prop
  | findArchived tenantId id => ∀ row ∈ db.archivedCustomer? tenantId id, row.isAnonymized = false
  | bookCustomer _ _ phone _ _ => jsTrim phone ≠ "0000000000"
  | _ => True

/-- The requests leave anonymised customers alone, and what is anonymised has no address and
no write that was looked up before. -/
def System.SparesErased (s : System) : PoolAction Call Env → Prop
  | .start _ => True
  | .step k _ => ∀ t ∈ s.threads.get? k, t.AsksForLiving s.shared ∧
      ∀ args ∈ t.redacts? s.shared,
        args.LeavesNothing s.shared ∧ s.Alone (Task.Touches args.customerId) k

def System.Anonymizes (id : UuidValue) (s : System) : PoolAction Call Env → Prop
  | .start _ => False
  | .step k _ => ∃ t ∈ s.threads.get? k, ∃ args ∈ t.redacts? s.shared, args.id.value = id

variable {uc : UpperCase} {db : Db} {w : Write} {s : System} {a : PoolAction Call Env} {id : UuidValue}

theorem isErased_anonymize {row : Customer} {text : String} {deletedAt : Instant}
    (h : row.untouched = (none, none, none)) : (row.anonymize text deletedAt).IsErased text := by
  obtain ⟨haddress, hcity, hdistrict⟩ := Prod.mk.inj h |>.imp_right Prod.mk.inj
  exact ⟨rfl, rfl, rfl, rfl, rfl, rfl, rfl, haddress, hcity, hdistrict, rfl, rfl, rfl⟩

theorem Customer.IsErased.apply {row : Customer} {text : String} {change : CustomerChange}
    (h : row.IsErased text) (himpersonal : change.IsImpersonal) : (change.apply row).IsErased text := by
  cases change with
  | archive deletedAt => exact { h with isDeleted := rfl }
  | patch update =>
    cases update
    simp only [CustomerChange.IsImpersonal, CustomerUpdate.empty, CustomerUpdate.mk.injEq] at himpersonal
    obtain ⟨-, rfl, rfl, rfl, rfl, rfl, rfl, rfl⟩ := himpersonal
    exact { h with }
  | save customer | revive => cases himpersonal

theorem Db.Erased.store (h : db.Erased id) (hspares : ¬ w.customer.Touches id.toNat) :
    (db.store w).Erased id := by
  obtain ⟨row, hrow, herased⟩ := h
  simp only [Db.Erased, Db.store]
  cases hw : w.customer with
  | keep k => exact ⟨row, hrow, herased⟩
  | insert new withAccount => exact ⟨row, Table.get?_insert_of_some hrow new, herased⟩
  | update k change =>
    rw [hw] at hspares
    simp only [CustomerWrite.store]
    by_cases hk : id.toNat = k
    · subst hk
      have himpersonal : change.IsImpersonal := by
        by_contra hpersonal
        exact hspares ⟨rfl, hpersonal⟩
      exact ⟨_, Table.get?_modify_self hrow _, herased.apply himpersonal⟩
    · exact ⟨row, (Table.get?_modify_ne _ hk _).trans hrow, herased⟩

theorem Db.Erased.redact (h : db.Erased id) {args : AnonymizeInput} (hnothing : args.LeavesNothing db)
    (deletedAt : Instant) (masked : List Uuid) (entry : ComplianceRedactionLog) :
    (db.redact args deletedAt masked entry).Erased id := by
  obtain ⟨row, hrow, herased⟩ := h
  by_cases hid : id.toNat = args.customerId
  · have hvalue : args.id.value = id := BitVec.eq_of_toNat_eq hid.symm
    refine ⟨_, (congrArg (Table.get? _) hid).trans (Table.get?_modify_self (hid ▸ hrow) _), ?_⟩
    rw [hvalue]
    exact isErased_anonymize (hnothing row (hid ▸ hrow))
  · exact ⟨row, (Table.get?_modify_ne _ hid _).trans hrow, herased⟩

theorem redact_erased {args : AnonymizeInput} (hrow : (db.customers.get? args.customerId).isSome = true)
    (hnothing : args.LeavesNothing db) (deletedAt : Instant) (masked : List Uuid)
    (entry : ComplianceRedactionLog) : (db.redact args deletedAt masked entry).Erased args.id.value := by
  obtain ⟨row, hrow⟩ := Option.isSome_iff_exists.mp hrow
  exact ⟨_, Table.get?_modify_self hrow _, isErased_anonymize (hnothing row hrow)⟩

theorem row_of_redacts? {t : Task} {args : AnonymizeInput} (h : t.redacts? db = some args) :
    (db.customers.get? args.customerId).isSome = true := by
  cases t with
  | insertRedaction args' deletedAt affected masked lastRedaction =>
    simp only [Task.redacts?] at h
    split_ifs at h with hrow
    obtain rfl := Option.some.inj h
    exact hrow
  | _ => cases h

theorem Db.Erased.liveCustomer? (h : db.Erased id) (tenantId : Uuid) :
    db.liveCustomer? tenantId id.toNat = none := by
  obtain ⟨row, hrow, herased⟩ := h
  have hdeleted := herased.isDeleted
  rw [Db.liveCustomer?, hrow, Option.filter_some, if_neg]
  simp only [Bool.and_eq_true, not_and]
  intro _ hnone
  rw [Option.isNone_iff_eq_none.mp hnone] at hdeleted
  cases hdeleted

theorem Db.Erased.ne_of_findByPhone (h : db.Erased id) {tenantId k : Uuid} {phones : List String}
    {choice : ℕ} {row : Customer} (hfound : db.findByPhone tenantId phones choice = some (k, row)) :
    k ≠ id.toNat := by
  rintro rfl
  obtain ⟨old, hrow, herased⟩ := h
  obtain ⟨hget, hlive⟩ := Table.mem_filter_iff.mp (List.mem_of_getElem? hfound)
  obtain rfl := Option.some.inj (hget.symm.trans hrow)
  have hdeleted := herased.isDeleted
  simp only [Bool.and_eq_true] at hlive
  rw [Option.isNone_iff_eq_none.mp hlive.2] at hdeleted
  cases hdeleted

theorem Db.Erased.ne_of_findByPhoneForPublic (h : db.Erased id) {tenantId k : Uuid} {phone : String}
    {choice : ℕ} {row : Customer} (hphone : phone ≠ "0000000000")
    (hfound : db.findByPhoneForPublic tenantId phone choice = some (k, row)) : k ≠ id.toNat := by
  rintro rfl
  obtain ⟨old, hrow, herased⟩ := h
  obtain ⟨hget, hmatch⟩ := Table.mem_filter_iff.mp (List.mem_of_getElem? hfound)
  obtain rfl := Option.some.inj (hget.symm.trans hrow)
  simp only [Bool.and_eq_true, decide_eq_true_eq] at hmatch
  exact hphone (hmatch.2.symm.trans herased.phone)

section Touches

variable {t : Task} {k : Uuid}

theorem not_touches_of_none (h : t.customerWrite? = none) : ¬ t.Touches k := by
  rintro ⟨w, hw, -⟩
  rw [h] at hw
  cases hw

theorem touches_commit {next : Next} : (Task.commit w next).Touches k ↔ w.customer.Touches k := by
  constructor
  · rintro ⟨w', hw', h⟩
    obtain rfl := Option.some.inj hw'
    exact h
  · exact fun h => ⟨_, rfl, h⟩

theorem not_touches_after {α : Type} {check : Outcome α} {next : α → Task}
    (h : ∀ a, check = .ok a → ¬ (next a).Touches k) : ¬ (Task.after check next).Touches k := by
  cases check with
  | error e => exact not_touches_of_none rfl
  | ok a => exact h a rfl

theorem not_touches_assign {tenantId id : Uuid} {dto : UpdateCustomerInput} {customer : Customer} :
    ¬ (Task.assign tenantId id dto customer).Touches k :=
  not_touches_after fun _ _ => not_touches_of_none rfl

theorem not_touches_updateDetails {uc : UpperCase} {tenantId id : Uuid} {dto : UpdateVehicleInput}
    {vehicle : Vehicle} {currentYear : ℤ} :
    ¬ (Task.updateDetails uc tenantId id dto vehicle currentYear).Touches k :=
  not_touches_after fun _ _ => not_touches_of_none rfl

end Touches

theorem not_touches_exec (uc : UpperCase) {t : Task} (env : Env) (h : db.Erased id)
    (ht : ¬ t.Touches id.toNat) (hasks : t.AsksForLiving db) :
    ¬ (t.exec uc db env).2.Touches id.toNat := by
  cases t with
  | findPhone => exact not_touches_after fun _ _ => mt touches_commit.mp not_false
  | findCustomer tenantId k dto =>
    refine not_touches_after fun customer _ => ?_
    split
    · exact not_touches_assign
    · exact not_touches_of_none rfl
  | findPhoneOwner => exact not_touches_after fun _ _ => not_touches_assign
  | saveCustomer tenantId k customer creditLimit =>
    refine not_touches_after fun _ hcheck => mt touches_commit.mp ?_
    rintro ⟨rfl, -⟩
    obtain ⟨row, hlive, -⟩ := Outcome.bind_eq_ok.mp hcheck
    rw [Outcome.required_eq_ok, h.liveCustomer?] at hlive
    cases hlive
  | archiveCustomer =>
    refine not_touches_after fun _ _ => mt touches_commit.mp ?_
    exact fun htouches => htouches.2 trivial
  | findArchived tenantId k =>
    refine not_touches_after fun row hcheck => mt touches_commit.mp ?_
    rintro ⟨rfl, -⟩
    rw [Outcome.required_eq_ok] at hcheck
    obtain ⟨old, hrow, herased⟩ := h
    obtain rfl := Option.some.inj (hrow.symm.trans (Option.filter_eq_some_iff.mp hcheck).1)
    have hfalse := hasks old hcheck
    rw [herased.isAnonymized] at hfalse
    cases hfalse
  | leadCustomer tenantId dto =>
    rintro ⟨w, hw, htouches⟩
    obtain rfl := Option.some.inj hw
    split at htouches <;> cases htouches
  | leadVehicle tenantId dto customer =>
    have hcustomer : ¬ customer.Touches id.toNat := fun htouches => ht ⟨_, rfl, htouches⟩
    simp only [Task.exec]
    split
    · exact mt touches_commit.mp hcustomer
    · exact not_touches_after fun _ _ => mt touches_commit.mp hcustomer
  | importCustomer tenantId updateExisting rows =>
    cases rows with
    | nil => exact not_touches_of_none rfl
    | cons row rows =>
      rintro ⟨w, hw, htouches⟩
      obtain rfl := Option.some.inj hw
      simp only [Task.importedCustomer] at htouches
      cases hfound : db.findByPhone tenantId row.phoneCandidates env.choice with
      | none =>
        rw [hfound] at htouches
        cases htouches
      | some found =>
        rw [hfound] at htouches
        simp only at htouches
        split at htouches
        · cases htouches
        · exact h.ne_of_findByPhone hfound htouches.1
  | importVehicle tenantId updateExisting row rows customer =>
    have hcustomer : ¬ customer.Touches id.toNat := fun htouches => ht ⟨_, rfl, htouches⟩
    simp only [Task.exec]
    split
    · exact mt touches_commit.mp hcustomer
    · split
      · exact not_touches_of_none rfl
      · exact mt touches_commit.mp hcustomer
  | bookCustomer tenantId name phone plate brandModel =>
    simp only [Task.exec]
    cases hfound : db.findByPhoneForPublic tenantId (jsTrim phone) env.choice with
    | none => exact mt touches_commit.mp not_false
    | some found =>
      simp only
      split
      · refine mt touches_commit.mp ?_
        exact fun htouches => h.ne_of_findByPhoneForPublic hasks hfound htouches.1
      · exact not_touches_of_none rfl
  | bookVehicle tenantId customerId plate brandModel =>
    simp only [Task.exec]
    split
    · exact mt touches_commit.mp not_false
    · split
      · exact not_touches_of_none rfl
      · split
        · exact mt touches_commit.mp not_false
        · exact not_touches_of_none rfl
  | findPlateAny tenantId dto =>
    simp only [Task.exec]
    split
    · refine not_touches_after fun _ _ => ?_
      split <;> exact not_touches_of_none rfl
    · exact not_touches_after fun _ _ => not_touches_of_none rfl
  | saveVehicle | findOwner | findTransferred | findToDelete =>
    exact not_touches_after fun _ _ => mt touches_commit.mp not_false
  | findVehicle tenantId k dto =>
    refine not_touches_after fun vehicle _ => ?_
    split
    · exact not_touches_updateDetails
    · exact not_touches_of_none rfl
  | findPlateOwner tenantId k dto plate vehicle =>
    simp only [Task.exec]
    split
    · exact not_touches_updateDetails
    · refine not_touches_after fun _ _ => ?_
      split
      · exact not_touches_of_none rfl
      · exact not_touches_updateDetails
  | updateVehicle tenantId k vehicle =>
    refine not_touches_after fun existing _ => ?_
    split
    · exact not_touches_of_none rfl
    · exact mt touches_commit.mp not_false
  | findToArchive | findForAnonymize | anonymizeFind | anonymizeDebt | anonymizeInvoice |
    findNewOwner => exact not_touches_after fun _ _ => not_touches_of_none rfl
  | findAffected | maskLogs | findLast | elsewhere | finished => exact not_touches_of_none rfl
  | anonymizeUpdate args =>
    simp only [Task.exec]
    split <;> exact not_touches_of_none rfl
  | insertRedaction args deletedAt affected masked lastRedaction =>
    simp only [Task.exec]
    split <;> exact not_touches_of_none rfl
  | commit w next =>
    simp only [Task.exec]
    split
    · exact ht
    · split <;> split <;> exact not_touches_of_none rfl

def System.KeepsErased (id : UuidValue) : System → Prop :=
  Pool.Holds (Db.Erased · id) fun _ t => ¬ t.Touches id.toNat

theorem enter_not_touches (uc : UpperCase) (r : Call) (k : Uuid) : ¬ (r.enter uc).Touches k := by
  cases r with
  | quickLead | batchImport | createVehicle =>
    rw [Call.enter]
    exact not_touches_after fun _ _ => not_touches_of_none rfl
  | _ =>
    rw [Call.enter]
    exact not_touches_of_none rfl

theorem exec_erased (uc : UpperCase) {t : Task} (env : Env) (h : db.Erased id)
    (ht : ¬ t.Touches id.toNat) (hredacts : ∀ args ∈ t.redacts? db, args.LeavesNothing db) :
    (t.exec uc db env).1.Erased id := by
  rcases exec_shared uc db t env with ⟨w, next, rfl, -, -, hstore⟩ |
    ⟨args, deletedAt, affected, masked, lastRedaction, -, hargs, hstore⟩ | ⟨-, -, hsame, -⟩
  · rw [hstore]
    exact h.store (mt touches_commit.mpr ht)
  · rw [hstore]
    exact h.redact (hredacts args hargs) _ _ _
  · unfold Db.Erased
    rw [hsame]
    exact h

theorem act_keepsErased (h : s.KeepsErased id) (hspares : s.SparesErased a) :
    (System.act uc s a).KeepsErased id := by
  cases a with
  | start r => exact h.start (enter_not_touches uc r _)
  | step k env =>
    refine h.step_among fun t ht => ?_
    obtain ⟨hasks, hredacts⟩ := hspares t ht
    have hnot := h.2 k t ht
    exact ⟨exec_erased uc env h.1 hnot fun args hargs => (hredacts args hargs).1,
      not_touches_exec uc env h.1 hnot hasks, fun i u hu _ => h.2 i u hu⟩

theorem act_erases (h : s.Anonymizes id a) (hspares : s.SparesErased a) :
    (System.act uc s a).KeepsErased id := by
  cases a with
  | start r => cases h
  | step k env =>
    obtain ⟨t, hk, args, hargs, rfl⟩ := h
    obtain ⟨hnothing, halone⟩ := (hspares t hk).2 args hargs
    rcases exec_shared uc s.shared t env with ⟨w, next, rfl, -, -, -⟩ |
      ⟨args', deletedAt, affected, masked, lastRedaction, rfl, hargs', hstore⟩ | ⟨-, hnone, -⟩
    · cases hargs
    · obtain rfl := Option.some.inj (hargs'.symm.trans hargs)
      refine Pool.holds_step hk ?_ ?_ fun i u hu hi => halone i u hu hi
      · rw [hstore]
        exact redact_erased (row_of_redacts? hargs) hnothing _ _ _
      · simp only [Task.exec]
        split <;> exact not_touches_of_none rfl
    · rw [hnone] at hargs
      cases hargs

/-- After an anonymisation the row stays deleted and holds the placeholders only, in every run
in which the requests leave anonymised customers alone. -/
theorem everAfter_erased (uc : UpperCase) {s : System} {calls : List (PoolAction Call Env)}
    (h : EachStep (System.act uc) System.SparesErased s calls) (id : UuidValue) :
    EverAfter (System.act uc) (System.Anonymizes id) (fun s => s.shared.Erased id) s calls := by
  have keep : ∀ (s : System) a, True → s.SparesErased a → True := fun _ _ _ _ => trivial
  have start : ∀ (s : System) a, True → s.SparesErased a → s.Anonymizes id a →
      (System.act uc s a).KeepsErased id := fun s a _ hspares hT => act_erases hT hspares
  have hold : ∀ (s : System) a, True → s.KeepsErased id → s.SparesErased a →
      (System.act uc s a).KeepsErased id := fun s a _ hJ hspares => act_keepsErased hJ hspares
  have hafter := everAfter_of_step keep start hold trivial h
  exact fun before l after hcalls hT => (hafter before l after hcalls hT).mono fun s hs => hs.1

end Run

/-- What an anonymisation leaves does not depend on the personal data, when none of it is in
a column that is not touched; and it stays so while the requests leave the row alone. -/
theorem anonymisation_erases (uc : UpperCase) :
    (∀ (args : AnonymizeInput) (env : ℕ → Env) (db₁ db₂ db₁' : Db),
      db₁.SameButFor args.tenantId args.id.value db₂ → db₁.anonymizeCustomer args env = .ok db₁' →
        ∃ db₂', db₂.anonymizeCustomer args env = .ok db₂' ∧
          (db₁'.SameLeft args.id.value db₂' ↔ db₁.SameUntouched args.id.value db₂ ∧
            (args.id.text = uuidText args.id.value ∨ db₁.SameAudit db₂))) ∧
      ∀ (s : System) (calls : List (PoolAction Call Env)),
        EachStep (System.act uc) System.SparesErased s calls → ∀ id,
          EverAfter (System.act uc) (System.Anonymizes id) (fun s => s.shared.Erased id) s calls :=
  ⟨fun _ _ _ _ _ h h₁ => anonymize_sameLeft_iff h h₁, fun _ _ h => everAfter_erased uc h⟩

section Example

instance (change : CustomerChange) : Decidable change.IsImpersonal := by
  cases change <;> unfold CustomerChange.IsImpersonal <;> infer_instance

instance (k : Uuid) (w : CustomerWrite) : Decidable (w.Touches k) := by
  cases w <;> unfold CustomerWrite.Touches <;> infer_instance

instance (k : Uuid) : DecidablePred (Task.Touches k) := fun t => by
  unfold Task.Touches
  infer_instance

instance (db : Db) (t : Task) : Decidable (t.AsksForLiving db) := by
  induction t using Task.casesOn <;> unfold Task.AsksForLiving <;> infer_instance

instance (args : AnonymizeInput) (db : Db) : Decidable (args.LeavesNothing db) := by
  unfold AnonymizeInput.LeavesNothing
  infer_instance

instance (s : System) (a : PoolAction Call Env) : Decidable (s.SparesErased a) :=
  match a with
  | .start _ => .isTrue trivial
  | .step k _ => inferInstanceAs (Decidable (∀ t ∈ s.threads.get? k, t.AsksForLiving s.shared ∧
      ∀ args ∈ t.redacts? s.shared,
        args.LeavesNothing s.shared ∧ s.Alone (Task.Touches args.customerId) k))

def Db.withRow (db : Db) (id : UuidValue) (f : Customer → Customer) : Db :=
  { db with customers := db.customers.modify id.toNat f }

theorem sameButFor_withRow (db : Db) (tenantId : Uuid) (id : UuidValue) {f : Customer → Customer}
    (hf : ∀ row, (f row).impersonal = row.impersonal) :
    db.SameButFor tenantId id (db.withRow id f) where
  row := by
    simp only [Db.withRow, Table.get?_modify, if_true, Option.map_map]
    exact congrArg (Option.map · _) (funext fun row => (hf row).symm)
  otherRows k hk := (Table.get?_modify_ne _ hk f).symm
  auditLogs k := rfl
  currentAccounts := rfl
  invoices := rfl
  workOrders := rfl
  vehicles := rfl
  redactionLogs := rfl
  lockedCustomers := rfl

def renamed (row : Customer) : Customer := { row with lastName := "Kaya" }

def moved (row : Customer) : Customer := { row with address := some "Moda Cad. No: 12" }

def anonymizing : List (PoolAction Call Env) :=
  .start (.anonymizeCustomer (exampleInput 0)) :: stepsToInsertion 0 ++ [.step 0 exampleEnv]

theorem anonymisation_erases_renamed :
    (∃ db₁' db₂', exampleDb.anonymizeCustomer (exampleInput 0) (fun _ => exampleEnv) = .ok db₁' ∧
      (exampleDb.withRow 0 renamed).anonymizeCustomer (exampleInput 0) (fun _ => exampleEnv) = .ok db₂' ∧
      db₁'.SameLeft 0 db₂') ∧
      EverAfter (System.act asciiUpper) (System.Anonymizes 0) (fun s => s.shared.Erased 0)
        (Pool.idle exampleDb) anonymizing := by
  obtain ⟨htwo, hruns⟩ := anonymisation_erases asciiUpper
  refine ⟨?_, hruns _ _ (by decide +kernel) 0⟩
  obtain ⟨db₂', h₂, hiff⟩ := htwo (exampleInput 0) (fun _ => exampleEnv) exampleDb
    (exampleDb.withRow 0 renamed) _ (sameButFor_withRow exampleDb 0 0 fun _ => rfl) rfl
  exact ⟨_, db₂', rfl, h₂, hiff.mpr ⟨rfl, .inl rfl⟩⟩

/-- The address stays, and the archived row can be restored. -/
theorem address_survives :
    (¬ ∀ db₂ db₁' db₂', exampleDb.SameButFor 0 0 db₂ →
      exampleDb.anonymizeCustomer (exampleInput 0) (fun _ => exampleEnv) = .ok db₁' →
      db₂.anonymizeCustomer (exampleInput 0) (fun _ => exampleEnv) = .ok db₂' →
        db₁'.SameLeft 0 db₂') ∧
      ¬ ∀ calls, EverAfter (System.act asciiUpper) (System.Anonymizes 0)
        (fun s => s.shared.Erased 0) (Pool.idle exampleDb) calls := by
  constructor
  · intro h
    have hrow := (h (exampleDb.withRow 0 moved) _ _ (sameButFor_withRow exampleDb 0 0 fun _ => rfl) rfl
      rfl).1
    have haddress := congrArg (Option.map Customer.address) hrow
    revert haddress
    decide +kernel
  · intro h
    have hafter := h (anonymizing ++ [.start (.restore 0 0), .step 1 exampleEnv, .step 1 exampleEnv])
      (.start (.anonymizeCustomer (exampleInput 0)) :: stepsToInsertion 0) (.step 0 exampleEnv) _ rfl
      ⟨_, rfl, _, rfl, rfl⟩
    obtain ⟨row, hrow, herased⟩ := hafter.last
    have hdeleted := congrArg (Option.map fun row => row.deletedAt.isSome) hrow
    rw [Option.map_some, herased.isDeleted] at hdeleted
    revert hdeleted
    decide +kernel

end Example

end WorksAuto.Customers
