import WorksAuto.Customers.Rows

/-! The lookups and the transactions of customers and vehicles.
Each writer reads what it checks first and stores its rows in one transaction at
the end; `Db.commit` is that transaction. The unique index on the plates of a
tenant compares texts. -/

namespace WorksAuto.Customers

open Lib

/-- What the surroundings decide at a query: which row it finds when it asks for no order,
the clock, and the time that a new row is stamped with. -/
structure Env where
  choice : ℕ
  now : Instant
  currentYear : ℤ
  createdAt : Timestamptz

/-- An id as the request spells it, and the value the database reads from it. -/
structure UuidParam where
  text : String
  value : UuidValue

structure AnonymizeInput where
  tenantId : Uuid
  id : UuidParam
  authorizedByUserId : UuidValue
  legalRef : Option String

def AnonymizeInput.customerId (args : AnonymizeInput) : Uuid := args.id.value.toNat

section Lookups

def pick {ρ : Type} (choice : ℕ) (rows : List (Uuid × ρ)) : Option (Uuid × ρ) :=
  rows[choice % rows.length]?

variable (db : Db) (tenantId : Uuid)

def Db.liveCustomer? (id : Uuid) : Option Customer :=
  (db.customers.get? id).filter fun c => c.tenantId = tenantId && c.deletedAt.isNone

def Db.archivedCustomer? (id : Uuid) : Option Customer :=
  (db.customers.get? id).filter fun c => c.tenantId = tenantId && c.deletedAt.isSome

def Db.findByPhone (phones : List String) (choice : ℕ) : Option (Uuid × Customer) :=
  pick choice (db.customers.filter fun c =>
    c.tenantId = tenantId && decide (c.phone ∈ phones) && c.deletedAt.isNone)

def Db.findByPhoneForPublic (phone : String) (choice : ℕ) : Option (Uuid × Customer) :=
  pick choice (db.customers.filter fun c => c.tenantId = tenantId && c.phone = phone)

def Db.vehicle? (id : Uuid) : Option Vehicle :=
  (db.vehicles.get? id).filter fun v => v.tenantId = tenantId

def Db.liveVehicle? (id : Uuid) : Option Vehicle :=
  (db.vehicle? tenantId id).filter fun v => v.deletedAt.isNone

def Db.ownerIsLive (vehicle : Vehicle) : Bool :=
  (db.customers.get? vehicle.customerId).any fun c => c.deletedAt.isNone

def Db.findByPlateAny (plate : String) : Option (Uuid × Vehicle) :=
  db.vehicles.find? fun v => v.tenantId = tenantId && v.plate = plate

def Db.findByPlateLive (plate : String) : Option (Uuid × Vehicle) :=
  db.vehicles.find? fun v => v.tenantId = tenantId && v.plate = plate && v.deletedAt.isNone

def Db.findByPlate (plate : String) : Option (Uuid × Vehicle) :=
  db.vehicles.find? fun v =>
    v.tenantId = tenantId && v.plate = plate && v.deletedAt.isNone && db.ownerIsLive v

end Lookups

section Checks

variable (db : Db) (tenantId customerId : Uuid)

def Db.balance : ℤ :=
  ((db.records.currentAccounts.find? fun a => a.customerId = customerId).map
    fun q => q.2.balance).getD 0

def Db.checkArchive : Outcome Unit := do
  let active := db.records.workOrders.filter fun w =>
    w.customerId = customerId && (w.status = .queue || w.status = .inProgress)
  Outcome.reject (!active.isEmpty) (.badRequest
    ("Bu müşteriye ait aktif/devam eden iş emirleri bulunmaktadır (" ++
      String.intercalate ", " (active.map fun q => q.2.workOrderNumber) ++
      "). İş emirleri tamamlanmadan veya iptal edilmeden müşteri kaydı silinemez."))
  Outcome.reject (0 < db.balance customerId) (.badRequest
    ("Bu müşterinin " ++ trLocale (toNumber (db.balance customerId)) ++
      " ₺ açık cari hesap borcu bulunmaktadır. Bakiye tahsil edilmeden müşteri kaydı silinemez."))

def Db.checkDebt : Outcome Unit :=
  match db.records.currentAccounts.find? fun a => a.customerId = customerId && a.tenantId = tenantId with
  | none => pure ()
  | some (_, account) => Outcome.reject (0 < account.balance) (.badRequest
      ("Bu müşterinin " ++ trLocale (toNumber account.balance) ++
        " ₺ açık borcu bulunmaktadır. Yasal alacak takibi ve zamanaşımı (TTK md. 82) süresince " ++
        "açık borcu olan müşteriler KVKK kapsamında silinemez veya anonimleştirilemez. " ++
        "Lütfen önce tahsilatı tamamlayınız."))

def Db.checkOpenInvoice (choice : ℕ) : Outcome Unit :=
  match pick choice (db.records.invoices.filter fun inv =>
    inv.customerId = customerId && inv.tenantId = tenantId &&
      !(inv.status = .paid || inv.status = .cancelled)) with
  | none => pure ()
  | some (_, openInvoice) => .error (.badRequest
      ("Bu müşteriye ait ödenmemiş açık bir fatura (" ++ openInvoice.invoiceNumber ++
        ") bulunmaktadır. Fatura kapatılmadan müşteri verileri anonimleştirilemez."))

end Checks

inductive CustomerChange where
  | save (customer : Customer)
  | archive (deletedAt : Instant)
  | revive
  | patch (update : CustomerUpdate)

namespace CustomerChange

def apply (change : CustomerChange) (row : Customer) : Customer :=
  match change with
  | save customer =>
    { row with
      type := customer.type
      firstName := customer.firstName
      lastName := customer.lastName
      companyTitle := customer.companyTitle.or row.companyTitle
      phone := customer.phone
      email := customer.email.or row.email
      taxNumber := customer.taxNumber.or row.taxNumber
      taxOffice := customer.taxOffice.or row.taxOffice
      address := customer.address.or row.address
      city := customer.city.or row.city
      district := customer.district.or row.district
      creditLimit := customer.creditLimit
      notes := customer.notes.or row.notes
      isLead := customer.isLead
      isAnonymized := customer.isAnonymized }
  | archive deletedAt => { row with deletedAt := some deletedAt }
  | revive => { row with deletedAt := none }
  | patch update =>
    { row with
      type := update.type.getD row.type
      firstName := update.firstName.getD row.firstName
      lastName := update.lastName.getD row.lastName
      companyTitle := update.companyTitle.or row.companyTitle
      email := update.email.or row.email
      taxNumber := update.taxNumber.or row.taxNumber
      taxOffice := update.taxOffice.or row.taxOffice
      notes := update.notes.or row.notes }

end CustomerChange

inductive CustomerWrite where
  | keep (id : Uuid)
  | insert (row : Customer) (withAccount : Bool)
  | update (id : Uuid) (change : CustomerChange)

inductive VehicleChange where
  | save (vehicle : Vehicle)
  | transfer
  | patch (update : VehicleUpdate)
  | archive (deletedAt : Instant)
  | revive

/-- `customerId` is the customer that the transaction is about. -/
def VehicleChange.apply (change : VehicleChange) (customerId : Uuid) (row : Vehicle) : Vehicle :=
  match change with
  | save vehicle =>
    { row with
      plate := vehicle.plate
      brand := vehicle.brand
      model := vehicle.model
      year := vehicle.year
      vin := vehicle.vin.or row.vin
      currentKm := vehicle.currentKm }
  | transfer => { row with customerId, deletedAt := none }
  | patch update =>
    { row with
      customerId := if update.reassign then customerId else row.customerId
      brand := update.brand.getD row.brand
      model := update.model.getD row.model
      year := update.year.getD row.year
      vin := update.vin.or row.vin
      currentKm := update.currentKm.getD row.currentKm }
  | archive deletedAt => { row with deletedAt := some deletedAt }
  | revive => { row with deletedAt := none }

inductive VehicleWrite where
  | none
  /-- The vehicle of the customer that the transaction is about. -/
  | insert (row : Vehicle)
  | update (id : Uuid) (change : VehicleChange)
  | archiveAll (deletedAt : Instant)
  | reviveAll

structure Write where
  customer : CustomerWrite
  vehicle : VehicleWrite

def maskedChanges : Changes :=
  ["firstName", "lastName", "phone"].map fun field => (field, "[MASKED_BY_KVKK]")

namespace CustomerWrite

def store (w : CustomerWrite) (customers : Table Customer) : Table Customer :=
  match w with
  | keep _ => customers
  | insert row _ => customers.insert row
  | update id change => customers.modify id change.apply

def customerId (w : CustomerWrite) (customers : Table Customer) : Uuid :=
  match w with
  | keep id => id
  | insert _ _ => customers.next
  | update id _ => id

def newAccount (w : CustomerWrite) (customers : Table Customer) : Option CurrentAccount :=
  match w with
  | insert row true => some { tenantId := row.tenantId, customerId := customers.next, balance := 0 }
  | _ => none

end CustomerWrite

def VehicleWrite.store (w : VehicleWrite) (customerId : Uuid) (vehicles : Table Vehicle) :
    Table Vehicle :=
  match w with
  | none => vehicles
  | insert row => vehicles.insert { row with customerId }
  | update id change => vehicles.modify id (change.apply customerId)
  | archiveAll deletedAt =>
    vehicles.modifyIf (fun _ v => v.customerId = customerId && v.deletedAt.isNone)
      ((VehicleChange.archive deletedAt).apply customerId)
  | reviveAll =>
    vehicles.modifyIf (fun _ v => v.customerId = customerId && v.deletedAt.isSome)
      (VehicleChange.revive.apply customerId)

namespace Write

def customerId (w : Write) (db : Db) : Uuid := w.customer.customerId db.customers

/-- The plate a transaction stores: the vehicle it is for, that vehicle's tenant and the text. -/
def plate? (w : Write) (db : Db) : Option (Uuid × Uuid × String) :=
  match w.vehicle with
  | .insert row => some (db.vehicles.next, row.tenantId, row.plate)
  | .update id (.save vehicle) =>
    (db.vehicles.get? id).map fun row => (id, row.tenantId, vehicle.plate)
  | _ => none

def rowsExist (w : Write) (db : Db) : Bool :=
  (match w.customer with
    | .update id _ => (db.customers.get? id).isSome
    | _ => true) &&
  match w.vehicle with
    | .update id _ => (db.vehicles.get? id).isSome
    | _ => true

/-- The unique index on `vehicles(tenant_id, plate)`. -/
def plateFree (w : Write) (db : Db) : Bool :=
  (w.plate? db).all fun p => db.vehicles.rows.all fun r =>
    r.1 = p.1 || r.2.tenantId ≠ p.2.1 || r.2.plate ≠ p.2.2

def waits (w : Write) (db : Db) : Bool :=
  match w.customer with
  | .update id _ => id ∈ db.lockedCustomers
  | _ => false

end Write

def Db.store (db : Db) (w : Write) : Db :=
  { db with
    customers := w.customer.store db.customers
    vehicles := w.vehicle.store (w.customerId db) db.vehicles
    records := { db.records with
      currentAccounts := (w.customer.newAccount db.customers).elim db.records.currentAccounts
        db.records.currentAccounts.insert } }

def Db.commit (db : Db) (w : Write) : Outcome Db := do
  Outcome.reject (!w.rowsExist db) (.database "P2025")
  Outcome.reject (!w.plateFree db) (.database "P2002")
  pure (db.store w)

def Write.Accepted (w : Write) (db : Db) : Prop := w.rowsExist db = true ∧ w.plateFree db = true

section Anonymize

def shortId (id : String) : String := String.ofList (id.toList.take 8)

def Customer.anonymize (id : String) (deletedAt : Instant) (row : Customer) : Customer :=
  { row with
    firstName := "ANONİM"
    lastName := "MÜŞTERİ_" ++ shortId id
    companyTitle := none
    phone := "0000000000"
    email := some ("anonymized_" ++ shortId id ++ "@worksauto.local")
    taxNumber := none
    taxOffice := none
    notes := some "[KVKK Kapsamında Kişisel Veriler Anonimleştirildi]"
    isAnonymized := true
    deletedAt := some deletedAt }

/-- `where: { tenantId, entityName: 'Customer', entityId }`. -/
def AuditLog.isAbout (log : AuditLog) (tenantId : Uuid) (entityId : String) : Bool :=
  log.tenantId = some tenantId && log.entityName = "Customer" && log.entityId = entityId

def AuditLog.mask (log : AuditLog) : AuditLog :=
  { log with changesBefore := some maskedChanges, changesAfter := some maskedChanges }

def Db.redact (db : Db) (args : AnonymizeInput) (deletedAt : Instant) (masked : List Uuid)
    (entry : ComplianceRedactionLog) : Db :=
  { db with
    customers := db.customers.modify args.customerId
      (Customer.anonymize (uuidText args.id.value) deletedAt)
    records := { db.records with
      auditLogs := db.records.auditLogs.modifyIf (fun k _ => k ∈ masked) AuditLog.mask }
    redactionLogs := db.redactionLogs ++ [entry]
    lockedCustomers := db.lockedCustomers.erase args.customerId }

variable (db : Db) (args : AnonymizeInput)

/-- `affectedLogs`. -/
def Db.customerLogs : List Uuid :=
  (db.records.auditLogs.filter fun l => l.isAbout args.tenantId args.id.text).map Prod.fst

/-- The entry with the latest `createdAt`, or one of those. -/
def Db.lastRedaction? (choice : ℕ) : Option ComplianceRedactionLog :=
  let latest := db.redactionLogs.filter fun e => db.redactionLogs.all fun f => f.createdAt ≤ e.createdAt
  latest[choice % latest.length]?

def hashToFollow (lastRedaction : Option ComplianceRedactionLog) : String :=
  (lastRedaction.map ComplianceRedactionLog.currentHash).getD genesisHash

def redactionEntry (affected : List Uuid) (lastRedaction : Option ComplianceRedactionLog) (env : Env) :
    ComplianceRedactionLog where
  redactedCustomerId := args.id.value
  authorizedByUserId := args.authorizedByUserId
  legalRequestRef := (firstText [args.legalRef]).getD "KVKK_TALEP_FORMU"
  affectedAuditLogIds := affected
  previousHash := hashToFollow lastRedaction
  currentHash := redactionHash (hashToFollow lastRedaction) args.id.text
    (uuidText args.authorizedByUserId) env.now
  createdAt := env.createdAt

/-- The transaction of `anonymizeCustomer`, from the time and the entries that it found. -/
def Db.commitRedaction (deletedAt : Instant) (affected masked : List Uuid)
    (lastRedaction : Option ComplianceRedactionLog) (env : Env) : Outcome Db := do
  Outcome.reject (db.customers.get? args.customerId).isNone (.database "P2025")
  pure (db.redact args deletedAt masked (redactionEntry args affected lastRedaction env))

/-- The whole of a call that no other call comes between; `env n` surrounds its query `n`. -/
def Db.anonymizeCustomer (env : ℕ → Env) : Outcome Db := do
  let _ ← Outcome.required (db.liveCustomer? args.tenantId args.customerId)
    (.notFound "Müşteri bulunamadı.")
  db.checkDebt args.tenantId args.customerId
  db.checkOpenInvoice args.tenantId args.customerId (env 3).choice
  db.commitRedaction args (env 4).now (db.customerLogs args) (db.customerLogs args)
    (db.lastRedaction? (env 7).choice) (env 8)

end Anonymize

section Store

variable {db db' : Db} {w : Write}

theorem commit_eq_ok : db.commit w = .ok db' ↔ w.Accepted db ∧ db.store w = db' := by
  constructor
  · intro h
    obtain ⟨_, hrows, h₁⟩ := Outcome.bind_eq_ok.mp h
    obtain ⟨_, hplate, h₂⟩ := Outcome.bind_eq_ok.mp h₁
    rw [Outcome.reject_eq_ok, Bool.not_eq_false'] at hrows hplate
    exact ⟨⟨hrows, hplate⟩, Outcome.pure_eq_ok.mp h₂⟩
  · rintro ⟨⟨hrows, hplate⟩, rfl⟩
    simp only [Db.commit, hrows, hplate]
    rfl

instance (w : Write) (db : Db) : Decidable (w.Accepted db) := inferInstanceAs (Decidable (_ ∧ _))

theorem commitRedaction_eq_ok {args : AnonymizeInput} {deletedAt : Instant}
    {affected masked : List Uuid} {lastRedaction : Option ComplianceRedactionLog} {env : Env} :
    db.commitRedaction args deletedAt affected masked lastRedaction env = .ok db' ↔
      (db.customers.get? args.customerId).isSome = true ∧
        db' = db.redact args deletedAt masked (redactionEntry args affected lastRedaction env) := by
  constructor
  · intro h
    obtain ⟨_, hrow, h₁⟩ := Outcome.bind_eq_ok.mp h
    rw [Outcome.reject_eq_ok] at hrow
    exact ⟨Option.isNone_eq_false_iff.mp hrow, (Outcome.pure_eq_ok.mp h₁).symm⟩
  · rintro ⟨hrow, rfl⟩
    refine Outcome.bind_eq_ok.mpr ⟨(), ?_, rfl⟩
    rw [Outcome.reject_eq_ok, Option.isNone_eq_false_iff]
    exact hrow

theorem anonymizeCustomer_eq_ok {args : AnonymizeInput} {env : ℕ → Env} :
    db.anonymizeCustomer args env = .ok db' ↔
      (db.liveCustomer? args.tenantId args.customerId).isSome ∧
      db.checkDebt args.tenantId args.customerId = .ok () ∧
      db.checkOpenInvoice args.tenantId args.customerId (env 3).choice = .ok () ∧
      db' = db.redact args (env 4).now (db.customerLogs args)
        (redactionEntry args (db.customerLogs args) (db.lastRedaction? (env 7).choice) (env 8)) := by
  constructor
  · intro h
    obtain ⟨row, hrow, h₁⟩ := Outcome.bind_eq_ok.mp h
    obtain ⟨_, hdebt, h₂⟩ := Outcome.bind_eq_ok.mp h₁
    obtain ⟨_, hinvoice, h₃⟩ := Outcome.bind_eq_ok.mp h₂
    rw [Outcome.required_eq_ok] at hrow
    exact ⟨by rw [hrow]; rfl, hdebt, hinvoice, (commitRedaction_eq_ok.mp h₃).2⟩
  · rintro ⟨hlive, hdebt, hinvoice, rfl⟩
    obtain ⟨row, hrow⟩ := Option.isSome_iff_exists.mp hlive
    have hstored : (db.customers.get? args.customerId).isSome = true := by
      rw [(Option.filter_eq_some_iff.mp hrow).1]
      rfl
    refine Outcome.bind_eq_ok.mpr ⟨row, Outcome.required_eq_ok.mpr hrow, ?_⟩
    refine Outcome.bind_eq_ok.mpr ⟨(), hdebt, Outcome.bind_eq_ok.mpr ⟨(), hinvoice, ?_⟩⟩
    exact commitRedaction_eq_ok.mpr ⟨hstored, rfl⟩

end Store

end WorksAuto.Customers
