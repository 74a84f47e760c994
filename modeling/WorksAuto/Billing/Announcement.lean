import WorksAuto.Billing.Snapshot

/-! What is said about a new invoice.
The use case hands the invoice to the e-invoice provider, to the audit log and to the
customer. The lines come from the rows that were stored, the amounts from the request,
although the transaction has replaced them by the totals of the lines. -/

namespace WorksAuto

open Lib

/-- `toLocaleString('tr-TR', { minimumFractionDigits, maximumFractionDigits })`. -/
def trLocaleFixed (minimum maximum : ℕ) (x : ℚ) : String :=
  let scaled := (roundAway (|x| * 10 ^ maximum)).toNat
  let whole := groupThousands (Nat.repr (scaled / 10 ^ maximum)).toList
  let decimals := (padStart (scaled % 10 ^ maximum) maximum).toList
  let shown := decimals.take minimum ++
    ((decimals.drop minimum).reverse.dropWhile (· == '0')).reverse
  let sign := if x < 0 then "-" else ""
  if shown.isEmpty then sign ++ whole else sign ++ whole ++ "," ++ String.ofList shown

example : trLocaleFixed 2 3 1200 = "1.200,00" := by decide +kernel

/-- An amount of the request as a text; one that is not a number is shown as such. -/
def amountText (format : ℚ → String) (amount : Option ℚ) : String := amount.elim "NaN" format

structure CreateEInvoiceItem where
  name : String
  quantity : ℚ
  unitPrice : ℚ
  kdvRate : ℚ
  totalPrice : ℚ

structure EInvoiceCustomer where
  name : String
  email : Option String
  phone : Option String

structure CreateEInvoicePayload where
  invoiceId : Uuid
  invoiceNumber : String
  issueDate : Instant
  dueDate : Instant
  customer : EInvoiceCustomer
  items : List CreateEInvoiceItem
  subtotal : Option ℚ
  kdvAmount : Option ℚ
  grandTotal : Option ℚ
  isPaid : Bool
  paidAmount : ℚ
  notes : String
  profileId : Option String

/-- The factory of the tenant's provider: it is missing, it throws, or the provider
answers what it is sent. -/
inductive ProviderFactory where
  | absent
  | failing
  | provider (createInvoice : CreateEInvoicePayload → EInvoiceOutcome)

def ProviderFactory.createInvoice (f : ProviderFactory) (payload : CreateEInvoicePayload) :
    Option CreateEInvoicePayload × EInvoiceOutcome :=
  match f with
  | .absent => (none, .noProvider)
  | .failing => (none, .failed)
  | .provider createInvoice => (some payload, createInvoice payload)

def CreateEInvoiceItem.ofInvoiceItem (it : InvoiceItem) : CreateEInvoiceItem where
  name := if it.name = "" then "Hizmet" else it.name
  quantity := if it.quantity = 0 then 1 else it.quantity
  unitPrice := toNumber it.unitPrice
  kdvRate := toNumber it.kdvRate
  totalPrice := toNumber it.totalPrice

/-- The audit entry `invoice.created`. -/
structure InvoiceCreatedEntry where
  entityId : Uuid
  invoiceNumber : String
  grandTotal : Option ℚ
  subtotal : Option ℚ
  kdvAmount : Option ℚ
  customerId : Uuid
  workOrderId : Option Uuid

structure CreditLimitWarning where
  title : String
  message : String
  customerId : Uuid
  balance : ℚ
  creditLimit : ℚ

structure AmountTexts where
  message : String
  customerMessage : String
  /-- `Toplam Tutar` in the e-mail. -/
  emailTotal : String
  deriving DecidableEq

structure CustomerNotice where
  customerName : String
  invoiceNumber : String
  grandTotal : Option ℚ
  paymentUrl : String
  tenantTitle : String
  recipientPhone : Option String
  recipientEmail : Option String

structure InvoiceServices where
  providerFactory : ProviderFactory
  appBaseUrl : String

structure InvoiceAnnouncement where
  payload : Option CreateEInvoicePayload
  creditLimitWarning : Option CreditLimitWarning
  audit : InvoiceCreatedEntry
  customer : CustomerNotice

def InvoiceServices.getPaymentUrl (services : InvoiceServices) (invoiceId : Uuid) : String :=
  services.appBaseUrl ++ "/pay/" ++ Nat.repr invoiceId

namespace CustomerNotice

def title (n : CustomerNotice) : String := "Faturanız Düzenlendi (#" ++ n.invoiceNumber ++ ")"

def formatInvoiceCreatedCustomerMessage (n : CustomerNotice) : String :=
  (if n.customerName = "" then "Sayın Müşterimiz" else "Sayın " ++ n.customerName) ++ ", " ++
    n.invoiceNumber ++ " numaralı servis faturanız düzenlenmiştir (Tutar: " ++
    amountText (trLocaleFixed 2 2) n.grandTotal ++
    " ₺).\n\nKredi kartı ile güvenli ve hızlı ödemek için:\n" ++ n.paymentUrl ++ "\n\n" ++
    n.tenantTitle

def texts (n : CustomerNotice) : AmountTexts where
  message := n.invoiceNumber ++ " nolu servis faturanız düzenlenmiştir (Tutar: " ++
    amountText trLocale n.grandTotal ++ " ₺)."
  customerMessage := n.formatInvoiceCreatedCustomerMessage
  emailTotal := amountText (trLocaleFixed 2 3) n.grandTotal ++ " ₺"

end CustomerNotice

/-- The rows are never empty, so the use case does not fall back to the request's own. -/
def createEInvoicePayload (dto : CreateInvoiceInput) (result : CreateInvoiceTransactionResult)
    (invoice : Invoice) (items : List InvoiceItem) : CreateEInvoicePayload where
  invoiceId := result.invoiceId
  invoiceNumber := invoice.invoiceNumber
  issueDate := invoice.issueDate
  dueDate := invoice.dueDate
  customer :=
    { name := result.customerName, email := firstText [result.customerEmail]
      phone := firstText [some result.customerPhone] }
  items := items.map CreateEInvoiceItem.ofInvoiceItem
  subtotal := dto.subtotal
  kdvAmount := dto.kdvAmount
  grandTotal := dto.grandTotal
  isPaid := invoice.status = .paid
  paidAmount := toNumber invoice.paidAmount
  notes := standardNotes dto.notes
  profileId := dto.profileId

def creditLimitWarning (dto : CreateInvoiceInput) (result : CreateInvoiceTransactionResult) :
    Option CreditLimitWarning :=
  if 0 < result.creditLimit ∧ result.creditLimit < result.newBalance then
    some
      { title := "Borç Limiti Aşıldı: " ++ result.customerName
        message := result.customerName ++ " için belirlenen " ++ trLocale result.creditLimit ++
          " ₺ borç limiti aşıldı! Güncel Bakiye: " ++ trLocale result.newBalance ++ " ₺"
        customerId := dto.customerId
        balance := result.newBalance
        creditLimit := result.creditLimit }
  else none

def recordEInvoiceAnswer (db : Db) (tenantId id : Uuid) : Option EInvoiceDetails → Outcome Db
  | none => pure db
  | some details => updateEInvoiceDetails db tenantId id details

/-- `CreateInvoiceUseCase.execute`. -/
def executeCreateInvoice (clock : Clock) (services : InvoiceServices) (db : Db) (tenantId : Uuid)
    (dto : CreateInvoiceInput) : Outcome (Db × InvoiceAnnouncement) := do
  let (db, result) ←
    createWithCariMovement clock db (dto.entity clock tenantId) dto.offsetAdvanceAmount
  -- the row that `tx.invoice.create` has returned
  let invoice ← Outcome.required (db.invoices.get? result.invoiceId) (.database "P2025")
  let sent := services.providerFactory.createInvoice
    (createEInvoicePayload dto result invoice (db.invoiceItemsOf result.invoiceId))
  let db ← recordEInvoiceAnswer db tenantId result.invoiceId (sent.2.details dto)
  pure (db,
    { payload := sent.1
      creditLimitWarning := creditLimitWarning dto result
      audit :=
        { entityId := result.invoiceId, invoiceNumber := invoice.invoiceNumber
          grandTotal := dto.grandTotal, subtotal := dto.subtotal, kdvAmount := dto.kdvAmount
          customerId := dto.customerId, workOrderId := dto.workOrderId }
      customer :=
        { customerName := (firstText [some result.customerName]).getD "Değerli Müşterimiz"
          invoiceNumber := invoice.invoiceNumber
          grandTotal := dto.grandTotal
          paymentUrl := services.getPaymentUrl result.invoiceId
          tenantTitle := (firstText [some result.tenantTitle]).getD "WorksAuto Servis"
          recipientPhone := firstText [some result.customerPhone]
          recipientEmail := firstText [result.customerEmail] } })

/-- The totals that a request states are those of the lines it is invoiced for. -/
def CreateInvoiceInput.StatesTotals (dto : CreateInvoiceInput) (clock : Clock) (db : Db)
    (tenantId : Uuid) : Prop :=
  ∃ t, calculateInvoiceTotals (effectiveItems db (dto.entity clock tenantId)) = .ok t ∧
    dto.subtotal = some t.subtotal ∧ dto.kdvAmount = some t.kdvAmount ∧
    dto.grandTotal = some t.grandTotal

structure Invoice.Amounts (inv : Invoice) (subtotal kdvAmount grandTotal : Option ℚ) : Prop where
  subtotal_eq : subtotal = some (toNumber inv.subtotal)
  kdvAmount_eq : kdvAmount = some (toNumber inv.kdvAmount)
  grandTotal_eq : grandTotal = some (toNumber inv.grandTotal)

/-- What has been sent is what has been booked, as an invoice and as a debit. -/
structure InvoiceAnnouncement.AsBooked (a : InvoiceAnnouncement) (inv : Invoice)
    (movement : CariMovement) : Prop where
  payload : ∀ p, a.payload = some p → inv.Amounts p.subtotal p.kdvAmount p.grandTotal
  lines : ∀ p, a.payload = some p →
    p.subtotal = some (p.items.map CreateEInvoiceItem.totalPrice).sum
  audit : inv.Amounts a.audit.subtotal a.audit.kdvAmount a.audit.grandTotal
  customer : a.customer.texts =
    { a.customer with grandTotal := some (toNumber inv.grandTotal) : CustomerNotice }.texts
  movement : movement.debit = inv.grandTotal

section Announce

variable {clock : Clock} {services : InvoiceServices} {db db' : Db} {tenantId : Uuid}
  {dto : CreateInvoiceInput} {a : InvoiceAnnouncement}

/-- The invoice that a call has booked, and the parts of its announcement that matter. -/
structure InvoiceAnnounced (clock : Clock) (db : Db) (tenantId : Uuid) (dto : CreateInvoiceInput)
    (db' : Db) (a : InvoiceAnnouncement) where
  inv : Invoice
  movement : CariMovement
  totals : InvoiceTotals
  stored : db'.invoices.get? a.audit.entityId = some inv
  posted : db'.cariMovements = db.cariMovements.insert movement
  debit_eq : movement.debit = inv.grandTotal
  totals_eq :
    calculateInvoiceTotals (effectiveItems db (dto.entity clock tenantId)) = .ok totals
  subtotal_eq : totals.subtotal = toNumber inv.subtotal
  kdvAmount_eq : totals.kdvAmount = toNumber inv.kdvAmount
  grandTotal_eq : totals.grandTotal = toNumber inv.grandTotal
  audit_eq : a.audit.subtotal = dto.subtotal ∧ a.audit.kdvAmount = dto.kdvAmount ∧
    a.audit.grandTotal = dto.grandTotal
  customer_eq : a.customer.grandTotal = dto.grandTotal
  payload_eq : ∀ p, a.payload = some p → p.subtotal = dto.subtotal ∧
    p.kdvAmount = dto.kdvAmount ∧ p.grandTotal = dto.grandTotal ∧
    (p.items.map CreateEInvoiceItem.totalPrice).sum = toNumber inv.subtotal

theorem recordEInvoiceAnswer_ok {details : Option EInvoiceDetails} {id : Uuid} {inv : Invoice}
    (hinv : db.invoices.get? id = some inv)
    (h : recordEInvoiceAnswer db tenantId id details = .ok db') :
    db'.cariMovements = db.cariMovements ∧
      ∃ inv', db'.invoices.get? id = some inv' ∧ inv'.subtotal = inv.subtotal ∧
        inv'.kdvAmount = inv.kdvAmount ∧ inv'.grandTotal = inv.grandTotal := by
  cases details with
  | none =>
    cases Outcome.pure_eq_ok.mp h
    exact ⟨rfl, inv, hinv, rfl, rfl, rfl⟩
  | some d =>
    obtain ⟨existing, -, h⟩ := Outcome.bind_eq_ok.mp h
    cases Outcome.pure_eq_ok.mp h
    exact ⟨rfl, d.apply inv, Table.get?_modify_self hinv _, rfl, rfl, rfl⟩

theorem ProviderFactory.createInvoice_eq {f : ProviderFactory} {payload p : CreateEInvoicePayload}
    (h : (f.createInvoice payload).1 = some p) : p = payload := by
  cases f with
  | absent => cases h
  | failing => cases h
  | provider createInvoice => exact (Option.some.inj h).symm

theorem createWithCariMovement_booked {invoice : InvoiceEntity} {offset : Option ℚ}
    {r : CreateInvoiceTransactionResult} (hlinked : db.InvoiceItemsLinked)
    (h : createWithCariMovement clock db invoice offset = .ok (db', r)) :
    ∃ inv movement totals, db'.invoices.get? r.invoiceId = some inv ∧
      db'.cariMovements = db.cariMovements.insert movement ∧ movement.debit = inv.grandTotal ∧
      calculateInvoiceTotals (effectiveItems db invoice) = .ok totals ∧
      totals.subtotal = toNumber inv.subtotal ∧ totals.kdvAmount = toNumber inv.kdvAmount ∧
      totals.grandTotal = toNumber inv.grandTotal ∧
      ((db'.invoiceItemsOf r.invoiceId).map InvoiceItem.totalPrice).sum = inv.subtotal := by
  obtain ⟨hissued⟩ := createWithCariMovement_ok h
  obtain ⟨created, stored, hcreated, hsnap, hinvoices, hitems⟩ := createWithCariMovement_split h
  obtain ⟨hrow⟩ := createInvoiceRow_ok hcreated
  obtain ⟨-, heq⟩ := (snapshotItems_ok_iff hrow.valid hrow.cents_lt).mp hsnap
  have hget : db'.invoices.get? r.invoiceId = some hrow.row := by
    rw [hinvoices, heq]
    exact hrow.get
  have hsame : hissued.row = hrow.row := by
    have hissuedGet := Table.get?_insert_self db.invoices hissued.row
    rw [← hissued.invoices, ← hrow.id_eq] at hissuedGet
    exact Option.some.inj (hissuedGet.symm.trans hget)
  have hrows : db'.invoiceItemsOf r.invoiceId = stored.invoiceItemsOf r.invoiceId := by
    rw [Db.invoiceItemsOf, Db.invoiceItemsOf, hitems]
  refine ⟨hrow.row, _, _, hget, hissued.movements, ?_, totalsIn_valid hrow.valid,
    ?_, ?_, ?_, ?_⟩
  · rw [← hsame, hissued.grandTotal_eq]
  · rw [hrow.subtotal_eq]
  · rw [hrow.kdvAmount_eq]
  · rw [hrow.grandTotal_eq, hrow.subtotal_eq, hrow.kdvAmount_eq]
  · rw [hrows, hrow.invoiceItemsOf hlinked heq, hrow.subtotal_eq, List.map_map]
    rfl

theorem sum_ofInvoiceItem (rows : List InvoiceItem) :
    ((rows.map CreateEInvoiceItem.ofInvoiceItem).map CreateEInvoiceItem.totalPrice).sum =
      toNumber (rows.map InvoiceItem.totalPrice).sum := by
  rw [toNumber_sum, List.map_map, List.map_map]
  rfl

theorem executeCreateInvoice_ok (hlinked : db.InvoiceItemsLinked)
    (h : executeCreateInvoice clock services db tenantId dto = .ok (db', a)) :
    Nonempty (InvoiceAnnounced clock db tenantId dto db' a) := by
  obtain ⟨⟨booked, result⟩, hcreate, h₁⟩ := Outcome.bind_eq_ok.mp h
  obtain ⟨invoice, hinvoice, h₂⟩ := Outcome.bind_eq_ok.mp h₁
  obtain ⟨updated, hupdate, h₃⟩ := Outcome.bind_eq_ok.mp h₂
  cases Outcome.pure_eq_ok.mp h₃
  clear h h₁ h₂ h₃
  obtain ⟨inv, movement, totals, hget, hposted, hdebit, htotals, hs, hk, hg, hrows⟩ :=
    createWithCariMovement_booked hlinked hcreate
  obtain ⟨hmovements, inv', hget', hs', hk', hg'⟩ := recordEInvoiceAnswer_ok hget hupdate
  refine ⟨
    { inv := inv', movement, totals, stored := hget', posted := hmovements.trans hposted
      debit_eq := hdebit.trans hg'.symm, totals_eq := htotals
      subtotal_eq := by rw [hs, hs'], kdvAmount_eq := by rw [hk, hk']
      grandTotal_eq := by rw [hg, hg'], audit_eq := ⟨rfl, rfl, rfl⟩, customer_eq := rfl
      payload_eq := ?_ }⟩
  intro p hp
  rw [ProviderFactory.createInvoice_eq hp]
  refine ⟨rfl, rfl, rfl, ?_⟩
  rw [hs', ← hrows]
  exact sum_ofInvoiceItem _

/-- Everything announced about a new invoice is what has been booked precisely when the
request states the totals of its lines to the cent. -/
theorem announced_as_booked_iff (hlinked : db.InvoiceItemsLinked)
    (h : executeCreateInvoice clock services db tenantId dto = .ok (db', a)) :
    (∃ inv movement, db'.invoices.get? a.audit.entityId = some inv ∧
      db'.cariMovements = db.cariMovements.insert movement ∧ a.AsBooked inv movement) ↔
    dto.StatesTotals clock db tenantId := by
  obtain ⟨hbooked⟩ := executeCreateInvoice_ok hlinked h
  obtain ⟨hs, hk, hg⟩ := hbooked.audit_eq
  constructor
  · rintro ⟨inv, movement, hget, -, hannounced⟩
    obtain rfl : inv = hbooked.inv := Option.some.inj (hget.symm.trans hbooked.stored)
    refine ⟨hbooked.totals, hbooked.totals_eq, ?_, ?_, ?_⟩
    · rw [← hs, hannounced.audit.subtotal_eq, hbooked.subtotal_eq]
    · rw [← hk, hannounced.audit.kdvAmount_eq, hbooked.kdvAmount_eq]
    · rw [← hg, hannounced.audit.grandTotal_eq, hbooked.grandTotal_eq]
  · rintro ⟨t, ht, hsub, hkdv, hgrand⟩
    obtain rfl : t = hbooked.totals := Except.ok.inj (ht.symm.trans hbooked.totals_eq)
    rw [hbooked.subtotal_eq] at hsub
    rw [hbooked.kdvAmount_eq] at hkdv
    rw [hbooked.grandTotal_eq] at hgrand
    refine ⟨hbooked.inv, hbooked.movement, hbooked.stored, hbooked.posted, ?_⟩
    constructor
    · intro p hp
      obtain ⟨hps, hpk, hpg, -⟩ := hbooked.payload_eq p hp
      exact ⟨hps.trans hsub, hpk.trans hkdv, hpg.trans hgrand⟩
    · intro p hp
      obtain ⟨hps, -, -, hlines⟩ := hbooked.payload_eq p hp
      rw [hps, hsub, hlines]
    · exact ⟨hs.trans hsub, hk.trans hkdv, hg.trans hgrand⟩
    · rw [← hgrand, ← hbooked.customer_eq]
    · exact hbooked.debit_eq

end Announce

section Sample

def taxedInput (kdvAmount : ℚ) : CreateInvoiceInput where
  workOrderId := none
  customerId := 0
  dueDate := 0
  subtotal := some 100
  kdvAmount := some kdvAmount
  grandTotal := some (100 + kdvAmount)
  offsetAdvanceAmount := none
  invoiceNumber := none
  gibInvoiceNumber := none
  items := some [{ itemType := none, name := "Bakım", quantity := 1, unitPrice := 100,
                   kdvRate := some 20, notes := none }]
  notes := none
  profileId := none

def sampleServices : InvoiceServices where
  providerFactory := .provider fun _ =>
    .answered true (some "uuid") (some "GIB2026000000001") (some "COMPLETED")
  appBaseUrl := "https://worksauto.example"

def announced (kdvAmount : ℚ) : Outcome (Db × InvoiceAnnouncement) :=
  executeCreateInvoice sampleEnv.clock sampleServices sampleDb 0 (taxedInput kdvAmount)

theorem sample_announced_as_booked :
    ∃ db' a, announced 20 = .ok (db', a) ∧ ∃ inv movement,
      db'.invoices.get? a.audit.entityId = some inv ∧
      db'.cariMovements = sampleDb.cariMovements.insert movement ∧ a.AsBooked inv movement := by
  have hok : (announced 20).isOk = true := by decide +kernel
  obtain ⟨⟨db', a⟩, h⟩ := Outcome.isOk_iff.mp hok
  refine ⟨db', a, h, ?_⟩
  refine (announced_as_booked_iff (.of_none fun _ => rfl) h).mpr ?_
  exact ⟨{ subtotal := 100, kdvAmount := 20, grandTotal := 120 }, by decide +kernel⟩

/-- A tax stated two cents too high is accepted. The invoice is booked with 120.00 and
sent, recorded and told with 120.02. -/
theorem tolerated_total_announced :
    ∃ db' a, announced (2002 / 100) = .ok (db', a) ∧ ¬ ∃ inv movement,
      db'.invoices.get? a.audit.entityId = some inv ∧
      db'.cariMovements = sampleDb.cariMovements.insert movement ∧ a.AsBooked inv movement := by
  have hbooked : ((announced (2002 / 100)).toOption.map fun r =>
      (r.2.audit.grandTotal, (r.1.invoices.get? r.2.audit.entityId).map Invoice.grandTotal)) =
      some (some (12002 / 100), some 12000) := by
    decide +kernel
  have hok : (announced (2002 / 100)).isOk = true := by decide +kernel
  obtain ⟨⟨db', a⟩, h⟩ := Outcome.isOk_iff.mp hok
  refine ⟨db', a, h, ?_⟩
  rintro ⟨inv, movement, hinv, -, hannounced⟩
  rw [h] at hbooked
  simp only [Except.toOption, Option.map_some, hinv, Option.some.injEq, Prod.mk.injEq] at hbooked
  have hgrand := hannounced.audit.grandTotal_eq
  rw [hbooked.1, hbooked.2, Option.some.injEq] at hgrand
  norm_num [toNumber] at hgrand

end Sample

end WorksAuto
