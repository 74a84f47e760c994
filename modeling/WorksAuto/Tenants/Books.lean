import WorksAuto.Lib.Persistence
import WorksAuto.Tenants.Ownership

/-! The books of the workshops: what stays on record once it is there.
An issued invoice keeps its number, its customer, its dates and its totals; a payment its amount; a
movement everything. Rows of the books are never deleted, a cancelled invoice stays cancelled, and
the last numbers of the sequences never go back. -/

namespace WorksAuto

open Lib

section Columns

def Invoice.face (inv : Invoice) : Invoice :=
  { inv with
    workOrderId := none, paidAmount := 0, remainingAmount := 0, status := .unpaid
    eInvoiceUuid := none, eInvoiceStatus := none, gibInvoiceNumber := none, profileId := none
    notes := none }

structure Invoice.GoesOnAs (inv inv' : Invoice) : Prop where
  face : inv'.face = inv.face
  cancelled : inv.status = .cancelled → inv'.status = .cancelled
  order : inv'.workOrderId = inv.workOrderId ∨
    inv'.workOrderId = none ∧ inv'.status = .cancelled

def Payment.receipt (p : Payment) : Payment := { p with notes := none }

structure PaymentAttempt.GoesOnAs (a a' : PaymentAttempt) : Prop where
  order : { a' with status := .paid } = { a with status := .paid }
  paid : a.status = .paid → a'.status = .paid

def WorkOrder.file (wo : WorkOrder) : WorkOrder :=
  { wo with
    assignedMechanicId := none, status := .queue, subtotal := 0, kdvAmount := 0, grandTotal := 0
    completedAt := none }

def Appointment.parties (a : Appointment) : Uuid × Uuid × Uuid :=
  (a.tenantId, a.customerId, a.vehicleId)

def CurrentAccount.holder (a : CurrentAccount) : Uuid × Uuid := (a.tenantId, a.customerId)

end Columns

structure Db.RetainedBy (db db' : Db) : Prop where
  customers : Table.Records Customer.tenantId db.customers db'.customers
  vehicles : Table.Records Vehicle.tenantId db.vehicles db'.vehicles
  appointments : Table.Records Appointment.parties db.appointments db'.appointments
  workOrders : Table.Records WorkOrder.file db.workOrders db'.workOrders
  products : Table.Records Product.tenantId db.products db'.products
  stockMovements : Table.Records id db.stockMovements db'.stockMovements
  invoices : db.invoices.Persists Invoice.GoesOnAs db'.invoices
  invoiceItems : Table.Records id db.invoiceItems db'.invoiceItems
  payments : Table.Records Payment.receipt db.payments db'.payments
  paymentAttempts : db.paymentAttempts.Persists PaymentAttempt.GoesOnAs db'.paymentAttempts
  currentAccounts : Table.Records CurrentAccount.holder db.currentAccounts db'.currentAccounts
  cariMovements : Table.Records id db.cariMovements db'.cariMovements
  lastNumbers : ∀ t d y, db.lastNumber t d y ≤ db'.lastNumber t d y

section Order

variable {db db' db'' : Db}

theorem Invoice.GoesOnAs.refl (inv : Invoice) : inv.GoesOnAs inv := ⟨rfl, fun h => h, .inl rfl⟩

theorem Invoice.GoesOnAs.trans {i j k : Invoice} (h : i.GoesOnAs j) (h' : j.GoesOnAs k) :
    i.GoesOnAs k where
  face := h'.face.trans h.face
  cancelled := fun hi => h'.cancelled (h.cancelled hi)
  order := by
    rcases h'.order with hsame | hleft
    · rcases h.order with hbefore | ⟨hnone, hcancelled⟩
      · exact .inl (hsame.trans hbefore)
      · exact .inr ⟨hsame.trans hnone, h'.cancelled hcancelled⟩
    · exact .inr hleft

theorem PaymentAttempt.GoesOnAs.refl (a : PaymentAttempt) : a.GoesOnAs a := ⟨rfl, fun h => h⟩

theorem PaymentAttempt.GoesOnAs.trans {a b c : PaymentAttempt} (h : a.GoesOnAs b)
    (h' : b.GoesOnAs c) : a.GoesOnAs c :=
  ⟨h'.order.trans h.order, fun ha => h'.paid (h.paid ha)⟩

theorem Db.RetainedBy.refl (db : Db) : db.RetainedBy db where
  customers := .refl _ _
  vehicles := .refl _ _
  appointments := .refl _ _
  workOrders := .refl _ _
  products := .refl _ _
  stockMovements := .refl _ _
  invoices := .refl Invoice.GoesOnAs.refl _
  invoiceItems := .refl _ _
  payments := .refl _ _
  paymentAttempts := .refl PaymentAttempt.GoesOnAs.refl _
  currentAccounts := .refl _ _
  cariMovements := .refl _ _
  lastNumbers := fun _ _ _ => le_rfl

theorem Db.RetainedBy.trans (h : db.RetainedBy db') (h' : db'.RetainedBy db'') :
    db.RetainedBy db'' where
  customers := h.customers.trans h'.customers
  vehicles := h.vehicles.trans h'.vehicles
  appointments := h.appointments.trans h'.appointments
  workOrders := h.workOrders.trans h'.workOrders
  products := h.products.trans h'.products
  stockMovements := h.stockMovements.trans h'.stockMovements
  invoices := h.invoices.trans Invoice.GoesOnAs.trans h'.invoices
  invoiceItems := h.invoiceItems.trans h'.invoiceItems
  payments := h.payments.trans h'.payments
  paymentAttempts := h.paymentAttempts.trans PaymentAttempt.GoesOnAs.trans h'.paymentAttempts
  currentAccounts := h.currentAccounts.trans h'.currentAccounts
  cariMovements := h.cariMovements.trans h'.cariMovements
  lastNumbers := fun t d y => (h.lastNumbers t d y).trans (h'.lastNumbers t d y)

abbrev Db.ledger (db : Db) :=
  (db.invoices, db.invoiceItems, db.payments, db.paymentAttempts, db.currentAccounts,
    db.cariMovements)

structure Db.Spares (db db' : Db) : Prop where
  retained : db.RetainedBy db'
  ledger : db'.ledger = db.ledger

theorem Db.Spares.refl (db : Db) : db.Spares db := ⟨.refl db, rfl⟩

theorem Db.Spares.trans (h : db.Spares db') (h' : db'.Spares db'') : db.Spares db'' :=
  ⟨h.retained.trans h'.retained, h'.ledger.trans h.ledger⟩

abbrev Db.files (db : Db) :=
  (db.customers, db.vehicles, db.appointments, db.workOrders, db.products, db.stockMovements,
    db.documentSequences)

theorem Db.Spares.of_files (hf : db'.files = db.files) (hl : db'.ledger = db.ledger) :
    db.Spares db' := by
  refine ⟨?_, hl⟩
  simp only [files, Prod.mk.injEq] at hf hl
  obtain ⟨hc, hv, ha, hwo, hp, hsm, hseq⟩ := hf
  obtain ⟨hinv, hit, hpay, hatt, hacc, hcari⟩ := hl
  have hself := RetainedBy.refl db
  constructor
  · rw [hc]; exact hself.customers
  · rw [hv]; exact hself.vehicles
  · rw [ha]; exact hself.appointments
  · rw [hwo]; exact hself.workOrders
  · rw [hp]; exact hself.products
  · rw [hsm]; exact hself.stockMovements
  · rw [hinv]; exact hself.invoices
  · rw [hit]; exact hself.invoiceItems
  · rw [hpay]; exact hself.payments
  · rw [hatt]; exact hself.paymentAttempts
  · rw [hacc]; exact hself.currentAccounts
  · rw [hcari]; exact hself.cariMovements
  · simp only [lastNumber, hseq]
    exact fun _ _ _ => le_rfl

end Order

section Tables

/-! Writes to one table of the books. -/

variable {db : Db}

theorem Db.Spares.insertCustomer (db : Db) (c : Customer) :
    db.Spares { db with customers := db.customers.insert c } :=
  ⟨{ RetainedBy.refl db with customers := Table.records_insert _ _ _ }, rfl⟩

theorem Db.Spares.modifyCustomers {c : Uuid → Customer → Bool} {f : Customer → Customer}
    (h : ∀ r, (f r).tenantId = r.tenantId) :
    db.Spares { db with customers := db.customers.modifyIf c f } :=
  ⟨{ RetainedBy.refl db with customers := Table.records_modifyIf h }, rfl⟩

theorem Db.Spares.insertVehicle (db : Db) (v : Vehicle) :
    db.Spares { db with vehicles := db.vehicles.insert v } :=
  ⟨{ RetainedBy.refl db with vehicles := Table.records_insert _ _ _ }, rfl⟩

theorem Db.Spares.modifyVehicles {c : Uuid → Vehicle → Bool} {f : Vehicle → Vehicle}
    (h : ∀ r, (f r).tenantId = r.tenantId) :
    db.Spares { db with vehicles := db.vehicles.modifyIf c f } :=
  ⟨{ RetainedBy.refl db with vehicles := Table.records_modifyIf h }, rfl⟩

theorem Db.Spares.insertAppointment (db : Db) (a : Appointment) :
    db.Spares { db with appointments := db.appointments.insert a } :=
  ⟨{ RetainedBy.refl db with appointments := Table.records_insert _ _ _ }, rfl⟩

theorem Db.Spares.modifyAppointments {c : Uuid → Appointment → Bool}
    {f : Appointment → Appointment} (h : ∀ a, (f a).parties = a.parties) :
    db.Spares { db with appointments := db.appointments.modifyIf c f } :=
  ⟨{ RetainedBy.refl db with appointments := Table.records_modifyIf h }, rfl⟩

theorem Db.Spares.insertWorkOrder (db : Db) (wo : WorkOrder) :
    db.Spares { db with workOrders := db.workOrders.insert wo } :=
  ⟨{ RetainedBy.refl db with workOrders := Table.records_insert _ _ _ }, rfl⟩

theorem Db.Spares.modifyWorkOrders {c : Uuid → WorkOrder → Bool} {f : WorkOrder → WorkOrder}
    (h : ∀ wo, (f wo).file = wo.file) :
    db.Spares { db with workOrders := db.workOrders.modifyIf c f } :=
  ⟨{ RetainedBy.refl db with workOrders := Table.records_modifyIf h }, rfl⟩

theorem Db.Spares.modifyWorkOrder {f : WorkOrder → WorkOrder} (id : Uuid)
    (h : ∀ wo, (f wo).file = wo.file) :
    db.Spares { db with workOrders := db.workOrders.modify id f } := .modifyWorkOrders h

theorem Db.Spares.insertProduct (db : Db) (p : Product) :
    db.Spares { db with products := db.products.insert p } :=
  ⟨{ RetainedBy.refl db with products := Table.records_insert _ _ _ }, rfl⟩

theorem Db.Spares.modifyProducts {c : Uuid → Product → Bool} {f : Product → Product}
    (h : ∀ p, (f p).tenantId = p.tenantId) :
    db.Spares { db with products := db.products.modifyIf c f } :=
  ⟨{ RetainedBy.refl db with products := Table.records_modifyIf h }, rfl⟩

theorem Db.Spares.insertMovement (db : Db) (m : StockMovement) :
    db.Spares { db with stockMovements := db.stockMovements.insert m } :=
  ⟨{ RetainedBy.refl db with stockMovements := Table.records_insert _ _ _ }, rfl⟩

theorem Db.RetainedBy.insertInvoice (db : Db) (inv : Invoice) :
    db.RetainedBy { db with invoices := db.invoices.insert inv } :=
  { refl db with invoices := Table.persists_insert Invoice.GoesOnAs.refl _ _ }

theorem Db.RetainedBy.modifyInvoice {id : Uuid} {f : Invoice → Invoice}
    (h : ∀ inv, db.invoices.get? id = some inv → inv.GoesOnAs (f inv)) :
    db.RetainedBy { db with invoices := db.invoices.modify id f } :=
  { refl db with invoices := Table.persists_modify Invoice.GoesOnAs.refl h }

theorem Db.RetainedBy.insertInvoiceItem (db : Db) (it : InvoiceItem) :
    db.RetainedBy { db with invoiceItems := db.invoiceItems.insert it } :=
  { refl db with invoiceItems := Table.records_insert _ _ _ }

theorem Db.RetainedBy.insertPayment (db : Db) (p : Payment) :
    db.RetainedBy { db with payments := db.payments.insert p } :=
  { refl db with payments := Table.records_insert _ _ _ }

theorem Db.RetainedBy.modifyPayments {c : Uuid → Payment → Bool} {f : Payment → Payment}
    (h : ∀ p, (f p).receipt = p.receipt) :
    db.RetainedBy { db with payments := db.payments.modifyIf c f } :=
  { refl db with payments := Table.records_modifyIf h }

theorem Db.RetainedBy.insertAttempt (db : Db) (a : PaymentAttempt) :
    db.RetainedBy { db with paymentAttempts := db.paymentAttempts.insert a } :=
  { refl db with paymentAttempts := Table.persists_insert PaymentAttempt.GoesOnAs.refl _ _ }

theorem Db.RetainedBy.modifyAttempt {k : Uuid} {f : PaymentAttempt → PaymentAttempt}
    (h : ∀ a : PaymentAttempt, a.GoesOnAs (f a)) :
    db.RetainedBy { db with paymentAttempts := db.paymentAttempts.modify k f } :=
  { refl db with
    paymentAttempts := Table.persists_modify PaymentAttempt.GoesOnAs.refl fun a _ => h a }

theorem Db.RetainedBy.insertAccount (db : Db) (a : CurrentAccount) :
    db.RetainedBy { db with currentAccounts := db.currentAccounts.insert a } :=
  { refl db with currentAccounts := Table.records_insert _ _ _ }

theorem Db.RetainedBy.setAccount {id : Uuid} {f : CurrentAccount → CurrentAccount}
    (h : ∀ a, (f a).holder = a.holder) : db.RetainedBy (db.setAccount id f) :=
  { refl db with currentAccounts := Table.records_modifyIf h }

theorem Db.RetainedBy.addCariMovement (db : Db) (m : CariMovement) :
    db.RetainedBy (db.addCariMovement m) :=
  { refl db with cariMovements := Table.records_insert _ _ _ }

theorem nextDocumentNumber_spares {db' : Db} {t : Uuid} {d : DocType} {y n : ℕ}
    (h : nextDocumentNumber db t d y = .ok (db', n)) : db.Spares db' := by
  obtain ⟨hn, rfl⟩ := nextDocumentNumber_eq_ok h
  refine ⟨{ Db.RetainedBy.refl db with lastNumbers := fun t' d' y' => ?_ }, rfl⟩
  rw [Db.lastNumber_setLastNumber]
  split_ifs with hkey
  · obtain ⟨rfl, rfl, rfl⟩ := hkey
    omega
  · exact le_rfl

end Tables

end WorksAuto
