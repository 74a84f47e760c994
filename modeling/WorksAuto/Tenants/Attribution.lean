import WorksAuto.Billing.Step
import WorksAuto.Tenants.Retention

/-! Whose the rows of the ledger are.
Invoices, payments, checkout attempts, accounts and their movements name rows of their own tenant,
and a payment towards an invoice is its customer's. Unlike the mechanic of an appointment or the
cell of a product, nothing here is taken from a request without being looked up in the tenant. -/

namespace WorksAuto

open Lib

section Attributed

def Db.Serves (db : Db) (t customerId : Uuid) : Prop := db.owner? (.customer, customerId) = some t

def Db.Bills (db : Db) (t customerId invoiceId : Uuid) : Prop :=
  ∃ inv, db.invoices.get? invoiceId = some inv ∧ inv.tenantId = t ∧ inv.customerId = customerId

def Db.HoldsAccount (db : Db) (t accountId : Uuid) : Prop :=
  ∃ a, db.currentAccounts.get? accountId = some a ∧ a.tenantId = t

/-- What the rows of the ledger name is found in `refs`, in their own tenant. -/
structure Db.AttributedIn (db refs : Db) : Prop where
  invoices : db.invoices.All fun inv => refs.Serves inv.tenantId inv.customerId
  invoiceItems : db.invoiceItems.All fun it => ∃ inv, refs.invoices.get? it.invoiceId = some inv
  payments : db.payments.All fun p => refs.Serves p.tenantId p.customerId ∧
    ∀ i ∈ p.invoiceId, refs.Bills p.tenantId p.customerId i
  paymentAttempts : db.paymentAttempts.All fun a => ∃ c, refs.Bills a.tenantId c a.invoiceId
  currentAccounts : db.currentAccounts.All fun a => refs.Serves a.tenantId a.customerId
  cariMovements : db.cariMovements.All fun m => refs.HoldsAccount m.tenantId m.currentAccountId

def Db.Attributed (db : Db) : Prop := db.AttributedIn db

variable {db db' refs : Db} {t c i k : Uuid}

theorem Db.Serves.mono (hr : db.RetainedBy db') (h : db.Serves t c) : db'.Serves t c := by
  obtain ⟨customer, hget, rfl⟩ := Option.map_eq_some_iff.mp h
  obtain ⟨later, hlater, hsame⟩ := hr.customers c customer hget
  exact Option.map_eq_some_iff.mpr ⟨later, hlater, hsame⟩

theorem Db.Bills.mono (hr : db.RetainedBy db') (h : db.Bills t c i) : db'.Bills t c i := by
  obtain ⟨inv, hget, ht, hc⟩ := h
  obtain ⟨later, hlater, hgoes⟩ := hr.invoices i inv hget
  have htenant : later.tenantId = inv.tenantId := (congrArg Invoice.tenantId hgoes.face :)
  have hcustomer : later.customerId = inv.customerId := (congrArg Invoice.customerId hgoes.face :)
  exact ⟨later, hlater, htenant.trans ht, hcustomer.trans hc⟩

theorem Db.HoldsAccount.mono (hr : db.RetainedBy db') (h : db.HoldsAccount t k) :
    db'.HoldsAccount t k := by
  obtain ⟨a, hget, ht⟩ := h
  obtain ⟨later, hlater, hholder⟩ := hr.currentAccounts k a hget
  exact ⟨later, hlater, (congrArg Prod.fst hholder).trans ht⟩

theorem Db.AttributedIn.mono (hr : refs.RetainedBy db') (h : db.AttributedIn refs) :
    db.AttributedIn db' where
  invoices := h.invoices.mono fun _ hinv => hinv.mono hr
  invoiceItems := by
    refine h.invoiceItems.mono fun it ⟨inv, hinv⟩ => ?_
    obtain ⟨later, hlater, -⟩ := hr.invoices it.invoiceId inv hinv
    exact ⟨later, hlater⟩
  payments := h.payments.mono fun _ hp => ⟨hp.1.mono hr, fun i hi => (hp.2 i hi).mono hr⟩
  paymentAttempts := h.paymentAttempts.mono fun _ ⟨c, hc⟩ => ⟨c, hc.mono hr⟩
  currentAccounts := h.currentAccounts.mono fun _ ha => ha.mono hr
  cariMovements := h.cariMovements.mono fun _ hm => hm.mono hr

theorem Db.Attributed.spared (hs : db.Spares db') (h : db.Attributed) : db'.Attributed := by
  have hledger := hs.ledger
  simp only [ledger, Prod.mk.injEq] at hledger
  obtain ⟨hinv, hit, hpay, hatt, hacc, hcari⟩ := hledger
  have hlater := h.mono hs.retained
  constructor
  · rw [hinv]; exact hlater.invoices
  · rw [hit]; exact hlater.invoiceItems
  · rw [hpay]; exact hlater.payments
  · rw [hatt]; exact hlater.paymentAttempts
  · rw [hacc]; exact hlater.currentAccounts
  · rw [hcari]; exact hlater.cariMovements

theorem Db.serves_of_liveCustomer? {customer : Customer}
    (h : db.liveCustomer? t c = some customer) : db.Serves t c := by
  obtain ⟨hget, hlive⟩ := Option.filter_eq_some_iff.mp h
  obtain ⟨rfl, -⟩ := of_decide_eq_true hlive
  exact Option.map_eq_some_iff.mpr ⟨customer, hget, rfl⟩

end Attributed

section Tables

/-! One lemma for each write to a table of the ledger. -/

variable {db : Db}

theorem Db.Attributed.insertAccount {a : CurrentAccount} (h : db.Attributed)
    (ha : db.Serves a.tenantId a.customerId) :
    Db.Attributed { db with currentAccounts := db.currentAccounts.insert a } := by
  have hlater := h.mono (RetainedBy.insertAccount db a)
  exact { hlater with currentAccounts := hlater.currentAccounts.insert ha }

theorem Db.Attributed.setAccount {id : Uuid} {f : CurrentAccount → CurrentAccount}
    (h : db.Attributed) (hf : ∀ a, (f a).holder = a.holder) : (db.setAccount id f).Attributed := by
  have hset : db.RetainedBy (db.setAccount id f) := .setAccount hf
  have hlater := h.mono hset
  refine { hlater with currentAccounts := hlater.currentAccounts.modify fun a _ ha => ?_ }
  have htenant : (f a).tenantId = a.tenantId := congrArg Prod.fst (hf a)
  have hcustomer : (f a).customerId = a.customerId := congrArg Prod.snd (hf a)
  rw [htenant, hcustomer]
  exact ha

theorem Db.Attributed.addCariMovement {m : CariMovement} (h : db.Attributed)
    (hm : db.HoldsAccount m.tenantId m.currentAccountId) : (db.addCariMovement m).Attributed := by
  have hlater := h.mono (RetainedBy.addCariMovement db m)
  exact { hlater with cariMovements := hlater.cariMovements.insert hm }

theorem Db.Attributed.insertInvoice {inv : Invoice} (h : db.Attributed)
    (hinv : db.Serves inv.tenantId inv.customerId) :
    Db.Attributed { db with invoices := db.invoices.insert inv } := by
  have hlater := h.mono (RetainedBy.insertInvoice db inv)
  exact { hlater with invoices := hlater.invoices.insert hinv }

theorem Db.Attributed.modifyInvoice {id : Uuid} {f : Invoice → Invoice} (h : db.Attributed)
    (hf : ∀ inv, db.invoices.get? id = some inv → inv.GoesOnAs (f inv)) :
    Db.Attributed { db with invoices := db.invoices.modify id f } := by
  have hlater := h.mono (RetainedBy.modifyInvoice hf)
  refine { hlater with invoices := hlater.invoices.modify fun inv hget hinv => ?_ }
  have htenant : (f inv).tenantId = inv.tenantId := (congrArg Invoice.tenantId (hf inv hget).face :)
  have hcustomer : (f inv).customerId = inv.customerId :=
    (congrArg Invoice.customerId (hf inv hget).face :)
  rw [htenant, hcustomer]
  exact hinv

theorem Db.Attributed.insertInvoiceItem {it : InvoiceItem} (h : db.Attributed)
    (hit : ∃ inv, db.invoices.get? it.invoiceId = some inv) :
    Db.Attributed { db with invoiceItems := db.invoiceItems.insert it } := by
  have hlater := h.mono (RetainedBy.insertInvoiceItem db it)
  exact { hlater with invoiceItems := hlater.invoiceItems.insert hit }

theorem Db.Attributed.insertPayment {p : Payment} (h : db.Attributed)
    (hcustomer : db.Serves p.tenantId p.customerId)
    (hinvoice : ∀ i ∈ p.invoiceId, db.Bills p.tenantId p.customerId i) :
    Db.Attributed { db with payments := db.payments.insert p } := by
  have hlater := h.mono (RetainedBy.insertPayment db p)
  exact { hlater with payments := hlater.payments.insert ⟨hcustomer, hinvoice⟩ }

theorem Db.Attributed.modifyPayments {c : Uuid → Payment → Bool} {f : Payment → Payment}
    (h : db.Attributed) (hf : ∀ p, (f p).receipt = p.receipt) :
    Db.Attributed { db with payments := db.payments.modifyIf c f } := by
  have hlater := h.mono (RetainedBy.modifyPayments (c := c) hf)
  refine { hlater with payments := hlater.payments.modifyIf fun _ p _ _ hp => ?_ }
  have htenant : (f p).tenantId = p.tenantId := (congrArg Payment.tenantId (hf p) :)
  have hcustomer : (f p).customerId = p.customerId := (congrArg Payment.customerId (hf p) :)
  have hinvoice : (f p).invoiceId = p.invoiceId := (congrArg Payment.invoiceId (hf p) :)
  rw [htenant, hcustomer, hinvoice]
  exact hp

theorem Db.Attributed.insertAttempt {a : PaymentAttempt} {c : Uuid} (h : db.Attributed)
    (ha : db.Bills a.tenantId c a.invoiceId) :
    Db.Attributed { db with paymentAttempts := db.paymentAttempts.insert a } := by
  have hlater := h.mono (RetainedBy.insertAttempt db a)
  exact { hlater with paymentAttempts := hlater.paymentAttempts.insert ⟨c, ha⟩ }

theorem Db.Attributed.modifyAttempt {k : Uuid} {f : PaymentAttempt → PaymentAttempt}
    (h : db.Attributed) (hf : ∀ a : PaymentAttempt, a.GoesOnAs (f a)) :
    Db.Attributed { db with paymentAttempts := db.paymentAttempts.modify k f } := by
  have hlater := h.mono (RetainedBy.modifyAttempt (k := k) hf)
  refine { hlater with paymentAttempts := hlater.paymentAttempts.modify fun a _ ⟨c, hc⟩ => ?_ }
  have htenant : (f a).tenantId = a.tenantId := (congrArg PaymentAttempt.tenantId (hf a).order :)
  have hinvoice : (f a).invoiceId = a.invoiceId := (congrArg PaymentAttempt.invoiceId (hf a).order :)
  rw [htenant, hinvoice]
  exact ⟨c, hc⟩

end Tables

section Writes

variable {db db' : Db} {clock : Clock} {t id : Uuid}

theorem findOrCreateAccount_attributed {customerId : Uuid} {a : CurrentAccount}
    (hdb : db.Attributed) (hcustomer : db.Serves t customerId)
    (h : findOrCreateAccount db t customerId = .ok (db', id, a)) :
    db'.Attributed ∧ db'.HoldsAccount t id := by
  obtain ⟨opened, rfl, hfound⟩ := findOrCreateAccount_ok h
  obtain ⟨hget, -, ht⟩ := hfound.get
  refine ⟨?_, a, hget, ht⟩
  rcases hfound with ⟨rfl, -⟩ | ⟨-, rfl, -, rfl⟩
  · exact hdb
  · exact hdb.insertAccount hcustomer

theorem debitAccount_attributed {amount : ℚ} {balance : ℤ} (hdb : db.Attributed)
    (h : debitAccount db id amount = .ok (db', balance)) : db'.Attributed := by
  obtain ⟨f, hf, rfl⟩ := debitAccount_set h
  exact hdb.setAccount fun a => Prod.ext (hf a).1 (hf a).2

theorem creditAccount_attributed {amount : ℚ} {balance : ℤ} (hdb : db.Attributed)
    (h : creditAccount db id amount = .ok (db', balance)) : db'.Attributed := by
  obtain ⟨f, hf, rfl⟩ := creditAccount_set h
  exact hdb.setAccount fun a => Prod.ext (hf a).1 (hf a).2

theorem allocateNumber_spares {invoice : InvoiceEntity} {number : String} {gib : Option String}
    (h : allocateNumber clock db invoice = .ok (db', number, gib)) : db.Spares db' := by
  unfold allocateNumber at h
  split_ifs at h
  · obtain ⟨⟨mid, n⟩, hnext, h₁⟩ := Outcome.bind_eq_ok.mp h
    cases Outcome.pure_eq_ok.mp h₁
    exact nextDocumentNumber_spares hnext
  · cases Outcome.pure_eq_ok.mp h
    exact .refl db

theorem snapshotItems_attributed {items : List InvoiceLine} (hdb : db.Attributed)
    (hinvoice : ∃ inv, db.invoices.get? id = some inv)
    (h : items.foldlM (snapshotItem id) db = .ok db') : db'.Attributed := by
  induction items generalizing db with
  | nil =>
    obtain rfl := Outcome.pure_eq_ok.mp h
    exact hdb
  | cons item items ih =>
    rw [List.foldlM_cons] at h
    obtain ⟨mid, hmid, hrest⟩ := Outcome.bind_eq_ok.mp h
    obtain ⟨it, rfl, rfl⟩ := snapshotItem_ok hmid
    exact ih (hdb.insertInvoiceItem hinvoice) hinvoice hrest

theorem recordAdvanceOffset_attributed {invoice : InvoiceEntity} {x : ℚ} (hdb : db.Attributed)
    (hcustomer : db.Serves invoice.tenantId invoice.customerId)
    (hinvoice : db.Bills invoice.tenantId invoice.customerId id)
    (h : recordAdvanceOffset db invoice id x = .ok db') : db'.Attributed := by
  obtain ⟨payment, rfl, hpayment, -⟩ := recordAdvanceOffset_ok h
  cases payment with
  | none => exact hdb
  | some p =>
    have hp := hpayment p rfl
    refine hdb.insertPayment ?_ ?_
    · rw [hp.tenantId_eq, hp.customerId_eq]
      exact hcustomer
    · rw [hp.invoiceId_eq, hp.tenantId_eq, hp.customerId_eq]
      rintro i ⟨⟩
      exact hinvoice

theorem completeWorkOrder_spares (db : Db) (w : Option Uuid) :
    db.Spares (completeWorkOrder clock db w) := by
  cases w with
  | none => exact .refl db
  | some id => exact .modifyWorkOrder id fun _ => by rfl

theorem createWithCariMovement_attributed {invoice : InvoiceEntity} {offset : Option ℚ}
    {result : CreateInvoiceTransactionResult} (hdb : db.Attributed)
    (h : createWithCariMovement clock db invoice offset = .ok (db', result)) :
    db'.Attributed := by
  obtain ⟨s⟩ := createWithCariMovement_steps h
  have hc := Db.serves_of_liveCustomer? s.found
  obtain ⟨hopened, haccount⟩ := findOrCreateAccount_attributed hdb hc s.opens
  have hspared := allocateNumber_spares s.numbers
  have hbefore := (findOrCreateAccount_retains s.opens).trans hspared.retained
  have hstored := invoiceRow_ok s.row_eq
  have hinserted : s.inserted.Attributed ∧
      s.inserted.Bills invoice.tenantId invoice.customerId result.invoiceId := by
    obtain ⟨hid, hrow, -⟩ := insertInvoice_ok s.inserts
    rw [hid, hrow]
    refine ⟨(hopened.spared hspared).insertInvoice ?_, s.row, Table.get?_insert_self ..,
      hstored.tenantId, hstored.customerId⟩
    rw [hstored.tenantId, hstored.customerId]
    exact hc.mono hbefore
  obtain ⟨hrows, inv, hget, hbills⟩ := hinserted
  have hsnapshot := snapshotItems_attributed hrows ⟨inv, hget⟩ s.snapshots
  have hlines := snapshotItems_retains s.snapshots
  have hissued := (hbefore.trans (insertInvoice_retains s.inserts)).trans hlines
  have hoffsetted := recordAdvanceOffset_attributed hsnapshot (hc.mono hissued)
    (Db.Bills.mono hlines ⟨inv, hget, hbills⟩) s.offsets
  have hdebited := debitAccount_attributed hoffsetted s.debits
  have hposted := hspared.retained.trans ((insertInvoice_retains s.inserts).trans
    (hlines.trans ((recordAdvanceOffset_retains s.offsets).trans (debitAccount_retains s.debits))))
  rw [s.db_eq]
  exact (hdebited.addCariMovement (haccount.mono hposted)).spared (completeWorkOrder_spares ..)

theorem updateEInvoiceDetails_attributed {d : EInvoiceDetails} (hdb : db.Attributed)
    (h : updateEInvoiceDetails db t id d = .ok db') : db'.Attributed := by
  obtain ⟨inv, -, h₁⟩ := Outcome.bind_eq_ok.mp h
  cases Outcome.pure_eq_ok.mp h₁
  exact hdb.modifyInvoice fun inv _ => d.apply_goesOn inv

theorem reverseDebit_attributed {cancelled : Invoice} (hdb : db.Attributed)
    (h : reverseDebit db t id cancelled = .ok db') : db'.Attributed := by
  obtain ⟨-, rfl⟩ | ⟨accountId, account, debits, balance, hfound, -, -, rfl⟩ :=
    reverseDebit_cases h
  · exact hdb
  · obtain ⟨hget, -, ht⟩ := Db.currentAccountOf?_some hfound
    have hset : db.RetainedBy (db.setAccount accountId fun a =>
        { a with totalDebits := debits, balance }) := .setAccount fun _ => by rfl
    have haccount : db.HoldsAccount t accountId := ⟨account, hget, ht⟩
    refine Db.Attributed.modifyPayments (Db.Attributed.addCariMovement ?_ ?_) fun _ => by rfl
    · exact hdb.setAccount fun _ => by rfl
    · exact haccount.mono hset

theorem cancelWithCariReversal_attributed (hdb : db.Attributed)
    (h : cancelWithCariReversal db t id = .ok db') : db'.Attributed := by
  obtain ⟨existing, mid, -, -, hreverse, hlast⟩ := cancelWithCariReversal_steps h
  have hcancelled : Db.Attributed
      { db with invoices := db.invoices.modify id cancelInvoiceRow } :=
    hdb.modifyInvoice fun inv _ => cancelInvoiceRow_goesOn inv
  have hreversed := reverseDebit_attributed hcancelled hreverse
  obtain rfl := reopenWorkOrder_ok hlast
  cases existing.workOrderId with
  | none => exact hreversed
  | some w => exact hreversed.spared (.modifyWorkOrder w fun _ => by rfl)

theorem Db.Writes.attributed (hdb : db.Attributed) (h : db.Writes db') : db'.Attributed := by
  cases h with
  | spared h => exact hdb.spared h
  | issued h => exact createWithCariMovement_attributed hdb h
  | detailed h => exact updateEInvoiceDetails_attributed hdb h
  | voided h => exact cancelWithCariReversal_attributed hdb h

section Directory

theorem openAccount_attributed {customerId : Uuid} (hdb : db.Attributed)
    (hcustomer : db.Serves t customerId) (h : db.openAccount t customerId = .ok db') :
    db'.Attributed := by
  obtain rfl := openAccount_ok h
  exact hdb.insertAccount hcustomer

theorem createCustomer_attributed {customer : Customer} (hdb : db.Attributed)
    (h : db.createCustomer t customer = .ok db') : db'.Attributed := by
  refine openAccount_attributed (hdb.spared (.insertCustomer ..)) ?_ h
  exact Option.map_eq_some_iff.mpr ⟨_, Table.get?_insert_self .., rfl⟩

def DirectoryTask.Attributes (db : Db) : DirectoryTask → Prop
  | .insertAccount t customerId => db.Serves t customerId
  | _ => True

theorem DirectoryTask.exec_attributed {task : DirectoryTask} (hdb : db.Attributed)
    (h : task.Attributes db) : (task.exec db).1.Attributed := by
  generalize hexec : (task.exec db).1 = after
  have heffect := task.exec_effect db
  rw [hexec] at heffect
  cases heffect with
  | spared hspared => exact hdb.spared hspared
  | registered hcreate => exact createCustomer_attributed hdb hcreate
  | opened hopen => exact openAccount_attributed hdb h hopen

theorem DirectoryTask.exec_attributes (task : DirectoryTask) :
    (task.exec db).2.Attributes (task.exec db).1 := by
  have done : ∀ r : Outcome Db, (commits db r).2.Attributes (commits db r).1 := by
    intro r
    cases r <;> trivial
  cases task with
  | createAccount t customerId =>
    simp only [exec]
    split
    · trivial
    · next hcustomer => exact Db.serves_of_liveCustomer? hcustomer
  | createCustomer | insertAccount | updateStaff => exact done _
  | findAccount | customerExists =>
    simp only [exec]
    split <;> trivial
  | removeService t id =>
    simp only [exec]
    split_ifs <;> trivial
  | removeStaff t id =>
    simp only [exec]
    split
    · trivial
    · trivial
    · split_ifs <;> trivial
  | _ => trivial

end Directory

section Payments

def PaymentCall.Charges (call : PaymentCall) (db : Db) (customerId : Uuid) : Prop :=
  ∀ i ∈ call.dto.invoiceId, db.Bills call.tenantId customerId i

theorem PaymentCall.Charges.mono {call : PaymentCall} {customerId : Uuid}
    (hr : db.RetainedBy db') (h : call.Charges db customerId) : call.Charges db' customerId :=
  fun i hi => (h i hi).mono hr

theorem resolveCustomer_charges {call : PaymentCall} {customerId : Uuid}
    (h : resolveCustomer db call = .ok customerId) : call.Charges db customerId := by
  intro i hi
  obtain ⟨inv, hinv, hcustomer⟩ := resolveCustomer_invoice h i hi
  obtain ⟨hget, ht⟩ := Db.invoice?_eq_some.mp hinv
  exact ⟨inv, hget, ht, hcustomer⟩

theorem applyToInvoice_attributed {invoiceId : Option Uuid} {amount : ℚ} (hdb : db.Attributed)
    (hopen : ∀ id ∈ invoiceId, ∀ inv, db.invoice? t id = some inv → inv.status ≠ .cancelled)
    (h : applyToInvoice db t invoiceId amount = .ok db') : db'.Attributed := by
  obtain ⟨-, rfl⟩ | ⟨id, inv, paid, hid, hinv, hpaid, rfl⟩ := applyToInvoice_cases h
  · exact hdb
  · obtain ⟨hget, -⟩ := Db.invoice?_eq_some.mp hinv
    refine hdb.modifyInvoice fun old hold => ?_
    obtain rfl := Option.some.inj (hold.symm.trans hget)
    exact payInvoice_goesOn (hopen id hid old hinv) hpaid

theorem markAttemptPaid_attributed {attemptId : Option String} (hdb : db.Attributed)
    (h : markAttemptPaid db attemptId = .ok db') : db'.Attributed := by
  obtain ⟨attempts, rfl, ⟨-, rfl⟩ | ⟨i, k, attempt, -, -, rfl⟩⟩ := markAttemptPaid_ok h
  · exact hdb
  · exact hdb.modifyAttempt fun a => ⟨rfl, fun _ => rfl⟩

theorem collectPayment_attributed {call : PaymentCall} {customerId : Uuid} (hdb : db.Attributed)
    (hcustomer : db.Serves call.tenantId customerId) (hcharges : call.Charges db customerId)
    (h : collectPayment db call customerId = .ok (db', id)) : db'.Attributed := by
  obtain ⟨s⟩ := collectPayment_steps h
  have happlied : s.applied.Attributed := by
    obtain ⟨-, hinserted, -⟩ := insertPayment_ok s.inserts
    refine applyToInvoice_attributed ?_ ?_ s.applies
    · rw [hinserted]
      exact hdb.insertPayment (p := paymentRow call customerId s.amount) hcustomer hcharges
    · rw [hinserted]
      exact checkOpenBalance_open s.checked
  obtain ⟨hopened, haccount⟩ :=
    findOrCreateAccount_attributed happlied (hcustomer.mono s.applied_retains) s.opens
  have hcredited := creditAccount_attributed hopened s.credits
  refine markAttemptPaid_attributed (Db.Attributed.addCariMovement hcredited ?_) s.marks
  exact haccount.mono (creditAccount_retains s.credits)

theorem recordPayment_attributed {call : PaymentCall} {customerId : Uuid} (hdb : db.Attributed)
    (hcustomer : db.Serves call.tenantId customerId) (hcharges : call.Charges db customerId)
    (h : recordPayment db call customerId = .ok (db', id)) : db'.Attributed := by
  unfold recordPayment at h
  split at h
  · cases Outcome.pure_eq_ok.mp h
    exact hdb
  · exact collectPayment_attributed hdb hcustomer hcharges h

theorem insertAttempt_attributed {i customerId : Uuid} {attemptId : String} {amount : ℚ}
    (hdb : db.Attributed) (hinvoice : db.Bills t customerId i)
    (h : insertAttempt db attemptId t i amount = .ok db') : db'.Attributed := by
  obtain ⟨cents, -, h₁⟩ := Outcome.bind_eq_ok.mp h
  obtain ⟨u, -, h₂⟩ := Outcome.bind_eq_ok.mp h₁
  obtain ⟨v, -, h₃⟩ := Outcome.bind_eq_ok.mp h₂
  cases Outcome.pure_eq_ok.mp h₃
  exact hdb.insertAttempt hinvoice

end Payments

end Writes

section Runs

variable {db db' : Db} {cfg : PayTrConfig} {env : Env}

def PaymentPhase.Attributes (db : Db) : PaymentPhase → Prop
  | .readCustomer call customerId => call.Charges db customerId
  | .transact call customerId => db.Serves call.tenantId customerId ∧ call.Charges db customerId
  | _ => True

def BillingTask.Attributes (db : Db) : BillingTask → Prop
  | .payment phase | .callbackPayment _ phase => phase.Attributes db
  | .newAttempt i t _ => ∃ customerId, db.Bills t customerId i
  | _ => True

def TenantTask.Attributes (db : Db) : TenantTask → Prop
  | .billing task => task.Attributes db
  | .directory task => task.Attributes db
  | _ => True

theorem PaymentPhase.Attributes.mono {phase : PaymentPhase} (hr : db.RetainedBy db')
    (h : phase.Attributes db) : phase.Attributes db' := by
  cases phase with
  | readCustomer call customerId => exact PaymentCall.Charges.mono hr h
  | transact call customerId => exact ⟨h.1.mono hr, h.2.mono hr⟩
  | _ => trivial

theorem TenantTask.Attributes.mono {task : TenantTask} (hr : db.RetainedBy db')
    (h : task.Attributes db) : task.Attributes db' := by
  cases task with
  | billing task =>
    cases task with
    | payment phase | callbackPayment payload phase => exact PaymentPhase.Attributes.mono hr h
    | newAttempt i t amount =>
      obtain ⟨customerId, hbills⟩ := h
      exact ⟨customerId, hbills.mono hr⟩
    | _ => trivial
  | directory task =>
    cases task with
    | insertAccount t customerId => exact Db.Serves.mono hr h
    | _ => trivial
  | _ => trivial

theorem PaymentPhase.exec_attributed {phase : PaymentPhase} (hdb : db.Attributed)
    (h : phase.Attributes db) : (phase.exec db env).1.Attributed := by
  cases phase with
  | start call =>
    simp only [exec]
    split
    · exact hdb
    · split <;> exact hdb
  | readInvoice call | readCustomer call customerId | notify call paymentId =>
    simp only [exec]
    split <;> exact hdb
  | transact call customerId =>
    simp only [exec]
    split
    · exact hdb
    · next hrecord => exact recordPayment_attributed hdb h.1 h.2 hrecord
  | done call result => exact hdb

theorem PaymentPhase.exec_attributes {phase : PaymentPhase} (h : phase.Attributes db) :
    (phase.exec db env).2.Attributes (phase.exec db env).1 := by
  cases phase with
  | start call =>
    simp only [exec]
    split
    · trivial
    · split <;> trivial
  | readInvoice call =>
    simp only [exec]
    split
    · trivial
    · next hresolve => exact resolveCustomer_charges hresolve
  | readCustomer call customerId =>
    simp only [exec]
    split
    · trivial
    · next hcustomer =>
      exact ⟨Db.serves_of_liveCustomer? (Outcome.required_eq_ok.mp hcustomer), h⟩
  | transact call customerId | notify call paymentId =>
    simp only [exec]
    split <;> trivial
  | done call result => trivial

theorem BillingTask.exec_attributed {task : BillingTask} (hdb : db.Attributed)
    (h : task.Attributes db) : (task.exec cfg db env).1.Attributed := by
  have hcommit : ∀ {r : Outcome Db}, (∀ db', r = .ok db' → db'.Attributed) →
      (commit db r).Attributed := by
    intro r hr
    cases r with
    | error e => exact hdb
    | ok db' => exact hr db' rfl
  cases task with
  | issue invoice offset =>
    refine hcommit fun db' hr => ?_
    obtain ⟨⟨stored, result⟩, hissue, rfl⟩ := Outcome.map_eq_ok.mp hr
    exact createWithCariMovement_attributed hdb hissue
  | void tenantId id => exact hcommit fun _ => cancelWithCariReversal_attributed hdb
  | payment phase => exact PaymentPhase.exec_attributed hdb h
  | token invoiceId =>
    simp only [exec]
    split <;> exact hdb
  | newAttempt i t amount =>
    obtain ⟨customerId, hbills⟩ := h
    exact hcommit fun _ => insertAttempt_attributed hdb hbills
  | callback payload | callbackInvoice payload attempt =>
    simp only [exec]
    split <;> exact hdb
  | callbackPayment payload phase =>
    have hphase : (phase.exec db env).1.Attributed := PaymentPhase.exec_attributed hdb h
    cases phase <;> exact hphase
  | answered payload answer | finished => exact hdb

theorem BillingTask.exec_attributes {task : BillingTask} (h : task.Attributes db) :
    (task.exec cfg db env).2.Attributes (task.exec cfg db env).1 := by
  cases task with
  | payment phase => exact PaymentPhase.exec_attributes h
  | token invoiceId =>
    simp only [exec]
    split
    · trivial
    · next htoken =>
      obtain ⟨inv, hinv, h₁⟩ := Outcome.bind_eq_ok.mp htoken
      obtain ⟨u, -, h₂⟩ := Outcome.bind_eq_ok.mp h₁
      obtain ⟨v, -, h₃⟩ := Outcome.bind_eq_ok.mp h₂
      obtain ⟨w, -, h₄⟩ := Outcome.bind_eq_ok.mp h₃
      cases Outcome.pure_eq_ok.mp h₄
      exact ⟨inv.customerId, inv, Outcome.required_eq_ok.mp hinv, rfl, rfl⟩
  | callback payload | callbackInvoice payload attempt =>
    simp only [exec]
    split <;> trivial
  | callbackPayment payload phase =>
    have hphase : (phase.exec db env).2.Attributes (phase.exec db env).1 :=
      PaymentPhase.exec_attributes h
    cases phase with
    | done call result => trivial
    | _ => exact hphase
  | _ => trivial

namespace TenantTask

variable {s : Agenda} {env : TenantEnv}

theorem exec_attributed {task : TenantTask} (hdb : s.db.Attributed) (h : task.Attributes s.db) :
    (task.exec cfg s env).1.db.Attributed := by
  by_cases hreferential : (task.attempt cfg s env).1.db.Referential
  · rw [exec_of_referential hreferential]
    cases task with
    | agenda request task => exact (task.execVisible_writes env.workshop).attributed hdb
    | billing task => exact BillingTask.exec_attributed hdb h
    | warehouse tenantId request => exact hdb.spared (serve_spares _)
    | directory task => exact DirectoryTask.exec_attributed hdb h
    | finished answer => exact hdb
  · rw [exec_of_not_referential hreferential]
    exact hdb

theorem exec_attributes {task : TenantTask} (h : task.Attributes s.db) :
    (task.exec cfg s env).2.Attributes (task.exec cfg s env).1.db := by
  by_cases hreferential : (task.attempt cfg s env).1.db.Referential
  · rw [exec_of_referential hreferential]
    cases task with
    | billing task => exact BillingTask.exec_attributes h
    | directory task => exact task.exec_attributes
    | _ => trivial
  · rw [exec_of_not_referential hreferential]
    trivial

end TenantTask

theorem TenantRequest.enter_attributes (r : TenantRequest) : r.enter.Attributes db := by
  cases r with
  | billing request => cases request <;> trivial
  | directory request => cases request <;> trivial
  | _ => trivial

/-- Nothing in the ledger ever refers to another tenant, and no payment goes to an invoice of
another customer, whatever requests interleave. -/
theorem ledger_attributed (cfg : PayTrConfig) {db : Db} (hdb : db.Attributed)
    (actions : List TenantAction) :
    Always (TenantPool.act cfg) (fun p => p.shared.db.Attributed) (TenantPool.idle db)
      actions := by
  have hidle : Pool.Holds (fun s : Agenda => s.db.Attributed) (fun s t => t.Attributes s.db)
      (TenantPool.idle db) := Pool.holds_idle hdb
  refine (always_of_invariant (fun p action hp => ?_) hidle actions).mono fun p hp => hp.1
  cases action with
  | start r => exact hp.start r.enter_attributes
  | step k env =>
    refine hp.step fun task ht => ⟨?_, ?_, ?_⟩
    · exact TenantTask.exec_attributed hp.1 (hp.2 k task ht)
    · exact TenantTask.exec_attributes (hp.2 k task ht)
    · exact fun u hu => hu.mono (task.exec_retains p.shared env)

section Sample

theorem sampleDb_attributed : sampleDb.Attributed where
  invoices := Table.all_empty
  invoiceItems := Table.all_empty
  payments := Table.all_empty
  paymentAttempts := Table.all_empty
  currentAccounts := Table.all_empty
  cariMovements := Table.all_empty

def entered (k : ℕ) (r : BillingRequest) : List TenantAction :=
  .start (.billing r) :: List.replicate 8 (.step k tenantEnv)

/-- An advance, an invoice that uses a part of it, and its cancellation after a checkout of it
has begun. -/
def enteredActions : List TenantAction :=
  entered 0 (.createPayment 0 sampleDeposit "Kasa") ++
    entered 1 (.createWithCariMovement (sampleInvoice 100) (some 30)) ++
    [.start (.billing (.createPayTrPaymentToken 0))] ++
    entered 3 (.cancelWithCariReversal 0 0) ++ [.step 2 tenantEnv]

theorem ledger_attributed_sample :
    Always (TenantPool.act sampleConfig) (fun p => p.shared.db.Attributed) (.idle sampleDb)
        enteredActions ∧
      (run (TenantPool.act sampleConfig) (.idle sampleDb)
        enteredActions).shared.db.cariMovements.rows.length = 3 :=
  ⟨ledger_attributed sampleConfig sampleDb_attributed enteredActions, by decide +kernel⟩

end Sample

end Runs

end WorksAuto
