import WorksAuto.Billing.Gateway
import WorksAuto.Billing.System
import WorksAuto.Workshop.Step

/-! What the workshop does to the orders and the account of a customer.
A part opens something for the customer that it looks up or whose order it takes back, and
for nobody else; a payment opens nothing. -/

namespace WorksAuto

open Lib

section Settled

/-- The customer has no order in the queue or in progress and no positive balance. -/
structure Db.SettledFor (db : Db) (id : Uuid) : Prop where
  orders : ∀ k wo, db.workOrders.get? k = some wo → wo.customerId = id → wo.status.isClosed = true
  balances : ∀ k a, db.currentAccounts.get? k = some a → a.customerId = id → a.balance ≤ 0

def WorkshopTask.asksFor? : WorkshopTask → Option Uuid
  | storeOrder _ input _ => some input.customerId
  | issueInvoice _ dto => some dto.customerId
  | _ => none

def Db.reopenedOrder? (db : Db) (tenantId id : Uuid) : Option WorkOrder :=
  (db.invoice? tenantId id).bind fun inv => inv.workOrderId.bind db.workOrders.get?

/-- The customer of the order that a rollback or a cancelled invoice opens again. -/
def WorkshopTask.reopensFor? (db : Db) : WorkshopTask → Option Uuid
  | writeRollback _ id prev =>
    if prev.isClosed then none else (db.workOrders.get? id).map WorkOrder.customerId
  | voidInvoice tenantId id =>
    if (cancelWithCariReversal db tenantId id).isOk then
      (db.reopenedOrder? tenantId id).map WorkOrder.customerId
    else none
  | _ => none

/-- The customer for whom a part may open something: the one it finds, or the one whose order
it takes back. -/
def WorkshopTask.opensFor? (t : WorkshopTask) (live : Uuid → Bool) (db : Db) : Option Uuid :=
  (t.asksFor?.filter live).or (t.reopensFor? db)

end Settled

section Ledger

/-- A customer has one account at most, whose balance is what it was debited less what it was
credited, and no invoice is negative. -/
structure Db.LedgerSound (db : Db) : Prop where
  single : ∀ k a, db.currentAccounts.get? k = some a → ∀ l b, db.currentAccounts.get? l = some b →
    a.customerId = b.customerId → k = l
  balances : ∀ k a, db.currentAccounts.get? k = some a → a.balance = a.totalDebits - a.totalCredits
  credits : ∀ k a, db.currentAccounts.get? k = some a → 0 ≤ a.totalCredits
  invoices : ∀ k inv, db.invoices.get? k = some inv → 0 ≤ inv.grandTotal

/-- What a part does to the ledger: it stays sound, and a settled customer stays settled
unless it is `opened` for. -/
structure Db.LedgerKept (db : Db) (opened : Option Uuid) (db' : Db) : Prop where
  settled : ∀ c, c ∉ opened → db.SettledFor c → db'.SettledFor c
  sound : db'.LedgerSound

structure Db.SameLedger (db db' : Db) : Prop where
  workOrders : db'.workOrders = db.workOrders
  accounts : db'.currentAccounts = db.currentAccounts
  invoices : ∀ k inv', db'.invoices.get? k = some inv' →
    ∃ inv, db.invoices.get? k = some inv ∧ inv'.grandTotal = inv.grandTotal

variable {db db' : Db} {c : Uuid}

theorem Db.SameLedger.refl (db : Db) : db.SameLedger db := ⟨rfl, rfl, fun _ inv h => ⟨inv, h, rfl⟩⟩

theorem Db.SettledFor.congr (h : db.SettledFor c) (horders : db'.workOrders = db.workOrders)
    (haccounts : db'.currentAccounts = db.currentAccounts) : db'.SettledFor c :=
  ⟨fun k wo hk => h.orders k wo (horders ▸ hk), fun k a hk => h.balances k a (haccounts ▸ hk)⟩

theorem Db.SameLedger.kept (h : db.SameLedger db') (hs : db.LedgerSound) (opened : Option Uuid) :
    db.LedgerKept opened db' where
  settled c _ hc := hc.congr h.workOrders h.accounts
  sound := by
    refine ⟨?_, ?_, ?_, fun k inv' hk => ?_⟩
    · rw [h.accounts]
      exact hs.single
    · rw [h.accounts]
      exact hs.balances
    · rw [h.accounts]
      exact hs.credits
    · obtain ⟨inv, hinv, htotal⟩ := h.invoices k inv' hk
      exact htotal ▸ hs.invoices k inv hinv

section Accounts

variable {accounts opened : Table CurrentAccount} {t id k : Uuid} {a r : CurrentAccount}
  {f : CurrentAccount → CurrentAccount}

theorem AccountFound.posted (h : AccountFound accounts opened t c id a)
    (hk : (opened.modify id f).get? k = some r) :
    k ≠ id ∧ accounts.get? k = some r ∨ k = id ∧ r = f a := by
  obtain ⟨old, hold, hr⟩ := Table.of_get?_modify hk
  by_cases hid : k = id
  · obtain rfl : old = a := Option.some.inj ((hid ▸ hold).symm.trans h.get.1)
    rw [if_pos hid] at hr
    exact .inr ⟨hid, hr.symm⟩
  · rw [if_neg hid] at hr
    subst hr
    refine .inl ⟨hid, ?_⟩
    rcases h with ⟨rfl, -⟩ | ⟨-, -, rfl, rfl⟩
    · exact hold
    · rwa [Table.get?_insert, if_neg hid] at hold

theorem AccountFound.was (h : AccountFound accounts opened t c id a) :
    accounts.get? id = some a ∨ a.totalDebits = 0 ∧ a.totalCredits = 0 ∧ a.balance = 0 := by
  rcases h with ⟨-, hfound⟩ | ⟨-, rfl, -⟩
  · exact .inl (Table.find?_some hfound).1
  · exact .inr ⟨rfl, rfl, rfl⟩

theorem AccountFound.sound (h : AccountFound db.currentAccounts opened t c id a)
    (hs : db.LedgerSound) : a.balance = a.totalDebits - a.totalCredits ∧ 0 ≤ a.totalCredits := by
  rcases h.was with hget | ⟨hdebits, hcredits, hbalance⟩
  · exact ⟨hs.balances _ _ hget, hs.credits _ _ hget⟩
  · rw [hdebits, hcredits, hbalance]
    exact ⟨rfl, le_rfl⟩

theorem AccountFound.eq_of_owner (h : AccountFound db.currentAccounts opened t c id a)
    (hs : db.LedgerSound) (hk : db.currentAccounts.get? k = some r) (hr : r.customerId = c) :
    k = id := by
  rcases h with ⟨-, hfound⟩ | ⟨hnone, -⟩
  · obtain ⟨hget, howner, -⟩ := Db.currentAccountOf?_some (k := id) (a := a) hfound
    exact hs.single k r hk id a hget (hr.trans howner.symm)
  · have hmissing := Table.find?_none hnone hk
    simp [hr] at hmissing

theorem AccountFound.single (h : AccountFound db.currentAccounts opened t c id a)
    (hs : db.LedgerSound) (howner : (f a).customerId = c) {l : Uuid} {s : CurrentAccount}
    (hk : (opened.modify id f).get? k = some r) (hl : (opened.modify id f).get? l = some s)
    (hsame : r.customerId = s.customerId) : k = l := by
  rcases h.posted hk with ⟨-, hold⟩ | ⟨rfl, rfl⟩
  · rcases h.posted hl with ⟨-, hold'⟩ | ⟨rfl, rfl⟩
    · exact hs.single k r hold l s hold' hsame
    · exact h.eq_of_owner hs hold (hsame.trans howner)
  · rcases h.posted hl with ⟨-, hold'⟩ | ⟨rfl, -⟩
    · exact (h.eq_of_owner hs hold' (hsame.symm.trans howner)).symm
    · rfl

end Accounts

theorem Db.settled_modify {w k : Uuid} {f : WorkOrder → WorkOrder} {wo' : WorkOrder}
    (hc : db.SettledFor c) (horders : db'.workOrders = db.workOrders.modify w f)
    (howner : ∀ wo, (f wo).customerId = wo.customerId)
    (hright : ∀ wo, db.workOrders.get? w = some wo → (f wo).status.isClosed = true ∨
      wo.customerId ≠ c)
    (hk : db'.workOrders.get? k = some wo') (hwo' : wo'.customerId = c) :
    wo'.status.isClosed = true := by
  rw [horders] at hk
  obtain ⟨old, hold, rfl⟩ := Table.of_get?_modify hk
  by_cases hkw : k = w
  · rw [if_pos hkw] at hwo' ⊢
    rw [howner] at hwo'
    exact (hright old (hkw ▸ hold)).resolve_right fun hne => hne hwo'
  · rw [if_neg hkw] at hwo' ⊢
    exact hc.orders k old hold hwo'

theorem InvoiceIssued.ledgerKept {clock : Clock} {invoice : InvoiceEntity} {offset : Option ℚ}
    (h : InvoiceIssued clock db invoice offset db') (hs : db.LedgerSound) :
    db.LedgerKept (some invoice.customerId) db' := by
  obtain ⟨hbalance, hcredits⟩ := h.found.sound hs
  have howner : h.account.customerId = invoice.customerId := h.found.get.2.1
  constructor
  · intro c hne hc
    refine ⟨fun k wo hk hwo => ?_, fun k r hk hr => ?_⟩
    · have horders := h.workOrders
      cases hw : invoice.workOrderId with
      | none =>
        rw [hw, Option.elim_none] at horders
        exact hc.orders k wo (horders ▸ hk) hwo
      | some w =>
        rw [hw, Option.elim_some] at horders
        exact Db.settled_modify hc horders (fun _ => rfl) (fun _ _ => .inl rfl) hk hwo
    · rw [h.accounts] at hk
      rcases h.found.posted hk with ⟨-, hold⟩ | ⟨-, rfl⟩
      · exact hc.balances k r hold hr
      · exact absurd (congrArg some (howner.symm.trans hr)) hne
  · constructor
    · rw [h.accounts]
      exact fun k r hk l s hl hsame => h.found.single hs howner hk hl hsame
    · intro k r hk
      rw [h.accounts] at hk
      rcases h.found.posted hk with ⟨-, hold⟩ | ⟨-, rfl⟩
      · exact hs.balances k r hold
      · dsimp only
        omega
    · intro k r hk
      rw [h.accounts] at hk
      rcases h.found.posted hk with ⟨-, hold⟩ | ⟨-, rfl⟩
      · exact hs.credits k r hold
      · exact hcredits
    · intro k inv hk
      rw [h.invoices, Table.get?_insert] at hk
      split_ifs at hk
      · obtain rfl := Option.some.inj hk
        exact h.grandTotal_eq ▸ h.total_nonneg
      · exact hs.invoices k inv hk

theorem PaymentCollected.ledgerKept {call : PaymentCall} {customerId : Uuid} {amount : ℤ}
    (h : PaymentCollected db call customerId amount db') (hpos : 1 ≤ amount) (hs : db.LedgerSound) :
    db.LedgerKept none db' := by
  obtain ⟨hbalance, hcredits⟩ := h.found.sound hs
  constructor
  · intro c _ hc
    refine ⟨fun k wo hk => hc.orders k wo (h.workOrders ▸ hk), fun k r hk hr => ?_⟩
    rw [h.accounts] at hk
    rcases h.found.posted hk with ⟨-, hold⟩ | ⟨-, rfl⟩
    · exact hc.balances k r hold hr
    · have hbefore : h.account.balance ≤ 0 := by
        rcases h.found.was with hget | ⟨-, -, hzero⟩
        · exact hc.balances _ _ hget hr
        · exact hzero.le
      dsimp only
      omega
  · constructor
    · rw [h.accounts]
      exact fun k r hk l s hl hsame => h.found.single hs h.found.get.2.1 hk hl hsame
    · intro k r hk
      rw [h.accounts] at hk
      rcases h.found.posted hk with ⟨-, hold⟩ | ⟨-, rfl⟩
      · exact hs.balances k r hold
      · dsimp only
        omega
    · intro k r hk
      rw [h.accounts] at hk
      rcases h.found.posted hk with ⟨-, hold⟩ | ⟨-, rfl⟩
      · exact hs.credits k r hold
      · dsimp only
        omega
    · intro k inv hk
      rcases h.invoices with ⟨-, hsame⟩ | ⟨id, paid, -, hpaid, -, -, hmod⟩
      · exact hs.invoices k inv (hsame ▸ hk)
      · rw [hmod] at hk
        obtain ⟨old, hold, rfl⟩ := Table.of_get?_modify hk
        split_ifs
        · exact hs.invoices id paid (Db.invoice?_eq_some.mp hpaid).1
        · exact hs.invoices k old hold

section Voided

variable {t id : Uuid}

theorem InvoiceVoided.balances (h : InvoiceVoided db t id db') (hs : db.LedgerSound)
    (hc : db.SettledFor c) (k : Uuid) (r : CurrentAccount)
    (hk : db'.currentAccounts.get? k = some r) (hr : r.customerId = c) : r.balance ≤ 0 := by
  rcases h.posted with ⟨-, hsame, -⟩ | ⟨accountId, account, balance, hfound, rfl, hmod, -⟩
  · exact hc.balances k r (hsame ▸ hk) hr
  · rw [hmod] at hk
    obtain ⟨old, hold, rfl⟩ := Table.of_get?_modify hk
    by_cases hid : k = accountId
    · obtain rfl : old = account :=
        Option.some.inj ((hid ▸ hold).symm.trans (Db.currentAccountOf?_some hfound).1)
      rw [if_pos hid] at hr ⊢
      have hbalance := hs.balances k old hold
      have hcredits := hs.credits k old hold
      have htotal := hs.invoices id h.existing (Db.invoice?_eq_some.mp h.found).1
      have howes := hc.balances k old hold hr
      dsimp only
      omega
    · rw [if_neg hid] at hr ⊢
      exact hc.balances k old hold hr

theorem InvoiceVoided.settled (h : InvoiceVoided db t id db') (hs : db.LedgerSound)
    (hc : db.SettledFor c) (hne : c ∉ (db.reopenedOrder? t id).map WorkOrder.customerId) :
    db'.SettledFor c := by
  refine ⟨fun k wo hk hwo => ?_, h.balances hs hc⟩
  have hreopened : db.reopenedOrder? t id = h.existing.workOrderId.bind db.workOrders.get? := by
    rw [Db.reopenedOrder?, h.found]
    rfl
  have horders := h.workOrders
  cases hw : h.existing.workOrderId with
  | none =>
    rw [hw, Option.elim_none] at horders
    exact hc.orders k wo (horders ▸ hk) hwo
  | some w =>
    rw [hw, Option.elim_some] at horders
    refine Db.settled_modify hc horders (fun _ => rfl)
      (fun old hold => .inr fun howner => hne ?_) hk hwo
    rw [hreopened, hw, Option.bind_some, hold]
    exact congrArg some howner

theorem InvoiceVoided.sound (h : InvoiceVoided db t id db') (hs : db.LedgerSound) :
    db'.LedgerSound := by
  have hinvoices : ∀ k inv, db'.invoices.get? k = some inv → 0 ≤ inv.grandTotal := by
    intro k inv hk
    rw [h.invoices] at hk
    obtain ⟨old, hold, rfl⟩ := Table.of_get?_modify hk
    have htotal := hs.invoices k old hold
    split_ifs
    · exact htotal
    · exact htotal
  rcases h.posted with ⟨-, hsame, -⟩ | ⟨accountId, account, balance, hfound, rfl, hmod, -⟩
  · exact ⟨hsame ▸ hs.single, hsame ▸ hs.balances, hsame ▸ hs.credits, hinvoices⟩
  · have hget := (Db.currentAccountOf?_some hfound).1
    refine ⟨fun k r hk l s hl hsame => ?_, fun k r hk => ?_, fun k r hk => ?_, hinvoices⟩
    · rw [hmod] at hk hl
      obtain ⟨old, hold, rfl⟩ := Table.of_get?_modify hk
      obtain ⟨old', hold', rfl⟩ := Table.of_get?_modify hl
      refine hs.single k old hold l old' hold' ?_
      split_ifs at hsame <;> exact hsame
    · rw [hmod] at hk
      obtain ⟨old, hold, rfl⟩ := Table.of_get?_modify hk
      by_cases hid : k = accountId
      · obtain rfl : old = account := Option.some.inj ((hid ▸ hold).symm.trans hget)
        rw [if_pos hid]
      · rw [if_neg hid]
        exact hs.balances k old hold
    · rw [hmod] at hk
      obtain ⟨old, hold, rfl⟩ := Table.of_get?_modify hk
      have hcredits := hs.credits k old hold
      split_ifs
      · exact hcredits
      · exact hcredits

end Voided

section Opened

variable {t w : Uuid} {data : CreateWorkOrderData}

theorem storeNewItems_accounts {items : List NewWorkOrderItem}
    (h : items.foldlM (storeNewItem t w) db = .ok db') :
    db'.workOrders = db.workOrders ∧ db'.currentAccounts = db.currentAccounts ∧
      db'.invoices = db.invoices := by
  induction items generalizing db with
  | nil =>
    obtain rfl := Outcome.pure_eq_ok.mp h
    exact ⟨rfl, rfl, rfl⟩
  | cons item items ih =>
    rw [List.foldlM_cons] at h
    obtain ⟨mid, hmid, hrest⟩ := Outcome.bind_eq_ok.mp h
    obtain ⟨row, -, -, rfl⟩ := storeNewItem_ok hmid
    obtain ⟨horders, haccounts, hinvoices⟩ := ih hrest
    have hframe := db.postAll_frame (item.consumption t w)
    refine ⟨horders.trans ?_, haccounts.trans ?_, hinvoices.trans ?_⟩ <;> rw [hframe]

theorem createWorkOrder_ledger {clock : Clock} (h : createWorkOrder clock db data = .ok (db', w)) :
    (db.liveCustomer? data.tenantId data.customerId).isSome ∧
      ∃ order : WorkOrder, order.customerId = data.customerId ∧
        db'.workOrders = db.workOrders.insert order ∧ db'.currentAccounts = db.currentAccounts ∧
          db'.invoices = db.invoices := by
  obtain ⟨customer, vehicle, inserted, hcustomer, -, -, -, hinsert, hitems⟩ :=
    createWorkOrder_steps h
  obtain ⟨order, hopened, -, rfl, rfl⟩ := insertWorkOrder_ok hinsert
  obtain ⟨horders, haccounts, hinvoices⟩ := storeNewItems_accounts hitems
  exact ⟨Option.isSome_of_mem hcustomer, order, hopened.customerId, horders, haccounts, hinvoices⟩

theorem Db.LedgerKept.insert {order : WorkOrder} (hs : db.LedgerSound)
    (horders : db'.workOrders = db.workOrders.insert order)
    (haccounts : db'.currentAccounts = db.currentAccounts) (hinvoices : db'.invoices = db.invoices) :
    db.LedgerKept (some order.customerId) db' := by
  refine ⟨fun c hne hc => ⟨fun k wo hk hwo => ?_, fun k a hk => hc.balances k a (haccounts ▸ hk)⟩,
    haccounts ▸ hs.single, haccounts ▸ hs.balances, haccounts ▸ hs.credits,
    hinvoices ▸ hs.invoices⟩
  rw [horders, Table.get?_insert] at hk
  split_ifs at hk
  · obtain rfl := Option.some.inj hk
    exact absurd (congrArg some hwo) hne
  · exact hc.orders k wo hk hwo

end Opened

end Ledger

section Workshop

def WorkshopTask.IsDesk (t : WorkshopTask) : Prop :=
  t.useCase ∈ [UseCase.create, .rollback, .issue, .void, .finished]

theorem WorkshopTask.IsDesk.exec {t : WorkshopTask} (h : t.IsDesk) (db : Db) (env : WorkshopEnv) :
    (t.exec db env).2.IsDesk := by
  unfold IsDesk at h ⊢
  rcases useCase_exec db t env with hnext | hnext | ⟨hstatus, hnext⟩
  · exact hnext ▸ h
  · rw [hnext]
    decide
  · rw [hstatus] at h
    exact absurd h (by decide)

theorem createWithCariMovement_found {clock : Clock} {db : Db} {invoice : InvoiceEntity}
    {offset : Option ℚ} {r : Db × CreateInvoiceTransactionResult}
    (h : createWithCariMovement clock db invoice offset = .ok r) :
    (db.liveCustomer? invoice.tenantId invoice.customerId).isSome := by
  obtain ⟨customer, hcustomer, -⟩ := Outcome.bind_eq_ok.mp h
  exact Option.isSome_of_mem (Outcome.required_eq_ok.mp hcustomer)

namespace WorkshopTask

variable {db : Db} {live : Uuid → Bool}

theorem opensFor?_found {t : WorkshopTask} {c : Uuid} (hasks : t.asksFor? = some c)
    (hc : live c = true) : t.opensFor? live db = some c := by
  rw [opensFor?, hasks, Option.filter_some, if_pos hc, Option.some_or]

theorem opensFor?_reopens {t : WorkshopTask} (hasks : t.asksFor? = none) :
    t.opensFor? live db = t.reopensFor? db := by
  rw [opensFor?, hasks, Option.filter_none, Option.none_or]

theorem storeOrder_kept (hs : db.LedgerSound)
    (hlive : ∀ t c, (db.liveCustomer? t c).isSome → live c = true) (tenantId : Uuid)
    (input : CreateWorkOrderInput) (woNumber : String) (env : WorkshopEnv) :
    db.LedgerKept ((storeOrder tenantId input woNumber).opensFor? live db)
      ((storeOrder tenantId input woNumber).exec db env).1 := by
  cases hcreate : createWorkOrder env.clock db (workOrderData tenantId input woNumber) with
  | error e =>
    have hexec : ((storeOrder tenantId input woNumber).exec db env).1 = db := by
      rw [exec, hcreate]
      rfl
    rw [hexec]
    exact (Db.SameLedger.refl db).kept hs _
  | ok created =>
    have hexec : ((storeOrder tenantId input woNumber).exec db env).1 = created.1 := by
      rw [exec, hcreate]
      rfl
    obtain ⟨hfound, order, howner, horders, haccounts, hinvoices⟩ := createWorkOrder_ledger hcreate
    have hopens : (storeOrder tenantId input woNumber).opensFor? live db = some order.customerId :=
      opensFor?_found (congrArg some howner.symm) (howner ▸ hlive _ _ hfound)
    rw [hexec, hopens]
    exact .insert hs horders haccounts hinvoices

theorem writeRollback_kept (hs : db.LedgerSound) (tenantId id : Uuid) (prev : WorkOrderStatus)
    (env : WorkshopEnv) :
    db.LedgerKept ((writeRollback tenantId id prev).opensFor? live db)
      ((writeRollback tenantId id prev).exec db env).1 := by
  cases hget : db.workOrders.get? id with
  | none =>
    have hexec : ((writeRollback tenantId id prev).exec db env).1 = db := by
      rw [exec, WorksAuto.writeStatus, hget]
      rfl
    rw [hexec]
    exact (Db.SameLedger.refl db).kept hs _
  | some wo =>
    let db' : Db :=
      { db with workOrders := db.workOrders.modify id (WorkOrder.setStatus prev none) }
    have hexec : ((writeRollback tenantId id prev).exec db env).1 = db' := by
      rw [exec, writeStatus_found hget]
      rfl
    have horders : db'.workOrders = db.workOrders.modify id (WorkOrder.setStatus prev none) := rfl
    rw [hexec]
    refine ⟨fun c hne hc => ⟨fun k wo' hk hwo' => ?_, hc.balances⟩,
      ⟨hs.single, hs.balances, hs.credits, hs.invoices⟩⟩
    refine Db.settled_modify hc horders (fun _ => rfl) (fun old hold => ?_) hk hwo'
    cases hprev : prev.isClosed with
    | true => exact .inl hprev
    | false =>
      refine .inr fun howner => hne ?_
      rw [opensFor?_reopens rfl, reopensFor?, hprev, hold]
      exact congrArg some howner

theorem issueInvoice_kept (hs : db.LedgerSound)
    (hlive : ∀ t c, (db.liveCustomer? t c).isSome → live c = true) (tenantId : Uuid)
    (dto : CreateInvoiceInput) (env : WorkshopEnv) :
    db.LedgerKept ((issueInvoice tenantId dto).opensFor? live db)
      ((issueInvoice tenantId dto).exec db env).1 := by
  cases hissue : createWithCariMovement env.clock db (dto.entity env.clock tenantId)
      dto.offsetAdvanceAmount with
  | error e =>
    have hexec : ((issueInvoice tenantId dto).exec db env).1 = db := by rw [exec, hissue]
    rw [hexec]
    exact (Db.SameLedger.refl db).kept hs _
  | ok created =>
    have hexec : ((issueInvoice tenantId dto).exec db env).1 = created.1 := by rw [exec, hissue]
    obtain ⟨hissued⟩ := createWithCariMovement_ok hissue
    have hopens : (issueInvoice tenantId dto).opensFor? live db = some dto.customerId :=
      opensFor?_found rfl (hlive _ _ (createWithCariMovement_found hissue))
    rw [hexec, hopens]
    exact hissued.ledgerKept hs

theorem voidInvoice_kept (hs : db.LedgerSound) (tenantId id : Uuid) (env : WorkshopEnv) :
    db.LedgerKept ((voidInvoice tenantId id).opensFor? live db)
      ((voidInvoice tenantId id).exec db env).1 := by
  cases hvoid : cancelWithCariReversal db tenantId id with
  | error e =>
    have hexec : ((voidInvoice tenantId id).exec db env).1 = db := by
      rw [exec, hvoid]
      rfl
    rw [hexec]
    exact (Db.SameLedger.refl db).kept hs _
  | ok db' =>
    have hexec : ((voidInvoice tenantId id).exec db env).1 = db' := by
      rw [exec, hvoid]
      rfl
    obtain ⟨hvoided⟩ := cancelWithCariReversal_ok hvoid
    have hopens : (voidInvoice tenantId id).opensFor? live db =
        (db.reopenedOrder? tenantId id).map WorkOrder.customerId := by
      rw [opensFor?_reopens rfl, reopensFor?, if_pos (Outcome.isOk_iff.mpr ⟨db', hvoid⟩)]
    rw [hexec, hopens]
    exact ⟨fun c hne hc => hvoided.settled hs hc hne, hvoided.sound hs⟩

theorem part_kept {t : WorkshopTask} (ht : t.IsDesk) (env : WorkshopEnv) (hs : db.LedgerSound)
    (hlive : ∀ t c, (db.liveCustomer? t c).isSome → live c = true) :
    db.LedgerKept (t.opensFor? live db) (t.exec db env).1 := by
  cases t with
  | createOrder | rollback | confirmRollback | cancelInvoice =>
    rw [exec, reads_fst]
    exact (Db.SameLedger.refl db).kept hs _
  | numberOrder tenantId input =>
    rw [exec]
    split
    · exact (Db.SameLedger.refl db).kept hs _
    · next hnumber =>
      obtain ⟨⟨db₁, n⟩, hnext, h₁⟩ := Outcome.bind_eq_ok.mp hnumber
      cases Outcome.pure_eq_ok.mp h₁
      obtain ⟨seqs, rfl⟩ := nextDocumentNumber_ok hnext
      have hsame : db.SameLedger { db with documentSequences := seqs } :=
        ⟨rfl, rfl, fun _ inv h => ⟨inv, h, rfl⟩⟩
      exact hsame.kept hs _
  | storeOrder tenantId input woNumber => exact storeOrder_kept hs hlive ..
  | writeRollback tenantId id prev => exact writeRollback_kept hs ..
  | issueInvoice tenantId dto => exact issueInvoice_kept hs hlive ..
  | eInvoice tenantId id details =>
    rw [exec]
    rcases commits_cases db (updateEInvoiceDetails db tenantId id details) (.finished (.ok ())) with
      ⟨db', hupdate, hcommit⟩ | ⟨e, -, hcommit⟩
    · obtain ⟨inv, -, h₁⟩ := Outcome.bind_eq_ok.mp hupdate
      obtain rfl := Outcome.pure_eq_ok.mp h₁
      have hsame : db.SameLedger { db with invoices := db.invoices.modify id details.apply } := by
        refine ⟨rfl, rfl, fun k inv' hk => ?_⟩
        obtain ⟨old, hold, rfl⟩ := Table.of_get?_modify hk
        refine ⟨old, hold, ?_⟩
        split_ifs <;> rfl
      rw [hcommit]
      exact hsame.kept hs _
    · rw [hcommit]
      exact (Db.SameLedger.refl db).kept hs _
  | voidInvoice tenantId id => exact voidInvoice_kept hs ..
  | finished answer => exact (Db.SameLedger.refl db).kept hs _
  | _ => simp [IsDesk, useCase] at ht

end WorkshopTask

def PaymentPhase.IsPositive (phase : PaymentPhase) : Prop :=
  ∃ c : ℤ, 1 ≤ c ∧ phase.call.dto.amount = toNumber c

theorem PaymentPhase.call_exec (phase : PaymentPhase) (db : Db) (env : Env) :
    (phase.exec db env).2.call = phase.call := by
  cases phase with
  | start call =>
    simp only [exec]
    split
    · rfl
    · split <;> rfl
  | readInvoice | readCustomer | transact | notify =>
    simp only [exec]
    split <;> rfl
  | done => rfl

theorem PaymentPhase.exec_kept {phase : PaymentPhase} (hphase : phase.IsPositive) {db : Db}
    (env : Env) (hs : db.LedgerSound) : db.LedgerKept none (phase.exec db env).1 := by
  obtain ⟨c, hpos, hamount⟩ := hphase
  cases phase with
  | transact call customerId =>
    simp only [exec]
    split
    · exact (Db.SameLedger.refl db).kept hs _
    · next db' paymentId hrecord =>
      unfold recordPayment at hrecord
      split at hrecord
      · cases Outcome.pure_eq_ok.mp hrecord
        exact (Db.SameLedger.refl db).kept hs _
      · next hfresh =>
        obtain ⟨hcollected⟩ := collectPayment_ok hamount hfresh hrecord
        exact hcollected.ledgerKept hpos hs
  | start call =>
    simp only [exec]
    split
    · exact (Db.SameLedger.refl db).kept hs _
    · split <;> exact (Db.SameLedger.refl db).kept hs _
  | readInvoice | readCustomer | notify =>
    simp only [exec]
    split <;> exact (Db.SameLedger.refl db).kept hs _
  | done => exact (Db.SameLedger.refl db).kept hs _

end Workshop

end WorksAuto
