import WorksAuto.Billing.System

/-! One step of the billing system.
`exec_effect` says once what a step of any request can do to the database;
every invariant of the system is proved against its five cases. -/

namespace WorksAuto

open Lib

structure AttemptOpened (db : Db) (row : PaymentAttempt) (db' : Db) : Prop where
  fresh : ∀ k a, db.paymentAttempts.get? k = some a → a.id ≠ row.id
  positive : 1 ≤ row.amount
  pending : row.status = .pending
  invoice : ∃ inv, db.invoices.get? row.invoiceId = some inv ∧ inv.tenantId = row.tenantId
  result : db' = { db with paymentAttempts := db.paymentAttempts.insert row }

inductive BillingEffect (db : Db) (t : BillingTask) (env : Env) : Db → Prop where
  | idle : BillingEffect db t env db
  | issued {invoice : InvoiceEntity} {offset : Option ℚ} {db' : Db}
      (task : t = .issue invoice offset) (h : InvoiceIssued env.clock db invoice offset db') :
      BillingEffect db t env db'
  | voided {tenantId id : Uuid} {db' : Db} (h : InvoiceVoided db tenantId id db') :
      BillingEffect db t env db'
  | collected {call : PaymentCall} {customerId : Uuid} {amount : ℤ} {db' : Db}
      (ok : CallOk db call) (owner : CallOwner db call customerId) (positive : 1 ≤ amount)
      (amount_eq : call.dto.amount = toNumber amount)
      (h : PaymentCollected db call customerId amount db') : BillingEffect db t env db'
  | attempted {row : PaymentAttempt} {db' : Db} (h : AttemptOpened db row db') :
      BillingEffect db t env db'

/-- Attempts have distinct ids, a positive amount, and an invoice of their tenant. -/
structure AttemptsOk (db : Db) : Prop where
  unique : ∀ i j a b, db.paymentAttempts.get? i = some a → db.paymentAttempts.get? j = some b →
    a.id = b.id → i = j
  positive : ∀ k a, db.paymentAttempts.get? k = some a → 1 ≤ a.amount
  invoice : ∀ k a, db.paymentAttempts.get? k = some a →
    ∃ inv, db.invoices.get? a.invoiceId = some inv ∧ inv.tenantId = a.tenantId

@[simp] theorem commit_error (db : Db) (e : ApiError) : commit db (.error e) = db := rfl

@[simp] theorem commit_ok (db db' : Db) : commit db (.ok db') = db' := rfl

section Extends

theorem InvoiceIssued.extends {clock : Clock} {db db' : Db} {invoice : InvoiceEntity}
    {offset : Option ℚ} (h : InvoiceIssued clock db invoice offset db') : db.Extends db' where
  invoice := by
    intro k inv hk
    rw [h.invoices]
    exact ⟨inv, Table.get?_insert_of_some hk _, rfl, rfl⟩
  attempt := by
    intro k a hk
    rw [h.attempts]
    exact ⟨a, hk, rfl, rfl, rfl, rfl⟩

theorem InvoiceVoided.extends {db db' : Db} {tenantId id : Uuid}
    (h : InvoiceVoided db tenantId id db') : db.Extends db' where
  invoice := by
    intro k inv hk
    rw [h.invoices, Table.get?_modify, hk]
    by_cases hkid : k = id
    · exact ⟨cancelInvoiceRow inv, by simp [hkid], rfl, rfl⟩
    · exact ⟨inv, by simp [hkid], rfl, rfl⟩
  attempt := by
    intro k a hk
    rw [h.attempts]
    exact ⟨a, hk, rfl, rfl, rfl, rfl⟩

theorem PaymentCollected.extends {db db' : Db} {call : PaymentCall} {customerId : Uuid}
    {amount : ℤ} (h : PaymentCollected db call customerId amount db') : db.Extends db' where
  invoice := by
    intro k inv hk
    rcases h.invoices with ⟨-, hsame⟩ | ⟨id, paid, -, hpaid, -, -, hinv⟩
    · rw [hsame]
      exact ⟨inv, hk, rfl, rfl⟩
    · rw [hinv, Table.get?_modify, hk]
      obtain ⟨hget, -⟩ := Db.invoice?_eq_some.mp hpaid
      by_cases hkid : k = id
      · subst hkid
        cases hk.symm.trans hget
        exact ⟨inv.afterPayment amount, by simp, rfl, rfl⟩
      · exact ⟨inv, by simp [hkid], rfl, rfl⟩
  attempt := by
    intro k a hk
    rcases h.attempts with ⟨-, hsame⟩ | ⟨-, i, -, -, -, hmod⟩
    · rw [hsame]
      exact ⟨a, hk, rfl, rfl, rfl, rfl⟩
    · rw [hmod, Table.get?_modify, hk]
      by_cases hki : k = i
      · exact ⟨{ a with status := .paid }, by simp [hki], rfl, rfl, rfl, rfl⟩
      · exact ⟨a, by simp [hki], rfl, rfl, rfl, rfl⟩

theorem AttemptOpened.extends {db db' : Db} {row : PaymentAttempt}
    (h : AttemptOpened db row db') : db.Extends db' where
  invoice := by
    intro k inv hk
    rw [h.result]
    exact ⟨inv, hk, rfl, rfl⟩
  attempt := by
    intro k a hk
    rw [h.result]
    exact ⟨a, Table.get?_insert_of_some hk _, rfl, rfl, rfl, rfl⟩

theorem BillingEffect.extends {db db' : Db} {t : BillingTask} {env : Env}
    (h : BillingEffect db t env db') : db.Extends db' := by
  cases h with
  | idle => exact Db.Extends.refl db
  | issued task h => exact h.extends
  | voided h => exact h.extends
  | collected ok owner positive amount_eq h => exact h.extends
  | attempted h => exact h.extends

theorem BillingEffect.attempt_origin {db db' : Db} {t : BillingTask} {env : Env}
    (h : BillingEffect db t env db') {k : ℕ} {a' : PaymentAttempt}
    (hk : db'.paymentAttempts.get? k = some a') :
    (∃ a, db.paymentAttempts.get? k = some a ∧ a'.id = a.id ∧ a'.tenantId = a.tenantId ∧
      a'.invoiceId = a.invoiceId ∧ a'.amount = a.amount) ∨
      (k = db.paymentAttempts.next ∧ AttemptOpened db a' db') := by
  cases h with
  | idle => exact .inl ⟨a', hk, rfl, rfl, rfl, rfl⟩
  | issued task h =>
    rw [h.attempts] at hk
    exact .inl ⟨a', hk, rfl, rfl, rfl, rfl⟩
  | voided h =>
    rw [h.attempts] at hk
    exact .inl ⟨a', hk, rfl, rfl, rfl, rfl⟩
  | collected ok owner positive amount_eq h =>
    rcases h.attempts with ⟨-, hsame⟩ | ⟨-, i, -, -, -, hmod⟩
    · rw [hsame] at hk
      exact .inl ⟨a', hk, rfl, rfl, rfl, rfl⟩
    · rw [hmod, Table.get?_modify] at hk
      obtain ⟨a, ha, rfl⟩ := Option.map_eq_some_iff.mp hk
      refine .inl ⟨a, ha, ?_⟩
      split_ifs <;> exact ⟨rfl, rfl, rfl, rfl⟩
  | attempted h =>
    have hk' := hk
    rw [h.result, Table.get?_insert] at hk'
    split_ifs at hk' with hnext
    · cases hk'
      exact .inr ⟨hnext, h⟩
    · exact .inl ⟨a', hk', rfl, rfl, rfl, rfl⟩

theorem AttemptsOk.effect {db db' : Db} {t : BillingTask} {env : Env} (hA : AttemptsOk db)
    (h : BillingEffect db t env db') : AttemptsOk db' where
  unique := by
    intro i j a b hi hj hab
    rcases h.attempt_origin hi with ⟨a₀, hi₀, hida, -⟩ | ⟨rfl, hnew⟩
    · rcases h.attempt_origin hj with ⟨b₀, hj₀, hidb, -⟩ | ⟨rfl, hnew⟩
      · exact hA.unique i j a₀ b₀ hi₀ hj₀ (by rw [← hida, ← hidb, hab])
      · exact absurd (hida.symm.trans hab) (hnew.fresh i a₀ hi₀)
    · rcases h.attempt_origin hj with ⟨b₀, hj₀, hidb, -⟩ | ⟨rfl, -⟩
      · exact absurd (hidb.symm.trans hab.symm) (hnew.fresh j b₀ hj₀)
      · rfl
  positive := by
    intro k a hk
    rcases h.attempt_origin hk with ⟨a₀, hk₀, -, -, -, ham⟩ | ⟨-, hnew⟩
    · rw [ham]
      exact hA.positive k a₀ hk₀
    · exact hnew.positive
  invoice := by
    intro k a hk
    have hinv : ∃ inv, db.invoices.get? a.invoiceId = some inv ∧ inv.tenantId = a.tenantId := by
      rcases h.attempt_origin hk with ⟨a₀, hk₀, -, ht, hi, -⟩ | ⟨-, hnew⟩
      · rw [ht, hi]
        exact hA.invoice k a₀ hk₀
      · exact hnew.invoice
    obtain ⟨inv, hget, ht⟩ := hinv
    obtain ⟨inv', hget', -, ht'⟩ := h.extends.invoice _ inv hget
    exact ⟨inv', hget', ht'.trans ht⟩

end Extends

section Exec

theorem insertAttempt_ok {db db' : Db} {id : String} {t i : Uuid} {c : ℤ}
    (hinv : ∃ inv, db.invoices.get? i = some inv ∧ inv.tenantId = t)
    (h : insertAttempt db id t i (toNumber c) = .ok db') : ∃ row, AttemptOpened db row db' := by
  obtain ⟨amount, hamount, h₁⟩ := Outcome.bind_eq_ok.mp h
  obtain ⟨u, hfresh, h₂⟩ := Outcome.bind_eq_ok.mp h₁
  obtain ⟨v, hpos, h₃⟩ := Outcome.bind_eq_ok.mp h₂
  rw [Outcome.reject_eq_ok] at hfresh hpos
  refine ⟨{ id, tenantId := t, invoiceId := i, amount, status := .pending },
    ?_, ?_, rfl, hinv, (Outcome.pure_eq_ok.mp h₃).symm⟩
  · intro k a hk
    have hnone : db.paymentAttempts.find? (fun a => a.id = id) = none := by simpa using hfresh
    simpa using Table.find?_none hnone hk
  · have : ¬ amount ≤ 0 := by simpa using hpos
    exact Int.not_le.mp this

theorem attemptAmount_ok {db : Db} {i t : Uuid} {x : ℚ} (h : attemptAmount db i = .ok (t, x)) :
    (∃ inv, db.invoices.get? i = some inv ∧ inv.tenantId = t) ∧ ∃ c : ℤ, x = toNumber c := by
  obtain ⟨inv, hinv, h₁⟩ := Outcome.bind_eq_ok.mp h
  obtain ⟨u, -, h₂⟩ := Outcome.bind_eq_ok.mp h₁
  obtain ⟨v, -, h₃⟩ := Outcome.bind_eq_ok.mp h₂
  obtain ⟨w, -, h₄⟩ := Outcome.bind_eq_ok.mp h₃
  cases Outcome.pure_eq_ok.mp h₄
  exact ⟨⟨inv, Outcome.required_eq_ok.mp hinv, rfl⟩, _, (toNumber_sub _ _).symm⟩

theorem resolveCustomer_invoice {db : Db} {call : PaymentCall} {c : Uuid}
    (h : resolveCustomer db call = .ok c) : ∀ id, call.dto.invoiceId = some id →
      ∃ inv, db.invoice? call.tenantId id = some inv ∧ inv.customerId = c := by
  intro id hid
  simp only [resolveCustomer, hid] at h
  obtain ⟨inv, hinv, h₁⟩ := Outcome.bind_eq_ok.mp h
  obtain ⟨-, -, h₂⟩ := Outcome.bind_eq_ok.mp h₁
  obtain ⟨-, -, h₃⟩ := Outcome.bind_eq_ok.mp h₂
  obtain ⟨-, -, h₄⟩ := Outcome.bind_eq_ok.mp h₃
  obtain ⟨-, -, h₅⟩ := Outcome.bind_eq_ok.mp h₄
  exact ⟨inv, Outcome.required_eq_ok.mp hinv, Outcome.pure_eq_ok.mp h₅⟩

theorem resolveCustomer_ok {db : Db} {call : PaymentCall} {c : Uuid}
    (h : resolveCustomer db call = .ok c) : CallOwner db call c := by
  intro id hid
  obtain ⟨inv, hinv, hcustomer⟩ := resolveCustomer_invoice h id hid
  exact ⟨inv, (Db.invoice?_eq_some.mp hinv).1, hcustomer⟩

theorem findAttempt_ok {cfg : PayTrConfig} {db : Db} {payload : PayTrWebhookPayload}
    {attempt : Option PaymentAttempt} (h : findAttempt cfg db payload = .ok attempt) :
    verifyWebhook cfg payload = true ∧ ∃ k a, db.paymentAttempts.get? k = some a ∧
      a.id = payload.merchantOid ∧ attempt = if a.status = .paid then none else some a := by
  obtain ⟨u, hverify, h₁⟩ := Outcome.bind_eq_ok.mp h
  obtain ⟨⟨k, a⟩, hfind, h₂⟩ := Outcome.bind_eq_ok.mp h₁
  rw [Outcome.reject_eq_ok, Bool.not_eq_false'] at hverify
  obtain ⟨hget, hid⟩ := Table.find?_some (Outcome.required_eq_ok.mp hfind)
  exact ⟨hverify, k, a, hget, by simpa using hid, (Outcome.pure_eq_ok.mp h₂).symm⟩

theorem callbackCall_ok {db : Db} {payload : PayTrWebhookPayload} {attempt : PaymentAttempt}
    {call : PaymentCall} (hA : AttemptsOk db)
    (ht : BillingTask.Ok db (.callbackInvoice payload attempt))
    (h : callbackCall db payload attempt = .ok (some call)) :
    CallOk db call ∧ call.gatewayAttemptId = some attempt.id := by
  obtain ⟨k, a, hk, hid, htenant, hinvoice, hamount⟩ := ht
  obtain ⟨inv, hinv, h₁⟩ := Outcome.bind_eq_ok.mp h
  obtain ⟨u, -, h₂⟩ := Outcome.bind_eq_ok.mp h₁
  rw [Outcome.required_eq_ok] at hinv
  split_ifs at h₂ with hsuccess
  · obtain ⟨v, hmatch, h₃⟩ := Outcome.bind_eq_ok.mp h₂
    rw [Outcome.reject_eq_ok, decide_eq_false_iff_not, not_not] at hmatch
    cases Outcome.pure_eq_ok.mp h₃
    obtain ⟨owner, howner, hownerTenant⟩ := hA.invoice k a hk
    rw [hinvoice, hinv] at howner
    cases howner
    refine ⟨⟨⟨attempt.amount, ?_, hmatch⟩, ?_, ?_⟩, rfl⟩
    · rw [← hamount]
      exact hA.positive k a hk
    · simp [callbackPayment, CreatePaymentDto.effectiveMethod]
    · intro attemptId hattempt
      cases hattempt
      refine ⟨k, a, hk, hid, hownerTenant.symm, ?_, ?_⟩
      · rw [hamount]
        exact hmatch
      · rw [hinvoice]
        rfl
  · cases Outcome.pure_eq_ok.mp h₂

theorem recordPayment_ok {db db' : Db} {call : PaymentCall} {customerId id : Uuid}
    {amount : ℤ} (hamount : call.dto.amount = toNumber amount)
    (h : recordPayment db call customerId = .ok (db', id)) :
    (call.recorded? db = some id ∧ db' = db) ∨
      (id = db.payments.next ∧ Nonempty (PaymentCollected db call customerId amount db')) := by
  unfold recordPayment at h
  split at h
  · next hrec =>
    cases Outcome.pure_eq_ok.mp h
    exact .inl ⟨hrec, rfl⟩
  · next hfresh => exact .inr ⟨collectPayment_id h, collectPayment_ok hamount hfresh h⟩

theorem PaymentPhase.exec_effect {db : Db} {phase : PaymentPhase} (env : Env) (t : BillingTask)
    (hphase : phase.Ok db) :
    BillingEffect db t env (phase.exec db env).1 ∧
      (phase.exec db env).2.Ok (phase.exec db env).1 := by
  cases phase with
  | start call =>
    simp only [PaymentPhase.exec]
    split
    · exact ⟨.idle, hphase⟩
    · split
      · exact ⟨.idle, hphase⟩
      · exact ⟨.idle, hphase⟩
  | readInvoice call =>
    simp only [PaymentPhase.exec]
    split
    · exact ⟨.idle, hphase⟩
    · next c hc => exact ⟨.idle, hphase, resolveCustomer_ok hc⟩
  | readCustomer call c =>
    simp only [PaymentPhase.exec]
    split
    · exact ⟨.idle, hphase.1⟩
    · exact ⟨.idle, hphase⟩
  | transact call c =>
    obtain ⟨hcall, howner⟩ := hphase
    obtain ⟨amount, hpos, hamount⟩ := hcall.amount
    simp only [PaymentPhase.exec]
    split
    · exact ⟨.idle, hcall⟩
    · next db' paymentId hrec =>
      rcases recordPayment_ok hamount hrec with ⟨-, rfl⟩ | ⟨-, ⟨h⟩⟩
      · exact ⟨.idle, hcall⟩
      · have heffect : BillingEffect db t env db' := .collected hcall howner hpos hamount h
        exact ⟨heffect, hcall.mono heffect.extends⟩
  | notify call p =>
    simp only [PaymentPhase.exec]
    split <;> exact ⟨.idle, hphase⟩
  | done call r => exact ⟨.idle, hphase⟩

theorem BillingTask.exec_effect (cfg : PayTrConfig) {db : Db} {t : BillingTask} (env : Env)
    (hA : AttemptsOk db) (ht : t.Ok db) :
    BillingEffect db t env (t.exec cfg db env).1 ∧ (t.exec cfg db env).2.Ok (t.exec cfg db env).1 := by
  cases t with
  | issue invoice offset =>
    refine ⟨?_, trivial⟩
    simp only [BillingTask.exec]
    cases hcreate : createWithCariMovement env.clock db invoice offset with
    | error e => exact .idle
    | ok r =>
      obtain ⟨h⟩ := createWithCariMovement_ok hcreate
      exact .issued rfl h
  | void tenantId id =>
    refine ⟨?_, trivial⟩
    simp only [BillingTask.exec]
    cases hcancel : cancelWithCariReversal db tenantId id with
    | error e => exact .idle
    | ok db' =>
      obtain ⟨h⟩ := cancelWithCariReversal_ok hcancel
      exact .voided h
  | payment phase => exact PaymentPhase.exec_effect env _ ht
  | token i =>
    simp only [BillingTask.exec]
    split
    · exact ⟨.idle, trivial⟩
    · next hread => exact ⟨.idle, attemptAmount_ok hread⟩
  | newAttempt i t x =>
    obtain ⟨hinv, c, rfl⟩ := ht
    refine ⟨?_, trivial⟩
    simp only [BillingTask.exec]
    cases hinsert : insertAttempt db env.attemptId t i (toNumber c) with
    | error e => exact .idle
    | ok db' =>
      obtain ⟨row, h⟩ := insertAttempt_ok hinv hinsert
      exact .attempted h
  | callback payload =>
    simp only [BillingTask.exec]
    split
    · exact ⟨.idle, trivial⟩
    · exact ⟨.idle, trivial⟩
    · next attempt hread =>
      obtain ⟨-, k, a, hk, -, ha⟩ := findAttempt_ok hread
      split_ifs at ha
      cases ha
      exact ⟨.idle, k, attempt, hk, rfl, rfl, rfl, rfl⟩
  | callbackInvoice payload attempt =>
    simp only [BillingTask.exec]
    split
    · exact ⟨.idle, trivial⟩
    · exact ⟨.idle, trivial⟩
    · next call hread => exact ⟨.idle, (callbackCall_ok hA ht hread).1⟩
  | callbackPayment payload phase =>
    have hphase : phase.Ok db := ht
    cases phase with
    | done call r => exact ⟨.idle, trivial⟩
    | start call => exact PaymentPhase.exec_effect env _ hphase
    | readInvoice call => exact PaymentPhase.exec_effect env _ hphase
    | readCustomer call c => exact PaymentPhase.exec_effect env _ hphase
    | transact call c => exact PaymentPhase.exec_effect env _ hphase
    | notify call p => exact PaymentPhase.exec_effect env _ hphase
  | answered payload answer => exact ⟨.idle, trivial⟩
  | finished => exact ⟨.idle, trivial⟩

end Exec

section Runs

def Billing.WellFormed (p : Billing) : Prop := Pool.Holds AttemptsOk BillingTask.Ok p

theorem BillingRequest.enter_ok (db : Db) (r : BillingRequest) : r.enter.Ok db := by
  cases r with
  | createPayment tenantId dto cashierName =>
    refine ⟨dto.2.amount_cents, dto.2.effectiveMethod_ne, ?_⟩
    intro attemptId h
    cases h
  | createWithCariMovement invoice offset => trivial
  | cancelWithCariReversal tenantId id => trivial
  | createPayTrPaymentToken invoiceId => trivial
  | handlePayTrWebhook payload => trivial

theorem Billing.WellFormed.step {cfg : PayTrConfig} {p : Billing} (h : p.WellFormed)
    (a : BillingAction) : (billingStep cfg p a).WellFormed := by
  cases a with
  | start r => exact Pool.Holds.start h (r.enter_ok p.shared)
  | step k env =>
    apply Pool.Holds.step h
    intro t ht
    obtain ⟨heffect, hok⟩ := BillingTask.exec_effect cfg env h.1 (h.2 k t ht)
    exact ⟨h.1.effect heffect, hok, fun u hu => hu.mono heffect.extends⟩

theorem Billing.WellFormed.effect (cfg : PayTrConfig) {p : Billing} (h : p.WellFormed)
    (a : BillingAction) :
    (billingStep cfg p a).shared = p.shared ∨ ∃ k env t, a = .step k env ∧
      p.threads.get? k = some t ∧
      (billingStep cfg p a).shared = (t.exec cfg p.shared env).1 ∧
      BillingEffect p.shared t env (billingStep cfg p a).shared := by
  rcases Pool.shared_act BillingRequest.enter (BillingTask.exec cfg) p a with
    hsame | ⟨k, env, t, rfl, hk, hshared⟩
  · exact .inl hsame
  · right
    refine ⟨k, env, t, rfl, hk, hshared, ?_⟩
    rw [billingStep, hshared]
    exact (BillingTask.exec_effect cfg env h.1 (h.2 k t hk)).1

theorem Billing.wellFormed_idle {db : Db} (h : AttemptsOk db) :
    Billing.WellFormed (Pool.idle db) :=
  Pool.holds_idle h

theorem billing_always {J : Db → Prop} (cfg : PayTrConfig)
    (keep : ∀ db t env db', J db → BillingEffect db t env db' → J db') {p : Billing}
    (hp : p.WellFormed) (hJ : J p.shared) (actions : List BillingAction) :
    Always (billingStep cfg) (fun s => s.WellFormed ∧ J s.shared) p actions := by
  refine always_of_invariant ?_ ⟨hp, hJ⟩ actions
  rintro s a ⟨hs, hJs⟩
  refine ⟨hs.step a, ?_⟩
  rcases hs.effect cfg a with hsame | ⟨k, env, t, -, -, -, heffect⟩
  · rw [hsame]
    exact hJs
  · exact keep _ t env _ hJs heffect

end Runs

end WorksAuto
