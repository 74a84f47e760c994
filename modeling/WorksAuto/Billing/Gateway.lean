import WorksAuto.Billing.Ledger

/-! Gateway callbacks are recorded exactly once.
A payment and the status of its attempt are written in one transaction, after a
search for an earlier payment under the same lock; so duplicates, late callbacks
and payments at the counter can interleave in any order. -/

namespace WorksAuto

open Lib

def Payment.Records (p : Payment) (attemptId : String) : Prop :=
  p.gatewayProvider = some "PAYTR" ∧ p.transactionId = some attemptId

def Db.Recorded (db : Db) (attemptId : String) : Prop :=
  ∃ k p, db.payments.get? k = some p ∧ p.Records attemptId

structure GatewayOk (db : Db) : Prop where
  attempt : ∀ k p attemptId, db.payments.get? k = some p → p.Records attemptId →
    ∃ i a, db.paymentAttempts.get? i = some a ∧ a.id = attemptId ∧ a.tenantId = p.tenantId ∧
      a.amount = p.amount ∧ a.status = .paid
  unique : ∀ k l p q attemptId, db.payments.get? k = some p → db.payments.get? l = some q →
    p.Records attemptId → q.Records attemptId → k = l
  paid : ∀ i a, db.paymentAttempts.get? i = some a → a.status = .paid → db.Recorded a.id

section Effects

theorem BillingEffect.payment_kept {db db' : Db} {t : BillingTask} {env : Env}
    (h : BillingEffect db t env db') {k : ℕ} {p : Payment} (hk : db.payments.get? k = some p) :
    ∃ p', db'.payments.get? k = some p' ∧ ∀ attemptId, p.Records attemptId → p'.Records attemptId := by
  cases h with
  | idle => exact ⟨p, hk, fun _ hr => hr⟩
  | issued task h =>
    rw [h.payments]
    cases h.payment with
    | none => exact ⟨p, hk, fun _ hr => hr⟩
    | some q => exact ⟨p, Table.get?_insert_of_some hk _, fun _ hr => hr⟩
  | voided h =>
    rcases h.posted with ⟨-, -, -, hpay⟩ | ⟨-, -, -, -, -, -, -, hpay⟩
    · rw [hpay]
      exact ⟨p, hk, fun _ hr => hr⟩
    · rw [hpay, Table.get?_modifyIf, hk]
      refine ⟨_, rfl, fun _ hr => ?_⟩
      dsimp only
      split_ifs <;> exact hr
  | collected ok owner positive amount_eq h =>
    rw [h.payments]
    exact ⟨p, Table.get?_insert_of_some hk _, fun _ hr => hr⟩
  | attempted h =>
    rw [h.result]
    exact ⟨p, hk, fun _ hr => hr⟩

theorem Db.Recorded.mono {db db' : Db} {t : BillingTask} {env : Env} {attemptId : String}
    (hr : db.Recorded attemptId) (h : BillingEffect db t env db') : db'.Recorded attemptId := by
  obtain ⟨k, p, hk, hp⟩ := hr
  obtain ⟨p', hk', hp'⟩ := h.payment_kept hk
  exact ⟨k, p', hk', hp' _ hp⟩

theorem BillingEffect.payment_origin {db db' : Db} {t : BillingTask} {env : Env}
    (h : BillingEffect db t env db') {k : ℕ} {p' : Payment} {attemptId : String}
    (hk : db'.payments.get? k = some p') (hr : p'.Records attemptId) :
    (∃ p, db.payments.get? k = some p ∧ p.Records attemptId ∧ p.tenantId = p'.tenantId ∧
      p.amount = p'.amount) ∨
    ∃ call c amount, k = db.payments.next ∧ call.gatewayAttemptId = some attemptId ∧
      p' = paymentRow call c amount ∧ CallOk db call ∧ call.dto.amount = toNumber amount ∧
      Nonempty (PaymentCollected db call c amount db') := by
  cases h with
  | idle => exact .inl ⟨p', hk, hr, rfl, rfl⟩
  | issued task h =>
    rw [h.payments] at hk
    cases hpay : h.payment with
    | none =>
      rw [hpay] at hk
      exact .inl ⟨p', hk, hr, rfl, rfl⟩
    | some q =>
      rw [hpay, Option.elim_some, Table.get?_insert] at hk
      split_ifs at hk
      · cases hk
        have hnone := (h.payment_some _ hpay).provider_eq
        rw [hr.1] at hnone
        cases hnone
      · exact .inl ⟨p', hk, hr, rfl, rfl⟩
  | voided h =>
    rcases h.posted with ⟨-, -, -, hpay⟩ | ⟨-, -, -, -, -, -, -, hpay⟩
    · rw [hpay] at hk
      exact .inl ⟨p', hk, hr, rfl, rfl⟩
    · rw [hpay, Table.get?_modifyIf] at hk
      obtain ⟨p, hp, rfl⟩ := Option.map_eq_some_iff.mp hk
      refine .inl ⟨p, hp, ?_⟩
      split_ifs at hr ⊢ <;> exact ⟨hr, rfl, rfl⟩
  | @collected call c amount db' ok owner positive amount_eq h =>
    have hk' := hk
    rw [h.payments, Table.get?_insert] at hk'
    split_ifs at hk' with hnext
    · cases hk'
      exact .inr ⟨call, c, amount, hnext, hr.2, rfl, ok, amount_eq, ⟨h⟩⟩
    · exact .inl ⟨p', hk', hr, rfl, rfl⟩
  | attempted h =>
    rw [h.result] at hk
    exact .inl ⟨p', hk, hr, rfl, rfl⟩

theorem PaymentCollected.attempt {db db' : Db} {call : PaymentCall} {c : Uuid} {amount : ℤ}
    {attemptId : String} (hA : AttemptsOk db) (hok : CallOk db call)
    (hamount : call.dto.amount = toNumber amount) (hcall : call.gatewayAttemptId = some attemptId)
    (h : PaymentCollected db call c amount db') :
    ∃ i a, db.paymentAttempts.get? i = some a ∧ a.id = attemptId ∧ a.tenantId = call.tenantId ∧
      a.amount = amount ∧
      db'.paymentAttempts = db.paymentAttempts.modify i fun a => { a with status := .paid } := by
  rcases h.attempts with ⟨hnone, -⟩ | ⟨id, i, a, hid, hfind, hmod⟩
  · rw [hcall] at hnone
    cases hnone
  · cases hcall.symm.trans hid
    obtain ⟨hget, ha⟩ := Table.find?_some hfind
    have haid : a.id = attemptId := by simpa using ha
    obtain ⟨j, b, hb, hbid, hbt, hbamount, -⟩ := hok.gateway attemptId hcall
    obtain rfl := hA.unique i j a b hget hb (haid.trans hbid.symm)
    cases hget.symm.trans hb
    exact ⟨i, a, hget, haid, hbt, toNumber_inj (hbamount.symm.trans hamount), hmod⟩

theorem PaymentCollected.not_recorded {db db' : Db} {call : PaymentCall} {c : Uuid} {amount : ℤ}
    {attemptId : String} (hA : AttemptsOk db) (hG : GatewayOk db) (hok : CallOk db call)
    (hamount : call.dto.amount = toNumber amount) (hcall : call.gatewayAttemptId = some attemptId)
    (h : PaymentCollected db call c amount db') : ¬ db.Recorded attemptId := by
  rintro ⟨k, p, hk, hp⟩
  obtain ⟨i, a, ha, haid, hat, -, -⟩ := hG.attempt k p attemptId hk hp
  obtain ⟨j, b, hb, hbid, hbt, -, -⟩ := h.attempt hA hok hamount hcall
  obtain rfl := hA.unique i j a b ha hb (haid.trans hbid.symm)
  cases ha.symm.trans hb
  -- the payment is the tenant's own, so the search under the lock would have found it
  have hfresh := h.fresh
  simp only [PaymentCall.recorded?, hcall, Option.bind_some, Option.map_eq_none_iff] at hfresh
  have := Table.find?_none hfresh hk
  simp [hp.1, hp.2, ← hat, hbt] at this

theorem GatewayOk.effect {db db' : Db} {t : BillingTask} {env : Env} (hA : AttemptsOk db)
    (hG : GatewayOk db) (h : BillingEffect db t env db') : GatewayOk db' where
  attempt := by
    intro k p' attemptId hk hr
    rcases h.payment_origin hk hr with ⟨p, hp, hpr, ht, ham⟩ |
      ⟨call, c, amount, -, hcall, rfl, hok, hamount, ⟨hc⟩⟩
    · obtain ⟨i, a, ha, haid, hat, haam, hapaid⟩ := hG.attempt k p attemptId hp hpr
      have hkept : ∃ a', db'.paymentAttempts.get? i = some a' ∧ a'.id = a.id ∧
          a'.tenantId = a.tenantId ∧ a'.amount = a.amount ∧ a'.status = .paid := by
        cases h with
        | idle => exact ⟨a, ha, rfl, rfl, rfl, hapaid⟩
        | issued task h =>
          rw [h.attempts]
          exact ⟨a, ha, rfl, rfl, rfl, hapaid⟩
        | voided h =>
          rw [h.attempts]
          exact ⟨a, ha, rfl, rfl, rfl, hapaid⟩
        | collected ok owner positive amount_eq h =>
          rcases h.attempts with ⟨-, hsame⟩ | ⟨-, j, -, -, -, hmod⟩
          · rw [hsame]
            exact ⟨a, ha, rfl, rfl, rfl, hapaid⟩
          · rw [hmod, Table.get?_modify, ha]
            refine ⟨_, rfl, ?_⟩
            split_ifs
            · exact ⟨rfl, rfl, rfl, rfl⟩
            · exact ⟨rfl, rfl, rfl, hapaid⟩
        | attempted h =>
          rw [h.result]
          exact ⟨a, Table.get?_insert_of_some ha _, rfl, rfl, rfl, hapaid⟩
      obtain ⟨a', ha', hid', ht', ham', hpaid'⟩ := hkept
      exact ⟨i, a', ha', hid'.trans haid, ht'.trans (hat.trans ht), ham'.trans (haam.trans ham),
        hpaid'⟩
    · obtain ⟨i, a, ha, haid, hat, haam, hmod⟩ := hc.attempt hA hok hamount hcall
      refine ⟨i, { a with status := .paid }, ?_, haid, hat, haam, rfl⟩
      rw [hmod]
      exact Table.get?_modify_self ha _
  unique := by
    intro k l p q attemptId hk hl hp hq
    rcases h.payment_origin hk hp with ⟨p₀, hp₀, hpr, -⟩ | ⟨call, c, amount, hnext, hcall, -, hok,
        hamount, ⟨hc⟩⟩
    · rcases h.payment_origin hl hq with ⟨q₀, hq₀, hqr, -⟩ | ⟨call, c, amount, -, hcall, -, hok,
        hamount, ⟨hc⟩⟩
      · exact hG.unique k l p₀ q₀ attemptId hp₀ hq₀ hpr hqr
      · exact absurd ⟨k, p₀, hp₀, hpr⟩ (hc.not_recorded hA hG hok hamount hcall)
    · rcases h.payment_origin hl hq with ⟨q₀, hq₀, hqr, -⟩ | ⟨-, -, -, hnext', -⟩
      · exact absurd ⟨l, q₀, hq₀, hqr⟩ (hc.not_recorded hA hG hok hamount hcall)
      · rw [hnext, hnext']
  paid := by
    intro i a' ha' hpaid
    cases h with
    | idle => exact hG.paid i a' ha' hpaid
    | issued task h =>
      have ha := ha'
      rw [h.attempts] at ha
      exact (hG.paid i a' ha hpaid).mono (.issued task h)
    | voided h =>
      have ha := ha'
      have heffect : BillingEffect db t env db' := .voided h
      rw [h.attempts] at ha
      exact (hG.paid i a' ha hpaid).mono heffect
    | @collected call c amount db' ok owner positive amount_eq h =>
      have heffect : BillingEffect db t env db' := .collected ok owner positive amount_eq h
      rcases h.attempts with ⟨-, hsame⟩ | ⟨attemptId, j, attempt, hcall, hfind, hmod⟩
      · rw [hsame] at ha'
        exact (hG.paid i a' ha' hpaid).mono heffect
      · rw [hmod, Table.get?_modify] at ha'
        obtain ⟨a, ha, rfl⟩ := Option.map_eq_some_iff.mp ha'
        split_ifs at hpaid ⊢ with hij
        · -- the attempt just paid is recorded by the payment just inserted
          subst hij
          obtain ⟨hget, hid⟩ := Table.find?_some hfind
          cases ha.symm.trans hget
          refine ⟨db.payments.next, paymentRow call c amount, ?_, ?_, ?_⟩
          · rw [h.payments]
            exact Table.get?_insert_self _ _
          · simp [paymentRow, hcall]
          · have haid : attempt.id = attemptId := by simpa using hid
            simp [paymentRow, hcall, haid]
        · exact (hG.paid i a ha hpaid).mono heffect
    | attempted h =>
      have ha := ha'
      rw [h.result, Table.get?_insert] at ha
      split_ifs at ha
      · cases ha
        rw [h.pending] at hpaid
        cases hpaid
      · have heffect : BillingEffect db t env db' := .attempted h
        exact (hG.paid i a' ha hpaid).mono heffect

end Effects

section Answers

def PaymentPhase.call : PaymentPhase → PaymentCall
  | .start call | .readInvoice call | .readCustomer call _ | .transact call _ | .notify call _
  | .done call _ => call

def PaymentPhase.Recorded (db : Db) (attemptId : String) : PaymentPhase → Prop
  | .notify _ _ => db.Recorded attemptId
  | .done _ result => result.isOk → db.Recorded attemptId
  | _ => True

def BillingTask.Honest (db : Db) : BillingTask → Prop
  | .callbackInvoice payload attempt => attempt.id = payload.merchantOid
  | .callbackPayment payload phase =>
    phase.call.gatewayAttemptId = some payload.merchantOid ∧ phase.Recorded db payload.merchantOid
  | .answered payload answer =>
    answer = .ok "OK" → payload.status = "success" → db.Recorded payload.merchantOid
  | _ => True

theorem PaymentPhase.Recorded.mono {db db' : Db} {t : BillingTask} {env : Env}
    {attemptId : String} {phase : PaymentPhase} (h : phase.Recorded db attemptId)
    (he : BillingEffect db t env db') : phase.Recorded db' attemptId := by
  cases phase with
  | notify call p => exact Db.Recorded.mono h he
  | done call r => exact fun hok => (h hok).mono he
  | start call => trivial
  | readInvoice call => trivial
  | readCustomer call c => trivial
  | transact call c => trivial

theorem BillingTask.Honest.mono {db db' : Db} {t u : BillingTask} {env : Env}
    (h : u.Honest db) (he : BillingEffect db t env db') : u.Honest db' := by
  cases u with
  | callbackInvoice payload attempt => exact h
  | callbackPayment payload phase => exact ⟨h.1, h.2.mono he⟩
  | answered payload answer => exact fun hok hs => (h hok hs).mono he
  | issue invoice offset => trivial
  | void tenantId id => trivial
  | payment phase => trivial
  | token invoiceId => trivial
  | newAttempt invoiceId tenantId amount => trivial
  | callback payload => trivial
  | finished => trivial

theorem recorded?_some {db : Db} {call : PaymentCall} {id : Uuid} {attemptId : String}
    (hcall : call.gatewayAttemptId = some attemptId) (h : call.recorded? db = some id) :
    db.Recorded attemptId := by
  simp only [PaymentCall.recorded?, hcall, Option.bind_some, Option.map_eq_some_iff] at h
  obtain ⟨⟨k, p⟩, hfind, -⟩ := h
  obtain ⟨hget, hp⟩ := Table.find?_some hfind
  simp only [decide_eq_true_eq] at hp
  exact ⟨k, p, hget, hp.2.1, hp.2.2⟩

theorem PaymentPhase.exec_recorded {db : Db} {phase : PaymentPhase} (env : Env)
    {attemptId : String} (hphase : phase.Ok db)
    (hcall : phase.call.gatewayAttemptId = some attemptId) (h : phase.Recorded db attemptId) :
    (phase.exec db env).2.call = phase.call ∧
      (phase.exec db env).2.Recorded (phase.exec db env).1 attemptId := by
  cases phase with
  | start call =>
    simp only [PaymentPhase.exec]
    split
    · exact ⟨rfl, by simp [PaymentPhase.Recorded, Except.isOk, Except.toBool]⟩
    · split
      · next hrec => exact ⟨rfl, fun _ => recorded?_some hcall hrec⟩
      · exact ⟨rfl, trivial⟩
  | readInvoice call =>
    simp only [PaymentPhase.exec]
    split
    · exact ⟨rfl, by simp [PaymentPhase.Recorded, Except.isOk, Except.toBool]⟩
    · exact ⟨rfl, trivial⟩
  | readCustomer call c =>
    simp only [PaymentPhase.exec]
    split
    · exact ⟨rfl, by simp [PaymentPhase.Recorded, Except.isOk, Except.toBool]⟩
    · exact ⟨rfl, trivial⟩
  | transact call c =>
    obtain ⟨hok, -⟩ := hphase
    obtain ⟨amount, -, hamount⟩ := hok.amount
    simp only [PaymentPhase.exec]
    split
    · exact ⟨rfl, by simp [PaymentPhase.Recorded, Except.isOk, Except.toBool]⟩
    · next db' paymentId hrec =>
      refine ⟨rfl, ?_⟩
      rcases recordPayment_ok hamount hrec with ⟨hfound, rfl⟩ | ⟨-, ⟨hcollect⟩⟩
      · exact recorded?_some hcall hfound
      · refine ⟨db.payments.next, paymentRow call c amount, ?_, ?_⟩
        · rw [hcollect.payments]
          exact Table.get?_insert_self _ _
        · have hcall' : call.gatewayAttemptId = some attemptId := hcall
          simp [Payment.Records, paymentRow, hcall']
  | notify call p =>
    simp only [PaymentPhase.exec]
    split
    · exact ⟨rfl, by simp [PaymentPhase.Recorded, Except.isOk, Except.toBool]⟩
    · exact ⟨rfl, fun _ => h⟩
  | done call r => exact ⟨rfl, h⟩

theorem BillingTask.exec_honest (cfg : PayTrConfig) {db : Db} {t : BillingTask} (env : Env)
    (hA : AttemptsOk db) (hG : GatewayOk db) (ht : t.Ok db) (h : t.Honest db) :
    (t.exec cfg db env).2.Honest (t.exec cfg db env).1 := by
  cases t with
  | issue invoice offset => trivial
  | void tenantId id => trivial
  | payment phase => trivial
  | token i =>
    simp only [BillingTask.exec]
    split <;> trivial
  | newAttempt i t x => trivial
  | callback payload =>
    simp only [BillingTask.exec]
    split
    · intro hok
      cases hok
    · next hread =>
      intro _ _
      obtain ⟨-, k, a, hk, hid, ha⟩ := findAttempt_ok hread
      split_ifs at ha with hpaid
      rw [← hid]
      exact hG.paid k a hk hpaid
    · next attempt hread =>
      obtain ⟨-, k, a, hk, hid, ha⟩ := findAttempt_ok hread
      split_ifs at ha
      cases ha
      exact hid
  | callbackInvoice payload attempt =>
    have hid : attempt.id = payload.merchantOid := h
    simp only [BillingTask.exec]
    split
    · intro hok
      cases hok
    · next hread =>
      intro _ hsuccess
      obtain ⟨inv, -, h₁⟩ := Outcome.bind_eq_ok.mp hread
      obtain ⟨u, -, h₂⟩ := Outcome.bind_eq_ok.mp h₁
      rw [if_pos hsuccess] at h₂
      obtain ⟨v, -, h₃⟩ := Outcome.bind_eq_ok.mp h₂
      cases Outcome.pure_eq_ok.mp h₃
    · next call hread =>
      obtain ⟨-, hcall⟩ := callbackCall_ok hA ht hread
      exact ⟨hcall.trans (congrArg some hid), trivial⟩
  | callbackPayment payload phase =>
    obtain ⟨hcall, hrec⟩ := h
    have hphase : phase.Ok db := ht
    obtain ⟨hsame, hnext⟩ := PaymentPhase.exec_recorded env hphase hcall hrec
    cases phase with
    | done call r =>
      intro hok _
      apply hrec
      cases r with
      | ok p => rfl
      | error e => cases hok
    | start call => exact ⟨hsame ▸ hcall, hnext⟩
    | readInvoice call => exact ⟨hsame ▸ hcall, hnext⟩
    | readCustomer call c => exact ⟨hsame ▸ hcall, hnext⟩
    | transact call c => exact ⟨hsame ▸ hcall, hnext⟩
    | notify call p => exact ⟨hsame ▸ hcall, hnext⟩
  | answered payload answer => exact h
  | finished => trivial

end Answers

section Runs

/-- Attempts and payments in step, and every callback answered truthfully. -/
structure Billing.CallbacksRecorded (s : Billing) : Prop where
  once : ∀ i a k l p q, s.shared.paymentAttempts.get? i = some a →
    s.shared.payments.get? k = some p → s.shared.payments.get? l = some q →
      p.Records a.id → q.Records a.id → k = l
  amount : ∀ i a k p, s.shared.paymentAttempts.get? i = some a →
    s.shared.payments.get? k = some p → p.Records a.id → p.amount = a.amount
  status : ∀ i a, s.shared.paymentAttempts.get? i = some a →
    (a.status = .paid ↔ s.shared.Recorded a.id)
  answer : ∀ k payload, s.threads.get? k = some (.answered payload (.ok "OK")) →
    payload.status = "success" → s.shared.Recorded payload.merchantOid

/-- The invariant behind: gateway rows are in step, and so is every request. -/
def Billing.GatewaySound (s : Billing) : Prop :=
  Pool.Holds (fun db => AttemptsOk db ∧ GatewayOk db) (fun db t => t.Ok db ∧ t.Honest db) s

theorem Billing.GatewaySound.step {cfg : PayTrConfig} {s : Billing} (h : s.GatewaySound)
    (a : BillingAction) : (billingStep cfg s a).GatewaySound := by
  cases a with
  | start r =>
    refine Pool.Holds.start h ⟨r.enter_ok s.shared, ?_⟩
    cases r <;> trivial
  | step k env =>
    apply Pool.Holds.step h
    intro t ht
    obtain ⟨hA, hG⟩ := h.1
    obtain ⟨hok, hhonest⟩ := h.2 k t ht
    obtain ⟨heffect, hok'⟩ := BillingTask.exec_effect cfg env hA hok
    exact ⟨⟨hA.effect heffect, hG.effect hA heffect⟩,
      ⟨hok', BillingTask.exec_honest cfg env hA hG hok hhonest⟩,
      fun u hu => ⟨hu.1.mono heffect.extends, hu.2.mono heffect⟩⟩

theorem Billing.GatewaySound.recorded {s : Billing} (h : s.GatewaySound) :
    s.CallbacksRecorded where
  once := fun _ a k l p q _ hk hl hp hq => h.1.2.unique k l p q a.id hk hl hp hq
  amount := by
    intro i a k p hi hk hp
    obtain ⟨j, b, hb, hid, -, ham, -⟩ := h.1.2.attempt k p a.id hk hp
    obtain rfl := h.1.1.unique i j a b hi hb hid.symm
    cases hi.symm.trans hb
    exact ham.symm
  status := by
    intro i a hi
    refine ⟨h.1.2.paid i a hi, ?_⟩
    rintro ⟨k, p, hk, hp⟩
    obtain ⟨j, b, hb, hid, -, -, hpaid⟩ := h.1.2.attempt k p a.id hk hp
    obtain rfl := h.1.1.unique i j a b hi hb hid.symm
    cases hi.symm.trans hb
    exact hpaid
  answer := fun k _ hk hsuccess => (h.2 k _ hk).2 rfl hsuccess

/-- Whatever the order and number of callbacks and counter payments: an attempt
has at most one payment, of its amount, exactly when it is marked paid, and a
callback of success answered `OK` has its payment. -/
theorem callbacks_recorded_once (cfg : PayTrConfig) {db : Db} (h : db.FreshBooks)
    (actions : List BillingAction) :
    Always (billingStep cfg) Billing.CallbacksRecorded (Pool.idle db) actions := by
  have hgateway : GatewayOk db :=
    { attempt := by simp [Table.get?_of_rows_nil h.payments]
      unique := by simp [Table.get?_of_rows_nil h.payments]
      paid := by simp [Table.get?_of_rows_nil h.attempts] }
  have hstart : Billing.GatewaySound (Pool.idle db) :=
    Pool.holds_idle ⟨h.attemptsOk, hgateway⟩
  have hrun : Always (billingStep cfg) Billing.GatewaySound (Pool.idle db) actions :=
    always_of_invariant (P := Billing.GatewaySound) (fun _ a hs => hs.step a) hstart actions
  exact hrun.mono fun _ hs => hs.recorded

def sampleCallback : PayTrWebhookPayload where
  merchantOid := "a1"
  status := "success"
  totalAmount := "10000"
  hash := "key:a1saltsuccess10000"

/-- An invoice of 100.00, an attempt to pay it, and its callback delivered twice. -/
def callbackActions : List BillingAction :=
  alone 0 (.createWithCariMovement (sampleInvoice 100) none) ++
  alone 1 (.createPayTrPaymentToken 0) ++
  alone 2 (.handlePayTrWebhook sampleCallback) ++
  alone 3 (.handlePayTrWebhook sampleCallback)

theorem sample_callbacks_recorded :
    Always (billingStep sampleConfig) Billing.CallbacksRecorded (Pool.idle sampleDb)
        callbackActions ∧
      (run (billingStep sampleConfig) (Pool.idle sampleDb)
        callbackActions).shared.payments.rows.length = 1 :=
  ⟨callbacks_recorded_once sampleConfig sampleDb_fresh callbackActions, by decide +kernel⟩

end Runs

end WorksAuto
