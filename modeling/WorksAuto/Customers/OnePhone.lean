import WorksAuto.Customers.System

/-! One live customer for each phone number of a tenant.
Five writers clean a phone each in its own way and look for the text that comes
out; a restored customer is not looked for at all, and nothing in the database
keeps two texts of one number apart. A number stays with one customer as long as
every lookup finds the customer that has it, and no two calls for it overlap. -/

namespace WorksAuto.Customers

open Lib
open Accounts (digitsOf sliceLast)

def phoneNumber (phone : String) : Option (List Char) :=
  if 10 ≤ (digitsOf phone).length then some (sliceLast 10 (digitsOf phone)) else none

def SamePhone (phone other : String) : Prop :=
  (phoneNumber phone).isSome = true ∧ phoneNumber phone = phoneNumber other

instance (phone other : String) : Decidable (SamePhone phone other) :=
  inferInstanceAs (Decidable (_ ∧ _))

def Db.OnePhone (db : Db) : Prop :=
  ∀ i c, db.customers.get? i = some c → ∀ j d, db.customers.get? j = some d →
    c.deletedAt = none → d.deletedAt = none → c.tenantId = d.tenantId →
      SamePhone c.phone d.phone → i = j

/-- A customer that a transaction leaves live, with the phone it has then. -/
structure LivePhone where
  id : Uuid
  tenantId : Uuid
  phone : String
  deriving DecidableEq, Repr

def Write.livePhone? (w : Write) (db : Db) : Option LivePhone :=
  match w.customer with
  | .insert row _ =>
    if row.deletedAt = none then some ⟨db.customers.next, row.tenantId, row.phone⟩ else none
  | .update id (.save customer) =>
    ((db.customers.get? id).filter fun row => row.deletedAt.isNone).map fun row =>
      ⟨id, row.tenantId, customer.phone⟩
  | .update id .revive => (db.customers.get? id).map fun row => ⟨id, row.tenantId, row.phone⟩
  | _ => none

/-- A phone that a call is to store, for a customer that is there already or for a new one. -/
structure PhoneEntry where
  self : Option Uuid
  tenantId : Uuid
  phone : String
  deriving DecidableEq, Repr

def Db.NobodyElse (db : Db) (e : PhoneEntry) : Prop :=
  ∀ j c, db.customers.get? j = some c → e.self ≠ some j → c.tenantId = e.tenantId →
    c.deletedAt = none → ¬ SamePhone c.phone e.phone

def Db.Finds (db : Db) (e : PhoneEntry) (found : Option (Uuid × Customer)) : Prop :=
  db.NobodyElse e ∨ found.any fun q => some q.1 ≠ e.self && q.2.deletedAt.isNone

def PhoneEntry.Clashes (e f : PhoneEntry) : Prop :=
  f.tenantId = e.tenantId ∧ SamePhone f.phone e.phone ∧ (f.self = none ∨ f.self ≠ e.self)

namespace CustomerWrite

def phoneEntered? (db : Db) : CustomerWrite → Option PhoneEntry
  | insert row _ => some ⟨none, row.tenantId, row.phone⟩
  | update id (.save customer) => some ⟨some id, customer.tenantId, customer.phone⟩
  | update id .revive => (db.customers.get? id).map fun row => ⟨some id, row.tenantId, row.phone⟩
  | _ => none

def saved? : CustomerWrite → Option (Uuid × Uuid)
  | update id (.save customer) => some (id, customer.tenantId)
  | _ => none

def revived? : CustomerWrite → Option Uuid
  | update id .revive => some id
  | _ => none

end CustomerWrite

namespace Task

def phoneEntered? (db : Db) : Task → Option PhoneEntry
  | saveCustomer _ id customer _ => some ⟨some id, customer.tenantId, customer.phone⟩
  | leadVehicle _ _ customer | importVehicle _ _ _ _ customer | commit ⟨customer, _⟩ _ =>
    customer.phoneEntered? db
  | _ => none

def saved? : Task → Option (Uuid × Uuid)
  | findPhoneOwner _ id _ _ customer | saveCustomer _ id customer _ => some (id, customer.tenantId)
  | leadVehicle _ _ customer | importVehicle _ _ _ _ customer | commit ⟨customer, _⟩ _ =>
    customer.saved?
  | _ => none

def revived? (t : Task) : Option Uuid := t.customerWrite?.bind CustomerWrite.revived?

/-- The phone that a step looks up for the one that is to be stored, and the row it finds;
a restored customer is looked for by nothing. -/
def phoneLookup? (db : Db) (env : Env) : Task → Option (PhoneEntry × Option (Uuid × Customer))
  | findPhone tenantId dto => some (⟨none, tenantId, cleanPhone dto.phone⟩,
      db.findByPhone tenantId [cleanPhone dto.phone] env.choice)
  | findPhoneOwner tenantId id dto phone customer =>
    some (⟨some id, customer.tenantId, (dto.assign customer).phone⟩,
      db.findByPhone tenantId [cleanPhone phone] env.choice)
  | findArchived tenantId id => (db.archivedCustomer? tenantId id).map fun row =>
      (⟨some id, row.tenantId, row.phone⟩, none)
  | leadCustomer tenantId dto => some (⟨none, tenantId, cleanPhone dto.phone⟩,
      db.findByPhone tenantId [cleanPhone dto.phone] env.choice)
  | importCustomer tenantId _ (row :: _) => some (⟨none, tenantId, (row.customer tenantId).phone⟩,
      db.findByPhone tenantId row.phoneCandidates env.choice)
  | bookCustomer tenantId _ phone _ _ => some (⟨none, tenantId, jsTrim phone⟩,
      db.findByPhoneForPublic tenantId (jsTrim phone) env.choice)
  | _ => none

def phoneStored? (db : Db) : Task → Option PhoneEntry
  | commit w _ => w.customer.phoneEntered? db
  | _ => none

def rephones? (db : Db) : Task → Option Uuid
  | commit w _ => w.customer.saved?.map Prod.fst
  | t => (t.redacts? db).map AnonymizeInput.customerId

end Task

/-- A lookup finds the live customer that has the number; a phone is stored while no other
call is to store its number, and while the customer is not about to be brought back. -/
def System.FindsNumbers (s : System) : PoolAction Call Env → Prop
  | .start _ => True
  | .step k env => ∀ t ∈ s.threads.get? k,
      (∀ q ∈ t.phoneLookup? s.shared env, s.shared.Finds q.1 q.2) ∧
      (∀ e ∈ t.phoneStored? s.shared,
        s.Alone (fun u => ∃ f ∈ u.phoneEntered? s.shared, e.Clashes f) k) ∧
      ∀ id ∈ t.rephones? s.shared, s.Alone (fun u => u.revived? = some id) k

section Store

variable {db : Db} {w : Write} {k : Uuid} {c : Customer}

theorem SamePhone.symm {phone other : String} (h : SamePhone phone other) :
    SamePhone other phone :=
  ⟨h.2 ▸ h.1, h.2.symm⟩

theorem live_of_store (h : (db.store w).customers.get? k = some c) (hlive : c.deletedAt = none) :
    w.livePhone? db = some ⟨k, c.tenantId, c.phone⟩ ∨
      ∃ old, db.customers.get? k = some old ∧ old.deletedAt = none ∧
        old.tenantId = c.tenantId ∧ old.phone = c.phone := by
  obtain ⟨customer, vehicle⟩ := w
  simp only [Db.store] at h
  cases customer with
  | keep id => exact .inr ⟨c, h, hlive, rfl, rfl⟩
  | insert row withAccount =>
    simp only [CustomerWrite.store, Table.get?_insert] at h
    split_ifs at h with hk
    · obtain rfl := Option.some.inj h
      subst hk
      exact .inl (if_pos hlive)
    · exact .inr ⟨c, h, hlive, rfl, rfl⟩
  | update id change =>
    obtain ⟨old, hold, rfl⟩ := Table.of_get?_modify h
    by_cases hk : k = id
    · subst hk
      rw [if_pos rfl] at hlive ⊢
      cases change with
      | save saved =>
        have hold' : old.deletedAt = none := hlive
        refine .inl ?_
        simp only [Write.livePhone?, hold, Option.filter_some, hold', Option.isNone_none, if_true,
          Option.map_some]
        rfl
      | archive deletedAt => cases hlive
      | revive =>
        refine .inl ?_
        simp only [Write.livePhone?, hold, Option.map_some]
        rfl
      | patch update => exact .inr ⟨old, hold, hlive, rfl, rfl⟩
    · rw [if_neg hk] at hlive ⊢
      exact .inr ⟨old, hold, hlive, rfl, rfl⟩

theorem row_of_store {row : Customer} (h : db.customers.get? k = some row) :
    ∃ row', (db.store w).customers.get? k = some row' ∧ row'.tenantId = row.tenantId ∧
      ((∀ r ∈ w.customer.saved?, r.1 ≠ k) → row'.phone = row.phone) := by
  obtain ⟨customer, vehicle⟩ := w
  cases customer with
  | keep id => exact ⟨row, h, rfl, fun _ => rfl⟩
  | insert new withAccount => exact ⟨row, Table.get?_insert_of_some h _, rfl, fun _ => rfl⟩
  | update id change =>
    simp only [Db.store, CustomerWrite.store]
    by_cases hk : k = id
    · subst hk
      refine ⟨_, Table.get?_modify_self h _, ?_, fun hsaved => ?_⟩
      · cases change <;> rfl
      · cases change with
        | save customer => exact absurd rfl (hsaved _ rfl)
        | _ => rfl
    · exact ⟨row, (Table.get?_modify_ne _ hk _).trans h, rfl, fun _ => rfl⟩

/-- The customer that a transaction saves belongs to the tenant that it was read for. -/
def Write.SavesOwn (w : Write) (db : Db) : Prop :=
  ∀ r ∈ w.customer.saved?, ∃ row, db.customers.get? r.1 = some row ∧ row.tenantId = r.2

theorem phoneEntered?_of_livePhone? (hsaves : w.SavesOwn db) {p : LivePhone}
    (hp : w.livePhone? db = some p) :
    ∃ e ∈ w.customer.phoneEntered? db, e.tenantId = p.tenantId ∧ e.phone = p.phone ∧
      (e.self = none ∨ e.self = some p.id) := by
  obtain ⟨customer, vehicle⟩ := w
  cases customer with
  | keep id => cases hp
  | insert row withAccount =>
    simp only [Write.livePhone?] at hp
    split_ifs at hp
    obtain rfl := Option.some.inj hp
    exact ⟨_, rfl, rfl, rfl, .inl rfl⟩
  | update id change =>
    cases change with
    | save saved =>
      obtain ⟨row, hrow, rfl⟩ := Option.map_eq_some_iff.mp hp
      obtain ⟨row', hrow', htenant⟩ := hsaves _ rfl
      obtain rfl := Option.some.inj (hrow'.symm.trans (Option.filter_eq_some_iff.mp hrow).1)
      exact ⟨_, rfl, htenant.symm, rfl, .inr rfl⟩
    | revive =>
      obtain ⟨row, hrow, rfl⟩ := Option.map_eq_some_iff.mp hp
      exact ⟨_, Option.map_eq_some_iff.mpr ⟨row, hrow, rfl⟩, rfl, rfl, .inr rfl⟩
    | archive deletedAt => cases hp
    | patch update => cases hp

/-- The number of a customer that is left live is no other live customer's. -/
def Write.KeepsPhones (w : Write) (db : Db) : Prop :=
  ∀ p ∈ w.livePhone? db, ∀ j c, db.customers.get? j = some c → j ≠ p.id → c.tenantId = p.tenantId →
    c.deletedAt = none → ¬ SamePhone c.phone p.phone

theorem keepsPhones_of_nobodyElse (hsaves : w.SavesOwn db)
    (hnobody : ∀ e ∈ w.customer.phoneEntered? db, db.NobodyElse e) : w.KeepsPhones db := by
  intro p hp j c hc hj htenant hlive
  obtain ⟨e, he, hetenant, hephone, hself⟩ := phoneEntered?_of_livePhone? hsaves hp
  have hother : e.self ≠ some j := by
    rcases hself with hself | hself
    · rw [hself]
      exact nofun
    · rw [hself]
      exact fun h => hj (Option.some.inj h).symm
  rw [← hephone]
  exact hnobody e he j c hc hother (htenant.trans hetenant.symm) hlive

theorem Db.OnePhone.store (h : db.OnePhone) (hkeeps : w.KeepsPhones db) :
    (db.store w).OnePhone := by
  intro i c hc j d hd hlive hlive' htenant hsame
  by_contra hne
  rcases live_of_store hc hlive with hi | ⟨old, hold, holdlive, ht, hp⟩
  · rcases live_of_store hd hlive' with hj | ⟨old', hold', holdlive', ht', hp'⟩
    · exact hne (congrArg LivePhone.id (Option.some.inj (hi.symm.trans hj)))
    · refine hkeeps _ hi j old' hold' (Ne.symm hne) (ht'.trans htenant.symm) holdlive' ?_
      rw [hp']
      exact hsame.symm
  · rcases live_of_store hd hlive' with hj | ⟨old', hold', holdlive', ht', hp'⟩
    · refine hkeeps _ hj i old hold hne (ht.trans htenant) holdlive ?_
      rw [hp]
      exact hsame
    · refine hne (h i old hold j old' hold' holdlive holdlive' ?_ ?_)
      · rw [ht, ht', htenant]
      · rw [hp, hp']
        exact hsame

theorem Db.OnePhone.redact (h : db.OnePhone) (args : AnonymizeInput) (deletedAt : Instant)
    (masked : List Uuid) (entry : ComplianceRedactionLog) :
    (db.redact args deletedAt masked entry).OnePhone := by
  have live : ∀ k c, (db.redact args deletedAt masked entry).customers.get? k = some c →
      c.deletedAt = none → db.customers.get? k = some c := by
    intro k c hc hlive
    obtain ⟨old, hold, rfl⟩ := Table.of_get?_modify hc
    split_ifs at hlive ⊢
    · cases hlive
    · exact hold
  intro i c hc j d hd hlive hlive'
  exact h i c (live i c hc hlive) j d (live j d hd hlive') hlive hlive'

end Store

section Steps

variable {uc : UpperCase} {db db' : Db} {t : Task} {e : PhoneEntry}

structure Task.PhoneKept (db : Db) (t : Task) : Prop where
  nobody : ∀ e ∈ t.phoneEntered? db, db.NobodyElse e
  saved : ∀ r ∈ t.saved?, ∃ row, db.customers.get? r.1 = some row ∧ row.tenantId = r.2
  revived : ∀ id ∈ t.revived?, ∃ row, db.customers.get? id = some row

theorem phoneKept_of_none (hentry : t.phoneEntered? db = none) (hsaved : t.saved? = none)
    (hrevived : t.revived? = none) : t.PhoneKept db where
  nobody e he := by
    rw [hentry] at he
    cases he
  saved r hr := by
    rw [hsaved] at hr
    cases hr
  revived id hid := by
    rw [hrevived] at hid
    cases hid

theorem phoneKept_after {α : Type} {check : Outcome α} {next : α → Task}
    (h : ∀ a, check = .ok a → (next a).PhoneKept db) : (Task.after check next).PhoneKept db := by
  cases check with
  | error err => exact phoneKept_of_none rfl rfl rfl
  | ok a => exact h a rfl

theorem phoneKept_insert (hentry : t.phoneEntered? db = some e) (hsaved : t.saved? = none)
    (hrevived : t.revived? = none) (h : db.NobodyElse e) : t.PhoneKept db where
  nobody e' he' := by
    obtain rfl := Option.some.inj (hentry.symm.trans he')
    exact h
  saved r hr := by
    rw [hsaved] at hr
    cases hr
  revived id hid := by
    rw [hrevived] at hid
    cases hid

theorem phoneKept_found {r : Uuid × Uuid} (hentry : t.phoneEntered? db = none)
    (hsaved : t.saved? = some r) (hrevived : t.revived? = none)
    (hrow : ∃ row, db.customers.get? r.1 = some row ∧ row.tenantId = r.2) : t.PhoneKept db where
  nobody e he := by
    rw [hentry] at he
    cases he
  saved r' hr' := by
    obtain rfl := Option.some.inj (hsaved.symm.trans hr')
    exact hrow
  revived id hid := by
    rw [hrevived] at hid
    cases hid

theorem phoneKept_save {r : Uuid × Uuid} (hentry : t.phoneEntered? db = some e)
    (hsaved : t.saved? = some r) (hrevived : t.revived? = none) (h : db.NobodyElse e)
    (hrow : ∃ row, db.customers.get? r.1 = some row ∧ row.tenantId = r.2) : t.PhoneKept db where
  nobody e' he' := by
    obtain rfl := Option.some.inj (hentry.symm.trans he')
    exact h
  saved r' hr' := by
    obtain rfl := Option.some.inj (hsaved.symm.trans hr')
    exact hrow
  revived id hid := by
    rw [hrevived] at hid
    cases hid

theorem phoneKept_revive {id : Uuid} {row : Customer} {vehicle : VehicleWrite} {next : Next}
    (hrow : db.customers.get? id = some row)
    (h : db.NobodyElse ⟨some id, row.tenantId, row.phone⟩) :
    (Task.commit ⟨.update id .revive, vehicle⟩ next).PhoneKept db where
  nobody e he := by
    obtain ⟨row', hrow', rfl⟩ := Option.map_eq_some_iff.mp he
    obtain rfl := Option.some.inj (hrow'.symm.trans hrow)
    exact h
  saved r hr := by cases hr
  revived k hk := by
    obtain rfl := Option.some.inj hk
    exact ⟨row, hrow⟩

theorem phoneKept_assign {tenantId id : Uuid} {dto : UpdateCustomerInput} {customer row : Customer}
    (hrow : db.customers.get? id = some row) (htenant : row.tenantId = customer.tenantId)
    (h : db.NobodyElse ⟨some id, customer.tenantId, (dto.assign customer).phone⟩) :
    (Task.assign tenantId id dto customer).PhoneKept db := by
  exact phoneKept_after fun _ _ => phoneKept_save rfl rfl rfl h ⟨row, hrow, htenant⟩

theorem phoneKept_updateDetails {tenantId id : Uuid} {dto : UpdateVehicleInput} {vehicle : Vehicle}
    {currentYear : ℤ} : (Task.updateDetails uc tenantId id dto vehicle currentYear).PhoneKept db :=
  phoneKept_after fun _ _ => phoneKept_of_none rfl rfl rfl

theorem Db.Finds.nobodyElse {found : Option (Uuid × Customer)} (h : db.Finds e found)
    (hnot : ∀ q ∈ found, some q.1 ≠ e.self → q.2.deletedAt.isNone = false) : db.NobodyElse e := by
  refine h.resolve_right fun hany => ?_
  obtain ⟨q, hq, hlive⟩ := (Option.any_eq_true _ _).mp hany
  rw [Bool.and_eq_true, decide_eq_true_eq] at hlive
  rw [hnot q hq hlive.1] at hlive
  cases hlive.2

theorem row_of_liveCustomer? {tenantId id : Uuid} {row : Customer}
    (h : db.liveCustomer? tenantId id = some row) :
    db.customers.get? id = some row ∧ row.tenantId = tenantId ∧ row.deletedAt = none := by
  obtain ⟨hrow, hlive⟩ := Option.filter_eq_some_iff.mp h
  rw [Bool.and_eq_true, decide_eq_true_eq, Option.isNone_iff_eq_none] at hlive
  exact ⟨hrow, hlive⟩

theorem exec_phoneKept (env : Env) (hdb : db.OnePhone) (h : t.PhoneKept db)
    (hfinds : ∀ q ∈ t.phoneLookup? db env, db.Finds q.1 q.2) :
    (t.exec uc db env).2.PhoneKept db := by
  cases t with
  | findPhone tenantId dto =>
    refine phoneKept_after fun limit hcheck => phoneKept_insert rfl rfl rfl ?_
    obtain ⟨_, hnone, -⟩ := Outcome.bind_eq_ok.mp hcheck
    rw [Outcome.reject_eq_ok, Option.isSome_eq_false_iff, Option.isNone_iff_eq_none] at hnone
    refine (hfinds _ rfl).nobodyElse fun q hq => ?_
    rw [hnone] at hq
    cases hq
  | findCustomer tenantId id dto =>
    refine phoneKept_after fun customer hcustomer => ?_
    rw [Outcome.required_eq_ok] at hcustomer
    obtain ⟨hrow, -, hlive⟩ := row_of_liveCustomer? hcustomer
    split
    · next hphone =>
      refine phoneKept_assign hrow rfl ?_
      -- the customer keeps its phone, and no other live one has the number
      intro j c hc hother htenant hclive hsame
      simp only [UpdateCustomerInput.assign, hphone, Option.map_none, Option.getD_none] at hsame
      exact hother (congrArg some (hdb j c hc id customer hrow hclive hlive htenant hsame)).symm
    · exact phoneKept_found rfl rfl rfl ⟨customer, hrow, rfl⟩
  | findPhoneOwner tenantId id dto phone customer =>
    obtain ⟨row, hrow, htenant⟩ := h.saved _ rfl
    refine phoneKept_after fun _ hcheck => phoneKept_assign hrow htenant ?_
    rw [Outcome.reject_eq_ok] at hcheck
    refine (hfinds _ rfl).nobodyElse fun q hq hother => ?_
    have hself : q.1 = id := by
      by_contra hne
      have hfound : db.findByPhone tenantId [cleanPhone phone] env.choice = some q := hq
      rw [hfound, Option.any_some] at hcheck
      simp [hne] at hcheck
    exact absurd (congrArg some hself) hother
  | saveCustomer tenantId id customer creditLimit =>
    have hnobody := h.nobody _ rfl
    have hsaved := h.saved _ rfl
    exact phoneKept_after fun _ _ => phoneKept_save rfl rfl rfl hnobody hsaved
  | findArchived tenantId id =>
    refine phoneKept_after fun row hfound => ?_
    rw [Outcome.required_eq_ok] at hfound
    have hrow := (Option.filter_eq_some_iff.mp hfound).1
    have hnobody : db.NobodyElse ⟨some id, row.tenantId, row.phone⟩ :=
      (hfinds (⟨some id, row.tenantId, row.phone⟩, none)
        (by rw [Task.phoneLookup?, hfound]; rfl)).nobodyElse fun q hq => by cases hq
    exact phoneKept_revive hrow hnobody
  | leadCustomer tenantId dto =>
    simp only [Task.exec]
    cases hfound : db.findByPhone tenantId [cleanPhone dto.phone] env.choice with
    | some found => exact phoneKept_of_none rfl rfl rfl
    | none =>
      refine phoneKept_insert rfl rfl rfl ((hfinds _ rfl).nobodyElse fun q hq => ?_)
      rw [hfound] at hq
      cases hq
  | leadVehicle tenantId dto customer =>
    have hkept : ∀ vehicle next, (Task.commit ⟨customer, vehicle⟩ next).PhoneKept db :=
      fun _ _ => ⟨h.nobody, h.saved, h.revived⟩
    simp only [Task.exec]
    split
    · exact hkept _ _
    · exact phoneKept_after fun _ _ => hkept _ _
  | importCustomer tenantId updateExisting rows =>
    cases rows with
    | nil => exact phoneKept_of_none rfl rfl rfl
    | cons row rows =>
      simp only [Task.exec, Task.importedCustomer]
      cases hfound : db.findByPhone tenantId row.phoneCandidates env.choice with
      | some found =>
        simp only
        split <;> exact phoneKept_of_none rfl rfl rfl
      | none =>
        refine phoneKept_insert rfl rfl rfl ((hfinds _ rfl).nobodyElse fun q hq => ?_)
        rw [hfound] at hq
        cases hq
  | importVehicle tenantId updateExisting row rows customer =>
    have hkept : ∀ vehicle next, (Task.commit ⟨customer, vehicle⟩ next).PhoneKept db :=
      fun _ _ => ⟨h.nobody, h.saved, h.revived⟩
    simp only [Task.exec]
    split
    · exact hkept _ _
    · split
      · exact phoneKept_of_none rfl rfl rfl
      · exact hkept _ _
  | bookCustomer tenantId name phone plate brandModel =>
    simp only [Task.exec]
    cases hfound : db.findByPhoneForPublic tenantId (jsTrim phone) env.choice with
    | none =>
      refine phoneKept_insert rfl rfl rfl ((hfinds _ rfl).nobodyElse fun q hq => ?_)
      rw [hfound] at hq
      cases hq
    | some found =>
      obtain ⟨id, customer⟩ := found
      simp only
      split
      · next harchived =>
        obtain ⟨hrow, hmatch⟩ := Table.mem_filter_iff.mp (List.mem_of_getElem? hfound)
        rw [Bool.and_eq_true, decide_eq_true_eq, decide_eq_true_eq] at hmatch
        have hnobody : db.NobodyElse ⟨none, tenantId, jsTrim phone⟩ := by
          refine (hfinds _ rfl).nobodyElse fun q hq _ => ?_
          obtain rfl := Option.some.inj (hfound.symm.trans hq)
          rw [Option.isNone_eq_false_iff]
          exact harchived
        refine phoneKept_revive hrow fun j c hc _ htenant hlive hsame => ?_
        exact hnobody j c hc (Option.some_ne_none j).symm (htenant.trans hmatch.1) hlive
          (hmatch.2 ▸ hsame)
      · exact phoneKept_of_none rfl rfl rfl
  | bookVehicle tenantId customerId plate brandModel =>
    simp only [Task.exec]
    split
    · exact phoneKept_of_none rfl rfl rfl
    · split
      · exact phoneKept_of_none rfl rfl rfl
      · split <;> exact phoneKept_of_none rfl rfl rfl
  | findPlateAny tenantId dto =>
    simp only [Task.exec]
    split
    · refine phoneKept_after fun _ _ => ?_
      split <;> exact phoneKept_of_none rfl rfl rfl
    · exact phoneKept_after fun _ _ => phoneKept_of_none rfl rfl rfl
  | findVehicle tenantId id dto =>
    refine phoneKept_after fun vehicle _ => ?_
    split
    · exact phoneKept_updateDetails
    · exact phoneKept_of_none rfl rfl rfl
  | findPlateOwner tenantId id dto plate vehicle =>
    simp only [Task.exec]
    split
    · exact phoneKept_updateDetails
    · refine phoneKept_after fun _ _ => ?_
      split
      · exact phoneKept_of_none rfl rfl rfl
      · exact phoneKept_updateDetails
  | updateVehicle tenantId id vehicle =>
    refine phoneKept_after fun existing _ => ?_
    split <;> exact phoneKept_of_none rfl rfl rfl
  | findToArchive | archiveCustomer | findForAnonymize | anonymizeFind | anonymizeDebt |
    anonymizeInvoice | saveVehicle | findOwner | findNewOwner | findTransferred | findToDelete =>
    exact phoneKept_after fun _ _ => phoneKept_of_none rfl rfl rfl
  | findAffected | maskLogs | findLast | elsewhere | finished => exact phoneKept_of_none rfl rfl rfl
  | anonymizeUpdate args =>
    simp only [Task.exec]
    split <;> exact phoneKept_of_none rfl rfl rfl
  | insertRedaction args deletedAt affected masked lastRedaction =>
    simp only [Task.exec]
    split <;> exact phoneKept_of_none rfl rfl rfl
  | commit w next =>
    simp only [Task.exec]
    split
    · exact h
    · split <;> split <;> exact phoneKept_of_none rfl rfl rfl

end Steps

section Run

variable {uc : UpperCase} {s : System} {a : PoolAction Call Env}

theorem phoneEntered?_cases (t : Task) :
    (∀ db db', t.phoneEntered? db = t.phoneEntered? db') ∨
      ∃ id, t.revived? = some id ∧ ∀ db, t.phoneEntered? db =
        (db.customers.get? id).map fun row => ⟨some id, row.tenantId, row.phone⟩ := by
  have write : ∀ w : CustomerWrite, (∀ db db', w.phoneEntered? db = w.phoneEntered? db') ∨
      ∃ id, w.revived? = some id ∧ ∀ db, w.phoneEntered? db =
        (db.customers.get? id).map fun row => ⟨some id, row.tenantId, row.phone⟩ := by
    intro w
    cases w with
    | keep id | insert row withAccount => exact .inl fun _ _ => rfl
    | update id change =>
      cases change with
      | revive => exact .inr ⟨id, rfl, fun _ => rfl⟩
      | save customer | archive deletedAt | patch update => exact .inl fun _ _ => rfl
  cases t with
  | leadVehicle tenantId dto customer => exact write customer
  | importVehicle tenantId updateExisting row rows customer => exact write customer
  | commit w next => exact write w.customer
  | _ => exact .inl fun _ _ => rfl

/-- What a call has looked up still holds when the rows stay and no other customer comes to
be live under its number. -/
theorem Task.PhoneKept.congr {db db' : Db} {t : Task} (h : t.PhoneKept db)
    (hrows : ∀ k row, db.customers.get? k = some row → ∃ row', db'.customers.get? k = some row' ∧
      row'.tenantId = row.tenantId ∧ (t.revived? = some k → row'.phone = row.phone))
    (hlive : ∀ j c, db'.customers.get? j = some c → c.deletedAt = none →
      (∃ old, db.customers.get? j = some old ∧ old.deletedAt = none ∧
        old.tenantId = c.tenantId ∧ old.phone = c.phone) ∨
      ∀ e ∈ t.phoneEntered? db, e.self ≠ some j → c.tenantId = e.tenantId →
        ¬ SamePhone c.phone e.phone) : t.PhoneKept db' where
  nobody e he := by
    have hentry : e ∈ t.phoneEntered? db := by
      rcases phoneEntered?_cases t with hconst | ⟨id, hrevived, hrow⟩
      · rw [hconst db db']
        exact he
      · rw [hrow] at he ⊢
        obtain ⟨row', hrow', rfl⟩ := Option.map_eq_some_iff.mp he
        obtain ⟨row, hold⟩ := h.revived id hrevived
        obtain ⟨row'', hnew, htenant, hphone⟩ := hrows id row hold
        obtain rfl := Option.some.inj (hnew.symm.trans hrow')
        exact Option.map_eq_some_iff.mpr ⟨row, hold, by rw [htenant, hphone hrevived]⟩
    intro j c hc hother htenant hclive hsame
    rcases hlive j c hc hclive with ⟨old, hold, holdlive, ht, hp⟩ | hnew
    · exact h.nobody e hentry j old hold hother (ht.trans htenant) holdlive (hp ▸ hsame)
    · exact hnew e hentry hother htenant hsame
  saved r hr := by
    obtain ⟨row, hrow, htenant⟩ := h.saved r hr
    obtain ⟨row', hrow', hsame, -⟩ := hrows _ row hrow
    exact ⟨row', hrow', hsame.trans htenant⟩
  revived k hk := by
    obtain ⟨row, hrow⟩ := h.revived k hk
    obtain ⟨row', hrow', -⟩ := hrows _ row hrow
    exact ⟨row', hrow'⟩

theorem Task.PhoneKept.savesOwn {db : Db} {w : Write} {next : Next}
    (h : (Task.commit w next).PhoneKept db) : w.SavesOwn db := h.saved

/-- A transaction for another number leaves what a call has looked up, unless the call is to
bring back the customer that is saved. -/
theorem Task.PhoneKept.store {db : Db} {t : Task} {w : Write} (h : t.PhoneKept db)
    (hsaves : w.SavesOwn db) (hapart : ∀ f ∈ w.customer.phoneEntered? db, ∀ e ∈ t.phoneEntered? db,
      ¬ f.Clashes e) (hrevived : ∀ r ∈ w.customer.saved?, t.revived? ≠ some r.1) :
    t.PhoneKept (db.store w) := by
  refine h.congr (fun k row hrow => ?_) fun j c hc hclive => ?_
  · obtain ⟨row', hrow', htenant, hphone⟩ := row_of_store (w := w) hrow
    refine ⟨row', hrow', htenant, fun hk => hphone fun r hr he => ?_⟩
    exact hrevived r hr (he ▸ hk)
  · rcases live_of_store hc hclive with hnew | hold
    · right
      intro e he hother htenant hsame
      obtain ⟨f, hf, hftenant, hfphone, hself⟩ := phoneEntered?_of_livePhone? hsaves hnew
      refine hapart f hf e he ⟨htenant.symm.trans hftenant.symm, ?_, ?_⟩
      · rw [hfphone]
        exact hsame.symm
      · rcases hself with hself | hself
        · cases hnone : e.self with
          | none => exact .inl rfl
          | some k => exact .inr (by rw [hself]; exact nofun)
        · exact .inr (by rw [hself]; exact hother)
    · exact .inl hold

theorem Task.PhoneKept.redact {db : Db} {t : Task} (h : t.PhoneKept db) {args : AnonymizeInput}
    (hrevived : t.revived? ≠ some args.customerId) (deletedAt : Instant) (masked : List Uuid)
    (entry : ComplianceRedactionLog) : t.PhoneKept (db.redact args deletedAt masked entry) := by
  refine h.congr (fun k row hrow => ?_) fun j c hc hclive => .inl ?_
  · by_cases hk : k = args.customerId
    · subst hk
      exact ⟨_, Table.get?_modify_self hrow _, rfl, fun hrev => absurd hrev hrevived⟩
    · exact ⟨row, (Table.get?_modify_ne _ hk _).trans hrow, rfl, fun _ => rfl⟩
  · obtain ⟨old, hold, rfl⟩ := Table.of_get?_modify hc
    split_ifs at hclive ⊢
    · cases hclive
    · exact ⟨old, hold, hclive, rfl, rfl⟩

theorem phoneKept_enter {db : Db} (r : Call) : (r.enter uc).PhoneKept db := by
  cases r with
  | quickLead | batchImport | createVehicle =>
    rw [Call.enter]
    exact phoneKept_after fun _ _ => phoneKept_of_none rfl rfl rfl
  | _ =>
    rw [Call.enter]
    exact phoneKept_of_none rfl rfl rfl

theorem exec_commit_phoneKept {db db' : Db} {w : Write} {next : Next} (env : Env)
    (h : (Task.commit w next).through? db = some w) :
    ((Task.commit w next).exec uc db env).2.PhoneKept db' := by
  simp only [Task.through?] at h
  split_ifs at h with hw
  simp only [Task.exec, hw.1, Bool.false_eq_true, if_false, commit_eq_ok.mpr ⟨hw.2, rfl⟩]
  cases next <;> exact phoneKept_of_none rfl rfl rfl

/-- Each number has one live customer, and what the calls have looked up still holds. -/
def System.PhonesKept : System → Prop := Pool.Holds Db.OnePhone Task.PhoneKept

theorem act_phonesKept (h : s.PhonesKept) (hfinds : s.FindsNumbers a) :
    (System.act uc s a).PhonesKept := by
  cases a with
  | start r => exact h.start (phoneKept_enter r)
  | step k env =>
    refine h.step_among fun t ht => ?_
    obtain ⟨hlookup, halone, hrevived⟩ := hfinds t ht
    have hkept := h.2 k t ht
    rcases exec_shared uc s.shared t env with ⟨w, next, rfl, hthrough, -, hstore⟩ |
      ⟨args, deletedAt, affected, masked, lastRedaction, rfl, hargs, hstore⟩ |
        ⟨-, -, hcustomers, -⟩
    · rw [hstore]
      have hkeeps := keepsPhones_of_nobodyElse hkept.savesOwn hkept.nobody
      refine ⟨h.1.store hkeeps, exec_commit_phoneKept env hthrough, fun i u hu hi => ?_⟩
      refine (h.2 i u hu).store hkept.savesOwn (fun f hf e he hclash => ?_) fun r hr he => ?_
      · exact halone f hf i u hu hi ⟨e, he, hclash⟩
      · exact hrevived r.1 (Option.mem_map_of_mem _ hr) i u hu hi he
    · rw [hstore]
      refine ⟨h.1.redact args _ _ _, ?_, fun i u hu hi => ?_⟩
      · simp only [Task.exec]
        split <;> exact phoneKept_of_none rfl rfl rfl
      · refine (h.2 i u hu).redact (fun he => ?_) _ _ _
        exact hrevived _ (Option.mem_map_of_mem _ hargs) i u hu hi he
    · have hsame : ∀ u : Task, u.PhoneKept s.shared → u.PhoneKept (t.exec uc s.shared env).1 := by
        intro u hu
        refine hu.congr (fun j row hrow => ⟨row, hcustomers ▸ hrow, rfl, fun _ => rfl⟩) ?_
        exact fun j c hc hclive => .inl ⟨c, hcustomers ▸ hc, hclive, rfl, rfl⟩
      refine ⟨?_, hsame _ (exec_phoneKept env h.1 hkept hlookup), fun i u hu _ => hsame u (h.2 i u hu)⟩
      unfold Db.OnePhone
      rw [hcustomers]
      exact h.1

/-- In every interleaving of the calls, each number has one live customer in its tenant, as
long as every lookup finds the customer that has the number and no two calls for one
number overlap. -/
theorem always_onePhone (uc : UpperCase) {db : Db} (hdb : db.OnePhone)
    (calls : List (PoolAction Call Env))
    (hfinds : EachStep (System.act uc) System.FindsNumbers (Pool.idle db) calls) :
    Always (System.act uc) (fun s => s.shared.OnePhone) (Pool.idle db) calls := by
  have hstart : System.PhonesKept (Pool.idle db) := Pool.holds_idle hdb
  exact (always_of_step (fun _ _ h ha => act_phonesKept h ha) hstart hfinds).mono fun _ h => h.1

end Run

section Example

instance (db : Db) : Decidable db.OnePhone := by
  unfold Db.OnePhone
  infer_instance

instance (db : Db) (e : PhoneEntry) : Decidable (db.NobodyElse e) := by
  unfold Db.NobodyElse
  infer_instance

instance (db : Db) (e : PhoneEntry) (found : Option (Uuid × Customer)) : Decidable (db.Finds e found) :=
  inferInstanceAs (Decidable (_ ∨ _))

instance (e f : PhoneEntry) : Decidable (e.Clashes f) :=
  inferInstanceAs (Decidable (_ ∧ _ ∧ _))

instance (s : System) (a : PoolAction Call Env) : Decidable (s.FindsNumbers a) :=
  match a with
  | .start _ => .isTrue trivial
  | .step k env => inferInstanceAs (Decidable (∀ t ∈ s.threads.get? k,
      (∀ q ∈ t.phoneLookup? s.shared env, s.shared.Finds q.1 q.2) ∧
      (∀ e ∈ t.phoneStored? s.shared,
        s.Alone (fun u => ∃ f ∈ u.phoneEntered? s.shared, e.Clashes f) k) ∧
      ∀ id ∈ t.rephones? s.shared, s.Alone (fun u => u.revived? = some id) k))

def exampleCreation (phone : String) : CreateCustomerInput where
  type := none
  firstName := "Mehmet"
  lastName := none
  companyTitle := none
  phone
  email := none
  taxNumber := none
  taxOffice := none
  address := none
  city := none
  district := none
  creditLimit := none
  notes := none
  isLead := none

def createWith (phone : String) : List (PoolAction Call Env) :=
  .start (.createCustomer 0 (exampleCreation phone)) :: List.replicate 2 (.step 0 exampleEnv)

/-- A new number, and then one that the lookup finds, in another spelling. -/
def createTwice : List (PoolAction Call Env) :=
  createWith "0544 123 45 67" ++
    .start (.createCustomer 0 (exampleCreation "(0544) 123-45-67")) ::
      List.replicate 2 (.step 1 exampleEnv)

theorem always_onePhone_createTwice :
    Always (System.act asciiUpper) (fun s => s.shared.OnePhone) (Pool.idle exampleDb) createTwice ∧
      (run (System.act asciiUpper) (Pool.idle exampleDb) createTwice).shared.customers.rows.length =
        3 :=
  ⟨always_onePhone asciiUpper (by decide +kernel) _ (by decide +kernel), by decide +kernel⟩

/-- The number of the customer that is there, with the prefix of the country. -/
theorem number_with_country_prefix :
    ¬ Always (System.act asciiUpper) (fun s => s.shared.OnePhone) (Pool.idle exampleDb)
      (createWith "+90 532 111 22 33") := by
  intro h
  have hone := h.last
  revert hone
  decide +kernel

end Example

end WorksAuto.Customers
