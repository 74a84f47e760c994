import WorksAuto.Customers.Garage
import WorksAuto.Workshop.Settled

/-! A deleted customer leaves nothing open.
A deletion looks at the orders and the balance of its customer before its transaction, and
what is done for a customer is checked before it is written. As long as the two do not
overlap, nothing is reopened for a deleted customer, and an anonymisation is asked for only
where there is nothing that it does not look at, nothing is left open. -/

namespace WorksAuto

open Lib

section Property

variable (g : Garage)

def Garage.isDeleted (id : Uuid) : Bool :=
  (g.registry.customers.get? id).any fun c => c.deletedAt.isSome

/-- No deleted customer has an order in the queue or in progress, a positive balance or a
vehicle that is not deleted. -/
structure Garage.NothingLeft : Prop where
  orders : ∀ k wo, g.books.workOrders.get? k = some wo → g.isDeleted wo.customerId = true →
    wo.status.isClosed = true
  balances : ∀ k a, g.books.currentAccounts.get? k = some a → g.isDeleted a.customerId = true →
    a.balance ≤ 0
  vehicles : ∀ k v, g.registry.vehicles.get? k = some v → g.isDeleted v.customerId = true →
    v.deletedAt.isSome = true

def Garage.NoVehicleOf (id : Uuid) : Prop :=
  ∀ k v, g.registry.vehicles.get? k = some v → v.customerId = id → v.deletedAt.isSome = true

end Property

section Conditions

def Customers.isLive (customers : Table Customer) (id : Uuid) : Bool :=
  (customers.get? id).any fun c => c.deletedAt.isNone

namespace GarageTask

/-- The customer that is to be deleted; orders and balance have been looked at. -/
def archives? : GarageTask → Option Uuid
  | registry (.commit ⟨.update id (.archive _), _⟩ _) => some id
  | _ => none

/-- The customer that is to be anonymised; its balance has been looked at. -/
def anonymizes? : GarageTask → Option Uuid
  | registry (.anonymizeInvoice args) | registry (.anonymizeUpdate args)
  | registry (.findAffected args _) | registry (.maskLogs args _ _) | registry (.findLast args _ _ _)
  | registry (.insertRedaction args _ _ _ _) => some args.customerId
  | _ => none

def deletes? : GarageTask → Option Uuid
  | registry (.commit ⟨.update id (.archive _), _⟩ _) => some id
  | registry (.insertRedaction args _ _ _ _) => some args.customerId
  | _ => none

/-- The customer that a request has found, and for whom it is to write something. -/
def comesFor? : GarageTask → Option Uuid
  | registry (.findTransferred _ _ id) | registry (.commit ⟨.keep id, _⟩ _) => some id
  | reading t customers _ => t.asksFor?.filter (Customers.isLive customers)
  | _ => none

def gives? : GarageTask → Option Uuid
  | registry (.commit ⟨.keep id, _⟩ _) | registry (.commit ⟨.update id .revive, _⟩ _) => some id
  | _ => none

def reopensFor? (g : Garage) : GarageTask → Option Uuid
  | reading t customers vehicles => t.reopensFor? (g.shop customers vehicles)
  | _ => none

def opensFor? (g : Garage) : GarageTask → Option Uuid
  | reading t customers vehicles =>
    t.opensFor? (Customers.isLive customers) (g.shop customers vehicles)
  | _ => none

def checksDebt? : GarageTask → Option Customers.AnonymizeInput
  | registry (.anonymizeDebt args) => some args
  | _ => none

end GarageTask

/-- Nothing that an anonymisation does not look at: an open order, a vehicle, an account of
another tenant. -/
structure Garage.Unburdened (g : Garage) (args : Customers.AnonymizeInput) : Prop where
  orders : ∀ k wo, g.books.workOrders.get? k = some wo → wo.customerId = args.customerId →
    wo.status.isClosed = true
  accounts : ∀ k a, g.books.currentAccounts.get? k = some a → a.customerId = args.customerId →
    a.tenantId = args.tenantId
  vehicles : g.NoVehicleOf args.customerId

/-- The step of a deletion does not fall between the lookup and the write of a request for the
customer, nor the other way round; what is reopened is not for a deleted customer. -/
structure GaragePool.Apart (p : GaragePool) (k : ℕ) (t : GarageTask) : Prop where
  deletes : ∀ c ∈ t.deletes?, p.Alone (fun u => u.comesFor? = some c) k
  opens : ∀ c ∈ t.opensFor? p.shared,
    p.Alone (fun u => u.archives? = some c ∨ u.anonymizes? = some c) k
  gives : ∀ c ∈ t.gives?, p.Alone (fun u => u.anonymizes? = some c) k
  reopens : ∀ c ∈ t.reopensFor? p.shared, p.shared.isDeleted c = false
  anonymizes : ∀ args ∈ t.checksDebt?, p.shared.Unburdened args

def GaragePool.KeepsApart (p : GaragePool) : GarageAction → Prop
  | .start _ => True
  | .step k _ => ∀ t ∈ p.threads.get? k, p.Apart k t

end Conditions

section Registry

variable {g g' : Garage} {id c : Uuid}

theorem Garage.nothingLeft_iff : g.NothingLeft ↔
    ∀ id, g.isDeleted id = true → g.books.SettledFor id ∧ g.NoVehicleOf id := by
  constructor
  · intro h id hid
    refine ⟨⟨fun k wo hk hc => h.orders k wo hk (hc ▸ hid), fun k a hk hc => ?_⟩,
      fun k v hk hc => ?_⟩
    · exact h.balances k a hk (hc ▸ hid)
    · exact h.vehicles k v hk (hc ▸ hid)
  · intro h
    exact ⟨fun k wo hk hc => (h _ hc).1.orders k wo hk rfl,
      fun k a hk hc => (h _ hc).1.balances k a hk rfl, fun k v hk hc => (h _ hc).2 k v hk rfl⟩

theorem Garage.isDeleted_modify (id : Uuid) {f : Customers.Customer → Customers.Customer}
    (hcustomers : g'.registry.customers = g.registry.customers.modify id f) (k : Uuid) :
    g'.isDeleted k = (g.registry.customers.get? k).any fun c =>
      (if k = id then f c else c).deletedAt.isSome := by
  rw [isDeleted, hcustomers, Table.get?_modify]
  cases g.registry.customers.get? k <;> rfl

theorem Garage.isDeleted_delete {f : Customers.Customer → Customers.Customer}
    (hcustomers : g'.registry.customers = g.registry.customers.modify id f)
    (hf : ∀ c, (f c).deletedAt.isSome = true) (hrow : (g.registry.customers.get? id).isSome = true)
    (k : Uuid) : g'.isDeleted k = true ↔ k = id ∨ g.isDeleted k = true := by
  rw [isDeleted_modify id hcustomers]
  by_cases hk : k = id
  · obtain ⟨c, hc⟩ := Option.isSome_iff_exists.mp hrow
    simp [hk, hc, hf]
  · simp [hk, isDeleted]

inductive Customers.Write.Departs : Customers.Write → Prop
  | archive (id : Uuid) (deletedAt archivedAt : Instant) :
    Departs ⟨.update id (.archive deletedAt), .archiveAll archivedAt⟩
  | revive (id : Uuid) : Departs ⟨.update id .revive, .reviveAll⟩
  | insert (id : Uuid) (row : Customers.Vehicle) : Departs ⟨.keep id, .insert row⟩
  | transfer (id vehicleId : Uuid) : Departs ⟨.keep id, .update vehicleId .transfer⟩

theorem Garage.noVehicleOf_archiveAll {archivedAt : Instant}
    (hvehicles : g'.registry.vehicles =
      (Customers.VehicleWrite.archiveAll archivedAt).store id g.registry.vehicles) (k : Uuid) :
    g'.NoVehicleOf k ↔ k = id ∨ g.NoVehicleOf k := by
  have hrow : ∀ i, g'.registry.vehicles.get? i = (g.registry.vehicles.get? i).map fun v =>
      if v.customerId = id ∧ v.deletedAt = none then { v with deletedAt := some archivedAt }
      else v := by
    intro i
    rw [hvehicles, Customers.VehicleWrite.store, Table.get?_modifyIf]
    simp only [Bool.and_eq_true, decide_eq_true_eq, Option.isNone_iff_eq_none]
    rfl
  constructor
  · intro h
    by_cases hk : k = id
    · exact .inl hk
    · refine .inr fun i v hi hc => h i v ?_ hc
      rw [hrow, hi, Option.map_some, if_neg fun hv => hk (hc.symm.trans hv.1)]
  · rintro h i v hi hc
    rw [hrow] at hi
    obtain ⟨old, hold, hv⟩ := Option.map_eq_some_iff.mp hi
    cases hdel : old.deletedAt with
    | some at_ =>
      rw [if_neg fun hn => by rw [hdel] at hn; cases hn.2] at hv
      rw [← hv, hdel]
      rfl
    | none =>
      by_cases hid : old.customerId = id
      · rw [if_pos ⟨hid, hdel⟩] at hv
        rw [← hv]
        rfl
      · rw [if_neg fun hn => hid hn.1] at hv
        subst hv
        rcases h with rfl | h
        · exact absurd hc hid
        · exact h i old hold hc

inductive Customers.Task.Departs : Customers.Task → Prop
  | findToArchive (tenantId id : Uuid) : Departs (.findToArchive tenantId id)
  | archiveCustomer (tenantId id : Uuid) : Departs (.archiveCustomer tenantId id)
  | findArchived (tenantId id : Uuid) : Departs (.findArchived tenantId id)
  | findForAnonymize (args : AnonymizeInput) : Departs (.findForAnonymize args)
  | anonymizeFind (args : AnonymizeInput) : Departs (.anonymizeFind args)
  | anonymizeDebt (args : AnonymizeInput) : Departs (.anonymizeDebt args)
  | anonymizeInvoice (args : AnonymizeInput) : Departs (.anonymizeInvoice args)
  | anonymizeUpdate (args : AnonymizeInput) : Departs (.anonymizeUpdate args)
  | findAffected (args : AnonymizeInput) (deletedAt : Instant) :
    Departs (.findAffected args deletedAt)
  | maskLogs (args : AnonymizeInput) (deletedAt : Instant) (affected : List Uuid) :
    Departs (.maskLogs args deletedAt affected)
  | findLast (args : AnonymizeInput) (deletedAt : Instant) (affected masked : List Uuid) :
    Departs (.findLast args deletedAt affected masked)
  | insertRedaction (args : AnonymizeInput) (deletedAt : Instant) (affected masked : List Uuid)
      (lastRedaction : Option ComplianceRedactionLog) :
    Departs (.insertRedaction args deletedAt affected masked lastRedaction)
  | findPlateAny (tenantId : Uuid) (dto : CreateVehicleInput) : Departs (.findPlateAny tenantId dto)
  | saveVehicle (tenantId : Uuid) (vehicle : Vehicle) : Departs (.saveVehicle tenantId vehicle)
  | findNewOwner (tenantId vehicleId newCustomerId : Uuid) :
    Departs (.findNewOwner tenantId vehicleId newCustomerId)
  | findTransferred (tenantId vehicleId newCustomerId : Uuid) :
    Departs (.findTransferred tenantId vehicleId newCustomerId)
  | commit {w : Write} (h : w.Departs) : Departs (.commit w .finish)
  | finished (answer : Outcome Unit) : Departs (.finished answer)

namespace Customers.Task

theorem departs_after {α : Type} {check : Outcome α} {next : α → Task} (h : ∀ a, (next a).Departs) :
    (after check next).Departs := by
  cases check with
  | error e => exact .finished _
  | ok a => exact h a

theorem Departs.exec (uc : UpperCase) {t : Task} (h : t.Departs) (db : Db) (env : Env) :
    (t.exec uc db env).2.Departs := by
  cases h with
  | findToArchive tenantId id => exact departs_after fun _ => .archiveCustomer ..
  | archiveCustomer tenantId id => exact departs_after fun _ => .commit (.archive ..)
  | findArchived tenantId id => exact departs_after fun _ => .commit (.revive ..)
  | findForAnonymize args => exact departs_after fun _ => .anonymizeFind ..
  | anonymizeFind args => exact departs_after fun _ => .anonymizeDebt ..
  | anonymizeDebt args => exact departs_after fun _ => .anonymizeInvoice ..
  | anonymizeInvoice args => exact departs_after fun _ => .anonymizeUpdate ..
  | anonymizeUpdate args =>
    simp only [Task.exec]
    split_ifs
    · exact .anonymizeUpdate args
    · exact .findAffected ..
  | findAffected args deletedAt => exact .maskLogs ..
  | maskLogs args deletedAt affected => exact .findLast ..
  | findLast args deletedAt affected masked => exact .insertRedaction ..
  | insertRedaction args deletedAt affected masked lastRedaction =>
    simp only [Task.exec]
    split <;> exact .finished _
  | findPlateAny tenantId dto =>
    simp only [Task.exec]
    split
    · refine departs_after fun _ => ?_
      split_ifs
      · exact .findNewOwner ..
      · exact .finished _
    · exact departs_after fun _ => .saveVehicle ..
  | saveVehicle tenantId vehicle => exact departs_after fun _ => .commit (.insert ..)
  | findNewOwner tenantId vehicleId newCustomerId =>
    exact departs_after fun _ => .findTransferred ..
  | findTransferred tenantId vehicleId newCustomerId =>
    exact departs_after fun _ => .commit (.transfer ..)
  | @commit w h =>
    simp only [Task.exec]
    split_ifs
    · exact .commit h
    · split <;> exact .finished _
  | finished answer => exact .finished _

end Customers.Task

/-- What a step does to the customers that are settled, without vehicles, or deleted. -/
structure GarageTask.Effect (t : GarageTask) (g g' : Garage) : Prop where
  settled : ∀ c, c ∉ t.opensFor? g → g.books.SettledFor c → g'.books.SettledFor c
  vehicles : ∀ c, c ∉ t.gives? → g.NoVehicleOf c → g'.NoVehicleOf c
  parked : ∀ c, c ∉ t.comesFor? → g'.isDeleted c = true → g.NoVehicleOf c → g'.NoVehicleOf c
  deleted : ∀ c, g'.isDeleted c = true → c ∈ t.deletes? ∨ g.isDeleted c = true
  archived : ∀ c ∈ t.archives?, g'.isDeleted c = true → g.isDeleted c = true ∨ g'.NoVehicleOf c

namespace GarageTask

theorem Effect.quiet {t : GarageTask} (hcustomers : g'.registry.customers = g.registry.customers)
    (hvehicles : ∀ c, g.NoVehicleOf c → g'.NoVehicleOf c)
    (hsettled : ∀ c, c ∉ t.opensFor? g → g.books.SettledFor c → g'.books.SettledFor c) :
    t.Effect g g' := by
  have hdeleted : ∀ c, g'.isDeleted c = g.isDeleted c := fun c => by
    rw [Garage.isDeleted, Garage.isDeleted, hcustomers]
  exact ⟨hsettled, fun c _ => hvehicles c, fun c _ _ => hvehicles c,
    fun c hc => .inr (hdeleted c ▸ hc), fun c _ hc => .inl (hdeleted c ▸ hc)⟩

theorem Effect.give {w : Customers.Write} {next : Customers.Next} {vehicleId : Uuid}
    {v : Customers.Vehicle} (hcomes : (registry (.commit w next)).comesFor? = some id)
    (hgives : (registry (.commit w next)).gives? = some id) (hbooks : g'.books = g.books)
    (hcustomers : g'.registry.customers = g.registry.customers)
    (hgiven : g'.registry.vehicles.get? vehicleId = some v) (howner : v.customerId = id)
    (hothers : ∀ k, k ≠ vehicleId → g'.registry.vehicles.get? k = g.registry.vehicles.get? k) :
    (registry (.commit w next)).Effect g g' := by
  have hdeleted : ∀ c, g'.isDeleted c = g.isDeleted c := fun c => by
    rw [Garage.isDeleted, Garage.isDeleted, hcustomers]
  have hvehicles : ∀ c, c ≠ id → g.NoVehicleOf c → g'.NoVehicleOf c := by
    intro c hne h k r hk hr
    by_cases hkv : k = vehicleId
    · obtain rfl : v = r := Option.some.inj (hgiven.symm.trans (hkv ▸ hk))
      exact absurd (hr.symm.trans howner) hne
    · exact h k r (hothers k hkv ▸ hk) hr
  refine ⟨fun c _ h => hbooks.symm ▸ h, fun c hc => hvehicles c ?_, fun c hc _ => hvehicles c ?_,
    fun c hc => .inr (hdeleted c ▸ hc), fun c _ hc => .inl (hdeleted c ▸ hc)⟩
  · rintro rfl
    exact hc hgives
  · rintro rfl
    exact hc hcomes

theorem archive_effect {next : Customers.Next} {deletedAt archivedAt : Instant}
    (hrow : (g.registry.customers.get? id).isSome = true) :
    (registry (.commit ⟨.update id (.archive deletedAt), .archiveAll archivedAt⟩ next)).Effect g
      ⟨g.office.store ⟨.update id (.archive deletedAt), .archiveAll archivedAt⟩, g.books⟩ := by
  let g' : Garage :=
    ⟨g.office.store ⟨.update id (.archive deletedAt), .archiveAll archivedAt⟩, g.books⟩
  have hall : ∀ k, g'.NoVehicleOf k ↔ k = id ∨ g.NoVehicleOf k := Garage.noVehicleOf_archiveAll rfl
  have hdeleted : ∀ k, g'.isDeleted k = true ↔ k = id ∨ g.isDeleted k = true :=
    Garage.isDeleted_delete (f := (Customers.CustomerChange.archive deletedAt).apply) rfl
      (fun _ => rfl) hrow
  refine ⟨fun c _ h => h, fun c _ h => (hall c).mpr (.inr h), fun c _ _ h => (hall c).mpr (.inr h),
    fun c hc => ?_, fun c hc _ => .inr ((hall c).mpr (.inl ?_))⟩
  · rcases (hdeleted c).mp hc with rfl | hc
    · exact .inl rfl
    · exact .inr hc
  · exact (Option.some.inj hc).symm

theorem revive_effect {next : Customers.Next} :
    (registry (.commit ⟨.update id .revive, .reviveAll⟩ next)).Effect g
      ⟨g.office.store ⟨.update id .revive, .reviveAll⟩, g.books⟩ := by
  let g' : Garage := ⟨g.office.store ⟨.update id .revive, .reviveAll⟩, g.books⟩
  have hdeleted : ∀ k, g'.isDeleted k = true → k ≠ id ∧ g.isDeleted k = true := by
    intro k hk
    rw [Garage.isDeleted_modify (g := g) id (f := Customers.CustomerChange.revive.apply) rfl] at hk
    have hne : k ≠ id := by
      rintro rfl
      obtain ⟨c, -, hc⟩ := (Option.any_eq_true _ _).mp hk
      rw [if_pos rfl] at hc
      cases hc
    simp only [if_neg hne] at hk
    exact ⟨hne, hk⟩
  have hvehicles : ∀ k, k ≠ id → g.NoVehicleOf k → g'.NoVehicleOf k := by
    intro k hne h i v hi hc
    obtain ⟨old, hold, hv⟩ := Table.of_get?_modifyIf hi
    have howner : old.customerId = k := by
      rw [← hc, ← hv]
      split_ifs <;> rfl
    have hkept : ¬ (old.customerId = id && old.deletedAt.isSome) = true := by
      simp [howner, hne]
    obtain rfl : old = v := (if_neg hkept).symm.trans hv
    exact h i old hold howner
  refine ⟨fun c _ h => h, fun c hc => hvehicles c ?_, fun c _ hc => hvehicles c (hdeleted c hc).1,
    fun c hc => .inr (hdeleted c hc).2, fun c _ hc => .inl (hdeleted c hc).2⟩
  rintro rfl
  exact hc rfl

theorem store_effect {w : Customers.Write} (hw : w.Departs) (hacc : w.Accepted g.office) :
    (registry (.commit w .finish)).Effect g ⟨g.office.store w, g.books⟩ := by
  have hexists := Bool.and_eq_true_iff.mp hacc.1
  cases hw with
  | archive id deletedAt archivedAt => exact archive_effect hexists.1
  | revive id => exact revive_effect
  | insert id row =>
    exact .give rfl rfl rfl rfl (Table.get?_insert_self _ _) rfl fun k hk =>
      (Table.get?_insert _ _ k).trans (if_neg hk)
  | transfer id vehicleId =>
    obtain ⟨row, hrow⟩ := Option.isSome_iff_exists.mp hexists.2
    exact .give rfl rfl rfl rfl (Table.get?_modify_self hrow _) rfl fun k hk =>
      Table.get?_modify_ne _ hk _

theorem registry_effect (uc : Customers.UpperCase) {t : Customers.Task} (ht : t.Departs)
    (env : GarageEnv) : (registry t).Effect g ((registry t).exec uc g env).1 := by
  have hexec : ((registry t).exec uc g env).1 =
      ⟨(t.exec uc g.office env.registry).1, g.books⟩ := rfl
  rw [hexec]
  rcases Customers.exec_shared uc g.office t env.registry with
    ⟨w, next, rfl, -, hacc, hstore⟩ |
      ⟨args, deletedAt, affected, masked, last, rfl, hredacts, hstore⟩ |
        ⟨-, -, hcustomers, hvehicles, -⟩
  · cases ht with
    | commit hw =>
      rw [hstore]
      exact store_effect hw hacc
  · have hrow : (g.office.customers.get? args.customerId).isSome = true := by
      by_contra hnone
      rw [Customers.Task.redacts?, if_neg hnone] at hredacts
      cases hredacts
    let entry := Customers.redactionEntry args affected last env.registry
    let g' : Garage := ⟨g.office.redact args deletedAt masked entry, g.books⟩
    have hdeleted : ∀ k, g'.isDeleted k = true ↔ k = args.customerId ∨ g.isDeleted k = true :=
      Garage.isDeleted_delete (f := Customers.Customer.anonymize _ deletedAt) rfl (fun _ => rfl)
        hrow
    rw [hstore]
    refine ⟨fun c _ h => h, fun c _ h => h, fun c _ _ h => h, fun c hc => ?_, nofun⟩
    rcases (hdeleted c).mp hc with rfl | hc
    · exact .inl rfl
    · exact .inr hc
  · exact .quiet hcustomers (fun c h k v hk => h k v (hvehicles ▸ hk)) fun c _ h => h

end GarageTask

end Registry

section Ready

theorem Customers.checkArchive_ok {db : Customers.Db} {id : Uuid} (h : db.checkArchive id = .ok ()) :
    (∀ k w, db.records.workOrders.get? k = some w → w.customerId = id →
      w.status ≠ .queue ∧ w.status ≠ .inProgress) ∧ db.balance id ≤ 0 := by
  obtain ⟨_, horders, hbalance⟩ := Outcome.bind_eq_ok.mp h
  simp only [Outcome.reject_eq_ok, Bool.not_eq_false', List.isEmpty_iff] at horders
  constructor
  · intro k w hk howner
    have hmem : (k, w) ∉ db.records.workOrders.filter fun w =>
        w.customerId = id && (w.status = .queue || w.status = .inProgress) := by
      rw [horders]
      exact List.not_mem_nil
    rw [Table.mem_filter_iff] at hmem
    simpa [hk, howner] using hmem
  · simpa using hbalance

variable {g g' : Garage} {uc : Customers.UpperCase} {id : Uuid}

def GarageTask.Underway : GarageTask → Prop
  | .registry t => t.Departs
  | .workshop t | .reading t _ _ => t.IsDesk
  | .payment phase => phase.IsPositive

structure GarageTask.Ready (t : GarageTask) (g : Garage) : Prop where
  underway : t.Underway
  archives : ∀ c ∈ t.archives?, g.books.SettledFor c
  anonymizes : ∀ c ∈ t.anonymizes?, g.books.SettledFor c ∧ g.NoVehicleOf c
  comes : ∀ c ∈ t.comesFor?, g.isDeleted c = false

theorem Garage.not_isDeleted {customer : Customers.Customer} {c : Uuid}
    (hget : g.registry.customers.get? c = some customer) (hlive : customer.deletedAt.isNone = true) :
    g.isDeleted c = false := by
  rw [isDeleted, hget, Option.any_some, Option.isNone_iff_eq_none.mp hlive]
  rfl

theorem Garage.not_isDeleted_of_live {customer : Customers.Customer} {t c : Uuid}
    (h : g.office.liveCustomer? t c = some customer) : g.isDeleted c = false := by
  obtain ⟨hget, hlive⟩ := Option.filter_eq_some_iff.mp h
  exact Garage.not_isDeleted hget (Bool.and_eq_true_iff.mp hlive).2

theorem Garage.office_account (k : Uuid) : g.office.records.currentAccounts.get? k =
    (g.books.currentAccounts.get? k).map CurrentAccount.record := Table.get?_mapRows ..

theorem Garage.balance_le_of_found (hs : g.books.LedgerSound)
    {p : Customers.CurrentAccount → Bool} (hp : ∀ a, p a = true → a.customerId = id)
    (hfound : ∀ q ∈ g.office.records.currentAccounts.find? p, q.2.balance ≤ 0) {k : Uuid}
    {a : CurrentAccount} (hk : g.books.currentAccounts.get? k = some a) (howner : a.customerId = id)
    (ha : p a.record = true) : a.balance ≤ 0 := by
  have hrecord : g.office.records.currentAccounts.get? k = some a.record := by
    rw [office_account, hk]
    rfl
  obtain ⟨⟨l, r⟩, hfind⟩ := Option.isSome_iff_exists.mp (Table.find?_isSome hrecord ha)
  obtain ⟨hl, hr⟩ := Table.find?_some hfind
  rw [office_account] at hl
  obtain ⟨b, hb, rfl⟩ := Option.map_eq_some_iff.mp hl
  obtain rfl : k = l := hs.single k a hk l b hb (howner.trans (hp _ hr).symm)
  obtain rfl : a = b := Option.some.inj (hk.symm.trans hb)
  exact hfound _ hfind

theorem Garage.settled_of_checkArchive (hs : g.books.LedgerSound)
    (h : g.office.checkArchive id = .ok ()) : g.books.SettledFor id := by
  obtain ⟨horders, hbalance⟩ := Customers.checkArchive_ok h
  constructor
  · intro k wo hk howner
    have hrecord : g.office.records.workOrders.get? k = some wo.record :=
      (Table.get?_mapRows ..).trans (congrArg (Option.map WorkOrder.record) hk)
    obtain ⟨hqueue, hprogress⟩ := horders k wo.record hrecord howner
    have hstatus : wo.record.status = wo.status := rfl
    rw [hstatus] at hqueue hprogress
    cases hst : wo.status with
    | queue => exact absurd hst hqueue
    | inProgress => exact absurd hst hprogress
    | completed => rfl
    | cancelled => rfl
  · intro k a hk howner
    refine balance_le_of_found hs (p := fun a => a.customerId = id) (fun a ha => of_decide_eq_true ha)
      (fun q hq => ?_) hk howner (decide_eq_true howner)
    rw [Customers.Db.balance, hq] at hbalance
    exact hbalance

theorem Garage.settled_of_checkDebt {args : Customers.AnonymizeInput} (hs : g.books.LedgerSound)
    (hu : g.Unburdened args) (h : g.office.checkDebt args.tenantId args.customerId = .ok ()) :
    g.books.SettledFor args.customerId := by
  refine ⟨hu.orders, fun k a hk howner => ?_⟩
  have htenant := hu.accounts k a hk howner
  refine balance_le_of_found hs
    (p := fun a => a.customerId = args.customerId && a.tenantId = args.tenantId)
    (fun a ha => by simpa using (Bool.and_eq_true_iff.mp ha).1) (fun q hq => ?_) hk howner
    (by simp [CurrentAccount.record, howner, htenant])
  rw [Customers.Db.checkDebt, hq] at h
  simpa using h

namespace GarageTask

theorem Ready.plain {t : GarageTask} (hu : t.Underway) (harchives : t.archives? = none)
    (hanonymizes : t.anonymizes? = none) (hcomes : t.comesFor? = none) : t.Ready g := by
  refine ⟨hu, fun c hc => ?_, fun c hc => ?_, fun c hc => ?_⟩
  · rw [harchives] at hc
    cases hc
  · rw [hanonymizes] at hc
    cases hc
  · rw [hcomes] at hc
    cases hc

theorem Ready.after {α : Type} {check : Outcome α} {next : α → Customers.Task}
    (h : ∀ a, check = .ok a → (registry (next a)).Ready g) :
    (registry (.after check next)).Ready g := by
  cases check with
  | error e => exact .plain (.finished _) rfl rfl rfl
  | ok a => exact h a rfl

theorem Ready.coming {t : GarageTask} {c : Uuid} (hu : t.Underway) (harchives : t.archives? = none)
    (hanonymizes : t.anonymizes? = none) (hcomes : t.comesFor? = some c)
    (hc : g.isDeleted c = false) : t.Ready g := by
  refine ⟨hu, fun d hd => ?_, fun d hd => ?_, fun d hd => ?_⟩
  · rw [harchives] at hd
    cases hd
  · rw [hanonymizes] at hd
    cases hd
  · rw [hcomes] at hd
    obtain rfl := Option.some.inj hd
    exact hc

theorem Ready.redacting {t u : GarageTask} (h : t.Ready g) (hu : u.Underway)
    (harchives : u.archives? = none) (hanonymizes : u.anonymizes? = t.anonymizes?)
    (hcomes : u.comesFor? = none) : u.Ready g := by
  refine ⟨hu, fun d hd => ?_, hanonymizes ▸ h.anonymizes, fun d hd => ?_⟩
  · rw [harchives] at hd
    cases hd
  · rw [hcomes] at hd
    cases hd

theorem registry_ready {t : Customers.Task} (h : (registry t).Ready g) (hs : g.books.LedgerSound)
    (hu : ∀ args ∈ (registry t).checksDebt?, g.Unburdened args) (env : GarageEnv) :
    (registry (t.exec uc g.office env.registry).2).Ready g := by
  have hnext : (registry (t.exec uc g.office env.registry).2).Underway :=
    Customers.Task.Departs.exec uc h.underway _ _
  have ht : t.Departs := h.underway
  cases ht with
  | findToArchive tenantId id => exact .after fun _ _ => .plain (.archiveCustomer ..) rfl rfl rfl
  | archiveCustomer tenantId id =>
    refine .after fun a hcheck => ⟨.commit (.archive ..), fun c hc => ?_, nofun, nofun⟩
    obtain ⟨_, -, harchive⟩ := Outcome.bind_eq_ok.mp hcheck
    obtain rfl := Option.some.inj hc
    exact Garage.settled_of_checkArchive hs harchive
  | findArchived tenantId id => exact .after fun _ _ => .plain (.commit (.revive ..)) rfl rfl rfl
  | findForAnonymize args => exact .after fun _ _ => .plain (.anonymizeFind ..) rfl rfl rfl
  | anonymizeFind args => exact .after fun _ _ => .plain (.anonymizeDebt ..) rfl rfl rfl
  | anonymizeDebt args =>
    refine .after fun a hcheck => ⟨.anonymizeInvoice .., nofun, fun c hc => ?_, nofun⟩
    obtain rfl := Option.some.inj hc
    have hunburdened := hu args rfl
    exact ⟨Garage.settled_of_checkDebt hs hunburdened hcheck, hunburdened.vehicles⟩
  | anonymizeInvoice args =>
    exact .after fun _ _ => h.redacting (.anonymizeUpdate ..) rfl rfl rfl
  | anonymizeUpdate args =>
    simp only [Customers.Task.exec]
    split_ifs
    · exact h
    · exact h.redacting (.findAffected ..) rfl rfl rfl
  | findAffected args deletedAt => exact h.redacting (.maskLogs ..) rfl rfl rfl
  | maskLogs args deletedAt affected => exact h.redacting (.findLast ..) rfl rfl rfl
  | findLast args deletedAt affected masked => exact h.redacting (.insertRedaction ..) rfl rfl rfl
  | insertRedaction args deletedAt affected masked lastRedaction =>
    simp only [Customers.Task.exec]
    split <;> exact .plain (.finished _) rfl rfl rfl
  | findPlateAny tenantId dto =>
    simp only [Customers.Task.exec]
    split
    · refine .after fun _ _ => ?_
      split_ifs
      · exact .plain (.findNewOwner ..) rfl rfl rfl
      · exact .plain (.finished _) rfl rfl rfl
    · exact .after fun _ _ => .plain (.saveVehicle ..) rfl rfl rfl
  | saveVehicle tenantId vehicle =>
    refine .after fun a hcheck => .coming (.commit (.insert ..)) rfl rfl rfl ?_
    obtain ⟨customer, hcustomer, -⟩ := Outcome.bind_eq_ok.mp hcheck
    exact Garage.not_isDeleted_of_live (Outcome.required_eq_ok.mp hcustomer)
  | findNewOwner tenantId vehicleId newCustomerId =>
    refine .after fun a hcheck => .coming (.findTransferred ..) rfl rfl rfl ?_
    exact Garage.not_isDeleted_of_live (Outcome.required_eq_ok.mp hcheck)
  | findTransferred tenantId vehicleId newCustomerId =>
    exact .after fun _ _ => .coming (.commit (.transfer ..)) rfl rfl rfl (h.comes _ rfl)
  | @commit w hw =>
    simp only [Customers.Task.exec]
    split_ifs
    · exact h
    · split <;> exact .plain (.finished _) rfl rfl rfl
  | finished answer => exact h

end GarageTask

end Ready

section Run

variable {g g' : Garage} {uc : Customers.UpperCase}

theorem Garage.isLive_of_shop {customers : Table Customers.Customer}
    {vehicles : Table Customers.Vehicle} (t c : Uuid)
    (h : ((g.shop customers vehicles).liveCustomer? t c).isSome) :
    Customers.isLive customers c = true := by
  obtain ⟨customer, hcustomer⟩ := Option.isSome_iff_exists.mp h
  obtain ⟨hget, hlive⟩ := Option.filter_eq_some_iff.mp hcustomer
  have hrows : (g.shop customers vehicles).customers.get? c =
    (customers.get? c).map fun row => Customer.ofRegistry row := Table.get?_mapRows ..
  rw [hrows] at hget
  obtain ⟨row, hrow, rfl⟩ := Option.map_eq_some_iff.mp hget
  rw [Customers.isLive, hrow, Option.any_some, Option.isNone_iff_eq_none]
  exact (of_decide_eq_true hlive).2

theorem Garage.noVehicleOf_follow {seen : Table Customers.Vehicle} {db : Db} {c : Uuid}
    (h : g.NoVehicleOf c) : (g.follow seen db).NoVehicleOf c := by
  intro k v hk hc
  rw [follow, Table.get?_mapRows] at hk
  obtain ⟨old, hold, rfl⟩ := Option.map_eq_some_iff.mp hk
  exact h k old hold hc

namespace GarageTask

theorem exec_effect (uc : Customers.UpperCase) {t : GarageTask} (ht : t.Underway)
    (env : GarageEnv) (hs : g.books.LedgerSound) :
    t.Effect g (t.exec uc g env).1 ∧ (t.exec uc g env).1.books.LedgerSound := by
  cases t with
  | registry t => exact ⟨registry_effect uc ht env, hs⟩
  | workshop t => exact ⟨.quiet rfl (fun _ h => h) fun _ _ h => h, hs⟩
  | reading t customers vehicles =>
    have hshop : (g.shop customers vehicles).LedgerSound :=
      ⟨hs.single, hs.balances, hs.credits, hs.invoices⟩
    have hlive : ∀ tenantId c, ((g.shop customers vehicles).liveCustomer? tenantId c).isSome →
        Customers.isLive customers c = true := Garage.isLive_of_shop
    obtain ⟨hsettled, hsound⟩ := WorkshopTask.part_kept ht env.workshop hshop hlive
    refine ⟨.quiet rfl (fun c h => Garage.noVehicleOf_follow h) fun c hc h => ?_, hsound⟩
    exact hsettled c hc ⟨h.orders, h.balances⟩
  | payment phase =>
    have hshop : (g.shop g.registry.customers g.registry.vehicles).LedgerSound :=
      ⟨hs.single, hs.balances, hs.credits, hs.invoices⟩
    obtain ⟨hsettled, hsound⟩ := PaymentPhase.exec_kept ht env.payment hshop
    refine ⟨.quiet rfl (fun c h => Garage.noVehicleOf_follow h) fun c _ h => ?_, hsound⟩
    exact hsettled c nofun ⟨h.orders, h.balances⟩

theorem Ready.opens {t : GarageTask} (h : t.Ready g)
    (hreopens : ∀ c ∈ t.reopensFor? g, g.isDeleted c = false) :
    ∀ c ∈ t.opensFor? g, g.isDeleted c = false := by
  intro c hc
  cases t with
  | reading t customers vehicles =>
    rw [opensFor?, WorkshopTask.opensFor?, Option.mem_def, Option.or_eq_some_iff] at hc
    rcases hc with hfound | ⟨-, hreopened⟩
    · exact h.comes c hfound
    · exact hreopens c hreopened
  | registry | workshop | payment => cases hc

theorem deletes_cases {t : GarageTask} {c : Uuid} (h : c ∈ t.deletes?) :
    t.opensFor? g = none ∧ (c ∈ t.archives? ∨ c ∈ t.anonymizes? ∧ t.comesFor? = none) := by
  unfold deletes? at h
  split at h
  · exact ⟨rfl, .inl h⟩
  · exact ⟨rfl, .inr ⟨h, rfl⟩⟩
  · cases h

theorem Effect.nothingLeft {t : GarageTask} (he : t.Effect g g') (h : t.Ready g)
    (hopens : ∀ c ∈ t.opensFor? g, g.isDeleted c = false) (hg : g.NothingLeft) :
    g'.NothingLeft := by
  rw [Garage.nothingLeft_iff] at hg ⊢
  intro c hc
  cases hbefore : g.isDeleted c with
  | true =>
    obtain ⟨hsettled, hvehicles⟩ := hg c hbefore
    have hopened : c ∉ t.opensFor? g := fun ho => by
      rw [hopens c ho] at hbefore
      cases hbefore
    have hcomes : c ∉ t.comesFor? := fun ho => by
      rw [h.comes c ho] at hbefore
      cases hbefore
    exact ⟨he.settled c hopened hsettled, he.parked c hcomes hc hvehicles⟩
  | false =>
    have hdeletes : c ∈ t.deletes? := (he.deleted c hc).resolve_right (by rw [hbefore]; nofun)
    obtain ⟨hopened, hleaves⟩ := deletes_cases (g := g) hdeletes
    have hclosed : g.books.SettledFor c → g'.books.SettledFor c :=
      he.settled c (by rw [hopened]; nofun)
    rcases hleaves with harchives | ⟨hanonymizes, hcomes⟩
    · have hvehicles := (he.archived c harchives hc).resolve_left (by rw [hbefore]; nofun)
      exact ⟨hclosed (h.archives c harchives), hvehicles⟩
    · obtain ⟨hsettled, hvehicles⟩ := h.anonymizes c hanonymizes
      exact ⟨hclosed hsettled, he.parked c (by rw [hcomes]; nofun) hc hvehicles⟩

theorem Effect.ready {t u : GarageTask} (he : t.Effect g g') (hu : u.Ready g)
    (hdeletes : ∀ c ∈ t.deletes?, u.comesFor? ≠ some c)
    (hopens : ∀ c ∈ t.opensFor? g, ¬ (u.archives? = some c ∨ u.anonymizes? = some c))
    (hgives : ∀ c ∈ t.gives?, u.anonymizes? ≠ some c) : u.Ready g' := by
  refine ⟨hu.underway, fun c hc => ?_, fun c hc => ?_, fun c hc => ?_⟩
  · exact he.settled c (fun ho => hopens c ho (.inl hc)) (hu.archives c hc)
  · obtain ⟨hsettled, hvehicles⟩ := hu.anonymizes c hc
    exact ⟨he.settled c (fun ho => hopens c ho (.inr hc)) hsettled,
      he.vehicles c (fun ho => hgives c ho hc) hvehicles⟩
  · rw [← Bool.not_eq_true]
    intro hdeleted
    rcases he.deleted c hdeleted with hgone | hgone
    · exact hdeletes c hgone hc
    · rw [hu.comes c hc] at hgone
      cases hgone

theorem Ready.congr {t : GarageTask} (h : t.Ready g) (hbooks : g'.books = g.books)
    (hcustomers : g'.registry.customers = g.registry.customers)
    (hvehicles : g'.registry.vehicles = g.registry.vehicles) : t.Ready g' := by
  have hnone : ∀ c, g.NoVehicleOf c → g'.NoVehicleOf c := fun c hc k v hk => hc k v (hvehicles ▸ hk)
  refine ⟨h.underway, fun c hc => hbooks ▸ h.archives c hc, fun c hc => ?_, fun c hc => ?_⟩
  · obtain ⟨hsettled, hvehicle⟩ := h.anonymizes c hc
    exact ⟨hbooks ▸ hsettled, hnone c hvehicle⟩
  · rw [Garage.isDeleted, hcustomers]
    exact h.comes c hc

theorem Ready.exec {t : GarageTask} (h : t.Ready g) (hs : g.books.LedgerSound)
    (hu : ∀ args ∈ t.checksDebt?, g.Unburdened args) (env : GarageEnv) :
    (t.exec uc g env).2.Ready (t.exec uc g env).1 := by
  cases t with
  | registry t =>
    have hnext : (registry (t.exec uc g.office env.registry).2).Ready g := registry_ready h hs hu env
    have hexec : (registry t).exec uc g env =
        (⟨(t.exec uc g.office env.registry).1, g.books⟩,
          registry (t.exec uc g.office env.registry).2) := rfl
    rw [hexec]
    have ht : t.Departs := h.underway
    rcases Customers.exec_shared uc g.office t env.registry with
      ⟨w, next, rfl, hthrough, -⟩ | ⟨args, deletedAt, affected, masked, last, rfl, -⟩ |
        ⟨-, -, hcustomers, hvehicles, -⟩
    · cases ht with
      | commit hw =>
        have hdone : ∃ answer, ((Customers.Task.commit w .finish).exec uc g.office env.registry).2 =
            .finished answer := by
          rw [Customers.Task.through?] at hthrough
          split_ifs at hthrough with hgo
          simp only [Customers.Task.exec, hgo.1]
          rw [if_neg Bool.false_ne_true]
          split
          · exact ⟨_, rfl⟩
          · exact ⟨_, rfl⟩
        obtain ⟨answer, hanswer⟩ := hdone
        rw [hanswer]
        exact .plain (.finished answer) rfl rfl rfl
    · simp only [Customers.Task.exec]
      split <;> exact .plain (.finished _) rfl rfl rfl
    · exact hnext.congr rfl hcustomers hvehicles
  | workshop t =>
    refine ⟨h.underway, fun _ h => (by cases h), fun _ h => (by cases h), fun c hc => ?_⟩
    obtain ⟨-, hlive⟩ := Option.filter_eq_some_iff.mp hc
    obtain ⟨customer, hget, hnone⟩ := (Option.any_eq_true _ _).mp hlive
    exact Garage.not_isDeleted hget hnone
  | reading t customers vehicles =>
    have hdesk : t.IsDesk := h.underway
    exact .plain (hdesk.exec _ _) rfl rfl rfl
  | payment phase =>
    obtain ⟨c, hpos, hamount⟩ := h.underway
    have hcall := phase.call_exec (g.shop g.registry.customers g.registry.vehicles) env.payment
    exact .plain ⟨c, hpos, hcall ▸ hamount⟩ rfl rfl rfl

end GarageTask

theorem GarageRequest.enter_ready (r : GarageRequest) : (r.enter uc).Ready g := by
  cases r with
  | softDelete tenantId id => exact .plain (.findToArchive tenantId id) rfl rfl rfl
  | anonymizeCustomer args => exact .plain (.findForAnonymize args) rfl rfl rfl
  | restore tenantId id => exact .plain (.findArchived tenantId id) rfl rfl rfl
  | createVehicle tenantId dto =>
    rw [enter, Customers.Call.enter]
    exact .after fun _ _ => .plain (.findPlateAny tenantId dto) rfl rfl rfl
  | transferOwnership tenantId vehicleId newCustomerId =>
    exact .plain (.findNewOwner ..) rfl rfl rfl
  | createWorkOrder | rollbackWorkOrder | createInvoice | cancelInvoice =>
    refine .plain ?_ rfl rfl rfl
    simp [enter, WorkshopRequest.enter, GarageTask.Underway, WorkshopTask.IsDesk,
      WorkshopTask.useCase]
  | createPayment tenantId dto cashierName => exact .plain dto.2.amount_cents rfl rfl rfl

def GaragePool.Sound : GaragePool → Prop :=
  Pool.Holds (fun g : Garage => g.NothingLeft ∧ g.books.LedgerSound) fun g t => t.Ready g

theorem GaragePool.Sound.act {p : GaragePool} (hp : p.Sound) (a : GarageAction)
    (ha : p.KeepsApart a) : (p.act uc a).Sound := by
  cases a with
  | start r => exact hp.start r.enter_ready
  | step k env =>
    refine Pool.Holds.step_among hp fun t ht => ?_
    have hready := hp.2 k t ht
    have hapart := ha t ht
    obtain ⟨heffect, hsound⟩ := GarageTask.exec_effect uc hready.underway env hp.1.2
    refine ⟨⟨heffect.nothingLeft hready (hready.opens hapart.reopens) hp.1.1, hsound⟩,
      hready.exec hp.1.2 hapart.anonymizes env, fun i u hu hne => ?_⟩
    exact heffect.ready (hp.2 i u hu) (fun c hc => hapart.deletes c hc i u hu hne)
      (fun c hc => hapart.opens c hc i u hu hne) fun c hc => hapart.gives c hc i u hu hne

/-- In every interleaving in which no deletion of a customer overlaps with a request that has
found it, nothing is reopened for a deleted customer, and anonymisations are asked for where
they overlook nothing, no deleted customer has anything open. -/
theorem always_nothingLeft (uc : Customers.UpperCase) {g : Garage} (hg : g.NothingLeft)
    (hsound : g.books.LedgerSound) {actions : List GarageAction}
    (h : EachStep (GaragePool.act uc) GaragePool.KeepsApart (Pool.idle g) actions) :
    Always (GaragePool.act uc) (fun p => p.shared.NothingLeft) (Pool.idle g) actions := by
  have keep : ∀ (p : GaragePool) a, p.Sound → p.KeepsApart a → (p.act uc a).Sound :=
    fun p a hp ha => hp.act a ha
  have hstart : GaragePool.Sound (Pool.idle g) := Pool.holds_idle ⟨hg, hsound⟩
  exact (always_of_step keep hstart h).mono fun p hp => hp.1.1

end Run

section Example

instance (g : Garage) : Decidable g.NothingLeft :=
  decidable_of_iff (_ ∧ _ ∧ _) ⟨fun h => ⟨h.1, h.2.1, h.2.2⟩, fun h => ⟨h.1, h.2, h.3⟩⟩

instance (db : Db) : Decidable db.LedgerSound :=
  decidable_of_iff (_ ∧ _ ∧ _ ∧ _)
    ⟨fun h => ⟨h.1, h.2.1, h.2.2.1, h.2.2.2⟩, fun h => ⟨h.1, h.2, h.3, h.4⟩⟩

instance (g : Garage) (id : Uuid) : Decidable (g.NoVehicleOf id) := by
  unfold Garage.NoVehicleOf
  infer_instance

instance (g : Garage) (args : Customers.AnonymizeInput) : Decidable (g.Unburdened args) :=
  decidable_of_iff (_ ∧ _ ∧ _) ⟨fun h => ⟨h.1, h.2.1, h.2.2⟩, fun h => ⟨h.1, h.2, h.3⟩⟩

instance (p : GaragePool) (k : ℕ) (t : GarageTask) : Decidable (p.Apart k t) :=
  decidable_of_iff (_ ∧ _ ∧ _ ∧ _ ∧ _)
    ⟨fun h => ⟨h.1, h.2.1, h.2.2.1, h.2.2.2.1, h.2.2.2.2⟩, fun h => ⟨h.1, h.2, h.3, h.4, h.5⟩⟩

instance (p : GaragePool) : (a : GarageAction) → Decidable (p.KeepsApart a)
  | .start _ => .isTrue trivial
  | .step k _ => inferInstanceAs (Decidable (∀ t ∈ p.threads.get? k, p.Apart k t))

def exampleGarage : Garage where
  registry := { Customers.exampleDb with
    vehicles := .ofList
      [{ tenantId := 0, customerId := 0, plate := "34ABC123", brand := "Volkswagen",
         model := "Golf", year := 2022, vin := none, currentKm := 42000, deletedAt := none }] }
  books := { sampleDb with
    workOrders := .ofList
      [{ tenantId := 0, workOrderNumber := "WO-2025-00007", appointmentId := none, customerId := 0,
         vehicleId := 0, assignedMechanicId := none, assignedLift := none, status := .completed,
         initialKm := 42000, fuelLevel := none, subtotal := 0, kdvAmount := 0, grandTotal := 0,
         completedAt := some 0 }] }

def garageEnv : GarageEnv where
  registry := Customers.exampleEnv
  workshop :=
    { clock := { now := 0, year := 2026 }, eInvoice := .noProvider, eInvoiceCancellation := none,
      notificationError := none, toUpperCase := id }
  payment := sampleEnv

def GarageTask.steps (thread count : ℕ) : List GarageAction :=
  List.replicate count (.step thread garageEnv)

def GarageRequest.run (r : GarageRequest) (thread count : ℕ) : List GarageAction :=
  .start r :: GarageTask.steps thread count

/-- The customer is deleted with its vehicle, and restored before its order is taken back. -/
theorem nothingLeft_restored :
    Always (GaragePool.act Customers.asciiUpper) (fun p => p.shared.NothingLeft)
      (Pool.idle exampleGarage)
      ((GarageRequest.softDelete 0 0).run 0 3 ++ (GarageRequest.restore 0 0).run 1 2 ++
        (GarageRequest.rollbackWorkOrder 0 0).run 2 6) :=
  always_nothingLeft Customers.asciiUpper (by decide +kernel) (by decide +kernel)
    (by decide +kernel)

def exampleOrder : CreateWorkOrderInput where
  appointmentId := none
  customerId := 0
  vehicleId := 0
  assignedMechanicId := none
  assignedLift := none
  initialKm := 42500
  fuelLevel := none
  items := []

/-- An anonymised customer keeps its vehicle; the order of a deleted one is taken back; one is
opened for a customer that is deleted while the order is written. -/
theorem vehicle_and_order_left :
    (¬ ∀ actions, Always (GaragePool.act Customers.asciiUpper) (fun p => p.shared.NothingLeft)
        (Pool.idle exampleGarage) actions) ∧
      ¬ Always (GaragePool.act Customers.asciiUpper) (fun p => p.shared.NothingLeft)
        (Pool.idle exampleGarage)
        ((GarageRequest.softDelete 0 0).run 0 3 ++ (GarageRequest.rollbackWorkOrder 0 0).run 1 6) ∧
      ¬ Always (GaragePool.act Customers.asciiUpper) (fun p => p.shared.NothingLeft)
        (Pool.idle exampleGarage)
        ((GarageRequest.createWorkOrder 0 exampleOrder).run 0 5 ++
          (GarageRequest.softDelete 0 0).run 1 3 ++ GarageTask.steps 0 1) := by
  refine ⟨fun h => ?_, by decide +kernel, by decide +kernel⟩
  have hleft := (h ((GarageRequest.anonymizeCustomer (Customers.exampleInput 0)).run 0 9)).last
  revert hleft
  decide +kernel

end Example

end WorksAuto
