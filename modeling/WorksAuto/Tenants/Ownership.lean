import WorksAuto.Inventory.Placing
import WorksAuto.Tenants.Linking
import WorksAuto.Workshop.Serial

/-! References never leave the tenant, unless a request names another tenant's row.
A request under way holds what it has looked up; what it is going to store belongs to the tenant
of the row, or is named by the request. While no part stores a foreign row that its request
names, every step keeps this. -/

namespace WorksAuto

open Lib

section Pending

variable {db db' : Db} {request : AgendaRequest} {t : Uuid} {x : Reference}

/-- A reference that the request names itself, or one that belongs to the tenant. -/
def AgendaRequest.Allows (request : AgendaRequest) (db : Db) (t : Uuid) (x : Reference) : Prop :=
  request.named = some (t, x) ∨ db.Belongs t x

theorem AgendaRequest.Allows.mono (hg : db.Grows db') (h : request.Allows db t x) :
    request.Allows db' t x := h.imp_right fun hx => hx.mono hg

theorem AgendaRequest.Allows.not_foreign (h : request.Allows db t x)
    (hnamed : (request.named.any fun n => db.foreign n.1 n.2) = false) :
    db.foreign t x = false := by
  rcases h with h | h
  · simpa [h] using hnamed
  · exact h.not_foreign

def Appointment.AssignedBy (request : AgendaRequest) (db : Db) (a : Appointment) : Prop :=
  ∀ m ∈ a.assignedMechanicId, request.Allows db a.tenantId (.mechanic, m)

def WorkshopTask.Pending (request : AgendaRequest) (db : Db) : WorkshopTask → Prop
  | .updateProduct tenantId id dto => request = .workshop (.updateStockItem tenantId id dto)
  | .saveRead item _ => item.Placed (request.Allows db)
  | .saveCell item _ _ | .saveProduct item _ _ => item.Placed (request.Allows db) ∧
      db.products.Belongs Product.tenantId item.tenantId item.id
  | _ => True

def AgendaTask.Pending (request : AgendaRequest) (db : Db) : AgendaTask → Prop
  | .lockSlot a | .insert a => db.Holds a.tenantId a.references
  | .reschedule tenantId id dto => request = .rescheduleAppointment tenantId id dto
  | .moveMechanic id app dto | .moveLift id app dto =>
    request = .rescheduleAppointment app.tenantId id dto ∧ app.AssignedBy request db
  | .save _ _ a => a.AssignedBy request db
  | .write id _ a => a.AssignedBy request db ∧
      (∀ s ∈ a.serviceId, db.Belongs a.tenantId (.service, s)) ∧
      db.Belongs a.tenantId (.appointment, id)
  | .work task => task.Pending request db
  | _ => True

def PaymentPhase.Pending (db : Db) : PaymentPhase → Prop
  | .transact call customerId => db.Belongs call.tenantId (.customer, customerId)
  | _ => True

def BillingTask.Pending (db : Db) : BillingTask → Prop
  | .payment phase | .callbackPayment _ phase => phase.Pending db
  | _ => True

def TenantTask.Pending (db : Db) : TenantTask → Prop
  | .agenda request task => task.Pending request db
  | .billing task => task.Pending db
  | _ => True

theorem Appointment.AssignedBy.mono (hg : db.Grows db') {a : Appointment}
    (h : a.AssignedBy request db) : a.AssignedBy request db' := fun m hm => (h m hm).mono hg

theorem WorkshopTask.Pending.mono (hg : db.Grows db') {task : WorkshopTask}
    (h : task.Pending request db) : task.Pending request db' := by
  have hallows : ∀ {t : Uuid} {x : Reference}, request.Allows db t x → request.Allows db' t x :=
    fun hx => hx.mono hg
  cases task with
  | saveRead item movement => exact StockItemEntity.Placed.mono (fun _ _ => hallows) h
  | saveCell item movement existing | saveProduct item movement shelf =>
    exact ⟨h.1.mono fun _ _ => hallows, h.2.mono hg.products⟩
  | _ => exact h

theorem AgendaTask.Pending.mono (hg : db.Grows db') {task : AgendaTask}
    (h : task.Pending request db) : task.Pending request db' := by
  cases task with
  | lockSlot a | insert a => exact Db.Holds.mono hg h
  | moveMechanic id app dto | moveLift id app dto => exact ⟨h.1, h.2.mono hg⟩
  | save id old a => exact Appointment.AssignedBy.mono hg h
  | write id old a => exact ⟨h.1.mono hg, fun s hs => (h.2.1 s hs).mono hg, h.2.2.mono hg⟩
  | work task => exact WorkshopTask.Pending.mono hg h
  | _ => exact h

theorem TenantTask.Pending.mono (hg : db.Grows db') {task : TenantTask} (h : task.Pending db) :
    task.Pending db' := by
  have hphase : ∀ {phase : PaymentPhase}, phase.Pending db → phase.Pending db' := by
    intro phase hp
    cases phase with
    | transact call customerId =>
      change db.Belongs call.tenantId (.customer, customerId) at hp
      exact hp.mono hg
    | _ => exact hp
  cases task with
  | agenda request task => exact AgendaTask.Pending.mono hg h
  | billing task =>
    cases task with
    | payment phase | callbackPayment payload phase => exact hphase h
    | _ => exact h
  | _ => exact h

theorem TenantRequest.enter_pending (r : TenantRequest) (db : Db) : r.enter.Pending db := by
  cases r with
  | agenda request =>
    cases request with
    | rescheduleAppointment tenantId id dto => rfl
    | workshop request => cases request <;> first | rfl | trivial
    | _ => trivial
  | billing request => cases request <;> trivial
  | _ => trivial

end Pending

section Workshop

namespace WorkshopTask

variable {db db' : Db} {request : AgendaRequest} {env : WorkshopEnv}

theorem commits_advances {r : Outcome Db} {next : WorkshopTask}
    (h : ∀ db', r = .ok db' → db.Advances db') : db.Advances (commits db r next).1 := by
  cases r with
  | error e => exact .refl db
  | ok db' => exact h db' rfl

theorem reads_advances {α : Type} (r : Outcome α) (next : α → WorkshopTask) :
    db.Advances (reads db r next).1 := by
  cases r <;> exact .refl db

/-- A part of the workshop advances the database, provided that the product that it saves gets
no cell of another tenant. -/
theorem exec_advances {task : WorkshopTask} (ht : task.Pending request db)
    (hcross : ((AgendaTask.work task).stores &&
      request.named.any fun n => db.foreign n.1 n.2) = false)
    (href : (task.exec db env).1.Referential) : db.Advances (task.exec db env).1 := by
  cases task with
  | numberOrder tenantId input =>
    simp only [exec]
    split
    · exact .refl db
    · next hnumber =>
      obtain ⟨⟨mid, n⟩, hnext, h₁⟩ := Outcome.bind_eq_ok.mp hnumber
      obtain ⟨sequences, rfl⟩ := nextDocumentNumber_ok hnext
      cases Outcome.pure_eq_ok.mp h₁
      exact .sequences ..
  | storeOrder tenantId input woNumber =>
    refine commits_advances fun db' h => ?_
    obtain ⟨⟨stored, id⟩, hcreate, rfl⟩ := Outcome.map_eq_ok.mp h
    exact createWorkOrder_advances hcreate
  | storeItem tenantId workOrderId dto => exact commits_advances fun _ => addItem_advances
  | changeItem tenantId workOrderId itemId data => exact commits_advances fun _ => updateItem_advances
  | deleteItem tenantId workOrderId itemId => exact commits_advances fun _ => removeItem_advances
  | writeStatus u => exact commits_advances fun _ => writeStatus_advances
  | readCancelled u =>
    simp only [exec]
    split <;> exact .refl db
  | restoreStock u items =>
    refine commits_advances fun db' h => ?_
    obtain ⟨-, rfl⟩ := restoreCancelledStock_ok h
    exact .postAll ..
  | syncAppointment u =>
    simp only [exec]
    split
    · exact .modifyAppointments fun _ _ _ _ => ⟨rfl, fun h => h⟩
    · exact .refl db
  | readAutoInvoice u | readInvoice u =>
    simp only [exec]
    split_ifs <;> exact .refl db
  | writeRollback tenantId id prev => exact commits_advances fun _ => writeStatus_advances
  | issueInvoice tenantId dto =>
    simp only [exec]
    split
    · exact .refl db
    · next hissue => exact createWithCariMovement_advances hissue
  | eInvoice tenantId id details => exact commits_advances fun _ => updateEInvoiceDetails_advances
  | voidInvoice tenantId id => exact commits_advances fun _ => cancelWithCariReversal_advances
  | storeCancellation tenantId id reason =>
    exact commits_advances fun _ => cancelAppointmentAndWorkOrder_advances
  | storeDecrement tenantId productId quantity refId =>
    exact commits_advances fun _ => decrementAtomic_advances
  | storeIncrement tenantId productId quantity refId =>
    exact commits_advances fun _ => incrementAtomic_advances
  | saveCell item movement existing | finished answer => exact .refl db
  | saveProduct item movement shelf =>
    refine commits_advances fun db' h => ?_
    have hnamed : (request.named.any fun n => db.foreign n.1 n.2) = false := hcross
    refine saveProduct_advances (fun p hp => ht.2.2 p hp)
      (ht.1.mono fun _ _ hx => hx.not_foreign hnamed) ?_ h
    simpa only [exec, commits, h] using href
  | storeMovement movement =>
    refine commits_advances fun db' h => ?_
    rw [addStockMovement_ok h]
    exact .movements ..
  | createOrder | addItem | updateItem | removeItem | updateStatus | confirmOrder | rollback
  | confirmRollback | cancelInvoice | cancelAppointment | decrementStock | incrementStock
  | addMovement | updateProduct | saveRead | checkMovement => exact reads_advances ..

theorem reads_pending {α : Type} {r : Outcome α} {next : α → WorkshopTask}
    (h : ∀ a, r = .ok a → (next a).Pending request db) :
    (reads db' r next).2.Pending request db := by
  cases r with
  | error e => trivial
  | ok a => exact h a rfl

theorem commits_pending {r : Outcome Db} {next : WorkshopTask} (h : next.Pending request db) :
    (commits db' r next).2.Pending request db := by
  cases r with
  | error e => trivial
  | ok _ => exact h

theorem findStockItem_placed (hdb : db.Local) (hproducts : db'.products = db.products)
    {toUpperCase : String → String} {tenantId id : Uuid} {item : StockItemEntity}
    (h : findStockItem toUpperCase db' tenantId id = some item) :
    item.Placed db.Belongs ∧ item.tenantId = tenantId := by
  obtain ⟨p, hp, rfl⟩ := Option.map_eq_some_iff.mp h
  obtain ⟨⟨hget, htenant⟩, -⟩ := Db.liveProduct?_eq_some.mp hp
  rw [hproducts] at hget
  exact ⟨mapToEntity_placed hdb hget _, htenant⟩

theorem afterSync_pending (u : StatusUpdate) : (afterSync u).Pending request db := by
  unfold afterSync
  split_ifs <;> trivial

theorem afterRestore_pending (u : StatusUpdate) : (afterRestore u).Pending request db := by
  unfold afterRestore
  split_ifs
  · trivial
  · exact afterSync_pending u

theorem afterWrite_pending (u : StatusUpdate) : (afterWrite u).Pending request db := by
  unfold afterWrite
  split_ifs
  · trivial
  · exact afterRestore_pending u

theorem exec_pending {task : WorkshopTask} (hdb : db.Local)
    (hproducts : db'.products = db.products) (ht : task.Pending request db) :
    (task.exec db' env).2.Pending request db := by
  have hbelongs : ∀ {item : StockItemEntity}, item.Placed db.Belongs →
      item.Placed (request.Allows db) := fun h => h.mono fun _ _ => .inr
  cases task with
  | numberOrder tenantId input =>
    simp only [exec]
    split <;> trivial
  | writeStatus u => exact commits_pending (afterWrite_pending u)
  | readCancelled u =>
    simp only [exec]
    split
    · exact afterRestore_pending u
    · trivial
  | restoreStock u items => exact commits_pending (afterRestore_pending u)
  | syncAppointment u =>
    simp only [exec]
    split <;> exact afterSync_pending u
  | readAutoInvoice u | readInvoice u =>
    simp only [exec]
    split_ifs <;> trivial
  | issueInvoice tenantId dto =>
    simp only [exec, afterIssue]
    split
    · trivial
    · split <;> trivial
  | addMovement tenantId productId input =>
    refine reads_pending fun item h => ?_
    obtain ⟨found, hfound, h₁⟩ := Outcome.bind_eq_ok.mp h
    obtain ⟨hplaced, -⟩ := findStockItem_placed hdb hproducts (Outcome.required_eq_ok.mp hfound)
    obtain ⟨n, rfl⟩ := AddStockMovementInput.apply_eq h₁
    exact fun c hc => hbelongs hplaced c hc
  | updateProduct tenantId id dto =>
    refine reads_pending fun item h => ?_
    obtain ⟨found, hfound, h₁⟩ := Outcome.bind_eq_ok.mp h
    obtain ⟨hplaced, htenant⟩ :=
      findStockItem_placed hdb hproducts (Outcome.required_eq_ok.mp hfound)
    cases Outcome.pure_eq_ok.mp h₁
    refine UpdateProductDto.apply_placed (hbelongs hplaced) fun c hc => .inl ?_
    rw [htenant, show request = _ from ht]
    simp [AgendaRequest.named, hc]
  | saveRead item movement =>
    refine reads_pending fun existing h => ⟨ht, ?_⟩
    obtain ⟨⟨hget, htenant⟩, -⟩ := Db.liveProduct?_eq_some.mp (Outcome.required_eq_ok.mp h)
    rw [hproducts] at hget
    exact htenant ▸ Table.belongs_of_get? hget Product.tenantId
  | saveCell item movement existing => exact ht
  | saveProduct item movement shelf =>
    apply commits_pending
    cases movement <;> trivial
  | finished answer => trivial
  | storeOrder | storeItem | changeItem | deleteItem | writeRollback | eInvoice | voidInvoice
  | storeCancellation | storeDecrement | storeIncrement | storeMovement =>
    exact commits_pending trivial
  | createOrder | addItem | updateItem | removeItem | updateStatus | confirmOrder | rollback
  | confirmRollback | cancelInvoice | cancelAppointment | decrementStock | incrementStock
  | checkMovement => exact reads_pending fun _ _ => trivial

end WorkshopTask

end Workshop

section Agenda

namespace AgendaTask

variable {s : Agenda} {request : AgendaRequest} {env : WorkshopEnv}

theorem reads_advances {α : Type} (r : Outcome α) (next : α → AgendaTask) :
    s.db.Advances (reads s r next).1.db := by
  cases r <;> exact .refl s.db

theorem workshopPart_advances {task : WorkshopTask} (ht : task.Pending request s.db)
    (hcross : ((AgendaTask.work task).stores &&
      request.named.any fun n => s.db.foreign n.1 n.2) = false)
    (href : (workshopPart s.db task env).1.Referential) :
    s.db.Advances (workshopPart s.db task env).1 := by
  unfold workshopPart at href ⊢
  cases henforced : (task.exec s.db env).1.enforced with
  | ok db' =>
    rw [henforced] at href
    exact WorkshopTask.exec_advances ht hcross href
  | error e => cases task <;> exact .refl s.db

theorem workshopPart_pending {task : WorkshopTask} (hdb : s.db.Local)
    (ht : task.Pending request s.db) :
    (workshopPart s.db task env).2.Pending request s.db := by
  unfold workshopPart
  cases (task.exec s.db env).1.enforced with
  | ok db' => exact WorkshopTask.exec_pending hdb rfl ht
  | error e =>
    cases task with
    | syncAppointment u => exact WorkshopTask.afterSync_pending u
    | _ => trivial

theorem execVisible_advances {task : AgendaTask} (ht : task.Pending request s.db)
    (hcross : (task.stores && request.named.any fun n => s.db.foreign n.1 n.2) = false)
    (href : (task.execVisible s env).1.db.Referential) :
    s.db.Advances (task.execVisible s env).1.db := by
  cases task with
  | readBays tenantId dto =>
    simp only [execVisible, exec]
    split <;> exact .refl s.db
  | tryBays tenantId dto bays =>
    cases bays with
    | nil => exact .refl s.db
    | cons bay rest =>
      simp only [execVisible, exec]
      split_ifs <;> exact .refl s.db
  | publicCustomer tenantId dto lift => exact findOrCreateCustomerForPublic_advances ..
  | publicVehicle tenantId dto lift customerId =>
    simp only [execVisible, exec]
    split
    · exact .refl s.db
    · next hvehicle => exact findOrCreateVehicleForPublic_advances hvehicle
  | lockSlot entity =>
    simp only [execVisible, exec]
    split_ifs
    · exact .refl s.db
    · split <;> exact .refl s.db
  | insert entity =>
    simp only [execVisible, exec, commits]
    split
    · exact .refl s.db
    · next hinsert => exact insertAppointment_advances ht hinsert
  | write id old entity =>
    have hnamed : (request.named.any fun n => s.db.foreign n.1 n.2) = false := hcross
    simp only [execVisible, exec, commits] at href ⊢
    split
    · exact .refl s.db
    · next hsave =>
      rw [hsave] at href
      exact saveAppointment_advances (fun r hr => ht.2.2.2 r hr) ht.2.1
        (fun m hm => (ht.1 m hm).not_foreign hnamed) href hsave
  | work task =>
    simp only [execVisible] at href ⊢
    split at href
    · exact .refl s.db
    · exact workshopPart_advances ht hcross href
  | finished answer => exact .refl s.db
  | create | bookMechanic | bookLift | createPublic | checkParties | reschedule | moveMechanic
  | moveLift | approve | updateStatus | markNoShow | save => exact reads_advances ..

theorem reads_pending {α : Type} {r : Outcome α} {next : α → AgendaTask}
    (h : ∀ a, r = .ok a → (next a).Pending request s.db) :
    (reads s r next).2.Pending request s.db := by
  cases r with
  | error e => trivial
  | ok a => exact h a rfl

theorem assignedBy_of_get? (hdb : s.db.Local) {id : Uuid} {a : Appointment}
    (ha : s.db.appointments.get? id = some a) : a.AssignedBy request s.db := by
  intro m hm
  refine .inr (hdb.appointments id a ha (.mechanic, m) ?_)
  refine List.mem_cons_of_mem _ (List.mem_cons_of_mem _ (List.mem_append_right _ ?_))
  exact List.mem_map.mpr ⟨m, Option.mem_toList.mpr hm, rfl⟩

theorem edited_assignedBy (hdb : s.db.Local) {tenantId id : Uuid}
    {edit : Appointment → Outcome Appointment} {old : AppointmentStatus} {a : Appointment}
    (hedit : ∀ b b', edit b = .ok b' →
      b'.tenantId = b.tenantId ∧ b'.assignedMechanicId = b.assignedMechanicId)
    (h : s.db.edited tenantId id edit = .ok (old, a)) : a.AssignedBy request s.db := by
  obtain ⟨b, hb, h₁⟩ := Outcome.bind_eq_ok.mp h
  obtain ⟨b', hb', h₂⟩ := Outcome.bind_eq_ok.mp h₁
  cases Outcome.pure_eq_ok.mp h₂
  obtain ⟨hget, -⟩ := Db.appointment?_eq_some.mp (Outcome.required_eq_ok.mp hb)
  obtain ⟨htenant, hmechanic⟩ := hedit b _ hb'
  intro m hm
  rw [htenant]
  exact assignedBy_of_get? hdb hget m (hmechanic ▸ hm)

theorem reschedule_assignedBy {id : Uuid} {a b : Appointment}
    {dto : RescheduleAppointmentInput} {db : Db}
    (hrequest : request = .rescheduleAppointment a.tenantId id dto)
    (ha : a.AssignedBy request db) (h : a.reschedule dto = .ok b) : b.AssignedBy request db := by
  obtain ⟨-, rfl⟩ := Appointment.reschedule_ok h
  intro m hm
  change dto.assignedMechanicId.getD a.assignedMechanicId = some m at hm
  cases hgiven : dto.assignedMechanicId with
  | none =>
    rw [hgiven] at hm
    exact ha m hm
  | some given =>
    rw [hgiven] at hm
    refine .inl ?_
    rw [hrequest]
    simp only [AgendaRequest.named, hgiven]
    rw [show given = some m from hm]
    rfl

theorem execVisible_pending {task : AgendaTask} (hdb : s.db.Local)
    (ht : task.Pending request s.db) :
    (task.execVisible s env).2.Pending request s.db := by
  cases task with
  | readBays tenantId dto =>
    simp only [execVisible, exec]
    split <;> trivial
  | tryBays tenantId dto bays =>
    cases bays with
    | nil => trivial
    | cons bay rest =>
      simp only [execVisible, exec]
      split_ifs <;> trivial
  | publicVehicle tenantId dto lift customerId =>
    simp only [execVisible, exec]
    split <;> trivial
  | checkParties entity => exact reads_pending fun _ h => checkParties_holds h
  | lockSlot entity =>
    simp only [execVisible, exec]
    split_ifs
    · exact ht
    · split
      · trivial
      · exact ht
  | insert entity | write id old entity =>
    simp only [execVisible, exec, commits]
    split <;> trivial
  | reschedule tenantId id dto =>
    refine reads_pending fun app h => ?_
    obtain ⟨found, hfound, h₁⟩ := Outcome.bind_eq_ok.mp h
    obtain ⟨u, -, h₂⟩ := Outcome.bind_eq_ok.mp h₁
    obtain ⟨v, -, h₃⟩ := Outcome.bind_eq_ok.mp h₂
    obtain ⟨w, -, h₄⟩ := Outcome.bind_eq_ok.mp h₃
    cases Outcome.pure_eq_ok.mp h₄
    obtain ⟨hget, rfl⟩ := Db.appointment?_eq_some.mp (Outcome.required_eq_ok.mp hfound)
    exact ⟨ht, assignedBy_of_get? hdb hget⟩
  | moveMechanic id app dto => exact reads_pending fun _ _ => ht
  | moveLift id app dto =>
    refine reads_pending fun entity h => ?_
    obtain ⟨u, -, h₁⟩ := Outcome.bind_eq_ok.mp h
    exact reschedule_assignedBy ht.1 ht.2 h₁
  | approve tenantId id =>
    refine reads_pending fun found h => edited_assignedBy hdb (fun b b' hb => ?_) h
    obtain ⟨-, rfl⟩ := Appointment.confirm_ok hb
    exact ⟨rfl, rfl⟩
  | updateStatus tenantId id status reason =>
    refine reads_pending fun found h => edited_assignedBy hdb (fun b b' hb => ?_) h
    obtain ⟨mapped, -, h₁⟩ := Outcome.bind_eq_ok.mp hb
    cases Outcome.pure_eq_ok.mp h₁
    exact ⟨rfl, rfl⟩
  | markNoShow tenantId id =>
    refine reads_pending fun found h => edited_assignedBy hdb (fun b b' hb => ?_) h
    obtain ⟨-, rfl⟩ := Appointment.markNoShow_ok hb
    exact ⟨rfl, rfl⟩
  | save id old entity =>
    refine reads_pending fun saved h => ?_
    obtain ⟨existing, hexisting, h₁⟩ := Outcome.bind_eq_ok.mp h
    cases Outcome.pure_eq_ok.mp h₁
    have hfound := Outcome.required_eq_ok.mp hexisting
    refine ⟨ht, fun service hservice => ?_, Db.belongs_of_appointment? hfound⟩
    obtain ⟨hget, htenant⟩ := Db.appointment?_eq_some.mp hfound
    simp only at hservice
    split_ifs at hservice
    · exact validServiceId_belongs service hservice
    · refine htenant ▸ hdb.appointments id existing hget (.service, service) ?_
      refine List.mem_cons_of_mem _ (List.mem_cons_of_mem _ (List.mem_append_left _ ?_))
      exact List.mem_map.mpr ⟨service, Option.mem_toList.mpr hservice, rfl⟩
  | work task =>
    simp only [execVisible]
    split
    · exact WorkshopTask.exec_pending hdb rfl ht
    · exact workshopPart_pending hdb ht
  | publicCustomer | finished => trivial
  | create | bookMechanic | bookLift | createPublic => exact reads_pending fun _ _ => trivial

end AgendaTask

end Agenda

section Billing

variable {db : Db} {env : Env}

theorem commit_advances {r : Outcome Db} (h : ∀ db', r = .ok db' → db.Advances db') :
    db.Advances (commit db r) := by
  cases r with
  | error e => exact .refl db
  | ok db' => exact h db' rfl

theorem PaymentPhase.exec_advances (phase : PaymentPhase) (env : Env) (h : phase.Pending db) :
    db.Advances (phase.exec db env).1 := by
  cases phase with
  | start call =>
    simp only [exec]
    split
    · exact .refl db
    · split <;> exact .refl db
  | readInvoice call | readCustomer call customerId | notify call paymentId =>
    simp only [exec]
    split <;> exact .refl db
  | transact call customerId =>
    simp only [exec]
    split
    · exact .refl db
    · next hrecord => exact recordPayment_advances h hrecord
  | done call result => exact .refl db

theorem PaymentPhase.exec_pending (phase : PaymentPhase) (env : Env) :
    (phase.exec db env).2.Pending db := by
  cases phase with
  | start call =>
    simp only [exec]
    split
    · trivial
    · split <;> trivial
  | readCustomer call customerId =>
    simp only [exec]
    split
    · trivial
    · next hcustomer => exact Db.belongs_of_liveCustomer? (Outcome.required_eq_ok.mp hcustomer)
  | readInvoice call | transact call customerId | notify call paymentId =>
    simp only [exec]
    split <;> trivial
  | done call result => trivial

theorem BillingTask.exec_advances {cfg : PayTrConfig} {task : BillingTask}
    (h : task.Pending db) : db.Advances (task.exec cfg db env).1 := by
  cases task with
  | issue invoice offset =>
    refine commit_advances fun db' hr => ?_
    obtain ⟨⟨stored, result⟩, hissue, rfl⟩ := Outcome.map_eq_ok.mp hr
    exact createWithCariMovement_advances hissue
  | void tenantId id => exact commit_advances fun _ => cancelWithCariReversal_advances
  | payment phase => exact phase.exec_advances env h
  | token invoiceId =>
    simp only [exec]
    split <;> exact .refl db
  | newAttempt invoiceId tenantId amount =>
    refine commit_advances fun db' hr => ?_
    obtain ⟨cents, -, h₁⟩ := Outcome.bind_eq_ok.mp hr
    obtain ⟨u, -, h₂⟩ := Outcome.bind_eq_ok.mp h₁
    obtain ⟨v, -, h₃⟩ := Outcome.bind_eq_ok.mp h₂
    cases Outcome.pure_eq_ok.mp h₃
    exact .attempts ..
  | callback payload | callbackInvoice payload attempt =>
    simp only [exec]
    split <;> exact .refl db
  | callbackPayment payload phase =>
    have hphase := phase.exec_advances env h
    cases phase <;> exact hphase
  | answered payload answer | finished => exact .refl db

theorem BillingTask.exec_pending {cfg : PayTrConfig} {task : BillingTask} :
    (task.exec cfg db env).2.Pending db := by
  cases task with
  | payment phase => exact phase.exec_pending env
  | token invoiceId | callback payload | callbackInvoice payload attempt =>
    simp only [exec]
    split <;> trivial
  | callbackPayment payload phase =>
    have hphase : (phase.exec db env).2.Pending db := phase.exec_pending env
    cases phase with
    | done call result => trivial
    | _ => exact hphase
  | _ => trivial

end Billing

section Runs

variable {cfg : PayTrConfig} {s : Agenda} {env : TenantEnv}

namespace TenantTask

theorem attempt_advances {task : TenantTask} (hdb : s.db.Local) (ht : task.Pending s.db)
    (hapart : task.crosses s.db = false) (href : (task.attempt cfg s env).1.db.Referential) :
    s.db.Advances (task.attempt cfg s env).1.db := by
  cases task with
  | agenda request task => exact AgendaTask.execVisible_advances ht hapart href
  | billing task => exact BillingTask.exec_advances ht
  | warehouse tenantId request =>
    refine serve_advances hdb (fun x hx => ?_) href
    simp only [crosses] at hapart
    rwa [Option.mem_def.mp hx, Option.any_some] at hapart
  | directory task => exact task.exec_advances s.db
  | finished answer => exact .refl s.db

theorem attempt_pending {task : TenantTask} (hdb : s.db.Local) (ht : task.Pending s.db) :
    (task.attempt cfg s env).2.Pending s.db := by
  cases task with
  | agenda request task => exact AgendaTask.execVisible_pending hdb ht
  | billing task => exact BillingTask.exec_pending
  | warehouse | directory | finished => trivial

theorem exec_of_referential {task : TenantTask}
    (href : (task.attempt cfg s env).1.db.Referential) :
    task.exec cfg s env = task.attempt cfg s env := by
  simp only [exec, href, if_true]

theorem exec_of_not_referential {task : TenantTask}
    (href : ¬(task.attempt cfg s env).1.db.Referential) :
    task.exec cfg s env = ({ (task.attempt cfg s env).1 with db := s.db },
      .finished (.error (.database "P2003"))) := by
  simp only [exec, href, if_false]

theorem exec_keeps (cfg : PayTrConfig) {task : TenantTask} (env : TenantEnv) (hdb : s.db.Local)
    (href : s.db.Referential) (ht : task.Pending s.db) (hapart : task.crosses s.db = false) :
    s.db.Advances (task.exec cfg s env).1.db ∧ (task.exec cfg s env).1.db.Referential ∧
      (task.exec cfg s env).2.Pending s.db := by
  by_cases hattempt : (task.attempt cfg s env).1.db.Referential
  · rw [exec_of_referential hattempt]
    exact ⟨attempt_advances hdb ht hapart hattempt, hattempt, attempt_pending hdb ht⟩
  · rw [exec_of_not_referential hattempt]
    exact ⟨.refl s.db, href, trivial⟩

end TenantTask

namespace TenantPool

/-- Rows hold what belongs to their tenant, and requests under way what they may store. -/
def Kept : TenantPool → Prop :=
  Pool.Holds (fun s => s.db.Local ∧ s.db.Referential) fun s t => t.Pending s.db

theorem kept_act {p : TenantPool} {action : TenantAction} (h : p.Kept)
    (hapart : p.StaysApart action) : (TenantPool.act cfg p action).Kept := by
  cases action with
  | start r => exact h.start (r.enter_pending p.shared.db)
  | step k env =>
    refine h.step fun t ht => ?_
    obtain ⟨hadvances, href, hpending⟩ :=
      TenantTask.exec_keeps cfg env h.1.1 h.1.2 (h.2 k t ht) (hapart t ht)
    exact ⟨⟨hadvances.keeps h.1.1, href⟩, hpending.mono hadvances.grows,
      fun u hu => hu.mono hadvances.grows⟩

end TenantPool

/-- While no part stores a row of another tenant that its request names, no reference leaves
its tenant. -/
theorem owned_of_staysApart (cfg : PayTrConfig) {db : Db} (hdb : db.Owned)
    (actions : List TenantAction)
    (hapart : EachStep (TenantPool.act cfg) TenantPool.StaysApart (TenantPool.idle db) actions) :
    Always (TenantPool.act cfg) (fun p => p.shared.db.Owned) (TenantPool.idle db) actions := by
  have hidle : (TenantPool.idle db).Kept := Pool.holds_idle ⟨hdb.isLocal, hdb.referential⟩
  have hkept : Always (TenantPool.act cfg) TenantPool.Kept (TenantPool.idle db) actions :=
    always_of_step (fun _ _ hp ha => TenantPool.kept_act hp ha) hidle hapart
  exact hkept.mono fun p hp => hp.1.1.owned hp.1.2

end Runs

section Sample

instance (p : TenantPool) (action : TenantAction) : Decidable (p.StaysApart action) :=
  match action with
  | .start _ => .isTrue trivial
  | .step k _ =>
    inferInstanceAs (Decidable (∀ t ∈ p.threads.get? k, t.crosses p.shared.db = false))

/-- Two workshops, each with a customer, a car, a mechanic and an appointment. -/
def neighbours : Db :=
  { Db.empty with
    tenants := warehouse.tenants
    customers := .ofList [shopCustomer, { shopCustomer with tenantId := 1 }]
    vehicles := .ofList
      [{ tenantId := 0, customerId := 0, plate := "34ABC123", currentKm := 0, deletedAt := none },
        { tenantId := 1, customerId := 1, plate := "06XYZ789", currentKm := 0, deletedAt := none }]
    mechanics := .ofList [{ tenantId := 0, userId := 0 }, { tenantId := 1, userId := 1 }]
    appointments := .ofList
      [shopAppointment, { shopAppointment with tenantId := 1, customerId := 1, vehicleId := 1 }] }

def tenantEnv : TenantEnv where
  workshop := shopEnv
  billing := sampleEnv

/-- The second workshop's appointment goes to the given mechanic. -/
def reassigned (mechanicId : Uuid) : TenantRequest :=
  .agenda (.rescheduleAppointment 1 1
    { slotDate := 0, slotStartTime := 50400000, slotEndTime := 54000000,
      assignedMechanicId := some (some mechanicId), assignedLift := none })

/-- A workshop sets up a shelf and puts a new product into a cell of it. -/
def shelved (tenantId : Uuid) : List TenantAction :=
  [.start (.warehouse 0 (.createShelf frontShelf)),
    .start (.warehouse tenantId (.createStockItem (oilFilter (some 0)))),
    .step 0 tenantEnv, .step 1 tenantEnv]

def atHome : List TenantAction :=
  shelved 0 ++ .start (reassigned 1) :: List.replicate 5 (.step 2 tenantEnv)

example : let db := (run (TenantPool.act sampleConfig) (.idle neighbours) atHome).shared.db
    (db.products.rows.length, (db.appointments.get? 1).map Appointment.assignedMechanicId) =
      (1, some (some 1)) := by decide +kernel

theorem owned_atHome :
    Always (TenantPool.act sampleConfig) (fun p => p.shared.db.Owned) (.idle neighbours) atHome :=
  owned_of_staysApart sampleConfig (by decide +kernel) atHome (by decide +kernel)

/-- One workshop's product lies in a cell of the other, and so does one's appointment go to the
other's mechanic. -/
theorem linked_to_neighbour :
    ¬ Always (TenantPool.act sampleConfig) (fun p => p.shared.db.Owned) (.idle neighbours)
        (shelved 1) ∧
      ¬ Always (TenantPool.act sampleConfig) (fun p => p.shared.db.Owned) (.idle neighbours)
        (.start (reassigned 0) :: List.replicate 5 (.step 0 tenantEnv)) := by
  refine ⟨fun h => ?_, fun h => ?_⟩
  · have hlast := h.last
    revert hlast
    decide +kernel
  · have hlast := h.last
    revert hlast
    decide +kernel

end Sample

end WorksAuto
