import WorksAuto.Tenants.Belonging
import WorksAuto.Workshop.Step

/-! The writes of orders, invoices and payments advance the database.
The references of a new row name rows that were looked up in the tenant of the row, in the same
transaction or before it. -/

namespace WorksAuto

open Lib

variable {db db' : Db} {clock : Clock} {t id : Uuid}

section Lookups

theorem ref?_holds {target : Target} {o : Option Uuid}
    (h : ∀ id ∈ o, db.Belongs t (target, id)) : db.Holds t (target.ref? o) := by
  intro x hx
  obtain ⟨id, hid, rfl⟩ := List.mem_map.mp hx
  exact h id (Option.mem_toList.mp hid)

theorem Db.Holds.cons {x : Reference} {refs : List Reference} (hx : db.Belongs t x)
    (h : db.Holds t refs) : db.Holds t (x :: refs) := List.forall_mem_cons.mpr ⟨hx, h⟩

theorem Db.Holds.append {refs refs' : List Reference} (h : db.Holds t refs)
    (h' : db.Holds t refs') : db.Holds t (refs ++ refs') := List.forall_mem_append.mpr ⟨h, h'⟩

theorem Db.belongs_of_liveCustomer? {c : Customer} (h : db.liveCustomer? t id = some c) :
    db.Belongs t (.customer, id) := by
  obtain ⟨hget, hlive⟩ := Option.filter_eq_some_iff.mp h
  obtain ⟨rfl, -⟩ := of_decide_eq_true hlive
  exact Table.belongs_of_get? hget _

theorem Db.belongs_of_liveVehicle? {v : Vehicle} (h : db.liveVehicle? t id = some v) :
    db.Belongs t (.vehicle, id) := by
  obtain ⟨hget, hlive⟩ := Option.filter_eq_some_iff.mp h
  obtain ⟨rfl, -⟩ := of_decide_eq_true hlive
  exact Table.belongs_of_get? hget _

theorem Db.belongs_of_appointment? {a : Appointment} (h : db.appointment? t id = some a) :
    db.Belongs t (.appointment, id) := by
  obtain ⟨hget, rfl⟩ := appointment?_eq_some.mp h
  exact Table.belongs_of_get? hget _

theorem Db.belongs_of_workOrder? {wo : WorkOrder} (h : db.workOrder? t id = some wo) :
    db.Belongs t (.workOrder, id) := by
  obtain ⟨hget, rfl⟩ := workOrder?_eq_some.mp h
  exact Table.belongs_of_get? hget _

theorem Db.belongs_of_invoice? {inv : Invoice} (h : db.invoice? t id = some inv) :
    db.Belongs t (.invoice, id) := by
  obtain ⟨hget, rfl⟩ := invoice?_eq_some.mp h
  exact Table.belongs_of_get? hget _

end Lookups

section Stock

theorem Db.Advances.movements (db : Db) (movements : Table StockMovement) :
    db.Advances { db with stockMovements := movements } := .of_eq rfl

theorem Db.Advances.items (db : Db) (items : Table WorkOrderItem) :
    db.Advances { db with workOrderItems := items } := .of_eq rfl

theorem Db.Advances.post (db : Db) (m : StockMovement) : db.Advances (db.post m) := by
  have hproducts : db.Advances { db with
      products := db.products.modify m.productId fun p =>
        { p with stockQuantity := m.apply p.stockQuantity } } :=
    .modifyProducts fun _ _ _ _ => ⟨rfl, fun h => h⟩
  exact hproducts.trans (.movements ..)

theorem Db.Advances.postAll (db : Db) (ms : List StockMovement) :
    db.Advances (db.postAll ms) := by
  induction ms generalizing db with
  | nil => exact .refl db
  | cons m ms ih => exact (Advances.post db m).trans (ih (db.post m))

theorem decrementAtomic_advances {q : ℤ} {refId : String}
    (h : decrementAtomic db t id q refId = .ok db') : db.Advances db' := by
  obtain ⟨m, -, -, -, rfl⟩ := decrementAtomic_ok h
  exact .post db m

theorem incrementAtomic_advances {q : ℤ} {refId : String}
    (h : incrementAtomic db t id q refId = .ok db') : db.Advances db' := by
  obtain ⟨m, -, -, -, -, rfl⟩ := incrementAtomic_ok h
  exact .post db m

end Stock

section Orders

theorem recalculateTotals_advances {w : Uuid} (h : recalculateTotals db w = .ok db') :
    db.Advances db' := by
  obtain ⟨s, k, g, -, rfl⟩ := recalculateTotals_ok h
  exact .modifyOrder _ fun _ => ⟨rfl, rfl⟩

theorem storeNewItem_advances {w : Uuid} {item : NewWorkOrderItem}
    (h : storeNewItem t w db item = .ok db') : db.Advances db' := by
  obtain ⟨row, -, -, rfl⟩ := storeNewItem_ok h
  exact (Db.Advances.postAll db (item.consumption t w)).trans (.items ..)

theorem storeNewItems_advances {w : Uuid} {items : List NewWorkOrderItem}
    (h : items.foldlM (storeNewItem t w) db = .ok db') : db.Advances db' := by
  induction items generalizing db with
  | nil =>
    obtain rfl := Outcome.pure_eq_ok.mp h
    exact .refl db
  | cons item items ih =>
    rw [List.foldlM_cons] at h
    obtain ⟨mid, hmid, hrest⟩ := Outcome.bind_eq_ok.mp h
    exact (storeNewItem_advances hmid).trans (ih hrest)

theorem Db.Advances.retotalled {ms : List StockMovement} {items : Table WorkOrderItem} {w : Uuid}
    (h : recalculateTotals { db.postAll ms with workOrderItems := items } w = .ok db') :
    db.Advances db' :=
  (Advances.postAll db ms).trans ((Advances.items ..).trans (recalculateTotals_advances h))

theorem addItem_advances {w : Uuid} {item : NewWorkOrderItem}
    (h : addItem db t w item = .ok db') : db.Advances db' := by
  obtain ⟨wo, inserted, -, -, hinsert, htotals⟩ := addItem_steps h
  obtain ⟨row, -, rfl⟩ := insertItem_ok hinsert
  exact .retotalled htotals

theorem updateItem_advances {w k : Uuid} {data : WorkOrderItemChanges}
    (h : updateItem db t w k data = .ok db') : db.Advances db' := by
  obtain ⟨wo, it, name, totalPrice, -, -, -, -, -, htotals⟩ := updateItem_steps h
  exact .retotalled htotals

theorem removeItem_advances {w k : Uuid} (h : removeItem db t w k = .ok db') :
    db.Advances db' := by
  obtain ⟨wo, it, -, -, -, htotals⟩ := removeItem_steps h
  exact .retotalled htotals

theorem checkMechanic_belongs {mechanicId : Option Uuid}
    (h : checkMechanic clock db t mechanicId = .ok ()) :
    ∀ id ∈ mechanicId, db.Belongs t (.mechanic, id) := by
  rintro id ⟨⟩
  obtain ⟨m, hm, -⟩ := Outcome.bind_eq_ok.mp h
  obtain ⟨hget, htenant⟩ := Option.filter_eq_some_iff.mp (Outcome.required_eq_ok.mp hm)
  obtain rfl := of_decide_eq_true htenant
  exact Table.belongs_of_get? hget _

theorem Db.Advances.admitted (db : Db) (a : Option Uuid) :
    db.Advances { db with appointments := db.admitted a } := by
  cases a with
  | none => exact .refl db
  | some id =>
    change db.Advances { db with
      appointments := db.appointments.modify id (setAppointmentStatus .inService) }
    exact .modifyAppointments fun _ _ _ _ => ⟨rfl, fun h => h⟩

theorem insertWorkOrder_advances {data : CreateWorkOrderData}
    (hcustomer : db.Belongs data.tenantId (.customer, data.customerId))
    (hvehicle : db.Belongs data.tenantId (.vehicle, data.vehicleId))
    (hmechanic : ∀ id ∈ data.assignedMechanicId, db.Belongs data.tenantId (.mechanic, id))
    (happointment : ∀ id ∈ data.appointmentId, db.Belongs data.tenantId (.appointment, id))
    (h : insertWorkOrder db data = .ok (db', id)) : db.Advances db' := by
  obtain ⟨order, hopened, -, -, rfl⟩ := insertWorkOrder_ok h
  refine .workOrders (Table.keeps_insert ..) fun hdb => hdb.workOrders.insert ?_
  rw [hopened.tenantId, WorkOrder.references, hopened.customerId, hopened.vehicleId,
    hopened.assignedMechanicId, hopened.appointmentId]
  exact Db.Holds.cons hcustomer (Db.Holds.cons hvehicle
    (Db.Holds.append (ref?_holds hmechanic) (ref?_holds happointment)))

theorem createWorkOrder_advances {data : CreateWorkOrderData}
    (h : createWorkOrder clock db data = .ok (db', id)) : db.Advances db' := by
  obtain ⟨customer, vehicle, inserted, hcustomer, hvehicle, hmechanic, hadmitted, hinsert,
    hitems⟩ := createWorkOrder_steps h
  have hadvance := Db.Advances.admitted db data.appointmentId
  have hc := Db.belongs_of_liveCustomer? hcustomer
  have hv := Db.belongs_of_liveVehicle? hvehicle
  have ha : ∀ id ∈ data.appointmentId, db.Belongs data.tenantId (.appointment, id) := by
    intro id hid
    obtain ⟨a, ha⟩ := hadmitted id hid
    exact Db.belongs_of_appointment? ha
  refine hadvance.trans ((insertWorkOrder_advances (hc.mono hadvance.grows)
    (hv.mono hadvance.grows) (fun id hid => ?_) (fun id hid => ?_) hinsert).trans ?_)
  · exact (checkMechanic_belongs hmechanic id hid).mono hadvance.grows
  · exact (ha id hid).mono hadvance.grows
  · refine .trans (.vehicles ?_) (storeNewItems_advances hitems)
    split_ifs
    · exact Table.keeps_modify fun _ _ => by rfl
    · exact .refl ..

theorem writeStatus_advances {status : WorkOrderStatus} {completedAt : Option Instant}
    (h : writeStatus db id status completedAt = .ok db') : db.Advances db' := by
  obtain ⟨wo, -, rfl⟩ := writeStatus_ok h
  exact .modifyOrder _ fun _ => ⟨rfl, rfl⟩

theorem cancelAppointmentAndWorkOrder_advances {reason : String}
    (h : cancelAppointmentAndWorkOrder db t id reason = .ok db') : db.Advances db' := by
  obtain rfl := cancelAppointmentAndWorkOrder_ok h
  have hcancel : db.Advances { db with
      appointments := db.appointments.modify id (Appointment.cancel reason) } :=
    .modifyAppointments fun _ _ _ _ => ⟨rfl, fun h => h⟩
  cases db.withdrawnOrder? id with
  | none => exact hcancel
  | some o => exact hcancel.trans (.modifyOrder o.1 fun _ => ⟨rfl, rfl⟩)

end Orders

section Billing

variable {invoice : InvoiceEntity}

theorem Db.Advances.accounts (db : Db) (accounts : Table CurrentAccount) :
    db.Advances { db with currentAccounts := accounts } := .of_eq rfl

theorem Db.Advances.addCariMovement (db : Db) (m : CariMovement) :
    db.Advances (db.addCariMovement m) := .of_eq rfl

theorem Db.Advances.sequences (db : Db) (sequences : Table DocumentSequence) :
    db.Advances { db with documentSequences := sequences } := .of_eq rfl

theorem Db.Advances.invoiceItems (db : Db) (items : Table InvoiceItem) :
    db.Advances { db with invoiceItems := items } := .of_eq rfl

theorem Db.Advances.attempts (db : Db) (attempts : Table PaymentAttempt) :
    db.Advances { db with paymentAttempts := attempts } := .of_eq rfl

theorem checkWorkOrder_belongs (h : checkWorkOrder db invoice = .ok ()) :
    ∀ id ∈ invoice.workOrderId, db.Belongs invoice.tenantId (.workOrder, id) := by
  intro id hid
  unfold checkWorkOrder at h
  rw [Option.mem_def.mp hid] at h
  obtain ⟨wo, hwo, -⟩ := Outcome.bind_eq_ok.mp h
  exact Db.belongs_of_workOrder? (Outcome.required_eq_ok.mp hwo)

theorem insertInvoice_advances {row : Invoice}
    (hcustomer : db.Belongs row.tenantId (.customer, row.customerId))
    (horder : ∀ id ∈ row.workOrderId, db.Belongs row.tenantId (.workOrder, id))
    (h : insertInvoice db row = .ok (db', id)) :
    db.Advances db' ∧ db'.Belongs row.tenantId (.invoice, id) := by
  obtain ⟨rfl, rfl, -⟩ := insertInvoice_ok h
  refine ⟨.invoices (Table.keeps_insert ..) fun hdb => hdb.invoices.insert ?_,
    Table.belongs_insert_next _ _ row⟩
  exact Db.Holds.cons hcustomer (ref?_holds horder)

theorem insertPayment_advances {row : Payment}
    (hcustomer : db.Belongs row.tenantId (.customer, row.customerId))
    (hinvoice : ∀ id ∈ row.invoiceId, db.Belongs row.tenantId (.invoice, id))
    (h : insertPayment db row = .ok (db', id)) : db.Advances db' := by
  obtain ⟨-, rfl, -⟩ := insertPayment_ok h
  exact .payments fun hdb => hdb.payments.insert (Db.Holds.cons hcustomer (ref?_holds hinvoice))

theorem recordAdvanceOffset_advances {x : ℚ}
    (hcustomer : db.Belongs invoice.tenantId (.customer, invoice.customerId))
    (hinvoice : db.Belongs invoice.tenantId (.invoice, id))
    (h : recordAdvanceOffset db invoice id x = .ok db') : db.Advances db' := by
  obtain ⟨payment, rfl, hpayment, -⟩ := recordAdvanceOffset_ok h
  cases payment with
  | none => exact .refl db
  | some p =>
    have hp := hpayment p rfl
    refine .payments fun hdb => hdb.payments.insert (Db.Holds.cons ?_ (ref?_holds ?_))
    · rw [hp.tenantId_eq, hp.customerId_eq]
      exact hcustomer
    · rw [hp.tenantId_eq, hp.invoiceId_eq]
      rintro i ⟨⟩
      exact hinvoice

theorem findOrCreateAccount_advances {customerId : Uuid} {a : CurrentAccount}
    (h : findOrCreateAccount db t customerId = .ok (db', id, a)) : db.Advances db' := by
  obtain ⟨accounts, rfl, -⟩ := findOrCreateAccount_ok h
  exact .accounts ..

theorem allocateNumber_advances {number : String} {gib : Option String}
    (h : allocateNumber clock db invoice = .ok (db', number, gib)) : db.Advances db' := by
  obtain ⟨sequences, rfl⟩ := allocateNumber_frame h
  exact .sequences ..

theorem snapshotItems_advances {items : List InvoiceLine}
    (h : items.foldlM (snapshotItem id) db = .ok db') : db.Advances db' := by
  obtain ⟨rows, rfl⟩ := snapshotItems_frame h
  exact .invoiceItems ..

theorem debitAccount_advances {amount : ℚ} {balance : ℤ}
    (h : debitAccount db id amount = .ok (db', balance)) : db.Advances db' := by
  obtain ⟨accounts, rfl⟩ := debitAccount_frame h
  exact .accounts ..

theorem creditAccount_advances {amount : ℚ} {balance : ℤ}
    (h : creditAccount db id amount = .ok (db', balance)) : db.Advances db' := by
  obtain ⟨accounts, rfl⟩ := creditAccount_frame h
  exact .accounts ..

theorem Db.Advances.completeWorkOrder (db : Db) (w : Option Uuid) :
    db.Advances (completeWorkOrder clock db w) := by
  cases w with
  | none => exact .refl db
  | some id => exact .modifyOrder id fun _ => ⟨rfl, rfl⟩

theorem createWithCariMovement_advances {offset : Option ℚ}
    {result : CreateInvoiceTransactionResult}
    (h : createWithCariMovement clock db invoice offset = .ok (db', result)) :
    db.Advances db' := by
  obtain ⟨s⟩ := createWithCariMovement_steps h
  have hc := Db.belongs_of_liveCustomer? s.found
  have hw := checkWorkOrder_belongs s.checked
  have hstored := invoiceRow_ok s.row_eq
  have hbefore := (findOrCreateAccount_advances s.opens).trans (allocateNumber_advances s.numbers)
  obtain ⟨hinserted, hinvoice⟩ := insertInvoice_advances
    (hstored.tenantId.symm ▸ hstored.customerId.symm ▸ hc.mono hbefore.grows)
    (fun id hid => hstored.tenantId.symm ▸
      (hw id (hstored.workOrderId ▸ hid)).mono hbefore.grows) s.inserts
  have hsnapshot := snapshotItems_advances s.snapshots
  have hrecorded := (hbefore.trans hinserted).trans hsnapshot
  have hoffsetted := recordAdvanceOffset_advances (hc.mono hrecorded.grows)
    (hstored.tenantId ▸ hinvoice.mono hsnapshot.grows) s.offsets
  rw [s.db_eq]
  exact (hrecorded.trans hoffsetted).trans
    ((debitAccount_advances s.debits).trans ((Db.Advances.addCariMovement ..).trans
      (.completeWorkOrder ..)))

theorem updateEInvoiceDetails_advances {d : EInvoiceDetails}
    (h : updateEInvoiceDetails db t id d = .ok db') : db.Advances db' := by
  obtain ⟨inv, -, h₁⟩ := Outcome.bind_eq_ok.mp h
  cases Outcome.pure_eq_ok.mp h₁
  exact .modifyInvoices fun _ _ _ _ => ⟨rfl, fun h => h⟩

theorem Db.Advances.cancelInvoice (db : Db) (id : Uuid) :
    db.Advances { db with invoices := db.invoices.modify id cancelInvoiceRow } := by
  refine .modifyInvoices fun _ inv _ _ => ⟨rfl, fun hrefs x hx => ?_⟩
  obtain rfl := List.mem_singleton.mp hx
  exact hrefs _ List.mem_cons_self

theorem reverseDebit_advances {cancelled : Invoice}
    (h : reverseDebit db t id cancelled = .ok db') : db.Advances db' := by
  obtain ⟨-, rfl⟩ | ⟨accountId, account, debits, balance, -, -, -, rfl⟩ := reverseDebit_cases h
  · exact .refl _
  · exact (Db.Advances.accounts ..).trans ((Db.Advances.addCariMovement ..).trans
      (.payments fun hdb => hdb.payments.modifyIf fun _ _ _ _ hp => hp))

theorem cancelWithCariReversal_advances (h : cancelWithCariReversal db t id = .ok db') :
    db.Advances db' := by
  obtain ⟨existing, mid, -, -, hreverse, hlast⟩ := cancelWithCariReversal_steps h
  have hbefore := (Db.Advances.cancelInvoice db id).trans (reverseDebit_advances hreverse)
  obtain rfl := reopenWorkOrder_ok hlast
  cases existing.workOrderId with
  | none => exact hbefore
  | some w => exact hbefore.trans (.modifyOrder w fun _ => ⟨rfl, rfl⟩)

theorem payInvoice_keeps {inv inv' : Invoice} {amount : ℚ} (h : payInvoice inv amount = .ok inv') :
    inv'.tenantId = inv.tenantId ∧ inv'.references = inv.references := by
  obtain ⟨paid, -, h₁⟩ := Outcome.bind_eq_ok.mp h
  obtain ⟨remaining, -, h₂⟩ := Outcome.bind_eq_ok.mp h₁
  cases Outcome.pure_eq_ok.mp h₂
  exact ⟨rfl, rfl⟩

theorem applyToInvoice_advances {invoiceId : Option Uuid} {amount : ℚ}
    (h : applyToInvoice db t invoiceId amount = .ok db') : db.Advances db' := by
  obtain ⟨-, rfl⟩ | ⟨id, inv, paid, -, hinv, hpaid, rfl⟩ := applyToInvoice_cases h
  · exact .refl _
  · obtain ⟨ht, hrefs⟩ := payInvoice_keeps hpaid
    obtain ⟨hget, -⟩ := Db.invoice?_eq_some.mp hinv
    refine .modifyInvoices fun k old hold hk => ?_
    -- the row that is written over is the one that was read
    rw [beq_iff_eq] at hk
    subst hk
    obtain rfl := Option.some.inj (hold.symm.trans hget)
    exact ⟨ht, fun h => hrefs ▸ h⟩

theorem markAttemptPaid_advances {attemptId : Option String}
    (h : markAttemptPaid db attemptId = .ok db') : db.Advances db' := by
  obtain ⟨attempts, rfl, -⟩ := markAttemptPaid_ok h
  exact .attempts ..

theorem checkOpenBalance_belongs {call : PaymentCall} (h : checkOpenBalance db call = .ok ()) :
    ∀ id ∈ call.dto.invoiceId, db.Belongs call.tenantId (.invoice, id) := by
  intro id hid
  simp only [checkOpenBalance, Option.mem_def.mp hid, Outcome.reject_eq_ok] at h
  cases hinv : db.invoice? call.tenantId id with
  | none => simp [hinv] at h
  | some inv => exact Db.belongs_of_invoice? hinv

theorem collectPayment_advances {call : PaymentCall} {customerId : Uuid}
    (hcustomer : db.Belongs call.tenantId (.customer, customerId))
    (h : collectPayment db call customerId = .ok (db', id)) : db.Advances db' := by
  obtain ⟨s⟩ := collectPayment_steps h
  have hinserted := insertPayment_advances hcustomer (checkOpenBalance_belongs s.checked) s.inserts
  have happlied := hinserted.trans (applyToInvoice_advances s.applies)
  have hcredited := (findOrCreateAccount_advances s.opens).trans (creditAccount_advances s.credits)
  exact (happlied.trans hcredited).trans
    ((Db.Advances.addCariMovement ..).trans (markAttemptPaid_advances s.marks))

theorem recordPayment_advances {call : PaymentCall} {customerId : Uuid}
    (hcustomer : db.Belongs call.tenantId (.customer, customerId))
    (h : recordPayment db call customerId = .ok (db', id)) : db.Advances db' := by
  unfold recordPayment at h
  split at h
  · cases Outcome.pure_eq_ok.mp h
    exact .refl db
  · exact collectPayment_advances hcustomer h

end Billing

end WorksAuto
