import WorksAuto.Tenants.Books

/-! No request takes anything out of the books.
One lemma for each write, the run over every interleaving of the requests of all modules at the
end. Nothing is assumed of the database or of the requests. -/

namespace WorksAuto

open Lib

variable {db db' : Db} {clock : Clock} {t id : Uuid}

section Stock

theorem Db.Spares.items (db : Db) (items : Table WorkOrderItem) :
    db.Spares { db with workOrderItems := items } := .of_files rfl rfl

theorem Db.Spares.post (db : Db) (m : StockMovement) : db.Spares (db.post m) := by
  have hproducts : db.Spares { db with
      products := db.products.modify m.productId fun p =>
        { p with stockQuantity := m.apply p.stockQuantity } } :=
    .modifyProducts fun _ => rfl
  exact hproducts.trans (.insertMovement ..)

theorem Db.Spares.postAll (db : Db) (ms : List StockMovement) :
    db.Spares (db.postAll ms) := by
  induction ms generalizing db with
  | nil => exact .refl db
  | cons m ms ih => exact (Spares.post db m).trans (ih (db.post m))

theorem decrementAtomic_spares {q : ℤ} {refId : String}
    (h : decrementAtomic db t id q refId = .ok db') : db.Spares db' := by
  obtain ⟨m, -, -, -, rfl⟩ := decrementAtomic_ok h
  exact .post db m

theorem incrementAtomic_spares {q : ℤ} {refId : String}
    (h : incrementAtomic db t id q refId = .ok db') : db.Spares db' := by
  obtain ⟨m, -, -, -, -, rfl⟩ := incrementAtomic_ok h
  exact .post db m

end Stock

section Orders

theorem recalculateTotals_spares {w : Uuid} (h : recalculateTotals db w = .ok db') :
    db.Spares db' := by
  obtain ⟨s, k, g, -, rfl⟩ := recalculateTotals_ok h
  exact .modifyWorkOrders fun _ => rfl

theorem storeNewItem_spares {w : Uuid} {item : NewWorkOrderItem}
    (h : storeNewItem t w db item = .ok db') : db.Spares db' := by
  obtain ⟨row, -, -, rfl⟩ := storeNewItem_ok h
  exact (Db.Spares.postAll db (item.consumption t w)).trans (.items ..)

theorem storeNewItems_spares {w : Uuid} {items : List NewWorkOrderItem}
    (h : items.foldlM (storeNewItem t w) db = .ok db') : db.Spares db' := by
  induction items generalizing db with
  | nil =>
    obtain rfl := Outcome.pure_eq_ok.mp h
    exact .refl db
  | cons item items ih =>
    rw [List.foldlM_cons] at h
    obtain ⟨mid, hmid, hrest⟩ := Outcome.bind_eq_ok.mp h
    exact (storeNewItem_spares hmid).trans (ih hrest)

theorem Db.Spares.retotalled {ms : List StockMovement} {items : Table WorkOrderItem} {w : Uuid}
    (h : recalculateTotals { db.postAll ms with workOrderItems := items } w = .ok db') :
    db.Spares db' :=
  (Spares.postAll db ms).trans ((Spares.items ..).trans (recalculateTotals_spares h))

theorem addItem_spares {w : Uuid} {item : NewWorkOrderItem}
    (h : addItem db t w item = .ok db') : db.Spares db' := by
  obtain ⟨wo, inserted, -, -, hinsert, htotals⟩ := addItem_steps h
  obtain ⟨row, -, rfl⟩ := insertItem_ok hinsert
  exact .retotalled htotals

theorem updateItem_spares {w k : Uuid} {data : WorkOrderItemChanges}
    (h : updateItem db t w k data = .ok db') : db.Spares db' := by
  obtain ⟨wo, it, name, totalPrice, -, -, -, -, -, htotals⟩ := updateItem_steps h
  exact .retotalled htotals

theorem removeItem_spares {w k : Uuid} (h : removeItem db t w k = .ok db') :
    db.Spares db' := by
  obtain ⟨wo, it, -, -, -, htotals⟩ := removeItem_steps h
  exact .retotalled htotals

theorem Db.Spares.admitted (db : Db) (a : Option Uuid) :
    db.Spares { db with appointments := db.admitted a } := by
  cases a with
  | none => exact .refl db
  | some id =>
    change db.Spares { db with
      appointments := db.appointments.modify id (setAppointmentStatus .inService) }
    exact .modifyAppointments fun _ => rfl

theorem insertWorkOrder_spares {data : CreateWorkOrderData}
    (h : insertWorkOrder db data = .ok (db', id)) : db.Spares db' := by
  obtain ⟨order, -, -, -, rfl⟩ := insertWorkOrder_ok h
  exact .insertWorkOrder ..

theorem advanceOdometer_spares (db : Db) (vehicleId : Uuid) (vehicle : Vehicle) (km : ℤ) :
    db.Spares (advanceOdometer db vehicleId vehicle km) := by
  unfold advanceOdometer
  split_ifs
  · exact .modifyVehicles fun _ => by rfl
  · exact .refl db

theorem createWorkOrder_spares {data : CreateWorkOrderData}
    (h : createWorkOrder clock db data = .ok (db', id)) : db.Spares db' := by
  obtain ⟨-, vehicle, inserted, -, -, -, -, hinsert, hitems⟩ := createWorkOrder_steps h
  have hinserted := (Db.Spares.admitted db _).trans (insertWorkOrder_spares hinsert)
  exact (hinserted.trans (advanceOdometer_spares ..)).trans (storeNewItems_spares hitems)

theorem writeStatus_spares {status : WorkOrderStatus} {completedAt : Option Instant}
    (h : writeStatus db id status completedAt = .ok db') : db.Spares db' := by
  obtain ⟨wo, -, rfl⟩ := writeStatus_ok h
  exact .modifyWorkOrders fun _ => rfl

theorem cancelAppointmentAndWorkOrder_spares {reason : String}
    (h : cancelAppointmentAndWorkOrder db t id reason = .ok db') : db.Spares db' := by
  obtain rfl := cancelAppointmentAndWorkOrder_ok h
  have hcancel : db.Spares { db with
      appointments := db.appointments.modify id (Appointment.cancel reason) } :=
    .modifyAppointments fun _ => rfl
  cases db.withdrawnOrder? id with
  | none => exact hcancel
  | some o => exact hcancel.trans (.modifyWorkOrder o.1 fun _ => by rfl)

end Orders

section Billing

variable {invoice : InvoiceEntity}

theorem findOrCreateAccount_retains {customerId : Uuid} {a : CurrentAccount}
    (h : findOrCreateAccount db t customerId = .ok (db', id, a)) : db.RetainedBy db' := by
  obtain ⟨opened, rfl, ⟨rfl, -⟩ | ⟨-, -, -, rfl⟩⟩ := findOrCreateAccount_ok h
  · exact .refl db
  · exact .insertAccount ..

theorem debitAccount_retains {amount : ℚ} {balance : ℤ}
    (h : debitAccount db id amount = .ok (db', balance)) : db.RetainedBy db' := by
  obtain ⟨f, hf, rfl⟩ := debitAccount_set h
  exact .setAccount fun a => Prod.ext (hf a).1 (hf a).2

theorem creditAccount_retains {amount : ℚ} {balance : ℤ}
    (h : creditAccount db id amount = .ok (db', balance)) : db.RetainedBy db' := by
  obtain ⟨f, hf, rfl⟩ := creditAccount_set h
  exact .setAccount fun a => Prod.ext (hf a).1 (hf a).2

theorem allocateNumber_retains {number : String} {gib : Option String}
    (h : allocateNumber clock db invoice = .ok (db', number, gib)) : db.RetainedBy db' := by
  unfold allocateNumber at h
  split_ifs at h
  · obtain ⟨⟨mid, n⟩, hnext, h₁⟩ := Outcome.bind_eq_ok.mp h
    cases Outcome.pure_eq_ok.mp h₁
    exact (nextDocumentNumber_spares hnext).retained
  · cases Outcome.pure_eq_ok.mp h
    exact .refl db

theorem snapshotItems_retains {items : List InvoiceLine}
    (h : items.foldlM (snapshotItem id) db = .ok db') : db.RetainedBy db' := by
  induction items generalizing db with
  | nil =>
    obtain rfl := Outcome.pure_eq_ok.mp h
    exact .refl db
  | cons item items ih =>
    rw [List.foldlM_cons] at h
    obtain ⟨mid, hmid, hrest⟩ := Outcome.bind_eq_ok.mp h
    obtain ⟨it, -, rfl⟩ := snapshotItem_ok hmid
    exact (Db.RetainedBy.insertInvoiceItem ..).trans (ih hrest)

theorem recordAdvanceOffset_retains {x : ℚ} (h : recordAdvanceOffset db invoice id x = .ok db') :
    db.RetainedBy db' := by
  obtain ⟨payment, rfl, -⟩ := recordAdvanceOffset_ok h
  cases payment with
  | none => exact .refl db
  | some p => exact .insertPayment ..

theorem Db.RetainedBy.completeWorkOrder (db : Db) (w : Option Uuid) :
    db.RetainedBy (completeWorkOrder clock db w) := by
  cases w with
  | none => exact .refl db
  | some id => exact (Db.Spares.modifyWorkOrder id fun _ => by rfl).retained

theorem insertInvoice_retains {row : Invoice} (h : insertInvoice db row = .ok (db', id)) :
    db.RetainedBy db' := by
  obtain ⟨-, rfl, -⟩ := insertInvoice_ok h
  exact .insertInvoice ..

theorem createWithCariMovement_retains {offset : Option ℚ}
    {result : CreateInvoiceTransactionResult}
    (h : createWithCariMovement clock db invoice offset = .ok (db', result)) :
    db.RetainedBy db' := by
  obtain ⟨s⟩ := createWithCariMovement_steps h
  have hnumbered := (findOrCreateAccount_retains s.opens).trans (allocateNumber_retains s.numbers)
  have hissued := (hnumbered.trans (insertInvoice_retains s.inserts)).trans
    (snapshotItems_retains s.snapshots)
  have hpaid := hissued.trans (recordAdvanceOffset_retains s.offsets)
  rw [s.db_eq]
  exact (hpaid.trans (debitAccount_retains s.debits)).trans
    ((Db.RetainedBy.addCariMovement ..).trans (.completeWorkOrder ..))

theorem EInvoiceDetails.apply_goesOn (d : EInvoiceDetails) (inv : Invoice) :
    inv.GoesOnAs (d.apply inv) := ⟨rfl, fun h => h, .inl rfl⟩

theorem updateEInvoiceDetails_retains {d : EInvoiceDetails}
    (h : updateEInvoiceDetails db t id d = .ok db') : db.RetainedBy db' := by
  obtain ⟨inv, -, h₁⟩ := Outcome.bind_eq_ok.mp h
  cases Outcome.pure_eq_ok.mp h₁
  exact .modifyInvoice fun inv _ => d.apply_goesOn inv

theorem cancelInvoiceRow_goesOn (inv : Invoice) : inv.GoesOnAs (cancelInvoiceRow inv) :=
  ⟨rfl, fun _ => rfl, .inr ⟨rfl, rfl⟩⟩

theorem reverseDebit_retains {cancelled : Invoice}
    (h : reverseDebit db t id cancelled = .ok db') : db.RetainedBy db' := by
  obtain ⟨-, rfl⟩ | ⟨accountId, account, debits, balance, -, -, -, rfl⟩ := reverseDebit_cases h
  · exact .refl _
  · exact (Db.RetainedBy.setAccount fun _ => by rfl).trans ((Db.RetainedBy.addCariMovement ..).trans
      (.modifyPayments fun _ => by rfl))

theorem cancelWithCariReversal_retains (h : cancelWithCariReversal db t id = .ok db') :
    db.RetainedBy db' := by
  obtain ⟨existing, mid, -, -, hreverse, hlast⟩ := cancelWithCariReversal_steps h
  have hcancelled : db.RetainedBy { db with invoices := db.invoices.modify id cancelInvoiceRow } :=
    .modifyInvoice fun inv _ => cancelInvoiceRow_goesOn inv
  have hreversed := hcancelled.trans (reverseDebit_retains hreverse)
  obtain rfl := reopenWorkOrder_ok hlast
  cases existing.workOrderId with
  | none => exact hreversed
  | some w => exact hreversed.trans (Db.Spares.modifyWorkOrder w fun _ => by rfl).retained

theorem payInvoice_goesOn {inv inv' : Invoice} {amount : ℚ} (hopen : inv.status ≠ .cancelled)
    (h : payInvoice inv amount = .ok inv') : inv.GoesOnAs inv' := by
  obtain ⟨paid, -, h₁⟩ := Outcome.bind_eq_ok.mp h
  obtain ⟨remaining, -, h₂⟩ := Outcome.bind_eq_ok.mp h₁
  cases Outcome.pure_eq_ok.mp h₂
  exact ⟨rfl, fun hcancelled => absurd hcancelled hopen, .inl rfl⟩

theorem checkOpenBalance_open {call : PaymentCall} (h : checkOpenBalance db call = .ok ()) :
    ∀ id ∈ call.dto.invoiceId, ∀ inv, db.invoice? call.tenantId id = some inv →
      inv.status ≠ .cancelled := by
  intro id hid inv hinv hcancelled
  simp [checkOpenBalance, Option.mem_def.mp hid, hinv, hcancelled] at h

theorem applyToInvoice_retains {invoiceId : Option Uuid} {amount : ℚ}
    (hopen : ∀ id ∈ invoiceId, ∀ inv, db.invoice? t id = some inv → inv.status ≠ .cancelled)
    (h : applyToInvoice db t invoiceId amount = .ok db') : db.RetainedBy db' := by
  obtain ⟨-, rfl⟩ | ⟨id, inv, paid, hid, hinv, hpaid, rfl⟩ := applyToInvoice_cases h
  · exact .refl _
  · obtain ⟨hget, -⟩ := Db.invoice?_eq_some.mp hinv
    refine .modifyInvoice fun old hold => ?_
    -- the row that is written over is the one that was read
    obtain rfl := Option.some.inj (hold.symm.trans hget)
    exact payInvoice_goesOn (hopen id hid old hinv) hpaid

theorem markAttemptPaid_retains {attemptId : Option String}
    (h : markAttemptPaid db attemptId = .ok db') : db.RetainedBy db' := by
  obtain ⟨attempts, rfl, ⟨-, rfl⟩ | ⟨i, k, attempt, -, -, rfl⟩⟩ := markAttemptPaid_ok h
  · exact .refl db
  · exact .modifyAttempt fun a => ⟨rfl, fun _ => rfl⟩

theorem insertPayment_retains {row : Payment} (h : insertPayment db row = .ok (db', id)) :
    db.RetainedBy db' := by
  obtain ⟨-, rfl, -⟩ := insertPayment_ok h
  exact .insertPayment ..

theorem PaymentSteps.applied_retains {call : PaymentCall} {customerId : Uuid}
    (s : PaymentSteps db call customerId db' id) : db.RetainedBy s.applied := by
  obtain ⟨-, hinserted, -⟩ := insertPayment_ok s.inserts
  refine (insertPayment_retains s.inserts).trans (applyToInvoice_retains ?_ s.applies)
  rw [hinserted]
  exact checkOpenBalance_open s.checked

theorem collectPayment_retains {call : PaymentCall} {customerId : Uuid}
    (h : collectPayment db call customerId = .ok (db', id)) : db.RetainedBy db' := by
  obtain ⟨s⟩ := collectPayment_steps h
  have hcredited := (s.applied_retains.trans (findOrCreateAccount_retains s.opens)).trans
    (creditAccount_retains s.credits)
  exact (hcredited.trans (.addCariMovement ..)).trans (markAttemptPaid_retains s.marks)

theorem recordPayment_retains {call : PaymentCall} {customerId : Uuid}
    (h : recordPayment db call customerId = .ok (db', id)) : db.RetainedBy db' := by
  unfold recordPayment at h
  split at h
  · cases Outcome.pure_eq_ok.mp h
    exact .refl db
  · exact collectPayment_retains h

end Billing

section Inventory

variable {toUpperCase : String → String} {s : Session}

theorem saveProduct_spares {item : StockItemEntity} {shelf : ResolvedShelf}
    (h : saveProduct db item shelf = .ok db') : db.Spares db' := by
  obtain ⟨f, -, -, htenant, -, -, rfl⟩ := saveProduct_ok h
  exact .modifyProducts htenant

theorem saveStockItem_spares {item : StockItemEntity} (h : s.saveStockItem db item = .ok db') :
    db.Spares db' := by
  obtain ⟨existing, -, h₁⟩ := Outcome.bind_eq_ok.mp h
  exact saveProduct_spares h₁

theorem updateStockItem_spares {dto : UpdateProductDto}
    (h : updateStockItem toUpperCase s db id dto = .ok db') : db.Spares db' := by
  obtain ⟨item, -, h₁⟩ := Outcome.bind_eq_ok.mp h
  exact saveStockItem_spares h₁

theorem moveStock_spares {input : AddStockMovementInput}
    (h : moveStock toUpperCase s db id input = .ok db') : db.Spares db' := by
  obtain ⟨item, -, h₁⟩ := Outcome.bind_eq_ok.mp h
  obtain ⟨moved, -, h₂⟩ := Outcome.bind_eq_ok.mp h₁
  exact saveStockItem_spares h₂

theorem addStockMovement_spares {m : StockMovement} (h : addStockMovement db m = .ok db') :
    db.Spares db' := by
  rw [addStockMovement_ok h]
  exact .insertMovement ..

theorem recordMovement_spares {input : AddStockMovementInput}
    (h : recordMovement s db id input = .ok db') : db.Spares db' := by
  obtain ⟨p, -, h₁⟩ := Outcome.bind_eq_ok.mp h
  exact addStockMovement_spares h₁

theorem createShelf_spares {dto : CreateShelfDto}
    (h : createShelf toUpperCase db t dto = .ok db') : db.Spares db' := by
  obtain ⟨u, -, h₁⟩ := Outcome.bind_eq_ok.mp h
  obtain ⟨v, -, h₂⟩ := Outcome.bind_eq_ok.mp h₁
  cases Outcome.pure_eq_ok.mp h₂
  exact .of_files rfl rfl

theorem createStockItem_spares {dto : CreateProductDto}
    (h : createStockItem toUpperCase s db dto = .ok db') : db.Spares db' := by
  obtain ⟨location, created, movements, -, -, -, -, -, rfl | ⟨m, rfl⟩, rfl⟩ := createStockItem_ok h
  · exact .insertProduct ..
  · exact (Db.Spares.insertProduct db created).trans (.insertMovement _ m)

theorem deleteStockItem_spares {now : Instant} (h : deleteStockItem s db id now = .ok db') :
    db.Spares db' := by
  obtain ⟨p, -, h₁⟩ := Outcome.bind_eq_ok.mp h
  cases Outcome.pure_eq_ok.mp h₁
  exact .modifyProducts fun _ => rfl

theorem assignProductToCell_spares {productId : Uuid} {cellId : Option Uuid}
    (h : assignProductToCell s db productId cellId = .ok db') : db.Spares db' := by
  obtain ⟨p, -, h₁⟩ := Outcome.bind_eq_ok.mp h
  cases cellId with
  | none =>
    cases Outcome.pure_eq_ok.mp h₁
    exact .modifyProducts fun _ => rfl
  | some cellId =>
    obtain ⟨c, -, h₂⟩ := Outcome.bind_eq_ok.mp h₁
    cases Outcome.pure_eq_ok.mp h₂
    exact .modifyProducts fun _ => rfl

theorem Db.Spares.updateManyProductLocations (s : Session) (db : Db) (productIds : List Uuid)
    (location : ProductLocation) :
    db.Spares (updateManyProductLocations s db productIds location) :=
  .modifyProducts fun _ => rfl

theorem bulkAssignProductCell_spares {productIds : List Uuid} {cellId shelfId : Option Uuid}
    (h : bulkAssignProductCell s db productIds cellId shelfId = .ok db') : db.Spares db' := by
  unfold bulkAssignProductCell at h
  split_ifs at h
  · cases Outcome.pure_eq_ok.mp h
    exact .refl db
  · split at h
    · cases Outcome.pure_eq_ok.mp h
      exact .updateManyProductLocations ..
    · obtain ⟨c, -, h₁⟩ := Outcome.bind_eq_ok.mp h
      cases Outcome.pure_eq_ok.mp h₁
      exact .updateManyProductLocations ..
    · obtain ⟨shelf, -, h₁⟩ := Outcome.bind_eq_ok.mp h
      split at h₁
      · cases Outcome.pure_eq_ok.mp h₁
        exact .updateManyProductLocations ..
      · cases Outcome.pure_eq_ok.mp h₁
        exact .refl db

theorem deleteShelf_spares (h : deleteShelf s db id = .ok db') : db.Spares db' := by
  obtain ⟨shelf, -, h₁⟩ := Outcome.bind_eq_ok.mp h
  obtain ⟨u, -, h₂⟩ := Outcome.bind_eq_ok.mp h₁
  cases Outcome.pure_eq_ok.mp h₂
  have hshelves : db.Spares { db with
      shelfCells := db.shelfCells.eraseIf fun c => c.shelfId = id
      warehouseShelves := db.warehouseShelves.erase id } := .of_files rfl rfl
  exact hshelves.trans (.modifyProducts (f := Product.leaveCell) fun _ => rfl)

theorem Db.commit_spares {r : Outcome Db} (h : ∀ db', r = .ok db' → db.Spares db') :
    db.Spares (db.commit r) := by
  cases r with
  | error e => exact .refl db
  | ok db' => exact h db' rfl

theorem serve_spares (call : Session × WarehouseRequest) :
    db.Spares (db.serve toUpperCase call) := by
  obtain ⟨s, request⟩ := call
  cases request with
  | createShelf dto => exact Db.commit_spares fun _ => createShelf_spares
  | createStockItem dto => exact Db.commit_spares fun _ => createStockItem_spares
  | updateStockItem id dto => exact Db.commit_spares fun _ => updateStockItem_spares
  | addStockMovement id input =>
    simp only [Db.serve, Db.serveMovement]
    split
    · exact .refl db
    · next hsaved =>
      exact (moveStock_spares hsaved).trans (Db.commit_spares fun _ => recordMovement_spares)
  | assignProductToCell id cellId => exact Db.commit_spares fun _ => assignProductToCell_spares
  | bulkAssignProductCell ids cellId shelfId =>
    exact Db.commit_spares fun _ => bulkAssignProductCell_spares
  | deleteStockItem id now => exact Db.commit_spares fun _ => deleteStockItem_spares
  | deleteShelf id => exact Db.commit_spares fun _ => deleteShelf_spares

end Inventory

section Appointments

theorem insertAppointment_spares {a : Appointment} (h : insertAppointment db a = .ok db') :
    db.Spares db' := by
  obtain ⟨rfl, -⟩ := insertAppointment_ok h
  exact .insertAppointment ..

theorem saveAppointment_spares {a : Appointment} (h : saveAppointment db id a = .ok db') :
    db.Spares db' := by
  obtain ⟨rfl, -⟩ := saveAppointment_ok h
  exact .modifyAppointments fun _ => rfl

theorem findOrCreateCustomerForPublic_spares (db : Db) (t : Uuid) (name phone : String) :
    db.Spares (findOrCreateCustomerForPublic db t name phone).1 := by
  unfold findOrCreateCustomerForPublic
  simp only
  split
  · exact .modifyCustomers fun _ => by rfl
  · exact .insertCustomer ..

theorem findOrCreateVehicleForPublic_spares {toUpperCase : String → String} {customerId : Uuid}
    {plate : String}
    (h : findOrCreateVehicleForPublic toUpperCase db t customerId plate = .ok (db', id)) :
    db.Spares db' := by
  unfold findOrCreateVehicleForPublic at h
  simp only at h
  split at h
  · obtain ⟨u, -, h₁⟩ := Outcome.bind_eq_ok.mp h
    cases Outcome.pure_eq_ok.mp h₁
    exact .modifyVehicles fun _ => by rfl
  · cases Outcome.pure_eq_ok.mp h
    exact .insertVehicle ..

end Appointments

section Directory

theorem Db.Spares.withoutMechanic (db : Db) (id : Uuid) :
    db.Spares (db.withoutMechanic id) := by
  let dropped : Db := { db with
    mechanics := db.mechanics.erase id
    appointments := db.appointments.modifyIf (fun _ a => a.assignedMechanicId = some id)
      Appointment.dropMechanic }
  have happointments : db.Spares dropped :=
    ⟨{ RetainedBy.refl db with appointments := Table.records_modifyIf fun _ => rfl }, rfl⟩
  exact happointments.trans (.modifyWorkOrders (f := WorkOrder.dropMechanic) fun _ => rfl)

theorem Db.Spares.withoutService (db : Db) (id : Uuid) :
    db.Spares (db.withoutService id) :=
  ⟨{ RetainedBy.refl db with appointments := Table.records_modifyIf fun _ => rfl }, rfl⟩

theorem Db.Spares.withoutMechanics (db : Db) (ids : List Uuid) :
    db.Spares (ids.foldl Db.withoutMechanic db) := by
  induction ids generalizing db with
  | nil => exact .refl db
  | cons i ids ih => exact (Spares.withoutMechanic db i).trans (ih (db.withoutMechanic i))

theorem Db.Spares.withoutUser (db : Db) (id : Uuid) : db.Spares (db.withoutUser id) :=
  (Spares.withoutMechanics db _).trans (.of_files rfl rfl)

theorem updateStaff_spares {role : Option UserRole} (h : updateStaff db t id role = .ok db') :
    db.Spares db' := by
  obtain ⟨user, -, h₁⟩ := Outcome.bind_eq_ok.mp h
  simp only at h₁
  split_ifs at h₁
  · cases Outcome.pure_eq_ok.mp h₁
    exact .of_files rfl rfl
  · cases Outcome.pure_eq_ok.mp h₁
    exact .of_files rfl rfl

/-- What a part of the directory does: it spares the ledger, or it opens an account. -/
inductive DirectoryTask.Effect (db : Db) : DirectoryTask → Db → Prop where
  | spared {task : DirectoryTask} {db' : Db} (h : db.Spares db') : Effect db task db'
  | registered {t : Uuid} {customer : Customer} {db' : Db}
      (h : db.createCustomer t customer = .ok db') : Effect db (.createCustomer t customer) db'
  | opened {t customerId : Uuid} {db' : Db} (h : db.openAccount t customerId = .ok db') :
      Effect db (.insertAccount t customerId) db'

theorem openAccount_ok {customerId : Uuid} (h : db.openAccount t customerId = .ok db') :
    { db with currentAccounts := db.currentAccounts.insert (newAccount t customerId) } = db' := by
  obtain ⟨u, -, h₁⟩ := Outcome.bind_eq_ok.mp h
  exact Outcome.pure_eq_ok.mp h₁

theorem openAccount_retains {customerId : Uuid} (h : db.openAccount t customerId = .ok db') :
    db.RetainedBy db' := by
  obtain rfl := openAccount_ok h
  exact .insertAccount ..

theorem DirectoryTask.Effect.retained {task : DirectoryTask} (h : Effect db task db') :
    db.RetainedBy db' := by
  cases h with
  | spared h => exact h.retained
  | registered h => exact (Db.Spares.insertCustomer ..).retained.trans (openAccount_retains h)
  | opened h => exact openAccount_retains h

theorem DirectoryTask.commits_effect {task : DirectoryTask} {r : Outcome Db}
    (h : ∀ db', r = .ok db' → Effect db task db') : Effect db task (commits db r).1 := by
  cases r with
  | error e => exact .spared (.refl db)
  | ok db' => exact h db' rfl

theorem DirectoryTask.exec_effect (db : Db) (task : DirectoryTask) :
    Effect db task (task.exec db).1 := by
  cases task with
  | createCustomer t customer => exact commits_effect fun _ => .registered
  | updateCustomer t id customer => exact .spared (.modifyCustomers fun _ => by rfl)
  | createVehicle t vehicle => exact .spared (.insertVehicle ..)
  | updateVehicle t id vehicle => exact .spared (.modifyVehicles fun _ => by rfl)
  | findAccount t customerId | customerExists t customerId | createAccount t customerId =>
    simp only [exec]
    split <;> exact .spared (.refl db)
  | insertAccount t customerId => exact commits_effect fun _ => .opened
  | createService t => exact .spared (.of_files rfl rfl)
  | removeService t id =>
    simp only [exec]
    split_ifs <;> exact .spared (.refl db)
  | deleteService id => exact .spared (.withoutService db id)
  | createStaff t user =>
    simp only [exec, WorksAuto.createStaff]
    split_ifs <;> exact .spared (.of_files rfl rfl)
  | updateStaff t id role => exact commits_effect fun _ h => .spared (updateStaff_spares h)
  | removeStaff t id =>
    simp only [exec]
    split
    · exact .spared (.refl db)
    · exact .spared (.refl db)
    · split_ifs <;> exact .spared (.of_files rfl rfl)
  | deleteMechanic mechanicId id => exact .spared (.withoutMechanic db mechanicId)
  | deleteUser id => exact .spared (.withoutUser db id)
  | finished answer => exact .spared (.refl db)

end Directory

section Tasks

/-- What a part outside the payments does: it spares the ledger, or it writes one invoice. -/
inductive Db.Writes (db : Db) : Db → Prop where
  | spared {db' : Db} (h : db.Spares db') : db.Writes db'
  | issued {clock : Clock} {invoice : InvoiceEntity} {offset : Option ℚ}
      {result : CreateInvoiceTransactionResult} {db' : Db}
      (h : createWithCariMovement clock db invoice offset = .ok (db', result)) : db.Writes db'
  | detailed {t id : Uuid} {d : EInvoiceDetails} {db' : Db}
      (h : updateEInvoiceDetails db t id d = .ok db') : db.Writes db'
  | voided {t id : Uuid} {db' : Db} (h : cancelWithCariReversal db t id = .ok db') :
      db.Writes db'

theorem Db.Writes.idle (db : Db) : db.Writes db := .spared (.refl db)

theorem Db.Writes.retained (h : db.Writes db') : db.RetainedBy db' := by
  cases h with
  | spared h => exact h.retained
  | issued h => exact createWithCariMovement_retains h
  | detailed h => exact updateEInvoiceDetails_retains h
  | voided h => exact cancelWithCariReversal_retains h

namespace WorkshopTask

theorem commits_writes {r : Outcome Db} {next : WorkshopTask}
    (h : ∀ db', r = .ok db' → db.Writes db') : db.Writes (commits db r next).1 := by
  cases r with
  | error e => exact .idle db
  | ok db' => exact h db' rfl

theorem reads_writes {α : Type} (r : Outcome α) (next : α → WorkshopTask) :
    db.Writes (reads db r next).1 := by
  rw [reads_fst]
  exact .idle db

theorem exec_writes (task : WorkshopTask) (env : WorkshopEnv) :
    db.Writes (task.exec db env).1 := by
  cases task with
  | numberOrder tenantId input =>
    simp only [exec]
    split
    · exact .idle db
    · next hnumber =>
      obtain ⟨⟨mid, n⟩, hnext, h₁⟩ := Outcome.bind_eq_ok.mp hnumber
      cases Outcome.pure_eq_ok.mp h₁
      exact .spared (nextDocumentNumber_spares hnext)
  | storeOrder tenantId input woNumber =>
    refine commits_writes fun db' h => ?_
    obtain ⟨⟨stored, id⟩, hcreate, rfl⟩ := Outcome.map_eq_ok.mp h
    exact .spared (createWorkOrder_spares hcreate)
  | storeItem tenantId workOrderId dto => exact commits_writes fun _ h => .spared (addItem_spares h)
  | changeItem tenantId workOrderId itemId data =>
    exact commits_writes fun _ h => .spared (updateItem_spares h)
  | deleteItem tenantId workOrderId itemId => exact commits_writes fun _ h => .spared (removeItem_spares h)
  | writeStatus u => exact commits_writes fun _ h => .spared (writeStatus_spares h)
  | readCancelled u =>
    simp only [exec]
    split <;> exact .idle db
  | restoreStock u items =>
    refine commits_writes fun db' h => ?_
    obtain ⟨-, rfl⟩ := restoreCancelledStock_ok h
    exact .spared (.postAll ..)
  | syncAppointment u =>
    simp only [exec]
    split
    · exact .spared (.modifyAppointments fun _ => rfl)
    · exact .idle db
  | readAutoInvoice u | readInvoice u =>
    simp only [exec]
    split_ifs <;> exact .idle db
  | writeRollback tenantId id prev => exact commits_writes fun _ h => .spared (writeStatus_spares h)
  | issueInvoice tenantId dto =>
    simp only [exec]
    split
    · exact .idle db
    · next hissue => exact .issued hissue
  | eInvoice tenantId id details => exact commits_writes fun _ h => .detailed h
  | voidInvoice tenantId id => exact commits_writes fun _ h => .voided h
  | storeCancellation tenantId id reason =>
    exact commits_writes fun _ h => .spared (cancelAppointmentAndWorkOrder_spares h)
  | storeDecrement tenantId productId quantity refId =>
    exact commits_writes fun _ h => .spared (decrementAtomic_spares h)
  | storeIncrement tenantId productId quantity refId =>
    exact commits_writes fun _ h => .spared (incrementAtomic_spares h)
  | saveProduct item movement shelf => exact commits_writes fun _ h => .spared (saveProduct_spares h)
  | storeMovement movement => exact commits_writes fun _ h => .spared (addStockMovement_spares h)
  | saveCell item movement existing | finished answer => exact .idle db
  | createOrder | addItem | updateItem | removeItem | updateStatus | confirmOrder | rollback
  | confirmRollback | cancelInvoice | cancelAppointment | decrementStock | incrementStock
  | addMovement | updateProduct | saveRead | checkMovement => exact reads_writes ..

end WorkshopTask

namespace AgendaTask

variable {s : Agenda}

theorem reads_writes {α : Type} (r : Outcome α) (next : α → AgendaTask) :
    s.db.Writes (reads s r next).1.db := by
  cases r <;> exact .idle s.db

theorem workshopPart_writes (task : WorkshopTask) (env : WorkshopEnv) :
    db.Writes (workshopPart db task env).1 := by
  unfold workshopPart
  cases (task.exec db env).1.enforced with
  | ok db' => exact task.exec_writes env
  | error e => cases task <;> exact .idle db

theorem execVisible_writes (task : AgendaTask) (env : WorkshopEnv) :
    s.db.Writes (task.execVisible s env).1.db := by
  cases task with
  | readBays tenantId dto =>
    simp only [execVisible, exec]
    split <;> exact .idle s.db
  | tryBays tenantId dto bays =>
    cases bays with
    | nil => exact .idle s.db
    | cons bay rest =>
      simp only [execVisible, exec]
      split_ifs <;> exact .idle s.db
  | publicCustomer tenantId dto lift => exact .spared (findOrCreateCustomerForPublic_spares ..)
  | publicVehicle tenantId dto lift customerId =>
    simp only [execVisible, exec]
    split
    · exact .idle s.db
    · next hvehicle => exact .spared (findOrCreateVehicleForPublic_spares hvehicle)
  | lockSlot entity =>
    simp only [execVisible, exec]
    split_ifs
    · exact .idle s.db
    · split <;> exact .idle s.db
  | insert entity =>
    simp only [execVisible, exec, commits]
    split
    · exact .idle s.db
    · next hinsert => exact .spared (insertAppointment_spares hinsert)
  | write id old entity =>
    simp only [execVisible, exec, commits]
    split
    · exact .idle s.db
    · next hsave => exact .spared (saveAppointment_spares hsave)
  | work task =>
    simp only [execVisible]
    split
    · exact .idle s.db
    · exact workshopPart_writes task env
  | finished answer => exact .idle s.db
  | create | bookMechanic | bookLift | createPublic | checkParties | reschedule | moveMechanic
  | moveLift | approve | updateStatus | markNoShow | save => exact reads_writes ..

end AgendaTask

theorem PaymentPhase.exec_retains (phase : PaymentPhase) (env : Env) :
    db.RetainedBy (phase.exec db env).1 := by
  cases phase with
  | start call =>
    simp only [exec]
    split
    · exact .refl db
    · split <;> exact .refl db
  | readInvoice call | readCustomer call customerId | notify call paymentId =>
    simp only [exec]
    split <;> exact .refl db
  | transact call customerId =>
    simp only [exec]
    split
    · exact .refl db
    · next hrecord => exact recordPayment_retains hrecord
  | done call result => exact .refl db

theorem commit_retains {r : Outcome Db} (h : ∀ db', r = .ok db' → db.RetainedBy db') :
    db.RetainedBy (commit db r) := by
  cases r with
  | error e => exact .refl db
  | ok db' => exact h db' rfl

theorem BillingTask.exec_retains (cfg : PayTrConfig) (task : BillingTask) (env : Env) :
    db.RetainedBy (task.exec cfg db env).1 := by
  cases task with
  | issue invoice offset =>
    refine commit_retains fun db' hr => ?_
    obtain ⟨⟨stored, result⟩, hissue, rfl⟩ := Outcome.map_eq_ok.mp hr
    exact createWithCariMovement_retains hissue
  | void tenantId id => exact commit_retains fun _ => cancelWithCariReversal_retains
  | payment phase => exact phase.exec_retains env
  | token invoiceId =>
    simp only [exec]
    split <;> exact .refl db
  | newAttempt invoiceId tenantId amount =>
    refine commit_retains fun db' hr => ?_
    obtain ⟨cents, -, h₁⟩ := Outcome.bind_eq_ok.mp hr
    obtain ⟨u, -, h₂⟩ := Outcome.bind_eq_ok.mp h₁
    obtain ⟨v, -, h₃⟩ := Outcome.bind_eq_ok.mp h₂
    cases Outcome.pure_eq_ok.mp h₃
    exact .insertAttempt ..
  | callback payload | callbackInvoice payload attempt =>
    simp only [exec]
    split <;> exact .refl db
  | callbackPayment payload phase =>
    have hphase : db.RetainedBy (phase.exec db env).1 := phase.exec_retains env
    cases phase <;> exact hphase
  | answered payload answer | finished => exact .refl db

end Tasks

section Runs

variable {cfg : PayTrConfig}

theorem TenantTask.exec_retains (s : Agenda) (task : TenantTask) (env : TenantEnv) :
    s.db.RetainedBy (task.exec cfg s env).1.db := by
  by_cases hreferential : (task.attempt cfg s env).1.db.Referential
  · rw [exec_of_referential hreferential]
    cases task with
    | agenda request task => exact (task.execVisible_writes env.workshop).retained
    | billing task => exact task.exec_retains cfg env.billing
    | warehouse tenantId request => exact (serve_spares _).retained
    | directory task => exact (task.exec_effect s.db).retained
    | finished answer => exact .refl s.db
  · rw [exec_of_not_referential hreferential]
    exact .refl s.db

theorem TenantPool.act_retains (p : TenantPool) (action : TenantAction) :
    p.shared.db.RetainedBy (TenantPool.act cfg p action).shared.db := by
  rcases Pool.shared_act TenantRequest.enter (TenantTask.exec cfg) p action with
    hsame | ⟨k, env, task, -, -, hstep⟩
  · rw [TenantPool.act, hsame]
    exact .refl p.shared.db
  · rw [TenantPool.act, hstep]
    exact task.exec_retains p.shared env

/-- Whatever is in the books at some point stays there, whichever requests follow and however
their parts interleave. -/
theorem books_retained (cfg : PayTrConfig) (p : TenantPool) (actions : List TenantAction) :
    p.shared.db.RetainedBy (run (TenantPool.act cfg) p actions).shared.db := by
  induction actions generalizing p with
  | nil => exact .refl p.shared.db
  | cons action actions ih =>
    have hlater := ih (TenantPool.act cfg p action)
    exact (p.act_retains action).trans hlater

end Runs

end WorksAuto
