import WorksAuto.Workshop.Serial

/-! Invoiced orders.
While an invoice that is not cancelled is linked to an order, the order is
completed and neither its items nor its totals change. This holds in every run
in which no rollback and no cancelled appointment reaches an invoiced order, and
only in these: both operations write the status of the order without looking at
its invoice. -/

namespace WorksAuto

open Lib

/-- Invoice `k` is linked to order `w` and is not cancelled. -/
def Db.Invoiced (db : Db) (k w : Uuid) : Prop :=
  ∃ inv, db.invoices.get? k = some inv ∧ inv.workOrderId = some w ∧ inv.status ≠ .cancelled

instance (db : Db) (k w : Uuid) : Decidable (db.Invoiced k w) :=
  decidable_of_iff
    ((db.invoices.get? k).any fun inv => inv.workOrderId = some w ∧ inv.status ≠ .cancelled)
    (by simp [Db.Invoiced, Option.any_eq_true])

/-- Order `w` is completed, and its items and totals are those it had. -/
structure Locked (w : Uuid) (db db' : Db) : Prop where
  completed : ∃ wo, db'.workOrders.get? w = some wo ∧ wo.status = .completed
  items : db'.itemsOf w = db.itemsOf w
  totals : ∀ wo wo', db.workOrders.get? w = some wo → db'.workOrders.get? w = some wo' →
    wo'.subtotal = wo.subtotal ∧ wo'.kdvAmount = wo.kdvAmount ∧ wo'.grandTotal = wo.grandTotal

structure InvoicesLinked (db : Db) : Prop where
  completed : ∀ k w, db.Invoiced k w →
    ∃ wo, db.workOrders.get? w = some wo ∧ wo.status = .completed
  unique : ∀ j k a b w, db.invoices.get? j = some a → db.invoices.get? k = some b →
    a.workOrderId = some w → b.workOrderId = some w → j = k

/-- No rollback of an invoiced order, and no cancellation of an appointment whose
order is invoiced. -/
def WorkshopRequest.SparesInvoices (db : Db) : WorkshopRequest → Prop
  | .rollbackWorkOrder tenantId id =>
    ∀ wo, db.workOrder? tenantId id = some wo → ¬ ∃ k, db.Invoiced k id
  | .cancelAppointment tenantId id _ =>
    checkCancelAppointment db tenantId id = .ok () →
      ∀ o, db.withdrawnOrder? id = some o → ¬ ∃ k, db.Invoiced k o.1
  | _ => True

def WorkshopTask.SparesInvoices (db : Db) : WorkshopTask → Prop
  | .rollback tenantId id =>
    ∀ wo, db.workOrder? tenantId id = some wo → ¬ ∃ k, db.Invoiced k id
  | .confirmRollback _ id _ => ¬ ∃ k, db.Invoiced k id
  | .writeRollback _ id _ => ¬ ∃ k, db.Invoiced k id
  | .cancelAppointment tenantId id _ =>
    checkCancelAppointment db tenantId id = .ok () →
      ∀ o, db.withdrawnOrder? id = some o → ¬ ∃ k, db.Invoiced k o.1
  | .storeCancellation _ id _ => ∀ o, db.withdrawnOrder? id = some o → ¬ ∃ k, db.Invoiced k o.1
  | _ => True

section Locked

variable {w : Uuid} {db db' db'' : Db}

theorem Locked.trans (h : Locked w db db') (h' : Locked w db' db'') : Locked w db db'' where
  completed := h'.completed
  items := h'.items.trans h.items
  totals := by
    intro wo wo'' hwo hwo''
    obtain ⟨wo', hwo', -⟩ := h.completed
    obtain ⟨hs, hk, hg⟩ := h.totals wo wo' hwo hwo'
    obtain ⟨hs', hk', hg'⟩ := h'.totals wo' wo'' hwo' hwo''
    exact ⟨hs'.trans hs, hk'.trans hk, hg'.trans hg⟩

theorem Locked.of_same (hc : ∃ wo, db.workOrders.get? w = some wo ∧ wo.status = .completed)
    (ho : db'.workOrders.get? w = db.workOrders.get? w) (hi : db'.itemsOf w = db.itemsOf w) :
    Locked w db db' where
  completed := by rwa [ho]
  items := hi
  totals := by
    intro wo wo' hwo hwo'
    cases hwo.symm.trans (ho.symm.trans hwo')
    exact ⟨rfl, rfl, rfl⟩

theorem Db.itemsOf_congr (h : db'.workOrderItems = db.workOrderItems) (w : Uuid) :
    db'.itemsOf w = db.itemsOf w := by
  simp only [itemsOf, h]

theorem Db.invoiced_congr (h : db'.invoices = db.invoices) (k w : Uuid) :
    db'.Invoiced k w ↔ db.Invoiced k w := by
  simp only [Invoiced, h]

end Locked

structure LockStep (db db' : Db) : Prop where
  linked : InvoicesLinked db'
  next_le : db.invoices.next ≤ db'.invoices.next
  origin : ∀ k w, db'.Invoiced k w → db.Invoiced k w ∨ k = db.invoices.next
  locked : ∀ k w, db.Invoiced k w → db'.Invoiced k w → Locked w db db'

section Effects

variable {db db' : Db}

theorem LockStep.of_invoices_eq (hdb : InvoicesLinked db) (hinv : db'.invoices = db.invoices)
    (h : ∀ k w, db.Invoiced k w → Locked w db db') : LockStep db db' where
  linked :=
    { completed := fun k w hk => (h k w ((Db.invoiced_congr hinv k w).mp hk)).completed
      unique := by
        rw [hinv]
        exact hdb.unique }
  next_le := by rw [hinv]
  origin := fun k w hk => .inl ((Db.invoiced_congr hinv k w).mp hk)
  locked := fun k w hk _ => h k w hk

theorem InvoicesLinked.ne_of_open (hdb : InvoicesLinked db) {t w₀ : Uuid}
    (hopen : db.OpenOrder t w₀) {k w : Uuid} (hk : db.Invoiced k w) : w ≠ w₀ := by
  rintro rfl
  obtain ⟨wo, hwo, hstatus⟩ := hdb.completed k w hk
  obtain ⟨wo', hwo', hclosed⟩ := hopen
  obtain ⟨hget, -⟩ := Db.workOrder?_eq_some.mp hwo'
  cases hwo.symm.trans hget
  simp [WorkOrderStatus.isClosed, hstatus] at hclosed

theorem OrderEdited.lockStep {t w₀ : Uuid} {ms : List StockMovement} {items : Table WorkOrderItem}
    (hdb : InvoicesLinked db) (hopen : db.OpenOrder t w₀) (h : OrderEdited db t w₀ ms items db')
    (hitems : ∀ w, w ≠ w₀ → itemsIn items w = itemsIn db.workOrderItems w) :
    LockStep db db' := by
  refine .of_invoices_eq hdb h.invoices fun k w hk => ?_
  have hne := hdb.ne_of_open hopen hk
  refine .of_same (hdb.completed k w hk) ?_ ?_
  · obtain ⟨s, kdv, g, horders⟩ := h.orders
    rw [horders, Table.get?_modify_ne _ hne]
  · simp only [Db.itemsOf, h.items_eq]
    exact hitems w hne

/-- Setting the status of an order without an invoice, or of a completed one to
completed, keeps every invoiced order. -/
theorem InvoicesLinked.setStatus {id : Uuid} {status : WorkOrderStatus}
    {completedAt : Option Instant} (hdb : InvoicesLinked db)
    (h : ∀ k, db.Invoiced k id → status = .completed) :
    LockStep db { db with
      workOrders := db.workOrders.modify id (WorkOrder.setStatus status completedAt) } := by
  refine .of_invoices_eq hdb rfl fun k w hk => ?_
  obtain ⟨wo, hwo, hstatus⟩ := hdb.completed k w hk
  by_cases hw : w = id
  · subst hw
    have hget := Table.get?_modify_self hwo (WorkOrder.setStatus status completedAt)
    refine ⟨⟨_, hget, h k hk⟩, rfl, ?_⟩
    intro a b ha hb
    cases hwo.symm.trans ha
    cases hget.symm.trans hb
    exact ⟨rfl, rfl, rfl⟩
  · exact .of_same ⟨wo, hwo, hstatus⟩ (Table.get?_modify_ne _ hw _) rfl

theorem InvoicesLinked.withdrawn {id : Uuid} {reason : String} (hdb : InvoicesLinked db)
    (h : ∀ o, db.withdrawnOrder? id = some o → ¬ ∃ k, db.Invoiced k o.1) :
    LockStep db { db with
      appointments := db.appointments.modify id (Appointment.cancel reason)
      workOrders := (db.withdrawnOrder? id).elim db.workOrders fun o =>
        db.workOrders.modify o.1 WorkOrder.cancelWithAppointment } := by
  refine .of_invoices_eq hdb rfl fun k w hk => .of_same (hdb.completed k w hk) ?_ rfl
  cases ho : db.withdrawnOrder? id with
  | none => rfl
  | some o =>
    have hw : w ≠ o.1 := by
      rintro rfl
      exact h o ho ⟨k, hk⟩
    exact Table.get?_modify_ne _ hw _

theorem OrderOpened.lockStep {data : CreateWorkOrderData} (hdb : InvoicesLinked db)
    (h : OrderOpened db data db') : LockStep db db' := by
  refine .of_invoices_eq hdb h.invoices fun k w hk => ?_
  obtain ⟨wo, hwo, hstatus⟩ := hdb.completed k w hk
  refine .of_same ⟨wo, hwo, hstatus⟩ ?_ ?_
  · rw [h.orders, hwo, Table.get?_insert_of_some hwo]
  · rw [Db.itemsOf_eq, h.items_eq]
    exact itemsIn_storedRows h.stored (Nat.ne_of_lt (Table.get?_lt hwo)) _

theorem InvoiceIssued.lockStep {clock : Clock} {invoice : InvoiceEntity} {offset : Option ℚ}
    (hdb : InvoicesLinked db) (h : InvoiceIssued clock db invoice offset db') : LockStep db db' := by
  have horigin : ∀ k w, db'.Invoiced k w → db.Invoiced k w ∨
      k = db.invoices.next ∧ invoice.workOrderId = some w := by
    rintro k w ⟨inv, hget, hlink, hlive⟩
    rw [h.invoices, Table.get?_insert] at hget
    split_ifs at hget with hk
    · cases hget
      exact .inr ⟨hk, h.workOrderId_eq ▸ hlink⟩
    · exact .inl ⟨inv, hget, hlink, hlive⟩
  -- an order that gets an invoice had none before
  have hlocked : ∀ k w, db.Invoiced k w → Locked w db db' := by
    rintro k w ⟨inv, hget, hlink, hlive⟩
    refine .of_same (hdb.completed k w ⟨inv, hget, hlink, hlive⟩) ?_ (Db.itemsOf_congr h.items w)
    rw [h.workOrders]
    cases hw : invoice.workOrderId with
    | none => rfl
    | some w₀ =>
      have hne : w ≠ w₀ := by
        rintro rfl
        exact h.order_free w hw k inv hget hlink
      exact Table.get?_modify_ne _ hne _
  refine ⟨⟨?_, ?_⟩, by simp [h.invoices], fun k w hk => (horigin k w hk).imp_right And.left,
    fun k w hk _ => hlocked k w hk⟩
  · intro k w hk
    rcases horigin k w hk with hold | ⟨-, hw⟩
    · exact (hlocked k w hold).completed
    · have hchecked := h.checked
      unfold checkWorkOrder at hchecked
      rw [hw] at hchecked
      obtain ⟨wo, hwo, -⟩ := Outcome.bind_eq_ok.mp hchecked
      obtain ⟨hget, -⟩ := Db.workOrder?_eq_some.mp (Outcome.required_eq_ok.mp hwo)
      refine ⟨wo.complete clock, ?_, rfl⟩
      rw [h.workOrders, hw]
      exact Table.get?_modify_self hget _
  · intro j k a b w ha hb hja hkb
    rw [h.invoices, Table.get?_insert] at ha hb
    split_ifs at ha hb with hj hk hk
    · rw [hj, hk]
    · cases ha
      exact absurd hkb (h.order_free w (h.workOrderId_eq ▸ hja) k b hb)
    · cases hb
      exact absurd hja (h.order_free w (h.workOrderId_eq ▸ hkb) j a ha)
    · exact hdb.unique j k a b w ha hb hja hkb

theorem InvoiceVoided.lockStep {tenantId id : Uuid} (hdb : InvoicesLinked db)
    (h : InvoiceVoided db tenantId id db') : LockStep db db' := by
  have hget? : ∀ k inv, db'.invoices.get? k = some inv →
      k ≠ id ∧ db.invoices.get? k = some inv ∨ k = id ∧ inv.workOrderId = none := by
    intro k inv hk
    rw [h.invoices, Table.get?_modify] at hk
    obtain ⟨old, hold, rfl⟩ := Option.map_eq_some_iff.mp hk
    by_cases hkid : k = id
    · exact .inr ⟨hkid, by simp [hkid, cancelInvoiceRow]⟩
    · exact .inl ⟨hkid, by simp [hkid, hold]⟩
  have hold : ∀ k w, db'.Invoiced k w → k ≠ id ∧ db.Invoiced k w := by
    rintro k w ⟨inv, hk, hlink, hlive⟩
    rcases hget? k inv hk with ⟨hne, hk'⟩ | ⟨-, hnone⟩
    · exact ⟨hne, inv, hk', hlink, hlive⟩
    · cases hnone.symm.trans hlink
  obtain ⟨hexisting, -⟩ := Db.invoice?_eq_some.mp h.found
  have hlocked : ∀ k w, db'.Invoiced k w → Locked w db db' := by
    intro k w hk
    obtain ⟨hne, inv, hget, hlink, hlive⟩ := hold k w hk
    refine .of_same (hdb.completed k w ⟨inv, hget, hlink, hlive⟩) ?_ (Db.itemsOf_congr h.items w)
    rw [h.workOrders]
    cases hw : h.existing.workOrderId with
    | none => rfl
    | some w₀ =>
      -- the order that is opened again was linked to the cancelled invoice alone
      have hwne : w ≠ w₀ := by
        rintro rfl
        exact hne (hdb.unique k id inv h.existing w hget hexisting hlink hw)
      exact Table.get?_modify_ne _ hwne _
  refine ⟨⟨fun k w hk => (hlocked k w hk).completed, ?_⟩, by simp [h.invoices],
    fun k w hk => .inl (hold k w hk).2, fun k w _ hk => hlocked k w hk⟩
  intro j k a b w ha hb hja hkb
  rcases hget? j a ha with ⟨-, ha'⟩ | ⟨-, hnone⟩
  · rcases hget? k b hb with ⟨-, hb'⟩ | ⟨-, hnone⟩
    · exact hdb.unique j k a b w ha' hb' hja hkb
    · cases hnone.symm.trans hkb
  · cases hnone.symm.trans hja

theorem InvoicesLinked.detailed {id : Uuid} {details : EInvoiceDetails} (hdb : InvoicesLinked db) :
    LockStep db { db with invoices := db.invoices.modify id details.apply } := by
  have hget? : ∀ k inv, (db.invoices.modify id details.apply).get? k = some inv →
      ∃ old, db.invoices.get? k = some old ∧ inv.workOrderId = old.workOrderId ∧
        inv.status = old.status := by
    intro k inv hk
    rw [Table.get?_modify] at hk
    obtain ⟨old, hold, rfl⟩ := Option.map_eq_some_iff.mp hk
    refine ⟨old, hold, ?_⟩
    split_ifs <;> exact ⟨rfl, rfl⟩
  have hold : ∀ k w, Db.Invoiced { db with
      invoices := db.invoices.modify id details.apply } k w → db.Invoiced k w := by
    rintro k w ⟨inv, hk, hlink, hlive⟩
    obtain ⟨old, hget, hw, hs⟩ := hget? k inv hk
    exact ⟨old, hget, hw ▸ hlink, hs ▸ hlive⟩
  refine ⟨⟨fun k w hk => hdb.completed k w (hold k w hk), ?_⟩, Nat.le_refl _,
    fun k w hk => .inl (hold k w hk), fun k w hk _ => .of_same (hdb.completed k w hk) rfl rfl⟩
  intro j k a b w ha hb hja hkb
  obtain ⟨a₀, ha₀, hwa, -⟩ := hget? j a ha
  obtain ⟨b₀, hb₀, hwb, -⟩ := hget? k b hb
  exact hdb.unique j k a₀ b₀ w ha₀ hb₀ (hwa ▸ hja) (hwb ▸ hkb)

theorem WorkshopEffect.lockStep {env : WorkshopEnv} {t : WorkshopTask} (hdb : InvoicesLinked db)
    (hg : t.Grounded db) (hs : t.SparesInvoices db) (h : WorkshopEffect db env t db') :
    LockStep db db' := by
  cases h with
  | quiet h =>
    exact .of_invoices_eq hdb h.invoices fun k w hk =>
      .of_same (hdb.completed k w hk) (by rw [h.workOrders]) (Db.itemsOf_congr h.workOrderItems w)
  | opened h => exact h.lockStep hdb
  | added stored h => exact h.lockStep hdb hg fun w hw => stored.itemsIn_insert hw _
  | changed found quantity_eq positive fits h =>
    exact h.lockStep hdb hg fun w hw => Db.itemsIn_modify found hw _ rfl
  | removed found h => exact h.lockStep hdb hg fun w hw => Db.itemsIn_erase found hw
  | @statusWritten u wo found =>
    refine hdb.setStatus fun k hk => ?_
    obtain ⟨hcurrent, hcan⟩ := hg
    obtain ⟨order, horder, hcompleted⟩ := hdb.completed k u.id hk
    obtain ⟨hget, -⟩ := Db.workOrder?_eq_some.mp hcurrent
    cases horder.symm.trans hget
    have hclosed : u.order.status.isClosed = true := by
      simp [WorkOrderStatus.isClosed, hcompleted]
    rw [WorkOrderStatus.eq_of_canTransitionTo hclosed hcan, hcompleted]
  | rolledBack found => exact hdb.setStatus fun k hk => absurd ⟨k, hk⟩ hs
  | restored covered =>
    have hframe := db.postAll_frame
    refine .of_invoices_eq hdb (by rw [hframe]) fun k w hk =>
      .of_same (hdb.completed k w hk) (by rw [hframe]) (Db.itemsOf_congr (by rw [hframe]) w)
  | issued h => exact h.lockStep hdb
  | detailed => exact hdb.detailed
  | voided h => exact h.lockStep hdb
  | withdrawn => exact hdb.withdrawn hs
  | decremented =>
    exact .of_invoices_eq hdb rfl fun k w hk => .of_same (hdb.completed k w hk) rfl rfl
  | incremented =>
    exact .of_invoices_eq hdb rfl fun k w hk => .of_same (hdb.completed k w hk) rfl rfl
  | saved =>
    exact .of_invoices_eq hdb rfl fun k w hk => .of_same (hdb.completed k w hk) rfl rfl
  | recorded =>
    exact .of_invoices_eq hdb rfl fun k w hk => .of_same (hdb.completed k w hk) rfl rfl

end Effects

section Requests

theorem WorkshopTask.sparesInvoices_of_useCase {db : Db} {t : WorkshopTask}
    (hr : t.useCase ≠ .rollback) (hw : t.useCase ≠ .withdraw) : t.SparesInvoices db := by
  cases t <;> trivial

theorem WorkshopTask.SparesInvoices.reads {α : Type} {db : Db} {r : Outcome α}
    {next : α → WorkshopTask} (h : ∀ a, r = .ok a → (next a).SparesInvoices db) :
    (WorkshopTask.reads db r next).2.SparesInvoices (WorkshopTask.reads db r next).1 := by
  cases r with
  | error e => trivial
  | ok a => exact h a rfl

theorem WorkshopTask.SparesInvoices.commits {db : Db} {r : Outcome Db} {answer : Outcome Unit} :
    (WorkshopTask.commits db r (.finished answer)).2.SparesInvoices
      (WorkshopTask.commits db r (.finished answer)).1 := by
  cases r <;> trivial

theorem WorkshopTask.SparesInvoices.exec {db : Db} {t : WorkshopTask} (h : t.SparesInvoices db)
    (env : WorkshopEnv) : (t.exec db env).2.SparesInvoices (t.exec db env).1 := by
  cases t with
  | rollback tenantId id =>
    apply reads
    intro prev hprev
    obtain ⟨wo, hwo, -⟩ := rollbackTarget_ok hprev
    exact h wo hwo
  | confirmRollback tenantId id prev => exact reads fun _ _ => h
  | writeRollback tenantId id prev => exact commits
  | cancelAppointment tenantId id reason => exact reads fun u hu => h hu
  | storeCancellation tenantId id reason => exact commits
  | _ =>
    apply sparesInvoices_of_useCase
    · exact useCase_exec_ne (by simp [useCase]) (by decide) (by decide)
    · exact useCase_exec_ne (by simp [useCase]) (by decide) (by decide)

/-- A database in which invoices link to completed orders, related to an earlier one. -/
structure LockInvariant (base db : Db) (t : WorkshopTask) : Prop where
  linked : InvoicesLinked db
  grounded : t.Grounded db
  spares : t.SparesInvoices db
  next_le : base.invoices.next ≤ db.invoices.next
  origin : ∀ k w, k < base.invoices.next → db.Invoiced k w → base.Invoiced k w
  locked : ∀ k w, base.Invoiced k w → db.Invoiced k w → Locked w base db

theorem LockInvariant.exec {base db : Db} {t : WorkshopTask} (h : LockInvariant base db t)
    (env : WorkshopEnv) : LockInvariant base (t.exec db env).1 (t.exec db env).2 := by
  have hstep := (WorkshopTask.exec_effect db t env).lockStep h.linked h.grounded h.spares
  have hearlier : ∀ k w, k < base.invoices.next → (t.exec db env).1.Invoiced k w →
      db.Invoiced k w := by
    intro k w hk hinv
    rcases hstep.origin k w hinv with hold | rfl
    · exact hold
    · exact absurd (lt_of_lt_of_le hk h.next_le) (Nat.lt_irrefl _)
  refine ⟨hstep.linked, h.grounded.exec env, h.spares.exec env, h.next_le.trans hstep.next_le,
    fun k w hk hinv => h.origin k w hk (hearlier k w hk hinv), ?_⟩
  rintro k w hbase hinv
  obtain ⟨inv, hget, -⟩ := id hbase
  have hmid := hearlier k w (Table.get?_lt hget) hinv
  exact (h.locked k w hbase hmid).trans (hstep.locked k w hmid hinv)

theorem WorkshopRequest.sparesInvoices_enter {db : Db} {r : WorkshopRequest}
    (h : r.SparesInvoices db) : r.enter.SparesInvoices db := by
  cases r <;> exact h

theorem serve_lock {db : Db} {l : Served} (hdb : InvoicesLinked db)
    (h : l.request.SparesInvoices db) :
    InvoicesLinked (serve db l) ∧
      ∀ k w, db.Invoiced k w → (serve db l).Invoiced k w → Locked w db (serve db l) := by
  have henter : LockInvariant db db l.request.enter :=
    ⟨hdb, l.request.grounded_enter db, l.request.sparesInvoices_enter h, Nat.le_refl _,
      fun _ _ _ hinv => hinv, fun k w hinv _ => .of_same (hdb.completed k w hinv) rfl rfl⟩
  obtain ⟨answer, hend⟩ := serve_invariant henter fun db t ht => ht.exec (l.env t.remaining)
  exact ⟨hend.linked, hend.locked⟩

theorem serve_cancelAppointment {db : Db} {l : Served} {t id : Uuid} {reason : String}
    {o : Uuid × WorkOrder} (hl : l.request = .cancelAppointment t id reason)
    (hcheck : checkCancelAppointment db t id = .ok ()) (ho : db.withdrawnOrder? id = some o) :
    serve db l =
      { db with
        appointments := db.appointments.modify id (Appointment.cancel reason)
        workOrders := db.workOrders.modify o.1 WorkOrder.cancelWithAppointment } := by
  obtain ⟨a, ha, -⟩ := Outcome.bind_eq_ok.mp hcheck
  have hstore : ∃ db', cancelAppointmentAndWorkOrder db t id reason = .ok db' := by
    unfold cancelAppointmentAndWorkOrder
    rw [Outcome.required_eq_ok] at ha
    simp only [ha, Outcome.required, Option.elim_some]
    split
    · split_ifs <;> exact ⟨_, rfl⟩
    · exact ⟨_, rfl⟩
  obtain ⟨db', hdb'⟩ := hstore
  have hresult := cancelAppointmentAndWorkOrder_ok hdb'
  rw [ho] at hresult
  simp only [serve, hl, WorkshopRequest.enter, WorkshopTask.remaining, WorkshopTask.complete,
    WorkshopTask.exec, WorkshopTask.reads, hcheck, WorkshopTask.commits, hdb']
  exact hresult

theorem serve_unlocks {db : Db} {l : Served} (hdb : InvoicesLinked db)
    (h : ¬ l.request.SparesInvoices db) :
    ∃ k w, db.Invoiced k w ∧ (serve db l).Invoiced k w ∧ ¬ Locked w db (serve db l) := by
  cases hl : l.request with
  | rollbackWorkOrder t id =>
    rw [hl] at h
    simp only [WorkshopRequest.SparesInvoices] at h
    push Not at h
    obtain ⟨wo, hwo, k, hk⟩ := h
    obtain ⟨row, hrow, hcompleted⟩ := hdb.completed k id hk
    obtain ⟨hget, -⟩ := Db.workOrder?_eq_some.mp hwo
    cases hrow.symm.trans hget
    rw [serve_rollback hl hwo hcompleted]
    refine ⟨k, id, hk, hk, fun hlock => ?_⟩
    obtain ⟨wo', hwo', hstatus⟩ := hlock.completed
    cases (Table.get?_modify_self hget _).symm.trans hwo'
    cases hstatus
  | cancelAppointment t id reason =>
    rw [hl] at h
    simp only [WorkshopRequest.SparesInvoices] at h
    push Not at h
    obtain ⟨hcheck, o, ho, k, hk⟩ := h
    obtain ⟨row, hrow, -⟩ := hdb.completed k o.1 hk
    rw [serve_cancelAppointment hl hcheck ho]
    refine ⟨k, o.1, hk, hk, fun hlock => ?_⟩
    obtain ⟨wo', hwo', hstatus⟩ := hlock.completed
    cases (Table.get?_modify_self hrow _).symm.trans hwo'
    cases hstatus
  | _ =>
    rw [hl] at h
    exact absurd trivial h

end Requests

/-- In a run of requests, invoiced orders stay locked for as long as they are
invoiced precisely when every request spares invoices. -/
theorem invoice_locks_order_iff (db : Db) (requests : List Served) (hdb : InvoicesLinked db) :
    (∀ kw : Uuid × Uuid,
      WhileHolds serve (fun db => db.Invoiced kw.1 kw.2) (Locked kw.2) db requests) ↔
      EachStep serve (fun db l => l.request.SparesInvoices db) db requests := by
  apply whileHolds_iff_eachStep (I := InvoicesLinked)
  · exact fun kw s hs hk => .of_same (hs.completed kw.1 kw.2 hk) rfl rfl
  · exact fun kw s t u => Locked.trans
  · exact fun s l hs hl => (serve_lock hs hl).1
  · exact fun kw s l hs hl hk hk' => (serve_lock hs hl).2 kw.1 kw.2 hk hk'
  · intro s l hs hl
    obtain ⟨k, w, hk, hk', hlock⟩ := serve_unlocks hs hl
    exact ⟨(k, w), hk, hk', hlock⟩
  · exact hdb

/-- The order of an invoice is completed and stays so while its items are still asked for. -/
theorem sample_order_locked :
    WhileHolds serve (fun db => db.Invoiced 0 0) (Locked 0) shopDb
      [served (.createWorkOrder 0 padOrder), served (.createInvoice 0 padInvoice),
        served (.removeWorkOrderItem 0 0 0), served (.updateWorkOrderStatus 0 0 "CANCELLED")] := by
  refine (invoice_locks_order_iff shopDb _ ⟨?_, ?_⟩).mpr ?_ (0, 0)
  · rintro k w ⟨inv, hget, -⟩
    cases hget
  · rintro j k a b w ha
    cases ha
  · have hspares : ∀ l ∈ [served (.createWorkOrder 0 padOrder),
        served (.createInvoice 0 padInvoice), served (.removeWorkOrderItem 0 0 0),
        served (.updateWorkOrderStatus 0 0 "CANCELLED")], ∀ db, l.request.SparesInvoices db := by
      simp [served, WorkshopRequest.SparesInvoices]
    exact (eachStep_of_forall hspares).mono fun db l h => h db

/-- The appointment of an invoiced order is cancelled, and the order with it. -/
theorem cancelled_appointment_unlocks :
    ¬ WhileHolds serve (fun db => db.Invoiced 0 0) (Locked 0) shopDb
      [served (.createWorkOrder 0 padOrder), served (.createInvoice 0 padInvoice),
        served (.cancelAppointment 0 0 "OTHER")] := by
  intro h
  have hinvoiced : Always serve (fun db => db.Invoiced 0 0)
      (run serve shopDb [served (.createWorkOrder 0 padOrder),
        served (.createInvoice 0 padInvoice)]) [served (.cancelAppointment 0 0 "OTHER")] := by
    rw [always_cons, always_nil]
    exact ⟨by decide +kernel, by decide +kernel⟩
  have hlock := h [served (.createWorkOrder 0 padOrder), served (.createInvoice 0 padInvoice)]
    [served (.cancelAppointment 0 0 "OTHER")] [] rfl hinvoiced
  obtain ⟨wo, hget, hstatus⟩ := hlock.completed
  have hcancelled : ((run serve (run serve shopDb [served (.createWorkOrder 0 padOrder),
      served (.createInvoice 0 padInvoice)])
      [served (.cancelAppointment 0 0 "OTHER")]).workOrders.get? 0).map WorkOrder.status =
        some .cancelled := by decide +kernel
  rw [hget, Option.map_some, hstatus] at hcancelled
  cases hcancelled

end WorksAuto
