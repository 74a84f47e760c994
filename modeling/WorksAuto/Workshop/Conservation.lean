import WorksAuto.Workshop.Serial

/-! Conservation of stock.
The stock of a product together with what orders that are not cancelled hold of
it stays the same in every run of the work order, invoice and appointment use
cases in which no appointment is cancelled while its order holds parts, and no
invoice is cancelled whose order was cancelled with parts on it. A status update
that cancels an order strands its parts until its last transaction returns
them; that transaction cannot fail, because the total fits the stock column. -/

namespace WorksAuto

open Lib

def WorkOrderItem.takes (p : Uuid) (it : WorkOrderItem) : ℤ :=
  if it.part? = some p then it.quantity else 0

def Db.isCancelled (db : Db) (w : Uuid) : Bool :=
  (db.workOrders.get? w).any fun wo => wo.status = .cancelled

def Db.counts (db : Db) (p : Uuid) (it : WorkOrderItem) : ℤ :=
  if db.isCancelled it.workOrderId then 0 else it.takes p

/-- The quantity of a product on orders that are not cancelled. -/
def Db.held (db : Db) (p : Uuid) : ℤ := db.workOrderItems.sumBy (db.counts p)

def Db.onOrder (db : Db) (w p : Uuid) : ℤ :=
  db.workOrderItems.sumBy fun it => if it.workOrderId = w then it.takes p else 0

def Db.NoParts (db : Db) (w : Uuid) : Prop :=
  ∀ k it, db.workOrderItems.get? k = some it → it.workOrderId = w → it.part? = none

/-- Parts on orders name products that exist, in positive quantities that fit
their column, and the stock column is not below its range. -/
structure StockSound (db : Db) : Prop where
  parts : ∀ k it p, db.workOrderItems.get? k = some it → it.part? = some p →
    db.hasProduct p ∧ 1 ≤ it.quantity ∧ it.quantity < 2 ^ 31
  floor : ∀ p, -2 ^ 31 ≤ db.stockOf p

structure StockKept (db db' : Db) : Prop where
  sound : StockSound db'
  balance : ∀ p, db'.stockOf p + db'.held p = db.stockOf p + db.held p

section Movements

variable {t w : Uuid}

theorem WorkOrderItem.net_adjustment (it : WorkOrderItem) (diff : ℤ) (p : Uuid) :
    net (it.adjustment t w diff) p = -(if it.part? = some p then diff else 0) := by
  unfold adjustment
  rcases lt_trichotomy diff 0 with hneg | rfl | hpos
  · rw [if_neg (not_lt_of_gt hneg), if_pos hneg, net_return, abs_of_neg hneg]
    split_ifs <;> rfl
  · simp
  · rw [if_pos hpos, net_out]

theorem net_restoration (items : List (Uuid × WorkOrderItem)) (p : Uuid) :
    net (restoration t w items) p = (items.map fun it => it.2.takes p).sum := by
  induction items with
  | nil => rfl
  | cons it items ih =>
    have hfirst : net (it.2.returning t w) p = it.2.takes p := net_return t w p _ _
    rw [restoration, List.flatMap_cons, net_append, List.map_cons, List.sum_cons, hfirst]
    rw [← ih]
    rfl

end Movements

section Edits

variable {db db' : Db}

theorem Db.isCancelled_modify {id : Uuid} {f : WorkOrder → WorkOrder}
    (horders : db'.workOrders = db.workOrders.modify id f)
    (h : ∀ wo, db.workOrders.get? id = some wo →
      ((f wo).status = .cancelled ↔ wo.status = .cancelled)) (w : Uuid) :
    db'.isCancelled w = db.isCancelled w := by
  simp only [isCancelled, horders, Table.get?_modify]
  cases hw : db.workOrders.get? w with
  | none => rfl
  | some wo =>
    by_cases hid : w = id
    · subst hid
      simp [h wo hw]
    · simp [hid]

theorem Db.held_congr (hitems : db'.workOrderItems = db.workOrderItems)
    (h : ∀ w, ¬ db.NoParts w → db'.isCancelled w = db.isCancelled w) (p : Uuid) :
    db'.held p = db.held p := by
  unfold held
  rw [hitems]
  apply Table.sumBy_congr
  intro k it hit
  unfold counts
  by_cases hpart : it.part? = none
  · simp [WorkOrderItem.takes, hpart]
  · rw [h it.workOrderId fun hnone => hpart (hnone k it hit rfl)]

theorem OrderEdited.kept {t w : Uuid} {ms : List StockMovement} {items : Table WorkOrderItem}
    (hdb : StockSound db) (h : OrderEdited db t w ms items db') (hflow : ∀ m ∈ ms, m.Flow)
    (hparts : ∀ k it p, items.get? k = some it → it.part? = some p →
      db.hasProduct p ∧ 1 ≤ it.quantity ∧ it.quantity < 2 ^ 31)
    (hnet : ∀ p, net ms p + items.sumBy (db.counts p) = db.workOrderItems.sumBy (db.counts p)) :
    StockKept db db' := by
  have hstock : ∀ p, db'.stockOf p = (db.postAll ms).stockOf p := by
    intro p
    simp only [Db.stockOf, h.products]
  have hcancelled : ∀ w', db'.isCancelled w' = db.isCancelled w' := by
    obtain ⟨s, kdv, g, horders⟩ := h.orders
    exact Db.isCancelled_modify horders fun wo _ => Iff.rfl
  refine ⟨⟨?_, ?_⟩, ?_⟩
  · intro k it p hk hp
    rw [h.items_eq] at hk
    obtain ⟨hknown, hbounds⟩ := hparts k it p hk hp
    refine ⟨?_, hbounds⟩
    simp only [Db.hasProduct, h.products]
    exact (db.hasProduct_postAll ms p).mpr hknown
  · intro p
    rw [hstock]
    have hfloor := h.covered.floor hflow p
    have hold := hdb.floor p
    omega
  · intro p
    have hcounts : db'.counts p = db.counts p := by
      funext it
      simp only [Db.counts, hcancelled]
    have hsum := hnet p
    rw [hstock, Db.stockOf_postAll_net h.covered.hasProduct hflow]
    unfold Db.held
    rw [h.items_eq, hcounts]
    omega

theorem Db.OpenOrder.isCancelled {t w : Uuid} (h : db.OpenOrder t w) :
    db.isCancelled w = false := by
  obtain ⟨wo, hwo, hopen⟩ := h
  obtain ⟨hget, -⟩ := Db.workOrder?_eq_some.mp hwo
  have hne : wo.status ≠ .cancelled := by
    intro hc
    simp [WorkOrderStatus.isClosed, hc] at hopen
  simp [Db.isCancelled, hget, hne]

theorem StoredAs.takes {w : Uuid} {item : NewWorkOrderItem} {row : WorkOrderItem}
    (h : StoredAs w item row) (p : Uuid) :
    row.takes p = if item.part? = some p then item.quantity else 0 := by
  rw [WorkOrderItem.takes, h.part, h.quantity]

theorem Db.Covers.part {t w p : Uuid} {ms : List StockMovement} {item : NewWorkOrderItem}
    (h : db.Covers ms) (hsub : item.consumption t w ⊆ ms) (hp : item.part? = some p) :
    db.hasProduct p := by
  apply h.hasProduct (outMovement t w p item.quantity)
  apply hsub
  simp [NewWorkOrderItem.consumption, hp]

theorem ItemAdded.kept {t w : Uuid} {item : NewWorkOrderItem} {row : WorkOrderItem}
    (hdb : StockSound db) (hopen : db.OpenOrder t w) (hpos : 1 ≤ item.quantity)
    (hrow : StoredAs w item row)
    (h : OrderEdited db t w (item.consumption t w) (db.workOrderItems.insert row) db') :
    StockKept db db' := by
  refine h.kept hdb item.consumption_flow ?_ ?_
  · intro k it p hk hp
    rw [Table.get?_insert] at hk
    split_ifs at hk with hnext
    · cases hk
      refine ⟨h.covered.part (List.Subset.refl _) (hrow.part ▸ hp), ?_, hrow.fits.2⟩
      rw [hrow.quantity]
      exact hpos
    · exact hdb.parts k it p hk hp
  · intro p
    have hcounts : db.counts p row = if item.part? = some p then item.quantity else 0 := by
      rw [Db.counts, hrow.order, hopen.isCancelled, if_neg (by simp), hrow.takes]
    have hnet : net (item.consumption t w) p =
        -(if item.part? = some p then item.quantity else 0) := net_out t w p _ _
    rw [Table.sumBy_insert, hnet, hcounts]
    omega

theorem ItemChanged.kept {t w k : Uuid} {it : WorkOrderItem} {name : String}
    {unitPrice quantity totalPrice : ℤ} (hdb : StockSound db) (hopen : db.OpenOrder t w)
    (found : db.workOrderItem? w k = some it)
    (hpos : ∀ p, it.part? = some p → 1 ≤ quantity) (hfits : quantity < 2 ^ 31)
    (h : OrderEdited db t w (it.adjustment t w (quantity - it.quantity))
      (db.workOrderItems.modify k (WorkOrderItem.revise name unitPrice quantity totalPrice)) db') :
    StockKept db db' := by
  obtain ⟨hget, horder⟩ := Db.workOrderItem?_eq_some.mp found
  refine h.kept hdb (it.adjustment_flow _) ?_ ?_
  · intro i r p hi hp
    rw [Table.get?_modify] at hi
    obtain ⟨old, hold, rfl⟩ := Option.map_eq_some_iff.mp hi
    split_ifs at hp ⊢ with hik
    · subst hik
      cases hget.symm.trans hold
      obtain ⟨hknown, -⟩ := hdb.parts i it p hget hp
      exact ⟨hknown, hpos p hp, hfits⟩
    · exact hdb.parts i old p hold hp
  · intro p
    have hsum := Table.sumBy_modify hget
      (WorkOrderItem.revise name unitPrice quantity totalPrice) (db.counts p)
    have hold : db.counts p it = it.takes p := by
      rw [Db.counts, horder, hopen.isCancelled, if_neg (by simp)]
    have hnew : db.counts p (it.revise name unitPrice quantity totalPrice) =
        if it.part? = some p then quantity else 0 := by
      have horder' : (it.revise name unitPrice quantity totalPrice).workOrderId = w := horder
      rw [Db.counts, horder', hopen.isCancelled, if_neg (by simp)]
      rfl
    rw [hold, hnew] at hsum
    rw [it.net_adjustment]
    unfold WorkOrderItem.takes at hsum
    split_ifs at hsum ⊢ <;> omega

theorem ItemRemoved.kept {t w k : Uuid} {it : WorkOrderItem} (hdb : StockSound db)
    (hopen : db.OpenOrder t w) (found : db.workOrderItem? w k = some it)
    (h : OrderEdited db t w (it.returning t w) (db.workOrderItems.erase k) db') :
    StockKept db db' := by
  obtain ⟨hget, horder⟩ := Db.workOrderItem?_eq_some.mp found
  have hquantity : ∀ p, it.part? = some p → 0 ≤ it.quantity := by
    intro p hp
    have hbounds := hdb.parts k it p hget hp
    omega
  refine h.kept hdb (WorkOrderItem.returning_flow hquantity) ?_ ?_
  · intro i r p hi hp
    rw [Table.get?_erase] at hi
    split_ifs at hi
    exact hdb.parts i r p hi hp
  · intro p
    have hsum := Table.sumBy_erase hget (db.counts p)
    have hcounts : db.counts p it = it.takes p := by
      rw [Db.counts, horder, hopen.isCancelled, if_neg (by simp)]
    have hnet : net (it.returning t w) p = it.takes p := net_return t w p _ _
    rw [hnet]
    omega

end Edits

section Orders

variable {db db' : Db}

theorem StockKept.of_orders (hdb : StockSound db) (hp : db'.products = db.products)
    (hi : db'.workOrderItems = db.workOrderItems)
    (h : ∀ w, ¬ db.NoParts w → db'.isCancelled w = db.isCancelled w) : StockKept db db' := by
  have hstock : ∀ p, db'.stockOf p = db.stockOf p := by
    intro p
    simp only [Db.stockOf, hp]
  refine ⟨⟨?_, fun p => by rw [hstock]; exact hdb.floor p⟩, fun p => by
    rw [hstock, Db.held_congr hi h]⟩
  intro k it p hk hpart
  rw [hi] at hk
  simp only [Db.hasProduct, hp]
  exact hdb.parts k it p hk hpart

theorem StockKept.refl (hdb : StockSound db) : StockKept db db :=
  .of_orders hdb rfl rfl fun _ _ => rfl

theorem sum_storedRows {t w p : Uuid} {items : List NewWorkOrderItem} {rows : List WorkOrderItem}
    (h : List.Forall₂ (StoredAs w) items rows) :
    net (items.flatMap (NewWorkOrderItem.consumption t w)) p +
      (rows.map (WorkOrderItem.takes p)).sum = 0 := by
  induction h with
  | nil => rfl
  | @cons item row items rows hrow _ ih =>
    have hnet : net (item.consumption t w) p =
        -(if item.part? = some p then item.quantity else 0) := net_out t w p _ _
    rw [List.flatMap_cons, net_append, List.map_cons, List.sum_cons, hnet, hrow.takes]
    omega

theorem OrderOpened.kept {data : CreateWorkOrderData} (hdb : StockSound db)
    (hstatus : data.status = .queue) (hpos : ∀ item ∈ data.items, 1 ≤ item.quantity)
    (h : OrderOpened db data db') : StockKept db db' := by
  have hflow : ∀ m ∈ data.items.flatMap
      (NewWorkOrderItem.consumption data.tenantId db.workOrders.next), m.Flow :=
    consumptions_flow
  have hstock : ∀ p, db'.stockOf p = (db.postAll (data.items.flatMap
      (NewWorkOrderItem.consumption data.tenantId db.workOrders.next))).stockOf p := by
    intro p
    simp only [Db.stockOf, h.products]
  have hcancelled : ∀ w, db'.isCancelled w = db.isCancelled w := by
    intro w
    simp only [Db.isCancelled, h.orders, Table.get?_insert]
    split_ifs with hw
    · subst hw
      simp [Table.get?_next, h.opened.status, hstatus]
    · rfl
  refine ⟨⟨?_, ?_⟩, ?_⟩
  · intro k it p hk hp
    rw [h.items_eq] at hk
    simp only [Db.hasProduct, h.products]
    rcases Table.get?_foldl_insert hk with hold | hnew
    · obtain ⟨hknown, hbounds⟩ := hdb.parts k it p hold hp
      exact ⟨(db.hasProduct_postAll _ p).mpr hknown, hbounds⟩
    · obtain ⟨item, hitem, hstored⟩ := storedRows_mem h.stored it hnew
      have hsub : item.consumption data.tenantId db.workOrders.next ⊆ data.items.flatMap
          (NewWorkOrderItem.consumption data.tenantId db.workOrders.next) :=
        fun m hm => List.mem_flatMap.mpr ⟨item, hitem, hm⟩
      have hknown : db.hasProduct p := h.covered.part hsub (hstored.part ▸ hp)
      refine ⟨(db.hasProduct_postAll _ p).mpr hknown, ?_, hstored.fits.2⟩
      rw [hstored.quantity]
      exact hpos item hitem
  · intro p
    rw [hstock]
    have hfloor := h.covered.floor hflow p
    have hold := hdb.floor p
    omega
  · intro p
    have hsum := sum_storedRows (t := data.tenantId) (p := p) h.stored
    have hrows : (h.rows.map (db'.counts p)).sum = (h.rows.map (WorkOrderItem.takes p)).sum := by
      congr 1
      apply List.map_congr_left
      intro row hrow
      obtain ⟨item, -, hstored⟩ := storedRows_mem h.stored row hrow
      have hopen : db.isCancelled db.workOrders.next = false := by
        simp [Db.isCancelled, Table.get?_next]
      rw [Db.counts, hcancelled, hstored.order, hopen, if_neg (by simp)]
    have hcounts : db'.counts p = db.counts p := by
      funext it
      simp only [Db.counts, hcancelled]
    rw [hstock, Db.stockOf_postAll_net h.covered.hasProduct hflow]
    unfold Db.held
    rw [h.items_eq, Table.sumBy_foldl_insert, hrows, hcounts]
    omega

theorem InvoiceIssued.kept {clock : Clock} {invoice : InvoiceEntity} {offset : Option ℚ}
    (hdb : StockSound db) (h : InvoiceIssued clock db invoice offset db') : StockKept db db' := by
  refine .of_orders hdb h.products h.items fun w _ => ?_
  have horders := h.workOrders
  have hchecked := h.checked
  unfold checkWorkOrder at hchecked
  cases hw : invoice.workOrderId with
  | none =>
    rw [hw] at horders
    simp only [Db.isCancelled, horders, Option.elim_none]
  | some w₀ =>
    rw [hw] at horders hchecked
    obtain ⟨wo, hwo, h₁⟩ := Outcome.bind_eq_ok.mp hchecked
    obtain ⟨u, -, h₂⟩ := Outcome.bind_eq_ok.mp h₁
    obtain ⟨v, hlive, -⟩ := Outcome.bind_eq_ok.mp h₂
    obtain ⟨hget, -⟩ := Db.workOrder?_eq_some.mp (Outcome.required_eq_ok.mp hwo)
    refine Db.isCancelled_modify horders (fun order horder => ?_) w
    cases hget.symm.trans horder
    simpa [WorkOrder.complete] using hlive

theorem InvoiceVoided.kept {tenantId id : Uuid} (hdb : StockSound db)
    (h : InvoiceVoided db tenantId id db')
    (hparts : ∀ w, h.existing.workOrderId = some w → db.isCancelled w = true → db.NoParts w) :
    StockKept db db' := by
  refine .of_orders hdb h.products h.items fun w hw => ?_
  have horders := h.workOrders
  cases hlink : h.existing.workOrderId with
  | none =>
    rw [hlink] at horders
    simp only [Db.isCancelled, horders, Option.elim_none]
  | some w₀ =>
    rw [hlink] at horders
    simp only [Option.elim_some] at horders
    by_cases hsame : w = w₀
    · subst hsame
      refine Db.isCancelled_modify horders (fun order horder => ?_) w
      have hopen : db.isCancelled w ≠ true := fun hc => hw (hparts w hlink hc)
      simp [Db.isCancelled, horder] at hopen
      simp [WorkOrder.reopen, hopen]
    · simp only [Db.isCancelled, horders, Table.get?_modify_ne _ hsame]

theorem StockSound.withdrawn {id : Uuid} {reason : String} (hdb : StockSound db)
    (hparts : ∀ o, db.withdrawnOrder? id = some o → db.NoParts o.1) :
    StockKept db { db with
      appointments := db.appointments.modify id (Appointment.cancel reason)
      workOrders := (db.withdrawnOrder? id).elim db.workOrders fun o =>
        db.workOrders.modify o.1 WorkOrder.cancelWithAppointment } := by
  refine .of_orders hdb rfl rfl fun w hw => ?_
  cases ho : db.withdrawnOrder? id with
  | none => rfl
  | some o =>
    have hne : w ≠ o.1 := by
      rintro rfl
      exact hw (hparts o ho)
    simp only [Db.isCancelled, Option.elim_some, Table.get?_modify_ne _ hne]

theorem StockSound.setStatus {id : Uuid} {status : WorkOrderStatus} {completedAt : Option Instant}
    (hdb : StockSound db)
    (h : ∀ wo, db.workOrders.get? id = some wo → (status = .cancelled ↔ wo.status = .cancelled)) :
    StockKept db { db with
      workOrders := db.workOrders.modify id (WorkOrder.setStatus status completedAt) } :=
  .of_orders hdb rfl rfl fun w _ => Db.isCancelled_modify rfl h w

end Orders

section Cancellation

variable {db db' : Db}

theorem Db.onOrder_eq (db : Db) (w p : Uuid) :
    ((db.itemsOf w).map fun it => it.2.takes p).sum = db.onOrder w p := by
  rw [itemsOf, Table.sum_filter, onOrder]
  simp only [decide_eq_true_eq]

theorem Db.held_cancel {w : Uuid} (hitems : db'.workOrderItems = db.workOrderItems)
    (hopen : db.isCancelled w = false) (hnow : db'.isCancelled w = true)
    (hother : ∀ w', w' ≠ w → db'.isCancelled w' = db.isCancelled w') (p : Uuid) :
    db'.held p + db'.onOrder w p = db.held p := by
  unfold held onOrder
  rw [hitems, ← Table.sumBy_add]
  apply Table.sumBy_congr
  intro k it _
  unfold counts
  by_cases hw : it.workOrderId = w
  · simp [hw, hopen, hnow]
  · simp [hw, hother _ hw]

theorem WorkOrderItem.takes_nonneg {it : WorkOrderItem}
    (h : ∀ p, it.part? = some p → 0 ≤ it.quantity) (p : Uuid) : 0 ≤ it.takes p := by
  unfold takes
  split_ifs with hp
  · exact h p hp
  · exact le_rfl

theorem returnPart_succeeds {t w : Uuid} {it : WorkOrderItem}
    (hparts : ∀ p, it.part? = some p → db.hasProduct p ∧ 1 ≤ it.quantity ∧ it.quantity < 2 ^ 31)
    (hfloor : ∀ p, -2 ^ 31 ≤ db.stockOf p) (hcap : ∀ p, db.stockOf p + it.takes p < 2 ^ 31) :
    ∃ mid, returnPart db t w it = .ok mid := by
  unfold returnPart
  cases hp : it.part? with
  | none => exact ⟨db, rfl⟩
  | some p =>
    obtain ⟨hknown, hone, hmax⟩ := hparts p hp
    obtain ⟨row, hrow⟩ := Option.isSome_iff_exists.mp hknown
    have hstock : db.stockOf p = row.stockQuantity := by simp [Db.stockOf, hrow]
    have hroom := hcap p
    have hlow := hfloor p
    rw [WorkOrderItem.takes, if_pos hp, hstock] at hroom
    rw [hstock] at hlow
    have hstored : int4 (row.stockQuantity + it.quantity) =
        .ok (row.stockQuantity + it.quantity) := int4_eq_ok.mpr ⟨rfl, by omega, hroom⟩
    have hquantity : int4 it.quantity = .ok it.quantity :=
      int4_eq_ok.mpr ⟨rfl, by omega, hmax⟩
    have hincrement : incrementStock db p it.quantity =
        .ok (db.setStock p (row.stockQuantity + it.quantity)) :=
      Outcome.bind_eq_ok.mpr
        ⟨row, Outcome.required_eq_ok.mpr hrow, Outcome.bind_eq_ok.mpr ⟨_, hstored, rfl⟩⟩
    exact ⟨_, Outcome.bind_eq_ok.mpr ⟨_, hincrement,
      (Outcome.bind_eq_ok.mpr ⟨it.quantity, hquantity, rfl⟩ : addStockMovement _ _ = .ok _)⟩⟩

theorem restoreCancelledStock_succeeds {t w : Uuid} {items : List (Uuid × WorkOrderItem)}
    (hparts : ∀ it ∈ items, ∀ p, it.2.part? = some p →
      db.hasProduct p ∧ 1 ≤ it.2.quantity ∧ it.2.quantity < 2 ^ 31)
    (hfloor : ∀ p, -2 ^ 31 ≤ db.stockOf p)
    (hcap : ∀ p, db.stockOf p + (items.map fun it => it.2.takes p).sum < 2 ^ 31) :
    ∃ db', restoreCancelledStock db t w items = .ok db' := by
  unfold restoreCancelledStock
  induction items generalizing db with
  | nil => exact ⟨db, rfl⟩
  | cons it items ih =>
    obtain ⟨hfirst, hothers⟩ := List.forall_mem_cons.mp hparts
    have hquantity : ∀ it ∈ items, ∀ p, it.2.part? = some p → 0 ≤ it.2.quantity := by
      intro it hit p hp
      have hbounds := hothers it hit p hp
      omega
    have hrest : ∀ p, 0 ≤ (items.map fun it => it.2.takes p).sum := by
      intro p
      apply List.sum_nonneg
      intro x hx
      obtain ⟨it, hit, rfl⟩ := List.mem_map.mp hx
      exact WorkOrderItem.takes_nonneg (hquantity it hit) p
    have hroom : ∀ p, db.stockOf p + it.2.takes p < 2 ^ 31 := by
      intro p
      have hp := hcap p
      have hr := hrest p
      rw [List.map_cons, List.sum_cons] at hp
      omega
    obtain ⟨mid, hmid⟩ := returnPart_succeeds hfirst hfloor hroom
    obtain ⟨hcov, rfl⟩ := returnPart_ok hmid
    have hpositive : ∀ p, it.2.part? = some p → 0 ≤ it.2.quantity := by
      intro p hp
      have hbounds := hfirst p hp
      omega
    have hstock : ∀ p, (db.postAll (it.2.returning t w)).stockOf p =
        db.stockOf p + it.2.takes p := by
      intro p
      rw [Db.stockOf_postAll_net hcov.hasProduct (WorkOrderItem.returning_flow hpositive)]
      exact congrArg _ (net_return t w p _ _)
    rw [List.foldlM_cons, hmid]
    refine ih ?_ ?_ ?_
    · intro it' hit p hp
      obtain ⟨hknown, hbounds⟩ := hothers it' hit p hp
      exact ⟨(db.hasProduct_postAll _ p).mpr hknown, hbounds⟩
    · intro p
      have hlow := hfloor p
      have htake := WorkOrderItem.takes_nonneg hpositive p
      rw [hstock]
      omega
    · intro p
      have hp := hcap p
      rw [List.map_cons, List.sum_cons] at hp
      rw [hstock]
      omega

end Cancellation

section Requests

def Db.RevivesNoParts (db : Db) (tenantId invoiceId : Uuid) : Prop :=
  ∀ inv w, db.invoice? tenantId invoiceId = some inv → inv.workOrderId = some w →
    db.isCancelled w = true → db.NoParts w

/-- The order that is cancelled with the appointment, if there is one, has no parts on it. -/
def Db.WithdrawsNoParts (db : Db) (appointmentId : Uuid) : Prop :=
  ∀ o, db.withdrawnOrder? appointmentId = some o → db.NoParts o.1

/-- The requests conservation is about: no manual change of stock, and quantities
are positive. -/
def WorkshopRequest.MovesStock : WorkshopRequest → Prop
  | .createWorkOrder _ input => ∀ item ∈ input.items, 1 ≤ item.quantity
  | .addWorkOrderItem _ _ dto => 1 ≤ dto.quantity
  | .updateWorkOrderItemQuantity _ _ _ data _ => ∀ q ∈ data.quantity, 1 ≤ q
  | .decrementStock .. => False
  | .incrementStock .. => False
  | .addStockMovement .. => False
  | .updateStockItem .. => False
  | _ => True

/-- No accepted cancellation of an appointment or an invoice passes over parts. -/
def Served.StrandsNoParts (db : Db) (l : Served) : Prop :=
  match l.request with
  | .cancelAppointment tenantId id _ =>
    checkCancelAppointment db tenantId id = .ok () → db.WithdrawsNoParts id
  | .cancelInvoice tenantId id reason =>
    checkCancelInvoice (l.env 2).clock db tenantId id reason (l.env 2).eInvoiceCancellation =
      .ok () → db.RevivesNoParts tenantId id
  | _ => True

def WorkshopTask.Admitted (env : ℕ → WorkshopEnv) (db : Db) : WorkshopTask → Prop
  | .createOrder _ input => ∀ item ∈ input.items, 1 ≤ item.quantity
  | .numberOrder _ input => ∀ item ∈ input.items, 1 ≤ item.quantity
  | .storeOrder _ input _ => ∀ item ∈ input.items, 1 ≤ item.quantity
  | .addItem _ _ dto => 1 ≤ dto.quantity
  | .storeItem _ _ dto => 1 ≤ dto.quantity
  | .cancelAppointment tenantId id _ =>
    checkCancelAppointment db tenantId id = .ok () → db.WithdrawsNoParts id
  | .storeCancellation _ id _ => db.WithdrawsNoParts id
  | .cancelInvoice tenantId id reason =>
    checkCancelInvoice (env 2).clock db tenantId id reason (env 2).eInvoiceCancellation = .ok () →
      db.RevivesNoParts tenantId id
  | .voidInvoice tenantId id => db.RevivesNoParts tenantId id
  | t => t.useCase ≠ .inventory

theorem Served.admitted_enter {db : Db} {l : Served} (hm : l.request.MovesStock)
    (hs : l.StrandsNoParts db) : l.request.enter.Admitted l.env db := by
  unfold StrandsNoParts at hs
  cases hl : l.request <;> rw [hl] at hm hs <;> first | exact hm | exact hs | exact hm.elim | exact nofun

namespace WorkshopTask

theorem admitted_of_useCase {env : ℕ → WorkshopEnv} {db : Db} {t : WorkshopTask}
    (h : t.useCase = .status ∨ t.useCase = .rollback ∨ t.useCase = .issue ∨
      t.useCase = .finished) : t.Admitted env db := by
  cases t <;> simp [useCase, Admitted] at h ⊢

theorem admitted_reads {α : Type} {env : ℕ → WorkshopEnv} {db : Db} {r : Outcome α}
    {next : α → WorkshopTask} (h : ∀ a, r = .ok a → (next a).Admitted env db) :
    (reads db r next).2.Admitted env (reads db r next).1 := by
  cases r with
  | error e => exact nofun
  | ok a => exact h a rfl

theorem admitted_commits {env : ℕ → WorkshopEnv} {db : Db} {r : Outcome Db}
    {answer : Outcome Unit} : (commits db r (.finished answer)).2.Admitted env
      (commits db r (.finished answer)).1 := by
  cases r <;> exact nofun

theorem Admitted.exec {env : ℕ → WorkshopEnv} {db : Db} {t : WorkshopTask}
    (h : t.Admitted env db) :
    (t.exec db (env t.remaining)).2.Admitted env (t.exec db (env t.remaining)).1 := by
  cases t with
  | createOrder tenantId input => exact admitted_reads fun _ _ => h
  | numberOrder tenantId input =>
    simp only [WorkshopTask.exec]
    split
    · exact fun h => by cases h
    · exact h
  | addItem tenantId workOrderId dto => exact admitted_reads fun _ _ => h
  | cancelAppointment tenantId id reason => exact admitted_reads fun u hu => h hu
  | cancelInvoice tenantId id reason => exact admitted_reads fun u hu => h hu
  | updateItem | removeItem => exact admitted_reads fun _ _ h => by cases h
  | storeOrder | storeItem | changeItem | deleteItem | voidInvoice | storeCancellation =>
    exact admitted_commits
  | finished answer => exact fun h => by cases h
  | decrementStock | storeDecrement | incrementStock | storeIncrement | addMovement
  | updateProduct | saveRead | saveCell | saveProduct | checkMovement | storeMovement =>
    exact absurd rfl h
  | updateStatus | confirmOrder | writeStatus | readCancelled | restoreStock | syncAppointment
  | readAutoInvoice | readInvoice | rollback | confirmRollback | writeRollback | issueInvoice
  | eInvoice =>
    apply admitted_of_useCase
    rcases useCase_exec db _ (env _) with hnext | hnext | ⟨-, hnext⟩ <;>
      rw [hnext] <;> simp [useCase]

def stranded (db : Db) (p : Uuid) : WorkshopTask → ℤ
  | .readCancelled u => db.onOrder u.id p
  | .restoreStock u _ => db.onOrder u.id p
  | _ => 0

theorem stranded_afterSync (db : Db) (p : Uuid) (u : StatusUpdate) :
    (afterSync u).stranded db p = 0 := by
  unfold afterSync
  split_ifs <;> rfl

theorem stranded_afterRestore (db : Db) (p : Uuid) (u : StatusUpdate) :
    (afterRestore u).stranded db p = 0 := by
  unfold afterRestore
  split_ifs
  · rfl
  · exact stranded_afterSync db p u

theorem stranded_of_useCase {t : WorkshopTask} (h : t.useCase ≠ .status) (db : Db) (p : Uuid) :
    t.stranded db p = 0 := by
  cases t <;> first | rfl | exact absurd rfl h

end WorkshopTask

theorem WorkshopTask.stranded_eq_zero {db : Db} {p : Uuid} {t : WorkshopTask}
    (hread : ∀ u, t ≠ .readCancelled u) (hrestore : ∀ u items, t ≠ .restoreStock u items) :
    t.stranded db p = 0 := by
  cases t with
  | readCancelled u => exact absurd rfl (hread u)
  | restoreStock u items => exact absurd rfl (hrestore u items)
  | _ => rfl

theorem WorkshopEffect.kept {env : ℕ → WorkshopEnv} {e : WorkshopEnv} {db db' : Db}
    {t : WorkshopTask} (hdb : StockSound db) (hg : t.Grounded db) (ha : t.Admitted env db)
    (hwrite : ∀ u, t ≠ .writeStatus u) (hrestore : ∀ u items, t ≠ .restoreStock u items)
    (h : WorkshopEffect db e t db') : StockKept db db' := by
  cases h with
  | quiet h =>
    refine .of_orders hdb h.products h.workOrderItems fun w _ => ?_
    simp only [Db.isCancelled, h.workOrders]
  | opened h =>
    refine h.kept hdb rfl fun item hitem => ?_
    obtain ⟨given, hgiven, rfl⟩ := List.mem_map.mp hitem
    exact ha given hgiven
  | @added tenantId workOrderId dto _ _ stored h =>
    have hpos : 1 ≤ dto.item.quantity := ha
    exact ItemAdded.kept hdb hg hpos stored h
  | @changed tenantId workOrderId itemId data it _ _ quantity _ _ found quantity_eq positive fits
      h =>
    refine ItemChanged.kept hdb hg found (fun p hp => ?_) fits.2 h
    cases hq : data.quantity with
    | some q =>
      have hpos := positive q hq
      rw [quantity_eq, hq]
      exact hpos
    | none =>
      obtain ⟨hget, -⟩ := Db.workOrderItem?_eq_some.mp found
      rw [quantity_eq, hq]
      exact (hdb.parts itemId it p hget hp).2.1
  | removed found h => exact ItemRemoved.kept hdb hg found h
  | statusWritten found => exact absurd rfl (hwrite _)
  | rolledBack found =>
    obtain ⟨wo, hwo, hprev⟩ := hg
    obtain ⟨hget, -⟩ := Db.workOrder?_eq_some.mp hwo
    obtain ⟨hold, hnew, -⟩ := WorkOrderStatus.getPreviousStatus_ok hprev
    refine hdb.setStatus fun order horder => ?_
    cases hget.symm.trans horder
    exact iff_of_false hnew hold
  | restored covered => exact absurd rfl (hrestore _ _)
  | issued h => exact h.kept hdb
  | detailed => exact .of_orders hdb rfl rfl fun _ _ => rfl
  | voided h => exact h.kept hdb fun w hw hc => ha h.existing w h.found hw hc
  | withdrawn => exact hdb.withdrawn ha
  | decremented => exact absurd rfl ha
  | incremented => exact absurd rfl ha
  | saved => exact absurd rfl ha
  | recorded => exact absurd rfl ha

theorem WorkshopTask.stranded_reads {α : Type} {db : Db} {r : Outcome α}
    {next : α → WorkshopTask} {p : Uuid} (h : ∀ a, (next a).stranded db p = 0) :
    (reads db r next).2.stranded (reads db r next).1 p = 0 := by
  cases r with
  | error e => rfl
  | ok a => exact h a

theorem WorkshopTask.stranded_exec {db : Db} {t : WorkshopTask} {env : WorkshopEnv} {p : Uuid}
    (hwrite : ∀ u, t ≠ .writeStatus u) (hread : ∀ u, t ≠ .readCancelled u) :
    (t.exec db env).2.stranded (t.exec db env).1 p = 0 := by
  cases t with
  | updateStatus tenantId id newStatus => exact stranded_reads fun _ => rfl
  | confirmOrder u => exact stranded_reads fun _ => rfl
  | writeStatus u => exact absurd rfl (hwrite u)
  | readCancelled u => exact absurd rfl (hread u)
  | restoreStock u items =>
    simp only [exec]
    rcases commits_cases db (restoreCancelledStock db u.tenantId u.id items) (afterRestore u)
      with ⟨db', -, hc⟩ | ⟨e, -, hc⟩
    · rw [hc]
      exact stranded_afterRestore db' p u
    · rw [hc]
      rfl
  | syncAppointment u =>
    simp only [exec]
    split <;> exact stranded_afterSync _ p u
  | readAutoInvoice u =>
    simp only [exec]
    split_ifs <;> rfl
  | readInvoice u =>
    simp only [exec]
    split_ifs <;> rfl
  | _ =>
    apply stranded_of_useCase
    rcases useCase_exec db _ env with hnext | hnext | ⟨-, hnext⟩ <;> rw [hnext] <;> simp [useCase]

structure Conserves (env : ℕ → WorkshopEnv) (total : Uuid → ℤ) (db : Db) (t : WorkshopTask) :
    Prop where
  sound : StockSound db
  balance : ∀ p, db.stockOf p + db.held p + t.stranded db p = total p
  grounded : t.Grounded db
  admitted : t.Admitted env db

theorem StatusUpdate.write_balance {db : Db} {u : StatusUpdate} {completedAt : Option Instant}
    (hdb : StockSound db) (hu : u.Current db) (p : Uuid) :
    let db' := { db with
      workOrders := db.workOrders.modify u.id (WorkOrder.setStatus u.target completedAt) }
    StockSound db' ∧ db'.stockOf p + db'.held p + (WorkshopTask.afterWrite u).stranded db' p =
      db.stockOf p + db.held p := by
  intro db'
  obtain ⟨hget, -⟩ := Db.workOrder?_eq_some.mp hu.1
  refine ⟨⟨hdb.parts, hdb.floor⟩, ?_⟩
  have hstock : db'.stockOf p = db.stockOf p := rfl
  unfold WorkshopTask.afterWrite
  split_ifs with hcancel
  · have hopen : db.isCancelled u.id = false := by simp [Db.isCancelled, hget, hcancel.2]
    have hnow : db'.isCancelled u.id = true := by
      simp [Db.isCancelled, db', Table.get?_modify, hget, WorkOrder.setStatus, hcancel.1]
    have hother : ∀ w, w ≠ u.id → db'.isCancelled w = db.isCancelled w := by
      intro w hw
      simp only [Db.isCancelled, db', Table.get?_modify_ne _ hw]
    have hitems : db'.workOrderItems = db.workOrderItems := rfl
    have hheld : db'.held p + db'.onOrder u.id p = db.held p :=
      Db.held_cancel hitems hopen hnow hother p
    simp only [WorkshopTask.stranded]
    omega
  · have hsame : u.target = .cancelled ↔ u.order.status = .cancelled := by
      constructor
      · intro ht
        by_contra hne
        exact hcancel ⟨ht, hne⟩
      · intro hs
        have hclosed : u.order.status.isClosed = true := by simp [WorkOrderStatus.isClosed, hs]
        rw [WorkOrderStatus.eq_of_canTransitionTo hclosed hu.2, hs]
    have hkept : StockKept db db' := by
      refine hdb.setStatus fun order horder => ?_
      cases hget.symm.trans horder
      exact hsame
    rw [WorkshopTask.stranded_afterRestore, add_zero]
    exact hkept.balance p

section Exec

variable {env : ℕ → WorkshopEnv} {total : Uuid → ℤ} {db : Db} {e : WorkshopEnv}

/-- The part of `Conserves` that a part of a request has to establish anew. -/
def Accounted (total : Uuid → ℤ) (next : Db × WorkshopTask) : Prop :=
  StockSound next.1 ∧
    ∀ p, next.1.stockOf p + next.1.held p + next.2.stranded next.1 p = total p

theorem accounted_mk {t : WorkshopTask} : Accounted total (db, t) ↔
    StockSound db ∧ ∀ p, db.stockOf p + db.held p + t.stranded db p = total p := Iff.rfl

theorem Conserves.writeStatus {u : StatusUpdate} (h : Conserves env total db (.writeStatus u)) :
    Accounted total ((WorkshopTask.writeStatus u).exec db e) := by
  simp only [WorkshopTask.exec]
  rcases WorkshopTask.commits_cases db
    (WorksAuto.writeStatus db u.id u.target (completionTime e.clock u.target))
    (WorkshopTask.afterWrite u) with ⟨db', hok, hc⟩ | ⟨err, -, hc⟩
  · rw [hc]
    obtain ⟨wo, -, rfl⟩ := writeStatus_ok hok
    refine ⟨(StatusUpdate.write_balance h.sound h.grounded 0).1, fun p => ?_⟩
    rw [(StatusUpdate.write_balance h.sound h.grounded p).2]
    simpa [WorkshopTask.stranded] using h.balance p
  · rw [hc]
    exact ⟨h.sound, h.balance⟩

theorem Conserves.readCancelled {u : StatusUpdate}
    (h : Conserves env total db (.readCancelled u)) :
    Accounted total ((WorkshopTask.readCancelled u).exec db e) := by
  obtain ⟨-, wo, hwo, -⟩ := h.grounded
  simp only [WorkshopTask.exec, hwo]
  exact ⟨h.sound, h.balance⟩

theorem Db.held_nonneg (hdb : StockSound db) (p : Uuid) : 0 ≤ db.held p := by
  apply Table.sumBy_nonneg
  intro k it hit
  unfold Db.counts
  split_ifs
  · exact le_rfl
  · apply WorkOrderItem.takes_nonneg
    intro p hp
    have hbounds := hdb.parts k it p hit hp
    omega

theorem Conserves.restoreStock {u : StatusUpdate} {items : List (Uuid × WorkOrderItem)}
    (hcap : ∀ p, total p < 2 ^ 31) (h : Conserves env total db (.restoreStock u items)) :
    Accounted total ((WorkshopTask.restoreStock u items).exec db e) := by
  obtain ⟨-, rfl⟩ := h.grounded
  have hbounds : ∀ it ∈ db.itemsOf u.id, ∀ p, it.2.part? = some p →
      db.hasProduct p ∧ 1 ≤ it.2.quantity ∧ it.2.quantity < 2 ^ 31 := by
    intro it hit p hp
    exact h.sound.parts it.1 it.2 p (Table.mem_filter_iff.mp hit).1 hp
  have hquantity : ∀ it ∈ db.itemsOf u.id, ∀ p, it.2.part? = some p → 0 ≤ it.2.quantity := by
    intro it hit p hp
    have hpositive := hbounds it hit p hp
    omega
  have hroom : ∀ p, db.stockOf p + ((db.itemsOf u.id).map fun it => it.2.takes p).sum < 2 ^ 31 := by
    intro p
    have hbalance := h.balance p
    have hheld := Db.held_nonneg h.sound p
    have htotal := hcap p
    rw [Db.onOrder_eq]
    simp only [WorkshopTask.stranded] at hbalance
    omega
  obtain ⟨db', hok⟩ := restoreCancelledStock_succeeds (t := u.tenantId) (w := u.id) hbounds
    h.sound.floor hroom
  obtain ⟨hcov, rfl⟩ := restoreCancelledStock_ok hok
  have hflow : ∀ m ∈ restoration u.tenantId u.id (db.itemsOf u.id), m.Flow :=
    restoration_flow hquantity
  have hstock : ∀ p, (db.postAll (restoration u.tenantId u.id (db.itemsOf u.id))).stockOf p =
      db.stockOf p + db.onOrder u.id p := by
    intro p
    rw [Db.stockOf_postAll_net hcov.hasProduct hflow, net_restoration, Db.onOrder_eq]
  simp only [WorkshopTask.exec, hok, WorkshopTask.commits]
  have hitems : (db.postAll (restoration u.tenantId u.id (db.itemsOf u.id))).workOrderItems =
      db.workOrderItems := by rw [Db.postAll_frame]
  refine accounted_mk.mpr ⟨⟨?_, ?_⟩, ?_⟩
  · intro k it p hk hp
    rw [hitems] at hk
    obtain ⟨hknown, hrange⟩ := h.sound.parts k it p hk hp
    exact ⟨(db.hasProduct_postAll _ p).mpr hknown, hrange⟩
  · intro p
    have hfloor := hcov.floor hflow p
    have hold := h.sound.floor p
    omega
  · intro p
    have hbalance := h.balance p
    have hsame : ∀ w, db.isCancelled w =
        (db.postAll (restoration u.tenantId u.id (db.itemsOf u.id))).isCancelled w := by
      intro w
      rw [Db.isCancelled, Db.isCancelled, Db.postAll_frame]
    rw [hstock, Db.held_congr hitems fun w _ => (hsame w).symm,
      WorkshopTask.stranded_afterRestore]
    simp only [WorkshopTask.stranded] at hbalance
    omega

theorem Conserves.exec {t : WorkshopTask} (hcap : ∀ p, total p < 2 ^ 31)
    (h : Conserves env total db t) :
    Conserves env total (t.exec db (env t.remaining)).1 (t.exec db (env t.remaining)).2 := by
  have haccounted : Accounted total (t.exec db (env t.remaining)) := by
    by_cases hwrite : ∃ u, t = .writeStatus u
    · obtain ⟨u, rfl⟩ := hwrite
      exact h.writeStatus
    by_cases hread : ∃ u, t = .readCancelled u
    · obtain ⟨u, rfl⟩ := hread
      exact h.readCancelled
    by_cases hrestore : ∃ u items, t = .restoreStock u items
    · obtain ⟨u, items, rfl⟩ := hrestore
      exact h.restoreStock hcap
    simp only [not_exists] at hwrite hread hrestore
    have hkept := WorkshopEffect.kept h.sound h.grounded h.admitted hwrite hrestore
      (WorkshopTask.exec_effect db t (env t.remaining))
    refine ⟨hkept.sound, fun p => ?_⟩
    have hbalance := h.balance p
    rw [WorkshopTask.stranded_eq_zero hread hrestore] at hbalance
    rw [hkept.balance, WorkshopTask.stranded_exec hwrite hread]
    exact hbalance
  exact ⟨haccounted.1, haccounted.2, h.grounded.exec _, h.admitted.exec⟩

end Exec

end Requests

theorem stockKept_serve {db : Db} {l : Served} (hdb : StockSound db)
    (hcap : ∀ p, db.stockOf p + db.held p < 2 ^ 31) (hm : l.request.MovesStock)
    (hs : l.StrandsNoParts db) : StockKept db (serve db l) := by
  have henter : Conserves l.env (fun p => db.stockOf p + db.held p) db l.request.enter := by
    refine ⟨hdb, fun p => ?_, l.request.grounded_enter db, l.admitted_enter hm hs⟩
    have hnone : l.request.enter.stranded db p = 0 := by
      cases l.request <;> rfl
    rw [hnone, add_zero]
  obtain ⟨answer, hserved⟩ := serve_invariant henter fun db t h => h.exec hcap
  refine ⟨hserved.sound, fun p => ?_⟩
  have hbalance := hserved.balance p
  simpa [WorkshopTask.stranded] using hbalance

/-- Stock is conserved in every run that strands no parts. -/
theorem stock_conserved (db : Db) (requests : List Served) (hdb : StockSound db)
    (hcap : ∀ p, db.stockOf p + db.held p < 2 ^ 31)
    (hmoves : ∀ l ∈ requests, l.request.MovesStock)
    (h : EachStep serve (fun db l => l.StrandsNoParts db) db requests) :
    Always serve (fun db' => ∀ p, db'.stockOf p + db'.held p = db.stockOf p + db.held p) db
      requests := by
  have hsteps : EachStep serve (fun db l => l.request.MovesStock ∧ l.StrandsNoParts db) db
      requests := fun before l after he =>
    ⟨hmoves l (by simp [he]), h before l after he⟩
  have hkept : Always serve (StockKept db) db requests := by
    refine always_of_step (fun s l hs hl => ?_) (.refl hdb) hsteps
    have hcap' : ∀ p, s.stockOf p + s.held p < 2 ^ 31 := by
      intro p
      rw [hs.balance]
      exact hcap p
    have hstep := stockKept_serve hs.sound hcap' hl.1 hl.2
    exact ⟨hstep.sound, fun p => (hstep.balance p).trans (hs.balance p)⟩
  exact hkept.mono fun s hs => hs.balance

section Sample

theorem shopDb_held (p : Uuid) : shopDb.held p = 0 := rfl

theorem shopDb_sound : StockSound shopDb := by
  refine ⟨nofun, fun p => ?_⟩
  rw [shopDb_stock]
  split_ifs <;> decide

def morePads : AddWorkOrderItemDto where
  itemType := .part
  itemId := some 0
  name := "Fren Balatası"
  quantity := 2
  unitPrice := 100
  kdvRate := none

/-- The pads of an order that is edited and then cancelled are back on the shelf. -/
theorem sample_stock_conserved :
    Always serve (fun db => ∀ p, db.stockOf p + db.held p = shopDb.stockOf p + shopDb.held p)
      shopDb [served (.createWorkOrder 0 padOrder), served (.addWorkOrderItem 0 0 morePads),
        served (.updateWorkOrderStatus 0 0 "CANCELLED"), served (.rollbackWorkOrder 0 0)] := by
  refine stock_conserved shopDb _ shopDb_sound (fun p => ?_) ?_ ?_
  · rw [shopDb_stock, shopDb_held]
    split_ifs <;> decide
  · simp [served, WorkshopRequest.MovesStock, padOrder, morePads]
  · have hstrands : ∀ l ∈ [served (.createWorkOrder 0 padOrder),
        served (.addWorkOrderItem 0 0 morePads),
        served (.updateWorkOrderStatus 0 0 "CANCELLED"), served (.rollbackWorkOrder 0 0)],
        ∀ db, l.StrandsNoParts db := by
      simp [served, Served.StrandsNoParts]
    exact (eachStep_of_forall hstrands).mono fun db l h => h db

/-- The pads of an order that is cancelled with its appointment are lost. -/
theorem cancelled_appointment_strands :
    ¬ Always serve
      (fun db => ∀ p, db.stockOf p + db.held p = shopDb.stockOf p + shopDb.held p) shopDb
      [served (.createWorkOrder 0 padOrder), served (.cancelAppointment 0 0 "OTHER")] := by
  intro h
  have hlost : (run serve shopDb [served (.createWorkOrder 0 padOrder),
      served (.cancelAppointment 0 0 "OTHER")]).stockOf 0 +
    (run serve shopDb [served (.createWorkOrder 0 padOrder),
      served (.cancelAppointment 0 0 "OTHER")]).held 0 = 8 := by decide +kernel
  have hkept := h.last 0
  rw [hlost, shopDb_stock, shopDb_held] at hkept
  exact absurd hkept (by decide)

end Sample

end WorksAuto
