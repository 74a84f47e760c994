import WorksAuto.Workshop.Serial

/-! The movement log and the stock.
An observer writes down the movements in the order in which they change the
stock. Every transaction that changes the stock by an amount records its movement
with it; `save` writes the stock that was computed on a copy read earlier. As long
as each save writes what its movement makes of the stock stored at that moment,
the stock is the replay of that log, and the movements of the database are those
of the log. -/

namespace WorksAuto

open Lib

section Posted

/-- The database has taken in the given movements, and no other change of stock. -/
structure Posted (db db' : Db) (ms : List StockMovement) : Prop where
  products : db'.products = (db.postAll ms).products
  movements : db'.stockMovements = (db.postAll ms).stockMovements
  covered : db.Covers ms
  flow : ∀ m ∈ ms, m.Flow

def newMovements (db db' : Db) : List StockMovement :=
  (db'.stockMovements.rows.drop db.stockMovements.rows.length).map Prod.snd

def Db.movementList (db : Db) : List StockMovement := db.stockMovements.rows.map Prod.snd

theorem foldl_insert_rows (ms : List StockMovement) (t : Table StockMovement) :
    ∃ rows, (ms.foldl Table.insert t).rows = t.rows ++ rows ∧ rows.map Prod.snd = ms := by
  induction ms generalizing t with
  | nil => exact ⟨[], by simp, rfl⟩
  | cons m ms ih =>
    obtain ⟨rows, hrows, hsnd⟩ := ih (t.insert m)
    refine ⟨(t.next, m) :: rows, ?_, ?_⟩
    · rw [List.foldl_cons, hrows]
      simp [Table.insert]
    · rw [List.map_cons, hsnd]

variable {db db' : Db} {ms : List StockMovement}

theorem Posted.newMovements_eq (h : Posted db db' ms) : newMovements db db' = ms := by
  obtain ⟨rows, hrows, hsnd⟩ := foldl_insert_rows ms db.stockMovements
  rw [newMovements, h.movements, db.postAll_movements, hrows, List.drop_left, hsnd]

theorem Posted.movementList_eq (h : Posted db db' ms) :
    db'.movementList = db.movementList ++ ms := by
  obtain ⟨rows, hrows, hsnd⟩ := foldl_insert_rows ms db.stockMovements
  rw [Db.movementList, h.movements, db.postAll_movements, hrows, List.map_append, hsnd]
  rfl

theorem Posted.stockOf_eq (h : Posted db db' ms) :
    db'.stockOf = stockJournal.postAll db.stockOf ms := by
  rw [← db.stockOf_postAll ms h.covered.hasProduct]
  funext p
  simp only [Db.stockOf, h.products]

theorem Posted.none (hp : db'.products = db.products)
    (hm : db'.stockMovements = db.stockMovements) : Posted db db' [] :=
  ⟨hp, hm, trivial, nofun⟩

def Db.Knows (db : Db) (m : StockMovement) : Prop :=
  ∃ row, db.products.get? m.productId = some row ∧ row.tenantId = m.tenantId

theorem Db.Knows.modify {m : StockMovement} {k : Uuid} {f : Product → Product} (h : db.Knows m)
    (hp : db'.products = db.products.modify k f) (hf : ∀ p, (f p).tenantId = p.tenantId) :
    db'.Knows m := by
  obtain ⟨row, hrow, htenant⟩ := h
  rw [Knows, hp, Table.get?_modify, hrow]
  refine ⟨_, rfl, ?_⟩
  split_ifs
  · exact (hf row).trans htenant
  · exact htenant

theorem Db.Knows.postAll {m : StockMovement} (h : db.Knows m) : (db.postAll ms).Knows m := by
  induction ms generalizing db with
  | nil => exact h
  | cons n ms ih =>
    have hpost : (db.post n).products = db.products.modify n.productId
        fun p => { p with stockQuantity := n.apply p.stockQuantity } := rfl
    exact ih (h.modify hpost fun p => rfl)

end Posted

section Sound

/-- Stocks are in the range of their column and not negative, and no part is on
an order in a negative quantity. -/
structure Db.Stocked (db : Db) : Prop where
  range : ∀ p, 0 ≤ db.stockOf p ∧ db.stockOf p < 2 ^ 31
  items : ∀ k it p, db.workOrderItems.get? k = some it → it.part? = some p → 0 ≤ it.quantity

/-- An entity that is about to be saved, with the movement to be recorded after it. -/
structure SaveSound (db : Db) (item : StockItemEntity) (movement : Option StockMovement) :
    Prop where
  stock : 0 ≤ item.stockQuantity
  product : ∀ m ∈ movement, m.productId = item.id
  known : ∀ m ∈ movement, db.Knows m
  quantity : ∀ m ∈ movement, m.movementType = .adjustment ∨ 0 < m.quantity

def WorkshopTask.Sound (db : Db) : WorkshopTask → Prop
  | .createOrder _ input => ∀ item ∈ input.items, 1 ≤ item.quantity
  | .numberOrder _ input => ∀ item ∈ input.items, 1 ≤ item.quantity
  | .storeOrder _ input _ => ∀ item ∈ input.items, 1 ≤ item.quantity
  | .addItem _ _ dto => 1 ≤ dto.quantity
  | .storeItem _ _ dto => 1 ≤ dto.quantity
  | .restoreStock _ items => ∀ it ∈ items, ∀ p, it.2.part? = some p → 0 ≤ it.2.quantity
  | .storeIncrement _ _ quantity _ => 0 < quantity
  | .addMovement _ _ input => 0 ≤ input.quantity
  | .updateProduct _ _ dto => ∀ q ∈ dto.stockQuantity, 0 ≤ q
  | .saveRead item movement => SaveSound db item movement
  | .saveCell item movement _ => SaveSound db item movement
  | .saveProduct item movement _ => SaveSound db item movement
  | .checkMovement m => db.Knows m ∧ -2 ^ 31 ≤ m.quantity ∧ m.quantity < 2 ^ 31
  | .storeMovement m => db.Knows m ∧ -2 ^ 31 ≤ m.quantity ∧ m.quantity < 2 ^ 31
  | _ => True

def WorkshopRequest.QuantitiesChecked : WorkshopRequest → Prop
  | .createWorkOrder _ input => ∀ item ∈ input.items, 1 ≤ item.quantity
  | .addWorkOrderItem _ _ dto => 1 ≤ dto.quantity
  | .addStockMovement _ _ input => 0 ≤ input.quantity
  | .updateStockItem _ _ dto => ∀ q ∈ dto.stockQuantity, 0 ≤ q
  | _ => True

/-- A save writes the stock that its movement, or nothing, makes of the stored one. -/
def WorkshopTask.SavesCurrent (db : Db) : WorkshopTask → Prop
  | .saveProduct item movement _ =>
    item.stockQuantity = movement.elim (db.stockOf item.id) fun m => m.apply (db.stockOf item.id)
  | _ => True

/-- The part of `save` that writes, and the record of a movement after it. -/
def WorkshopTask.Saves : WorkshopTask → Prop
  | .saveProduct .. => True
  | .storeMovement _ => True
  | _ => False

theorem WorkshopRequest.sound_enter {r : WorkshopRequest} (h : r.QuantitiesChecked) (db : Db) :
    r.enter.Sound db := by
  cases r <;> exact h

variable {db db' : Db} {t : WorkshopTask} {env : WorkshopEnv}

def WorkshopTask.GivesBack : WorkshopTask → Prop
  | .restoreStock _ items => ∀ it ∈ items, ∀ p, it.2.part? = some p → 0 ≤ it.2.quantity
  | .storeIncrement _ _ quantity _ => 0 < quantity
  | _ => True

theorem WorkshopTask.Sound.givesBack (h : t.Sound db) : t.GivesBack := by
  cases t with
  | restoreStock u items => exact h
  | storeIncrement tenantId productId quantity refId => exact h
  | _ => trivial

theorem WorkshopEffect.posted
    (hitems : ∀ k it p, db.workOrderItems.get? k = some it → it.part? = some p → 0 ≤ it.quantity)
    (ht : t.GivesBack) (hs : ¬ t.Saves) (h : WorkshopEffect db env t db') :
    ∃ ms, Posted db db' ms := by
  cases h with
  | quiet h => exact ⟨[], .none h.products h.stockMovements⟩
  | opened h => exact ⟨_, h.products, h.movements, h.covered, consumptions_flow⟩
  | added stored h =>
    exact ⟨_, h.products, h.movements, h.covered, NewWorkOrderItem.consumption_flow _⟩
  | changed found quantity_eq positive fits h =>
    exact ⟨_, h.products, h.movements, h.covered, WorkOrderItem.adjustment_flow _ _⟩
  | @removed _ _ itemId it _ found h =>
    obtain ⟨hget, -⟩ := Db.workOrderItem?_eq_some.mp found
    exact ⟨_, h.products, h.movements, h.covered,
      WorkOrderItem.returning_flow fun p hp => hitems itemId it p hget hp⟩
  | restored covered => exact ⟨_, rfl, rfl, covered, restoration_flow ht⟩
  | issued h => exact ⟨[], .none h.products h.stockMovements⟩
  | voided h => exact ⟨[], .none h.products h.stockMovements⟩
  | statusWritten | rolledBack | detailed | withdrawn => exact ⟨[], .none rfl rfl⟩
  | @decremented _ _ _ _ m about taken covered =>
    exact ⟨[m], rfl, rfl, covered, List.forall_mem_singleton.mpr (.inl taken)⟩
  | @incremented _ _ _ _ m about returned amount covered =>
    have hflow : m.Flow := .inr ⟨returned, amount ▸ ht.le⟩
    exact ⟨[m], rfl, rfl, covered, List.forall_mem_singleton.mpr hflow⟩
  | saved => exact absurd trivial hs
  | recorded => exact absurd trivial hs

theorem Posted.floor {ms : List StockMovement} (h : Posted db db' ms) (p : Uuid) :
    min (db.stockOf p) 0 ≤ db'.stockOf p := by
  have hsame : db'.stockOf p = (db.postAll ms).stockOf p := by
    simp only [Db.stockOf, h.products]
  rw [hsame]
  exact h.covered.floor h.flow p

theorem Posted.range {ms : List StockMovement} (h : Posted db db' ms) (hdb : db.Stocked)
    (p : Uuid) : 0 ≤ db'.stockOf p ∧ db'.stockOf p < 2 ^ 31 := by
  have hsame : db'.stockOf p = (db.postAll ms).stockOf p := by
    simp only [Db.stockOf, h.products]
  obtain ⟨hlow, hhigh⟩ := hdb.range p
  have hfloor := h.floor p
  have hceiling := h.covered.ceiling p hhigh
  exact ⟨by omega, hsame ▸ hceiling⟩

theorem WorkshopEffect.items_nonneg (hdb : db.Stocked) (ht : t.Sound db)
    (h : WorkshopEffect db env t db') :
    ∀ k it p, db'.workOrderItems.get? k = some it → it.part? = some p → 0 ≤ it.quantity := by
  have hsame : db'.workOrderItems = db.workOrderItems → ∀ k it p,
      db'.workOrderItems.get? k = some it → it.part? = some p → 0 ≤ it.quantity := by
    intro hitems
    rw [hitems]
    exact hdb.items
  cases h with
  | quiet h => exact hsame h.workOrderItems
  | opened h =>
    intro k it p hk hp
    rw [h.items_eq] at hk
    rcases Table.get?_foldl_insert hk with hold | hnew
    · exact hdb.items k it p hold hp
    · obtain ⟨item, hitem, hstored⟩ := storedRows_mem h.stored it hnew
      obtain ⟨given, hgiven, rfl⟩ := List.mem_map.mp hitem
      have hone : 1 ≤ given.quantity := ht given hgiven
      have hquantity : it.quantity = given.quantity := hstored.quantity
      omega
  | @added _ _ dto row _ stored h =>
    intro k it p hk hp
    rw [h.items_eq, Table.get?_insert] at hk
    split_ifs at hk
    · cases hk
      have hone : 1 ≤ dto.quantity := ht
      have hquantity : row.quantity = dto.quantity := stored.quantity
      omega
    · exact hdb.items k it p hk hp
  | @changed _ _ itemId data it name unitPrice quantity totalPrice _ found quantity_eq positive
      fits h =>
    intro k row p hk hp
    obtain ⟨hget, -⟩ := Db.workOrderItem?_eq_some.mp found
    rw [h.items_eq, Table.get?_modify] at hk
    obtain ⟨old, hold, rfl⟩ := Option.map_eq_some_iff.mp hk
    split_ifs at hp ⊢ with hid
    · subst hid
      cases hget.symm.trans hold
      have hrevised : (it.revise name unitPrice quantity totalPrice).quantity = quantity := rfl
      rw [hrevised, quantity_eq]
      cases hq : data.quantity with
      | none => exact hdb.items k it p hget hp
      | some q => exact (positive q hq).le
    · exact hdb.items k old p hold hp
  | removed found h =>
    intro k row p hk hp
    rw [h.items_eq, Table.get?_erase] at hk
    split_ifs at hk
    exact hdb.items k row p hk hp
  | restored => exact hsame (by rw [db.postAll_frame])
  | issued h => exact hsame h.items
  | voided h => exact hsame h.items
  | statusWritten | rolledBack | detailed | withdrawn | decremented | incremented | saved
  | recorded => exact hsame rfl

theorem stockOf_saved {item : StockItemEntity} {f : Product → Product}
    (known : db.hasProduct item.id) (stock : ∀ p, (f p).stockQuantity = item.stockQuantity) :
    Db.stockOf { db with products := db.products.modify item.id f } =
      Function.update db.stockOf item.id item.stockQuantity := by
  funext p
  unfold Db.stockOf
  rw [Table.get?_modify]
  obtain ⟨row, hrow⟩ := Option.isSome_iff_exists.mp known
  by_cases hp : p = item.id
  · subst hp
    rw [Function.update_self, hrow]
    simp [stock]
  · rw [Function.update_of_ne hp]
    simp [hp]

theorem WorkshopEffect.stocked (hdb : db.Stocked) (ht : t.Sound db)
    (h : WorkshopEffect db env t db') : db'.Stocked := by
  refine ⟨fun p => ?_, h.items_nonneg hdb ht⟩
  by_cases hs : t.Saves
  · cases h with
    | quiet h =>
      simp only [Db.stockOf, h.products]
      exact hdb.range p
    | saved known stock tenant fits =>
      rw [stockOf_saved known stock, Function.update_apply]
      split_ifs
      · exact ⟨SaveSound.stock ht, fits.2⟩
      · exact hdb.range p
    | recorded => exact hdb.range p
    | opened | added | changed | removed | statusWritten | rolledBack | restored | issued
    | detailed | voided | withdrawn | decremented | incremented => exact hs.elim
  · obtain ⟨ms, hms⟩ := h.posted hdb.items ht.givesBack hs
    exact hms.range hdb p

theorem WorkshopEffect.knows {m : StockMovement} (hdb : db.Stocked) (ht : t.Sound db)
    (h : WorkshopEffect db env t db') (hm : db.Knows m) : db'.Knows m := by
  by_cases hs : t.Saves
  · cases h with
    | quiet h =>
      rw [Db.Knows, h.products]
      exact hm
    | saved known stock tenant fits => exact hm.modify rfl tenant
    | recorded => exact hm
    | opened | added | changed | removed | statusWritten | rolledBack | restored | issued
    | detailed | voided | withdrawn | decremented | incremented => exact hs.elim
  · obtain ⟨ms, hms⟩ := h.posted hdb.items ht.givesBack hs
    rw [Db.Knows, hms.products]
    exact hm.postAll

theorem WorkshopTask.Sound.mono {u : WorkshopTask} (hu : u.Sound db)
    (h : ∀ m, db.Knows m → db'.Knows m) : u.Sound db' := by
  cases u with
  | saveRead | saveCell | saveProduct =>
    exact ⟨hu.stock, hu.product, fun m hm => h m (hu.known m hm), hu.quantity⟩
  | checkMovement m => exact ⟨h m hu.1, hu.2⟩
  | storeMovement m => exact ⟨h m hu.1, hu.2⟩
  | _ => exact hu

end Sound

section Next

variable {db : Db} {env : WorkshopEnv}

theorem findStockItem_some {toUpperCase : String → String} {tenantId id : Uuid}
    {item : StockItemEntity} (h : findStockItem toUpperCase db tenantId id = some item) :
    ∃ row, db.products.get? id = some row ∧ row.tenantId = tenantId ∧ item.id = id ∧
      item.stockQuantity = row.stockQuantity := by
  obtain ⟨row, hrow, rfl⟩ := Option.map_eq_some_iff.mp h
  obtain ⟨hproduct, -⟩ := Option.filter_eq_some_iff.mp hrow
  obtain ⟨hget, htenant⟩ := Db.product?_eq_some.mp hproduct
  exact ⟨row, hget, htenant, rfl, rfl⟩

theorem AddStockMovementInput.apply_ok {input : AddStockMovementInput}
    {item item' : StockItemEntity} (hitem : 0 ≤ item.stockQuantity) (hinput : 0 ≤ input.quantity)
    (h : input.apply item = .ok item') :
    item'.id = item.id ∧ 0 ≤ item'.stockQuantity ∧
      (input.movementType = .adjustment ∨ 0 < input.quantity) := by
  unfold apply at h
  have hincrement : item.increment input.quantity = .ok item' →
      item'.id = item.id ∧ 0 ≤ item'.stockQuantity ∧ 0 < input.quantity := by
    intro hi
    obtain ⟨u, hq, h₁⟩ := Outcome.bind_eq_ok.mp hi
    obtain rfl := Outcome.pure_eq_ok.mp h₁
    have hpos : 0 < input.quantity := by simpa using hq
    exact ⟨rfl, by positivity, hpos⟩
  split at h
  · obtain ⟨u, -, h₁⟩ := Outcome.bind_eq_ok.mp h
    obtain ⟨v, hq, h₂⟩ := Outcome.bind_eq_ok.mp h₁
    obtain ⟨x, hcan, h₃⟩ := Outcome.bind_eq_ok.mp h₂
    obtain rfl := Outcome.pure_eq_ok.mp h₃
    have hpos : 0 < input.quantity := by simpa using hq
    have henough : 0 < input.quantity ∧ input.quantity ≤ item.stockQuantity := by
      simpa [StockItemEntity.canDecrement] using hcan
    refine ⟨rfl, ?_, .inr hpos⟩
    simp only
    omega
  · obtain ⟨hid, hstock, hpos⟩ := hincrement h
    exact ⟨hid, hstock, .inr hpos⟩
  · obtain ⟨hid, hstock, hpos⟩ := hincrement h
    exact ⟨hid, hstock, .inr hpos⟩
  · next htype =>
    obtain rfl := Outcome.pure_eq_ok.mp h
    exact ⟨rfl, hinput, .inl htype⟩

theorem loadForMovement_ok {toUpperCase : String → String} {tenantId productId : Uuid}
    {input : AddStockMovementInput} {item : StockItemEntity} (hdb : ∀ p, 0 ≤ db.stockOf p)
    (hinput : 0 ≤ input.quantity)
    (h : loadForMovement toUpperCase db tenantId productId input = .ok item) :
    SaveSound db item (some (input.movement tenantId productId)) := by
  obtain ⟨found, hfound, h₁⟩ := Outcome.bind_eq_ok.mp h
  obtain ⟨row, hrow, htenant, hid, hstock⟩ :=
    findStockItem_some (Outcome.required_eq_ok.mp hfound)
  have hrange := hdb productId
  have hnonneg : 0 ≤ found.stockQuantity := by
    simpa [Db.stockOf, hrow, hstock] using hrange
  obtain ⟨hsame, hnext, hquantity⟩ := AddStockMovementInput.apply_ok hnonneg hinput h₁
  refine ⟨hnext, ?_, ?_, ?_⟩
  · rintro m ⟨⟩
    exact (hsame.trans hid).symm
  · rintro m ⟨⟩
    exact ⟨row, hrow, htenant⟩
  · rintro m ⟨⟩
    exact hquantity

theorem loadForUpdate_ok {toUpperCase : String → String} {tenantId id : Uuid}
    {dto : UpdateProductDto} {item : StockItemEntity} (hdb : ∀ p, 0 ≤ db.stockOf p)
    (hdto : ∀ q ∈ dto.stockQuantity, 0 ≤ q)
    (h : loadForUpdate toUpperCase db tenantId id dto = .ok item) : SaveSound db item none := by
  obtain ⟨found, hfound, h₁⟩ := Outcome.bind_eq_ok.mp h
  obtain rfl := Outcome.pure_eq_ok.mp h₁
  obtain ⟨row, hrow, -, -, hstock⟩ := findStockItem_some (Outcome.required_eq_ok.mp hfound)
  refine ⟨?_, nofun, nofun, nofun⟩
  have happly : (dto.apply found).stockQuantity =
      dto.stockQuantity.getD found.stockQuantity := rfl
  rw [happly]
  cases hq : dto.stockQuantity with
  | some q => exact hdto q hq
  | none =>
    have hrange := hdb id
    simpa [Db.stockOf, hrow, hstock] using hrange

theorem SaveSound.quantity_fits {item : StockItemEntity} {m : StockMovement} (hdb : db.Stocked)
    (h : SaveSound db item (some m)) (hfits : item.stockQuantity < 2 ^ 31)
    (hcurrent : item.stockQuantity = m.apply (db.stockOf item.id)) :
    -2 ^ 31 ≤ m.quantity ∧ m.quantity < 2 ^ 31 := by
  obtain ⟨hlow, hhigh⟩ := hdb.range item.id
  have hstock := h.stock
  have hquantity := h.quantity m rfl
  unfold StockMovement.apply at hcurrent
  cases hm : m.movementType <;> simp only [hm, reduceCtorEq, false_or, true_or] at hcurrent hquantity
  all_goals omega

namespace WorkshopTask

theorem sound_afterSync (db : Db) (u : StatusUpdate) : (afterSync u).Sound db := by
  unfold afterSync
  split_ifs <;> trivial

theorem sound_afterRestore (db : Db) (u : StatusUpdate) : (afterRestore u).Sound db := by
  unfold afterRestore
  split_ifs
  · trivial
  · exact sound_afterSync db u

theorem sound_afterWrite (db : Db) (u : StatusUpdate) : (afterWrite u).Sound db := by
  unfold afterWrite
  split_ifs
  · trivial
  · exact sound_afterRestore db u

theorem sound_reads {α : Type} {r : Outcome α} {next : α → WorkshopTask}
    (h : ∀ a, r = .ok a → (next a).Sound db) : (reads db r next).2.Sound (reads db r next).1 := by
  cases r with
  | error e => trivial
  | ok a => exact h a rfl

theorem sound_commits {r : Outcome Db} {next : WorkshopTask}
    (h : ∀ db', r = .ok db' → next.Sound db') :
    (commits db r next).2.Sound (commits db r next).1 := by
  cases r with
  | error e => trivial
  | ok db' => exact h db' rfl

theorem Sound.exec {t : WorkshopTask} (hdb : db.Stocked) (h : t.Sound db)
    (hcurrent : t.SavesCurrent db) : (t.exec db env).2.Sound (t.exec db env).1 := by
  cases t with
  | createOrder tenantId input => exact sound_reads fun _ _ => h
  | numberOrder tenantId input =>
    simp only [WorkshopTask.exec]
    split
    · trivial
    · exact h
  | addItem tenantId workOrderId dto => exact sound_reads fun _ _ => h
  | writeStatus u => exact sound_commits fun db' _ => sound_afterWrite db' u
  | readCancelled u =>
    simp only [WorkshopTask.exec]
    split
    · exact sound_afterRestore db u
    · intro it hit p hp
      exact hdb.items it.1 it.2 p (Table.mem_filter_iff.mp hit).1 hp
  | restoreStock u items => exact sound_commits fun db' _ => sound_afterRestore db' u
  | syncAppointment u =>
    simp only [WorkshopTask.exec]
    split <;> exact sound_afterSync _ u
  | readAutoInvoice u =>
    simp only [WorkshopTask.exec]
    split_ifs <;> trivial
  | readInvoice u =>
    simp only [WorkshopTask.exec]
    split_ifs <;> trivial
  | issueInvoice tenantId dto =>
    simp only [WorkshopTask.exec, afterIssue]
    split
    · trivial
    · split <;> trivial
  | incrementStock tenantId productId quantity refId =>
    refine sound_reads fun u hu => ?_
    obtain ⟨v, hpos, -⟩ := Outcome.bind_eq_ok.mp hu
    simpa [Sound] using hpos
  | addMovement tenantId productId input =>
    exact sound_reads fun item hitem => loadForMovement_ok (fun p => (hdb.range p).1) h hitem
  | updateProduct tenantId id dto =>
    exact sound_reads fun item hitem => loadForUpdate_ok (fun p => (hdb.range p).1) h hitem
  | saveRead item movement => exact sound_reads fun _ _ => h
  | saveCell item movement existing => exact h
  | saveProduct item movement shelf =>
    refine sound_commits fun db' hdb' => ?_
    obtain ⟨f, -, -, htenant, -, hfits, rfl⟩ := saveProduct_ok hdb'
    cases movement with
    | none => trivial
    | some m =>
      exact ⟨(SaveSound.known h m rfl).modify rfl htenant,
        SaveSound.quantity_fits hdb h hfits.2 hcurrent⟩
  | checkMovement m => exact sound_reads fun _ _ => h
  | updateItem | removeItem | updateStatus | confirmOrder | rollback | confirmRollback
  | cancelInvoice | cancelAppointment | decrementStock => exact sound_reads fun _ _ => trivial
  | storeOrder | storeItem | changeItem | deleteItem | writeRollback | eInvoice | voidInvoice
  | storeCancellation | storeDecrement | storeIncrement | storeMovement =>
    exact sound_commits fun _ _ => trivial
  | finished answer => trivial

end WorkshopTask

end Next

section Record

/-- The observer's log: a transaction is entered when it commits, and the movement
of a save when the save has written the stock. -/
def WorkshopTask.record (db : Db) (env : WorkshopEnv) (log : List StockMovement) :
    WorkshopTask → List StockMovement
  | .saveProduct item movement shelf =>
    match WorksAuto.saveProduct db item shelf with
    | .ok _ => log ++ movement.toList
    | .error _ => log
  | .storeMovement _ => log
  | t => log ++ newMovements db (t.exec db env).1

def WorkshopPool.record (p : WorkshopPool) (log : List StockMovement) :
    PoolAction WorkshopRequest WorkshopEnv → List StockMovement
  | .start _ => log
  | .step k env => (p.threads.get? k).elim log fun t => t.record p.shared env log

def WorkshopPool.SavesCurrent (s : WorkshopPool × List StockMovement) :
    PoolAction WorkshopRequest WorkshopEnv → Prop
  | .start _ => True
  | .step k _ => ∀ t ∈ s.1.threads.get? k, t.SavesCurrent s.1.shared

def WorkshopTask.pending (m : StockMovement) : WorkshopTask → ℕ
  | .checkMovement n => if n = m then 1 else 0
  | .storeMovement n => if n = m then 1 else 0
  | _ => 0

variable {db : Db} {t : WorkshopTask} {env : WorkshopEnv}

theorem WorkshopTask.pending_of_useCase (h : t.useCase ≠ .inventory) (m : StockMovement) :
    t.pending m = 0 := by
  cases t with
  | checkMovement n => exact absurd rfl h
  | storeMovement n => exact absurd rfl h
  | _ => rfl

theorem WorkshopTask.record_of_not_saves (h : ¬ t.Saves) (log : List StockMovement) :
    t.record db env log = log ++ newMovements db (t.exec db env).1 := by
  cases t with
  | saveProduct => exact absurd trivial h
  | storeMovement => exact absurd trivial h
  | _ => rfl

theorem WorkshopTask.pending_exec {m : StockMovement} (hs : ¬ t.Saves)
    (hc : ∀ n, t ≠ .checkMovement n) : (t.exec db env).2.pending m = t.pending m := by
  have hreads : ∀ {α : Type} {r : Outcome α} {next : α → WorkshopTask},
      (∀ a, (next a).pending m = 0) → (reads db r next).2.pending m = 0 := by
    intro α r next h
    cases r with
    | error e => rfl
    | ok a => exact h a
  have hcommits : ∀ {r : Outcome Db} {answer : Outcome Unit},
      (commits db r (.finished answer)).2.pending m = 0 := by
    intro r answer
    cases r <;> rfl
  by_cases hu : t.useCase = .inventory
  · cases t with
    | decrementStock | incrementStock | addMovement | updateProduct | saveRead =>
      exact hreads fun _ => rfl
    | storeDecrement | storeIncrement => exact hcommits
    | saveCell => rfl
    | saveProduct => exact absurd trivial hs
    | storeMovement => exact absurd trivial hs
    | checkMovement n => exact absurd rfl (hc n)
    | _ => cases hu
  · have hnext : (t.exec db env).2.useCase ≠ .inventory := useCase_exec_ne hu nofun nofun
    rw [pending_of_useCase hu, pending_of_useCase hnext]

theorem WorkshopTask.balance_exec (hdb : db.Stocked) (ht : t.Sound db) (log : List StockMovement)
    (m : StockMovement) :
    (t.exec db env).1.movementList.count m + (t.exec db env).2.pending m + log.count m =
      db.movementList.count m + t.pending m + (t.record db env log).count m := by
  by_cases hs : t.Saves
  · cases t with
    | saveProduct item movement shelf =>
      simp only [WorkshopTask.exec, record]
      cases hsave : WorksAuto.saveProduct db item shelf with
      | error e => rfl
      | ok db' =>
        obtain ⟨f, -, -, -, -, -, rfl⟩ := saveProduct_ok hsave
        simp only [commits, List.count_append]
        cases movement with
        | none => rfl
        | some n =>
          simp only [Option.elim_some, Option.toList_some, pending, List.count_singleton,
            beq_iff_eq]
          have hlist : Db.movementList { db with products := db.products.modify item.id f } =
              db.movementList := rfl
          rw [hlist]
          omega
    | storeMovement n =>
      obtain ⟨-, hlow, hhigh⟩ := ht
      have hstored : addStockMovement db n =
          .ok { db with stockMovements := db.stockMovements.insert n } :=
        Outcome.bind_eq_ok.mpr ⟨_, int4_eq_ok.mpr ⟨rfl, hlow, hhigh⟩, rfl⟩
      have hlist : Db.movementList { db with stockMovements := db.stockMovements.insert n } =
          db.movementList ++ [n] := by
        simp [Db.movementList, Table.insert]
      simp only [WorkshopTask.exec, hstored, commits, record, hlist, List.count_append, pending,
        notified, List.count_singleton, beq_iff_eq]
      omega
    | _ => exact hs.elim
  · rw [record_of_not_saves hs]
    by_cases hc : ∃ n, t = .checkMovement n
    · obtain ⟨n, rfl⟩ := hc
      obtain ⟨⟨row, hrow, htenant⟩, -⟩ := ht
      have hfound : movementProduct db n = .ok row :=
        Outcome.required_eq_ok.mpr (Db.product?_eq_some.mpr ⟨hrow, htenant⟩)
      have hnew : newMovements db db = [] :=
        (Posted.none rfl rfl : Posted db db []).newMovements_eq
      simp only [WorkshopTask.exec, hfound, reads, hnew, List.append_nil]
      rfl
    · rw [pending_exec hs (not_exists.mp hc)]
      obtain ⟨ms, hms⟩ := (exec_effect db t env).posted hdb.items ht.givesBack hs
      rw [hms.newMovements_eq, hms.movementList_eq, List.count_append, List.count_append]
      omega

theorem WorkshopTask.stock_exec {start : Uuid → ℤ} {log : List StockMovement} (hdb : db.Stocked)
    (ht : t.Sound db) (hcurrent : t.SavesCurrent db)
    (h : db.stockOf = stockJournal.postAll start log) :
    (t.exec db env).1.stockOf = stockJournal.postAll start (t.record db env log) := by
  by_cases hs : t.Saves
  · cases t with
    | saveProduct item movement shelf =>
      simp only [WorkshopTask.exec, record]
      cases hsave : WorksAuto.saveProduct db item shelf with
      | error e => exact h
      | ok db' =>
        obtain ⟨f, hknown, hstock, -, -, -, rfl⟩ := saveProduct_ok hsave
        simp only [commits]
        rw [stockOf_saved hknown hstock, stockJournal.postAll_append, ← h, hcurrent]
        cases movement with
        | none => exact Function.update_eq_self _ _
        | some m =>
          have hid : item.id = stockJournal.key m := (SaveSound.product ht m rfl).symm
          rw [hid]
          rfl
    | storeMovement m =>
      simp only [WorkshopTask.exec, record]
      rcases commits_cases db (addStockMovement db m) (notified env) with
        ⟨db', hok, hc⟩ | ⟨e, -, hc⟩
      · rw [hc, addStockMovement_ok hok]
        exact h
      · rw [hc]
        exact h
    | _ => exact hs.elim
  · obtain ⟨ms, hms⟩ := (exec_effect db t env).posted hdb.items ht.givesBack hs
    rw [record_of_not_saves hs, hms.newMovements_eq, stockJournal.postAll_append, hms.stockOf_eq, h]

/-- The log explains the stock, and the movements of the database are those of the
log, once those on the way are recorded. -/
structure Explained (start : Db) (s : WorkshopPool × List StockMovement) : Prop where
  sound : Pool.Holds Db.Stocked WorkshopTask.Sound s.1
  stock : s.1.shared.stockOf = stockJournal.postAll start.stockOf s.2
  movements : ∀ m, s.1.shared.movementList.count m + s.1.threads.sumBy (WorkshopTask.pending m) =
    start.movementList.count m + s.2.count m

theorem Explained.act {start : Db} {s : WorkshopPool × List StockMovement}
    {a : PoolAction WorkshopRequest WorkshopEnv} (h : Explained start s)
    (hreq : ∀ r, a = .start r → r.QuantitiesChecked) (hcurrent : WorkshopPool.SavesCurrent s a) :
    Explained start (observed WorkshopPool.act WorkshopPool.record s a) := by
  obtain ⟨p, log⟩ := s
  cases a with
  | start r =>
    have hsound : Pool.Holds Db.Stocked WorkshopTask.Sound (WorkshopPool.act p (.start r)) :=
      h.sound.start (r.sound_enter (hreq r rfl) p.shared)
    refine ⟨hsound, h.stock, fun m => ?_⟩
    have hnone : r.enter.pending m = 0 := by
      cases r <;> rfl
    have hsum := h.movements m
    simp only [observed, WorkshopPool.act, Pool.act_start, Table.sumBy_insert, hnone, add_zero]
    exact hsum
  | step k env =>
    cases hk : p.threads.get? k with
    | none =>
      have hsame : observed WorkshopPool.act WorkshopPool.record (p, log) (.step k env) =
          (p, log) := by
        simp only [observed, WorkshopPool.act, Pool.act_step_none hk, WorkshopPool.record, hk,
          Option.elim_none]
      rw [hsame]
      exact h
    | some t =>
      have hdb : p.shared.Stocked := h.sound.1
      have ht : t.Sound p.shared := h.sound.2 k t hk
      have htask : t.SavesCurrent p.shared := hcurrent t hk
      have heffect := WorkshopTask.exec_effect p.shared t env
      have hsound : Pool.Holds Db.Stocked WorkshopTask.Sound
          (WorkshopPool.act p (.step k env)) := by
        apply h.sound.step
        intro u hu
        cases hk.symm.trans hu
        exact ⟨heffect.stocked hdb ht, ht.exec hdb htask,
          fun v hv => hv.mono fun m hm => heffect.knows hdb ht hm⟩
      have hlog : WorkshopPool.record p log (.step k env) = t.record p.shared env log := by
        simp only [WorkshopPool.record, hk, Option.elim_some]
      have hshared : (WorkshopPool.act p (.step k env)).shared = (t.exec p.shared env).1 := by
        rw [WorkshopPool.act, Pool.act_step_some hk]
      refine ⟨hsound, ?_, fun m => ?_⟩
      · simp only [observed, hlog, hshared]
        exact WorkshopTask.stock_exec hdb ht htask h.stock
      · have hsum := Pool.sumBy_step WorkshopRequest.enter WorkshopTask.exec hk env
          (WorkshopTask.pending m)
        have hbalance : (t.exec p.shared env).1.movementList.count m +
            (t.exec p.shared env).2.pending m + log.count m =
            p.shared.movementList.count m + t.pending m + (t.record p.shared env log).count m :=
          WorkshopTask.balance_exec hdb ht log m
        have hold := h.movements m
        simp only [observed, hlog, hshared]
        unfold WorkshopPool.act
        simp only at hold
        omega

def WorkshopPool.AllFinished (p : WorkshopPool) : Prop :=
  ∀ k t, p.threads.get? k = some t → ∃ answer, t = .finished answer

/-- In every interleaving whose saves write the current stock: when all requests
have finished, the stock of each product is the replay of its logged movements, and
the movements in the database are those before and those of the log. -/
theorem stock_explained (db : Db) (actions : List (PoolAction WorkshopRequest WorkshopEnv))
    (hdb : db.Stocked) (hreq : ∀ r, PoolAction.start r ∈ actions → r.QuantitiesChecked)
    (h : EachStep (observed WorkshopPool.act WorkshopPool.record) WorkshopPool.SavesCurrent
      (Pool.idle db, []) actions) :
    Always (observed WorkshopPool.act WorkshopPool.record)
      (fun s => s.1.AllFinished →
        (∀ p, s.1.shared.stockOf p =
          stockJournal.replay (stockJournal.about p s.2) (db.stockOf p)) ∧
        s.1.shared.movementList.Perm (db.movementList ++ s.2))
      (Pool.idle db, []) actions := by
  have hstart : Explained db (Pool.idle db, []) :=
    ⟨Pool.holds_idle hdb, rfl, fun m => by simp [Pool.idle, Table.sumBy, Table.empty]⟩
  have hsteps : EachStep (observed WorkshopPool.act WorkshopPool.record)
      (fun s a => (∀ r, a = .start r → r.QuantitiesChecked) ∧ WorkshopPool.SavesCurrent s a)
      (Pool.idle db, []) actions := by
    intro before a after he
    refine ⟨?_, h before a after he⟩
    rintro r rfl
    exact hreq r (by simp [he])
  have hruns : Always (observed WorkshopPool.act WorkshopPool.record) (Explained db)
      (Pool.idle db, []) actions :=
    always_of_step (fun s a hs ha => hs.act ha.1 ha.2) hstart hsteps
  refine hruns.mono fun s hs hfinished => ⟨fun p => ?_, ?_⟩
  · rw [hs.stock, stockJournal.postAll_apply]
  · rw [List.perm_iff_count]
    intro m
    have hnone : s.1.threads.sumBy (WorkshopTask.pending m) = 0 := by
      apply Table.sumBy_eq_zero
      intro k t ht
      obtain ⟨answer, rfl⟩ := hfinished k t ht
      rfl
    have hsum := hs.movements m
    rw [List.count_append]
    omega

end Record

section Sample

instance (db : Db) (t : WorkshopTask) : Decidable (t.SavesCurrent db) := by
  induction t using WorkshopTask.casesOn <;> unfold WorkshopTask.SavesCurrent <;> infer_instance

instance (s : WorkshopPool × List StockMovement) (a : PoolAction WorkshopRequest WorkshopEnv) :
    Decidable (WorkshopPool.SavesCurrent s a) :=
  match a with
  | .start _ => .isTrue trivial
  | .step k _ => inferInstanceAs (Decidable (∀ t ∈ s.1.threads.get? k, t.SavesCurrent s.1.shared))

theorem shopDb_stocked : shopDb.Stocked := by
  refine ⟨fun p => ?_, nofun⟩
  rw [shopDb_stock]
  split_ifs <;> decide

def arrival : AddStockMovementInput where
  movementType := .inPurchase
  quantity := 5
  referenceId := none

/-- Three pads are taken out once the arrival has been entered. -/
def arrivalThenTaking : List (PoolAction WorkshopRequest WorkshopEnv) :=
  [.start (.addStockMovement 0 0 arrival), .start (.decrementStock 0 0 3 "")] ++
    [.step 1 shopEnv] ++ List.replicate 6 (.step 0 shopEnv) ++ [.step 1 shopEnv]

/-- Three pads are taken out between the read and the save of the arrival. -/
def takingInArrival : List (PoolAction WorkshopRequest WorkshopEnv) :=
  [.start (.addStockMovement 0 0 arrival), .start (.decrementStock 0 0 3 "")] ++
    [.step 0 shopEnv, .step 1 shopEnv, .step 1 shopEnv] ++ List.replicate 5 (.step 0 shopEnv)

theorem sample_stock_explained :
    Always (observed WorkshopPool.act WorkshopPool.record)
      (fun s => s.1.AllFinished →
        (∀ p, s.1.shared.stockOf p =
          stockJournal.replay (stockJournal.about p s.2) (shopDb.stockOf p)) ∧
        s.1.shared.movementList.Perm (shopDb.movementList ++ s.2))
      (Pool.idle shopDb, []) arrivalThenTaking := by
  refine stock_explained shopDb _ shopDb_stocked (fun r hr => ?_) ?_
  · simp [arrivalThenTaking] at hr
    rcases hr with rfl | rfl
    · simp [WorkshopRequest.QuantitiesChecked, arrival]
    · trivial
  · decide +kernel

def WorkshopTask.isFinished : WorkshopTask → Bool
  | .finished _ => true
  | _ => false

theorem WorkshopPool.allFinished_of_rows {p : WorkshopPool}
    (h : ∀ q ∈ p.threads.rows, q.2.isFinished = true) : p.AllFinished := by
  intro k t ht
  have hfinished := h (k, t) ((p.threads.mem_rows_iff k t).mpr ht)
  cases t with
  | finished answer => exact ⟨answer, rfl⟩
  | _ => cases hfinished

/-- The save brings the three pads back. -/
theorem overlapping_save_unexplained :
    ¬ Always (observed WorkshopPool.act WorkshopPool.record)
      (fun s => s.1.AllFinished →
        (∀ p, s.1.shared.stockOf p =
          stockJournal.replay (stockJournal.about p s.2) (shopDb.stockOf p)) ∧
        s.1.shared.movementList.Perm (shopDb.movementList ++ s.2))
      (Pool.idle shopDb, []) takingInArrival := by
  intro h
  have hfinished : (run (observed WorkshopPool.act WorkshopPool.record)
      (Pool.idle shopDb, []) takingInArrival).1.AllFinished :=
    WorkshopPool.allFinished_of_rows (by decide +kernel)
  have hstock : (run (observed WorkshopPool.act WorkshopPool.record)
      (Pool.idle shopDb, []) takingInArrival).1.shared.stockOf 0 = 15 := by decide +kernel
  have hreplay : stockJournal.replay (stockJournal.about 0
      (run (observed WorkshopPool.act WorkshopPool.record)
        (Pool.idle shopDb, []) takingInArrival).2) (shopDb.stockOf 0) = 12 := by decide +kernel
  obtain ⟨hexplained, -⟩ := h.last hfinished
  have hzero := hexplained 0
  rw [hstock, hreplay] at hzero
  exact absurd hzero (by decide)

end Sample

end WorksAuto
