import WorksAuto.Inventory.Places
import WorksAuto.Tenants.Writes

/-! The writes of products, appointments and the directory advance the database.
Saving a product or an appointment takes a reference from the request without asking whose row
it names: that it is not another tenant's has to be assumed. -/

namespace WorksAuto

open Lib

variable {db db' : Db} {t id : Uuid}

section Foreign

theorem Db.Belongs.not_foreign {x : Reference} (h : db.Belongs t x) :
    db.foreign t x = false := by
  unfold Db.foreign
  cases ho : db.owner? x with
  | none => rfl
  | some owner =>
    obtain rfl := h.owner ho
    simp

theorem Db.belongs_of_not_foreign {x : Reference} (h : db.foreign t x = false)
    (ho : (db.owner? x).isSome = true) : db.Belongs t x := by
  obtain ⟨owner, ho⟩ := Option.isSome_iff_exists.mp ho
  unfold Db.foreign at h
  rw [ho, Option.any_some, decide_eq_false_iff_not, not_not] at h
  exact belongs_of_owner (h ▸ ho)

end Foreign

section Inventory

def StockItemEntity.Placed (P : Uuid → Reference → Prop) (item : StockItemEntity) : Prop :=
  ∀ c, item.shelfCellId = some (some c) → P item.tenantId (.shelfCell, c)

theorem saveProduct_advances {item : StockItemEntity} {shelf : ResolvedShelf}
    (hitem : ∀ p, db.products.get? item.id = some p → p.tenantId = item.tenantId)
    (hcell : item.Placed fun t x => db.foreign t x = false)
    (href : db'.Referential) (h : saveProduct db item shelf = .ok db') : db.Advances db' := by
  obtain ⟨f, -, -, htenant, hplaced, -, rfl⟩ := saveProduct_ok h
  refine .modifyProducts fun k p hp hk => ⟨htenant p, fun hrefs => ?_⟩
  rw [beq_iff_eq] at hk
  subst hk
  have hstored := href.products item.id (f p) (Table.get?_modify_self hp f)
  refine ref?_holds fun c hc => ?_
  have hnamed : (Target.shelfCell, c) ∈ (f p).references :=
    List.mem_map.mpr ⟨c, Option.mem_toList.mpr hc, rfl⟩
  rw [Option.mem_def, hplaced] at hc
  cases hgiven : item.shelfCellId with
  | none =>
    rw [hgiven] at hc
    exact hrefs _ (List.mem_map.mpr ⟨c, Option.mem_toList.mpr hc, rfl⟩)
  | some given =>
    rw [hgiven, Option.getD_some] at hc
    rw [hitem p hp]
    exact Db.belongs_of_not_foreign (hcell c (hc ▸ hgiven)) (hstored _ hnamed)

theorem Db.liveProduct?_eq_some {p : Product} :
    db.liveProduct? t id = some p ↔
      (db.products.get? id = some p ∧ p.tenantId = t) ∧ p.deletedAt = none := by
  simp [liveProduct?, Option.filter_eq_some_iff, product?_eq_some]

theorem mapToEntity_placed (hdb : db.Local) {toUpperCase : String → String} {p : Product}
    (hp : db.products.get? id = some p) (cell : Option CellAndShelf) :
    (mapToEntity toUpperCase id p cell).Placed db.Belongs := by
  intro c hc
  obtain ⟨c', hcell, hsome⟩ := Option.map_eq_some_iff.mp hc
  cases Option.some.inj hsome
  exact hdb.products id p hp _ (List.mem_map.mpr ⟨c, Option.mem_toList.mpr hcell, rfl⟩)

section Entities

variable {P Q : Uuid → Reference → Prop} {item item' : StockItemEntity}

theorem StockItemEntity.Placed.mono (h : ∀ t x, P t x → Q t x) (hitem : item.Placed P) :
    item.Placed Q := fun c hc => h _ _ (hitem c hc)

theorem UpdateProductDto.apply_placed {dto : UpdateProductDto} (hitem : item.Placed P)
    (hnamed : ∀ c, dto.shelfCellId = some (some c) → P item.tenantId (.shelfCell, c)) :
    (dto.apply item).Placed P := by
  intro c hc
  cases hgiven : dto.shelfCellId with
  | none =>
    have hkept : (dto.apply item).shelfCellId = item.shelfCellId := by
      simp [UpdateProductDto.apply, hgiven]
    exact hitem c (hkept ▸ hc)
  | some given =>
    have hset : (dto.apply item).shelfCellId = some given := by
      simp [UpdateProductDto.apply, hgiven]
    rw [hset] at hc
    exact hnamed c (hc ▸ hgiven)

end Entities

theorem saveStockItem_advances {s : Session} {item : StockItemEntity}
    (hitem : item.Placed fun t x => db.foreign t x = false) (href : db'.Referential)
    (h : s.saveStockItem db item = .ok db') : db.Advances db' := by
  obtain ⟨existing, hfound, h₁⟩ := Outcome.bind_eq_ok.mp h
  obtain ⟨⟨hget, htenant⟩, -⟩ := Db.liveProduct?_eq_some.mp (Outcome.required_eq_ok.mp hfound)
  refine saveProduct_advances (fun p hp => ?_) hitem href h₁
  obtain rfl := Option.some.inj (hp.symm.trans hget)
  exact htenant

theorem Session.findStockItem_placed (hdb : db.Local) {toUpperCase : String → String}
    {s : Session} {item : StockItemEntity} (h : s.findStockItem toUpperCase db id = some item) :
    item.Placed db.Belongs ∧ item.tenantId = s.tenantId := by
  obtain ⟨p, hp, rfl⟩ := Option.map_eq_some_iff.mp h
  obtain ⟨⟨hget, htenant⟩, -⟩ := Db.liveProduct?_eq_some.mp hp
  exact ⟨mapToEntity_placed hdb hget _, htenant⟩

theorem updateStockItem_advances (hdb : db.Local) {toUpperCase : String → String} {s : Session}
    {dto : UpdateProductDto}
    (hnamed : ∀ c, dto.shelfCellId = some (some c) →
      db.foreign s.tenantId (.shelfCell, c) = false)
    (href : db'.Referential) (h : updateStockItem toUpperCase s db id dto = .ok db') :
    db.Advances db' := by
  obtain ⟨item, hfound, h₁⟩ := Outcome.bind_eq_ok.mp h
  obtain ⟨hplaced, htenant⟩ := Session.findStockItem_placed hdb (Outcome.required_eq_ok.mp hfound)
  have hunforeign := hplaced.mono fun _ _ => Db.Belongs.not_foreign
  exact saveStockItem_advances (UpdateProductDto.apply_placed hunforeign (htenant ▸ hnamed)) href h₁

theorem moveStock_advances (hdb : db.Local) {toUpperCase : String → String} {s : Session}
    {input : AddStockMovementInput} (href : db'.Referential)
    (h : moveStock toUpperCase s db id input = .ok db') : db.Advances db' := by
  obtain ⟨item, hfound, h₁⟩ := Outcome.bind_eq_ok.mp h
  obtain ⟨moved, hmoved, h₂⟩ := Outcome.bind_eq_ok.mp h₁
  obtain ⟨hplaced, -⟩ := Session.findStockItem_placed hdb (Outcome.required_eq_ok.mp hfound)
  obtain ⟨n, rfl⟩ := AddStockMovementInput.apply_eq hmoved
  have hunforeign := hplaced.mono fun _ _ => Db.Belongs.not_foreign
  refine saveStockItem_advances (fun c hc => ?_) href h₂
  exact hunforeign c hc

theorem recordMovement_advances {s : Session} {input : AddStockMovementInput}
    (h : recordMovement s db id input = .ok db') : db.Advances db' := by
  obtain ⟨p, -, h₁⟩ := Outcome.bind_eq_ok.mp h
  rw [addStockMovement_ok h₁]
  exact .movements ..

theorem createShelf_advances {toUpperCase : String → String} {dto : CreateShelfDto}
    (h : createShelf toUpperCase db t dto = .ok db') : db.Advances db' := by
  obtain ⟨u, -, h₁⟩ := Outcome.bind_eq_ok.mp h
  obtain ⟨v, -, h₂⟩ := Outcome.bind_eq_ok.mp h₁
  cases Outcome.pure_eq_ok.mp h₂
  exact .shelves (Table.keeps_foldl_insert ..) (Table.keeps_insert ..)

theorem createStockItem_advances {toUpperCase : String → String} {s : Session}
    {dto : CreateProductDto}
    (hnamed : ∀ c ∈ dto.shelfCellId, db.foreign s.tenantId (.shelfCell, c) = false)
    (href : db'.Referential) (h : createStockItem toUpperCase s db dto = .ok db') :
    db.Advances db' := by
  obtain ⟨location, p, movements, hlocation, -, -, htenant, hplaced, -, rfl⟩ :=
    createStockItem_ok h
  have hcell := shelfCellId_of_placed hlocation hplaced
  have hstored := href.products db.products.next p (Table.get?_insert_self ..)
  have hproducts : db.Advances { db with products := db.products.insert p } := by
    refine .products (Table.keeps_insert ..) fun hdb =>
      hdb.products.insert (ref?_holds fun c hc => ?_)
    have hx : (Target.shelfCell, c) ∈ p.references :=
      List.mem_map.mpr ⟨c, Option.mem_toList.mpr hc, rfl⟩
    rw [htenant]
    exact Db.belongs_of_not_foreign (hnamed c (hcell ▸ hc)) (hstored _ hx)
  exact hproducts.trans (.movements ..)

theorem deleteStockItem_advances {s : Session} {now : Instant}
    (h : deleteStockItem s db id now = .ok db') : db.Advances db' := by
  obtain ⟨p, -, h₁⟩ := Outcome.bind_eq_ok.mp h
  cases Outcome.pure_eq_ok.mp h₁
  exact .modifyProducts fun _ _ _ _ => ⟨rfl, fun _ => nofun⟩

theorem Session.cell_belongs {c : CellAndShelf}
    (h : (Session.ofTenant t).cellAndShelf? db id = some c) : db.Belongs t (.shelfCell, id) := by
  obtain ⟨hc, hsees⟩ := Session.cellAndShelf?_eq_some.mp h
  have howner : c.2.tenantId = t := of_decide_eq_true hsees
  exact Db.belongs_of_owner (Option.map_eq_some_iff.mpr ⟨c, hc, howner⟩)

theorem Product.place_ofCell_holds {c : CellAndShelf} (p : Product)
    (h : db.Belongs p.tenantId (.shelfCell, id)) :
    db.Holds p.tenantId (p.place (.ofCell id c)).references := by
  intro x hx
  obtain rfl := List.mem_singleton.mp hx
  exact h

theorem assignProductToCell_advances {productId : Uuid} {cellId : Option Uuid}
    (h : assignProductToCell (.ofTenant t) db productId cellId = .ok db') : db.Advances db' := by
  obtain ⟨p, hp, h₁⟩ := Outcome.bind_eq_ok.mp h
  obtain ⟨⟨hget, htenant⟩, -⟩ := Db.liveProduct?_eq_some.mp (Outcome.required_eq_ok.mp hp)
  cases cellId with
  | none =>
    cases Outcome.pure_eq_ok.mp h₁
    exact .modifyProducts fun _ _ _ _ => ⟨rfl, fun _ => nofun⟩
  | some cellId =>
    obtain ⟨c, hc, h₂⟩ := Outcome.bind_eq_ok.mp h₁
    cases Outcome.pure_eq_ok.mp h₂
    obtain ⟨hc, -⟩ := Option.filter_eq_some_iff.mp (Outcome.required_eq_ok.mp hc)
    have hbelongs := Session.cell_belongs hc
    refine .modifyProducts fun k q hq hk => ⟨rfl, fun _ => ?_⟩
    rw [beq_iff_eq] at hk
    subst hk
    obtain rfl := Option.some.inj (hq.symm.trans hget)
    exact q.place_ofCell_holds (htenant.symm ▸ hbelongs)

theorem updateManyProductLocations_advances {productIds : List Uuid} {location : ProductLocation}
    (h : ∀ c ∈ location.shelfCellId, db.Belongs t (.shelfCell, c)) :
    db.Advances (updateManyProductLocations (.ofTenant t) db productIds location) := by
  refine .modifyProducts fun k p _ hk => ⟨rfl, fun _ => ref?_holds ?_⟩
  have htenant : p.tenantId = t := of_decide_eq_true (Bool.and_eq_true_iff.mp hk).2
  rw [htenant]
  exact h

theorem findFirstCellOfShelf_belongs {s : Session} {shelfId cellId : Uuid} {c : CellAndShelf}
    (h : findFirstCellOfShelf s db shelfId = some (cellId, c)) :
    s.cellAndShelf? db cellId = some c := by
  obtain ⟨row, -, hrow⟩ := List.exists_of_findSome?_eq_some h
  obtain ⟨found, hfound, heq⟩ := Option.map_eq_some_iff.mp hrow
  obtain ⟨rfl, rfl⟩ := Prod.mk.inj heq
  exact hfound

theorem bulkAssignProductCell_advances {productIds : List Uuid} {cellId shelfId : Option Uuid}
    (h : bulkAssignProductCell (.ofTenant t) db productIds cellId shelfId = .ok db') :
    db.Advances db' := by
  have hcell : ∀ {id : Uuid} {c : CellAndShelf},
      (Session.ofTenant t).cellAndShelf? db id = some c →
        ∀ i ∈ (ProductLocation.ofCell id c).shelfCellId, db.Belongs t (.shelfCell, i) := by
    rintro id c hc i ⟨⟩
    exact Session.cell_belongs hc
  unfold bulkAssignProductCell at h
  split_ifs at h
  · cases Outcome.pure_eq_ok.mp h
    exact .refl db
  · split at h
    · cases Outcome.pure_eq_ok.mp h
      exact updateManyProductLocations_advances nofun
    · obtain ⟨c, hc, h₁⟩ := Outcome.bind_eq_ok.mp h
      cases Outcome.pure_eq_ok.mp h₁
      exact updateManyProductLocations_advances (hcell (Outcome.required_eq_ok.mp hc))
    · obtain ⟨shelf, -, h₁⟩ := Outcome.bind_eq_ok.mp h
      split at h₁
      · next hfirst =>
        cases Outcome.pure_eq_ok.mp h₁
        exact updateManyProductLocations_advances (hcell (findFirstCellOfShelf_belongs hfirst))
      · cases Outcome.pure_eq_ok.mp h₁
        exact .refl db

theorem deleteShelf_advances {s : Session} (h : deleteShelf s db id = .ok db') :
    db.Advances db' := by
  obtain ⟨shelf, -, h₁⟩ := Outcome.bind_eq_ok.mp h
  obtain ⟨u, -, h₂⟩ := Outcome.bind_eq_ok.mp h₁
  cases Outcome.pure_eq_ok.mp h₂
  have hshelves := Db.Advances.shelves
    (Table.keeps_eraseIf ShelfCell.shelfId db.shelfCells fun c => c.shelfId = id)
    (Table.keeps_erase WarehouseShelf.tenantId db.warehouseShelves id)
  exact hshelves.trans (.modifyProducts (f := Product.leaveCell) fun _ _ _ _ => ⟨rfl, fun _ => nofun⟩)

theorem Db.commit_stored (db db' : Db) : db.commit (.ok db') = db' := rfl

theorem Db.commit_advances {r : Outcome Db} (h : ∀ db', r = .ok db' → db.Advances db') :
    db.Advances (db.commit r) := by
  cases r with
  | error e => exact .refl db
  | ok db' => exact h db' rfl

theorem serveMovement_advances (hdb : db.Local) {toUpperCase : String → String} {s : Session}
    {input : AddStockMovementInput}
    (href : (db.serveMovement toUpperCase s id input).Referential) :
    db.Advances (db.serveMovement toUpperCase s id input) := by
  unfold Db.serveMovement at href ⊢
  split
  · exact .refl db
  · next saved hsaved =>
    rw [hsaved] at href
    have hrecorded : saved.Advances (saved.commit (recordMovement s saved id input)) :=
      Db.commit_advances fun _ => recordMovement_advances
    -- a movement holds no reference that is followed here
    have hreferential : saved.Referential := by
      cases hr : recordMovement s saved id input with
      | error e =>
        simp only [hr] at href
        exact href
      | ok db' =>
        obtain ⟨p, -, h₁⟩ := Outcome.bind_eq_ok.mp hr
        simp only [hr, addStockMovement_ok h₁] at href
        exact ⟨href.1, href.2, href.3, href.4, href.5⟩
    exact (moveStock_advances hdb hreferential hsaved).trans hrecorded

theorem serve_advances (hdb : db.Local) {toUpperCase : String → String}
    {request : WarehouseRequest} (hnamed : ∀ x ∈ request.named, db.foreign t x = false)
    (href : (db.serve toUpperCase (.ofTenant t, request)).Referential) :
    db.Advances (db.serve toUpperCase (.ofTenant t, request)) := by
  cases request with
  | createShelf dto => exact Db.commit_advances fun _ => createShelf_advances
  | createStockItem dto =>
    refine Db.commit_advances fun db' h => ?_
    refine createStockItem_advances (fun c hc => ?_) ?_ h
    · exact hnamed _ (Option.mem_map.mpr ⟨c, hc, rfl⟩)
    · simpa only [Db.serve, h, Db.commit_stored] using href
  | updateStockItem id dto =>
    refine Db.commit_advances fun db' h => ?_
    refine updateStockItem_advances hdb (fun c hc => ?_) ?_ h
    · refine hnamed _ (Option.mem_map.mpr ⟨c, ?_, rfl⟩)
      rw [hc]
      rfl
    · simpa only [Db.serve, h, Db.commit_stored] using href
  | addStockMovement id input => exact serveMovement_advances hdb href
  | assignProductToCell id cellId => exact Db.commit_advances fun _ => assignProductToCell_advances
  | bulkAssignProductCell ids cellId shelfId =>
    exact Db.commit_advances fun _ => bulkAssignProductCell_advances
  | deleteStockItem id now => exact Db.commit_advances fun _ => deleteStockItem_advances
  | deleteShelf id => exact Db.commit_advances fun _ => deleteShelf_advances

end Inventory

section Appointments

theorem validServiceId_belongs {serviceId : Option Uuid} :
    ∀ id ∈ db.validServiceId t serviceId, db.Belongs t (.service, id) := by
  intro s hs
  obtain ⟨-, hany⟩ := Option.filter_eq_some_iff.mp hs
  cases hget : db.services.get? s with
  | none => simp [hget] at hany
  | some service =>
    rw [hget] at hany
    obtain rfl := of_decide_eq_true hany
    exact Table.belongs_of_get? hget _

theorem checkParties_holds {a b : Appointment} (h : checkParties db a = .ok b) :
    db.Holds b.tenantId b.references := by
  obtain ⟨customer, vehicle, hcustomer, hvehicle, hmechanic, rfl⟩ := checkParties_found h
  refine Db.Holds.cons (Db.belongs_of_liveCustomer? hcustomer)
    (Db.Holds.cons (Db.belongs_of_liveVehicle? hvehicle)
      (Db.Holds.append (ref?_holds validServiceId_belongs) (ref?_holds fun m hm => ?_)))
  obtain ⟨mechanic, hget, howner⟩ := (Option.any_eq_true _ _).mp (hmechanic m hm)
  exact of_decide_eq_true howner ▸ Table.belongs_of_get? hget Mechanic.tenantId

theorem insertAppointment_advances {a : Appointment} (ha : db.Holds a.tenantId a.references)
    (h : insertAppointment db a = .ok db') : db.Advances db' := by
  obtain ⟨rfl, -⟩ := insertAppointment_ok h
  exact .appointments (Table.keeps_insert ..) fun hdb => hdb.appointments.insert ha

theorem saveAppointment_advances {a : Appointment}
    (hrow : ∀ r, db.appointments.get? id = some r → r.tenantId = a.tenantId)
    (hservice : ∀ s ∈ a.serviceId, db.Belongs a.tenantId (.service, s))
    (hmechanic : ∀ m ∈ a.assignedMechanicId, db.foreign a.tenantId (.mechanic, m) = false)
    (href : db'.Referential) (h : saveAppointment db id a = .ok db') : db.Advances db' := by
  obtain ⟨rfl, -⟩ := saveAppointment_ok h
  refine .modifyAppointments fun k r hr hk => ⟨rfl, fun hrefs => ?_⟩
  rw [beq_iff_eq] at hk
  subst hk
  have hstored := href.appointments k _ (Table.get?_modify_self hr a.overwrite)
  rw [hrow r hr] at hrefs ⊢
  refine Db.Holds.cons (hrefs _ List.mem_cons_self) (Db.Holds.cons
    (hrefs _ (List.mem_cons_of_mem _ List.mem_cons_self))
    (Db.Holds.append (ref?_holds hservice) (ref?_holds fun m hm => ?_)))
  refine Db.belongs_of_not_foreign (hmechanic m hm) (hstored (.mechanic, m) ?_)
  refine List.mem_cons_of_mem _ (List.mem_cons_of_mem _ (List.mem_append_right _ ?_))
  exact List.mem_map.mpr ⟨m, Option.mem_toList.mpr hm, rfl⟩

theorem findOrCreateCustomerForPublic_advances (db : Db) (t : Uuid) (name phone : String) :
    db.Advances (findOrCreateCustomerForPublic db t name phone).1 := by
  unfold findOrCreateCustomerForPublic
  simp only
  split
  · exact .customers (Table.keeps_modify fun _ _ => by rfl)
  · exact .customers (Table.keeps_insert ..)

theorem findOrCreateVehicleForPublic_advances {toUpperCase : String → String}
    {customerId : Uuid} {plate : String}
    (h : findOrCreateVehicleForPublic toUpperCase db t customerId plate = .ok (db', id)) :
    db.Advances db' := by
  unfold findOrCreateVehicleForPublic at h
  simp only at h
  split at h
  · obtain ⟨u, -, h₁⟩ := Outcome.bind_eq_ok.mp h
    cases Outcome.pure_eq_ok.mp h₁
    exact .vehicles (Table.keeps_modify fun _ _ => by rfl)
  · cases Outcome.pure_eq_ok.mp h
    exact .vehicles (Table.keeps_insert ..)

end Appointments

section Directory

theorem Appointment.dropService_references (a : Appointment) :
    a.dropService.references ⊆ a.references := by
  intro x hx
  simp only [references, dropService, List.mem_cons, List.mem_append] at hx ⊢
  rcases hx with rfl | rfl | hx | hx
  · exact .inl rfl
  · exact .inr (.inl rfl)
  · cases hx
  · exact .inr (.inr (.inr hx))

theorem Appointment.dropMechanic_references (a : Appointment) :
    a.dropMechanic.references ⊆ a.references := by
  intro x hx
  simp only [references, dropMechanic, List.mem_cons, List.mem_append] at hx ⊢
  rcases hx with rfl | rfl | hx | hx
  · exact .inl rfl
  · exact .inr (.inl rfl)
  · exact .inr (.inr (.inl hx))
  · cases hx

theorem WorkOrder.dropMechanic_references (wo : WorkOrder) :
    wo.dropMechanic.references ⊆ wo.references := by
  intro x hx
  simp only [references, dropMechanic, List.mem_cons, List.mem_append] at hx ⊢
  rcases hx with rfl | rfl | hx | hx
  · exact .inl rfl
  · exact .inr (.inl rfl)
  · cases hx
  · exact .inr (.inr (.inr hx))

theorem Db.Advances.withoutService (db : Db) (id : Uuid) : db.Advances (db.withoutService id) := by
  have hservices := Db.Advances.services (Table.keeps_erase Service.tenantId db.services id)
  exact hservices.trans (.modifyAppointments (f := Appointment.dropService) fun _ a _ _ =>
    ⟨rfl, fun hrefs x hx => hrefs x (a.dropService_references hx)⟩)

theorem Db.Advances.withoutMechanic (db : Db) (id : Uuid) :
    db.Advances (db.withoutMechanic id) := by
  have hmechanics := Db.Advances.mechanics (Table.keeps_erase Mechanic.tenantId db.mechanics id)
  let erased : Db := { db with mechanics := db.mechanics.erase id }
  let dropped : Db := { erased with
    appointments := db.appointments.modifyIf (fun _ a => a.assignedMechanicId = some id)
      Appointment.dropMechanic }
  have happointments : erased.Advances dropped := .modifyAppointments fun _ a _ _ =>
    ⟨rfl, fun hrefs x hx => hrefs x (a.dropMechanic_references hx)⟩
  have horders : dropped.Advances (db.withoutMechanic id) := .modifyOrders fun _ wo _ _ =>
    ⟨rfl, fun hrefs x hx => hrefs x (wo.dropMechanic_references hx)⟩
  exact (hmechanics.trans happointments).trans horders

theorem Db.Advances.users (db : Db) (users : Table User) :
    db.Advances { db with users := users } := .of_eq rfl

theorem Db.Advances.withoutUser (db : Db) (id : Uuid) : db.Advances (db.withoutUser id) := by
  have hmechanics : ∀ (ids : List Uuid) (db : Db),
      db.Advances (ids.foldl Db.withoutMechanic db) := by
    intro ids
    induction ids with
    | nil => exact fun db => .refl db
    | cons i ids ih =>
      exact fun db => (Advances.withoutMechanic db i).trans (ih (db.withoutMechanic i))
  exact (hmechanics _ db).trans (.users ..)

theorem Db.Advances.addMechanic (db : Db) (t userId : Uuid) :
    db.Advances (db.addMechanic t userId) := .mechanics (Table.keeps_insert ..)

theorem createStaff_advances (db : Db) (t : Uuid) (user : User) :
    db.Advances (createStaff db t user) := by
  unfold createStaff
  simp only
  split_ifs
  · exact (Db.Advances.users ..).trans (.addMechanic ..)
  · exact .users ..

theorem updateStaff_advances {role : Option UserRole} (h : updateStaff db t id role = .ok db') :
    db.Advances db' := by
  obtain ⟨user, -, h₁⟩ := Outcome.bind_eq_ok.mp h
  simp only at h₁
  split_ifs at h₁
  · cases Outcome.pure_eq_ok.mp h₁
    exact (Db.Advances.users ..).trans (.addMechanic ..)
  · cases Outcome.pure_eq_ok.mp h₁
    exact .users ..

theorem openAccount_advances {t customerId : Uuid} (h : db.openAccount t customerId = .ok db') :
    db.Advances db' := by
  obtain ⟨u, -, h₁⟩ := Outcome.bind_eq_ok.mp h
  cases Outcome.pure_eq_ok.mp h₁
  exact .accounts ..

theorem createCustomer_advances {customer : Customer}
    (h : db.createCustomer t customer = .ok db') : db.Advances db' := by
  have hcustomer : db.Advances
      { db with customers := db.customers.insert { customer with tenantId := t } } :=
    .customers (Table.keeps_insert ..)
  exact hcustomer.trans (openAccount_advances h)

theorem DirectoryTask.commits_advances {r : Outcome Db} (h : ∀ db', r = .ok db' → db.Advances db') :
    db.Advances (commits db r).1 := by
  cases r with
  | error e => exact .refl db
  | ok db' => exact h db' rfl

theorem DirectoryTask.exec_advances (db : Db) (task : DirectoryTask) :
    db.Advances (task.exec db).1 := by
  cases task with
  | createCustomer t customer => exact commits_advances fun _ => createCustomer_advances
  | updateCustomer t id customer => exact .customers (Table.keeps_modifyIf fun _ _ _ _ => by rfl)
  | createVehicle t vehicle => exact .vehicles (Table.keeps_insert ..)
  | updateVehicle t id vehicle => exact .vehicles (Table.keeps_modifyIf fun _ _ _ _ => by rfl)
  | createService t => exact .services (Table.keeps_insert ..)
  | removeService t id =>
    simp only [exec]
    split_ifs <;> exact .refl db
  | deleteService id => exact .withoutService db id
  | createStaff t user => exact createStaff_advances db t user
  | findAccount t customerId | customerExists t customerId | createAccount t customerId =>
    simp only [exec]
    split <;> exact .refl db
  | insertAccount t customerId => exact commits_advances fun _ => openAccount_advances
  | updateStaff t id role => exact commits_advances fun _ => updateStaff_advances
  | removeStaff t id =>
    simp only [exec]
    split
    · exact .refl db
    · exact .refl db
    · split_ifs
      · exact .users ..
      · exact .refl db
  | deleteMechanic mechanicId id => exact .withoutMechanic db mechanicId
  | deleteUser id => exact .withoutUser db id
  | finished answer => exact .refl db

end Directory

end WorksAuto
