import WorksAuto.Inventory.Places

/-! Runs of requests on the warehouse.
Every request leaves the products in their cells, except that a product can be created in a cell
that is not seen, or edited so. -/

namespace WorksAuto

open Lib

section Steps

variable {db db' : Db} {s : Session} {toUpperCase : String → String}

def Db.SameShelves (db db' : Db) : Prop :=
  db'.shelfCells = db.shelfCells ∧ db'.warehouseShelves = db.warehouseShelves

theorem shelved_of_movements {products : Table Product} {movements : Table StockMovement} :
    Db.Shelved { db with products, stockMovements := movements } ↔
      Db.Shelved { db with products } :=
  ⟨fun h => ⟨h.products, h.codes⟩, fun h => ⟨h.products, h.codes⟩⟩

theorem cell_isSome {cellId : Uuid} {c : CellAndShelf} (hc : db.cellAndShelf? cellId = some c) :
    (db.shelfCells.get? cellId).isSome = true := by
  rw [(cellAndShelf?_eq_some.mp hc).1]
  rfl

theorem create_shelved_iff (h : db.Shelved) (hcells : db.CellsOnShelves) (dto : CreateProductDto) :
    (db.commit (createStockItem toUpperCase s db dto)).Shelved ↔ dto.Keeps toUpperCase s db := by
  cases hwritten : createStockItem toUpperCase s db dto with
  | error e =>
    refine iff_of_true h fun cellId hcellId c hc hfits => ?_
    have hrefused : ∀ location,
        dto.location (dto.shelfCellId.bind (s.cellAndShelf? db)) ≠ .ok location := by
      intro location hlocation
      obtain ⟨db', hdb'⟩ := createStockItem_isOk hlocation hfits fun k hk => by
        obtain rfl := Option.some.inj ((Option.mem_def.mp hcellId).symm.trans hk)
        exact cell_isSome hc
      rw [hwritten] at hdb'
      cases hdb'
    obtain ⟨hhidden, hlocation⟩ := location_refused hrefused
    rw [Option.mem_def.mp hcellId, Option.bind_some] at hhidden
    cases hsees : s.sees c.2.tenantId with
    | true =>
      rw [Session.cellAndShelf?_eq_some.mpr ⟨hc, hsees⟩] at hhidden
      cases hhidden
    | false => exact hlocation
  | ok db' =>
    obtain ⟨location, created, movements, hlocation, hfits, hknown, -, hcreated, -, rfl⟩ :=
      createStockItem_ok hwritten
    change Db.Shelved { db with products := _, stockMovements := _ } ↔ _
    rw [shelved_of_movements, shelved_insert_iff h]
    have hcellId := shelfCellId_of_placed hlocation hcreated
    constructor
    · intro hplace cellId hmem c hc _
      obtain ⟨c', hc', hlies⟩ := hplace cellId (hcellId.trans hmem)
      obtain rfl := Option.some.inj (hc'.symm.trans hc)
      exact (location_liesIn_iff hmem hc hlocation hcreated).mp hlies
    · intro hkeeps cellId hmem
      have hmem' : dto.shelfCellId = some cellId := hcellId.symm.trans hmem
      obtain ⟨cell, hcell⟩ := Option.isSome_iff_exists.mp (hknown cellId hmem')
      obtain ⟨shelf, hc⟩ := cellAndShelf?_isSome hcells hcell
      exact ⟨_, hc, (location_liesIn_iff hmem' hc hlocation hcreated).mpr
        (hkeeps cellId hmem' _ hc hfits)⟩

/-- What an entity says of the location of a product is so, or its cell is seen. -/
def StockItemEntity.Keeps (item : StockItemEntity) (s : Session) (db : Db) (p : Product) : Prop :=
  ∀ cellId ∈ item.shelfCellId.getD p.shelfCellId, ∀ c ∈ db.cellAndShelf? cellId, item.Fits db →
    if s.sees c.2.tenantId then c.2.code = "" → item.rack.getD p.rack = some ""
    else p.shelfId = some c.1.shelfId ∧ item.shelfLocation = c.1.cellCode ∧
      item.rack.getD p.rack = some c.2.code ∧ item.tier.getD p.tier = some (floorText c.1) ∧
      item.bin.getD p.bin = some (binText c.1)

theorem save_shelved_iff (h : db.Shelved) (hcells : db.CellsOnShelves) {item : StockItemEntity}
    {p : Product} (hp : db.liveProduct? item.tenantId item.id = some p)
    (hsame : item.shelfCellId = none → p.shelfCellId = none) :
    (db.commit (s.saveStockItem db item)).Shelved ↔ item.Keeps s db p := by
  have hcell : ∀ cellId, item.shelfCellId.getD p.shelfCellId = some cellId →
      item.shelfCellId = some (some cellId) := by
    intro cellId hcellId
    cases hitem : item.shelfCellId with
    | none =>
      rw [hitem, Option.getD_none, hsame hitem] at hcellId
      cases hcellId
    | some o => rw [hitem, Option.getD_some] at hcellId; rw [hcellId]
  cases hwritten : s.saveStockItem db item with
  | error e =>
    refine iff_of_true h fun cellId hcellId c hc hfits => ?_
    obtain ⟨db', hdb'⟩ := saveStockItem_isOk (s := s) hp hfits fun k hk => by
      rw [hcell cellId hcellId, Option.getD_some] at hk
      obtain rfl := Option.some.inj hk
      exact cell_isSome hc
    rw [hwritten] at hdb'
    cases hdb'
  | ok db' =>
    obtain ⟨hfits, hknown, f, hf, rfl⟩ := saveStockItem_ok hp hwritten
    refine (shelved_modify_iff h (liveProduct?_row hp).1 f).trans ?_
    have hshelfCellId : (f p).shelfCellId = item.shelfCellId.getD p.shelfCellId := by
      rw [← hf]
      rfl
    constructor
    · intro hplace cellId hmem c hc _
      obtain ⟨c', hc', hlies⟩ := hplace cellId (hshelfCellId.trans hmem)
      obtain rfl := Option.some.inj (hc'.symm.trans hc)
      exact (saved_liesIn_iff (hcell cellId hmem) hc hf).mp hlies
    · intro hkeeps cellId hmem
      have hmem' := hshelfCellId.symm.trans hmem
      obtain ⟨cell, hrow⟩ := Option.isSome_iff_exists.mp
        (hknown cellId (by rw [hcell cellId hmem']; rfl))
      obtain ⟨shelf, hc⟩ := cellAndShelf?_isSome hcells hrow
      exact ⟨_, hc, (saved_liesIn_iff (hcell cellId hmem') hc hf).mpr
        (hkeeps cellId hmem' _ hc hfits)⟩

theorem saved_shelved (h : db.Shelved) (hcells : db.CellsOnShelves) {item : StockItemEntity}
    {p : Product} (hp : db.liveProduct? item.tenantId item.id = some p)
    (hsame : item.shelfCellId = none → p.shelfCellId = none)
    (hwritten : s.saveStockItem db item = .ok db') (hkeeps : item.Keeps s db p) : db'.Shelved := by
  have hsaved := (save_shelved_iff h hcells hp hsame).mpr hkeeps
  rw [hwritten] at hsaved
  exact hsaved

theorem entity_columns (toUpperCase : String → String) (s : Session) {p : Product}
    (hplace : p.InPlace db) (id : Uuid) :
    let item := mapToEntity toUpperCase id p (p.shelfCellId.bind (s.cellAndShelf? db))
    item.rack = p.rack.map some ∧ item.tier = p.tier.map some ∧ item.bin = p.bin.map some := by
  have hcolumn : ∀ {column fromCell : Option String}, (column = none → fromCell = none) →
      columnOr column fromCell = column.map some := by
    intro column fromCell hnone
    cases column with
    | none => rw [hnone rfl]; rfl
    | some text => rfl
  cases hcellId : p.shelfCellId with
  | none => exact ⟨hcolumn fun _ => rfl, hcolumn fun _ => rfl, hcolumn fun _ => rfl⟩
  | some cellId =>
    obtain ⟨c, -, hlies⟩ := hplace cellId hcellId
    refine ⟨hcolumn fun hnone => ?_, hcolumn fun hnone => ?_, hcolumn fun hnone => ?_⟩
    · rw [hlies.rack] at hnone
      cases hnone
    · rw [hlies.tier] at hnone
      cases hnone
    · rw [hlies.bin] at hnone
      cases hnone

theorem getD_edited {α : Type} (edit : Field α) (column : Option α) :
    (edit.orElse fun _ => column.map some).getD column = edit.getD column := by
  cases edit with
  | some value => rfl
  | none => cases column <;> rfl

theorem edited_eq_none {α : Type} (edit : Field α) {column : Option α}
    (h : (edit.orElse fun _ => column.map some) = none) : column = none := by
  cases edit with
  | some value => cases h
  | none => exact Option.map_eq_none_iff.mp h

theorem update_shelved_iff (h : db.Shelved) (hcells : db.CellsOnShelves) (id : Uuid)
    (dto : UpdateProductDto) :
    (db.commit (updateStockItem toUpperCase s db id dto)).Shelved ↔
      dto.Keeps toUpperCase s db id := by
  unfold updateStockItem Session.findStockItem UpdateProductDto.Keeps
  cases hp : db.liveProduct? s.tenantId id with
  | none => exact iff_of_true h fun p hp => by cases hp
  | some p =>
    obtain ⟨hrow, htenant⟩ := liveProduct?_row hp
    obtain ⟨hrack, htier, hbin⟩ := entity_columns toUpperCase s (h.products id p hrow) id
    let existing := mapToEntity toUpperCase id p (p.shelfCellId.bind (s.cellAndShelf? db))
    have hp' : db.liveProduct? (dto.apply existing).tenantId (dto.apply existing).id = some p := by
      change db.liveProduct? p.tenantId id = some p
      rw [htenant, hp]
    have hcellId : (dto.apply existing).shelfCellId.getD p.shelfCellId =
        dto.shelfCellId.getD p.shelfCellId := getD_edited dto.shelfCellId p.shelfCellId
    have hrack' : (dto.apply existing).rack.getD p.rack = dto.rack.getD p.rack := by
      rw [← getD_edited dto.rack, ← hrack]
      rfl
    have htier' : (dto.apply existing).tier.getD p.tier = dto.tier.getD p.tier := by
      rw [← getD_edited dto.tier, ← htier]
      rfl
    have hbin' : (dto.apply existing).bin.getD p.bin = dto.bin.getD p.bin := by
      rw [← getD_edited dto.bin, ← hbin]
      rfl
    have hsave := save_shelved_iff (s := s) h hcells hp'
      (edited_eq_none dto.shelfCellId)
    rw [StockItemEntity.Keeps, hcellId, hrack', htier', hbin'] at hsave
    refine hsave.trans ?_
    constructor
    · intro hkeeps q hq
      obtain rfl := Option.some.inj hq
      exact hkeeps
    · exact fun hkeeps => hkeeps p rfl

theorem moveStock_shelved (h : db.Shelved) (hcells : db.CellsOnShelves) {productId : Uuid}
    {input : AddStockMovementInput} (hmoved : moveStock toUpperCase s db productId input = .ok db') :
    db'.Shelved := by
  obtain ⟨existing, hexisting, hmoved⟩ := Outcome.bind_eq_ok.mp hmoved
  obtain ⟨item, hitem, hmoved⟩ := Outcome.bind_eq_ok.mp hmoved
  obtain ⟨p, hp, rfl⟩ := Option.map_eq_some_iff.mp (Outcome.required_eq_ok.mp hexisting)
  obtain ⟨n, rfl⟩ := AddStockMovementInput.apply_eq hitem
  obtain ⟨hrow, htenant⟩ := liveProduct?_row hp
  have hplace := h.products productId p hrow
  obtain ⟨hrack, htier, hbin⟩ := entity_columns toUpperCase s hplace productId
  have hp' : db.liveProduct? p.tenantId productId = some p := by rw [htenant, hp]
  have hgetD : ∀ {α : Type} (column : Option α), (column.map some).getD column = column := by
    intro α column
    cases column <;> rfl
  refine saved_shelved h hcells hp' Option.map_eq_none_iff.mp hmoved ?_
  intro cellId hmem c hc _
  obtain ⟨c', hc', hlies⟩ := hplace cellId ((hgetD p.shelfCellId).symm.trans hmem)
  obtain rfl := Option.some.inj (hc'.symm.trans hc)
  have hrack' := (congrArg (Option.getD · p.rack) hrack).trans (hgetD p.rack)
  have htier' := (congrArg (Option.getD · p.tier) htier).trans (hgetD p.tier)
  have hbin' := (congrArg (Option.getD · p.bin) hbin).trans (hgetD p.bin)
  split_ifs
  · intro hcode
    exact hrack'.trans (hlies.rack.trans (congrArg some hcode))
  · exact ⟨hlies.shelfId, hlies.shelfLocation, hrack'.trans hlies.rack, htier'.trans hlies.tier,
      hbin'.trans hlies.bin⟩

theorem commit_of {P : Db → Prop} (h : P db) {written : Outcome Db}
    (hwritten : ∀ db', written = .ok db' → P db') : P (db.commit written) := by
  cases written with
  | error e => exact h
  | ok db' => exact hwritten db' rfl

theorem assign_shelved (h : db.Shelved) {productId : Uuid} {shelfCellId : Option Uuid}
    (hassigned : assignProductToCell s db productId shelfCellId = .ok db') :
    db'.Shelved ∧ db.SameShelves db' := by
  obtain ⟨p, hp, hassigned⟩ := Outcome.bind_eq_ok.mp hassigned
  obtain ⟨hrow, -⟩ := liveProduct?_row (Outcome.required_eq_ok.mp hp)
  cases shelfCellId with
  | none =>
    obtain rfl := Outcome.pure_eq_ok.mp hassigned
    exact ⟨(shelved_modify_iff h hrow _).mpr (inPlace_of_none rfl), rfl, rfl⟩
  | some cellId =>
    obtain ⟨c, hc, hassigned⟩ := Outcome.bind_eq_ok.mp hassigned
    obtain rfl := Outcome.pure_eq_ok.mp hassigned
    obtain ⟨hc, -⟩ := Option.filter_eq_some_iff.mp (Outcome.required_eq_ok.mp hc)
    have hplace := inPlace_ofCell (Session.cellAndShelf?_eq_some.mp hc).1 p
    exact ⟨(shelved_modify_iff h hrow _).mpr hplace, rfl, rfl⟩

theorem findFirstCellOfShelf_some {shelfId cellId : Uuid} {c : CellAndShelf}
    (h : findFirstCellOfShelf s db shelfId = some (cellId, c)) :
    db.cellAndShelf? cellId = some c := by
  obtain ⟨found, -, hfound⟩ := List.exists_of_findSome?_eq_some h
  obtain ⟨c', hc', hpair⟩ := Option.map_eq_some_iff.mp hfound
  obtain ⟨rfl, rfl⟩ := Prod.mk.inj hpair
  exact (Session.cellAndShelf?_eq_some.mp hc').1

theorem updateMany_shelved (h : db.Shelved) {productIds : List Uuid} {location : ProductLocation}
    (hplace : ∀ p : Product, (p.place location).InPlace db) :
    (updateManyProductLocations s db productIds location).Shelved ∧
      db.SameShelves (updateManyProductLocations s db productIds location) :=
  ⟨shelved_modifyIf h hplace, rfl, rfl⟩

theorem bulk_shelved (h : db.Shelved) {productIds : List Uuid}
    {shelfCellId targetShelfId : Option Uuid}
    (hmoved : bulkAssignProductCell s db productIds shelfCellId targetShelfId = .ok db') :
    db'.Shelved ∧ db.SameShelves db' := by
  unfold bulkAssignProductCell at hmoved
  split_ifs at hmoved
  · obtain rfl := Outcome.pure_eq_ok.mp hmoved
    exact ⟨h, rfl, rfl⟩
  · cases shelfCellId with
    | some cellId =>
      obtain ⟨c, hc, hmoved⟩ := Outcome.bind_eq_ok.mp hmoved
      obtain rfl := Outcome.pure_eq_ok.mp hmoved
      have hseen := Session.cellAndShelf?_eq_some.mp (Outcome.required_eq_ok.mp hc)
      exact updateMany_shelved h (inPlace_ofCell hseen.1)
    | none =>
      cases targetShelfId with
      | none =>
        obtain rfl := Outcome.pure_eq_ok.mp hmoved
        exact updateMany_shelved h fun p => inPlace_of_none rfl
      | some shelfId =>
        obtain ⟨_, -, hmoved⟩ := Outcome.bind_eq_ok.mp hmoved
        cases hfirst : findFirstCellOfShelf s db shelfId with
        | none =>
          rw [hfirst] at hmoved
          obtain rfl := Outcome.pure_eq_ok.mp hmoved
          exact ⟨h, rfl, rfl⟩
        | some found =>
          rw [hfirst] at hmoved
          obtain rfl := Outcome.pure_eq_ok.mp hmoved
          exact updateMany_shelved h (inPlace_ofCell (findFirstCellOfShelf_some hfirst))

theorem deleteStockItem_shelved (h : db.Shelved) {id : Uuid} {now : Instant}
    (hdeleted : deleteStockItem s db id now = .ok db') : db'.Shelved ∧ db.SameShelves db' := by
  obtain ⟨p, hp, hdeleted⟩ := Outcome.bind_eq_ok.mp hdeleted
  obtain ⟨hrow, -⟩ := liveProduct?_row (Outcome.required_eq_ok.mp hp)
  obtain rfl := Outcome.pure_eq_ok.mp hdeleted
  exact ⟨(shelved_modify_iff h hrow _).mpr (inPlace_of_none rfl), rfl, rfl⟩

end Steps

section Runs

variable {db db' : Db} {s : Session} {toUpperCase : String → String}

theorem cellsOnShelves_of_same (h : db.SameShelves db') (hcells : db.CellsOnShelves) :
    db'.CellsOnShelves := by
  intro k c hc
  rw [h.1] at hc
  rw [h.2]
  exact hcells k c hc

theorem save_sameShelves {item : StockItemEntity} (h : s.saveStockItem db item = .ok db') :
    db.SameShelves db' := by
  obtain ⟨p, hp, -⟩ := Outcome.bind_eq_ok.mp h
  obtain ⟨-, -, f, -, rfl⟩ := saveStockItem_ok (Outcome.required_eq_ok.mp hp) h
  exact ⟨rfl, rfl⟩

theorem move_sameShelves {productId : Uuid} {input : AddStockMovementInput}
    (h : moveStock toUpperCase s db productId input = .ok db') : db.SameShelves db' := by
  obtain ⟨_, -, h⟩ := Outcome.bind_eq_ok.mp h
  obtain ⟨_, -, h⟩ := Outcome.bind_eq_ok.mp h
  exact save_sameShelves h

theorem deleteShelf_ok {shelfId : Uuid} (h : deleteShelf s db shelfId = .ok db') :
    db' = db.withoutShelf shelfId := by
  obtain ⟨_, -, h⟩ := Outcome.bind_eq_ok.mp h
  obtain ⟨_, -, h⟩ := Outcome.bind_eq_ok.mp h
  exact (Outcome.pure_eq_ok.mp h).symm

theorem recordMovement_ok {productId : Uuid} {input : AddStockMovementInput}
    (h : recordMovement s db productId input = .ok db') :
    ∃ movements, db' = { db with stockMovements := movements } := by
  obtain ⟨_, -, h⟩ := Outcome.bind_eq_ok.mp h
  obtain ⟨_, -, h⟩ := Outcome.bind_eq_ok.mp h
  exact ⟨_, (Outcome.pure_eq_ok.mp h).symm⟩

theorem serveMovement_of {P : Db → Prop} (h : P db) {productId : Uuid}
    {input : AddStockMovementInput}
    (hmoved : ∀ saved, moveStock toUpperCase s db productId input = .ok saved → P saved)
    (hrecorded : ∀ db' movements, P db' → P { db' with stockMovements := movements }) :
    P (db.serveMovement toUpperCase s productId input) := by
  unfold Db.serveMovement
  cases hsaved : moveStock toUpperCase s db productId input with
  | error e => exact h
  | ok saved =>
    refine commit_of (hmoved saved hsaved) fun db' hdb' => ?_
    obtain ⟨movements, rfl⟩ := recordMovement_ok hdb'
    exact hrecorded saved movements (hmoved saved hsaved)

theorem serve_cells (h : db.Shelved) (hcells : db.CellsOnShelves)
    (call : Session × WarehouseRequest) : (db.serve toUpperCase call).CellsOnShelves := by
  obtain ⟨s, request⟩ := call
  cases request with
  | createShelf dto =>
    refine commit_of hcells fun db' hcreated => ?_
    obtain ⟨shelf, rows, columns, rfl⟩ := createShelf_ok hcreated
    exact cellsOnShelves_withShelf hcells
  | createStockItem dto =>
    refine commit_of hcells fun db' hcreated => ?_
    obtain ⟨_, _, _, -, -, -, -, -, -, rfl⟩ := createStockItem_ok hcreated
    exact hcells
  | updateStockItem id dto =>
    refine commit_of hcells fun db' hupdated => ?_
    obtain ⟨_, -, hsaved⟩ := Outcome.bind_eq_ok.mp hupdated
    exact cellsOnShelves_of_same (save_sameShelves hsaved) hcells
  | addStockMovement productId input =>
    exact serveMovement_of hcells
      (fun saved hmoved => cellsOnShelves_of_same (move_sameShelves hmoved) hcells)
      fun db' movements hdb' => hdb'
  | assignProductToCell productId cellId =>
    exact commit_of hcells fun _ hassigned =>
      cellsOnShelves_of_same (assign_shelved h hassigned).2 hcells
  | bulkAssignProductCell productIds cellId shelfId =>
    exact commit_of hcells fun _ hmoved => cellsOnShelves_of_same (bulk_shelved h hmoved).2 hcells
  | deleteStockItem id now =>
    exact commit_of hcells fun _ hdeleted =>
      cellsOnShelves_of_same (deleteStockItem_shelved h hdeleted).2 hcells
  | deleteShelf shelfId =>
    refine commit_of hcells fun db' hdeleted => ?_
    obtain rfl := deleteShelf_ok hdeleted
    exact cellsOnShelves_withoutShelf hcells shelfId

theorem serve_shelved_iff (h : db.Shelved) (hcells : db.CellsOnShelves)
    (call : Session × WarehouseRequest) :
    (db.serve toUpperCase call).Shelved ↔ db.KeepsPlaces toUpperCase call := by
  obtain ⟨s, request⟩ := call
  cases request with
  | createStockItem dto => exact create_shelved_iff h hcells dto
  | updateStockItem id dto => exact update_shelved_iff h hcells id dto
  | createShelf dto =>
    refine iff_of_true (commit_of h fun db' hcreated => ?_) trivial
    obtain ⟨shelf, rows, columns, rfl⟩ := createShelf_ok hcreated
    exact shelved_withShelf h hcells
  | addStockMovement productId input =>
    refine iff_of_true (serveMovement_of h (fun saved => moveStock_shelved h hcells) ?_) trivial
    exact fun db' movements hdb' => ⟨hdb'.products, hdb'.codes⟩
  | assignProductToCell productId cellId =>
    exact iff_of_true (commit_of h fun _ hassigned => (assign_shelved h hassigned).1) trivial
  | bulkAssignProductCell productIds cellId shelfId =>
    exact iff_of_true (commit_of h fun _ hmoved => (bulk_shelved h hmoved).1) trivial
  | deleteStockItem id now =>
    exact iff_of_true (commit_of h fun _ hdeleted => (deleteStockItem_shelved h hdeleted).1)
      trivial
  | deleteShelf shelfId =>
    refine iff_of_true (commit_of h fun db' hdeleted => ?_) trivial
    obtain rfl := deleteShelf_ok hdeleted
    exact shelved_withoutShelf h shelfId

/-- In every run of requests one after the other, the products lie in their cells and the cells
of a shelf have different codes throughout precisely when each product is created and edited
as `KeepsPlaces` says. -/
theorem products_in_place_iff (toUpperCase : String → String) {db : Db} (h : db.Shelved)
    (hcells : db.CellsOnShelves) (calls : List (Session × WarehouseRequest)) :
    Always (Db.serve toUpperCase) Db.Shelved db calls ↔
      EachStep (Db.serve toUpperCase) (Db.KeepsPlaces toUpperCase) db calls := by
  refine always_iff_eachStep (I := fun db : Db => db.Shelved ∧ db.CellsOnShelves)
    (fun _ hI => hI.1) ?_ ?_ ⟨h, hcells⟩ calls
  · intro db call hI hkeeps
    exact ⟨(serve_shelved_iff hI.1 hI.2 call).mpr hkeeps, serve_cells hI.1 hI.2 call⟩
  · intro db call hI hnot hshelved
    exact hnot ((serve_shelved_iff hI.1 hI.2 call).mp hshelved)

end Runs

section Sample

def frontShelf : CreateShelfDto where
  name := "Ön Takım"
  code := "RAF-A01"
  zone := none
  rows := 2
  columns := 3

def warehouse : Db :=
  { Db.empty with
    tenants := .ofList
      [{ slug := "servis", title := "Servis", isActive := true, autoInvoiceOnComplete := false },
        { slug := "usta", title := "Usta", isActive := true, autoInvoiceOnComplete := false }]
    products := .ofList
      [{ tenantId := 0, name := "Fren Balatası", oemCode := "FB-1", barcode := none,
         category := "BRAKE", brand := "Bosch", stockQuantity := 10, minStockLevel := 2,
         shelfLocation := "A-12", purchasePrice := 5000, salePrice := 10000, kdvRate := 2000,
         deletedAt := none, shelfId := none, shelfCellId := none, aisle := none, rack := none,
         tier := none, bin := none }] }

theorem warehouse_shelved : warehouse.Shelved := by
  refine ⟨?_, fun i j c d hc => ?_⟩
  · have hnone : ∀ k p, warehouse.products.get? k = some p → p.shelfCellId = none := by
      decide +kernel
    exact fun k p hp => inPlace_of_none (hnone k p hp)
  · cases hc

def session (tenantId : Uuid) : Session where
  tenantId := tenantId
  superAdmin := false
  bypassRls := false

/-- A shelf is set up, and the product is put into its second cell and moved. -/
def shelving : List (Session × WarehouseRequest) :=
  [(session 0, .createShelf frontShelf), (session 0, .assignProductToCell 0 (some 1)),
    (session 0, .addStockMovement 0
      { movementType := .inPurchase, quantity := 5, referenceId := none }),
    (session 0, .bulkAssignProductCell [0] none (some 0)), (session 0, .deleteShelf 0)]

theorem products_in_place_shelving : Always (Db.serve id) Db.Shelved warehouse shelving := by
  refine (products_in_place_iff id warehouse_shelved ?_ shelving).mpr ?_
  · intro k c hc
    cases hc
  · have hkeeps : ∀ call ∈ shelving, ∀ db : Db, db.KeepsPlaces id call := by
      intro call hcall db
      simp only [shelving, List.mem_cons, List.not_mem_nil, or_false] at hcall
      rcases hcall with rfl | rfl | rfl | rfl | rfl <;> exact trivial
    exact (eachStep_of_forall hkeeps).mono fun db call hcall => hcall db

def oilFilter (shelfCellId : Option Uuid) : CreateProductDto where
  name := "Yağ Filtresi"
  oemCode := "YF-1"
  barcode := none
  category := none
  brand := "Mann"
  stockQuantity := 4
  minStockLevel := none
  shelfLocation := some "A-12"
  purchasePrice := 100
  salePrice := 150
  kdvRate := none
  aisle := none
  rack := none
  tier := none
  bin := none
  shelfCellId := shelfCellId

def foreignCell : List (Session × WarehouseRequest) :=
  [(session 0, .createShelf frontShelf), (session 1, .createStockItem (oilFilter (some 0)))]

theorem product_outside_its_cell :
    ¬ Always (Db.serve id) Db.Shelved warehouse foreignCell := by
  intro h
  have hstored : ((run (Db.serve id) warehouse foreignCell).products.get? 1).map
      (fun p => (p.shelfCellId, p.shelfId)) = some (some 0, none) := by decide +kernel
  obtain ⟨p, hp, hcolumns⟩ := Option.map_eq_some_iff.mp hstored
  obtain ⟨hcellId, hshelfId⟩ := Prod.mk.inj hcolumns
  obtain ⟨c, -, hlies⟩ := h.last.products 1 p hp 0 hcellId
  have hshelf := hlies.shelfId
  rw [hshelfId] at hshelf
  cases hshelf

end Sample

end WorksAuto
