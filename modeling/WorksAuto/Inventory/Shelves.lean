import WorksAuto.Inventory.StockItem

/-! The shelves of the warehouse and the products on them.
A product repeats in its own columns what its cell and the shelf of the cell say. The row
policies hide the cells of other tenants from a lookup, not from the foreign key. -/

namespace WorksAuto

open Lib

/-- Who makes a request, and whether the database role is exempt from the row policies. -/
structure Session where
  tenantId : Uuid
  superAdmin : Bool
  bypassRls : Bool
  deriving DecidableEq, Repr

def Session.sees (s : Session) (tenantId : Uuid) : Bool :=
  s.superAdmin || s.bypassRls || tenantId = s.tenantId

/-- `findCell`, or the cell that a product includes. -/
def Session.cellAndShelf? (s : Session) (db : Db) (cellId : Uuid) : Option CellAndShelf :=
  (db.cellAndShelf? cellId).filter fun c => s.sees c.2.tenantId

theorem cellAndShelf?_eq_some {db : Db} {cellId : Uuid} {c : CellAndShelf} :
    db.cellAndShelf? cellId = some c ↔ db.shelfCells.get? cellId = some c.1 ∧
      db.warehouseShelves.get? c.1.shelfId = some c.2 := by
  simp only [Db.cellAndShelf?, Option.bind_eq_bind, Option.bind_eq_some_iff, Option.pure_def,
    Option.some.injEq]
  constructor
  · rintro ⟨cell, hcell, shelf, hshelf, rfl⟩
    exact ⟨hcell, hshelf⟩
  · rintro ⟨hcell, hshelf⟩
    exact ⟨c.1, hcell, c.2, hshelf, rfl⟩

theorem Session.cellAndShelf?_eq_some {s : Session} {db : Db} {cellId : Uuid} {c : CellAndShelf} :
    s.cellAndShelf? db cellId = some c ↔
      db.cellAndShelf? cellId = some c ∧ s.sees c.2.tenantId = true := by
  simp [Session.cellAndShelf?, Option.filter_eq_some_iff]

section CreateShelf

structure CreateShelfDto where
  name : String
  code : String
  zone : Option String
  rows : ℕ
  columns : ℕ
  deriving DecidableEq, Repr

def cellCode (code : String) (r c : ℕ) : String :=
  code ++ "-K" ++ Nat.repr r ++ "-G" ++ Nat.repr c

def cellsToCreate (shelfId : Uuid) (code : String) (rows columns : ℕ) : List ShelfCell :=
  (List.range' 1 rows).flatMap fun r => (List.range' 1 columns).map fun c =>
    { shelfId, cellCode := cellCode code r c, rowNumber := r, colNumber := c }

def createShelfWithCells (db : Db) (tenantId : Uuid) (name code : String) (zone : Option String)
    (rows columns : ℕ) : Outcome Db := do
  Outcome.reject (db.tenants.get? tenantId).isNone (.database "P2003")
  let cells := cellsToCreate db.warehouseShelves.next code rows columns
  pure { db with
    warehouseShelves := db.warehouseShelves.insert { tenantId, name, code, zone }
    shelfCells := cells.foldl Table.insert db.shelfCells }

def createShelf (toUpperCase : String → String) (db : Db) (tenantId : Uuid)
    (dto : CreateShelfDto) : Outcome Db := do
  let code := toUpperCase (jsTrim dto.code)
  Outcome.reject
    (db.warehouseShelves.find? fun s => s.tenantId = tenantId ∧ s.code = code).isSome
    (.badRequest ("'" ++ code ++ "' kodlu raf ünitesi zaten mevcut."))
  createShelfWithCells db tenantId (jsTrim dto.name) code (firstText [dto.zone.map jsTrim])
    dto.rows dto.columns

end CreateShelf

section Products

structure CreateProductDto where
  name : String
  oemCode : String
  barcode : Option String
  category : Option String
  brand : String
  stockQuantity : ℤ
  minStockLevel : Option ℤ
  shelfLocation : Option String
  purchasePrice : ℚ
  salePrice : ℚ
  kdvRate : Option ℚ
  aisle : Option String
  rack : Option String
  tier : Option String
  bin : Option String
  shelfCellId : Option Uuid
  deriving DecidableEq, Repr

structure ProductLocation where
  shelfCellId : Option Uuid
  shelfId : Option Uuid
  shelfLocation : String
  aisle : Option String
  rack : Option String
  tier : Option String
  bin : Option String
  deriving DecidableEq, Repr

/-- The location of a new product: its cell's, where the cell is found, and else the one that
the request gives. Prisma does not store a product without a `shelfLocation`. -/
def CreateProductDto.location (dto : CreateProductDto) (cell : Option CellAndShelf) :
    Outcome ProductLocation :=
  match cell with
  | some (cell, shelf) =>
    pure
      { shelfCellId := dto.shelfCellId
        shelfId := some cell.shelfId
        shelfLocation := cell.cellCode
        aisle := firstText [shelf.zone, some shelf.name] <|> dto.aisle
        rack := firstText [some shelf.code] <|> dto.rack
        tier := some (floorText cell)
        bin := some (binText cell) }
  | none => do
    let shelfLocation ← Outcome.required dto.shelfLocation (.database "validation")
    pure { shelfCellId := dto.shelfCellId, shelfId := none, shelfLocation, aisle := dto.aisle,
           rack := dto.rack, tier := dto.tier, bin := dto.bin }

/-- `create` of the inventory repository, for the entity that the use case builds. -/
def createStockItem (toUpperCase : String → String) (s : Session) (db : Db)
    (dto : CreateProductDto) : Outcome Db := do
  let location ← dto.location (dto.shelfCellId.bind (s.cellAndShelf? db))
  let oemCode := jsTrim (toUpperCase dto.oemCode)
  Outcome.reject (db.tenants.get? s.tenantId).isNone (.database "P2003")
  Outcome.reject (db.products.find? fun p => p.tenantId = s.tenantId ∧ p.oemCode = oemCode).isSome
    (.database "P2002")
  Outcome.reject (dto.shelfCellId.any fun cellId => (db.shelfCells.get? cellId).isNone)
    (.database "P2003")
  let stockQuantity ← int4 dto.stockQuantity
  let minStockLevel ← int4 (dto.minStockLevel.getD 5)
  let purchasePrice ← numeric 10 dto.purchasePrice
  let salePrice ← numeric 10 dto.salePrice
  let kdvRate ← numeric 4 (dto.kdvRate.getD 20)
  let created : Product :=
    { tenantId := s.tenantId, name := dto.name, oemCode, barcode := dto.barcode,
      category := (firstText [dto.category]).getD "GENERAL", brand := dto.brand, stockQuantity,
      minStockLevel, shelfLocation := location.shelfLocation, purchasePrice, salePrice, kdvRate,
      deletedAt := none, shelfId := location.shelfId, shelfCellId := location.shelfCellId,
      aisle := location.aisle, rack := location.rack, tier := location.tier, bin := location.bin }
  let stored := { db with products := db.products.insert created }
  if 0 < stockQuantity then
    addStockMovement stored
      { tenantId := s.tenantId, productId := db.products.next, movementType := .inPurchase,
        quantity := stockQuantity, referenceId := none }
  else pure stored

/-- `findById` of the inventory repository. -/
def Session.findStockItem (toUpperCase : String → String) (s : Session) (db : Db) (id : Uuid) :
    Option StockItemEntity :=
  (db.liveProduct? s.tenantId id).map fun p =>
    mapToEntity toUpperCase id p (p.shelfCellId.bind (s.cellAndShelf? db))

/-- `save` of the inventory repository. -/
def Session.saveStockItem (s : Session) (db : Db) (item : StockItemEntity) : Outcome Db := do
  let existing ← savedProduct db item
  saveProduct db item
    (resolveShelf existing item ((item.shelfCellId.getD none).bind (s.cellAndShelf? db)))

def updateStockItem (toUpperCase : String → String) (s : Session) (db : Db) (id : Uuid)
    (dto : UpdateProductDto) : Outcome Db := do
  let existing ← Outcome.required (s.findStockItem toUpperCase db id)
    (.notFound "Güncellenmek istenen parça bulunamadı.")
  s.saveStockItem db (dto.apply existing)

/-- The stock that a movement changes is saved before the movement is recorded. -/
def moveStock (toUpperCase : String → String) (s : Session) (db : Db) (productId : Uuid)
    (input : AddStockMovementInput) : Outcome Db := do
  let item ← Outcome.required (s.findStockItem toUpperCase db productId)
    (.notFound "Parça / Ürün bulunamadı.")
  let item ← input.apply item
  s.saveStockItem db item

def recordMovement (s : Session) (db : Db) (productId : Uuid) (input : AddStockMovementInput) :
    Outcome Db := do
  let movement := input.movement s.tenantId productId
  let _ ← movementProduct db movement
  addStockMovement db movement

def Product.delete (now : Instant) (p : Product) : Product :=
  { p with deletedAt := some now, shelfCellId := none }

def deleteStockItem (s : Session) (db : Db) (id : Uuid) (now : Instant) : Outcome Db := do
  let _ ← Outcome.required (db.liveProduct? s.tenantId id)
    (.notFound "Silinmek istenen parça bulunamadı.")
  pure { db with products := db.products.modify id (Product.delete now) }

end Products

section Assignment

def ProductLocation.unassigned (shelfLocation : String) : ProductLocation where
  shelfCellId := none
  shelfId := none
  shelfLocation := shelfLocation
  aisle := none
  rack := none
  tier := none
  bin := none

def ProductLocation.ofCell (cellId : Uuid) (c : CellAndShelf) : ProductLocation where
  shelfCellId := some cellId
  shelfId := some c.1.shelfId
  shelfLocation := c.1.cellCode
  aisle := some ((firstText [c.2.zone]).getD c.2.name)
  rack := some c.2.code
  tier := some (floorText c.1)
  bin := some (binText c.1)

def Product.place (location : ProductLocation) (p : Product) : Product :=
  { p with
    shelfCellId := location.shelfCellId, shelfId := location.shelfId,
    shelfLocation := location.shelfLocation, aisle := location.aisle, rack := location.rack,
    tier := location.tier, bin := location.bin }

def assignProductToCell (s : Session) (db : Db) (productId : Uuid) (shelfCellId : Option Uuid) :
    Outcome Db := do
  let _ ← Outcome.required (db.liveProduct? s.tenantId productId) (.notFound "Ürün bulunamadı.")
  match shelfCellId with
  | none =>
    pure { db with
      products := db.products.modify productId (Product.place (.unassigned "")) }
  | some cellId => do
    let c ← Outcome.required
      ((s.cellAndShelf? db cellId).filter fun c => c.2.tenantId = s.tenantId)
      (.badRequest "Seçilen raf hücresi bulunamadı veya bu işletmeye ait değil.")
    pure { db with
      products := db.products.modify productId (Product.place (.ofCell cellId c)) }

/-- Only a super admin's list of products is not cut down to those of the tenant. -/
def updateManyProductLocations (s : Session) (db : Db) (productIds : List Uuid)
    (location : ProductLocation) : Db :=
  { db with
    products := db.products.modifyIf
      (fun id p => productIds.contains id && (s.superAdmin || p.tenantId = s.tenantId))
      (Product.place location) }

def ShelfCell.before (c d : ShelfCell) : Bool :=
  c.rowNumber < d.rowNumber || (c.rowNumber = d.rowNumber && c.colNumber ≤ d.colNumber)

def findFirstCellOfShelf (s : Session) (db : Db) (shelfId : Uuid) : Option (Uuid × CellAndShelf) :=
  let cells := db.shelfCells.filter fun c => c.shelfId = shelfId
  (cells.mergeSort fun c d => c.2.before d.2).findSome? fun c =>
    (s.cellAndShelf? db c.1).map fun found => (c.1, found)

def findShelfById (db : Db) (tenantId shelfId : Uuid) : Option WarehouseShelf :=
  (db.warehouseShelves.get? shelfId).filter fun s => s.tenantId = tenantId

def bulkAssignProductCell (s : Session) (db : Db) (productIds : List Uuid)
    (shelfCellId targetShelfId : Option Uuid) : Outcome Db :=
  if productIds.isEmpty then pure db
  else match shelfCellId, targetShelfId with
  | none, none => pure (updateManyProductLocations s db productIds (.unassigned "Depo"))
  | some cellId, _ => do
    let c ← Outcome.required (s.cellAndShelf? db cellId)
      (.notFound "Hedef raf hücresi bulunamadı.")
    pure (updateManyProductLocations s db productIds (.ofCell cellId c))
  | none, some shelfId => do
    let _ ← Outcome.required (findShelfById db s.tenantId shelfId) (.notFound "Hedef raf bulunamadı.")
    match findFirstCellOfShelf s db shelfId with
    | some (cellId, c) => pure (updateManyProductLocations s db productIds (.ofCell cellId c))
    | none => pure db

end Assignment

section DeleteShelf

def assignedProducts (s : Session) (db : Db) (shelfId : Uuid) : List (Uuid × Product) :=
  db.products.filter fun p =>
    p.deletedAt = none && s.sees p.tenantId &&
      p.shelfCellId.any fun cellId => (db.shelfCells.get? cellId).any fun c => c.shelfId = shelfId

/-- `shelf_cell_id` is set to null when the cell goes. -/
def Product.leaveCell (p : Product) : Product := { p with shelfCellId := none }

def Db.withoutShelf (db : Db) (shelfId : Uuid) : Db :=
  { db with
    warehouseShelves := db.warehouseShelves.erase shelfId
    shelfCells := db.shelfCells.eraseIf fun c => c.shelfId = shelfId
    products := db.products.modifyIf
      (fun _ p => p.shelfCellId.any fun cellId =>
        (db.shelfCells.get? cellId).any fun c => c.shelfId = shelfId)
      Product.leaveCell }

def deleteShelf (s : Session) (db : Db) (shelfId : Uuid) : Outcome Db := do
  let _ ← Outcome.required (findShelfById db s.tenantId shelfId) (.notFound "Raf bulunamadı.")
  let total := (assignedProducts s db shelfId).length
  Outcome.reject (0 < total)
    (.badRequest ("Bu rafta halihazırda " ++ toString total ++
      " adet atanmış parça var. Önce parçaların raf atamasını kaldırınız."))
  pure (db.withoutShelf shelfId)

end DeleteShelf

section Warehouse

inductive WarehouseRequest where
  | createShelf (dto : CreateShelfDto)
  | createStockItem (dto : CreateProductDto)
  | updateStockItem (id : Uuid) (dto : UpdateProductDto)
  | addStockMovement (productId : Uuid) (input : AddStockMovementInput)
  | assignProductToCell (productId : Uuid) (shelfCellId : Option Uuid)
  | bulkAssignProductCell (productIds : List Uuid) (shelfCellId targetShelfId : Option Uuid)
  | deleteStockItem (id : Uuid) (now : Instant)
  | deleteShelf (shelfId : Uuid)

/-- What is committed: a request that fails leaves the database alone. -/
def Db.commit (db : Db) (written : Outcome Db) : Db := written.toOption.getD db

/-- The movement of a stock that has been saved may still fail to be recorded. -/
def Db.serveMovement (toUpperCase : String → String) (db : Db) (s : Session) (productId : Uuid)
    (input : AddStockMovementInput) : Db :=
  match moveStock toUpperCase s db productId input with
  | .error _ => db
  | .ok saved => saved.commit (recordMovement s saved productId input)

def Db.serve (toUpperCase : String → String) (db : Db) (call : Session × WarehouseRequest) : Db :=
  let s := call.1
  match call.2 with
  | .createShelf dto => db.commit (createShelf toUpperCase db s.tenantId dto)
  | .createStockItem dto => db.commit (createStockItem toUpperCase s db dto)
  | .updateStockItem id dto => db.commit (updateStockItem toUpperCase s db id dto)
  | .addStockMovement productId input => db.serveMovement toUpperCase s productId input
  | .assignProductToCell productId cellId => db.commit (assignProductToCell s db productId cellId)
  | .bulkAssignProductCell productIds cellId shelfId =>
    db.commit (bulkAssignProductCell s db productIds cellId shelfId)
  | .deleteStockItem id now => db.commit (deleteStockItem s db id now)
  | .deleteShelf shelfId => db.commit (deleteShelf s db shelfId)

end Warehouse

end WorksAuto
