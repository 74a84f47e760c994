import WorksAuto.Store

/-! The inventory repository and the entity its use cases compute on.
`save` writes every column of the entity, the stock among them, from what was
read when the request began; the two atomic operations change the stock by an
amount. -/

namespace WorksAuto

open Lib

/-- A field of an entity that may be `undefined`, and otherwise holds a value or `null`. -/
abbrev Field (α : Type) := Option (Option α)

structure StockItemEntity where
  id : Uuid
  tenantId : Uuid
  name : String
  oemCode : String
  barcode : Field String
  category : String
  brand : String
  stockQuantity : ℤ
  minStockLevel : ℤ
  shelfLocation : String
  purchasePrice : ℚ
  salePrice : ℚ
  kdvRate : ℚ
  aisle : Field String
  rack : Field String
  tier : Field String
  bin : Field String
  shelfCellId : Field Uuid
  deriving DecidableEq, Repr

abbrev CellAndShelf := ShelfCell × WarehouseShelf

def Db.cellAndShelf? (db : Db) (cellId : Uuid) : Option CellAndShelf := do
  let cell ← db.shelfCells.get? cellId
  let shelf ← db.warehouseShelves.get? cell.shelfId
  pure (cell, shelf)

def floorText (cell : ShelfCell) : String := "Kat " ++ toString cell.rowNumber

def binText (cell : ShelfCell) : String := "Göz " ++ toString cell.colNumber

/-- What `mapToEntity` makes of a column that falls back to the shelf cell. -/
def columnOr (column fromCell : Option String) : Field String :=
  (column.orElse fun _ => fromCell).map some

/-- `toUpperCase` is the case mapping of the runtime. -/
def mapToEntity (toUpperCase : String → String) (id : Uuid) (data : Product)
    (shelfCell : Option CellAndShelf) : StockItemEntity where
  id := id
  tenantId := data.tenantId
  name := data.name
  oemCode := jsTrim (toUpperCase data.oemCode)
  barcode := data.barcode.map some
  category := if data.category = "" then "GENERAL" else data.category
  brand := data.brand
  stockQuantity := data.stockQuantity
  minStockLevel := data.minStockLevel
  shelfLocation := data.shelfLocation
  purchasePrice := toNumber data.purchasePrice
  salePrice := toNumber data.salePrice
  kdvRate := toNumber data.kdvRate
  aisle := columnOr data.aisle (shelfCell.map fun c => c.2.zone.getD c.2.name)
  rack := columnOr data.rack (shelfCell.map fun c => c.2.code)
  tier := columnOr data.tier (shelfCell.map fun c => floorText c.1)
  bin := columnOr data.bin (shelfCell.map fun c => binText c.1)
  shelfCellId := data.shelfCellId.map some

def Db.liveProduct? (db : Db) (tenantId id : Uuid) : Option Product :=
  (db.product? tenantId id).filter fun p => p.deletedAt = none

/-- `findById` of the inventory repository. -/
def findStockItem (toUpperCase : String → String) (db : Db) (tenantId id : Uuid) :
    Option StockItemEntity :=
  (db.liveProduct? tenantId id).map fun p =>
    mapToEntity toUpperCase id p (p.shelfCellId.bind db.cellAndShelf?)

namespace StockItemEntity

def canDecrement (item : StockItemEntity) (qty : ℤ) : Bool := 0 < qty ∧ qty ≤ item.stockQuantity

def decrement (item : StockItemEntity) (qty : ℤ) : Outcome StockItemEntity := do
  Outcome.reject (qty ≤ 0) (.plain "Düşülecek miktar 0 dan büyük olmalıdır.")
  Outcome.reject (!item.canDecrement qty)
    (.plain ("Yetersiz stok! Mevcut stok: " ++ toString item.stockQuantity ++ ", istenen: " ++
      toString qty))
  pure { item with stockQuantity := item.stockQuantity - qty }

def increment (item : StockItemEntity) (qty : ℤ) : Outcome StockItemEntity := do
  Outcome.reject (qty ≤ 0) (.plain "Eklenecek miktar 0 dan büyük olmalıdır.")
  pure { item with stockQuantity := item.stockQuantity + qty }

end StockItemEntity

section Save

/-- Where `save` puts the product: the entity's own fields, or those of its cell. -/
structure ResolvedShelf where
  shelfId : Option Uuid
  shelfLocation : String
  aisle : Field String
  rack : Field String
  tier : Field String
  bin : Field String
  deriving DecidableEq, Repr

/-- The first read of `save`. -/
def savedProduct (db : Db) (item : StockItemEntity) : Outcome Product :=
  Outcome.required (db.liveProduct? item.tenantId item.id)
    (.badRequest "Ürün bulunamadı veya bu işletmeye ait değil.")

def resolveShelf (existing : Product) (item : StockItemEntity) (cell : Option CellAndShelf) :
    ResolvedShelf :=
  match cell with
  | some (cell, shelf) =>
    { shelfId := some cell.shelfId
      shelfLocation := cell.cellCode
      aisle := ((firstText [shelf.zone, some shelf.name]).map some).orElse fun _ => item.aisle
      rack := ((firstText [some shelf.code]).map some).orElse fun _ => item.rack
      tier := some (some (floorText cell))
      bin := some (some (binText cell)) }
  | none =>
    { shelfId := if item.shelfCellId = some none then none else existing.shelfId
      shelfLocation := item.shelfLocation, aisle := item.aisle, rack := item.rack,
      tier := item.tier, bin := item.bin }

/-- The cell that `save` looks up. -/
def StockItemEntity.cell? (db : Db) (item : StockItemEntity) : Option CellAndShelf :=
  (item.shelfCellId.getD none).bind db.cellAndShelf?

/-- The write of `save`. -/
def saveProduct (db : Db) (item : StockItemEntity) (shelf : ResolvedShelf) : Outcome Db := do
  let _ ← Outcome.required (db.products.get? item.id) (.database "P2025")
  Outcome.reject
    ((db.products.filter fun p => p.tenantId = item.tenantId ∧ p.oemCode = item.oemCode).any
      fun p => p.1 ≠ item.id)
    (.database "P2002")
  Outcome.reject ((item.shelfCellId.getD none).any fun cellId => (db.shelfCells.get? cellId).isNone)
    (.database "P2003")
  let stockQuantity ← int4 item.stockQuantity
  let minStockLevel ← int4 item.minStockLevel
  let purchasePrice ← numeric 10 item.purchasePrice
  let salePrice ← numeric 10 item.salePrice
  let kdvRate ← numeric 4 item.kdvRate
  pure { db with
    products := db.products.modify item.id fun p =>
      { p with
        name := item.name, oemCode := item.oemCode, barcode := item.barcode.getD p.barcode,
        category := item.category, brand := item.brand, stockQuantity, minStockLevel,
        shelfLocation := shelf.shelfLocation, purchasePrice, salePrice, kdvRate,
        aisle := shelf.aisle.getD p.aisle, rack := shelf.rack.getD p.rack,
        tier := shelf.tier.getD p.tier, bin := shelf.bin.getD p.bin, shelfId := shelf.shelfId,
        shelfCellId := item.shelfCellId.getD p.shelfCellId } }

end Save

section Atomic

def decrementAtomic (db : Db) (tenantId productId : Uuid) (quantity : ℤ) (refId : String) :
    Outcome Db := do
  let (db, updated) ← decrementStock db tenantId productId quantity
  Outcome.reject (updated = 0)
    (.badRequest "Yetersiz stok! Talep edilen miktar mevcut stoktan fazladır.")
  addStockMovement db
    { tenantId, productId, movementType := .outWorkOrder, quantity, referenceId := some refId }

def incrementAtomic (db : Db) (tenantId productId : Uuid) (quantity : ℤ) (refId : String) :
    Outcome Db := do
  let _ ← Outcome.required (db.product? tenantId productId)
    (.badRequest "Ürün bulunamadı veya bu işletmeye ait değil.")
  let db ← incrementStock db productId quantity
  addStockMovement db
    { tenantId, productId, movementType := .return, quantity, referenceId := some refId }

/-- The read with which `addStockMovement` makes sure of its product. -/
def movementProduct (db : Db) (m : StockMovement) : Outcome Product :=
  Outcome.required (db.product? m.tenantId m.productId)
    (.badRequest "Ürün bulunamadı veya bu işletmeye ait değil.")

end Atomic

section UseCases

structure AddStockMovementInput where
  movementType : StockMovementType
  quantity : ℤ
  referenceId : Option String
  deriving DecidableEq, Repr

structure UpdateProductDto where
  name : Option String
  oemCode : Option String
  barcode : Field String
  category : Option String
  brand : Option String
  stockQuantity : Option ℤ
  minStockLevel : Option ℤ
  shelfLocation : Option String
  purchasePrice : Option ℚ
  salePrice : Option ℚ
  kdvRate : Option ℚ
  aisle : Field String
  rack : Field String
  tier : Field String
  bin : Field String
  shelfCellId : Field Uuid
  deriving DecidableEq, Repr

def AddStockMovementInput.movement (input : AddStockMovementInput) (tenantId productId : Uuid) :
    StockMovement where
  tenantId := tenantId
  productId := productId
  movementType := input.movementType
  quantity := input.quantity
  referenceId := input.referenceId.filter (· ≠ "")

def AddStockMovementInput.apply (input : AddStockMovementInput) (item : StockItemEntity) :
    Outcome StockItemEntity :=
  match input.movementType with
  | .outWorkOrder => do
    Outcome.reject (!item.canDecrement input.quantity)
      (.badRequest ("Yetersiz stok! Mevcut: " ++ toString item.stockQuantity ++
        ", Çıkış yapılmak istenen: " ++ toString input.quantity))
    item.decrement input.quantity
  | .inPurchase => item.increment input.quantity
  | .return => item.increment input.quantity
  | .adjustment => pure { item with stockQuantity := input.quantity }

theorem AddStockMovementInput.apply_eq {input : AddStockMovementInput} {item item' : StockItemEntity}
    (h : input.apply item = .ok item') : ∃ n, item' = { item with stockQuantity := n } := by
  unfold AddStockMovementInput.apply at h
  split at h
  · obtain ⟨u, -, h₁⟩ := Outcome.bind_eq_ok.mp h
    obtain ⟨v, -, h₂⟩ := Outcome.bind_eq_ok.mp h₁
    obtain ⟨w, -, h₃⟩ := Outcome.bind_eq_ok.mp h₂
    exact ⟨_, (Outcome.pure_eq_ok.mp h₃).symm⟩
  · obtain ⟨u, -, h₁⟩ := Outcome.bind_eq_ok.mp h
    exact ⟨_, (Outcome.pure_eq_ok.mp h₁).symm⟩
  · obtain ⟨u, -, h₁⟩ := Outcome.bind_eq_ok.mp h
    exact ⟨_, (Outcome.pure_eq_ok.mp h₁).symm⟩
  · exact ⟨_, (Outcome.pure_eq_ok.mp h).symm⟩

def UpdateProductDto.apply (dto : UpdateProductDto) (existing : StockItemEntity) :
    StockItemEntity :=
  { existing with
    name := dto.name.getD existing.name
    oemCode := dto.oemCode.getD existing.oemCode
    barcode := dto.barcode.orElse fun _ => existing.barcode
    category := dto.category.getD existing.category
    brand := dto.brand.getD existing.brand
    stockQuantity := dto.stockQuantity.getD existing.stockQuantity
    minStockLevel := dto.minStockLevel.getD existing.minStockLevel
    shelfLocation := dto.shelfLocation.getD existing.shelfLocation
    purchasePrice := dto.purchasePrice.getD existing.purchasePrice
    salePrice := dto.salePrice.getD existing.salePrice
    kdvRate := dto.kdvRate.getD existing.kdvRate
    shelfCellId := dto.shelfCellId.orElse fun _ => existing.shelfCellId
    aisle := dto.aisle.orElse fun _ => existing.aisle
    rack := dto.rack.orElse fun _ => existing.rack
    tier := dto.tier.orElse fun _ => existing.tier
    bin := dto.bin.orElse fun _ => existing.bin }

def loadForMovement (toUpperCase : String → String) (db : Db) (tenantId productId : Uuid)
    (input : AddStockMovementInput) : Outcome StockItemEntity := do
  let item ← Outcome.required (findStockItem toUpperCase db tenantId productId)
    (.notFound "Parça / Ürün bulunamadı.")
  input.apply item

def loadForUpdate (toUpperCase : String → String) (db : Db) (tenantId id : Uuid)
    (dto : UpdateProductDto) : Outcome StockItemEntity := do
  let existing ← Outcome.required (findStockItem toUpperCase db tenantId id)
    (.notFound "Güncellenmek istenen parça bulunamadı.")
  pure (dto.apply existing)

def checkDecrement (toUpperCase : String → String) (db : Db) (tenantId productId : Uuid)
    (quantity : ℤ) : Outcome Unit := do
  let item ← Outcome.required (findStockItem toUpperCase db tenantId productId)
    (.notFound "Ürün bulunamadı.")
  Outcome.reject (!item.canDecrement quantity)
    (.badRequest ("Yetersiz stok! Mevcut stok: " ++ toString item.stockQuantity ++
      ", istenen: " ++ toString quantity))

def checkIncrement (toUpperCase : String → String) (db : Db) (tenantId productId : Uuid)
    (quantity : ℤ) : Outcome Unit := do
  Outcome.reject (quantity ≤ 0) (.badRequest "Eklenecek miktar 0 dan büyük olmalıdır.")
  let _ ← Outcome.required (findStockItem toUpperCase db tenantId productId)
    (.notFound "Ürün bulunamadı.")
  pure ()

end UseCases

end WorksAuto
