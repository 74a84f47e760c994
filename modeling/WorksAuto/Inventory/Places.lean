import WorksAuto.Inventory.Shelves
import WorksAuto.Lib.Run

/-! Where the products lie.
The location columns of a product are those of its cell as long as whoever names a cell in the
request of a product sees it. -/

namespace WorksAuto

open Lib

section Statements

structure Product.LiesIn (p : Product) (c : CellAndShelf) : Prop where
  shelfId : p.shelfId = some c.1.shelfId
  shelfLocation : p.shelfLocation = c.1.cellCode
  rack : p.rack = some c.2.code
  tier : p.tier = some (floorText c.1)
  bin : p.bin = some (binText c.1)

/-- The cell of a product, where it has one, exists, and the product lies in it. -/
def Product.InPlace (p : Product) (db : Db) : Prop :=
  ∀ cellId, p.shelfCellId = some cellId → ∃ c, db.cellAndShelf? cellId = some c ∧ p.LiesIn c

/-- The products lie in their cells, and no two cells of a shelf have one code. -/
structure Db.Shelved (db : Db) : Prop where
  products : ∀ k p, db.products.get? k = some p → p.InPlace db
  codes : ∀ i j c d, db.shelfCells.get? i = some c → db.shelfCells.get? j = some d →
    c.shelfId = d.shelfId → c.cellCode = d.cellCode → i = j

def Db.CellsOnShelves (db : Db) : Prop :=
  ∀ k c, db.shelfCells.get? k = some c → ∃ shelf, db.warehouseShelves.get? c.shelfId = some shelf

structure FitsProduct (stockQuantity minStockLevel : ℤ) (purchasePrice salePrice kdvRate : ℚ) :
    Prop where
  stockQuantity : -2 ^ 31 ≤ stockQuantity ∧ stockQuantity < 2 ^ 31
  minStockLevel : -2 ^ 31 ≤ minStockLevel ∧ minStockLevel < 2 ^ 31
  purchasePrice : |roundAway (purchasePrice * 100)| < 10 ^ 10
  salePrice : |roundAway (salePrice * 100)| < 10 ^ 10
  kdvRate : |roundAway (kdvRate * 100)| < 10 ^ 4

/-- A new product of the tenant is stored when its code is new and its amounts fit. -/
def CreateProductDto.Fits (dto : CreateProductDto) (toUpperCase : String → String) (db : Db)
    (tenantId : Uuid) : Prop :=
  (db.tenants.get? tenantId).isSome = true ∧
    (∀ k p, db.products.get? k = some p → p.tenantId = tenantId →
      p.oemCode ≠ jsTrim (toUpperCase dto.oemCode)) ∧
    FitsProduct dto.stockQuantity (dto.minStockLevel.getD 5) dto.purchasePrice dto.salePrice
      (dto.kdvRate.getD 20)

/-- A product is stored when no other product of its tenant has its code and its amounts fit. -/
def StockItemEntity.Fits (item : StockItemEntity) (db : Db) : Prop :=
  (∀ k p, db.products.get? k = some p → p.tenantId = item.tenantId → p.oemCode = item.oemCode →
      k = item.id) ∧
    FitsProduct item.stockQuantity item.minStockLevel item.purchasePrice item.salePrice
      item.kdvRate

/-- A new product names a cell that is seen, on a shelf with a code or with the empty rack of its
own; naming a cell that is not seen, it is not stored for want of a location. -/
def CreateProductDto.Keeps (dto : CreateProductDto) (toUpperCase : String → String) (s : Session)
    (db : Db) : Prop :=
  ∀ cellId ∈ dto.shelfCellId, ∀ c ∈ db.cellAndShelf? cellId,
    dto.Fits toUpperCase db s.tenantId →
      if s.sees c.2.tenantId then c.2.code = "" → dto.rack = some ""
      else dto.shelfLocation = none

/-- An edit leaves a product in a cell that is seen, with no rack of its own where the shelf has
no code; or what it says of the location is so. -/
def UpdateProductDto.Keeps (dto : UpdateProductDto) (toUpperCase : String → String) (s : Session)
    (db : Db) (id : Uuid) : Prop :=
  ∀ p ∈ db.liveProduct? s.tenantId id, ∀ cellId ∈ dto.shelfCellId.getD p.shelfCellId,
    ∀ c ∈ db.cellAndShelf? cellId, (dto.apply (mapToEntity toUpperCase id p none)).Fits db →
      if s.sees c.2.tenantId then c.2.code = "" → dto.rack.getD p.rack = some ""
      else p.shelfId = some c.1.shelfId ∧
        dto.shelfLocation.getD p.shelfLocation = c.1.cellCode ∧
        dto.rack.getD p.rack = some c.2.code ∧ dto.tier.getD p.tier = some (floorText c.1) ∧
        dto.bin.getD p.bin = some (binText c.1)

def Db.KeepsPlaces (toUpperCase : String → String) (db : Db) (call : Session × WarehouseRequest) :
    Prop :=
  match call.2 with
  | .createStockItem dto => dto.Keeps toUpperCase call.1 db
  | .updateStockItem id dto => dto.Keeps toUpperCase call.1 db id
  | _ => True

end Statements

section Codes

theorem cellCode_inj {code : String} {r r' c c' : ℕ} (h : cellCode code r c = cellCode code r' c') :
    r = r' ∧ c = c' := by
  have hdash : '-'.isDigit = false := by decide
  have hmark : "-G".toList = ['-', 'G'] := by decide
  have hlist := congrArg String.toList h
  simp only [cellCode, String.toList_append, List.append_assoc, List.append_cancel_left_eq, hmark,
    List.cons_append, List.nil_append] at hlist
  have hrest : '-' ∉ 'G' :: (Nat.repr c).toList := by
    rw [List.mem_cons]
    exact not_or.mpr ⟨by decide, notMem_repr hdash c⟩
  obtain ⟨hrow, -, hcol⟩ :=
    (List.append_cons_inj_of_notMem (notMem_repr hdash r) hrest).mp hlist
  obtain ⟨-, hcol⟩ := List.cons.inj hcol
  exact ⟨repr_injective (String.toList_inj.mp hrow), repr_injective (String.toList_inj.mp hcol)⟩

theorem mem_cellsToCreate {shelfId : Uuid} {code : String} {rows columns : ℕ} {cell : ShelfCell} :
    cell ∈ cellsToCreate shelfId code rows columns ↔ ∃ r c, r ∈ List.range' 1 rows ∧
      c ∈ List.range' 1 columns ∧
        cell = { shelfId, cellCode := cellCode code r c, rowNumber := r, colNumber := c } := by
  simp only [cellsToCreate, List.mem_flatMap, List.mem_map]
  constructor
  · rintro ⟨r, hr, c, hc, rfl⟩
    exact ⟨r, c, hr, hc, rfl⟩
  · rintro ⟨r, c, hr, hc, rfl⟩
    exact ⟨r, hr, c, hc, rfl⟩

theorem cellsToCreate_nodup (shelfId : Uuid) (code : String) (rows columns : ℕ) :
    ((cellsToCreate shelfId code rows columns).map ShelfCell.cellCode).Nodup := by
  rw [cellsToCreate, List.map_flatMap]
  refine List.nodup_flatMap.mpr ⟨fun r _ => ?_, ?_⟩
  · rw [List.map_map]
    exact List.Nodup.map (fun c c' h => (cellCode_inj h).2) List.nodup_range'
  · have hrows : (List.range' 1 rows).Nodup := List.nodup_range'
    refine hrows.imp fun {r r'} hne => ?_
    intro x hx hx'
    obtain ⟨cell, hcell, rfl⟩ := List.mem_map.mp hx
    obtain ⟨cell', hcell', heq⟩ := List.mem_map.mp hx'
    obtain ⟨c, -, rfl⟩ := List.mem_map.mp hcell
    obtain ⟨c', -, rfl⟩ := List.mem_map.mp hcell'
    exact hne (cellCode_inj heq).1.symm

end Codes

section Cells

variable {db db' : Db}

theorem cellAndShelf?_isSome (hcells : db.CellsOnShelves) {cellId : Uuid} {cell : ShelfCell}
    (hcell : db.shelfCells.get? cellId = some cell) :
    ∃ shelf, db.cellAndShelf? cellId = some (cell, shelf) := by
  obtain ⟨shelf, hshelf⟩ := hcells cellId cell hcell
  exact ⟨shelf, WorksAuto.cellAndShelf?_eq_some.mpr ⟨hcell, hshelf⟩⟩

theorem Product.InPlace.mono {p : Product} (h : p.InPlace db)
    (hcell : ∀ cellId c, db.cellAndShelf? cellId = some c → db'.cellAndShelf? cellId = some c) :
    p.InPlace db' := by
  intro cellId hcellId
  obtain ⟨c, hc, hlies⟩ := h cellId hcellId
  exact ⟨c, hcell cellId c hc, hlies⟩

theorem shelved_of_products (h : db.Shelved) {products : Table Product}
    (hproducts : ∀ k p, products.get? k = some p → p.InPlace db) :
    Db.Shelved { db with products } :=
  ⟨hproducts, h.codes⟩

theorem shelved_insert_iff (h : db.Shelved) (p : Product) :
    Db.Shelved { db with products := db.products.insert p } ↔ p.InPlace db := by
  constructor
  · intro hall
    exact hall.products db.products.next p (Table.get?_insert_self _ p)
  · intro hp
    refine shelved_of_products h fun k q hq => ?_
    rw [Table.get?_insert] at hq
    split_ifs at hq with hk
    · obtain rfl := Option.some.inj hq
      exact hp
    · exact h.products k q hq

theorem shelved_modify_iff (h : db.Shelved) {id : Uuid} {p : Product}
    (hp : db.products.get? id = some p) (f : Product → Product) :
    Db.Shelved { db with products := db.products.modify id f } ↔ (f p).InPlace db := by
  constructor
  · intro hall
    exact hall.products id (f p) (Table.get?_modify_self hp f)
  · intro hf
    refine shelved_of_products h fun k q hq => ?_
    obtain ⟨old, hold, rfl⟩ := Table.of_get?_modify hq
    split_ifs with hk
    · subst hk
      obtain rfl := Option.some.inj (hp.symm.trans hold)
      exact hf
    · exact h.products k old hold

theorem shelved_modifyIf (h : db.Shelved) {c : Uuid → Product → Bool} {f : Product → Product}
    (hf : ∀ p, (f p).InPlace db) :
    Db.Shelved { db with products := db.products.modifyIf c f } := by
  refine shelved_of_products h fun k q hq => ?_
  obtain ⟨old, hold, rfl⟩ := Table.of_get?_modifyIf hq
  split_ifs
  · exact hf old
  · exact h.products k old hold

end Cells

section Shelves

variable {db db' : Db} {shelf : WarehouseShelf} {rows columns : ℕ}

def Db.withShelf (db : Db) (shelf : WarehouseShelf) (rows columns : ℕ) : Db :=
  { db with
    warehouseShelves := db.warehouseShelves.insert shelf
    shelfCells := (cellsToCreate db.warehouseShelves.next shelf.code rows columns).foldl
      Table.insert db.shelfCells }

theorem createShelf_ok {toUpperCase : String → String} {tenantId : Uuid} {dto : CreateShelfDto}
    (h : createShelf toUpperCase db tenantId dto = .ok db') :
    ∃ shelf rows columns, db' = db.withShelf shelf rows columns := by
  obtain ⟨_, -, h⟩ := Outcome.bind_eq_ok.mp h
  obtain ⟨_, -, h⟩ := Outcome.bind_eq_ok.mp h
  exact ⟨_, _, _, (Outcome.pure_eq_ok.mp h).symm⟩

theorem cellAndShelf?_withShelf {cellId : Uuid} {c : CellAndShelf}
    (h : db.cellAndShelf? cellId = some c) :
    (db.withShelf shelf rows columns).cellAndShelf? cellId = some c := by
  obtain ⟨hcell, hshelf⟩ := cellAndShelf?_eq_some.mp h
  refine cellAndShelf?_eq_some.mpr ⟨?_, Table.get?_insert_of_some hshelf shelf⟩
  rw [Db.withShelf, Table.get?_foldl_insert_eq, hcell, Option.some_or]

theorem cell_withShelf {k : Uuid} {cell : ShelfCell}
    (h : (db.withShelf shelf rows columns).shelfCells.get? k = some cell) :
    db.shelfCells.get? k = some cell ∨ cell.shelfId = db.warehouseShelves.next ∧
      db.shelfCells.next ≤ k ∧
        (cellsToCreate db.warehouseShelves.next shelf.code rows columns)[k - db.shelfCells.next]? =
          some cell := by
  rw [Db.withShelf, Table.get?_foldl_insert_eq, Option.or_eq_some_iff] at h
  rcases h with h | ⟨-, h⟩
  · exact .inl h
  · split_ifs at h with hk
    obtain ⟨r, c, -, -, rfl⟩ := mem_cellsToCreate.mp (List.mem_of_getElem? h)
    exact .inr ⟨rfl, hk, h⟩

theorem cellsOnShelves_withShelf (hcells : db.CellsOnShelves) :
    (db.withShelf shelf rows columns).CellsOnShelves := by
  intro k cell hcell
  rcases cell_withShelf hcell with hold | ⟨hnew, -⟩
  · obtain ⟨s, hs⟩ := hcells k cell hold
    exact ⟨s, Table.get?_insert_of_some hs shelf⟩
  · exact ⟨shelf, by rw [hnew]; exact Table.get?_insert_self _ shelf⟩

theorem shelved_withShelf (h : db.Shelved) (hcells : db.CellsOnShelves) :
    (db.withShelf shelf rows columns).Shelved := by
  refine ⟨fun k p hp => (h.products k p hp).mono fun _ _ => cellAndShelf?_withShelf, ?_⟩
  intro i j c d hc hd hshelf hcode
  have hfresh : ∀ k cell, db.shelfCells.get? k = some cell →
      cell.shelfId ≠ db.warehouseShelves.next := by
    intro k cell hcell hnext
    obtain ⟨s, hs⟩ := hcells k cell hcell
    rw [hnext, Table.get?_next] at hs
    cases hs
  rcases cell_withShelf hc with hc | ⟨hcnew, hci, hcget⟩
  · rcases cell_withShelf hd with hd | ⟨hdnew, -⟩
    · exact h.codes i j c d hc hd hshelf hcode
    · exact absurd (hshelf.trans hdnew) (hfresh i c hc)
  · rcases cell_withShelf hd with hd | ⟨-, hdj, hdget⟩
    · exact absurd (hshelf.symm.trans hcnew) (hfresh j d hd)
    · have hnodup := cellsToCreate_nodup db.warehouseShelves.next shelf.code rows columns
      have hci' : (cellsToCreate db.warehouseShelves.next shelf.code rows columns
          |>.map ShelfCell.cellCode)[i - db.shelfCells.next]? = some c.cellCode := by
        rw [List.getElem?_map, hcget]
        rfl
      have hdj' : (cellsToCreate db.warehouseShelves.next shelf.code rows columns
          |>.map ShelfCell.cellCode)[j - db.shelfCells.next]? = some c.cellCode := by
        rw [List.getElem?_map, hdget, hcode]
        rfl
      obtain ⟨hlt, -⟩ := List.getElem?_eq_some_iff.mp hci'
      have hindex := (List.getElem?_inj hlt hnodup).mp (hci'.trans hdj'.symm)
      omega

theorem cellAndShelf?_withoutShelf {shelfId cellId : Uuid} {c : CellAndShelf}
    (h : db.cellAndShelf? cellId = some c) (hne : c.1.shelfId ≠ shelfId) :
    (db.withoutShelf shelfId).cellAndShelf? cellId = some c := by
  obtain ⟨hcell, hshelf⟩ := cellAndShelf?_eq_some.mp h
  refine cellAndShelf?_eq_some.mpr ⟨Table.get?_eraseIf.mpr ⟨hcell, decide_eq_false hne⟩, ?_⟩
  rw [Db.withoutShelf, Table.get?_erase, if_neg hne, hshelf]

theorem cellsOnShelves_withoutShelf (hcells : db.CellsOnShelves) (shelfId : Uuid) :
    (db.withoutShelf shelfId).CellsOnShelves := by
  intro k cell hcell
  obtain ⟨hold, hne⟩ := Table.get?_eraseIf.mp hcell
  obtain ⟨s, hs⟩ := hcells k cell hold
  refine ⟨s, ?_⟩
  rw [Db.withoutShelf, Table.get?_erase, if_neg (of_decide_eq_false hne), hs]

theorem shelved_withoutShelf (h : db.Shelved) (shelfId : Uuid) :
    (db.withoutShelf shelfId).Shelved := by
  constructor
  · intro k p hp cellId hcellId
    obtain ⟨old, hold, heq⟩ := Table.of_get?_modifyIf hp
    split_ifs at heq with hgone
    · subst heq
      cases hcellId
    · subst heq
      obtain ⟨c, hc, hlies⟩ := h.products k old hold cellId hcellId
      refine ⟨c, cellAndShelf?_withoutShelf hc fun hshelf => hgone ?_, hlies⟩
      rw [hcellId, Option.any_some, (cellAndShelf?_eq_some.mp hc).1, Option.any_some]
      exact decide_eq_true hshelf
  · intro i j c d hc hd
    exact h.codes i j c d (Table.get?_eraseIf.mp hc).1 (Table.get?_eraseIf.mp hd).1

end Shelves

section Writes

variable {db db' : Db} {s : Session} {toUpperCase : String → String}

theorem rack_eq_iff {code : String} {rack : Option String} :
    (firstText [some code] <|> rack) = some code ↔ (code = "" → rack = some "") := by
  by_cases h : code = ""
  · subst h
    exact ⟨fun hrack _ => hrack, fun hrack => hrack rfl⟩
  · have hfirst : firstText [some code] = some code := by simp [firstText, h]
    rw [hfirst]
    exact iff_of_true rfl fun hcode => absurd hcode h

theorem inPlace_ofCell {cellId : Uuid} {c : CellAndShelf} (hc : db.cellAndShelf? cellId = some c)
    (p : Product) : (p.place (.ofCell cellId c)).InPlace db := by
  intro k hk
  obtain rfl := Option.some.inj hk
  exact ⟨c, hc, rfl, rfl, rfl, rfl, rfl⟩

theorem inPlace_of_none {p : Product} (h : p.shelfCellId = none) : p.InPlace db := by
  intro cellId hcellId
  rw [h] at hcellId
  cases hcellId

theorem fitsProduct_iff {stockQuantity minStockLevel : ℤ} {purchasePrice salePrice kdvRate : ℚ} :
    FitsProduct stockQuantity minStockLevel purchasePrice salePrice kdvRate ↔
      (∃ n, int4 stockQuantity = .ok n) ∧ (∃ n, int4 minStockLevel = .ok n) ∧
        (∃ n, numeric 10 purchasePrice = .ok n) ∧ (∃ n, numeric 10 salePrice = .ok n) ∧
          ∃ n, numeric 4 kdvRate = .ok n := by
  simp only [int4_eq_ok, numeric_eq_ok]
  constructor
  · intro h
    exact ⟨⟨_, rfl, h.stockQuantity⟩, ⟨_, rfl, h.minStockLevel⟩, ⟨_, rfl, h.purchasePrice⟩,
      ⟨_, rfl, h.salePrice⟩, ⟨_, rfl, h.kdvRate⟩⟩
  · rintro ⟨⟨_, rfl, h₁⟩, ⟨_, rfl, h₂⟩, ⟨_, rfl, h₃⟩, ⟨_, rfl, h₄⟩, ⟨_, rfl, h₅⟩⟩
    exact ⟨h₁, h₂, h₃, h₄, h₅⟩

theorem exists_bind_ok {α β : Type} {x : Outcome α} {f : α → Outcome β} {a : α} (hx : x = .ok a)
    (h : ∃ b, f a = .ok b) : ∃ b, (x >>= f) = .ok b := by
  obtain ⟨b, hb⟩ := h
  exact ⟨b, Outcome.bind_eq_ok.mpr ⟨a, hx, hb⟩⟩

theorem exists_reject {α : Type} {c : Bool} {e : ApiError} {f : Unit → Outcome α}
    (hc : c = false) (h : ∃ b, f () = .ok b) : ∃ b, (Outcome.reject c e >>= f) = .ok b :=
  exists_bind_ok (Outcome.reject_eq_ok.mpr hc) h

theorem unknownCell_eq_false {cellId? : Option Uuid} :
    (cellId?.any fun cellId => (db.shelfCells.get? cellId).isNone) = false ↔
      ∀ cellId ∈ cellId?, (db.shelfCells.get? cellId).isSome = true := by
  cases cellId? with
  | none => simp
  | some cellId => simp

theorem createStockItem_ok {dto : CreateProductDto}
    (h : createStockItem toUpperCase s db dto = .ok db') :
    ∃ location created movements,
      dto.location (dto.shelfCellId.bind (s.cellAndShelf? db)) = .ok location ∧
        dto.Fits toUpperCase db s.tenantId ∧
          (∀ cellId ∈ dto.shelfCellId, (db.shelfCells.get? cellId).isSome = true) ∧
            created.tenantId = s.tenantId ∧ created.place location = created ∧
              (movements = db.stockMovements ∨ ∃ m, movements = db.stockMovements.insert m) ∧
                db' = { db with
                  products := db.products.insert created, stockMovements := movements } := by
  obtain ⟨location, hlocation, h⟩ := Outcome.bind_eq_ok.mp h
  obtain ⟨_, htenant, h⟩ := Outcome.bind_eq_ok.mp h
  obtain ⟨_, hcode, h⟩ := Outcome.bind_eq_ok.mp h
  obtain ⟨_, hcell, h⟩ := Outcome.bind_eq_ok.mp h
  obtain ⟨stock, hstock, h⟩ := Outcome.bind_eq_ok.mp h
  obtain ⟨level, hlevel, h⟩ := Outcome.bind_eq_ok.mp h
  obtain ⟨purchase, hpurchase, h⟩ := Outcome.bind_eq_ok.mp h
  obtain ⟨sale, hsale, h⟩ := Outcome.bind_eq_ok.mp h
  obtain ⟨kdv, hkdv, h⟩ := Outcome.bind_eq_ok.mp h
  have hfits : dto.Fits toUpperCase db s.tenantId := by
    refine ⟨?_, ?_, fitsProduct_iff.mpr
      ⟨⟨stock, hstock⟩, ⟨level, hlevel⟩, ⟨purchase, hpurchase⟩, ⟨sale, hsale⟩, ⟨kdv, hkdv⟩⟩⟩
    · simpa using Outcome.reject_eq_ok.mp htenant
    · intro k p hp htenant hsame
      have hnone := Outcome.reject_eq_ok.mp hcode
      rw [Table.find?_isSome hp (by simp [htenant, hsame])] at hnone
      cases hnone
  have hcells := unknownCell_eq_false.mp (Outcome.reject_eq_ok.mp hcell)
  change (if 0 < stock then _ else _) = _ at h
  split_ifs at h with hpos
  · obtain ⟨_, -, h⟩ := Outcome.bind_eq_ok.mp h
    exact ⟨location, _, _, hlocation, hfits, hcells, rfl, rfl, .inr ⟨_, rfl⟩,
      (Outcome.pure_eq_ok.mp h).symm⟩
  · exact ⟨location, _, _, hlocation, hfits, hcells, rfl, rfl, .inl rfl,
      (Outcome.pure_eq_ok.mp h).symm⟩

theorem createStockItem_isOk {dto : CreateProductDto} {location : ProductLocation}
    (hlocation : dto.location (dto.shelfCellId.bind (s.cellAndShelf? db)) = .ok location)
    (hfits : dto.Fits toUpperCase db s.tenantId)
    (hcells : ∀ cellId ∈ dto.shelfCellId, (db.shelfCells.get? cellId).isSome = true) :
    ∃ db', createStockItem toUpperCase s db dto = .ok db' := by
  obtain ⟨htenant, hcode, hamounts⟩ := hfits
  obtain ⟨⟨stock, hstock⟩, ⟨level, hlevel⟩, ⟨purchase, hpurchase⟩, ⟨sale, hsale⟩, ⟨kdv, hkdv⟩⟩ :=
    fitsProduct_iff.mp hamounts
  have hunused : (db.products.find? fun p =>
      p.tenantId = s.tenantId ∧ p.oemCode = jsTrim (toUpperCase dto.oemCode)).isSome = false := by
    rw [Option.isSome_eq_false_iff, Option.isNone_iff_eq_none]
    cases hfound : db.products.find? fun p =>
        p.tenantId = s.tenantId ∧ p.oemCode = jsTrim (toUpperCase dto.oemCode) with
    | none => rfl
    | some found =>
      obtain ⟨hget, hsame⟩ := Table.find?_some hfound
      obtain ⟨htenant, hsame⟩ := of_decide_eq_true hsame
      exact absurd hsame (hcode found.1 found.2 hget htenant)
  have htenant' : (db.tenants.get? s.tenantId).isNone = false := by
    rw [← Option.not_isSome, htenant]
    rfl
  refine exists_bind_ok hlocation (exists_reject htenant' (exists_reject hunused
    (exists_reject (unknownCell_eq_false.mpr hcells) (exists_bind_ok hstock (exists_bind_ok hlevel
      (exists_bind_ok hpurchase (exists_bind_ok hsale (exists_bind_ok hkdv ?_))))))))
  obtain ⟨rfl, hrange⟩ := int4_eq_ok.mp hstock
  change ∃ b, (if 0 < dto.stockQuantity then _ else _) = _
  split_ifs
  · exact exists_bind_ok hstock ⟨_, rfl⟩
  · exact ⟨_, rfl⟩

theorem location_shelfCellId {dto : CreateProductDto} {cell : Option CellAndShelf}
    {location : ProductLocation} (h : dto.location cell = .ok location) :
    location.shelfCellId = dto.shelfCellId := by
  cases cell with
  | some c =>
    obtain rfl := Outcome.pure_eq_ok.mp h
    rfl
  | none =>
    obtain ⟨_, -, h⟩ := Outcome.bind_eq_ok.mp h
    obtain rfl := Outcome.pure_eq_ok.mp h
    rfl

theorem shelfCellId_of_placed {dto : CreateProductDto} {cell : Option CellAndShelf}
    {location : ProductLocation} {created : Product} (h : dto.location cell = .ok location)
    (hcreated : created.place location = created) : created.shelfCellId = dto.shelfCellId := by
  rw [← location_shelfCellId h, ← hcreated]
  rfl

theorem location_refused {dto : CreateProductDto} {cell : Option CellAndShelf}
    (h : ∀ location, dto.location cell ≠ .ok location) : cell = none ∧ dto.shelfLocation = none := by
  cases cell with
  | some c => exact absurd rfl (h _)
  | none =>
    cases hlocation : dto.shelfLocation with
    | none => exact ⟨rfl, rfl⟩
    | some shelfLocation =>
      have hstored : ∃ location, dto.location none = .ok location :=
        exists_bind_ok (Outcome.required_eq_ok.mpr hlocation) ⟨_, rfl⟩
      obtain ⟨location, hstored⟩ := hstored
      exact absurd hstored (h location)

theorem location_liesIn_iff {dto : CreateProductDto} {location : ProductLocation} {cellId : Uuid}
    {c : CellAndShelf} {created : Product} (hcellId : dto.shelfCellId = some cellId)
    (hc : db.cellAndShelf? cellId = some c)
    (hlocation : dto.location (dto.shelfCellId.bind (s.cellAndShelf? db)) = .ok location)
    (hcreated : created.place location = created) :
    created.LiesIn c ↔ if s.sees c.2.tenantId then c.2.code = "" → dto.rack = some ""
      else dto.shelfLocation = none := by
  rw [hcellId, Option.bind_some] at hlocation
  rw [← hcreated]
  cases hsees : s.sees c.2.tenantId with
  | true =>
    rw [Session.cellAndShelf?_eq_some.mpr ⟨hc, hsees⟩] at hlocation
    obtain rfl := Outcome.pure_eq_ok.mp hlocation
    rw [if_pos rfl, ← rack_eq_iff]
    exact ⟨fun hlies => hlies.rack, fun hrack => ⟨rfl, rfl, hrack, rfl, rfl⟩⟩
  | false =>
    have hhidden : s.cellAndShelf? db cellId = none := by
      rw [Session.cellAndShelf?, hc]
      simp [hsees]
    rw [hhidden] at hlocation
    obtain ⟨shelfLocation, hsome, hlocation⟩ := Outcome.bind_eq_ok.mp hlocation
    obtain rfl := Outcome.pure_eq_ok.mp hlocation
    rw [if_neg Bool.false_ne_true, Outcome.required_eq_ok.mp hsome]
    refine iff_of_false (fun hlies => ?_) (Option.some_ne_none _)
    have hshelf := hlies.shelfId
    cases hshelf

/-- The location columns that `save` leaves a product with. -/
def savedLocation (p : Product) (item : StockItemEntity) (shelf : ResolvedShelf) :
    ProductLocation where
  shelfCellId := item.shelfCellId.getD p.shelfCellId
  shelfId := shelf.shelfId
  shelfLocation := shelf.shelfLocation
  aisle := shelf.aisle.getD p.aisle
  rack := shelf.rack.getD p.rack
  tier := shelf.tier.getD p.tier
  bin := shelf.bin.getD p.bin

theorem liveProduct?_row {tenantId id : Uuid} {p : Product}
    (h : db.liveProduct? tenantId id = some p) :
    db.products.get? id = some p ∧ p.tenantId = tenantId := by
  obtain ⟨hrow, -⟩ := Option.filter_eq_some_iff.mp h
  exact Db.product?_eq_some.mp hrow

theorem saveStockItem_ok {item : StockItemEntity} {p : Product}
    (hp : db.liveProduct? item.tenantId item.id = some p)
    (h : s.saveStockItem db item = .ok db') :
    item.Fits db ∧
      (∀ cellId ∈ item.shelfCellId.getD none, (db.shelfCells.get? cellId).isSome = true) ∧
        ∃ f : Product → Product,
          (f p).place (savedLocation p item
            (resolveShelf p item ((item.shelfCellId.getD none).bind (s.cellAndShelf? db)))) = f p ∧
          db' = { db with products := db.products.modify item.id f } := by
  obtain ⟨existing, hexisting, h⟩ := Outcome.bind_eq_ok.mp h
  obtain rfl := Option.some.inj (hp.symm.trans (Outcome.required_eq_ok.mp hexisting))
  obtain ⟨_, -, h⟩ := Outcome.bind_eq_ok.mp h
  obtain ⟨_, hcode, h⟩ := Outcome.bind_eq_ok.mp h
  obtain ⟨_, hcell, h⟩ := Outcome.bind_eq_ok.mp h
  obtain ⟨stock, hstock, h⟩ := Outcome.bind_eq_ok.mp h
  obtain ⟨level, hlevel, h⟩ := Outcome.bind_eq_ok.mp h
  obtain ⟨purchase, hpurchase, h⟩ := Outcome.bind_eq_ok.mp h
  obtain ⟨sale, hsale, h⟩ := Outcome.bind_eq_ok.mp h
  obtain ⟨kdv, hkdv, h⟩ := Outcome.bind_eq_ok.mp h
  refine ⟨⟨?_, fitsProduct_iff.mpr
    ⟨⟨stock, hstock⟩, ⟨level, hlevel⟩, ⟨purchase, hpurchase⟩, ⟨sale, hsale⟩, ⟨kdv, hkdv⟩⟩⟩,
      unknownCell_eq_false.mp (Outcome.reject_eq_ok.mp hcell), _, rfl,
        (Outcome.pure_eq_ok.mp h).symm⟩
  intro k q hq htenant hsame
  by_contra hne
  have hnone := Outcome.reject_eq_ok.mp hcode
  rw [List.any_eq_false] at hnone
  exact hnone (k, q) (Table.mem_filter_iff.mpr ⟨hq, by simp [htenant, hsame]⟩) (by simpa using hne)

theorem saveStockItem_isOk {item : StockItemEntity} {p : Product}
    (hp : db.liveProduct? item.tenantId item.id = some p) (hfits : item.Fits db)
    (hcells : ∀ cellId ∈ item.shelfCellId.getD none, (db.shelfCells.get? cellId).isSome = true) :
    ∃ db', s.saveStockItem db item = .ok db' := by
  obtain ⟨hcode, hamounts⟩ := hfits
  obtain ⟨⟨stock, hstock⟩, ⟨level, hlevel⟩, ⟨purchase, hpurchase⟩, ⟨sale, hsale⟩, ⟨kdv, hkdv⟩⟩ :=
    fitsProduct_iff.mp hamounts
  have hrow : db.products.get? item.id = some p := (liveProduct?_row hp).1
  have hunused : ((db.products.filter fun q =>
      q.tenantId = item.tenantId ∧ q.oemCode = item.oemCode).any fun q => q.1 ≠ item.id) = false := by
    rw [List.any_eq_false]
    rintro ⟨k, q⟩ hq
    obtain ⟨hget, hsame⟩ := Table.mem_filter_iff.mp hq
    obtain ⟨htenant, hsame⟩ := of_decide_eq_true hsame
    simpa using hcode k q hget htenant hsame
  exact exists_bind_ok (Outcome.required_eq_ok.mpr hp)
    (exists_bind_ok (Outcome.required_eq_ok.mpr hrow) (exists_reject hunused
      (exists_reject (unknownCell_eq_false.mpr hcells) (exists_bind_ok hstock
        (exists_bind_ok hlevel (exists_bind_ok hpurchase (exists_bind_ok hsale
          (exists_bind_ok hkdv ⟨_, rfl⟩))))))))

/-- A product is saved at the location of its cell precisely when the cell is seen, or what the
entity says of the location is so. -/
theorem saved_liesIn_iff {item : StockItemEntity} {p q : Product} {cellId : Uuid}
    {c : CellAndShelf} (hcellId : item.shelfCellId = some (some cellId))
    (hc : db.cellAndShelf? cellId = some c)
    (hq : q.place (savedLocation p item
      (resolveShelf p item ((item.shelfCellId.getD none).bind (s.cellAndShelf? db)))) = q) :
    q.LiesIn c ↔ if s.sees c.2.tenantId then c.2.code = "" → item.rack.getD p.rack = some ""
      else p.shelfId = some c.1.shelfId ∧ item.shelfLocation = c.1.cellCode ∧
        item.rack.getD p.rack = some c.2.code ∧ item.tier.getD p.tier = some (floorText c.1) ∧
        item.bin.getD p.bin = some (binText c.1) := by
  rw [hcellId, Option.getD_some, Option.bind_some] at hq
  rw [← hq]
  cases hsees : s.sees c.2.tenantId with
  | true =>
    rw [Session.cellAndShelf?_eq_some.mpr ⟨hc, hsees⟩, if_pos rfl]
    have hrack : (((firstText [some c.2.code]).map some).orElse fun _ => item.rack).getD p.rack =
        some c.2.code ↔ (c.2.code = "" → item.rack.getD p.rack = some "") := by
      by_cases hcode : c.2.code = ""
      · rw [hcode]
        exact ⟨fun hrack _ => hrack, fun hrack => hrack rfl⟩
      · have hfirst : firstText [some c.2.code] = some c.2.code := by simp [firstText, hcode]
        rw [hfirst]
        exact iff_of_true rfl fun hempty => absurd hempty hcode
    rw [← hrack]
    exact ⟨fun hlies => hlies.rack, fun hrack => ⟨rfl, rfl, hrack, rfl, rfl⟩⟩
  | false =>
    have hhidden : s.cellAndShelf? db cellId = none := by
      rw [Session.cellAndShelf?, hc]
      simp [hsees]
    rw [hhidden, if_neg Bool.false_ne_true]
    have hshelf : (resolveShelf p item none).shelfId = p.shelfId := by
      rw [resolveShelf, hcellId]
      rfl
    constructor
    · intro hlies
      exact ⟨hshelf.symm.trans hlies.shelfId, hlies.shelfLocation, hlies.rack, hlies.tier,
        hlies.bin⟩
    · rintro ⟨hid, hlocation, hrack, htier, hbin⟩
      exact ⟨hshelf.trans hid, hlocation, hrack, htier, hbin⟩

end Writes

end WorksAuto
