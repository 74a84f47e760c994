import WorksAuto.Tenants.References
import WorksAuto.Workshop.Effects

/-! What a write does to the references between tenants.
A reference belongs to a tenant when its id has been given out to the tenant; this outlives the
row. `Advances` is what every write of the program does: rows keep their tenants, and where all
references belonged to the tenants of their rows they still do. -/

namespace WorksAuto

open Lib

section Belonging

variable {db db' db'' : Db} {t t' : Uuid} {x : Reference}

def Db.Belongs (db : Db) (t : Uuid) : Reference → Prop
  | (.customer, id) => db.customers.Belongs Customer.tenantId t id
  | (.vehicle, id) => db.vehicles.Belongs Vehicle.tenantId t id
  | (.mechanic, id) => db.mechanics.Belongs Mechanic.tenantId t id
  | (.service, id) => db.services.Belongs Service.tenantId t id
  | (.appointment, id) => db.appointments.Belongs Appointment.tenantId t id
  | (.workOrder, id) => db.workOrders.Belongs WorkOrder.tenantId t id
  | (.invoice, id) => db.invoices.Belongs Invoice.tenantId t id
  | (.shelfCell, id) => ∃ shelfId, db.shelfCells.Belongs ShelfCell.shelfId shelfId id ∧
      db.warehouseShelves.Belongs WarehouseShelf.tenantId t shelfId

theorem Db.belongs_of_owner (h : db.owner? x = some t) : db.Belongs t x := by
  obtain ⟨target, id⟩ := x
  cases target with
  | shelfCell =>
    obtain ⟨c, hc, rfl⟩ := Option.map_eq_some_iff.mp h
    obtain ⟨hcell, hshelf⟩ := cellAndShelf?_eq_some.mp hc
    exact ⟨c.1.shelfId, Table.belongs_of_get? hcell _, Table.belongs_of_get? hshelf _⟩
  | _ =>
    obtain ⟨r, hr, rfl⟩ := Option.map_eq_some_iff.mp h
    exact Table.belongs_of_get? hr _

theorem Db.Belongs.owner (h : db.Belongs t x) (ho : db.owner? x = some t') : t' = t := by
  obtain ⟨target, id⟩ := x
  cases target with
  | shelfCell =>
    obtain ⟨c, hc, rfl⟩ := Option.map_eq_some_iff.mp ho
    obtain ⟨hcell, hshelf⟩ := cellAndShelf?_eq_some.mp hc
    obtain ⟨shelfId, hid, howner⟩ := h
    obtain rfl := hid.2 _ hcell
    exact howner.2 _ hshelf
  | _ =>
    obtain ⟨r, hr, rfl⟩ := Option.map_eq_some_iff.mp ho
    exact h.2 r hr

structure Db.Grows (db db' : Db) : Prop where
  customers : Table.Keeps Customer.tenantId db.customers db'.customers
  vehicles : Table.Keeps Vehicle.tenantId db.vehicles db'.vehicles
  mechanics : Table.Keeps Mechanic.tenantId db.mechanics db'.mechanics
  services : Table.Keeps Service.tenantId db.services db'.services
  appointments : Table.Keeps Appointment.tenantId db.appointments db'.appointments
  workOrders : Table.Keeps WorkOrder.tenantId db.workOrders db'.workOrders
  invoices : Table.Keeps Invoice.tenantId db.invoices db'.invoices
  products : Table.Keeps Product.tenantId db.products db'.products
  shelfCells : Table.Keeps ShelfCell.shelfId db.shelfCells db'.shelfCells
  warehouseShelves :
    Table.Keeps WarehouseShelf.tenantId db.warehouseShelves db'.warehouseShelves

theorem Db.Grows.refl (db : Db) : db.Grows db :=
  ⟨.refl .., .refl .., .refl .., .refl .., .refl .., .refl .., .refl .., .refl .., .refl ..,
    .refl ..⟩

theorem Db.Grows.trans (h : db.Grows db') (h' : db'.Grows db'') : db.Grows db'' where
  customers := h.customers.trans h'.customers
  vehicles := h.vehicles.trans h'.vehicles
  mechanics := h.mechanics.trans h'.mechanics
  services := h.services.trans h'.services
  appointments := h.appointments.trans h'.appointments
  workOrders := h.workOrders.trans h'.workOrders
  invoices := h.invoices.trans h'.invoices
  products := h.products.trans h'.products
  shelfCells := h.shelfCells.trans h'.shelfCells
  warehouseShelves := h.warehouseShelves.trans h'.warehouseShelves

theorem Db.Belongs.mono (hg : db.Grows db') (h : db.Belongs t x) : db'.Belongs t x := by
  obtain ⟨target, id⟩ := x
  cases target with
  | customer => exact Table.Belongs.mono hg.customers h
  | vehicle => exact Table.Belongs.mono hg.vehicles h
  | mechanic => exact Table.Belongs.mono hg.mechanics h
  | service => exact Table.Belongs.mono hg.services h
  | appointment => exact Table.Belongs.mono hg.appointments h
  | workOrder => exact Table.Belongs.mono hg.workOrders h
  | invoice => exact Table.Belongs.mono hg.invoices h
  | shelfCell =>
    obtain ⟨shelfId, hid, howner⟩ := h
    exact ⟨shelfId, hid.mono hg.shelfCells, howner.mono hg.warehouseShelves⟩

end Belonging

section Local

variable {db db' db'' : Db} {R R' : Uuid → Reference → Prop}

theorem Db.EachReference.mono (h : ∀ t x, R t x → R' t x) (hdb : db.EachReference R) :
    db.EachReference R' where
  products := hdb.products.mono fun _ hr x hx => h _ x (hr x hx)
  appointments := hdb.appointments.mono fun _ hr x hx => h _ x (hr x hx)
  workOrders := hdb.workOrders.mono fun _ hr x hx => h _ x (hr x hx)
  invoices := hdb.invoices.mono fun _ hr x hx => h _ x (hr x hx)
  payments := hdb.payments.mono fun _ hr x hx => h _ x (hr x hx)

theorem Db.EachReference.and (h : db.EachReference R) (h' : db.EachReference R') :
    db.EachReference fun t x => R t x ∧ R' t x where
  products := fun k r hr x hx => ⟨h.products k r hr x hx, h'.products k r hr x hx⟩
  appointments := fun k r hr x hx => ⟨h.appointments k r hr x hx, h'.appointments k r hr x hx⟩
  workOrders := fun k r hr x hx => ⟨h.workOrders k r hr x hx, h'.workOrders k r hr x hx⟩
  invoices := fun k r hr x hx => ⟨h.invoices k r hr x hx, h'.invoices k r hr x hx⟩
  payments := fun k r hr x hx => ⟨h.payments k r hr x hx, h'.payments k r hr x hx⟩

abbrev Db.Local (db : Db) : Prop := db.EachReference db.Belongs

theorem Db.Owned.isLocal (h : db.Owned) : db.Local := h.mono fun _ _ => belongs_of_owner

theorem Db.Owned.referential (h : db.Owned) : db.Referential :=
  h.mono fun _ _ ho => Option.isSome_of_eq_some ho

theorem Db.Local.owned (h : db.Local) (href : db.Referential) : db.Owned := by
  refine (h.and href).mono fun t x hx => ?_
  obtain ⟨t', ho⟩ := Option.isSome_iff_exists.mp hx.2
  rw [ho, hx.1.owner ho]

def Db.Holds (db : Db) (t : Uuid) (refs : List Reference) : Prop := ∀ x ∈ refs, db.Belongs t x

theorem Db.Holds.mono {t : Uuid} {refs : List Reference} (hg : db.Grows db')
    (h : db.Holds t refs) : db'.Holds t refs := fun x hx => (h x hx).mono hg

structure Db.Advances (db db' : Db) : Prop where
  grows : db.Grows db'
  keeps : db.Local → db'.Local

theorem Db.Advances.refl (db : Db) : db.Advances db := ⟨.refl db, id⟩

theorem Db.Advances.trans (h : db.Advances db') (h' : db'.Advances db'') : db.Advances db'' :=
  ⟨h.grows.trans h'.grows, fun hdb => h'.keeps (h.keeps hdb)⟩

abbrev Db.referring (db : Db) :=
  (db.customers, db.vehicles, db.mechanics, db.services, db.shelfCells, db.warehouseShelves,
    db.appointments, db.workOrders, db.invoices, db.products, db.payments)

end Local

section Writes

variable {db db' : Db}

theorem Db.Advances.of_holders (hg : db.Grows db')
    (h : db.Local → db'.EachReference db.Belongs) : db.Advances db' :=
  ⟨hg, fun hdb => (h hdb).mono fun _ _ => Belongs.mono hg⟩

theorem Db.Advances.of_eq (h : db'.referring = db.referring) : db.Advances db' := by
  simp only [referring, Prod.mk.injEq] at h
  obtain ⟨hc, hv, hm, hs, hcells, hshelves, ha, hwo, hinv, hp, hpay⟩ := h
  refine .of_holders ?_ fun hdb => ?_
  · constructor
    · rw [hc]; exact .refl ..
    · rw [hv]; exact .refl ..
    · rw [hm]; exact .refl ..
    · rw [hs]; exact .refl ..
    · rw [ha]; exact .refl ..
    · rw [hwo]; exact .refl ..
    · rw [hinv]; exact .refl ..
    · rw [hp]; exact .refl ..
    · rw [hcells]; exact .refl ..
    · rw [hshelves]; exact .refl ..
  · constructor
    · rw [hp]; exact hdb.products
    · rw [ha]; exact hdb.appointments
    · rw [hwo]; exact hdb.workOrders
    · rw [hinv]; exact hdb.invoices
    · rw [hpay]; exact hdb.payments

section Named

/-! Tables that hold no reference. -/

theorem Db.Advances.customers {t : Table Customer}
    (h : Table.Keeps Customer.tenantId db.customers t) : db.Advances { db with customers := t } :=
  .of_holders { Grows.refl db with customers := h } fun hdb => ⟨hdb.1, hdb.2, hdb.3, hdb.4, hdb.5⟩

theorem Db.Advances.vehicles {t : Table Vehicle}
    (h : Table.Keeps Vehicle.tenantId db.vehicles t) : db.Advances { db with vehicles := t } :=
  .of_holders { Grows.refl db with vehicles := h } fun hdb => ⟨hdb.1, hdb.2, hdb.3, hdb.4, hdb.5⟩

theorem Db.Advances.mechanics {t : Table Mechanic}
    (h : Table.Keeps Mechanic.tenantId db.mechanics t) : db.Advances { db with mechanics := t } :=
  .of_holders { Grows.refl db with mechanics := h } fun hdb => ⟨hdb.1, hdb.2, hdb.3, hdb.4, hdb.5⟩

theorem Db.Advances.services {t : Table Service}
    (h : Table.Keeps Service.tenantId db.services t) : db.Advances { db with services := t } :=
  .of_holders { Grows.refl db with services := h } fun hdb => ⟨hdb.1, hdb.2, hdb.3, hdb.4, hdb.5⟩

theorem Db.Advances.shelves {cells : Table ShelfCell} {shelves : Table WarehouseShelf}
    (hcells : Table.Keeps ShelfCell.shelfId db.shelfCells cells)
    (hshelves : Table.Keeps WarehouseShelf.tenantId db.warehouseShelves shelves) :
    db.Advances { db with shelfCells := cells, warehouseShelves := shelves } :=
  .of_holders { Grows.refl db with shelfCells := hcells, warehouseShelves := hshelves }
    fun hdb => ⟨hdb.1, hdb.2, hdb.3, hdb.4, hdb.5⟩

end Named

section Holders

/-! Tables whose rows hold references: those of the new rows have to belong to their tenants. -/

theorem Db.Advances.products {t : Table Product}
    (hkeeps : Table.Keeps Product.tenantId db.products t)
    (h : db.Local → t.All fun p => db.Holds p.tenantId p.references) :
    db.Advances { db with products := t } :=
  .of_holders { Grows.refl db with products := hkeeps } fun hdb =>
    ⟨h hdb, hdb.2, hdb.3, hdb.4, hdb.5⟩

theorem Db.Advances.appointments {t : Table Appointment}
    (hkeeps : Table.Keeps Appointment.tenantId db.appointments t)
    (h : db.Local → t.All fun a => db.Holds a.tenantId a.references) :
    db.Advances { db with appointments := t } :=
  .of_holders { Grows.refl db with appointments := hkeeps } fun hdb =>
    ⟨hdb.1, h hdb, hdb.3, hdb.4, hdb.5⟩

theorem Db.Advances.workOrders {t : Table WorkOrder}
    (hkeeps : Table.Keeps WorkOrder.tenantId db.workOrders t)
    (h : db.Local → t.All fun wo => db.Holds wo.tenantId wo.references) :
    db.Advances { db with workOrders := t } :=
  .of_holders { Grows.refl db with workOrders := hkeeps } fun hdb =>
    ⟨hdb.1, hdb.2, h hdb, hdb.4, hdb.5⟩

theorem Db.Advances.invoices {t : Table Invoice}
    (hkeeps : Table.Keeps Invoice.tenantId db.invoices t)
    (h : db.Local → t.All fun inv => db.Holds inv.tenantId inv.references) :
    db.Advances { db with invoices := t } :=
  .of_holders { Grows.refl db with invoices := hkeeps } fun hdb =>
    ⟨hdb.1, hdb.2, hdb.3, h hdb, hdb.5⟩

theorem Db.Advances.payments {t : Table Payment}
    (h : db.Local → t.All fun p => db.Holds p.tenantId p.references) :
    db.Advances { db with payments := t } :=
  .of_holders { Grows.refl db with } fun hdb => ⟨hdb.1, hdb.2, hdb.3, hdb.4, h hdb⟩

section Modify

/-! Changes of rows whose references belong to their tenants afterwards. -/

theorem Db.Advances.modifyProducts {f : Product → Product} {c : Uuid → Product → Bool}
    (h : ∀ k p, db.products.get? k = some p → c k p = true → (f p).tenantId = p.tenantId ∧
      (db.Holds p.tenantId p.references → db.Holds p.tenantId (f p).references)) :
    db.Advances { db with products := db.products.modifyIf c f } := by
  refine .products (Table.keeps_modifyIf fun k p hp hc => (h k p hp hc).1) fun hdb => ?_
  refine hdb.products.modifyIf fun k p hp hc hrefs => ?_
  obtain ⟨ht, hholds⟩ := h k p hp hc
  rw [ht]
  exact hholds hrefs

theorem Db.Advances.modifyAppointments {f : Appointment → Appointment}
    {c : Uuid → Appointment → Bool}
    (h : ∀ k a, db.appointments.get? k = some a → c k a = true → (f a).tenantId = a.tenantId ∧
      (db.Holds a.tenantId a.references → db.Holds a.tenantId (f a).references)) :
    db.Advances { db with appointments := db.appointments.modifyIf c f } := by
  refine .appointments (Table.keeps_modifyIf fun k a ha hc => (h k a ha hc).1) fun hdb => ?_
  refine hdb.appointments.modifyIf fun k a ha hc hrefs => ?_
  obtain ⟨ht, hholds⟩ := h k a ha hc
  rw [ht]
  exact hholds hrefs

theorem Db.Advances.modifyOrders {f : WorkOrder → WorkOrder} {c : Uuid → WorkOrder → Bool}
    (h : ∀ k wo, db.workOrders.get? k = some wo → c k wo = true → (f wo).tenantId = wo.tenantId ∧
      (db.Holds wo.tenantId wo.references → db.Holds wo.tenantId (f wo).references)) :
    db.Advances { db with workOrders := db.workOrders.modifyIf c f } := by
  refine .workOrders (Table.keeps_modifyIf fun k wo hwo hc => (h k wo hwo hc).1) fun hdb => ?_
  refine hdb.workOrders.modifyIf fun k wo hwo hc hrefs => ?_
  obtain ⟨ht, hholds⟩ := h k wo hwo hc
  rw [ht]
  exact hholds hrefs

theorem Db.Advances.modifyOrder {f : WorkOrder → WorkOrder} (id : Uuid)
    (h : ∀ wo, (f wo).tenantId = wo.tenantId ∧ (f wo).references = wo.references) :
    db.Advances { db with workOrders := db.workOrders.modify id f } :=
  .modifyOrders fun _ wo _ _ => ⟨(h wo).1, fun hrefs => (h wo).2 ▸ hrefs⟩

theorem Db.Advances.modifyInvoices {f : Invoice → Invoice} {c : Uuid → Invoice → Bool}
    (h : ∀ k inv, db.invoices.get? k = some inv → c k inv = true →
      (f inv).tenantId = inv.tenantId ∧
        (db.Holds inv.tenantId inv.references → db.Holds inv.tenantId (f inv).references)) :
    db.Advances { db with invoices := db.invoices.modifyIf c f } := by
  refine .invoices (Table.keeps_modifyIf fun k inv hinv hc => (h k inv hinv hc).1) fun hdb => ?_
  refine hdb.invoices.modifyIf fun k inv hinv hc hrefs => ?_
  obtain ⟨ht, hholds⟩ := h k inv hinv hc
  rw [ht]
  exact hholds hrefs

end Modify

end Holders

end Writes

end WorksAuto
