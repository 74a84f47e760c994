import WorksAuto.Invoices.Transaction
import WorksAuto.Billing.Effects
import WorksAuto.Billing.System

/-! The rows that keep the lines of an invoice.
The totals come from the numbers of the request, the rows hold what their columns
make of them: a price in cents, a tax rate with two decimals and below 100. The
amounts of the rows always add up to the subtotal. The totals follow only as far
as the prices are rounded to the same cents by their column and by `Math.round`,
and the rates survive theirs. -/

namespace WorksAuto

open Lib

namespace InvoiceLine

def row (l : InvoiceLine) (invoiceId : Uuid) : InvoiceItem where
  invoiceId := invoiceId
  itemType := l.itemType.getD .service
  name := if l.name = "" then "Hizmet / Kalem" else l.name
  quantity := l.quantity.num
  unitPrice := roundAway (l.unitPrice * 100)
  kdvRate := roundAway (l.rate * 100)
  totalPrice := l.cents .double
  notes := l.notes.filter (· ≠ "")

def ofInvoiceItem (it : InvoiceItem) : InvoiceLine where
  itemType := some it.itemType
  name := it.name
  quantity := it.quantity
  unitPrice := toNumber it.unitPrice
  kdvRate := some (toNumber it.kdvRate)
  notes := it.notes

/-- Quantity, price and rate are within `integer`, `numeric(10,2)` and `numeric(4,2)`. -/
def InColumns (l : InvoiceLine) : Prop :=
  l.quantity < 2147483648 ∧ l.unitPrice < 99999999995 / 1000 ∧ l.rate < 99995 / 1000

instance (l : InvoiceLine) : Decidable l.InColumns := by
  unfold InColumns
  infer_instance

def columnCents (l : InvoiceLine) : ℤ := roundAway (l.unitPrice * 100) * l.quantity.num

/-- By how many cents the column's rounding of the price differs from `Math.round`'s. -/
def priceShift (l : InvoiceLine) : ℤ := l.columnCents - l.cents .double

/-- `Math.round((cents * rate) / 100)`. -/
def taxOn (cents : ℤ) (rate : ℚ) : ℤ :=
  round (Double.nearest (Double.nearest (cents * Double.nearest rate) / 100))

/-- By how many cents the columns of price and rate change the tax of a line. -/
def taxShift (l : InvoiceLine) : ℤ :=
  taxOn l.columnCents (toNumber (roundAway (l.rate * 100))) - taxOn (l.cents .double) l.rate

end InvoiceLine

def Db.invoiceItemsOf (db : Db) (invoiceId : Uuid) : List InvoiceItem :=
  (db.invoiceItems.filter fun it => it.invoiceId = invoiceId).map Prod.snd

def Db.InvoiceItemsLinked (db : Db) : Prop :=
  ∀ k it, db.invoiceItems.get? k = some it → ∃ inv, db.invoices.get? it.invoiceId = some inv

structure Db.SnapshotReproduces (db : Db) (id : Uuid) (inv : Invoice) : Prop where
  stored : db.invoices.get? id = some inv
  totals : calculateInvoiceTotals ((db.invoiceItemsOf id).map InvoiceLine.ofInvoiceItem) =
    .ok { subtotal := toNumber inv.subtotal, kdvAmount := toNumber inv.kdvAmount,
          grandTotal := toNumber inv.grandTotal }
  totalPrices : ((db.invoiceItemsOf id).map InvoiceItem.totalPrice).sum = inv.subtotal

/-- The transaction up to and including `tx.invoice.create`. -/
def createInvoiceRow (clock : Clock) (db : Db) (invoice : InvoiceEntity)
    (offsetAdvanceAmount : Option ℚ) : Outcome (Db × Uuid) := do
  let p ← prepareInvoice db invoice offsetAdvanceAmount
  let d ← drawNumber clock db invoice
  let (db, _, _) ← findOrCreateAccount db invoice.tenantId invoice.customerId
  let db := d.record db invoice.tenantId
  let row ← invoiceRow invoice p.totals p.advancePaid d.number d.gibNumber
  insertInvoice db row

section Line

variable {l : InvoiceLine}

theorem InvoiceLine.isValid_iff : l.isValid = true ↔
    l.quantity.den = 1 ∧ 1 ≤ l.quantity ∧ 0 ≤ l.unitPrice ∧ 0 ≤ l.rate ∧ l.rate ≤ 100 := by
  simp only [isValid, decide_eq_true_eq]

theorem InvoiceLine.num_of_isValid (h : l.isValid = true) : (l.quantity.num : ℚ) = l.quantity :=
  Rat.den_eq_one_iff _ |>.mp (isValid_iff.mp h).1

theorem roundAway_hundredths_lt {x : ℚ} (hx : 0 ≤ x) (n : ℕ) :
    |roundAway (x * 100)| < (n : ℤ) ↔ x < (n - 1 / 2) / 100 := by
  have hpos : (0 : ℚ) ≤ x * 100 := by positivity
  rw [abs_of_nonneg (roundAway_nonneg hpos), roundAway_of_nonneg hpos, round_eq, Int.floor_lt,
    lt_div_iff₀ (by norm_num)]
  push_cast
  constructor <;> intro h <;> linarith

/-- A valid line of an invoice whose subtotal has a column fits its own columns
precisely when its quantity, price and rate do. -/
theorem snapshotItem_ok_iff {db db' : Db} {id : Uuid} (hvalid : l.isValid = true)
    (hcents : l.cents .double < 10 ^ 12) :
    snapshotItem id db l = .ok db' ↔
      l.InColumns ∧ db' = { db with invoiceItems := db.invoiceItems.insert (l.row id) } := by
  obtain ⟨-, hq, hp, hr, -⟩ := InvoiceLine.isValid_iff.mp hvalid
  have hnum := InvoiceLine.num_of_isValid hvalid
  have hquantity : (-2 ^ 31 ≤ l.quantity.num ∧ l.quantity.num < 2 ^ 31) ↔
      l.quantity < 2147483648 := by
    have hone : (1 : ℚ) ≤ (l.quantity.num : ℚ) := hnum.symm ▸ hq
    have hlt : (l.quantity.num : ℚ) < 2147483648 ↔ l.quantity.num < 2 ^ 31 := by
      rw [show (2147483648 : ℚ) = ((2 ^ 31 : ℤ) : ℚ) by norm_num, Int.cast_lt]
    rw [hnum] at hlt
    rw [hlt]
    have : 1 ≤ l.quantity.num := by exact_mod_cast hone
    omega
  have hprice : |roundAway (l.unitPrice * 100)| < 10 ^ 10 ↔ l.unitPrice < 99999999995 / 1000 := by
    have h := roundAway_hundredths_lt hp (10 ^ 10)
    norm_num at h ⊢
    exact h
  have hrate : |roundAway (l.rate * 100)| < 10 ^ 4 ↔ l.rate < 99995 / 1000 := by
    have h := roundAway_hundredths_lt hr (10 ^ 4)
    norm_num at h ⊢
    exact h
  have htotal : |l.cents .double| < 10 ^ 12 := by
    rw [abs_of_nonneg (InvoiceLine.cents_nonneg hvalid)]
    exact hcents
  unfold InvoiceLine.InColumns
  rw [← hquantity, ← hprice, ← hrate]
  constructor
  · intro h
    obtain ⟨q, hq, h⟩ := Outcome.bind_eq_ok.mp h
    obtain ⟨p, hp, h⟩ := Outcome.bind_eq_ok.mp h
    obtain ⟨r, hr, h⟩ := Outcome.bind_eq_ok.mp h
    obtain ⟨t, ht, h⟩ := Outcome.bind_eq_ok.mp h
    obtain ⟨rfl, hint⟩ := int4_eq_ok.mp hq
    obtain ⟨rfl, hp⟩ := numeric_eq_ok.mp hp
    obtain ⟨rfl, hr⟩ := numeric_eq_ok.mp hr
    obtain ⟨rfl, -⟩ := numeric_eq_ok.mp ht
    refine ⟨⟨hint, hp, hr⟩, ?_⟩
    rw [← Outcome.pure_eq_ok.mp h]
    simp only [InvoiceLine.row, toNumber_mul, roundAway_intCast]
  · rintro ⟨⟨hq, hp, hr⟩, rfl⟩
    refine Outcome.bind_eq_ok.mpr ⟨_, int4_eq_ok.mpr ⟨rfl, hq⟩, ?_⟩
    refine Outcome.bind_eq_ok.mpr ⟨_, numeric_eq_ok.mpr ⟨rfl, hp⟩, ?_⟩
    refine Outcome.bind_eq_ok.mpr ⟨_, numeric_eq_ok.mpr ⟨rfl, hr⟩, ?_⟩
    refine Outcome.bind_eq_ok.mpr ⟨l.cents .double, numeric_eq_ok.mpr ⟨?_, htotal⟩, rfl⟩
    rw [toNumber_mul, roundAway_intCast]

theorem cents_ofInvoiceItem_row (hvalid : l.isValid = true) (hfits : l.InColumns) (id : Uuid) :
    (InvoiceLine.ofInvoiceItem (l.row id)).cents .double = l.columnCents := by
  obtain ⟨-, -, hp, -, -⟩ := InvoiceLine.isValid_iff.mp hvalid
  have hbelow : |roundAway (l.unitPrice * 100)| < 10 ^ 10 :=
    (roundAway_hundredths_lt hp (10 ^ 10)).mpr (lt_of_lt_of_eq hfits.2.1 (by norm_num))
  have hprice : mathRoundCents (toNumber (roundAway (l.unitPrice * 100))) =
      roundAway (l.unitPrice * 100) := mathRoundCents_toNumber (hbelow.trans (by norm_num))
  simp only [InvoiceLine.cents, InvoiceLine.ofInvoiceItem, InvoiceLine.row, Rat.num_intCast]
  exact congrArg (· * l.quantity.num) hprice

theorem taxCents_ofInvoiceItem_row (hvalid : l.isValid = true) (hfits : l.InColumns) (id : Uuid) :
    (InvoiceLine.ofInvoiceItem (l.row id)).taxCents .double =
      l.taxCents .double + l.taxShift := by
  unfold InvoiceLine.taxCents InvoiceLine.taxShift
  rw [cents_ofInvoiceItem_row hvalid hfits]
  exact (add_sub_cancel (InvoiceLine.taxOn _ _) _).symm

theorem isValid_ofInvoiceItem_row (hvalid : l.isValid = true) (hfits : l.InColumns) (id : Uuid) :
    (InvoiceLine.ofInvoiceItem (l.row id)).isValid = true := by
  obtain ⟨-, hq, hp, hr, -⟩ := InvoiceLine.isValid_iff.mp hvalid
  have hnum := InvoiceLine.num_of_isValid hvalid
  have hprice : 0 ≤ roundAway (l.unitPrice * 100) := roundAway_nonneg (by positivity)
  have hrate : 0 ≤ roundAway (l.rate * 100) := roundAway_nonneg (by positivity)
  have hbelow : |roundAway (l.rate * 100)| < 10000 :=
    (roundAway_hundredths_lt hr 10000).mpr (lt_of_lt_of_eq hfits.2.2 (by norm_num))
  have hhundred : toNumber 10000 = 100 := by norm_num [toNumber]
  refine InvoiceLine.isValid_iff.mpr ⟨rfl, ?_, ?_, ?_, ?_⟩
  · rw [← hnum] at hq
    exact hq
  · rw [← toNumber_zero]
    exact toNumber_le.mpr hprice
  · rw [← toNumber_zero]
    exact toNumber_le.mpr hrate
  · rw [← hhundred]
    exact toNumber_le.mpr ((abs_lt.mp hbelow).2.le)

end Line

section Rows

variable {lines : List InvoiceLine} {db db' : Db} {id : Uuid}

theorem snapshotItems_ok_iff (hvalid : ∀ l ∈ lines, l.isValid = true)
    (hcents : ∀ l ∈ lines, l.cents .double < 10 ^ 12) :
    lines.foldlM (snapshotItem id) db = .ok db' ↔
      (∀ l ∈ lines, l.InColumns) ∧
        db' = { db with
          invoiceItems := (lines.map fun l => l.row id).foldl Table.insert db.invoiceItems } := by
  induction lines generalizing db with
  | nil =>
    rw [List.foldlM_nil, Outcome.pure_eq_ok]
    simp [eq_comm]
  | cons l lines ih =>
    obtain ⟨hl, hvalid⟩ := List.forall_mem_cons.mp hvalid
    obtain ⟨hc, hcents⟩ := List.forall_mem_cons.mp hcents
    rw [List.foldlM_cons, Outcome.bind_eq_ok, List.forall_mem_cons]
    constructor
    · rintro ⟨mid, hmid, hrest⟩
      obtain ⟨hfits, rfl⟩ := (snapshotItem_ok_iff hl hc).mp hmid
      obtain ⟨hall, rfl⟩ := (ih hvalid hcents).mp hrest
      exact ⟨⟨hfits, hall⟩, rfl⟩
    · rintro ⟨⟨hfits, hall⟩, rfl⟩
      exact ⟨_, (snapshotItem_ok_iff hl hc).mpr ⟨hfits, rfl⟩,
        (ih hvalid hcents).mpr ⟨hall, rfl⟩⟩

theorem invoiceItemsOf_foldl_insert (db : Db) (rows : List InvoiceItem)
    (h : ∀ it ∈ rows, it.invoiceId = id) :
    Db.invoiceItemsOf { db with invoiceItems := rows.foldl Table.insert db.invoiceItems } id =
      db.invoiceItemsOf id ++ rows := by
  induction rows generalizing db with
  | nil => simp [Db.invoiceItemsOf]
  | cons it rows ih =>
    obtain ⟨hit, hrest⟩ := List.forall_mem_cons.mp h
    have hinsert : Db.invoiceItemsOf { db with invoiceItems := db.invoiceItems.insert it } id =
        db.invoiceItemsOf id ++ [it] := by
      simp [Db.invoiceItemsOf, Table.filter_insert, hit]
    rw [List.foldl_cons]
    have hstep := ih { db with invoiceItems := db.invoiceItems.insert it } hrest
    rw [hinsert, List.append_assoc, List.singleton_append] at hstep
    exact hstep

theorem Db.InvoiceItemsLinked.invoiceItemsOf_next (hlinked : db.InvoiceItemsLinked) :
    db.invoiceItemsOf db.invoices.next = [] := by
  rw [Db.invoiceItemsOf, List.map_eq_nil_iff, List.eq_nil_iff_forall_not_mem]
  rintro ⟨k, it⟩ hmem
  obtain ⟨hget, hid⟩ := Table.mem_filter_iff.mp hmem
  obtain ⟨inv, hinv⟩ := hlinked k it hget
  rw [decide_eq_true_eq] at hid
  rw [hid, Table.get?_next] at hinv
  cases hinv

theorem sum_ofInvoiceItem_row (hvalid : ∀ l ∈ lines, l.isValid = true)
    (hfits : ∀ l ∈ lines, l.InColumns) (id : Uuid) :
    (((lines.map fun l => l.row id).map InvoiceLine.ofInvoiceItem).map (·.cents .double)).sum =
        (lines.map (·.cents .double)).sum + (lines.map InvoiceLine.priceShift).sum ∧
      (((lines.map fun l => l.row id).map InvoiceLine.ofInvoiceItem).map
          (·.taxCents .double)).sum =
        (lines.map (·.taxCents .double)).sum + (lines.map InvoiceLine.taxShift).sum := by
  rw [← List.sum_map_add, ← List.sum_map_add]
  simp only [List.map_map]
  constructor
  · refine congrArg List.sum (List.map_congr_left fun l hl => ?_)
    rw [InvoiceLine.priceShift, add_sub_cancel]
    exact cents_ofInvoiceItem_row (hvalid l hl) (hfits l hl) id
  · exact congrArg List.sum <| List.map_congr_left fun l hl =>
      taxCents_ofInvoiceItem_row (hvalid l hl) (hfits l hl) id

theorem Db.SnapshotReproduces.congr {inv : Invoice} (h : db.SnapshotReproduces id inv)
    (hinvoices : db'.invoices = db.invoices) (hitems : db'.invoiceItems = db.invoiceItems) :
    db'.SnapshotReproduces id inv := by
  have hrows : db'.invoiceItemsOf id = db.invoiceItemsOf id := by
    rw [Db.invoiceItemsOf, Db.invoiceItemsOf, hitems]
  exact ⟨hinvoices ▸ h.stored, hrows ▸ h.totals, hrows ▸ h.totalPrices⟩

end Rows

section Create

variable {clock : Clock} {db created : Db} {invoice : InvoiceEntity} {offset : Option ℚ} {id : Uuid}

structure InvoiceRowCreated (db : Db) (invoice : InvoiceEntity) (created : Db) (id : Uuid) where
  row : Invoice
  id_eq : id = db.invoices.next
  invoices : created.invoices = db.invoices.insert row
  items : created.invoiceItems = db.invoiceItems
  valid : ∀ l ∈ effectiveItems db invoice, l.isValid = true
  subtotal_eq : row.subtotal = ((effectiveItems db invoice).map (·.cents .double)).sum
  kdvAmount_eq : row.kdvAmount = ((effectiveItems db invoice).map (·.taxCents .double)).sum
  grandTotal_eq : row.grandTotal = row.subtotal + row.kdvAmount
  subtotal_lt : row.subtotal < 10 ^ 12

theorem InvoiceRowCreated.get (h : InvoiceRowCreated db invoice created id) :
    created.invoices.get? id = some h.row := by
  have hself := Table.get?_insert_self db.invoices h.row
  rwa [← h.invoices, ← h.id_eq] at hself

theorem InvoiceRowCreated.cents_lt (h : InvoiceRowCreated db invoice created id) :
    ∀ l ∈ effectiveItems db invoice, l.cents .double < 10 ^ 12 := by
  intro l hl
  have hle : l.cents .double ≤ ((effectiveItems db invoice).map (·.cents .double)).sum := by
    apply List.single_le_sum _ _ (List.mem_map_of_mem hl)
    intro c hc
    obtain ⟨m, hm, rfl⟩ := List.mem_map.mp hc
    exact InvoiceLine.cents_nonneg (h.valid m hm)
  exact lt_of_le_of_lt hle (h.subtotal_eq ▸ h.subtotal_lt)

theorem prepareInvoice_ok {p : PreparedInvoice} (h : prepareInvoice db invoice offset = .ok p) :
    p.items = effectiveItems db invoice ∧ invoiceTotals db invoice = .ok p.totals := by
  obtain ⟨customer, -, h⟩ := Outcome.bind_eq_ok.mp h
  obtain ⟨u, -, h⟩ := Outcome.bind_eq_ok.mp h
  obtain ⟨totals, htotals, h⟩ := Outcome.bind_eq_ok.mp h
  obtain ⟨⟨opened, accountId, account⟩, -, h⟩ := Outcome.bind_eq_ok.mp h
  obtain ⟨v, -, h⟩ := Outcome.bind_eq_ok.mp h
  rw [← Outcome.pure_eq_ok.mp h]
  exact ⟨rfl, htotals⟩

theorem createInvoiceRow_ok (h : createInvoiceRow clock db invoice offset = .ok (created, id)) :
    Nonempty (InvoiceRowCreated db invoice created id) := by
  obtain ⟨p, hp, h⟩ := Outcome.bind_eq_ok.mp h
  obtain ⟨d, -, h⟩ := Outcome.bind_eq_ok.mp h
  obtain ⟨⟨opened, accountId, account⟩, hfound, h⟩ := Outcome.bind_eq_ok.mp h
  obtain ⟨row, hrow, hinsert⟩ := Outcome.bind_eq_ok.mp h
  obtain ⟨accounts, rfl, -⟩ := findOrCreateAccount_ok hfound
  obtain ⟨hid, rfl, -⟩ := insertInvoice_ok hinsert
  obtain ⟨-, htotals⟩ := prepareInvoice_ok hp
  obtain ⟨hvalid, hs, hk, hg⟩ := totalsIn_ok (invoiceTotals_calculate htotals)
  have hstored := invoiceRow_ok hrow
  obtain ⟨hsub, hbound⟩ := numeric_eq_ok.mp hstored.subtotal
  have hkdv := (numeric_eq_ok.mp hstored.kdvAmount).1.symm
  have hgrand := (numeric_eq_ok.mp hstored.grandTotal).1.symm
  rw [hs, hk, ← toNumber_add] at hg
  rw [hs, toNumber_mul, roundAway_intCast] at hsub
  rw [hk, toNumber_mul, roundAway_intCast] at hkdv
  rw [hg, toNumber_mul, roundAway_intCast] at hgrand
  have hframe := d.record_frame { db with currentAccounts := accounts } invoice.tenantId
  exact ⟨
    { row, id_eq := by rw [hid, hframe], invoices := by rw [hframe], items := by rw [hframe]
      valid := hvalid, subtotal_eq := hsub.symm, kdvAmount_eq := hkdv
      grandTotal_eq := by rw [hgrand, ← hsub, hkdv]
      subtotal_lt := (abs_lt.mp hbound).2 }⟩

theorem createWithCariMovement_split {db' : Db} {r : CreateInvoiceTransactionResult}
    (h : createWithCariMovement clock db invoice offset = .ok (db', r)) :
    ∃ created stored, createInvoiceRow clock db invoice offset = .ok (created, r.invoiceId) ∧
      (effectiveItems db invoice).foldlM (snapshotItem r.invoiceId) created = .ok stored ∧
      db'.invoices = stored.invoices ∧ db'.invoiceItems = stored.invoiceItems := by
  rw [createWithCariMovement_eq] at h
  obtain ⟨p, hp, h₁⟩ := Outcome.bind_eq_ok.mp h
  obtain ⟨d, hd, h₂⟩ := Outcome.bind_eq_ok.mp h₁
  obtain ⟨⟨opened, accountId, account⟩, hfound, h₃⟩ := Outcome.bind_eq_ok.mp h₂
  obtain ⟨row, hrow, h₄⟩ := Outcome.bind_eq_ok.mp h₃
  obtain ⟨⟨created, id⟩, hinsert, h₅⟩ := Outcome.bind_eq_ok.mp h₄
  obtain ⟨stored, hsnap, h₆⟩ := Outcome.bind_eq_ok.mp h₅
  obtain ⟨offsetDb, hoffset, h₇⟩ := Outcome.bind_eq_ok.mp h₆
  obtain ⟨⟨debited, newBalance⟩, hdebit, h₈⟩ := Outcome.bind_eq_ok.mp h₇
  obtain ⟨debit, -, hlast⟩ := Outcome.bind_eq_ok.mp h₈
  clear h h₁ h₂ h₃ h₄ h₅ h₆ h₇ h₈
  obtain ⟨payment, rfl, -⟩ := recordAdvanceOffset_ok hoffset
  obtain ⟨accounts, hdebited⟩ := debitAccount_frame hdebit
  rw [(prepareInvoice_ok hp).1] at hsnap
  cases Outcome.pure_eq_ok.mp hlast
  refine ⟨created, stored, ?_, hsnap, ?_, ?_⟩
  · refine Outcome.bind_eq_ok.mpr ⟨p, hp, Outcome.bind_eq_ok.mpr ⟨d, hd, ?_⟩⟩
    exact Outcome.bind_eq_ok.mpr ⟨_, hfound, Outcome.bind_eq_ok.mpr ⟨row, hrow, hinsert⟩⟩
  · rw [hdebited]
    rfl
  · rw [hdebited]
    rfl

theorem InvoiceRowCreated.invoiceItemsOf (h : InvoiceRowCreated db invoice created id)
    (hlinked : db.InvoiceItemsLinked) {stored : Db}
    (hstored : stored = { created with
      invoiceItems := ((effectiveItems db invoice).map fun l => l.row id).foldl Table.insert
        created.invoiceItems }) :
    stored.invoiceItemsOf id = (effectiveItems db invoice).map fun l => l.row id := by
  have hold : created.invoiceItemsOf id = [] := by
    rw [h.id_eq, Db.invoiceItemsOf, h.items]
    exact hlinked.invoiceItemsOf_next
  rw [hstored, invoiceItemsOf_foldl_insert, hold, List.nil_append]
  intro it hit
  obtain ⟨l, -, rfl⟩ := List.mem_map.mp hit
  rfl

theorem InvoiceRowCreated.reproduces_iff (h : InvoiceRowCreated db invoice created id)
    (hlinked : db.InvoiceItemsLinked) {stored : Db}
    (hfits : ∀ l ∈ effectiveItems db invoice, l.InColumns)
    (hstored : stored = { created with
      invoiceItems := ((effectiveItems db invoice).map fun l => l.row id).foldl Table.insert
        created.invoiceItems }) :
    stored.SnapshotReproduces id h.row ↔
      ((effectiveItems db invoice).map InvoiceLine.priceShift).sum = 0 ∧
        ((effectiveItems db invoice).map InvoiceLine.taxShift).sum = 0 := by
  have hrows := h.invoiceItemsOf hlinked hstored
  have hget : stored.invoices.get? id = some h.row := by
    rw [hstored]
    exact h.get
  have hprices : ((stored.invoiceItemsOf id).map InvoiceItem.totalPrice).sum = h.row.subtotal := by
    rw [hrows, h.subtotal_eq, List.map_map]
    rfl
  have hvalid : ∀ l ∈ (stored.invoiceItemsOf id).map InvoiceLine.ofInvoiceItem,
      l.isValid = true := by
    rw [hrows, List.map_map]
    intro m hm
    obtain ⟨l, hl, rfl⟩ := List.mem_map.mp hm
    exact isValid_ofInvoiceItem_row (h.valid l hl) (hfits l hl) id
  obtain ⟨hcents, htax⟩ := sum_ofInvoiceItem_row h.valid hfits id
  have htotals := @totalsIn_valid .double _ hvalid
  rw [hrows, hcents, htax, ← h.subtotal_eq, ← h.kdvAmount_eq] at htotals
  constructor
  · intro hreproduces
    have hsame := hreproduces.totals
    rw [hrows, calculateInvoiceTotals, htotals] at hsame
    have hsub := toNumber_inj (congrArg InvoiceTotals.subtotal (Except.ok.inj hsame))
    have hkdv := toNumber_inj (congrArg InvoiceTotals.kdvAmount (Except.ok.inj hsame))
    constructor <;> linarith
  · rintro ⟨hprice, htaxes⟩
    refine ⟨hget, ?_, hprices⟩
    rw [hrows, calculateInvoiceTotals, htotals, hprice, htaxes, add_zero, add_zero,
      h.grandTotal_eq]

theorem createWithCariMovement_itemsLinked {db' : Db} {r : CreateInvoiceTransactionResult}
    (hlinked : db.InvoiceItemsLinked)
    (h : createWithCariMovement clock db invoice offset = .ok (db', r)) :
    db'.InvoiceItemsLinked := by
  obtain ⟨created, stored, hcreated, hsnap, hinvoices, hitems⟩ := createWithCariMovement_split h
  obtain ⟨hrow⟩ := createInvoiceRow_ok hcreated
  obtain ⟨-, rfl⟩ := (snapshotItems_ok_iff hrow.valid hrow.cents_lt).mp hsnap
  intro k it hk
  rw [hitems] at hk
  rw [hinvoices]
  change ∃ inv, created.invoices.get? it.invoiceId = some inv
  rcases Table.get?_foldl_insert hk with hold | hnew
  · rw [hrow.items] at hold
    obtain ⟨inv, hinv⟩ := hlinked k it hold
    exact ⟨inv, hrow.invoices ▸ Table.get?_insert_of_some hinv _⟩
  · obtain ⟨l, -, rfl⟩ := List.mem_map.mp hnew
    exact ⟨hrow.row, hrow.get⟩

/-- The rows of a new invoice can be stored and give its totals again precisely when every
line stays in its columns and what these change of prices and taxes cancels out in cents. -/
theorem snapshot_reproduces_iff (hlinked : db.InvoiceItemsLinked)
    (hcreated : createInvoiceRow clock db invoice offset = .ok (created, id)) :
    (∃ stored inv, (effectiveItems db invoice).foldlM (snapshotItem id) created = .ok stored ∧
      stored.SnapshotReproduces id inv ∧
      ∀ db' r, createWithCariMovement clock db invoice offset = .ok (db', r) →
        r.invoiceId = id ∧ db'.SnapshotReproduces id inv) ↔
    (∀ l ∈ effectiveItems db invoice, l.InColumns) ∧
      ((effectiveItems db invoice).map InvoiceLine.priceShift).sum = 0 ∧
        ((effectiveItems db invoice).map InvoiceLine.taxShift).sum = 0 := by
  obtain ⟨hrow⟩ := createInvoiceRow_ok hcreated
  have hsnap : ∀ stored,
      (effectiveItems db invoice).foldlM (snapshotItem id) created = .ok stored ↔ _ :=
    fun stored => snapshotItems_ok_iff hrow.valid hrow.cents_lt
  constructor
  · rintro ⟨stored, inv, hstored, hreproduces, -⟩
    obtain ⟨hfits, heq⟩ := (hsnap stored).mp hstored
    obtain rfl : inv = hrow.row := by
      have hget := hreproduces.stored
      rw [heq] at hget
      exact Option.some.inj (hget.symm.trans hrow.get)
    exact ⟨hfits, (hrow.reproduces_iff hlinked hfits heq).mp hreproduces⟩
  · rintro ⟨hfits, hshift⟩
    have hstored := (hsnap _).mpr ⟨hfits, rfl⟩
    have hreproduces := (hrow.reproduces_iff hlinked hfits rfl).mpr hshift
    refine ⟨_, hrow.row, hstored, hreproduces, ?_⟩
    intro db' r h
    obtain ⟨created', stored', hcreated', hstored', hinvoices, hitems⟩ :=
      createWithCariMovement_split h
    obtain ⟨rfl, hid⟩ := Prod.mk.inj (Except.ok.inj (hcreated.symm.trans hcreated'))
    rw [← hid] at hstored'
    obtain rfl := Except.ok.inj (hstored.symm.trans hstored')
    exact ⟨hid.symm, hreproduces.congr hinvoices hitems⟩

end Create

section Sample

variable {db : Db}

/-- An invoice of one line of 10000.00 with the given tax rate. -/
def taxedInvoice (rate : ℚ) : InvoiceEntity :=
  { sampleInvoice 10000 with
    kdvAmount := none
    grandTotal := none
    items := some [{ itemType := none, name := "Motor", quantity := 1, unitPrice := 10000,
                     kdvRate := some rate, notes := none }] }

theorem Db.InvoiceItemsLinked.of_none (h : ∀ k, db.invoiceItems.get? k = none) :
    db.InvoiceItemsLinked := by
  intro k it hk
  rw [h] at hk
  cases hk

theorem sample_snapshot_reproduces :
    ∃ created id, createInvoiceRow sampleEnv.clock sampleDb (taxedInvoice 20) none =
        .ok (created, id) ∧
      ∃ stored inv, (effectiveItems sampleDb (taxedInvoice 20)).foldlM (snapshotItem id) created =
          .ok stored ∧
        stored.SnapshotReproduces id inv ∧
        ∀ db' r, createWithCariMovement sampleEnv.clock sampleDb (taxedInvoice 20) none =
          .ok (db', r) → r.invoiceId = id ∧ db'.SnapshotReproduces id inv := by
  have hok : (createInvoiceRow sampleEnv.clock sampleDb (taxedInvoice 20) none).isOk = true := by
    decide +kernel
  obtain ⟨⟨created, id⟩, hcreated⟩ := Outcome.isOk_iff.mp hok
  refine ⟨created, id, hcreated, ?_⟩
  exact (snapshot_reproduces_iff (.of_none fun _ => rfl) hcreated).mpr
    ⟨by decide +kernel, by decide +kernel, by decide +kernel⟩

/-- A rate of 100 is accepted and does not fit `numeric(4,2)`; of a rate of 18.005 the row
keeps 18.01. -/
theorem tax_rate_changed_by_its_column :
    (∃ created id, createInvoiceRow sampleEnv.clock sampleDb (taxedInvoice 100) none =
        .ok (created, id) ∧
      ¬ ∃ stored inv, (effectiveItems sampleDb (taxedInvoice 100)).foldlM (snapshotItem id)
          created = .ok stored ∧
        stored.SnapshotReproduces id inv ∧
        ∀ db' r, createWithCariMovement sampleEnv.clock sampleDb (taxedInvoice 100) none =
          .ok (db', r) → r.invoiceId = id ∧ db'.SnapshotReproduces id inv) ∧
    ((createWithCariMovement sampleEnv.clock sampleDb (taxedInvoice (18005 / 1000))
        none).toOption.map fun r =>
      ((calculateInvoiceTotals
          ((r.1.invoiceItemsOf r.2.invoiceId).map InvoiceLine.ofInvoiceItem)).toOption.map
          InvoiceTotals.kdvAmount,
        (r.1.invoices.get? r.2.invoiceId).map Invoice.kdvAmount)) =
      some (some 1801, some 180050) := by
  have hok : (createInvoiceRow sampleEnv.clock sampleDb (taxedInvoice 100) none).isOk = true := by
    decide +kernel
  obtain ⟨⟨created, id⟩, hcreated⟩ := Outcome.isOk_iff.mp hok
  refine ⟨⟨created, id, hcreated, ?_⟩, by decide +kernel⟩
  rintro ⟨stored, inv, hstored, -, -⟩
  obtain ⟨hrow⟩ := createInvoiceRow_ok hcreated
  have hfits := ((snapshotItems_ok_iff hrow.valid hrow.cents_lt).mp hstored).1
  revert hfits
  decide +kernel

end Sample

end WorksAuto
