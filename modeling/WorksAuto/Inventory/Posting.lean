import WorksAuto.Lib.Journal
import WorksAuto.WorkOrders.Repository

/-! Stock and its movements.
The stock of a product, as a function of the database, is a journal of stock
movements: posting a movement to the database posts it to that function. The
transactions of the work order repository that touch stock are then described
by the movements they post. -/

namespace WorksAuto

open Lib

def stockJournal : Journal Uuid ℤ StockMovement where
  key := StockMovement.productId
  apply := StockMovement.apply

def Db.stockOf (db : Db) (productId : Uuid) : ℤ :=
  (db.products.get? productId).elim 0 Product.stockQuantity

def Db.hasProduct (db : Db) (productId : Uuid) : Prop := (db.products.get? productId).isSome

def Db.postAll (db : Db) (ms : List StockMovement) : Db := ms.foldl Db.post db

section Post

variable (db : Db) (m : StockMovement) (ms : List StockMovement)

@[simp] theorem Db.postAll_nil : db.postAll [] = db := rfl

@[simp] theorem Db.postAll_cons : db.postAll (m :: ms) = (db.post m).postAll ms := rfl

theorem Db.postAll_append (ns : List StockMovement) :
    db.postAll (ms ++ ns) = (db.postAll ms).postAll ns := List.foldl_append

theorem Db.postAll_frame :
    db.postAll ms =
      { db with
        products := (db.postAll ms).products
        stockMovements := (db.postAll ms).stockMovements } := by
  induction ms generalizing db with
  | nil => rfl
  | cons m ms ih =>
    rw [postAll_cons, ih]
    rfl

theorem Db.postAll_movements :
    (db.postAll ms).stockMovements = ms.foldl Table.insert db.stockMovements := by
  induction ms generalizing db with
  | nil => rfl
  | cons m ms ih =>
    rw [postAll_cons, ih]
    rfl

theorem Db.hasProduct_post (k : Uuid) : (db.post m).hasProduct k ↔ db.hasProduct k := by
  simp only [hasProduct, post, Table.get?_modify, Option.isSome_map]

theorem Db.hasProduct_postAll (k : Uuid) : (db.postAll ms).hasProduct k ↔ db.hasProduct k := by
  induction ms generalizing db with
  | nil => rfl
  | cons m ms ih => rw [postAll_cons, ih, hasProduct_post]

theorem Db.stockOf_post (h : db.hasProduct m.productId) :
    (db.post m).stockOf = stockJournal.post db.stockOf m := by
  obtain ⟨p, hp⟩ := Option.isSome_iff_exists.mp h
  funext k
  by_cases hk : k = m.productId
  · subst hk
    have hpost := stockJournal.post_self db.stockOf m
    simp only [stockJournal] at hpost ⊢
    rw [hpost]
    simp [stockOf, post, Table.get?_modify, hp]
  · rw [stockJournal.post_of_ne db.stockOf hk]
    simp only [stockOf, post, Table.get?_modify_ne db.products hk]

theorem Db.stockOf_postAll (h : ∀ m ∈ ms, db.hasProduct m.productId) :
    (db.postAll ms).stockOf = stockJournal.postAll db.stockOf ms := by
  induction ms generalizing db with
  | nil => rfl
  | cons m ms ih =>
    obtain ⟨hm, hms⟩ := List.forall_mem_cons.mp h
    rw [postAll_cons, Journal.postAll_cons, ← db.stockOf_post m hm]
    apply ih
    intro n hn
    exact (db.hasProduct_post m n.productId).mpr (hms n hn)

end Post

section Net

def StockMovement.delta (m : StockMovement) : ℤ := m.apply 0

/-- A movement that takes stock, or returns an amount that is not negative. -/
def StockMovement.Flow (m : StockMovement) : Prop :=
  m.movementType = .outWorkOrder ∨ m.movementType = .return ∧ 0 ≤ m.quantity

def net (ms : List StockMovement) (p : Uuid) : ℤ :=
  (ms.map fun m => if m.productId = p then m.delta else 0).sum

@[simp] theorem net_nil (p : Uuid) : net [] p = 0 := rfl

@[simp] theorem net_cons (m : StockMovement) (ms : List StockMovement) (p : Uuid) :
    net (m :: ms) p = (if m.productId = p then m.delta else 0) + net ms p := rfl

theorem net_append (ms ns : List StockMovement) (p : Uuid) :
    net (ms ++ ns) p = net ms p + net ns p := by
  simp [net]

theorem StockMovement.Flow.apply {m : StockMovement} (h : m.Flow) (s : ℤ) :
    m.apply s = s + m.delta := by
  rcases h with h | ⟨h, -⟩ <;> simp [StockMovement.delta, StockMovement.apply, h, sub_eq_add_neg]

theorem Db.stockOf_postAll_net {db : Db} {ms : List StockMovement}
    (hknown : ∀ m ∈ ms, db.hasProduct m.productId) (hflow : ∀ m ∈ ms, m.Flow) (p : Uuid) :
    (db.postAll ms).stockOf p = db.stockOf p + net ms p := by
  rw [db.stockOf_postAll ms hknown]
  exact stockJournal.postAll_eq_add (d := StockMovement.delta) (fun m hm s => (hflow m hm).apply s)
    db.stockOf p

theorem net_out (t w p : Uuid) (n : ℤ) (part : Option Uuid) :
    net (part.toList.map fun q => outMovement t w q n) p = -(if part = some p then n else 0) := by
  cases part with
  | none => rfl
  | some q =>
    by_cases hq : q = p <;>
      simp [net, hq, outMovement, StockMovement.delta, StockMovement.apply]

theorem net_return (t w p : Uuid) (n : ℤ) (part : Option Uuid) :
    net (part.toList.map fun q => returnMovement t w q n) p = if part = some p then n else 0 := by
  cases part with
  | none => rfl
  | some q =>
    by_cases hq : q = p <;>
      simp [net, hq, returnMovement, StockMovement.delta, StockMovement.apply]

end Net

section Repository

theorem Db.setStock_post {db : Db} {m : StockMovement} {row : Product}
    (h : db.products.get? m.productId = some row) :
    { db.setStock m.productId (m.apply row.stockQuantity) with
      stockMovements := db.stockMovements.insert m } = db.post m := by
  simp only [setStock, post]
  congr 1
  exact Table.modify_congr h rfl

theorem takeFromStock_ok {db db' : Db} {t w p : Uuid} {q : ℤ} {shortage : Option Product → ApiError}
    (h : takeFromStock db t w p q shortage = .ok db') :
    db.hasProduct p ∧ q ≤ db.stockOf p ∧ db.stockOf p - q < 2 ^ 31 ∧
      db' = db.post (outMovement t w p q) := by
  obtain ⟨⟨db₁, n⟩, hdec, h₁⟩ := Outcome.bind_eq_ok.mp h
  obtain ⟨u, hn, h₂⟩ := Outcome.bind_eq_ok.mp h₁
  rw [addStockMovement_ok h₂]
  rcases decrementStock_ok hdec with ⟨rfl, -⟩ | ⟨row, -, hrow, hq, hfits, rfl⟩
  · simp at hn
  · obtain ⟨hget, -⟩ := Db.product?_eq_some.mp hrow
    have hstock : db.stockOf p = row.stockQuantity := by simp [Db.stockOf, hget]
    refine ⟨by simp [Db.hasProduct, hget], hstock ▸ hq, hstock ▸ hfits, ?_⟩
    exact Db.setStock_post (m := outMovement t w p q) hget

theorem returnToStock_ok {db db' : Db} {t w p : Uuid} {q : ℤ}
    (h : returnToStock db t w p q = .ok db') :
    db.hasProduct p ∧ db.stockOf p + q < 2 ^ 31 ∧ db' = db.post (returnMovement t w p q) := by
  obtain ⟨db₁, hinc, h₁⟩ := Outcome.bind_eq_ok.mp h
  rw [addStockMovement_ok h₁]
  obtain ⟨row, hget, hfits, rfl⟩ := incrementStock_ok hinc
  have hstock : db.stockOf p = row.stockQuantity := by simp [Db.stockOf, hget]
  exact ⟨by simp [Db.hasProduct, hget], hstock ▸ hfits,
    Db.setStock_post (m := returnMovement t w p q) hget⟩

end Repository

end WorksAuto
