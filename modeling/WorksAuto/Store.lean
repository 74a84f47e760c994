import WorksAuto.Schema

/-! Writes that several services share: document numbers, postings to a
current account, and the stock counter of a product. Each returns the database
after the write, or the error that makes the surrounding transaction roll back. -/

namespace WorksAuto

open Lib

/-- `documentSequence.upsert` on (tenant, document type, year): 1, then one more each time. -/
def nextDocumentNumber (db : Db) (tenantId : Uuid) (docType : DocType) (year : ℕ) :
    Outcome (Db × ℕ) :=
  match db.documentSequences.find? fun s =>
      s.tenantId = tenantId ∧ s.docType = docType ∧ s.year = year with
  | some (id, s) => do
    let _ ← int4 (s.lastNumber + 1)
    let increment (s : DocumentSequence) := { s with lastNumber := s.lastNumber + 1 }
    pure ({ db with documentSequences := db.documentSequences.modify id increment },
      s.lastNumber + 1)
  | none =>
    let first : DocumentSequence := { tenantId, docType, year, lastNumber := 1 }
    pure ({ db with documentSequences := db.documentSequences.insert first }, 1)

theorem nextDocumentNumber_ok {db db' : Db} {t : Uuid} {d : DocType} {y n : ℕ}
    (h : nextDocumentNumber db t d y = .ok (db', n)) :
    ∃ seqs, db' = { db with documentSequences := seqs } := by
  unfold nextDocumentNumber at h
  split at h
  · obtain ⟨m, -, h⟩ := Outcome.bind_eq_ok.mp h
    cases Outcome.pure_eq_ok.mp h
    exact ⟨_, rfl⟩
  · cases Outcome.pure_eq_ok.mp h
    exact ⟨_, rfl⟩

section Sequences

def DocumentSequence.isFor (s : DocumentSequence) (tenantId : Uuid) (docType : DocType)
    (year : ℕ) : Bool :=
  s.tenantId = tenantId ∧ s.docType = docType ∧ s.year = year

def Db.lastNumber (db : Db) (tenantId : Uuid) (docType : DocType) (year : ℕ) : ℕ :=
  (db.documentSequences.find? fun s => s.isFor tenantId docType year).elim 0 fun s =>
    s.2.lastNumber

def DocumentSequence.setLast (n : ℕ) (s : DocumentSequence) : DocumentSequence :=
  { s with lastNumber := n }

def Db.setLastNumber (db : Db) (tenantId : Uuid) (docType : DocType) (year n : ℕ) : Db :=
  { db with
    documentSequences :=
      match db.documentSequences.find? fun s => s.isFor tenantId docType year with
      | some (id, _) => db.documentSequences.modify id (DocumentSequence.setLast n)
      | none => db.documentSequences.insert { tenantId, docType, year, lastNumber := n } }

variable {db db' : Db} {t t' : Uuid} {d d' : DocType} {y y' n : ℕ}

theorem nextDocumentNumber_eq_ok (h : nextDocumentNumber db t d y = .ok (db', n)) :
    n = db.lastNumber t d y + 1 ∧ db' = db.setLastNumber t d y n := by
  unfold nextDocumentNumber at h
  unfold Db.lastNumber Db.setLastNumber DocumentSequence.isFor
  split at h
  · next id s hfound =>
    obtain ⟨m, -, h⟩ := Outcome.bind_eq_ok.mp h
    cases Outcome.pure_eq_ok.mp h
    rw [hfound]
    have hrow : db.documentSequences.modify id
        (fun s => { s with lastNumber := s.lastNumber + 1 }) =
          db.documentSequences.modify id (DocumentSequence.setLast (s.lastNumber + 1)) :=
      Table.modify_congr (Table.find?_some hfound).1 rfl
    exact ⟨rfl, by rw [hrow]⟩
  · next hnone =>
    cases Outcome.pure_eq_ok.mp h
    rw [hnone]
    exact ⟨rfl, rfl⟩

theorem DocumentSequence.isFor_eq {s : DocumentSequence} (h : s.isFor t d y = true)
    (h' : s.isFor t' d' y' = true) : t' = t ∧ d' = d ∧ y' = y := by
  simp only [isFor, decide_eq_true_eq] at h h'
  exact ⟨h'.1.symm.trans h.1, h'.2.1.symm.trans h.2.1, h'.2.2.symm.trans h.2.2⟩

theorem Db.lastNumber_setLastNumber : (db.setLastNumber t d y n).lastNumber t' d' y' =
    if t' = t ∧ d' = d ∧ y' = y then n else db.lastNumber t' d' y' := by
  unfold lastNumber setLastNumber
  cases hfound : db.documentSequences.find? fun s => s.isFor t d y with
  | none =>
    simp only [Table.find?_insert]
    by_cases hkey : t' = t ∧ d' = d ∧ y' = y
    · obtain ⟨rfl, rfl, rfl⟩ := hkey
      have hnew : DocumentSequence.isFor
          { tenantId := t', docType := d', year := y', lastNumber := n } t' d' y' = true := by
        simp [DocumentSequence.isFor]
      simp [hfound, hnew]
    · have hnew : ¬ DocumentSequence.isFor
          { tenantId := t, docType := d, year := y, lastNumber := n } t' d' y' = true :=
        fun h => hkey (DocumentSequence.isFor_eq (by simp [DocumentSequence.isFor]) h)
      simp [hnew, hkey]
  | some found =>
    obtain ⟨id, s⟩ := found
    obtain ⟨hget, hs⟩ := Table.find?_some hfound
    have hfind : (db.documentSequences.modify id (DocumentSequence.setLast n)).find?
        (fun s => s.isFor t' d' y') = (db.documentSequences.find? fun s => s.isFor t' d' y').map
          fun q => (q.1, if q.1 = id then q.2.setLast n else q.2) :=
      Table.find?_modify fun r => rfl
    simp only [hfind]
    by_cases hkey : t' = t ∧ d' = d ∧ y' = y
    · obtain ⟨rfl, rfl, rfl⟩ := hkey
      simp [hfound, DocumentSequence.setLast]
    · rw [if_neg hkey]
      cases hother : db.documentSequences.find? fun s => s.isFor t' d' y' with
      | none => rfl
      | some other =>
        obtain ⟨id', s'⟩ := other
        obtain ⟨hget', hs'⟩ := Table.find?_some hother
        have hne : id' ≠ id := by
          rintro rfl
          cases hget.symm.trans hget'
          exact hkey (DocumentSequence.isFor_eq hs hs')
        simp [hne]

end Sequences

section Accounts

/-- Find the customer's account in this tenant, or open one at zero. The
customer column is unique over all tenants. -/
def findOrCreateAccount (db : Db) (tenantId customerId : Uuid) :
    Outcome (Db × Uuid × CurrentAccount) :=
  match db.currentAccountOf? tenantId customerId with
  | some (id, account) => pure (db, id, account)
  | none => do
    Outcome.reject (db.currentAccounts.find? fun a => a.customerId = customerId).isSome
      (.database "P2002")
    let account : CurrentAccount :=
      { tenantId, customerId, totalDebits := 0, totalCredits := 0, balance := 0,
        isBlocked := false }
    pure ({ db with currentAccounts := db.currentAccounts.insert account },
      db.currentAccounts.next, account)

def Db.setAccount (db : Db) (id : Uuid) (f : CurrentAccount → CurrentAccount) : Db :=
  { db with currentAccounts := db.currentAccounts.modify id f }

/-- `totalDebits: { increment }, balance: { increment }`; the new balance is returned. -/
def debitAccount (db : Db) (id : Uuid) (amount : ℚ) : Outcome (Db × ℤ) := do
  let account ← Outcome.required (db.currentAccounts.get? id) (.database "P2025")
  let totalDebits ← numeric 12 (toNumber account.totalDebits + amount)
  let balance ← numeric 12 (toNumber account.balance + amount)
  pure (db.setAccount id fun a => { a with totalDebits, balance }, balance)

/-- `totalCredits: { increment }, balance: { decrement }`; the new balance is returned. -/
def creditAccount (db : Db) (id : Uuid) (amount : ℚ) : Outcome (Db × ℤ) := do
  let account ← Outcome.required (db.currentAccounts.get? id) (.database "P2025")
  let totalCredits ← numeric 12 (toNumber account.totalCredits + amount)
  let balance ← numeric 12 (toNumber account.balance - amount)
  pure (db.setAccount id fun a => { a with totalCredits, balance }, balance)

def Db.addCariMovement (db : Db) (m : CariMovement) : Db :=
  { db with cariMovements := db.cariMovements.insert m }

theorem numeric_toNumber_ok {p : ℕ} {c d : ℤ} (h : numeric p (toNumber c) = .ok d) :
    d = c := by
  rw [numeric_eq_ok, toNumber_mul, roundAway_intCast] at h
  exact h.1.symm

def AccountFound (accounts opened : Table CurrentAccount) (tenantId customerId id : Uuid)
    (a : CurrentAccount) : Prop :=
  (opened = accounts ∧
    accounts.find? (fun a => a.customerId = customerId ∧ a.tenantId = tenantId) = some (id, a)) ∨
  (accounts.find? (fun a => a.customerId = customerId) = none ∧
    a = { tenantId, customerId, totalDebits := 0, totalCredits := 0, balance := 0,
          isBlocked := false } ∧
    id = accounts.next ∧ opened = accounts.insert a)

theorem AccountFound.get {accounts opened : Table CurrentAccount} {t c id : Uuid}
    {a : CurrentAccount} (h : AccountFound accounts opened t c id a) :
    opened.get? id = some a ∧ a.customerId = c ∧ a.tenantId = t := by
  rcases h with ⟨rfl, hfound⟩ | ⟨-, rfl, rfl, rfl⟩
  · obtain ⟨hget, hp⟩ := Table.find?_some hfound
    exact ⟨hget, by simpa using hp⟩
  · exact ⟨Table.get?_insert_self _ _, rfl, rfl⟩

theorem findOrCreateAccount_ok {db db' : Db} {t c id : Uuid} {a : CurrentAccount}
    (h : findOrCreateAccount db t c = .ok (db', id, a)) :
    ∃ opened, db' = { db with currentAccounts := opened } ∧
      AccountFound db.currentAccounts opened t c id a := by
  unfold findOrCreateAccount at h
  split at h
  · next found =>
    cases Outcome.pure_eq_ok.mp h
    exact ⟨_, rfl, .inl ⟨rfl, found⟩⟩
  · obtain ⟨u, hu, h⟩ := Outcome.bind_eq_ok.mp h
    cases Outcome.pure_eq_ok.mp h
    exact ⟨_, rfl, .inr ⟨by simpa using hu, rfl, rfl, rfl⟩⟩

theorem debitAccount_set {db db' : Db} {id : Uuid} {amount : ℚ} {balance : ℤ}
    (h : debitAccount db id amount = .ok (db', balance)) :
    ∃ f : CurrentAccount → CurrentAccount,
      (∀ a, (f a).tenantId = a.tenantId ∧ (f a).customerId = a.customerId) ∧
        db' = db.setAccount id f := by
  obtain ⟨account, -, h₁⟩ := Outcome.bind_eq_ok.mp h
  obtain ⟨totalDebits, -, h₂⟩ := Outcome.bind_eq_ok.mp h₁
  obtain ⟨newBalance, -, h₃⟩ := Outcome.bind_eq_ok.mp h₂
  cases Outcome.pure_eq_ok.mp h₃
  refine ⟨_, fun a => ?_, rfl⟩
  exact ⟨rfl, rfl⟩

theorem creditAccount_set {db db' : Db} {id : Uuid} {amount : ℚ} {balance : ℤ}
    (h : creditAccount db id amount = .ok (db', balance)) :
    ∃ f : CurrentAccount → CurrentAccount,
      (∀ a, (f a).tenantId = a.tenantId ∧ (f a).customerId = a.customerId) ∧
        db' = db.setAccount id f := by
  obtain ⟨account, -, h₁⟩ := Outcome.bind_eq_ok.mp h
  obtain ⟨totalCredits, -, h₂⟩ := Outcome.bind_eq_ok.mp h₁
  obtain ⟨newBalance, -, h₃⟩ := Outcome.bind_eq_ok.mp h₂
  cases Outcome.pure_eq_ok.mp h₃
  refine ⟨_, fun a => ?_, rfl⟩
  exact ⟨rfl, rfl⟩

theorem debitAccount_ok {db db' : Db} {id : Uuid} {g newBalance : ℤ}
    (h : debitAccount db id (toNumber g) = .ok (db', newBalance)) :
    ∃ a, db.currentAccounts.get? id = some a ∧ newBalance = a.balance + g ∧
      db' = db.setAccount id fun a =>
        { a with totalDebits := a.totalDebits + g, balance := a.balance + g } := by
  obtain ⟨a, ha, h⟩ := Outcome.bind_eq_ok.mp h
  obtain ⟨debits, hd, h⟩ := Outcome.bind_eq_ok.mp h
  obtain ⟨balance, hb, h⟩ := Outcome.bind_eq_ok.mp h
  rw [Outcome.required_eq_ok] at ha
  rw [← toNumber_add] at hd hb
  obtain rfl := numeric_toNumber_ok hd
  obtain rfl := numeric_toNumber_ok hb
  cases Outcome.pure_eq_ok.mp h
  refine ⟨a, ha, rfl, ?_⟩
  simp only [Db.setAccount]
  congr 1
  exact Table.modify_congr ha rfl

theorem creditAccount_ok {db db' : Db} {id : Uuid} {g newBalance : ℤ}
    (h : creditAccount db id (toNumber g) = .ok (db', newBalance)) :
    ∃ a, db.currentAccounts.get? id = some a ∧ newBalance = a.balance - g ∧
      db' = db.setAccount id fun a =>
        { a with totalCredits := a.totalCredits + g, balance := a.balance - g } := by
  obtain ⟨a, ha, h⟩ := Outcome.bind_eq_ok.mp h
  obtain ⟨credits, hd, h⟩ := Outcome.bind_eq_ok.mp h
  obtain ⟨balance, hb, h⟩ := Outcome.bind_eq_ok.mp h
  rw [Outcome.required_eq_ok] at ha
  rw [← toNumber_add] at hd
  rw [← toNumber_sub] at hb
  obtain rfl := numeric_toNumber_ok hd
  obtain rfl := numeric_toNumber_ok hb
  cases Outcome.pure_eq_ok.mp h
  refine ⟨a, ha, rfl, ?_⟩
  simp only [Db.setAccount]
  congr 1
  exact Table.modify_congr ha rfl

end Accounts

section Stock

def Db.setStock (db : Db) (productId : Uuid) (n : ℤ) : Db :=
  { db with products := db.products.modify productId fun p => { p with stockQuantity := n } }

/-- `UPDATE products SET stock_quantity = stock_quantity - q WHERE id AND tenant_id
AND stock_quantity >= q`, with the number of rows updated. -/
def decrementStock (db : Db) (tenantId productId : Uuid) (q : ℤ) : Outcome (Db × ℕ) :=
  match db.product? tenantId productId with
  | none => pure (db, 0)
  | some p =>
    if p.stockQuantity < q then pure (db, 0)
    else do
      let n ← int4 (p.stockQuantity - q)
      pure (db.setStock productId n, 1)

/-- `product.update({ where: { id }, data: { stockQuantity: { increment } } })`. -/
def incrementStock (db : Db) (productId : Uuid) (q : ℤ) : Outcome Db := do
  let p ← Outcome.required (db.products.get? productId) (.database "P2025")
  let n ← int4 (p.stockQuantity + q)
  pure (db.setStock productId n)

def addStockMovement (db : Db) (m : StockMovement) : Outcome Db := do
  let _ ← int4 m.quantity
  pure { db with stockMovements := db.stockMovements.insert m }

def StockMovement.apply (m : StockMovement) (stock : ℤ) : ℤ :=
  match m.movementType with
  | .inPurchase => stock + m.quantity
  | .return => stock + m.quantity
  | .outWorkOrder => stock - m.quantity
  | .adjustment => m.quantity

def Db.post (db : Db) (m : StockMovement) : Db :=
  { db with
    products := db.products.modify m.productId fun p =>
      { p with stockQuantity := m.apply p.stockQuantity }
    stockMovements := db.stockMovements.insert m }

theorem decrementStock_ok {db db' : Db} {t id : Uuid} {q : ℤ} {n : ℕ}
    (h : decrementStock db t id q = .ok (db', n)) :
    (n = 0 ∧ db' = db) ∨
      ∃ p, n = 1 ∧ db.product? t id = some p ∧ q ≤ p.stockQuantity ∧
        p.stockQuantity - q < 2 ^ 31 ∧ db' = db.setStock id (p.stockQuantity - q) := by
  unfold decrementStock at h
  split at h
  · cases Outcome.pure_eq_ok.mp h
    exact .inl ⟨rfl, rfl⟩
  · next p hp =>
    split_ifs at h with hq
    · cases Outcome.pure_eq_ok.mp h
      exact .inl ⟨rfl, rfl⟩
    · obtain ⟨m, hm, h⟩ := Outcome.bind_eq_ok.mp h
      obtain ⟨rfl, hfits⟩ := int4_eq_ok.mp hm
      cases Outcome.pure_eq_ok.mp h
      exact .inr ⟨p, rfl, hp, not_lt.mp hq, hfits.2, rfl⟩

theorem incrementStock_ok {db db' : Db} {id : Uuid} {q : ℤ}
    (h : incrementStock db id q = .ok db') :
    ∃ p, db.products.get? id = some p ∧ p.stockQuantity + q < 2 ^ 31 ∧
      db' = db.setStock id (p.stockQuantity + q) := by
  obtain ⟨p, hp, h⟩ := Outcome.bind_eq_ok.mp h
  obtain ⟨m, hm, h⟩ := Outcome.bind_eq_ok.mp h
  obtain ⟨rfl, hfits⟩ := int4_eq_ok.mp hm
  exact ⟨p, Outcome.required_eq_ok.mp hp, hfits.2, (Outcome.pure_eq_ok.mp h).symm⟩

theorem addStockMovement_ok {db db' : Db} {m : StockMovement}
    (h : addStockMovement db m = .ok db') :
    db' = { db with stockMovements := db.stockMovements.insert m } := by
  obtain ⟨q, -, h⟩ := Outcome.bind_eq_ok.mp h
  exact (Outcome.pure_eq_ok.mp h).symm

end Stock

end WorksAuto
