import WorksAuto.Billing.System
import WorksAuto.Invoices.Transaction
import WorksAuto.Lib.Locking

/-! The numbers of the invoices of a tenant.
Transactions for different customers hold different advisory locks and meet at the
row of the sequence only. The lock of that row is held from the draw to the end of
the transaction, so the number drawn stays the next one until it is committed, and
is drawn again when it is not. -/

namespace WorksAuto

open Lib

/-- A call of the use case. Neither the body of a request, which is refused when it has
other fields than it declares, nor the completion of an order states a number. -/
structure InvoiceRequest where
  tenantId : Uuid
  dto : CreateInvoiceInput
  unnumbered : dto.invoiceNumber = none

inductive InvoiceLock where
  | customer (tenantId customerId : Uuid)
  | sequence (tenantId : Uuid) (year : ℕ)
  deriving DecidableEq, Repr

structure InvoiceServer where
  db : Db
  locks : List InvoiceLock

/-- The surroundings of a part: the time, whether the database fails, and the provider. -/
structure InvoiceEnv where
  clock : Clock
  failure : Option ApiError
  eInvoice : EInvoiceOutcome

inductive InvoiceTask where
  | execute (r : InvoiceRequest)
  | lock (r : InvoiceRequest) (opened : Clock)
  | prepare (r : InvoiceRequest) (opened : Clock)
  | draw (r : InvoiceRequest) (opened : Clock) (p : PreparedInvoice)
  | store (r : InvoiceRequest) (opened : Clock) (p : PreparedInvoice) (d : DrawnNumber)
  | eInvoice (tenantId id : Uuid) (details : EInvoiceDetails)
  | finished (answer : Outcome Unit)

def InvoiceRequest.lock (r : InvoiceRequest) : InvoiceLock := .customer r.tenantId r.dto.customerId

/-- The invoice of a request, issued when the request came in. -/
def InvoiceRequest.invoice (r : InvoiceRequest) (opened : Clock) : InvoiceEntity :=
  r.dto.entity opened r.tenantId

def DrawnNumber.locks (d : DrawnNumber) (tenantId : Uuid) : List InvoiceLock :=
  d.sequence.toList.map fun q => .sequence tenantId q.1

namespace InvoiceTask

def locks : InvoiceTask → List InvoiceLock
  | .prepare r _ | .draw r _ _ => [r.lock]
  | .store r _ _ d => r.lock :: d.locks r.tenantId
  | _ => []

def release (s : InvoiceServer) (t : InvoiceTask) : List InvoiceLock :=
  s.locks.filter fun l => l ∉ t.locks

def abort (s : InvoiceServer) (t : InvoiceTask) (e : ApiError) : InvoiceServer × InvoiceTask :=
  ({ s with locks := t.release s }, .finished (.error e))

def afterStore (env : InvoiceEnv) (r : InvoiceRequest) (id : Uuid) : InvoiceTask :=
  match env.eInvoice.details r.dto with
  | some details => .eInvoice r.tenantId id details
  | none => .finished (.ok ())

/-- The next part of a request. A lock that another transaction holds is waited for. -/
def run (s : InvoiceServer) (t : InvoiceTask) (env : InvoiceEnv) : InvoiceServer × InvoiceTask :=
  match t with
  | .execute r => (s, .lock r env.clock)
  | .lock r opened =>
    if r.lock ∈ s.locks then (s, .lock r opened)
    else ({ s with locks := r.lock :: s.locks }, .prepare r opened)
  | .prepare r opened =>
    match prepareInvoice s.db (r.invoice opened) r.dto.offsetAdvanceAmount with
    | .error e => t.abort s e
    | .ok p => (s, .draw r opened p)
  | .draw r opened p =>
    if .sequence r.tenantId env.clock.year ∈ s.locks then (s, .draw r opened p)
    else
      match drawNumber env.clock s.db (r.invoice opened) with
      | .error e => t.abort s e
      | .ok d => ({ s with locks := d.locks r.tenantId ++ s.locks }, .store r opened p d)
  | .store r opened p d =>
    match storeInvoice env.clock s.db (r.invoice opened) p d with
    | .error e => t.abort s e
    | .ok (db, result) => ({ db, locks := t.release s }, afterStore env r result.invoiceId)
  | .eInvoice tenantId id details =>
    match updateEInvoiceDetails s.db tenantId id details with
    | .error e => t.abort s e
    | .ok db => ({ s with db }, .finished (.ok ()))
  | .finished answer => (s, .finished answer)

def exec (s : InvoiceServer) (t : InvoiceTask) (env : InvoiceEnv) : InvoiceServer × InvoiceTask :=
  match t with
  | .finished answer => (s, .finished answer)
  | t => env.failure.elim (t.run s env) (t.abort s)

end InvoiceTask

abbrev InvoicePool := Pool InvoiceServer InvoiceTask

def InvoicePool.act : InvoicePool → PoolAction InvoiceRequest InvoiceEnv → InvoicePool :=
  Pool.act InvoiceTask.execute InvoiceTask.exec

/-- The invoice `k` of the tenant has the given number. -/
def Db.HasNumber (db : Db) (tenantId k : Uuid) (number : String) : Prop :=
  ∃ inv, db.invoice? tenantId k = some inv ∧ inv.invoiceNumber = number

/-- The invoices of a tenant have the numbers of each year from the first to the last one
drawn, each number once, and no other numbers. -/
structure Db.Gapless (db : Db) (tenantId : Uuid) : Prop where
  used : ∀ year n, 1 ≤ n → n ≤ db.lastNumber tenantId .invoice year →
    ∃! k, db.HasNumber tenantId k (invoiceNumber year n)
  only : ∀ k number, db.HasNumber tenantId k number → ∃ year n, 1 ≤ n ∧
    n ≤ db.lastNumber tenantId .invoice year ∧ number = invoiceNumber year n

/-- The numbers that transactions are about to commit are not in use. -/
def InvoicePool.NumbersUnused (p : InvoicePool) : Prop :=
  ∀ i r opened q d, p.threads.get? i = some (.store r opened q d) →
    ∀ k, ¬ p.shared.db.HasNumber r.tenantId k d.number

section Numbers

theorem invoiceNumber_inj {y y' n n' : ℕ} (h : invoiceNumber y n = invoiceNumber y' n') :
    y = y' ∧ n = n' := by
  have hdash : '-'.isDigit = false := by decide
  have hlist := congrArg String.toList h
  simp only [invoiceNumber, String.toList_append, List.append_assoc,
    List.append_cancel_left_eq] at hlist
  obtain ⟨hyear, -, hplace⟩ := (List.append_cons_inj_of_notMem (notMem_repr hdash y)
    (notMem_padStart hdash n 5)).mp hlist
  exact ⟨repr_injective (String.toList_inj.mp hyear),
    padStart_injective (String.toList_inj.mp hplace)⟩

end Numbers

section Rows

variable {db db' : Db} {t t₀ k : Uuid} {number : String}

theorem Db.lastNumber_congr (h : db'.documentSequences = db.documentSequences) (t : Uuid)
    (d : DocType) (y : ℕ) : db'.lastNumber t d y = db.lastNumber t d y := by
  simp only [lastNumber, h]

theorem Db.Gapless.congr (h : db.Gapless t)
    (hnumbers : ∀ k number, db'.HasNumber t k number ↔ db.HasNumber t k number)
    (hlast : ∀ y, db'.lastNumber t .invoice y = db.lastNumber t .invoice y) : db'.Gapless t := by
  constructor
  · intro y n hpos hle
    simp only [hnumbers]
    exact h.used y n hpos (hlast y ▸ hle)
  · intro k number hk
    obtain ⟨y, n, hpos, hle, hnumber⟩ := h.only k number ((hnumbers k number).mp hk)
    exact ⟨y, n, hpos, (hlast y).symm ▸ hle, hnumber⟩

theorem Db.hasNumber_insert {row : Invoice} (hrows : db'.invoices = db.invoices.insert row) :
    db'.HasNumber t k number ↔
      (k = db.invoices.next ∧ row.tenantId = t ∧ row.invoiceNumber = number) ∨
        db.HasNumber t k number := by
  simp only [HasNumber, Db.invoice?_eq_some, hrows, Table.get?_insert]
  split_ifs with hk
  · subst hk
    simp [Table.get?_next]
  · simp [hk]

structure DrawnNumber.IsNext (db : Db) (tenantId : Uuid) (d : DrawnNumber) : Prop where
  drawn : ∃ year, d.sequence = some (year, db.lastNumber tenantId .invoice year + 1) ∧
    d.number = invoiceNumber year (db.lastNumber tenantId .invoice year + 1)

theorem DrawnNumber.IsNext.unused {d : DrawnNumber} (h : d.IsNext db t) (hdb : db.Gapless t)
    (k : Uuid) : ¬ db.HasNumber t k d.number := by
  intro hk
  obtain ⟨y, -, hnumber⟩ := h.drawn
  obtain ⟨y', n, -, hle, heq⟩ := hdb.only k _ hk
  obtain ⟨rfl, rfl⟩ := invoiceNumber_inj (hnumber.symm.trans heq)
  omega

/-- A committed transaction: its invoice has the number drawn, and so has the sequence. -/
structure InvoiceStored (db : Db) (tenantId : Uuid) (d : DrawnNumber) (db' : Db) : Prop where
  invoices : ∃ row, row.tenantId = tenantId ∧ row.invoiceNumber = d.number ∧
    db'.invoices = db.invoices.insert row
  sequences : db'.documentSequences = (d.record db tenantId).documentSequences

theorem InvoiceStored.hasNumber {d : DrawnNumber} (h : InvoiceStored db t₀ d db') :
    db'.HasNumber t k number ↔
      (k = db.invoices.next ∧ t₀ = t ∧ d.number = number) ∨ db.HasNumber t k number := by
  obtain ⟨row, rfl, hnumber, hrows⟩ := h.invoices
  rw [Db.hasNumber_insert hrows, hnumber]

theorem InvoiceStored.lastNumber {d : DrawnNumber} {y₀ n₀ : ℕ} (h : InvoiceStored db t₀ d db')
    (hd : d.sequence = some (y₀, n₀)) (y : ℕ) : db'.lastNumber t .invoice y =
      if t = t₀ ∧ y = y₀ then n₀ else db.lastNumber t .invoice y := by
  rw [Db.lastNumber_congr h.sequences, DrawnNumber.record, hd]
  simp only [Db.lastNumber_setLastNumber, true_and]

theorem InvoiceStored.gapless {d : DrawnNumber} (h : InvoiceStored db t₀ d db')
    (hnext : d.IsNext db t₀) (hdb : db.Gapless t) : db'.Gapless t := by
  obtain ⟨y₀, hd, hnumber⟩ := hnext.drawn
  by_cases ht : t = t₀
  · subst ht
    have hlast : ∀ y, db'.lastNumber t .invoice y =
        db.lastNumber t .invoice y + if y = y₀ then 1 else 0 := by
      intro y
      rw [h.lastNumber hd]
      split_ifs <;> simp_all
    have hnew : db'.HasNumber t db.invoices.next d.number :=
      h.hasNumber.mpr (.inl ⟨rfl, rfl, rfl⟩)
    constructor
    · intro y n hpos hle
      rw [hlast] at hle
      by_cases hlater : n ≤ db.lastNumber t .invoice y
      · -- a number committed before stays where it is
        obtain ⟨k, hk, honly⟩ := hdb.used y n hpos hlater
        refine ⟨k, h.hasNumber.mpr (.inr hk), fun j hj => ?_⟩
        rcases h.hasNumber.mp hj with ⟨-, -, hsame⟩ | hold
        · exact absurd (hsame ▸ hk) (hnext.unused hdb k)
        · exact honly j hold
      · have hy : y = y₀ := by
          by_contra hne
          simp only [hne, if_false] at hle
          omega
        subst hy
        obtain rfl : n = db.lastNumber t .invoice y + 1 := by
          simp only [if_true] at hle
          omega
        rw [← hnumber]
        refine ⟨_, hnew, fun j hj => ?_⟩
        rcases h.hasNumber.mp hj with ⟨hj, -, -⟩ | hold
        · exact hj
        · exact absurd hold (hnext.unused hdb j)
    · intro k number hk
      rcases h.hasNumber.mp hk with ⟨-, -, rfl⟩ | hold
      · exact ⟨y₀, _, Nat.le_add_left 1 _, by simp [hlast], hnumber⟩
      · obtain ⟨y, n, hpos, hle, rfl⟩ := hdb.only k number hold
        exact ⟨y, n, hpos, by rw [hlast]; omega, rfl⟩
  · refine hdb.congr (fun k number => ?_) fun y => ?_
    · rw [h.hasNumber]
      simp [Ne.symm ht]
    · rw [h.lastNumber hd]
      simp [ht]

end Rows

section Writes

variable {clock : Clock} {db db' : Db} {invoice : InvoiceEntity}

theorem storeInvoice_ok {p : PreparedInvoice} {d : DrawnNumber}
    {r : CreateInvoiceTransactionResult} (h : storeInvoice clock db invoice p d = .ok (db', r)) :
    InvoiceStored db invoice.tenantId d db' := by
  obtain ⟨⟨opened, accountId, account⟩, hfound, h₁⟩ := Outcome.bind_eq_ok.mp h
  obtain ⟨row, hrow, h₂⟩ := Outcome.bind_eq_ok.mp h₁
  obtain ⟨⟨inserted, invoiceId⟩, hinsert, h₃⟩ := Outcome.bind_eq_ok.mp h₂
  obtain ⟨snapped, hsnap, h₄⟩ := Outcome.bind_eq_ok.mp h₃
  obtain ⟨offset, hoffset, h₅⟩ := Outcome.bind_eq_ok.mp h₄
  obtain ⟨⟨debited, newBalance⟩, hdebit, h₆⟩ := Outcome.bind_eq_ok.mp h₅
  obtain ⟨debit, -, hlast⟩ := Outcome.bind_eq_ok.mp h₆
  clear h h₁ h₂ h₃ h₄ h₅ h₆
  obtain ⟨accounts, rfl, -⟩ := findOrCreateAccount_ok hfound
  obtain ⟨rfl, rfl, -⟩ := insertInvoice_ok hinsert
  obtain ⟨rows, rfl⟩ := snapshotItems_frame hsnap
  obtain ⟨payment, rfl, -, -⟩ := recordAdvanceOffset_ok hoffset
  obtain ⟨accounts', rfl⟩ := debitAccount_frame hdebit
  cases Outcome.pure_eq_ok.mp hlast
  have hframe := d.record_frame { db with currentAccounts := accounts } invoice.tenantId
  have hstored := invoiceRow_ok hrow
  refine ⟨⟨row, hstored.tenantId, hstored.invoiceNumber, ?_⟩, ?_⟩
  · simp only [completeWorkOrder, Db.addCariMovement]
    rw [hframe]
  · simp only [completeWorkOrder, Db.addCariMovement, DrawnNumber.record]
    cases d.sequence <;> rfl

theorem updateEInvoiceDetails_frame {tenantId id : Uuid} {d : EInvoiceDetails}
    (h : updateEInvoiceDetails db tenantId id d = .ok db') :
    db' = { db with invoices := db.invoices.modify id d.apply } := by
  obtain ⟨inv, -, h₁⟩ := Outcome.bind_eq_ok.mp h
  exact (Outcome.pure_eq_ok.mp h₁).symm

theorem Db.hasNumber_detailed {t k id : Uuid} {number : String} (d : EInvoiceDetails) :
    Db.HasNumber { db with invoices := db.invoices.modify id d.apply } t k number ↔
      db.HasNumber t k number := by
  simp only [HasNumber, Db.invoice?_eq_some, Table.get?_modify]
  cases db.invoices.get? k with
  | none => simp
  | some inv =>
    simp only [Option.map_some, Option.some.injEq]
    split_ifs
    · constructor
      · rintro ⟨_, ⟨rfl, rfl⟩, rfl⟩
        exact ⟨inv, ⟨rfl, rfl⟩, rfl⟩
      · rintro ⟨_, ⟨rfl, rfl⟩, rfl⟩
        exact ⟨_, ⟨rfl, rfl⟩, rfl⟩
    · rfl

end Writes

section Steps

variable {s : InvoiceServer} {t : InvoiceTask} {env : InvoiceEnv}

def InvoiceTask.drawn? : InvoiceTask → Option (Uuid × DrawnNumber)
  | .store r _ _ d => some (r.tenantId, d)
  | _ => none

inductive InvoiceEffect (s : InvoiceServer) (t : InvoiceTask) : InvoiceServer × InvoiceTask → Prop
  | goesOn {t' : InvoiceTask} (locks : t'.locks = t.locks) (undrawn : t'.drawn? = none) :
      InvoiceEffect s t (s, t')
  | aborts {answer : Outcome Unit} :
      InvoiceEffect s t ({ s with locks := t.release s }, .finished answer)
  | locks {r : InvoiceRequest} {opened : Clock} (free : r.lock ∉ s.locks) (unlocked : t.locks = []) :
      InvoiceEffect s t ({ s with locks := r.lock :: s.locks }, .prepare r opened)
  | draws {r : InvoiceRequest} {opened : Clock} {p : PreparedInvoice} {d : DrawnNumber}
      (locked : t.locks = [r.lock]) (free : ∀ l ∈ d.locks r.tenantId, l ∉ s.locks)
      (next : d.IsNext s.db r.tenantId) :
      InvoiceEffect s t
        ({ s with locks := d.locks r.tenantId ++ s.locks }, .store r opened p d)
  | stores {tenantId : Uuid} {d : DrawnNumber} {db : Db} {t' : InvoiceTask}
      (drawn : t.drawn? = some (tenantId, d)) (locked : ∀ l ∈ d.locks tenantId, l ∈ t.locks)
      (h : InvoiceStored s.db tenantId d db) (unlocked : t'.locks = [])
      (undrawn : t'.drawn? = none) :
      InvoiceEffect s t ({ db, locks := t.release s }, t')
  | details {id : Uuid} {d : EInvoiceDetails} {answer : Outcome Unit} (unlocked : t.locks = []) :
      InvoiceEffect s t
        ({ s with db := { s.db with invoices := s.db.invoices.modify id d.apply } },
          .finished answer)

theorem InvoiceRequest.isUnnumbered (r : InvoiceRequest) (opened : Clock) :
    (r.invoice opened).isUnnumbered = true := by
  simp [invoice, CreateInvoiceInput.entity, r.unnumbered, InvoiceEntity.isUnnumbered, firstText]

namespace InvoiceTask

theorem afterStore_cases (env : InvoiceEnv) (r : InvoiceRequest) (id : Uuid) :
    (afterStore env r id).locks = [] ∧ (afterStore env r id).drawn? = none := by
  unfold afterStore
  split <;> exact ⟨rfl, rfl⟩

theorem run_effect (s : InvoiceServer) (t : InvoiceTask) (env : InvoiceEnv) :
    InvoiceEffect s t (t.run s env) := by
  cases t with
  | execute r => exact .goesOn rfl rfl
  | lock r opened =>
    simp only [run]
    split_ifs with hfree
    · exact .goesOn rfl rfl
    · exact .locks hfree rfl
  | prepare r opened =>
    simp only [run]
    split
    · exact .aborts
    · exact .goesOn rfl rfl
  | draw r opened p =>
    simp only [run]
    split_ifs with hfree
    · exact .goesOn rfl rfl
    · split
      · exact .aborts
      · next d hdraw =>
        obtain ⟨n, rfl, hnumber, hsequence⟩ := drawNumber_ok (r.isUnnumbered opened) hdraw
        refine .draws rfl (fun l hl => ?_) ⟨_, hsequence, hnumber⟩
        rw [DrawnNumber.locks, hsequence] at hl
        obtain rfl : l = .sequence r.tenantId env.clock.year := by simpa using hl
        exact hfree
  | store r opened p d =>
    simp only [run]
    split
    · exact .aborts
    · next db result hstore =>
      obtain ⟨hlocks, hdrawn⟩ := afterStore_cases env r result.invoiceId
      exact .stores rfl (fun l hl => List.mem_cons_of_mem _ hl) (storeInvoice_ok hstore) hlocks
        hdrawn
  | eInvoice tenantId id details =>
    simp only [run]
    split
    · exact .aborts
    · next db hupdate =>
      obtain rfl := updateEInvoiceDetails_frame hupdate
      exact .details rfl
  | finished answer => exact .goesOn rfl rfl

theorem exec_effect (s : InvoiceServer) (t : InvoiceTask) (env : InvoiceEnv) :
    InvoiceEffect s t (t.exec s env) := by
  unfold exec
  split
  · exact .goesOn rfl rfl
  · cases env.failure with
    | none => exact t.run_effect s env
    | some e => exact .aborts

theorem mem_release {l : InvoiceLock} : l ∈ t.release s ↔ l ∈ s.locks ∧ l ∉ t.locks := by
  simp [release]

theorem disciplined : Pool.Disciplined (fun (s : InvoiceServer) l => l ∈ s.locks)
    (fun t l => l ∈ InvoiceTask.locks t) InvoiceTask.execute InvoiceTask.exec where
  starts := by
    intro r l hl
    cases hl
  registers := by
    intro s t env hheld l hl
    revert hl
    have heffect := t.exec_effect s env
    generalize t.exec s env = next at heffect ⊢
    cases heffect with
    | goesOn locks => exact fun hl => hheld l (locks ▸ hl)
    | aborts => exact fun hl => absurd hl List.not_mem_nil
    | locks free unlocked =>
      intro hl
      rw [List.mem_singleton.mp hl]
      exact List.mem_cons_self
    | draws locked free next =>
      intro hl
      rcases List.mem_cons.mp hl with rfl | hl
      · exact List.mem_append_right _ (hheld _ (locked ▸ List.mem_cons_self))
      · exact List.mem_append_left _ hl
    | stores drawn locked h unlocked => exact fun hl => absurd (unlocked ▸ hl) List.not_mem_nil
    | details => exact fun hl => absurd hl List.not_mem_nil
  acquires := by
    intro s t env l hl
    revert hl
    have heffect := t.exec_effect s env
    generalize t.exec s env = next at heffect ⊢
    cases heffect with
    | goesOn locks => exact fun hl => .inl (locks ▸ hl)
    | aborts => exact fun hl => absurd hl List.not_mem_nil
    | locks free unlocked =>
      intro hl
      rw [List.mem_singleton.mp hl]
      exact .inr free
    | draws locked free next =>
      intro hl
      rcases List.mem_cons.mp hl with rfl | hl
      · exact .inl (locked ▸ List.mem_cons_self)
      · exact .inr (free l hl)
    | stores drawn locked h unlocked => exact fun hl => absurd (unlocked ▸ hl) List.not_mem_nil
    | details => exact fun hl => absurd hl List.not_mem_nil
  releases := by
    intro s t env l hl
    have heffect := t.exec_effect s env
    generalize t.exec s env = next at heffect ⊢
    cases heffect with
    | goesOn | details => exact .inl hl
    | locks => exact .inl (List.mem_cons_of_mem _ hl)
    | draws => exact .inl (List.mem_append_right _ hl)
    | aborts | stores =>
      by_cases hheld : l ∈ t.locks
      · exact .inr hheld
      · exact .inl (mem_release.mpr ⟨hl, hheld⟩)

end InvoiceTask

/-- What a thread relies on: the number that it has drawn is still the next one. -/
def InvoiceTask.RelyOn (s : InvoiceServer) (t : InvoiceTask) : Prop :=
  ∀ tenantId d, t.drawn? = some (tenantId, d) → d.IsNext s.db tenantId

theorem InvoiceStored.isNext {db db' : Db} {t₀ t₁ : Uuid} {d d₁ : DrawnNumber}
    (h : InvoiceStored db t₀ d db') (hd : d.IsNext db t₀) (h₁ : d₁.IsNext db t₁)
    (hdisjoint : ∀ l ∈ d.locks t₀, l ∉ d₁.locks t₁) : d₁.IsNext db' t₁ := by
  obtain ⟨y, hsequence, -⟩ := hd.drawn
  obtain ⟨y₁, hsequence₁, hnumber₁⟩ := h₁.drawn
  have hother : ¬ (t₁ = t₀ ∧ y₁ = y) := by
    rintro ⟨rfl, rfl⟩
    refine hdisjoint (.sequence t₁ y₁) ?_ ?_
    · simp [DrawnNumber.locks, hsequence]
    · simp [DrawnNumber.locks, hsequence₁]
  have hlast : db'.lastNumber t₁ .invoice y₁ = db.lastNumber t₁ .invoice y₁ := by
    rw [h.lastNumber hsequence, if_neg hother]
  exact ⟨y₁, by rw [hlast, hsequence₁], by rw [hlast, hnumber₁]⟩

theorem InvoiceTask.locks_of_drawn {t : InvoiceTask} {tenantId : Uuid} {d : DrawnNumber}
    (h : t.drawn? = some (tenantId, d)) : ∀ l ∈ d.locks tenantId, l ∈ t.locks := by
  cases t with
  | store r opened p d' =>
    cases h
    exact fun l hl => List.mem_cons_of_mem _ hl
  | _ => cases h

/-- Every part of a request keeps the numbers gapless, and the numbers that are drawn by
transactions with other locks next. -/
theorem InvoiceEffect.keeps {s : InvoiceServer} {t : InvoiceTask}
    {next : InvoiceServer × InvoiceTask} (h : InvoiceEffect s t next)
    (hdb : ∀ tenantId, s.db.Gapless tenantId) (ht : t.RelyOn s) :
    (∀ tenantId, next.1.db.Gapless tenantId) ∧ next.2.RelyOn next.1 ∧
      ∀ u : InvoiceTask, (∀ l, l ∈ t.locks → l ∉ u.locks) → u.RelyOn s → u.RelyOn next.1 := by
  have hnone : ∀ {s : InvoiceServer} {t : InvoiceTask}, t.drawn? = none → t.RelyOn s := by
    intro s t hnone tenantId d hd
    rw [hnone] at hd
    cases hd
  cases h with
  | goesOn locks undrawn => exact ⟨hdb, hnone undrawn, fun u _ hu => hu⟩
  | aborts => exact ⟨hdb, hnone rfl, fun u _ hu => hu⟩
  | locks free => exact ⟨hdb, hnone rfl, fun u _ hu => hu⟩
  | draws locked free next =>
    refine ⟨hdb, ?_, fun u _ hu => hu⟩
    intro tenantId d hd
    cases hd
    exact next
  | stores drawn locked h unlocked undrawn =>
    have hnext := ht _ _ drawn
    refine ⟨fun tenantId => h.gapless hnext (hdb tenantId), hnone undrawn, ?_⟩
    intro u hdisjoint hu tenantId d hd
    refine h.isNext hnext (hu tenantId d hd) fun l hl hl' => ?_
    exact hdisjoint l (locked l hl) (InvoiceTask.locks_of_drawn hd l hl')
  | @details id d answer unlocked =>
    refine ⟨fun tenantId => ?_, hnone rfl, fun u _ hu => ?_⟩
    · exact (hdb tenantId).congr (fun k number => Db.hasNumber_detailed d) fun y => rfl
    · intro tenantId d hd
      exact ⟨(hu tenantId d hd).drawn⟩

end Steps

/-- In every interleaving of calls, with transactions that fail at any part, the invoices of
each tenant have the numbers of each year without a gap, and no transaction is about to commit
a number in use. Different places in a sequence have different numbers. -/
theorem invoice_numbers_gapless (db : Db) (hdb : ∀ tenantId, db.Gapless tenantId)
    (actions : List (PoolAction InvoiceRequest InvoiceEnv)) :
    Always InvoicePool.act
      (fun p => (∀ tenantId, p.shared.db.Gapless tenantId) ∧ p.NumbersUnused)
      (Pool.idle { db, locks := [] }) actions ∧
    ∀ year, Function.Injective (invoiceNumber year) := by
  refine ⟨?_, fun year n n' h => (invoiceNumber_inj h).2⟩
  have hrun := Pool.always_holds_of_locks InvoiceTask.disciplined
    (fun _ _ _ _ _ hd => by cases hd)
    (fun s t env hs ht => (t.exec_effect s env).keeps hs ht) (s := { db, locks := [] }) hdb actions
  refine hrun.mono fun p hp => ⟨hp.1, ?_⟩
  intro i r opened q d hi k
  exact (hp.2 i _ hi r.tenantId d rfl).unused (hp.1 r.tenantId) k

section Sample

theorem Db.gapless_of_none {db : Db} (hinvoices : ∀ k, db.invoices.get? k = none)
    (hsequences : ∀ k, db.documentSequences.get? k = none) (t : Uuid) : db.Gapless t := by
  constructor
  · intro y n hpos hle
    have hlast : db.lastNumber t .invoice y = 0 := by
      unfold Db.lastNumber
      cases hfound : db.documentSequences.find? fun q => q.isFor t .invoice y with
      | none => rfl
      | some found =>
        have hrow := (Table.find?_some hfound).1
        rw [hsequences] at hrow
        cases hrow
    omega
  · rintro k number ⟨inv, hinv, -⟩
    simp [Db.invoice?_eq_some, hinvoices] at hinv

def twoCustomers : Db := { sampleDb with customers := .ofList [sampleCustomer, sampleCustomer] }

def washRequest (customerId : Uuid) : InvoiceRequest where
  tenantId := 0
  dto :=
    { workOrderId := none, customerId, dueDate := 0, subtotal := none, kdvAmount := none,
      grandTotal := some 12, offsetAdvanceAmount := none, invoiceNumber := none,
      gibInvoiceNumber := none, items := none, notes := none, profileId := none }
  unnumbered := rfl

def washEnv (failure : Option ApiError) : InvoiceEnv where
  clock := sampleEnv.clock
  failure := failure
  eInvoice := .noProvider

/-- Two customers at once. The first request fails after its draw; the second one draws
when the lock of the sequence is free again. -/
def failingDraw : List (PoolAction InvoiceRequest InvoiceEnv) :=
  [.start (washRequest 0), .start (washRequest 1)] ++
  ([0, 1, 0, 1, 0, 1, 0, 1].map fun i => .step i (washEnv none)) ++
  [.step 0 (washEnv (some (.database "57014"))), .step 1 (washEnv none), .step 1 (washEnv none)]

example : ((run InvoicePool.act (Pool.idle { db := twoCustomers, locks := [] })
    failingDraw).shared.db.invoices.get? 0).map Invoice.invoiceNumber =
      some (invoiceNumber 2026 1) := by
  decide +kernel

theorem sample_numbers_gapless :
    Always InvoicePool.act
      (fun p => (∀ tenantId, p.shared.db.Gapless tenantId) ∧ p.NumbersUnused)
      (Pool.idle { db := twoCustomers, locks := [] }) failingDraw ∧
    ∀ year, Function.Injective (invoiceNumber year) :=
  invoice_numbers_gapless twoCustomers
    (Db.gapless_of_none (fun _ => rfl) fun _ => rfl) failingDraw

end Sample

end WorksAuto
