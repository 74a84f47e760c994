import Mathlib.Algebra.Order.Group.Defs
import Mathlib.Tactic.Abel
import Mathlib.Tactic.Linarith

/-! An account with advances.
Documents are issued, money is received, and documents are voided. Whatever is
settled on documents that stand is at most what they claim, and at most what was
received; an advance is the part of the credits that exceeds the debits, and
settling a new document from it cannot spend it twice. -/

namespace WorksAuto.Lib

variable {α : Type*} [AddCommGroup α] [LinearOrder α] [IsOrderedAddMonoid α]

structure Book (α : Type*) where
  debits : α
  credits : α
  settled : α

inductive BookEvent (α : Type*) where
  /-- A document of `total`, of which `offset` is settled from the advance. -/
  | issue (total offset : α)
  /-- Money received, of which `applied` settles a document that stands. -/
  | receive (amount applied : α)
  /-- A document of `total` is withdrawn; the `paid` part becomes an advance. -/
  | void (total paid : α)

namespace Book

def apply (b : Book α) : BookEvent α → Book α
  | .issue total offset =>
    { b with debits := b.debits + total, settled := b.settled + offset }
  | .receive amount applied =>
    { b with credits := b.credits + amount, settled := b.settled + applied }
  | .void total paid => { b with debits := b.debits - total, settled := b.settled - paid }

def Allows (b : Book α) : BookEvent α → Prop
  | .issue total offset => offset ≤ total ∧ (offset ≤ 0 ∨ offset ≤ b.credits - b.debits)
  | .receive amount applied => applied ≤ amount ∧ 0 ≤ amount ∧ b.settled + applied ≤ b.debits
  | .void total paid => 0 ≤ paid ∧ b.settled - paid ≤ b.debits - total

/-- No document is settled beyond its claim, and no money is spent twice. -/
structure Solvent (b : Book α) : Prop where
  settled_le_debits : b.settled ≤ b.debits
  settled_le_credits : b.settled ≤ b.credits

theorem Solvent.apply {b : Book α} (h : b.Solvent) {e : BookEvent α} (he : b.Allows e) :
    (b.apply e).Solvent := by
  obtain ⟨hd, hc⟩ := h
  cases e with
  | issue total offset =>
    obtain ⟨htotal, hoffset⟩ := he
    refine ⟨add_le_add hd htotal, ?_⟩
    rcases hoffset with hzero | hadvance
    · calc b.settled + offset ≤ b.settled + 0 := by gcongr
        _ ≤ b.credits := by rwa [add_zero]
    · calc b.settled + offset ≤ b.debits + (b.credits - b.debits) := add_le_add hd hadvance
        _ = b.credits := by abel
  | receive amount applied =>
    obtain ⟨happlied, hamount, hroom⟩ := he
    exact ⟨hroom, add_le_add hc happlied⟩
  | void total paid =>
    obtain ⟨hpaid, hroom⟩ := he
    refine ⟨hroom, ?_⟩
    calc b.settled - paid ≤ b.settled := sub_le_self _ hpaid
      _ ≤ b.credits := hc

end Book

end WorksAuto.Lib
