import Mathlib.Data.List.Basic
import Mathlib.Tactic.Common
import Mathlib.Tactic.IntervalCases

/-! The bytes of a text in UTF-8, and bytes written as hexadecimal digits.
Both read back: what is written is determined by the digits. -/

namespace WorksAuto.Lib.Bytes

def ofText (text : String) : List UInt8 := text.toList.flatMap String.utf8EncodeChar

def text? (bytes : List UInt8) : Option String := String.fromUTF8? bytes.toByteArray

theorem text?_ofText (text : String) : text? (ofText text) = some text := by
  have hbytes : (ofText text).toByteArray = text.toByteArray := text.utf8Encode_toList
  rw [text?, hbytes]
  exact dif_pos text.isValidUTF8

def digit (n : ℕ) : Char :=
  if n < 10 then Char.ofNat (48 + n) else Char.ofNat (87 + n)

def value (c : Char) : Option ℕ :=
  if '0' ≤ c ∧ c ≤ '9' then some (c.toNat - 48)
  else if 'a' ≤ c ∧ c ≤ 'f' then some (c.toNat - 87)
  else if 'A' ≤ c ∧ c ≤ 'F' then some (c.toNat - 55)
  else none

def toHex (bytes : List UInt8) : List Char :=
  bytes.flatMap fun b => [digit (b.toNat / 16), digit (b.toNat % 16)]

/-- `Buffer.from(text, 'hex')`: reading stops at the first pair that is no byte. -/
def ofHex : List Char → List UInt8
  | high :: low :: rest =>
    match value high, value low with
    | some h, some l => UInt8.ofNat (16 * h + l) :: ofHex rest
    | _, _ => []
  | _ => []

example : toHex [0, 255, 58] = "00ff3a".toList := by decide +kernel

theorem value_digit {n : ℕ} (h : n < 16) : value (digit n) = some n := by
  interval_cases n <;> decide

theorem ofHex_toHex (bytes : List UInt8) : ofHex (toHex bytes) = bytes := by
  induction bytes with
  | nil => rfl
  | cons b rest ih =>
    have hb := b.toNat_lt
    have hhigh := value_digit (n := b.toNat / 16) (by omega)
    have hlow := value_digit (n := b.toNat % 16) (by omega)
    have hbyte : UInt8.ofNat (16 * (b.toNat / 16) + b.toNat % 16) = b := by
      rw [Nat.div_add_mod, UInt8.ofNat_toNat]
    have hcons : toHex (b :: rest) =
        digit (b.toNat / 16) :: digit (b.toNat % 16) :: toHex rest := rfl
    rw [hcons, ofHex, hhigh, hlow, ih]
    exact congrArg (· :: rest) hbyte

theorem digit_ne_colon {n : ℕ} (h : n < 16) : digit n ≠ ':' := by
  interval_cases n <;> decide

theorem colon_not_mem_toHex (bytes : List UInt8) : ':' ∉ toHex bytes := by
  intro h
  obtain ⟨b, -, hb⟩ := List.mem_flatMap.mp h
  have hlt := b.toNat_lt
  rcases List.mem_pair.mp hb with hc | hc
  · exact digit_ne_colon (by omega) hc.symm
  · exact digit_ne_colon (by omega) hc.symm

end WorksAuto.Lib.Bytes
