import Mathlib.Data.List.Basic
import Mathlib.Tactic.Common
import Mathlib.Tactic.IntervalCases

/-! Base64 with padding.
Three bytes are four digits of six bits each; one or two left-over bytes end in
`=`. Decoding returns the bytes, so the text determines them. -/

namespace WorksAuto.Lib.Base64

def digit (n : ℕ) : Char :=
  if n < 26 then Char.ofNat (65 + n)
  else if n < 52 then Char.ofNat (71 + n)
  else if n < 62 then Char.ofNat (n - 4)
  else if n = 62 then '+' else '/'

def encode : List ℕ → List Char
  | [] => []
  | [a] => [digit (a / 4), digit (a % 4 * 16), '=', '=']
  | [a, b] => [digit (a / 4), digit (a % 4 * 16 + b / 16), digit (b % 16 * 4), '=']
  | a :: b :: c :: rest =>
    digit (a / 4) :: digit (a % 4 * 16 + b / 16) :: digit (b % 16 * 4 + c / 64) ::
      digit (c % 64) :: encode rest

def value (c : Char) : ℕ :=
  if c = '+' then 62
  else if c = '/' then 63
  else if c.toNat < 58 then c.toNat + 4
  else if c.toNat < 91 then c.toNat - 65 else c.toNat - 71

def decode : List Char → List ℕ
  | w :: x :: y :: z :: rest =>
    let a := value w * 4 + value x / 16
    let b := value x % 16 * 16 + value y / 4
    let c := value y % 4 * 64 + value z
    if y = '=' then [a] else if z = '=' then [a, b] else a :: b :: c :: decode rest
  | _ => []

example : encode [77, 97, 110, 77] = "TWFuTQ==".toList := by decide +kernel

theorem value_digit {n : ℕ} (h : n < 64) : value (digit n) = n := by
  interval_cases n <;> rfl

theorem digit_ne_pad {n : ℕ} (h : n < 64) : digit n ≠ '=' := by
  interval_cases n <;> decide

theorem decode_encode (bytes : List ℕ) (h : ∀ b ∈ bytes, b < 256) :
    decode (encode bytes) = bytes := by
  induction bytes using encode.induct with
  | case1 => rfl
  | case2 a =>
    have ha := h a (by simp)
    rw [encode, decode, if_pos rfl, value_digit (by omega), value_digit (by omega)]
    congr 1
    omega
  | case3 a b =>
    have ha := h a (by simp)
    have hb := h b (by simp)
    rw [encode, decode, if_neg (digit_ne_pad (by omega)), if_pos rfl, value_digit (by omega),
      value_digit (by omega), value_digit (by omega)]
    congr 1
    · omega
    · congr 1
      omega
  | case4 a b c rest ih =>
    have ha := h a (by simp)
    have hb := h b (by simp)
    have hc := h c (by simp)
    rw [encode, decode, if_neg (digit_ne_pad (by omega)), if_neg (digit_ne_pad (by omega)),
      value_digit (by omega), value_digit (by omega), value_digit (by omega),
      value_digit (by omega), ih fun d hd => h d (by simp [hd])]
    congr 1
    · omega
    · congr 1
      · omega
      · congr 1
        omega

theorem encode_injective {bytes others : List ℕ} (hb : ∀ b ∈ bytes, b < 256)
    (ho : ∀ b ∈ others, b < 256) (h : encode bytes = encode others) : bytes = others := by
  rw [← decode_encode bytes hb, h, decode_encode others ho]

theorem length_le_length_encode (bytes : List ℕ) : bytes.length ≤ (encode bytes).length := by
  induction bytes using encode.induct with
  | case1 => exact le_rfl
  | case2 a => simp [encode]
  | case3 a b => simp [encode]
  | case4 a b c rest ih =>
    simp only [encode, List.length_cons]
    omega

section Text

def bytes (text : String) : List ℕ :=
  (text.toList.flatMap String.utf8EncodeChar).map UInt8.toNat

/-- `Buffer.from(text).toString('base64')`. -/
def ofText (text : String) : String := String.ofList (encode (bytes text))

theorem bytes_lt (text : String) : ∀ b ∈ bytes text, b < 256 := by
  intro b hb
  obtain ⟨u, -, rfl⟩ := List.mem_map.mp hb
  exact u.toNat_lt

theorem bytes_injective {s t : String} (h : bytes s = bytes t) : s = t := by
  have hlist : s.toList.flatMap String.utf8EncodeChar = t.toList.flatMap String.utf8EncodeChar :=
    List.map_injective_iff.mpr (fun _ _ => UInt8.toNat_inj.mp) h
  have hencode : s.toList.utf8Encode = t.toList.utf8Encode := by
    unfold List.utf8Encode
    rw [hlist]
  rw [String.utf8Encode_toList, String.utf8Encode_toList] at hencode
  exact String.toByteArray_inj.mp hencode

theorem ofText_injective {s t : String} (h : ofText s = ofText t) : s = t :=
  bytes_injective (encode_injective (bytes_lt s) (bytes_lt t) (String.ofList_injective h))

theorem length_le_length_bytes (text : String) : text.length ≤ (bytes text).length := by
  rw [← String.length_toList, bytes, List.length_map]
  induction text.toList with
  | nil => exact le_rfl
  | cons c rest ih =>
    have hpos : 0 < (String.utf8EncodeChar c).length :=
      List.length_pos_iff.mpr String.utf8EncodeChar_ne_nil
    rw [List.flatMap_cons, List.length_append, List.length_cons]
    omega

theorem length_le_length_ofText (text : String) : text.length ≤ (ofText text).length := by
  rw [ofText, String.length_ofList]
  exact (length_le_length_bytes text).trans (length_le_length_encode _)

end Text

end WorksAuto.Lib.Base64
