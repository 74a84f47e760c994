import Mathlib.Data.UInt
import WorksAuto.Lib.Bytes

/-! `CryptoService`: integrator credentials at rest.
A text is stored as initial vector, tag and ciphertext in hexadecimal with `:`
between them. The cipher under the service's key is a parameter. -/

namespace WorksAuto
open Lib

/-- Authenticated encryption under one key. `encipher` gives the ciphertext and its
tag; what was sealed opens again. -/
structure Aead where
  encipher : List UInt8 → List UInt8 → List UInt8 × List UInt8
  decipher : List UInt8 → List UInt8 → List UInt8 → Option (List UInt8)
  decipher_encipher : ∀ iv plain,
    decipher iv (encipher iv plain).2 (encipher iv plain).1 = some plain

/-- What the callers know of the service; `encrypt` is given its random bytes. -/
structure ICryptoService where
  encrypt : List UInt8 → Option String → Option String
  decrypt : Option String → Option String

structure CryptoService where
  cipher : Aead
  /-- How Node reads bytes that are no UTF-8. -/
  replaced : List UInt8 → String

namespace CryptoService

variable (service : CryptoService)

def utf8 (bytes : List UInt8) : String := (Bytes.text? bytes).getD (service.replaced bytes)

def encrypt (iv : List UInt8) : Option String → Option String
  | none => none
  | some plainText =>
    if plainText = "" then none
    else
      let encrypted := service.cipher.encipher iv (Bytes.ofText plainText)
      some (String.ofList ([':'].intercalate
        [Bytes.toHex iv, Bytes.toHex encrypted.2, Bytes.toHex encrypted.1]))

def decrypt : Option String → Option String
  | none => none
  | some cipherText =>
    if cipherText = "" then none
    else
      match cipherText.toList.splitOn ':' with
      | [ivHex, authTagHex, encrypted] =>
        (service.cipher.decipher (Bytes.ofHex ivHex) (Bytes.ofHex authTagHex)
          (Bytes.ofHex encrypted)).map service.utf8
      -- a text that was stored before there was a key
      | _ => some cipherText

def interface : ICryptoService where
  encrypt := service.encrypt
  decrypt := service.decrypt

end CryptoService

namespace ICryptoService

/-- Every text that is not empty is stored as one that reads back. -/
structure Faithful (crypto : ICryptoService) : Prop where
  missing : crypto.decrypt none = none
  stores : ∀ iv text, text ≠ "" →
    ∃ stored, stored ≠ "" ∧ crypto.encrypt iv (some text) = some stored ∧
      crypto.decrypt (some stored) = some text

def plain : ICryptoService where
  encrypt _ text := text
  decrypt text := text

theorem plain_faithful : plain.Faithful where
  missing := rfl
  stores _ text h := ⟨text, h, rfl, rfl⟩

end ICryptoService

theorem CryptoService.decrypt_encrypt (service : CryptoService) (iv : List UInt8) {text : String}
    (h : text ≠ "") : service.decrypt (service.encrypt iv (some text)) = some text := by
  rw [encrypt, if_neg h]
  set sealed := service.cipher.encipher iv (Bytes.ofText text) with hsealed
  have hparts : ∀ part ∈ [Bytes.toHex iv, Bytes.toHex sealed.2, Bytes.toHex sealed.1],
      ':' ∉ part := by
    simp [Bytes.colon_not_mem_toHex]
  have hsplit := List.splitOn_intercalate ':' hparts (by simp)
  have hne : String.ofList ([':'].intercalate
      [Bytes.toHex iv, Bytes.toHex sealed.2, Bytes.toHex sealed.1]) ≠ "" := by
    intro hempty
    have hlist := congrArg String.toList hempty
    simp at hlist
  have hopen : service.cipher.decipher iv sealed.2 sealed.1 = some (Bytes.ofText text) := by
    rw [hsealed]
    exact service.cipher.decipher_encipher iv _
  simp only [decrypt, if_neg hne, String.toList_ofList, hsplit, Bytes.ofHex_toHex, hopen,
    Option.map_some, utf8, Bytes.text?_ofText, Option.getD_some]

theorem CryptoService.faithful (service : CryptoService) : service.interface.Faithful := by
  refine ⟨rfl, fun iv text h => ?_⟩
  cases hstored : service.encrypt iv (some text) with
  | none =>
    rw [encrypt, if_neg h] at hstored
    cases hstored
  | some stored =>
    have hread := service.decrypt_encrypt iv h
    rw [hstored] at hread
    refine ⟨stored, ?_, hstored, hread⟩
    rintro rfl
    cases hread

/-- The bytes complemented, with their sum as the tag: a cipher for concrete runs. -/
def sampleCipher : Aead where
  encipher _ plain := (plain.map (~~~ ·), [plain.sum])
  decipher _ tag cipher :=
    if tag = [(cipher.map (~~~ ·)).sum] then some (cipher.map (~~~ ·)) else none
  decipher_encipher _ plain := by
    have hback : (plain.map (~~~ ·)).map (~~~ ·) = plain := by
      rw [List.map_map]
      refine (List.map_congr_left fun b _ => ?_).trans (List.map_id plain)
      exact UInt8.not_not
    simp only [hback, if_true]

def sampleCrypto : CryptoService where
  cipher := sampleCipher
  replaced _ := "�"

end WorksAuto
