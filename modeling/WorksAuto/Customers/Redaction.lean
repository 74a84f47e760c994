import WorksAuto.IsoDate
import WorksAuto.Lib.Base64
import WorksAuto.Lib.HashChain
import WorksAuto.Lib.Json

/-! The compliance redaction log.
The hash of an entry is the base64 text of its predecessor's hash, of two ids and
of a time, joined by dashes. The time can be told from what stands before it and
the user's id has a fixed width, so on one predecessor the hash determines the
other three. -/

namespace WorksAuto.Customers

open Lib

/-- A value of a `uuid` column. -/
abbrev UuidValue := BitVec 128

/-- `count` hexadecimal digits. -/
def hexDigits : ℕ → ℕ → List Char
  | 0, _ => []
  | count + 1, n => hexDigits count (n / 16) ++ [Json.hexDigit (n % 16)]

def uuidText (id : UuidValue) : String :=
  let digits := hexDigits 32 id.toNat
  String.ofList (digits.take 8 ++ '-' :: (digits.drop 8).take 4 ++ '-' :: (digits.drop 12).take 4 ++
    '-' :: (digits.drop 16).take 4 ++ '-' :: digits.drop 20)

/-- A value of a `timestamptz(6)` column: microseconds since the epoch. -/
abbrev Timestamptz := ℤ

/-- The `Date` that the column is read as; it keeps whole milliseconds. -/
def Timestamptz.toDate (t : Timestamptz) : Instant := t / 1000

structure ComplianceRedactionLog where
  redactedCustomerId : UuidValue
  authorizedByUserId : UuidValue
  legalRequestRef : String
  affectedAuditLogIds : List Uuid
  previousHash : String
  currentHash : String
  createdAt : Timestamptz
  deriving DecidableEq, Repr

def genesisHash : String := "GENESIS_HASH_WORKSAUTO_KVKK_2026"

def redactionText (previousHash id authorizedByUserId : String) (time : Instant) : String :=
  previousHash ++ "-" ++ id ++ "-" ++ authorizedByUserId ++ "-" ++ toISOString time

def redactionHash (previousHash id authorizedByUserId : String) (time : Instant) : String :=
  Base64.ofText (redactionText previousHash id authorizedByUserId time)

section Hash

theorem length_hexDigits (count n : ℕ) : (hexDigits count n).length = count := by
  induction count generalizing n with
  | zero => rfl
  | succ count ih => rw [hexDigits, List.length_append, ih, List.length_singleton]

theorem hexValue_hexDigit {n : ℕ} (h : n < 16) : Json.hexValue (Json.hexDigit n) = n := by
  have hall : ∀ m < 16, Json.hexValue (Json.hexDigit m) = m := by decide +kernel
  exact hall n h

theorem hexDigits_injective {count m n : ℕ} (hm : m < 16 ^ count) (hn : n < 16 ^ count)
    (h : hexDigits count m = hexDigits count n) : m = n := by
  induction count generalizing m n with
  | zero =>
    rw [pow_zero] at hm hn
    omega
  | succ count ih =>
    rw [hexDigits, hexDigits] at h
    obtain ⟨hrest, hlast⟩ := List.append_inj' h rfl
    have hmod : m % 16 = n % 16 := by
      rw [← hexValue_hexDigit (Nat.mod_lt m (by norm_num)), (List.cons.inj hlast).1,
        hexValue_hexDigit (Nat.mod_lt n (by norm_num))]
    rw [pow_succ] at hm hn
    have hdiv := ih (Nat.div_lt_of_lt_mul (by omega)) (Nat.div_lt_of_lt_mul (by omega)) hrest
    omega

theorem length_uuidText (id : UuidValue) : (uuidText id).toList.length = 36 := by
  simp [uuidText, length_hexDigits]

theorem parts_injective {d e : List Char} (hd : d.length = 32) (he : e.length = 32)
    (h : d.take 8 ++ '-' :: (d.drop 8).take 4 ++ '-' :: (d.drop 12).take 4 ++
        '-' :: (d.drop 16).take 4 ++ '-' :: d.drop 20 =
      e.take 8 ++ '-' :: (e.drop 8).take 4 ++ '-' :: (e.drop 12).take 4 ++
        '-' :: (e.drop 16).take 4 ++ '-' :: e.drop 20) : d = e := by
  obtain ⟨h₁, hfifth⟩ := List.append_inj h (by simp [hd, he])
  obtain ⟨h₂, hfourth⟩ := List.append_inj h₁ (by simp [hd, he])
  obtain ⟨h₃, hthird⟩ := List.append_inj h₂ (by simp [hd, he])
  obtain ⟨hfirst, hsecond⟩ := List.append_inj h₃ (by simp [hd, he])
  have join : ∀ x : List Char, x.take 8 ++ ((x.drop 8).take 4 ++ ((x.drop 12).take 4 ++
      ((x.drop 16).take 4 ++ x.drop 20))) = x := by
    intro x
    rw [← List.drop_drop (i := 4) (j := 16), List.take_append_drop, ← List.drop_drop (i := 4) (j := 12),
      List.take_append_drop, ← List.drop_drop (i := 4) (j := 8), List.take_append_drop,
      List.take_append_drop]
  rw [← join d, ← join e, hfirst, (List.cons.inj hsecond).2, (List.cons.inj hthird).2,
    (List.cons.inj hfourth).2, (List.cons.inj hfifth).2]

theorem uuidText_injective {a b : UuidValue} (h : uuidText a = uuidText b) : a = b := by
  have hdigits := parts_injective (length_hexDigits 32 _) (length_hexDigits 32 _)
    (String.ofList_injective h)
  exact BitVec.eq_of_toNat_eq (hexDigits_injective (by simpa using a.isLt) (by simpa using b.isLt)
    hdigits)

theorem redactionText_toList (previousHash id authorizedByUserId : String) (time : Instant) :
    (redactionText previousHash id authorizedByUserId time).toList =
      (previousHash.toList ++ ['-'] ++ id.toList ++ ['-'] ++ authorizedByUserId.toList) ++
        '-' :: (toISOString time).toList := by
  simp [redactionText, String.toList_append]

theorem redactionHash_user {p q a b : String} {u v : UuidValue} {s t : Instant}
    (h : redactionHash p a (uuidText u) s = redactionHash q b (uuidText v) t) :
    p.toList ++ ['-'] ++ a.toList = q.toList ++ ['-'] ++ b.toList ∧ u = v ∧ s = t := by
  have htext := congrArg String.toList (Base64.ofText_injective h)
  rw [redactionText_toList, redactionText_toList] at htext
  obtain ⟨hids, htime⟩ := toISOString_suffix_injective htext
  obtain ⟨hfirst, huser⟩ := List.append_inj' hids (by rw [length_uuidText, length_uuidText])
  exact ⟨List.append_cancel_right hfirst, uuidText_injective (String.toList_inj.mp huser), htime⟩

theorem redactionHash_id {p a b : String} {u v : UuidValue} {s t : Instant}
    (h : redactionHash p a (uuidText u) s = redactionHash p b (uuidText v) t) :
    a = b ∧ u = v ∧ s = t := by
  obtain ⟨htext, huser, htime⟩ := redactionHash_user h
  exact ⟨String.toList_inj.mp (List.append_cancel_left htext), huser, htime⟩

theorem length_lt_redactionHash (previousHash id authorizedByUserId : String) (time : Instant) :
    previousHash.length < (redactionHash previousHash id authorizedByUserId time).length := by
  refine lt_of_lt_of_le ?_ (Base64.length_le_length_ofText _)
  simp only [redactionText, String.length_append]
  have hdash : "-".length = 1 := rfl
  omega

end Hash

end WorksAuto.Customers
