import Mathlib.Tactic.Common
import Mathlib.Tactic.IntervalCases

/-! The text of a JSON array of strings, as `JSON.stringify` writes it.
A quoted string ends at the first quote that is not escaped, so the text
determines the strings. -/

namespace WorksAuto.Lib.Json

def hexDigit (n : ℕ) : Char := (Nat.toDigits 16 n).headD '0'

def shortEscape (c : Char) : Option Char :=
  match c.toNat with
  | 8 => some 'b'
  | 9 => some 't'
  | 10 => some 'n'
  | 12 => some 'f'
  | 13 => some 'r'
  | _ => none

def escape (c : Char) : List Char :=
  if c = '"' ∨ c = '\\' then ['\\', c]
  else if c.toNat < 32 then
    match shortEscape c with
    | some letter => ['\\', letter]
    | none => ['\\', 'u', '0', '0', hexDigit (c.toNat / 16), hexDigit (c.toNat % 16)]
  else [c]

/-- The characters of a quoted string after its opening quote, with what follows it. -/
def quoted (s : List Char) (rest : List Char) : List Char := s.flatMap escape ++ '"' :: rest

def others : List String → List Char
  | [] => [']']
  | s :: rest => ',' :: '"' :: quoted s.toList (others rest)

def elements : List String → List Char
  | [] => [']']
  | s :: rest => '"' :: quoted s.toList (others rest)

/-- `JSON.stringify` of an array of strings. -/
def stringify (xs : List String) : String := String.ofList ('[' :: elements xs)

example : stringify ["a\"b", "\n"] = "[\"a\\\"b\",\"\\n\"]" := by decide +kernel

def hexValue (c : Char) : ℕ := if c.isDigit then c.toNat - 48 else c.toNat - 87

def shortValue (c : Char) : Char :=
  match c with
  | 'b' => Char.ofNat 8
  | 't' => Char.ofNat 9
  | 'n' => Char.ofNat 10
  | 'f' => Char.ofNat 12
  | 'r' => Char.ofNat 13
  | other => other

def unescape : List Char → Option (Char × List Char)
  | [] => none
  | c :: rest =>
    if c = '"' then none
    else if c = '\\' then
      match rest with
      | 'u' :: '0' :: '0' :: a :: b :: rest => some (Char.ofNat (16 * hexValue a + hexValue b), rest)
      | letter :: rest => some (shortValue letter, rest)
      | [] => none
    else some (c, rest)

theorem unescape_control {n : ℕ} (hn : n < 32) (rest : List Char) :
    unescape (escape (Char.ofNat n) ++ rest) = some (Char.ofNat n, rest) := by
  interval_cases n <;> rfl

theorem unescape_escape (c : Char) (rest : List Char) :
    unescape (escape c ++ rest) = some (c, rest) := by
  by_cases hquote : c = '"'
  · subst hquote
    rfl
  by_cases hslash : c = '\\'
  · subst hslash
    rfl
  by_cases hcontrol : c.toNat < 32
  · have h := unescape_control hcontrol rest
    rwa [Char.ofNat_toNat] at h
  · simp [escape, unescape, hquote, hslash, hcontrol]

theorem quoted_nil (rest : List Char) : unescape (quoted [] rest) = none := rfl

theorem quoted_cons (c : Char) (s rest : List Char) :
    unescape (quoted (c :: s) rest) = some (c, quoted s rest) := by
  rw [quoted, List.flatMap_cons, List.append_assoc, unescape_escape, quoted]

theorem quoted_injective {s t rest rest' : List Char} (h : quoted s rest = quoted t rest') :
    s = t ∧ rest = rest' := by
  induction s generalizing t with
  | nil =>
    cases t with
    | nil => exact ⟨rfl, (List.cons.inj h).2⟩
    | cons d t =>
      have hread := congrArg unescape h
      rw [quoted_nil, quoted_cons] at hread
      cases hread
  | cons c s ih =>
    cases t with
    | nil =>
      have hread := congrArg unescape h
      rw [quoted_nil, quoted_cons] at hread
      cases hread
    | cons d t =>
      have hread := congrArg unescape h
      rw [quoted_cons, quoted_cons, Option.some.injEq, Prod.mk.injEq] at hread
      obtain ⟨rfl, hrest⟩ := hread
      obtain ⟨rfl, hend⟩ := ih hrest
      exact ⟨rfl, hend⟩

theorem others_injective {xs ys : List String} (h : others xs = others ys) : xs = ys := by
  induction xs generalizing ys with
  | nil =>
    cases ys with
    | nil => rfl
    | cons t ts => simp [others] at h
  | cons s rest ih =>
    cases ys with
    | nil => simp [others] at h
    | cons t ts =>
      simp only [others, List.cons.injEq, true_and] at h
      obtain ⟨hst, hrest⟩ := quoted_injective h
      rw [String.toList_inj.mp hst, ih hrest]

theorem elements_injective {xs ys : List String} (h : elements xs = elements ys) : xs = ys := by
  cases xs with
  | nil =>
    cases ys with
    | nil => rfl
    | cons t ts => simp [elements] at h
  | cons s rest =>
    cases ys with
    | nil => simp [elements] at h
    | cons t ts =>
      simp only [elements, List.cons.injEq, true_and] at h
      obtain ⟨hst, hrest⟩ := quoted_injective h
      rw [String.toList_inj.mp hst, others_injective hrest]

theorem stringify_injective {xs ys : List String} (h : stringify xs = stringify ys) : xs = ys := by
  have hchars := congrArg String.toList h
  simp only [stringify, String.toList_ofList, List.cons.injEq, true_and] at hchars
  exact elements_injective hchars

end WorksAuto.Lib.Json
