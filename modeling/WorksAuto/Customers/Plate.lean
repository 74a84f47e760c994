import WorksAuto.Values
import Mathlib.Tactic.IntervalCases

/-! Vehicle plates and their two normal forms.
`normalizePlate` keeps single blanks between the parts of a plate, the other
entry points take all blanks out. Both are the same plate once every blank is
gone and every letter is a capital. -/

namespace WorksAuto.Customers

/-- `toUpperCase()`, character by character, by the tables of Unicode: blanks stay, no
other character becomes one, and a second application changes nothing. -/
structure UpperCase where
  upper : Char → List Char
  upper_space : ∀ c, isJsSpace c = true → upper c = [c]
  upper_not_space : ∀ c, isJsSpace c = false → ∀ d ∈ upper c, isJsSpace d = false
  upper_upper : ∀ c, (upper c).flatMap upper = upper c

def squeeze : List Char → List Char
  | c :: d :: rest =>
    if isJsSpace c && isJsSpace d then squeeze (d :: rest)
    else (if isJsSpace c then ' ' else c) :: squeeze (d :: rest)
  | [c] => [if isJsSpace c then ' ' else c]
  | [] => []

def withoutSpaces (text : List Char) : List Char := text.filter fun c => !isJsSpace c

section Normalize

variable (uc : UpperCase)

def toUpperCase (text : String) : String := String.ofList (text.toList.flatMap uc.upper)

/-- `VehicleEntity.normalizePlate`. -/
def normalizePlate (plate : String) : String :=
  String.ofList (squeeze (toUpperCase uc (jsTrim plate)).toList)

/-- `plate.toUpperCase().replace(/\s+/g, '')`. -/
def cleanPlate (plate : String) : String :=
  String.ofList (withoutSpaces (toUpperCase uc plate).toList)

def compactPlate (plate : String) : List Char := withoutSpaces (plate.toList.flatMap uc.upper)

end Normalize

section Compact

variable {uc : UpperCase}

theorem withoutSpaces_squeeze (text : List Char) : withoutSpaces (squeeze text) = withoutSpaces text := by
  have hblank : isJsSpace ' ' = true := rfl
  induction text using squeeze.induct with
  | case1 c d rest hboth ih =>
    rw [squeeze, if_pos hboth, ih]
    rw [Bool.and_eq_true] at hboth
    simp [withoutSpaces, hboth.1]
  | case2 c d rest hnot ih =>
    rw [squeeze, if_neg hnot]
    unfold withoutSpaces at ih ⊢
    rw [List.filter_cons, ih]
    cases hc : isJsSpace c <;> simp [hc, hblank]
  | case3 c => cases hc : isJsSpace c <;> simp [squeeze, withoutSpaces, hc, hblank]
  | case4 => rfl

theorem withoutSpaces_flatMap (text : List Char) :
    withoutSpaces (text.flatMap uc.upper) = (withoutSpaces text).flatMap uc.upper := by
  induction text with
  | nil => rfl
  | cons c rest ih =>
    unfold withoutSpaces at ih ⊢
    rw [List.flatMap_cons, List.filter_append, ih]
    cases hc : isJsSpace c with
    | true => simp [uc.upper_space c hc, hc]
    | false =>
      have hall : (uc.upper c).filter (fun d => !isJsSpace d) = uc.upper c :=
        List.filter_eq_self.mpr fun d hd => by simp [uc.upper_not_space c hc d hd]
      rw [hall, List.filter_cons_of_pos (by simp [hc]), List.flatMap_cons]

theorem flatMap_upper_upper (text : List Char) :
    (text.flatMap uc.upper).flatMap uc.upper = text.flatMap uc.upper := by
  rw [List.flatMap_assoc]
  congr 1
  funext c
  exact uc.upper_upper c

theorem withoutSpaces_dropWhile (text : List Char) :
    withoutSpaces (text.dropWhile isJsSpace) = withoutSpaces text := by
  induction text with
  | nil => rfl
  | cons c rest ih =>
    rw [List.dropWhile_cons]
    split_ifs with hc
    · rw [ih]
      simp [withoutSpaces, hc]
    · rfl

theorem withoutSpaces_reverse (text : List Char) :
    withoutSpaces text.reverse = (withoutSpaces text).reverse := List.filter_reverse ..

theorem withoutSpaces_jsTrim (text : String) :
    withoutSpaces (jsTrim text).toList = withoutSpaces text.toList := by
  rw [jsTrim, String.toList_ofList, withoutSpaces_reverse, withoutSpaces_dropWhile,
    withoutSpaces_reverse, withoutSpaces_dropWhile, List.reverse_reverse]

theorem compactPlate_normalizePlate (plate : String) :
    compactPlate uc (normalizePlate uc plate) = compactPlate uc plate := by
  simp only [compactPlate, normalizePlate, toUpperCase, String.toList_ofList]
  rw [withoutSpaces_flatMap, withoutSpaces_squeeze, withoutSpaces_flatMap, withoutSpaces_jsTrim,
    flatMap_upper_upper, ← withoutSpaces_flatMap]

theorem compactPlate_jsTrim (plate : String) :
    compactPlate uc (jsTrim plate) = compactPlate uc plate := by
  rw [compactPlate, withoutSpaces_flatMap, withoutSpaces_jsTrim, ← withoutSpaces_flatMap,
    compactPlate]

theorem withoutSpaces_withoutSpaces (text : List Char) :
    withoutSpaces (withoutSpaces text) = withoutSpaces text := by
  simp [withoutSpaces, List.filter_filter]

theorem compactPlate_cleanPlate (plate : String) :
    compactPlate uc (cleanPlate uc plate) = compactPlate uc plate := by
  simp only [compactPlate, cleanPlate, toUpperCase, String.toList_ofList]
  rw [withoutSpaces_flatMap, withoutSpaces_withoutSpaces, ← withoutSpaces_flatMap,
    flatMap_upper_upper]

end Compact

section Ascii

theorem isJsSpace_eq_false {c : Char} (hlow : 33 ≤ c.toNat) (hhigh : c.toNat ≤ 126) :
    isJsSpace c = false := by
  simp only [isJsSpace, Bool.or_eq_false_iff, Bool.and_eq_false_iff, beq_eq_false_iff_ne,
    decide_eq_false_iff_not]
  omega

theorem capital_toNat {n : ℕ} (hlow : 97 ≤ n) (hhigh : n ≤ 122) :
    (Char.ofNat (n - 32)).toNat = n - 32 := by
  interval_cases n <;> rfl

def asciiUpper : UpperCase where
  upper c := if 97 ≤ c.toNat ∧ c.toNat ≤ 122 then [Char.ofNat (c.toNat - 32)] else [c]
  upper_space := by
    intro c hc
    split_ifs with h
    · rw [isJsSpace_eq_false (by omega) (by omega)] at hc
      cases hc
    · rfl
  upper_not_space := by
    intro c hc d hd
    split_ifs at hd with h
    · obtain rfl := List.mem_singleton.mp hd
      have hvalue := capital_toNat h.1 h.2
      exact isJsSpace_eq_false (by omega) (by omega)
    · obtain rfl := List.mem_singleton.mp hd
      exact hc
  upper_upper := by
    intro c
    split_ifs with h
    · have hvalid : Nat.isValidChar (c.toNat - 32) := .inl (by omega)
      have hvalue := capital_toNat h.1 h.2
      rw [List.flatMap_singleton, hvalue, if_neg (by omega)]
    · rw [List.flatMap_singleton, if_neg h]

example : normalizePlate asciiUpper " 34 abc  123 " = "34 ABC 123" := by decide +kernel

end Ascii

end WorksAuto.Customers
