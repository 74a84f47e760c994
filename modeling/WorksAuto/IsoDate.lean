import WorksAuto.Values

/-! The text that `Date.prototype.toISOString` gives an instant.
Years, months and days are those of the proleptic Gregorian calendar, found as
ECMAScript defines them. The text determines the instant, and can be told from
what stands before it when a dash is in between. -/

namespace WorksAuto

section Calendar

def dayFromYear (y : ℤ) : ℤ := 365 * (y - 1970) + (y - 1969) / 4 - (y - 1901) / 100 + (y - 1601) / 400

def yearFromDay (day : ℤ) : ℤ :=
  let y := 1970 + 400 * day / 146097
  if day < dayFromYear y then y - 1 else if dayFromYear (y + 1) ≤ day then y + 1 else y

def isLeapYear (y : ℤ) : Bool := y % 4 = 0 && (y % 100 ≠ 0 || y % 400 = 0)

def monthLengths (leap : Bool) : List ℤ :=
  [31, if leap then 29 else 28, 31, 30, 31, 30, 31, 31, 30, 31, 30]

def splitMonth : List ℤ → ℤ → ℕ × ℤ
  | [], day => (1, day + 1)
  | length :: rest, day =>
    if day < length then (1, day + 1)
    else ((splitMonth rest (day - length)).1 + 1, (splitMonth rest (day - length)).2)

@[ext]
structure DateFields where
  year : ℤ
  month : ℕ
  date : ℤ
  deriving DecidableEq, Repr

def dateFields (day : ℤ) : DateFields :=
  let year := yearFromDay day
  let monthAndDate := splitMonth (monthLengths (isLeapYear year)) (day - dayFromYear year)
  { year, month := monthAndDate.1, date := monthAndDate.2 }

example : dateFields 20575 = { year := 2026, month := 5, date := 2 } := by decide +kernel

theorem dayWithinYear_bounds (day : ℤ) :
    0 ≤ day - dayFromYear (yearFromDay day) ∧ day - dayFromYear (yearFromDay day) < 400 := by
  simp only [yearFromDay]
  split_ifs with hbefore hafter <;> simp only [dayFromYear] at * <;> omega

theorem splitMonth_injective {lengths : List ℤ} {d e : ℤ}
    (h : splitMonth lengths d = splitMonth lengths e) : d = e := by
  induction lengths generalizing d e with
  | nil =>
    have hdate := congrArg Prod.snd h
    simp only [splitMonth] at hdate
    omega
  | cons length rest ih =>
    have positive : ∀ (ls : List ℤ) (x : ℤ), 1 ≤ (splitMonth ls x).1 := by
      intro ls x
      cases ls with
      | nil => exact le_rfl
      | cons l ls =>
        simp only [splitMonth]
        split_ifs
        · exact le_rfl
        · exact Nat.le_add_left 1 _
    have hmonth := congrArg Prod.fst h
    have hdate := congrArg Prod.snd h
    have hd := positive rest (d - length)
    have he := positive rest (e - length)
    simp only [splitMonth] at hmonth hdate
    split_ifs at hmonth hdate
    · omega
    · omega
    · omega
    · have hrest := ih (Prod.ext (Nat.add_right_cancel hmonth) hdate)
      omega

theorem dateFields_injective {d e : ℤ} (h : dateFields d = dateFields e) : d = e := by
  have hyear : yearFromDay d = yearFromDay e := congrArg DateFields.year h
  have hmonth := congrArg DateFields.month h
  have hdate := congrArg DateFields.date h
  simp only [dateFields, hyear] at hmonth hdate
  have hday := splitMonth_injective (Prod.ext hmonth hdate)
  omega

theorem splitMonth_bounds {lengths : List ℤ} (hlengths : ∀ l ∈ lengths, l ≤ 31) {day : ℤ}
    (hlow : 0 ≤ day) (hhigh : day < lengths.sum + 99) :
    (splitMonth lengths day).1 ≤ lengths.length + 1 ∧ 0 ≤ (splitMonth lengths day).2 ∧
      (splitMonth lengths day).2 < 100 := by
  induction lengths generalizing day with
  | nil =>
    simp only [List.sum_nil, splitMonth, List.length_nil] at *
    omega
  | cons length rest ih =>
    have hlength := hlengths length (by simp)
    rw [List.sum_cons] at hhigh
    simp only [splitMonth, List.length_cons]
    split_ifs
    · simp only
      omega
    · have hrest : 0 ≤ day - length ∧ day - length < rest.sum + 99 := by omega
      obtain ⟨hmonth, hdate⟩ := ih (fun l hl => hlengths l (by simp [hl])) hrest.1 hrest.2
      exact ⟨Nat.add_le_add_right hmonth 1, hdate⟩

theorem dateFields_bounds (day : ℤ) : (dateFields day).month < 100 ∧
    0 ≤ (dateFields day).date ∧ (dateFields day).date < 100 := by
  obtain ⟨hlow, hhigh⟩ := dayWithinYear_bounds day
  have hlengths : ∀ leap : Bool, (∀ l ∈ monthLengths leap, l ≤ 31) ∧
      334 ≤ (monthLengths leap).sum ∧ (monthLengths leap).length = 11 := by decide
  obtain ⟨hle, hsum, hlength⟩ := hlengths (isLeapYear (yearFromDay day))
  obtain ⟨hmonth, hdate⟩ := splitMonth_bounds hle hlow (by omega)
  rw [hlength] at hmonth
  exact ⟨by simp only [dateFields]; omega, hdate⟩

end Calendar

section Text

def yearSign (year : ℤ) : List Char :=
  if 0 ≤ year ∧ year ≤ 9999 then [] else if year < 0 then ['-'] else ['+']

def yearDigits (year : ℤ) : List Char :=
  if 0 ≤ year ∧ year ≤ 9999 then (padStart year.natAbs 4).toList
  else (padStart year.natAbs 6).toList

def isoRest (fields : DateFields) (milliseconds : ℕ) : List Char :=
  '-' :: (padStart fields.month 2).toList ++ '-' :: (padStart fields.date.toNat 2).toList ++
    'T' :: (padStart (milliseconds / 3600000) 2).toList ++
    ':' :: (padStart (milliseconds / 60000 % 60) 2).toList ++
    ':' :: (padStart (milliseconds / 1000 % 60) 2).toList ++
    '.' :: (padStart (milliseconds % 1000) 3).toList ++ ['Z']

def millisecondsPerDay : ℤ := 86400000

/-- `toISOString()`. -/
def toISOString (t : ℤ) : String :=
  let fields := dateFields (t / millisecondsPerDay)
  String.ofList (yearSign fields.year ++ yearDigits fields.year ++
    isoRest fields (t % millisecondsPerDay).toNat)

example : toISOString 1777712400000 = "2026-05-02T09:00:00.000Z" := by decide +kernel

theorem length_padStart_two {n : ℕ} (h : n < 100) : (padStart n 2).toList.length = 2 :=
  length_padStart_of_lt (by norm_num) (by norm_num; exact h)

theorem length_padStart_three {n : ℕ} (h : n < 1000) : (padStart n 3).toList.length = 3 :=
  length_padStart_of_lt (by norm_num) (by norm_num; exact h)

theorem isDigit_of_mem_padStart {n width : ℕ} {c : Char} (h : c ∈ (padStart n width).toList) :
    c.isDigit = true := by
  by_contra hc
  exact notMem_padStart (Bool.eq_false_iff.mpr hc) n width h

theorem padStart_toList_injective {m n width : ℕ}
    (h : (padStart m width).toList = (padStart n width).toList) : m = n :=
  padStart_injective (String.toList_inj.mp h)

theorem isoRest_injective {f g : DateFields} {a b : ℕ} (hf : f.month < 100 ∧ 0 ≤ f.date ∧ f.date < 100)
    (hg : g.month < 100 ∧ 0 ≤ g.date ∧ g.date < 100) (ha : a < 86400000) (hb : b < 86400000)
    (h : isoRest f a = isoRest g b) : f.month = g.month ∧ f.date = g.date ∧ a = b := by
  have two : ∀ {m n : ℕ} {c : Char} {x y : List Char}, m < 100 → n < 100 →
      c :: (padStart m 2).toList ++ x = c :: (padStart n 2).toList ++ y → m = n ∧ x = y := by
    intro m n c x y hm hn he
    have hlength : (c :: (padStart m 2).toList).length = (c :: (padStart n 2).toList).length := by
      rw [List.length_cons, List.length_cons, length_padStart_two hm, length_padStart_two hn]
    obtain ⟨hhead, htail⟩ := List.append_inj he hlength
    exact ⟨padStart_toList_injective (List.cons.inj hhead).2, htail⟩
  simp only [isoRest, List.append_assoc] at h
  obtain ⟨hmonth, h₁⟩ := two hf.1 hg.1 h
  obtain ⟨hdate, h₂⟩ := two (by omega) (by omega) h₁
  obtain ⟨hhours, h₃⟩ := two (by omega) (by omega) h₂
  obtain ⟨hminutes, h₄⟩ := two (by omega) (by omega) h₃
  obtain ⟨hseconds, h₅⟩ := two (by omega) (by omega) h₄
  have hlength : ('.' :: (padStart (a % 1000) 3).toList).length =
      ('.' :: (padStart (b % 1000) 3).toList).length := by
    rw [List.length_cons, List.length_cons, length_padStart_three (by omega),
      length_padStart_three (by omega)]
  obtain ⟨hhead, -⟩ := List.append_inj h₅ hlength
  have hmilliseconds := padStart_toList_injective (List.cons.inj hhead).2
  exact ⟨hmonth, by omega, by omega⟩

theorem length_isoRest {f : DateFields} {a : ℕ} (hf : f.month < 100 ∧ 0 ≤ f.date ∧ f.date < 100)
    (ha : a < 86400000) : (isoRest f a).length = 20 := by
  simp only [isoRest, List.length_append, List.length_cons, List.length_nil]
  rw [length_padStart_two hf.1, length_padStart_two (by omega), length_padStart_two (by omega),
    length_padStart_two (by omega), length_padStart_two (by omega), length_padStart_three (by omega)]

theorem digits_suffix_injective {u v d e : List Char} (hd : ∀ c ∈ d, c.isDigit = true)
    (he : ∀ c ∈ e, c.isDigit = true) (hu : ∀ c ∈ u.getLast?, c.isDigit = false)
    (hv : ∀ c ∈ v.getLast?, c.isDigit = false) (h : u ++ d = v ++ e) : u = v ∧ d = e := by
  have take : ∀ {x y : List Char}, (∀ c ∈ y, c.isDigit = true) →
      (∀ c ∈ x.getLast?, c.isDigit = false) → (x ++ y).reverse.takeWhile Char.isDigit = y.reverse := by
    intro x y hy hx
    rw [List.reverse_append, List.takeWhile_append_of_pos fun c hc => hy c (List.mem_reverse.mp hc)]
    have hnone : x.reverse.takeWhile Char.isDigit = [] := by
      cases hr : x.reverse with
      | nil => rfl
      | cons c rest =>
        have hlast : x.getLast? = some c := by
          rw [← List.head?_reverse, hr]
          rfl
        rw [List.takeWhile_cons_of_neg]
        simp [hx c hlast]
    rw [hnone, List.append_nil]
  have hsuffix : d.reverse = e.reverse := by
    rw [← take hd hu, ← take he hv, h]
  have hde := List.reverse_injective hsuffix
  rw [hde] at h
  exact ⟨List.append_cancel_right h, hde⟩

theorem yearDigits_isDigit {year : ℤ} {c : Char} (h : c ∈ yearDigits year) : c.isDigit = true := by
  unfold yearDigits at h
  split_ifs at h <;> exact isDigit_of_mem_padStart h

theorem year_injective {u v : List Char} {y z : ℤ}
    (hsigns : u ++ '-' :: yearSign y = v ++ '-' :: yearSign z)
    (hdigits : yearDigits y = yearDigits z) : u = v ∧ y = z := by
  have long : ∀ {x : ℤ}, ¬ (0 ≤ x ∧ x ≤ 9999) → 6 ≤ (yearDigits x).length := by
    intro x hx
    rw [yearDigits, if_neg hx, length_padStart]
    exact le_max_left _ _
  have short : ∀ {x : ℤ}, (0 ≤ x ∧ x ≤ 9999) → (yearDigits x).length = 4 := by
    intro x hx
    rw [yearDigits, if_pos hx, length_padStart_of_lt (by norm_num) (by norm_num; omega)]
  by_cases hy : 0 ≤ y ∧ y ≤ 9999
  · by_cases hz : 0 ≤ z ∧ z ≤ 9999
    · rw [yearSign, yearSign, if_pos hy, if_pos hz] at hsigns
      rw [yearDigits, yearDigits, if_pos hy, if_pos hz] at hdigits
      have habs := padStart_toList_injective hdigits
      exact ⟨List.append_cancel_right hsigns, by omega⟩
    · have hlong := long hz
      rw [← hdigits, short hy] at hlong
      omega
  · by_cases hz : 0 ≤ z ∧ z ≤ 9999
    · have hlong := long hy
      rw [hdigits, short hz] at hlong
      omega
    · rw [yearSign, yearSign, if_neg hy, if_neg hz] at hsigns
      rw [yearDigits, yearDigits, if_neg hy, if_neg hz] at hdigits
      have habs := padStart_toList_injective hdigits
      have hlength : ('-' :: if y < 0 then ['-'] else ['+']).length =
          ('-' :: if z < 0 then ['-'] else ['+']).length := by
        split_ifs <;> rfl
      obtain ⟨hsame, hsign⟩ := List.append_inj' hsigns hlength
      refine ⟨hsame, ?_⟩
      split_ifs at hsign with hy0 hz0 hz0
      · omega
      · simp at hsign
      · simp at hsign
      · omega

theorem toISOString_suffix_injective {u v : List Char} {s t : ℤ}
    (h : u ++ '-' :: (toISOString s).toList = v ++ '-' :: (toISOString t).toList) :
    u = v ∧ s = t := by
  have hms : (s % millisecondsPerDay).toNat < 86400000 := by
    unfold millisecondsPerDay
    omega
  have hmt : (t % millisecondsPerDay).toNat < 86400000 := by
    unfold millisecondsPerDay
    omega
  have hs := dateFields_bounds (s / millisecondsPerDay)
  have ht := dateFields_bounds (t / millisecondsPerDay)
  simp only [toISOString, String.toList_ofList] at h
  set f := dateFields (s / millisecondsPerDay) with hf
  set g := dateFields (t / millisecondsPerDay) with hg
  have split : ∀ (w : List Char) (year : ℤ) (rest : List Char),
      w ++ '-' :: (yearSign year ++ yearDigits year ++ rest) =
        w ++ '-' :: yearSign year ++ yearDigits year ++ rest := by
    intro w year rest
    simp [List.append_assoc]
  rw [split, split] at h
  obtain ⟨hyears, hrest⟩ := List.append_inj' h (by rw [length_isoRest hs hms, length_isoRest ht hmt])
  obtain ⟨hmonth, hdate, htime⟩ := isoRest_injective hs ht hms hmt hrest
  have ends : ∀ (w : List Char) (year : ℤ), ∀ c ∈ (w ++ '-' :: yearSign year).getLast?,
      c.isDigit = false := by
    intro w year c hc
    unfold yearSign at hc
    split_ifs at hc <;> simp at hc <;> subst hc <;> rfl
  obtain ⟨hsigns, hdigits⟩ := digits_suffix_injective (fun c hc => yearDigits_isDigit hc)
    (fun c hc => yearDigits_isDigit hc) (ends u f.year) (ends v g.year) hyears
  obtain ⟨hsame, hyear⟩ := year_injective hsigns hdigits
  have hdays : s / millisecondsPerDay = t / millisecondsPerDay :=
    dateFields_injective (DateFields.ext hyear hmonth hdate)
  refine ⟨hsame, ?_⟩
  simp only [millisecondsPerDay] at hdays htime
  omega

end Text

end WorksAuto
