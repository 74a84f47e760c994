import Mathlib.Data.List.DropRight
import WorksAuto.Lib.Double
import WorksAuto.Lib.Rounding

/-! Values the services compute with and the columns they are stored in.
A JavaScript number is given by the decimal it is written as, which is what a
request and a query carry; `Double.nearest` is the double that it computes with.
A `numeric(p,2)` column holds whole hundredths, written as an integer; storing
rounds ties away from zero and fails when the value needs more than `p` digits,
as PostgreSQL does. -/

namespace WorksAuto

open Lib

/-- What a request can be answered with when it does not succeed. -/
inductive ApiError where
  | badRequest (message : String)
  | notFound (message : String)
  | unauthorized (message : String)
  | forbidden (message : String)
  | conflict (message : String)
  | plain (message : String)
  /-- An error raised by Prisma or PostgreSQL, by its code. -/
  | database (code : String)
  deriving DecidableEq, Repr

abbrev Outcome := Except ApiError

abbrev Uuid := ℕ

abbrev Instant := ℤ

namespace Outcome

variable {α β : Type}

/-- Guard clause: `if (c) throw e`. -/
def reject (c : Bool) (e : ApiError) : Outcome Unit := if c then .error e else .ok ()

def required (o : Option α) (e : ApiError) : Outcome α := o.elim (.error e) .ok

/-- `catch (error) { throw new BadRequestException(error.message) }`. -/
def asBadRequest : Outcome α → Outcome α
  | .error (.plain message) => .error (.badRequest message)
  | other => other

@[simp] theorem asBadRequest_eq_ok {x : Outcome α} {a : α} :
    asBadRequest x = .ok a ↔ x = .ok a := by
  unfold asBadRequest
  split <;> simp

theorem bind_eq_ok {x : Outcome α} {f : α → Outcome β} {b : β} :
    (x >>= f) = .ok b ↔ ∃ a, x = .ok a ∧ f a = .ok b := by
  cases x with
  | error e => simp [bind, Except.bind]
  | ok a => simp [bind, Except.bind]

theorem map_eq_ok {x : Outcome α} {f : α → β} {b : β} :
    x.map f = .ok b ↔ ∃ a, x = .ok a ∧ f a = b := by
  cases x with
  | error e => simp [Except.map]
  | ok a => simp [Except.map]

theorem isOk_iff {x : Outcome α} : x.isOk = true ↔ ∃ a, x = .ok a := by
  cases x <;> simp [Except.isOk, Except.toBool]

@[simp] theorem pure_eq_ok {a b : α} : (pure a : Outcome α) = .ok b ↔ a = b := by
  simp [pure, Except.pure]

@[simp] theorem reject_eq_ok {c : Bool} {e : ApiError} {u : Unit} :
    reject c e = .ok u ↔ c = false := by
  cases c <;> simp [reject]

@[simp] theorem required_eq_ok {o : Option α} {e : ApiError} {a : α} :
    required o e = .ok a ↔ o = some a := by
  cases o <;> simp [required]

end Outcome

/-- `Number(column)`: the rational a stored amount stands for. -/
def toNumber (c : ℤ) : ℚ := c / 100

/-- Store `x` in a `numeric(precision, 2)` column. -/
def numeric (precision : ℕ) (x : ℚ) : Outcome ℤ :=
  if |roundAway (x * 100)| < 10 ^ precision then .ok (roundAway (x * 100))
  else .error (.database "22003")

/-- Store `n` in an `integer` column. -/
def int4 (n : ℤ) : Outcome ℤ :=
  if -2 ^ 31 ≤ n ∧ n < 2 ^ 31 then .ok n else .error (.database "22003")

theorem numeric_eq_ok {p : ℕ} {x : ℚ} {c : ℤ} :
    numeric p x = .ok c ↔ roundAway (x * 100) = c ∧ |c| < 10 ^ p := by
  unfold numeric
  split_ifs with h
  · constructor
    · intro he
      obtain rfl := Except.ok.inj he
      exact ⟨rfl, h⟩
    · rintro ⟨rfl, -⟩
      rfl
  · constructor
    · intro he
      cases he
    · rintro ⟨rfl, hc⟩
      exact absurd hc h

theorem int4_eq_ok {n m : ℤ} : int4 n = .ok m ↔ n = m ∧ -2 ^ 31 ≤ n ∧ n < 2 ^ 31 := by
  unfold int4
  split_ifs with h
  · rw [Except.ok.injEq]
    exact ⟨fun he => ⟨he, h⟩, And.left⟩
  · constructor
    · intro he
      cases he
    · exact fun hm => absurd hm.2 h

@[simp] theorem toNumber_mul (c : ℤ) : toNumber c * 100 = (c : ℚ) := by
  unfold toNumber
  ring

theorem toNumber_add (c d : ℤ) : toNumber (c + d) = toNumber c + toNumber d := by
  unfold toNumber
  push_cast
  ring

theorem toNumber_sub (c d : ℤ) : toNumber (c - d) = toNumber c - toNumber d := by
  unfold toNumber
  push_cast
  ring

@[simp] theorem toNumber_le {c d : ℤ} : toNumber c ≤ toNumber d ↔ c ≤ d := by
  unfold toNumber
  rw [div_le_div_iff_of_pos_right (by norm_num), Int.cast_le]

@[simp] theorem toNumber_lt {c d : ℤ} : toNumber c < toNumber d ↔ c < d := by
  unfold toNumber
  rw [div_lt_div_iff_of_pos_right (by norm_num), Int.cast_lt]

theorem toNumber_inj {c d : ℤ} (h : toNumber c = toNumber d) : c = d := by
  have hmul : (c : ℚ) = d := by rw [← toNumber_mul c, ← toNumber_mul d, h]
  exact_mod_cast hmul

theorem toNumber_max (c d : ℤ) : toNumber (max c d) = max (toNumber c) (toNumber d) := by
  rcases le_total c d with h | h
  · rw [max_eq_right h, max_eq_right (toNumber_le.mpr h)]
  · rw [max_eq_left h, max_eq_left (toNumber_le.mpr h)]

@[simp] theorem toNumber_zero : toNumber 0 = 0 := by
  simp [toNumber]

theorem toNumber_sum (values : List ℤ) : toNumber values.sum = (values.map toNumber).sum := by
  induction values with
  | nil => exact toNumber_zero
  | cons v values ih => rw [List.sum_cons, toNumber_add, ih, List.map_cons, List.sum_cons]

section Doubles

/-- `Math.round(x * 100)`. -/
def mathRoundCents (x : ℚ) : ℤ := round (Double.nearest (Double.nearest x * 100))

/-- `x - y`, as the number that is written. -/
def jsSub (x y : ℚ) : ℚ :=
  Double.written (Double.nearest (Double.nearest x - Double.nearest y))

theorem abs_jsSub_sub_le (x y : ℚ) : |jsSub x y - (x - y)| ≤ Double.slack 4 * (|x| + |y|) :=
  ((Double.Approx.refl x).nearest.sub (Double.Approx.refl y).nearest).nearest.written.off

theorem mathRoundCents_toNumber {c : ℤ} (h : |c| < 10 ^ 15) :
    mathRoundCents (toNumber c) = c := by
  have happrox := (((Double.Approx.refl (toNumber c)).nearest.mul
    (Double.Approx.refl 100)).nearest).off
  have hslack : Double.slack 2 = 1 / 2 ^ 52 + 1 / 2 ^ 106 := by norm_num [Double.slack]
  have hc : |(c : ℚ)| < 10 ^ 15 := by exact_mod_cast h
  have hsize : |toNumber c| * |(100 : ℚ)| = |(c : ℚ)| := by
    rw [← abs_mul, toNumber_mul]
  rw [toNumber_mul, hsize] at happrox
  change |_| ≤ Double.slack 2 * _ at happrox
  rw [hslack] at happrox
  obtain ⟨hl, hu⟩ := abs_le.mp happrox
  exact round_eq_iff.mpr ⟨by linarith, by linarith⟩

end Doubles

/-- White space as `String.prototype.trim` removes it. -/
def isJsSpace (c : Char) : Bool :=
  (9 ≤ c.toNat && c.toNat ≤ 13) || c.toNat == 0x20 || c.toNat == 0xA0 ||
  c.toNat == 0x1680 || (0x2000 ≤ c.toNat && c.toNat ≤ 0x200A) ||
  c.toNat == 0x2028 || c.toNat == 0x2029 || c.toNat == 0x202F ||
  c.toNat == 0x205F || c.toNat == 0x3000 || c.toNat == 0xFEFF

def jsTrim (s : String) : String :=
  String.ofList (((s.toList.dropWhile isJsSpace).reverse.dropWhile isJsSpace).reverse)

theorem jsTrim_eq_self {text : List Char} (hhead : ∀ c ∈ text.head?, isJsSpace c = false)
    (hlast : ∀ c ∈ text.getLast?, isJsSpace c = false) :
    jsTrim (String.ofList text) = String.ofList text := by
  have hdrop : text.dropWhile isJsSpace = text := by
    cases text with
    | nil => rfl
    | cons c rest => rw [List.dropWhile_cons, if_neg (by simp [hhead c rfl])]
  have hrdrop : text.rdropWhile isJsSpace = text := by
    rw [List.rdropWhile_eq_self_iff]
    intro hne
    rw [hlast _ (List.getLast?_eq_getLast_of_ne_nil hne)]
    simp
  rw [jsTrim, String.toList_ofList, hdrop]
  exact congrArg String.ofList hrdrop

theorem jsTrim_ends (text : String) :
    (∀ c ∈ (jsTrim text).toList.head?, isJsSpace c = false) ∧
      ∀ c ∈ (jsTrim text).toList.getLast?, isJsSpace c = false := by
  have htrim : (jsTrim text).toList = (text.toList.dropWhile isJsSpace).rdropWhile isJsSpace := by
    rw [jsTrim, String.toList_ofList]
    rfl
  rw [htrim]
  constructor
  · intro c hc
    obtain ⟨rest, hrest⟩ : (text.toList.dropWhile isJsSpace).rdropWhile isJsSpace <+:
        text.toList.dropWhile isJsSpace := List.rdropWhile_prefix ..
    have hhead : (text.toList.dropWhile isJsSpace).head? = some c := by
      rw [← hrest, List.head?_append, Option.mem_def.mp hc]
      rfl
    have hnot := List.head?_dropWhile_not isJsSpace text.toList
    rw [hhead] at hnot
    exact hnot
  · intro c hc
    obtain ⟨hne, rfl⟩ := List.mem_getLast?_eq_getLast hc
    have hnot := List.rdropWhile_last_not isJsSpace (text.toList.dropWhile isJsSpace) hne
    simpa using hnot

theorem jsTrim_jsTrim (text : String) : jsTrim (jsTrim text) = jsTrim text := by
  obtain ⟨hhead, hlast⟩ := jsTrim_ends text
  have htrim := jsTrim_eq_self hhead hlast
  rwa [String.ofList_toList] at htrim

/-- `length` counts UTF-16 code units. -/
def jsLength (s : String) : ℕ :=
  (s.toList.map fun c => if c.toNat < 0x10000 then 1 else 2).sum

def firstText (xs : List (Option String)) : Option String :=
  (xs.filterMap id).find? fun s => s ≠ ""

/-- `String(n).padStart(width, '0')`. -/
def padStart (n : ℕ) (width : ℕ) : String :=
  let digits := Nat.repr n
  String.ofList (List.replicate (width - digits.length) '0') ++ digits

theorem ofDigitChars_padStart (n width : ℕ) :
    Nat.ofDigitChars 10 (padStart n width).toList 0 = n := by
  simp only [padStart, String.toList_append, String.toList_ofList, Nat.ofDigitChars_append,
    Nat.ofDigitChars_replicate_zero, mul_zero, Nat.toList_repr, Nat.ofDigitChars_ten_toDigits]

theorem padStart_injective {m n width : ℕ} (h : padStart m width = padStart n width) : m = n := by
  rw [← ofDigitChars_padStart m width, h, ofDigitChars_padStart]

theorem repr_injective {m n : ℕ} (h : Nat.repr m = Nat.repr n) : m = n := by
  rw [← Nat.ofDigitChars_ten_toDigits (n := m), ← Nat.toList_repr, h, Nat.toList_repr,
    Nat.ofDigitChars_ten_toDigits]

theorem notMem_repr {c : Char} (h : c.isDigit = false) (n : ℕ) : c ∉ (Nat.repr n).toList := by
  rw [Nat.toList_repr]
  intro hc
  have hdigit : c.isDigit = true := Nat.isDigit_of_mem_toDigits (by norm_num) (by norm_num) hc
  rw [h] at hdigit
  cases hdigit

theorem notMem_padStart {c : Char} (h : c.isDigit = false) (n width : ℕ) :
    c ∉ (padStart n width).toList := by
  simp only [padStart, String.toList_append, String.toList_ofList, List.mem_append, not_or]
  refine ⟨?_, notMem_repr h n⟩
  intro hc
  obtain rfl := List.eq_of_mem_replicate hc
  cases h

theorem length_padStart (n width : ℕ) :
    (padStart n width).toList.length = max width (Nat.repr n).length := by
  simp only [padStart, String.toList_append, String.toList_ofList, List.length_append,
    List.length_replicate, String.length_toList]
  omega

theorem length_padStart_of_lt {n width : ℕ} (hwidth : 0 < width) (h : n < 10 ^ width) :
    (padStart n width).toList.length = width := by
  rw [length_padStart]
  exact max_eq_left ((Nat.length_repr_le_iff hwidth).mpr h)

/-- Split a digit string into groups of three from the right, joined by dots. -/
def groupThousands (digits : List Char) : String :=
  let grouped := digits.reverse.zipIdx.flatMap fun (d, i) =>
    if i ≠ 0 ∧ i % 3 = 0 then ['.', d] else [d]
  String.ofList grouped.reverse

/-- `x.toLocaleString('tr-TR')`: at most three decimals, after a comma. -/
def trLocale (x : ℚ) : String :=
  let thousandths := (roundAway (|x| * 1000)).toNat
  let whole := groupThousands (Nat.repr (thousandths / 1000)).toList
  let decimals := ((padStart (thousandths % 1000) 3).toList.reverse.dropWhile (· == '0')).reverse
  let sign := if x < 0 then "-" else ""
  if decimals.isEmpty then sign ++ whole else sign ++ whole ++ "," ++ String.ofList decimals

example : trLocale (12345678 / 100) = "123.456,78" := by decide +kernel

end WorksAuto
