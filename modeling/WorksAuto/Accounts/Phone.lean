import WorksAuto.Values

/-! The texts a Turkish mobile number is written and stored in.
Four writers of accounts bring a phone text to a stored form, each in its own
way, and the sign-in asks for five forms of the text it is given. -/

namespace WorksAuto.Accounts

/-- `rawPhone.replace(/\D/g, '')`. -/
def digitsOf (rawPhone : String) : List Char := rawPhone.toList.filter Char.isDigit

/-- `slice(start, end)`. -/
def slice (start stop : ℕ) (text : List Char) : List Char := (text.take stop).drop start

/-- `slice(-count)`. -/
def sliceLast (count : ℕ) (text : List Char) : List Char := text.drop (text.length - count)

/-- `if (text.startsWith(start)) text = text.slice(start.length)`. -/
def stripStart (start text : List Char) : List Char :=
  if start.isPrefixOf text then text.drop start.length else text

namespace AuthService

def normalizePhone (rawPhone : String) : String :=
  let digits := digitsOf rawPhone
  if digits.length = 10 ∧ ['5'].isPrefixOf digits then String.ofList (['9', '0'] ++ digits)
  else if digits.length = 11 ∧ ['0', '5'].isPrefixOf digits then String.ofList ('9' :: digits)
  else String.ofList digits

/-- The stored forms that `sendOtp` and `verifyOtp` look for. -/
def loginPhones (phone : String) : List String :=
  let normalizedPhone := normalizePhone phone
  let raw10 := sliceLast 10 normalizedPhone.toList
  let formattedWithSpaces := slice 0 3 raw10 ++ ' ' :: slice 3 6 raw10 ++ ' ' :: slice 6 8 raw10 ++
    ' ' :: slice 8 10 raw10
  let formattedAlt := slice 0 3 raw10 ++ ' ' :: slice 3 6 raw10 ++ ' ' :: raw10.drop 6
  [normalizedPhone, "+" ++ normalizedPhone, String.ofList raw10, String.ofList formattedWithSpaces,
    String.ofList formattedAlt]

def redisKey (phone : String) : String := "otp:" ++ normalizePhone phone

def attemptKey (phone : String) : String := "otp_attempts:" ++ normalizePhone phone

end AuthService

/-- The ten digits that `StaffService` and the onboarding look for in a text. -/
def clean10 (digits : List Char) : List Char := stripStart ['0'] (stripStart ['9', '0'] digits)

def isClean (clean10 : List Char) : Bool := ['5'].isPrefixOf clean10 && clean10.length == 10

def StaffService.normalizePhone (phone : String) : String :=
  let digits := digitsOf phone
  if isClean (clean10 digits) then String.ofList (['+', '9', '0'] ++ clean10 digits)
  else String.ofList digits

/-- `formattedPhone` of `createTenant`. -/
def AdminTenantService.formattedPhone (phone : String) : String :=
  String.ofList (['+', '9', '0'] ++ stripStart ['9', '0'] (digitsOf phone))

/-- `normalizedPhone` of `completeOnboarding`; other texts are skipped. -/
def TenantsService.normalizedPhone (phone : String) : Option String :=
  let digits := digitsOf phone
  if isClean (clean10 digits) then some (String.ofList (['+', '9', '0'] ++ clean10 digits)) else none

section Pattern

/-- `\s?`. -/
def skipSpace : List Char → List Char
  | c :: rest => if isJsSpace c then rest else c :: rest
  | [] => []

/-- `[\s.-]?`. -/
def skipSeparator : List Char → List Char
  | c :: rest => if isJsSpace c || c == '.' || c == '-' then rest else c :: rest
  | [] => []

/-- `\d{count}`. -/
def takeDigits : ℕ → List Char → Option (List Char)
  | 0, rest => some rest
  | count + 1, c :: rest => if c.isDigit then takeDigits count rest else none
  | _ + 1, [] => none

/-- `(?:\(5\d{2}\)|5\d{2})`. -/
def takeOperator : List Char → Option (List Char)
  | '(' :: '5' :: rest =>
    match takeDigits 2 rest with
    | some (')' :: rest) => some rest
    | _ => none
  | '5' :: rest => takeDigits 2 rest
  | _ => none

/-- `^(?:\+90\s?|0\s?)?(?:\(5\d{2}\)|5\d{2})[\s.-]?\d{3}[\s.-]?\d{2}[\s.-]?\d{2}$`. -/
def matchesGsm (phone : String) : Bool :=
  let unprefixed := match phone.toList with
    | '+' :: '9' :: '0' :: rest => skipSpace rest
    | '0' :: rest => skipSpace rest
    | rest => rest
  let remaining := do
    let afterOperator ← takeOperator unprefixed
    let afterThree ← takeDigits 3 (skipSeparator afterOperator)
    let afterFive ← takeDigits 2 (skipSeparator afterThree)
    takeDigits 2 (skipSeparator afterFive)
  remaining == some []

example : matchesGsm "+90 (532)-123.45 67" = true := by decide +kernel

end Pattern

structure Mobile where
  rest : List Char
  nine : rest.length = 9
  isDigit : ∀ c ∈ rest, c.isDigit = true

namespace Mobile

def digits (n : Mobile) : List Char := '5' :: n.rest

def isSeparator (c : Char) : Bool :=
  isJsSpace c || c == '(' || c == ')' || c == '.' || c == '-'

/-- The number with an optional prefix, whatever separators stand between. -/
def Spells (n : Mobile) (text : String) : Prop :=
  ∃ start ∈ ["", "+90", "90", "0"],
    (text.toList.filter fun c => !isSeparator c) = start.toList ++ n.digits

instance (n : Mobile) (text : String) : Decidable (n.Spells text) := by
  unfold Spells
  infer_instance

def SpellsZero (n : Mobile) (text : String) : Prop := digitsOf text = '0' :: n.digits

instance (n : Mobile) (text : String) : Decidable (n.SpellsZero text) :=
  inferInstanceAs (Decidable (_ = _))

def formats (n : Mobile) : List String :=
  [String.ofList (['9', '0'] ++ n.digits), String.ofList (['+', '9', '0'] ++ n.digits),
    String.ofList n.digits,
    String.ofList (slice 0 3 n.digits ++ ' ' :: slice 3 6 n.digits ++ ' ' :: slice 6 8 n.digits ++
      ' ' :: slice 8 10 n.digits),
    String.ofList (slice 0 3 n.digits ++ ' ' :: slice 3 6 n.digits ++ ' ' :: n.digits.drop 6)]

variable {n : Mobile} {p q : String}

@[simp] theorem length_digits (n : Mobile) : n.digits.length = 10 := by
  simp [digits, n.nine]

theorem isDigit_of_mem {c : Char} (h : c ∈ n.digits) : c.isDigit = true := by
  rcases List.mem_cons.mp h with rfl | hrest
  · rfl
  · exact n.isDigit c hrest

theorem isSeparator_of_isDigit {c : Char} (h : c.isDigit = true) : isSeparator c = false := by
  have hrange : 48 ≤ c.toNat ∧ c.toNat ≤ 57 := by
    simpa [Char.isDigit, UInt32.le_iff_toNat_le] using h
  have hne : ∀ d : Char, d.isDigit = false → c ≠ d := by
    rintro d hd rfl
    rw [h] at hd
    cases hd
  simp only [isSeparator, isJsSpace, Bool.or_eq_false_iff, Bool.and_eq_false_iff, beq_eq_false_iff_ne,
    decide_eq_false_iff_not]
  refine ⟨⟨⟨⟨?_, hne _ rfl⟩, hne _ rfl⟩, hne _ rfl⟩, hne _ rfl⟩
  omega

theorem Spells.digitsOf (h : n.Spells p) :
    Accounts.digitsOf p = n.digits ∨ Accounts.digitsOf p = ['9', '0'] ++ n.digits ∨
      Accounts.digitsOf p = '0' :: n.digits := by
  obtain ⟨start, hstart, htext⟩ := h
  have hall : n.digits.filter Char.isDigit = n.digits :=
    List.filter_eq_self.mpr fun c hc => isDigit_of_mem hc
  have hdigits : Accounts.digitsOf p = start.toList.filter Char.isDigit ++ n.digits := by
    rw [← hall, ← List.filter_append, ← htext, List.filter_filter, Accounts.digitsOf]
    apply List.filter_congr
    intro c _
    cases hc : c.isDigit with
    | false => rfl
    | true => simp [isSeparator_of_isDigit hc]
  rw [hdigits]
  simp only [List.mem_cons, List.not_mem_nil, or_false] at hstart
  rcases hstart with rfl | rfl | rfl | rfl
  · exact .inl rfl
  · exact .inr (.inl rfl)
  · exact .inr (.inl rfl)
  · exact .inr (.inr rfl)

theorem Spells.normalizePhone (h : n.Spells p) :
    AuthService.normalizePhone p = String.ofList (['9', '0'] ++ n.digits) := by
  unfold AuthService.normalizePhone
  rcases h.digitsOf with hp | hp | hp
  · simp [hp, digits, n.nine]
  · simp [hp, digits, n.nine]
  · simp [hp, digits, n.nine]

theorem sliceLast_append (start text : List Char) (k : ℕ) (h : k ≤ text.length) :
    sliceLast k (start ++ text) = sliceLast k text := by
  unfold sliceLast
  rw [List.length_append, List.drop_append, List.drop_eq_nil_of_le (by omega), List.nil_append]
  congr 1
  omega

theorem Spells.loginPhones (h : n.Spells q) : AuthService.loginPhones q = n.formats := by
  have hraw : sliceLast 10 (String.ofList (['9', '0'] ++ n.digits)).toList = n.digits := by
    rw [String.toList_ofList, sliceLast_append _ _ _ (by simp), sliceLast, length_digits]
    rfl
  have hplus : "+" ++ String.ofList (['9', '0'] ++ n.digits) =
      String.ofList (['+', '9', '0'] ++ n.digits) := String.ofList_append.symm
  simp only [AuthService.loginPhones, h.normalizePhone, hraw, hplus, formats]

theorem clean10_of_spells (h : n.Spells p) : clean10 (Accounts.digitsOf p) = n.digits := by
  rcases h.digitsOf with hp | hp | hp <;> rw [hp] <;> rfl

theorem isClean_digits (n : Mobile) : isClean n.digits = true := by
  simp [isClean, digits, n.nine]

theorem Spells.staffPhone (h : n.Spells p) :
    StaffService.normalizePhone p = String.ofList (['+', '9', '0'] ++ n.digits) := by
  simp only [StaffService.normalizePhone, clean10_of_spells h, isClean_digits, if_true]

theorem Spells.onboardingPhone (h : n.Spells p) :
    TenantsService.normalizedPhone p = some (String.ofList (['+', '9', '0'] ++ n.digits)) := by
  simp only [TenantsService.normalizedPhone, clean10_of_spells h, isClean_digits, if_true]

/-- `createTenant` does not take a leading 0 off. -/
theorem Spells.formattedPhone (h : n.Spells p) :
    AdminTenantService.formattedPhone p =
      if n.SpellsZero p then String.ofList (['+', '9', '0', '0'] ++ n.digits)
      else String.ofList (['+', '9', '0'] ++ n.digits) := by
  unfold AdminTenantService.formattedPhone
  rcases h.digitsOf with hp | hp | hp
  · have hzero : ¬ n.SpellsZero p := by simp [SpellsZero, hp]
    rw [if_neg hzero, hp]
    rfl
  · have hzero : ¬ n.SpellsZero p := by simp [SpellsZero, hp]
    rw [if_neg hzero, hp]
    rfl
  · have hzero : n.SpellsZero p := hp
    rw [if_pos hzero, hp]
    rfl

theorem formats_length (h : p ∈ n.formats) : p.length ≤ 13 := by
  simp only [formats, List.mem_cons, List.not_mem_nil, or_false] at h
  rcases h with rfl | rfl | rfl | rfl | rfl <;>
    simp [slice, String.length_ofList, -String.ofList_append, -String.ofList_cons]

theorem zeroForm_notMem_formats (n : Mobile) :
    String.ofList (['+', '9', '0', '0'] ++ n.digits) ∉ n.formats := by
  intro h
  have hlength := formats_length h
  rw [String.length_ofList] at hlength
  simp at hlength

end Mobile

/-- The subscriber number in a phone text: its last ten digits, if they are those of a mobile. -/
def subscriber? (phone : String) : Option (List Char) :=
  let last := sliceLast 10 (digitsOf phone)
  if last.length = 10 ∧ ['5'].isPrefixOf last then some last else none

section Subscriber

variable {phone text : String} {number : List Char}

theorem subscriber?_eq_some :
    subscriber? phone = some number ↔
      sliceLast 10 (digitsOf phone) = number ∧ number.length = 10 ∧ ['5'].isPrefixOf number := by
  simp only [subscriber?]
  split_ifs with h
  · rw [Option.some.injEq]
    exact ⟨fun he => ⟨he, he ▸ h⟩, And.left⟩
  · constructor
    · intro he
      cases he
    rintro ⟨rfl, hn⟩
    exact h hn

theorem length_sliceLast (k : ℕ) (digits : List Char) :
    (sliceLast k digits).length = min k digits.length := by
  simp only [sliceLast, List.length_drop]
  omega

theorem digitsOf_ofList (digits : List Char) :
    digitsOf (String.ofList digits) = digits.filter Char.isDigit := by
  rw [digitsOf, String.toList_ofList]

theorem filter_digitsOf (phone : String) :
    (digitsOf phone).filter Char.isDigit = digitsOf phone := by
  rw [digitsOf, List.filter_filter]
  simp

theorem normalizePhone_digits (phone : String) :
    ∃ start, AuthService.normalizePhone phone = String.ofList (start ++ digitsOf phone) ∧
      start.filter Char.isDigit = start := by
  simp only [AuthService.normalizePhone]
  split_ifs
  · exact ⟨['9', '0'], rfl, rfl⟩
  · exact ⟨['9'], rfl, rfl⟩
  · exact ⟨[], rfl, rfl⟩

theorem sliceLast_length (digits : List Char) : sliceLast digits.length digits = digits := by
  simp [sliceLast]

theorem slices {digits : List Char} (h : digits.length = 10) :
    slice 0 3 digits ++ (slice 3 6 digits ++ (slice 6 8 digits ++ slice 8 10 digits)) = digits ∧
      slice 0 3 digits ++ (slice 3 6 digits ++ digits.drop 6) = digits := by
  have hten : digits.take 10 = digits := List.take_of_length_le (by omega)
  have hcut : ∀ i j, i ≤ j → digits.take i ++ slice i j digits = digits.take j := by
    intro i j hij
    have htake : digits.take i = (digits.take j).take i := by
      rw [List.take_take, Nat.min_eq_left hij]
    rw [slice, htake, List.take_append_drop]
  have hfirst : slice 0 3 digits = digits.take 3 := by simp [slice]
  rw [hfirst, ← List.append_assoc, ← List.append_assoc, ← List.append_assoc, hcut 3 6 (by norm_num),
    hcut 6 8 (by norm_num), hcut 8 10 (by norm_num), hten, List.take_append_drop]
  exact ⟨rfl, rfl⟩

theorem subscriber?_of_mem_loginPhones (hnumber : subscriber? text = some number)
    (h : phone ∈ AuthService.loginPhones text) : subscriber? phone = some number := by
  obtain ⟨hlast, hlength, hfive⟩ := subscriber?_eq_some.mp hnumber
  obtain ⟨start, hform, hstart⟩ := normalizePhone_digits text
  have hlong : 10 ≤ (digitsOf text).length := by
    have hmin := length_sliceLast 10 (digitsOf text)
    rw [hlast, hlength] at hmin
    omega
  have hraw : sliceLast 10 (start ++ digitsOf text) = number := by
    rw [Mobile.sliceLast_append _ _ _ hlong, hlast]
  have hdigits : (start ++ digitsOf text).filter Char.isDigit = start ++ digitsOf text := by
    rw [List.filter_append, hstart, filter_digitsOf]
  have hnumberDigits : number.filter Char.isDigit = number := by
    rw [← hraw, sliceLast]
    exact List.filter_eq_self.mpr fun c hc =>
      List.filter_eq_self.mp hdigits c (List.mem_of_mem_drop hc)
  have hself : sliceLast 10 number = number := by
    rw [← hlength]
    exact sliceLast_length number
  have hslice : ∀ i j, (slice i j number).filter Char.isDigit = slice i j number := by
    intro i j
    exact List.filter_eq_self.mpr fun c hc =>
      List.filter_eq_self.mp hnumberDigits c (List.mem_of_mem_take (List.mem_of_mem_drop hc))
  have hdrop : (number.drop 6).filter Char.isDigit = number.drop 6 :=
    List.filter_eq_self.mpr fun c hc =>
      List.filter_eq_self.mp hnumberDigits c (List.mem_of_mem_drop hc)
  have hspace : Char.isDigit ' ' = false := rfl
  obtain ⟨hspaced, halt⟩ := slices hlength
  rw [subscriber?_eq_some]
  refine ⟨?_, hlength, hfive⟩
  simp only [AuthService.loginPhones, hform, String.toList_ofList, hraw, List.mem_cons,
    List.not_mem_nil, or_false] at h
  rcases h with rfl | rfl | rfl | rfl | rfl
  · rw [digitsOf_ofList, hdigits, hraw]
  · have hplus : digitsOf ("+" ++ String.ofList (start ++ digitsOf text)) =
        (start ++ digitsOf text).filter Char.isDigit := by
      rw [digitsOf, String.toList_append, List.filter_append, String.toList_ofList,
        String.toList_ofList]
      rfl
    rw [hplus, hdigits, hraw]
  · rw [digitsOf_ofList, hnumberDigits, hself]
  · rw [digitsOf_ofList]
    simp only [List.filter_append, List.filter_cons, hspace, hslice, List.append_assoc,
      Bool.false_eq_true, if_false, hspaced, hself]
  · rw [digitsOf_ofList]
    simp only [List.filter_append, List.filter_cons, hspace, hslice, hdrop, List.append_assoc,
      Bool.false_eq_true, if_false, halt, hself]

theorem digitsOf_prefixed {digits : List Char} (h : ∀ c ∈ digits, c.isDigit = true)
    (hlength : digits.length = 10) :
    sliceLast 10 (digitsOf (String.ofList (['+', '9', '0'] ++ digits))) = digits := by
  have hall : digits.filter Char.isDigit = digits := List.filter_eq_self.mpr h
  have hdigits : digitsOf (String.ofList (['+', '9', '0'] ++ digits)) = ['9', '0'] ++ digits := by
    rw [digitsOf_ofList, List.filter_append, hall]
    rfl
  rw [hdigits, Mobile.sliceLast_append _ _ _ hlength.ge, ← hlength, sliceLast_length]

theorem isDigit_of_mem_stripStart {start digits : List Char} (h : ∀ c ∈ digits, c.isDigit = true) :
    ∀ c ∈ stripStart start digits, c.isDigit = true := by
  intro c hc
  unfold stripStart at hc
  split_ifs at hc
  · exact h c (List.mem_of_mem_drop hc)
  · exact h c hc

theorem onboardingPhone_eq_some (h : TenantsService.normalizedPhone phone = some text) :
    ∃ digits, text = String.ofList (['+', '9', '0'] ++ digits) ∧ subscriber? text = some digits := by
  simp only [TenantsService.normalizedPhone] at h
  split_ifs at h with hclean
  cases h
  simp only [isClean, Bool.and_eq_true, beq_iff_eq] at hclean
  have hall : ∀ c ∈ clean10 (digitsOf phone), c.isDigit = true :=
    isDigit_of_mem_stripStart (isDigit_of_mem_stripStart fun c hc => (List.mem_filter.mp hc).2)
  exact ⟨_, rfl, subscriber?_eq_some.mpr ⟨digitsOf_prefixed hall hclean.2, hclean.2, hclean.1⟩⟩

end Subscriber

namespace Mobile

variable {n : Mobile} {text : String}

theorem spells_digits (n : Mobile) : n.Spells (String.ofList n.digits) := by
  refine ⟨"", by simp, ?_⟩
  rw [String.toList_ofList]
  exact List.filter_eq_self.mpr fun c hc => by simp [isSeparator_of_isDigit (isDigit_of_mem hc)]

theorem subscriber?_of_spells (h : n.Spells text) : subscriber? text = some n.digits := by
  have hself : sliceLast 10 n.digits = n.digits := by
    rw [← length_digits n, sliceLast_length]
  refine subscriber?_eq_some.mpr ⟨?_, length_digits n, rfl⟩
  rcases h.digitsOf with hp | hp | hp
  · rw [hp, hself]
  · rw [hp, sliceLast_append _ _ _ (length_digits n).ge, hself]
  · rw [hp, ← List.singleton_append, sliceLast_append _ _ _ (length_digits n).ge, hself]

theorem subscriber?_of_mem_formats (h : text ∈ n.formats) : subscriber? text = some n.digits := by
  rw [← n.spells_digits.loginPhones] at h
  exact subscriber?_of_mem_loginPhones (subscriber?_of_spells n.spells_digits) h

end Mobile

end WorksAuto.Accounts
