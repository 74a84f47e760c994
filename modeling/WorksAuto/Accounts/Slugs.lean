import WorksAuto.Accounts.System
import Mathlib.Data.List.Chain
import Mathlib.Data.Finset.Card

/-! The slug of a new tenant.
The base slug of a title consists of letters and digits with single dashes between them, whatever
the title is, and so do the candidates that count up from it. No two candidates are equal, so one
of the first is not taken, and the loop ends there. -/

namespace WorksAuto.Accounts

open Lib

section Shape

def slugLetter (c : Char) : Bool := ('a' ≤ c && c ≤ 'z') || ('0' ≤ c && c ≤ '9')

def NoDoubleDash (s : List Char) : Prop := s.IsChain fun a b => ¬(a = '-' ∧ b = '-')

/-- Letters `a` to `z`, digits, and single dashes inside. -/
structure IsSlug (s : List Char) : Prop where
  nonempty : s ≠ []
  letters : ∀ c ∈ s, slugLetter c = true ∨ c = '-'
  first : s.head? ≠ some '-'
  last : s.getLast? ≠ some '-'
  single : NoDoubleDash s

variable {s t : List Char} {c d : Char}

theorem slugLetter_ne_dash (h : slugLetter c = true) : c ≠ '-' := by
  rintro rfl
  revert h
  decide

theorem toNat_lt_of_isAlphanum (h : c.isAlphanum = true) : c.toNat < 128 := by
  have hcases : ((c.isUpper || c.isLower) || c.isDigit) = true := h
  simp only [Bool.or_eq_true] at hcases
  rcases hcases with (hupper | hlower) | hdigit
  · have hrange : 'A'.val ≤ c.val ∧ c.val ≤ 'Z'.val := of_decide_eq_true hupper
    exact lt_of_le_of_lt (UInt32.le_iff_toNat_le.mp hrange.2) (by decide)
  · have hend : c.val ≤ 'z'.val := of_decide_eq_true (Bool.and_eq_true_iff.mp hlower).2
    exact lt_of_le_of_lt (UInt32.le_iff_toNat_le.mp hend) (by decide)
  · have hend : c.val ≤ '9'.val := of_decide_eq_true (Bool.and_eq_true_iff.mp hdigit).2
    exact lt_of_le_of_lt (UInt32.le_iff_toNat_le.mp hend) (by decide)

theorem slugLetter_toLower (h : c.isAlphanum = true) : slugLetter c.toLower = true := by
  have hsmall : ∀ n < 128, (Char.ofNat n).isAlphanum = true →
      slugLetter (Char.ofNat n).toLower = true := by decide +kernel
  have hchar := hsmall c.toNat (toNat_lt_of_isAlphanum h)
  rw [Char.ofNat_toNat] at hchar
  exact hchar h

theorem slugLetter_of_isDigit (h : c.isDigit = true) : slugLetter c = true := by
  have hsmall : ∀ n < 128, (Char.ofNat n).isDigit = true → slugLetter (Char.ofNat n) = true := by
    decide +kernel
  have hchar := hsmall c.toNat (toNat_lt_of_isAlphanum (by rw [Char.isAlphanum, h, Bool.or_true]))
  rw [Char.ofNat_toNat] at hchar
  exact hchar h

theorem letter_of_mem_slugChar (h : d ∈ slugChar c) : slugLetter d = true ∨ d = '-' := by
  have hsingle {e : Char} (he : slugLetter e = true ∨ e = '-') (hd : d ∈ [e]) :
      slugLetter d = true ∨ d = '-' := List.mem_singleton.mp hd ▸ he
  unfold slugChar at h
  split at h
  case h_8 =>
    rcases List.mem_cons.mp h with rfl | h
    · exact .inl (by decide)
    · exact hsingle (.inr rfl) h
  case h_13 =>
    split_ifs at h with hkelvin halnum
    · exact hsingle (.inl (by decide)) h
    · exact hsingle (.inl (slugLetter_toLower halnum)) h
    · exact hsingle (.inr rfl) h
  all_goals exact hsingle (.inl (by decide)) h

theorem mem_of_mem_collapseDashes (h : c ∈ collapseDashes s) : c ∈ s := by
  fun_induction collapseDashes s with
  | case1 rest ih => exact List.mem_cons_of_mem _ (ih h)
  | case2 a rest _ ih =>
    rcases List.mem_cons.mp h with rfl | h
    · exact List.mem_cons_self
    · exact List.mem_cons_of_mem _ (ih h)
  | case3 => exact h

theorem head?_collapseDashes (s : List Char) : (collapseDashes s).head? = s.head? := by
  fun_induction collapseDashes s with
  | case1 rest ih => exact ih
  | case2 a rest _ _ => rfl
  | case3 => rfl

theorem noDoubleDash_collapseDashes (s : List Char) : NoDoubleDash (collapseDashes s) := by
  fun_induction collapseDashes s with
  | case1 rest ih => exact ih
  | case2 a rest hother ih =>
    refine List.isChain_cons.mpr ⟨fun b hb => ?_, ih⟩
    rw [head?_collapseDashes] at hb
    rintro ⟨rfl, rfl⟩
    obtain ⟨rest', rfl⟩ := List.head?_eq_some_iff.mp hb
    exact hother rest' rfl rfl
  | case3 => exact .nil

theorem head?_stripStart (h : NoDoubleDash s) : (stripStart ['-'] s).head? ≠ some '-' := by
  cases s with
  | nil => decide
  | cons c rest =>
    unfold stripStart
    split_ifs with hstart
    · obtain rfl : '-' = c := by simpa using hstart
      exact fun hdash => (List.isChain_cons.mp h).1 '-' hdash ⟨rfl, rfl⟩
    · rintro hdash
      obtain rfl := Option.some.inj hdash
      exact hstart (by simp)

theorem mem_of_mem_stripStart {start : List Char} (h : c ∈ stripStart start s) : c ∈ s := by
  unfold stripStart at h
  split_ifs at h
  · exact List.mem_of_mem_drop h
  · exact h

theorem getLast?_stripStart {start : List Char} (h : stripStart start s ≠ []) :
    (stripStart start s).getLast? = s.getLast? := by
  unfold stripStart at h ⊢
  split_ifs at h ⊢
  · rw [List.getLast?_drop, if_neg (fun hle => h (List.drop_eq_nil_of_le hle))]
  · rfl

theorem noDoubleDash_stripStart {start : List Char} (h : NoDoubleDash s) :
    NoDoubleDash (stripStart start s) := by
  unfold stripStart
  split_ifs
  · exact h.drop _
  · exact h

theorem noDoubleDash_reverse (h : NoDoubleDash s) : NoDoubleDash s.reverse := by
  refine List.isChain_reverse.mpr (h.imp fun a b hab => ?_)
  exact fun hba => hab hba.symm

end Shape

section Base

variable {s t : List Char}

theorem isSlug_of_letters (hne : t ≠ []) (ht : ∀ c ∈ t, slugLetter c = true) : IsSlug t where
  nonempty := hne
  letters c hc := .inl (ht c hc)
  first h := slugLetter_ne_dash (ht '-' (List.mem_of_head? h)) rfl
  last h := slugLetter_ne_dash (ht '-' (List.mem_of_getLast? h)) rfl
  single := by
    refine List.Pairwise.isChain (List.pairwise_iff_forall_sublist.mpr fun {a b} hab h => ?_)
    exact slugLetter_ne_dash (ht a (hab.subset List.mem_cons_self)) h.1

theorem IsSlug.dash (h : IsSlug s) (hne : t ≠ []) (ht : ∀ c ∈ t, slugLetter c = true) :
    IsSlug (s ++ '-' :: t) := by
  have htail := isSlug_of_letters hne ht
  refine ⟨by simp, fun c hc => ?_, ?_, ?_, ?_⟩
  · rcases List.mem_append.mp hc with hc | hc
    · exact h.letters c hc
    · rcases List.mem_cons.mp hc with rfl | hc
      · exact .inr rfl
      · exact .inl (ht c hc)
  · rw [List.head?_append_of_ne_nil _ h.nonempty]
    exact h.first
  · rw [List.getLast?_append, List.getLast?_cons_of_ne_nil hne]
    cases hlast : t.getLast? with
    | none => exact absurd (List.getLast?_eq_none_iff.mp hlast) hne
    | some c =>
      rw [Option.some_or, ← hlast]
      exact htail.last
  · refine List.isChain_append.mpr ⟨h.single, List.isChain_cons.mpr ⟨?_, htail.single⟩, ?_⟩
    · rintro c hc ⟨-, rfl⟩
      exact htail.first hc
    · rintro a ha b - ⟨rfl, -⟩
      exact h.last ha

theorem base36_letters (n : ℕ) :
    (base36 n).toList ≠ [] ∧ ∀ c ∈ (base36 n).toList, slugLetter c = true := by
  unfold base36
  split_ifs with hn
  · exact ⟨by decide +kernel, List.all_eq_true.mp (by decide +kernel)⟩
  · rw [String.toList_ofList]
    constructor
    · simp [Nat.digits_ne_nil_iff_ne_zero, hn]
    · intro c hc
      obtain ⟨d, hd, rfl⟩ := List.mem_map.mp hc
      have hdigit : ∀ d < 36, slugLetter (Char.ofNat (if d < 10 then 48 + d else 87 + d)) = true := by
        decide +kernel
      exact hdigit d (Nat.digits_lt_base (by decide) (List.mem_reverse.mp hd))

theorem isSlug_stripped (h : NoDoubleDash s) (hletters : ∀ c ∈ s, slugLetter c = true ∨ c = '-')
    (hne : stripStart ['-'] (stripStart ['-'] s).reverse ≠ []) :
    IsSlug (stripStart ['-'] (stripStart ['-'] s).reverse).reverse := by
  have hfront : NoDoubleDash (stripStart ['-'] s).reverse :=
    noDoubleDash_reverse (noDoubleDash_stripStart h)
  refine ⟨List.reverse_ne_nil_iff.mpr hne, fun c hc => ?_, ?_, ?_, ?_⟩
  · have hreversed := mem_of_mem_stripStart (List.mem_reverse.mp hc)
    exact hletters c (mem_of_mem_stripStart (List.mem_reverse.mp hreversed))
  · rw [List.head?_reverse, getLast?_stripStart hne, List.getLast?_reverse]
    exact head?_stripStart h
  · rw [List.getLast?_reverse]
    exact head?_stripStart hfront
  · exact noDoubleDash_reverse (noDoubleDash_stripStart hfront)

theorem baseSlug_isSlug (title : String) (now : ℕ) : IsSlug (baseSlug title now).toList := by
  have hletters : ∀ c ∈ collapseDashes ((jsTrim title).toList.flatMap slugChar),
      slugLetter c = true ∨ c = '-' := by
    intro c hc
    obtain ⟨a, -, ha⟩ := List.mem_flatMap.mp (mem_of_mem_collapseDashes hc)
    exact letter_of_mem_slugChar ha
  simp only [baseSlug]
  split_ifs with hempty
  · obtain ⟨hne, hbase⟩ := base36_letters now
    have hservis : IsSlug "servis".toList :=
      isSlug_of_letters (by decide +kernel) (List.all_eq_true.mp (by decide +kernel))
    rw [String.toList_append]
    exact hservis.dash hne hbase
  · rw [String.toList_ofList]
    exact isSlug_stripped (noDoubleDash_collapseDashes _) hletters fun hnil => hempty (by simp [hnil])

end Base

section Search

variable {base : String} {db : Db} {dto : CreateTenantDto}

theorem candidateSlug_injective (base : String) : Function.Injective (candidateSlug base) := by
  have hlist (n : ℕ) : (candidateSlug base n).toList =
      base.toList ++ if n = 0 then [] else '-' :: (Nat.repr n).toList := by
    unfold candidateSlug
    split_ifs
    · rw [List.append_nil]
    · rw [String.toList_append, String.toList_append, List.append_assoc]
      rfl
  intro m n h
  have htail := List.append_cancel_left ((hlist m).symm.trans ((congrArg String.toList h).trans (hlist n)))
  split_ifs at htail with hm hn hn
  · rw [hm, hn]
  · exact repr_injective (String.toList_inj.mp (List.cons.inj htail).2)

theorem candidateSlug_isSlug (h : IsSlug base.toList) (n : ℕ) :
    IsSlug (candidateSlug base n).toList := by
  unfold candidateSlug
  split_ifs
  · exact h
  · rw [String.toList_append, String.toList_append, List.append_assoc]
    refine h.dash ?_ fun c hc => slugLetter_of_isDigit ?_
    · rw [Nat.toList_repr]
      exact Nat.toDigits_ne_nil
    · rw [Nat.toList_repr] at hc
      exact Nat.isDigit_of_mem_toDigits (by decide) (by decide) hc

theorem exists_first_free {α : Type*} [DecidableEq α] {f : ℕ → α} (hf : Function.Injective f)
    (taken : Finset α) : ∃ n ≤ taken.card, f n ∉ taken ∧ ∀ m < n, f m ∈ taken := by
  have hfree : ∃ n, f n ∉ taken := by
    by_contra hall
    have hsub : (Finset.range (taken.card + 1)).image f ⊆ taken := by
      intro a ha
      obtain ⟨n, -, rfl⟩ := Finset.mem_image.mp ha
      exact not_not.mp (not_exists.mp hall n)
    have hcard := Finset.card_le_card hsub
    rw [Finset.card_image_of_injective _ hf, Finset.card_range] at hcard
    omega
  refine ⟨Nat.find hfree, ?_, Nat.find_spec hfree, fun m hm => not_not.mp (Nat.find_min hfree hm)⟩
  have hsub : (Finset.range (Nat.find hfree)).image f ⊆ taken := by
    intro a ha
    obtain ⟨m, hm, rfl⟩ := Finset.mem_image.mp ha
    exact not_not.mp (Nat.find_min hfree (Finset.mem_range.mp hm))
  have hcard := Finset.card_le_card hsub
  rwa [Finset.card_image_of_injective _ hf, Finset.card_range] at hcard

def Db.takenSlugs (db : Db) : Finset String := (db.tenants.rows.map fun q => q.2.slug).toFinset

theorem slug_taken_iff (slug : String) :
    (db.tenants.find? fun t => t.slug = slug).isSome = true ↔ slug ∈ db.takenSlugs := by
  simp only [Table.find?, List.find?_isSome, decide_eq_true_eq, Db.takenSlugs, List.mem_toFinset,
    List.mem_map]

def slugRound (db : Db) (env : Env) (t : Task) : Task := (t.exec db env).2

theorem slugRound_taken {env : Env} {n : ℕ} (h : candidateSlug base n ∈ db.takenSlugs) :
    slugRound db env (.chooseSlug dto base n) = .chooseSlug dto base (n + 1) :=
  if_pos ((slug_taken_iff _).mpr h)

theorem slugRound_free {env : Env} {n : ℕ} (h : candidateSlug base n ∉ db.takenSlugs) :
    slugRound db env (.chooseSlug dto base n) = .commit (.createTenant dto (candidateSlug base n)) :=
  if_neg fun htaken => h ((slug_taken_iff _).mp htaken)

theorem slugRound_iterate {env : Env} {n : ℕ}
    (h : ∀ m < n, candidateSlug base m ∈ db.takenSlugs) :
    (slugRound db env)^[n] (.chooseSlug dto base 0) = .chooseSlug dto base n := by
  induction n with
  | zero => rfl
  | succ n ih =>
    rw [Function.iterate_succ_apply', ih fun m hm => h m (by omega)]
    exact slugRound_taken (h n (Nat.lt_succ_self n))

/-- The loop over the candidates ends, after one round more than there are taken slugs at most,
with a free slug, which is the base slug of the title or this with a dash and a number. -/
theorem slug_search (db : Db) (env : Env) (dto : CreateTenantDto) (now : ℕ) :
    ∃ rounds ≤ db.takenSlugs.card + 1, ∃ slug,
      (slugRound db env)^[rounds] (.chooseSlug dto (baseSlug dto.title now) 0) =
          .commit (.createTenant dto slug) ∧
        slug ∉ db.takenSlugs ∧ IsSlug slug.toList ∧
          (slug = baseSlug dto.title now ∨
            ∃ n, slug = baseSlug dto.title now ++ "-" ++ Nat.repr n) := by
  obtain ⟨n, hle, hfree, htaken⟩ :=
    exists_first_free (candidateSlug_injective (baseSlug dto.title now)) db.takenSlugs
  refine ⟨n + 1, Nat.succ_le_succ hle, candidateSlug (baseSlug dto.title now) n, ?_, hfree,
    candidateSlug_isSlug (baseSlug_isSlug dto.title now) n, ?_⟩
  · rw [Function.iterate_succ_apply', slugRound_iterate htaken]
    exact slugRound_free hfree
  · unfold candidateSlug
    split_ifs
    · exact .inl rfl
    · exact .inr ⟨n, rfl⟩

end Search

end WorksAuto.Accounts
