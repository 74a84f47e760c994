import WorksAuto.Notifications.Inbox

/-! The pages of an inbox.
Read one after another they list what a user may see, the newest first. Every page
is a query of its own and may arrange notifications of one time in its own way, so
only a time that stands alone is sure to be listed once. -/

namespace WorksAuto.Notifications

open Lib

namespace FindAllOptions

variable (o : FindAllOptions)

structure Visible (n : Notification) : Prop where
  own : o.reader.reads n = true
  unread : o.unreadOnly = true → n.isRead = false
  category : ∀ c, o.categoryAsked = some c → n.category = c
  finance : isRestricted o.role = true → n.category ≠ "FINANCE"

variable {o}

theorem matches?_iff {filter : CategoryFilter} (h : o.categoryFilter = some filter)
    (n : Notification) : o.matches? filter n = true ↔ o.Visible n := by
  have hfilter : filter.admits n = true ↔ (∀ c, o.categoryAsked = some c → n.category = c) ∧
      (isRestricted o.role = true → n.category ≠ "FINANCE") := by
    unfold categoryFilter at h
    cases hasked : o.categoryAsked with
    | none =>
      rw [hasked] at h
      by_cases hrole : isRestricted o.role = true
      · rw [if_pos hrole] at h
        cases h
        simp [CategoryFilter.admits, hrole]
      · rw [if_neg hrole] at h
        cases h
        simp [CategoryFilter.admits, hrole]
    | some c =>
      simp only [hasked] at h
      split at h
      · cases h
      next hrole =>
        cases h
        simp only [CategoryFilter.admits, decide_eq_true_eq, Option.some.injEq, forall_eq']
        refine ⟨fun hn => ⟨hn, fun hrestricted hfinance => hrole ?_⟩, fun hn => hn.1⟩
        simp [hrestricted, ← hn, hfinance]
  unfold matches?
  rw [Bool.and_eq_true, Bool.and_eq_true, hfilter]
  constructor
  · rintro ⟨⟨hown, hunread⟩, hcategory, hfinance⟩
    exact ⟨hown, fun ho => by simpa [ho] using hunread, hcategory, hfinance⟩
  · rintro ⟨hown, hunread, hcategory, hfinance⟩
    refine ⟨⟨hown, ?_⟩, hcategory, hfinance⟩
    cases ho : o.unreadOnly with
    | false => rfl
    | true => simp [hunread ho]

theorem not_visible (h : o.categoryFilter = none) (n : Notification) : ¬ o.Visible n := by
  unfold categoryFilter at h
  intro hn
  cases hasked : o.categoryAsked with
  | none =>
    rw [hasked] at h
    cases h
  | some c =>
    simp only [hasked] at h
    split at h
    next hrole =>
      obtain ⟨hrestricted, hc⟩ := Bool.and_eq_true_iff.mp hrole
      refine hn.finance hrestricted ?_
      rw [hn.category c hasked]
      exact of_decide_eq_true hc
    · cases h

instance (n : Notification) : Decidable (o.Visible n) :=
  match h : o.categoryFilter with
  | none => .isFalse (not_visible h n)
  | some _ => decidable_of_iff _ (matches?_iff h n)

variable (o)

theorem pageLimit_bounds : 0 < o.pageLimit ∧ o.pageLimit ≤ 50 := by
  unfold pageLimit
  omega

theorem pageNumber_some (i : ℕ) : ({ o with page := some (i + 1) } : FindAllOptions).pageNumber =
    i + 1 := by
  simp only [pageNumber, Option.getD_some]
  omega

end FindAllOptions

instance : Inhabited NewestFirst where
  default :=
    { arrange := fun rows => rows.mergeSort fun a b => b.2.createdAt ≤ a.2.createdAt
      perm := fun _ => List.mergeSort_perm ..
      sorted := fun rows => by
        have hsorted : (rows.mergeSort fun a b => b.2.createdAt ≤ a.2.createdAt).Pairwise
            fun a b => decide (b.2.createdAt ≤ a.2.createdAt) = true := List.pairwise_mergeSort
          (fun _ _ _ hab hbc =>
            decide_eq_true ((of_decide_eq_true hbc).trans (of_decide_eq_true hab)))
          (fun a b => by
            rw [Bool.or_eq_true, decide_eq_true_eq, decide_eq_true_eq]
            exact le_total ..) rows
        exact hsorted.imp fun h => of_decide_eq_true h }

section Pages

variable (orders : ℕ → NewestFirst) (rows : List (Uuid × Notification)) (o : FindAllOptions)

/-- The pages of an answer, read one after another, each as the database arranges it. -/
def allPages : List (Uuid × Notification) :=
  (List.range (findAll (orders 0) rows o).pages.totalPages).flatMap fun i : ℕ =>
    (findAll (orders i) rows { o with page := some ((i : ℤ) + 1) }).data

def visibleRows : List (Uuid × Notification) := rows.filter fun r => o.Visible r.2

theorem visibleRows_of_filter {filter : CategoryFilter} (h : o.categoryFilter = some filter) :
    (rows.filter fun r => o.matches? filter r.2) = visibleRows rows o := by
  refine List.filter_congr fun r _ => ?_
  rw [Bool.eq_iff_iff, FindAllOptions.matches?_iff h, decide_eq_true_eq]

theorem visibleRows_of_none (h : o.categoryFilter = none) : visibleRows rows o = [] := by
  rw [visibleRows, List.filter_eq_nil_iff]
  intro r _
  simpa using FindAllOptions.not_visible h r.2

theorem NewestFirst.times_eq (order order' : NewestFirst) :
    (order.arrange rows).map (·.2.createdAt) = (order'.arrange rows).map (·.2.createdAt) := by
  have hperm : ((order.arrange rows).map (·.2.createdAt)).Perm
      ((order'.arrange rows).map (·.2.createdAt)) :=
    ((order.perm rows).trans (order'.perm rows).symm).map _
  have hsorted : ∀ o : NewestFirst,
      ((o.arrange rows).map (·.2.createdAt)).Pairwise fun a b => b ≤ a :=
    fun o => List.pairwise_map.mpr (o.sorted rows)
  refine List.Perm.eq_of_pairwise ?_ (hsorted order) (hsorted order') hperm
  exact fun a b _ _ hab hba => le_antisymm hba hab

theorem data_page (order : NewestFirst) (i : ℕ) :
    (findAll order rows { o with page := some ((i : ℤ) + 1) }).data =
      Paging.page o.pageLimit (i + 1) (order.arrange (visibleRows rows o)) := by
  cases h : o.categoryFilter with
  | none =>
    have hi : ({ o with page := some (i + 1) } : FindAllOptions).categoryFilter = none := h
    have hnil : order.arrange [] = [] := (order.perm []).eq_nil
    simp [findAll, hi, visibleRows_of_none rows o h, hnil, Paging.page]
  | some filter =>
    have hi : ({ o with page := some (i + 1) } : FindAllOptions).categoryFilter = some filter := h
    simp only [findAll, hi]
    rw [o.pageNumber_some, ← visibleRows_of_filter rows o h]
    rfl

theorem pageCount_le (order : NewestFirst) :
    Paging.pageCount o.pageLimit (visibleRows rows o).length ≤
      (findAll order rows o).pages.totalPages := by
  cases h : o.categoryFilter with
  | none =>
    simp only [findAll, h, visibleRows_of_none rows o h, List.length_nil, Paging.pageCount]
    rw [Nat.zero_add, Nat.div_eq_of_lt (Nat.sub_lt o.pageLimit_bounds.1 one_pos)]
    exact Nat.zero_le _
  | some filter =>
    simp only [findAll, h, visibleRows_of_filter rows o h]
    exact le_max_right ..

theorem mem_allPages {r : Uuid × Notification} (h : r ∈ allPages orders rows o) :
    r ∈ visibleRows rows o := by
  obtain ⟨i, -, hi⟩ := List.mem_flatMap.mp h
  rw [data_page] at hi
  exact ((orders i).perm _).mem_iff.mp (Paging.mem_of_mem_page hi)

theorem times_allPages (order : NewestFirst) :
    (allPages orders rows o).map (·.2.createdAt) =
      (order.arrange (visibleRows rows o)).map (·.2.createdAt) := by
  unfold allPages
  rw [List.map_flatMap]
  have hpage : ∀ i : ℕ,
      (findAll (orders i) rows { o with page := some ((i : ℤ) + 1) }).data.map (·.2.createdAt) =
        Paging.page o.pageLimit (i + 1)
          ((order.arrange (visibleRows rows o)).map (·.2.createdAt)) := by
    intro i
    rw [data_page, Paging.map_page, NewestFirst.times_eq _ (orders i) order]
  refine (List.flatMap_congr fun i _ => hpage i).trans ?_
  refine Paging.flatMap_page_eq o.pageLimit_bounds.1 _ ?_
  rw [List.length_map, (order.perm _).length_eq]
  exact pageCount_le rows o (orders 0)

theorem times_perm :
    ((allPages orders rows o).map (·.2.createdAt)).Perm
      ((visibleRows rows o).map (·.2.createdAt)) := by
  rw [times_allPages orders rows o (orders 0)]
  exact ((orders 0).perm _).map _

theorem listed_once {t : Instant} {r : Uuid × Notification}
    (h : ((visibleRows rows o).filter fun r => r.2.createdAt = t) = [r]) :
    ((allPages orders rows o).filter fun r => r.2.createdAt = t) = [r] := by
  have hcount : ∀ l : List (Uuid × Notification),
      (l.filter fun r => r.2.createdAt = t).length = (l.map (·.2.createdAt)).count t := by
    intro l
    rw [List.count_eq_countP, List.countP_map, List.countP_eq_length_filter]
    rfl
  have hlength : ((allPages orders rows o).filter fun r => r.2.createdAt = t).length = 1 := by
    rw [hcount, (times_perm orders rows o).count_eq, ← hcount, h]
    rfl
  obtain ⟨r', hr'⟩ := List.length_eq_one_iff.mp hlength
  have hmem : r' ∈ (allPages orders rows o).filter fun r => r.2.createdAt = t := by
    rw [hr']
    exact List.mem_singleton_self r'
  obtain ⟨hpages, htime⟩ := List.mem_filter.mp hmem
  have hvisible : r' ∈ (visibleRows rows o).filter fun r => r.2.createdAt = t :=
    List.mem_filter.mpr ⟨mem_allPages orders rows o hpages, htime⟩
  rw [h] at hvisible
  rw [hr', List.mem_singleton.mp hvisible]

theorem findAll_total (order : NewestFirst) :
    (findAll order rows o).pages.total = (visibleRows rows o).length := by
  cases h : o.categoryFilter with
  | none => simp only [findAll, h, visibleRows_of_none rows o h, List.length_nil]
  | some filter => simp only [findAll, h, visibleRows_of_filter rows o h]

theorem findAll_unreadCount (order : NewestFirst) : (findAll order rows o).pages.unreadCount =
    ((visibleRows rows o).filter fun r => !r.2.isRead).length := by
  cases h : o.categoryFilter with
  | none => simp only [findAll, h, visibleRows_of_none rows o h, List.filter_nil, List.length_nil]
  | some filter => simp only [findAll, h, visibleRows_of_filter rows o h]

theorem length_data_le (order : NewestFirst) : (findAll order rows o).data.length ≤ 50 := by
  cases h : o.categoryFilter with
  | none => simp only [findAll, h, List.length_nil, Nat.zero_le]
  | some filter =>
    simp only [findAll, h]
    exact (Paging.length_page_le ..).trans o.pageLimit_bounds.2

theorem getUnreadCount_eq (hasked : o.categoryAsked = none) :
    getUnreadCount rows o.reader o.role =
      ((visibleRows rows o).filter fun r => !r.2.isRead).length := by
  rw [visibleRows, List.filter_filter, getUnreadCount]
  congr 1
  refine List.filter_congr fun r _ => ?_
  have hvisible : o.Visible r.2 ↔ o.reader.reads r.2 = true ∧
      (o.unreadOnly = true → r.2.isRead = false) ∧
      (isRestricted o.role = true → r.2.category ≠ "FINANCE") :=
    ⟨fun h => ⟨h.own, h.unread, h.finance⟩,
      fun h => ⟨h.1, h.2.1, by simp [hasked], h.2.2⟩⟩
  rw [Bool.eq_iff_iff]
  cases hread : r.2.isRead <;> cases hrole : isRestricted o.role <;>
    simp [hvisible, hread, hrole]

/-- However the database arranges equal times on each page, the pages list what the user may
see, newest first, and each notification of a time of its own once; the counts are counts of
what he may see, and the badge is the count of what is unread in it. -/
theorem inbox_pages :
    (∀ r ∈ allPages orders rows o, r ∈ visibleRows rows o) ∧
    ((allPages orders rows o).map (·.2.createdAt)).Perm
      ((visibleRows rows o).map (·.2.createdAt)) ∧
    (allPages orders rows o).Pairwise (fun a b => b.2.createdAt ≤ a.2.createdAt) ∧
    (∀ t r, ((visibleRows rows o).filter fun r => r.2.createdAt = t) = [r] →
      ((allPages orders rows o).filter fun r => r.2.createdAt = t) = [r]) ∧
    ∀ order, (findAll order rows o).pages.total = (visibleRows rows o).length ∧
      (findAll order rows o).pages.unreadCount =
        ((visibleRows rows o).filter fun r => !r.2.isRead).length ∧
      (findAll order rows o).data.length ≤ 50 ∧
      (o.categoryAsked = none →
        getUnreadCount rows o.reader o.role =
          ((visibleRows rows o).filter fun r => !r.2.isRead).length) := by
  refine ⟨fun r hr => mem_allPages orders rows o hr, times_perm orders rows o, ?_,
    fun t r hr => listed_once orders rows o hr, fun order => ⟨findAll_total rows o order,
      findAll_unreadCount rows o order, length_data_le rows o order, getUnreadCount_eq rows o⟩⟩
  have hsorted : ((allPages orders rows o).map (·.2.createdAt)).Pairwise fun a b => b ≤ a := by
    rw [times_allPages orders rows o (orders 0)]
    exact List.pairwise_map.mpr ((orders 0).sorted _)
  exact List.pairwise_map.mp hsorted

end Pages

end WorksAuto.Notifications
