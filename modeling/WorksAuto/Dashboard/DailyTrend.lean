import Mathlib.Algebra.Group.Int.Defs
import Mathlib.Algebra.Group.Nat.Defs
import Mathlib.Algebra.Group.Prod
import WorksAuto.Dashboard.FinancialReport
import WorksAuto.IsoDate
import WorksAuto.Lib.Grouping
import WorksAuto.Lib.Rounding

/-! The daily trend of the financial report.
The completed orders of a report, added up day by day from the figures they are
listed with, which are whole liras. -/

namespace WorksAuto

open Lib

/-- What a day of the trend adds up: the sums of the loop over the orders. -/
abbrev TrendFigures := ℤ × ℤ × ℤ × ℤ × ℕ

def OrderReport.trendFigures (order : OrderReport) : TrendFigures :=
  (order.grandTotal, order.labourTotal, order.partsTotal, order.estimatedProfit, 1)

/-- `completedAt.split('T')[0]`, as the number of the day in UTC. -/
def OrderReport.day (order : OrderReport) : ℤ := order.completedAt / millisecondsPerDay

structure TrendEntry where
  date : ℤ
  revenue : ℤ
  labour : ℤ
  parts : ℤ
  profit : ℤ
  orderCount : ℕ
  deriving DecidableEq, Repr

def trendEntry (e : ℤ × TrendFigures) : TrendEntry where
  date := e.1
  revenue := e.2.1
  labour := e.2.2.1
  parts := e.2.2.2.1
  profit := e.2.2.2.2.1
  orderCount := e.2.2.2.2.2

/-- `dailyTrend`: the map over the days, by date. -/
def dailyTrend (orders : List OrderReport) : List TrendEntry :=
  ((Grouping.groupBy OrderReport.day OrderReport.trendFigures orders).mergeSort
    fun a b => a.1 ≤ b.1).map trendEntry

section Trend

variable (orders : List OrderReport)

theorem sum_trendFigures (selected : List OrderReport) :
    (selected.map OrderReport.trendFigures).sum =
      ((selected.map (·.grandTotal)).sum, (selected.map (·.labourTotal)).sum,
        (selected.map (·.partsTotal)).sum, (selected.map (·.estimatedProfit)).sum,
        selected.length) := by
  induction selected with
  | nil => rfl
  | cons o selected ih =>
    simp only [List.map_cons, List.sum_cons, ih, OrderReport.trendFigures, Prod.mk_add_mk,
      List.length_cons]
    rw [Nat.add_comm]

def ordersOn (day : ℤ) : List OrderReport := orders.filter fun o => o.day = day

theorem mem_dailyTrend {entry : TrendEntry} (h : entry ∈ dailyTrend orders) :
    entry.revenue = ((ordersOn orders entry.date).map (·.grandTotal)).sum ∧
    entry.labour = ((ordersOn orders entry.date).map (·.labourTotal)).sum ∧
    entry.parts = ((ordersOn orders entry.date).map (·.partsTotal)).sum ∧
    entry.profit = ((ordersOn orders entry.date).map (·.estimatedProfit)).sum ∧
    entry.orderCount = (ordersOn orders entry.date).length := by
  obtain ⟨e, he, rfl⟩ := List.mem_map.mp h
  have hvalue := Grouping.eq_of_mem_groupBy _ _ _ ((List.mergeSort_perm _ _).mem_iff.mp he)
  rw [sum_trendFigures] at hvalue
  simp only [trendEntry, hvalue, ordersOn, and_self]

theorem dailyTrend_dates : (dailyTrend orders).map TrendEntry.date =
    ((Grouping.groupBy OrderReport.day OrderReport.trendFigures orders).mergeSort
      fun a b => a.1 ≤ b.1).map Prod.fst := by
  rw [dailyTrend, List.map_map]
  rfl

theorem dailyTrend_sorted : ((dailyTrend orders).map TrendEntry.date).Pairwise (· < ·) := by
  rw [dailyTrend_dates]
  have hperm := (List.mergeSort_perm
    (Grouping.groupBy OrderReport.day OrderReport.trendFigures orders) fun a b => a.1 ≤ b.1)
  have hnodup := (hperm.map Prod.fst).nodup_iff.mpr (Grouping.nodup_keys_groupBy ..)
  have hsorted : ((Grouping.groupBy OrderReport.day OrderReport.trendFigures orders).mergeSort
      fun a b => a.1 ≤ b.1).Pairwise fun a b => decide (a.1 ≤ b.1) = true := List.pairwise_mergeSort
    (fun _ _ _ hab hbc =>
      decide_eq_true ((of_decide_eq_true hab).trans (of_decide_eq_true hbc)))
    (fun a b => by
      rw [Bool.or_eq_true, decide_eq_true_eq, decide_eq_true_eq]
      exact le_total ..)
    (Grouping.groupBy OrderReport.day OrderReport.trendFigures orders)
  refine (List.pairwise_map.mpr (hsorted.imp fun h => of_decide_eq_true h)).and hnodup |>.imp ?_
  exact fun h => lt_of_le_of_ne h.1 h.2

theorem mem_dailyTrend_dates {day : ℤ} :
    day ∈ (dailyTrend orders).map TrendEntry.date ↔ ∃ o ∈ orders, o.day = day := by
  rw [dailyTrend_dates, ((List.mergeSort_perm _ _).map Prod.fst).mem_iff,
    Grouping.mem_keys_groupBy]

theorem sum_trendEntries (entries : List (ℤ × TrendFigures)) :
    (entries.map Prod.snd).sum =
      (((entries.map trendEntry).map TrendEntry.revenue).sum,
        ((entries.map trendEntry).map TrendEntry.labour).sum,
        ((entries.map trendEntry).map TrendEntry.parts).sum,
        ((entries.map trendEntry).map TrendEntry.profit).sum,
        ((entries.map trendEntry).map TrendEntry.orderCount).sum) := by
  induction entries with
  | nil => rfl
  | cons e entries ih =>
    simp only [List.map_cons, List.sum_cons, ih]
    rfl

theorem sum_dailyTrend :
    ((dailyTrend orders).map TrendEntry.revenue).sum = (orders.map (·.grandTotal)).sum ∧
    ((dailyTrend orders).map TrendEntry.labour).sum = (orders.map (·.labourTotal)).sum ∧
    ((dailyTrend orders).map TrendEntry.parts).sum = (orders.map (·.partsTotal)).sum ∧
    ((dailyTrend orders).map TrendEntry.profit).sum = (orders.map (·.estimatedProfit)).sum ∧
    ((dailyTrend orders).map TrendEntry.orderCount).sum = orders.length := by
  have hperm := List.mergeSort_perm
    (Grouping.groupBy OrderReport.day OrderReport.trendFigures orders) fun a b => a.1 ≤ b.1
  have hsum := Grouping.sum_groupBy OrderReport.day OrderReport.trendFigures orders
  rw [sum_trendFigures, ← (hperm.map Prod.snd).sum_eq] at hsum
  rw [sum_trendEntries] at hsum
  simp only [Prod.mk.injEq] at hsum
  exact hsum

theorem totalFigures_estimatedProfit (figures : List OrderFigures) :
    (totalFigures figures).estimatedProfit = (figures.map OrderFigures.estimatedProfit).sum := by
  simp only [totalFigures, OrderFigures.estimatedProfit]
  induction figures with
  | nil => simp
  | cons f figures ih =>
    rw [List.map_cons, List.map_cons, List.map_cons, List.map_cons, List.sum_cons, List.sum_cons,
      List.sum_cons, List.sum_cons, ← ih, OrderFigures.estimatedProfit]
    ring

theorem rounded_figure (costs : ProductCosts) (completed : List CompletedOrder)
    (f : OrderFigures → ℚ) (g : OrderReport → ℤ)
    (hg : ∀ o : CompletedOrder, g (o.report costs) = round (f (o.figures costs))) :
    2 * |((completed.map (CompletedOrder.report costs)).map g).sum -
      round ((completed.map (CompletedOrder.figures costs)).map f).sum| ≤ completed.length + 1 := by
  have hbound := two_mul_abs_sum_round_sub_le
    ((completed.map (CompletedOrder.figures costs)).map f)
  have hlist : (completed.map (CompletedOrder.report costs)).map g =
      ((completed.map (CompletedOrder.figures costs)).map f).map fun x => round x := by
    rw [List.map_map, List.map_map, List.map_map]
    exact List.map_congr_left fun o _ => hg o
  rw [hlist]
  simpa using hbound

theorem day_mem_period (costs : ProductCosts) {o : CompletedOrder} {startDate endDate : Instant}
    (h : o.isIn startDate endDate = true) :
    startDate / millisecondsPerDay ≤ (o.report costs).day ∧
      (o.report costs).day ≤ endDate / millisecondsPerDay := by
  obtain ⟨hstart, hend⟩ := of_decide_eq_true h
  exact ⟨Int.ediv_le_ediv (by decide) hstart, Int.ediv_le_ediv (by decide) hend⟩

end Trend

end WorksAuto
