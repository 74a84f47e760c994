import WorksAuto.Dashboard.FinancialReport
import WorksAuto.IsoDate
import WorksAuto.Lib.Window

/-! The period of a financial report.
A period that is named ends with the last millisecond of a day. A period that is given
by two dates ends with the midnight at which its last day begins, so that what happens
on that day is left out. -/

namespace WorksAuto

open Lib

inductive ReportPeriod where
  | today | yesterday | thisWeek | thisMonth | lastMonth | custom
  deriving DecidableEq, Repr

/-- What a query gives as a date: a day, or an instant with a time of day. -/
inductive ReportDate where
  | day (number : ℤ)
  | instant (t : Instant)
  deriving DecidableEq, Repr

/-- `new Date(text)`: a day stands for its midnight in UTC. -/
def ReportDate.toInstant : ReportDate → Instant
  | day number => number * millisecondsPerDay
  | instant t => t

structure GetFinancialReportQuery where
  period : Option ReportPeriod
  startDate : Option ReportDate
  endDate : Option ReportDate
  deriving DecidableEq, Repr

/-- The time of the request, and by how much the local time of the server is ahead of UTC. -/
structure ReportClock where
  now : Instant
  offset : ℤ

namespace ReportClock

def localDay (clock : ReportClock) : ℤ := (clock.now + clock.offset) / millisecondsPerDay

def startOfDay (clock : ReportClock) (day : ℤ) : Instant := day * millisecondsPerDay - clock.offset

def endOfDay (clock : ReportClock) (day : ℤ) : Instant :=
  clock.startOfDay day + millisecondsPerDay - 1

def firstOfMonth (day : ℤ) : ℤ := day - ((dateFields day).date - 1)

def mondayOf (day : ℤ) : ℤ :=
  let weekday := (day + 4) % 7
  day - weekday + (if weekday = 0 then -6 else 1)

end ReportClock

example : ReportClock.mondayOf 20575 = 20570 := by decide +kernel

/-- `startDate` and `endDate` of the report. -/
def reportRange (clock : ReportClock) (query : GetFinancialReportQuery) : Instant × Instant :=
  let today := clock.localDay
  match query.period.getD .thisMonth with
  | .today => (clock.startOfDay today, clock.endOfDay today)
  | .yesterday => (clock.startOfDay (today - 1), clock.endOfDay (today - 1))
  | .thisWeek => (clock.startOfDay (ReportClock.mondayOf today), clock.endOfDay today)
  | .lastMonth =>
    let last := ReportClock.firstOfMonth today - 1
    (clock.startOfDay (ReportClock.firstOfMonth last), clock.endOfDay last)
  | .custom =>
    (query.startDate.elim (clock.startOfDay (ReportClock.firstOfMonth today)) ReportDate.toInstant,
      query.endDate.elim (clock.endOfDay today) ReportDate.toInstant)
  | .thisMonth => (clock.startOfDay (ReportClock.firstOfMonth today), clock.endOfDay today)

/-- The columns of the report's rows that nothing else in the model reads. -/
structure ReportTimes where
  updatedAt : Uuid → Instant
  paymentDate : Uuid → Instant

section Figures

/-- The payments of a period; an offset of an advance is not counted again. -/
def Db.collectedPayments (db : Db) (times : ReportTimes) (tenantId : Uuid)
    (startDate endDate : Instant) : List (Uuid × Payment) :=
  window (fun p => times.paymentDate p.1) startDate endDate
    (db.payments.filter fun p => p.paymentMethod ≠ .advanceOffset ∧ p.tenantId = tenantId)

def Db.periodInvoices (db : Db) (tenantId : Uuid) (startDate endDate : Instant) :
    List (Uuid × Invoice) :=
  window (fun inv => inv.2.issueDate) startDate endDate
    (db.invoices.filter fun inv =>
      inv.tenantId = tenantId ∧ (inv.status = .unpaid ∨ inv.status = .partiallyPaid))

structure PeriodFigures where
  completedWorkOrdersCount : ℕ
  totalRevenue : ℚ
  totalPaymentsAmount : ℚ
  unpaidReceivables : ℚ
  deriving DecidableEq

def Db.periodFigures (db : Db) (times : ReportTimes) (tenantId : Uuid)
    (startDate endDate : Instant) : PeriodFigures :=
  let orders := db.completedOrders times.updatedAt tenantId startDate endDate
  { completedWorkOrdersCount := orders.length
    totalRevenue :=
      (totalFigures (orders.map (CompletedOrder.figures (db.productCosts tenantId)))).grandTotal
    totalPaymentsAmount :=
      ((db.collectedPayments times tenantId startDate endDate).map
        fun p => toNumber p.2.amount).sum
    unpaidReceivables :=
      ((db.periodInvoices tenantId startDate endDate).map
        fun inv => max 0 (toNumber inv.2.grandTotal - toNumber inv.2.paidAmount)).sum }

end Figures

section Ranges

variable {db : Db} {times : ReportTimes} {clock : ReportClock} {tenantId : Uuid} {a b c : ℤ}

def customRange (a c : ℤ) : GetFinancialReportQuery where
  period := some .custom
  startDate := some (.day a)
  endDate := some (.day c)

def Db.figuresFor (db : Db) (times : ReportTimes) (clock : ReportClock) (tenantId : Uuid)
    (query : GetFinancialReportQuery) : PeriodFigures :=
  db.periodFigures times tenantId (reportRange clock query).1 (reportRange clock query).2

def Db.countedOrders (db : Db) (times : ReportTimes) (tenantId : Uuid) : List CompletedOrder :=
  (db.workOrders.filter fun wo => wo.tenantId = tenantId ∧ wo.status = .completed).map
    (db.completedOrder times.updatedAt)

def Db.CountedIn (db : Db) (times : ReportTimes) (clock : ReportClock) (tenantId : Uuid)
    (query : GetFinancialReportQuery) (o : CompletedOrder) : Prop :=
  o ∈ db.completedOrders times.updatedAt tenantId (reportRange clock query).1
    (reportRange clock query).2

def onDay (d : ℤ) (t : Instant) : Prop :=
  d * millisecondsPerDay ≤ t ∧ t < (d + 1) * millisecondsPerDay

def insideDay (d : ℤ) (t : Instant) : Prop :=
  d * millisecondsPerDay < t ∧ t < (d + 1) * millisecondsPerDay

/-- The reports on `a..b` and on `b+1..c` add up to the report on `a..c`. -/
structure RangesAddUp (db : Db) (times : ReportTimes) (clock : ReportClock) (tenantId : Uuid)
    (a b c : ℤ) : Prop where
  count : (db.figuresFor times clock tenantId (customRange a c)).completedWorkOrdersCount =
    (db.figuresFor times clock tenantId (customRange a b)).completedWorkOrdersCount +
      (db.figuresFor times clock tenantId (customRange (b + 1) c)).completedWorkOrdersCount
  once : ∀ o ∈ db.countedOrders times tenantId, ∀ t, o.order.completedAt = some t →
    (∃ d, a ≤ d ∧ d ≤ c ∧ onDay d t) →
    Xor (db.CountedIn times clock tenantId (customRange a b) o)
      (db.CountedIn times clock tenantId (customRange (b + 1) c) o)
  cash : (db.figuresFor times clock tenantId (customRange a c)).totalPaymentsAmount =
    (db.figuresFor times clock tenantId (customRange a b)).totalPaymentsAmount +
      (db.figuresFor times clock tenantId (customRange (b + 1) c)).totalPaymentsAmount
  revenue : (db.figuresFor times clock tenantId (customRange a c)).totalRevenue =
    (db.figuresFor times clock tenantId (customRange a b)).totalRevenue +
      (db.figuresFor times clock tenantId (customRange (b + 1) c)).totalRevenue

/-- Nothing happens on the last days of the two parts after their midnights: no order is
completed, and what is collected on the first of them comes to nothing. -/
structure QuietLastDays (db : Db) (times : ReportTimes) (tenantId : Uuid) (b c : ℤ) : Prop where
  orders : ∀ o ∈ db.countedOrders times tenantId,
    ¬ insideDay b (o.order.completedAt.getD o.updatedAt)
  lastDay : ∀ o ∈ db.countedOrders times tenantId, ∀ t, o.order.completedAt = some t →
    ¬ insideDay c t
  payments :
    ((gap (fun p => times.paymentDate p.1) (b * millisecondsPerDay) ((b + 1) * millisecondsPerDay)
      (db.payments.filter fun p =>
        p.paymentMethod ≠ .advanceOffset ∧ p.tenantId = tenantId)).map
      fun p => toNumber p.2.amount).sum = 0

def CompletedOrder.time (o : CompletedOrder) : Instant := o.order.completedAt.getD o.updatedAt

theorem completedOrders_perm (db : Db) (times : ReportTimes) (tenantId : Uuid)
    (startDate endDate : Instant) :
    (db.completedOrders times.updatedAt tenantId startDate endDate).Perm
      (window CompletedOrder.time startDate endDate (db.countedOrders times tenantId)) :=
  List.mergeSort_perm _ _

theorem completedWorkOrdersCount_eq (db : Db) (times : ReportTimes) (tenantId : Uuid)
    (startDate endDate : Instant) :
    (db.periodFigures times tenantId startDate endDate).completedWorkOrdersCount =
      (window CompletedOrder.time startDate endDate (db.countedOrders times tenantId)).length :=
  (completedOrders_perm db times tenantId startDate endDate).length_eq

theorem totalRevenue_eq (db : Db) (times : ReportTimes) (tenantId : Uuid)
    (startDate endDate : Instant) :
    (db.periodFigures times tenantId startDate endDate).totalRevenue =
      ((window CompletedOrder.time startDate endDate (db.countedOrders times tenantId)).map
        fun o => (o.figures (db.productCosts tenantId)).grandTotal).sum := by
  simp only [Db.periodFigures, totalFigures, List.map_map]
  exact ((completedOrders_perm db times tenantId startDate endDate).map _).sum_eq

theorem countedIn_iff {o : CompletedOrder} :
    db.CountedIn times clock tenantId (customRange a c) o ↔
      o ∈ window CompletedOrder.time (a * millisecondsPerDay) (c * millisecondsPerDay)
        (db.countedOrders times tenantId) :=
  (completedOrders_perm db times tenantId _ _).mem_iff

theorem exists_onDay_iff {t : Instant} : (∃ d, a ≤ d ∧ d ≤ c ∧ onDay d t) ↔
    a * millisecondsPerDay ≤ t ∧ t < (c + 1) * millisecondsPerDay := by
  unfold onDay millisecondsPerDay
  constructor
  · rintro ⟨d, had, hdc, hlo, hhi⟩
    constructor <;> linarith
  · rintro ⟨hlo, hhi⟩
    refine ⟨t / 86400000, ?_, ?_, ?_, ?_⟩
    · exact (Int.le_ediv_iff_mul_le (by norm_num)).mpr hlo
    · exact Int.lt_add_one_iff.mp ((Int.ediv_lt_iff_lt_mul (by norm_num)).mpr hhi)
    · exact Int.ediv_mul_le _ (by norm_num)
    · exact Int.lt_ediv_add_one_mul_self _ (by norm_num)

/-- The reports on two ranges of dates that follow each other add up to the report on both
precisely when nothing happens on their last days after midnight. -/
theorem ranges_add_up_iff (hab : a ≤ b) (hbc : b < c) :
    RangesAddUp db times clock tenantId a b c ↔ QuietLastDays db times tenantId b c := by
  have hday : (0 : ℤ) < millisecondsPerDay := by decide
  have hstart : a * millisecondsPerDay ≤ b * millisecondsPerDay :=
    mul_le_mul_of_nonneg_right hab hday.le
  have hnext : b * millisecondsPerDay < (b + 1) * millisecondsPerDay :=
    mul_lt_mul_of_pos_right (lt_add_one b) hday
  have hend : (b + 1) * millisecondsPerDay ≤ c * millisecondsPerDay :=
    mul_le_mul_of_nonneg_right hbc hday.le
  have hlast : c * millisecondsPerDay < (c + 1) * millisecondsPerDay :=
    mul_lt_mul_of_pos_right (lt_add_one c) hday
  have horders := length_window hstart hnext hend CompletedOrder.time
    (db.countedOrders times tenantId)
  have hrevenue := sum_window hstart hnext hend CompletedOrder.time
    (fun o => (o.figures (db.productCosts tenantId)).grandTotal) (db.countedOrders times tenantId)
  have hcash := sum_window hstart hnext hend (fun p : Uuid × Payment => times.paymentDate p.1)
    (fun p => toNumber p.2.amount)
    (db.payments.filter fun p => p.paymentMethod ≠ .advanceOffset ∧ p.tenantId = tenantId)
  constructor
  · rintro ⟨count, once, cash, -⟩
    have hgap : gap CompletedOrder.time (b * millisecondsPerDay) ((b + 1) * millisecondsPerDay)
        (db.countedOrders times tenantId) = [] := by
      simp only [Db.figuresFor, completedWorkOrdersCount_eq] at count
      change (window CompletedOrder.time (a * millisecondsPerDay) (c * millisecondsPerDay)
        (db.countedOrders times tenantId)).length = _ at count
      rw [horders] at count
      exact List.length_eq_zero_iff.mp (Nat.add_eq_left.mp count)
    refine ⟨gap_eq_nil.mp hgap, ?_, ?_⟩
    · intro o ho t ht hinside
      have hone := once o ho t ht <| exists_onDay_iff.mpr
        ⟨hstart.trans (hnext.le.trans (hend.trans hinside.1.le)), hinside.2⟩
      have htime : o.time = t := by rw [CompletedOrder.time, ht, Option.getD_some]
      simp only [countedIn_iff, mem_window, htime] at hone
      rcases hone with ⟨⟨-, -, hle⟩, -⟩ | ⟨⟨-, -, hle⟩, -⟩
      · exact absurd hle (not_le_of_gt (hnext.trans (hend.trans_lt hinside.1)))
      · exact absurd hle (not_le_of_gt hinside.1)
    · change ((window _ (a * millisecondsPerDay) (c * millisecondsPerDay) _).map _).sum = _ at cash
      rw [hcash] at cash
      exact left_eq_add.mp cash.symm
  · rintro ⟨orders, lastDay, payments⟩
    have hgap : gap CompletedOrder.time (b * millisecondsPerDay) ((b + 1) * millisecondsPerDay)
        (db.countedOrders times tenantId) = [] := gap_eq_nil.mpr orders
    rw [hgap] at horders hrevenue
    rw [payments] at hcash
    refine ⟨?_, ?_, ?_, ?_⟩
    · simp only [Db.figuresFor, completedWorkOrdersCount_eq]
      exact horders
    · intro o ho t ht hon
      obtain ⟨hlo, hhi⟩ := exists_onDay_iff.mp hon
      have htime : o.time = t := by rw [CompletedOrder.time, ht, Option.getD_some]
      have hle : t ≤ c * millisecondsPerDay := by
        by_contra hlate
        exact lastDay o ho t ht ⟨not_le.mp hlate, hhi⟩
      rw [countedIn_iff, countedIn_iff]
      exact xor_mem_window hnext ho (by rw [htime]; exact ⟨hlo, hle⟩) (orders o ho)
    · exact hcash.trans (add_zero _)
    · simp only [Db.figuresFor, totalRevenue_eq]
      exact hrevenue.trans (add_zero _)

end Ranges

section Sample

/-- A shop with one order, completed on day 0 at the given time. -/
def completedShop (time : Instant) : Db :=
  { Db.empty with
    workOrders := .ofList
      [{ tenantId := 0, workOrderNumber := "WO-2026-0001", appointmentId := none
         customerId := 0, vehicleId := 0, assignedMechanicId := none, assignedLift := none
         status := .completed, initialKm := 0, fuelLevel := none, subtotal := 100000
         kdvAmount := 20000, grandTotal := 120000, completedAt := some time }] }

def entryTimes : ReportTimes where
  updatedAt := fun _ => 0
  paymentDate := fun _ => 0

def reportClock : ReportClock where
  now := 0
  offset := 3 * 60 * 60 * 1000

/-- An order completed at midnight is counted once. -/
theorem sample_ranges_add_up : RangesAddUp (completedShop 0) entryTimes reportClock 0 0 0 1 :=
  (ranges_add_up_iff (by decide) (by decide)).mpr
    ⟨by unfold insideDay; decide +kernel, by
      intro o ho t ht
      have htime : ∀ o ∈ (completedShop 0).countedOrders entryTimes 0,
        o.order.completedAt = some 0 := by decide +kernel
      rw [htime o ho, Option.some.injEq] at ht
      rw [← ht]
      unfold insideDay
      decide, by decide +kernel⟩

/-- An order completed at noon of day 0 is counted from day 0 to day 1, and neither on
day 0 nor on day 1. -/
theorem noon_counted_in_no_part :
    ¬ RangesAddUp (completedShop 43200000) entryTimes reportClock 0 0 0 1 := by
  intro h
  have hcount := h.count
  revert hcount
  decide +kernel

end Sample

end WorksAuto
