import WorksAuto.Appointments.Booking

/-! Leaves next to the agenda.
A leave is checked against the other leaves of its user, an appointment against the leaves of
its mechanic's user on the day, in UTC, on which it starts. Each check is a statement of its
own before the row is stored, nothing checks a leave against the appointments, and a
rescheduling takes the mechanics of other tenants for nobody's. -/

namespace WorksAuto

open Lib

/-- A date holds what `new Date(text)` makes of its text, if that is a time. -/
structure CreateStaffLeaveDto where
  userId : Uuid
  startDate : Option Instant
  endDate : Option Instant
  totalDays : Option ℚ

section Dates

def msPerDay : ℤ := 1000 * 60 * 60 * 24

/-- A `date` column keeps the day in UTC. -/
def toDateColumn (date : Instant) : Instant := date / msPerDay * msPerDay

/-- `Math.round`. -/
def jsRound (x : ℚ) : ℤ := ⌊x + 1 / 2⌋

/-- `diffDays`. -/
def CreateStaffLeaveDto.diffDays (dto : CreateStaffLeaveDto) (startDate endDate : Instant) : ℚ :=
  dto.totalDays.getD (max (1 / 2) (jsRound ((endDate - startDate : ℚ) / msPerDay) + 1))

/-- A `numeric(4,1)` column. -/
def checkTotalDays (totalDays : ℚ) : Outcome Unit :=
  Outcome.reject (decide (10 ^ 4 ≤ |roundAway (totalDays * 10)|)) (.database "22003")

end Dates

inductive LeaveTask where
  -- StaffService.createLeave
  | createLeave (tenantId : Uuid) (dto : CreateStaffLeaveDto)
  | findOverlap (tenantId : Uuid) (dto : CreateStaffLeaveDto) (startDate endDate : Instant)
  | insertLeave (leave : StaffLeave)
  -- StaffService.cancelLeave
  | cancelLeave (tenantId leaveId : Uuid)
  | writeCancelled (leaveId : Uuid)
  | agenda (task : AgendaTask)
  | finished (answer : Outcome Unit)

def checkLeaveDates (db : Db) (tenantId : Uuid) (dto : CreateStaffLeaveDto) :
    Outcome (Instant × Instant) := do
  let _ ← Outcome.required ((db.users.get? dto.userId).filter fun u => u.tenantId = some tenantId)
    (.notFound "Personel bulunamadı.")
  let startDate ← Outcome.required dto.startDate (.badRequest "Geçersiz tarih formatı.")
  let endDate ← Outcome.required dto.endDate (.badRequest "Geçersiz tarih formatı.")
  Outcome.reject (endDate < startDate)
    (.badRequest "Başlangıç tarihi bitiş tarihinden sonra olamaz.")
  pure (startDate, endDate)

def CreateStaffLeaveDto.leave (dto : CreateStaffLeaveDto) (tenantId : Uuid)
    (startDate endDate : Instant) : StaffLeave where
  tenantId
  userId := dto.userId
  startDate := toDateColumn startDate
  endDate := toDateColumn endDate
  status := .approved

def checkOverlap (db : Db) (tenantId : Uuid) (dto : CreateStaffLeaveDto)
    (startDate endDate : Instant) : Outcome StaffLeave := do
  Outcome.reject
    (db.staffLeaves.find? fun l =>
      l.tenantId = tenantId ∧ l.userId = dto.userId ∧ l.status ≠ .cancelled ∧
        l.startDate ≤ toDateColumn endDate ∧ toDateColumn startDate ≤ l.endDate).isSome
    (.conflict "Personelin bu tarih aralığında çakışan aktif bir izni zaten bulunmaktadır.")
  checkTotalDays (dto.diffDays startDate endDate)
  pure (dto.leave tenantId startDate endDate)

def checkCancel (db : Db) (tenantId leaveId : Uuid) : Outcome Unit := do
  let leave ← Outcome.required
    ((db.staffLeaves.get? leaveId).filter fun l => l.tenantId = tenantId)
    (.notFound "İzin kaydı bulunamadı.")
  Outcome.reject (leave.status = .cancelled) (.badRequest "Bu izin zaten iptal edilmiş.")

namespace LeaveTask

def reads {α : Type} (s : Agenda) (r : Outcome α) (next : α → LeaveTask) : Agenda × LeaveTask :=
  match r with
  | .error e => (s, .finished (.error e))
  | .ok a => (s, next a)

def exec (s : Agenda) (t : LeaveTask) (env : WorkshopEnv) : Agenda × LeaveTask :=
  match t with
  | .createLeave tenantId dto =>
    reads s (checkLeaveDates s.db tenantId dto) fun (startDate, endDate) =>
      .findOverlap tenantId dto startDate endDate
  | .findOverlap tenantId dto startDate endDate =>
    reads s (checkOverlap s.db tenantId dto startDate endDate) .insertLeave
  | .insertLeave leave =>
    ({ s with db := { s.db with staffLeaves := s.db.staffLeaves.insert leave } },
      .finished (.ok ()))
  | .cancelLeave tenantId leaveId =>
    reads s (checkCancel s.db tenantId leaveId) fun _ => .writeCancelled leaveId
  | .writeCancelled leaveId =>
    ({ s with db := { s.db with
        staffLeaves := s.db.staffLeaves.modify leaveId fun l => { l with status := .cancelled } } },
      .finished (.ok ()))
  | .agenda task =>
    let (s', next) := task.exec s env
    (s', .agenda next)
  | .finished answer => (s, .finished answer)

end LeaveTask

inductive LeaveRequest where
  | createLeave (tenantId : Uuid) (dto : CreateStaffLeaveDto)
  | cancelLeave (tenantId leaveId : Uuid)
  | createAppointment (tenantId : Uuid) (dto : CreateAppointmentInput)
  | rescheduleAppointment (tenantId id : Uuid) (dto : RescheduleAppointmentInput)

def LeaveRequest.enter : LeaveRequest → LeaveTask
  | .createLeave tenantId dto => .createLeave tenantId dto
  | .cancelLeave tenantId leaveId => .cancelLeave tenantId leaveId
  | .createAppointment tenantId dto => .agenda (.create tenantId dto)
  | .rescheduleAppointment tenantId id dto => .agenda (.reschedule tenantId id dto)

abbrev LeavePool := Pool Agenda LeaveTask

def LeavePool.act : LeavePool → PoolAction LeaveRequest WorkshopEnv → LeavePool :=
  Pool.act LeaveRequest.enter LeaveTask.exec

section Statements

def StaffLeave.Meets (l m : StaffLeave) : Prop :=
  l.userId = m.userId ∧ l.status ≠ .cancelled ∧ m.status ≠ .cancelled ∧
    l.startDate ≤ m.endDate ∧ m.startDate ≤ l.endDate

def StaffLeave.Covers (l : StaffLeave) (userId : Uuid) (day : Instant) : Prop :=
  l.userId = userId ∧ l.status ≠ .cancelled ∧ l.startDate ≤ day ∧ day ≤ l.endDate

/-- Who is to work from when on, and the tenant that the mechanic is looked for in. -/
structure Shift where
  tenantId : Uuid
  mechanicId : Option Uuid
  start : Instant
  deriving DecidableEq, Repr

def Appointment.shift (a : Appointment) : Shift where
  tenantId := a.tenantId
  mechanicId := a.assignedMechanicId
  start := a.slotStartTime

/-- The user of the mechanic is on leave on the day of the shift, which is the day in UTC on
which it starts. -/
def Db.OnLeave (db : Db) (shift : Shift) (l : StaffLeave) : Prop :=
  ∃ id ∈ shift.mechanicId, ∃ mechanic ∈ db.mechanics.get? id,
    l.Covers mechanic.userId (toDateColumn shift.start)

def Appointment.isActive (a : Appointment) : Bool :=
  a.status ≠ .cancelled ∧ a.status ≠ .noShow ∧ a.status ≠ .completed

def Db.Away (db : Db) (a : Appointment) (l : StaffLeave) : Prop :=
  a.isActive = true ∧ db.OnLeave a.shift l

/-- Leaves of one user do not meet, and nobody works on a leave. -/
structure Db.LeavesKept (db : Db) : Prop where
  leaves : ∀ i l, db.staffLeaves.get? i = some l → ∀ j m, db.staffLeaves.get? j = some m →
    i ≠ j → ¬ l.Meets m
  work : ∀ k a, db.appointments.get? k = some a → ∀ i l, db.staffLeaves.get? i = some l →
    ¬ db.Away a l

def Db.userOf (db : Db) (userId tenantId : Uuid) : Bool :=
  (db.users.get? userId).any fun u => u.tenantId = some tenantId

structure Db.StaffInOrder (db : Db) : Prop where
  mechanics : ∀ k m, db.mechanics.get? k = some m → db.userOf m.userId m.tenantId = true
  leaves : ∀ k l, db.staffLeaves.get? k = some l → db.userOf l.userId l.tenantId = true

def Db.OwnMechanic (db : Db) (shift : Shift) : Prop :=
  ∀ id ∈ shift.mechanicId, (db.mechanics.get? id).any (fun m => m.tenantId = shift.tenantId) = true

end Statements

section Conditions

def Appointment.movedShift (a : Appointment) (dto : RescheduleAppointmentInput) : Shift where
  tenantId := a.tenantId
  mechanicId := dto.assignedMechanicId.getD a.assignedMechanicId
  start := dto.slotStartTime

/-- The shift of a booking or a rescheduling that has passed the check of leaves. -/
def AgendaTask.shift? : AgendaTask → Option Shift
  | .bookMechanic entity | .bookLift entity | .checkParties entity | .lockSlot entity
  | .insert entity | .save _ _ entity | .write _ _ entity => some entity.shift
  | .moveMechanic _ app dto | .moveLift _ app dto => some (app.movedShift dto)
  | _ => none

def AgendaTask.stores? (s : Agenda) : AgendaTask → Option Appointment
  | .insert entity => if (insertAppointment s.db entity).isOk then some entity.row else none
  | .write id _ entity =>
    if (saveAppointment s.db id entity).isOk then
      (s.db.appointments.get? id).map entity.overwrite
    else none
  | _ => none

namespace LeaveTask

def shift? : LeaveTask → Option Shift
  | .agenda task => task.shift?
  | _ => none

def leave? : LeaveTask → Option StaffLeave
  | .insertLeave leave => some leave
  | _ => none

end LeaveTask

/-- A leave is asked for days on which the user has no appointments, and is stored while no
other leave and no shift of the user in these days is past its check; an appointment is stored
while no leave of its mechanic is, and moved to mechanics of its tenant only. -/
def LeavePool.InTurnOf (p : LeavePool) (k : ℕ) : LeaveTask → Prop
  | .findOverlap tenantId dto startDate endDate =>
    ∀ i a, p.shared.db.appointments.get? i = some a →
      ¬ p.shared.db.Away a (dto.leave tenantId startDate endDate)
  | .insertLeave leave => p.Alone (fun u => (∃ l ∈ u.leave?, l.Meets leave) ∨
      ∃ shift ∈ u.shift?, p.shared.db.OnLeave shift leave) k
  | .agenda (.reschedule tenantId id dto) => ∀ app ∈ p.shared.db.appointment? tenantId id,
      p.shared.db.OwnMechanic (app.movedShift dto)
  | .agenda task => ∀ a ∈ task.stores? p.shared,
      p.Alone (fun u => ∃ l ∈ u.leave?, p.shared.db.Away a l) k
  | _ => True

def LeavePool.InTurn (p : LeavePool) : PoolAction LeaveRequest WorkshopEnv → Prop
  | .start _ => True
  | .step k _ => ∀ t ∈ p.threads.get? k, p.InTurnOf k t

end Conditions

section Ready

variable {db : Db} {t : LeaveTask} {s : Agenda} {env : WorkshopEnv}

def AgendaTask.isBooking : AgendaTask → Bool
  | .create _ _ | .bookMechanic _ | .bookLift _ | .checkParties _ | .lockSlot _ | .insert _
  | .reschedule _ _ _ | .moveMechanic _ _ _ | .moveLift _ _ _ | .save _ _ _ | .write _ _ _
  | .finished _ => true
  | _ => false

/-- The shift of an appointment whose mechanic is known to be the tenant's. -/
def AgendaTask.ownShift? : AgendaTask → Option Shift
  | .lockSlot entity | .insert entity | .save _ _ entity | .write _ _ entity => some entity.shift
  | .moveMechanic _ app dto | .moveLift _ app dto => some (app.movedShift dto)
  | _ => none

def Db.Present (db : Db) (shift : Shift) : Prop :=
  db.OwnMechanic shift → ∀ i l, db.staffLeaves.get? i = some l → ¬ db.OnLeave shift l

structure AgendaTask.Ready (t : AgendaTask) (db : Db) : Prop where
  booking : t.isBooking = true
  present : ∀ shift ∈ t.shift?, db.Present shift
  own : ∀ shift ∈ t.ownShift?, db.OwnMechanic shift

structure Db.Admits (db : Db) (leave : StaffLeave) : Prop where
  user : db.userOf leave.userId leave.tenantId = true
  leaves : ∀ i l, db.staffLeaves.get? i = some l → ¬ l.Meets leave
  work : ∀ k a, db.appointments.get? k = some a → ¬ db.Away a leave

def LeaveTask.Ready (t : LeaveTask) (db : Db) : Prop :=
  match t with
  | .findOverlap tenantId dto _ _ => db.userOf dto.userId tenantId = true
  | .insertLeave leave => db.Admits leave
  | .agenda task => task.Ready db
  | _ => True

theorem Db.userOf_unique {userId a b : Uuid} (h : db.userOf userId a = true)
    (h' : db.userOf userId b = true) : a = b := by
  obtain ⟨u, hu, ha⟩ := (Option.any_eq_true _ _).mp h
  obtain ⟨v, hv, hb⟩ := (Option.any_eq_true _ _).mp h'
  obtain rfl := Option.some.inj (hu.symm.trans hv)
  simp only [decide_eq_true_eq] at ha hb
  exact Option.some.inj (ha.symm.trans hb)

theorem Db.present_of_checkLeave (hstaff : db.StaffInOrder) {shift : Shift}
    (h : checkLeave db shift.tenantId shift.mechanicId shift.start = .ok ()) : db.Present shift := by
  rintro hown i l hl ⟨id, hid, mechanic, hmechanic, huser, hstatus, hfrom, hto⟩
  have htenant := hown id hid
  rw [hmechanic, Option.any_some, decide_eq_true_eq] at htenant
  have hleave : l.tenantId = shift.tenantId := by
    refine Db.userOf_unique (hstaff.leaves i l hl) ?_
    rw [huser, ← htenant]
    exact hstaff.mechanics id mechanic hmechanic
  have hfound : checkMechanicOnLeave db shift.tenantId id shift.start = true := by
    have hfilter : (db.mechanics.get? id).filter (fun m => m.tenantId = shift.tenantId) =
        some mechanic := Option.filter_eq_some_iff.mpr ⟨hmechanic, decide_eq_true htenant⟩
    rw [checkMechanicOnLeave, hfilter]
    refine Table.find?_isSome hl (decide_eq_true ⟨hleave, huser, hstatus, ?_, ?_⟩)
    · exact hfrom
    · exact hto
  have hid' : shift.mechanicId = some id := hid
  rw [checkLeave, Outcome.reject_eq_ok, hid', Option.any_some, hfound] at h
  cases h

theorem Db.admits_of_checkOverlap (hstaff : db.StaffInOrder) {tenantId : Uuid}
    {dto : CreateStaffLeaveDto} {startDate endDate : Instant} {leave : StaffLeave}
    (huser : db.userOf dto.userId tenantId = true)
    (hwork : ∀ k a, db.appointments.get? k = some a →
      ¬ db.Away a (dto.leave tenantId startDate endDate))
    (h : checkOverlap db tenantId dto startDate endDate = .ok leave) : db.Admits leave := by
  obtain ⟨_, hfree, h₁⟩ := Outcome.bind_eq_ok.mp h
  obtain ⟨_, -, h₂⟩ := Outcome.bind_eq_ok.mp h₁
  obtain rfl := Outcome.pure_eq_ok.mp h₂
  rw [Outcome.reject_eq_ok] at hfree
  refine ⟨huser, fun i l hl hmeets => ?_, hwork⟩
  obtain ⟨hsame, hstatus, -, hfrom, hto⟩ := hmeets
  have hsame' : l.userId = dto.userId := hsame
  have htenant : l.tenantId = tenantId :=
    Db.userOf_unique (hstaff.leaves i l hl) (by rw [hsame']; exact huser)
  rw [Table.find?_isSome hl (decide_eq_true ⟨htenant, hsame', hstatus, hfrom, hto⟩)] at hfree
  cases hfree

theorem Db.own_of_checkParties {a b : Appointment} (h : checkParties db a = .ok b) :
    db.OwnMechanic b.shift := by
  obtain ⟨customer, vehicle, -, -, hmechanic, rfl⟩ := checkParties_found h
  exact hmechanic

namespace AgendaTask

theorem Ready.plain {t : AgendaTask} (hbooking : t.isBooking = true) (hshift : t.shift? = none)
    (hown : t.ownShift? = none) : t.Ready db := by
  refine ⟨hbooking, fun shift h => ?_, fun shift h => ?_⟩
  · rw [hshift] at h
    cases h
  · rw [hown] at h
    cases h

theorem Ready.working {t : AgendaTask} {shift : Shift} (hbooking : t.isBooking = true)
    (hshift : t.shift? = some shift) (hpresent : db.Present shift)
    (hown : ∀ own ∈ t.ownShift?, own = shift ∧ db.OwnMechanic shift) : t.Ready db := by
  refine ⟨hbooking, fun sh h => ?_, fun sh h => ?_⟩
  · rw [hshift] at h
    exact Option.some.inj h ▸ hpresent
  · obtain ⟨rfl, hmechanic⟩ := hown sh h
    exact hmechanic

theorem ready_reads {α : Type} {r : Outcome α} {next : α → AgendaTask}
    (h : ∀ a, r = .ok a → (next a).Ready db) : (AgendaTask.reads s r next).2.Ready db := by
  cases r with
  | error e => exact .plain rfl rfl rfl
  | ok a => exact h a rfl

theorem Ready.exec {t : AgendaTask} (h : t.Ready s.db) (hstaff : s.db.StaffInOrder)
    (hmoves : ∀ tenantId id dto, t = .reschedule tenantId id dto →
      ∀ app ∈ s.db.appointment? tenantId id, s.db.OwnMechanic (app.movedShift dto))
    (env : WorkshopEnv) : (t.exec s env).2.Ready s.db := by
  have hpresent := h.present
  have hown := h.own
  have hbooking := h.booking
  cases t with
  | create tenantId dto =>
    refine ready_reads fun entity hcheck => ?_
    obtain ⟨_, -, h₁⟩ := Outcome.bind_eq_ok.mp hcheck
    obtain ⟨_, -, h₂⟩ := Outcome.bind_eq_ok.mp h₁
    obtain ⟨_, hleave, h₃⟩ := Outcome.bind_eq_ok.mp h₂
    obtain rfl := Outcome.pure_eq_ok.mp h₃
    exact .working rfl rfl (Db.present_of_checkLeave hstaff hleave) nofun
  | bookMechanic entity => exact ready_reads fun _ _ => .working rfl rfl (hpresent _ rfl) nofun
  | bookLift entity => exact ready_reads fun _ _ => .working rfl rfl (hpresent _ rfl) nofun
  | checkParties entity =>
    refine ready_reads fun b hcheck => ?_
    have hmechanic := Db.own_of_checkParties hcheck
    obtain ⟨serviceId, rfl⟩ := checkParties_ok hcheck
    exact .working rfl rfl (hpresent _ rfl) fun own ho => ⟨(Option.some.inj ho).symm, hmechanic⟩
  | lockSlot entity =>
    simp only [AgendaTask.exec]
    split_ifs
    · exact h
    · split
      · exact .plain rfl rfl rfl
      · exact .working rfl rfl (hpresent _ rfl) fun own ho =>
          ⟨(Option.some.inj ho).symm, hown _ rfl⟩
  | insert entity =>
    simp only [AgendaTask.exec, commits]
    split <;> exact .plain rfl rfl rfl
  | reschedule tenantId id dto =>
    refine ready_reads fun app hcheck => ?_
    obtain ⟨app', hread, h₁⟩ := Outcome.bind_eq_ok.mp hcheck
    obtain ⟨_, -, h₂⟩ := Outcome.bind_eq_ok.mp h₁
    obtain ⟨_, -, h₃⟩ := Outcome.bind_eq_ok.mp h₂
    obtain ⟨_, hleave, h₄⟩ := Outcome.bind_eq_ok.mp h₃
    obtain rfl := Outcome.pure_eq_ok.mp h₄
    have hfound : s.db.appointment? tenantId id = some app' := Outcome.required_eq_ok.mp hread
    have htenant : app'.tenantId = tenantId := by
      simpa using (Option.filter_eq_some_iff.mp hfound).2
    have hmechanic := hmoves tenantId id dto rfl app' hfound
    subst htenant
    have hpresent' : s.db.Present (app'.movedShift dto) := Db.present_of_checkLeave hstaff hleave
    exact .working rfl rfl hpresent' fun own ho => ⟨(Option.some.inj ho).symm, hmechanic⟩
  | moveMechanic id app dto =>
    exact ready_reads fun _ _ => .working rfl rfl (hpresent _ rfl) fun own ho =>
      ⟨(Option.some.inj ho).symm, hown _ rfl⟩
  | moveLift id app dto =>
    refine ready_reads fun entity hcheck => ?_
    obtain ⟨_, -, hmoved⟩ := Outcome.bind_eq_ok.mp hcheck
    obtain ⟨-, rfl⟩ := Appointment.reschedule_ok hmoved
    exact .working rfl rfl (hpresent _ rfl) fun own ho =>
      ⟨(Option.some.inj ho).symm, hown _ rfl⟩
  | save id old entity =>
    refine ready_reads fun b hread => ?_
    obtain ⟨serviceId, rfl⟩ := readForSave_ok hread
    exact .working rfl rfl (hpresent _ rfl) fun own ho =>
      ⟨(Option.some.inj ho).symm, hown _ rfl⟩
  | write id old entity =>
    simp only [AgendaTask.exec, commits]
    split <;> exact .plain rfl rfl rfl
  | finished answer => exact .plain rfl rfl rfl
  | _ => cases hbooking

end AgendaTask

end Ready

section Tables

variable {db : Db}

theorem Db.OnLeave.status {shift : Shift} {l : StaffLeave} (h : db.OnLeave shift l) :
    l.status ≠ .cancelled := by
  obtain ⟨_, -, _, -, -, hstatus, -⟩ := h
  exact hstatus

theorem StaffLeave.Meets.symm {l m : StaffLeave} (h : l.Meets m) : m.Meets l :=
  ⟨h.1.symm, h.2.2.1, h.2.1, h.2.2.2.2, h.2.2.2.1⟩

theorem Db.LeavesKept.insertLeave (h : db.LeavesKept) {leave : StaffLeave}
    (hadmits : db.Admits leave) :
    ({ db with staffLeaves := db.staffLeaves.insert leave } : Db).LeavesKept := by
  refine ⟨fun i l hl j m hm hij => ?_, fun k a ha i l hl => ?_⟩
  · simp only [Table.get?_insert] at hl hm
    split_ifs at hl hm with hi hj hj
    · exact absurd (hi.trans hj.symm) hij
    · obtain rfl := Option.some.inj hl
      exact fun hmeets => hadmits.leaves j m hm hmeets.symm
    · obtain rfl := Option.some.inj hm
      exact hadmits.leaves i l hl
    · exact h.leaves i l hl j m hm hij
  · simp only [Table.get?_insert] at hl
    split_ifs at hl
    · obtain rfl := Option.some.inj hl
      exact hadmits.work k a ha
    · exact h.work k a ha i l hl

theorem of_cancelled {leaves : Table StaffLeave} {leaveId i : Uuid} {l : StaffLeave}
    (hl : (leaves.modify leaveId fun l => { l with status := .cancelled }).get? i = some l) :
    ∃ old, leaves.get? i = some old ∧ old.userId = l.userId ∧ old.tenantId = l.tenantId ∧
      (l.status ≠ .cancelled → l = old) := by
  obtain ⟨old, hold, rfl⟩ := Table.of_get?_modify hl
  refine ⟨old, hold, ?_⟩
  split_ifs
  · exact ⟨rfl, rfl, fun hstatus => absurd rfl hstatus⟩
  · exact ⟨rfl, rfl, fun _ => rfl⟩

theorem Db.LeavesKept.cancelLeave (h : db.LeavesKept) (leaveId : Uuid) :
    ({ db with staffLeaves := db.staffLeaves.modify leaveId fun l =>
        { l with status := .cancelled } } : Db).LeavesKept := by
  refine ⟨fun i l hl j m hm hij hmeets => ?_, fun k a ha i l hl haway => ?_⟩
  · obtain ⟨l', hl', -, -, hsame⟩ := of_cancelled hl
    obtain ⟨m', hm', -, -, hsame'⟩ := of_cancelled hm
    obtain rfl := hsame hmeets.2.1
    obtain rfl := hsame' hmeets.2.2.1
    exact h.leaves i l hl' j m hm' hij hmeets
  · obtain ⟨l', hl', -, -, hsame⟩ := of_cancelled hl
    obtain rfl := hsame haway.2.status
    exact h.work k a ha i l hl' haway

theorem Db.LeavesKept.store (h : db.LeavesKept) {appointments : Table Appointment}
    (hrows : ∀ k a, appointments.get? k = some a → db.appointments.get? k = some a ∨
      ∀ i l, db.staffLeaves.get? i = some l → ¬ db.Away a l) :
    ({ db with appointments } : Db).LeavesKept := by
  refine ⟨h.leaves, fun k a ha i l hl => ?_⟩
  rcases hrows k a ha with hold | hfree
  · exact h.work k a hold i l hl
  · exact hfree i l hl

theorem Db.StaffInOrder.insertLeave (h : db.StaffInOrder) {leave : StaffLeave}
    (huser : db.userOf leave.userId leave.tenantId = true) :
    ({ db with staffLeaves := db.staffLeaves.insert leave } : Db).StaffInOrder := by
  refine ⟨h.mechanics, fun k l hl => ?_⟩
  rw [Table.get?_insert] at hl
  split_ifs at hl
  · obtain rfl := Option.some.inj hl
    exact huser
  · exact h.leaves k l hl

theorem Db.StaffInOrder.cancelLeave (h : db.StaffInOrder) (leaveId : Uuid) :
    ({ db with staffLeaves := db.staffLeaves.modify leaveId fun l =>
        { l with status := .cancelled } } : Db).StaffInOrder := by
  refine ⟨h.mechanics, fun k l hl => ?_⟩
  obtain ⟨old, hold, huser, htenant, -⟩ := of_cancelled hl
  rw [← huser, ← htenant]
  exact h.leaves k old hold

namespace LeaveTask

variable {u : LeaveTask}

theorem Ready.insertLeave (h : u.Ready db) {leave : StaffLeave}
    (hmeets : ∀ l ∈ u.leave?, ¬ l.Meets leave)
    (hshift : ∀ shift ∈ u.shift?, ¬ db.OnLeave shift leave) :
    u.Ready { db with staffLeaves := db.staffLeaves.insert leave } := by
  cases u with
  | insertLeave m =>
    have hm : db.Admits m := h
    refine ⟨hm.user, fun i l hl => ?_, hm.work⟩
    simp only [Table.get?_insert] at hl
    split_ifs at hl
    · obtain rfl := Option.some.inj hl
      exact fun h' => hmeets m rfl h'.symm
    · exact hm.leaves i l hl
  | agenda task =>
    have htask : task.Ready db := h
    refine ⟨htask.booking, fun shift hs hown i l hl => ?_, htask.own⟩
    simp only [Table.get?_insert] at hl
    split_ifs at hl
    · obtain rfl := Option.some.inj hl
      exact hshift shift hs
    · exact htask.present shift hs hown i l hl
  | _ => exact h

theorem Ready.cancelLeave (h : u.Ready db) (leaveId : Uuid) :
    u.Ready { db with staffLeaves := db.staffLeaves.modify leaveId fun l =>
      { l with status := .cancelled } } := by
  cases u with
  | insertLeave m =>
    have hm : db.Admits m := h
    refine ⟨hm.user, fun i l hl hmeets => ?_, hm.work⟩
    obtain ⟨old, hold, -, -, hsame⟩ := of_cancelled hl
    obtain rfl := hsame hmeets.2.1
    exact hm.leaves i l hold hmeets
  | agenda task =>
    have htask : task.Ready db := h
    refine ⟨htask.booking, fun shift hs hown i l hl honLeave => ?_, htask.own⟩
    obtain ⟨old, hold, -, -, hsame⟩ := of_cancelled hl
    obtain rfl := hsame honLeave.status
    exact htask.present shift hs hown i l hold honLeave
  | _ => exact h

theorem Ready.store (h : u.Ready db) {appointments : Table Appointment}
    (hrows : ∀ k a, appointments.get? k = some a → db.appointments.get? k = some a ∨
      ∀ l ∈ u.leave?, ¬ db.Away a l) :
    u.Ready { db with appointments } := by
  cases u with
  | insertLeave m =>
    have hm : db.Admits m := h
    refine ⟨hm.user, hm.leaves, fun k a ha => ?_⟩
    rcases hrows k a ha with hold | hfree
    · exact hm.work k a hold
    · exact hfree m rfl
  | agenda task => exact ⟨h.booking, h.present, h.own⟩
  | _ => exact h

end LeaveTask

end Tables

section Step

variable {s : Agenda} {env : WorkshopEnv}

theorem AgendaTask.reads_same {α : Type} {r : Outcome α} {next : α → AgendaTask} :
    (AgendaTask.reads s r next).1 = s := by
  cases r <;> rfl

theorem AgendaTask.exec_booking {t : AgendaTask} (h : t.isBooking = true) (env : WorkshopEnv) :
    (t.exec s env).1.db = s.db ∨
      ∃ a ∈ t.stores? s, ∃ appointments,
        (t.exec s env).1.db = { s.db with appointments } ∧
          (∀ k b, appointments.get? k = some b → s.db.appointments.get? k = some b ∨ b = a) ∧
            ∃ shift ∈ t.ownShift?, shift ∈ t.shift? ∧ ∀ l, s.db.OnLeave a.shift l →
              s.db.OnLeave shift l := by
  cases t with
  | create | bookMechanic | bookLift | checkParties | reschedule | moveMechanic | moveLift | save =>
    exact .inl (congrArg Agenda.db reads_same)
  | lockSlot entity =>
    simp only [exec]
    split_ifs
    · exact .inl rfl
    · split <;> exact .inl rfl
  | insert entity =>
    simp only [exec, commits]
    cases hinsert : insertAppointment s.db entity with
    | error e => exact .inl rfl
    | ok db =>
      refine .inr ⟨entity.row, by rw [stores?, hinsert]; rfl, _, (insertAppointment_ok hinsert).1,
        fun k b hb => ?_, entity.shift, rfl, rfl, fun l hl => hl⟩
      rw [Table.get?_insert] at hb
      split_ifs at hb
      · exact .inr (Option.some.inj hb).symm
      · exact .inl hb
  | write id old entity =>
    simp only [exec, commits]
    cases hsave : saveAppointment s.db id entity with
    | error e => exact .inl rfl
    | ok db =>
      obtain ⟨row, hrow, -⟩ := Outcome.bind_eq_ok.mp hsave
      rw [Outcome.required_eq_ok] at hrow
      refine .inr ⟨entity.overwrite row, by rw [stores?, hsave, hrow]; rfl, _,
        (saveAppointment_ok hsave).1, fun k b hb => ?_, entity.shift, rfl, rfl, fun l hl => hl⟩
      obtain ⟨b', hb', rfl⟩ := Table.of_get?_modify hb
      split_ifs with hk
      · subst hk
        obtain rfl := Option.some.inj (hrow.symm.trans hb')
        exact .inr rfl
      · exact .inl hb'
  | finished answer => exact .inl rfl
  | _ => cases h

theorem LeaveTask.reads_fst {α : Type} {r : Outcome α} {next : α → LeaveTask} :
    (LeaveTask.reads s r next).1 = s := by
  cases r <;> rfl

theorem LeaveTask.ready_reads {α : Type} {r : Outcome α} {next : α → LeaveTask} {db : Db}
    (h : ∀ a, r = .ok a → (next a).Ready db) : (LeaveTask.reads s r next).2.Ready db := by
  cases r with
  | error e => trivial
  | ok a => exact h a rfl

theorem userOf_of_checkLeaveDates {db : Db} {tenantId : Uuid} {dto : CreateStaffLeaveDto}
    {dates : Instant × Instant} (h : checkLeaveDates db tenantId dto = .ok dates) :
    db.userOf dto.userId tenantId = true := by
  obtain ⟨user, huser, -⟩ := Outcome.bind_eq_ok.mp h
  rw [Outcome.required_eq_ok] at huser
  obtain ⟨hget, htenant⟩ := Option.filter_eq_some_iff.mp huser
  rw [Db.userOf, hget]
  exact htenant

end Step

section Run

/-- Leaves and work are apart, the staff is in order, and every request can rely on what it
has found. -/
def LeavePool.Kept : LeavePool → Prop :=
  Pool.Holds (fun s : Agenda => s.db.LeavesKept ∧ s.db.StaffInOrder) fun s t => t.Ready s.db

theorem LeaveRequest.enter_ready (r : LeaveRequest) (db : Db) : r.enter.Ready db := by
  cases r with
  | createLeave | cancelLeave => trivial
  | createAppointment => exact AgendaTask.Ready.plain rfl rfl rfl
  | rescheduleAppointment => exact AgendaTask.Ready.plain rfl rfl rfl

theorem LeavePool.Kept.book {p : LeavePool} (hp : p.Kept) {k : ℕ} {env : WorkshopEnv}
    {task : AgendaTask} (hk : p.threads.get? k = some (.agenda task))
    (hmoves : ∀ tenantId id dto, task = .reschedule tenantId id dto →
      ∀ app ∈ p.shared.db.appointment? tenantId id, p.shared.db.OwnMechanic (app.movedShift dto))
    (halone : ∀ a ∈ task.stores? p.shared,
      p.Alone (fun u => ∃ l ∈ u.leave?, p.shared.db.Away a l) k) :
    LeavePool.Kept (p.act (.step k env)) := by
  obtain ⟨⟨hkept, hstaff⟩, hthreads⟩ := hp
  have htask : task.Ready p.shared.db := hthreads k _ hk
  have hnext := htask.exec hstaff hmoves env
  have hexec : (LeaveTask.agenda task).exec p.shared env =
      ((task.exec p.shared env).1, .agenda (task.exec p.shared env).2) := rfl
  rcases AgendaTask.exec_booking (s := p.shared) htask.booking env with hsame |
    ⟨a, ha, appointments, hdb, hrows, shift, hown, hshift, hleave⟩
  · refine Pool.holds_step hk ?_ ?_ fun i u hu _ => ?_
    · rw [hexec, hsame]
      exact ⟨hkept, hstaff⟩
    · rw [hexec, hsame]
      exact hnext
    · rw [hexec, hsame]
      exact hthreads i u hu
  · have hfree : ∀ i l, p.shared.db.staffLeaves.get? i = some l → ¬ p.shared.db.Away a l :=
      fun i l hl haway => htask.present shift hshift (htask.own shift hown) i l hl
        (hleave l haway.2)
    refine Pool.holds_step hk ?_ ?_ fun i u hu hne => ?_
    · rw [hexec, hdb]
      refine ⟨hkept.store fun k b hb => (hrows k b hb).imp_right ?_, hstaff.mechanics, hstaff.leaves⟩
      rintro rfl
      exact hfree
    · rw [hexec, hdb]
      exact ⟨hnext.booking, hnext.present, hnext.own⟩
    · rw [hexec, hdb]
      refine (hthreads i u hu).store fun k b hb => (hrows k b hb).imp_right ?_
      rintro rfl l hl haway
      exact halone b ha i u hu hne ⟨l, hl, haway⟩

theorem LeavePool.Kept.act {p : LeavePool} (hp : p.Kept)
    (a : PoolAction LeaveRequest WorkshopEnv) (ha : p.InTurn a) : LeavePool.Kept (p.act a) := by
  cases a with
  | start r => exact hp.start (r.enter_ready p.shared.db)
  | step k env =>
    cases hk : p.threads.get? k with
    | none =>
      rw [LeavePool.act, Pool.act_step_none hk]
      exact hp
    | some t =>
      have hturn := ha t hk
      obtain ⟨⟨hkept, hstaff⟩, hthreads⟩ := hp
      have hready := hthreads k t hk
      cases t with
      | createLeave tenantId dto =>
        refine Pool.holds_step hk ?_ ?_ fun i u hu _ => ?_
        · simp only [LeaveTask.exec, LeaveTask.reads_fst]
          exact ⟨hkept, hstaff⟩
        · simp only [LeaveTask.exec, LeaveTask.reads_fst]
          exact LeaveTask.ready_reads fun dates hdates => userOf_of_checkLeaveDates hdates
        · simp only [LeaveTask.exec, LeaveTask.reads_fst]
          exact hthreads i u hu
      | findOverlap tenantId dto startDate endDate =>
        refine Pool.holds_step hk ?_ ?_ fun i u hu _ => ?_
        · simp only [LeaveTask.exec, LeaveTask.reads_fst]
          exact ⟨hkept, hstaff⟩
        · simp only [LeaveTask.exec, LeaveTask.reads_fst]
          exact LeaveTask.ready_reads fun leave hcheck =>
            Db.admits_of_checkOverlap hstaff hready hturn hcheck
        · simp only [LeaveTask.exec, LeaveTask.reads_fst]
          exact hthreads i u hu
      | insertLeave leave =>
        have hadmits : p.shared.db.Admits leave := hready
        refine Pool.holds_step hk ⟨hkept.insertLeave hadmits, hstaff.insertLeave hadmits.user⟩
          trivial fun i u hu hne => ?_
        have hclear := hturn i u hu hne
        refine (hthreads i u hu).insertLeave (fun l hl hmeets => hclear (.inl ⟨l, hl, hmeets⟩))
          fun shift hshift honLeave => hclear (.inr ⟨shift, hshift, honLeave⟩)
      | cancelLeave tenantId leaveId =>
        refine Pool.holds_step hk ?_ ?_ fun i u hu _ => ?_
        · simp only [LeaveTask.exec, LeaveTask.reads_fst]
          exact ⟨hkept, hstaff⟩
        · simp only [LeaveTask.exec, LeaveTask.reads_fst]
          exact LeaveTask.ready_reads fun _ _ => trivial
        · simp only [LeaveTask.exec, LeaveTask.reads_fst]
          exact hthreads i u hu
      | writeCancelled leaveId =>
        exact Pool.holds_step hk ⟨hkept.cancelLeave leaveId, hstaff.cancelLeave leaveId⟩ trivial
          fun i u hu _ => (hthreads i u hu).cancelLeave leaveId
      | agenda task =>
        refine LeavePool.Kept.book ⟨⟨hkept, hstaff⟩, hthreads⟩ hk ?_ ?_
        · rintro tenantId id dto rfl
          exact hturn
        · cases task with
          | reschedule => exact fun a ha => by cases ha
          | _ => exact hturn
      | finished answer =>
        exact Pool.holds_step hk ⟨hkept, hstaff⟩ trivial fun i u hu _ => hthreads i u hu

/-- In every interleaving in which leaves are asked for days without appointments, mechanics
are the tenant's, and no check of a leave or a shift overlaps with the storing of one that is
in its way, leaves and work are kept apart. -/
theorem always_leavesKept {db : Db} (locks : List LockKey) (hdb : db.LeavesKept)
    (hstaff : db.StaffInOrder) {actions : List (PoolAction LeaveRequest WorkshopEnv)}
    (h : EachStep LeavePool.act LeavePool.InTurn (Pool.idle ⟨db, locks⟩) actions) :
    Always LeavePool.act (fun p => p.shared.db.LeavesKept) (Pool.idle ⟨db, locks⟩) actions := by
  have keep : ∀ (p : LeavePool) a, p.Kept → p.InTurn a → LeavePool.Kept (p.act a) :=
    fun p a hp ha => hp.act a ha
  have hstart : LeavePool.Kept (Pool.idle ⟨db, locks⟩) := Pool.holds_idle ⟨hdb, hstaff⟩
  exact (always_of_step keep hstart h).mono fun p hp => hp.1.1

end Run

section Sample

instance (l m : StaffLeave) : Decidable (l.Meets m) := inferInstanceAs (Decidable (_ ∧ _))

instance (l : StaffLeave) (userId : Uuid) (day : Instant) : Decidable (l.Covers userId day) :=
  inferInstanceAs (Decidable (_ ∧ _))

instance (db : Db) (shift : Shift) (l : StaffLeave) : Decidable (db.OnLeave shift l) := by
  unfold Db.OnLeave
  infer_instance

instance (db : Db) (a : Appointment) (l : StaffLeave) : Decidable (db.Away a l) :=
  inferInstanceAs (Decidable (_ ∧ _))

instance (db : Db) (shift : Shift) : Decidable (db.OwnMechanic shift) := by
  unfold Db.OwnMechanic
  infer_instance

instance (db : Db) : Decidable db.LeavesKept :=
  decidable_of_iff (_ ∧ _) ⟨fun h => ⟨h.1, h.2⟩, fun h => ⟨h.1, h.2⟩⟩

instance (db : Db) : Decidable db.StaffInOrder :=
  decidable_of_iff (_ ∧ _) ⟨fun h => ⟨h.1, h.2⟩, fun h => ⟨h.1, h.2⟩⟩

instance (p : LeavePool) (k : ℕ) (t : LeaveTask) : Decidable (p.InTurnOf k t) := by
  unfold LeavePool.InTurnOf
  split <;> infer_instance

instance (p : LeavePool) : (a : PoolAction LeaveRequest WorkshopEnv) → Decidable (p.InTurn a)
  | .start _ => .isTrue trivial
  | .step k _ => inferInstanceAs (Decidable (∀ t ∈ p.threads.get? k, p.InTurnOf k t))

def staffedDb : Db :=
  { shopDb with
    users := .ofList
      [{ tenantId := some 0, name := "Hasan", surname := "Usta", role := .technician
         isActive := true }]
    mechanics := .ofList [{ tenantId := 0, userId := 0 }] }

def afternoon : CreateAppointmentInput :=
  { booking "Lift 2" with assignedMechanicId := some 0 }

def oneDayLeave : CreateStaffLeaveDto where
  userId := 0
  startDate := some 0
  endDate := some 0
  totalDays := none

def LeaveRequest.run (r : LeaveRequest) (thread steps : ℕ) :
    List (PoolAction LeaveRequest WorkshopEnv) :=
  .start r :: List.replicate steps (.step thread shopEnv)

/-- The mechanic is on leave, and is not booked for that day. -/
theorem leavesKept_leaveThenBook :
    Always LeavePool.act (fun p => p.shared.db.LeavesKept) (Pool.idle ⟨staffedDb, []⟩)
      ((LeaveRequest.createLeave 0 oneDayLeave).run 0 3 ++
        (LeaveRequest.createAppointment 0 afternoon).run 1 6) :=
  always_leavesKept [] (by decide +kernel) (by decide +kernel) (by decide +kernel)

/-- The leave is entered although the mechanic is booked for its day. -/
theorem leave_over_appointment :
    ¬ Always LeavePool.act (fun p => p.shared.db.LeavesKept) (Pool.idle ⟨staffedDb, []⟩)
      ((LeaveRequest.createAppointment 0 afternoon).run 0 6 ++
        (LeaveRequest.createLeave 0 oneDayLeave).run 1 3) := by
  decide +kernel

end Sample

end WorksAuto
