import WorksAuto.Appointments.Booking
import WorksAuto.Lib.DelayQueue

/-! Reminders follow the appointment.
A booking that comes to its reminder in time queues one job, due two hours before the start
it was booked for. No other request touches the queue, so the job is right as long as nobody
moves the start while it waits. -/

namespace WorksAuto

open Lib

structure ReminderData where
  appointmentId : Uuid
  tenantId : Uuid
  slotStartTime : Instant
  deriving DecidableEq, Repr

abbrev ReminderQueue (Q : Type) := DelayQueue Q String ReminderData

def reminderLead : ℤ := 2 * 60 * 60 * 1000

def reminderJobId (appointmentId : Uuid) : String := "reminder-app-" ++ Nat.repr appointmentId

def scheduleAppointmentReminder {Q : Type} (B : ReminderQueue Q) (q : Q) (now : Instant)
    (delayMs : ℤ) (data : ReminderData) : Q :=
  B.add q (reminderJobId data.appointmentId) data (now + max 0 delayMs)

/-- The status is none of `CANCELLED`, `COMPLETED` and `NO_SHOW`. -/
def Appointment.expectsReminder (a : Appointment) : Bool :=
  a.status ≠ .cancelled ∧ a.status ≠ .completed ∧ a.status ≠ .noShow

/-- The surroundings of a step, with the answer of the SMS provider. -/
structure DeskEnv extends WorkshopEnv where
  smsDelivery : Outcome Unit

def handleAppointmentReminder (db : Db) (env : DeskEnv) (data : ReminderData) : Outcome Unit :=
  match db.appointments.get? data.appointmentId with
  | none => pure ()
  | some appt =>
    if !appt.expectsReminder then pure ()
    else do
      match firstText [(db.customers.get? appt.customerId).map Customer.phone] with
      | none => pure ()
      | some _ => env.smsDelivery
      match env.notificationError with
      | none => pure ()
      | some e => .error e

structure Desk (Q : Type) where
  agenda : Agenda
  queue : Q
  /-- Appointments that were created more than two hours before their start. -/
  inTime : List Uuid
  /-- Appointments whose booking has been through with its reminder. -/
  booked : List Uuid
  /-- Jobs that a worker has begun. -/
  begun : List String

inductive DeskTask where
  -- CreateAppointmentUseCase, up to the insertion and after it
  | booking (task : AgendaTask)
  | schedule (id : Uuid) (entity : Appointment)
  -- RescheduleAppointmentUseCase, UpdateAppointmentStatusUseCase, CancelAppointmentUseCase
  | change (task : AgendaTask)
  -- NotificationWorker
  | process (jobId : String)
  | remind (jobId : String) (data : ReminderData)
  | finished (answer : Outcome Unit)

namespace DeskTask

variable {Q : Type}

def afterBooking (db : Db) (task next : AgendaTask) : DeskTask :=
  match task, next with
  | .insert entity, .finished (.ok ()) => .schedule db.appointments.next entity
  | _, .finished answer => .finished answer
  | _, next => .booking next

/-- An appointment that has been inserted is due a reminder two hours before its start. -/
def notedInTime (s : Desk Q) (now : Instant) (task next : AgendaTask) : List Uuid :=
  match task, next with
  | .insert entity, .finished (.ok ()) =>
    if reminderLead < entity.slotStartTime - now then s.agenda.db.appointments.next :: s.inTime
    else s.inTime
  | _, _ => s.inTime

def exec (B : ReminderQueue Q) (s : Desk Q) (t : DeskTask) (env : DeskEnv) : Desk Q × DeskTask :=
  match t with
  | .booking task =>
    let (agenda, next) := task.exec s.agenda env.toWorkshopEnv
    ({ s with agenda, inTime := notedInTime s env.clock.now task next },
      afterBooking s.agenda.db task next)
  | .schedule id entity =>
    let delay := entity.slotStartTime - reminderLead - env.clock.now
    let queue :=
      if 0 < delay then
        scheduleAppointmentReminder B s.queue env.clock.now delay
          { appointmentId := id, tenantId := entity.tenantId, slotStartTime := entity.slotStartTime }
      else s.queue
    ({ s with queue, booked := id :: s.booked }, .finished (.ok ()))
  | .change task =>
    let (agenda, next) := task.exec s.agenda env.toWorkshopEnv
    ({ s with agenda }, .change next)
  | .process jobId =>
    match B.take s.queue jobId env.clock.now with
    | (queue, none) => ({ s with queue }, .finished (.ok ()))
    | (queue, some data) => ({ s with queue, begun := jobId :: s.begun }, .remind jobId data)
  | .remind jobId data =>
    let outcome := handleAppointmentReminder s.agenda.db env data
    ({ s with queue := B.settle s.queue jobId outcome.isOk env.clock.now }, .finished outcome)
  | .finished answer => (s, .finished answer)

end DeskTask

inductive DeskRequest where
  | createAppointment (tenantId : Uuid) (dto : CreateAppointmentInput)
  | rescheduleAppointment (tenantId id : Uuid) (dto : RescheduleAppointmentInput)
  | approve (tenantId id : Uuid)
  | updateStatus (tenantId id : Uuid) (status : Option String)
      (cancellationReason : Option String)
  | markNoShow (tenantId id : Uuid)
  | cancelAppointment (tenantId id : Uuid) (reason : String)
  | processJob (jobId : String)

def DeskRequest.enter : DeskRequest → DeskTask
  | .createAppointment tenantId dto => .booking (.create tenantId dto)
  | .rescheduleAppointment tenantId id dto => .change (.reschedule tenantId id dto)
  | .approve tenantId id => .change (.approve tenantId id)
  | .updateStatus tenantId id status reason => .change (.updateStatus tenantId id status reason)
  | .markNoShow tenantId id => .change (.markNoShow tenantId id)
  | .cancelAppointment tenantId id reason => .change (.work (.cancelAppointment tenantId id reason))
  | .processJob jobId => .process jobId

abbrev DeskPool (Q : Type) := Pool (Desk Q) DeskTask

def DeskPool.act {Q : Type} (B : ReminderQueue Q) :
    DeskPool Q → PoolAction DeskRequest DeskEnv → DeskPool Q :=
  Pool.act DeskRequest.enter (DeskTask.exec B)

def Desk.opening {Q : Type} (B : ReminderQueue Q) (db : Db) (locks : List LockKey) : Desk Q where
  agenda := ⟨db, locks⟩
  queue := B.empty
  inTime := []
  booked := []
  begun := []

/-- A reminder that is still to come: the appointment was created in time, its booking is over,
and no worker has begun the job. -/
structure Desk.Awaits {Q : Type} (s : Desk Q) (id : Uuid) : Prop where
  inTime : id ∈ s.inTime
  booked : id ∈ s.booked
  waits : reminderJobId id ∉ s.begun

/-- Every appointment created in time that may still take place has, until its reminder is
begun, one job, due two hours before its present start. -/
def Desk.RemindersFollow {Q : Type} (B : ReminderQueue Q) (s : Desk Q) : Prop :=
  ∀ id, s.Awaits id → ∀ a, s.agenda.db.appointments.get? id = some a → a.expectsReminder = true →
    (B.pending s.queue (reminderJobId id)).map Job.due = [a.slotStartTime - reminderLead]

section Conditions

variable {Q : Type}

/-- An appointment that awaits its reminder is not saved, while it may still take place,
with a start other than the one of its job; and a booking that was made in time comes to its
reminder in time, before the start has been changed. -/
def DeskTask.KeepsStart (B : ReminderQueue Q) (s : Desk Q) (env : DeskEnv) : DeskTask → Prop
  | .change (.write id _ entity) =>
    (saveAppointment s.agenda.db id entity).isOk = true → entity.expectsReminder = true →
      s.Awaits id → (B.pending s.queue (reminderJobId id)).map (fun job => job.data.slotStartTime) =
        [entity.slotStartTime]
  | .schedule id entity =>
    id ∈ s.inTime → ∀ a, s.agenda.db.appointments.get? id = some a → a.expectsReminder = true →
      0 < entity.slotStartTime - reminderLead - env.clock.now ∧
        a.slotStartTime = entity.slotStartTime
  | _ => True

def DeskPool.KeepsStart (B : ReminderQueue Q) (p : DeskPool Q) :
    PoolAction DeskRequest DeskEnv → Prop
  | .start _ => True
  | .step k env => ∀ t, p.threads.get? k = some t → t.KeepsStart B p.shared env

structure Desk.Reminding (B : ReminderQueue Q) (s : Desk Q) : Prop where
  created : ∀ id ∈ s.inTime, id < s.agenda.db.appointments.next
  booked : ∀ id ∈ s.booked, id < s.agenda.db.appointments.next
  known : ∀ i, B.known s.queue i = true →
    ∃ id < s.agenda.db.appointments.next, i = reminderJobId id
  begun : ∀ i ∈ s.begun, ∃ id < s.agenda.db.appointments.next, i = reminderJobId id
  due : ∀ i, i ∉ s.begun → ∀ job ∈ B.pending s.queue i,
    job.due = job.data.slotStartTime - reminderLead
  fits : ∀ id, s.Awaits id → ∀ a, s.agenda.db.appointments.get? id = some a →
    a.expectsReminder = true →
      (B.pending s.queue (reminderJobId id)).map (fun job => job.data.slotStartTime) =
        [a.slotStartTime]

def AgendaTask.Books : AgendaTask → Prop
  | .create .. | .bookMechanic _ | .bookLift _ | .checkParties _ | .lockSlot _ | .insert _ => True
  | _ => False

def AgendaTask.Changes : AgendaTask → Prop
  | .reschedule .. | .moveMechanic .. | .moveLift .. | .approve .. | .updateStatus ..
  | .markNoShow .. | .save .. | .write .. | .finished _
  | .work (.cancelAppointment ..) | .work (.storeCancellation ..) | .work (.finished _) => True
  | _ => False

def DeskTask.Held (B : ReminderQueue Q) (s : Desk Q) : DeskTask → Prop
  | .booking task => task.Books
  | .schedule id _ => id < s.agenda.db.appointments.next ∧
      B.known s.queue (reminderJobId id) = false ∧ reminderJobId id ∉ s.begun
  | .change task => task.Changes
  | .remind jobId _ => jobId ∈ s.begun
  | _ => True

def DeskTask.schedules? : DeskTask → Option Uuid
  | .schedule id _ => some id
  | _ => none

def DeskPool.OneEach (p : DeskPool Q) : Prop :=
  ∀ i t, p.threads.get? i = some t → ∀ j u, p.threads.get? j = some u → i ≠ j →
    ∀ id ∈ t.schedules?, u.schedules? ≠ some id

end Conditions

section Steps

variable {Q : Type} {B : ReminderQueue Q} {s : Desk Q} {env : DeskEnv}

theorem reminderJobId_injective {i j : Uuid} (h : reminderJobId i = reminderJobId j) : i = j :=
  repr_injective ((String.append_right_inj "reminder-app-").mp h)

theorem Desk.Reminding.withAgenda (h : s.Reminding B) {agenda : Agenda} {inTime : List Uuid}
    (hnext : s.agenda.db.appointments.next ≤ agenda.db.appointments.next)
    (hcreated : ∀ id ∈ inTime, id < agenda.db.appointments.next)
    (hrows : ∀ id, ({ s with agenda, inTime } : Desk Q).Awaits id → ∀ a,
      agenda.db.appointments.get? id = some a → a.expectsReminder = true →
        (B.pending s.queue (reminderJobId id)).map (fun job => job.data.slotStartTime) =
          [a.slotStartTime]) :
    ({ s with agenda, inTime } : Desk Q).Reminding B where
  created := hcreated
  booked id hid := lt_of_lt_of_le (h.booked id hid) hnext
  known i hi := by
    obtain ⟨id, hid, he⟩ := h.known i hi
    exact ⟨id, lt_of_lt_of_le hid hnext, he⟩
  begun i hi := by
    obtain ⟨id, hid, he⟩ := h.begun i hi
    exact ⟨id, lt_of_lt_of_le hid hnext, he⟩
  due := h.due
  fits := hrows

theorem Desk.Reminding.sameRows (h : s.Reminding B) {agenda : Agenda}
    (happ : agenda.db.appointments = s.agenda.db.appointments) :
    ({ s with agenda } : Desk Q).Reminding B := by
  refine h.withAgenda (by rw [happ]) (by rw [happ]; exact h.created) fun id hid a ha => ?_
  rw [happ] at ha
  exact h.fits id ⟨hid.inTime, hid.booked, hid.waits⟩ a ha

theorem Desk.Reminding.inserted (h : s.Reminding B) {agenda : Agenda} {row : Appointment}
    {inTime : List Uuid} (happ : agenda.db.appointments = s.agenda.db.appointments.insert row)
    (hinTime : ∀ id ∈ inTime, id = s.agenda.db.appointments.next ∨ id ∈ s.inTime) :
    ({ s with agenda, inTime } : Desk Q).Reminding B := by
  have hnext : agenda.db.appointments.next = s.agenda.db.appointments.next + 1 := by
    rw [happ, Table.insert_next]
  refine h.withAgenda (by omega) (fun id hid => ?_) fun id hid a ha => ?_
  · rw [hnext]
    rcases hinTime id hid with rfl | hold
    · exact Nat.lt_succ_self _
    · exact Nat.lt_succ_of_lt (h.created id hold)
  · have hlt := h.booked id hid.booked
    rw [happ, Table.get?_insert, if_neg hlt.ne] at ha
    have hold : id ∈ s.inTime := (hinTime id hid.inTime).resolve_left hlt.ne
    exact h.fits id ⟨hold, hid.booked, hid.waits⟩ a ha

theorem Desk.Reminding.cancelled (h : s.Reminding B) {agenda : Agenda} {id : Uuid}
    {reason : String}
    (happ : agenda.db.appointments =
      s.agenda.db.appointments.modify id (Appointment.cancel reason)) :
    ({ s with agenda } : Desk Q).Reminding B := by
  refine h.withAgenda (by rw [happ]; exact le_rfl) (by rw [happ]; exact h.created)
    fun i hi a ha hexpects => ?_
  rw [happ] at ha
  obtain ⟨row, hrow, rfl⟩ := Table.of_get?_modify ha
  split_ifs at hexpects ⊢
  · cases hexpects
  · exact h.fits i ⟨hi.inTime, hi.booked, hi.waits⟩ row hrow hexpects

theorem Desk.Reminding.saved (h : s.Reminding B) {agenda : Agenda} {id : Uuid}
    {entity : Appointment}
    (happ : agenda.db.appointments = s.agenda.db.appointments.modify id entity.overwrite)
    (hkeeps : entity.expectsReminder = true → s.Awaits id →
      (B.pending s.queue (reminderJobId id)).map (fun job => job.data.slotStartTime) =
        [entity.slotStartTime]) :
    ({ s with agenda } : Desk Q).Reminding B := by
  refine h.withAgenda (by rw [happ]; exact le_rfl) (by rw [happ]; exact h.created)
    fun i hi a ha hexpects => ?_
  have hawaits : s.Awaits i := ⟨hi.inTime, hi.booked, hi.waits⟩
  rw [happ] at ha
  obtain ⟨row, hrow, rfl⟩ := Table.of_get?_modify ha
  split_ifs at hexpects ⊢ with hk
  · subst hk
    exact hkeeps hexpects hawaits
  · exact h.fits i hawaits row hrow hexpects

theorem Desk.Reminding.follow (h : s.Reminding B) : s.RemindersFollow B := by
  intro id hid a ha hexpects
  have hstarts := h.fits id hid a ha hexpects
  obtain ⟨job, hjob, hstart⟩ := List.map_eq_singleton_iff.mp hstarts
  have hdue := h.due _ hid.waits job (by rw [hjob]; exact List.mem_singleton_self job)
  rw [hjob, List.map_singleton, hdue, hstart]

theorem Desk.Reminding.scheduled (h : s.Reminding B) {id : Uuid} {entity : Appointment}
    (hheld : (DeskTask.schedule id entity).Held B s)
    (hkeeps : (DeskTask.schedule id entity).KeepsStart B s env) :
    (DeskTask.exec B s (.schedule id entity) env).1.Reminding B := by
  obtain ⟨hid, hnew, hbegun⟩ := hheld
  simp only [DeskTask.exec]
  refine ⟨h.created, fun i hi => ?_, fun i hi => ?_, h.begun, fun i hi job hjob => ?_,
    fun i hi a ha hexpects => ?_⟩
  · rcases List.mem_cons.mp hi with rfl | hi
    · exact hid
    · exact h.booked i hi
  · dsimp only at hi
    split_ifs at hi
    · rcases B.known_add _ _ _ _ _ hi with hold | rfl
      · exact h.known i hold
      · exact ⟨id, hid, rfl⟩
    · exact h.known i hi
  · dsimp only at hjob
    split_ifs at hjob with hdelay
    · by_cases hsame : i = reminderJobId id
      · subst hsame
        rw [scheduleAppointmentReminder, B.add_new _ _ _ _ hnew] at hjob
        obtain rfl := List.mem_singleton.mp hjob
        rw [max_eq_right hdelay.le, add_sub_cancel]
      · exact h.due i hi job (B.add_other _ _ _ _ _ hsame ▸ hjob)
    · exact h.due i hi job hjob
  · by_cases hsame : i = id
    · subst hsame
      obtain ⟨hdelay, hstart⟩ := hkeeps hi.inTime a ha hexpects
      rw [if_pos hdelay, scheduleAppointmentReminder, B.add_new _ _ _ _ hnew, List.map_singleton,
        hstart]
    · have hother : reminderJobId i ≠ reminderJobId id := fun he =>
        hsame (reminderJobId_injective he)
      have hbooked : i ∈ s.booked := (List.mem_cons.mp hi.booked).resolve_left hsame
      have hfits := h.fits i ⟨hi.inTime, hbooked, hi.waits⟩ a ha hexpects
      dsimp only
      split_ifs
      · rw [scheduleAppointmentReminder, B.add_other _ _ _ _ _ hother]
        exact hfits
      · exact hfits

theorem Desk.Reminding.worked (h : s.Reminding B) {queue : Q} {jobId : String}
    {begun : List String} (hbegun : ∀ i, i ∈ begun ↔ i = jobId ∨ i ∈ s.begun)
    (hjob : jobId ∈ s.begun ∨ B.known s.queue jobId = true)
    (hknown : ∀ i, B.known queue i = true → B.known s.queue i = true)
    (hother : ∀ i, i ≠ jobId → B.pending queue i = B.pending s.queue i) :
    ({ s with queue, begun } : Desk Q).Reminding B where
  created := h.created
  booked := h.booked
  known i hi := h.known i (hknown i hi)
  begun i hi := by
    rcases (hbegun i).mp hi with rfl | hold
    · exact hjob.elim (h.begun i) (h.known i)
    · exact h.begun i hold
  due i hi job hpending := by
    rw [hbegun, not_or] at hi
    exact h.due i hi.2 job (hother i hi.1 ▸ hpending)
  fits i hi a ha hexpects := by
    have hwaits := hi.waits
    rw [hbegun, not_or] at hwaits
    dsimp only
    rw [hother _ hwaits.1]
    exact h.fits i ⟨hi.inTime, hi.booked, hwaits.2⟩ a ha hexpects

end Steps

section Exec

variable {Q : Type} {B : ReminderQueue Q} {s : Desk Q} {env : DeskEnv}

/-- What a step may do to the jobs that the bookings under way, but for its own, are to queue. -/
structure Desk.Later (B : ReminderQueue Q) (s : Desk Q) (own : Option Uuid) (s' : Desk Q) : Prop where
  rows : s.agenda.db.appointments.next ≤ s'.agenda.db.appointments.next
  known : ∀ i, B.known s'.queue i = true →
    B.known s.queue i = true ∨ ∃ id ∈ own, i = reminderJobId id
  kept : ∀ i ∈ s.begun, i ∈ s'.begun
  begun : ∀ i ∈ s'.begun, i ∈ s.begun ∨ B.known s.queue i = true

theorem DeskTask.Held.later {s s' : Desk Q} {own : Option Uuid} {t : DeskTask} (h : t.Held B s)
    (hlater : s.Later B own s') (hown : ∀ id ∈ own, t.schedules? ≠ some id) : t.Held B s' := by
  cases t with
  | schedule id entity =>
    obtain ⟨hid, hnew, hbegun⟩ := h
    refine ⟨lt_of_lt_of_le hid hlater.rows, ?_, fun hnow => ?_⟩
    · rw [← Bool.not_eq_true]
      intro hknown
      rcases hlater.known _ hknown with hold | ⟨other, hother, he⟩
      · rw [hold] at hnew
        cases hnew
      · exact hown other hother (congrArg some (reminderJobId_injective he))
    · rcases hlater.begun _ hnow with hold | hold
      · exact hbegun hold
      · rw [hold] at hnew
        cases hnew
  | remind jobId data => exact hlater.kept jobId h
  | _ => exact h

/-- The outcome of a step: reminders that fit, and a request with known values. -/
structure Desk.Goes (B : ReminderQueue Q) (s : Desk Q) (t : DeskTask) (r : Desk Q × DeskTask) :
    Prop where
  reminding : r.1.Reminding B
  held : r.2.Held B r.1
  later : s.Later B t.schedules? r.1
  next : ∀ id ∈ r.2.schedules?, id = s.agenda.db.appointments.next

namespace AgendaTask

variable {a : Agenda} {wenv : WorkshopEnv} {t : AgendaTask}

inductive BookingStep (a : Agenda) : AgendaTask → Agenda × AgendaTask → Prop where
  | goesOn {t next : AgendaTask} {a' : Agenda} (same : a'.db = a.db) (books : next.Books) :
      BookingStep a t (a', next)
  | refused {t : AgendaTask} {a' : Agenda} {e : ApiError} (same : a'.db = a.db) :
      BookingStep a t (a', .finished (.error e))
  | inserted {entity : Appointment} {a' : Agenda}
      (rows : a'.db.appointments = a.db.appointments.insert entity.row) :
      BookingStep a (.insert entity) (a', .finished (.ok ()))

theorem bookingStep_reads {α : Type} {r : Outcome α} {next : α → AgendaTask}
    (h : ∀ x, (next x).Books) : BookingStep a t (reads a r next) := by
  cases r with
  | error e => exact .refused rfl
  | ok x => exact .goesOn rfl (h x)

theorem exec_books (a : Agenda) (wenv : WorkshopEnv) (ht : t.Books) : BookingStep a t (t.exec a wenv) := by
  cases t with
  | create tenantId dto => exact bookingStep_reads fun _ => trivial
  | bookMechanic entity => exact bookingStep_reads fun _ => trivial
  | bookLift entity => exact bookingStep_reads fun _ => trivial
  | checkParties entity => exact bookingStep_reads fun _ => trivial
  | lockSlot entity =>
    simp only [exec]
    split_ifs
    · exact .goesOn rfl trivial
    · split
      · exact .refused rfl
      · exact .goesOn rfl trivial
  | insert entity =>
    simp only [exec]
    cases h : insertAppointment a.db entity with
    | error e => exact .refused rfl
    | ok db' =>
      obtain ⟨rfl, -⟩ := insertAppointment_ok h
      exact .inserted rfl
  | _ => exact ht.elim

/-- What a part of a request that changes an appointment does to the table. -/
inductive ChangeStep (a : Agenda) : AgendaTask → Agenda × AgendaTask → Prop where
  | quiet {t next : AgendaTask} {a' : Agenda}
      (rows : a'.db.appointments = a.db.appointments) (changes : next.Changes) :
      ChangeStep a t (a', next)
  | saved {id : Uuid} {old : AppointmentStatus} {entity : Appointment} {next : AgendaTask}
      {a' : Agenda} (accepted : (saveAppointment a.db id entity).isOk = true)
      (rows : a'.db.appointments = a.db.appointments.modify id entity.overwrite)
      (changes : next.Changes) : ChangeStep a (.write id old entity) (a', next)
  | cancelled {t next : AgendaTask} {a' : Agenda} {id : Uuid} {reason : String}
      (rows : a'.db.appointments = a.db.appointments.modify id (Appointment.cancel reason))
      (changes : next.Changes) : ChangeStep a t (a', next)

theorem changeStep_reads {α : Type} {r : Outcome α} {next : α → AgendaTask}
    (h : ∀ x, (next x).Changes) : ChangeStep a t (reads a r next) := by
  cases r with
  | error e => exact .quiet rfl trivial
  | ok x => exact .quiet rfl (h x)

theorem changeStep_work {task : WorkshopTask}
    (h : AgendaTask.Changes (.work (task.exec a.db wenv).2) ∧
      ((task.exec a.db wenv).1.appointments = a.db.appointments ∨ ∃ id reason,
        (task.exec a.db wenv).1.appointments =
          a.db.appointments.modify id (Appointment.cancel reason)))
    (hsync : ∀ u, task ≠ .syncAppointment u) :
    ChangeStep a (.work task) (AgendaTask.exec a (.work task) wenv) := by
  simp only [exec, workshopPart]
  cases (task.exec a.db wenv).1.enforced with
  | ok _ =>
    obtain ⟨hnext, hrows | ⟨id, reason, hrows⟩⟩ := h
    · exact .quiet hrows hnext
    · exact .cancelled hrows hnext
  | error e =>
    cases task with
    | syncAppointment u => exact absurd rfl (hsync u)
    | _ => exact .quiet rfl trivial

theorem exec_changes (a : Agenda) (wenv : WorkshopEnv) (ht : t.Changes) : ChangeStep a t (t.exec a wenv) := by
  cases t with
  | reschedule tenantId id dto => exact changeStep_reads fun _ => trivial
  | moveMechanic id app dto => exact changeStep_reads fun _ => trivial
  | moveLift id app dto => exact changeStep_reads fun _ => trivial
  | approve tenantId id => exact changeStep_reads fun _ => trivial
  | updateStatus tenantId id status reason => exact changeStep_reads fun _ => trivial
  | markNoShow tenantId id => exact changeStep_reads fun _ => trivial
  | save id old entity => exact changeStep_reads fun _ => trivial
  | write id old entity =>
    simp only [exec]
    cases h : saveAppointment a.db id entity with
    | error e => exact .quiet rfl trivial
    | ok db' =>
      obtain ⟨rfl, -⟩ := saveAppointment_ok h
      exact .saved (by rw [h]; rfl) rfl trivial
  | work task =>
    cases task with
    | cancelAppointment tenantId id reason =>
      refine changeStep_work ?_ (by intro u h; cases h)
      simp only [WorkshopTask.exec]
      cases checkCancelAppointment a.db tenantId id with
      | error e => exact ⟨trivial, .inl rfl⟩
      | ok u => exact ⟨trivial, .inl rfl⟩
    | storeCancellation tenantId id reason =>
      refine changeStep_work ?_ (by intro u h; cases h)
      simp only [WorkshopTask.exec]
      cases h : cancelAppointmentAndWorkOrder a.db tenantId id reason with
      | error e => exact ⟨trivial, .inl rfl⟩
      | ok db' =>
        obtain rfl := cancelAppointmentAndWorkOrder_ok h
        exact ⟨trivial, .inr ⟨id, reason, rfl⟩⟩
    | finished answer => exact changeStep_work ⟨trivial, .inl rfl⟩ (by intro u h; cases h)
    | _ => exact ht.elim
  | finished answer => exact .quiet rfl trivial
  | _ => exact ht.elim

end AgendaTask

namespace DeskTask

theorem afterBooking_of_books {db : Db} {task next : AgendaTask} (h : next.Books) :
    afterBooking db task next = .booking next := by
  unfold afterBooking
  split
  · exact h.elim
  · exact h.elim
  · rfl

theorem afterBooking_of_error (db : Db) (task : AgendaTask) (e : ApiError) :
    afterBooking db task (.finished (.error e)) = .finished (.error e) := by
  cases task <;> rfl

theorem notedInTime_of_books {now : Instant} {task next : AgendaTask} (h : next.Books) :
    notedInTime s now task next = s.inTime := by
  unfold notedInTime
  split
  · exact h.elim
  · rfl

theorem notedInTime_of_error (s : Desk Q) (now : Instant) (task : AgendaTask) (e : ApiError) :
    notedInTime s now task (.finished (.error e)) = s.inTime := by
  cases task <;> rfl

theorem mem_notedInTime {now : Instant} {entity : Appointment} {id : Uuid}
    (h : id ∈ notedInTime s now (.insert entity) (.finished (.ok ()))) :
    id = s.agenda.db.appointments.next ∨ id ∈ s.inTime := by
  simp only [notedInTime] at h
  split_ifs at h
  · exact List.mem_cons.mp h
  · exact .inr h

theorem later_agenda {own : Option Uuid} {agenda : Agenda} {inTime : List Uuid}
    (h : s.agenda.db.appointments.next ≤ agenda.db.appointments.next) :
    s.Later B own { s with agenda, inTime } :=
  ⟨h, fun _ hi => .inl hi, fun _ hi => hi, fun _ hi => .inl hi⟩

theorem goes_booking (hs : s.Reminding B) {task : AgendaTask} (ht : task.Books) :
    s.Goes B (.booking task) (exec B s (.booking task) env) := by
  have hstep := AgendaTask.exec_books s.agenda env.toWorkshopEnv ht
  rcases hexec : task.exec s.agenda env.toWorkshopEnv with ⟨agenda, next⟩
  rw [hexec] at hstep
  simp only [exec, hexec]
  cases hstep with
  | goesOn same books =>
    rw [afterBooking_of_books books, notedInTime_of_books books]
    exact ⟨hs.sameRows (congrArg Db.appointments same), books, later_agenda (by rw [same]), nofun⟩
  | refused same =>
    rw [afterBooking_of_error, notedInTime_of_error]
    exact ⟨hs.sameRows (congrArg Db.appointments same), trivial, later_agenda (by rw [same]), nofun⟩
  | inserted rows =>
    have hnext : agenda.db.appointments.next = s.agenda.db.appointments.next + 1 := by
      rw [rows, Table.insert_next]
    have hnew : ∀ i, (∃ id < s.agenda.db.appointments.next, i = reminderJobId id) →
        i ≠ reminderJobId s.agenda.db.appointments.next := by
      rintro i ⟨id, hid, rfl⟩ he
      exact hid.ne (reminderJobId_injective he)
    refine ⟨hs.inserted rows fun id hid => mem_notedInTime hid, ⟨?_, ?_, fun hbegun => ?_⟩,
      later_agenda (by omega), fun id hid => (Option.some.inj hid).symm⟩
    · simp only [hnext]
      exact Nat.lt_succ_self _
    · rw [← Bool.not_eq_true]
      exact fun hknown => hnew _ (hs.known _ hknown) rfl
    · exact hnew _ (hs.begun _ hbegun) rfl

theorem goes_change (hs : s.Reminding B) {task : AgendaTask} (ht : task.Changes)
    (hkeeps : (DeskTask.change task).KeepsStart B s env) :
    s.Goes B (.change task) (exec B s (.change task) env) := by
  have hstep := AgendaTask.exec_changes s.agenda env.toWorkshopEnv ht
  rcases hexec : task.exec s.agenda env.toWorkshopEnv with ⟨agenda, next⟩
  rw [hexec] at hstep
  simp only [exec, hexec]
  cases hstep with
  | quiet rows changes =>
    exact ⟨hs.sameRows rows, changes, later_agenda (by rw [rows]), nofun⟩
  | saved accepted rows changes =>
    exact ⟨hs.saved rows (hkeeps accepted), changes, later_agenda (by rw [rows]; exact le_rfl), nofun⟩
  | cancelled rows changes =>
    exact ⟨hs.cancelled rows, changes, later_agenda (by rw [rows]; exact le_rfl), nofun⟩

theorem goes_schedule (hs : s.Reminding B) {id : Uuid} {entity : Appointment}
    (ht : (schedule id entity).Held B s) (hkeeps : (schedule id entity).KeepsStart B s env) :
    s.Goes B (.schedule id entity) (exec B s (.schedule id entity) env) := by
  refine ⟨hs.scheduled ht hkeeps, trivial, ⟨le_rfl, fun i hi => ?_, fun _ hi => hi,
    fun _ hi => .inl hi⟩, nofun⟩
  simp only [exec] at hi
  split_ifs at hi
  · refine (B.known_add _ _ _ _ _ hi).imp_right fun he => ⟨id, rfl, he⟩
  · exact .inl hi

theorem exec_goes (hs : s.Reminding B) {t : DeskTask} (ht : t.Held B s)
    (hkeeps : t.KeepsStart B s env) : s.Goes B t (t.exec B s env) := by
  have hsame : s.Later B none s := later_agenda le_rfl
  cases t with
  | booking task => exact goes_booking hs ht
  | schedule id entity => exact goes_schedule hs ht hkeeps
  | change task => exact goes_change hs ht hkeeps
  | process jobId =>
    have hknown := B.known_take s.queue jobId env.clock.now
    have hother := B.take_other s.queue jobId env.clock.now
    simp only [exec]
    rcases B.take_cases s.queue jobId env.clock.now with htake | ⟨q', data, htake, htaken⟩
    · rw [htake]
      exact ⟨hs, trivial, hsame, nofun⟩
    · rw [htake] at hknown hother ⊢
      have hbegun : ∀ i, i ∈ jobId :: s.begun ↔ i = jobId ∨ i ∈ s.begun := fun _ => List.mem_cons
      refine ⟨hs.worked hbegun (.inr htaken) hknown hother, List.mem_cons_self,
        ⟨le_rfl, fun i hi => .inl (hknown i hi), fun i hi => List.mem_cons_of_mem _ hi,
          fun i hi => ?_⟩, nofun⟩
      rcases List.mem_cons.mp hi with rfl | hi
      · exact .inr htaken
      · exact .inl hi
  | remind jobId data =>
    have hbegun : ∀ i, i ∈ s.begun ↔ i = jobId ∨ i ∈ s.begun :=
      fun i => ⟨.inr, fun hi => hi.elim (fun he => he ▸ ht) id⟩
    have hknown := B.known_settle s.queue jobId (handleAppointmentReminder s.agenda.db env data).isOk
      env.clock.now
    exact ⟨hs.worked hbegun (.inl ht) hknown (B.settle_other s.queue jobId _ _), trivial,
      ⟨le_rfl, fun i hi => .inl (hknown i hi), fun _ hi => hi, fun _ hi => .inl hi⟩, nofun⟩
  | finished answer => exact ⟨hs, trivial, hsame, nofun⟩

/-- A start that is changed while the job waits is not the one of the job, and a booking that
comes to its reminder too late leaves none. -/
theorem exec_misses (hs : s.Reminding B) {t : DeskTask} (ht : t.Held B s)
    (hkeeps : ¬ t.KeepsStart B s env) : ¬ (t.exec B s env).1.RemindersFollow B := by
  intro hfollow
  unfold KeepsStart at hkeeps
  split at hkeeps
  · next id old entity =>
    simp only [Classical.not_imp] at hkeeps
    obtain ⟨hok, hexpects, hawaits, hstarts⟩ := hkeeps
    obtain ⟨db', hdb⟩ := Outcome.isOk_iff.mp hok
    obtain ⟨row, hrow, -⟩ := Outcome.bind_eq_ok.mp hdb
    rw [Outcome.required_eq_ok] at hrow
    obtain ⟨rfl, -⟩ := saveAppointment_ok hdb
    have hdues := hfollow id
    simp only [exec, AgendaTask.exec, AgendaTask.commits, hdb] at hdues
    have hone := hdues ⟨hawaits.inTime, hawaits.booked, hawaits.waits⟩ (entity.overwrite row)
      (Table.get?_modify_self hrow _) hexpects
    obtain ⟨job, hjob, hdue⟩ := List.map_eq_singleton_iff.mp hone
    have hneat := hs.due _ hawaits.waits job (by rw [hjob]; exact List.mem_singleton_self job)
    apply hstarts
    rw [hjob, List.map_singleton, List.singleton_inj]
    exact sub_left_injective (hneat.symm.trans hdue)
  · next id entity =>
    simp only [Classical.not_imp, not_forall] at hkeeps
    obtain ⟨hinTime, a, ha, hexpects, hstart⟩ := hkeeps
    obtain ⟨-, hnew, hbegun⟩ := ht
    have hone := hfollow id ⟨hinTime, List.mem_cons_self, hbegun⟩ a ha hexpects
    simp only [exec] at hone
    split_ifs at hone with hdelay
    · rw [scheduleAppointmentReminder, B.add_new _ _ _ _ hnew, List.map_singleton,
        List.singleton_inj, max_eq_right hdelay.le, add_sub_cancel] at hone
      exact hstart ⟨hdelay, (sub_left_injective hone).symm⟩
    · rw [B.pending_unknown hnew] at hone
      cases hone
  · exact hkeeps trivial

end DeskTask

end Exec

section Runs

variable {Q : Type} {B : ReminderQueue Q}

def DeskPool.Reminding (B : ReminderQueue Q) (p : DeskPool Q) : Prop :=
  Pool.Holds (fun s : Desk Q => s.Reminding B) (fun s t => t.Held B s) p ∧ p.OneEach

theorem DeskRequest.enter_held (r : DeskRequest) (s : Desk Q) : r.enter.Held B s := by
  cases r <;> trivial

theorem DeskRequest.enter_schedules? (r : DeskRequest) : r.enter.schedules? = none := by
  cases r <;> rfl

theorem DeskPool.OneEach.start {p : DeskPool Q} (h : p.OneEach) (r : DeskRequest) :
    DeskPool.OneEach (p.act B (.start r)) := by
  intro i t ht j u hu hne id hid
  rw [DeskPool.act, Pool.act_start, Table.get?_insert] at ht hu
  split_ifs at ht hu with hi hj hj
  · exact absurd (hi.trans hj.symm) hne
  · obtain rfl := Option.some.inj ht
    rw [r.enter_schedules?] at hid
    cases hid
  · obtain rfl := Option.some.inj hu
    rw [r.enter_schedules?]
    nofun
  · exact h i t ht j u hu hne id hid

theorem DeskPool.OneEach.step {p : DeskPool Q} (h : p.OneEach) (k : ℕ) {r : Desk Q × DeskTask}
    (hnext : ∀ id ∈ r.2.schedules?, id = p.shared.agenda.db.appointments.next)
    (hheld : ∀ i u, p.threads.get? i = some u → u.Held B p.shared) :
    DeskPool.OneEach ⟨r.1, p.threads.modify k fun _ => r.2⟩ := by
  have hold : ∀ i u, p.threads.get? i = some u → ∀ id ∈ u.schedules?,
      id < p.shared.agenda.db.appointments.next := by
    intro i u hu id hid
    have hu' := hheld i u hu
    cases u with
    | schedule id' entity => exact Option.some.inj hid ▸ hu'.1
    | _ => cases hid
  intro i u hu j w hw hne id hid
  obtain ⟨u', hu', rfl⟩ := Table.of_get?_modify hu
  obtain ⟨w', hw', rfl⟩ := Table.of_get?_modify hw
  by_cases hi : i = k
  · by_cases hj : j = k
    · exact absurd (hi.trans hj.symm) hne
    · rw [if_pos hi] at hid
      rw [if_neg hj]
      exact fun hsame => (hold j w' hw' id hsame).ne (hnext id hid)
  · rw [if_neg hi] at hid
    by_cases hj : j = k
    · rw [if_pos hj]
      exact fun hsame => (hold i u' hu' id hid).ne (hnext id hsame)
    · rw [if_neg hj]
      exact h i u' hu' j w' hw' hne id hid

theorem DeskPool.Reminding.act {p : DeskPool Q} (hp : p.Reminding B)
    (a : PoolAction DeskRequest DeskEnv) (ha : p.KeepsStart B a) :
    DeskPool.Reminding B (p.act B a) := by
  obtain ⟨hholds, hone⟩ := hp
  cases a with
  | start r => exact ⟨hholds.start (r.enter_held p.shared), hone.start r⟩
  | step k env =>
    refine ⟨hholds.step_among fun t ht => ?_, ?_⟩
    · obtain ⟨hreminding, hheld, hlater, -⟩ :=
        DeskTask.exec_goes hholds.1 (hholds.2 k t ht) (ha t ht)
      exact ⟨hreminding, hheld, fun i u hu hne =>
        (hholds.2 i u hu).later hlater (hone k t ht i u hu hne.symm)⟩
    · cases ht : p.threads.get? k with
      | none =>
        rw [DeskPool.act, Pool.act_step_none ht]
        exact hone
      | some t =>
        have hgoes := DeskTask.exec_goes hholds.1 (hholds.2 k t ht) (ha t ht)
        rw [DeskPool.act, Pool.act_step_some ht]
        exact hone.step k hgoes.next hholds.2

theorem Desk.opening_reminding (B : ReminderQueue Q) (db : Db) (locks : List LockKey) :
    (Desk.opening B db locks).Reminding B where
  created _ hid := by cases hid
  booked _ hid := by cases hid
  known i hi := by
    rw [Desk.opening, B.known_empty] at hi
    cases hi
  begun _ hi := by cases hi
  due i _ job hjob := by
    rw [Desk.opening, B.pending_unknown (B.known_empty i)] at hjob
    cases hjob
  fits _ hid := by cases hid.inTime

end Runs

section Sample

def notificationsQueue : ReminderQueue (List (JobEntry String ReminderData)) :=
  listQueue String ReminderData 3 1000

def deskEnv : DeskEnv where
  toWorkshopEnv := shopEnv
  smsDelivery := .ok ()

/-- The afternoon is booked fourteen hours ahead, and then moved by an hour. -/
def bookedThenMoved : List (PoolAction DeskRequest DeskEnv) :=
  .start (.createAppointment 0 (booking "Lift 2")) :: List.replicate 7 (.step 0 deskEnv) ++
    .start (.rescheduleAppointment 0 1
      { slotDate := 0, slotStartTime := 54000000, slotEndTime := 57600000,
        assignedMechanicId := none, assignedLift := none }) :: List.replicate 5 (.step 1 deskEnv)

end Sample

end WorksAuto
