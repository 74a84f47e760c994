import WorksAuto.Appointments.System
import WorksAuto.Workshop.Orders
import WorksAuto.Workshop.Serial

/-! No double booking.
The exclusion constraints compare the ranges and names as they are stored. They
keep the bookings apart as long as no slot is empty and no lift is named with
blanks around its name, because only then do they compare what the conflict
checks compare. -/

namespace WorksAuto

open Lib

/-- Two appointments name one lift, as the conflict check compares the names. -/
def Appointment.SameLift (a b : Appointment) : Prop :=
  ∃ l m, a.assignedLift = some l ∧ b.assignedLift = some m ∧ jsTrim l = jsTrim m ∧ jsTrim l ≠ ""

def Db.NoDoubleBooking (db : Db) : Prop :=
  ∀ i j a b, db.appointments.get? i = some a → db.appointments.get? j = some b → i ≠ j →
    a.tenantId = b.tenantId → a.occupies = true → b.occupies = true →
      a.slotStartTime < b.slotEndTime → b.slotStartTime < a.slotEndTime →
        (∀ m, a.assignedMechanicId = some m → b.assignedMechanicId ≠ some m) ∧ ¬ a.SameLift b

/-- No blanks around the name; a name of blanks only is compared with no other. -/
def ProperLift (l : String) : Prop := jsTrim l = l ∨ jsTrim l = ""

instance (l : String) : Decidable (ProperLift l) := inferInstanceAs (Decidable (_ ∨ _))

/-- A slot that is not empty, on a lift that is properly named if there is one. -/
structure Appointment.Proper (a : Appointment) : Prop where
  slot : a.slotStartTime ≠ a.slotEndTime
  lift : ∀ l ∈ a.assignedLift, ProperLift l

structure RescheduleAppointmentInput.Proper (dto : RescheduleAppointmentInput) : Prop where
  slot : dto.slotStartTime ≠ dto.slotEndTime
  lift : ∀ l ∈ dto.assignedLift, ProperLift l

/-- A table of appointments that the constraints accept, with proper rows. -/
structure Db.Booked (db : Db) : Prop where
  ranges : db.RangesValid
  mechanics : db.Excludes Appointment.assignedMechanicId
  lifts : db.Excludes Appointment.assignedLift
  proper : ∀ k a, db.appointments.get? k = some a → a.Proper

section Tables

variable {db db' : Db}

theorem Db.Booked.noDoubleBooking (h : db.Booked) : db.NoDoubleBooking := by
  intro i j a b ha hb hij htenant hoa hob hab hba
  have meets : a.assignedMechanicId.isSome = true ∨ a.assignedLift.isSome = true →
      b.assignedMechanicId.isSome = true ∨ b.assignedLift.isSome = true → a.rangesMeet b :=
    fun hra hrb =>
      ⟨lt_of_le_of_ne (h.ranges i a ha hoa hra) (h.proper i a ha).slot,
        lt_of_le_of_ne (h.ranges j b hb hob hrb) (h.proper j b hb).slot, hab, hba⟩
  refine ⟨fun m hma hmb => ?_, ?_⟩
  · exact h.mechanics i a ha j b hb hij hoa hob htenant (by rw [hma]; rfl) (hma.trans hmb.symm)
      (meets (.inl (by rw [hma]; rfl)) (.inl (by rw [hmb]; rfl)))
  · rintro ⟨l, m, hl, hm, htrim, hname⟩
    have hla : jsTrim l = l := ((h.proper i a ha).lift l hl).resolve_right hname
    have hmb : jsTrim m = m := ((h.proper j b hb).lift m hm).resolve_right (htrim ▸ hname)
    have hsame : l = m := by rw [← hla, htrim, hmb]
    subst hsame
    exact h.lifts i a ha j b hb hij hoa hob htenant (by rw [hl]; rfl) (hl.trans hm.symm)
      (meets (.inr (by rw [hl]; rfl)) (.inr (by rw [hm]; rfl)))

theorem firstText_singleton {o : Option String} {l : String} (h : firstText [o] = some l) :
    o = some l := by
  cases o with
  | none => cases h
  | some t =>
    simp only [firstText, List.filterMap_cons, id_eq, List.filterMap_nil, List.find?_cons,
      List.find?_nil] at h
    split at h <;> simp_all

theorem Appointment.Proper.row {a : Appointment} (h : a.Proper) : a.row.Proper :=
  ⟨h.slot, fun l hl => h.lift l (firstText_singleton hl)⟩

theorem Appointment.Proper.overwrite {entity : Appointment} (h : entity.Proper)
    (row : Appointment) : (entity.overwrite row).Proper :=
  ⟨h.slot, fun l hl => h.lift l (firstText_singleton hl)⟩

theorem Appointment.Proper.reschedule {a b : Appointment} {dto : RescheduleAppointmentInput}
    (ha : a.Proper) (hdto : dto.Proper) (h : a.reschedule dto = .ok b) : b.Proper := by
  obtain ⟨-, rfl⟩ := Appointment.reschedule_ok h
  refine ⟨hdto.slot, fun l hl => ?_⟩
  simp only [Option.mem_def] at hl
  cases hd : dto.assignedLift with
  | none =>
    rw [hd] at hl
    exact ha.lift l hl
  | some m =>
    rw [hd] at hl
    exact hdto.lift l (hd.trans hl)

theorem Db.Booked.insert {a : Appointment} (h : db.Booked) (ha : a.Proper)
    (hdb : insertAppointment db a = .ok db') : db'.Booked := by
  obtain ⟨rfl, hranges, hmechanics, hlifts⟩ := insertAppointment_ok hdb
  refine ⟨hranges, hmechanics, hlifts, fun k b hb => ?_⟩
  rw [Table.get?_insert] at hb
  split_ifs at hb with hk
  · cases hb
    exact ha.row
  · exact h.proper k b hb

theorem Db.Booked.save {a : Appointment} {id : Uuid} (h : db.Booked) (ha : a.Proper)
    (hdb : saveAppointment db id a = .ok db') : db'.Booked := by
  obtain ⟨rfl, hranges, hmechanics, hlifts⟩ := saveAppointment_ok hdb
  refine ⟨hranges, hmechanics, hlifts, fun k b hb => ?_⟩
  obtain ⟨row, hrow, rfl⟩ := Table.of_get?_modify hb
  split_ifs
  · exact ha.overwrite row
  · exact h.proper k row hrow

theorem Db.Booked.workshopPart (h : db.Booked) (t : WorkshopTask) (env : WorkshopEnv) :
    (AgendaTask.workshopPart db t env).1.Booked := by
  unfold AgendaTask.workshopPart
  cases hforced : (t.exec db env).1.enforced with
  | ok db'' =>
    obtain ⟨-, hranges, hmechanics, hlifts⟩ := Db.enforced_ok hforced
    refine ⟨hranges, hmechanics, hlifts, fun k b hb => ?_⟩
    obtain ⟨a, ha, hsame⟩ := (t.exec_orders db env).booking hb
    have hproper := h.proper k a ha
    rw [hsame]
    exact ⟨hproper.slot, hproper.lift⟩
  | error e => cases t <;> exact h

end Tables

section Requests

/-- The inputs of a request that end up in a slot or in a lift's name. -/
def AgendaRequest.Proper : AgendaRequest → Prop
  | .createAppointment _ dto => ∀ l ∈ dto.assignedLift, ProperLift l
  | .rescheduleAppointment _ _ dto => dto.Proper
  | _ => True

def AgendaTask.Proper : AgendaTask → Prop
  | .create _ dto => ∀ l ∈ dto.assignedLift, ProperLift l
  | .bookMechanic entity | .bookLift entity | .checkParties entity | .lockSlot entity
  | .insert entity | .save _ _ entity | .write _ _ entity => entity.Proper
  | .readBays _ dto => dto.slotStartTime ≠ dto.slotEndTime
  | .tryBays _ dto bays => dto.slotStartTime ≠ dto.slotEndTime ∧ ∀ l ∈ bays, ProperLift l
  | .publicCustomer _ dto lift | .publicVehicle _ dto lift _ =>
    dto.slotStartTime ≠ dto.slotEndTime ∧ ProperLift lift
  | .reschedule _ _ dto => dto.Proper
  | .moveMechanic _ app dto | .moveLift _ app dto => app.Proper ∧ dto.Proper
  | _ => True

/-- Proper inputs: those of a request that begins, and the names of the bays when a
public booking reads them. -/
def AgendaPool.Proper (p : AgendaPool) : PoolAction AgendaRequest WorkshopEnv → Prop
  | .start r => r.Proper
  | .step k _ => ∀ t, p.threads.get? k = some t →
    match t with
    | .readBays tenantId _ => ∀ l ∈ findActiveOnlineBays p.shared.db tenantId, ProperLift l
    | _ => True

namespace AgendaTask

variable {s : Agenda} {env : WorkshopEnv}

/-- The outcome of a step: a booked table, and a request with proper values. -/
def Keeps (r : Agenda × AgendaTask) : Prop := r.1.db.Booked ∧ r.2.Proper

theorem keeps_reads {α : Type} {r : Outcome α} {next : α → AgendaTask} (hs : s.db.Booked)
    (h : ∀ a, r = .ok a → (next a).Proper) : Keeps (reads s r next) := by
  cases r with
  | error e => exact ⟨hs, trivial⟩
  | ok a => exact ⟨hs, h a rfl⟩

theorem keeps_commits {r : Outcome Db} {next : AgendaTask} (hs : s.db.Booked)
    (h : ∀ db', r = .ok db' → db'.Booked) (hnext : next.Proper) : Keeps (commits s r next) := by
  cases r with
  | error e => exact ⟨hs, trivial⟩
  | ok db' => exact ⟨h db' rfl, hnext⟩

end AgendaTask

theorem checkNewSlot_ok {clock : Clock} {db : Db} {a b : Appointment}
    (h : checkNewSlot clock db a = .ok b) : b = a ∧ a.slotStartTime < a.slotEndTime := by
  obtain ⟨_, hslot, h⟩ := Outcome.bind_eq_ok.mp h
  obtain ⟨_, -, h⟩ := Outcome.bind_eq_ok.mp h
  obtain ⟨_, -, h⟩ := Outcome.bind_eq_ok.mp h
  rw [Outcome.reject_eq_ok] at hslot
  exact ⟨(Outcome.pure_eq_ok.mp h).symm, by simpa [Appointment.isValidSlot] using hslot⟩

theorem checkPublicSlot_ok {clock : Clock} {db : Db} {slug : String}
    {dto : CreatePublicAppointmentInput} {tenantId : Uuid}
    (h : checkPublicSlot clock db slug dto = .ok tenantId) :
    dto.slotStartTime < dto.slotEndTime := by
  obtain ⟨⟨_, _⟩, -, h⟩ := Outcome.bind_eq_ok.mp h
  obtain ⟨_, hslot, -⟩ := Outcome.bind_eq_ok.mp h
  simpa using hslot

theorem Db.readAppointment_ok {db : Db} {t id : Uuid} {a : Appointment}
    (h : db.readAppointment t id = .ok a) :
    db.appointments.get? id = some a ∧ a.tenantId = t :=
  Db.appointment?_eq_some.mp (Outcome.required_eq_ok.mp h)

theorem checkReschedule_ok {clock : Clock} {db : Db} {t id : Uuid}
    {dto : RescheduleAppointmentInput} {a : Appointment}
    (h : checkReschedule clock db t id dto = .ok a) :
    db.appointments.get? id = some a ∧ a.tenantId = t ∧ a.status.isClosed = false := by
  obtain ⟨app, happ, h⟩ := Outcome.bind_eq_ok.mp h
  obtain ⟨_, hopen, h⟩ := Outcome.bind_eq_ok.mp h
  obtain ⟨_, -, h⟩ := Outcome.bind_eq_ok.mp h
  obtain ⟨_, -, h⟩ := Outcome.bind_eq_ok.mp h
  obtain rfl := Outcome.pure_eq_ok.mp h
  obtain ⟨hget, htenant⟩ := Db.readAppointment_ok happ
  rw [Outcome.reject_eq_ok, Appointment.canReschedule_eq, Bool.not_not] at hopen
  exact ⟨hget, htenant, hopen⟩

theorem Db.edited_ok {db : Db} {t id : Uuid} {edit : Appointment → Outcome Appointment}
    {old : AppointmentStatus} {entity : Appointment} (h : db.edited t id edit = .ok (old, entity)) :
    ∃ a, db.appointments.get? id = some a ∧ a.tenantId = t ∧ old = a.status ∧
      edit a = .ok entity := by
  obtain ⟨a, ha, h⟩ := Outcome.bind_eq_ok.mp h
  obtain ⟨e, he, h⟩ := Outcome.bind_eq_ok.mp h
  cases Outcome.pure_eq_ok.mp h
  obtain ⟨hget, htenant⟩ := Db.readAppointment_ok ha
  exact ⟨a, hget, htenant, rfl, he⟩

theorem Appointment.setStatus_ok {a b : Appointment} {status reason : Option String}
    (h : a.setStatus status reason = .ok b) :
    ∃ st, mapStatusToPrisma status = .ok st ∧ b = { a with
      status := st
      cancellationReason := firstText [reason] <|> a.cancellationReason } := by
  obtain ⟨st, hst, h⟩ := Outcome.bind_eq_ok.mp h
  exact ⟨st, hst, (Outcome.pure_eq_ok.mp h).symm⟩

theorem standardBays_proper : ∀ l ∈ standardBays, ProperLift l := by
  decide +kernel

section Exec

variable {s : Agenda} {env : WorkshopEnv} {t : AgendaTask}

theorem AgendaTask.keeps_edited {tenantId id : Uuid} {edit : Appointment → Outcome Appointment}
    (hs : s.db.Booked)
    (hedit : ∀ a b, edit a = .ok b → ∃ st reason, b = { a with status := st, cancellationReason := reason }) :
    Keeps (reads s (s.db.edited tenantId id edit) fun (old, entity) => .save id old entity) := by
  refine keeps_reads hs ?_
  rintro ⟨old, entity⟩ h
  obtain ⟨a, ha, -, -, he⟩ := Db.edited_ok h
  obtain ⟨st, reason, rfl⟩ := hedit a entity he
  have hproper := hs.proper id a ha
  exact ⟨hproper.slot, hproper.lift⟩

theorem AgendaTask.exec_keeps (hs : s.db.Booked) (ht : t.Proper)
    (hbays : ∀ tenantId dto, t = .readBays tenantId dto →
      ∀ l ∈ findActiveOnlineBays s.db tenantId, ProperLift l) :
    Keeps (t.exec s env) := by
  cases t with
  | create tenantId dto =>
    refine keeps_reads hs fun entity h => ?_
    obtain ⟨rfl, hslot⟩ := checkNewSlot_ok h
    exact ⟨hslot.ne, fun l hl => ht l (firstText_singleton hl)⟩
  | bookMechanic entity => exact keeps_reads hs fun _ _ => ht
  | bookLift entity => exact keeps_reads hs fun _ _ => ht
  | createPublic slug dto =>
    exact keeps_reads hs fun tenantId h => (checkPublicSlot_ok h).ne
  | readBays tenantId dto =>
    simp only [exec]
    split
    · exact ⟨hs, ht, standardBays_proper⟩
    · exact ⟨hs, ht, hbays tenantId dto rfl⟩
  | tryBays tenantId dto bays =>
    cases bays with
    | nil => exact ⟨hs, trivial⟩
    | cons bay rest =>
      obtain ⟨hslot, hnames⟩ := ht
      obtain ⟨hbay, hrest⟩ := List.forall_mem_cons.mp hnames
      simp only [exec]
      split_ifs
      · exact ⟨hs, hslot, hrest⟩
      · exact ⟨hs, trivial⟩
      · exact ⟨hs, hslot, hbay⟩
  | publicCustomer tenantId dto lift =>
    obtain ⟨customers, hcustomers⟩ :=
      findOrCreateCustomerForPublic_eq s.db tenantId dto.customerName dto.customerPhone
    refine ⟨?_, ht⟩
    simp only [exec]
    rw [hcustomers]
    exact ⟨hs.ranges, hs.mechanics, hs.lifts, hs.proper⟩
  | publicVehicle tenantId dto lift customerId =>
    have hentity : ∀ vehicleId, (dto.entity tenantId customerId vehicleId lift).Proper := by
      refine fun vehicleId => ⟨ht.1, fun l hl => ?_⟩
      cases hl
      exact ht.2
    simp only [exec]
    split
    · exact ⟨hs, trivial⟩
    · next hvehicle =>
      obtain ⟨vehicles, rfl⟩ := findOrCreateVehicleForPublic_ok hvehicle
      exact ⟨⟨hs.ranges, hs.mechanics, hs.lifts, hs.proper⟩, hentity _⟩
  | checkParties entity =>
    refine keeps_reads hs fun b h => ?_
    obtain ⟨serviceId, rfl⟩ := checkParties_ok h
    exact ⟨ht.slot, ht.lift⟩
  | lockSlot entity =>
    simp only [exec]
    split_ifs
    · exact ⟨hs, ht⟩
    · split
      · exact ⟨hs, trivial⟩
      · exact ⟨hs, ht⟩
  | insert entity => exact keeps_commits hs (fun db' h => hs.insert ht h) trivial
  | reschedule tenantId id dto =>
    refine keeps_reads hs fun app h => ?_
    exact ⟨hs.proper id app (checkReschedule_ok h).1, ht⟩
  | moveMechanic id app dto => exact keeps_reads hs fun _ _ => ht
  | moveLift id app dto =>
    refine keeps_reads hs fun entity h => ?_
    obtain ⟨_, -, h⟩ := Outcome.bind_eq_ok.mp h
    exact ht.1.reschedule ht.2 h
  | approve tenantId id =>
    refine keeps_edited hs fun a b h => ?_
    obtain ⟨-, rfl⟩ := Appointment.confirm_ok h
    exact ⟨_, _, rfl⟩
  | updateStatus tenantId id status reason =>
    refine keeps_edited hs fun a b h => ?_
    obtain ⟨st, -, rfl⟩ := Appointment.setStatus_ok h
    exact ⟨_, _, rfl⟩
  | markNoShow tenantId id =>
    refine keeps_edited hs fun a b h => ?_
    obtain ⟨-, rfl⟩ := Appointment.markNoShow_ok h
    exact ⟨_, _, rfl⟩
  | save id old entity =>
    refine keeps_reads hs fun b h => ?_
    obtain ⟨serviceId, rfl⟩ := readForSave_ok h
    exact ⟨ht.slot, ht.lift⟩
  | write id old entity => exact keeps_commits hs (fun db' h => hs.save ht h) trivial
  | work task => exact ⟨hs.workshopPart task env, trivial⟩
  | finished answer => exact ⟨hs, trivial⟩

end Exec

theorem AgendaRequest.Proper.enter {r : AgendaRequest} (h : r.Proper) : r.enter.Proper := by
  cases r with
  | createAppointment tenantId dto => exact h
  | rescheduleAppointment tenantId id dto => exact h
  | _ => trivial

def AgendaPool.Booked (p : AgendaPool) : Prop :=
  Pool.Holds (fun s : Agenda => s.db.Booked) (fun _ t => t.Proper) p

theorem AgendaPool.Booked.act {p : AgendaPool} {a : PoolAction AgendaRequest WorkshopEnv}
    (h : p.Booked) (ha : p.Proper a) : (p.act a).Booked := by
  cases a with
  | start r =>
    have hstart : Pool.Holds (fun s : Agenda => s.db.Booked) (fun _ t => t.Proper)
        (AgendaPool.act p (.start r)) := Pool.Holds.start h ha.enter
    exact hstart
  | step k env =>
    refine Pool.Holds.step h fun t ht => ?_
    have hproper := ha t ht
    obtain ⟨hdb, hnext⟩ : AgendaTask.Keeps (t.exec p.shared env) :=
      AgendaTask.exec_keeps h.1 (h.2 k t ht) (fun tenantId dto he => by subst he; exact hproper)
    exact ⟨hdb, hnext, fun u hu => hu⟩

/-- In every interleaving of bookings, rescheduling, status changes and workshop
requests, no two active appointments share a mechanic or a lift at one time, as long
as slots are not empty and lifts are named without blanks around the name. -/
theorem no_double_booking (db : Db) (locks : List LockKey)
    (actions : List (PoolAction AgendaRequest WorkshopEnv)) (hdb : db.Booked)
    (h : EachStep AgendaPool.act AgendaPool.Proper (Pool.idle ⟨db, locks⟩) actions) :
    Always AgendaPool.act (fun p => p.shared.db.NoDoubleBooking) (Pool.idle ⟨db, locks⟩)
      actions := by
  have hstart : AgendaPool.Booked (Pool.idle ⟨db, locks⟩) := Pool.holds_idle hdb
  have hruns : Always AgendaPool.act AgendaPool.Booked (Pool.idle ⟨db, locks⟩) actions :=
    always_of_step (fun p a hp ha => hp.act ha) hstart h
  exact hruns.mono fun p hp => hp.1.noDoubleBooking

end Requests

section Sample

instance (a : Appointment) : Decidable a.Proper :=
  decidable_of_iff (a.slotStartTime ≠ a.slotEndTime ∧ ∀ l ∈ a.assignedLift, ProperLift l)
    ⟨fun h => ⟨h.1, h.2⟩, fun h => ⟨h.slot, h.lift⟩⟩

instance (dto : RescheduleAppointmentInput) : Decidable dto.Proper :=
  decidable_of_iff (dto.slotStartTime ≠ dto.slotEndTime ∧ ∀ l ∈ dto.assignedLift, ProperLift l)
    ⟨fun h => ⟨h.1, h.2⟩, fun h => ⟨h.slot, h.lift⟩⟩

instance (r : AgendaRequest) : Decidable r.Proper := by
  unfold AgendaRequest.Proper
  split <;> infer_instance

instance (p : AgendaPool) (a : PoolAction AgendaRequest WorkshopEnv) : Decidable (p.Proper a) := by
  unfold AgendaPool.Proper
  have (t : AgendaTask) : Decidable (match t with
      | .readBays tenantId _ =>
        ∀ l ∈ findActiveOnlineBays p.shared.db tenantId, ProperLift l
      | _ => True) := by
    split <;> infer_instance
  split <;> infer_instance

def booking (lift : String) : CreateAppointmentInput where
  customerId := 0
  vehicleId := 0
  serviceId := none
  assignedMechanicId := none
  assignedLift := some lift
  slotDate := 0
  slotStartTime := 50400000
  slotEndTime := 54000000
  customerNotes := none

def publicBooking : CreatePublicAppointmentInput where
  customerName := "Ayşe Kaya"
  customerPhone := "05321234567"
  plate := "06XYZ789"
  serviceId := none
  slotDate := 0
  slotStartTime := 50400000
  slotEndTime := 54000000
  customerNotes := none

def agenda : AgendaPool := Pool.idle { db := shopDb, locks := [] }

theorem shopDb_booked : shopDb.Booked := by
  refine ⟨by decide +kernel, by decide +kernel, by decide +kernel, ?_⟩
  decide +kernel

/-- Two clients book one lift at once, up to their insertion, while a third books from
outside and a fourth moves the morning's appointment to the same lift. -/
def contended : List (PoolAction AgendaRequest WorkshopEnv) :=
  [.start (.createAppointment 0 (booking "Lift 2 (Mekanik)")),
    .start (.createAppointment 0 (booking "Lift 2 (Mekanik)")),
    .start (.createPublicAppointment "servis" publicBooking),
    .start (.rescheduleAppointment 0 0
      { slotDate := 0, slotStartTime := 52200000, slotEndTime := 55800000,
        assignedMechanicId := none, assignedLift := some "Lift 2 (Mekanik)" })] ++
    List.replicate 4 (.step 0 shopEnv) ++ List.replicate 4 (.step 1 shopEnv) ++
    List.replicate 3 (.step 3 shopEnv) ++ List.replicate 2 (.step 0 shopEnv) ++
    List.replicate 2 (.step 1 shopEnv) ++ List.replicate 8 (.step 2 shopEnv) ++
    List.replicate 2 (.step 3 shopEnv)

example : (run AgendaPool.act agenda contended).shared.db.appointments.rows.map
    (fun row => row.2.assignedLift) =
      [some "Lift 1", some "Lift 2 (Mekanik)", some "Lift 1 (Hızlı Kabul)"] := by decide +kernel

theorem sample_no_double_booking :
    Always AgendaPool.act (fun p => p.shared.db.NoDoubleBooking) agenda contended := by
  apply no_double_booking shopDb [] contended shopDb_booked
  decide +kernel

def blankAfterName : List (PoolAction AgendaRequest WorkshopEnv) :=
  [.start (.createAppointment 0 (booking "Lift 2 "))] ++ List.replicate 6 (.step 0 shopEnv) ++
    [.start (.createAppointment 0 (booking "Lift 2"))] ++ List.replicate 6 (.step 1 shopEnv)

theorem lift_booked_twice :
    ¬ Always AgendaPool.act (fun p => p.shared.db.NoDoubleBooking) agenda blankAfterName := by
  intro h
  have hfirst : (run AgendaPool.act agenda blankAfterName).shared.db.appointments.get? 1 =
      some ((booking "Lift 2 ").entity 0) := by decide +kernel
  have hsecond : (run AgendaPool.act agenda blankAfterName).shared.db.appointments.get? 2 =
      some ((booking "Lift 2").entity 0) := by decide +kernel
  have hapart := h.last 1 2 _ _ hfirst hsecond (by decide) rfl (by decide) (by decide) (by decide)
    (by decide)
  exact hapart.2 ⟨"Lift 2 ", "Lift 2", by decide +kernel, by decide +kernel, by decide +kernel,
    by decide +kernel⟩

end Sample

end WorksAuto
