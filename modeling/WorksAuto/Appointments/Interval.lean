import WorksAuto.Appointments.Booking

/-! Every appointment is an interval.
Both kinds of booking refuse a slot that does not end after it begins;
rescheduling does not look, and the constraints of the table refuse a slot only
when it is reversed on a mechanic or a lift. A slot that is not an interval is
met by no other, so it keeps nothing free at its own start. -/

namespace WorksAuto

open Lib

def Db.RealIntervals (db : Db) : Prop :=
  ∀ k a, db.appointments.get? k = some a → a.slotStartTime < a.slotEndTime

def Appointment.SharesResource (a b : Appointment) : Prop :=
  (∃ m, a.assignedMechanicId = some m ∧ b.assignedMechanicId = some m) ∨
    ∃ l, l ≠ "" ∧ a.assignedLift = some l ∧ b.assignedLift = some l

/-- No booking that reaches over the start of an active appointment gets its mechanic
or its lift: the check under the lock refuses it, and so do the constraints. -/
def Db.StartsBlocked (db : Db) : Prop :=
  ∀ k a, db.appointments.get? k = some a → a.occupies = true → ∀ b : Appointment,
    b.tenantId = a.tenantId → a.SharesResource b → b.slotStartTime ≤ a.slotStartTime →
      a.slotStartTime < b.slotEndTime → (recheck db b).isOk = false ∧ a.rangesMeet b

section Tables

variable {db db' : Db} {a b : Appointment} {k : Uuid}

theorem Appointment.inTheWay_of_interval (h : a.slotStartTime < a.slotEndTime)
    (hoccupies : a.occupies = true) (htenant : b.tenantId = a.tenantId)
    (hstart : b.slotStartTime ≤ a.slotStartTime) (hend : a.slotStartTime < b.slotEndTime) :
    a.inTheWay b.tenantId b.slotStartTime b.slotEndTime = true := by
  simp only [inTheWay, hoccupies, true_and, decide_eq_true_eq]
  exact ⟨htenant.symm, hend, lt_of_le_of_lt hstart h⟩

theorem recheck_refuses (ha : db.appointments.get? k = some a) (hshares : a.SharesResource b)
    (hway : a.inTheWay b.tenantId b.slotStartTime b.slotEndTime = true) :
    (recheck db b).isOk = false := by
  cases hok : recheck db b with
  | error e => rfl
  | ok u =>
    obtain ⟨_, hmechanic, hlift⟩ := Outcome.bind_eq_ok.mp hok
    rcases hshares with ⟨m, hma, hmb⟩ | ⟨l, hl, hla, hlb⟩
    · have hfree : (b.assignedMechanicId.isSome && (db.appointments.find? fun c =>
          decide (c.assignedMechanicId = b.assignedMechanicId) &&
            c.inTheWay b.tenantId b.slotStartTime b.slotEndTime).isSome) = false :=
        Outcome.reject_eq_ok.mp hmechanic
      rw [Table.find?_isSome ha (by simp [hma, hmb, hway]), hmb] at hfree
      cases hfree
    · have hfirst : firstText [b.assignedLift] = some l := by
        simp [firstText, hlb, hl]
      rw [hfirst] at hlift
      have hfree : (db.appointments.find? fun c =>
          decide (c.assignedLift = some l) &&
            c.inTheWay b.tenantId b.slotStartTime b.slotEndTime).isSome = false :=
        Outcome.reject_eq_ok.mp hlift
      rw [Table.find?_isSome ha (by simp [hla, hway])] at hfree
      cases hfree

theorem Db.RealIntervals.startsBlocked (h : db.RealIntervals) : db.StartsBlocked := by
  intro k a ha hoccupies b htenant hshares hstart hend
  have hslot := h k a ha
  refine ⟨recheck_refuses ha hshares
    (Appointment.inTheWay_of_interval hslot hoccupies htenant hstart hend), hslot, ?_, hend, ?_⟩
  · exact lt_of_le_of_lt hstart hend
  · exact lt_of_le_of_lt hstart hslot

theorem Db.RealIntervals.insert (h : db.RealIntervals) (ha : a.slotStartTime < a.slotEndTime)
    (hdb : insertAppointment db a = .ok db') : db'.RealIntervals := by
  obtain ⟨rfl, -⟩ := insertAppointment_ok hdb
  intro k b hb
  rw [Table.get?_insert] at hb
  split_ifs at hb with hk
  · cases hb
    exact ha
  · exact h k b hb

theorem Db.RealIntervals.save_iff (h : db.RealIntervals) (hdb : saveAppointment db k a = .ok db') :
    db'.RealIntervals ↔ a.slotStartTime < a.slotEndTime := by
  obtain ⟨old, hold, -⟩ := Outcome.bind_eq_ok.mp hdb
  rw [Outcome.required_eq_ok] at hold
  obtain ⟨rfl, -⟩ := saveAppointment_ok hdb
  constructor
  · intro hafter
    have hsaved := hafter k _ (Table.get?_modify_self hold a.overwrite)
    exact hsaved
  · intro hslot i b hb
    obtain ⟨row, hrow, rfl⟩ := Table.of_get?_modify hb
    split_ifs
    · exact hslot
    · exact h i row hrow

theorem Db.RealIntervals.workshopPart (h : db.RealIntervals) (t : WorkshopTask)
    (env : WorkshopEnv) : (AgendaTask.workshopPart db t env).1.RealIntervals := by
  unfold AgendaTask.workshopPart
  cases (t.exec db env).1.enforced with
  | ok db'' =>
    intro k b hb
    obtain ⟨a, ha, hsame⟩ := (t.exec_orders db env).booking hb
    have hslot := h k a ha
    rw [hsame]
    exact hslot
  | error e => cases t <;> exact h

end Tables

section Requests

def AgendaTask.Ordered : AgendaTask → Prop
  | .bookMechanic entity | .bookLift entity | .checkParties entity | .lockSlot entity
  | .insert entity => entity.slotStartTime < entity.slotEndTime
  | .readBays _ dto | .tryBays _ dto _ | .publicCustomer _ dto _ | .publicVehicle _ dto _ _ =>
    dto.slotStartTime < dto.slotEndTime
  | _ => True

def AgendaTask.SavesInterval (db : Db) : AgendaTask → Prop
  | .write id _ entity =>
    (saveAppointment db id entity).isOk = true → entity.slotStartTime < entity.slotEndTime
  | _ => True

def AgendaPool.SavesInterval (p : AgendaPool) : PoolAction AgendaRequest WorkshopEnv → Prop
  | .start _ => True
  | .step k _ => ∀ t, p.threads.get? k = some t → t.SavesInterval p.shared.db

namespace AgendaTask

variable {s : Agenda} {env : WorkshopEnv} {t : AgendaTask}

/-- The outcome of a step: intervals in the table, and in the hands of a booking. -/
def Orders (r : Agenda × AgendaTask) : Prop := r.1.db.RealIntervals ∧ r.2.Ordered

theorem orders_reads {α : Type} {r : Outcome α} {next : α → AgendaTask} (hs : s.db.RealIntervals)
    (h : ∀ a, r = .ok a → (next a).Ordered) : Orders (reads s r next) := by
  cases r with
  | error e => exact ⟨hs, trivial⟩
  | ok a => exact ⟨hs, h a rfl⟩

theorem orders_commits {r : Outcome Db} {next : AgendaTask} (hs : s.db.RealIntervals)
    (h : ∀ db', r = .ok db' → db'.RealIntervals) (hnext : next.Ordered) :
    Orders (commits s r next) := by
  cases r with
  | error e => exact ⟨hs, trivial⟩
  | ok db' => exact ⟨h db' rfl, hnext⟩

theorem exec_orders (hs : s.db.RealIntervals) (ht : t.Ordered) (hsave : t.SavesInterval s.db) :
    Orders (t.exec s env) := by
  cases t with
  | create tenantId dto =>
    refine orders_reads hs fun entity h => ?_
    obtain ⟨rfl, hslot⟩ := checkNewSlot_ok h
    exact hslot
  | bookMechanic entity => exact orders_reads hs fun _ _ => ht
  | bookLift entity => exact orders_reads hs fun _ _ => ht
  | createPublic slug dto => exact orders_reads hs fun tenantId h => checkPublicSlot_ok h
  | readBays tenantId dto =>
    simp only [exec]
    split <;> exact ⟨hs, ht⟩
  | tryBays tenantId dto bays =>
    cases bays with
    | nil => exact ⟨hs, trivial⟩
    | cons bay rest =>
      simp only [exec]
      split_ifs
      · exact ⟨hs, ht⟩
      · exact ⟨hs, trivial⟩
      · exact ⟨hs, ht⟩
  | publicCustomer tenantId dto lift =>
    obtain ⟨customers, hcustomers⟩ :=
      findOrCreateCustomerForPublic_eq s.db tenantId dto.customerName dto.customerPhone
    refine ⟨?_, ht⟩
    simp only [exec]
    rw [hcustomers]
    exact hs
  | publicVehicle tenantId dto lift customerId =>
    simp only [exec]
    split
    · exact ⟨hs, trivial⟩
    · next hvehicle =>
      obtain ⟨vehicles, rfl⟩ := findOrCreateVehicleForPublic_ok hvehicle
      exact ⟨hs, ht⟩
  | checkParties entity =>
    refine orders_reads hs fun b h => ?_
    obtain ⟨serviceId, rfl⟩ := checkParties_ok h
    exact ht
  | lockSlot entity =>
    simp only [exec]
    split_ifs
    · exact ⟨hs, ht⟩
    · split
      · exact ⟨hs, trivial⟩
      · exact ⟨hs, ht⟩
  | insert entity => exact orders_commits hs (fun db' h => hs.insert ht h) trivial
  | write id old entity =>
    refine orders_commits hs (fun db' h => ?_) trivial
    have hok : (saveAppointment s.db id entity).isOk = true := Outcome.isOk_iff.mpr ⟨db', h⟩
    exact (hs.save_iff h).mpr (hsave hok)
  | work task => exact ⟨hs.workshopPart task env, trivial⟩
  | finished answer => exact ⟨hs, trivial⟩
  | _ => exact orders_reads hs fun _ _ => trivial

theorem exec_reversed (hs : s.db.RealIntervals) (hsave : ¬ t.SavesInterval s.db) :
    ¬ (t.exec s env).1.db.RealIntervals := by
  cases t with
  | write id old entity =>
    simp only [SavesInterval, Classical.not_imp] at hsave
    obtain ⟨hok, hslot⟩ := hsave
    obtain ⟨db', hdb⟩ := Outcome.isOk_iff.mp hok
    intro hafter
    simp only [exec, commits, hdb] at hafter
    exact hslot ((hs.save_iff hdb).mp hafter)
  | _ => exact absurd trivial hsave

end AgendaTask

theorem AgendaRequest.enter_ordered (r : AgendaRequest) : r.enter.Ordered := by
  cases r <;> trivial

def AgendaPool.Intervals (p : AgendaPool) : Prop :=
  Pool.Holds (fun s : Agenda => s.db.RealIntervals) (fun _ t => t.Ordered) p

/-- In every interleaving of bookings, rescheduling, status changes and workshop
requests, every appointment is an interval and keeps its start free of others, precisely
when every slot that is saved ends after it begins. -/
theorem appointments_intervals_iff (db : Db) (locks : List LockKey)
    (actions : List (PoolAction AgendaRequest WorkshopEnv)) (hdb : db.RealIntervals) :
    Always AgendaPool.act (fun p => p.shared.db.RealIntervals ∧ p.shared.db.StartsBlocked)
        (Pool.idle ⟨db, locks⟩) actions ↔
      EachStep AgendaPool.act AgendaPool.SavesInterval (Pool.idle ⟨db, locks⟩) actions := by
  have good : ∀ p : AgendaPool, p.Intervals →
      p.shared.db.RealIntervals ∧ p.shared.db.StartsBlocked :=
    fun p hp => ⟨hp.1, hp.1.startsBlocked⟩
  have keep : ∀ (p : AgendaPool) a, p.Intervals → p.SavesInterval a → (p.act a).Intervals := by
    intro p a hp ha
    cases a with
    | start r =>
      have hstart : AgendaPool.Intervals (AgendaPool.act p (.start r)) :=
        Pool.Holds.start hp r.enter_ordered
      exact hstart
    | step k env =>
      refine Pool.Holds.step hp fun t ht => ?_
      obtain ⟨hs, hnext⟩ : AgendaTask.Orders (t.exec p.shared env) :=
        AgendaTask.exec_orders hp.1 (hp.2 k t ht) (ha t ht)
      exact ⟨hs, hnext, fun u hu => hu⟩
  have bad : ∀ (p : AgendaPool) a, p.Intervals → ¬ p.SavesInterval a →
      ¬ ((p.act a).shared.db.RealIntervals ∧ (p.act a).shared.db.StartsBlocked) := by
    intro p a hp ha hafter
    cases a with
    | start r => exact ha trivial
    | step k env =>
      simp only [AgendaPool.SavesInterval, not_forall] at ha
      obtain ⟨t, ht, hsave⟩ := ha
      have hshared : (p.act (.step k env)).shared = (t.exec p.shared env).1 :=
        congrArg Pool.shared (Pool.act_step_some ht env)
      rw [hshared] at hafter
      exact AgendaTask.exec_reversed hp.1 hsave hafter.1
  have hstart : AgendaPool.Intervals (Pool.idle ⟨db, locks⟩) := Pool.holds_idle hdb
  exact always_iff_eachStep good keep bad hstart actions

end Requests

section Sample

instance (db : Db) : Decidable db.RealIntervals := by
  unfold Db.RealIntervals
  infer_instance

instance (db : Db) (t : AgendaTask) : Decidable (t.SavesInterval db) := by
  unfold AgendaTask.SavesInterval
  split <;> infer_instance

instance (p : AgendaPool) (a : PoolAction AgendaRequest WorkshopEnv) :
    Decidable (p.SavesInterval a) :=
  match a with
  | .start _ => .isTrue trivial
  | .step k _ => inferInstanceAs (Decidable (∀ t ∈ p.threads.get? k, t.SavesInterval p.shared.db))

theorem sample_intervals :
    Always AgendaPool.act (fun p => p.shared.db.RealIntervals ∧ p.shared.db.StartsBlocked) agenda
      contended :=
  (appointments_intervals_iff shopDb [] contended (by decide +kernel)).mpr (by decide +kernel)

/-- The morning's appointment is moved to begin and end at two o'clock. -/
def emptiedSlot : List (PoolAction AgendaRequest WorkshopEnv) :=
  .start (.rescheduleAppointment 0 0
    { slotDate := 0, slotStartTime := 50400000, slotEndTime := 50400000,
      assignedMechanicId := none, assignedLift := none }) :: List.replicate 5 (.step 0 shopEnv)

theorem empty_slot_stored :
    ¬ Always AgendaPool.act (fun p => p.shared.db.RealIntervals ∧ p.shared.db.StartsBlocked) agenda
      emptiedSlot := by
  intro h
  have hlast := h.last.1
  revert hlast
  decide +kernel

end Sample

end WorksAuto
