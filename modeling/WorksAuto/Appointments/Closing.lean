import WorksAuto.Appointments.Booking

/-! The end states of an appointment.
A closed appointment stays closed when nobody writes over its end: each writer
of the status is looked at with the state it finds, since none but the edits of
the entity look for themselves, and those look at what they have read. -/

namespace WorksAuto

open Lib

/-- Cancelled and completed appointments are so in the other database as well. -/
def Db.KeepsClosed (db db' : Db) : Prop :=
  ∀ k a, db.appointments.get? k = some a → a.status.isClosed = true →
    ∃ b, db'.appointments.get? k = some b ∧ b.status = a.status

theorem Db.KeepsClosed.refl (db : Db) : db.KeepsClosed db := fun _ a ha _ => ⟨a, ha, rfl⟩

theorem Db.KeepsClosed.trans {db₁ db₂ db₃ : Db} (h : db₁.KeepsClosed db₂)
    (h' : db₂.KeepsClosed db₃) : db₁.KeepsClosed db₃ := by
  intro k a ha hclosed
  obtain ⟨b, hb, hsame⟩ := h k a ha hclosed
  obtain ⟨c, hc, hsame'⟩ := h' k b hb (hsame ▸ hclosed)
  exact ⟨c, hc, hsame'.trans hsame⟩

/-- The status that an appointment of the table is left with, when it is closed. -/
def Db.Closed (db : Db) (id : Uuid) (P : AppointmentStatus → Prop) : Prop :=
  ∀ a, db.appointments.get? id = some a → a.status.isClosed = true → P a.status

/-- No order is opened for a closed appointment, no status of an order is passed on to
an appointment closed otherwise, and no cancellation comes after a completion. -/
def WorkshopTask.SparesClosed (db : Db) : WorkshopTask → Prop
  | .storeOrder _ input _ => ∀ id ∈ input.appointmentId, db.Closed id fun _ => False
  | .syncAppointment u => ∀ id ∈ u.order.appointmentId, ∀ st ∈ appointmentStatusFor u.target,
      db.Closed id fun closed => closed = st
  | .storeCancellation _ id _ => db.Closed id fun closed => closed ≠ .completed
  | _ => True

/-- A completed appointment is not approved, a closed one is not given another status,
and none is written over that was closed after it had been read. -/
def AgendaTask.SparesClosed (db : Db) : AgendaTask → Prop
  | .approve _ id => db.Closed id fun closed => closed ≠ .completed
  | .updateStatus _ id status _ => db.Closed id fun closed =>
      ∀ st, mapStatusToPrisma status = .ok st → st = closed
  | .write id old _ => db.Closed id fun closed => closed = old
  | .work task => task.SparesClosed db
  | _ => True

def AgendaPool.SparesClosed (p : AgendaPool) : PoolAction AgendaRequest WorkshopEnv → Prop
  | .start _ => True
  | .step k _ => ∀ t, p.threads.get? k = some t → t.SparesClosed p.shared.db

/-- What is saved for an appointment that was closed when it was read. -/
def AgendaTask.Faithful : AgendaTask → Prop
  | .save _ old entity | .write _ old entity => old.isClosed = true → entity.status = old
  | _ => True

section Writes

variable {db db' : Db}

theorem Db.KeepsClosed.of_same (h : db'.appointments = db.appointments) : db.KeepsClosed db' := by
  intro k a ha _
  exact ⟨a, h ▸ ha, rfl⟩

theorem Db.KeepsClosed.modifyIf {c : Uuid → Appointment → Bool} {f : Appointment → Appointment}
    (happ : db'.appointments = db.appointments.modifyIf c f)
    (h : ∀ k a, db.appointments.get? k = some a → c k a = true → a.status.isClosed = true →
      (f a).status = a.status) : db.KeepsClosed db' := by
  intro k a ha hclosed
  refine ⟨if c k a then f a else a, ?_, ?_⟩
  · rw [happ, Table.get?_modifyIf, ha, Option.map_some]
  · split_ifs with hc
    · exact h k a ha hc hclosed
    · rfl

theorem Db.KeepsClosed.modify {id : Uuid} {f : Appointment → Appointment}
    (happ : db'.appointments = db.appointments.modify id f)
    (h : ∀ a, db.appointments.get? id = some a → a.status.isClosed = true →
      (f a).status = a.status) : db.KeepsClosed db' := by
  refine .modifyIf happ fun k a ha hk hclosed => ?_
  obtain rfl : k = id := by simpa using hk
  exact h a ha hclosed

theorem OrderEffect.keepsClosed {env : WorkshopEnv} {t : WorkshopTask}
    (h : OrderEffect db env t db') (ht : t.SparesClosed db) : db.KeepsClosed db' := by
  cases h with
  | quiet _ happ => exact .of_same happ
  | retotalled _ happ => exact .of_same happ
  | statusWritten _ => exact .of_same rfl
  | rolledBack _ => exact .of_same rfl
  | issued h _ => exact .of_same h.appointments
  | voided h _ => exact .of_same h.appointments
  | @opened tenantId input woNumber db' h _ =>
    have happ := h.appointments
    rw [Db.admitted] at happ
    cases hid : input.appointmentId with
    | none =>
      rw [workOrderData, hid] at happ
      exact .of_same happ
    | some id =>
      rw [workOrderData, hid] at happ
      exact .modify happ fun a ha hclosed => (ht id hid a ha hclosed).elim
  | @synced u id st hlinked htarget =>
    refine .modifyIf (f := setAppointmentStatus st)
      (c := fun k a => k = id ∧ a.tenantId = u.tenantId) rfl fun k a ha hk hclosed => ?_
    obtain ⟨rfl, -⟩ : k = id ∧ a.tenantId = u.tenantId := by simpa using hk
    exact (ht k hlinked st htarget a ha hclosed).symm
  | withdrawn _ =>
    refine .modify rfl fun a ha hclosed => ?_
    have hopen := ht a ha hclosed
    cases hst : a.status <;> simp_all [AppointmentStatus.isClosed, Appointment.cancel]

theorem AgendaTask.workshopPart_keepsClosed {t : WorkshopTask} (env : WorkshopEnv)
    (ht : t.SparesClosed db) : db.KeepsClosed (workshopPart db t env).1 := by
  unfold workshopPart
  cases (t.exec db env).1.enforced with
  | ok _ => exact (t.exec_orders db env).keepsClosed ht
  | error e => cases t <;> exact .refl db

end Writes

section Exec

variable {s : Agenda} {env : WorkshopEnv} {t : AgendaTask}

/-- The outcome of a step: closed appointments as they were, and a faithful request. -/
def Agenda.Spares (s : Agenda) (r : Agenda × AgendaTask) : Prop :=
  s.db.KeepsClosed r.1.db ∧ r.2.Faithful

namespace AgendaTask

theorem spares_reads {α : Type} {r : Outcome α} {next : α → AgendaTask}
    (h : ∀ a, r = .ok a → (next a).Faithful) : s.Spares (reads s r next) := by
  cases r with
  | error e => exact ⟨.refl s.db, trivial⟩
  | ok a => exact ⟨.refl s.db, h a rfl⟩

theorem spares_commits {s' : Agenda} {r : Outcome Db} {next : AgendaTask} (hs : s'.db = s.db)
    (h : ∀ db', r = .ok db' → s.db.KeepsClosed db') (hnext : next.Faithful) :
    s.Spares (commits s' r next) := by
  cases r with
  | error e => exact ⟨.of_same (by rw [commits, hs]), trivial⟩
  | ok db' => exact ⟨h db' rfl, hnext⟩

theorem exec_spares (ht : t.Faithful) (hspares : t.SparesClosed s.db) :
    s.Spares (t.exec s env) := by
  cases t with
  | create tenantId dto => exact spares_reads fun _ _ => trivial
  | bookMechanic entity => exact spares_reads fun _ _ => trivial
  | bookLift entity => exact spares_reads fun _ _ => trivial
  | createPublic slug dto => exact spares_reads fun _ _ => trivial
  | readBays tenantId dto =>
    simp only [exec]
    split <;> exact ⟨.refl s.db, trivial⟩
  | tryBays tenantId dto bays =>
    cases bays with
    | nil => exact ⟨.refl s.db, trivial⟩
    | cons bay rest =>
      simp only [exec]
      split_ifs <;> exact ⟨.refl s.db, trivial⟩
  | publicCustomer tenantId dto lift =>
    obtain ⟨customers, hcustomers⟩ :=
      findOrCreateCustomerForPublic_eq s.db tenantId dto.customerName dto.customerPhone
    refine ⟨.of_same ?_, trivial⟩
    simp only [exec]
    rw [hcustomers]
  | publicVehicle tenantId dto lift customerId =>
    simp only [exec]
    split
    · exact ⟨.refl s.db, trivial⟩
    · next hvehicle =>
      obtain ⟨vehicles, rfl⟩ := findOrCreateVehicleForPublic_ok hvehicle
      exact ⟨.of_same rfl, trivial⟩
  | checkParties entity => exact spares_reads fun _ _ => trivial
  | lockSlot entity =>
    simp only [exec]
    split_ifs
    · exact ⟨.refl s.db, trivial⟩
    · split <;> exact ⟨.refl s.db, trivial⟩
  | insert entity =>
    refine spares_commits rfl (fun db' h => ?_) trivial
    obtain ⟨rfl, -⟩ := insertAppointment_ok h
    exact fun k a ha _ => ⟨a, Table.get?_insert_of_some ha _, rfl⟩
  | reschedule tenantId id dto => exact spares_reads fun _ _ => trivial
  | moveMechanic id app dto => exact spares_reads fun _ _ => trivial
  | moveLift id app dto =>
    refine spares_reads fun entity h => ?_
    obtain ⟨_, -, h⟩ := Outcome.bind_eq_ok.mp h
    obtain ⟨-, rfl⟩ := Appointment.reschedule_ok h
    exact fun _ => rfl
  | approve tenantId id =>
    refine spares_reads ?_
    rintro ⟨old, entity⟩ h
    obtain ⟨a, ha, -, rfl, he⟩ := Db.edited_ok h
    obtain ⟨hlive, -⟩ := Appointment.confirm_ok he
    intro hclosed
    have hopen := hspares a ha hclosed
    cases hst : a.status <;> simp_all [AppointmentStatus.isClosed]
  | updateStatus tenantId id status reason =>
    refine spares_reads ?_
    rintro ⟨old, entity⟩ h
    obtain ⟨a, ha, -, rfl, he⟩ := Db.edited_ok h
    obtain ⟨st, hst, rfl⟩ := Appointment.setStatus_ok he
    exact fun hclosed => hspares a ha hclosed st hst
  | markNoShow tenantId id =>
    refine spares_reads ?_
    rintro ⟨old, entity⟩ h
    obtain ⟨a, ha, -, rfl, he⟩ := Db.edited_ok h
    obtain ⟨hopen, -⟩ := Appointment.markNoShow_ok he
    intro hclosed
    rw [hopen] at hclosed
    cases hclosed
  | save id old entity =>
    refine spares_reads fun b h => ?_
    obtain ⟨serviceId, rfl⟩ := readForSave_ok h
    exact ht
  | write id old entity =>
    refine spares_commits rfl (fun db' h => ?_) trivial
    obtain ⟨rfl, -⟩ := saveAppointment_ok h
    refine .modify rfl fun a ha hclosed => ?_
    have hread := hspares a ha hclosed
    exact (ht (hread ▸ hclosed)).trans hread.symm
  | work task => exact ⟨workshopPart_keepsClosed env hspares, trivial⟩
  | finished answer => exact ⟨.refl s.db, trivial⟩

end AgendaTask

end Exec

section Runs

def AgendaPool.Faithful (p : AgendaPool) : Prop :=
  Pool.Holds (fun _ : Agenda => True) (fun _ t => t.Faithful) p

theorem AgendaRequest.enter_faithful (r : AgendaRequest) : r.enter.Faithful := by
  cases r <;> trivial

theorem AgendaPool.act_spares {p : AgendaPool} {a : PoolAction AgendaRequest WorkshopEnv}
    (h : p.Faithful) (ha : p.SparesClosed a) :
    (p.act a).Faithful ∧ p.shared.db.KeepsClosed (p.act a).shared.db := by
  constructor
  · cases a with
    | start r =>
      have hstart : Pool.Holds (fun _ : Agenda => True) (fun _ t => t.Faithful)
          (AgendaPool.act p (.start r)) := Pool.Holds.start h r.enter_faithful
      exact hstart
    | step k env =>
      refine Pool.Holds.step h fun t ht => ?_
      exact ⟨trivial, (AgendaTask.exec_spares (h.2 k t ht) (ha t ht)).2, fun u hu => hu⟩
  · rcases Pool.shared_act AgendaRequest.enter AgendaTask.exec p a with
      hsame | ⟨k, env, t, rfl, hk, hshared⟩
    · rw [AgendaPool.act, hsame]
      exact .refl _
    · rw [AgendaPool.act, hshared]
      exact (AgendaTask.exec_spares (h.2 k t hk) (ha t hk)).1

/-- A cancelled or completed appointment stays so in every interleaving in which no
writer of its status is given one that was closed in its way. -/
theorem closed_appointments_stay_closed (db : Db) (locks : List LockKey)
    (actions : List (PoolAction AgendaRequest WorkshopEnv))
    (h : EachStep AgendaPool.act AgendaPool.SparesClosed (Pool.idle ⟨db, locks⟩) actions) :
    Lasting AgendaPool.act (fun p q => p.shared.db.KeepsClosed q.shared.db)
      (Pool.idle ⟨db, locks⟩) actions := by
  have hstart : AgendaPool.Faithful (Pool.idle ⟨db, locks⟩) := Pool.holds_idle trivial
  refine lasting_of_step (I := AgendaPool.Faithful)
    (R := fun p q : AgendaPool => p.shared.db.KeepsClosed q.shared.db) (fun p => .refl _)
    (fun _ _ _ => Db.KeepsClosed.trans) ?_ ?_ hstart h
  · exact fun p a hp ha => (AgendaPool.act_spares hp ha).1
  · exact fun p a hp ha => (AgendaPool.act_spares hp ha).2

end Runs

section Sample

instance (db : Db) (id : Uuid) (P : AppointmentStatus → Prop) [DecidablePred P] :
    Decidable (db.Closed id P) :=
  decidable_of_iff (∀ a ∈ db.appointments.get? id, a.status.isClosed = true → P a.status) Iff.rfl

instance (db : Db) (t : WorkshopTask) : Decidable (t.SparesClosed db) := by
  induction t using WorkshopTask.casesOn <;> unfold WorkshopTask.SparesClosed <;> infer_instance

instance (x : Outcome AppointmentStatus) (closed : AppointmentStatus) :
    Decidable (∀ st, x = .ok st → st = closed) :=
  match x with
  | .ok st => decidable_of_iff (st = closed) ⟨fun h _ he => by cases he; exact h, fun h => h st rfl⟩
  | .error _ => .isTrue nofun

instance (db : Db) (t : AgendaTask) : Decidable (t.SparesClosed db) := by
  induction t using AgendaTask.casesOn <;> unfold AgendaTask.SparesClosed <;> infer_instance

instance (p : AgendaPool) (a : PoolAction AgendaRequest WorkshopEnv) :
    Decidable (p.SparesClosed a) :=
  match a with
  | .start _ => .isTrue trivial
  | .step k _ => inferInstanceAs (Decidable (∀ t ∈ p.threads.get? k, t.SparesClosed p.shared.db))

def complete : List (PoolAction AgendaRequest WorkshopEnv) :=
  [.start (.updateStatus 0 0 (some "COMPLETED") none)] ++ List.replicate 3 (.step 0 shopEnv)

/-- Afterwards a cancellation, a no-show and another hour are asked for. -/
def refusedChanges : List (PoolAction AgendaRequest WorkshopEnv) :=
  [.start (.workshop (.cancelAppointment 0 0 "OTHER")), .start (.markNoShow 0 0),
    .start (.rescheduleAppointment 0 0
      { slotDate := 0, slotStartTime := 50400000, slotEndTime := 54000000,
        assignedMechanicId := none, assignedLift := none }),
    .step 1 shopEnv, .step 2 shopEnv, .step 3 shopEnv, .step 1 shopEnv]

theorem sample_closed_stays :
    Lasting AgendaPool.act (fun p q => p.shared.db.KeepsClosed q.shared.db) agenda
      (complete ++ refusedChanges) := by
  apply closed_appointments_stay_closed shopDb [] (complete ++ refusedChanges)
  decide +kernel

def approveAgain : List (PoolAction AgendaRequest WorkshopEnv) :=
  [.start (.approve 0 0)] ++ List.replicate 3 (.step 1 shopEnv)

theorem completed_appointment_reopens :
    ¬ Lasting AgendaPool.act (fun p q => p.shared.db.KeepsClosed q.shared.db) agenda
      (complete ++ approveAgain) := by
  intro h
  have hcompleted : ((run AgendaPool.act agenda complete).shared.db.appointments.get? 0) =
      some { shopAppointment with status := .completed } := by decide +kernel
  have hconfirmed : ((run AgendaPool.act (run AgendaPool.act agenda complete)
      approveAgain).shared.db.appointments.get? 0) = some shopAppointment := by decide +kernel
  have hkept := h complete approveAgain [] (by rw [List.append_nil])
  obtain ⟨b, hb, hsame⟩ := hkept 0 _ hcompleted rfl
  rw [hconfirmed] at hb
  cases hb
  exact absurd hsame (by decide)

end Sample

end WorksAuto
