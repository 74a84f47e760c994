import WorksAuto.Appointments.Booking

/-! The online booking, with what it leaves behind when it fails.
The customer and the vehicle are found, created or brought back in statements of their
own, before the appointment is stored. What the other requests do in between is left open:
each part of a booking finds the database in any state. -/

namespace WorksAuto

open Lib

/-- The body of a request, with its times as texts. A service that is no id is dropped, as
a missing one is. -/
structure PublicAppointmentBody where
  customerName : String
  customerPhone : String
  plate : String
  serviceId : Option Uuid
  slotDate : String
  slotStartTime : String
  slotEndTime : String
  customerNotes : Option String
  deriving DecidableEq, Repr

/-- The surroundings of a part, which may refuse its statements. -/
structure PublicEnv extends WorkshopEnv where
  refusal : Option ApiError

structure PublicCall where
  task : AgendaTask
  dateValid : Bool

/-- The start and the end of a slot; without one of them, a slot that ends where it starts
is refused in the same words. -/
def PublicAppointmentBody.slot (dateOf : String → Option Instant) (body : PublicAppointmentBody) :
    Instant × Instant :=
  match dateOf body.slotStartTime, dateOf body.slotEndTime with
  | some start, some finish => (start, finish)
  | _, _ => (0, 0)

def PublicAppointmentBody.input (dateOf : String → Option Instant) (body : PublicAppointmentBody) :
    CreatePublicAppointmentInput where
  customerName := body.customerName
  customerPhone := body.customerPhone
  plate := body.plate
  serviceId := body.serviceId
  slotDate := (dateOf body.slotDate).getD 0
  slotStartTime := (body.slot dateOf).1
  slotEndTime := (body.slot dateOf).2
  customerNotes := body.customerNotes

/-- `dateOf` is `new Date(text)`, where it names a time. -/
def PublicAppointmentBody.enter (dateOf : String → Option Instant) (slug : String)
    (body : PublicAppointmentBody) : PublicCall where
  task := .createPublic slug (body.input dateOf)
  dateValid := (dateOf body.slotDate).isSome

namespace PublicCall

def invalidDate : ApiError := .plain "Invalid value for argument slotDate: Provided Date object is invalid."

def refusal? (c : PublicCall) (env : PublicEnv) : Option ApiError :=
  match c.task with
  | .finished _ => none
  | .insert _ => env.refusal.or (if c.dateValid then none else some invalidDate)
  | _ => env.refusal

def unlock (c : PublicCall) (s : Agenda) : Agenda :=
  match c.task with
  | .insert entity => { s with locks := s.locks.erase entity.lockKey }
  | _ => s

def exec (s : Agenda) (c : PublicCall) (env : PublicEnv) : Agenda × PublicCall :=
  match c.refusal? env with
  | some e => (c.unlock s, { c with task := .finished (.error e) })
  | none =>
    let (s', task) := c.task.exec s env.toWorkshopEnv
    (s', { c with task })

def next (c : PublicCall) (l : Agenda × PublicEnv) : PublicCall := (c.exec l.1 l.2).2

end PublicCall

section Lookups

def publicCustomer? (db : Db) (tenantId : Uuid) (phone : String) : Option (Uuid × Customer) :=
  db.customers.find? fun c => c.tenantId = tenantId ∧ c.phone = jsTrim phone

def publicVehicle? (toUpperCase : String → String) (db : Db) (tenantId : Uuid) (plate : String) :
    Option (Uuid × Vehicle) :=
  db.vehicles.find? fun v => v.tenantId = tenantId ∧
    v.plate = String.ofList ((toUpperCase plate).toList.filter fun c => !isJsSpace c)

structure Db.SameRows (db db' : Db) : Prop where
  customers : db'.customers = db.customers
  vehicles : db'.vehicles = db.vehicles
  appointments : db'.appointments = db.appointments

/-- Where the part looks for the customer, or for the customer's vehicle, there is one that
is not deleted. -/
def PublicCall.FindsLive (c : PublicCall) (l : Agenda × PublicEnv) : Prop :=
  c.refusal? l.2 = none →
    match c.task with
    | .publicCustomer tenantId dto _ =>
      ∃ q ∈ publicCustomer? l.1.db tenantId dto.customerPhone, q.2.deletedAt = none
    | .publicVehicle tenantId dto _ customerId =>
      ∃ q ∈ publicVehicle? l.2.toUpperCase l.1.db tenantId dto.plate,
        q.2.customerId = customerId → q.2.deletedAt = none
    | _ => True

def PublicCall.LeavesNoTrace (c : PublicCall) (l : Agenda × PublicEnv) : Prop :=
  l.1.db.SameRows (c.exec l.1 l.2).1.db

end Lookups

section Tables

variable {ρ : Type}

theorem insert_ne_self (t : Table ρ) (r : ρ) : t.insert r ≠ t := by
  intro h
  have hnext : t.next + 1 = t.next := congrArg Table.next h
  omega

theorem modify_eq_self_iff {t : Table ρ} {k : ℕ} {r : ρ} {f : ρ → ρ} (h : t.get? k = some r) :
    t.modify k f = t ↔ f r = r := by
  constructor
  · intro he
    have hget := Table.get?_modify_self h f
    rw [he, h] at hget
    exact (Option.some.inj hget).symm
  · intro hf
    refine Table.modifyIf_eq_self fun i s hs hi => ?_
    rw [beq_iff_eq] at hi
    obtain rfl : r = s := Option.some.inj (h.symm.trans (hi ▸ hs))
    exact hf

theorem customer_revived_iff (c : Customer) :
    ({ c with deletedAt := none } : Customer) = c ↔ c.deletedAt = none := by
  constructor
  · intro h
    rw [← h]
  · intro h
    rw [← h]

theorem vehicle_revived_iff (v : Vehicle) :
    ({ v with deletedAt := none } : Vehicle) = v ↔ v.deletedAt = none := by
  constructor
  · intro h
    rw [← h]
  · intro h
    rw [← h]

end Tables

section Step

variable {db : Db} {tenantId : Uuid}

theorem customer_same_iff (name phone : String) :
    (findOrCreateCustomerForPublic db tenantId name phone).1.customers = db.customers ↔
      ∃ q ∈ publicCustomer? db tenantId phone, q.2.deletedAt = none := by
  unfold findOrCreateCustomerForPublic
  cases hfound : publicCustomer? db tenantId phone with
  | none =>
    have hsearch : (db.customers.find? fun c => c.tenantId = tenantId ∧ c.phone = jsTrim phone) =
        none := hfound
    simp only [hsearch]
    refine iff_of_false (insert_ne_self _ _) ?_
    rintro ⟨q, hq, -⟩
    cases hq
  | some q =>
    have hsearch : (db.customers.find? fun c => c.tenantId = tenantId ∧ c.phone = jsTrim phone) =
        some q := hfound
    simp only [hsearch]
    rw [modify_eq_self_iff (Table.find?_some (k := q.1) hsearch).1, customer_revived_iff]
    simp

theorem publicVehicle_same_iff {s : Agenda} {dto : CreatePublicAppointmentInput} {lift : String}
    {customerId : Uuid} (env : WorkshopEnv) :
    s.db.SameRows ((AgendaTask.publicVehicle tenantId dto lift customerId).exec s env).1.db ↔
      ∃ q ∈ publicVehicle? env.toUpperCase s.db tenantId dto.plate,
        q.2.customerId = customerId → q.2.deletedAt = none := by
  cases hfound : publicVehicle? env.toUpperCase s.db tenantId dto.plate with
  | none =>
    have hsearch : (s.db.vehicles.find? fun v => v.tenantId = tenantId ∧ v.plate =
        String.ofList ((env.toUpperCase dto.plate).toList.filter fun c => !isJsSpace c)) = none :=
      hfound
    refine iff_of_false (fun hsame => ?_) ?_
    · have hvehicles := hsame.vehicles
      simp only [AgendaTask.exec, findOrCreateVehicleForPublic, hsearch] at hvehicles
      exact insert_ne_self _ _ hvehicles
    · rintro ⟨q, hq, -⟩
      cases hq
  | some q =>
    obtain ⟨id, vehicle⟩ := q
    have hsearch : (s.db.vehicles.find? fun v => v.tenantId = tenantId ∧ v.plate =
        String.ofList ((env.toUpperCase dto.plate).toList.filter fun c => !isJsSpace c)) =
          some (id, vehicle) := hfound
    have hrow := (Table.find?_some hsearch).1
    by_cases howner : vehicle.customerId = customerId
    · have hown : decide (vehicle.customerId ≠ customerId) = false := decide_eq_false (not_not.mpr howner)
      have hexec : ((AgendaTask.publicVehicle tenantId dto lift customerId).exec s env).1.db =
          { s.db with vehicles := s.db.vehicles.modify id fun v => { v with deletedAt := none } } := by
        simp only [AgendaTask.exec, findOrCreateVehicleForPublic, hsearch, hown]
        rfl
      rw [hexec]
      have hlive : (∃ q ∈ some (id, vehicle), q.2.customerId = customerId → q.2.deletedAt = none) ↔
          vehicle.deletedAt = none := by simp [howner]
      rw [hlive, ← vehicle_revived_iff]
      refine Iff.trans ?_ (modify_eq_self_iff (f := fun v => { v with deletedAt := none }) hrow)
      exact ⟨fun hsame => hsame.vehicles, fun hvehicles => ⟨rfl, hvehicles, rfl⟩⟩
    · have hforeign : decide (vehicle.customerId ≠ customerId) = true := decide_eq_true howner
      have hexec : ((AgendaTask.publicVehicle tenantId dto lift customerId).exec s env).1.db = s.db := by
        simp only [AgendaTask.exec, findOrCreateVehicleForPublic, hsearch, hforeign]
        rfl
      rw [hexec]
      refine iff_of_true ⟨rfl, rfl, rfl⟩ ⟨(id, vehicle), rfl, fun h => absurd h howner⟩

def AgendaTask.isPublic : AgendaTask → Bool
  | .createPublic _ _ | .readBays _ _ | .tryBays _ _ _ | .publicCustomer _ _ _
  | .publicVehicle _ _ _ _ | .checkParties _ | .lockSlot _ | .insert _ | .finished _ => true
  | _ => false

theorem AgendaTask.isPublic_reads {α : Type} {s : Agenda} {r : Outcome α} {next : α → AgendaTask}
    (h : ∀ a, (next a).isPublic = true) : (AgendaTask.reads s r next).2.isPublic = true := by
  cases r with
  | error e => rfl
  | ok a => exact h a

theorem AgendaTask.exec_isPublic {t : AgendaTask} (h : t.isPublic = true) (s : Agenda)
    (env : WorkshopEnv) : (t.exec s env).2.isPublic = true := by
  cases t with
  | createPublic slug dto => exact isPublic_reads fun _ => rfl
  | readBays tenantId dto =>
    simp only [exec]
    split <;> rfl
  | tryBays tenantId dto bays =>
    simp only [exec]
    split
    · rfl
    · split_ifs <;> rfl
  | publicCustomer tenantId dto lift => rfl
  | publicVehicle tenantId dto lift customerId =>
    simp only [exec]
    split <;> rfl
  | checkParties entity => exact isPublic_reads fun _ => rfl
  | lockSlot entity =>
    simp only [exec]
    split_ifs
    · rfl
    · split <;> rfl
  | insert entity =>
    simp only [exec, commits]
    split <;> rfl
  | finished answer => rfl
  | _ => cases h

def PublicCall.booked (c : PublicCall) : Prop := c.task = .finished (.ok ())

theorem PublicCall.leavesNoTrace_iff {c : PublicCall} {l : Agenda × PublicEnv}
    (h : c.task.isPublic = true) (hnot : ¬ (c.next l).booked) :
    c.LeavesNoTrace l ↔ c.FindsLive l := by
  obtain ⟨s, env⟩ := l
  unfold LeavesNoTrace FindsLive
  cases hrefusal : c.refusal? env with
  | some e =>
    have hexec : (c.exec s env).1 = c.unlock s := by
      rw [exec, hrefusal]
    refine iff_of_true ?_ fun hnone => by cases hnone
    rw [hexec, unlock]
    split <;> exact ⟨rfl, rfl, rfl⟩
  | none =>
    have hexec : (c.exec s env).1 = (c.task.exec s env.toWorkshopEnv).1 := by
      rw [exec, hrefusal]
    have hnext : (c.next (s, env)).task = (c.task.exec s env.toWorkshopEnv).2 := by
      rw [next, exec, hrefusal]
    rw [hexec]
    rw [booked, hnext] at hnot
    simp only [forall_const]
    cases ht : c.task with
    | publicCustomer tenantId dto lift =>
      change _ ↔ ∃ q ∈ publicCustomer? s.db tenantId dto.customerPhone, q.2.deletedAt = none
      rw [← customer_same_iff dto.customerName]
      obtain ⟨customers, hdb⟩ := findOrCreateCustomerForPublic_eq s.db tenantId dto.customerName
        dto.customerPhone
      constructor
      · exact fun hsame => hsame.customers
      · intro hcustomers
        refine ⟨hcustomers, ?_, ?_⟩
        · simp only [AgendaTask.exec, hdb]
        · simp only [AgendaTask.exec, hdb]
    | publicVehicle tenantId dto lift customerId => exact publicVehicle_same_iff _
    | insert entity =>
      refine iff_of_true ?_ trivial
      rw [ht] at hnot
      simp only [AgendaTask.exec, AgendaTask.commits] at hnot ⊢
      cases hinsert : insertAppointment s.db entity with
      | error e => exact ⟨rfl, rfl, rfl⟩
      | ok db =>
        rw [hinsert] at hnot
        exact absurd rfl hnot
    | createPublic slug dto =>
      refine iff_of_true ?_ trivial
      simp only [AgendaTask.exec, AgendaTask.reads]
      split <;> exact ⟨rfl, rfl, rfl⟩
    | readBays tenantId dto =>
      refine iff_of_true ?_ trivial
      simp only [AgendaTask.exec]
      split <;> exact ⟨rfl, rfl, rfl⟩
    | tryBays tenantId dto bays =>
      refine iff_of_true ?_ trivial
      simp only [AgendaTask.exec]
      split
      · exact ⟨rfl, rfl, rfl⟩
      · split_ifs <;> exact ⟨rfl, rfl, rfl⟩
    | checkParties entity =>
      refine iff_of_true ?_ trivial
      simp only [AgendaTask.exec, AgendaTask.reads]
      split <;> exact ⟨rfl, rfl, rfl⟩
    | lockSlot entity =>
      refine iff_of_true ?_ trivial
      simp only [AgendaTask.exec]
      split_ifs
      · exact ⟨rfl, rfl, rfl⟩
      · split <;> exact ⟨rfl, rfl, rfl⟩
    | finished answer => exact iff_of_true ⟨rfl, rfl, rfl⟩ trivial
    | _ =>
      rw [ht] at h
      cases h

end Step

section Run

variable {c : PublicCall} {parts : List (Agenda × PublicEnv)}

theorem PublicCall.next_isPublic (h : c.task.isPublic = true) (l : Agenda × PublicEnv) :
    (c.next l).task.isPublic = true := by
  rw [next, exec]
  cases c.refusal? l.2 with
  | some e => rfl
  | none => exact AgendaTask.exec_isPublic h l.1 _

theorem PublicCall.booked_run (h : c.booked) : (run next c parts).booked := by
  induction parts generalizing c with
  | nil => exact h
  | cons l parts ih =>
    refine ih ?_
    have hnone : c.refusal? l.2 = none := by
      rw [refusal?, h]
    rw [booked, next, exec, hnone, h]
    rfl

/-- A booking that fails leaves no trace precisely when, as far as it gets, it finds its
customer and the customer's vehicle, and neither of them deleted. -/
theorem publicBooking_noTrace_iff (dateOf : String → Option Instant) (slug : String)
    (body : PublicAppointmentBody) {parts : List (Agenda × PublicEnv)} {e : ApiError}
    (hfails : (run PublicCall.next (body.enter dateOf slug) parts).task = .finished (.error e)) :
    EachStep PublicCall.next PublicCall.LeavesNoTrace (body.enter dateOf slug) parts ↔
      EachStep PublicCall.next PublicCall.FindsLive (body.enter dateOf slug) parts := by
  have hkeep : ∀ (c : PublicCall) (l : Agenda × PublicEnv), c.task.isPublic = true →
      (c.next l).task.isPublic = true := fun _ l h => PublicCall.next_isPublic h l
  have hpublic : Always PublicCall.next (fun c => c.task.isPublic = true) (body.enter dateOf slug)
      parts := always_of_invariant hkeep rfl parts
  have hstep : ∀ before l after, parts = before ++ l :: after →
      ((run PublicCall.next (body.enter dateOf slug) before).LeavesNoTrace l ↔
        (run PublicCall.next (body.enter dateOf slug) before).FindsLive l) := by
    rintro before l after rfl
    refine PublicCall.leavesNoTrace_iff (hpublic before ⟨l :: after, rfl⟩) fun hbooked => ?_
    have hend : (run PublicCall.next (body.enter dateOf slug) (before ++ l :: after)).booked := by
      rw [run_append, run_cons]
      exact PublicCall.booked_run hbooked
    rw [PublicCall.booked, hfails] at hend
    cases hend
  constructor
  · exact fun h before l after he => (hstep before l after he).mp (h before l after he)
  · exact fun h before l after he => (hstep before l after he).mpr (h before l after he)

end Run

section Sample

def sampleBody (customerPhone slotDate : String) : PublicAppointmentBody where
  customerName := "Mehmet Kaya"
  customerPhone
  plate := "34ABC123"
  serviceId := none
  slotDate
  slotStartTime := "1970-01-01T14:00:00.000Z"
  slotEndTime := "1970-01-01T15:00:00.000Z"
  customerNotes := none

/-- The times of the booking; its date is read where it names one. -/
def sampleDates (text : String) : Option Instant :=
  if text = "1970-01-01T14:00:00.000Z" then some 50400000
  else if text = "1970-01-01T15:00:00.000Z" then some 54000000
  else if text = "1970-01-01" then some 0
  else none

def samplePart (db : Db) : Agenda × PublicEnv :=
  ({ db, locks := [] }, { shopEnv with refusal := none })

/-- The database after the customer of a booking has been created. -/
def newcomerDb : Db := (findOrCreateCustomerForPublic shopDb 0 "Mehmet Kaya" "05441234567").1

def AgendaTask.error? : AgendaTask → Option ApiError
  | .finished (.error e) => some e
  | _ => none

theorem AgendaTask.of_error? {t : AgendaTask} {e : ApiError} (h : t.error? = some e) :
    t = .finished (.error e) := by
  unfold error? at h
  split at h
  · rw [Option.some.inj h]
  · cases h

/-- The day of the slot is no date, but the customer and the vehicle are there. -/
theorem noTrace_ofKnownCustomer :
    EachStep PublicCall.next PublicCall.LeavesNoTrace
        ((sampleBody shopCustomer.phone "tomorrow").enter sampleDates "servis")
        (List.replicate 8 (samplePart shopDb)) ↔
      EachStep PublicCall.next PublicCall.FindsLive
        ((sampleBody shopCustomer.phone "tomorrow").enter sampleDates "servis")
        (List.replicate 8 (samplePart shopDb)) :=
  publicBooking_noTrace_iff sampleDates "servis" (sampleBody shopCustomer.phone "tomorrow")
    (AgendaTask.of_error? (e := PublicCall.invalidDate) (by decide +kernel))

/-- The plate is another customer's; a new customer stays behind. -/
theorem refused_booking_leaves_customer :
    (run PublicCall.next ((sampleBody "05441234567" "1970-01-01").enter sampleDates "servis")
        (List.replicate 4 (samplePart shopDb) ++ [samplePart newcomerDb])).task.error?.isSome = true ∧
      ¬ EachStep PublicCall.next PublicCall.LeavesNoTrace
        ((sampleBody "05441234567" "1970-01-01").enter sampleDates "servis")
        (List.replicate 4 (samplePart shopDb) ++ [samplePart newcomerDb]) := by
  refine ⟨by decide +kernel, fun h => ?_⟩
  have hsame := (h (List.replicate 3 (samplePart shopDb)) (samplePart shopDb) [samplePart newcomerDb]
    rfl).customers
  have htwo : ((run PublicCall.next
      ((sampleBody "05441234567" "1970-01-01").enter sampleDates "servis")
        (List.replicate 3 (samplePart shopDb))).exec (samplePart shopDb).1
          (samplePart shopDb).2).1.db.customers.next = 2 := by
    decide +kernel
  rw [hsame] at htwo
  cases htwo

end Sample

end WorksAuto
