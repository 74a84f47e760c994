import WorksAuto.Appointments.Entity

/-! The appointment repository and the two exclusion constraints of its table.
The conflict checks are reads; what keeps concurrent clients apart is that a
write fails when the table it leaves behind breaks a constraint. The check of a
lift trims its name, the constraint and the stored value do not. -/

namespace WorksAuto

open Lib

/-- `status NOT IN ('CANCELLED', 'NO_SHOW')`. -/
def Appointment.occupies (a : Appointment) : Bool := a.status ≠ .cancelled ∧ a.status ≠ .noShow

section Constraints

/-- `tstzrange(slot_start_time, slot_end_time) WITH &&`; an empty range meets none. -/
def Appointment.rangesMeet (a b : Appointment) : Prop :=
  a.slotStartTime < a.slotEndTime ∧ b.slotStartTime < b.slotEndTime ∧
    a.slotStartTime < b.slotEndTime ∧ b.slotStartTime < a.slotEndTime

instance (a b : Appointment) : Decidable (a.rangesMeet b) :=
  inferInstanceAs (Decidable (_ ∧ _))

def Db.RangesValid (db : Db) : Prop :=
  ∀ i a, db.appointments.get? i = some a → a.occupies = true →
    (a.assignedMechanicId.isSome = true ∨ a.assignedLift.isSome = true) →
      a.slotStartTime ≤ a.slotEndTime

/-- An exclusion constraint on a column of the constrained rows of one tenant. -/
def Db.Excludes {α : Type} (db : Db) (column : Appointment → Option α) : Prop :=
  ∀ i a, db.appointments.get? i = some a → ∀ j b, db.appointments.get? j = some b → i ≠ j →
    a.occupies = true → b.occupies = true → a.tenantId = b.tenantId →
      (column a).isSome = true → column a = column b → ¬ a.rangesMeet b

instance (db : Db) : Decidable db.RangesValid := by
  unfold Db.RangesValid
  infer_instance

instance {α : Type} [DecidableEq α] (db : Db) (column : Appointment → Option α) :
    Decidable (db.Excludes column) := by
  unfold Db.Excludes
  infer_instance

def mechanicConflict : ApiError :=
  .conflict "Seçilen teknisyenin bu saat aralığında başka bir randevusu bulunmaktadır."

/-- A statement that writes appointments, with `no_overlapping_mechanic` and
`no_overlapping_lift` enforced. -/
def Db.enforced (db : Db) : Outcome Db := do
  Outcome.reject (decide (¬ db.RangesValid)) (.database "22000")
  Outcome.reject (decide (¬ db.Excludes Appointment.assignedMechanicId)) mechanicConflict
  Outcome.reject (decide (¬ db.Excludes Appointment.assignedLift))
    (.conflict "Seçilen lift için bu saat aralığında başka bir randevu bulunmaktadır.")
  pure db

theorem Db.enforced_ok {db db' : Db} (h : db.enforced = .ok db') :
    db' = db ∧ db.RangesValid ∧ db.Excludes Appointment.assignedMechanicId ∧
      db.Excludes Appointment.assignedLift := by
  obtain ⟨_, hranges, h⟩ := Outcome.bind_eq_ok.mp h
  obtain ⟨_, hmechanic, h⟩ := Outcome.bind_eq_ok.mp h
  obtain ⟨_, hlift, h⟩ := Outcome.bind_eq_ok.mp h
  simp only [Outcome.reject_eq_ok, decide_eq_false_iff_not, not_not] at hranges hmechanic hlift
  exact ⟨(Outcome.pure_eq_ok.mp h).symm, hranges, hmechanic, hlift⟩

end Constraints

section Checks

/-- `slotStartTime: { lt: end }, slotEndTime: { gt: start }` on the rows of a tenant
that occupy their slot. -/
def Appointment.inTheWay (tenantId : Uuid) (slotStart slotEnd : Instant) (a : Appointment) : Bool :=
  a.tenantId = tenantId ∧ a.occupies ∧ a.slotStartTime < slotEnd ∧ slotStart < a.slotEndTime

def checkMechanicConflict (db : Db) (tenantId mechanicId : Uuid) (slotStart slotEnd : Instant)
    (excludeId : Option Uuid) : Bool :=
  (db.appointments.filter fun a =>
    a.assignedMechanicId = some mechanicId ∧ a.inTheWay tenantId slotStart slotEnd).any
      fun row => some row.1 ≠ excludeId

def checkLiftConflict (db : Db) (tenantId : Uuid) (lift : String) (slotStart slotEnd : Instant)
    (excludeId : Option Uuid) : Bool :=
  if jsTrim lift = "" then false
  else
    (db.appointments.filter fun a =>
      a.assignedLift = some (jsTrim lift) ∧ a.inTheWay tenantId slotStart slotEnd).any
        fun row => some row.1 ≠ excludeId

def checkMechanicOnLeave (db : Db) (tenantId mechanicId : Uuid) (date : Instant) : Bool :=
  match (db.mechanics.get? mechanicId).filter fun m => m.tenantId = tenantId with
  | none => false
  | some mechanic =>
    let targetDay := date / 86400000 * 86400000
    (db.staffLeaves.find? fun l =>
      l.tenantId = tenantId ∧ l.userId = mechanic.userId ∧ l.status ≠ .cancelled ∧
        l.startDate ≤ targetDay ∧ targetDay ≤ l.endDate).isSome

end Checks

section Create

def Db.liveVehicle? (db : Db) (tenantId id : Uuid) : Option Vehicle :=
  (db.vehicles.get? id).filter fun v => v.tenantId = tenantId ∧ v.deletedAt = none

def Db.validServiceId (db : Db) (tenantId : Uuid) (serviceId : Option Uuid) : Option Uuid :=
  serviceId.filter fun id => (db.services.get? id).any fun s => s.tenantId = tenantId

/-- The lookups of `create`: what the appointment names belongs to the tenant. -/
def checkParties (db : Db) (appointment : Appointment) : Outcome Appointment := do
  let t := appointment.tenantId
  let _ ← Outcome.required (db.liveCustomer? t appointment.customerId)
    (.badRequest "Müşteri bulunamadı veya bu işletmeye ait değil.")
  let vehicle ← Outcome.required (db.liveVehicle? t appointment.vehicleId)
    (.badRequest "Araç bulunamadı veya bu işletmeye ait değil.")
  Outcome.reject (vehicle.customerId ≠ appointment.customerId)
    (.badRequest "Seçilen araç belirtilen müşteriye ait değil.")
  Outcome.reject
    (appointment.assignedMechanicId.any fun id =>
      !(db.mechanics.get? id).any fun m => m.tenantId = t)
    (.badRequest "Atanan teknisyen bu işletmeye ait değil.")
  pure { appointment with serviceId := db.validServiceId t appointment.serviceId }

/-- The tenant, resource and start time that an advisory lock is taken on. -/
structure LockKey where
  tenantId : Uuid
  resource : String
  slotStartTime : Instant
  deriving DecidableEq, Repr

def Appointment.lockKey (a : Appointment) : LockKey where
  tenantId := a.tenantId
  resource := (firstText [a.assignedLift, a.assignedMechanicId.map Nat.repr]).getD "slot"
  slotStartTime := a.slotStartTime

def liftConflict (lift : String) : ApiError :=
  .conflict ("\"" ++ lift ++ "\" için bu saat aralığında başka bir randevu bulunmaktadır.")

/-- The checks made again under the lock; this one takes the lift's name as it is. -/
def recheck (db : Db) (a : Appointment) : Outcome Unit := do
  let occupied (p : Appointment → Bool) : Bool :=
    (db.appointments.find? fun b =>
      p b && b.inTheWay a.tenantId a.slotStartTime a.slotEndTime).isSome
  Outcome.reject
    (a.assignedMechanicId.isSome && occupied fun b => b.assignedMechanicId = a.assignedMechanicId)
    mechanicConflict
  match firstText [a.assignedLift] with
  | none => pure ()
  | some lift => Outcome.reject (occupied fun b => b.assignedLift = some lift) (liftConflict lift)

/-- `assignedLift || null`, and the same for the notes. -/
def Appointment.row (a : Appointment) : Appointment :=
  { a with
    assignedLift := firstText [a.assignedLift]
    customerNotes := firstText [a.customerNotes] }

def insertAppointment (db : Db) (a : Appointment) : Outcome Db :=
  { db with appointments := db.appointments.insert a.row }.enforced

end Create

section Save

/-- The reads of `save`: the row, and the service that goes with it. -/
def readForSave (db : Db) (id : Uuid) (appointment : Appointment) : Outcome Appointment := do
  let existing ← Outcome.required (db.appointment? appointment.tenantId id)
    (.badRequest "Randevu bulunamadı veya bu işletmeye ait değil.")
  let serviceId :=
    if appointment.serviceId.isSome then
      db.validServiceId appointment.tenantId appointment.serviceId
    else existing.serviceId
  pure { appointment with serviceId }

/-- The columns that `save` writes, over a row that may have changed since the
entity was read. Missing notes and reasons leave theirs alone. -/
def Appointment.overwrite (entity row : Appointment) : Appointment :=
  { row with
    slotDate := entity.slotDate
    slotStartTime := entity.slotStartTime
    slotEndTime := entity.slotEndTime
    serviceId := entity.serviceId
    assignedMechanicId := entity.assignedMechanicId
    assignedLift := firstText [entity.assignedLift]
    status := entity.status
    customerNotes := entity.customerNotes <|> row.customerNotes
    cancellationReason := entity.cancellationReason <|> row.cancellationReason }

def saveAppointment (db : Db) (id : Uuid) (entity : Appointment) : Outcome Db := do
  let _ ← Outcome.required (db.appointments.get? id) (.database "P2025")
  { db with appointments := db.appointments.modify id entity.overwrite }.enforced

end Save

section Public

def findTenantBySlug (db : Db) (slug : String) : Option (Uuid × Tenant) :=
  db.tenants.find? fun t => t.slug = slug ∧ t.isActive

def findActiveOnlineBays (db : Db) (tenantId : Uuid) : List String :=
  let bays := (db.workshopBays.filter fun b =>
    b.tenantId = tenantId ∧ b.isActive ∧ b.isAvailableForOnline).map Prod.snd
  (bays.mergeSort fun b c => b.orderIndex ≤ c.orderIndex).map WorkshopBay.name

/-- `s.trim().split(/\s+/)`, without the empty word of an empty text. -/
def splitWords (s : String) : List String :=
  ((s.toList.splitOnP isJsSpace).filter fun w => w ≠ []).map String.ofList

def findOrCreateCustomerForPublic (db : Db) (tenantId : Uuid) (name phone : String) : Db × Uuid :=
  let words := splitWords name
  let cleanPhone := jsTrim phone
  match db.customers.find? fun c => c.tenantId = tenantId ∧ c.phone = cleanPhone with
  | some (id, _) =>
    ({ db with customers := db.customers.modify id fun c => { c with deletedAt := none } }, id)
  | none =>
    let customer : Customer :=
      { tenantId, firstName := words.headD "Müşteri", lastName := " ".intercalate words.tail,
        companyTitle := none, phone := cleanPhone, email := none, address := none,
        creditLimit := 0, deletedAt := none }
    ({ db with customers := db.customers.insert customer }, db.customers.next)

def findOrCreateVehicleForPublic (toUpperCase : String → String) (db : Db)
    (tenantId customerId : Uuid) (plate : String) : Outcome (Db × Uuid) :=
  let cleanPlate := String.ofList ((toUpperCase plate).toList.filter fun c => !isJsSpace c)
  match db.vehicles.find? fun v => v.tenantId = tenantId ∧ v.plate = cleanPlate with
  | some (id, vehicle) => do
    Outcome.reject (vehicle.customerId ≠ customerId)
      (.badRequest "Araç bilgileri servis tarafından doğrulanmalıdır. Lütfen işletmeyle iletişime geçiniz.")
    pure ({ db with vehicles := db.vehicles.modify id fun v => { v with deletedAt := none } }, id)
  | none =>
    let vehicle : Vehicle :=
      { tenantId, customerId, plate := cleanPlate, currentKm := 0, deletedAt := none }
    pure ({ db with vehicles := db.vehicles.insert vehicle }, db.vehicles.next)

end Public

theorem findOrCreateCustomerForPublic_eq (db : Db) (t : Uuid) (name phone : String) :
    ∃ customers, (findOrCreateCustomerForPublic db t name phone).1 = { db with customers } := by
  unfold findOrCreateCustomerForPublic
  simp only
  split <;> exact ⟨_, rfl⟩

theorem findOrCreateVehicleForPublic_ok {toUpperCase : String → String} {db db' : Db}
    {t customerId id : Uuid} {plate : String}
    (h : findOrCreateVehicleForPublic toUpperCase db t customerId plate = .ok (db', id)) :
    ∃ vehicles, db' = { db with vehicles } := by
  unfold findOrCreateVehicleForPublic at h
  simp only at h
  split at h
  · obtain ⟨_, -, h⟩ := Outcome.bind_eq_ok.mp h
    cases Outcome.pure_eq_ok.mp h
    exact ⟨_, rfl⟩
  · cases Outcome.pure_eq_ok.mp h
    exact ⟨_, rfl⟩

theorem checkParties_found {db : Db} {a b : Appointment} (h : checkParties db a = .ok b) :
    ∃ customer vehicle, db.liveCustomer? a.tenantId a.customerId = some customer ∧
      db.liveVehicle? a.tenantId a.vehicleId = some vehicle ∧
      (∀ id, a.assignedMechanicId = some id →
        ((db.mechanics.get? id).any fun m => m.tenantId = a.tenantId) = true) ∧
      b = { a with serviceId := db.validServiceId a.tenantId a.serviceId } := by
  obtain ⟨customer, hcustomer, h₁⟩ := Outcome.bind_eq_ok.mp h
  obtain ⟨vehicle, hvehicle, h₂⟩ := Outcome.bind_eq_ok.mp h₁
  obtain ⟨u, -, h₃⟩ := Outcome.bind_eq_ok.mp h₂
  obtain ⟨v, hmechanic, h₄⟩ := Outcome.bind_eq_ok.mp h₃
  refine ⟨customer, vehicle, Outcome.required_eq_ok.mp hcustomer,
    Outcome.required_eq_ok.mp hvehicle, fun id hid => ?_, (Outcome.pure_eq_ok.mp h₄).symm⟩
  rw [Outcome.reject_eq_ok, hid, Option.any_some, Bool.not_eq_false'] at hmechanic
  exact hmechanic

theorem checkParties_ok {db : Db} {a b : Appointment} (h : checkParties db a = .ok b) :
    ∃ serviceId, b = { a with serviceId } := by
  obtain ⟨customer, vehicle, -, -, -, hb⟩ := checkParties_found h
  exact ⟨_, hb⟩

theorem readForSave_ok {db : Db} {id : Uuid} {a b : Appointment} (h : readForSave db id a = .ok b) :
    ∃ serviceId, b = { a with serviceId } := by
  obtain ⟨_, -, h⟩ := Outcome.bind_eq_ok.mp h
  exact ⟨_, (Outcome.pure_eq_ok.mp h).symm⟩

theorem insertAppointment_ok {db db' : Db} {a : Appointment} (h : insertAppointment db a = .ok db') :
    db' = { db with appointments := db.appointments.insert a.row } ∧ db'.RangesValid ∧
      db'.Excludes Appointment.assignedMechanicId ∧ db'.Excludes Appointment.assignedLift := by
  obtain ⟨rfl, hconstraints⟩ := Db.enforced_ok h
  exact ⟨rfl, hconstraints⟩

theorem saveAppointment_ok {db db' : Db} {id : Uuid} {a : Appointment}
    (h : saveAppointment db id a = .ok db') :
    db' = { db with appointments := db.appointments.modify id a.overwrite } ∧ db'.RangesValid ∧
      db'.Excludes Appointment.assignedMechanicId ∧ db'.Excludes Appointment.assignedLift := by
  obtain ⟨_, -, h⟩ := Outcome.bind_eq_ok.mp h
  obtain ⟨rfl, hconstraints⟩ := Db.enforced_ok h
  exact ⟨rfl, hconstraints⟩

end WorksAuto
