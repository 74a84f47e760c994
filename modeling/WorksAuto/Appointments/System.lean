import WorksAuto.Appointments.Repository
import WorksAuto.Workshop.System

/-! The agenda as a system of requests.
Bookings, rescheduling and status changes run in parts, next to the requests of
the workshop, which write the status of the appointment of an order. Every
statement runs under the exclusion constraints. -/

namespace WorksAuto

open Lib

/-- The database, and the advisory locks that open transactions hold. -/
structure Agenda where
  db : Db
  locks : List LockKey

inductive AgendaTask where
  -- CreateAppointmentUseCase
  | create (tenantId : Uuid) (dto : CreateAppointmentInput)
  | bookMechanic (entity : Appointment)
  | bookLift (entity : Appointment)
  -- CreatePublicAppointmentUseCase
  | createPublic (slug : String) (dto : CreatePublicAppointmentInput)
  | readBays (tenantId : Uuid) (dto : CreatePublicAppointmentInput)
  | tryBays (tenantId : Uuid) (dto : CreatePublicAppointmentInput) (bays : List String)
  | publicCustomer (tenantId : Uuid) (dto : CreatePublicAppointmentInput) (lift : String)
  | publicVehicle (tenantId : Uuid) (dto : CreatePublicAppointmentInput) (lift : String)
      (customerId : Uuid)
  -- PrismaAppointmentRepository.create
  | checkParties (entity : Appointment)
  | lockSlot (entity : Appointment)
  | insert (entity : Appointment)
  -- RescheduleAppointmentUseCase
  | reschedule (tenantId id : Uuid) (dto : RescheduleAppointmentInput)
  | moveMechanic (id : Uuid) (app : Appointment) (dto : RescheduleAppointmentInput)
  | moveLift (id : Uuid) (app : Appointment) (dto : RescheduleAppointmentInput)
  -- UpdateAppointmentStatusUseCase
  | approve (tenantId id : Uuid)
  | updateStatus (tenantId id : Uuid) (status : Option String)
      (cancellationReason : Option String)
  | markNoShow (tenantId id : Uuid)
  -- PrismaAppointmentRepository.save; the status that was read is kept for the audit log
  | save (id : Uuid) (oldStatus : AppointmentStatus) (entity : Appointment)
  | write (id : Uuid) (oldStatus : AppointmentStatus) (entity : Appointment)
  | work (task : WorkshopTask)
  | finished (answer : Outcome Unit)

def inThePast (clock : Clock) (start : Instant) : Bool := start < clock.now - 2 * 60 * 1000

def checkLeave (db : Db) (tenantId : Uuid) (mechanicId : Option Uuid) (start : Instant) :
    Outcome Unit :=
  Outcome.reject (mechanicId.any fun id => checkMechanicOnLeave db tenantId id start)
    (.conflict "Seçilen teknisyen randevu tarihinde izinli veya raporludur.")

def checkMechanicFree (db : Db) (tenantId : Uuid) (mechanicId : Option Uuid)
    (slotStart slotEnd : Instant) (excludeId : Option Uuid) : Outcome Unit :=
  Outcome.reject
    (mechanicId.any fun id => checkMechanicConflict db tenantId id slotStart slotEnd excludeId)
    mechanicConflict

def checkLiftFree (db : Db) (tenantId : Uuid) (lift : Option String) (slotStart slotEnd : Instant)
    (excludeId : Option Uuid) : Outcome Unit :=
  match firstText [lift] with
  | none => pure ()
  | some lift =>
    Outcome.reject (checkLiftConflict db tenantId lift slotStart slotEnd excludeId)
      (liftConflict lift)

def CreateAppointmentInput.entity (dto : CreateAppointmentInput) (tenantId : Uuid) :
    Appointment where
  tenantId := tenantId
  customerId := dto.customerId
  vehicleId := dto.vehicleId
  serviceId := dto.serviceId
  assignedMechanicId := dto.assignedMechanicId
  assignedLift := firstText [dto.assignedLift]
  slotDate := dto.slotDate
  slotStartTime := dto.slotStartTime
  slotEndTime := dto.slotEndTime
  status := .confirmed
  customerNotes := firstText [dto.customerNotes]
  cancellationReason := none

def CreatePublicAppointmentInput.entity (dto : CreatePublicAppointmentInput)
    (tenantId customerId vehicleId : Uuid) (lift : String) : Appointment where
  tenantId := tenantId
  customerId := customerId
  vehicleId := vehicleId
  serviceId := dto.serviceId
  assignedMechanicId := none
  assignedLift := some lift
  slotDate := dto.slotDate
  slotStartTime := dto.slotStartTime
  slotEndTime := dto.slotEndTime
  status := .pending
  customerNotes := firstText [dto.customerNotes]
  cancellationReason := none

def allBaysTaken : ApiError :=
  .conflict "Seçilen saat aralığında tüm servis kabul alanları doludur. Lütfen farklı bir saat dilimi seçiniz."

def standardBays : List String := ["Lift 1 (Hızlı Kabul)", "Lift 2 (Mekanik)", "Kabul Alanı"]

def checkNewSlot (clock : Clock) (db : Db) (entity : Appointment) : Outcome Appointment := do
  Outcome.reject (!entity.isValidSlot)
    (.badRequest "Randevu bitiş saati başlangıç saatinden sonra olmalıdır.")
  Outcome.reject (inThePast clock entity.slotStartTime)
    (.badRequest "Geçmiş bir tarih veya saate randevu oluşturulamaz.")
  checkLeave db entity.tenantId entity.assignedMechanicId entity.slotStartTime
  pure entity

def checkPublicSlot (clock : Clock) (db : Db) (slug : String)
    (dto : CreatePublicAppointmentInput) : Outcome Uuid := do
  let (tenantId, _) ← Outcome.required (findTenantBySlug db slug)
    (.notFound "İlgili işletme bulunamadı veya online randevu kapalı.")
  Outcome.reject (dto.slotEndTime ≤ dto.slotStartTime)
    (.badRequest "Geçersiz randevu saat aralığı. Bitiş saati başlangıçtan sonra olmalıdır.")
  Outcome.reject (inThePast clock dto.slotStartTime)
    (.badRequest "Geçmiş bir tarih veya saate randevu oluşturulamaz.")
  pure tenantId

def Db.readAppointment (db : Db) (tenantId id : Uuid) : Outcome Appointment :=
  Outcome.required (db.appointment? tenantId id) (.notFound "Randevu bulunamadı.")

def checkReschedule (clock : Clock) (db : Db) (tenantId id : Uuid)
    (dto : RescheduleAppointmentInput) : Outcome Appointment := do
  let app ← db.readAppointment tenantId id
  Outcome.reject (!app.canReschedule)
    (.badRequest "Tamamlanmış veya iptal edilmiş randevular yeniden planlanamaz.")
  Outcome.reject (inThePast clock dto.slotStartTime)
    (.badRequest "Geçmiş bir tarih veya saate randevu yeniden planlanamaz.")
  checkLeave db tenantId (dto.assignedMechanicId.getD app.assignedMechanicId) dto.slotStartTime
  pure app

def Db.edited (db : Db) (tenantId id : Uuid) (edit : Appointment → Outcome Appointment) :
    Outcome (AppointmentStatus × Appointment) := do
  let app ← db.readAppointment tenantId id
  let entity ← edit app
  pure (app.status, entity)

/-- `updateStatus` puts any status in the place of any other. -/
def Appointment.setStatus (status : Option String) (cancellationReason : Option String)
    (a : Appointment) : Outcome Appointment := do
  let status ← mapStatusToPrisma status
  pure { a with
    status
    cancellationReason := firstText [cancellationReason] <|> a.cancellationReason }

namespace AgendaTask

def reads {α : Type} (s : Agenda) (r : Outcome α) (next : α → AgendaTask) : Agenda × AgendaTask :=
  match r with
  | .error e => (s, .finished (.error e))
  | .ok a => (s, next a)

def commits (s : Agenda) (r : Outcome Db) (next : AgendaTask) : Agenda × AgendaTask :=
  match r with
  | .error e => (s, .finished (.error e))
  | .ok db => ({ s with db }, next)

/-- A part of a workshop request. An error of `syncAppointmentStatus` is ignored. -/
def workshopPart (db : Db) (t : WorkshopTask) (env : WorkshopEnv) : Db × WorkshopTask :=
  match (t.exec db env).1.enforced with
  | .ok _ => t.exec db env
  | .error e =>
    match t with
    | .syncAppointment u => (db, WorkshopTask.afterSync u)
    | _ => (db, .finished (.error e))

def exec (s : Agenda) (t : AgendaTask) (env : WorkshopEnv) : Agenda × AgendaTask :=
  match t with
  | .create tenantId dto =>
    reads s (checkNewSlot env.clock s.db (dto.entity tenantId)) .bookMechanic
  | .bookMechanic entity =>
    reads s (checkMechanicFree s.db entity.tenantId entity.assignedMechanicId
      entity.slotStartTime entity.slotEndTime none) fun _ => .bookLift entity
  | .bookLift entity =>
    reads s (checkLiftFree s.db entity.tenantId entity.assignedLift entity.slotStartTime
      entity.slotEndTime none) fun _ => .checkParties entity
  | .createPublic slug dto =>
    reads s (checkPublicSlot env.clock s.db slug dto) fun tenantId => .readBays tenantId dto
  | .readBays tenantId dto =>
    match findActiveOnlineBays s.db tenantId with
    | [] => (s, .tryBays tenantId dto standardBays)
    | bays => (s, .tryBays tenantId dto bays)
  | .tryBays tenantId dto bays =>
    match bays with
    | [] => (s, .finished (.error allBaysTaken))
    | bay :: rest =>
      if checkLiftConflict s.db tenantId bay dto.slotStartTime dto.slotEndTime none then
        (s, .tryBays tenantId dto rest)
      else if bay = "" then (s, .finished (.error allBaysTaken))
      else (s, .publicCustomer tenantId dto bay)
  | .publicCustomer tenantId dto lift =>
    let (db, customerId) := findOrCreateCustomerForPublic s.db tenantId dto.customerName
      dto.customerPhone
    ({ s with db }, .publicVehicle tenantId dto lift customerId)
  | .publicVehicle tenantId dto lift customerId =>
    match findOrCreateVehicleForPublic env.toUpperCase s.db tenantId customerId dto.plate with
    | .error e => (s, .finished (.error e))
    | .ok (db, vehicleId) =>
      ({ s with db }, .checkParties (dto.entity tenantId customerId vehicleId lift))
  | .checkParties entity => reads s (WorksAuto.checkParties s.db entity) .lockSlot
  | .lockSlot entity =>
    -- the request waits while another transaction holds the lock
    if entity.lockKey ∈ s.locks then (s, .lockSlot entity)
    else
      match recheck s.db entity with
      | .error e => (s, .finished (.error e))
      | .ok _ => ({ s with locks := entity.lockKey :: s.locks }, .insert entity)
  | .insert entity =>
    commits { s with locks := s.locks.erase entity.lockKey } (insertAppointment s.db entity)
      (.finished (.ok ()))
  | .reschedule tenantId id dto =>
    reads s (checkReschedule env.clock s.db tenantId id dto) fun app => .moveMechanic id app dto
  | .moveMechanic id app dto =>
    reads s (checkMechanicFree s.db app.tenantId
      (dto.assignedMechanicId.getD app.assignedMechanicId) dto.slotStartTime dto.slotEndTime
      (some id)) fun _ => .moveLift id app dto
  | .moveLift id app dto =>
    reads s (do
      checkLiftFree s.db app.tenantId (dto.assignedLift <|> app.assignedLift) dto.slotStartTime
        dto.slotEndTime (some id)
      app.reschedule dto) fun entity => .save id app.status entity
  | .approve tenantId id =>
    reads s (s.db.edited tenantId id Appointment.confirm) fun (old, entity) => .save id old entity
  | .updateStatus tenantId id status reason =>
    reads s (s.db.edited tenantId id (Appointment.setStatus status reason))
      fun (old, entity) => .save id old entity
  | .markNoShow tenantId id =>
    reads s (s.db.edited tenantId id Appointment.markNoShow)
      fun (old, entity) => .save id old entity
  | .save id old entity => reads s (readForSave s.db id entity) fun entity => .write id old entity
  | .write id _ entity => commits s (saveAppointment s.db id entity) (.finished (.ok ()))
  | .work task =>
    let (db, next) := workshopPart s.db task env
    ({ s with db }, .work next)
  | .finished answer => (s, .finished answer)

end AgendaTask

inductive AgendaRequest where
  | createAppointment (tenantId : Uuid) (dto : CreateAppointmentInput)
  | createPublicAppointment (slug : String) (dto : CreatePublicAppointmentInput)
  | rescheduleAppointment (tenantId id : Uuid) (dto : RescheduleAppointmentInput)
  | approve (tenantId id : Uuid)
  | updateStatus (tenantId id : Uuid) (status : Option String)
      (cancellationReason : Option String)
  | markNoShow (tenantId id : Uuid)
  | workshop (request : WorkshopRequest)

def AgendaRequest.enter : AgendaRequest → AgendaTask
  | .createAppointment tenantId dto => .create tenantId dto
  | .createPublicAppointment slug dto => .createPublic slug dto
  | .rescheduleAppointment tenantId id dto => .reschedule tenantId id dto
  | .approve tenantId id => .approve tenantId id
  | .updateStatus tenantId id status reason => .updateStatus tenantId id status reason
  | .markNoShow tenantId id => .markNoShow tenantId id
  | .workshop request => .work request.enter

abbrev AgendaPool := Pool Agenda AgendaTask

def AgendaPool.act : AgendaPool → PoolAction AgendaRequest WorkshopEnv → AgendaPool :=
  Pool.act AgendaRequest.enter AgendaTask.exec

end WorksAuto
