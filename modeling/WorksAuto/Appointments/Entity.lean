import WorksAuto.Appointments.Cancel

/-! `AppointmentEntity`: which changes an appointment admits.
The entity has the fields of its row; its `IN_PROGRESS` is the column's
`IN_SERVICE`. Texts for a time that name none are refused before anything is
written, so the inputs hold times. -/

namespace WorksAuto

structure CreateAppointmentInput where
  customerId : Uuid
  vehicleId : Uuid
  serviceId : Option Uuid
  assignedMechanicId : Option Uuid
  assignedLift : Option String
  slotDate : Instant
  slotStartTime : Instant
  slotEndTime : Instant
  customerNotes : Option String
  deriving DecidableEq, Repr

structure CreatePublicAppointmentInput where
  customerName : String
  customerPhone : String
  plate : String
  serviceId : Option Uuid
  slotDate : Instant
  slotStartTime : Instant
  slotEndTime : Instant
  customerNotes : Option String
  deriving DecidableEq, Repr

structure RescheduleAppointmentInput where
  slotDate : Instant
  slotStartTime : Instant
  slotEndTime : Instant
  assignedMechanicId : Option (Option Uuid)
  assignedLift : Option String
  deriving DecidableEq, Repr

namespace Appointment

def isValidSlot (a : Appointment) : Bool := a.slotStartTime < a.slotEndTime

def canReschedule (a : Appointment) : Bool := a.status ≠ .completed ∧ a.status ≠ .cancelled

def reschedule (a : Appointment) (dto : RescheduleAppointmentInput) : Outcome Appointment := do
  Outcome.reject (!a.canReschedule)
    (.plain "Tamamlanmış veya iptal edilmiş randevu yeniden planlanamaz.")
  pure { a with
    slotDate := dto.slotDate
    slotStartTime := dto.slotStartTime
    slotEndTime := dto.slotEndTime
    assignedMechanicId := dto.assignedMechanicId.getD a.assignedMechanicId
    assignedLift := dto.assignedLift <|> a.assignedLift }

def confirm (a : Appointment) : Outcome Appointment := do
  Outcome.reject (a.status = .cancelled) (.plain "İptal edilmiş randevu onaylanamaz.")
  pure { a with status := .confirmed }

def markNoShow (a : Appointment) : Outcome Appointment := do
  Outcome.reject (a.status = .completed ∨ a.status = .cancelled)
    (.plain "Geçersiz durum geçişi.")
  pure { a with status := .noShow }

end Appointment

/-- `mapStatusToPrisma`; Prisma refuses a text that is no status. -/
def mapStatusToPrisma (status : Option String) : Outcome AppointmentStatus :=
  match firstText [status] with
  | none => pure .pending
  | some "PENDING" => pure .pending
  | some "CONFIRMED" => pure .confirmed
  | some "IN_PROGRESS" => pure .inService
  | some "IN_SERVICE" => pure .inService
  | some "COMPLETED" => pure .completed
  | some "CANCELLED" => pure .cancelled
  | some "NO_SHOW" => pure .noShow
  | some _ => .error (.database "PrismaClientValidationError")

def AppointmentStatus.isClosed (s : AppointmentStatus) : Bool := s = .completed ∨ s = .cancelled

namespace Appointment

theorem canReschedule_eq (a : Appointment) : a.canReschedule = !a.status.isClosed := by
  cases h : a.status <;> simp [canReschedule, AppointmentStatus.isClosed, h]

theorem reschedule_ok {a b : Appointment} {dto : RescheduleAppointmentInput}
    (h : a.reschedule dto = .ok b) :
    a.status.isClosed = false ∧ b = { a with
      slotDate := dto.slotDate
      slotStartTime := dto.slotStartTime
      slotEndTime := dto.slotEndTime
      assignedMechanicId := dto.assignedMechanicId.getD a.assignedMechanicId
      assignedLift := dto.assignedLift <|> a.assignedLift } := by
  obtain ⟨_, hopen, h⟩ := Outcome.bind_eq_ok.mp h
  rw [Outcome.reject_eq_ok, canReschedule_eq, Bool.not_not] at hopen
  exact ⟨hopen, (Outcome.pure_eq_ok.mp h).symm⟩

/-- Unlike its siblings, `confirm` lets a completed appointment pass. -/
theorem confirm_ok {a b : Appointment} (h : a.confirm = .ok b) :
    a.status ≠ .cancelled ∧ b = { a with status := .confirmed } := by
  obtain ⟨_, hopen, h⟩ := Outcome.bind_eq_ok.mp h
  rw [Outcome.reject_eq_ok, decide_eq_false_iff_not] at hopen
  exact ⟨hopen, (Outcome.pure_eq_ok.mp h).symm⟩

theorem markNoShow_ok {a b : Appointment} (h : a.markNoShow = .ok b) :
    a.status.isClosed = false ∧ b = { a with status := .noShow } := by
  obtain ⟨_, hopen, h⟩ := Outcome.bind_eq_ok.mp h
  exact ⟨Outcome.reject_eq_ok.mp hopen, (Outcome.pure_eq_ok.mp h).symm⟩

end Appointment

end WorksAuto
