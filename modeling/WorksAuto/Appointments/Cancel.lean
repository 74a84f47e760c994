import WorksAuto.Store

/-! Cancelling an appointment together with the work order opened for it. -/

namespace WorksAuto

open Lib

def Appointment.canCancel (a : Appointment) : Bool :=
  a.status ≠ .completed ∧ a.status ≠ .cancelled

def checkCancelAppointment (db : Db) (tenantId id : Uuid) : Outcome Unit := do
  let app ← Outcome.required (db.appointment? tenantId id) (.notFound "Randevu bulunamadı.")
  Outcome.reject (!app.canCancel)
    (.badRequest "Tamamlanmış veya zaten iptal edilmiş randevular iptal edilemez.")

def Db.orderOfAppointment? (db : Db) (appointmentId : Uuid) : Option (Uuid × WorkOrder) :=
  db.workOrders.find? fun wo => wo.appointmentId = some appointmentId

def Appointment.cancel (reason : String) (a : Appointment) : Appointment :=
  { a with status := .cancelled, cancellationReason := some reason }

def WorkOrder.cancelWithAppointment (wo : WorkOrder) : WorkOrder :=
  { wo with status := .cancelled }

def cancelAppointmentAndWorkOrder (db : Db) (tenantId id : Uuid) (reason : String) :
    Outcome Db := do
  let _ ← Outcome.required (db.appointment? tenantId id)
    (.badRequest "Randevu bulunamadı veya bu işletmeye ait değil.")
  let db := { db with appointments := db.appointments.modify id (Appointment.cancel reason) }
  match db.orderOfAppointment? id with
  | some (workOrderId, wo) =>
    if wo.status = .cancelled then pure db
    else
      pure { db with
        workOrders := db.workOrders.modify workOrderId WorkOrder.cancelWithAppointment }
  | none => pure db

end WorksAuto
