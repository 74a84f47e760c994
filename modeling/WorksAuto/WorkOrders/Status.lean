import WorksAuto.Schema

/-! The status of a work order: which texts name one, which changes a status
update may make, and which status a rollback returns to. -/

namespace WorksAuto

namespace WorkOrderStatus

def toText : WorkOrderStatus → String
  | queue => "QUEUE"
  | inProgress => "IN_PROGRESS"
  | completed => "COMPLETED"
  | cancelled => "CANCELLED"

/-- `new WorkOrderStatusVO(status)`; an older name of the queue is still read. -/
def parse (status : String) : Outcome WorkOrderStatus :=
  match (if status = "PENDING" then "QUEUE" else status) with
  | "QUEUE" => pure queue
  | "IN_PROGRESS" => pure inProgress
  | "COMPLETED" => pure completed
  | "CANCELLED" => pure cancelled
  | _ => .error (.plain ("Geçersiz iş emri durumu: " ++ status))

def isClosed (s : WorkOrderStatus) : Bool := s = completed ∨ s = cancelled

def canTransitionTo (s next : WorkOrderStatus) : Bool :=
  if s = next then true
  else
    match s with
    | completed => false
    | cancelled => false
    | queue => next = inProgress ∨ next = cancelled
    | inProgress => next = completed ∨ next = cancelled ∨ next = queue

def getPreviousStatus : WorkOrderStatus → Outcome WorkOrderStatus
  | completed => pure inProgress
  | inProgress => pure queue
  | _ => .error (.plain "Kuyruktaki bir iş emri daha geri alınamaz.")

def label : WorkOrderStatus → String
  | queue => "Kuyrukta (Sırada)"
  | inProgress => "İşlemde (Onarımda)"
  | completed => "Tamamlandı"
  | cancelled => "İptal Edildi"

theorem eq_of_canTransitionTo {s next : WorkOrderStatus} (hs : s.isClosed = true)
    (h : s.canTransitionTo next = true) : next = s := by
  cases s <;> cases next <;> simp_all [isClosed, canTransitionTo]

theorem getPreviousStatus_ok {s prev : WorkOrderStatus} (h : s.getPreviousStatus = .ok prev) :
    s ≠ cancelled ∧ prev ≠ cancelled ∧ prev ≠ completed := by
  cases s with
  | queue => cases h
  | inProgress =>
    cases Outcome.pure_eq_ok.mp h
    exact ⟨by simp, by simp, by simp⟩
  | completed =>
    cases Outcome.pure_eq_ok.mp h
    exact ⟨by simp, by simp, by simp⟩
  | cancelled => cases h

end WorkOrderStatus

end WorksAuto
