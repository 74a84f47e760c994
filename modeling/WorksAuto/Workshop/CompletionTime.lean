import WorksAuto.Workshop.Orders
import WorksAuto.Workshop.Serial

/-! The completion time of an order.
It is set with the status and cleared with it, except that a cancelled
appointment leaves it behind. A completed order that is completed once more,
by a status update or by its invoice, starts a new time. -/

namespace WorksAuto

open Lib

/-- An order has a completion time when it is completed, and only then. -/
def Db.Truthful (db : Db) : Prop :=
  ∀ w wo, db.workOrders.get? w = some wo → (wo.completedAt.isSome ↔ wo.status = .completed)

def Db.Completed (db : Db) (w : Uuid) : Prop :=
  ∃ wo, db.workOrders.get? w = some wo ∧ wo.status = .completed

def Db.completedAt? (db : Db) (w : Uuid) : Option Instant :=
  (db.workOrders.get? w).bind WorkOrder.completedAt

def Db.CompletesAt (db : Db) (w : Uuid) (now : Instant) : Prop :=
  ∀ wo ∈ db.workOrders.get? w, wo.status = .completed → wo.completedAt = some now

/-- No completed order is completed once more at another time, and none is cancelled with
its appointment. -/
def WorkshopTask.KeepsTimes (db : Db) (env : WorkshopEnv) : WorkshopTask → Prop
  | .writeStatus u => u.target = .completed → db.CompletesAt u.id env.clock.now
  | .issueInvoice tenantId dto =>
    (createWithCariMovement env.clock db (dto.entity env.clock tenantId)
      dto.offsetAdvanceAmount).isOk → ∀ w ∈ dto.workOrderId, db.CompletesAt w env.clock.now
  | .storeCancellation tenantId id reason =>
    (cancelAppointmentAndWorkOrder db tenantId id reason).isOk →
      ∀ o ∈ db.withdrawnOrder? id, o.2.status ≠ .completed
  | _ => True

def WorkshopPool.KeepsTimes (p : WorkshopPool) : PoolAction WorkshopRequest WorkshopEnv → Prop
  | .start _ => True
  | .step k env => ∀ t ∈ p.threads.get? k, t.KeepsTimes p.shared env

def WorkshopTask.RollsBack : WorkshopTask → Prop
  | .confirmRollback _ _ prev | .writeRollback _ _ prev => prev ≠ .completed
  | _ => True

section Steps

variable {db db' : Db} {env : WorkshopEnv} {t : WorkshopTask} {w : Uuid} {wo wo' : WorkOrder}

theorem completionTime_isSome (clock : Clock) (target : WorkOrderStatus) :
    (completionTime clock target).isSome ↔ target = .completed := by
  unfold completionTime
  split_ifs with h <;> simp [h]

theorem OrderChange.truthful (h : OrderChange db env t w wo wo') (hkeep : t.KeepsTimes db env)
    (hroll : t.RollsBack) (haccepted : wo.completedAt.isSome ↔ wo.status = .completed) :
    wo'.completedAt.isSome ↔ wo'.status = .completed := by
  cases h with
  | kept | retotalled => exact haccepted
  | statusWritten => exact completionTime_isSome env.clock _
  | rolledBack => exact ⟨nofun, fun hstatus => absurd hstatus hroll⟩
  | issued => exact ⟨fun _ => rfl, fun _ => rfl⟩
  | voided => exact ⟨nofun, nofun⟩
  | withdrawn accepted found =>
    have hopen := hkeep accepted _ found
    exact ⟨fun hsome => absurd (haccepted.mp hsome) hopen, nofun⟩

theorem OrderChange.sameTime (h : OrderChange db env t w wo wo') (hkeep : t.KeepsTimes db env)
    (hroll : t.RollsBack) (hwo : db.workOrders.get? w = some wo) (hc : wo.status = .completed)
    (hc' : wo'.status = .completed) : wo'.completedAt = wo.completedAt := by
  cases h with
  | kept | retotalled => rfl
  | @statusWritten u wo =>
    have htarget : u.target = .completed := hc'
    rw [hkeep htarget wo hwo hc]
    exact if_pos htarget
  | rolledBack => exact absurd hc' hroll
  | issued h accepted linked =>
    rw [hkeep accepted w linked wo hwo hc]
    rfl
  | voided => cases hc'
  | withdrawn => cases hc'

theorem WorkshopTask.rollsBack_of_useCase (hr : t.useCase ≠ .rollback) : t.RollsBack := by
  cases t <;> trivial

theorem WorkshopTask.RollsBack.exec (h : t.RollsBack) : (t.exec db env).2.RollsBack := by
  cases t with
  | rollback tenantId id =>
    rcases reads_snd db (rollbackTarget db tenantId id)
      fun prev => .confirmRollback tenantId id prev with ⟨prev, hprev, hnext⟩ | ⟨e, hend⟩
    · obtain ⟨wo, -, hstatus⟩ := rollbackTarget_ok hprev
      simp only [WorkshopTask.exec]
      rw [hnext]
      exact (WorkOrderStatus.getPreviousStatus_ok hstatus).2.2
    · simp only [WorkshopTask.exec]
      rw [hend]
      trivial
  | confirmRollback tenantId id prev =>
    simp only [WorkshopTask.exec, reads]
    split
    · trivial
    · exact h
  | writeRollback tenantId id prev =>
    simp only [WorkshopTask.exec, commits]
    split <;> trivial
  | _ =>
    apply rollsBack_of_useCase
    exact useCase_exec_ne (by simp [useCase]) (by decide) (by decide)

theorem WorkshopRequest.rollsBack_enter (r : WorkshopRequest) : r.enter.RollsBack := by
  cases r <;> trivial

def Db.Restarts (db db' : Db) : Prop :=
  ∃ w, db.Completed w ∧ db'.Completed w ∧ db'.completedAt? w ≠ db.completedAt? w

theorem Db.Restarts.of_modify {f : WorkOrder → WorkOrder} {now : Instant}
    (hrows : db'.workOrders = db.workOrders.modify w f) (hwo : db.workOrders.get? w = some wo)
    (hstatus : wo.status = .completed) (hf : (f wo).status = .completed)
    (htime : (f wo).completedAt = some now) (hne : wo.completedAt ≠ some now) :
    db.Restarts db' := by
  have hwo' : db'.workOrders.get? w = some (f wo) := by
    rw [hrows]
    exact Table.get?_modify_self hwo f
  refine ⟨w, ⟨wo, hwo, hstatus⟩, ⟨f wo, hwo', hf⟩, ?_⟩
  rw [completedAt?, completedAt?, hwo, hwo', Option.bind_some, Option.bind_some, htime]
  exact hne.symm

theorem WorkshopTask.exec_breaks (hdb : db.Truthful) (h : ¬ t.KeepsTimes db env) :
    db.Restarts (t.exec db env).1 ∨ ¬ (t.exec db env).1.Truthful := by
  cases t with
  | writeStatus u =>
    simp only [KeepsTimes, Db.CompletesAt] at h
    push Not at h
    obtain ⟨htarget, wo, hwo, hstatus, hne⟩ := h
    left
    rw [exec, writeStatus_found hwo]
    exact .of_modify rfl hwo hstatus htarget (if_pos htarget) hne
  | issueInvoice tenantId dto =>
    simp only [KeepsTimes, Db.CompletesAt] at h
    push Not at h
    obtain ⟨hissue, w, hw, wo, hwo, hstatus, hne⟩ := h
    obtain ⟨⟨db', r⟩, hok⟩ := Outcome.isOk_iff.mp hissue
    obtain ⟨hissued⟩ := createWithCariMovement_ok hok
    have hrows := hissued.workOrders
    rw [CreateInvoiceInput.entity, hw] at hrows
    left
    simp only [exec, hok]
    exact .of_modify hrows hwo hstatus rfl rfl hne
  | storeCancellation tenantId id reason =>
    simp only [KeepsTimes] at h
    push Not at h
    obtain ⟨hstore, ⟨w, wo⟩, ho, hstatus⟩ := h
    obtain ⟨db', hok⟩ := Outcome.isOk_iff.mp hstore
    obtain ⟨hwo, -⟩ := Db.withdrawnOrder?_eq_some ho
    have hrows := congrArg Db.workOrders (cancelAppointmentAndWorkOrder_ok hok)
    rw [Option.mem_def.mp ho] at hrows
    right
    intro htruth
    simp only [exec, commits, hok] at htruth
    have hwo' : db'.workOrders.get? w = some wo.cancelWithAppointment := by
      rw [hrows]
      exact Table.get?_modify_self hwo _
    have hcompleted := (htruth w _ hwo').mp ((hdb w wo hwo).mpr hstatus)
    cases hcompleted
  | _ => exact absurd trivial h

end Steps

section Runs

/-- The completion times of a pool are in order, and so is every rollback under way. -/
def WorkshopPool.Timed (p : WorkshopPool) : Prop :=
  Pool.Holds Db.Truthful (fun _ t => t.RollsBack) p

variable {p : WorkshopPool} {a : PoolAction WorkshopRequest WorkshopEnv}

theorem WorkshopPool.Timed.act (h : p.Timed) (ha : p.KeepsTimes a) : (p.act a).Timed := by
  cases a with
  | start r =>
    have hstart : Pool.Holds Db.Truthful (fun _ t => t.RollsBack) (WorkshopPool.act p (.start r)) :=
      Pool.Holds.start h r.rollsBack_enter
    exact hstart
  | step k env =>
    refine Pool.Holds.step h fun t ht => ⟨fun w wo' hwo' => ?_, (h.2 k t ht).exec, fun _ hu => hu⟩
    rcases (t.exec_orders p.shared env).origin hwo' with
      ⟨wo, hwo, hchange⟩ | ⟨_, _, _, hnew, -, -, -, rfl⟩
    · exact hchange.truthful (ha t ht) (h.2 k t ht) (h.1 w wo hwo)
    · rw [hnew.opened.completedAt, hnew.opened.status]
      exact ⟨nofun, nofun⟩

theorem WorkshopPool.Timed.sameTime (h : p.Timed) (ha : p.KeepsTimes a) {w : Uuid}
    (hc : p.shared.Completed w) (hc' : (p.act a).shared.Completed w) :
    (p.act a).shared.completedAt? w = p.shared.completedAt? w := by
  rcases Pool.shared_act WorkshopRequest.enter WorkshopTask.exec p a with
    hsame | ⟨k, env, t, rfl, hk, hshared⟩
  · rw [WorkshopPool.act, hsame]
  · rw [WorkshopPool.act, hshared] at hc' ⊢
    obtain ⟨wo, hwo, hstatus⟩ := hc
    obtain ⟨wo', hwo', hstatus'⟩ := hc'
    obtain ⟨wo'', hget, hchange⟩ := (t.exec_orders p.shared env).order hwo
    cases Option.some.inj (hwo'.symm.trans hget)
    simp only [Db.completedAt?, hwo, hwo', Option.bind_some]
    exact hchange.sameTime (ha t hk) (h.2 k t hk) hwo hstatus hstatus'

theorem WorkshopPool.Timed.breaks (h : p.Timed) (ha : ¬ p.KeepsTimes a) :
    p.shared.Restarts (p.act a).shared ∨ ¬ (p.act a).shared.Truthful := by
  cases a with
  | start r => exact absurd trivial ha
  | step k env =>
    simp only [WorkshopPool.KeepsTimes] at ha
    push Not at ha
    obtain ⟨t, hk, ht⟩ := ha
    rw [WorkshopPool.act, Pool.act_step_some hk]
    exact t.exec_breaks h.1 ht

/-- In an interleaving of requests, every order has a completion time exactly while it
is completed, and the same one for as long as it is, precisely when no step
completes it once more or cancels it with its appointment. -/
theorem completion_times_iff (db : Db) (hdb : db.Truthful)
    (actions : List (PoolAction WorkshopRequest WorkshopEnv)) :
    (Always WorkshopPool.act (fun p => p.shared.Truthful) (Pool.idle db) actions ∧
      ∀ w, WhileHolds WorkshopPool.act (fun p => p.shared.Completed w)
        (fun p q => q.shared.completedAt? w = p.shared.completedAt? w) (Pool.idle db) actions) ↔
      EachStep WorkshopPool.act WorkshopPool.KeepsTimes (Pool.idle db) actions := by
  have hstart : WorkshopPool.Timed (Pool.idle db) := Pool.holds_idle hdb
  -- `none` stands for the first property, `some w` for the second one of order `w`
  have hiff : (∀ i : Option Uuid, WhileHolds WorkshopPool.act
      (fun p => i.elim True fun w => p.shared.Completed w)
      (fun p q => i.elim q.shared.Truthful fun w =>
        q.shared.completedAt? w = p.shared.completedAt? w) (Pool.idle db) actions) ↔
        EachStep WorkshopPool.act WorkshopPool.KeepsTimes (Pool.idle db) actions := by
    refine whileHolds_iff_eachStep
      (L := fun (i : Option Uuid) p => i.elim True fun w => p.shared.Completed w)
      (R := fun (i : Option Uuid) p q => i.elim q.shared.Truthful fun w =>
        q.shared.completedAt? w = p.shared.completedAt? w) ?_ ?_ ?_ ?_ ?_ hstart actions
    · rintro (_ | w) p hp _
      · exact hp.1
      · rfl
    · rintro (_ | w) p q r hpq hqr
      · exact hqr
      · exact hqr.trans hpq
    · exact fun p a hp ha => hp.act ha
    · rintro (_ | w) p a hp ha hc hc'
      · exact (hp.act ha).1
      · exact hp.sameTime ha hc hc'
    · intro p a hp ha
      rcases hp.breaks ha with ⟨w, hc, hc', hne⟩ | hfalse
      · exact ⟨some w, hc, hc', hne⟩
      · exact ⟨none, trivial, trivial, hfalse⟩
  rw [← hiff, Option.forall]
  exact and_congr always_iff_whileHolds Iff.rfl

end Runs

section Sample

instance (db : Db) : Decidable db.Truthful := by
  unfold Db.Truthful
  infer_instance

instance (db : Db) (w : Uuid) : Decidable (db.Completed w) :=
  decidable_of_iff ((db.workOrders.get? w).any fun wo => wo.status = .completed)
    (by simp [Db.Completed, Option.any_eq_true])

instance (db : Db) (w : Uuid) (now : Instant) : Decidable (db.CompletesAt w now) :=
  inferInstanceAs (Decidable (∀ wo ∈ db.workOrders.get? w, _ → _))

instance (db : Db) (env : WorkshopEnv) (t : WorkshopTask) : Decidable (t.KeepsTimes db env) := by
  induction t using WorkshopTask.casesOn <;> unfold WorkshopTask.KeepsTimes <;> infer_instance

instance (p : WorkshopPool) (a : PoolAction WorkshopRequest WorkshopEnv) :
    Decidable (p.KeepsTimes a) :=
  match a with
  | .start _ => .isTrue trivial
  | .step k env => inferInstanceAs (Decidable (∀ t ∈ p.threads.get? k, t.KeepsTimes p.shared env))

/-- The order of an appointment is opened, worked on and completed. -/
def orderCompleted : List (PoolAction WorkshopRequest WorkshopEnv) :=
  [.start (.createWorkOrder 0 padOrder)] ++ List.replicate 3 (.step 0 shopEnv) ++
    [.start (.updateWorkOrderStatus 0 0 "IN_PROGRESS")] ++ List.replicate 4 (.step 1 shopEnv) ++
    [.start (.updateWorkOrderStatus 0 0 "COMPLETED")] ++ List.replicate 5 (.step 2 shopEnv)

def thenRolledBack : List (PoolAction WorkshopRequest WorkshopEnv) :=
  [.start (.rollbackWorkOrder 0 0)] ++ List.replicate 3 (.step 3 shopEnv)

def thenInvoiced : List (PoolAction WorkshopRequest WorkshopEnv) :=
  [.start (.createInvoice 0 padInvoice),
    .step 3 { shopEnv with clock := { now := 86400000, year := 2026 } }]

theorem sample_times_kept :
    Always WorkshopPool.act (fun p => p.shared.Truthful) (Pool.idle shopDb)
        (orderCompleted ++ thenRolledBack) ∧
      WhileHolds WorkshopPool.act (fun p => p.shared.Completed 0)
        (fun p q => q.shared.completedAt? 0 = p.shared.completedAt? 0) (Pool.idle shopDb)
        (orderCompleted ++ thenRolledBack) := by
  obtain ⟨htruth, htime⟩ := (completion_times_iff shopDb (by decide +kernel)
    (orderCompleted ++ thenRolledBack)).mpr (by decide +kernel)
  exact ⟨htruth, htime 0⟩

/-- The invoice restarts the completion time. -/
theorem invoice_restarts_time :
    ¬ (Always WorkshopPool.act (fun p => p.shared.Truthful) (Pool.idle shopDb)
        (orderCompleted ++ thenInvoiced) ∧
      ∀ w, WhileHolds WorkshopPool.act (fun p => p.shared.Completed w)
        (fun p q => q.shared.completedAt? w = p.shared.completedAt? w) (Pool.idle shopDb)
        (orderCompleted ++ thenInvoiced)) := by
  rintro ⟨-, htime⟩
  have hcompleted : Always WorkshopPool.act (fun p => p.shared.Completed 0)
      (run WorkshopPool.act (Pool.idle shopDb) orderCompleted) thenInvoiced := by decide +kernel
  have hsame := htime 0 orderCompleted thenInvoiced [] (by rw [List.append_nil]) hcompleted
  exact absurd hsame (by decide +kernel)

end Sample

end WorksAuto
