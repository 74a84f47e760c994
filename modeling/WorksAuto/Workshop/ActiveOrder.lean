import WorksAuto.Workshop.Orders
import WorksAuto.Workshop.Serial

/-! The active order of a vehicle.
Whether a vehicle has an order that is queued or in progress is looked at once,
before the transaction that opens another one. A status update, a rollback and
the cancellation of an invoice bring an order back without a look at the
vehicle. The rule holds as long as no two orders of a vehicle are opened after
looks that overlap, and nothing is brought back for a vehicle that has an order. -/

namespace WorksAuto

open Lib

def WorkOrderStatus.isActive (s : WorkOrderStatus) : Bool := s = queue ∨ s = inProgress

def WorkOrder.SameVehicle (a b : WorkOrder) : Prop :=
  a.tenantId = b.tenantId ∧ a.vehicleId = b.vehicleId

instance (a b : WorkOrder) : Decidable (a.SameVehicle b) := by
  unfold WorkOrder.SameVehicle
  infer_instance

def Db.OneActive (db : Db) : Prop :=
  ∀ w wo, db.workOrders.get? w = some wo → wo.status.isActive →
    ∀ v a, db.workOrders.get? v = some a → a.status.isActive → a.SameVehicle wo → v = w

namespace WorkshopTask

/-- A creation that has found the vehicle without an active order, and has not opened one. -/
def PastCheck (tenantId vehicleId : Uuid) : WorkshopTask → Prop
  | .numberOrder t input | .storeOrder t input _ => t = tenantId ∧ input.vehicleId = vehicleId
  | _ => False

def opens (db : Db) (env : WorkshopEnv) : WorkshopTask → Option (Uuid × Uuid)
  | .storeOrder tenantId input woNumber =>
    if (createWorkOrder env.clock db (workOrderData tenantId input woNumber)).isOk then
      some (tenantId, input.vehicleId)
    else none
  | _ => none

def activates (db : Db) : WorkshopTask → Option Uuid
  | .writeStatus u => if u.target.isActive then some u.id else none
  | .writeRollback _ id prev => if prev.isActive then some id else none
  | .voidInvoice tenantId id =>
    if (cancelWithCariReversal db tenantId id).isOk then
      (db.invoice? tenantId id).bind Invoice.workOrderId
    else none
  | _ => none

def revives (db : Db) (t : WorkshopTask) : Option WorkOrder :=
  ((t.activates db).bind db.workOrders.get?).filter fun wo => !wo.status.isActive

end WorkshopTask

/-- An order is opened while no other creation for its vehicle is past its check; one is
brought back only for a vehicle for which a creation would be let through and none is past
its check. -/
def WorkshopPool.OpensApart (p : WorkshopPool) : PoolAction WorkshopRequest WorkshopEnv → Prop
  | .start _ => True
  | .step k env =>
    ∀ t ∈ p.threads.get? k,
      (∀ v ∈ t.opens p.shared env, p.Alone (WorkshopTask.PastCheck v.1 v.2) k) ∧
        ∀ wo ∈ t.revives p.shared,
          findActiveByVehicleId p.shared wo.tenantId wo.vehicleId = none ∧
            p.Alone (WorkshopTask.PastCheck wo.tenantId wo.vehicleId) k

section Steps

variable {db db' : Db} {env : WorkshopEnv} {t : WorkshopTask} {w : Uuid} {wo wo' : WorkOrder}

theorem findActiveByVehicleId_eq_none {tenantId vehicleId : Uuid} :
    findActiveByVehicleId db tenantId vehicleId = none ↔
      ∀ w wo, db.workOrders.get? w = some wo → wo.status.isActive →
        ¬ (wo.tenantId = tenantId ∧ wo.vehicleId = vehicleId) := by
  constructor
  · rintro h w wo hwo hactive ⟨rfl, rfl⟩
    have hnone := Table.find?_none h hwo
    simp only [WorkOrderStatus.isActive, decide_eq_true_eq] at hactive
    simp [hactive] at hnone
  · intro h
    by_contra hsome
    obtain ⟨⟨w, wo⟩, hfound⟩ := Option.ne_none_iff_exists'.mp hsome
    obtain ⟨hwo, hp⟩ := Table.find?_some hfound
    simp only [decide_eq_true_eq] at hp
    exact h w wo hwo (by simpa [WorkOrderStatus.isActive] using hp.2.2) ⟨hp.1, hp.2.1⟩

theorem OrderChange.active (h : OrderChange db env t w wo wo') (hactive : wo'.status.isActive) :
    wo.status.isActive ∨ t.activates db = some w := by
  cases h with
  | kept | retotalled => exact .inl hactive
  | statusWritten => exact .inr (if_pos hactive)
  | rolledBack => exact .inr (if_pos hactive)
  | issued => cases hactive
  | voided h accepted linked =>
    right
    rw [WorkshopTask.activates, if_pos accepted, h.found]
    exact linked
  | withdrawn => cases hactive

theorem WorkshopTask.revives_eq_some (hactivates : t.activates db = some w)
    (hwo : db.workOrders.get? w = some wo) (hinactive : ¬ wo.status.isActive) :
    t.revives db = some wo := by
  rw [revives, hactivates, Option.bind_some, hwo]
  simp [hinactive]

inductive ActiveFrom (db : Db) (env : WorkshopEnv) (t : WorkshopTask) (w : Uuid)
    (wo' : WorkOrder) : Prop where
  | before (wo : WorkOrder) (found : db.workOrders.get? w = some wo)
      (active : wo.status.isActive) (same : wo.SameVehicle wo')
  | revived (wo : WorkOrder) (found : db.workOrders.get? w = some wo)
      (activates : t.activates db = some w) (revives : t.revives db = some wo)
      (same : wo.SameVehicle wo')
  | opened (opens : t.opens db env = some (wo'.tenantId, wo'.vehicleId))
      (new : w = db.workOrders.next)

theorem OrderEffect.activeFrom (h : OrderEffect db env t db')
    (hwo : db'.workOrders.get? w = some wo') (hactive : wo'.status.isActive) :
    ActiveFrom db env t w wo' := by
  rcases h.origin hwo with ⟨wo, hold, hchange⟩ | ⟨_, _, _, hnew, rfl, accepted, rfl, rfl⟩
  · obtain ⟨htenant, hvehicle, -⟩ := hchange.same
    have hsame : wo.SameVehicle wo' := ⟨htenant.symm, hvehicle.symm⟩
    by_cases hbefore : wo.status.isActive
    · exact .before wo hold hbefore hsame
    · have hactivates := (hchange.active hactive).resolve_left hbefore
      exact .revived wo hold hactivates
        (WorkshopTask.revives_eq_some hactivates hold hbefore) hsame
  · refine .opened ?_ rfl
    rw [WorkshopTask.opens, if_pos accepted, hnew.opened.tenantId, hnew.opened.vehicleId]
    rfl

theorem WorkshopTask.activates_eq_none {v : Uuid × Uuid} (h : t.opens db env = some v) :
    t.activates db = none := by
  cases t <;> first | rfl | cases h

theorem OrderEffect.oneActive (h : OrderEffect db env t db') (hdb : db.OneActive)
    (hopens : ∀ v ∈ t.opens db env, findActiveByVehicleId db v.1 v.2 = none)
    (hrevives : ∀ wo ∈ t.revives db, findActiveByVehicleId db wo.tenantId wo.vehicleId = none) :
    db'.OneActive := by
  have apart : ∀ {w v : Uuid} {a b : WorkOrder}, ActiveFrom db env t w b → ∀ x,
      db.workOrders.get? v = some x → x.status.isActive → x.SameVehicle a → a.SameVehicle b →
        ActiveFrom db env t v a → v = w := by
    intro w v a b hb x hx hxactive hxa hab ha
    have hvehicle : x.SameVehicle b := ⟨hxa.1.trans hab.1, hxa.2.trans hab.2⟩
    cases hb with
    | before y hy hyactive hyb =>
      exact hdb w y hy hyactive v x hx hxactive
        ⟨hvehicle.1.trans hyb.1.symm, hvehicle.2.trans hyb.2.symm⟩
    | revived y hy hactivates hrev hyb =>
      exact absurd ⟨hvehicle.1.trans hyb.1.symm, hvehicle.2.trans hyb.2.symm⟩
        (findActiveByVehicleId_eq_none.mp (hrevives y hrev) v x hx hxactive)
    | opened hopen hnew =>
      exact absurd hvehicle (findActiveByVehicleId_eq_none.mp (hopens _ hopen) v x hx hxactive)
  intro w b hb hbactive v a ha haactive hsame
  have hfromB := h.activeFrom hb hbactive
  have hfromA := h.activeFrom ha haactive
  cases hfromA with
  | before x hx hxactive hxa =>
    exact apart hfromB x hx hxactive hxa hsame (.before x hx hxactive hxa)
  | revived x hx hactivates hrev hxa =>
    cases hfromB with
    | before y hy hyactive hyb =>
      exact (apart (.revived x hx hactivates hrev hxa) y hy hyactive hyb
        ⟨hsame.1.symm, hsame.2.symm⟩ (.before y hy hyactive hyb)).symm
    | revived y hy hactivates' _ _ => exact Option.some.inj (hactivates.symm.trans hactivates')
    | opened hopen _ =>
      rw [WorkshopTask.activates_eq_none hopen] at hactivates
      cases hactivates
  | opened hopen hnew =>
    cases hfromB with
    | before y hy hyactive hyb =>
      exact (apart (.opened hopen hnew) y hy hyactive hyb ⟨hsame.1.symm, hsame.2.symm⟩
        (.before y hy hyactive hyb)).symm
    | revived y hy hactivates _ _ =>
      rw [WorkshopTask.activates_eq_none hopen] at hactivates
      cases hactivates
    | opened _ hnew' => rw [hnew, hnew']

def WorkshopTask.FoundNone (db : Db) (t : WorkshopTask) : Prop :=
  ∀ tenantId vehicleId, t.PastCheck tenantId vehicleId →
    findActiveByVehicleId db tenantId vehicleId = none

theorem WorkshopTask.pastCheck_of_opens {v : Uuid × Uuid} (h : t.opens db env = some v) :
    t.PastCheck v.1 v.2 := by
  cases t with
  | storeOrder tenantId input woNumber =>
    simp only [opens] at h
    split_ifs at h
    cases h
    exact ⟨rfl, rfl⟩
  | _ => cases h

theorem OrderEffect.foundNone (h : OrderEffect db env t db') {tenantId vehicleId : Uuid}
    (hfound : findActiveByVehicleId db tenantId vehicleId = none)
    (hopens : ∀ v ∈ t.opens db env, v ≠ (tenantId, vehicleId))
    (hrevives : ∀ wo ∈ t.revives db, ¬ (wo.tenantId = tenantId ∧ wo.vehicleId = vehicleId)) :
    findActiveByVehicleId db' tenantId vehicleId = none := by
  rw [findActiveByVehicleId_eq_none]
  rintro w wo hwo hactive ⟨rfl, rfl⟩
  cases h.activeFrom hwo hactive with
  | before x hx hxactive hsame =>
    exact findActiveByVehicleId_eq_none.mp hfound w x hx hxactive hsame
  | revived x hx _ hrev hsame => exact hrevives x hrev hsame
  | opened hopen _ => exact hopens _ hopen rfl

theorem WorkshopTask.useCase_of_pastCheck {tenantId vehicleId : Uuid}
    (h : t.PastCheck tenantId vehicleId) : t.useCase = .create := by
  cases t <;> first | rfl | cases h

theorem WorkshopTask.FoundNone.exec (h : t.FoundNone db) :
    (t.exec db env).2.FoundNone (t.exec db env).1 := by
  have hkeep := WorkshopTask.exec_orders db t env
  cases t with
  | createOrder tenantId input =>
    simp only [WorkshopTask.exec, checkNoActiveOrder]
    cases hfind : findActiveByVehicleId db tenantId input.vehicleId with
    | none =>
      rintro _ _ ⟨rfl, rfl⟩
      exact hfind
    | some found => rintro _ _ ⟨⟩
  | numberOrder tenantId input =>
    have hsame := hkeep.foundNone (h tenantId input.vehicleId ⟨rfl, rfl⟩)
      (by rintro v ⟨⟩) (by rintro v ⟨⟩)
    revert hsame
    simp only [WorkshopTask.exec]
    split
    · rintro - _ _ ⟨⟩
    · rintro hsame _ _ ⟨rfl, rfl⟩
      exact hsame
  | storeOrder tenantId input woNumber =>
    simp only [WorkshopTask.exec]
    cases (createWorkOrder env.clock db (workOrderData tenantId input woNumber)).map Prod.fst <;>
      rintro _ _ ⟨⟩
  | _ =>
    intro tenantId vehicleId hpast
    refine absurd (useCase_of_pastCheck hpast) ?_
    exact useCase_exec_ne (by simp [useCase]) (by decide) (by decide)

end Steps

/-- In an interleaving of requests whose openings and revivals for a vehicle keep apart, every
vehicle has at most one active order in every state. -/
theorem one_active_order (db : Db) (hdb : db.OneActive)
    (actions : List (PoolAction WorkshopRequest WorkshopEnv))
    (hapart : EachStep WorkshopPool.act WorkshopPool.OpensApart (Pool.idle db) actions) :
    Always WorkshopPool.act (fun p => p.shared.OneActive) (Pool.idle db) actions := by
  have hinvariant : Always WorkshopPool.act (Pool.Holds Db.OneActive WorkshopTask.FoundNone)
      (Pool.idle db) actions := by
    apply always_of_step _ (Pool.holds_idle hdb) hapart
    intro p a hp ha
    cases a with
    | start r =>
      apply hp.start
      rintro tenantId vehicleId hpast
      cases r <;> cases hpast
    | step k env =>
      apply hp.step_among
      intro t ht
      obtain ⟨hopens, hrevives⟩ := ha t ht
      have heffect := WorkshopTask.exec_orders p.shared t env
      have hmine := hp.2 k t ht
      refine ⟨?_, hmine.exec, ?_⟩
      · exact heffect.oneActive hp.1
          (fun v hv => hmine _ _ (WorkshopTask.pastCheck_of_opens hv))
          fun wo hwo => (hrevives wo hwo).1
      · intro i u hu hne tenantId vehicleId hpast
        apply heffect.foundNone (hp.2 i u hu tenantId vehicleId hpast)
        · rintro v hv rfl
          exact hopens _ hv i u hu hne hpast
        · rintro wo hwo ⟨rfl, rfl⟩
          exact (hrevives wo hwo).2 i u hu hne hpast
  exact hinvariant.mono fun p hp => hp.1

section Sample

instance (db : Db) : Decidable db.OneActive := by
  unfold Db.OneActive
  infer_instance

instance (tenantId vehicleId : Uuid) : DecidablePred (WorkshopTask.PastCheck tenantId vehicleId) := by
  intro t
  induction t using WorkshopTask.casesOn <;> unfold WorkshopTask.PastCheck <;> infer_instance

instance (p : WorkshopPool) (a : PoolAction WorkshopRequest WorkshopEnv) :
    Decidable (p.OpensApart a) := by
  cases a <;> unfold WorkshopPool.OpensApart <;> infer_instance

def walkIn : CreateWorkOrderInput := { padOrder with appointmentId := none, items := [] }

/-- Two clients ask for an order of the vehicle one after the other. -/
def ordersInTurn : List (PoolAction WorkshopRequest WorkshopEnv) :=
  [.start (.createWorkOrder 0 padOrder), .start (.createWorkOrder 0 walkIn)] ++
    List.replicate 3 (.step 0 shopEnv) ++ List.replicate 3 (.step 1 shopEnv)

/-- Both look for an active order before either of them has opened one. -/
def ordersAtOnce : List (PoolAction WorkshopRequest WorkshopEnv) :=
  [.start (.createWorkOrder 0 padOrder), .start (.createWorkOrder 0 walkIn), .step 1 shopEnv] ++
    List.replicate 3 (.step 0 shopEnv) ++ List.replicate 2 (.step 1 shopEnv)

theorem sample_one_active :
    Always WorkshopPool.act (fun p => p.shared.OneActive) (Pool.idle shopDb) ordersInTurn := by
  apply one_active_order shopDb (by decide +kernel) ordersInTurn
  decide +kernel

theorem two_active_orders :
    ¬ Always WorkshopPool.act (fun p => p.shared.OneActive) (Pool.idle shopDb) ordersAtOnce := by
  decide +kernel

end Sample

end WorksAuto
