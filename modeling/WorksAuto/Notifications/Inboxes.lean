import WorksAuto.Lib.View
import WorksAuto.Notifications.Inbox

/-! One inbox for each member of staff.
The shared table refines separate inboxes: what a user finds is decided by what
was delivered to him and by his own marks and deletions, whatever else runs. -/

namespace WorksAuto.Notifications

open Lib

abbrev Inbox := List (Uuid × Notification)

inductive InboxEvent where
  | delivered (id : Uuid) (n : Notification)
  | read (id : Uuid) (tenantId : Option Uuid) (now : Instant)
  | readAll (tenantId : Option Uuid) (now : Instant)
  | removed (id : Uuid) (tenantId : Option Uuid)
  | closed

def Notification.within (n : Notification) (tenantId : Option Uuid) : Bool :=
  tenantId.isNone || n.tenantId = tenantId

def Inbox.apply (box : Inbox) : InboxEvent → Inbox
  | .delivered id n => box ++ [(id, n)]
  | .read id tenantId now =>
    box.map fun r => if r.1 = id && r.2.within tenantId then (r.1, r.2.markRead now) else r
  | .readAll tenantId now =>
    box.map fun r => if !r.2.isRead && r.2.within tenantId then (r.1, r.2.markRead now) else r
  | .removed id tenantId => box.filter fun r => !(r.1 = id && r.2.within tenantId)
  | .closed => []

def Office.inbox (office : Office) (u : Uuid) : Inbox :=
  office.notifications.filter fun n => n.userId = some u

def InboxTask.events (office : Office) (task : InboxTask) (choice : InboxChoice) (u : Uuid) :
    List InboxEvent :=
  if choice.refused then []
  else
    match task with
    | .storing dto targets =>
      if targets.all fun id => (office.users.get? id).isSome then
        (targets.zipIdx office.notifications.next).filterMap fun (id, key) =>
          if id = u then some (.delivered key (dto.row choice.now u)) else none
      else []
    | .asked (.markAsRead id reader) =>
      if reader.userId = u then [.read id reader.tenantId choice.now] else []
    | .asked (.markAllAsRead reader) =>
      if reader.userId = u then [.readAll reader.tenantId choice.now] else []
    | .asked (.remove id reader) =>
      if reader.userId = u then [.removed id reader.tenantId] else []
    | .asked (.deleteUser id) => if id = u then [.closed] else []
    | _ => []

def inboxEvents (u : Uuid) (p : InboxPool) : InboxAction → List InboxEvent
  | .start _ => []
  | .step k choice => (p.threads.get? k).elim [] fun task => task.events p.shared choice u

section Refinement

variable (u : Uuid)

theorem reads_of_owner {n : Notification} (h : n.userId = some u) (reader : Reader) :
    reader.reads n = (decide (reader.userId = u) && n.within reader.tenantId) := by
  unfold Reader.reads Notification.within
  rw [h, Bool.and_comm]
  congr 1
  simp [eq_comm]

theorem inbox_foldl_insert (dto : InboxDto) (now : Instant) (targets : List Uuid)
    (t : Table Notification) :
    ((targets.map (dto.row now)).foldl Table.insert t).filter (fun n => n.userId = some u) =
      ((targets.zipIdx t.next).filterMap fun (id, key) =>
        if id = u then some (InboxEvent.delivered key (dto.row now u)) else none).foldl
          Inbox.apply (t.filter fun n => n.userId = some u) := by
  induction targets generalizing t with
  | nil => rfl
  | cons id targets ih =>
    rw [List.map_cons, List.foldl_cons, ih, Table.filter_insert, List.zipIdx_cons,
      List.filterMap_cons, Table.insert_next]
    by_cases hid : id = u
    · subst hid
      simp [InboxDto.row, Inbox.apply]
    · simp [InboxDto.row, hid]

theorem inbox_markRead (t : Table Notification) (reader : Reader) (c : ℕ → Notification → Bool)
    (now : Instant) :
    (t.modifyIf (fun k n => c k n && reader.reads n) (·.markRead now)).filter
        (fun n => n.userId = some u) =
      if reader.userId = u then
        (t.filter fun n => n.userId = some u).map fun r =>
          if c r.1 r.2 && r.2.within reader.tenantId then (r.1, r.2.markRead now) else r
      else t.filter fun n => n.userId = some u := by
  have howned : ∀ r ∈ t.filter (fun n => n.userId = some u), r.2.userId = some u :=
    fun r hr => by simpa using (Table.mem_filter_iff.mp hr).2
  rw [Table.filter_modifyIf t _ (f := (·.markRead now)) fun _ => rfl]
  by_cases hu : reader.userId = u
  · rw [if_pos hu]
    refine List.map_congr_left fun r hr => ?_
    rw [reads_of_owner u (howned r hr), decide_eq_true hu, Bool.true_and]
    split <;> rfl
  · rw [if_neg hu]
    refine (List.map_congr_left fun r hr => ?_).trans (List.map_id _)
    rw [reads_of_owner u (howned r hr), decide_eq_false hu, Bool.false_and, Bool.and_false]
    rfl

theorem inbox_remove (office : Office) (id : Uuid) (reader : Reader) :
    (office.remove id reader).inbox u =
      if reader.userId = u then (office.inbox u).apply (.removed id reader.tenantId)
      else office.inbox u := by
  have howned : ∀ r ∈ office.inbox u,
      office.notifications.get? r.1 = some r.2 ∧ r.2.userId = some u := by
    intro r hr
    obtain ⟨hget, howner⟩ := Table.mem_filter_iff.mp hr
    exact ⟨hget, by simpa using howner⟩
  have hkey : ∀ r ∈ office.inbox u, r.1 = id → office.notifications.get? id = some r.2 := by
    rintro r hr rfl
    exact (howned r hr).1
  unfold Office.remove
  by_cases hreads : (office.notifications.get? id).any reader.reads = true
  · rw [if_pos hreads]
    by_cases hu : reader.userId = u
    · rw [if_pos hu, Inbox.apply]
      have herase : ({ office with notifications := office.notifications.erase id } :
          Office).inbox u = (office.inbox u).filter fun r => r.1 != id := by
        simp only [Office.inbox, Table.filter, Table.erase, List.filter_filter, Bool.and_comm]
      rw [herase]
      refine List.filter_congr fun r hr => ?_
      by_cases hid : r.1 = id
      · rw [hkey r hr hid, Option.any_some, reads_of_owner u (howned r hr).2] at hreads
        simp [hid, (Bool.and_eq_true_iff.mp hreads).2]
      · simp [hid]
    · rw [if_neg hu]
      refine Table.filter_erase_of_false fun n hn => ?_
      rw [hn, Option.any_some, Reader.reads, Bool.and_eq_true_iff] at hreads
      have howner : n.userId = some reader.userId := by simpa using hreads.2
      simp [howner, hu]
  · rw [if_neg hreads]
    by_cases hu : reader.userId = u
    · rw [if_pos hu, Inbox.apply, eq_comm, List.filter_eq_self]
      intro r hr
      by_cases hid : r.1 = id
      · rw [hkey r hr hid, Option.any_some, reads_of_owner u (howned r hr).2,
          decide_eq_true hu, Bool.true_and] at hreads
        simp [hid, hreads]
      · simp [hid]
    · rw [if_neg hu]

theorem inbox_deleteUser (office : Office) (id : Uuid) :
    (office.deleteUser id).inbox u = if id = u then [] else office.inbox u := by
  simp only [Office.inbox, Office.deleteUser, Table.filter, Table.eraseIf, List.filter_filter]
  split
  next hid =>
    subst hid
    simp
  next hid =>
    refine List.filter_congr fun r _ => ?_
    by_cases hr : r.2.userId = some u
    · simp [hr, Ne.symm hid]
    · simp [hr]

theorem exec_inbox (office : Office) (task : InboxTask) (choice : InboxChoice) :
    (task.exec office choice).1.inbox u =
      (task.events office choice u).foldl Inbox.apply (office.inbox u) := by
  unfold InboxTask.exec InboxTask.events
  split
  · rfl
  · cases task with
    | storing dto targets =>
      simp only [Office.createMany]
      split
      · exact inbox_foldl_insert u dto choice.now targets office.notifications
      · rfl
    | done => rfl
    | asked request =>
      cases request with
      | create dto =>
        simp only
        split <;> rfl
      | markAsRead id reader =>
        simp only [Office.markAsRead, Office.inbox]
        rw [inbox_markRead u _ reader fun k _ => k = id]
        split <;> rfl
      | markAllAsRead reader =>
        simp only [Office.markAllAsRead, Office.inbox]
        rw [inbox_markRead u _ reader fun _ n => !n.isRead]
        split <;> rfl
      | remove id reader =>
        simp only
        rw [inbox_remove]
        split <;> rfl
      | deleteUser id =>
        simp only
        rw [inbox_deleteUser]
        split <;> rfl
      | staff change => rfl
      | remind tenantId title message =>
        simp only [Office.inbox, Table.filter_insert]
        exact List.append_nil _

theorem act_inbox (p : InboxPool) (l : InboxAction) :
    (inboxAct p l).shared.inbox u =
      (inboxEvents u p l).foldl Inbox.apply (p.shared.inbox u) := by
  cases l with
  | start r => rfl
  | step k choice =>
    unfold inboxAct
    cases hk : p.threads.get? k with
    | none =>
      rw [Pool.act_step_none hk]
      simp only [inboxEvents, hk, Option.elim_none, List.foldl_nil]
    | some task =>
      rw [Pool.act_step_some hk]
      simp only [inboxEvents, hk, Option.elim_some]
      exact exec_inbox u p.shared task choice

theorem filter_inbox (office : Office) {p : Notification → Bool}
    (h : ∀ n, p n = true → n.userId = some u) :
    (office.inbox u).filter (fun r => p r.2) = office.notifications.rows.filter fun r => p r.2 := by
  rw [Office.inbox, Table.filter, List.filter_filter]
  refine List.filter_congr fun r _ => ?_
  by_cases hr : p r.2 = true
  · simp [hr, h r.2 hr]
  · simp [hr]

theorem owner_of_reads {reader : Reader} {n : Notification} (h : reader.reads n = true) :
    n.userId = some reader.userId := by
  simpa using (Bool.and_eq_true_iff.mp h).2

theorem findAll_inbox (order : NewestFirst) (office : Office) (o : FindAllOptions) :
    findAll order (office.inbox o.reader.userId) o =
      findAll order office.notifications.rows o := by
  unfold findAll
  split
  · rfl
  next filter _ =>
    have hrows := filter_inbox o.reader.userId office (p := o.matches? filter)
      fun n hn => owner_of_reads (Bool.and_eq_true_iff.mp (Bool.and_eq_true_iff.mp hn).1).1
    rw [hrows]

theorem getUnreadCount_inbox (office : Office) (reader : Reader) (role : UserRole) :
    getUnreadCount (office.inbox reader.userId) reader role =
      getUnreadCount office.notifications.rows reader role := by
  unfold getUnreadCount
  rw [filter_inbox reader.userId office (p := fun n => !n.isRead && reader.reads n &&
    !(isRestricted role && n.category = "FINANCE")) fun n hn => owner_of_reads
      (Bool.and_eq_true_iff.mp (Bool.and_eq_true_iff.mp hn).1).2]

end Refinement

/-- In every interleaving each user is answered from an inbox of his own: what was
delivered to him, changed by nothing but his own marks and deletions. -/
theorem inboxes_independent (office : Office) (labels : List InboxAction) (order : NewestFirst)
    (o : FindAllOptions) :
    let now := (run inboxAct (.idle office) labels).shared
    let box := (eventsAlong inboxAct (inboxEvents o.reader.userId) (.idle office) labels).foldl
      Inbox.apply (office.inbox o.reader.userId)
    now.inbox o.reader.userId = box ∧
      findAll order now.notifications.rows o = findAll order box o ∧
      getUnreadCount now.notifications.rows o.reader o.role =
        getUnreadCount box o.reader o.role := by
  intro now box
  have hbox : now.inbox o.reader.userId = box :=
    view_run (V := fun p : InboxPool => p.shared.inbox o.reader.userId) (I := fun _ => True)
      (fun _ _ _ => trivial) (fun p l _ => act_inbox o.reader.userId p l) trivial labels
  refine ⟨hbox, ?_, ?_⟩
  · rw [← hbox, findAll_inbox]
  · rw [← hbox, getUnreadCount_inbox]

end WorksAuto.Notifications
