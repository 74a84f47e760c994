import WorksAuto.Lib.Requests
import WorksAuto.Notifications.Inbox

/-! Whom a notification reaches.
A row in an inbox goes back to a request that meant its user: named him, or
selected him among the staff as it was when the request looked; nobody is
notified of what he does himself. -/

namespace WorksAuto.Notifications

open Lib

/-- The request names the user, or he is one of the active staff it is for. -/
def InboxDto.Selects (dto : InboxDto) (users : Table User) (u : Uuid) : Prop :=
  dto.userId = some u ∨
  dto.userId = none ∧ ∃ tenantId user, dto.tenantId = some tenantId ∧
    users.get? u = some user ∧ user.tenantId = some tenantId ∧ user.isActive = true ∧
    (dto.targetRoles = [] ∨ user.role ∈ dto.targetRoles)

theorem InboxDto.selects_of_target {dto : InboxDto} {users : Table User} (hown : dto.isOwn = false)
    {u : Uuid} (hu : u ∈ dto.targetUserIds users) :
    dto.Selects users u ∧ dto.actorUserId ≠ some u := by
  unfold targetUserIds at hu
  cases huser : dto.userId with
  | some userId =>
    rw [huser] at hu
    obtain rfl := List.mem_singleton.mp hu
    refine ⟨.inl huser, fun hactor => ?_⟩
    simp [CreateNotificationDto.isOwn, huser, hactor] at hown
  | none =>
    rw [huser] at hu
    cases htenant : dto.tenantId with
    | none =>
      rw [htenant] at hu
      cases hu
    | some tenantId =>
      rw [htenant] at hu
      obtain ⟨⟨id, user⟩, hmem, rfl⟩ := List.mem_map.mp hu
      obtain ⟨hrow, hselect⟩ := List.mem_filter.mp hmem
      simp only [Bool.and_eq_true, decide_eq_true_eq, Bool.or_eq_true, List.isEmpty_iff,
        List.contains_iff_mem] at hselect
      obtain ⟨⟨⟨htenant', hactive⟩, hrole⟩, hactor⟩ := hselect
      exact ⟨.inr ⟨huser, tenantId, user, htenant, (users.mem_rows_iff _ _).mp hrow, htenant',
        hactive, hrole⟩, fun h => hactor h.symm⟩

section Invariant

variable (earlier : Table Notification) (meant : InboxDto → Uuid → Prop)

/-- Up to its marks, a row that was there before, one that names no user, or one that says
what a request says to a user it means. -/
def RowMeant (k : Uuid) (n : Notification) : Prop :=
  n.userId = none ∨
  (∃ m isRead readAt, earlier.get? k = some m ∧ n = { m with isRead := isRead, readAt := readAt }) ∨
  ∃ dto u now isRead readAt, meant dto u ∧
    n = { dto.row now u with isRead := isRead, readAt := readAt }

def OfficeMeant (office : Office) : Prop :=
  ∀ k n, office.notifications.get? k = some n → RowMeant earlier meant k n

def TaskMeant (r : InboxRequest) : InboxTask → Prop
  | .asked request => request = r
  | .storing dto targets => ∀ u ∈ targets, meant dto u
  | .done => True

variable {earlier meant}

theorem RowMeant.markRead {k : Uuid} {n : Notification} (h : RowMeant earlier meant k n)
    (now : Instant) : RowMeant earlier meant k (n.markRead now) := by
  rcases h with h | ⟨m, isRead, readAt, hm, rfl⟩ | ⟨dto, u, stored, isRead, readAt, hmeant, rfl⟩
  · exact .inl h
  · exact .inr (.inl ⟨m, true, some now, hm, rfl⟩)
  · exact .inr (.inr ⟨dto, u, stored, true, some now, hmeant, rfl⟩)

theorem OfficeMeant.modifyIf {office : Office} (h : OfficeMeant earlier meant office)
    (c : ℕ → Notification → Bool) (now : Instant) :
    OfficeMeant earlier meant
      { office with notifications := office.notifications.modifyIf c (·.markRead now) } := by
  intro k n hn
  obtain ⟨m, hm, rfl⟩ := Table.of_get?_modifyIf hn
  split
  · exact (h k m hm).markRead now
  · exact h k m hm

theorem OfficeMeant.createMany {office : Office} (h : OfficeMeant earlier meant office)
    {dto : InboxDto} {targets : List Uuid} (htargets : ∀ u ∈ targets, meant dto u)
    (now : Instant) : OfficeMeant earlier meant (office.createMany dto targets now) := by
  unfold Office.createMany
  split
  · intro k n hn
    rcases Table.get?_foldl_insert hn with hn | hn
    · exact h k n hn
    · obtain ⟨u, hu, rfl⟩ := List.mem_map.mp hn
      exact .inr (.inr ⟨dto, u, now, false, none, htargets u hu, rfl⟩)
  · exact h

theorem OfficeMeant.remove {office : Office} (h : OfficeMeant earlier meant office) (id : Uuid)
    (reader : Reader) : OfficeMeant earlier meant (office.remove id reader) := by
  unfold Office.remove
  split
  · intro k n hn
    rw [Table.get?_erase] at hn
    split at hn
    · cases hn
    · exact h k n hn
  · exact h

theorem OfficeMeant.deleteUser {office : Office} (h : OfficeMeant earlier meant office)
    (id : Uuid) : OfficeMeant earlier meant (office.deleteUser id) :=
  fun k n hn => h k n (Table.get?_eraseIf.mp hn).1

theorem OfficeMeant.insert {office : Office} (h : OfficeMeant earlier meant office)
    {n : Notification} (hn : n.userId = none) :
    OfficeMeant earlier meant
      { office with notifications := office.notifications.insert n } := by
  intro k m hm
  rw [Table.get?_insert] at hm
  split at hm
  · cases hm
    exact .inl hn
  · exact h k m hm

theorem exec_meant {office : Office} (h : OfficeMeant earlier meant office) {task : InboxTask}
    {r : InboxRequest} (ht : TaskMeant meant r task) (choice : InboxChoice)
    (hfind : ∀ dto, task = .asked (.create dto) → choice.refused = false → dto.isOwn = false →
      ∀ u ∈ dto.targetUserIds office.users, meant dto u) :
    OfficeMeant earlier meant (task.exec office choice).1 ∧
      TaskMeant meant r (task.exec office choice).2 := by
  unfold InboxTask.exec
  split
  · exact ⟨h, trivial⟩
  next hrefused =>
    cases task with
    | done => exact ⟨h, trivial⟩
    | storing dto targets => exact ⟨h.createMany ht choice.now, trivial⟩
    | asked request =>
      cases request with
      | create dto =>
        simp only
        split
        · exact ⟨h, trivial⟩
        next hown =>
          exact ⟨h, hfind dto rfl (by simpa using hrefused) (by simpa using hown)⟩
      | markAsRead id reader => exact ⟨h.modifyIf _ _, trivial⟩
      | markAllAsRead reader => exact ⟨h.modifyIf _ _, trivial⟩
      | remove id reader => exact ⟨h.remove id reader, trivial⟩
      | deleteUser id => exact ⟨h.deleteUser id, trivial⟩
      | staff change => exact ⟨h, trivial⟩
      | remind tenantId title message => exact ⟨h.insert rfl, trivial⟩

end Invariant

/-- A request of the run looked the staff up and found the user, who is not its own actor,
among those it selects. -/
def MeantIn (office : Office) (labels : List InboxAction) (dto : InboxDto) (u : Uuid) : Prop :=
  dto.actorUserId ≠ some u ∧
  ∃ k choice found,
    Pool.Took InboxTask.asked InboxTask.exec office labels k choice (.asked (.create dto)) found ∧
      (Pool.requests labels)[k]? = some (.create dto) ∧ choice.refused = false ∧
      dto.Selects found.users u

theorem run_meant (office : Office) (labels : List InboxAction) :
    Pool.Serves (OfficeMeant office.notifications (MeantIn office labels))
      (fun r _ => TaskMeant (MeantIn office labels) r) (Pool.requests labels)
      (run inboxAct (.idle office) labels) := by
  have hstart : OfficeMeant office.notifications (MeantIn office labels) office :=
    fun k m hm => .inr (.inl ⟨m, m.isRead, m.readAt, hm, rfl⟩)
  apply Pool.serves_run hstart
  · intro r now hr
    rfl
  · intro k choice task now r htook hr hoffice htask
    obtain ⟨hoffice', htask'⟩ := exec_meant hoffice htask choice
      (fun dto hask hrefused hown u hu => by
        subst hask
        obtain ⟨hselects, hactor⟩ := dto.selects_of_target hown hu
        obtain rfl : InboxRequest.create dto = r := htask
        exact ⟨hactor, k, choice, now, htook, hr, hrefused, hselects⟩)
    exact ⟨hoffice', htask', fun r' u hu => hu⟩

/-- Whatever interleaves, a notification in an inbox was there before or is, up to its
marks, what a request of the run said to a user it meant; no actor is notified. -/
theorem notifications_meant (office : Office) (labels : List InboxAction) (k : Uuid)
    (n : Notification)
    (h : (run inboxAct (.idle office) labels).shared.notifications.get? k = some n) :
    RowMeant office.notifications (MeantIn office labels) k n :=
  (run_meant office labels).shared k n h

def sampleOffice : Office where
  users := .ofList
    [⟨some 5, "Ayşe", "Usta", .owner, true⟩, ⟨some 5, "Can", "Usta", .technician, true⟩]
  notifications := .empty

def sampleNotice : InboxDto where
  tenantId := some 5
  userId := none
  actorUserId := some 1
  recipientPhone := none
  recipientEmail := none
  customerMessage := none
  sendSms := false
  sendWhatsApp := false
  sendEmail := false
  targetRoles := []
  type := none
  category := "WORK_ORDER"
  title := "İş emri"
  message := "İş emri tamamlandı"
  link := none

def sampleNoticeRun : List InboxAction :=
  [.start (.create sampleNotice), .step 0 ⟨100, false⟩, .step 0 ⟨101, false⟩]

theorem notifications_meant_sample :
    RowMeant sampleOffice.notifications (MeantIn sampleOffice sampleNoticeRun) 0
      (sampleNotice.row 101 0) :=
  notifications_meant sampleOffice sampleNoticeRun 0 _ (by decide +kernel)

end WorksAuto.Notifications
