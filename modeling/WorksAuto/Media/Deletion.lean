import WorksAuto.Media.Confinement

/-! Who can take a file away.
A file is deleted under the key that the row of a photo names. The rows of
uploads name keys of their own tenant; a client that names the key itself may
name any. -/

namespace WorksAuto.Media

open Lib Customers

section Run

variable (store : MediaStore) (labels : List MediaAction)

/-- In the run the tenant put a photo under the key it named, or it had a row with it before. -/
def Registered (t : UuidValue) (url : String) : Prop :=
  (∃ i id caption photoType userName row now,
    (Pool.requests labels)[i]? = some (.addPhoto t id url caption photoType userName) ∧
    Done store labels i (.addingPhoto t row) now ∧ row.url = url) ∨
  ∃ k row, store.photos.get? k = some row ∧ row.url = url ∧
    store.workOrders.get? row.workOrderId.toNat = some t

def KeyHeld (t : UuidValue) (url : String) : Prop :=
  folder url = uuidText t ∨ Registered store labels t url

def StoreHeld (now : MediaStore) : Prop :=
  ∀ k row, now.photos.get? k = some row →
    ∃ t, now.workOrders.get? row.workOrderId.toNat = some t ∧ KeyHeld store labels t row.url

def TaskHeld (r : MediaRequest) (now : MediaStore) : MediaTask → Prop
  | .asked request => request = r
  | .storingPhoto t _ _ row | .recordingPhoto t row =>
    now.workOrders.get? row.workOrderId.toNat = some t ∧ folder row.url = uuidText t
  | .addingPhoto t row =>
    now.workOrders.get? row.workOrderId.toNat = some t ∧
      ∃ id caption photoType userName, r = .addPhoto t id row.url caption photoType userName
  | .erasingObject t photoId url =>
    r = .deleteWorkOrderPhoto t photoId ∧ KeyHeld store labels t url
  | _ => True

variable {store labels}

theorem TaskHeld.mono {r : MediaRequest} {now later : MediaStore} {task : MediaTask}
    (h : TaskHeld store labels r now task)
    (horders : ∀ k t, now.workOrders.get? k = some t → later.workOrders.get? k = some t) :
    TaskHeld store labels r later task := by
  cases task with
  | storingPhoto t key object row => exact ⟨horders _ _ h.1, h.2⟩
  | recordingPhoto t row => exact ⟨horders _ _ h.1, h.2⟩
  | addingPhoto t row => exact ⟨horders _ _ h.1, h.2⟩
  | _ => exact h

theorem ownPhoto_eq_ok {store : MediaStore} {t : UuidValue} {photoId : Uuid} {refusal : String}
    {photo : WorkOrderPhoto} (h : store.ownPhoto t photoId refusal = .ok photo) :
    store.photos.get? photoId = some photo ∧
      store.workOrders.get? photo.workOrderId.toNat = some t := by
  obtain ⟨row, hrow, h⟩ := Outcome.bind_eq_ok.mp h
  obtain ⟨u, howner, h⟩ := Outcome.bind_eq_ok.mp h
  rw [Outcome.required_eq_ok] at hrow
  rw [Outcome.reject_eq_ok] at howner
  cases h
  exact ⟨hrow, by simpa using howner⟩

theorem taskHeld_presign (r : MediaRequest) (now : MediaStore) (tenantId : Option UuidValue)
    (objectKey : String) : TaskHeld store labels r now (presign tenantId objectKey) := by
  unfold presign
  split <;> trivial

theorem taskHeld_trackPhoto (r : MediaRequest) (now : MediaStore) (workOrderId t : UuidValue)
    (photoId : Uuid) : TaskHeld store labels r now (now.trackPhoto workOrderId t photoId) := by
  unfold MediaStore.trackPhoto
  split
  · split_ifs
    · split <;> trivial
    · trivial
  · trivial

theorem enter_held {now : MediaStore} (h : StoreHeld store labels now) (r : MediaRequest)
    (fileId : UuidValue) :
    StoreHeld store labels (r.enter now fileId).1 ∧
      TaskHeld store labels r (r.enter now fileId).1 (r.enter now fileId).2 := by
  cases r with
  | uploadWorkOrderPhoto t workOrderId userId file caption photoType =>
    simp only [MediaRequest.enter]
    split
    next => exact ⟨h, trivial⟩
    next hcheck =>
      exact ⟨h, (checkPhoto_eq_ok hcheck).1, folder_photoKey t workOrderId fileId file⟩
  | uploadTenantLogo t file =>
    simp only [MediaRequest.enter]
    split <;> exact ⟨h, trivial⟩
  | addPhoto t id url caption photoType userName =>
    simp only [MediaRequest.enter]
    split
    next horder => exact ⟨h, horder, id, caption, photoType, userName, rfl⟩
    next => exact ⟨h, trivial⟩
  | updateWorkOrderPhoto t photoId caption photoType =>
    simp only [MediaRequest.enter]
    split <;> exact ⟨h, trivial⟩
  | deleteWorkOrderPhoto t photoId =>
    simp only [MediaRequest.enter]
    split
    next => exact ⟨h, trivial⟩
    next photo hphoto =>
      obtain ⟨hrow, horder⟩ := ownPhoto_eq_ok hphoto
      obtain ⟨owner, howner, hurl⟩ := h photoId photo hrow
      obtain rfl := Option.some.inj (howner.symm.trans horder)
      exact ⟨h, rfl, hurl⟩
  | getPresignedUrl t objectKey => exact ⟨h, taskHeld_presign _ now t objectKey⟩
  | getFile requester objectKey =>
    simp only [MediaRequest.enter]
    split <;> exact ⟨h, trivial⟩
  | getPublicTrack workOrderId photoId =>
    simp only [MediaRequest.enter]
    split
    next t horder => exact ⟨h, taskHeld_trackPhoto _ now workOrderId t photoId⟩
    next => exact ⟨h, trivial⟩
  | openWorkOrder t =>
    refine ⟨fun k row hrow => ?_, trivial⟩
    obtain ⟨owner, howner, hurl⟩ := h k row hrow
    exact ⟨owner, Table.get?_insert_of_some howner t, hurl⟩

theorem StoreHeld.insert {now : MediaStore} (h : StoreHeld store labels now) {t : UuidValue}
    {row : WorkOrderPhoto} (horder : now.workOrders.get? row.workOrderId.toNat = some t)
    (hurl : KeyHeld store labels t row.url) :
    StoreHeld store labels { now with photos := now.photos.insert row } := by
  intro k found hfound
  rw [Table.get?_insert] at hfound
  split at hfound
  · cases hfound
    exact ⟨t, horder, hurl⟩
  · exact h k found hfound

theorem exec_held {now : MediaStore} (h : StoreHeld store labels now) {i : ℕ} {r : MediaRequest}
    (hr : (Pool.requests labels)[i]? = some r) {task : MediaTask}
    (ht : TaskHeld store labels r now task) {choice : MediaChoice}
    (htook : Pool.Took MediaTask.asked MediaTask.exec store labels i choice task now) :
    StoreHeld store labels (task.exec now choice).1 ∧
      TaskHeld store labels r (task.exec now choice).1 (task.exec now choice).2 := by
  unfold MediaTask.exec
  split
  · cases task <;> exact ⟨h, trivial⟩
  next hfails =>
    cases task with
    | asked request =>
      obtain rfl : request = r := ht
      exact enter_held h request choice.fileId
    | storingPhoto t key object row => exact ⟨h, ht⟩
    | recordingPhoto t row => exact ⟨h.insert ht.1 (.inl ht.2), taskHeld_presign _ _ _ _⟩
    | addingPhoto t row =>
      obtain ⟨horder, id, caption, photoType, userName, rfl⟩ := ht
      have hdone : Done store labels i (.addingPhoto t row) now :=
        ⟨choice, htook, by simpa using hfails⟩
      have hregistered : Registered store labels t row.url :=
        .inl ⟨i, id, caption, photoType, userName, row, now, hr, hdone, rfl⟩
      exact ⟨h.insert horder (.inr hregistered), trivial⟩
    | updatingPhoto photoId caption photoType =>
      refine ⟨fun k row hrow => ?_, trivial⟩
      obtain ⟨photo, hphoto, rfl⟩ := Table.of_get?_modify hrow
      split
      · exact h k photo hphoto
      · exact h k photo hphoto
    | erasingPhoto photoId =>
      refine ⟨fun k row hrow => ?_, trivial⟩
      simp only [MediaTask.next, Table.get?_erase] at hrow
      split at hrow
      · cases hrow
      · exact h k row hrow
    | reading access objectKey =>
      simp only [MediaTask.next]
      split <;> exact ⟨h, trivial⟩
    | _ => exact ⟨h, trivial⟩

theorem objects_exec {store : MediaStore} {objectKey : String}
    (h : (store.objects objectKey).isSome) (task : MediaTask) (choice : MediaChoice) :
    ((task.exec store choice).1.objects objectKey).isSome ∨
      choice.fails = false ∧ ∃ t photoId, task = .erasingObject t photoId objectKey := by
  have hput : ∀ key object, ((store.put key object).objects objectKey).isSome := by
    intro key object
    simp only [MediaStore.put]
    split
    · rfl
    · exact h
  unfold MediaTask.exec
  split
  · exact .inl h
  next hfails =>
    cases task with
    | asked request =>
      left
      cases request with
      | openWorkOrder => exact h
      | getPresignedUrl => exact h
      | _ =>
        simp only [MediaTask.next, MediaRequest.enter]
        split <;> exact h
    | storingPhoto t key object row => exact .inl (hput key object)
    | storingLogo t key object => exact .inl (hput key object)
    | erasingObject t photoId url =>
      by_cases hurl : objectKey = url
      · exact .inr ⟨by simpa using hfails, t, photoId, by rw [hurl]⟩
      · left
        simpa only [MediaTask.next, MediaStore.remove, if_neg hurl] using h
    | reading access key =>
      left
      simp only [MediaTask.next]
      split <;> exact h
    | _ => exact .inl h

def MediaStore.PhotosBelong (store : MediaStore) : Prop :=
  ∀ k row, store.photos.get? k = some row →
    (store.workOrders.get? row.workOrderId.toNat).isSome

variable (labels)

theorem run_held (hrows : store.PhotosBelong) :
    Pool.Serves (StoreHeld store labels) (TaskHeld store labels) (Pool.requests labels)
      (run mediaAct (.idle store) labels) := by
  have hstart : StoreHeld store labels store := by
    intro k row hrow
    obtain ⟨t, ht⟩ := Option.isSome_iff_exists.mp (hrows k row hrow)
    exact ⟨t, ht, .inr (.inr ⟨k, row, hrow, rfl, ht⟩)⟩
  apply Pool.serves_run hstart
  · intro r now hr
    rfl
  · intro i choice task now r htook hr hstore htask
    obtain ⟨hstore', htask'⟩ := exec_held hstore hr htask htook
    exact ⟨hstore', htask', fun r' u hu => hu.mono (workOrders_exec now task choice)⟩

variable {labels}

/-- The deletion of a photo, on the request of a tenant that asked for just that. -/
def Deletes (store : MediaStore) (before after : List MediaAction) (i : ℕ) (t : UuidValue)
    (photoId : Uuid) (objectKey : String) : Prop :=
  ∃ choice rest, after = .step i choice :: rest ∧ choice.fails = false ∧
    (Pool.requests before)[i]? = some (.deleteWorkOrderPhoto t photoId) ∧
    (run mediaAct (.idle store) before).threads.get? i =
      some (.erasingObject t photoId objectKey)

end Run

def sampleKey : String := photoKey 7 ⟨uuidText 0, 0⟩ 9 sampleFile

def twoTenants : MediaStore := { sampleStore with workOrders := .ofList [7, 8] }

/-- Tenant 8 names the key of tenant 7's photo for a photo of its own. -/
def sampleNaming : List MediaAction :=
  [.start (.uploadWorkOrderPhoto 7 ⟨uuidText 0, 0⟩ "Ayşe" sampleFile none none),
    .step 0 ⟨false, 9⟩, .step 0 ⟨false, 0⟩, .step 0 ⟨false, 0⟩,
    .start (.addPhoto 8 1 sampleKey "Panel" none "Can"), .step 1 ⟨false, 0⟩, .step 1 ⟨false, 0⟩]

def sampleDeletion : List MediaAction :=
  [.start (.deleteWorkOrderPhoto 8 1), .step 2 ⟨false, 0⟩, .step 2 ⟨false, 0⟩]

end WorksAuto.Media
