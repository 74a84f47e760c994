import WorksAuto.Lib.Requests
import WorksAuto.Media.Service

/-! What a reader can get to see.
Every file that is served to a tenant comes from an upload of its own, or is
one of the logos that anybody may see; a visitor sees logos, and the photos of
the order whose page he was sent to. -/

namespace WorksAuto.Media

open Lib Customers

section Keys

theorem folder_append {a : String} (h : '/' ∉ a.toList) (b : String) :
    folder (a ++ "/" ++ b) = a := by
  have hsplit : (a ++ "/" ++ b).toList.splitOn '/' = a.toList :: b.toList.splitOn '/' := by
    rw [String.toList_append, String.toList_append, List.append_assoc]
    exact List.splitOn_append_cons_self_of_not_mem h b.toList
  rw [folder, hsplit, List.headD_cons, String.ofList_toList]

theorem folder_of_startsWith {key a : String} (ha : '/' ∉ a.toList)
    (h : startsWith key (a ++ "/") = true) : folder key = a := by
  obtain ⟨rest, hrest⟩ := List.isPrefixOf_iff_prefix.mp h
  have hkey : key = a ++ "/" ++ String.ofList rest := by
    rw [← String.toList_inj, String.toList_append, String.toList_ofList, hrest]
  rw [hkey, folder_append ha]

theorem notMem_hexDigits (count n : ℕ) : '/' ∉ hexDigits count n := by
  induction count generalizing n with
  | zero => exact List.not_mem_nil
  | succ count ih =>
    have hdigit : ∀ m < 16, '/' ≠ Json.hexDigit m := by decide
    rw [hexDigits, List.mem_append, List.mem_singleton]
    exact not_or.mpr ⟨ih _, hdigit _ (Nat.mod_lt n (by norm_num))⟩

theorem notMem_uuidText (id : UuidValue) : '/' ∉ (uuidText id).toList := by
  have hdigits := notMem_hexDigits 32 id.toNat
  have hfirst : '/' ∉ (hexDigits 32 id.toNat).take 8 := fun h => hdigits (List.mem_of_mem_take h)
  have hmiddle : ∀ i, '/' ∉ ((hexDigits 32 id.toNat).drop i).take 4 :=
    fun i h => hdigits (List.mem_of_mem_drop (List.mem_of_mem_take h))
  have hlast : '/' ∉ (hexDigits 32 id.toNat).drop 20 := fun h => hdigits (List.mem_of_mem_drop h)
  simp [uuidText, hfirst, hmiddle, hlast]

theorem uuidText_ne_public (id : UuidValue) : uuidText id ≠ "public" := by
  intro h
  have hlength := length_uuidText id
  rw [h] at hlength
  exact absurd hlength (by decide)

theorem folder_photoKey (tenantId : UuidValue) (workOrderId : UuidParam) (fileId : UuidValue)
    (file : UploadedMediaFile) :
    folder (photoKey tenantId workOrderId fileId file) = uuidText tenantId :=
  folder_append (notMem_uuidText tenantId) _

theorem folder_logoKey (tenantId : UuidValue) (file : UploadedMediaFile) :
    folder (logoKey tenantId file) = "public" :=
  folder_append (by decide) _

end Keys

def Access.Admits (access : Access) (objectKey : String) : Prop :=
  access = .linked none ∨ folder objectKey = "public" ∨
  ∃ t, access.tenant = some t ∧ folder objectKey = uuidText t

section Access

theorem folder_of_checkAccess {tenantId objectKey : String} (hslash : '/' ∉ tenantId.toList)
    (hne : tenantId ≠ "") (h : checkAccess (some tenantId) objectKey = .ok ()) :
    folder objectKey = "public" ∨ folder objectKey = tenantId := by
  obtain ⟨u, -, h⟩ := Outcome.bind_eq_ok.mp h
  rw [Outcome.reject_eq_ok] at h
  simp only [Option.any_some, hne, ne_eq, not_false_eq_true, decide_true, Bool.true_and,
    Bool.and_eq_false_iff, Bool.not_eq_false'] at h
  rcases h with h | h
  · exact .inr (folder_of_startsWith hslash h)
  · exact .inl (folder_of_startsWith (a := "public") (by decide) h)

theorem admits_of_tenant {access : Access} {t : UuidValue} {objectKey : String}
    (haccess : access.tenant = some t)
    (h : checkAccess (some (uuidText t)) objectKey = .ok ()) : access.Admits objectKey := by
  have hne : uuidText t ≠ "" := by
    intro hempty
    have hlength := length_uuidText t
    rw [hempty] at hlength
    exact absurd hlength (by decide)
  rcases folder_of_checkAccess (notMem_uuidText t) hne h with hfolder | hfolder
  · exact .inr (.inl hfolder)
  · exact .inr (.inr ⟨t, haccess, hfolder⟩)

theorem admits_of_presign {tenantId : Option UuidValue} {objectKey : String}
    (h : checkAccess (tenantId.map uuidText) objectKey = .ok ()) :
    (Access.linked tenantId).Admits objectKey := by
  cases tenantId with
  | none => exact .inl rfl
  | some t => exact admits_of_tenant rfl h

theorem admits_of_checkFile {requester : Option UuidValue} {objectKey : String}
    (h : checkFile requester objectKey = .ok ()) :
    (Access.streamed requester).Admits objectKey := by
  obtain ⟨u, -, h⟩ := Outcome.bind_eq_ok.mp h
  split at h
  next hpublic => exact .inr (.inl (folder_of_startsWith (a := "public") (by decide) hpublic))
  · obtain ⟨u', hreject, -⟩ := Outcome.bind_eq_ok.mp h
    rw [Outcome.reject_eq_ok, Bool.not_eq_false'] at hreject
    obtain ⟨t, ht, hfolder⟩ := (Option.any_eq_true ..).mp hreject
    exact .inr (.inr ⟨t, ht, (of_decide_eq_true hfolder).symm⟩)

end Access

section Run

variable (store : MediaStore) (labels : List MediaAction)

def Done (i : ℕ) (task : MediaTask) (now : MediaStore) : Prop :=
  ∃ choice, Pool.Took MediaTask.asked MediaTask.exec store labels i choice task now ∧
    choice.fails = false

/-- The request asks to store the file as a photo of a work order of its tenant. -/
def MediaRequest.StoresPhoto (r : MediaRequest) (now : MediaStore) (t : UuidValue)
    (objectKey : String) (object : StoredObject) : Prop :=
  ∃ workOrderId userId file caption photoType fileId,
    r = .uploadWorkOrderPhoto t workOrderId userId file caption photoType ∧
    now.workOrders.get? workOrderId.value.toNat = some t ∧
    photoTypes.contains file.mimetype = true ∧
    objectKey = photoKey t workOrderId fileId file ∧ object = file.object

def MediaRequest.StoresLogo (r : MediaRequest) (objectKey : String) (object : StoredObject) :
    Prop :=
  ∃ t file, r = .uploadTenantLogo t file ∧ checkLogo file = .ok () ∧
    objectKey = logoKey t file ∧ object = file.object

/-- In the run the tenant stored the file, for a work order that was its own. -/
def UploadedPhoto (t : UuidValue) (objectKey : String) (object : StoredObject) : Prop :=
  ∃ i r row now, (Pool.requests labels)[i]? = some r ∧ r.StoresPhoto now t objectKey object ∧
    Done store labels i (.storingPhoto t objectKey object row) now

def UploadedLogo (objectKey : String) (object : StoredObject) : Prop :=
  ∃ i r t now, (Pool.requests labels)[i]? = some r ∧ r.StoresLogo objectKey object ∧
    Done store labels i (.storingLogo t objectKey object) now

/-- At some moment of the run the key was that of a photo of the order, which the tenant has. -/
def PhotoShown (workOrderId t : UuidValue) (objectKey : String) : Prop :=
  ∃ i photoId now photo, (Pool.requests labels)[i]? = some (.getPublicTrack workOrderId photoId) ∧
    Done store labels i (.asked (.getPublicTrack workOrderId photoId)) now ∧
    now.workOrders.get? workOrderId.toNat = some t ∧ now.photos.get? photoId = some photo ∧
    photo.workOrderId = workOrderId ∧ photo.url = objectKey

def Vouched (objectKey : String) (object : StoredObject) : Prop :=
  store.objects objectKey = some object ∨
  (folder objectKey = "public" ∧ UploadedLogo store labels objectKey object) ∨
  ∃ t, folder objectKey = uuidText t ∧ UploadedPhoto store labels t objectKey object

/-- The access is meant for the file, and a visitor's for a photo he was shown. -/
structure Granted (access : Access) (objectKey : String) : Prop where
  admits : access.Admits objectKey
  shown : ∀ w t, access = .tracked w t → PhotoShown store labels w t objectKey

def StoreVouched (now : MediaStore) : Prop :=
  ∀ objectKey object, now.objects objectKey = some object → Vouched store labels objectKey object

def TaskVouched (r : MediaRequest) (now : MediaStore) : MediaTask → Prop
  | .asked request => request = r
  | .storingPhoto t objectKey object _ => r.StoresPhoto now t objectKey object
  | .storingLogo _ objectKey object => r.StoresLogo objectKey object
  | .reading access objectKey => Granted store labels access objectKey
  | .served access objectKey object =>
    Granted store labels access objectKey ∧ Vouched store labels objectKey object
  | _ => True

variable {store labels}

theorem workOrders_exec (now : MediaStore) (task : MediaTask) (choice : MediaChoice) (k : ℕ)
    (t : UuidValue) (h : now.workOrders.get? k = some t) :
    (task.exec now choice).1.workOrders.get? k = some t := by
  unfold MediaTask.exec
  split
  · exact h
  · cases task with
    | asked request =>
      cases request with
      | openWorkOrder owner => exact Table.get?_insert_of_some h owner
      | getPresignedUrl => exact h
      | _ =>
        simp only [MediaTask.next, MediaRequest.enter]
        split <;> exact h
    | reading access objectKey =>
      simp only [MediaTask.next]
      split <;> exact h
    | _ => exact h

theorem TaskVouched.mono {r : MediaRequest} {now later : MediaStore} {task : MediaTask}
    (h : TaskVouched store labels r now task)
    (horders : ∀ k t, now.workOrders.get? k = some t → later.workOrders.get? k = some t) :
    TaskVouched store labels r later task := by
  cases task with
  | storingPhoto t objectKey object row =>
    obtain ⟨workOrderId, userId, file, caption, photoType, fileId, hr, horder, h⟩ := h
    exact ⟨workOrderId, userId, file, caption, photoType, fileId, hr, horders _ _ horder, h⟩
  | _ => exact h

theorem StoreVouched.put {now : MediaStore} (h : StoreVouched store labels now)
    {objectKey : String} {object : StoredObject}
    (hobject : Vouched store labels objectKey object) :
    StoreVouched store labels (now.put objectKey object) := by
  intro key found hfound
  simp only [MediaStore.put] at hfound
  split at hfound
  next hkey =>
    cases hfound
    exact hkey ▸ hobject
  next => exact h key found hfound

theorem StoreVouched.remove {now : MediaStore} (h : StoreVouched store labels now)
    (objectKey : String) : StoreVouched store labels (now.remove objectKey) := by
  intro key found hfound
  simp only [MediaStore.remove] at hfound
  split at hfound
  · cases hfound
  · exact h key found hfound

theorem checkPhoto_eq_ok {now : MediaStore} {file : UploadedMediaFile} {t : UuidValue}
    {workOrderId : UuidParam} (h : now.checkPhoto file t workOrderId = .ok ()) :
    now.workOrders.get? workOrderId.value.toNat = some t ∧
      photoTypes.contains file.mimetype = true := by
  obtain ⟨u, horder, htype⟩ := Outcome.bind_eq_ok.mp h
  rw [Outcome.reject_eq_ok] at horder htype
  exact ⟨by simpa using horder, by simpa using htype⟩

theorem taskVouched_presign (r : MediaRequest) (now : MediaStore) (tenantId : Option UuidValue)
    (objectKey : String) :
    TaskVouched store labels r now (presign tenantId objectKey) := by
  unfold presign
  split
  next h => exact ⟨admits_of_presign h, nofun⟩
  next => trivial

theorem taskVouched_trackPhoto {now : MediaStore} {i : ℕ} {workOrderId t : UuidValue}
    {photoId : Uuid} (hr : (Pool.requests labels)[i]? = some (.getPublicTrack workOrderId photoId))
    (hdone : Done store labels i (.asked (.getPublicTrack workOrderId photoId)) now)
    (horder : now.workOrders.get? workOrderId.toNat = some t) :
    TaskVouched store labels (.getPublicTrack workOrderId photoId) now
      (now.trackPhoto workOrderId t photoId) := by
  unfold MediaStore.trackPhoto
  split
  next photo hphoto =>
    split_ifs with howner
    · split
      next hcheck =>
        refine ⟨admits_of_tenant rfl hcheck, fun w u haccess => ?_⟩
        cases haccess
        exact ⟨i, photoId, now, photo, hr, hdone, horder, hphoto, howner, rfl⟩
      next => trivial
    · trivial
  next => trivial

theorem enter_vouched {now : MediaStore} (h : StoreVouched store labels now) {i : ℕ}
    {r : MediaRequest} (hr : (Pool.requests labels)[i]? = some r)
    (hdone : Done store labels i (.asked r) now) (fileId : UuidValue) :
    StoreVouched store labels (r.enter now fileId).1 ∧
      TaskVouched store labels r (r.enter now fileId).1 (r.enter now fileId).2 := by
  cases r with
  | uploadWorkOrderPhoto t workOrderId userId file caption photoType =>
    simp only [MediaRequest.enter]
    split
    next => exact ⟨h, trivial⟩
    next hcheck =>
      obtain ⟨horder, htype⟩ := checkPhoto_eq_ok hcheck
      exact ⟨h, workOrderId, userId, file, caption, photoType, fileId, rfl, horder, htype, rfl, rfl⟩
  | uploadTenantLogo t file =>
    simp only [MediaRequest.enter]
    split
    next => exact ⟨h, trivial⟩
    next hcheck => exact ⟨h, t, file, rfl, hcheck, rfl, rfl⟩
  | addPhoto t id url caption photoType userName =>
    simp only [MediaRequest.enter]
    split <;> exact ⟨h, trivial⟩
  | updateWorkOrderPhoto t photoId caption photoType =>
    simp only [MediaRequest.enter]
    split <;> exact ⟨h, trivial⟩
  | deleteWorkOrderPhoto t photoId =>
    simp only [MediaRequest.enter]
    split <;> exact ⟨h, trivial⟩
  | getPresignedUrl t objectKey => exact ⟨h, taskVouched_presign _ now t objectKey⟩
  | getFile requester objectKey =>
    simp only [MediaRequest.enter]
    split
    next => exact ⟨h, trivial⟩
    next hcheck => exact ⟨h, admits_of_checkFile hcheck, nofun⟩
  | getPublicTrack workOrderId photoId =>
    simp only [MediaRequest.enter]
    split
    next t horder => exact ⟨h, taskVouched_trackPhoto hr hdone horder⟩
    next => exact ⟨h, trivial⟩
  | openWorkOrder t => exact ⟨h, trivial⟩

theorem exec_vouched {now : MediaStore} (h : StoreVouched store labels now) {i : ℕ}
    {r : MediaRequest} (hr : (Pool.requests labels)[i]? = some r) {task : MediaTask}
    (ht : TaskVouched store labels r now task) {choice : MediaChoice}
    (htook : Pool.Took MediaTask.asked MediaTask.exec store labels i choice task now) :
    StoreVouched store labels (task.exec now choice).1 ∧
      TaskVouched store labels r (task.exec now choice).1 (task.exec now choice).2 := by
  unfold MediaTask.exec
  split
  · cases task <;> exact ⟨h, trivial⟩
  next hfails =>
    have hdone : Done store labels i task now := ⟨choice, htook, by simpa using hfails⟩
    cases task with
    | asked request =>
      obtain rfl : request = r := ht
      exact enter_vouched h hr hdone choice.fileId
    | storingPhoto t objectKey object row =>
      obtain ⟨workOrderId, userId, file, caption, photoType, fileId, -, -, -, hkey, -⟩ := id ht
      have hfolder : folder objectKey = uuidText t := by
        rw [hkey, folder_photoKey]
      exact ⟨h.put (.inr (.inr ⟨t, hfolder, i, r, row, now, hr, ht, hdone⟩)), trivial⟩
    | storingLogo t objectKey object =>
      obtain ⟨owner, file, -, -, hkey, -⟩ := id ht
      have hfolder : folder objectKey = "public" := by
        rw [hkey, folder_logoKey]
      exact ⟨h.put (.inr (.inl ⟨hfolder, i, r, t, now, hr, ht, hdone⟩)), trivial⟩
    | recordingPhoto t row => exact ⟨h, taskVouched_presign _ _ _ _⟩
    | erasingObject t photoId url => exact ⟨h.remove url, trivial⟩
    | reading access objectKey =>
      simp only [MediaTask.next]
      split
      next object hobject => exact ⟨h, ht, h objectKey object hobject⟩
      next => exact ⟨h, trivial⟩
    | served access objectKey object => exact ⟨h, ht⟩
    | _ => exact ⟨h, trivial⟩

variable (store labels)

theorem run_vouched :
    Pool.Serves (StoreVouched store labels) (TaskVouched store labels) (Pool.requests labels)
      (run mediaAct (.idle store) labels) := by
  have hstart : StoreVouched store labels store := fun _ _ hobject => .inl hobject
  apply Pool.serves_run hstart
  · intro r now hr
    rfl
  · intro i choice task now r htook hr hstore htask
    obtain ⟨hstore', htask'⟩ := exec_vouched hstore hr htask htook
    exact ⟨hstore', htask', fun r' u hu => hu.mono (workOrders_exec now task choice)⟩

end Run

def sampleFile : UploadedMediaFile where
  originalname := "ön.panel.png"
  mimetype := "image/png"
  size := some 3
  buffer := [1, 2, 3]

def sampleStore : MediaStore where
  workOrders := .ofList [7]
  photos := .empty
  logoUrls := .empty
  objects := fun _ => none

/-- Tenant 7 uploads a photo, and a visitor follows the link of the order's page. -/
def sampleUpload : List MediaAction :=
  [.start (.uploadWorkOrderPhoto 7 ⟨uuidText 0, 0⟩ "Ayşe" sampleFile none none),
    .step 0 ⟨false, 9⟩, .step 0 ⟨false, 0⟩, .step 0 ⟨false, 0⟩, .start (.getPublicTrack 0 0),
    .step 1 ⟨false, 0⟩, .step 1 ⟨false, 0⟩]

end WorksAuto.Media
