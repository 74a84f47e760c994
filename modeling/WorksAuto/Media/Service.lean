import WorksAuto.Customers.Import
import WorksAuto.Lib.Pool

/-! Photos of work orders and logos of tenants.
The files lie in one bucket that all tenants share; whose a file is can be told
only from the first part of its key. A photo has a row in the database too,
which names the key. -/

namespace WorksAuto.Media

open Lib Customers

inductive WorkOrderPhotoType where
  | checkin | damage | completed
  deriving DecidableEq, Repr

structure UploadedMediaFile where
  originalname : String
  mimetype : String
  size : Option ℕ
  buffer : List UInt8
  deriving DecidableEq, Repr

structure StoredObject where
  body : List UInt8
  contentType : String
  deriving DecidableEq, Repr

structure WorkOrderPhoto where
  workOrderId : UuidValue
  url : String
  caption : String
  photoType : WorkOrderPhotoType
  uploadedBy : String
  deriving DecidableEq, Repr

/-- The database as far as this service reads it, and the bucket. The owner of a work
order is all that is asked of it; tenants and orders are found under their ids. -/
structure MediaStore where
  workOrders : Table UuidValue
  photos : Table WorkOrderPhoto
  logoUrls : Table (Option String)
  objects : String → Option StoredObject

section Keys

/-- `text.startsWith(part)`. -/
def startsWith (text part : String) : Bool := part.toList.isPrefixOf text.toList

/-- `originalname.split('.').pop() || otherwise`. -/
def extension (originalname otherwise : String) : String :=
  let ext := String.ofList ((originalname.toList.splitOn '.').getLastD [])
  if ext = "" then otherwise else ext

/-- `objectKey.split('/')[0]`. -/
def folder (objectKey : String) : String :=
  String.ofList ((objectKey.toList.splitOn '/').headD [])

def photoKey (tenantId : UuidValue) (workOrderId : UuidParam) (fileId : UuidValue)
    (file : UploadedMediaFile) : String :=
  uuidText tenantId ++ "/" ++ ("work-orders/" ++ workOrderId.text ++ "/" ++ uuidText fileId ++
    "." ++ extension file.originalname "jpg")

def logoKey (tenantId : UuidValue) (file : UploadedMediaFile) : String :=
  "public" ++ "/" ++ ("tenants/" ++ uuidText tenantId ++ "/logo." ++
    extension file.originalname "png")

def checkKey (objectKey : String) : Outcome Unit :=
  Outcome.reject (objectKey = "" || includes objectKey ".." || includes objectKey "\\")
    (.badRequest "Geçersiz medya anahtarı.")

/-- What `getPresignedUrl` and `getFileStream` check. -/
def checkAccess (tenantId : Option String) (objectKey : String) : Outcome Unit := do
  checkKey objectKey
  Outcome.reject
    (tenantId.any fun t =>
      t ≠ "" && !startsWith objectKey (t ++ "/") && !startsWith objectKey "public/")
    (.forbidden "Bu medyaya erişim yetkiniz bulunmamaktadır.")

/-- What `getFile` checks of the key and of the tenant that the token names. -/
def checkFile (requestingTenantId : Option UuidValue) (objectKey : String) : Outcome Unit := do
  checkKey objectKey
  if startsWith objectKey "public/" then checkAccess (some "public") objectKey
  else do
    Outcome.reject (!requestingTenantId.any fun t => uuidText t = folder objectKey)
      (.forbidden "Bu medyaya erişim yetkiniz bulunmamaktadır.")
    checkAccess (some (folder objectKey)) objectKey

end Keys

section Uploads

variable (file : UploadedMediaFile)

def UploadedMediaFile.object : StoredObject where
  body := file.buffer
  contentType := file.mimetype

def photoTypes : List String := ["image/jpeg", "image/png", "image/webp", "image/heic"]

def logoTypes : List String := ["image/jpeg", "image/png", "image/webp", "image/svg+xml"]

/-- What `uploadWorkOrderPhoto` checks before it stores the file. -/
def MediaStore.checkPhoto (store : MediaStore) (tenantId : UuidValue) (workOrderId : UuidParam) :
    Outcome Unit := do
  Outcome.reject (store.workOrders.get? workOrderId.value.toNat ≠ some tenantId)
    (.badRequest "İş emri bulunamadı veya bu işletmeye ait değil.")
  Outcome.reject (!photoTypes.contains file.mimetype)
    (.badRequest "Geçersiz dosya formatı. Sadece JPG, PNG, WEBP desteklenir.")

def photoRow (workOrderId : UuidParam) (objectKey userId : String) (caption : Option String)
    (photoType : Option WorkOrderPhotoType) : WorkOrderPhoto where
  workOrderId := workOrderId.value
  url := objectKey
  caption := (firstText [caption]).getD file.originalname
  photoType := photoType.getD .checkin
  uploadedBy := (firstText [some userId]).getD "SYSTEM"

def checkLogo : Outcome Unit := do
  Outcome.reject (!logoTypes.contains file.mimetype)
    (.badRequest "Geçersiz dosya formatı. Sadece PNG, JPG, WEBP ve SVG desteklenir.")
  Outcome.reject (file.size.any fun size => 5 * 1024 * 1024 < size)
    (.badRequest "Logo boyutu en fazla 5MB olabilir.")

end Uploads

namespace MediaStore

variable (store : MediaStore)

def put (objectKey : String) (object : StoredObject) : MediaStore :=
  { store with objects := fun key => if key = objectKey then some object else store.objects key }

def remove (objectKey : String) : MediaStore :=
  { store with objects := fun key => if key = objectKey then none else store.objects key }

def ownPhoto (tenantId : UuidValue) (photoId : Uuid) (refusal : String) :
    Outcome WorkOrderPhoto := do
  let photo ← Outcome.required (store.photos.get? photoId) (.badRequest "Fotoğraf bulunamadı.")
  Outcome.reject (store.workOrders.get? photo.workOrderId.toNat ≠ some tenantId)
    (.forbidden refusal)
  .ok photo

end MediaStore

def WorkOrderPhoto.update (caption : Option String) (photoType : Option WorkOrderPhotoType)
    (photo : WorkOrderPhoto) : WorkOrderPhoto :=
  { photo with
    caption := caption.getD photo.caption
    photoType := photoType.getD photo.photoType }

inductive MediaRequest where
  | uploadWorkOrderPhoto (tenantId : UuidValue) (workOrderId : UuidParam) (userId : String)
      (file : UploadedMediaFile) (caption : Option String) (photoType : Option WorkOrderPhotoType)
  | uploadTenantLogo (tenantId : UuidValue) (file : UploadedMediaFile)
  /-- the photo whose key the client names -/
  | addPhoto (tenantId id : UuidValue) (url caption : String)
      (photoType : Option WorkOrderPhotoType) (userName : String)
  | updateWorkOrderPhoto (tenantId : UuidValue) (photoId : Uuid) (caption : Option String)
      (photoType : Option WorkOrderPhotoType)
  | deleteWorkOrderPhoto (tenantId : UuidValue) (photoId : Uuid)
  | getPresignedUrl (tenantId : Option UuidValue) (objectKey : String)
  | getFile (requestingTenantId : Option UuidValue) (objectKey : String)
  /-- a visitor at one photo of an order's tracking page, while the page shows photos -/
  | getPublicTrack (workOrderId : UuidValue) (photoId : Uuid)
  /-- a new work order of the tenant -/
  | openWorkOrder (tenantId : UuidValue)

/-- How a file is read, and for whom: through the application, by a signed link, or by the
link of a tracking page, which is signed for the tenant of the order. -/
inductive Access where
  | streamed (requestingTenantId : Option UuidValue)
  | linked (tenantId : Option UuidValue)
  | tracked (workOrderId tenantId : UuidValue)
  deriving DecidableEq, Repr

def Access.tenant : Access → Option UuidValue
  | .streamed t | .linked t => t
  | .tracked _ t => some t

inductive MediaTask where
  | asked (request : MediaRequest)
  | storingPhoto (tenantId : UuidValue) (objectKey : String) (object : StoredObject)
      (row : WorkOrderPhoto)
  | recordingPhoto (tenantId : UuidValue) (row : WorkOrderPhoto)
  | storingLogo (tenantId : UuidValue) (objectKey : String) (object : StoredObject)
  | recordingLogo (tenantId : UuidValue) (objectKey : String)
  | addingPhoto (tenantId : UuidValue) (row : WorkOrderPhoto)
  | updatingPhoto (photoId : Uuid) (caption : Option String) (photoType : Option WorkOrderPhotoType)
  | erasingObject (tenantId : UuidValue) (photoId : Uuid) (url : String)
  | erasingPhoto (photoId : Uuid)
  | reading (access : Access) (objectKey : String)
  | served (access : Access) (objectKey : String) (object : StoredObject)
  | failed (error : ApiError)
  | done

/-- Whether the database or the bucket fails, and the `uuidv4()` of an upload. -/
structure MediaChoice where
  fails : Bool
  fileId : UuidValue

/-- The link of `getPresignedUrl`, or the refusal. -/
def presign (tenantId : Option UuidValue) (objectKey : String) : MediaTask :=
  match checkAccess (tenantId.map uuidText) objectKey with
  | .ok () => .reading (.linked tenantId) objectKey
  | .error e => .failed e

/-- The photo on the tracking page of an order of the tenant; where no link is given the page
shows the bare key. -/
def MediaStore.trackPhoto (store : MediaStore) (workOrderId tenantId : UuidValue)
    (photoId : Uuid) : MediaTask :=
  match store.photos.get? photoId with
  | some photo =>
    if photo.workOrderId = workOrderId then
      match checkAccess (some (uuidText tenantId)) photo.url with
      | .ok () => .reading (.tracked workOrderId tenantId) photo.url
      | .error _ => .done
    else .done
  | none => .done

def MediaRequest.enter (store : MediaStore) (fileId : UuidValue) :
    MediaRequest → MediaStore × MediaTask
  | .uploadWorkOrderPhoto tenantId workOrderId userId file caption photoType =>
    match store.checkPhoto file tenantId workOrderId with
    | .error e => (store, .failed e)
    | .ok () =>
      let objectKey := photoKey tenantId workOrderId fileId file
      (store, .storingPhoto tenantId objectKey file.object
        (photoRow file workOrderId objectKey userId caption photoType))
  | .uploadTenantLogo tenantId file =>
    match checkLogo file with
    | .error e => (store, .failed e)
    | .ok () => (store, .storingLogo tenantId (logoKey tenantId file) file.object)
  | .addPhoto tenantId id url caption photoType userName =>
    if store.workOrders.get? id.toNat = some tenantId then
      (store, .addingPhoto tenantId
        { workOrderId := id
          url := url
          caption := caption
          photoType := photoType.getD .checkin
          uploadedBy := (firstText [some userName]).getD "Personel" })
    else (store, .failed (.notFound "İş emri bulunamadı."))
  | .updateWorkOrderPhoto tenantId photoId caption photoType =>
    match store.ownPhoto tenantId photoId "Bu fotoğrafı güncelleme yetkiniz bulunmamaktadır." with
    | .error e => (store, .failed e)
    | .ok _ => (store, .updatingPhoto photoId caption photoType)
  | .deleteWorkOrderPhoto tenantId photoId =>
    match store.ownPhoto tenantId photoId "Bu fotoğrafı silme yetkiniz bulunmamaktadır." with
    | .error e => (store, .failed e)
    | .ok photo => (store, .erasingObject tenantId photoId photo.url)
  | .getPresignedUrl tenantId objectKey => (store, presign tenantId objectKey)
  | .getFile requestingTenantId objectKey =>
    match checkFile requestingTenantId objectKey with
    | .error e => (store, .failed e)
    | .ok () => (store, .reading (.streamed requestingTenantId) objectKey)
  | .getPublicTrack workOrderId photoId =>
    match store.workOrders.get? workOrderId.toNat with
    | some tenantId => (store, store.trackPhoto workOrderId tenantId photoId)
    | none => (store, .failed (.notFound "İş emri veya araç takip kaydı bulunamadı."))
  | .openWorkOrder tenantId =>
    ({ store with workOrders := store.workOrders.insert tenantId }, .done)

/-- The next statement of a request, or its next call to the bucket. -/
def MediaTask.next (store : MediaStore) (fileId : UuidValue) : MediaTask → MediaStore × MediaTask
  | .asked request => request.enter store fileId
  | .storingPhoto tenantId objectKey object row =>
    (store.put objectKey object, .recordingPhoto tenantId row)
  | .recordingPhoto tenantId row =>
    ({ store with photos := store.photos.insert row }, presign (some tenantId) row.url)
  | .storingLogo tenantId objectKey object =>
    (store.put objectKey object, .recordingLogo tenantId objectKey)
  | .recordingLogo tenantId objectKey =>
    ({ store with
        logoUrls := store.logoUrls.modify tenantId.toNat fun _ =>
          some ("/api/v1/media/files/" ++ objectKey) }, .done)
  | .addingPhoto _ row => ({ store with photos := store.photos.insert row }, .done)
  | .updatingPhoto photoId caption photoType =>
    ({ store with photos := store.photos.modify photoId (·.update caption photoType) }, .done)
  | .erasingObject _ photoId url => (store.remove url, .erasingPhoto photoId)
  | .erasingPhoto photoId => ({ store with photos := store.photos.erase photoId }, .done)
  | .reading access objectKey =>
    match store.objects objectKey with
    | some object => (store, .served access objectKey object)
    | none => (store, .failed (.notFound "Medya dosyası bulunamadı."))
  | task => (store, task)

/-- When the database or the bucket fails the request ends; only a failed deletion in the
bucket is logged and nothing more. -/
def MediaTask.broken : MediaTask → MediaTask
  | .erasingObject _ photoId _ => .erasingPhoto photoId
  | _ => .done

def MediaTask.exec (store : MediaStore) (task : MediaTask) (choice : MediaChoice) :
    MediaStore × MediaTask :=
  if choice.fails then (store, task.broken) else task.next store choice.fileId

abbrev MediaPool := Pool MediaStore MediaTask

abbrev MediaAction := PoolAction MediaRequest MediaChoice

def mediaAct : MediaPool → MediaAction → MediaPool :=
  Pool.act MediaTask.asked MediaTask.exec

end WorksAuto.Media
