import WorksAuto.Lib.Paging
import WorksAuto.Lib.Pool
import WorksAuto.Notifications.QuietHours

/-! The inbox of the application.
`createNotification` writes one row for each member of staff it is meant for,
in two steps: it looks the staff up and then stores. Reading, marking and
deleting are one statement each. -/

namespace WorksAuto.Notifications

open Lib

inductive NotificationType where
  | info | success | warning | error | critical
  deriving DecidableEq, Repr

/-- A row of `notifications`; `metadata` is never read. -/
structure Notification where
  tenantId : Option Uuid
  userId : Option Uuid
  type : NotificationType
  category : String
  title : String
  message : String
  link : Option String
  isRead : Bool
  readAt : Option Instant
  createdAt : Instant
  deriving DecidableEq, Repr

structure InboxDto extends CreateNotificationDto where
  targetRoles : List UserRole
  type : Option NotificationType
  category : String
  title : String
  message : String
  link : Option String

structure Office where
  users : Table User
  notifications : Table Notification

section Create

/-- Whom `createNotification` writes to. -/
def InboxDto.targetUserIds (dto : InboxDto) (users : Table User) : List Uuid :=
  match dto.userId, dto.tenantId with
  | some userId, _ => [userId]
  | none, some tenantId =>
    (users.rows.filter fun (id, user) =>
      user.tenantId = some tenantId && user.isActive &&
      (dto.targetRoles.isEmpty || dto.targetRoles.contains user.role) &&
      decide (some id ≠ dto.actorUserId)).map Prod.fst
  | none, none => []

def InboxDto.row (dto : InboxDto) (now : Instant) (userId : Uuid) : Notification where
  tenantId := dto.tenantId
  userId := some userId
  type := dto.type.getD .info
  category := dto.category
  title := dto.title
  message := dto.message
  link := dto.link
  isRead := false
  readAt := none
  createdAt := now

/-- `createMany`, refused as a whole when one of the users is gone. -/
def Office.createMany (office : Office) (dto : InboxDto) (targets : List Uuid) (now : Instant) :
    Office :=
  if targets.all fun id => (office.users.get? id).isSome then
    { office with
      notifications := (targets.map (dto.row now)).foldl Table.insert office.notifications }
  else office

end Create

structure Reader where
  tenantId : Option Uuid
  userId : Uuid
  deriving DecidableEq, Repr

def Reader.reads (reader : Reader) (n : Notification) : Bool :=
  (reader.tenantId.isNone || n.tenantId = reader.tenantId) && n.userId = some reader.userId

def Notification.markRead (n : Notification) (now : Instant) : Notification :=
  { n with isRead := true, readAt := some now }

namespace Office

variable (office : Office)

def markAsRead (id : Uuid) (reader : Reader) (now : Instant) : Office :=
  { office with
    notifications := office.notifications.modifyIf (fun k n => k = id && reader.reads n)
      (·.markRead now) }

def markAllAsRead (reader : Reader) (now : Instant) : Office :=
  { office with
    notifications := office.notifications.modifyIf (fun _ n => !n.isRead && reader.reads n)
      (·.markRead now) }

def remove (id : Uuid) (reader : Reader) : Office :=
  if (office.notifications.get? id).any reader.reads then
    { office with notifications := office.notifications.erase id }
  else office

def deleteUser (id : Uuid) : Office where
  users := office.users.erase id
  notifications := office.notifications.eraseIf fun n => n.userId = some id

end Office

section Find

structure FindAllOptions where
  reader : Reader
  role : UserRole
  category : Option String
  unreadOnly : Bool
  page : Option ℤ
  limit : Option ℤ

/-- `where.category`. -/
inductive CategoryFilter where
  | all
  | only (category : String)
  | except (category : String)

def CategoryFilter.admits : CategoryFilter → Notification → Bool
  | .all, _ => true
  | .only c, n => n.category = c
  | .except c, n => n.category ≠ c

structure Meta where
  page : ℕ
  limit : ℕ
  total : ℕ
  unreadCount : ℕ
  totalPages : ℕ
  deriving DecidableEq, Repr

structure NotificationPage where
  data : List (Uuid × Notification)
  pages : Meta
  deriving DecidableEq, Repr

def isRestricted (role : UserRole) : Bool := role = .technician || role = .warehouseKeeper

namespace FindAllOptions

variable (o : FindAllOptions)

/-- `Math.max(1, Number(page) || 1)`. -/
def pageNumber : ℕ := (max 1 (o.page.getD 1)).toNat

/-- `Math.min(50, Math.max(1, Number(limit) || 15))`. -/
def pageLimit : ℕ :=
  (min 50 (max 1 (match o.limit with
    | none => 15
    | some n => if n = 0 then 15 else n))).toNat

/-- `where.category` before the role is looked at. -/
def categoryAsked : Option String := o.category.filter fun c => c ≠ "" && c ≠ "ALL"

/-- The filter on the category, or `none` when the answer is empty without a query. -/
def categoryFilter : Option CategoryFilter :=
  match o.categoryAsked with
  | none => some (if isRestricted o.role then .except "FINANCE" else .all)
  | some c => if isRestricted o.role && c = "FINANCE" then none else some (.only c)

def matches? (filter : CategoryFilter) (n : Notification) : Bool :=
  o.reader.reads n && (!o.unreadOnly || !n.isRead) && filter.admits n

end FindAllOptions

/-- `orderBy: { createdAt: 'desc' }`: the database is free in how it orders equal times. -/
structure NewestFirst where
  arrange : List (Uuid × Notification) → List (Uuid × Notification)
  perm : ∀ rows, (arrange rows).Perm rows
  sorted : ∀ rows, (arrange rows).Pairwise fun a b => b.2.createdAt ≤ a.2.createdAt

def findAll (order : NewestFirst) (notifications : List (Uuid × Notification)) (o : FindAllOptions) :
    NotificationPage :=
  match o.categoryFilter with
  | none =>
    { data := []
      pages :=
        { page := o.pageNumber, limit := o.pageLimit, total := 0, unreadCount := 0
          totalPages := 1 } }
  | some filter =>
    let rows := notifications.filter fun r => o.matches? filter r.2
    { data := Paging.page o.pageLimit o.pageNumber (order.arrange rows)
      pages :=
        { page := o.pageNumber
          limit := o.pageLimit
          total := rows.length
          unreadCount := (rows.filter fun r => !r.2.isRead).length
          totalPages := max 1 (Paging.pageCount o.pageLimit rows.length) } }

def getUnreadCount (notifications : List (Uuid × Notification)) (reader : Reader)
    (role : UserRole) : ℕ :=
  (notifications.filter fun r => !r.2.isRead && reader.reads r.2 &&
    !(isRestricted role && r.2.category = "FINANCE")).length

end Find

def reminderRow (tenantId : Uuid) (title message : String) (now : Instant) : Notification where
  tenantId := some tenantId
  userId := none
  type := .info
  category := "APPOINTMENT"
  title := title
  message := message
  link := some "/appointments"
  isRead := false
  readAt := none
  createdAt := now

inductive InboxRequest where
  | create (dto : InboxDto)
  | remind (tenantId : Uuid) (title message : String)
  | markAsRead (id : Uuid) (reader : Reader)
  | markAllAsRead (reader : Reader)
  | remove (id : Uuid) (reader : Reader)
  | deleteUser (id : Uuid)
  /-- any other change of the staff -/
  | staff (change : Table User → Table User)

inductive InboxTask where
  | asked (request : InboxRequest)
  | storing (dto : InboxDto) (targets : List Uuid)
  | done

structure InboxChoice where
  now : Instant
  refused : Bool

def InboxTask.exec (office : Office) (task : InboxTask) (choice : InboxChoice) :
    Office × InboxTask :=
  if choice.refused then (office, .done)
  else
    match task with
    | .asked (.create dto) =>
      if dto.isOwn then (office, .done)
      else (office, .storing dto (dto.targetUserIds office.users))
    | .asked (.remind tenantId title message) =>
      ({ office with
          notifications :=
            office.notifications.insert (reminderRow tenantId title message choice.now) }, .done)
    | .storing dto targets => (office.createMany dto targets choice.now, .done)
    | .asked (.markAsRead id reader) => (office.markAsRead id reader choice.now, .done)
    | .asked (.markAllAsRead reader) => (office.markAllAsRead reader choice.now, .done)
    | .asked (.remove id reader) => (office.remove id reader, .done)
    | .asked (.deleteUser id) => (office.deleteUser id, .done)
    | .asked (.staff change) => ({ office with users := change office.users }, .done)
    | .done => (office, .done)

abbrev InboxPool := Pool Office InboxTask

abbrev InboxAction := PoolAction InboxRequest InboxChoice

def inboxAct : InboxPool → InboxAction → InboxPool := Pool.act InboxTask.asked InboxTask.exec

end WorksAuto.Notifications
