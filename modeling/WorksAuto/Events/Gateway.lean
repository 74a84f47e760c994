import WorksAuto.Auth.Session

/-! The gateway for live events.
A socket that presents a valid access token joins the rooms of its tenant and
of its user; the services push events into rooms. Checking the token asks the
database twice, and anything may happen in between. -/

namespace WorksAuto.Events

open Lib Auth

inductive Room where
  | own (socket : ℕ)
  | tenant (id : Uuid)
  | user (id : Uuid)
  | controlPlane
  | anonymous
  deriving DecidableEq, Repr

structure Payload extends AccessClaims where
  exp : ℤ

/-- `client.data` -/
structure SocketData where
  userId : Uuid
  tenantId : Option Uuid
  role : Option UserRole
  deriving DecidableEq, Repr

/-- What a socket is sent: an event, or the `connection:ready` that greets it. -/
inductive Frame (P : Type) where
  | event (event : String) (payload : P) (timestamp : Instant)
  | connectionReady (userId : Uuid) (tenantId : Option Uuid) (serverTime : Instant)
  deriving DecidableEq, Repr

/-- How far `handleConnection` has come. -/
inductive Handshake where
  | checkingAccount (payload : Payload)
  | checkingSession (payload : Payload) (userId : Uuid) (user : Auth.User)
  | settled

structure Socket (P : Type) where
  rooms : List Room
  data : Option SocketData
  handshake : Handshake
  /-- when the timer disconnects it -/
  expiry : Option Instant
  connected : Bool
  received : List (Frame P)

structure Gateway (P : Type) where
  db : Auth.Db
  sockets : Table (Socket P)

structure Credentials where
  token : Option String
  authorization : Option String

inductive Emission (P : Type) where
  | toTenant (tenantId : Uuid) (event : String) (payload : P)
  | toTenantExcept (tenantId : Uuid) (excludeUserId : Option Uuid) (event : String) (payload : P)
      (targetRoles : List UserRole)
  | toUser (userId : Uuid) (event : String) (payload : P)
  | toAdmin (event : String) (payload : P)
  | broadcast (event : String) (payload : P)

section Socket

variable {P : Type}

namespace Socket

def join (s : Socket P) (rooms : List Room) : Socket P :=
  if s.connected then { s with rooms := s.rooms ++ rooms } else s

def joinAnonymous (s : Socket P) : Socket P :=
  { s.join [.anonymous] with handshake := .settled }

def disconnect (s : Socket P) : Socket P := { s with connected := false, rooms := [] }

def receive (s : Socket P) (frame : Frame P) : Socket P :=
  { s with received := s.received ++ [frame] }

/-- `client.emit`, which reaches nobody who has left. -/
def greet (s : Socket P) (frame : Frame P) : Socket P :=
  if s.connected then s.receive frame else s

variable (s : Socket P)

@[simp] theorem join_connected (rooms : List Room) : (s.join rooms).connected = s.connected := by
  unfold join
  split <;> rfl

@[simp] theorem join_data (rooms : List Room) : (s.join rooms).data = s.data := by
  unfold join
  split <;> rfl

@[simp] theorem join_received (rooms : List Room) : (s.join rooms).received = s.received := by
  unfold join
  split <;> rfl

@[simp] theorem greet_connected (frame : Frame P) : (s.greet frame).connected = s.connected := by
  unfold greet
  split <;> rfl

@[simp] theorem greet_rooms (frame : Frame P) : (s.greet frame).rooms = s.rooms := by
  unfold greet
  split <;> rfl

@[simp] theorem greet_received (frame : Frame P) : (s.greet frame).received =
    if s.connected then s.received ++ [frame] else s.received := by
  unfold greet receive
  split <;> rfl

end Socket

def SocketData.rooms (data : SocketData) : List Room :=
  (data.tenantId.map Room.tenant).toList ++ [.user data.userId] ++
    if data.role = some .superAdmin then [.controlPlane] else []

end Socket

section Token

/-- `text.replace(part, '')` -/
def dropFirst (part : List Char) : List Char → List Char
  | [] => []
  | c :: cs =>
    if part.isPrefixOf (c :: cs) then (c :: cs).drop part.length else c :: dropFirst part cs

/-- The token of a handshake, or `none` for an anonymous client. -/
def rawToken (credentials : Credentials) : Option String :=
  let presented := firstText
    [credentials.token,
      credentials.authorization.map fun text =>
        String.ofList (dropFirst "Bearer ".toList text.toList)]
  presented.filter fun raw => raw ≠ "null" && raw ≠ "undefined" && jsTrim raw ≠ ""

end Token

section Gateway

variable {P : Type} (verify : String → Instant → Option Payload)

namespace Gateway

variable (g : Gateway P)

/-- `handleConnection` up to its first query; `verify` is that of `JwtService`. -/
def connect (credentials : Credentials) (now : Instant) : Gateway P :=
  let socket : Socket P :=
    { rooms := [.own g.sockets.next]
      data := none
      handshake := .settled
      expiry := none
      connected := true
      received := [] }
  { g with
    sockets := g.sockets.insert
      (match (rawToken credentials).bind (verify · now) with
        | some payload => { socket with handshake := .checkingAccount payload }
        | none => socket.joinAnonymous) }

def letIn (payload : Payload) (userId : Uuid) (now : Instant) (s : Socket P) : Socket P :=
  let data : SocketData := { userId, tenantId := payload.tenantId, role := payload.role }
  { (s.join data.rooms).greet (.connectionReady userId payload.tenantId now) with
    data := some data
    handshake := .settled
    expiry := some (payload.exp * 1000) }

/-- The next query of `handleConnection`. -/
def proceed (now : Instant) (fails : Bool) (s : Socket P) : Socket P :=
  match s.handshake with
  | .settled => s
  | .checkingAccount payload =>
    if fails then s.joinAnonymous
    else
      match checkAccount g.db payload.toAccessClaims with
      | .ok (userId, user) => { s with handshake := .checkingSession payload userId user }
      | .error _ => s.joinAnonymous
  | .checkingSession payload userId user =>
    if fails then s.joinAnonymous
    else
      match checkSession now g.db payload.toAccessClaims userId user with
      | .ok _ => letIn payload userId now s
      | .error _ => s.joinAnonymous

def deliver (audience : Socket P → Bool) (frame : Frame P) : Gateway P :=
  { g with sockets := g.sockets.modifyIf (fun _ s => audience s) (·.receive frame) }

def emit (now : Instant) : Emission P → Gateway P
  | .toTenant tenantId event payload =>
    g.deliver (fun s => s.rooms.contains (.tenant tenantId)) (.event event payload now)
  | .toTenantExcept tenantId excludeUserId event payload targetRoles =>
    g.deliver
      (fun s => s.rooms.contains (.tenant tenantId) &&
        !(excludeUserId.isSome && s.data.map (·.userId) = excludeUserId) &&
        (targetRoles.isEmpty || (s.data.bind (·.role)).any targetRoles.contains))
      (.event event payload now)
  | .toUser userId event payload =>
    g.deliver (fun s => s.rooms.contains (.user userId)) (.event event payload now)
  | .toAdmin event payload =>
    g.deliver (fun s => s.rooms.contains .controlPlane) (.event event payload now)
  | .broadcast event payload => g.deliver (·.connected) (.event event payload now)

end Gateway

inductive GatewayAction (P : Type) where
  | connect (credentials : Credentials) (now : Instant)
  | proceed (socket : ℕ) (now : Instant) (fails : Bool)
  | disconnect (socket : ℕ)
  /-- the timer of a socket, which runs out at its expiry or later -/
  | expire (socket : ℕ) (now : Instant)
  | emit (emission : Emission P) (now : Instant)
  /-- any change of accounts, tenants and sessions -/
  | accounts (change : Auth.Db → Auth.Db)

def gatewayAct (g : Gateway P) : GatewayAction P → Gateway P
  | .connect credentials now => g.connect verify credentials now
  | .proceed k now fails => { g with sockets := g.sockets.modify k (g.proceed now fails) }
  | .disconnect k => { g with sockets := g.sockets.modify k Socket.disconnect }
  | .expire k now =>
    { g with
      sockets := g.sockets.modify k fun s =>
        if s.expiry.any (· ≤ now) then s.disconnect else s }
  | .emit emission now => g.emit now emission
  | .accounts change => { g with db := change g.db }

def Gateway.start (db : Auth.Db) : Gateway P where
  db := db
  sockets := .empty

end Gateway

end WorksAuto.Events
