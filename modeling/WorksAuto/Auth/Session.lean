import WorksAuto.Lib.Table
import WorksAuto.Schema
import WorksAuto.Values

/-! Sessions: the refresh tokens of `AuthService` and the check of access tokens.
A session is a family of refresh tokens; each refresh claims the token it
presents and stores a successor in the same family. Signing, verification and
hashing are parameters. -/

namespace WorksAuto.Auth

open Lib

structure Tenant where
  isActive : Bool
  deriving DecidableEq, Repr

structure User where
  tenantId : Option Uuid
  branchId : Option Uuid
  name : String
  surname : String
  phone : String
  email : Option String
  role : UserRole
  isActive : Bool
  deriving DecidableEq, Repr

structure RefreshToken where
  userId : Uuid
  tokenHash : String
  familyId : Uuid
  isRevoked : Bool
  expiresAt : Instant
  deriving DecidableEq, Repr

/-- The tables a session rests on. `uuids` counts the values that `uuidv4` has
given out, so the next one is new. -/
structure Db where
  tenants : Table Tenant
  users : Table User
  refreshTokens : Table RefreshToken
  uuids : ℕ

/-- What a token says. An access token has no `jti`. -/
structure TokenPayload where
  sub : Uuid
  phone : String
  email : Option String
  role : UserRole
  tenantId : Option Uuid
  branchId : Option Uuid
  name : String
  tokenType : String
  familyId : Uuid
  jti : Option Uuid
  deriving DecidableEq, Repr

/-- Code outside the repository: `JwtService`, of whose verified claims only the
type is read, and SHA-256. -/
structure Services where
  sign : TokenPayload → String → Instant → String
  verify : String → Instant → Option String
  sha256 : String → String

/-- The claims of an access token, as far as `validateAccessIdentity` reads them. -/
structure AccessClaims where
  tokenType : Option String
  sub : Option Uuid
  role : Option UserRole
  tenantId : Option Uuid
  familyId : Option Uuid
  deriving DecidableEq, Repr

structure Tokens where
  accessToken : String
  refreshToken : String
  expiresIn : ℕ
  deriving DecidableEq, Repr

def RefreshToken.revoke (r : RefreshToken) : RefreshToken := { r with isRevoked := true }

def RefreshToken.live (familyId : Uuid) (r : RefreshToken) : Bool :=
  r.familyId = familyId && !r.isRevoked

def Db.hasHash (db : Db) (tokenHash : String) : Bool :=
  !(db.refreshTokens.filter fun r => r.tokenHash = tokenHash).isEmpty

/-- `findUnique` by the hash. -/
def Db.findToken (db : Db) (tokenHash : String) : Option (Uuid × RefreshToken) :=
  db.refreshTokens.find? fun r => r.tokenHash = tokenHash

def expiredSession : ApiError :=
  .unauthorized "30 günlük oturum süreniz doldu. Lütfen SMS ile tekrar giriş yapınız."

section RefreshToken

variable (svc : Services)

def checkRefreshToken (now : Instant) (token : String) : Outcome Unit :=
  match svc.verify token now with
  | none => .error expiredSession
  | some tokenType => Outcome.reject (tokenType ≠ "refresh") expiredSession

def RefreshToken.reused (now : Instant) (r : RefreshToken) : Bool :=
  r.isRevoked || r.expiresAt ≤ now

/-- `updateMany` over a family. -/
def Db.revokeFamily (db : Db) (familyId : Uuid) : Db :=
  { db with
    refreshTokens := db.refreshTokens.modifyIf (fun _ r => r.familyId = familyId) RefreshToken.revoke }

/-- The conditional `updateMany` that claims a token, with the number of its rows. -/
def Db.claimToken (db : Db) (id : Uuid) : Db × ℕ :=
  match db.refreshTokens.get? id with
  | some r =>
    if r.isRevoked then (db, 0)
    else ({ db with refreshTokens := db.refreshTokens.modify id RefreshToken.revoke }, 1)
  | none => (db, 0)

def Db.tenantOf? (db : Db) (user : User) : Option Tenant := user.tenantId.bind db.tenants.get?

def loadUser (db : Db) (userId : Uuid) : Outcome User := do
  let user ← Outcome.required (db.users.get? userId) expiredSession
  Outcome.reject (!user.isActive) expiredSession
  Outcome.reject ((db.tenantOf? user).any fun t => !t.isActive) expiredSession
  pure user

def thirtyDays : ℤ := 30 * 24 * 60 * 60 * 1000

/-- `generateTokens`: one new row, in the given family or in a new one. -/
def generateTokens (now : Instant) (db : Db) (userId : Uuid) (user : User)
    (tenantId existingFamilyId : Option Uuid) : Outcome (Db × Tokens) := do
  let (familyId, uuids) := match existingFamilyId with
    | some familyId => (familyId, db.uuids)
    | none => (db.uuids, db.uuids + 1)
  let isSuperAdmin := user.role = .superAdmin
  let payload : TokenPayload :=
    { sub := userId, phone := user.phone, email := user.email, role := user.role, tenantId,
      branchId := user.branchId, name := user.name ++ " " ++ user.surname,
      tokenType := "access", familyId, jti := none }
  let accessToken := svc.sign payload (if isSuperAdmin then "12h" else "15m") now
  let refreshToken :=
    svc.sign { payload with tokenType := "refresh", jti := some uuids } "30d" now
  let tokenHash := svc.sha256 refreshToken
  Outcome.reject (db.hasHash tokenHash) (.database "P2002")
  let row : RefreshToken :=
    { userId, tokenHash, familyId, isRevoked := false, expiresAt := now + thirtyDays }
  pure ({ db with refreshTokens := db.refreshTokens.insert row, uuids := uuids + 1 },
    { accessToken, refreshToken, expiresIn := if isSuperAdmin then 12 * 3600 else 900 })

end RefreshToken

/-- `findFirst` without an order: any of the rows that match. -/
def Db.findForLogout (svc : Services) (db : Db) (token : String) (choice : ℕ) :
    Option (Uuid × RefreshToken) :=
  let found := db.refreshTokens.filter fun r =>
    r.tokenHash = svc.sha256 token || r.tokenHash = token
  found[choice % found.length]?

section Access

def inactiveAccount : ApiError :=
  .unauthorized "This account or its permissions are no longer active."

/-- The first query of `validateAccessIdentity` and what it decides. -/
def checkAccount (db : Db) (payload : AccessClaims) : Outcome (Uuid × User) := do
  Outcome.reject (payload.tokenType ≠ some "access") (.unauthorized "An access token is required.")
  let sub ← Outcome.required payload.sub (.unauthorized "An access token is required.")
  let user ← Outcome.required (db.users.get? sub) inactiveAccount
  Outcome.reject (!user.isActive) inactiveAccount
  Outcome.reject (some user.role ≠ payload.role) inactiveAccount
  Outcome.reject (user.tenantId ≠ payload.tenantId) inactiveAccount
  Outcome.reject (user.tenantId.isSome && !(db.tenantOf? user).any Tenant.isActive) inactiveAccount
  pure (sub, user)

def checkSession (now : Instant) (db : Db) (payload : AccessClaims) (userId : Uuid) (user : User) :
    Outcome User := do
  if user.role = .superAdmin then pure user
  else
    let familyId ← Outcome.required payload.familyId (.unauthorized "Session is missing.")
    let session := db.refreshTokens.find? fun r =>
      r.userId = userId && r.familyId = familyId && !r.isRevoked && now < r.expiresAt
    Outcome.reject session.isNone (.unauthorized "Session has been revoked.")
    pure user

def validateAccessIdentity (now : Instant) (db later : Db) (payload : AccessClaims) :
    Outcome User := do
  let (userId, user) ← checkAccount db payload
  checkSession now later payload userId user

end Access

end WorksAuto.Auth
