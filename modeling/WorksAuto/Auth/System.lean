import WorksAuto.Auth.Session
import WorksAuto.Lib.Pool
import WorksAuto.Lib.Run

/-! Concurrent sign-ins, refreshes and sign-outs.
Each query of `refreshToken`, `revokeRefreshToken` and `generateTokens` is a part
of its own; there is no transaction around them. `SessionEffect` says once what a
part can do to the refresh tokens, and `exec_effect` that it does nothing else. -/

namespace WorksAuto.Auth

open Lib

/-- What the surroundings decide: the time, and which row an unordered query finds. -/
structure Env where
  now : Instant
  choice : ℕ

inductive Request where
  /-- The end of `verifyOtp` and of `registerTenant`, for the user they have read. -/
  | login (userId : Uuid) (user : User) (tenantId : Option Uuid)
  | refreshToken (token : String)
  | revokeRefreshToken (token : Option String)

inductive Task where
  | openFamily (userId : Uuid) (user : User) (tenantId : Option Uuid)
  | findHashed (token : String)
  | findLegacy (token : String)
  | closeFamily (familyId : Uuid) (answer : Outcome (Option Tokens))
  | claim (id : Uuid) (record : RefreshToken)
  | loadUser (id : Uuid) (record : RefreshToken)
  | rotate (id : Uuid) (record : RefreshToken) (user : User)
  | logout (token : String)
  /-- A refresh that has stored the successor of the token `id`. -/
  | rotated (id : Uuid) (tokens : Tokens)
  | finished (answer : Outcome (Option Tokens))
  deriving Repr

def reuseAnswer : Outcome (Option Tokens) := .error expiredSession

namespace Task

def inspect (now : Instant) (found : Uuid × RefreshToken) : Task :=
  if found.2.reused now then .closeFamily found.2.familyId reuseAnswer
  else .claim found.1 found.2

def afterClaim (id : Uuid) (record : RefreshToken) (count : ℕ) : Task :=
  if count = 1 then .loadUser id record else .finished (.error expiredSession)

def stores (db : Db) (r : Outcome (Db × Tokens)) (next : Tokens → Task) : Db × Task :=
  match r with
  | .error e => (db, .finished (.error e))
  | .ok (db', tokens) => (db', next tokens)

def exec (svc : Services) (db : Db) (t : Task) (env : Env) : Db × Task :=
  match t with
  | .openFamily userId user tenantId =>
    stores db (generateTokens svc env.now db userId user tenantId none)
      fun tokens => .finished (.ok (some tokens))
  | .findHashed token =>
    match checkRefreshToken svc env.now token with
    | .error e => (db, .finished (.error e))
    | .ok _ => (db, (db.findToken (svc.sha256 token)).elim (.findLegacy token) (inspect env.now))
  | .findLegacy token =>
    (db, (db.findToken token).elim (.finished (.error expiredSession)) (inspect env.now))
  | .closeFamily familyId answer => (db.revokeFamily familyId, .finished answer)
  | .claim id record => ((db.claimToken id).1, afterClaim id record (db.claimToken id).2)
  | .loadUser id record =>
    match Auth.loadUser db record.userId with
    | .error e => (db, .finished (.error e))
    | .ok user => (db, .rotate id record user)
  | .rotate id record user =>
    stores db
      (generateTokens svc env.now db record.userId user user.tenantId (some record.familyId))
      (.rotated id)
  | .logout token =>
    (db, (db.findForLogout svc token env.choice).elim (.finished (.ok none))
      fun found => .closeFamily found.2.familyId (.ok none))
  | .rotated id tokens => (db, .rotated id tokens)
  | .finished answer => (db, .finished answer)

end Task

def Request.enter : Request → Task
  | .login userId user tenantId => .openFamily userId user tenantId
  | .refreshToken token => .findHashed token
  | .revokeRefreshToken none => .finished (.ok none)
  | .revokeRefreshToken (some token) => .logout token

abbrev System := Pool Db Task

def System.act (svc : Services) : System → PoolAction Request Env → System :=
  Pool.act Request.enter (Task.exec svc)

def Task.rotating (familyId : Uuid) : Task → Bool
  | .loadUser _ record => record.familyId = familyId
  | .rotate _ record _ => record.familyId = familyId
  | _ => false

/-- A refresh that has claimed the token, and may already have replaced it. -/
def Task.claimed (id : Uuid) : Task → Bool
  | .loadUser i _ => i = id
  | .rotate i _ _ => i = id
  | .rotated i _ => i = id
  | _ => false

def Task.family? : Task → Option Uuid
  | .closeFamily familyId _ => some familyId
  | .claim _ record => some record.familyId
  | .loadUser _ record => some record.familyId
  | .rotate _ record _ => some record.familyId
  | _ => none

/-- The row `db` stores under the next key. -/
structure Db.Stores (db : Db) (row : RefreshToken) (db' : Db) : Prop where
  tokens : db'.refreshTokens = db.refreshTokens.insert row
  uuids : db.uuids < db'.uuids
  valid : row.isRevoked = false

theorem generateTokens_ok {svc : Services} {now : Instant} {db db' : Db} {userId : Uuid}
    {user : User} {tenantId existing : Option Uuid} {tokens : Tokens}
    (h : generateTokens svc now db userId user tenantId existing = .ok (db', tokens)) :
    ∃ row, db.Stores row db' ∧ row.familyId = existing.getD db.uuids := by
  cases existing with
  | none =>
    obtain ⟨u, -, h₁⟩ := Outcome.bind_eq_ok.mp h
    obtain ⟨rfl, -⟩ := Prod.mk.inj (Outcome.pure_eq_ok.mp h₁)
    exact ⟨_, ⟨rfl, Nat.lt_succ_of_lt (Nat.lt_succ_self _), rfl⟩, rfl⟩
  | some familyId =>
    obtain ⟨u, -, h₁⟩ := Outcome.bind_eq_ok.mp h
    obtain ⟨rfl, -⟩ := Prod.mk.inj (Outcome.pure_eq_ok.mp h₁)
    exact ⟨_, ⟨rfl, Nat.lt_succ_self _, rfl⟩, rfl⟩

/-- What a part of a request does to the refresh tokens, and how far it gets. -/
inductive SessionEffect (db : Db) : Task → Db → Task → Prop where
  /-- Nothing is written; a request goes on only with a record of the database. -/
  | quiet {t t' : Task}
      (rotating : ∀ f, t'.rotating f = true → t.rotating f = true)
      (claimed : ∀ i, t'.claimed i = true → t.claimed i = true)
      (family : ∀ f, t'.family? = some f → t.family? = some f ∨
        ∃ k r, db.refreshTokens.get? k = some r ∧ r.familyId = f)
      (read : ∀ i record, t' = .claim i record → db.refreshTokens.get? i = some record) :
      SessionEffect db t db t'
  | opened {userId : Uuid} {user : User} {tenantId : Option Uuid} {row : RefreshToken} {db' : Db}
      {tokens : Tokens} (stored : db.Stores row db') (family : row.familyId = db.uuids) :
      SessionEffect db (.openFamily userId user tenantId) db' (.finished (.ok (some tokens)))
  | rotated {id : Uuid} {record row : RefreshToken} {user : User} {db' : Db} {tokens : Tokens}
      (stored : db.Stores row db') (family : row.familyId = record.familyId) :
      SessionEffect db (.rotate id record user) db' (.rotated id tokens)
  | claimed {id : Uuid} {record row : RefreshToken} (found : db.refreshTokens.get? id = some row)
      (valid : row.isRevoked = false) :
      SessionEffect db (.claim id record)
        { db with refreshTokens := db.refreshTokens.modify id RefreshToken.revoke }
        (.loadUser id record)
  | closed {familyId : Uuid} {answer : Outcome (Option Tokens)} :
      SessionEffect db (.closeFamily familyId answer) (db.revokeFamily familyId)
        (.finished answer)

section Effect

variable {db : Db} {t : Task}

theorem SessionEffect.ends (t : Task) (answer : Outcome (Option Tokens)) :
    SessionEffect db t db (.finished answer) := .quiet nofun nofun nofun nofun

theorem SessionEffect.inspected {now : Instant} {found : Option (Uuid × RefreshToken)}
    {missing : Task} (hfound : ∀ q, found = some q → db.refreshTokens.get? q.1 = some q.2)
    (hmissing : SessionEffect db t db missing) :
    SessionEffect db t db (found.elim missing (Task.inspect now)) := by
  cases found with
  | none => exact hmissing
  | some q =>
    have hq := hfound q rfl
    simp only [Option.elim_some, Task.inspect]
    split_ifs
    · exact .quiet nofun nofun (fun f hf => .inr ⟨q.1, q.2, hq, Option.some.inj hf⟩) nofun
    · refine .quiet nofun nofun (fun f hf => .inr ⟨q.1, q.2, hq, Option.some.inj hf⟩) ?_
      rintro i record he
      obtain ⟨rfl, rfl⟩ := Task.claim.inj he
      exact hq

theorem Db.findToken_some {hash : String} {q : Uuid × RefreshToken}
    (h : db.findToken hash = some q) : db.refreshTokens.get? q.1 = some q.2 :=
  (Table.find?_some h).1

theorem Db.findForLogout_some {svc : Services} {token : String} {choice : ℕ}
    {q : Uuid × RefreshToken} (h : db.findForLogout svc token choice = some q) :
    db.refreshTokens.get? q.1 = some q.2 :=
  (Table.mem_filter_iff.mp (List.mem_of_getElem? h)).1

theorem Task.exec_effect (svc : Services) (db : Db) (t : Task) (env : Env) :
    SessionEffect db t (t.exec svc db env).1 (t.exec svc db env).2 := by
  cases t with
  | openFamily userId user tenantId =>
    simp only [exec, stores]
    split
    · exact .ends _ _
    · next hstored =>
      obtain ⟨row, hrow, hfamily⟩ := generateTokens_ok hstored
      exact .opened hrow hfamily
  | findHashed token =>
    simp only [exec]
    split
    · exact .ends _ _
    · exact .inspected (fun q hq => Db.findToken_some hq) (.quiet nofun nofun nofun nofun)
  | findLegacy token =>
    exact .inspected (fun q hq => Db.findToken_some hq) (.ends _ _)
  | closeFamily familyId answer => exact .closed
  | claim id record =>
    simp only [exec, Db.claimToken]
    split
    · next row hrow =>
      split_ifs with hrevoked
      · exact .ends _ _
      · exact .claimed hrow (by simpa using hrevoked)
    · exact .ends _ _
  | loadUser id record =>
    simp only [exec]
    split
    · exact .ends _ _
    · exact .quiet (fun f hf => hf) (fun i hi => hi) (fun f hf => .inl hf) nofun
  | rotate id record user =>
    simp only [exec, stores]
    split
    · exact .ends _ _
    · next hstored =>
      obtain ⟨row, hrow, hfamily⟩ := generateTokens_ok hstored
      exact .rotated hrow hfamily
  | logout token =>
    simp only [exec]
    cases hfound : db.findForLogout svc token env.choice with
    | none => exact .ends _ _
    | some q =>
      refine .quiet nofun nofun (fun f hf => .inr ⟨q.1, q.2, ?_, Option.some.inj hf⟩) nofun
      exact Db.findForLogout_some hfound
  | rotated id tokens => exact .quiet nofun (fun i hi => hi) nofun nofun
  | finished answer => exact .ends _ _

end Effect

end WorksAuto.Auth
