import WorksAuto.Tenants.RowPolicies

/-! The calls of the Prisma service.
A call outside a transaction opens one of its own, with the settings of the tenant of the request;
a call inside one joins it, if the tenant is the same. The operations of the service add the tenant
to their arguments, those of the transaction's own client do not. What an operation of Prisma asks
the database is a parameter, and so are the unique indexes other than the primary keys. -/

namespace WorksAuto.Tenants

open Lib

section Arguments

variable {V : Type}

/-- A `tenantId` in an argument: a text, or an object such as a filter. -/
inductive ArgTenant (V : Type) where
  | text (s : String)
  | object (v : V)

/-- The object under `where` or `data`. -/
structure ArgObject (V : Type) where
  tenantId : Option (ArgTenant V)
  others : List (String × V)

structure Args (V : Type) where
  where? : Option (ArgObject V)
  data : Option (ArgObject V)
  others : List (String × V)

def Args.empty : Args V := ⟨none, none, []⟩

/-- `o?.tenantId && o.tenantId !== tenantId`. -/
def namesOther (o : Option (ArgObject V)) (tenantId : String) : Bool :=
  match o.bind ArgObject.tenantId with
  | none => false
  | some (.text s) => s ≠ "" && s ≠ tenantId
  | some (.object _) => true

/-- `{ ...o, tenantId }`. -/
def withTenant (o : Option (ArgObject V)) (tenantId : String) : ArgObject V :=
  ⟨some (.text tenantId), (o.map ArgObject.others).getD []⟩

def filteredOperations : List String :=
  ["findUnique", "findUniqueOrThrow", "findFirst", "findFirstOrThrow", "findMany", "count",
    "aggregate", "groupBy", "update", "updateMany", "delete", "deleteMany", "upsert"]

def scopedArgs (operation tenantId : String) (args : Args V) : Outcome (Args V) := do
  let filtered := filteredOperations.contains operation
  Outcome.reject (filtered && namesOther args.where? tenantId)
    (.forbidden "Cross-tenant access is not allowed.")
  let args :=
    if filtered then { args with where? := some (withTenant args.where? tenantId) } else args
  Outcome.reject (["update", "updateMany", "upsert"].contains operation &&
      namesOther args.data tenantId) (.forbidden "Cross-tenant writes are not allowed.")
  Outcome.reject (operation = "create" && namesOther args.data tenantId)
    (.forbidden "Cross-tenant writes are not allowed.")
  return if operation = "create" then { args with data := some (withTenant args.data tenantId) }
    else args

end Arguments

section Context

structure Cls where
  userRole : Option String
  tenantId : Option String

/-- `PrismaService.tenantId`, where there is no context outside requests. -/
def currentTenant (cls : Option Cls) : Option String :=
  cls.bind fun c =>
    if c.userRole = some "SUPER_ADMIN" then none else c.tenantId.filter (· ≠ "")

/-- `set_config` at the start of a transaction. -/
def Settings.ofTenant (tenantId : Option String) : Settings :=
  ⟨tenantId.getD "", if tenantId.isSome then "off" else "on"⟩

end Context

section Programs

variable {α V : Type} {indexes : List (TenantRow α) → Bool}

abbrev Result (V : Type) := Except (Refusal Violation ApiError) V

abbrev TenantQueries (α V : Type) := Queries (TenantRow α) Violation ApiError V

/-- What Prisma asks the database for an operation of a delegate. -/
abbrev Prisma (α V : Type) := TableName → String → Args V → TenantQueries α V

inductive PrismaCall (α V : Type) where
  | delegate (model : TableName) (operation : String) (input : Option (Args V))
  | raw (query : RowQuery (TenantRow α) ApiError V)

def PrismaCall.ofService (prisma : Prisma α V) (cls : Option Cls) :
    PrismaCall α V → Outcome (TenantQueries α V)
  | .delegate model operation input =>
    match currentTenant cls with
    | some tenantId =>
      if model.hasTenantId then
        (scopedArgs operation tenantId (input.getD .empty)).map (prisma model operation)
      else .ok (prisma model operation (input.getD .empty))
    | none => .ok (prisma model operation (input.getD .empty))
  | .raw query => .ok (.query query .answer)

def PrismaCall.ofTx (prisma : Prisma α V) : PrismaCall α V → TenantQueries α V
  | .delegate model operation input => prisma model operation (input.getD .empty)
  | .raw query => .query query .answer

inductive Client where
  | service | tx

/-- Calls one after the other, each chosen by the results of those before it. The callback of a
transaction gets the transaction's client. -/
inductive Program (α V : Type) where
  | done (result : Result V)
  | call (client : Client) (c : PrismaCall α V) (next : Result V → Program α V)
  | transaction (callback : Program α V) (next : Result V → Program α V)

/-- What the storage of the transactions holds while one is open. -/
structure Transaction (indexes : List (TenantRow α) → Bool) where
  tenantId : Option String
  session : RowSession (constraints indexes)

namespace Transaction

def exec (qs : TenantQueries α V) (t : Transaction indexes) : Result V × Transaction indexes :=
  let (result, session) := qs.exec (Settings.ofTenant t.tenantId).policy t.session
  (result, { t with session := session })

/-- `inContext` while a transaction is open. -/
def join (cls : Option Cls) (callback : Transaction indexes → Result V × Transaction indexes)
    (t : Transaction indexes) : Result V × Transaction indexes :=
  if t.tenantId ≠ currentTenant cls then
    (.error (.failed (.forbidden "Cannot change tenant inside a transaction.")), t)
  else callback t

end Transaction

structure Server (indexes : List (TenantRow α) → Bool) where
  database : RowDatabase (constraints indexes)
  violations : List Violation

def Server.rows (s : Server indexes) : List (TenantRow α) := s.database.rows

/-- `inContext` while no transaction is open: it opens one, which is committed when the callback
succeeds, though the server rolls back what is aborted. -/
def Server.transact (cls : Option Cls)
    (callback : Transaction indexes → Result V × Transaction indexes) (s : Server indexes) :
    Result V × Server indexes :=
  let (result, t) := callback ⟨currentTenant cls, s.database, false, s.violations⟩
  let committed := result.isOk && !t.session.aborted
  (result, ⟨if committed then t.session.database else s.database, t.session.violations⟩)

def noClient : ApiError := .plain "Cannot read properties of undefined"

/-- A program inside an open transaction, with or without the transaction's client. -/
def Program.within (prisma : Prisma α V) (cls : Option Cls) :
    Program α V → Bool → Transaction indexes → Result V × Transaction indexes
  | .done result, _, t => (result, t)
  | .call .service c next, handle, t =>
    match c.ofService prisma cls with
    | .error e => (next (.error (.failed e))).within prisma cls handle t
    | .ok qs =>
      let (result, t) := t.join cls (Transaction.exec qs)
      (next result).within prisma cls handle t
  | .call .tx c next, handle, t =>
    if handle then
      let (result, t) := t.exec (c.ofTx prisma)
      (next result).within prisma cls handle t
    else (next (.error (.failed noClient))).within prisma cls handle t
  | .transaction callback next, handle, t =>
    let (result, t) := t.join cls (callback.within prisma cls true)
    (next result).within prisma cls handle t

def Program.run (prisma : Prisma α V) (cls : Option Cls) :
    Program α V → Server indexes → Result V × Server indexes
  | .done result, s => (result, s)
  | .call .service c next, s =>
    match c.ofService prisma cls with
    | .error e => (next (.error (.failed e))).run prisma cls s
    | .ok qs =>
      let (result, s) := s.transact cls (Transaction.exec qs)
      (next result).run prisma cls s
  | .call .tx _ next, s => (next (.error (.failed noClient))).run prisma cls s
  | .transaction callback next, s =>
    let (result, s) := s.transact cls (callback.within prisma cls true)
    (next result).run prisma cls s

end Programs

end WorksAuto.Tenants
