import WorksAuto.Auth.System

/-! Session families over all interleavings.
A token is claimed by at most one refresh, so a family never has more than one
valid token, counting the refreshes that have claimed one and not yet stored its
successor. A revocation ends a family for good when no refresh of the family is
between those two queries; otherwise the successor is stored after it. -/

namespace WorksAuto.Auth

open Lib

def Db.Numbered (db : Db) : Prop :=
  ∀ k r, db.refreshTokens.get? k = some r → r.familyId < db.uuids

/-- So have those of the requests, and a token to be claimed is still of the
family that was read. -/
structure Task.Numbered (db : Db) (t : Task) : Prop where
  family : ∀ f, t.family? = some f → f < db.uuids
  read : ∀ i record, t = .claim i record →
    ∃ r, db.refreshTokens.get? i = some r ∧ r.familyId = record.familyId

section Step

variable {db db' : Db} {t t' : Task}

theorem Task.numbered_enter (db : Db) (r : Request) : r.enter.Numbered db := by
  cases r with
  | login userId user tenantId => exact ⟨nofun, nofun⟩
  | refreshToken token => exact ⟨nofun, nofun⟩
  | revokeRefreshToken token => cases token <;> exact ⟨nofun, nofun⟩

theorem SessionEffect.mono (h : SessionEffect db t db' t') :
    db.uuids ≤ db'.uuids ∧ ∀ k r, db.refreshTokens.get? k = some r →
      ∃ r', db'.refreshTokens.get? k = some r' ∧ r'.familyId = r.familyId := by
  cases h with
  | quiet => exact ⟨le_rfl, fun k r hr => ⟨r, hr, rfl⟩⟩
  | opened stored | rotated stored =>
    refine ⟨stored.uuids.le, fun k r hr => ⟨r, ?_, rfl⟩⟩
    rw [stored.tokens]
    exact Table.get?_insert_of_some hr _
  | claimed =>
    refine ⟨le_rfl, fun k r hr => ?_⟩
    simp only [Table.get?_modify, hr, Option.map_some, Option.some.injEq, exists_eq_left']
    split_ifs <;> rfl
  | closed =>
    refine ⟨le_rfl, fun k r hr => ?_⟩
    simp only [Db.revokeFamily, Table.get?_modifyIf, hr, Option.map_some, Option.some.injEq,
      exists_eq_left']
    split_ifs <;> rfl

theorem SessionEffect.numbered (h : SessionEffect db t db' t') (hdb : db.Numbered)
    (ht : t.Numbered db) : db'.Numbered := by
  cases h with
  | quiet => exact hdb
  | opened stored family =>
    intro k r hr
    rw [stored.tokens, Table.get?_insert] at hr
    have hgrown := stored.uuids
    split_ifs at hr with hk
    · cases hr
      rw [family]
      exact hgrown
    · exact (hdb k r hr).trans hgrown
  | @rotated _ record _ _ _ _ stored family =>
    intro k r hr
    rw [stored.tokens, Table.get?_insert] at hr
    have hgrown := stored.uuids
    split_ifs at hr with hk
    · cases hr
      rw [family]
      exact (ht.family record.familyId rfl).trans hgrown
    · exact (hdb k r hr).trans hgrown
  | claimed =>
    intro k r hr
    obtain ⟨old, hold, rfl⟩ := Table.of_get?_modify hr
    split_ifs <;> exact hdb k old hold
  | closed =>
    intro k r hr
    obtain ⟨old, hold, rfl⟩ := Table.of_get?_modifyIf hr
    split_ifs <;> exact hdb k old hold

theorem SessionEffect.task_numbered (h : SessionEffect db t db' t') {u : Task}
    (hu : u.Numbered db) : u.Numbered db' := by
  obtain ⟨hgrown, hrows⟩ := h.mono
  refine ⟨fun f hf => (hu.family f hf).trans_le hgrown, fun i record he => ?_⟩
  obtain ⟨r, hr, hfamily⟩ := hu.read i record he
  obtain ⟨r', hr', hsame⟩ := hrows i r hr
  exact ⟨r', hr', hsame.trans hfamily⟩

theorem SessionEffect.next_numbered (h : SessionEffect db t db' t') (hdb : db.Numbered)
    (ht : t.Numbered db) : t'.Numbered db' := by
  cases h with
  | quiet rotating claimed family read =>
    refine ⟨fun f hf => ?_, fun i record he => ⟨record, read i record he, rfl⟩⟩
    rcases family f hf with hold | ⟨k, r, hr, rfl⟩
    · exact ht.family f hold
    · exact hdb k r hr
  | opened => exact ⟨nofun, nofun⟩
  | rotated => exact ⟨nofun, nofun⟩
  | claimed => exact ⟨ht.family, nofun⟩
  | closed => exact ⟨nofun, nofun⟩

end Step

section Counting

def Db.liveTokens (db : Db) (familyId : Uuid) : ℕ :=
  db.refreshTokens.sumBy fun r => if r.live familyId then 1 else 0

def Db.unspent (db : Db) (id : Uuid) : ℕ :=
  (db.refreshTokens.get? id).elim 1 fun r => if r.isRevoked then 0 else 1

def Task.rotations (familyId : Uuid) (t : Task) : ℕ := if t.rotating familyId then 1 else 0

def Task.claims (id : Uuid) (t : Task) : ℕ := if t.claimed id then 1 else 0

variable {db db' : Db} {t t' : Task}

theorem ite_le_ite {b c : Bool} (h : b = true → c = true) :
    (if b then 1 else 0) ≤ (if c then 1 else 0) := by
  cases b <;> cases c <;> simp_all

theorem RefreshToken.live_revoke (familyId : Uuid) (r : RefreshToken) :
    r.revoke.live familyId = false := by
  simp [RefreshToken.live, RefreshToken.revoke]

theorem Db.Stores.liveTokens {row : RefreshToken} (h : db.Stores row db') (familyId : Uuid) :
    db'.liveTokens familyId = db.liveTokens familyId + if row.familyId = familyId then 1 else 0 := by
  simp [Db.liveTokens, h.tokens, Table.sumBy_insert, RefreshToken.live, h.valid]

theorem SessionEffect.liveTokens (h : SessionEffect db t db' t') (ht : t.Numbered db)
    (familyId : Uuid) : db'.liveTokens familyId + t'.rotations familyId ≤
      db.liveTokens familyId + t.rotations familyId + if familyId = db.uuids then 1 else 0 := by
  cases h with
  | quiet rotating =>
    have hle : t'.rotations familyId ≤ t.rotations familyId := ite_le_ite (rotating familyId)
    omega
  | opened stored family =>
    rw [stored.liveTokens, family]
    simp [Task.rotations, Task.rotating, eq_comm]
  | rotated stored family =>
    rw [stored.liveTokens, family]
    simp [Task.rotations, Task.rotating]
  | @claimed id record row found valid =>
    obtain ⟨r, hr, hfamily⟩ := ht.read id record rfl
    cases found.symm.trans hr
    have hsum := Table.sumBy_modify found RefreshToken.revoke
      fun r => if r.live familyId then 1 else 0
    simp only [RefreshToken.live_revoke, Bool.false_eq_true, if_false, add_zero] at hsum
    have hlive : row.live familyId = decide (record.familyId = familyId) := by
      simp [RefreshToken.live, valid, hfamily]
    rw [hlive] at hsum
    simp only [Db.liveTokens, Task.rotations, Task.rotating, ← hsum]
    simp
  | @closed f answer =>
    have hle : (db.revokeFamily f).liveTokens familyId ≤ db.liveTokens familyId := by
      unfold Db.liveTokens Db.revokeFamily Table.modifyIf Table.sumBy
      rw [List.map_map]
      apply List.sum_le_sum
      intro q _
      by_cases hq : q.2.familyId = f <;> simp [hq, RefreshToken.live_revoke]
    have hnone : (Task.finished answer).rotations familyId = 0 := rfl
    omega

theorem SessionEffect.unspent (h : SessionEffect db t db' t') (id : Uuid) :
    db'.unspent id + t'.claims id ≤ db.unspent id + t.claims id := by
  have hstored : ∀ row, db.Stores row db' → db'.unspent id = db.unspent id := by
    intro row hrow
    unfold Db.unspent
    rw [hrow.tokens, Table.get?_insert]
    split_ifs with hid
    · subst hid
      simp [Table.get?_next, hrow.valid]
    · rfl
  cases h with
  | quiet rotating claimed =>
    have hle : t'.claims id ≤ t.claims id := ite_le_ite (claimed id)
    omega
  | opened stored =>
    rw [hstored _ stored]
    exact Nat.add_le_add_left (Nat.zero_le _) _
  | rotated stored =>
    rw [hstored _ stored]
    exact le_rfl
  | @claimed i record row found valid =>
    by_cases hid : id = i
    · subst hid
      simp [Db.unspent, Table.get?_modify, found, valid, RefreshToken.revoke, Task.claims,
        Task.claimed]
    · simp [Db.unspent, Table.get?_modify, hid, Ne.symm hid, Task.claims, Task.claimed]
  | @closed f answer =>
    have hle : (db.revokeFamily f).unspent id ≤ db.unspent id := by
      unfold Db.unspent Db.revokeFamily
      rw [Table.get?_modifyIf]
      cases db.refreshTokens.get? id with
      | none => exact le_rfl
      | some r =>
        by_cases hr : r.familyId = f <;> simp [hr, RefreshToken.revoke]
    have hnone : (Task.finished answer).claims id = 0 := rfl
    omega

end Counting

section Rotation

/-- Valid tokens and rotations under way of one family, and the uses of one token. -/
structure System.SingleUse (p : System) : Prop where
  numbered : Pool.Holds Db.Numbered Task.Numbered p
  families : ∀ f, p.total (Db.liveTokens · f) (Task.rotations f) ≤ 1
  tokens : ∀ i, p.total (Db.unspent · i) (Task.claims i) ≤ 1

variable {svc : Services}

theorem numbered_act {p : System} (h : Pool.Holds Db.Numbered Task.Numbered p)
    (a : PoolAction Request Env) : Pool.Holds Db.Numbered Task.Numbered (System.act svc p a) := by
  cases a with
  | start r => exact h.start (Task.numbered_enter _ r)
  | step k env =>
    apply h.step
    intro t ht
    have heffect := Task.exec_effect svc p.shared t env
    have hown := h.2 k t ht
    exact ⟨heffect.numbered h.1 hown, heffect.next_numbered h.1 hown,
      fun u hu => heffect.task_numbered hu⟩

theorem Task.Numbered.rotating {db : Db} {t : Task} {f : Uuid} (h : t.Numbered db)
    (ht : t.rotating f = true) : f < db.uuids := by
  cases t with
  | loadUser id record =>
    obtain rfl : record.familyId = f := by simpa [Task.rotating] using ht
    exact h.family _ rfl
  | rotate id record user =>
    obtain rfl : record.familyId = f := by simpa [Task.rotating] using ht
    exact h.family _ rfl
  | _ => cases ht

theorem next_family_unused {p : System} (h : Pool.Holds Db.Numbered Task.Numbered p) :
    p.total (Db.liveTokens · p.shared.uuids) (Task.rotations p.shared.uuids) = 0 := by
  have hlive : p.shared.liveTokens p.shared.uuids = 0 := by
    apply Table.sumBy_eq_zero
    intro k r hr
    have hne : r.familyId ≠ p.shared.uuids := (h.1 k r hr).ne
    simp [RefreshToken.live, hne]
  have hrotations : p.threads.sumBy (Task.rotations p.shared.uuids) = 0 := by
    apply Table.sumBy_eq_zero
    intro k t ht
    rw [Task.rotations, if_neg]
    exact fun hrotating => lt_irrefl _ ((h.2 k t ht).rotating hrotating)
  rw [Pool.total, hlive, hrotations]

theorem Request.rotations_enter (r : Request) (f : Uuid) : r.enter.rotations f = 0 := by
  cases r with
  | revokeRefreshToken token => cases token <;> rfl
  | _ => rfl

theorem Request.claims_enter (r : Request) (i : Uuid) : r.enter.claims i = 0 := by
  cases r with
  | revokeRefreshToken token => cases token <;> rfl
  | _ => rfl

theorem System.SingleUse.act {p : System} (h : p.SingleUse) (a : PoolAction Request Env) :
    (System.act svc p a).SingleUse := by
  refine ⟨numbered_act h.numbered a, fun f => ?_, fun i => ?_⟩
  · cases a with
    | start r =>
      rw [System.act, Pool.total_start (r.rotations_enter f)]
      exact h.families f
    | step k env =>
      have hstep := Pool.total_step_le Request.enter (Task.exec svc) (Db.liveTokens · f)
        (Task.rotations f) fun t ht =>
          (Task.exec_effect svc p.shared t env).liveTokens (h.numbered.2 k t ht) f
      apply hstep.trans
      split_ifs with hf
      · rw [hf, next_family_unused h.numbered]
      · exact h.families f
  · cases a with
    | start r =>
      rw [System.act, Pool.total_start (r.claims_enter i)]
      exact h.tokens i
    | step k env =>
      have hstep := Pool.total_step_le Request.enter (Task.exec svc) (Db.unspent · i)
        (Task.claims i) (k := k) (d := 0) fun t _ =>
          (Task.exec_effect svc p.shared t env).unspent i
      exact hstep.trans (h.tokens i)

end Rotation

/-- Families before any request: numbered, with one valid token each at most. -/
structure Db.SingleUse (db : Db) : Prop where
  numbered : db.Numbered
  families : ∀ f, db.liveTokens f ≤ 1

theorem Db.SingleUse.idle {db : Db} (h : db.SingleUse) : System.SingleUse (Pool.idle db) := by
  refine ⟨Pool.holds_idle h.numbered, h.families, fun i => ?_⟩
  have hle : db.unspent i ≤ 1 := by
    unfold Db.unspent
    cases db.refreshTokens.get? i with
    | none => exact le_rfl
    | some r => cases hr : r.isRevoked <;> simp [hr]
  exact hle

/-- The number of successors that refreshes have stored for a token. -/
def Task.successors (id : Uuid) : Task → ℕ
  | .rotated i _ => if i = id then 1 else 0
  | _ => 0

/-- In every interleaving a family has at most one valid token, and a token at
most one successor. -/
theorem one_live_token (svc : Services) (db : Db) (actions : List (PoolAction Request Env))
    (hdb : db.SingleUse) :
    Always (System.act svc)
      (fun p => (∀ f, p.shared.liveTokens f ≤ 1) ∧
        ∀ i, p.threads.sumBy (Task.successors i) ≤ 1) (Pool.idle db) actions := by
  have hruns : Always (System.act svc) System.SingleUse (Pool.idle db) actions :=
    always_of_invariant (fun p a h => h.act a) hdb.idle actions
  refine hruns.mono fun p hp => ⟨fun f => ?_, fun i => ?_⟩
  · exact (Nat.le_add_right _ _).trans (hp.families f)
  · have hle : p.threads.sumBy (Task.successors i) ≤ p.threads.sumBy (Task.claims i) := by
      apply Table.sumBy_le_sumBy
      intro k t _
      cases t <;> simp [Task.successors, Task.claims, Task.claimed]
    exact hle.trans ((Nat.le_add_left _ _).trans (hp.tokens i))

section Revocation

variable {svc : Services}

def Db.Closed (db : Db) (familyId : Uuid) : Prop :=
  ∀ k r, db.refreshTokens.get? k = some r → r.familyId = familyId → r.isRevoked = true

/-- The family that a step revokes, on a reuse detection or a logout. -/
def System.revokes? (p : System) : PoolAction Request Env → Option Uuid
  | .start _ => none
  | .step k _ =>
    match p.threads.get? k with
    | some (.closeFamily familyId _) => some familyId
    | _ => none

/-- A family is revoked only while none of its refreshes is between its claim
and its insert. -/
def System.RevokesSettled (p : System) (a : PoolAction Request Env) : Prop :=
  ∀ f ∈ p.revokes? a, p.threads.filter (Task.rotating f) = []

instance (p : System) (a : PoolAction Request Env) : Decidable (p.RevokesSettled a) :=
  inferInstanceAs (Decidable (∀ f ∈ p.revokes? a, p.threads.filter (Task.rotating f) = []))

theorem System.revokes?_eq_some {p : System} {a : PoolAction Request Env} {f : Uuid}
    (h : p.revokes? a = some f) :
    ∃ k env answer, a = .step k env ∧ p.threads.get? k = some (.closeFamily f answer) := by
  cases a with
  | start r => cases h
  | step k env =>
    simp only [revokes?] at h
    split at h
    · next answer hk =>
      obtain rfl := Option.some.inj h
      exact ⟨k, env, answer, rfl, hk⟩
    · cases h

/-- No token of the family is valid, and its access tokens are worth nothing. -/
structure Db.Dead (db : Db) (familyId : Uuid) : Prop where
  closed : db.Closed familyId
  refused : ∀ now earlier payload user, payload.familyId = some familyId →
    validateAccessIdentity now earlier db payload = .ok user → user.role = .superAdmin

theorem checkSession_ok {now : Instant} {db : Db} {payload : AccessClaims} {userId familyId : Uuid}
    {user user' : User} (hclosed : db.Closed familyId) (hpayload : payload.familyId = some familyId)
    (h : checkSession now db payload userId user = .ok user') : user'.role = .superAdmin := by
  unfold checkSession at h
  split_ifs at h with hadmin
  · obtain rfl := Outcome.pure_eq_ok.mp h
    exact hadmin
  · obtain ⟨f, hf, h₁⟩ := Outcome.bind_eq_ok.mp h
    obtain rfl := Option.some.inj (hpayload.symm.trans (Outcome.required_eq_ok.mp hf))
    obtain ⟨u, hsession, -⟩ := Outcome.bind_eq_ok.mp h₁
    rw [Outcome.reject_eq_ok, Option.isNone_eq_false_iff, Option.isSome_iff_exists] at hsession
    obtain ⟨q, hq⟩ := hsession
    obtain ⟨hrow, hmatch⟩ := Table.find?_some hq
    simp only [Bool.and_eq_true, decide_eq_true_eq, Bool.not_eq_true'] at hmatch
    have hrevoked := hclosed q.1 q.2 hrow hmatch.1.1.2
    rw [hrevoked] at hmatch
    exact absurd hmatch.1.2 (by decide)

theorem Db.Closed.dead {db : Db} {familyId : Uuid} (h : db.Closed familyId) :
    db.Dead familyId := by
  refine ⟨h, fun now earlier payload user hpayload haccess => ?_⟩
  obtain ⟨⟨userId, account⟩, -, hsession⟩ := Outcome.bind_eq_ok.mp haccess
  exact checkSession_ok h hpayload hsession

variable {db db' : Db} {t t' : Task}

theorem SessionEffect.closed_of (h : SessionEffect db t db' t') (ht : t.Numbered db) {f : Uuid}
    (hused : f < db.uuids) (hclosed : db.Closed f) (hidle : t.rotating f = false) :
    db'.Closed f ∧ t'.rotating f = false := by
  have hstored : ∀ row, db.Stores row db' → row.familyId ≠ f → db'.Closed f := by
    intro row hrow hne k r hr hfamily
    rw [hrow.tokens, Table.get?_insert] at hr
    split_ifs at hr
    · cases hr
      exact absurd hfamily hne
    · exact hclosed k r hr hfamily
  cases h with
  | quiet rotating =>
    refine ⟨hclosed, Bool.eq_false_iff.mpr fun hr => ?_⟩
    rw [rotating f hr] at hidle
    cases hidle
  | opened stored family =>
    refine ⟨hstored _ stored ?_, rfl⟩
    rw [family]
    exact hused.ne'
  | rotated stored family =>
    refine ⟨hstored _ stored ?_, rfl⟩
    rw [family]
    simpa [Task.rotating] using hidle
  | @claimed id record row found valid =>
    obtain ⟨r, hr, hfamily⟩ := ht.read id record rfl
    cases found.symm.trans hr
    have hne : record.familyId ≠ f := by
      intro hf
      rw [hclosed id row found (hfamily.trans hf)] at valid
      cases valid
    refine ⟨fun k r hr hf => ?_, by simpa [Task.rotating] using hne⟩
    obtain ⟨old, hold, rfl⟩ := Table.of_get?_modify hr
    split_ifs at hf ⊢
    · rfl
    · exact hclosed k old hold hf
  | closed =>
    refine ⟨fun k r hr hf => ?_, rfl⟩
    obtain ⟨old, hold, rfl⟩ := Table.of_get?_modifyIf hr
    split_ifs at hf ⊢
    · rfl
    · exact hclosed k old hold hf

theorem Db.closed_revokeFamily (db : Db) (f : Uuid) : (db.revokeFamily f).Closed f := by
  intro k r hr hf
  obtain ⟨old, hold, rfl⟩ := Table.of_get?_modifyIf hr
  split_ifs at hf ⊢ with hfamily
  · rfl
  · exact absurd hf (by simpa using hfamily)

/-- A revoked family: all its tokens are, and none of its refreshes is under way. -/
def System.Revoked (f : Uuid) : System → Prop :=
  Pool.Holds (fun db => db.Closed f ∧ f < db.uuids) fun _ t => t.rotating f = false

theorem System.Revoked.act {f : Uuid} {p : System} (h : p.Revoked f)
    (hn : Pool.Holds Db.Numbered Task.Numbered p) (a : PoolAction Request Env) :
    (System.act svc p a).Revoked f := by
  cases a with
  | start r =>
    apply h.start
    cases r with
    | revokeRefreshToken token => cases token <;> rfl
    | _ => rfl
  | step k env =>
    apply h.step
    intro t ht
    have heffect := Task.exec_effect svc p.shared t env
    obtain ⟨hclosed, hidle⟩ := heffect.closed_of (hn.2 k t ht) h.1.2 h.1.1 (h.2 k t ht)
    exact ⟨⟨hclosed, h.1.2.trans_le heffect.mono.1⟩, hidle, fun u hu => hu⟩

theorem System.revoked_of_revokes {f : Uuid} {p : System} {a : PoolAction Request Env}
    (hn : Pool.Holds Db.Numbered Task.Numbered p) (hsettled : p.RevokesSettled a)
    (h : p.revokes? a = some f) : (System.act svc p a).Revoked f := by
  have hidle : ∀ k t, p.threads.get? k = some t → t.rotating f = false := by
    intro k t ht
    by_contra hr
    have hmem : (k, t) ∈ p.threads.filter (Task.rotating f) :=
      Table.mem_filter_iff.mpr ⟨ht, by simpa using hr⟩
    rw [hsettled f h] at hmem
    cases hmem
  obtain ⟨k, env, answer, rfl, hk⟩ := System.revokes?_eq_some h
  have hused : f < p.shared.uuids := (hn.2 k _ hk).family f rfl
  rw [System.act, Pool.act_step_some hk]
  refine ⟨⟨p.shared.closed_revokeFamily f, hused⟩, fun i t ht => ?_⟩
  obtain ⟨u, hu, rfl⟩ := Table.of_get?_modify ht
  split_ifs
  · rfl
  · exact hidle i u hu

/-- Once a settled revocation has taken effect, the family stays dead. -/
theorem revoked_family_stays_dead (svc : Services) (db : Db)
    (actions : List (PoolAction Request Env)) (hdb : db.Numbered)
    (h : EachStep (System.act svc) System.RevokesSettled (Pool.idle db) actions)
    (familyId : Uuid) :
    EverAfter (System.act svc) (fun p a => p.revokes? a = some familyId)
      (fun p => p.shared.Dead familyId)
      (Pool.idle db) actions := by
  have hever : EverAfter (System.act svc) (fun p a => p.revokes? a = some familyId)
      (System.Revoked familyId) (Pool.idle db) actions :=
    everAfter_of_step (I := Pool.Holds Db.Numbered Task.Numbered)
      (fun p a hp _ => numbered_act hp a)
      (fun p a hp ha hr => System.revoked_of_revokes hp ha hr)
      (fun p a hp hr _ => hr.act hp a) (Pool.holds_idle hdb) h
  exact fun before a after he hr => (hever before a after he hr).mono fun p hp => hp.1.1.dead

end Revocation

section Sample

/-- A signature that shows the type of the token and its number. -/
def sampleServices : Services where
  sign payload _ _ := payload.tokenType ++ " " ++ Nat.repr (payload.jti.getD 0)
  verify token _ := if token.startsWith "refresh" then some "refresh" else some "access"
  sha256 token := "sha256 " ++ token

def owner : User where
  tenantId := some 0
  branchId := none
  name := "Ayşe"
  surname := "Usta"
  phone := "905551112233"
  email := none
  role := .owner
  isActive := true

def sampleDb : Db where
  tenants := .ofList [{ isActive := true }]
  users := .ofList [owner]
  refreshTokens := .empty
  uuids := 0

def sampleEnv : Env where
  now := 0
  choice := 0

/-- Sign in, and start to refresh up to the claim of the token. -/
def startedRefresh : List (PoolAction Request Env) :=
  [.start (.login 0 owner (some 0)), .step 0 sampleEnv,
    .start (.refreshToken "refresh 1"), .step 1 sampleEnv, .step 1 sampleEnv]

def endedRefresh : List (PoolAction Request Env) := [.step 1 sampleEnv, .step 1 sampleEnv]

def signOut : List (PoolAction Request Env) :=
  [.start (.revokeRefreshToken (some "refresh 1")), .step 2 sampleEnv, .step 2 sampleEnv]

theorem sampleDb_singleUse : sampleDb.SingleUse := ⟨nofun, fun _ => Nat.zero_le 1⟩

example :
    (run (System.act sampleServices) (Pool.idle sampleDb)
      (startedRefresh ++ endedRefresh)).shared.liveTokens 0 = 1 := by decide +kernel

/-- Two refreshes read one token and both try to claim it. -/
theorem sample_one_live_token :
    Always (System.act sampleServices)
      (fun p => (∀ f, p.shared.liveTokens f ≤ 1) ∧
        ∀ i, p.threads.sumBy (Task.successors i) ≤ 1) (Pool.idle sampleDb)
      [.start (.login 0 owner (some 0)), .step 0 sampleEnv, .start (.refreshToken "refresh 1"),
        .start (.refreshToken "refresh 1"), .step 1 sampleEnv, .step 2 sampleEnv,
        .step 1 sampleEnv, .step 2 sampleEnv, .step 1 sampleEnv, .step 1 sampleEnv] :=
  one_live_token sampleServices sampleDb _ sampleDb_singleUse

/-- A sign-out after the refresh is final. -/
theorem sample_family_stays_dead :
    EverAfter (System.act sampleServices) (fun p a => p.revokes? a = some 0)
      (fun p => p.shared.Dead 0) (Pool.idle sampleDb)
      (startedRefresh ++ endedRefresh ++ signOut ++ [.start (.refreshToken "refresh 2")]) := by
  apply revoked_family_stays_dead
  · exact sampleDb_singleUse.numbered
  · decide +kernel

/-- A sign-out between the two ends of a refresh leaves its new token valid. -/
theorem interrupted_refresh_revives :
    ¬ EverAfter (System.act sampleServices) (fun p a => p.revokes? a = some 0)
      (fun p => p.shared.Dead 0) (Pool.idle sampleDb)
      (startedRefresh ++ signOut ++ endedRefresh) := by
  intro h
  have hdead := (h (startedRefresh ++ signOut.take 2) (.step 2 sampleEnv) endedRefresh rfl
    (by decide +kernel)).last
  have hvalid : ((run (System.act sampleServices) (Pool.idle sampleDb)
      (startedRefresh ++ signOut ++ endedRefresh)).shared.refreshTokens.get? 1).map
        (fun r => (r.familyId, r.isRevoked)) = some (0, false) := by decide +kernel
  obtain ⟨r, hr, hfields⟩ := Option.map_eq_some_iff.mp hvalid
  obtain ⟨hfamily, hlive⟩ := Prod.mk.inj hfields
  have hrevoked := hdead.closed 1 r hr hfamily
  rw [hlive] at hrevoked
  cases hrevoked

end Sample

end WorksAuto.Auth
