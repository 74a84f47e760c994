import WorksAuto.Events.Audience

/-! Whom a socket hears for.
What a socket is let in with was vetted for that very socket: it was opened with a
token, the token's account was in order at a later moment, and a session of the
account was live at a later moment still. -/

namespace WorksAuto.Events

open Lib Auth

variable {P : Type} (verify : String → Instant → Option Payload) (db : Auth.Db)

/-- Socket `k` was opened in the run with a token that says this. -/
def Presented (labels : List (GatewayAction P)) (k : ℕ) (payload : Payload) : Prop :=
  ∃ before credentials now after raw, labels = before ++ .connect credentials now :: after ∧
    (run (gatewayAct verify) (.start db) before).sockets.next = k ∧
    rawToken credentials = some raw ∧ verify raw now = some payload

/-- The account was active, with the role and the tenant that it is let in with, and an
active tenant. -/
def InOrder (d : SocketData) (account : Auth.User) (now : Auth.Db) : Prop :=
  now.users.get? d.userId = some account ∧ account.isActive = true ∧
  account.tenantId = d.tenantId ∧ some account.role = d.role ∧
  ∀ t, d.tenantId = some t → ∃ tenant, now.tenants.get? t = some tenant ∧ tenant.isActive = true

/-- The account has a live session of the family, unless it is an operator's. -/
def HasSession (userId : Uuid) (account : Auth.User) (familyId : Option Uuid) (time : Instant)
    (now : Auth.Db) : Prop :=
  account.role = .superAdmin ∨ ∃ k r, now.refreshTokens.get? k = some r ∧ r.userId = userId ∧
    some r.familyId = familyId ∧ r.isRevoked = false ∧ time < r.expiresAt

/-- After it was opened, the account that the token names was found in order for socket `k`. -/
def Checked (labels : List (GatewayAction P)) (k : ℕ) (payload : Payload) (userId : Uuid)
    (account : Auth.User) : Prop :=
  ∃ before now after, labels = before ++ .proceed k now false :: after ∧
    Presented verify db before k payload ∧ payload.sub = some userId ∧
    InOrder ⟨userId, payload.tenantId, payload.role⟩ account
      (run (gatewayAct verify) (.start db) before).db

/-- After that, a session of the token's family was found, and socket `k` was let in. -/
def Vetted (labels : List (GatewayAction P)) (k : ℕ) (d : SocketData) : Prop :=
  ∃ before now after payload account, labels = before ++ .proceed k now false :: after ∧
    Checked verify db before k payload d.userId account ∧
    d = ⟨d.userId, payload.tenantId, payload.role⟩ ∧
    HasSession d.userId account payload.familyId now
      (run (gatewayAct verify) (.start db) before).db

section Checks

theorem inOrder_of_checkAccount {now : Auth.Db} {payload : Payload} {userId : Uuid}
    {account : Auth.User} (h : checkAccount now payload.toAccessClaims = .ok (userId, account)) :
    payload.sub = some userId ∧
      InOrder ⟨userId, payload.tenantId, payload.role⟩ account now := by
  unfold checkAccount at h
  obtain ⟨u₁, -, h⟩ := Outcome.bind_eq_ok.mp h
  obtain ⟨sub, hsub, h⟩ := Outcome.bind_eq_ok.mp h
  obtain ⟨user, huser, h⟩ := Outcome.bind_eq_ok.mp h
  obtain ⟨u₂, hactive, h⟩ := Outcome.bind_eq_ok.mp h
  obtain ⟨u₃, hrole, h⟩ := Outcome.bind_eq_ok.mp h
  obtain ⟨u₄, htenant, h⟩ := Outcome.bind_eq_ok.mp h
  obtain ⟨u₅, hactiveTenant, h⟩ := Outcome.bind_eq_ok.mp h
  obtain ⟨rfl, rfl⟩ := Prod.mk.inj (Outcome.pure_eq_ok.mp h)
  rw [Outcome.required_eq_ok] at hsub huser
  rw [Outcome.reject_eq_ok] at hactive hrole htenant hactiveTenant
  have htenant' : user.tenantId = payload.tenantId := by simpa using htenant
  refine ⟨hsub, huser, by simpa using hactive, htenant', by simpa using hrole, fun t ht => ?_⟩
  simp only at ht
  rw [htenant', ht, Option.isSome_some, Bool.true_and, Bool.not_eq_false', Option.any_eq_true]
    at hactiveTenant
  obtain ⟨tenant, hfound, hon⟩ := hactiveTenant
  rw [Db.tenantOf?, htenant', ht, Option.bind_some] at hfound
  exact ⟨tenant, hfound, hon⟩

theorem hasSession_of_checkSession {now : Instant} {later : Auth.Db} {payload : Payload}
    {userId : Uuid} {account user : Auth.User}
    (h : checkSession now later payload.toAccessClaims userId account = .ok user) :
    HasSession userId account payload.familyId now later := by
  unfold checkSession at h
  split at h
  next hadmin => exact .inl hadmin
  · obtain ⟨familyId, hfamily, h⟩ := Outcome.bind_eq_ok.mp h
    obtain ⟨u, hsession, -⟩ := Outcome.bind_eq_ok.mp h
    rw [Outcome.reject_eq_ok, Option.isNone_eq_false_iff, Option.isSome_iff_exists] at hsession
    obtain ⟨⟨k, r⟩, hfound⟩ := hsession
    obtain ⟨hrow, hmatch⟩ := Table.find?_some hfound
    simp only [Bool.and_eq_true, decide_eq_true_eq, Bool.not_eq_true'] at hmatch
    exact .inr ⟨k, r, hrow, hmatch.1.1.1, by rw [Outcome.required_eq_ok.mp hfamily, hmatch.1.1.2],
      hmatch.1.2, hmatch.2⟩

end Checks

def Greeted (labels : List (GatewayAction P)) (k : ℕ) (frame : Frame P) : Prop :=
  ∃ before now after d, labels = before ++ .proceed k now false :: after ∧
    frame = .connectionReady d.userId d.tenantId now ∧
    Vetted verify db (before ++ [.proceed k now false]) k d

/-- A push of the run for what socket `k`, connected, had been let in with by then. -/
def Pushed (labels : List (GatewayAction P)) (k : ℕ) (frame : Frame P) : Prop :=
  ∃ before emission now after s, labels = before ++ .emit emission now :: after ∧
    frame = emission.frame now ∧
    (run (gatewayAct verify) (.start db) before).sockets.get? k = some s ∧
    s.connected = true ∧ emission.admits s.data = true ∧
    ∀ d, s.data = some d → Vetted verify db before k d

structure SocketKnown (labels : List (GatewayAction P)) (k : ℕ) (s : Socket P) : Prop where
  presented : ∀ payload, s.handshake = .checkingAccount payload →
    Presented verify db labels k payload
  checked : ∀ payload userId account, s.handshake = .checkingSession payload userId account →
    Checked verify db labels k payload userId account
  vetted : ∀ d, s.data = some d → Vetted verify db labels k d
  heard : ∀ frame ∈ s.received, Greeted verify db labels k frame ∨ Pushed verify db labels k frame

structure Known (before : List (GatewayAction P)) (g : Gateway P) : Prop where
  reached : g = run (gatewayAct verify) (.start db) before
  inRooms : g.InRooms
  sockets : ∀ k s, g.sockets.get? k = some s → SocketKnown verify db before k s

section Known

variable {verify db} {before : List (GatewayAction P)} {k : ℕ} {s : Socket P}

theorem split_append {α : Type} {labels before after : List α} {l : α}
    (h : labels = before ++ l :: after) (more : List α) :
    labels ++ more = before ++ l :: (after ++ more) := by
  rw [h, List.append_assoc, List.cons_append]

theorem Presented.mono {payload : Payload} (h : Presented verify db before k payload)
    (more : List (GatewayAction P)) : Presented verify db (before ++ more) k payload := by
  obtain ⟨first, credentials, now, after, raw, he, h⟩ := h
  exact ⟨first, credentials, now, after ++ more, raw, split_append he more, h⟩

theorem Checked.mono {payload : Payload} {userId : Uuid} {account : Auth.User}
    (h : Checked verify db before k payload userId account) (more : List (GatewayAction P)) :
    Checked verify db (before ++ more) k payload userId account := by
  obtain ⟨first, now, after, he, h⟩ := h
  exact ⟨first, now, after ++ more, split_append he more, h⟩

theorem Vetted.mono {d : SocketData} (h : Vetted verify db before k d)
    (more : List (GatewayAction P)) : Vetted verify db (before ++ more) k d := by
  obtain ⟨first, now, after, payload, account, he, h⟩ := h
  exact ⟨first, now, after ++ more, payload, account, split_append he more, h⟩

theorem heard_mono {frame : Frame P}
    (h : Greeted verify db before k frame ∨ Pushed verify db before k frame)
    (more : List (GatewayAction P)) :
    Greeted verify db (before ++ more) k frame ∨ Pushed verify db (before ++ more) k frame := by
  rcases h with ⟨first, now, after, d, he, h⟩ | ⟨first, emission, now, after, s, he, h⟩
  · exact .inl ⟨first, now, after ++ more, d, split_append he more, h⟩
  · exact .inr ⟨first, emission, now, after ++ more, s, split_append he more, h⟩

theorem SocketKnown.mono (h : SocketKnown verify db before k s) (more : List (GatewayAction P)) :
    SocketKnown verify db (before ++ more) k s where
  presented payload hphase := (h.presented payload hphase).mono more
  checked payload userId account hphase := (h.checked payload userId account hphase).mono more
  vetted d hd := (h.vetted d hd).mono more
  heard frame hframe := heard_mono (h.heard frame hframe) more

theorem SocketKnown.of_settled (hsettled : s.handshake = .settled)
    (hvetted : ∀ d, s.data = some d → Vetted verify db before k d)
    (hheard : ∀ frame ∈ s.received,
      Greeted verify db before k frame ∨ Pushed verify db before k frame) :
    SocketKnown verify db before k s := by
  refine ⟨?_, ?_, hvetted, hheard⟩
  · intro payload hphase
    rw [hsettled] at hphase
    cases hphase
  · intro payload userId account hphase
    rw [hsettled] at hphase
    cases hphase

theorem SocketKnown.of_opened {payload : Payload} (hphase : s.handshake = .checkingAccount payload)
    (hdata : s.data = none) (hreceived : s.received = [])
    (hpresented : Presented verify db before k payload) : SocketKnown verify db before k s := by
  refine ⟨fun payload' hphase' => ?_, fun payload' userId account hphase' => ?_, fun d hd => ?_,
    fun frame hframe => ?_⟩
  · cases hphase.symm.trans hphase'
    exact hpresented
  · cases hphase.symm.trans hphase'
  · cases hdata.symm.trans hd
  · rw [hreceived] at hframe
    cases hframe

theorem SocketKnown.joinAnonymous (h : SocketKnown verify db before k s) :
    SocketKnown verify db before k s.joinAnonymous := by
  refine .of_settled rfl (fun d hd => h.vetted d ?_) fun frame hframe => h.heard frame ?_
  · simpa [Socket.joinAnonymous] using hd
  · simpa [Socket.joinAnonymous] using hframe

theorem SocketKnown.disconnect (h : SocketKnown verify db before k s) :
    SocketKnown verify db before k s.disconnect :=
  ⟨h.presented, h.checked, h.vetted, h.heard⟩

theorem SocketKnown.letIn (h : SocketKnown verify db before k s) {payload : Payload}
    {userId : Uuid} {account : Auth.User} (hcheck : Checked verify db before k payload userId account)
    {now : Instant} (hsession : HasSession userId account payload.familyId now
      (run (gatewayAct verify) (.start db) before).db) :
    SocketKnown verify db (before ++ [.proceed k now false]) k
      (Gateway.letIn payload userId now s) := by
  have hvetted : Vetted verify db (before ++ [.proceed k now false]) k
      ⟨userId, payload.tenantId, payload.role⟩ :=
    ⟨before, now, [], payload, account, rfl, hcheck, rfl, hsession⟩
  have hold := h.mono [.proceed k now false]
  refine .of_settled rfl (fun d hd => ?_) fun frame hframe => ?_
  · cases hd
    exact hvetted
  · simp only [Gateway.letIn, Socket.greet_received, Socket.join_connected,
      Socket.join_received] at hframe
    split at hframe
    · rcases List.mem_append.mp hframe with hframe | hgreeting
      · exact hold.heard frame hframe
      · exact .inl ⟨before, now, [], _, rfl, List.mem_singleton.mp hgreeting, hvetted⟩
    · exact hold.heard frame hframe

theorem SocketKnown.proceed (h : SocketKnown verify db before k s) {g : Gateway P}
    (hg : g = run (gatewayAct verify) (.start db) before) (now : Instant) (fails : Bool) :
    SocketKnown verify db (before ++ [.proceed k now fails]) k (g.proceed now fails s) := by
  have hold := h.mono [.proceed k now fails]
  unfold Gateway.proceed
  split
  · exact hold
  next payload hphase =>
    split
    · exact hold.joinAnonymous
    next hfails =>
      obtain rfl : fails = false := by simpa using hfails
      split
      next userId account hcheck =>
        obtain ⟨hsub, horder⟩ := inOrder_of_checkAccount hcheck
        refine ⟨nofun, ?_, hold.vetted, hold.heard⟩
        intro payload' userId' account' hphase'
        cases hphase'
        exact ⟨before, now, [], rfl, h.presented payload hphase, hsub, hg ▸ horder⟩
      · exact hold.joinAnonymous
  next payload userId account hphase =>
    split
    · exact hold.joinAnonymous
    next hfails =>
      obtain rfl : fails = false := by simpa using hfails
      split
      next user hcheck =>
        exact h.letIn (h.checked payload userId account hphase)
          (hg ▸ hasSession_of_checkSession hcheck)
      · exact hold.joinAnonymous

theorem SocketKnown.receive (h : SocketKnown verify db before k s) {emission : Emission P}
    {now : Instant} (hs : (run (gatewayAct verify) (.start db) before).sockets.get? k = some s)
    (hconnected : s.connected = true) (hadmits : emission.admits s.data = true) :
    SocketKnown verify db (before ++ [.emit emission now]) k (s.receive (emission.frame now)) := by
  have hold := h.mono [.emit emission now]
  refine ⟨hold.presented, hold.checked, hold.vetted, fun frame hframe => ?_⟩
  rcases List.mem_append.mp hframe with hframe | hnew
  · exact hold.heard frame hframe
  · exact .inr ⟨before, emission, now, [], s, rfl, List.mem_singleton.mp hnew, hs, hconnected,
      hadmits, h.vetted⟩

theorem socketKnown_connect {g : Gateway P} {credentials : Credentials} {now : Instant}
    (hg : g = run (gatewayAct verify) (.start db) before)
    (hold : ∀ s, g.sockets.get? k = some s → SocketKnown verify db before k s)
    (hs : (g.connect verify credentials now).sockets.get? k = some s) :
    SocketKnown verify db (before ++ [.connect credentials now]) k s := by
  simp only [Gateway.connect, Table.get?_insert] at hs
  split at hs
  next hk =>
    obtain rfl := Option.some.inj hs
    split
    next payload htoken =>
      obtain ⟨raw, hraw, hverify⟩ := Option.bind_eq_some_iff.mp htoken
      have hpresented : Presented verify db (before ++ [.connect credentials now]) k payload :=
        ⟨before, credentials, now, [], raw, rfl, by rw [← hg, hk], hraw, hverify⟩
      exact .of_opened rfl rfl rfl hpresented
    next =>
      refine SocketKnown.joinAnonymous (.of_settled rfl (fun d hd => ?_) fun frame hframe => ?_)
      · cases hd
      · cases hframe
  next => exact (hold s hs).mono _

theorem Known.act {g : Gateway P} (h : Known verify db before g)
    (a : GatewayAction P) :
    Known verify db (before ++ [a]) (gatewayAct verify g a) := by
  refine ⟨by rw [run_append, ← h.reached]; rfl, h.inRooms.act a, fun k s hs => ?_⟩
  have hmodify : ∀ (i : ℕ) (f : Socket P → Socket P),
      (∀ t, SocketKnown verify db before i t → SocketKnown verify db (before ++ [a]) i (f t)) →
      (g.sockets.modify i f).get? k = some s → SocketKnown verify db (before ++ [a]) k s := by
    intro i f hf hfound
    obtain ⟨old, hold, rfl⟩ := Table.of_get?_modify hfound
    have hknown := h.sockets k old hold
    split
    next hk => exact hk ▸ hf old (hk ▸ hknown)
    next => exact hknown.mono [a]
  cases a with
  | connect credentials now => exact socketKnown_connect h.reached (h.sockets k) hs
  | proceed i now fails => exact hmodify i _ (fun t ht => ht.proceed h.reached now fails) hs
  | disconnect i => exact hmodify i _ (fun t ht => ht.disconnect.mono _) hs
  | expire i now =>
    refine hmodify i _ (fun t ht => ?_) hs
    split
    · exact ht.disconnect.mono _
    · exact ht.mono _
  | emit emission now =>
    rw [gatewayAct, emit_get? h.inRooms] at hs
    obtain ⟨old, hold, rfl⟩ := Option.map_eq_some_iff.mp hs
    have hknown := h.sockets k old hold
    split
    next hadmits =>
      obtain ⟨hconnected, hadmits⟩ := Bool.and_eq_true_iff.mp hadmits
      exact hknown.receive (h.reached ▸ hold) hconnected hadmits
    next => exact hknown.mono _
  | accounts change => exact (h.sockets k s hs).mono _

end Known

/-- Whatever happens, each frame that a socket has got is its own greeting, or was pushed for
what that very socket, still connected, had been let in with: after it had presented a token,
the token's account had been found in order, and after that a session of it. -/
theorem pushes_vetted (verify : String → Instant → Option Payload) (db : Auth.Db)
    (labels : List (GatewayAction P)) (k : ℕ) (s : Socket P) (frame : Frame P)
    (hs : (run (gatewayAct verify) (.start db) labels).sockets.get? k = some s)
    (hframe : frame ∈ s.received) :
    Greeted verify db labels k frame ∨ Pushed verify db labels k frame := by
  have hstart : Known verify db ([] : List (GatewayAction P)) (.start db) :=
    ⟨rfl, (fun i t ht => by cases ht), fun i t ht => by cases ht⟩
  have hknown : Known verify db labels (run (gatewayAct verify) (.start db) labels) :=
    history_run (P := Known verify db) hstart (fun before a h => h.act a) labels
  exact (hknown.sockets k s hs).heard frame hframe

def sampleAccounts : Auth.Db where
  tenants := .ofList [⟨true⟩]
  users := .ofList
    [⟨some 0, none, "Can", "Usta", "+905321112233", none, .technician, true⟩]
  refreshTokens := .ofList [⟨0, "hash", 4, false, 5000⟩]
  uuids := 5

def sampleVerify (raw : String) (_ : Instant) : Option Payload :=
  if raw = "jwt" then
    some
      { tokenType := some "access", sub := some 0, role := some .technician, tenantId := some 0,
        familyId := some 4, exp := 9 }
  else none

/-- He connects, and a push for the technicians of the tenant follows. -/
def sampleConnection : List (GatewayAction String) :=
  [.connect ⟨some "jwt", none⟩ 10, .proceed 0 11 false, .proceed 0 12 false,
    .emit (.toTenantExcept 0 (some 3) "notification:new" "İş emri" [.technician]) 20]

theorem pushes_vetted_sample :
    Greeted sampleVerify sampleAccounts sampleConnection 0
        (.event "notification:new" "İş emri" 20) ∨
      Pushed sampleVerify sampleAccounts sampleConnection 0
        (.event "notification:new" "İş emri" 20) :=
  pushes_vetted sampleVerify sampleAccounts sampleConnection 0
    { rooms := [.own 0, .tenant 0, .user 0]
      data := some ⟨0, some 0, some .technician⟩
      handshake := .settled
      expiry := some 9000
      connected := true
      received := [.connectionReady 0 (some 0) 12, .event "notification:new" "İş emri" 20] }
    (.event "notification:new" "İş emri" 20) rfl (by simp)

end WorksAuto.Events
