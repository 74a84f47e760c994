import WorksAuto.Events.Gateway
import WorksAuto.Lib.View

/-! Who hears what.
A socket hears a greeting when it is let in, and the emissions meant for the
account it was let in for, from then until it leaves, in their order and once each. -/

namespace WorksAuto.Events

open Lib Auth

variable {P : Type}

def Emission.admits (data : Option SocketData) : Emission P → Bool
  | .toTenant tenantId _ _ => data.any fun d => d.tenantId = some tenantId
  | .toTenantExcept tenantId excludeUserId _ _ targetRoles =>
    data.any fun d => d.tenantId = some tenantId && excludeUserId ≠ some d.userId &&
      (targetRoles.isEmpty || d.role.any targetRoles.contains)
  | .toUser userId _ _ => data.any fun d => d.userId = userId
  | .toAdmin _ _ => data.any fun d => d.role = some .superAdmin
  | .broadcast _ _ => true

def Emission.frame (now : Instant) : Emission P → Frame P
  | .toTenant _ event payload | .toTenantExcept _ _ event payload _ | .toUser _ event payload
  | .toAdmin event payload | .broadcast event payload => .event event payload now

structure Listener (P : Type) where
  data : Option SocketData
  connected : Bool
  received : List (Frame P)

inductive ListenerEvent (P : Type) where
  | opened
  | admitted (data : SocketData) (now : Instant)
  | emitted (emission : Emission P) (now : Instant)
  | left

namespace Listener

def hear (l : Listener P) (emission : Emission P) (now : Instant) : Listener P :=
  if l.connected && emission.admits l.data then
    { l with received := l.received ++ [emission.frame now] }
  else l

def welcome (l : Listener P) (data : SocketData) (now : Instant) : Listener P where
  data := some data
  connected := l.connected
  received :=
    if l.connected then l.received ++ [.connectionReady data.userId data.tenantId now]
    else l.received

def apply (o : Option (Listener P)) : ListenerEvent P → Option (Listener P)
  | .opened => some { data := none, connected := true, received := [] }
  | .admitted data now => o.map (·.welcome data now)
  | .emitted emission now => o.map (·.hear emission now)
  | .left => o.map fun l => { l with connected := false }

end Listener

def Socket.listener (s : Socket P) : Listener P where
  data := s.data
  connected := s.connected
  received := s.received

def Gateway.listener (k : ℕ) (g : Gateway P) : Option (Listener P) :=
  (g.sockets.get? k).map Socket.listener

def Gateway.admission? (g : Gateway P) (now : Instant) (fails : Bool) (s : Socket P) :
    Option SocketData :=
  match s.handshake with
  | .checkingSession payload userId user =>
    if fails then none
    else (checkSession now g.db payload.toAccessClaims userId user).toOption.map fun _ =>
      { userId, tenantId := payload.tenantId, role := payload.role }
  | _ => none

def listenerEvents (k : ℕ) (g : Gateway P) : GatewayAction P → List (ListenerEvent P)
  | .connect _ _ => if g.sockets.next = k then [.opened] else []
  | .proceed i now fails =>
    if i = k then
      (((g.sockets.get? k).bind (g.admission? now fails)).map (.admitted · now)).toList
    else []
  | .disconnect i => if i = k then [.left] else []
  | .expire i now =>
    if i = k && (g.sockets.get? k).any fun s => s.expiry.any (· ≤ now) then [.left] else []
  | .emit emission now => [.emitted emission now]
  | .accounts _ => []

section Rooms

/-- A room that more than one socket can be in for what it is let in with. -/
def Room.isShared : Room → Bool
  | .own _ | .anonymous => false
  | _ => true

/-- The shared rooms of a socket are those it was let in for, while it is connected. -/
structure Socket.InRooms (s : Socket P) : Prop where
  mem : ∀ r : Room, r.isShared = true →
    (r ∈ s.rooms ↔ s.connected = true ∧ ∃ d, s.data = some d ∧ r ∈ d.rooms)
  unsettled : s.handshake ≠ .settled → s.data = none

def Gateway.InRooms (g : Gateway P) : Prop :=
  ∀ k s, g.sockets.get? k = some s → s.InRooms

theorem SocketData.mem_rooms_tenant (d : SocketData) (t : Uuid) :
    Room.tenant t ∈ d.rooms ↔ d.tenantId = some t := by
  unfold rooms
  split <;> simp

theorem SocketData.mem_rooms_user (d : SocketData) (u : Uuid) :
    Room.user u ∈ d.rooms ↔ d.userId = u := by
  unfold rooms
  split <;> simp [eq_comm]

theorem SocketData.mem_rooms_controlPlane (d : SocketData) :
    Room.controlPlane ∈ d.rooms ↔ d.role = some .superAdmin := by
  unfold rooms
  split <;> simp_all

namespace Socket.InRooms

variable {s : Socket P}

theorem joinAnonymous (h : s.InRooms) : s.joinAnonymous.InRooms := by
  refine ⟨fun r hr => ?_, fun hne => absurd rfl hne⟩
  have hmem := h.mem r hr
  have hne : r ≠ .anonymous := by
    rintro rfl
    cases hr
  unfold Socket.joinAnonymous Socket.join
  split <;> simpa [hne] using hmem

theorem disconnect (h : s.InRooms) : s.disconnect.InRooms :=
  ⟨fun r _ => by simp [Socket.disconnect], h.unsettled⟩

theorem receive (h : s.InRooms) (frame : Frame P) : (s.receive frame).InRooms :=
  ⟨h.mem, h.unsettled⟩

theorem letIn (h : s.InRooms) (hs : s.handshake ≠ .settled) (payload : Payload) (userId : Uuid)
    (now : Instant) : (Gateway.letIn payload userId now s).InRooms := by
  refine ⟨fun r hr => ?_, fun hne => absurd rfl hne⟩
  have hmem := h.mem r hr
  rw [h.unsettled hs] at hmem
  simp only [Gateway.letIn, Socket.greet_rooms, Socket.greet_connected, Socket.join_connected]
  unfold Socket.join
  cases hc : s.connected with
  | false => simpa [hc] using hmem
  | true =>
    have hout : r ∉ s.rooms := fun hin => by simpa using hmem.mp hin
    simp [hout]

theorem proceed (h : s.InRooms) (g : Gateway P) (now : Instant) (fails : Bool) :
    (g.proceed now fails s).InRooms := by
  unfold Gateway.proceed
  split
  · exact h
  next payload hphase =>
    split
    · exact h.joinAnonymous
    · split
      · exact ⟨h.mem, fun _ => h.unsettled (by simp [hphase])⟩
      · exact h.joinAnonymous
  next payload userId user hphase =>
    split
    · exact h.joinAnonymous
    · split
      · exact h.letIn (by simp [hphase]) payload userId now
      · exact h.joinAnonymous

end Socket.InRooms

theorem Gateway.InRooms.modify {g : Gateway P} (h : g.InRooms) {k : ℕ} {f : Socket P → Socket P}
    (hf : ∀ s : Socket P, s.InRooms → (f s).InRooms) :
    Gateway.InRooms { g with sockets := g.sockets.modify k f } := by
  intro i s hs
  obtain ⟨old, hold, rfl⟩ := Table.of_get?_modify hs
  split
  · exact hf old (h i old hold)
  · exact h i old hold

theorem Gateway.InRooms.emit {g : Gateway P} (h : g.InRooms) (now : Instant) (e : Emission P) :
    (g.emit now e).InRooms := by
  have hdeliver : ∀ audience frame, (g.deliver audience frame).InRooms := by
    intro audience frame k s hs
    obtain ⟨old, hold, rfl⟩ := Table.of_get?_modifyIf hs
    split
    · exact (h k old hold).receive frame
    · exact h k old hold
  cases e <;> exact hdeliver _ _

theorem Gateway.InRooms.act {verify : String → Instant → Option Payload} {g : Gateway P}
    (h : g.InRooms) (a : GatewayAction P) : (gatewayAct verify g a).InRooms := by
  cases a with
  | connect credentials now =>
    intro k s hs
    simp only [gatewayAct, Gateway.connect, Table.get?_insert] at hs
    split at hs
    · have hfresh : Socket.InRooms (P := P)
          { rooms := [.own g.sockets.next], data := none, handshake := .settled, expiry := none,
            connected := true, received := [] } :=
        ⟨fun r hr => by cases r <;> simp_all [Room.isShared], fun _ => rfl⟩
      obtain rfl := Option.some.inj hs
      split
      · exact ⟨hfresh.mem, fun _ => rfl⟩
      · exact hfresh.joinAnonymous
    · exact h k s hs
  | proceed k now fails => exact h.modify fun s hs => hs.proceed g now fails
  | disconnect k => exact h.modify fun s hs => hs.disconnect
  | expire k now =>
    refine h.modify fun s hs => ?_
    split
    · exact hs.disconnect
    · exact hs
  | emit e now => exact h.emit now e
  | accounts change => exact h

end Rooms

section Listening

theorem Socket.InRooms.contains {s : Socket P} (h : s.InRooms) {r : Room}
    (hr : r.isShared = true) :
    s.rooms.contains r = (s.connected && s.data.any fun d => d.rooms.contains r) := by
  rw [Bool.eq_iff_iff, List.contains_iff_mem, h.mem r hr, Bool.and_eq_true, Option.any_eq_true]
  simp

theorem deliver_get? {g : Gateway P} {k : ℕ} {audience : Socket P → Bool} {e : Emission P}
    (now : Instant) (h : ∀ s, g.sockets.get? k = some s →
      audience s = (s.connected && e.admits s.data)) :
    (g.deliver audience (e.frame now)).sockets.get? k =
      (g.sockets.get? k).map fun s =>
        if s.connected && e.admits s.data then s.receive (e.frame now) else s := by
  unfold Gateway.deliver
  rw [Table.get?_modifyIf]
  refine Option.map_congr fun s hs => ?_
  rw [h s hs]

theorem emit_get? {g : Gateway P} (h : g.InRooms) (k : ℕ) (e : Emission P) (now : Instant) :
    (g.emit now e).sockets.get? k =
      (g.sockets.get? k).map fun s =>
        if s.connected && e.admits s.data then s.receive (e.frame now) else s := by
  cases e with
  | toTenant t event payload =>
    refine deliver_get? (e := .toTenant t event payload) now fun s hs => ?_
    rw [(h k s hs).contains rfl]
    simp [Emission.admits, SocketData.mem_rooms_tenant]
  | toTenantExcept t exclude event payload roles =>
    refine deliver_get? (e := .toTenantExcept t exclude event payload roles) now fun s hs => ?_
    rw [(h k s hs).contains rfl]
    cases hd : s.data with
    | none => simp [Emission.admits]
    | some d =>
      cases exclude <;> simp [Emission.admits, SocketData.mem_rooms_tenant, Bool.and_assoc, eq_comm]
  | toUser u event payload =>
    refine deliver_get? (e := .toUser u event payload) now fun s hs => ?_
    rw [(h k s hs).contains rfl]
    simp [Emission.admits, SocketData.mem_rooms_user]
  | toAdmin event payload =>
    refine deliver_get? (e := .toAdmin event payload) now fun s hs => ?_
    rw [(h k s hs).contains rfl]
    simp [Emission.admits, SocketData.mem_rooms_controlPlane]
  | broadcast event payload =>
    refine deliver_get? (e := .broadcast event payload) now fun s hs => ?_
    simp [Emission.admits]

theorem emit_listener {g : Gateway P} (h : g.InRooms) (k : ℕ) (e : Emission P) (now : Instant) :
    (g.emit now e).listener k = (g.listener k).map (·.hear e now) := by
  unfold Gateway.listener
  rw [emit_get? h, Option.map_map, Option.map_map]
  refine Option.map_congr fun s _ => ?_
  have hhear : s.listener.hear e now = if (s.connected && e.admits s.data) = true
      then (s.receive (e.frame now)).listener else s.listener := rfl
  rw [Function.comp_apply, Function.comp_apply, hhear]
  split <;> rfl

theorem letIn_listener (payload : Payload) (userId : Uuid) (now : Instant) (s : Socket P) :
    (Gateway.letIn payload userId now s).listener =
      s.listener.welcome ⟨userId, payload.tenantId, payload.role⟩ now := by
  cases hc : s.connected <;> simp [Gateway.letIn, Socket.listener, Listener.welcome, hc]

theorem proceed_listener (g : Gateway P) (now : Instant) (fails : Bool) (s : Socket P) :
    (g.proceed now fails s).listener =
      (g.admission? now fails s).elim s.listener (s.listener.welcome · now) := by
  have hjoin : s.joinAnonymous.listener = s.listener := by
    unfold Socket.joinAnonymous Socket.join
    split <;> rfl
  unfold Gateway.proceed Gateway.admission?
  cases hphase : s.handshake with
  | settled => rfl
  | checkingAccount payload =>
    simp only [Option.elim_none]
    split
    · exact hjoin
    · split
      · rfl
      · exact hjoin
  | checkingSession payload userId user =>
    simp only
    split
    · exact hjoin
    · cases hcheck : checkSession now g.db payload.toAccessClaims userId user with
      | error e => exact hjoin
      | ok user' =>
        exact letIn_listener payload userId now s

theorem modify_listener (g : Gateway P) (i k : ℕ) (f : Socket P → Socket P) :
    Gateway.listener k { g with sockets := g.sockets.modify i f } =
      if i = k then (g.sockets.get? k).map fun s => (f s).listener else g.listener k := by
  unfold Gateway.listener
  rw [Table.get?_modify, Option.map_map]
  by_cases hi : i = k
  · simp [hi, Function.comp_def]
  · simp [hi, Ne.symm hi, Function.comp_def]

theorem act_listener {verify : String → Instant → Option Payload} {g : Gateway P}
    (h : g.InRooms) (k : ℕ) (a : GatewayAction P) :
    (gatewayAct verify g a).listener k =
      (listenerEvents k g a).foldl Listener.apply (g.listener k) := by
  cases a with
  | connect credentials now =>
    simp only [gatewayAct, Gateway.connect, Gateway.listener, listenerEvents, Table.get?_insert]
    by_cases hk : g.sockets.next = k
    · rw [if_pos hk.symm, if_pos hk]
      split <;> rfl
    · rw [if_neg (Ne.symm hk), if_neg hk]
      rfl
  | proceed i now fails =>
    rw [gatewayAct, modify_listener, listenerEvents]
    split
    · cases hs : g.sockets.get? k with
      | none => simp [Gateway.listener, hs]
      | some s =>
        simp only [Gateway.listener, hs, Option.map_some, proceed_listener, Option.bind_some]
        cases g.admission? now fails s <;> rfl
    · rfl
  | disconnect i =>
    rw [gatewayAct, modify_listener, listenerEvents]
    split
    · cases hs : g.sockets.get? k with
      | none => simp [Gateway.listener, hs, Listener.apply]
      | some s => simp [Gateway.listener, hs, Listener.apply, Socket.listener, Socket.disconnect]
    · rfl
  | expire i now =>
    rw [gatewayAct, modify_listener, listenerEvents]
    by_cases hi : i = k
    · cases hs : g.sockets.get? k with
      | none => simp [Gateway.listener, hs]
      | some s =>
        simp only [hi, if_true, decide_true, Bool.true_and, Option.any_some, Gateway.listener, hs,
          Option.map_some]
        split <;> rfl
    · simp [hi]
  | emit e now => exact emit_listener h k e now
  | accounts change => rfl

/-- Whatever happens, a socket hears exactly a greeting when it is let in and the emissions
meant for what it was let in for, from then on until it leaves: in their order, once each. -/
theorem sockets_hear (verify : String → Instant → Option Payload) (db : Auth.Db)
    (labels : List (GatewayAction P)) (k : ℕ) :
    (run (gatewayAct verify) (.start db) labels).listener k =
      (eventsAlong (gatewayAct verify) (listenerEvents k) (.start db) labels).foldl
        Listener.apply none := by
  have hstart : (Gateway.start db : Gateway P).InRooms := fun i s hs => by cases hs
  exact view_run (V := Gateway.listener k) (fun g a hg => Gateway.InRooms.act hg a)
    (fun g a hg => act_listener hg k a) hstart labels

end Listening

end WorksAuto.Events
