import Mathlib.Logic.Function.Basic
import TinyTelegram.Gateway.Registry

/-!
# Presence

`gateway/store/redis.go`: the key `presence:u`, which names the gateway of user `u`, and the commands
that the connections of all gateways send for it.

A connection sets the key when it is set up (`RegisterUser`), starts a goroutine that sets it again on
every tick of a timer (`StartHeartbeat`), and deletes it in its teardown (`UnregisterUser`), after it
has closed the `done` channel of the goroutine.  A `select` with two ready cases takes either, so the
goroutine may set the key after `done` is closed; and a `SET` it has begun is not called off.  Each
command is executed at some moment between its issue and its reply, and that moment is its step here.
-/

namespace TinyTelegram.Gateway

namespace Presence

/-- Where a connection stands, as far as its presence goes. -/
inductive Stage where
  /-- `RegisterUser` is under way. -/
  | registering
  /-- Set up, and its heartbeat runs. -/
  | opened
  /-- The teardown has begun: `done` is closed, and `UnregisterUser` is to come or under way. -/
  | closing
  /-- `UnregisterUser` has returned. -/
  | closed
  deriving DecidableEq, Repr

/-- A connection: its user, and the address its gateway is known by. -/
structure Conn where
  user : String
  addr : String
  stage : Stage
  deriving DecidableEq, Repr

/-- The goroutine of `StartHeartbeat`. -/
inductive Heartbeat where
  /-- Not started. -/
  | off
  /-- In the `select`. -/
  | waiting
  /-- Its `RegisterUser` is under way. -/
  | setting
  /-- Returned. -/
  | stopped
  deriving DecidableEq, Repr

/-- The presence keys, and the connections and goroutines that write them. -/
structure State where
  presence : String → Option String
  conns : ConnId → Option Conn
  heartbeats : ConnId → Heartbeat

/-- The events around the presence keys.  A command takes effect (`ok`) or fails without effect. -/
inductive Event where
  /-- A handler starts and issues `RegisterUser`. -/
  | connect (c : ConnId) (u addr : String)
  /-- Its `RegisterUser` is executed, and the heartbeat starts. -/
  | set (c : ConnId) (ok : Bool)
  /-- The heartbeat takes a tick and issues `RegisterUser`. -/
  | tick (c : ConnId)
  /-- The heartbeat's `RegisterUser` is executed. -/
  | beat (c : ConnId) (ok : Bool)
  /-- The teardown begins: `stopHeartbeat()`. -/
  | stop (c : ConnId)
  /-- `UnregisterUser` is executed. -/
  | del (c : ConnId) (ok : Bool)
  /-- The heartbeat sees `done` closed. -/
  | exit (c : ConnId)
  /-- The key of a user expires. -/
  | expire (u : String)
  deriving DecidableEq, Repr

namespace State

def setConn (s : State) (c : ConnId) (conn : Conn) : State :=
  { s with conns := Function.update s.conns c (some conn) }

def setHeartbeat (s : State) (c : ConnId) (h : Heartbeat) : State :=
  { s with heartbeats := Function.update s.heartbeats c h }

/-- `SET presence:u addr`, if it takes effect. -/
def registerUser (s : State) (userID gatewayAddr : String) (ok : Bool) : State :=
  if ok then { s with presence := Function.update s.presence userID (some gatewayAddr) } else s

/-- `DEL presence:u`, if it takes effect. -/
def unregisterUser (s : State) (userID : String) (ok : Bool) : State :=
  if ok then { s with presence := Function.update s.presence userID none } else s

/-- `GET presence:u`. -/
def getUserGateway (s : State) (userID : String) : Option String := s.presence userID

variable (s : State) (c : ConnId) (conn : Conn) (h : Heartbeat) (u a : String) (ok : Bool)

@[simp] theorem setConn_presence : (s.setConn c conn).presence = s.presence := rfl
@[simp] theorem setConn_conns :
    (s.setConn c conn).conns = Function.update s.conns c (some conn) := rfl
@[simp] theorem setConn_heartbeats : (s.setConn c conn).heartbeats = s.heartbeats := rfl
@[simp] theorem setHeartbeat_presence : (s.setHeartbeat c h).presence = s.presence := rfl
@[simp] theorem setHeartbeat_conns : (s.setHeartbeat c h).conns = s.conns := rfl
@[simp] theorem setHeartbeat_heartbeats :
    (s.setHeartbeat c h).heartbeats = Function.update s.heartbeats c h := rfl

@[simp] theorem registerUser_conns : (s.registerUser u a ok).conns = s.conns := by
  unfold registerUser
  split <;> rfl

@[simp] theorem unregisterUser_conns : (s.unregisterUser u ok).conns = s.conns := by
  unfold unregisterUser
  split <;> rfl

end State

/-- One event. -/
def step (s : State) : Event → Option State
  | .connect c u addr =>
    match s.conns c with
    | none => some (s.setConn c ⟨u, addr, .registering⟩)
    | some _ => none
  | .set c ok =>
    match s.conns c with
    | some ⟨u, addr, .registering⟩ =>
      some (((s.registerUser u addr ok).setConn c ⟨u, addr, .opened⟩).setHeartbeat c .waiting)
    | _ => none
  | .tick c =>
    match s.heartbeats c with
    | .waiting => some (s.setHeartbeat c .setting)
    | _ => none
  | .beat c ok =>
    match s.heartbeats c, s.conns c with
    | .setting, some conn => some ((s.registerUser conn.user conn.addr ok).setHeartbeat c .waiting)
    | _, _ => none
  | .stop c =>
    match s.conns c with
    | some ⟨u, addr, .opened⟩ => some (s.setConn c ⟨u, addr, .closing⟩)
    | _ => none
  | .del c ok =>
    match s.conns c with
    | some ⟨u, addr, .closing⟩ => some ((s.unregisterUser u ok).setConn c ⟨u, addr, .closed⟩)
    | _ => none
  | .exit c =>
    match s.heartbeats c, s.conns c with
    | .waiting, some ⟨_, _, .closing⟩ | .waiting, some ⟨_, _, .closed⟩ =>
      some (s.setHeartbeat c .stopped)
    | _, _ => none
  | .expire u => some (s.unregisterUser u true)

/-- Nobody is connected. -/
def init : State where
  presence := fun _ => none
  conns := fun _ => none
  heartbeats := fun _ => .off

end Presence

/-- The presence keys, with any number of connections on any number of gateways. -/
def presence : Lts.System Presence.State Presence.Event where
  init := Presence.init
  step := Presence.step

end TinyTelegram.Gateway
