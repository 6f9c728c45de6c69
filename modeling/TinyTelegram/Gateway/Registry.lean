import Mathlib.Logic.Function.Basic
import TinyTelegram.Lib.System
import TinyTelegram.Proto

/-!
# The connection registry of a gateway

`gateway/grpc/server.go`: `connMap`, which holds one channel for each user, and the three functions
that work on it, together with the goroutines that call them on one gateway.

`RegisterConn` and `UnregisterConn` run under `connMu` and are one step each.  `DeliverLocal` is two:
it looks the channel up under `connMu`, and sends after it has released the lock.  It is called from
the read loops of the connections and from the `DeliverMessage` RPC.

A `WebSocketHandler` makes one channel and registers it; the channel has the name of its connection.
When the read loop ends, `UnregisterConn` runs once.  A send on a closed channel is a panic, also in
a `select` with a `default`: in a read loop it unwinds the handler, whose deferred teardown then runs,
and in the goroutine of an RPC nothing recovers it and the process is gone.
-/

namespace TinyTelegram.Gateway

/-- Names of WebSocket connections, and of the channels they make. -/
abbrev ConnId := ℕ

/-- Names of executions of the `DeliverMessage` RPC. -/
abbrev RpcId := ℕ

/-- The goroutines that call `DeliverLocal`. -/
inductive Caller where
  | readLoop (c : ConnId)
  | rpc (n : RpcId)
  deriving DecidableEq, Repr

namespace Registry

/-- The capacity of a channel, `make(chan *pb.PersistedMessage, 64)`. -/
def capacity : ℕ := 64

/-- A channel: the messages in its buffer, and the connection whose teardown closed it. -/
structure Chan where
  buf : List PersistedMessage
  closedBy : Option ConnId
  deriving DecidableEq, Repr

/-- Where a `WebSocketHandler` stands, as far as the registry goes. -/
inductive Conn where
  /-- Not open yet. -/
  | fresh
  /-- Registered, and its read loop runs. -/
  | registered (u : String)
  /-- The read loop has ended; `UnregisterConn` is to come. -/
  | closing (u : String)
  /-- `UnregisterConn` has run. -/
  | unregistered (u : String)
  deriving DecidableEq, Repr

/-- The registry and the goroutines at work on it. -/
structure State where
  connMap : String → Option ConnId
  chans : ConnId → Chan
  conns : ConnId → Conn
  /-- The calls of `DeliverLocal` between their two steps: the channel looked up, and the message. -/
  delivering : Caller → Option (ConnId × PersistedMessage)
  /-- The callers whose send panicked, in order. -/
  panics : List Caller

/-- What a send does. -/
inductive Sent where
  /-- It returns whether the message went into the buffer. -/
  | returned (delivered : Bool)
  | panicked
  deriving DecidableEq, Repr

/-- The user of a connection that has been opened. -/
def Conn.user? : Conn → Option String
  | .fresh => none
  | .registered u | .closing u | .unregistered u => some u

namespace State

/-- An RPC has panicked, and with it the process. -/
def crashed (s : State) : Bool := s.panics.any fun caller =>
  match caller with
  | .rpc _ => true
  | .readLoop _ => false

def setConn (s : State) (c : ConnId) (conn : Conn) : State :=
  { s with conns := Function.update s.conns c conn }

/-- The buffer of a channel changes. -/
def setBuf (s : State) (c : ConnId) (buf : List PersistedMessage) : State :=
  { s with chans := Function.update s.chans c { s.chans c with buf := buf } }

/-- `close(ch)` and `delete(connMap, userID)`, in the teardown of connection `c`. -/
def drop (s : State) (userID : String) (ch c : ConnId) : State :=
  { s with
    connMap := Function.update s.connMap userID none
    chans := Function.update s.chans ch { s.chans ch with closedBy := some c } }

def setDelivering (s : State) (caller : Caller) (d : Option (ConnId × PersistedMessage)) : State :=
  { s with delivering := Function.update s.delivering caller d }

def addPanic (s : State) (caller : Caller) : State := { s with panics := s.panics ++ [caller] }

variable (s : State) (c : ConnId) (conn : Conn) (buf : List PersistedMessage) (caller : Caller)
  (d : Option (ConnId × PersistedMessage))

@[simp] theorem setConn_connMap : (s.setConn c conn).connMap = s.connMap := rfl
@[simp] theorem setConn_chans : (s.setConn c conn).chans = s.chans := rfl
@[simp] theorem setConn_conns : (s.setConn c conn).conns = Function.update s.conns c conn := rfl
@[simp] theorem setConn_delivering : (s.setConn c conn).delivering = s.delivering := rfl
@[simp] theorem setConn_panics : (s.setConn c conn).panics = s.panics := rfl
@[simp] theorem setBuf_connMap : (s.setBuf c buf).connMap = s.connMap := rfl
@[simp] theorem setBuf_conns : (s.setBuf c buf).conns = s.conns := rfl
@[simp] theorem setBuf_delivering : (s.setBuf c buf).delivering = s.delivering := rfl
@[simp] theorem setBuf_panics : (s.setBuf c buf).panics = s.panics := rfl
@[simp] theorem setDelivering_connMap : (s.setDelivering caller d).connMap = s.connMap := rfl
@[simp] theorem setDelivering_chans : (s.setDelivering caller d).chans = s.chans := rfl
@[simp] theorem setDelivering_conns : (s.setDelivering caller d).conns = s.conns := rfl
@[simp] theorem setDelivering_delivering :
    (s.setDelivering caller d).delivering = Function.update s.delivering caller d := rfl
@[simp] theorem setDelivering_panics : (s.setDelivering caller d).panics = s.panics := rfl
@[simp] theorem addPanic_connMap : (s.addPanic caller).connMap = s.connMap := rfl
@[simp] theorem addPanic_chans : (s.addPanic caller).chans = s.chans := rfl
@[simp] theorem addPanic_conns : (s.addPanic caller).conns = s.conns := rfl
@[simp] theorem addPanic_delivering : (s.addPanic caller).delivering = s.delivering := rfl
@[simp] theorem addPanic_panics : (s.addPanic caller).panics = s.panics ++ [caller] := rfl

end State

/-! ### The functions -/

def registerConn (s : State) (userID : String) (ch : ConnId) : State :=
  { s with connMap := Function.update s.connMap userID (some ch) }

/-- `UnregisterConn(userID)`, called by the teardown of connection `c`: it closes whatever channel
the user has in `connMap`. -/
def unregisterConn (s : State) (userID : String) (c : ConnId) : State :=
  match s.connMap userID with
  | some ch => s.drop userID ch c
  | none => s

/-- The first half of `DeliverLocal`; it has returned `false` if there is no channel. -/
def lookup (s : State) (caller : Caller) (receiverID : String) (msg : PersistedMessage) : State :=
  s.setDelivering caller ((s.connMap receiverID).map fun ch => (ch, msg))

/-- `select { case ch <- msg: return true; default: return false }`. -/
def send (s : State) (ch : ConnId) (msg : PersistedMessage) : State × Sent :=
  if (s.chans ch).closedBy.isSome then (s, .panicked)
  else if (s.chans ch).buf.length < capacity then
    (s.setBuf ch ((s.chans ch).buf ++ [msg]), .returned true)
  else (s, .returned false)

/-- `DeliverLocal`, with nothing in between its two halves. -/
def deliverLocal (s : State) (receiverID : String) (msg : PersistedMessage) : State × Sent :=
  match s.connMap receiverID with
  | none => (s, .returned false)
  | some ch => send s ch msg

/-! ### The goroutines -/

/-- The events of one gateway. -/
inductive Event where
  /-- A handler registers its channel and enters its read loop. -/
  | register (c : ConnId) (u : String)
  /-- `ReadMessage` fails, and the teardown begins. -/
  | hangUp (c : ConnId)
  /-- `UnregisterConn` of the teardown. -/
  | unregister (c : ConnId)
  /-- `DeliverLocal(receiverID, msg)` looks the channel up. -/
  | lookup (caller : Caller) (receiverID : String) (msg : PersistedMessage)
  /-- `DeliverLocal` sends. -/
  | send (caller : Caller)
  /-- The writer goroutine of the connection takes the next message from its channel. -/
  | receive (c : ConnId)
  deriving DecidableEq, Repr

/-- A caller is free to call `DeliverLocal`: a read loop runs, and is not in the middle of a call. -/
def ready (s : State) : Caller → Bool
  | .readLoop c =>
    (match s.conns c with
      | .registered _ => true
      | _ => false) && (s.delivering (.readLoop c)).isNone
  | .rpc n => (s.delivering (.rpc n)).isNone

/-- What a panic in `DeliverLocal` does to its caller: a read loop is over. -/
def unwind (s : State) : Caller → State
  | .readLoop c =>
    match s.conns c with
    | .registered u => s.setConn c (.closing u)
    | _ => s
  | .rpc _ => s

/-- The end of a call of `DeliverLocal` that has sent to its channel. -/
def finishSend (caller : Caller) : State × Sent → State
  | (s, .returned _) => s.setDelivering caller none
  | (s, .panicked) => (unwind (s.setDelivering caller none) caller).addPanic caller

/-- One event of a process that is alive. -/
def stepAlive (s : State) : Event → Option State
  | .register c u =>
    match s.conns c with
    | .fresh => some ((registerConn s u c).setConn c (.registered u))
    | _ => none
  | .hangUp c =>
    match s.conns c, s.delivering (.readLoop c) with
    | .registered u, none => some (s.setConn c (.closing u))
    | _, _ => none
  | .unregister c =>
    match s.conns c with
    | .closing u => some ((unregisterConn s u c).setConn c (.unregistered u))
    | _ => none
  | .lookup caller receiverID msg =>
    if ready s caller then some (lookup s caller receiverID msg) else none
  | .send caller =>
    (s.delivering caller).map fun (ch, msg) => finishSend caller (send s ch msg)
  | .receive c =>
    match (s.chans c).buf with
    | [] => none
    | _ :: buf => some (s.setBuf c buf)

def step (s : State) (e : Event) : Option State := if s.crashed then none else stepAlive s e

/-- An empty registry. -/
def init : State where
  connMap := fun _ => none
  chans := fun _ => { buf := [], closedBy := none }
  conns := fun _ => .fresh
  delivering := fun _ => none
  panics := []

end Registry

/-- The registry of one gateway, with any number of connections and deliveries. -/
def registry : Lts.System Registry.State Registry.Event where
  init := Registry.init
  step := Registry.step

end TinyTelegram.Gateway
