import TinyTelegram.Gateway.Presence
import TinyTelegram.Gateway.WebSocket
import TinyTelegram.MessageService.Service

/-!
# The gateways and the message service

Any number of gateway processes with one message service and the presence keys of one Redis.  Every
gateway has a registry (`Registry.lean`) and an address, which it writes to the presence keys; an
address need not be that of one gateway only, since a process that is started again is a new one.

A step is what one goroutine does up to the next point that others can see: of a handler, of a writer,
of the goroutine that calls a peer and the RPC it issues, of a heartbeat, or of the message service.
The registry, the presence keys and the message service take their own steps.

Nothing of a process runs after a panic in one of its RPCs.
-/

namespace TinyTelegram.Gateway

open MessageService (Redis CallId)

/-- Names of gateway processes. -/
abbrev GwId := ℕ

namespace Cluster

/-- A WebSocket: the gateway that serves it, and the `user_id` it was opened with. -/
structure Socket where
  gw : GwId
  user : String
  deriving DecidableEq, Repr

/-- The state of all processes. -/
structure State (ρ : Type) where
  service : MessageService.Service.State ρ
  gateways : GwId → Registry.State
  presence : Presence.State
  sockets : ConnId → Option Socket
  handlers : ConnId → Handler
  writers : ConnId → Writer
  peers : RpcId → Peer
  /-- The frames written to a socket, in order. -/
  out : ConnId → List Frame

namespace State

variable {ρ : Type}

def setService (s : State ρ) (x : MessageService.Service.State ρ) : State ρ := { s with service := x }

def setGateway (s : State ρ) (g : GwId) (x : Registry.State) : State ρ :=
  { s with gateways := Function.update s.gateways g x }

def setPresence (s : State ρ) (x : Presence.State) : State ρ := { s with presence := x }

/-- The upgrade to a WebSocket. -/
def upgrade (s : State ρ) (c : ConnId) (sock : Socket) : State ρ :=
  { s with sockets := Function.update s.sockets c (some sock) }

def setHandler (s : State ρ) (c : ConnId) (h : Handler) : State ρ :=
  { s with handlers := Function.update s.handlers c h }

def setWriter (s : State ρ) (c : ConnId) (w : Writer) : State ρ :=
  { s with writers := Function.update s.writers c w }

def setPeer (s : State ρ) (p : RpcId) (q : Peer) : State ρ :=
  { s with peers := Function.update s.peers p q }

/-- `WriteJSON`, if it gets as far as the socket. -/
def write (s : State ρ) (c : ConnId) (frame : Frame) (arrives : Bool) : State ρ :=
  if arrives then { s with out := Function.update s.out c (s.out c ++ [frame]) } else s

/-- The socket of a connection whose process is alive. -/
def live? (s : State ρ) (c : ConnId) : Option Socket :=
  (s.sockets c).filter fun sock => !(s.gateways sock.gw).crashed

end State

/-! ### Events -/

/-- The steps of a handler. -/
inductive HandlerEvent where
  /-- `RegisterUser` is executed, or fails; the heartbeat starts. -/
  | registerUser (ok : Bool)
  /-- `RegisterConn`; the writer starts. -/
  | registerConn
  /-- A frame is read, at the time `now`; if it is complete, `PersistMessage` is called. -/
  | frame (raw : Option IncomingMessage) (call : CallId) (now : Int)
  /-- `PersistMessage` has returned a message. -/
  | persisted
  /-- It has returned an error, or the five seconds are over. -/
  | persistFailed
  /-- The acknowledgement is written; it may reach the socket and `WriteJSON` return an error. -/
  | ack (arrives ok : Bool)
  /-- `GetUserGateway` answers, or fails; a peer is called in the goroutine `p`. -/
  | locate (fail : Bool) (p : RpcId)
  /-- The two halves of `DeliverLocal`. -/
  | lookup
  | send
  /-- `ReadMessage` fails, and the teardown stops the heartbeat. -/
  | hangUp
  | unregisterConn
  /-- `UnregisterUser` is executed, or fails; the socket is closed. -/
  | unregisterUser (ok : Bool)
  deriving DecidableEq, Repr

/-- The steps of a writer. -/
inductive WriterEvent where
  /-- It takes a message from its channel. -/
  | receive
  /-- Its channel is closed and empty. -/
  | drained
  /-- It writes the message. -/
  | write (arrives ok : Bool)
  deriving DecidableEq, Repr

/-- The steps of a call to a peer. -/
inductive PeerEvent where
  /-- The RPC is executed on gateway `g`: `DeliverMessage`, up to the first half of
  `DeliverLocal`. -/
  | deliverMessage (g : GwId)
  /-- The second half of `DeliverLocal`. -/
  | send
  /-- The RPC is never executed. -/
  | fail
  deriving DecidableEq, Repr

/-- The events of the cluster. -/
inductive Event (χ ε : Type) where
  /-- A client opens a WebSocket to gateway `g`. -/
  | connect (c : ConnId) (g : GwId) (u : String)
  | handler (c : ConnId) (e : HandlerEvent)
  | writer (c : ConnId) (e : WriterEvent)
  | peer (p : RpcId) (e : PeerEvent)
  /-- A step of the heartbeat of connection `c`. -/
  | heartbeat (c : ConnId) (e : Presence.Event)
  /-- The presence key of a user expires. -/
  | expire (u : String)
  /-- A step of the message service. -/
  | service (e : MessageService.Service.Event χ ε)

/-! ### Steps -/

variable {ρ χ ε : Type}

/-- Where `DeliverLocal` has left its caller: in a read loop that goes on or in its teardown. -/
def afterSend (x : Registry.State) (c : ConnId) : Handler :=
  match x.conns c with
  | .registered _ => .reading
  | _ => .closing

/-- A panic unwinds the handler into its teardown, which stops the heartbeat. -/
def unwound (x : Registry.State) (c : ConnId) (p : Presence.State) : Option Presence.State :=
  match x.conns c with
  | .registered _ => some p
  | _ => presence.step p (.stop c)

/-- A step of the handler of connection `c`. -/
def handlerStep (R : Redis ρ χ ε) (addr : GwId → String) (s : State ρ) (c : ConnId)
    (sock : Socket) : HandlerEvent → Option (State ρ)
  | .registerUser ok =>
    match s.handlers c with
    | .registering =>
      (presence.step s.presence (.set c ok)).map fun p =>
        (s.setPresence p).setHandler c .connecting
    | _ => none
  | .registerConn =>
    match s.handlers c with
    | .connecting =>
      (registry.step (s.gateways sock.gw) (.register c sock.user)).map fun x =>
        ((s.setGateway sock.gw x).setWriter c .waiting).setHandler c .reading
    | _ => none
  | .frame raw call now =>
    match s.handlers c, checkIncoming raw with
    | .reading, none => some s
    | .reading, some incoming =>
      ((MessageService.Service.system R).step s.service
        (.invoke call (chatMessage sock.user incoming now))).map fun x =>
          (s.setService x).setHandler c (.persisting incoming call)
    | _, _ => none
  | .persisted =>
    match s.handlers c with
    | .persisting incoming call =>
      match s.service.calls call with
      | .returned _ _ (.ok m) => some (s.setHandler c (.acking incoming.receiverId m))
      | _ => none
    | _ => none
  | .persistFailed =>
    match s.handlers c with
    | .persisting _ _ => some (s.setHandler c .reading)
    | _ => none
  | .ack arrives ok =>
    match s.handlers c with
    | .acking receiverID m =>
      some ((s.write c (ackFrame m) arrives).setHandler c
        (if ok then .locating receiverID m else .reading))
    | _ => none
  | .locate fail p =>
    match s.handlers c with
    | .locating receiverID m =>
      match route (addr sock.gw)
          (if fail then none else s.presence.getUserGateway receiverID) with
      | .nowhere => some (s.setHandler c .reading)
      | .here => some (s.setHandler c (.delivering receiverID m))
      | .peer target =>
        match s.peers p with
        | .idle => some ((s.setPeer p (.calling target m)).setHandler c .reading)
        | _ => none
    | _ => none
  | .lookup =>
    match s.handlers c with
    | .delivering receiverID m =>
      (registry.step (s.gateways sock.gw) (.lookup (.readLoop c) receiverID m)).map fun x =>
        (s.setGateway sock.gw x).setHandler c
          (if (x.delivering (.readLoop c)).isSome then .sending else .reading)
    | _ => none
  | .send =>
    match s.handlers c with
    | .sending =>
      (registry.step (s.gateways sock.gw) (.send (.readLoop c))).bind fun x =>
        (unwound x c s.presence).map fun p =>
          ((s.setGateway sock.gw x).setPresence p).setHandler c (afterSend x c)
    | _ => none
  | .hangUp =>
    match s.handlers c with
    | .reading =>
      (registry.step (s.gateways sock.gw) (.hangUp c)).bind fun x =>
        (presence.step s.presence (.stop c)).map fun p =>
          ((s.setGateway sock.gw x).setPresence p).setHandler c .closing
    | _ => none
  | .unregisterConn =>
    match s.handlers c with
    | .closing =>
      (registry.step (s.gateways sock.gw) (.unregister c)).map fun x =>
        (s.setGateway sock.gw x).setHandler c .unregistering
    | _ => none
  | .unregisterUser ok =>
    match s.handlers c with
    | .unregistering =>
      (presence.step s.presence (.del c ok)).map fun p =>
        (s.setPresence p).setHandler c .closed
    | _ => none

/-- A step of the writer of connection `c`.  Nothing arrives on a socket that the handler has
closed. -/
def writerStep (s : State ρ) (c : ConnId) (sock : Socket) : WriterEvent → Option (State ρ)
  | .receive =>
    match s.writers c, ((s.gateways sock.gw).chans c).buf with
    | .waiting, m :: _ =>
      (registry.step (s.gateways sock.gw) (.receive c)).map fun x =>
        (s.setGateway sock.gw x).setWriter c (.writing m)
    | _, _ => none
  | .drained =>
    match s.writers c, (s.gateways sock.gw).chans c with
    | .waiting, ⟨[], some _⟩ => some (s.setWriter c .stopped)
    | _, _ => none
  | .write arrives ok =>
    match s.writers c with
    | .writing m =>
      if s.handlers c = .closed ∧ (arrives ∨ ok) then none
      else some ((s.write c (.message m) arrives).setWriter c (if ok then .waiting else .stopped))
    | _ => none

/-- `DeliverMessage`, up to the first half of `DeliverLocal`. -/
def deliverMessage (s : State ρ) (p : RpcId) (g : GwId) (m : PersistedMessage) :
    Option (State ρ) :=
  match m.message with
  | none => if (s.gateways g).crashed then none else some (s.setPeer p .done)
  | some msg =>
    (registry.step (s.gateways g) (.lookup (.rpc p) msg.receiverId m)).map fun x =>
      (s.setGateway g x).setPeer p (if (x.delivering (.rpc p)).isSome then .sending g else .done)

/-- A step of a call to a peer. -/
def peerStep (addr : GwId → String) (s : State ρ) (p : RpcId) : PeerEvent → Option (State ρ)
  | .deliverMessage g =>
    match s.peers p with
    | .calling target m => if addr g = target then deliverMessage s p g m else none
    | _ => none
  | .send =>
    match s.peers p with
    | .sending g =>
      (registry.step (s.gateways g) (.send (.rpc p))).map fun x =>
        (s.setGateway g x).setPeer p .done
    | _ => none
  | .fail =>
    match s.peers p with
    | .calling _ _ => some (s.setPeer p .done)
    | _ => none

/-- The steps of the presence keys that belong to the heartbeat of connection `c`. -/
def ofHeartbeat (c : ConnId) : Presence.Event → Bool
  | .tick k | .beat k _ | .exit k => k = c
  | _ => false

/-- One event. -/
def step (R : Redis ρ χ ε) (addr : GwId → String) (s : State ρ) :
    Event χ ε → Option (State ρ)
  | .connect c g u =>
    match s.sockets c with
    | none =>
      if u = "" ∨ (s.gateways g).crashed then none
      else (presence.step s.presence (.connect c u (addr g))).map fun p =>
        ((s.setPresence p).upgrade c ⟨g, u⟩).setHandler c .registering
    | some _ => none
  | .handler c e => (s.live? c).bind fun sock => handlerStep R addr s c sock e
  | .writer c e => (s.live? c).bind fun sock => writerStep s c sock e
  | .peer p e => peerStep addr s p e
  | .heartbeat c e =>
    if (s.live? c).isSome ∧ ofHeartbeat c e then (presence.step s.presence e).map s.setPresence
    else none
  | .expire u => (presence.step s.presence (.expire u)).map s.setPresence
  | .service e => ((MessageService.Service.system R).step s.service e).map s.setService

/-- Nothing is connected, and nothing persisted. -/
def init (R : Redis ρ χ ε) : State ρ where
  service := MessageService.Service.init R
  gateways := fun _ => Registry.init
  presence := Presence.init
  sockets := fun _ => none
  handlers := fun _ => .idle
  writers := fun _ => .off
  peers := fun _ => .idle
  out := fun _ => []

end Cluster

/-- The gateways at the addresses `addr`, over the message service over `R`. -/
def cluster {ρ χ ε : Type} (R : Redis ρ χ ε) (addr : GwId → String) :
    Lts.System (Cluster.State ρ) (Cluster.Event χ ε) where
  init := Cluster.init R
  step := Cluster.step R addr

end TinyTelegram.Gateway
