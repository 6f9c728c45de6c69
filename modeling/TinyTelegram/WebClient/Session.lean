import TinyTelegram.Gateway.Cluster
import TinyTelegram.WebClient.App

/-!
# A browser and the cluster

One tab of a browser with the web client, and the cluster it talks to.  The tab may be reloaded, and
may open any number of WebSockets, one after the other or at once; the frames of a socket arrive in order
on both sides, as far as they arrive.  The other connections of the cluster are those of other clients,
which do what they like.

Beside the state the session keeps books that the code does not have.  A frame of the tab has as name its
socket and its number there; `frameOf` says which frame a call of `PersistMessage` was made for,
`pending` goes with `pendingAcks` and says which frame each temp id was made for, `unanswered` has the
frames of the page that it has got no acknowledgement of, and `replaced` the frames whose optimistic
messages have been replaced, with the new ids.
-/

namespace TinyTelegram.WebClient

open Gateway (ConnId IncomingMessage Frame Cluster.State Cluster.Event)
open MessageService (Redis CallId Committed)

/-- The `readyState` of a WebSocket; the page does not tell a closing one from a closed one. -/
inductive ReadyState where
  | connecting
  | opened
  | closed
  deriving DecidableEq, Repr

/-- A WebSocket of the tab. -/
structure Link where
  user : String
  readyState : ReadyState
  /-- The frames that were sent on it, and how many of them the gateway has read. -/
  sent : List IncomingMessage
  read : ℕ
  /-- How many of the frames written to it have been received. -/
  received : ℕ
  deriving DecidableEq, Repr

/-- The socket of a frame, and its number there. -/
abbrev FrameName := ConnId × ℕ

/-- The tab, the cluster and the books. -/
structure State (ρ : Type) where
  cluster : Cluster.State ρ
  client : Client
  links : ConnId → Option Link
  frameOf : CallId → Option FrameName
  pending : List (String × FrameName)
  unanswered : List FrameName
  replaced : List (FrameName × String)

/-- The events of a session. -/
inductive Event (χ ε : Type) where
  /-- `connect`, called by the login form or by the timer of `onClose`. -/
  | connect (c : ConnId) (userId gatewayUrl : String)
  /-- `connect`, and `new WebSocket` throws. -/
  | connectFails (userId gatewayUrl : String)
  | onOpen (c : ConnId)
  /-- With the next frame written to the socket. -/
  | onMessage (c : ConnId) (now : Int)
  | onClose (c : ConnId)
  /-- `sendMessage`, with what it draws from the clock and from `Math.random`. -/
  | send (receiverID content : String) (now : Int) (rand : String)
  /-- The page is loaded again. -/
  | reload
  /-- A step of the cluster. -/
  | cluster (e : Cluster.Event χ ε)

namespace State

variable {ρ : Type}

def setCluster (s : State ρ) (x : Cluster.State ρ) : State ρ := { s with cluster := x }

def setClient (s : State ρ) (client : Client) : State ρ := { s with client := client }

def setLink (s : State ρ) (c : ConnId) (link : Link) : State ρ :=
  { s with links := Function.update s.links c (some link) }

/-- The frame that a message was persisted for. -/
def persistedFrame? (s : State ρ) (messageID : String) : Option FrameName :=
  (s.cluster.service.committed.find? fun x => x.row.id = messageID).bind fun x => s.frameOf x.call

/-- The frame whose optimistic message an acknowledgement is about to replace. -/
def replacing? (s : State ρ) : Option FrameName :=
  match s.pending with
  | [] => none
  | (tempID, f) :: _ => if (s.client.messages tempID).isSome then some f else none

/-- The books after an acknowledgement. -/
def acknowledge (s : State ρ) (messageID : String) : State ρ :=
  { s with
    pending := s.pending.tail
    unanswered := s.unanswered.filter fun f => s.persistedFrame? messageID ≠ some f
    replaced := s.replaced ++ s.replacing?.toList.map fun f => (f, messageID) }

/-- The books after a frame from the cluster. -/
def note (s : State ρ) : Frame → State ρ
  | .ack _ messageID => s.acknowledge messageID
  | .message _ => s

/-- `sendMessage` on the open socket `c`, which is `link`. -/
def sendOn (s : State ρ) (c : ConnId) (link : Link) (receiverID content tempID : String)
    (now : Int) : State ρ :=
  { s with
    client := (s.client.sendMessage receiverID content tempID now).1
    links := Function.update s.links c (some { link with
      sent := link.sent ++ [(s.client.sendMessage receiverID content tempID now).2] })
    pending := s.pending ++ [(tempID, (c, link.sent.length))]
    unanswered := s.unanswered ++ [(c, link.sent.length)] }

/-- The socket that the client sends on, if it is open. -/
def openSocket? (s : State ρ) : Option (ConnId × Link) :=
  s.client.ws.bind fun c => (s.links c).bind fun link =>
    if link.readyState = .opened then some (c, link) else none

/-- Another page in the same tab. -/
def reload (s : State ρ) : State ρ :=
  { s with
    client := .load s.client.storage
    links := fun c => (s.links c).map fun link => { link with readyState := .closed }
    pending := []
    unanswered := [] }

/-- The gateway has read a frame of the tab, and `call` is the call it makes for it, if it does. -/
def readFrame (s : State ρ) (c : ConnId) (link : Link) (raw : Option IncomingMessage)
    (call : CallId) : State ρ :=
  { s.setLink c { link with read := link.read + 1 } with
    frameOf :=
      if (Gateway.checkIncoming raw).isSome then
        Function.update s.frameOf call (some (c, link.read))
      else s.frameOf }

end State

/-- `uuid.NewString` gives hexadecimal digits and dashes. -/
def isUUID (id : String) : Bool :=
  id.toList.all fun ch => ch.isDigit || ('a' ≤ ch && ch ≤ 'f') || ch = '-'

variable {ρ χ ε : Type}

/-- What the cluster can do with this tab in it: its sockets are opened for its users and bring its
frames, in order, and message ids are UUIDs. -/
def allowed (s : State ρ) : Cluster.Event χ ε → Bool
  | .connect c _ u => (s.links c).all fun link => link.user = u
  | .handler c (.frame raw _ _) =>
    (s.links c).all fun link => link.read < link.sent.length ∧ raw = link.sent[link.read]?
  | .service (.insert _ msgID _ _ _) => isUUID msgID
  | _ => true

/-- The books after a step of the cluster. -/
def noteCluster (s : State ρ) : Cluster.Event χ ε → State ρ
  | .handler c (.frame raw call _) =>
    match s.links c with
    | some link => s.readFrame c link raw call
    | none => s
  | _ => s

/-- One event. -/
def step (R : Redis ρ χ ε) (addr : Gateway.GwId → String) (s : State ρ) :
    Event χ ε → Option (State ρ)
  | .connect c userId gatewayUrl =>
    match s.links c, s.cluster.sockets c with
    | none, none =>
      some ((s.setClient (s.client.connect userId gatewayUrl (some c))).setLink c
        ⟨userId, .connecting, [], 0, 0⟩)
    | _, _ => none
  | .connectFails userId gatewayUrl =>
    some (s.setClient (s.client.connect userId gatewayUrl none))
  | .onOpen c =>
    match s.links c, s.cluster.sockets c with
    | some link, some _ =>
      if link.readyState = .connecting then
        some ((s.setClient s.client.onOpen).setLink c { link with readyState := .opened })
      else none
    | _, _ => none
  | .onMessage c now =>
    match s.links c with
    | some link =>
      if link.readyState = .opened then
        ((s.cluster.out c)[link.received]?).map fun frame =>
          ((s.note frame).setClient (s.client.onMessage now frame)).setLink c
            { link with received := link.received + 1 }
      else none
    | none => none
  | .onClose c =>
    match s.links c with
    | some link =>
      if link.readyState = .closed then none
      else some ((s.setClient s.client.onClose.1).setLink c { link with readyState := .closed })
    | none => none
  | .send receiverID content now rand =>
    match s.openSocket? with
    | some (c, link) => some (s.sendOn c link receiverID content (tempId now rand) now)
    | none => some s
  | .reload => some s.reload
  | .cluster e =>
    if allowed s e then
      ((Gateway.cluster R addr).step s.cluster e).map (noteCluster s e).setCluster
    else none

/-- A first page in a browser without anything stored. -/
def init (R : Redis ρ χ ε) : State ρ where
  cluster := Gateway.Cluster.init R
  client := .load none
  links := fun _ => none
  frameOf := fun _ => none
  pending := []
  unanswered := []
  replaced := []

/-- A tab with the web client, in a cluster. -/
def session (R : Redis ρ χ ε) (addr : Gateway.GwId → String) :
    Lts.System (State ρ) (Event χ ε) where
  init := init R
  step := step R addr

end TinyTelegram.WebClient
