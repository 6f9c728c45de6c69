import Mathlib.Data.Nat.Notation
import TinyTelegram.Proto

/-!
# The WebSocket handler

`gateway/handler/websocket.go`: what the read loop of a connection makes of a frame, the frames a
connection writes, and the points at which its two goroutines stand between two steps that other
goroutines can see.
-/

namespace TinyTelegram.Gateway

/-- What `json.Unmarshal` leaves of a frame; a field that is missing is empty. -/
structure IncomingMessage where
  receiverId : String
  content : String
  deriving DecidableEq, Repr

/-- The frames that the read loop goes on with: those that `json.Unmarshal` accepts, and that have
both fields. -/
def checkIncoming (raw : Option IncomingMessage) : Option IncomingMessage :=
  raw.filter fun incoming => incoming.receiverId ≠ "" ∧ incoming.content ≠ ""

/-- The message that the read loop asks the message service to persist. -/
def chatMessage (userID : String) (incoming : IncomingMessage) (now : Int) : ChatMessage where
  senderId := userID
  receiverId := incoming.receiverId
  content := incoming.content
  clientTimestamp := now

/-- A frame to the client. -/
inductive Frame where
  /-- `{"type": "ack", ...}`, written by the read loop. -/
  | ack (senderPts : Int) (messageId : String)
  /-- A `PersistedMessage`, written by the writer goroutine. -/
  | message (m : PersistedMessage)
  deriving DecidableEq, Repr

/-- The acknowledgement of a message that was persisted. -/
def ackFrame (persisted : PersistedMessage) : Frame := .ack persisted.senderPts persisted.id

/-- The message of a frame. -/
def Frame.message? : Frame → Option PersistedMessage
  | .ack .. => none
  | .message m => some m

/-- What the read loop does with a persisted message. -/
inductive Route where
  /-- Nothing: the receiver has no presence, or it could not be read. -/
  | nowhere
  /-- `DeliverLocal`. -/
  | here
  /-- `peer.DeliverMessage`, in a goroutine of its own. -/
  | peer (target : String)
  deriving DecidableEq, Repr

/-- The routing step, after `GetUserGateway` has answered; `none` is an error or `redis.Nil`. -/
def route (presenceAddr : String) : Option String → Route
  | none => .nowhere
  | some targetGateway =>
    if targetGateway = "" then .nowhere
    else if targetGateway = presenceAddr then .here
    else .peer targetGateway

/-- Where a handler stands.  A call of `PersistMessage` goes by its name. -/
inductive Handler where
  /-- Not started. -/
  | idle
  /-- In `RegisterUser`. -/
  | registering
  /-- The heartbeat is started; about to call `RegisterConn`. -/
  | connecting
  /-- In `ReadMessage`. -/
  | reading
  /-- Waiting for `PersistMessage`. -/
  | persisting (incoming : IncomingMessage) (call : ℕ)
  /-- About to write the acknowledgement. -/
  | acking (receiverID : String) (persisted : PersistedMessage)
  /-- About to look up the receiver's gateway. -/
  | locating (receiverID : String) (persisted : PersistedMessage)
  /-- About to call `DeliverLocal`. -/
  | delivering (receiverID : String) (persisted : PersistedMessage)
  /-- In `DeliverLocal`, with the channel looked up. -/
  | sending
  /-- In the teardown, with the heartbeat stopped; about to call `UnregisterConn`. -/
  | closing
  /-- In the teardown, in `UnregisterUser`. -/
  | unregistering
  /-- Returned, and the socket is closed. -/
  | closed
  deriving DecidableEq, Repr

/-- Where the writer goroutine of a connection stands. -/
inductive Writer where
  /-- Not started. -/
  | off
  /-- Waiting for a message from its channel. -/
  | waiting
  /-- About to write a message. -/
  | writing (m : PersistedMessage)
  /-- Returned. -/
  | stopped
  deriving DecidableEq, Repr

/-- The goroutine that delivers a message to a peer gateway, and the RPC it issues. -/
inductive Peer where
  /-- Not started. -/
  | idle
  /-- The RPC is issued and not executed yet. -/
  | calling (target : String) (m : PersistedMessage)
  /-- The RPC is in `DeliverLocal` on a gateway, with the channel looked up. -/
  | sending (gw : ℕ)
  /-- The RPC is executed or given up. -/
  | done
  deriving DecidableEq, Repr

end TinyTelegram.Gateway
