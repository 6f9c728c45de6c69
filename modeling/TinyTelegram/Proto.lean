import Mathlib.Tactic.Common

/-!
# Wire types

The messages of `proto/gateway.proto`.  A PTS, a timestamp and a limit are integers; a submessage
may be absent, as it may be in the generated Go code.
-/

namespace TinyTelegram

structure ChatMessage where
  senderId : String
  receiverId : String
  content : String
  clientTimestamp : Int
  deriving DecidableEq, Repr

structure PersistedMessage where
  id : String
  message : Option ChatMessage
  receiverPts : Int
  senderPts : Int
  serverTimestamp : Int
  deriving DecidableEq, Repr

structure GetDiffRequest where
  userId : String
  clientPts : Int
  limit : Int
  deriving DecidableEq, Repr

structure GetDiffResponse where
  messages : List PersistedMessage
  currentPts : Int
  deriving DecidableEq, Repr

structure PtsRequest where
  userId : String
  deriving DecidableEq, Repr

structure PtsResponse where
  pts : Int
  deriving DecidableEq, Repr

/-- The gRPC status codes the services answer with. -/
inductive Code where
  | unavailable
  | internal
  | unknown
  deriving DecidableEq, Repr

/-- A gRPC error. -/
structure Status where
  code : Code
  message : String
  deriving DecidableEq, Repr

namespace PersistedMessage

/-- `u` is the receiver of the message. -/
def isReceiver (m : PersistedMessage) (u : String) : Bool :=
  m.message.any fun msg => msg.receiverId = u

/-- `u` is the sender of the message. -/
def isSender (m : PersistedMessage) (u : String) : Bool :=
  m.message.any fun msg => msg.senderId = u

/-- The PTS of the message in the stream of `u`: the receiver's if `u` is the receiver, and the
sender's otherwise. -/
def ptsFor (m : PersistedMessage) (u : String) : Int :=
  if m.isReceiver u then m.receiverPts else m.senderPts

end PersistedMessage

end TinyTelegram
