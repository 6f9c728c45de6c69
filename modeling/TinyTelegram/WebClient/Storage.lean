import TinyTelegram.WebClient.Wire

/-!
# The saved state as a text

`web-client/public/app.js`: the text that `saveState` puts into `localStorage`, and what `loadState` reads
from it.

An entry of `messages` is one of two object literals: that of `sendMessage`, which `handleAck` changes later,
and that of `handleIncomingMessage`, which has no `pending` and may have `undefined` for its PTS.
`JSON.stringify` leaves out what is `undefined`.
-/

namespace TinyTelegram.WebClient

namespace Storage

open Json (Value)
open Wire (number? intOf stringOf)

/-- The object literal that an entry comes from. -/
inductive Literal where
  | sendMessage
  | handleIncomingMessage
  deriving DecidableEq, Repr

/-- A string, or `null`. -/
def orNull : Option String → Value
  | some s => .str s
  | none => .null

/-! ### `saveState` -/

/-- The PTS of a message. -/
def ptsMember (literal : Literal) : Option Int → List (String × Value)
  | some pts => [("pts", .int pts)]
  | none =>
    match literal with
    | .sendMessage => [("pts", .null)]
    | .handleIncomingMessage => []

def pendingMember (literal : Literal) (pending : Bool) : List (String × Value) :=
  match literal with
  | .sendMessage => [("pending", .bool pending)]
  | .handleIncomingMessage => []

/-- An entry of `messages`. -/
structure Entry where
  literal : Literal
  key : String
  message : Message
  deriving DecidableEq, Repr

/-- `[key, message]`. -/
def Entry.json (entry : Entry) : Value :=
  .arr [.str entry.key,
    .obj ([("id", .str entry.message.id), ("senderId", orNull entry.message.senderId),
        ("receiverId", .str entry.message.receiverId), ("content", .str entry.message.content)] ++
      ptsMember entry.literal entry.message.pts ++ [("timestamp", .int entry.message.timestamp)] ++
      pendingMember entry.literal entry.message.pending)]

/-- `JSON.stringify(state)`. -/
def saveText (userId gatewayUrl : Option String) (localPts : Int) (entries : List Entry) : String :=
  Json.print Wire.style (.obj [("userId", orNull userId), ("gatewayUrl", orNull gatewayUrl),
    ("localPts", .int localPts), ("messages", .arr (entries.map Entry.json))]) []

/-! ### `loadState` -/

/-- A member that is a string or `null`. -/
def orNullOf (members : List (String × Value)) (name : String) : Option (Option String) :=
  match Json.lookup members name with
  | some (.str s) => some (some s)
  | some .null => some none
  | _ => none

/-- A PTS: `null` and `undefined` are the same to every test of it. -/
def ptsOf (members : List (String × Value)) : Option (Option Int) :=
  match Json.lookup members "pts" with
  | some (.num n) => (number? n).map some
  | some .null | none => some none
  | _ => none

/-- `undefined` is as good as `false`. -/
def pendingOf (members : List (String × Value)) : Option Bool :=
  match Json.lookup members "pending" with
  | some (.bool b) => some b
  | none => some false
  | _ => none

def readMessage (members : List (String × Value)) : Option Message := do
  return {
    id := ← stringOf members "id"
    senderId := ← orNullOf members "senderId"
    receiverId := ← stringOf members "receiverId"
    content := ← stringOf members "content"
    pts := ← ptsOf members
    timestamp := ← intOf members "timestamp"
    pending := ← pendingOf members }

/-- An entry for `new Map`. -/
def readEntry : Value → Option (String × Message)
  | .arr [.str key, .obj members] => (readMessage members).map fun msg => (key, msg)
  | _ => none

/-- `new Map(entries)`: of entries with the same key the last one stays. -/
def newMap (entries : List (String × Message)) : String → Option Message :=
  entries.foldl (fun messages entry => Function.update messages entry.1 (some entry.2)) fun _ => none

/-- `loadState` on a text that `saveState` has put there: the PTS and the messages.  Other texts are left
open. -/
def loadText (text : String) : Option (Int × (String → Option Message)) :=
  match Json.parse text with
  | some (.obj state) =>
    match Json.lookup state "messages" with
    | some (.arr entries) => do
      return (← intOf state "localPts", newMap (← entries.mapM readEntry))
    | _ => none
  | _ => none

end Storage

end TinyTelegram.WebClient
