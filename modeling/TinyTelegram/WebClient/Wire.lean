import TinyTelegram.Gateway.Wire
import TinyTelegram.WebClient.App

/-!
# The frames of the client as texts

`web-client/public/app.js`: the text that `sendMessage` sends, and what `onMessage` makes of the text of a
frame.

A number of JavaScript is a double, which stands for the integers up to `2 ^ 53`; what becomes of others is
left open.  The client only ever tests a PTS or a timestamp for truth before it uses it, so that one that is
missing is as good as `0`.  A string that is missing, and a member of another type, is left open too: no
gateway writes such a frame.
-/

namespace TinyTelegram.WebClient

namespace Wire

open Gateway (Frame)
open Json (Value)

/-! ### Writing -/

/-- The characters that `JSON.stringify` writes by their code points. -/
def escaped (c : Char) : Bool := c.toNat < 0x20

def style : Json.Style :=
  .ofEscapes escaped (fun c hc => by simp only [escaped, decide_eq_true_eq] at hc; omega)
    fun c hc => by simp [escaped, hc]

/-- `JSON.stringify(message)`. -/
def sendText (receiverId content : String) : String :=
  Json.print style (.obj [("receiver_id", .str receiverId), ("content", .str content)]) []

/-! ### Reading -/

/-- An integer that a double stands for: one up to `2 ^ 53`. -/
def number? (n : Json.Number) : Option Int :=
  if n.exponent = 0 ∧ n.mantissa.natAbs ≤ 0x20000000000000 then some n.mantissa else none

def intOf (members : List (String × Value)) (name : String) : Option Int :=
  match Json.lookup members name with
  | some (.num n) => number? n
  | none => some 0
  | _ => none

def stringOf (members : List (String × Value)) (name : String) : Option String :=
  match Json.lookup members name with
  | some (.str s) => some s
  | _ => none

/-- What `onMessage` finds in a text. -/
inductive Reading where
  | frame (f : Frame)
  /-- It logs that it does not know the format, or that `JSON.parse` has thrown. -/
  | unknown
  /-- This is left open. -/
  | other

def Reading.ofOption : Option Frame → Reading
  | some f => .frame f
  | none => .other

/-- `handleAck` reads these members. -/
def readAck (data : List (String × Value)) : Option Frame := do
  return .ack (← intOf data "sender_pts") (← stringOf data "message_id")

/-- `handleIncomingMessage` reads these members, not the timestamp of the sender. -/
def readMessage (data msg : List (String × Value)) : Option Frame := do
  return .message {
    id := ← stringOf data "id"
    message := some {
      senderId := ← stringOf msg "sender_id"
      receiverId := ← stringOf msg "receiver_id"
      content := ← stringOf msg "content"
      clientTimestamp := 0 }
    receiverPts := ← intOf data "receiver_pts"
    senderPts := ← intOf data "sender_pts"
    serverTimestamp := ← intOf data "server_timestamp" }

/-- `data.type === 'ack'`. -/
def isAck (data : List (String × Value)) : Bool :=
  match Json.lookup data "type" with
  | some (.str s) => s = "ack"
  | _ => false

/-- `onMessage` up to the call of a handler. -/
def read (text : String) : Reading :=
  match Json.parse text with
  | some (.obj data) =>
    if isAck data then .ofOption (readAck data)
    else
      match Json.lookup data "message" with
      | some (.obj msg) => .ofOption (readMessage data msg)
      | none | some .null | some (.bool false) => .unknown
      | some _ => .other
  -- `JSON.parse` throws, `data` is `null`, or it has no members of these names
  | _ => .unknown

/-- `onMessage` on the text of a frame, unless that is left open. -/
def onMessage (c : Client) (now : Int) (text : String) : Option Client :=
  match read text with
  | .frame f => some (c.onMessage now f)
  | .unknown => some c
  | .other => none

end Wire

end TinyTelegram.WebClient
