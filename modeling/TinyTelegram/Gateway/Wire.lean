import TinyTelegram.Gateway.WebSocket
import TinyTelegram.Lib.JsonPrint

/-!
# The frames of a gateway as texts

`gateway/handler/websocket.go`: what `json.Unmarshal` makes of the text of a frame, and the texts that
`WriteJSON` writes, with the struct tags of `gateway/proto/gateway.pb.go`.

`encoding/json` matches the names of the fields without regard to case; none of their letters has another
form outside ASCII.  A `null` leaves a field as it is, a value of another type is an error, and the rest of
the text is skipped.
-/

namespace TinyTelegram.Gateway

namespace Wire

open Json (Value)

/-! ### Reading -/

/-- The name of a member is that of the field, but for the case. -/
def foldsTo (name field : String) : Bool := name.toList.map Char.toLower = field.toList

/-- A value for a field of type `string`, or an error. -/
def setString (old : String) : Value → Option String
  | .str s => some s
  | .null => some old
  | _ => none

/-- One member of the object. -/
def unmarshalMember (incoming : IncomingMessage) (member : String × Value) : Option IncomingMessage :=
  if foldsTo member.1 "receiver_id" then
    (setString incoming.receiverId member.2).map fun s => { incoming with receiverId := s }
  else if foldsTo member.1 "content" then
    (setString incoming.content member.2).map fun s => { incoming with content := s }
  else some incoming

/-- `json.Unmarshal(raw, &incoming)`, without the text of its error. -/
def unmarshal (raw : String) : Option IncomingMessage :=
  match Json.parse raw with
  | some (.obj members) => members.foldlM unmarshalMember ⟨"", ""⟩
  | some .null => some ⟨"", ""⟩
  | _ => none

/-! ### Writing -/

/-- The characters that `encoding/json` writes by their code points: controls, those that mean something in
HTML, and the line separators of JavaScript. -/
def escaped (c : Char) : Bool :=
  c.toNat < 0x20 || c = '<' || c = '>' || c = '&' || c = '\u2028' || c = '\u2029'

theorem toNat_lt_of_escaped (c : Char) (h : escaped c = true) : c.toNat < 0x10000 := by
  simp only [escaped, Bool.or_eq_true, decide_eq_true_eq] at h
  rcases h with ((((h | rfl) | rfl) | rfl) | rfl) | rfl
  · omega
  all_goals decide

def style : Json.Style :=
  .ofEscapes escaped toNat_lt_of_escaped fun c hc => by simp [escaped, hc]

/-- A field with `omitempty`. -/
def stringMember (name s : String) : List (String × Value) := if s = "" then [] else [(name, .str s)]

/-- A field with `omitempty`. -/
def intMember (name : String) (n : Int) : List (String × Value) := if n = 0 then [] else [(name, .int n)]

def chatMessageJson (msg : ChatMessage) : Value :=
  .obj (stringMember "sender_id" msg.senderId ++ stringMember "receiver_id" msg.receiverId ++
    stringMember "content" msg.content ++ intMember "client_timestamp" msg.clientTimestamp)

def persistedMessageJson (m : PersistedMessage) : Value :=
  .obj (stringMember "id" m.id ++ (m.message.elim [] fun msg => [("message", chatMessageJson msg)]) ++
    intMember "receiver_pts" m.receiverPts ++ intMember "sender_pts" m.senderPts ++
    intMember "server_timestamp" m.serverTimestamp)

/-- The value of a frame; the members of a Go map come in the order of their names. -/
def json : Frame → Value
  | .ack senderPts messageId =>
    .obj [("message_id", .str messageId), ("sender_pts", .int senderPts), ("type", .str "ack")]
  | .message m => persistedMessageJson m

/-- `conn.WriteJSON`. -/
def writeJSON (frame : Frame) : String := Json.print style (json frame) ['\n']

end Wire

end TinyTelegram.Gateway
