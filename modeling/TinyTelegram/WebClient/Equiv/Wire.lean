import TinyTelegram.WebClient.Wire

/-!
# Both ends of a socket read what the other has written

The models of the gateway and of the client exchange frames; the programs exchange texts.

* `unmarshal_sendText`: whatever strings the client sends as receiver and content, the gateway reads these.
* `onMessage_writeJSON`: what the client does with the text of a frame is what it does with the frame, as
  long as doubles stand for its numbers.
-/

namespace TinyTelegram.WebClient

namespace Wire

open Gateway (Frame IncomingMessage)
open Gateway.Wire (stringMember intMember chatMessageJson persistedMessageJson unmarshal unmarshalMember
  foldsTo setString writeJSON)
open Json (Value)

/-! ### From the client to the gateway -/

/-- **The gateway reads what the client has sent**, for every receiver and content. -/
theorem unmarshal_sendText (c : Client) (receiverId content tempID : String) (now : Int) :
    unmarshal (sendText receiverId content) = some (c.sendMessage receiverId content tempID now).2 := by
  have hreceiver : foldsTo "receiver_id" "receiver_id" = true := by decide
  have hcontent : foldsTo "content" "receiver_id" = false := by decide
  have hcontent' : foldsTo "content" "content" = true := by decide
  unfold unmarshal sendText
  rw [Json.parse_print style _ rfl]
  simp only [List.foldlM_cons, List.foldlM_nil, unmarshalMember, hreceiver, hcontent, hcontent', setString,
    if_true, Bool.false_eq_true, if_false, Option.map_some, bind, Option.bind_some, pure]
  rfl

/-! ### From the gateway to the client -/

/-- A double stands for the integer. -/
def Exact (n : Int) : Prop := n.natAbs ≤ 0x20000000000000

/-- The numbers of a frame that the client reads are those that doubles stand for, and a message has all of
its strings. -/
def Sendable : Frame → Prop
  | .ack senderPts _ => Exact senderPts
  | .message m => ∀ msg, m.message = some msg →
    m.id ≠ "" ∧ msg.senderId ≠ "" ∧ msg.receiverId ≠ "" ∧ msg.content ≠ "" ∧
      Exact m.receiverPts ∧ Exact m.senderPts ∧ Exact m.serverTimestamp

theorem lookup_stringMember (key s name : String) : Json.lookup (stringMember key s) name =
    if key = name ∧ s ≠ "" then some (.str s) else none := by
  unfold stringMember
  split_ifs with hs hboth hboth
  · exact absurd hs hboth.2
  · rfl
  · simp [Json.lookup, hboth.1]
  · have hname : key ≠ name := fun hname => hboth ⟨hname, hs⟩
    simp [Json.lookup, hname]

theorem lookup_intMember (key : String) (n : Int) (name : String) : Json.lookup (intMember key n) name =
    if key = name ∧ n ≠ 0 then some (.int n) else none := by
  unfold intMember
  split_ifs with hn hboth hboth
  · exact absurd hn hboth.2
  · rfl
  · simp [Json.lookup, hboth.1]
  · have hname : key ≠ name := fun hname => hboth ⟨hname, hn⟩
    simp [Json.lookup, hname]

/-- What the client reads for a number that is written, or that is left out as it is `0`. -/
theorem intOf_eq {members : List (String × Value)} {name : String} {n : Int} (hn : Exact n)
    (h : Json.lookup members name = if n ≠ 0 then some (.int n) else none) :
    intOf members name = some n := by
  unfold intOf
  rw [h]
  by_cases hzero : n = 0
  · rw [hzero]
    rfl
  · rw [if_pos hzero]
    exact if_pos ⟨rfl, hn⟩

theorem stringOf_eq {members : List (String × Value)} {name s : String} (hs : s ≠ "")
    (h : Json.lookup members name = if s ≠ "" then some (.str s) else none) :
    stringOf members name = some s := by
  unfold stringOf
  rw [h, if_pos hs]

/-! ### From the gateway to the client -/

/-- The members of a `PersistedMessage`. -/
def members (m : PersistedMessage) : List (String × Value) :=
  stringMember "id" m.id ++ (m.message.elim [] fun msg => [("message", chatMessageJson msg)]) ++
    intMember "receiver_pts" m.receiverPts ++ intMember "sender_pts" m.senderPts ++
    intMember "server_timestamp" m.serverTimestamp

/-- The members of a `ChatMessage`. -/
def chatMembers (msg : ChatMessage) : List (String × Value) :=
  stringMember "sender_id" msg.senderId ++ stringMember "receiver_id" msg.receiverId ++
    stringMember "content" msg.content ++ intMember "client_timestamp" msg.clientTimestamp

/-- The member `message` is there exactly if there is a submessage. -/
theorem lookup_message (m : PersistedMessage) : Json.lookup (members m) "message" =
    m.message.map fun msg => .obj (chatMembers msg) := by
  unfold members
  simp only [Json.lookup_append, lookup_stringMember, lookup_intMember]
  cases m.message with
  | none => simp [Json.lookup]
  | some msg => simp [Json.lookup, chatMessageJson, chatMembers]

/-- A name other than `message`. -/
theorem lookup_submessage (o : Option ChatMessage) {name : String} (h : name ≠ "message") :
    Json.lookup (o.elim [] fun msg => [("message", chatMessageJson msg)]) name = none := by
  cases o with
  | none => rfl
  | some msg => simp [Json.lookup, h.symm]

/-- **No message is taken for an acknowledgement**, whatever it says. -/
theorem isAck_members (m : PersistedMessage) : isAck (members m) = false := by
  have htype : Json.lookup (members m) "type" = none := by
    unfold members
    simp only [Json.lookup_append, lookup_stringMember, lookup_intMember]
    rw [lookup_submessage _ (by decide)]
    simp
  unfold isAck
  rw [htype]

/-- The client reads a message with all of its strings. -/
theorem readMessage_members {m : PersistedMessage} {msg : ChatMessage} (hm : m.message = some msg)
    (h : Sendable (.message m)) : readMessage (members m) (chatMembers msg) =
      some (.message { m with message := some { msg with clientTimestamp := 0 } }) := by
  obtain ⟨hid, hsender, hreceiver, hcontent, hreceiverPts, hsenderPts, htimestamp⟩ := h msg hm
  have hlookup : ∀ name, name ≠ "message" → Json.lookup (members m) name =
      ((Json.lookup (intMember "server_timestamp" m.serverTimestamp) name).or
        ((Json.lookup (intMember "sender_pts" m.senderPts) name).or
          ((Json.lookup (intMember "receiver_pts" m.receiverPts) name).or
            (Json.lookup (stringMember "id" m.id) name)))) := by
    intro name hname
    unfold members
    simp only [Json.lookup_append, lookup_submessage _ hname, Option.none_or]
  have hid' : stringOf (members m) "id" = some m.id :=
    stringOf_eq hid (by rw [hlookup _ (by decide)]; simp [lookup_stringMember, lookup_intMember])
  have hreceiverPts' : intOf (members m) "receiver_pts" = some m.receiverPts :=
    intOf_eq hreceiverPts (by rw [hlookup _ (by decide)]; simp [lookup_stringMember, lookup_intMember])
  have hsenderPts' : intOf (members m) "sender_pts" = some m.senderPts :=
    intOf_eq hsenderPts (by rw [hlookup _ (by decide)]; simp [lookup_stringMember, lookup_intMember])
  have htimestamp' : intOf (members m) "server_timestamp" = some m.serverTimestamp :=
    intOf_eq htimestamp (by rw [hlookup _ (by decide)]; simp [lookup_stringMember, lookup_intMember])
  have hchat : ∀ name, Json.lookup (chatMembers msg) name =
      ((Json.lookup (intMember "client_timestamp" msg.clientTimestamp) name).or
        ((Json.lookup (stringMember "content" msg.content) name).or
          ((Json.lookup (stringMember "receiver_id" msg.receiverId) name).or
            (Json.lookup (stringMember "sender_id" msg.senderId) name)))) := by
    intro name
    unfold chatMembers
    simp only [Json.lookup_append]
  have hsender' : stringOf (chatMembers msg) "sender_id" = some msg.senderId :=
    stringOf_eq hsender (by rw [hchat]; simp [lookup_stringMember, lookup_intMember])
  have hreceiver' : stringOf (chatMembers msg) "receiver_id" = some msg.receiverId :=
    stringOf_eq hreceiver (by rw [hchat]; simp [lookup_stringMember, lookup_intMember])
  have hcontent' : stringOf (chatMembers msg) "content" = some msg.content :=
    stringOf_eq hcontent (by rw [hchat]; simp [lookup_stringMember, lookup_intMember])
  unfold readMessage
  rw [hid', hreceiverPts', hsenderPts', htimestamp', hsender', hreceiver', hcontent']
  rfl

/-- The client does not look at the timestamp of the sender. -/
theorem onMessage_clientTimestamp (c : Client) (now : Int) {m : PersistedMessage} {msg : ChatMessage}
    (hm : m.message = some msg) :
    c.onMessage now (.message { m with message := some { msg with clientTimestamp := 0 } }) =
      c.onMessage now (.message m) := by
  simp only [Client.onMessage, hm]
  rfl

/-- **The client reads what the gateway has written.**  What `onMessage` does with the text of a frame is what
it does with the frame, if the message in it has all of its strings and doubles stand for its numbers. -/
theorem onMessage_writeJSON {f : Frame} (hf : Sendable f) (c : Client) (now : Int) :
    onMessage c now (writeJSON f) = some (c.onMessage now f) := by
  have hparse : Json.parse (writeJSON f) = some (Gateway.Wire.json f) :=
    Json.parse_print Gateway.Wire.style _ (by decide)
  unfold onMessage read
  rw [hparse]
  cases f with
  | ack senderPts messageId =>
    have hpts : intOf [("message_id", .str messageId), ("sender_pts", .int senderPts),
        ("type", .str "ack")] "sender_pts" = some senderPts := by
      have hlookup : Json.lookup [("message_id", .str messageId), ("sender_pts", .int senderPts),
          ("type", .str "ack")] "sender_pts" = some (.int senderPts) := by
        simp [Json.lookup]
      unfold intOf
      rw [hlookup]
      exact if_pos ⟨rfl, hf⟩
    have hid : stringOf [("message_id", .str messageId), ("sender_pts", .int senderPts),
        ("type", .str "ack")] "message_id" = some messageId := by
      simp [stringOf, Json.lookup]
    have hack : isAck [("message_id", .str messageId), ("sender_pts", .int senderPts),
        ("type", .str "ack")] = true := by
      simp [isAck, Json.lookup]
    simp only [Gateway.Wire.json, hack, if_true, readAck, hpts, hid]
    rfl
  | message m =>
    have hmembers : Gateway.Wire.json (.message m) = .obj (members m) := rfl
    rw [hmembers]
    simp only [isAck_members, Bool.false_eq_true, if_false, lookup_message]
    cases hm : m.message with
    | none =>
      simp only [Option.map_none, Client.onMessage, hm]
    | some msg =>
      simp only [Option.map_some, readMessage_members hm hf, Reading.ofOption]
      rw [onMessage_clientTimestamp c now hm]

/-- A message that looks like the end of a string, of a script and of an acknowledgement. -/
def trickyMessage : PersistedMessage where
  id := "m1"
  message := some ⟨"bob", "alice", "\",\"type\":\"ack\"\x7d</script>\\\u2028", 7⟩
  receiverPts := 3
  senderPts := 0
  serverTimestamp := 1700000000000

theorem onMessage_writeJSON_trickyMessage :
    onMessage (.load none) 0 (writeJSON (.message trickyMessage)) =
      some ((Client.load none).onMessage 0 (.message trickyMessage)) := by
  have hsendable : Sendable (.message trickyMessage) := by
    intro msg hmsg
    obtain rfl := Option.some.inj hmsg
    unfold Exact
    decide
  exact onMessage_writeJSON hsendable (.load none) 0

end Wire

end TinyTelegram.WebClient
