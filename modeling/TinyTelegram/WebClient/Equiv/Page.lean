import TinyTelegram.Lib.Listing
import TinyTelegram.WebClient.Page

/-!
# The bubbles and the messages

The design leaves it to the client to tell duplicates by the message id, and promises a consistent order
of the PTS.  The map `messages` tells duplicates, but `displayMessage` appends a bubble whenever it is
called, at the end.

So the container shows the messages (`Rendered`) as long as every message that is displayed is new to the
map and above those displayed before (`InOrder`), and no longer: `rendered_iff`.  A message that Alice
writes to herself is both acknowledged and delivered to her, and gets two bubbles (`not_rendered`).
-/

namespace TinyTelegram.WebClient

open Gateway (Frame)

/-- The id of a bubble. -/
def Element.messageID? : Element → Option String
  | .message id .. => some id
  | .system _ => none

/-- The PTS of a message that is not pending. -/
def Message.shownPts? (msg : Message) : Option Int := if msg.pending then none else msg.pts

namespace Page

/-- The ids of the bubbles, from the top. -/
def bubbles (p : Page) : List String := p.container.filterMap Element.messageID?

/-- The container has one bubble for each message, and those of the messages that are not pending are in
the order of the PTS. -/
def Rendered (p : Page) : Prop := Listing Message.shownPts? p.client.messages p.bubbles

/-- A message with the id and the PTS is new, and above the others that are not pending. -/
def Fits (messages : String → Option Message) (id : String) (pts : Option Int) : Prop :=
  messages id = none ∧
    ∀ x, pts = some x → ∀ k y, Listing.weight? Message.shownPts? messages k = some y → y < x

/-- What is displayed is new and above the others: an incoming message, an acknowledged one once its
optimistic copy is gone, and a temp id is new. -/
def InOrder (p : Page) : Event → Prop
  | .onMessage _ _ (.ack senderPts messageID) =>
    ∀ tempID, p.client.pendingAcks.head? = some tempID → p.client.messages tempID ≠ none →
      Fits (Function.update p.client.messages tempID none) messageID (some senderPts)
  | .onMessage _ _ (.message m) =>
    ∀ msg, m.message = some msg → Fits p.client.messages m.id (p.client.applicablePts m msg)
  | .send receiverID content now rand =>
    receiverID ≠ "" → content ≠ "" → p.connected = true →
      p.client.messages (tempId now rand) = none
  | _ => True

/-! ### Steps -/

/-- The effects of an event on the page `p`. -/
inductive Step (p : Page) : Event → Page → Prop where
  | submit {userId gatewayUrl throws} (hshown : p.loginShown = true) :
      Step p (.submit userId gatewayUrl throws) (p.connect userId gatewayUrl throws)
  | onOpen {i} (hi : p.sockets[i]? = some .connecting) :
      Step p (.onOpen i) { p with sockets := p.sockets.set i .opened }.onOpen
  | onMessage {i now frame} (hi : p.sockets[i]? = some .opened) :
      Step p (.onMessage i now frame) (p.onMessage now frame)
  | onError {i} : Step p (.onError i) p
  | onClose {i r} (hi : p.sockets[i]? = some r) (hr : r ≠ .closed) :
      Step p (.onClose i) { p with sockets := p.sockets.set i .closed }.onClose
  | timeout {k throws delay userId gatewayUrl} (hk : p.timers[k]? = some delay)
      (huser : p.client.userId = some userId) (hurl : p.client.gatewayUrl = some gatewayUrl) :
      Step p (.timeout k throws)
        ({ p with timers := p.timers.eraseIdx k }.connect userId gatewayUrl throws)
  | send {receiverID content now rand} (hfilled : receiverID ≠ "" ∧ content ≠ "") :
      Step p (.send receiverID content now rand)
        (p.sendMessage receiverID content (tempId now rand) now)
  | sendEmpty {receiverID content now rand} (hempty : ¬ (receiverID ≠ "" ∧ content ≠ "")) :
      Step p (.send receiverID content now rand) p

/-- **Every step of a page is one of the listed effects.** -/
theorem step_cases {p q : Page} {e : Event} (h : p.step e = some q) : Step p e q := by
  cases e with
  | submit userId gatewayUrl throws =>
    simp only [step] at h
    split_ifs at h with hshown
    obtain rfl := Option.some.inj h
    exact .submit hshown
  | onOpen i =>
    simp only [step] at h
    split_ifs at h with hi
    obtain rfl := Option.some.inj h
    exact .onOpen hi
  | onMessage i now frame =>
    simp only [step] at h
    split_ifs at h with hi
    obtain rfl := Option.some.inj h
    exact .onMessage hi
  | onError i =>
    simp only [step] at h
    split at h
    · cases h
    · cases h
    · obtain rfl := Option.some.inj h
      exact .onError
  | onClose i =>
    simp only [step] at h
    split at h
    · cases h
    · cases h
    · rename_i r hr hi
      obtain rfl := Option.some.inj h
      exact .onClose hi hr
  | timeout k throws =>
    simp only [step] at h
    split at h
    · rename_i delay userId gatewayUrl hk huser hurl
      obtain rfl := Option.some.inj h
      exact .timeout hk huser hurl
    · cases h
  | send receiverID content now rand =>
    obtain rfl := Option.some.inj h
    by_cases hfilled : receiverID ≠ "" ∧ content ≠ ""
    · rw [if_pos hfilled]
      exact .send hfilled
    · rw [if_neg hfilled]
      exact .sendEmpty hfilled

/-! ### The bubbles -/

section Bubbles

variable (p : Page)

@[simp] theorem addSystemMessage_bubbles (text : String) :
    (p.addSystemMessage text).bubbles = p.bubbles := by
  simp [bubbles, addSystemMessage, Element.messageID?]

@[simp] theorem addSystemMessage_client (text : String) :
    (p.addSystemMessage text).client = p.client := rfl

@[simp] theorem displayMessage_client (id : String) : (p.displayMessage id).client = p.client := by
  unfold displayMessage
  split <;> rfl

/-- A message of the map gets a bubble at the bottom. -/
theorem displayMessage_bubbles {id : String} (hid : p.client.messages id ≠ none) :
    (p.displayMessage id).bubbles = p.bubbles ++ [id] := by
  obtain ⟨msg, hmsg⟩ := Option.ne_none_iff_exists'.mp hid
  simp [displayMessage, hmsg, bubbles, Element.messageID?]

/-- The first bubble of a message goes. -/
theorem removeMessage_bubbles (id : String) : (p.removeMessage id).bubbles = p.bubbles.erase id := by
  unfold bubbles removeMessage
  simp only
  induction p.container with
  | nil => rfl
  | cons x container ih =>
    cases x with
    | system text =>
      rw [List.eraseP_cons_of_neg (by simp), List.filterMap_cons_none rfl, ih,
        List.filterMap_cons_none rfl]
    | message id' sent content metaText =>
      have hid' : (Element.message id' sent content metaText).messageID? = some id' := rfl
      rw [List.filterMap_cons_some hid']
      by_cases hid : id' = id
      · rw [List.eraseP_cons_of_pos (by simp [hid]), hid, List.erase_cons_head]
      · rw [List.eraseP_cons_of_neg (by simp [hid]), List.filterMap_cons_some hid', ih,
          List.erase_cons_tail (by simpa using hid)]

/-- The client of the page takes the frame. -/
theorem onMessage_client (now : Int) (frame : Frame) :
    (p.onMessage now frame).client = p.client.onMessage now frame := by
  cases frame with
  | ack senderPts messageID =>
    show (p.handleAck senderPts messageID).client = p.client.handleAck senderPts messageID
    unfold handleAck
    simp only
    split
    · rfl
    · split
      · rw [displayMessage_client]
        rfl
      · rfl
  | message m =>
    simp only [onMessage, Client.onMessage]
    cases m.message with
    | none => rfl
    | some msg =>
      simp only [handleIncomingMessage]
      rw [displayMessage_client]

/-- The client of the page sees the socket close. -/
theorem onClose_client : p.onClose.client = p.client.onClose.1 := by
  unfold onClose
  split
  · rename_i client delay hclose
    rw [hclose]
    rfl
  · rename_i client hclose
    rw [hclose]
    rfl

@[simp] theorem onClose_bubbles : p.onClose.bubbles = p.bubbles := by
  unfold onClose
  split
  · exact addSystemMessage_bubbles ..
  · exact addSystemMessage_bubbles ..

end Bubbles

/-! ### One event -/

theorem rendered_congr {p q : Page} (hmessages : q.client.messages = p.client.messages)
    (hbubbles : q.bubbles = p.bubbles) : Rendered q ↔ Rendered p := by
  rw [Rendered, Rendered, hmessages, hbubbles]

theorem rendered_connect (p : Page) (userId gatewayUrl : String) (throws : Bool) :
    Rendered (p.connect userId gatewayUrl throws) ↔ Rendered p := by
  cases throws with
  | true => exact rendered_congr rfl rfl
  | false => exact rendered_congr rfl rfl

theorem rendered_onOpen (p : Page) : Rendered p.onOpen ↔ Rendered p :=
  rendered_congr rfl (addSystemMessage_bubbles ..)

theorem rendered_onClose (p : Page) : Rendered p.onClose ↔ Rendered p := by
  have hmessages := p.client.onClose_messages
  unfold onClose
  split
  · rename_i client delay hclose
    rw [hclose] at hmessages
    exact rendered_congr hmessages (addSystemMessage_bubbles ..)
  · rename_i client hclose
    rw [hclose] at hmessages
    exact rendered_congr hmessages (addSystemMessage_bubbles ..)

/-- **A message is displayed** that has just come into the map. -/
theorem rendered_displayMessage {p : Page} {messages : String → Option Message}
    (h : Listing Message.shownPts? messages p.bubbles) {id : String} {msg : Message}
    {pts : Option Int} (hpts : msg.shownPts? = pts)
    (hmessages : p.client.messages = Function.update messages id (some msg)) :
    Rendered (p.displayMessage id) ↔ Fits messages id pts := by
  have hid : p.client.messages id ≠ none := by
    rw [hmessages, Function.update_self]
    exact Option.some_ne_none _
  rw [Rendered, displayMessage_client, p.displayMessage_bubbles hid, hmessages, ← hpts]
  exact h.concat_iff

theorem rendered_sendMessage {p : Page} (h : Rendered p) (receiverID content tempID : String)
    (now : Int) : Rendered (p.sendMessage receiverID content tempID now) ↔
      (p.connected = true → p.client.messages tempID = none) := by
  unfold sendMessage
  by_cases hconnected : p.connected = true
  · have hshown := rendered_displayMessage
      (p := { p with client := (p.client.sendMessage receiverID content tempID now).1 }) h rfl rfl
    rw [if_pos hconnected, hshown]
    constructor
    · exact fun hfits _ => hfits.1
    · exact fun hnone => ⟨hnone hconnected, fun x hx => by cases hx⟩
  · rw [if_neg hconnected]
    exact ⟨fun _ hconn => absurd hconn hconnected, fun _ => h⟩

theorem rendered_handleAck {p : Page} (h : Rendered p) (senderPts : Int) (messageID : String) :
    Rendered (p.handleAck senderPts messageID) ↔
      ∀ tempID, p.client.pendingAcks.head? = some tempID → p.client.messages tempID ≠ none →
        Fits (Function.update p.client.messages tempID none) messageID (some senderPts) := by
  -- without an optimistic message nothing is displayed
  have hsame : (p.client.handleAck senderPts messageID).messages = p.client.messages →
      Rendered { p with client := p.client.handleAck senderPts messageID } :=
    fun hmessages => (rendered_congr (q := { p with client := p.client.handleAck senderPts messageID })
      hmessages rfl).mpr h
  unfold handleAck
  simp only
  cases hpending : p.client.pendingAcks with
  | nil =>
    refine ⟨fun _ tempID htemp => ?_, fun _ => hsame (p.client.handleAck_messages_nil hpending)⟩
    cases htemp
  | cons tempID rest =>
    simp only [List.head?_cons, Option.some.injEq, forall_eq']
    cases hmsg : p.client.messages tempID with
    | none =>
      have hmessages : (p.client.handleAck senderPts messageID).messages = p.client.messages := by
        simp only [Client.handleAck, Client.updatePtsIf_pendingAcks, Client.updatePtsIf_messages,
          hpending, hmsg]
      exact ⟨fun _ hne => absurd rfl hne, fun _ => hsame hmessages⟩
    | some msg =>
      -- the copy is erased, and the acknowledged message displayed
      have hmessages : (p.client.handleAck senderPts messageID).messages = _ :=
        p.client.handleAck_messages hpending hmsg
      have herased : Listing Message.shownPts? (Function.update p.client.messages tempID none)
          ({ p with client := p.client.handleAck senderPts messageID }.removeMessage tempID).bubbles := by
        rw [removeMessage_bubbles]
        exact h.erase
      rw [Option.isSome_some, if_pos rfl, rendered_displayMessage herased rfl hmessages]
      exact ⟨fun hfits _ => hfits, fun hfits => hfits (Option.some_ne_none _)⟩

theorem rendered_handleIncomingMessage {p : Page} (h : Rendered p) (m : PersistedMessage)
    (msg : ChatMessage) (now : Int) : Rendered (p.handleIncomingMessage m msg now) ↔
      Fits p.client.messages m.id (p.client.applicablePts m msg) := by
  have hmessages : (p.client.handleIncomingMessage m msg now).messages = Function.update
      p.client.messages m.id (some {
        id := m.id
        senderId := some msg.senderId
        receiverId := msg.receiverId
        content := msg.content
        pts := p.client.applicablePts m msg
        timestamp := if m.serverTimestamp ≠ 0 then m.serverTimestamp else now
        pending := false }) := by
    simp only [Client.handleIncomingMessage, Client.saveState_messages, Client.updatePtsIf_messages]
  unfold handleIncomingMessage
  refine rendered_displayMessage ?_ rfl hmessages
  -- the report of a gap is no bubble
  have hgap : ((p.client.gap? m msg).toList.map fun g => Element.system (gapText g)).filterMap
      Element.messageID? = [] := by
    simp [Element.messageID?]
  rw [bubbles, List.filterMap_append, hgap, List.append_nil]
  exact h

/-- **One event** keeps the container in step with the messages exactly if it is in order. -/
theorem rendered_step {p q : Page} {e : Event} (h : Rendered p) (hstep : Step p e q) :
    Rendered q ↔ InOrder p e := by
  cases hstep with
  | submit hshown => exact iff_of_true ((rendered_connect ..).mpr h) trivial
  | onOpen hi => exact iff_of_true ((rendered_onOpen _).mpr h) trivial
  | @onMessage i now frame hi =>
    cases frame with
    | ack senderPts messageID => exact rendered_handleAck h senderPts messageID
    | message m =>
      simp only [onMessage, InOrder]
      cases m.message with
      | none => exact iff_of_true h fun msg hmsg => absurd hmsg.symm (Option.some_ne_none msg)
      | some msg =>
        simp only [Option.some.injEq, forall_eq']
        exact rendered_handleIncomingMessage h m msg now
  | onError => exact iff_of_true h trivial
  | onClose hi hr => exact iff_of_true ((rendered_onClose _).mpr h) trivial
  | timeout hk huser hurl => exact iff_of_true ((rendered_connect ..).mpr h) trivial
  | @send receiverID content now rand hfilled =>
    rw [rendered_sendMessage h]
    exact ⟨fun hnone _ _ => hnone, fun hnone => hnone hfilled.1 hfilled.2⟩
  | sendEmpty hempty => exact iff_of_true h fun hreceiver hcontent => absurd ⟨hreceiver, hcontent⟩ hempty

/-- **When the container shows the messages.**  On a page that starts without messages there is one
bubble for each message throughout, and those of the messages that are not pending are in the order of the
PTS, exactly if every message that is displayed is new to the map and above the others. -/
theorem rendered_iff {storage : Option Saved} (hempty : ∀ id, (Client.load storage).messages id = none)
    (es : List Event) : (page storage).Always Rendered (page storage).init es ↔
      (page storage).Meets InOrder (page storage).init es :=
  (page storage).always_iff_meets (Listing.empty hempty)
    (fun _ _ _ _ h hstep => rendered_step h (step_cases hstep)) es

/-- Alice logs in and writes to Bob, whose message arrives before she gets the acknowledgement. -/
def incomingRun : List Event :=
  [.submit "alice" "ws://gateway1" false, .onOpen 0] ++ [.send "bob" "hi" 1 "a"] ++
  [.onMessage 0 2 (.message ⟨"b", some ⟨"bob", "alice", "hello", 1⟩, 1, 1, 3⟩)]

/-- Alice's pending message and Bob's have a bubble each. -/
theorem rendered_iff_incomingRun : (page none).Always Rendered (page none).init incomingRun := by
  refine (@rendered_iff none (fun _ => rfl) incomingRun).mpr ?_
  have hlogin : (page none).Meets InOrder (page none).init
      [.submit "alice" "ws://gateway1" false, .onOpen 0] := by
    refine Lts.System.Meets.of_forall fun p e he => ?_
    rcases List.mem_pair.mp he with rfl | rfl
    · trivial
    · trivial
  have hsent : (page none).Meets InOrder (page none).init
      ([.submit "alice" "ws://gateway1" false, .onOpen 0] ++ [.send "bob" "hi" 1 "a"]) :=
    hlogin.concat rfl fun _ _ _ => rfl
  refine hsent.concat rfl fun msg hmsg => ⟨by decide, ?_⟩
  intro x _ k y hy
  -- the one message that there is is pending
  obtain ⟨shown, hshown, hy⟩ := Option.bind_eq_some_iff.mp hy
  by_cases hk : k = tempId 1 "a"
  · rw [hk] at hshown
    obtain rfl := Option.some.inj hshown
    cases hy
  · cases (Function.update_of_ne hk ..).symm.trans hshown

/-- Alice logs in and writes to herself; the message is acknowledged, and delivered to her. -/
def selfAddressedRun : List Event :=
  [.submit "alice" "ws://gateway1" false, .onOpen 0, .send "alice" "hi" 1 "a",
    .onMessage 0 2 (.ack 2 "m"),
    .onMessage 0 3 (.message ⟨"m", some ⟨"alice", "alice", "hi", 1⟩, 1, 2, 4⟩)]

/-- **Two bubbles** of one message. -/
theorem not_rendered : ∃ p, (page none).run (page none).init selfAddressedRun = some p ∧
    p.bubbles = ["m", "m"] ∧ ¬ (page none).Always Rendered (page none).init selfAddressedRun := by
  obtain ⟨p, hp, hbubbles⟩ : ∃ p, (page none).run (page none).init selfAddressedRun = some p ∧
      p.bubbles = ["m", "m"] := ⟨_, rfl, by decide⟩
  refine ⟨p, hp, hbubbles, fun h => ?_⟩
  have hnodup := (h.of_run hp).nodup
  rw [hbubbles] at hnodup
  exact absurd hnodup (by decide)

end Page

end TinyTelegram.WebClient
