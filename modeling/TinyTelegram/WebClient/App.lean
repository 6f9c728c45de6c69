import Mathlib.Logic.Function.Basic
import TinyTelegram.Gateway.Registry
import TinyTelegram.Gateway.WebSocket

/-!
# The web client

`web-client/public/app.js`: the class `TinyTelegramClient`, without what it draws.  A field that may be
`null` or `undefined` is an `Option`; the map `messages` is a function, as nothing here depends on the
order of its entries.

`localStorage` is the field `storage`, which outlives the page.
-/

namespace TinyTelegram.WebClient

open Gateway (ConnId IncomingMessage Frame)

/-- An entry of `messages`. -/
structure Message where
  id : String
  senderId : Option String
  receiverId : String
  content : String
  pts : Option Int
  timestamp : Int
  pending : Bool
  deriving DecidableEq, Repr

/-- What `saveState` puts into `localStorage`. -/
structure Saved where
  userId : Option String
  gatewayUrl : Option String
  localPts : Int
  messages : String → Option Message

/-- The fields of the class. -/
structure Client where
  ws : Option ConnId
  userId : Option String
  gatewayUrl : Option String
  localPts : Int
  messages : String → Option Message
  /-- Temp ids in the order of the sends. -/
  pendingAcks : List String
  reconnectAttempts : ℕ
  storage : Option Saved

def maxReconnectAttempts : ℕ := 5

def reconnectDelay : ℕ := 2000

/-- The id of an optimistic message, `temp_${Date.now()}_${rand}`. -/
def tempId (now : Int) (rand : String) : String := "temp_" ++ toString now ++ "_" ++ rand

namespace Client

def saveState (c : Client) : Client :=
  { c with storage := some ⟨c.userId, c.gatewayUrl, c.localPts, c.messages⟩ }

/-- The constructor, which ends with `loadState`. -/
def load (storage : Option Saved) : Client where
  ws := none
  userId := none
  gatewayUrl := none
  localPts := storage.elim 0 Saved.localPts
  messages := storage.elim (fun _ => none) Saved.messages
  pendingAcks := []
  reconnectAttempts := 0
  storage := storage

/-- `connect`, with the new socket; there is none if `new WebSocket` throws. -/
def connect (c : Client) (userId gatewayUrl : String) (ws : Option ConnId) : Client :=
  { c with userId := some userId, gatewayUrl := some gatewayUrl, ws := ws.orElse fun _ => c.ws }

def onOpen (c : Client) : Client := saveState { c with reconnectAttempts := 0 }

/-- `onClose`, and after how many milliseconds it connects again. -/
def onClose (c : Client) : Client × Option ℕ :=
  if c.reconnectAttempts < maxReconnectAttempts then
    ({ c with reconnectAttempts := c.reconnectAttempts + 1 },
      some (reconnectDelay * (c.reconnectAttempts + 1)))
  else (c, none)

def updatePts (c : Client) (newPts : Int) : Client :=
  if newPts > c.localPts then saveState { c with localPts := newPts } else c

/-- `if (pts) this.updatePts(pts)`. -/
def updatePtsIf (c : Client) (pts : Int) : Client := if pts ≠ 0 then c.updatePts pts else c

/-- The optimistic message `tempID` becomes the message `messageID`. -/
def replace (c : Client) (tempID messageID : String) (msg : Message) (senderPts : Int) : Client :=
  { c with
    messages := Function.update (Function.update c.messages tempID none) messageID
      (some { msg with id := messageID, pts := some senderPts, pending := false }) }

def handleAck (c : Client) (senderPts : Int) (messageID : String) : Client :=
  let c := c.updatePtsIf senderPts
  match c.pendingAcks with
  | [] => c
  | tempID :: rest =>
    match c.messages tempID with
    | none => { c with pendingAcks := rest }
    | some msg => { c with pendingAcks := rest }.replace tempID messageID msg senderPts

/-- The PTS of a message that applies to the user of the page. -/
def applicablePts (c : Client) (m : PersistedMessage) (msg : ChatMessage) : Option Int :=
  if some msg.receiverId = c.userId then some m.receiverPts
  else if some msg.senderId = c.userId then some m.senderPts
  else none

/-- The gap that `handleIncomingMessage` reports before it takes the PTS over: the local PTS, and that of
the message. -/
def gap? (c : Client) (m : PersistedMessage) (msg : ChatMessage) : Option (Int × Int) :=
  (c.applicablePts m msg).bind fun pts =>
    if pts ≠ 0 ∧ pts > c.localPts + 1 then some (c.localPts, pts) else none

def handleIncomingMessage (c : Client) (m : PersistedMessage) (msg : ChatMessage) (now : Int) :
    Client :=
  let pts := c.applicablePts m msg
  let c := c.updatePtsIf (pts.getD 0)
  saveState { c with
    messages := Function.update c.messages m.id <| some {
      id := m.id
      senderId := some msg.senderId
      receiverId := msg.receiverId
      content := msg.content
      pts := pts
      timestamp := if m.serverTimestamp ≠ 0 then m.serverTimestamp else now
      pending := false } }

/-- `onMessage`; a frame of another form is ignored. -/
def onMessage (c : Client) (now : Int) : Frame → Client
  | .ack senderPts messageID => c.handleAck senderPts messageID
  | .message m =>
    match m.message with
    | some msg => c.handleIncomingMessage m msg now
    | none => c

/-- `sendMessage` on a socket that is open: the frame that is sent, and the optimistic message. -/
def sendMessage (c : Client) (receiverID content tempID : String) (now : Int) :
    Client × IncomingMessage :=
  ({ c with
      messages := Function.update c.messages tempID <| some {
        id := tempID
        senderId := c.userId
        receiverId := receiverID
        content := content
        pts := none
        timestamp := now
        pending := true }
      pendingAcks := c.pendingAcks ++ [tempID] },
    ⟨receiverID, content⟩)

/-! ### What the functions change -/

section Updates

variable (c : Client)

@[simp] theorem saveState_messages : c.saveState.messages = c.messages := rfl

@[simp] theorem saveState_pendingAcks : c.saveState.pendingAcks = c.pendingAcks := rfl

@[simp] theorem saveState_localPts : c.saveState.localPts = c.localPts := rfl

@[simp] theorem saveState_userId : c.saveState.userId = c.userId := rfl

/-- What `updatePts` does: nothing, or it takes a higher PTS over and saves the state. -/
theorem updatePtsIf_cases (pts : Int) : c.updatePtsIf pts = c ∨
    c.localPts < pts ∧ c.updatePtsIf pts = saveState { c with localPts := pts } := by
  unfold updatePtsIf updatePts
  split
  · split
    · exact Or.inr ⟨‹_›, rfl⟩
    · exact Or.inl rfl
  · exact Or.inl rfl

/-- `updatePts` never lowers the PTS. -/
theorem updatePtsIf_localPts (pts : Int) : (c.updatePtsIf pts).localPts = c.localPts ∨
    c.localPts < pts ∧ (c.updatePtsIf pts).localPts = pts := by
  rcases c.updatePtsIf_cases pts with h | ⟨hlt, h⟩
  · exact Or.inl (congrArg localPts h)
  · exact Or.inr ⟨hlt, (congrArg localPts h).trans rfl⟩

@[simp] theorem updatePtsIf_userId (pts : Int) : (c.updatePtsIf pts).userId = c.userId := by
  rcases c.updatePtsIf_cases pts with h | ⟨-, h⟩
  · exact congrArg userId h
  · exact (congrArg userId h).trans rfl

@[simp] theorem updatePtsIf_ws (pts : Int) : (c.updatePtsIf pts).ws = c.ws := by
  rcases c.updatePtsIf_cases pts with h | ⟨-, h⟩
  · exact congrArg ws h
  · exact (congrArg ws h).trans rfl

@[simp] theorem updatePtsIf_messages (pts : Int) : (c.updatePtsIf pts).messages = c.messages := by
  rcases c.updatePtsIf_cases pts with h | ⟨-, h⟩
  · exact congrArg messages h
  · exact (congrArg messages h).trans rfl

@[simp] theorem updatePtsIf_pendingAcks (pts : Int) :
    (c.updatePtsIf pts).pendingAcks = c.pendingAcks := by
  rcases c.updatePtsIf_cases pts with h | ⟨-, h⟩
  · exact congrArg pendingAcks h
  · exact (congrArg pendingAcks h).trans rfl

theorem updatePtsIf_storage (pts : Int) : (c.updatePtsIf pts).storage = c.storage ∨
    ∃ saved, (c.updatePtsIf pts).storage = some saved ∧ saved.messages = c.messages := by
  rcases c.updatePtsIf_cases pts with h | ⟨-, h⟩
  · exact Or.inl (congrArg storage h)
  · exact Or.inr ⟨_, congrArg storage h, rfl⟩

/-- `onClose` counts the attempt, if it makes one, and leaves everything else. -/
theorem onClose_fst :
    c.onClose.1 = { c with reconnectAttempts := c.onClose.1.reconnectAttempts } := by
  unfold onClose
  split <;> rfl

@[simp] theorem onClose_messages : c.onClose.1.messages = c.messages :=
  (congrArg messages c.onClose_fst).trans rfl

@[simp] theorem onClose_localPts : c.onClose.1.localPts = c.localPts :=
  (congrArg localPts c.onClose_fst).trans rfl

@[simp] theorem onClose_ws : c.onClose.1.ws = c.ws := (congrArg ws c.onClose_fst).trans rfl

@[simp] theorem onClose_userId : c.onClose.1.userId = c.userId := (congrArg userId c.onClose_fst).trans rfl

@[simp] theorem onClose_pendingAcks : c.onClose.1.pendingAcks = c.pendingAcks :=
  (congrArg pendingAcks c.onClose_fst).trans rfl

@[simp] theorem onClose_storage : c.onClose.1.storage = c.storage := (congrArg storage c.onClose_fst).trans rfl

/-- After `updatePts` an acknowledgement changes the temp ids and the messages only. -/
theorem handleAck_eq (senderPts : Int) (messageID : String) :
    c.handleAck senderPts messageID =
      { c.updatePtsIf senderPts with
        pendingAcks := (c.handleAck senderPts messageID).pendingAcks
        messages := (c.handleAck senderPts messageID).messages } := by
  unfold handleAck
  simp only
  split
  · rfl
  · split <;> rfl

/-- An acknowledgement takes the oldest temp id. -/
@[simp] theorem handleAck_pendingAcks (senderPts : Int) (messageID : String) :
    (c.handleAck senderPts messageID).pendingAcks = c.pendingAcks.tail := by
  unfold handleAck
  simp only [updatePtsIf_pendingAcks, updatePtsIf_messages]
  split
  · rename_i hempty
    rw [updatePtsIf_pendingAcks, hempty]
    rfl
  · rename_i tempID rest hcons
    rw [hcons]
    split <;> rfl

/-- The optimistic message of the oldest temp id becomes the acknowledged one. -/
theorem handleAck_messages {senderPts : Int} {messageID tempID : String} {rest : List String}
    {msg : Message} (hpending : c.pendingAcks = tempID :: rest) (hmsg : c.messages tempID = some msg) :
    (c.handleAck senderPts messageID).messages =
      Function.update (Function.update c.messages tempID none) messageID
        (some { msg with id := messageID, pts := some senderPts, pending := false }) := by
  simp only [handleAck, updatePtsIf_pendingAcks, updatePtsIf_messages, hpending, hmsg, replace]

/-- What an acknowledgement does to the PTS and the user. -/
theorem handleAck_updatePtsIf (senderPts : Int) (messageID : String) :
    (c.handleAck senderPts messageID).localPts = (c.updatePtsIf senderPts).localPts ∧
      (c.handleAck senderPts messageID).userId = c.userId := by
  have h := c.handleAck_eq senderPts messageID
  exact ⟨(congrArg localPts h).trans rfl, (congrArg userId h).trans (c.updatePtsIf_userId senderPts)⟩

/-- An acknowledgement takes only the optimistic message away. -/
theorem handleAck_isSome {senderPts : Int} {messageID id : String}
    (h : (c.messages id).isSome = true) (hid : id ∉ c.pendingAcks) :
    ((c.handleAck senderPts messageID).messages id).isSome = true := by
  unfold handleAck
  simp only [updatePtsIf_pendingAcks, updatePtsIf_messages]
  split
  · rwa [updatePtsIf_messages]
  · rename_i tempID rest hcons
    split
    · exact h
    · have hne : id ≠ tempID := by
        rintro rfl
        exact hid (hcons ▸ List.mem_cons_self)
      simp only [replace]
      by_cases hm : id = messageID
      · rw [hm, Function.update_self]
        rfl
      · rwa [Function.update_of_ne hm, Function.update_of_ne hne]

/-- An acknowledgement that finds no temp id changes no message. -/
theorem handleAck_messages_nil {senderPts : Int} {messageID : String}
    (hpending : c.pendingAcks = []) :
    (c.handleAck senderPts messageID).messages = c.messages := by
  simp only [handleAck, updatePtsIf_pendingAcks, hpending, updatePtsIf_messages]

/-- What an acknowledgement saves, it saves before it changes the messages. -/
theorem handleAck_storage (senderPts : Int) (messageID : String) :
    (c.handleAck senderPts messageID).storage = c.storage ∨
      ∃ saved, (c.handleAck senderPts messageID).storage = some saved ∧
        saved.messages = c.messages := by
  rw [congrArg storage (c.handleAck_eq senderPts messageID)]
  exact c.updatePtsIf_storage senderPts

@[simp] theorem handleIncomingMessage_pendingAcks (m : PersistedMessage) (msg : ChatMessage)
    (now : Int) : (c.handleIncomingMessage m msg now).pendingAcks = c.pendingAcks := by
  simp only [handleIncomingMessage, saveState_pendingAcks, updatePtsIf_pendingAcks]

/-- An incoming message is stored under its id, as it is. -/
theorem handleIncomingMessage_messages (m : PersistedMessage) (msg : ChatMessage) (now : Int) :
    ∃ stored, (c.handleIncomingMessage m msg now).messages =
        Function.update c.messages m.id (some stored) ∧
      stored.receiverId = msg.receiverId ∧ stored.content = msg.content := by
  simp only [handleIncomingMessage, saveState_messages, updatePtsIf_messages]
  exact ⟨_, rfl, rfl, rfl⟩

/-- It takes over the PTS that applies. -/
theorem handleIncomingMessage_updatePtsIf (m : PersistedMessage) (msg : ChatMessage) (now : Int) :
    (c.handleIncomingMessage m msg now).localPts =
        (c.updatePtsIf ((c.applicablePts m msg).getD 0)).localPts ∧
      (c.handleIncomingMessage m msg now).userId = c.userId :=
  ⟨rfl, c.updatePtsIf_userId _⟩

@[simp] theorem onMessage_userId (now : Int) (frame : Frame) :
    (c.onMessage now frame).userId = c.userId := by
  cases frame with
  | ack senderPts messageID => exact (c.handleAck_updatePtsIf senderPts messageID).2
  | message m =>
    rw [onMessage]
    split
    · exact (c.handleIncomingMessage_updatePtsIf m _ now).2
    · rfl

/-- No frame changes the socket. -/
@[simp] theorem onMessage_ws (now : Int) (frame : Frame) : (c.onMessage now frame).ws = c.ws := by
  cases frame with
  | ack senderPts messageID =>
    exact (congrArg ws (c.handleAck_eq senderPts messageID)).trans (c.updatePtsIf_ws senderPts)
  | message m =>
    rw [onMessage]
    split
    · exact c.updatePtsIf_ws _
    · rfl

/-- The PTS of the client is never lowered. -/
theorem localPts_le_onMessage (now : Int) (frame : Frame) :
    c.localPts ≤ (c.onMessage now frame).localPts := by
  have hle : ∀ pts, c.localPts ≤ (c.updatePtsIf pts).localPts := by
    intro pts
    rcases c.updatePtsIf_localPts pts with hsame | ⟨hlt, hnew⟩
    · omega
    · omega
  cases frame with
  | ack senderPts messageID =>
    rw [onMessage, (c.handleAck_updatePtsIf senderPts messageID).1]
    exact hle senderPts
  | message m =>
    rw [onMessage]
    split
    · rw [(c.handleIncomingMessage_updatePtsIf m _ now).1]
      exact hle _
    · exact Int.le_refl _

/-- A gap begins at the PTS of the client. -/
theorem gap?_fst {m : PersistedMessage} {msg : ChatMessage} {g : Int × Int}
    (h : c.gap? m msg = some g) : g.1 = c.localPts := by
  obtain ⟨pts, -, h⟩ := Option.bind_eq_some_iff.mp h
  split_ifs at h
  obtain rfl := Option.some.inj h
  rfl

/-- Incoming messages are saved at once. -/
theorem handleIncomingMessage_storage (m : PersistedMessage) (msg : ChatMessage) (now : Int) :
    ∃ saved, (c.handleIncomingMessage m msg now).storage = some saved ∧
      saved.messages = (c.handleIncomingMessage m msg now).messages :=
  ⟨_, rfl, rfl⟩

end Updates

end Client

end TinyTelegram.WebClient
