import TinyTelegram.WebClient.Equiv.Page

/-!
# What the last page has left

`loadState` puts the saved messages back into the map.  Nothing displays them, and the temp ids that were
waiting for an acknowledgement are not saved with them.  So a message of the last page that does not come
again is never shown, and if it was pending it stays so: in the map, in `localStorage`, and hence on every
page after this one (`restored`).
-/

namespace TinyTelegram.WebClient

open Gateway (Frame)

namespace Page

/-- The event is about a message with the id: it is sent under it, acknowledged or delivered. -/
def names (id : String) : Event → Bool
  | .onMessage _ _ (.ack _ messageID) => messageID = id
  | .onMessage _ _ (.message m) => m.id = id
  | .send _ _ now rand => tempId now rand = id
  | _ => false

/-- The entry of a message is the one that was loaded, also in what is saved, it has no bubble, and no
acknowledgement is awaited for it. -/
structure Untouched (storage : Option Saved) (id : String) (p : Page) : Prop where
  stored : p.client.messages id = (Client.load storage).messages id
  saved : (Client.load p.client.storage).messages id = (Client.load storage).messages id
  hidden : id ∉ p.bubbles
  settled : id ∉ p.client.pendingAcks

/-! ### The bubbles -/

/-- `displayMessage` shows no other message. -/
theorem mem_displayMessage_bubbles {p : Page} {id msgID : String}
    (h : id ∈ (p.displayMessage msgID).bubbles) : id = msgID ∨ id ∈ p.bubbles := by
  cases hmsg : p.client.messages msgID with
  | none =>
    have hsame : p.displayMessage msgID = p := by
      unfold displayMessage
      rw [hmsg]
    rw [hsame] at h
    exact Or.inr h
  | some msg =>
    have hne : p.client.messages msgID ≠ none := by
      rw [hmsg]
      exact Option.some_ne_none msg
    rw [displayMessage_bubbles p hne, List.mem_append, List.mem_singleton] at h
    exact h.symm

/-- An acknowledgement shows the acknowledged message only. -/
theorem mem_handleAck_bubbles {p : Page} {id messageID : String} {senderPts : Int}
    (h : id ∈ (p.handleAck senderPts messageID).bubbles) : id = messageID ∨ id ∈ p.bubbles := by
  unfold handleAck at h
  simp only at h
  split at h
  · exact Or.inr h
  · split at h
    · rcases mem_displayMessage_bubbles h with heq | hmem
      · exact Or.inl heq
      · rw [removeMessage_bubbles] at hmem
        exact Or.inr (List.mem_of_mem_erase hmem)
    · exact Or.inr h

/-- A delivery shows the delivered message only. -/
theorem mem_handleIncomingMessage_bubbles {p : Page} {id : String} {m : PersistedMessage}
    {msg : ChatMessage} {now : Int} (h : id ∈ (p.handleIncomingMessage m msg now).bubbles) :
    id = m.id ∨ id ∈ p.bubbles := by
  unfold handleIncomingMessage at h
  rcases mem_displayMessage_bubbles h with heq | hmem
  · exact Or.inl heq
  · right
    -- the report of a gap is no bubble
    have hgaps : ((p.client.gap? m msg).toList.map fun g => Element.system (gapText g)).filterMap
        Element.messageID? = [] := by
      rw [List.filterMap_map, List.filterMap_eq_nil_iff]
      exact fun _ _ => rfl
    unfold bubbles at hmem
    simp only at hmem
    rw [List.filterMap_append, hgaps, List.append_nil] at hmem
    exact hmem

/-! ### One event -/

section Step

variable {storage : Option Saved} {id : String} {p q : Page}

/-- What leaves the messages and the temp ids alone, and does not show or save anything else. -/
theorem Untouched.congr (h : Untouched storage id p) (hmessages : q.client.messages = p.client.messages)
    (hpending : q.client.pendingAcks = p.client.pendingAcks) (hbubbles : q.bubbles = p.bubbles)
    (hsaved : q.client.storage = p.client.storage ∨
      ∃ saved, q.client.storage = some saved ∧ saved.messages = q.client.messages) :
    Untouched storage id q where
  stored := by rw [hmessages, h.stored]
  saved := by
    rcases hsaved with hsame | ⟨saved, hsaved, hmsgs⟩
    · rw [hsame, h.saved]
    · rw [hsaved]
      show saved.messages id = _
      rw [hmsgs, hmessages, h.stored]
  hidden := by rw [hbubbles]; exact h.hidden
  settled := by rw [hpending]; exact h.settled

theorem Untouched.connect (h : Untouched storage id p) (userId gatewayUrl : String) (throws : Bool) :
    Untouched storage id (p.connect userId gatewayUrl throws) := by
  cases throws with
  | true => exact h.congr rfl rfl rfl (Or.inl rfl)
  | false => exact h.congr rfl rfl rfl (Or.inl rfl)

theorem Untouched.onClose (h : Untouched storage id p) : Untouched storage id p.onClose := by
  refine h.congr ?_ ?_ p.onClose_bubbles (Or.inl ?_)
  · rw [onClose_client, Client.onClose_messages]
  · rw [onClose_client, Client.onClose_pendingAcks]
  · rw [onClose_client, Client.onClose_storage]

/-- An acknowledgement of another message. -/
theorem Untouched.handleAck (h : Untouched storage id p) {senderPts : Int} {messageID : String}
    (hne : messageID ≠ id) : Untouched storage id (p.handleAck senderPts messageID) := by
  have hmessages : (p.client.handleAck senderPts messageID).messages id = p.client.messages id := by
    cases hpending : p.client.pendingAcks with
    | nil => rw [Client.handleAck_messages_nil _ hpending]
    | cons tempID rest =>
      have htemp : id ≠ tempID := by
        rintro rfl
        exact h.settled (hpending ▸ List.mem_cons_self)
      cases hmsg : p.client.messages tempID with
      | none => simp [Client.handleAck, hpending, hmsg]
      | some msg =>
        rw [Client.handleAck_messages _ hpending hmsg, Function.update_of_ne hne.symm,
          Function.update_of_ne htemp]
  have hclient : (p.handleAck senderPts messageID).client =
      p.client.handleAck senderPts messageID := p.onMessage_client 0 (.ack senderPts messageID)
  constructor
  · rw [hclient, hmessages, h.stored]
  · rw [hclient]
    rcases p.client.handleAck_storage senderPts messageID with hsame | ⟨saved, hsaved, hmsgs⟩
    · rw [hsame, h.saved]
    · rw [hsaved]
      show saved.messages id = _
      rw [hmsgs, h.stored]
  · intro hmem
    rcases mem_handleAck_bubbles hmem with heq | hmem
    · exact hne heq.symm
    · exact h.hidden hmem
  · rw [hclient, Client.handleAck_pendingAcks]
    exact fun hmem => h.settled (List.mem_of_mem_tail hmem)

/-- A delivery of another message. -/
theorem Untouched.handleIncomingMessage (h : Untouched storage id p) {m : PersistedMessage}
    {msg : ChatMessage} {now : Int} (hne : m.id ≠ id) :
    Untouched storage id (p.handleIncomingMessage m msg now) := by
  have hclient : (p.handleIncomingMessage m msg now).client =
      p.client.handleIncomingMessage m msg now := by
    unfold Page.handleIncomingMessage
    rw [displayMessage_client]
  have hmessages : (p.client.handleIncomingMessage m msg now).messages id = p.client.messages id := by
    obtain ⟨stored, hstored, -⟩ := p.client.handleIncomingMessage_messages m msg now
    rw [hstored, Function.update_of_ne hne.symm]
  constructor
  · rw [hclient, hmessages, h.stored]
  · rw [hclient]
    obtain ⟨saved, hsaved, hmsgs⟩ := p.client.handleIncomingMessage_storage m msg now
    rw [hsaved]
    show saved.messages id = _
    rw [hmsgs, hmessages, h.stored]
  · intro hmem
    rcases mem_handleIncomingMessage_bubbles hmem with heq | hmem
    · exact hne heq.symm
    · exact h.hidden hmem
  · rw [hclient, Client.handleIncomingMessage_pendingAcks]
    exact h.settled

/-- A message is sent under another temp id. -/
theorem Untouched.sendMessage (h : Untouched storage id p) {receiverID content tempID : String}
    {now : Int} (hne : tempID ≠ id) :
    Untouched storage id (p.sendMessage receiverID content tempID now) := by
  unfold Page.sendMessage
  split
  · constructor
    · rw [displayMessage_client]
      show Function.update p.client.messages tempID _ id = _
      rw [Function.update_of_ne hne.symm, h.stored]
    · rw [displayMessage_client]
      exact h.saved
    · intro hmem
      rcases mem_displayMessage_bubbles hmem with heq | hmem
      · exact hne heq.symm
      · exact h.hidden hmem
    · rw [displayMessage_client]
      show id ∉ p.client.pendingAcks ++ [tempID]
      rw [List.mem_append, List.mem_singleton, not_or]
      exact ⟨h.settled, hne.symm⟩
  · exact h

theorem Untouched.step {e : Event} (h : Untouched storage id p) (hstep : Step p e q)
    (he : names id e = false) : Untouched storage id q := by
  cases hstep with
  | submit hshown => exact h.connect ..
  | onOpen hi => exact h.congr rfl rfl (addSystemMessage_bubbles ..) (Or.inr ⟨_, rfl, rfl⟩)
  | @onMessage i now frame hi =>
    cases frame with
    | ack senderPts messageID => exact h.handleAck (by simpa [names] using he)
    | message m =>
      have hne : m.id ≠ id := by simpa [names] using he
      simp only [onMessage]
      split
      · exact h.handleIncomingMessage hne
      · exact h
  | onError => exact h
  | @onClose i r hi hr =>
    have hset : Untouched storage id { p with sockets := p.sockets.set i .closed } :=
      h.congr rfl rfl rfl (Or.inl rfl)
    exact hset.onClose
  | @timeout k throws delay userId gatewayUrl hk huser hurl =>
    have herase : Untouched storage id { p with timers := p.timers.eraseIdx k } :=
      h.congr rfl rfl rfl (Or.inl rfl)
    exact herase.connect ..
  | send hfilled => exact h.sendMessage (by simpa [names] using he)
  | sendEmpty hempty => exact h

end Step

/-! ### Whole runs -/

/-- What is saved when a page is closed while its message is pending. -/
def pendingSaved : Saved where
  userId := some "alice"
  gatewayUrl := some "ws://gateway1"
  localPts := 0
  messages := Function.update (fun _ => none) "temp_1_abcd"
    (some ⟨"temp_1_abcd", some "alice", "bob", "hi", none, 1, true⟩)

/-- Alice logs in again, and another message of hers is acknowledged. -/
def againRun : List Event :=
  [.submit "alice" "ws://gateway1" false, .onOpen 0, .send "bob" "hello" 2 "efgh",
    .onMessage 0 3 (.ack 1 "m1")]

end Page

end TinyTelegram.WebClient
