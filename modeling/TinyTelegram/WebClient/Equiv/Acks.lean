import TinyTelegram.Gateway.Equiv.Delivery
import TinyTelegram.MessageService.Counters
import TinyTelegram.WebClient.Equiv.Session

/-!
# Which message an acknowledgement is for

The client matches the acknowledgements with its sends by position: each takes the oldest temp id.  A
frame that gets none, because `PersistMessage` failed, or the frame was incomplete, or the connection was
lost, leaves its temp id in `pendingAcks`, and the next acknowledgement goes to its message
(`not_reconciled_failedFirstRun`).

* `reconciled`: if every acknowledgement that arrives is for the oldest frame of the page that has none
  yet, and no two pending temp ids are equal, then every optimistic message becomes the message that its
  own frame was persisted as, and what is not shown as pending is in the table.
* `not_reconciled_of_not_oldest`: the first acknowledgement that arrives before that of an earlier frame
  goes wrong.
-/

namespace TinyTelegram.WebClient

open Gateway (ConnId IncomingMessage Frame)
open MessageService (Redis CallId Committed Row Table)
open MessageService.PersistCall (row)

variable {ρ χ ε : Type} {R : Redis ρ χ ε} {addr : Gateway.GwId → String}

/-- What is not shown as pending is in the table, with its receiver and its content. -/
def Shown (t : Table) (messages : String → Option Message) : Prop :=
  ∀ id msg, messages id = some msg → msg.pending = false →
    ∃ r ∈ t, r.id = id ∧ r.receiverId = msg.receiverId ∧ r.content = msg.content

/-- Acknowledgements have gone to the right messages. -/
structure Reconciled (s : State ρ) : Prop where
  /-- An optimistic message became the message that its frame was persisted as. -/
  replaced : ∀ f id, (f, id) ∈ s.replaced → s.persistedFrame? id = some f
  shown : Shown s.cluster.service.table s.client.messages

/-- The message id of the acknowledgement that is next on a socket of the tab. -/
def nextAck? (s : State ρ) (c : ConnId) : Option String :=
  (s.links c).bind fun link => ((s.cluster.out c)[link.received]?).bind fun frame =>
    match frame with
    | .ack _ messageID => some messageID
    | .message _ => none

/-- An acknowledgement is for the oldest frame of the page that has none yet, and a new temp id is not
that of a pending message. -/
def Oldest (s : State ρ) : Event χ ε → Prop
  | .onMessage c _ =>
    ∀ id ∈ nextAck? s c, ∀ f ∈ s.unanswered.head?, s.persistedFrame? id = some f
  | .send _ _ now rand => tempId now rand ∉ s.client.pendingAcks
  | _ => True

instance (s : State ρ) (e : Event χ ε) : Decidable (Oldest s e) :=
  match e with
  | .onMessage c _ => inferInstanceAs
      (Decidable (∀ id ∈ nextAck? s c, ∀ f ∈ s.unanswered.head?, s.persistedFrame? id = some f))
  | .send _ _ now rand => inferInstanceAs (Decidable (tempId now rand ∉ s.client.pendingAcks))
  | .connect .. | .connectFails .. | .onOpen .. | .onClose .. | .reload | .cluster .. => isTrue trivial

section Frames

variable {s t : State ρ}

/-- The frame that a committed row is for. -/
theorem persistedFrame?_eq (hid : (s.cluster.service.table.map Row.id).Nodup) {x : Committed}
    (hx : x ∈ s.cluster.service.committed) : s.persistedFrame? x.row.id = s.frameOf x.call := by
  have hnodup : (s.cluster.service.committed.map fun y => y.row.id).Nodup := by
    rw [MessageService.Service.State.table, List.map_map] at hid
    exact hid
  have hfind : s.cluster.service.committed.find? (fun y => y.row.id = x.row.id) = some x := by
    cases hfind : s.cluster.service.committed.find? (fun y => y.row.id = x.row.id) with
    | none => simpa using List.find?_eq_none.mp hfind x hx
    | some y =>
      have hy := List.find?_some hfind
      rw [List.inj_on_of_nodup_map hnodup (List.mem_of_find?_eq_some hfind) hx (by simpa using hy)]
  rw [State.persistedFrame?, hfind, Option.bind_some]

/-- A frame stays persisted under its id. -/
theorem Grows.persistedFrame? (h : Grows s t) {id : String} {f : FrameName}
    (hf : s.persistedFrame? id = some f) : t.persistedFrame? id = some f := by
  obtain ⟨x, hfind, hx⟩ := Option.bind_eq_some_iff.mp hf
  obtain ⟨more, hmore⟩ := h.committed
  rw [State.persistedFrame?, ← hmore, List.find?_append, hfind, Option.some_or, Option.bind_some]
  exact h.frameOf x.call f hx

/-- Committed rows stay. -/
theorem Shown.mono (h : Grows s t) {messages : String → Option Message}
    (hshown : Shown s.cluster.service.table messages) :
    Shown t.cluster.service.table messages := by
  intro id msg hmsg hpending
  obtain ⟨r, hr, hrow⟩ := hshown id msg hmsg hpending
  obtain ⟨x, hx, rfl⟩ := List.mem_map.mp hr
  exact ⟨x.row, List.mem_map_of_mem (h.committed.subset hx), hrow⟩

/-- A frame has one content. -/
theorem Sent.unique {f : FrameName} {incoming incoming' : IncomingMessage} (h : Sent s f incoming)
    (h' : Sent s f incoming') : incoming = incoming' := by
  obtain ⟨link, hl, hget⟩ := h
  obtain ⟨link', hl', hget'⟩ := h'
  obtain rfl := Option.some.inj (hl.symm.trans hl')
  exact Option.some.inj (hget.symm.trans hget')

end Frames

/-! ### The invariant -/

/-- What holds of a page all of whose acknowledgements have been for the oldest frame. -/
structure Tidy (s : State ρ) : Prop where
  /-- The frames of the pending temp ids are those without an acknowledgement. -/
  unanswered : s.unanswered = s.pending.map Prod.snd
  temps : (s.pending.map Prod.fst).Nodup
  frames : (s.pending.map Prod.snd).Nodup
  /-- A pending temp id has the receiver and the content of its frame. -/
  optimistic : ∀ tempID f, (tempID, f) ∈ s.pending → isUUID tempID = false ∧
    ∃ msg, s.client.messages tempID = some msg ∧ Sent s f ⟨msg.receiverId, msg.content⟩
  reconciled : Reconciled s
  saved : ∀ saved, s.client.storage = some saved → Shown s.cluster.service.table saved.messages

theorem tidy_init : Tidy (init R) where
  unanswered := rfl
  temps := List.nodup_nil
  frames := List.nodup_nil
  optimistic _ _ h := absurd h List.not_mem_nil
  reconciled := ⟨fun _ _ h => absurd h List.not_mem_nil, fun _ _ h => by cases h⟩
  saved _ h := by cases h

section Steps

variable {s t : State ρ}

/-- A step that does not change the messages, nor the books about the sends of the page. -/
theorem Tidy.congr (h : Tidy s) (hgrows : Grows s t)
    (hmessages : t.client.messages = s.client.messages)
    (hstorage : ∀ saved, t.client.storage = some saved →
      s.client.storage = some saved ∨ saved.messages = s.client.messages)
    (hpending : t.pending = s.pending) (hunanswered : t.unanswered = s.unanswered)
    (hreplaced : t.replaced = s.replaced) : Tidy t where
  unanswered := by rw [hunanswered, hpending, h.unanswered]
  temps := hpending ▸ h.temps
  frames := hpending ▸ h.frames
  optimistic tempID f hmem := by
    obtain ⟨huuid, msg, hmsg, hsent⟩ := h.optimistic tempID f (hpending ▸ hmem)
    exact ⟨huuid, msg, by rw [hmessages, hmsg], hgrows.sent _ _ hsent⟩
  reconciled := by
    refine ⟨fun f id hmem => ?_, ?_⟩
    · exact hgrows.persistedFrame? (h.reconciled.replaced f id (hreplaced ▸ hmem))
    · rw [hmessages]
      exact h.reconciled.shown.mono hgrows
  saved saved hsaved := by
    rcases hstorage saved hsaved with hold | hnew
    · exact (h.saved saved hold).mono hgrows
    · rw [hnew]
      exact h.reconciled.shown.mono hgrows

/-- Storing a message that is in the table. -/
theorem Shown.store {tab : Table} {messages : String → Option Message} (h : Shown tab messages)
    {id : String} {msg : Message} {r : Row} (hr : r ∈ tab) (hid : r.id = id)
    (hreceiver : r.receiverId = msg.receiverId) (hcontent : r.content = msg.content) :
    Shown tab (Function.update messages id (some msg)) := by
  intro id' msg' hmsg' hpending
  by_cases hid' : id' = id
  · subst hid'
    rw [Function.update_self] at hmsg'
    obtain rfl := Option.some.inj hmsg'
    exact ⟨r, hr, hid, hreceiver, hcontent⟩
  · rw [Function.update_of_ne hid'] at hmsg'
    exact h id' msg' hmsg' hpending

/-- Storing nothing, or a pending message. -/
theorem Shown.update {tab : Table} {messages : String → Option Message} (h : Shown tab messages)
    {id : String} {v : Option Message} (hv : ∀ msg ∈ v, msg.pending = true) :
    Shown tab (Function.update messages id v) := by
  intro id' msg' hmsg' hpending
  by_cases hid' : id' = id
  · subst hid'
    rw [Function.update_self] at hmsg'
    rw [hv msg' hmsg'] at hpending
    cases hpending
  · rw [Function.update_of_ne hid'] at hmsg'
    exact h id' msg' hmsg' hpending

/-- The row that an acknowledgement on a socket of the tab is for. -/
theorem Linked.answered (h : Linked s)
    (hid : (s.cluster.service.table.map Row.id).Nodup) {c : ConnId} {id : String}
    (hack : nextAck? s c = some id) : ∃ n incoming, ∃ r ∈ s.cluster.service.table,
      s.persistedFrame? id = some (c, n) ∧ Sent s (c, n) incoming ∧ r.id = id ∧
      r.receiverId = incoming.receiverId ∧ r.content = incoming.content := by
  obtain ⟨link, hl, hack⟩ := Option.bind_eq_some_iff.mp hack
  obtain ⟨frame, hframe, hack⟩ := Option.bind_eq_some_iff.mp hack
  cases frame with
  | message m => cases hack
  | ack senderPts messageID =>
    obtain rfl := Option.some.inj hack
    have hlink : s.links c ≠ none := by
      rw [hl]
      exact Option.some_ne_none _
    obtain ⟨call, n, incoming, userID, now, rp, sp, createdAt, hcall, hsent, hmem⟩ :=
      h.acked c hlink senderPts messageID (List.mem_of_getElem? hframe)
    refine ⟨n, incoming, _, List.mem_map_of_mem hmem, ?_, hsent, rfl, rfl, rfl⟩
    rw [← hcall]
    exact persistedFrame?_eq hid hmem

/-- An acknowledgement replaces the message of the oldest temp id. -/
theorem replacing?_cons {tempID : String} {f : FrameName} {rest : List (String × FrameName)}
    {msg : Message} (hp : s.pending = (tempID, f) :: rest)
    (hmsg : s.client.messages tempID = some msg) : s.replacing? = some f := by
  unfold State.replacing?
  rw [hp]
  simp only [hmsg, Option.isSome_some, if_true]

/-- An acknowledgement for the oldest frame. -/
theorem Tidy.ack (h : Tidy s) (hl : Linked s) (hid : (s.cluster.service.table.map Row.id).Nodup)
    {c : ConnId} {senderPts : Int} {id : String} (hack : nextAck? s c = some id)
    (holdest : ∀ f ∈ s.unanswered.head?, s.persistedFrame? id = some f)
    (hgrows : Grows s t) (hclient : t.client = s.client.handleAck senderPts id)
    (hpending : t.pending = s.pending.tail)
    (hunanswered : t.unanswered = s.unanswered.filter fun f => s.persistedFrame? id ≠ some f)
    (hreplaced : t.replaced = s.replaced ++ s.replacing?.toList.map fun f => (f, id)) : Tidy t := by
  obtain ⟨n, incoming, r, hr, hframe, hsent, hrid, hreceiver, hcontent⟩ := hl.answered hid hack
  have huuid : isUUID id = true := hrid ▸ hl.uuid r hr
  have hstorage : ∀ saved, t.client.storage = some saved →
      s.client.storage = some saved ∨ saved.messages = s.client.messages := by
    intro saved hsaved
    rw [hclient] at hsaved
    rcases s.client.handleAck_storage senderPts id with hsame | ⟨saved', hnew, hmessages⟩
    · exact Or.inl (hsame ▸ hsaved)
    · obtain rfl := Option.some.inj (hnew.symm.trans hsaved)
      exact Or.inr hmessages
  cases hp : s.pending with
  | nil =>
    -- there is no temp id, and nothing happens
    have hacks : s.client.pendingAcks = [] := by rw [hl.pendingAcks, hp, List.map_nil]
    have hnone : s.unanswered = [] := by rw [h.unanswered, hp, List.map_nil]
    have hreplacing : s.replacing? = none := by
      unfold State.replacing?
      rw [hp]
    refine h.congr hgrows ?_ hstorage ?_ ?_ ?_
    · rw [hclient, Client.handleAck_messages_nil _ hacks]
    · rw [hpending, hp, List.tail_nil]
    · rw [hunanswered, hnone]
      rfl
    · rw [hreplaced, hreplacing, Option.toList_none, List.map_nil, List.append_nil]
  | cons p rest =>
    obtain ⟨tempID, f⟩ := p
    have hacks : s.client.pendingAcks = tempID :: rest.map Prod.fst := by
      rw [hl.pendingAcks, hp, List.map_cons]
    have hun : s.unanswered = f :: rest.map Prod.snd := by rw [h.unanswered, hp, List.map_cons]
    -- the temp id was made for the frame of the acknowledgement
    have hf : s.persistedFrame? id = some f := holdest f (by rw [hun]; rfl)
    obtain ⟨htemp, msg, hmsg, hsent'⟩ :=
      h.optimistic tempID f (by rw [hp]; exact List.mem_cons_self)
    have hcn : f = (c, n) := Option.some.inj (hf.symm.trans hframe)
    have hincoming := hsent'.unique (hcn ▸ hsent)
    have htemps : tempID ∉ rest.map Prod.fst ∧ (rest.map Prod.fst).Nodup := by
      have hnodup := h.temps
      rw [hp, List.map_cons, List.nodup_cons] at hnodup
      exact hnodup
    have hframes : f ∉ rest.map Prod.snd ∧ (rest.map Prod.snd).Nodup := by
      have hnodup := h.frames
      rw [hp, List.map_cons, List.nodup_cons] at hnodup
      exact hnodup
    have hmessages : t.client.messages =
        Function.update (Function.update s.client.messages tempID none) id
          (some { msg with id := id, pts := some senderPts, pending := false }) := by
      rw [hclient]
      exact Client.handleAck_messages _ hacks hmsg
    have hrest : t.pending = rest := by rw [hpending, hp, List.tail_cons]
    refine ⟨?_, ?_, ?_, ?_, ⟨?_, ?_⟩, ?_⟩
    · rw [hunanswered, hun, hrest, List.filter_cons_of_neg (by simp [hf])]
      refine List.filter_eq_self.mpr fun f' hf' => ?_
      have hne : f ≠ f' := by
        rintro rfl
        exact hframes.1 hf'
      simp [hf, hne]
    · rw [hrest]
      exact htemps.2
    · rw [hrest]
      exact hframes.2
    · intro tempID' f' hmem
      rw [hrest] at hmem
      obtain ⟨htemp', msg', hmsg', hsent''⟩ :=
        h.optimistic tempID' f' (by rw [hp]; exact List.mem_cons_of_mem _ hmem)
      have hne : tempID' ≠ tempID := by
        rintro rfl
        exact htemps.1 (List.mem_map_of_mem (f := Prod.fst) hmem)
      have hne' : tempID' ≠ id := by
        rintro rfl
        rw [huuid] at htemp'
        cases htemp'
      refine ⟨htemp', msg', ?_, hgrows.sent _ _ hsent''⟩
      rw [hmessages, Function.update_of_ne hne', Function.update_of_ne hne, hmsg']
    · intro f' id' hmem
      rw [hreplaced, replacing?_cons hp hmsg, List.mem_append] at hmem
      rcases hmem with hold | hnew
      · exact hgrows.persistedFrame? (h.reconciled.replaced f' id' hold)
      · obtain ⟨rfl, rfl⟩ := Prod.mk.inj (List.mem_singleton.mp hnew)
        exact hgrows.persistedFrame? hf
    · rw [hmessages]
      have hshown : Shown s.cluster.service.table (Function.update s.client.messages tempID none) :=
        h.reconciled.shown.update fun _ hv => by cases hv
      refine Shown.mono hgrows (hshown.store hr hrid ?_ ?_)
      · rw [hreceiver, ← hincoming]
      · rw [hcontent, ← hincoming]
    · intro saved hsaved
      rcases hstorage saved hsaved with hold | hsame
      · exact (h.saved saved hold).mono hgrows
      · rw [hsame]
        exact h.reconciled.shown.mono hgrows

/-- A message that another client has sent, or the user on another connection. -/
theorem Tidy.message (h : Tidy s) (hl : Linked s)
    (hreach : (Gateway.cluster R addr).Reachable s.cluster) {c : ConnId} {now : Int}
    {m : PersistedMessage} (hm : .message m ∈ s.cluster.out c) (hgrows : Grows s t)
    (hclient : t.client = s.client.onMessage now (.message m)) (hpending : t.pending = s.pending)
    (hunanswered : t.unanswered = s.unanswered) (hreplaced : t.replaced = s.replaced) : Tidy t := by
  obtain ⟨msg, createdAt, hmsg, hrow⟩ :=
    Gateway.Cluster.committed hreach (Gateway.Cluster.mem_held_socket.mpr hm)
  have huuid : isUUID m.id = true := hl.uuid _ hrow
  have hclient' : t.client = s.client.handleIncomingMessage m msg now := by
    rw [hclient, Client.onMessage, hmsg]
  obtain ⟨stored, hmessages, hreceiver, hcontent⟩ :=
    s.client.handleIncomingMessage_messages m msg now
  have hshown : Shown t.cluster.service.table t.client.messages := by
    rw [hclient', hmessages]
    exact Shown.mono hgrows
      (h.reconciled.shown.store hrow rfl hreceiver.symm hcontent.symm)
  refine ⟨by rw [hunanswered, hpending, h.unanswered], hpending ▸ h.temps, hpending ▸ h.frames,
    fun tempID f hmem => ?_, ⟨fun f id hmem => ?_, hshown⟩, fun saved hsaved => ?_⟩
  · obtain ⟨htemp, msg', hmsg', hsent⟩ := h.optimistic tempID f (hpending ▸ hmem)
    have hne : tempID ≠ m.id := by
      rintro rfl
      rw [huuid] at htemp
      cases htemp
    refine ⟨htemp, msg', ?_, hgrows.sent _ _ hsent⟩
    rw [hclient', hmessages, Function.update_of_ne hne, hmsg']
  · exact hgrows.persistedFrame? (h.reconciled.replaced f id (hreplaced ▸ hmem))
  · rw [hclient'] at hsaved
    obtain ⟨saved', hnew, hsame⟩ := s.client.handleIncomingMessage_storage m msg now
    obtain rfl := Option.some.inj (hnew.symm.trans hsaved)
    rw [hsame, ← hclient']
    exact hshown

/-- A send with a new temp id. -/
theorem Tidy.send (h : Tidy s) (hl : Linked s) {c : ConnId} {link : Link}
    (hlink : s.links c = some link) {receiverID content : String} {now : Int} {rand : String}
    (hnew : tempId now rand ∉ s.client.pendingAcks)
    (hgrows : Grows s (s.sendOn c link receiverID content (tempId now rand) now)) :
    Tidy (s.sendOn c link receiverID content (tempId now rand) now) := by
  have htemp : tempId now rand ∉ s.pending.map Prod.fst := by
    rw [← hl.pendingAcks]
    exact hnew
  have hframe : (c, link.sent.length) ∉ s.pending.map Prod.snd := by
    intro hmem
    obtain ⟨⟨tempID, f⟩, hp, hf⟩ := List.mem_map.mp hmem
    obtain ⟨-, msg, -, link', hlink', hget⟩ := h.optimistic tempID f hp
    have hf' : f = (c, link.sent.length) := hf
    rw [hf', hlink] at hlink'
    obtain rfl := Option.some.inj hlink'
    -- it is past the frames that were sent
    rw [hf', List.getElem?_eq_none (le_refl _)] at hget
    cases hget
  refine ⟨?_, ?_, ?_, fun tempID f hmem => ?_, ⟨fun f id hmem => ?_, ?_⟩, fun saved hsaved => ?_⟩
  · show s.unanswered ++ [_] = (s.pending ++ [_]).map Prod.snd
    rw [h.unanswered, List.map_append, List.map_singleton]
  · show ((s.pending ++ [_]).map Prod.fst).Nodup
    rw [List.map_append, List.map_singleton, List.nodup_append]
    refine ⟨h.temps, List.nodup_singleton _, fun a ha b hb => ?_⟩
    rw [List.mem_singleton.mp hb]
    rintro rfl
    exact htemp ha
  · show ((s.pending ++ [_]).map Prod.snd).Nodup
    rw [List.map_append, List.map_singleton, List.nodup_append]
    refine ⟨h.frames, List.nodup_singleton _, fun a ha b hb => ?_⟩
    rw [List.mem_singleton.mp hb]
    rintro rfl
    exact hframe ha
  · have hmem' : (tempID, f) ∈ s.pending ++ [(tempId now rand, (c, link.sent.length))] := hmem
    rw [List.mem_append, List.mem_singleton] at hmem'
    rcases hmem' with hold | heq
    · obtain ⟨huuid, msg, hmsg, hsent⟩ := h.optimistic tempID f hold
      have hne : tempID ≠ tempId now rand := by
        rintro rfl
        exact htemp (List.mem_map_of_mem (f := Prod.fst) hold)
      refine ⟨huuid, msg, ?_, hgrows.sent _ _ hsent⟩
      show Function.update s.client.messages (tempId now rand) _ tempID = some msg
      rw [Function.update_of_ne hne, hmsg]
    · obtain ⟨rfl, rfl⟩ := Prod.mk.inj heq
      refine ⟨isUUID_tempId now rand, _, Function.update_self .., ?_⟩
      refine ⟨_, Function.update_self .., ?_⟩
      exact List.getElem?_concat_length ..
  · exact hgrows.persistedFrame? (h.reconciled.replaced f id hmem)
  · refine Shown.mono hgrows (h.reconciled.shown.update ?_)
    rintro msg hmsg
    obtain rfl := Option.some.inj hmsg
    rfl
  · exact (h.saved saved hsaved).mono hgrows

/-- **One step** that meets the condition keeps the page tidy. -/
theorem Tidy.step {e : Event χ ε} (h : Tidy s) (hl : Linked s)
    (hreach : (Gateway.cluster R addr).Reachable s.cluster) (holdest : Oldest s e)
    (hstep : Step R addr s e t) : Tidy t := by
  have hgrows := grows hl hstep
  have hid : (s.cluster.service.table.map Row.id).Nodup :=
    (MessageService.Service.constrained_table (Gateway.Cluster.service_reachable hreach)).id_nodup
  cases hstep with
  | connect hnew hs => exact h.congr hgrows rfl (fun _ hs => Or.inl hs) rfl rfl rfl
  | connectFails => exact h.congr hgrows rfl (fun _ hs => Or.inl hs) rfl rfl rfl
  | onOpen hlink =>
    refine h.congr hgrows rfl (fun saved hsaved => Or.inr ?_) rfl rfl rfl
    obtain rfl := Option.some.inj hsaved
    rfl
  | @onMessage c now link frame hlink hframe =>
    cases frame with
    | ack senderPts id =>
      have hack : nextAck? s c = some id := by
        rw [nextAck?, hlink, Option.bind_some, hframe]
        rfl
      exact h.ack hl hid hack (holdest id hack) hgrows rfl rfl rfl rfl
    | message m => exact h.message hl hreach (List.mem_of_getElem? hframe) hgrows rfl rfl rfl rfl
  | onClose hlink =>
    refine h.congr hgrows (Client.onClose_messages _) (fun saved hsaved => Or.inl ?_) rfl rfl rfl
    rw [← hsaved]
    exact (Client.onClose_storage _).symm
  | send hlink => exact h.send hl hlink holdest hgrows
  | sendClosed => exact h
  | reload =>
    have hshown : Shown s.cluster.service.table (Client.load s.client.storage).messages := by
      cases hstorage : s.client.storage with
      | none => exact fun _ _ hmsg => by cases hmsg
      | some saved => exact h.saved saved hstorage
    exact ⟨rfl, List.nodup_nil, List.nodup_nil, fun _ _ hmem => absurd hmem List.not_mem_nil,
      ⟨h.reconciled.replaced, hshown⟩, h.saved⟩
  | @cluster e x hallowed hx =>
    refine h.congr hgrows ?_ (fun saved hsaved => Or.inl ?_) ?_ ?_ ?_
    · exact congrArg Client.messages (noteCluster_client s e)
    · rw [← hsaved]
      exact congrArg Client.storage (noteCluster_client s e).symm
    · exact noteCluster_pending s e
    · exact noteCluster_unanswered s e
    · exact noteCluster_replaced s e

end Steps

/-- A page is tidy after every run that meets the condition. -/
theorem tidy {es : List (Event χ ε)} {s : State ρ}
    (h : (session R addr).run (init R) es = some s)
    (holdest : (session R addr).Meets Oldest (init R) es) : Tidy s := by
  refine Lts.System.invariant_of_meets_with (S := session R addr) (C := Oldest)
    (J := (session R addr).Reachable) (fun {es t} ht _ => ⟨es, ht⟩) tidy_init ?_ h holdest
  intro s e t hs ih he hstep
  exact ih.step (linked hs) (cluster_reachable hs) he (step_cases hstep)

/-- **Acknowledgements go to the right messages** in every run in which each that arrives is for the
oldest frame of the page that has none yet, and no new temp id is that of a pending message. -/
theorem reconciled {es : List (Event χ ε)} {s : State ρ}
    (h : (session R addr).run (init R) es = some s)
    (holdest : (session R addr).Meets Oldest (init R) es) : Reconciled s :=
  (tidy h holdest).reconciled

/-- **The first acknowledgement that overtakes an earlier frame goes wrong**: the message of that frame
takes the id of another one. -/
theorem not_reconciled_of_not_oldest {es : List (Event χ ε)} {s t : State ρ}
    (h : (session R addr).run (init R) es = some s)
    (holdest : (session R addr).Meets Oldest (init R) es) {c : ConnId} {now : Int}
    (hstep : (session R addr).step s (.onMessage c now) = some t)
    (hnot : ¬ Oldest s (.onMessage c now : Event χ ε)) : ¬ Reconciled t := by
  intro hreconciled
  have htidy := tidy h holdest
  simp only [Oldest, not_forall, exists_prop] at hnot
  obtain ⟨id, hack, f, hf, hne⟩ := hnot
  cases step_cases hstep with
  | @onMessage _ _ link frame hlink hframe =>
    -- the frame is the acknowledgement
    have hack' : nextAck? s c = some id := hack
    rw [nextAck?, hlink, Option.bind_some, hframe, Option.bind_some] at hack'
    cases frame with
    | message m => cases hack'
    | ack senderPts messageID =>
      obtain rfl := Option.some.inj hack'
      cases hp : s.pending with
      | nil =>
        rw [htidy.unanswered, hp] at hf
        cases hf
      | cons p rest =>
        obtain ⟨tempID, f'⟩ := p
        rw [htidy.unanswered, hp] at hf
        obtain rfl := Option.some.inj hf
        obtain ⟨-, msg, hmsg, -⟩ := htidy.optimistic tempID f' (by rw [hp]; exact List.mem_cons_self)
        have hmem : (f', messageID) ∈
            s.replaced ++ s.replacing?.toList.map fun f => (f, messageID) := by
          rw [replacing?_cons hp hmsg]
          exact List.mem_append_right _ (List.mem_singleton_self _)
        exact hne (hreconciled.replaced f' messageID hmem)

/-! ### Two runs -/

/-- Alice logs in. -/
def loginRun : List (Event MessageService.Counters.Choice MessageService.Counters.Event) :=
  [.connect 0 "alice" "ws://gateway1", .cluster (.connect 0 0 "alice"),
    .cluster (.handler 0 (.registerUser true)), .cluster (.handler 0 .registerConn), .onOpen 0]

/-- The gateway reads a frame of Alice's to Bob, and call `call` persists it with PTS `1` and `1`. -/
def persistRun (content : String) (call : CallId) (messageID : String) :
    List (Event MessageService.Counters.Choice MessageService.Counters.Event) :=
  [.cluster (.handler 0 (.frame (some ⟨"bob", content⟩) call 3)),
    .cluster (.service (.redis call (.incr .executed))),
    .cluster (.service (.redis call (.incr .executed))),
    .cluster (.service (.redis call (.wait (.ok 1)))),
    .cluster (.service (.insert call messageID 4 5 .executed)), .cluster (.handler 0 .persisted),
    .cluster (.handler 0 (.ack true true)), .onMessage 0 6]

/-- Alice writes to Bob, and gets the acknowledgement. -/
theorem reconciled_acknowledgedRun : ∃ s,
    (session MessageService.Counters.redis Gateway.Cluster.twoGateways).run
      (init MessageService.Counters.redis)
      (loginRun ++ .send "bob" "one" 1 "k3vd" :: persistRun "one" 0 "a1") = some s ∧
    (s.client.messages "a1").map Message.content = some "one" ∧ Reconciled s :=
  ⟨_, rfl, rfl, @reconciled _ _ _ MessageService.Counters.redis Gateway.Cluster.twoGateways
    (loginRun ++ .send "bob" "one" 1 "k3vd" :: persistRun "one" 0 "a1") _ rfl (.of_check (by decide))⟩

/-- Alice writes to Bob twice, and `PersistMessage` fails for the first message. -/
def failedFirstRun : List (Event MessageService.Counters.Choice MessageService.Counters.Event) :=
  loginRun ++ [.send "bob" "one" 1 "k3vd", .send "bob" "two" 2 "x09f",
    .cluster (.handler 0 (.frame (some ⟨"bob", "one"⟩) 0 3)), .cluster (.handler 0 .persistFailed)] ++
    persistRun "two" 1 "a2"

/-- **The first message is shown as the second**, which is the one that was persisted. -/
theorem not_reconciled_failedFirstRun : ∃ s,
    (session MessageService.Counters.redis Gateway.Cluster.twoGateways).run
      (init MessageService.Counters.redis) failedFirstRun = some s ∧
    (s.client.messages "a2").map (fun msg => (msg.content, msg.pending)) = some ("one", false) ∧
    s.cluster.service.table.map (fun r => (r.id, r.content)) = [("a2", "two")] ∧
    ¬ Reconciled s := by
  refine ⟨_, rfl, rfl, rfl, fun h => ?_⟩
  have hframe := h.replaced (0, 0) "a2" (List.mem_singleton_self _)
  exact absurd hframe (by decide)

end TinyTelegram.WebClient
