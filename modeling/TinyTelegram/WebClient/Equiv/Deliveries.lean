import TinyTelegram.Lib.Redelivery
import TinyTelegram.WebClient.App

/-!
# Deliveries in any order, and more than once

The gateways deliver a message at least once, and not in the order of the PTS.  `handleIncomingMessage`
overwrites the entry of the message's id and only raises the PTS, so a client ends in the same state
whatever the order of the deliveries and however often each is repeated (`receive_congr`).

The clock is read for a message without a server timestamp only, so the times of the deliveries do not
matter either.
-/

namespace TinyTelegram.WebClient

open Redelivery (Insensitive isGreatest_foldl)

/-- The PTS of a message that applies to `u`. -/
def relevantPts? (u : String) (m : PersistedMessage) : Option Int :=
  if m.isReceiver u then some m.receiverPts
  else if m.isSender u then some m.senderPts
  else none

/-- What a client of `u` may rely on: ids tell messages apart, the PTS count from one, and the message
service has set the time. -/
structure WellFormed (u : String) (ms : List PersistedMessage) : Prop where
  id_inj : ∀ m ∈ ms, ∀ m' ∈ ms, m.id = m'.id → m = m'
  pts_pos : ∀ m ∈ ms, ∀ pts ∈ relevantPts? u m, 0 < pts
  serverTimestamp : ∀ m ∈ ms, m.serverTimestamp ≠ 0

instance (u : String) (ms : List PersistedMessage) : Decidable (WellFormed u ms) :=
  decidable_of_iff ((∀ m ∈ ms, ∀ m' ∈ ms, m.id = m'.id → m = m') ∧
      (∀ m ∈ ms, ∀ pts ∈ relevantPts? u m, 0 < pts) ∧ ∀ m ∈ ms, m.serverTimestamp ≠ 0)
    ⟨fun h => ⟨h.1, h.2.1, h.2.2⟩, fun h => ⟨h.id_inj, h.pts_pos, h.serverTimestamp⟩⟩

namespace Client

/-- `handleIncomingMessage` for one message after the other, each with the time on the clock. -/
def receive (c : Client) (ds : List (Int × PersistedMessage)) : Client :=
  ds.foldl (fun c d => c.onMessage d.1 (.message d.2)) c

/-- The PTS of the client after `updatePts`, which is not called with a zero. -/
def raised (localPts pts : Int) : Int := if pts ≠ 0 ∧ pts > localPts then pts else localPts

/-- The entry that `handleIncomingMessage` makes of a message with a server timestamp. -/
def entry (m : PersistedMessage) (msg : ChatMessage) (pts : Option Int) : Message where
  id := m.id
  senderId := some msg.senderId
  receiverId := msg.receiverId
  content := msg.content
  pts := pts
  timestamp := m.serverTimestamp
  pending := false

/-- The PTS and the messages are replaced, and saved. -/
def store (c : Client) (localPts : Int) (messages : String → Option Message) : Client :=
  saveState { c with localPts := localPts, messages := messages }

section Store

variable (c : Client) (m : PersistedMessage) (msg : ChatMessage) (p q : Int)
  (f g : String → Option Message)

@[simp] theorem store_localPts : (c.store p f).localPts = p := rfl

@[simp] theorem store_messages : (c.store p f).messages = f := rfl

@[simp] theorem store_applicablePts : (c.store p f).applicablePts m msg = c.applicablePts m msg := rfl

@[simp] theorem store_store : (c.store p f).store q g = c.store q g := rfl

theorem updatePtsIf_raised (pts : Int) :
    (c.updatePtsIf pts).localPts = raised c.localPts pts := by
  unfold updatePtsIf updatePts raised
  by_cases hpts : pts ≠ 0
  · rw [if_pos hpts]
    by_cases hlt : pts > c.localPts
    · rw [if_pos hlt, if_pos ⟨hpts, hlt⟩]
      rfl
    · rw [if_neg hlt, if_neg fun h => hlt h.2]
  · rw [if_neg hpts, if_neg fun h => hpts h.1]

/-- `handleIncomingMessage` sets the PTS and the messages, and saves the state at the end. -/
theorem handleIncomingMessage_eq (htime : m.serverTimestamp ≠ 0) (now : Int) :
    c.handleIncomingMessage m msg now =
      c.store (raised c.localPts ((c.applicablePts m msg).getD 0))
        (Function.update c.messages m.id (some (entry m msg (c.applicablePts m msg)))) := by
  rw [← updatePtsIf_raised]
  unfold handleIncomingMessage
  simp only [if_pos htime]
  rcases c.updatePtsIf_cases ((c.applicablePts m msg).getD 0) with h | ⟨-, h⟩
  · rw [h]
    rfl
  · rw [h]
    rfl

variable {m msg} in
/-- The PTS that applies does not depend on the client but for its user. -/
theorem applicablePts_eq {u : String} (hc : c.userId = some u) (hmsg : m.message = some msg) :
    c.applicablePts m msg = relevantPts? u m := by
  simp [applicablePts, relevantPts?, PersistedMessage.isReceiver, PersistedMessage.isSender, hc, hmsg]

end Store

theorem raised_comm (localPts p q : Int) :
    raised (raised localPts p) q = raised (raised localPts q) p := by
  unfold raised
  grind

theorem raised_raised (localPts p : Int) : raised (raised localPts p) p = raised localPts p := by
  unfold raised
  grind

/-- **Two messages** with different ids, one after the other. -/
theorem handleIncomingMessage_comm (c : Client) {m m' : PersistedMessage} (hid : m.id ≠ m'.id)
    (htime : m.serverTimestamp ≠ 0) (htime' : m'.serverTimestamp ≠ 0) (msg msg' : ChatMessage)
    (now : Int) :
    (c.handleIncomingMessage m msg now).handleIncomingMessage m' msg' now =
      (c.handleIncomingMessage m' msg' now).handleIncomingMessage m msg now := by
  rw [c.handleIncomingMessage_eq m msg htime, c.handleIncomingMessage_eq m' msg' htime',
    handleIncomingMessage_eq _ m' msg' htime', handleIncomingMessage_eq _ m msg htime]
  simp only [store_localPts, store_messages, store_applicablePts, store_store]
  rw [raised_comm, Function.update_comm hid]

/-- **The same message** again. -/
theorem handleIncomingMessage_again (c : Client) {m : PersistedMessage}
    (htime : m.serverTimestamp ≠ 0) (msg : ChatMessage) (now : Int) :
    (c.handleIncomingMessage m msg now).handleIncomingMessage m msg now =
      c.handleIncomingMessage m msg now := by
  rw [c.handleIncomingMessage_eq m msg htime, handleIncomingMessage_eq _ m msg htime]
  simp only [store_localPts, store_messages, store_applicablePts, store_store]
  rw [raised_raised, Function.update_idem]

end Client

variable {u : String} {ms : List PersistedMessage}

/-- **The messages may be delivered in any order and any number of times.** -/
theorem WellFormed.insensitive (h : WellFormed u ms) (now : Int) :
    Insensitive (fun (c : Client) m => c.onMessage now (.message m)) {m | m ∈ ms} where
  swap m hm m' hm' c := by
    by_cases hid : m.id = m'.id
    · rw [h.id_inj m hm m' hm' hid]
    · simp only [Client.onMessage]
      cases m.message with
      | none => cases m'.message <;> rfl
      | some msg =>
        cases m'.message with
        | none => rfl
        | some msg' =>
          exact c.handleIncomingMessage_comm hid (h.serverTimestamp m hm) (h.serverTimestamp m' hm')
            msg msg' now
  again m hm c := by
    simp only [Client.onMessage]
    cases m.message with
    | none => rfl
    | some msg => exact c.handleIncomingMessage_again (h.serverTimestamp m hm) msg now

/-- The times of the deliveries do not matter. -/
theorem WellFormed.receive_eq (h : WellFormed u ms) {ds : List (Int × PersistedMessage)}
    (hds : ∀ m, m ∈ ds.map Prod.snd → m ∈ ms) (c : Client) :
    c.receive ds = (ds.map Prod.snd).foldl (fun c m => c.onMessage 0 (.message m)) c := by
  rw [List.foldl_map]
  refine List.foldl_ext _ _ c fun c d hd => ?_
  simp only [Client.onMessage]
  cases d.2.message with
  | none => rfl
  | some msg =>
    have htime := h.serverTimestamp d.2 (hds d.2 (List.mem_map_of_mem hd))
    show c.handleIncomingMessage d.2 msg d.1 = c.handleIncomingMessage d.2 msg 0
    rw [c.handleIncomingMessage_eq d.2 msg htime, c.handleIncomingMessage_eq d.2 msg htime]

/-- **One message** raises the PTS to the one that applies. -/
theorem WellFormed.isGreatest_step (h : WellFormed u ms) {m : PersistedMessage} (hm : m ∈ ms)
    {c : Client} (hc : c.userId = some u) (now : Int) :
    IsGreatest (insert c.localPts {p | relevantPts? u m = some p})
      (c.onMessage now (.message m)).localPts := by
  -- without a PTS that applies it stays
  have hkeep : relevantPts? u m = none →
      IsGreatest (insert c.localPts {p | relevantPts? u m = some p}) c.localPts := by
    intro hnone
    refine ⟨Or.inl rfl, ?_⟩
    rintro p (rfl | hp)
    · exact le_rfl
    · exact absurd (hnone.symm.trans hp) (Option.some_ne_none p).symm
  simp only [Client.onMessage]
  cases hmsg : m.message with
  | none =>
    refine hkeep ?_
    simp [relevantPts?, PersistedMessage.isReceiver, PersistedMessage.isSender, hmsg]
  | some msg =>
    show IsGreatest _ (c.handleIncomingMessage m msg now).localPts
    rw [(c.handleIncomingMessage_updatePtsIf m msg now).1, Client.updatePtsIf_raised,
      c.applicablePts_eq hc hmsg]
    cases hpts : relevantPts? u m with
    | none =>
      rw [hpts] at hkeep
      exact hkeep rfl
    | some pts =>
      have hpos : 0 < pts := h.pts_pos m hm pts hpts
      rw [Option.getD_some, Client.raised]
      by_cases hlt : pts > c.localPts
      · rw [if_pos ⟨hpos.ne', hlt⟩]
        refine ⟨Or.inr rfl, ?_⟩
        rintro p (rfl | hp)
        · exact hlt.le
        · exact (Option.some.inj hp).ge
      · rw [if_neg fun hboth => hlt hboth.2]
        refine ⟨Or.inl rfl, ?_⟩
        rintro p (rfl | hp)
        · exact le_rfl
        · exact (Option.some.inj hp).ge.trans (not_lt.mp hlt)

/-- **Neither the order nor the number of the deliveries matters.**  Two lists of deliveries of the same
well-formed messages take a client of `u` to the same state.  Its PTS is then the greatest of the one
that it had and those that apply to `u`, and the entries of other ids are as before. -/
theorem receive_congr {c : Client} (hc : c.userId = some u) {ds ds' : List (Int × PersistedMessage)}
    (hms : WellFormed u (ds.map Prod.snd))
    (hsame : ∀ m, m ∈ ds.map Prod.snd ↔ m ∈ ds'.map Prod.snd) :
    c.receive ds = c.receive ds' ∧
      IsGreatest {p | p = c.localPts ∨ ∃ m ∈ ds.map Prod.snd, relevantPts? u m = some p}
        (c.receive ds).localPts ∧
      ∀ id, (∀ m ∈ ds.map Prod.snd, m.id ≠ id) → (c.receive ds).messages id = c.messages id := by
  have hreceive := hms.receive_eq (fun m hm => hm) c
  have hreceive' := hms.receive_eq (fun m hm => (hsame m).mpr hm) c
  refine ⟨?_, ?_, fun id hid => ?_⟩
  · rw [hreceive, hreceive']
    exact (hms.insensitive 0).foldl_eq_of_mem_iff (fun m hm => hm) hsame c
  · rw [hreceive]
    refine isGreatest_foldl (g := Client.localPts) (I := fun c => c.userId = some u) ?_ ?_ hc
    · intro m _ c hc
      rw [Client.onMessage_userId, hc]
    · intro m hm c hc
      exact hms.isGreatest_step hm hc 0
  · rw [hreceive]
    refine List.foldlRecOn (motive := fun c' : Client => c'.messages id = c.messages id) _ _ rfl ?_
    intro c' ih m hm
    simp only [Client.onMessage]
    cases m.message with
    | none => exact ih
    | some msg =>
      obtain ⟨stored, hmessages, -⟩ := c'.handleIncomingMessage_messages m msg 0
      show (c'.handleIncomingMessage m msg 0).messages id = c.messages id
      rw [hmessages, Function.update_of_ne (hid m hm).symm]
      exact ih

/-- Alice's message to Bob and his answer, as his client gets them: the answer first, and the message
twice. -/
def crossedDeliveries : List (Int × PersistedMessage) :=
  [(5, ⟨"b", some ⟨"bob", "alice", "hello", 3⟩, 2, 2, 4⟩),
    (6, ⟨"a", some ⟨"alice", "bob", "hi", 1⟩, 1, 1, 2⟩),
    (7, ⟨"a", some ⟨"alice", "bob", "hi", 1⟩, 1, 1, 2⟩)]

/-- Bob's client is in the state that it would have without the repetition and in order. -/
theorem receive_congr_crossedDeliveries :
    (((Client.load none).connect "bob" "ws://gateway1" none).receive crossedDeliveries =
      ((Client.load none).connect "bob" "ws://gateway1" none).receive
        [(6, ⟨"a", some ⟨"alice", "bob", "hi", 1⟩, 1, 1, 2⟩),
          (5, ⟨"b", some ⟨"bob", "alice", "hello", 3⟩, 2, 2, 4⟩)]) := by
  refine (receive_congr (u := "bob") rfl (by decide) fun m => ?_).1
  simp [crossedDeliveries, or_comm]

end TinyTelegram.WebClient
