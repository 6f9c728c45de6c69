import TinyTelegram.MessageService.Equiv.Answers
import TinyTelegram.WebClient.App

/-!
# Live and replayed messages

A device that is online gets the message that `PersistMessage` returned, and one that was offline gets
the entry that `GetDiff` builds from the row.  The two have the same id, sender, receiver and content,
and the client takes the same PTS from both (`replay_agrees`).  The client timestamp is not a column of
the table, and the server timestamp is read from two clocks, so these two fields differ
(`not_sameFields`).
-/

namespace TinyTelegram.WebClient

open MessageService (Redis Service.State Service.system CallId DiffId)

/-- The copies `e` and `m` of a message agree in all fields that a client of `u` reads. -/
def SameFields (u : String) (e m : PersistedMessage) : Prop :=
  e.id = m.id ∧ e.message = m.message ∧ e.serverTimestamp = m.serverTimestamp ∧
    ∀ (c : Client) (msg msg' : ChatMessage), c.userId = some u → e.message = some msg →
      m.message = some msg' → c.applicablePts e msg = c.applicablePts m msg'

/-- A message, and a client that catches up: the gateway's clock says `5`, the database `7` and the
message service `8`. -/
def replayRun : List MessageService.CounterEvent :=
  [.invoke 0 ⟨"alice", "bob", "hi", 5⟩, .redis 0 (.incr .executed), .redis 0 (.incr .executed),
    .redis 0 (.wait (.ok 1)), .insert 0 "a" 7000 8 .executed, .query 0 ⟨"bob", 0, 0⟩ none,
    .get 0 none]

/-- **The replayed copy has two timestamps of its own.** -/
theorem not_sameFields : ∃ (s : Service.State MessageService.Counters.State) (m e : PersistedMessage),
    MessageService.counterService.run MessageService.counterService.init replayRun = some s ∧
    s.calls 0 = .returned ⟨"alice", "bob", "hi", 5⟩ (some (1, 1)) (.ok m) ∧
    s.diffs 0 = .returned ⟨"bob", 0, 0⟩ (.ok ⟨[e], 1⟩) ∧ ¬ SameFields "bob" e m := by
  refine ⟨_, ⟨"a", some ⟨"alice", "bob", "hi", 5⟩, 1, 1, 8⟩,
    ⟨"a", some ⟨"alice", "bob", "hi", 0⟩, 1, 0, 7⟩, rfl, rfl, rfl, fun h => ?_⟩
  exact absurd h.2.1 (by decide)

variable {ρ χ ε : Type} {R : Redis ρ χ ε}

/-- The message of a row, as far as the table has it. -/
theorem toEntry_message (u : String) (msg : ChatMessage) (rp sp : Int) (msgID : String)
    (createdAt : Int) :
    ((MessageService.PersistCall.row msg rp sp msgID createdAt).toEntry u).message =
      some { msg with clientTimestamp := 0 } := rfl

/-- A client of `u` takes the same PTS from the entry of a row as from the message itself. -/
theorem applicablePts_toEntry {c : Client} {u : String} (hc : c.userId = some u)
    {msg : ChatMessage} (m : PersistedMessage) (createdAt : Int)
    (hu : msg.receiverId = u ∨ msg.senderId = u) :
    c.applicablePts ((MessageService.PersistCall.row msg m.receiverPts m.senderPts m.id
        createdAt).toEntry u) { msg with clientTimestamp := 0 } = c.applicablePts m msg := by
  unfold Client.applicablePts
  rw [hc]
  simp only [Option.some.injEq]
  by_cases hrec : msg.receiverId = u
  · rw [if_pos hrec, if_pos hrec]
    subst hrec
    simp [MessageService.Row.toEntry, MessageService.Row.toDiffRow, MessageService.Row.ptsFor,
      MessageService.scanRow, MessageService.PersistCall.row]
  · have hsend : msg.senderId = u := hu.resolve_left hrec
    rw [if_neg hrec, if_neg hrec, if_pos hsend, if_pos hsend]
    simp [MessageService.Row.toEntry, MessageService.Row.toDiffRow, MessageService.Row.ptsFor,
      MessageService.scanRow, MessageService.PersistCall.row, hrec]

/-- **Replay agrees with live delivery** up to the timestamps.  When a call has returned the message
`m`, every entry that `GetDiff` answers with for its row, to whichever participant, has the id, the
sender, the receiver and the content of `m`, and a client of the participant takes the same PTS from
both.  The client timestamp of the entry is `0`, and its server timestamp is the time of the
`INSERT`. -/
theorem replay_agrees {s : Service.State ρ} (h : (Service.system R).Reachable s) {id : CallId}
    {msg : ChatMessage} {alloc : Option (Int × Int)} {m : PersistedMessage}
    (hret : s.calls id = .returned msg alloc (.ok m)) {q : DiffId} {req : GetDiffRequest}
    {messages : List PersistedMessage} (hanswer : (s.diffs q).answer? = some (req, messages))
    {e : PersistedMessage} (he : e ∈ messages) (hid : e.id = m.id) :
    m.message = some msg ∧ e.message = some { msg with clientTimestamp := 0 } ∧
    (∀ c : Client, c.userId = some req.userId →
      c.applicablePts e { msg with clientTimestamp := 0 } = c.applicablePts m msg) ∧
    ∃ r ∈ s.table, r.id = m.id ∧ e.serverTimestamp = r.createdAt / 1000 := by
  obtain ⟨hmessage, -, createdAt, hcommitted⟩ := (MessageService.Service.recorded h).ok hret
  have hrow := List.mem_map_of_mem (f := MessageService.Committed.row) hcommitted
  obtain ⟨r, hr, hu, -, rfl⟩ := MessageService.Service.answered h q req messages hanswer e he
  -- the row of the entry is that of the message, as ids are unique
  obtain rfl := List.inj_on_of_nodup_map (MessageService.Service.constrained_table h).id_nodup hr
    hrow hid
  exact ⟨hmessage, toEntry_message .., fun c hc => applicablePts_toEntry hc m createdAt hu,
    _, hr, rfl, rfl⟩

/-- Bob's copy has the content of the message, and no client timestamp. -/
theorem replay_agrees_replayRun : ∃ (s : Service.State MessageService.Counters.State)
    (m e : PersistedMessage),
    MessageService.counterService.run MessageService.counterService.init replayRun = some s ∧
    s.calls 0 = .returned ⟨"alice", "bob", "hi", 5⟩ (some (1, 1)) (.ok m) ∧
    s.diffs 0 = .returned ⟨"bob", 0, 0⟩ (.ok ⟨[e], 1⟩) ∧
    e.message = some ⟨"alice", "bob", "hi", 0⟩ := by
  refine ⟨_, ⟨"a", some ⟨"alice", "bob", "hi", 5⟩, 1, 1, 8⟩,
    ⟨"a", some ⟨"alice", "bob", "hi", 0⟩, 1, 0, 7⟩, rfl, rfl, rfl, ?_⟩
  have hagrees := @replay_agrees _ _ _ MessageService.Counters.redis _ ⟨replayRun, rfl⟩ 0 _ _
    ⟨"a", some ⟨"alice", "bob", "hi", 5⟩, 1, 1, 8⟩ rfl 0 ⟨"bob", 0, 0⟩ _ rfl _
    (List.mem_singleton_self _) rfl
  exact hagrees.2.1

end TinyTelegram.WebClient
