import TinyTelegram.Gateway.Equiv.Delivery
import TinyTelegram.MessageService.Equiv.Answers

/-!
# Live messages and GetDiff

What is on the sockets of a user's devices against what the message service says to the same user later, over
any Redis, whose counters may go back in a failover.

* `one_message_per_pts`: the devices of a user never have two messages with one `receiver_pts`; the UNIQUE
  constraint that refuses the second row keeps it from the sockets as well.
* `replayed`: a message on a socket is in the answer to every later query of its receiver that asks for more
  than an earlier PTS, unless a full page of others comes before it.
-/

namespace TinyTelegram.Gateway

open Lts
open MessageService (Redis DiffId)

namespace Cluster

variable {ρ χ ε : Type} {R : Redis ρ χ ε} {addr : GwId → String} {s t t' : State ρ}

/-- A message on a socket is what a call has returned, and the call has committed its row. -/
theorem committed_call (h : (cluster R addr).Reachable s) {c : ConnId} {m : PersistedMessage}
    (hm : .message m ∈ s.out c) : ∃ id msg alloc createdAt, m.message = some msg ∧
      s.service.calls id = .returned msg alloc (.ok m) ∧
      ⟨id, MessageService.PersistCall.row msg m.receiverPts m.senderPts m.id createdAt⟩ ∈
        s.service.committed := by
  obtain ⟨id, msg, alloc, hret, -⟩ := (sound h).origin (.socket c) m (mem_held_socket.mpr hm)
  obtain ⟨hmessage, -, createdAt, hmem⟩ := (MessageService.Service.recorded (service_reachable h)).ok hret
  exact ⟨id, msg, alloc, createdAt, hmessage, hret, hmem⟩

/-- **One message for each number**: two messages on sockets, of any devices, that have one receiver and one
`receiver_pts` are one message. -/
theorem one_message_per_pts (h : (cluster R addr).Reachable s) {c c' : ConnId} {m m' : PersistedMessage}
    {u : String} (hm : .message m ∈ s.out c) (hm' : .message m' ∈ s.out c') (hu : m.isReceiver u = true)
    (hu' : m'.isReceiver u = true) (hpts : m.receiverPts = m'.receiverPts) : m = m' := by
  obtain ⟨id, msg, alloc, createdAt, hmessage, hret, hmem⟩ := committed_call h hm
  obtain ⟨id', msg', alloc', createdAt', hmessage', hret', hmem'⟩ := committed_call h hm'
  have hreceiver : msg.receiverId = u := by simpa [PersistedMessage.isReceiver, hmessage] using hu
  have hreceiver' : msg'.receiverId = u := by simpa [PersistedMessage.isReceiver, hmessage'] using hu'
  have hnodup : (s.service.committed.map fun x => x.row.slot .receiver).Nodup := by
    have hslot := (MessageService.Service.constrained_table (service_reachable h)).slot_nodup .receiver
    rw [MessageService.Service.State.table, List.map_map] at hslot
    exact hslot
  have hsame := List.inj_on_of_nodup_map hnodup hmem hmem' (by
    show (msg.receiverId, m.receiverPts) = (msg'.receiverId, m'.receiverPts)
    rw [hreceiver, hreceiver', hpts])
  have hid : id = id' := congrArg MessageService.Committed.call hsame
  rw [hid, hret'] at hret
  injection hret with _ _ hres
  exact (Except.ok.inj hres).symm

/-- The tab of Bob's that a message has reached in a run is the only place where number 1 is. -/
theorem one_message_per_pts_secondTabRun : ∃ s m,
    (cluster MessageService.Counters.redis twoGateways).run
      (init MessageService.Counters.redis) secondTabRun = some s ∧
    ∀ c' m', .message m' ∈ s.out c' → m'.isReceiver "bob" = true → m'.receiverPts = 1 → m' = m := by
  obtain ⟨s, hs, hout⟩ : ∃ s, (cluster MessageService.Counters.redis twoGateways).run
      (init MessageService.Counters.redis) secondTabRun = some s ∧
      s.out 2 = [.message ⟨"m", some ⟨"alice", "bob", "hi", 5⟩, 1, 1, 8⟩] := ⟨_, rfl, rfl⟩
  refine ⟨s, ⟨"m", some ⟨"alice", "bob", "hi", 5⟩, 1, 1, 8⟩, hs, fun c' m' hm' hbob hpts => ?_⟩
  have hm : .message ⟨"m", some ⟨"alice", "bob", "hi", 5⟩, 1, 1, 8⟩ ∈ s.out 2 := hout ▸ List.mem_singleton_self _
  exact one_message_per_pts ⟨secondTabRun, hs⟩ hm' hm hbob rfl hpts

/-! ### Replay -/

/-- No row is lost in a run. -/
theorem table_run {es : List (Event χ ε)} (h : (cluster R addr).run s es = some t) :
    s.service.table <+: t.service.table := by
  refine System.run_rel (R := fun s t : State ρ => s.service.table <+: t.service.table)
    (fun _ => List.prefix_rfl) (fun h h' => h.trans h') (fun s e t hstep => ?_) h
  rcases (serviceComponent R addr).part_step hstep with hsame | ⟨d, hd⟩
  · have hservice : t.service = s.service := hsame
    rw [hservice]
  · exact MessageService.Service.table_step hd

/-- **What was live is replayed.**  Whoever asks for more than a PTS before that of a message on a socket of
theirs, at any time after, gets the message with the same content, or a full page of messages that are not after
it. -/
theorem replayed (h : (cluster R addr).Reachable s) {c : ConnId} {m : PersistedMessage} {msg : ChatMessage}
    (hm : .message m ∈ s.out c) (hmsg : m.message = some msg) {es : List (Event χ ε)}
    (hrun : (cluster R addr).run s es = some t) {q : DiffId} {req : GetDiffRequest}
    (hquery : (cluster R addr).step t (.service (.query q req none)) = some t')
    (hu : req.userId = msg.receiverId) (hpts : req.clientPts < m.receiverPts) :
    ∃ messages, t'.service.diffs q = .selected req messages ∧
      ((∃ entry ∈ messages, entry.id = m.id ∧ entry.receiverPts = m.receiverPts ∧
          entry.message = some { msg with clientTimestamp := 0 }) ∨
        (messages.length = (MessageService.normalizeLimit req.limit).toNat ∧
          ∀ entry ∈ messages, entry.ptsFor req.userId ≤ m.receiverPts)) := by
  obtain ⟨id, msg', alloc, createdAt, hmsg', -, hmem⟩ := committed_call h hm
  obtain rfl := Option.some.inj (hmsg.symm.trans hmsg')
  have hrow : MessageService.PersistCall.row msg m.receiverPts m.senderPts m.id createdAt ∈
      t.service.table :=
    (table_run hrun).mem (List.mem_map_of_mem (f := MessageService.Committed.row) hmem)
  have hown : (MessageService.PersistCall.row msg m.receiverPts m.senderPts m.id createdAt).ptsFor
      req.userId = m.receiverPts := if_pos hu.symm
  -- the query reads the table of that moment
  obtain ⟨x, hx, rfl⟩ : ∃ x, (MessageService.Service.system R).step t.service (.query q req none) = some x ∧
      t.setService x = t' := by
    simpa [cluster, step, Option.map_eq_some_iff] using hquery
  have hselected : x.diffs q = .selected req
      ((MessageService.selectRows t.service.table req.userId req.clientPts
        (MessageService.normalizeLimit req.limit)).map (MessageService.Row.toEntry req.userId)) := by
    cases MessageService.Service.step_cases hx with
    | query hidle =>
      rw [← MessageService.map_scanRow_selectDiff]
      exact Function.update_self ..
  refine ⟨_, hselected, ?_⟩
  rcases MessageService.Service.mem_selectRows_or hrow (.inl hu.symm) (hown.symm ▸ hpts) with
    hpage | ⟨hfull, hle⟩
  · have hrec : (MessageService.PersistCall.row msg m.receiverPts m.senderPts m.id createdAt).receiverId =
        req.userId := hu.symm
    refine .inl ⟨_, List.mem_map_of_mem hpage, rfl, ?_, rfl⟩
    exact (if_pos hrec).trans hown
  · refine .inr ⟨by rw [List.length_map]; exact hfull, fun entry hentry => ?_⟩
    obtain ⟨r, hr, rfl⟩ := List.mem_map.mp hentry
    rw [MessageService.ptsFor_toEntry]
    exact (hle r hr).trans hown.le

/-- Bob's first tab asks for what the second has got. -/
theorem replayed_secondTabRun : ∃ s t' messages,
    (cluster MessageService.Counters.redis twoGateways).run
      (init MessageService.Counters.redis) secondTabRun = some s ∧
    (cluster MessageService.Counters.redis twoGateways).step s (.service (.query 0 ⟨"bob", 0, 100⟩ none)) =
      some t' ∧
    t'.service.diffs 0 = .selected ⟨"bob", 0, 100⟩ messages ∧
    ((∃ entry ∈ messages, entry.id = "m" ∧ entry.receiverPts = 1 ∧
        entry.message = some ⟨"alice", "bob", "hi", 0⟩) ∨ messages.length = 100) := by
  obtain ⟨s, hs, hout⟩ : ∃ s, (cluster MessageService.Counters.redis twoGateways).run
      (init MessageService.Counters.redis) secondTabRun = some s ∧
      s.out 2 = [.message ⟨"m", some ⟨"alice", "bob", "hi", 5⟩, 1, 1, 8⟩] := ⟨_, rfl, rfl⟩
  obtain ⟨t', ht'⟩ : ∃ t', (cluster MessageService.Counters.redis twoGateways).step s
      (.service (.query 0 ⟨"bob", 0, 100⟩ none)) = some t' := by
    obtain rfl := Option.some.inj hs
    exact ⟨_, rfl⟩
  have hrun : (cluster MessageService.Counters.redis twoGateways).run s [] = some s := rfl
  obtain ⟨messages, hmessages, hfound⟩ := replayed ⟨secondTabRun, hs⟩
    (hout ▸ List.mem_singleton_self _) rfl hrun ht' rfl (by decide)
  exact ⟨s, t', messages, hs, ht', hmessages, hfound.imp id And.left⟩

end Cluster

end TinyTelegram.Gateway
