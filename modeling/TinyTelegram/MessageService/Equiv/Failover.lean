import TinyTelegram.MessageService.Equiv.Service
import TinyTelegram.MessageService.Equiv.Tickets
import TinyTelegram.MessageService.Failover

/-!
# PTS across failovers, with an ideal `WAIT`

Against a primary and its replica, any number of `PersistMessage` calls and any number of
failovers:

* `committed_slot_injective`: no two committed (row, role) slots hold the same PTS of the same
  user, self-messages included.
* `pts_lt_of_returned_before`: if call `A` had returned a message before call `B` was invoked and
  `B` returns one, every PTS `B` used for a user is greater than every PTS `A` used for that user.

The invariant is `CallInv`: an increment whose call is still to `WAIT` is stamped with its value
wherever it survives in the primary's log, and an increment whose call is past `WAIT` is issued in
the replica's log.  The replica's log only grows, also through a failover, so what is issued in it
stays issued and its value is not issued again.
-/

namespace TinyTelegram.MessageService

namespace Replicated

open CounterLog

/-! ### What Redis can do -/

theorem incr_cases {s x : State} {ticket : Ticket} {key : String} {ch : Choice}
    {reply : Option (Except String Int)} (h : incr s ticket key ch = some (x, reply)) :
    (x = s ∧ ∃ err, reply = some (.error err)) ∨
    (x = s.append ⟨key, some ticket⟩ ∧
      (reply = some (.ok (count key s.primary + 1)) ∨ ∃ err, reply = some (.error err))) ∨
    (x = s.append ⟨key, none⟩ ∧ reply = none) := by
  cases ch with
  | wait reply => cases h
  | incr out => exact Service.execIncr_cases (Option.some.inj h)

theorem wait_cases {s x : State} {id : CallId} {ch : Choice} {reply : Except String Int}
    (h : wait s id ch = some (x, reply)) :
    x = s ∧ ∀ acked, reply = .ok acked → ¬ acked < 1 → s.holdsBoth id := by
  cases ch with
  | incr out => cases h
  | wait reply' =>
    cases reply' with
    | error err =>
      obtain ⟨rfl, rfl⟩ := Prod.mk.inj (Option.some.inj h)
      exact ⟨rfl, fun _ h => by cases h⟩
    | ok n =>
      rw [wait] at h
      split_ifs at h with hn
      obtain ⟨rfl, rfl⟩ := Prod.mk.inj (Option.some.inj h)
      refine ⟨rfl, fun acked hacked hpos => ?_⟩
      obtain rfl := Except.ok.inj hacked
      rcases hn with rfl | ⟨-, hboth⟩
      · exact absurd Int.zero_lt_one hpos
      · exact hboth

/-- The events of Redis on its own: the logs are untouched, or grow, or are cut to the replica. -/
theorem env_cases {s x : State} {e : Event} (h : env s e = some x) :
    x = s.replicate ∨ x = s.failover ∨ x = s.append ⟨benchmarkKey, none⟩ := by
  cases e with
  | replicate => exact Or.inl (Option.some.inj h).symm
  | failover => exact Or.inr (Or.inl (Option.some.inj h).symm)
  | redisOnly => exact Or.inr (Or.inr (Option.some.inj h).symm)

theorem replica_prefix_replicate (s : State) : s.replica <+: s.replicate.replica := by
  have h := List.prefix_iff_eq_take.mp s.replica_prefix
  rw [State.replicate]
  nth_rewrite 1 [h]
  exact List.take_prefix_take_left (Nat.le_succ _)

/-! ### The invariant -/

/-- What is known of the increments of call `id` when it stands at a given point. -/
def CallInv (s : State) (id : CallId) : PersistCall → Prop
  | .idle => ∀ role, some (id, role) ∉ s.primary.map Entry.tag
  | .incrReceiver _ => ∀ role, some (id, role) ∉ s.primary.map Entry.tag
  | .incrSender msg rp =>
    Marked s.primary msg.receiverId (id, .receiver) rp ∧
      some (id, Role.sender) ∉ s.primary.map Entry.tag
  | .wait msg rp sp =>
    Marked s.primary msg.receiverId (id, .receiver) rp ∧
      Marked s.primary msg.senderId (id, .sender) sp
  | .insert msg rp sp =>
    Granted s.replica msg.receiverId (id, .receiver) rp ∧
      Granted s.replica msg.senderId (id, .sender) sp
  | .returned msg (some (rp, sp)) _ =>
    Granted s.replica msg.receiverId (id, .receiver) rp ∧
      Granted s.replica msg.senderId (id, .sender) sp
  | .returned _ none _ => True

/-- An increment on behalf of another call, or of nobody, changes nothing. -/
theorem CallInv.append {s : State} {id : CallId} {c : PersistCall} (h : CallInv s id c) {e : LogEntry}
    (he : ∀ role, e.tag ≠ some (id, role)) : CallInv (s.append e) id c := by
  have hnot : ∀ role, some (id, role) ∉ s.primary.map Entry.tag →
      some (id, role) ∉ (s.append e).primary.map Entry.tag := by
    intro role hrole
    rw [State.append_primary, List.map_append, List.map_singleton, List.mem_append,
      List.mem_singleton, not_or]
    exact ⟨hrole, fun heq => he role heq.symm⟩
  cases c with
  | idle => exact fun role => hnot role (h role)
  | incrReceiver msg => exact fun role => hnot role (h role)
  | incrSender msg rp => exact ⟨h.1.concat (he _), hnot _ h.2⟩
  | wait msg rp sp => exact ⟨h.1.concat (he _), h.2.concat (he _)⟩
  | insert msg rp sp => exact h
  | returned msg alloc res =>
    cases alloc with
    | none => trivial
    | some p => exact h

/-- Replication changes nothing. -/
theorem CallInv.replicate {s : State} {id : CallId} {c : PersistCall} (h : CallInv s id c) :
    CallInv s.replicate id c := by
  have hmono := replica_prefix_replicate s
  cases c with
  | idle => exact h
  | incrReceiver msg => exact h
  | incrSender msg rp => exact h
  | wait msg rp sp => exact h
  | insert msg rp sp => exact ⟨h.1.mono hmono, h.2.mono hmono⟩
  | returned msg alloc res =>
    cases alloc with
    | none => trivial
    | some p => exact ⟨h.1.mono hmono, h.2.mono hmono⟩

/-- A failover may drop the increments of a call that is still to `WAIT`, but not those of a call
past it. -/
theorem CallInv.failover {s : State} {id : CallId} {c : PersistCall} (h : CallInv s id c) :
    CallInv s.failover id c := by
  have hnot : ∀ role, some (id, role) ∉ s.primary.map Entry.tag →
      some (id, role) ∉ s.failover.primary.map Entry.tag :=
    fun role hrole hmem => hrole ((s.replica_prefix.map _).subset hmem)
  cases c with
  | idle => exact fun role => hnot role (h role)
  | incrReceiver msg => exact fun role => hnot role (h role)
  | incrSender msg rp => exact ⟨h.1.cut s.replica_prefix, hnot _ h.2⟩
  | wait msg rp sp => exact ⟨h.1.cut s.replica_prefix, h.2.cut s.replica_prefix⟩
  | insert msg rp sp => exact h
  | returned msg alloc res =>
    cases alloc with
    | none => trivial
    | some p => exact h

/-- The receiver's `INCR`. -/
theorem CallInv.incrReceiver {s x : State} {id : CallId} {msg : ChatMessage} {ch : Choice}
    {reply : Except String Int} (h : CallInv s id (.incrReceiver msg))
    (hR : incr s (id, .receiver) (ptsKey msg.receiverId) ch = some (x, some reply)) :
    CallInv x id (PersistCall.afterIncrReceiver msg reply) := by
  rcases incr_cases hR with ⟨rfl, err, hreply⟩ | ⟨rfl, hreply | ⟨err, hreply⟩⟩ | ⟨rfl, hreply⟩
  · obtain rfl := Option.some.inj hreply
    trivial
  · obtain rfl := Option.some.inj hreply
    refine ⟨marked_concat (h .receiver), ?_⟩
    rw [State.append_primary, List.map_append, List.map_singleton, List.mem_append,
      List.mem_singleton, not_or]
    exact ⟨h .sender, by simp⟩
  · obtain rfl := Option.some.inj hreply
    trivial
  · cases hreply

/-- The sender's `INCR`. -/
theorem CallInv.incrSender {s x : State} {id : CallId} {msg : ChatMessage} {rp : Int} {ch : Choice}
    {reply : Except String Int} (h : CallInv s id (.incrSender msg rp))
    (hR : incr s (id, .sender) (ptsKey msg.senderId) ch = some (x, some reply)) :
    CallInv x id (PersistCall.afterIncrSender msg rp reply) := by
  rcases incr_cases hR with ⟨rfl, err, hreply⟩ | ⟨rfl, hreply | ⟨err, hreply⟩⟩ | ⟨rfl, hreply⟩
  · obtain rfl := Option.some.inj hreply
    trivial
  · obtain rfl := Option.some.inj hreply
    exact ⟨h.1.concat (by simp), marked_concat h.2⟩
  · obtain rfl := Option.some.inj hreply
    trivial
  · cases hreply

/-- `WAIT`: past it, both increments are in the replica's log. -/
theorem CallInv.wait {s x : State} {id : CallId} {msg : ChatMessage} {rp sp : Int} {ch : Choice}
    {reply : Except String Int} (h : CallInv s id (.wait msg rp sp))
    (hR : wait s id ch = some (x, reply)) : CallInv x id (PersistCall.afterWait msg rp sp reply) := by
  obtain ⟨rfl, hboth⟩ := wait_cases hR
  cases reply with
  | error err => trivial
  | ok acked =>
    rw [PersistCall.afterWait]
    split_ifs with hacked
    · trivial
    · obtain ⟨hreceiver, hsender⟩ := hboth acked rfl hacked
      exact ⟨h.1.granted x.replica_prefix hreceiver, h.2.granted x.replica_prefix hsender⟩

theorem CallInv.env {s x : State} {id : CallId} {c : PersistCall} {e : Event} (h : CallInv s id c)
    (hR : env s e = some x) : CallInv x id c := by
  rcases env_cases hR with rfl | rfl | rfl
  · exact h.replicate
  · exact h.failover
  · exact h.append fun role heq => by cases heq

/-- An `INCR` concerns no other call, and without a reply not its own either. -/
theorem CallInv.of_incr {s x : State} {id j : CallId} {role : Role} {c : PersistCall}
    {key : String} {ch : Choice} {reply : Option (Except String Int)} (hj : j ≠ id ∨ reply = none)
    (h : CallInv s j c) (hR : incr s (id, role) key ch = some (x, reply)) : CallInv x j c := by
  rcases incr_cases hR with ⟨rfl, -⟩ | ⟨rfl, hreply⟩ | ⟨rfl, -⟩
  · exact h
  · refine h.append fun role' heq => ?_
    obtain rfl : id = j := (Prod.mk.inj (Option.some.inj heq)).1
    rcases hj with hj | rfl
    · exact hj rfl
    · rcases hreply with hreply | ⟨err, hreply⟩ <;> cases hreply
  · exact h.append fun role' heq => by cases heq

theorem callRule : Service.CallRule redis (fun _ _ => True) CallInv where
  init id role hmem := by cases hmem
  invoke h := h
  incrReceiver := CallInv.incrReceiver
  incrSender := CallInv.incrSender
  wait h _ hR := h.wait hR
  insert h _ _ reply := by cases reply <;> exact h
  of_incr := CallInv.of_incr
  of_wait h hR := (wait_cases hR).1 ▸ h
  env h _ hR := h.env hR

/-- The invariant holds of every call in every state reached. -/
theorem callInv {s : Service.State State} (h : replicatedService.Reachable s) (id : CallId) :
    CallInv s.redis id (s.calls id) := by
  obtain ⟨es, hes⟩ := h
  exact callRule.invariant hes (.of_forall fun _ _ _ => trivial) id

/-! ### Uniqueness and order -/

/-- The ticket of the increment behind a slot of a committed row. -/
def ticketOf (x : Committed) (role : Role) : Ticket := (x.call, role)

/-- A slot of a committed row was granted within the replica's log. -/
theorem granted_slot {s : Service.State State} (h : replicatedService.Reachable s)
    {x : Committed} (hx : x ∈ s.committed) (role : Role) :
    Granted s.redis.replica (x.row.slot role).1 (ticketOf x role) (x.row.slot role).2 := by
  obtain ⟨msg, rp, sp, res, msgID, createdAt, hcall, hrow⟩ := (Service.recorded h).returned x hx
  have hinv := callInv h x.call
  rw [hcall] at hinv
  rw [hrow]
  cases role with
  | receiver => exact hinv.1
  | sender => exact hinv.2

/-- The replica's log only grows. -/
theorem replica_prefix_of_run {s t : Service.State State}
    {es : List (Service.Event Choice Event)} (h : replicatedService.run s es = some t) :
    s.redis.replica <+: t.redis.replica := by
  refine Lts.System.run_rel (S := replicatedService)
    (R := fun s t => s.redis.replica <+: t.redis.replica) (fun _ => List.prefix_rfl)
    List.IsPrefix.trans ?_ h
  intro s e t hstep
  have hincr : ∀ {ticket key ch x reply}, incr s.redis ticket key ch = some (x, reply) →
      x.replica = s.redis.replica := by
    intro ticket key ch x reply hR
    rcases incr_cases hR with ⟨rfl, -⟩ | ⟨rfl, -⟩ | ⟨rfl, -⟩ <;> rfl
  cases Service.step_cases hstep with
  | incrReceiver hc hR => exact (hincr hR).symm ▸ List.prefix_rfl
  | incrReceiverAgain hc hR => exact (hincr hR).symm ▸ List.prefix_rfl
  | incrSender hc hR => exact (hincr hR).symm ▸ List.prefix_rfl
  | incrSenderAgain hc hR => exact (hincr hR).symm ▸ List.prefix_rfl
  | wait hc hR => exact (wait_cases hR).1 ▸ List.prefix_rfl
  | env hR =>
    rcases env_cases hR with rfl | rfl | rfl
    · exact replica_prefix_replicate _
    · exact List.prefix_rfl
    · exact List.prefix_rfl
  | _ => exact List.prefix_rfl

/-- The PTS a returned message used for user `u`: its receiver's if `u` is the receiver, its
sender's if `u` is the sender, and both if `u` wrote to itself. -/
def UsedFor (u : String) (m : PersistedMessage) (p : Int) : Prop :=
  (m.isReceiver u ∧ p = m.receiverPts) ∨ (m.isSender u ∧ p = m.senderPts)

/-- What a call that returned a message used for a user was granted to it in the replica's log. -/
theorem granted_of_usedFor {s : Service.State State} (h : replicatedService.Reachable s)
    {id : CallId} {msg : ChatMessage} {alloc : Option (Int × Int)} {m : PersistedMessage}
    (hcall : s.calls id = .returned msg alloc (.ok m)) {u : String} {p : Int}
    (hp : UsedFor u m p) : ∃ role, Granted s.redis.replica u (id, role) p := by
  obtain ⟨hmsg, halloc, -⟩ := (Service.recorded h).ok hcall
  have hinv := callInv h id
  rw [hcall, halloc] at hinv
  rcases hp with ⟨hu, rfl⟩ | ⟨hu, rfl⟩
  · rw [PersistedMessage.isReceiver, hmsg, Option.any_some, decide_eq_true_eq] at hu
    exact ⟨.receiver, hu ▸ hinv.1⟩
  · rw [PersistedMessage.isSender, hmsg, Option.any_some, decide_eq_true_eq] at hu
    exact ⟨.sender, hu ▸ hinv.2⟩

/-- **Uniqueness**: two committed (row, role) slots with the same PTS of the same user are the
same slot. -/
theorem committed_slot_injective {s : Service.State State} (h : replicatedService.Reachable s)
    {i j : ℕ} {r r' : Row} {role role' : Role} (hi : s.table[i]? = some r)
    (hj : s.table[j]? = some r') (hslot : r.slot role = r'.slot role') : i = j ∧ role = role' := by
  rw [Service.State.table, List.getElem?_map, Option.map_eq_some_iff] at hi hj
  obtain ⟨x, hx, rfl⟩ := hi
  obtain ⟨y, hy, rfl⟩ := hj
  have hgx := granted_slot h (List.mem_of_getElem? hx) role
  have hgy := granted_slot h (List.mem_of_getElem? hy) role'
  rw [← hslot] at hgy
  obtain ⟨hcall, hrole⟩ := Prod.mk.inj (hgx.ticket_unique hgy)
  have hnodup := (Service.recorded h).nodup
  have hi' : (s.committed.map Committed.call)[i]? = some x.call := by
    rw [List.getElem?_map, hx, Option.map_some]
  have hj' : (s.committed.map Committed.call)[j]? = some x.call := by
    rw [List.getElem?_map, hy, Option.map_some, hcall]
  exact ⟨(List.getElem?_inj (List.getElem?_eq_some_iff.mp hi').1 hnodup).mp (hi'.trans hj'.symm),
    hrole⟩

/-- **Order**: a call invoked after another one had returned a message uses greater PTS for every
user they share, if it returns a message. -/
theorem pts_lt_of_returned_before {s t : Service.State State}
    {es : List (Service.Event Choice Event)} (hs : replicatedService.Reachable s)
    (hrun : replicatedService.run s es = some t) {a b : CallId} {msg msg' : ChatMessage}
    {alloc alloc' : Option (Int × Int)} {m m' : PersistedMessage}
    (ha : s.calls a = .returned msg alloc (.ok m)) (hb : s.calls b = .idle)
    (hb' : t.calls b = .returned msg' alloc' (.ok m')) {u : String} {p q : Int}
    (hp : UsedFor u m p) (hq : UsedFor u m' q) : p < q := by
  obtain ⟨role, v, rfl, hv⟩ := granted_of_usedFor hs ha hp
  obtain ⟨role', w, rfl, hw⟩ := granted_of_usedFor (hs.run hrun) hb' hq
  -- the increments of `b` are not in the log `a` was granted its PTS in
  have hnot : (⟨ptsKey u, some (b, role')⟩ : LogEntry) ∉ s.redis.replica := by
    intro hmem
    have hinv := callInv hs b
    rw [hb] at hinv
    exact hinv role' (List.mem_map_of_mem (s.redis.replica_prefix.subset hmem))
  have hlt := hw.count_lt (replica_prefix_of_run hrun) hnot
  exact_mod_cast hv.le_count.trans_lt hlt

/-- **PTS order and uniqueness across failovers.**  Let a run reach `s` and go on to `t`, with any
interleaving, failures and failovers.  In `t` no two committed (row, role) slots hold the same PTS
of the same user; and if call `a` had returned a message in `s`, where `b` was not invoked yet, and
`b` has returned a message in `t`, then every PTS `b` used for a user is greater than every PTS `a`
used for that user. -/
theorem pts_unique_and_ordered {s t : Service.State State}
    {es fs : List (Service.Event Choice Event)}
    (hs : replicatedService.run replicatedService.init es = some s)
    (ht : replicatedService.run s fs = some t) :
    (∀ (i j : ℕ) (r r' : Row) (role role' : Role), t.table[i]? = some r → t.table[j]? = some r' →
      r.slot role = r'.slot role' → i = j ∧ role = role') ∧
    (∀ (a b : CallId) (msg msg' : ChatMessage) (alloc alloc' : Option (Int × Int))
      (m m' : PersistedMessage), s.calls a = .returned msg alloc (.ok m) → s.calls b = .idle →
      t.calls b = .returned msg' alloc' (.ok m') →
      ∀ (u : String) (p q : Int), UsedFor u m p → UsedFor u m' q → p < q) := by
  have hreach : replicatedService.Reachable s := ⟨es, hs⟩
  constructor
  · intro i j r r' role role' hi hj hslot
    exact committed_slot_injective (hreach.run ht) hi hj hslot
  · intro a b msg msg' alloc alloc' m m' ha hb hb' u p q hp hq
    exact pts_lt_of_returned_before hreach ht ha hb hb' hp hq

/-- One call of `PersistMessage` from its invocation to its `INSERT`. -/
def wholeCall (id : CallId) (msg : ChatMessage) (msgID : String) :
    List (Service.Event Choice Event) :=
  [.invoke id msg, .redis id (.incr .executed), .redis id (.incr .executed), .env .replicate,
    .env .replicate, .redis id (.wait (.ok 1)), .insert id msgID 0 0 .executed]

/-- Two messages with a failover in between. -/
theorem pts_unique_and_ordered_two_calls : ∃ s t : Service.State State,
    replicatedService.run replicatedService.init
      (wholeCall 0 ⟨"alice", "bob", "hi", 0⟩ "a" ++ [.env .failover]) = some s ∧
    replicatedService.run s (wholeCall 1 ⟨"bob", "alice", "hi", 0⟩ "b") = some t ∧
    t.table.length = 2 ∧
    ∀ (u : String) (p q : Int),
      UsedFor u ⟨"a", some ⟨"alice", "bob", "hi", 0⟩, 1, 1, 0⟩ p →
      UsedFor u ⟨"b", some ⟨"bob", "alice", "hi", 0⟩, 2, 2, 0⟩ q → p < q := by
  have h := @pts_unique_and_ordered _ _
    (wholeCall 0 ⟨"alice", "bob", "hi", 0⟩ "a" ++ [.env .failover])
    (wholeCall 1 ⟨"bob", "alice", "hi", 0⟩ "b") rfl rfl
  exact ⟨_, _, rfl, rfl, rfl, h.2 0 1 _ _ _ _ _ _ rfl rfl rfl⟩

end Replicated

end TinyTelegram.MessageService
