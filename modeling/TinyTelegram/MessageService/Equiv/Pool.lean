import TinyTelegram.MessageService.Equiv.Service
import TinyTelegram.MessageService.Equiv.Tickets
import TinyTelegram.MessageService.Pool

/-!
# `WAIT` on a pooled connection

`AllocatePTSWithWait` promises that a replica holds both increments of every call it returns
without an error (`AllDurable`).  Its single `WAIT` suffices only on a connection whose last write is
the sender's increment or a later one: then the replicas it counts have acknowledged that
increment, and with it the receiver's, which the server executed before it.

The pool makes no such choice.  `not_allDurable` is the run in which the `WAIT` goes out on a
connection that has carried no write; `allDurable` is the guarantee for the runs in which every
`WAIT` is `Covered`.
-/

namespace TinyTelegram.MessageService

namespace Pooled

open CounterLog

/-- The PTS an `INCR` of `user`'s counter returns on a server with the writes `l`. -/
def nextPTS (l : List LogEntry) (user : String) : Int := count (ptsKey user) l + 1

/-- Some replica holds both increments of call `id`, so that an `INCR` on it returns neither PTS
again. -/
def Durable (s : State) (id : CallId) (msg : ChatMessage) (rp sp : Int) : Prop :=
  ∃ n ∈ s.acked,
    Granted (s.log.take n) msg.receiverId (id, .receiver) rp ∧
    Granted (s.log.take n) msg.senderId (id, .sender) sp ∧
    rp < nextPTS (s.log.take n) msg.receiverId ∧ sp < nextPTS (s.log.take n) msg.senderId

/-- Every call that `AllocatePTSWithWait` has returned to without an error is durable. -/
def AllDurable (s : Service.State State) : Prop :=
  ∀ id msg rp sp, (s.calls id).allocated? = some (msg, rp, sp) → Durable s.redis id msg rp sp

/-- The number of writes the server had executed before the sender's increment of call `id`. -/
def senderIncr (s : State) (id : CallId) : ℕ :=
  s.log.findIdx fun e => e.tag = some (id, Role.sender)

/-- A `WAIT` that does not fail is carried by a connection whose last write is the sender's
increment of its call, or a later write. -/
def Covered (s : Service.State State) : Service.Event Choice Event → Prop
  | .redis id (.wait conn none) => senderIncr s.redis id < s.redis.lastWrite conn
  | _ => True

instance (s : Service.State State) : ∀ e, Decidable (Covered s e)
  | .redis _ (.wait _ none) => inferInstanceAs (Decidable (_ < _))
  | .redis _ (.wait _ (some _)) | .redis _ (.incr ..) | .invoke .. | .insert .. | .env _
  | .query .. | .get .. => .isTrue trivial

/-! ### The failing schedule -/

/-- Both increments on connection `0`, the `WAIT` on connection `1`. -/
def uncoveredRun : List (Service.Event Choice Event) :=
  [.invoke 0 ⟨"alice", "bob", "hi", 0⟩, .redis 0 (.incr 0 .executed), .redis 0 (.incr 0 .executed),
    .redis 0 (.wait 1 none)]

/-- **The `WAIT` may count a replica that holds neither increment.** -/
theorem not_allDurable : ∃ s, (pooledService 1).run (pooledService 1).init uncoveredRun = some s ∧
    ¬ AllDurable s := by
  refine ⟨_, rfl, fun h => ?_⟩
  obtain ⟨n, hn, ⟨v, -, hv⟩, -⟩ := h 0 ⟨"alice", "bob", "hi", 0⟩ 1 1 rfl
  obtain rfl : n = 0 := List.eq_of_mem_singleton hn
  exact List.not_mem_nil hv.mem

/-! ### What Redis can do -/

theorem incr_cases {s x : State} {ticket : Ticket} {key : String} {ch : Choice}
    {reply : Option (Except String Int)} (h : incr s ticket key ch = some (x, reply)) :
    (x = s ∧ ∃ err, reply = some (.error err)) ∨
    (∃ conn, x = s.append conn ⟨key, some ticket⟩ ∧
      (reply = some (.ok (count key s.log + 1)) ∨ ∃ err, reply = some (.error err))) ∨
    (∃ conn, x = s.append conn ⟨key, none⟩ ∧ reply = none) := by
  cases ch with
  | wait conn fail => cases h
  | incr conn out =>
    rcases Service.execIncr_cases (Option.some.inj h) with h | h | h
    · exact Or.inl h
    · exact Or.inr (Or.inl ⟨conn, h⟩)
    · exact Or.inr (Or.inr ⟨conn, h⟩)

/-- A `WAIT` that counts a replica counts one that has acknowledged the connection's last write. -/
theorem wait_cases {s x : State} {ch : Choice} {reply : Except String Int}
    (h : wait s ch = some (x, reply)) :
    x = s ∧ ∀ acked, reply = .ok acked → ∃ conn, ch = .wait conn none ∧
      (¬ acked < 1 → ∃ n ∈ s.acked, s.lastWrite conn ≤ n) := by
  cases ch with
  | incr conn out => cases h
  | wait conn fail =>
    cases fail with
    | some err =>
      obtain ⟨rfl, rfl⟩ := Prod.mk.inj (Option.some.inj h)
      exact ⟨rfl, fun _ h => by cases h⟩
    | none =>
      obtain ⟨rfl, rfl⟩ := Prod.mk.inj (Option.some.inj h)
      refine ⟨rfl, fun acked hacked => ⟨conn, rfl, fun hpos => ?_⟩⟩
      obtain rfl := Except.ok.inj hacked
      have hcount : 0 < s.ackedReplicas conn := by omega
      rw [State.ackedReplicas, List.countP_pos_iff] at hcount
      simpa using hcount

theorem env_cases {s x : State} {e : Event} (h : env s e = some x) :
    (∃ r n, s.acked[r]? = some n ∧ x = { s with acked := s.acked.set r (n + 1) }) ∨
    ∃ conn, x = s.append conn ⟨benchmarkKey, none⟩ := by
  cases e with
  | ack r =>
    rw [env] at h
    split at h
    · rename_i n hn
      split_ifs at h
      exact Or.inl ⟨r, n, hn, (Option.some.inj h).symm⟩
    · cases h
  | redisOnly conn => exact Or.inr ⟨conn, (Option.some.inj h).symm⟩

/-! ### The invariant -/

/-- What was granted within a log is not issued again by a server with that log. -/
theorem lt_nextPTS {l : List LogEntry} {user : String} {ticket : Ticket} {p : Int}
    (h : Granted l user ticket p) : p < nextPTS l user := by
  obtain ⟨v, rfl, hv⟩ := h
  have := hv.le_count
  rw [nextPTS]
  omega

/-- An increment comes after every entry that does not carry its tag. -/
theorem length_le_senderIncr {s : State} {id : CallId} {pre post : List LogEntry}
    (hlog : s.log = pre ++ post) (hpre : some (id, Role.sender) ∉ pre.map Entry.tag) :
    pre.length ≤ senderIncr s id := by
  have hnone : (pre.findIdx fun e => e.tag = some (id, Role.sender)) = pre.length := by
    rw [List.findIdx_eq_length]
    intro e he
    rw [decide_eq_false_iff_not]
    exact fun htag => hpre (htag ▸ List.mem_map_of_mem he)
  rw [senderIncr, hlog, List.findIdx_append, hnone, if_neg (lt_irrefl _)]
  exact Nat.le_add_left ..

/-- What is known of the increments of call `id` when it stands at a given point.  Before the
`WAIT` the receiver's increment is in the log before the sender's; after it a replica holds both. -/
def CallInv (s : State) (id : CallId) : PersistCall → Prop
  | .idle => ∀ role, some (id, role) ∉ s.log.map Entry.tag
  | .incrReceiver _ => ∀ role, some (id, role) ∉ s.log.map Entry.tag
  | .incrSender msg rp =>
    Granted s.log msg.receiverId (id, .receiver) rp ∧ some (id, Role.sender) ∉ s.log.map Entry.tag
  | .wait msg rp sp =>
    ∃ pre, some (id, Role.sender) ∉ pre.map Entry.tag ∧
      Granted pre msg.receiverId (id, .receiver) rp ∧ sp = nextPTS pre msg.senderId ∧
      pre ++ [⟨ptsKey msg.senderId, some (id, .sender)⟩] <+: s.log
  | .insert msg rp sp => Durable s id msg rp sp
  | .returned msg (some (rp, sp)) _ => Durable s id msg rp sp
  | .returned _ none _ => True

theorem Durable.mono {s x : State} {id : CallId} {msg : ChatMessage} {rp sp : Int}
    (h : Durable s id msg rp sp) (hlog : s.log <+: x.log)
    (hacked : ∀ n ∈ s.acked, ∃ n' ∈ x.acked, n ≤ n') : Durable x id msg rp sp := by
  obtain ⟨n, hn, hr, hs, hrp, hsp⟩ := h
  obtain ⟨n', hn', hle⟩ := hacked n hn
  have htake : s.log.take n <+: x.log.take n' :=
    (hlog.take n).trans (List.take_prefix_take_left hle)
  have hnext : ∀ user, nextPTS (s.log.take n) user ≤ nextPTS (x.log.take n') user := by
    intro user
    have := count_mono (k := ptsKey user) htake
    rw [nextPTS, nextPTS]
    omega
  exact ⟨n', hn', hr.mono htake, hs.mono htake, hrp.trans_le (hnext _), hsp.trans_le (hnext _)⟩

/-- A write on behalf of another call, or of nobody, changes nothing. -/
theorem CallInv.append {s : State} {id : CallId} {c : PersistCall} (h : CallInv s id c)
    (conn : ConnId) {e : LogEntry} (he : ∀ role, e.tag ≠ some (id, role)) :
    CallInv (s.append conn e) id c := by
  have hlog : s.log <+: (s.append conn e).log := List.prefix_append ..
  have hdur : ∀ {msg rp sp}, Durable s id msg rp sp → Durable (s.append conn e) id msg rp sp :=
    fun h => h.mono hlog fun n hn => ⟨n, hn, le_rfl⟩
  have hnot : ∀ role, some (id, role) ∉ s.log.map Entry.tag →
      some (id, role) ∉ (s.append conn e).log.map Entry.tag := by
    intro role hrole
    rw [State.append_log, List.map_append, List.map_singleton, List.mem_append,
      List.mem_singleton, not_or]
    exact ⟨hrole, fun heq => he role heq.symm⟩
  cases c with
  | idle => exact fun role => hnot role (h role)
  | incrReceiver msg => exact fun role => hnot role (h role)
  | incrSender msg rp => exact ⟨h.1.mono hlog, hnot _ h.2⟩
  | wait msg rp sp =>
    obtain ⟨pre, hpre, hr, hsp, hle⟩ := h
    exact ⟨pre, hpre, hr, hsp, hle.trans hlog⟩
  | insert msg rp sp => exact hdur h
  | returned msg alloc res =>
    cases alloc with
    | none => trivial
    | some p => exact hdur h

/-- An acknowledgement changes nothing. -/
theorem CallInv.ack {s : State} {id : CallId} {c : PersistCall} (h : CallInv s id c) {r n : ℕ}
    (hr : s.acked[r]? = some n) : CallInv { s with acked := s.acked.set r (n + 1) } id c := by
  have hacked : ∀ m ∈ s.acked, ∃ m' ∈ s.acked.set r (n + 1), m ≤ m' := by
    intro m hm
    obtain ⟨i, hi⟩ := List.mem_iff_getElem?.mp hm
    have hlt : i < s.acked.length := (List.getElem?_eq_some_iff.mp hi).1
    by_cases hir : r = i
    · subst hir
      obtain rfl := Option.some.inj (hr.symm.trans hi)
      exact ⟨n + 1, List.mem_set hlt (n + 1), Nat.le_succ n⟩
    · refine ⟨m, List.mem_iff_getElem?.mpr ⟨i, ?_⟩, le_rfl⟩
      rw [List.getElem?_set_ne hir]
      exact hi
  have hdur : ∀ {msg rp sp}, Durable s id msg rp sp →
      Durable { s with acked := s.acked.set r (n + 1) } id msg rp sp :=
    fun h => h.mono List.prefix_rfl hacked
  cases c with
  | insert msg rp sp => exact hdur h
  | returned msg alloc res =>
    cases alloc with
    | none => trivial
    | some p => exact hdur h
  | _ => exact h

/-- The receiver's `INCR`. -/
theorem CallInv.incrReceiver {s x : State} {id : CallId} {msg : ChatMessage} {ch : Choice}
    {reply : Except String Int} (h : CallInv s id (.incrReceiver msg))
    (hR : incr s (id, .receiver) (ptsKey msg.receiverId) ch = some (x, some reply)) :
    CallInv x id (PersistCall.afterIncrReceiver msg reply) := by
  rcases incr_cases hR with ⟨rfl, err, hreply⟩ | ⟨conn, rfl, hreply | ⟨err, hreply⟩⟩ | ⟨_, _, hreply⟩
  · obtain rfl := Option.some.inj hreply
    trivial
  · obtain rfl := Option.some.inj hreply
    refine ⟨⟨_, by push_cast; rfl, issued_concat ..⟩, ?_⟩
    rw [State.append_log, List.map_append, List.map_singleton, List.mem_append,
      List.mem_singleton, not_or]
    exact ⟨h .sender, by simp⟩
  · obtain rfl := Option.some.inj hreply
    trivial
  · cases hreply

/-- The sender's `INCR`. -/
theorem CallInv.incrSender {s x : State} {id : CallId} {msg : ChatMessage} {rp : Int} {ch : Choice}
    {reply : Except String Int} (h : CallInv s id (.incrSender msg rp))
    (hR : incr s (id, .sender) (ptsKey msg.senderId) ch = some (x, some reply)) :
    CallInv x id (PersistCall.afterIncrSender msg rp reply) := by
  rcases incr_cases hR with ⟨rfl, err, hreply⟩ | ⟨conn, rfl, hreply | ⟨err, hreply⟩⟩ | ⟨_, _, hreply⟩
  · obtain rfl := Option.some.inj hreply
    trivial
  · obtain rfl := Option.some.inj hreply
    exact ⟨s.log, h.2, h.1, rfl, List.prefix_rfl⟩
  · obtain rfl := Option.some.inj hreply
    trivial
  · cases hreply

/-- The `WAIT`, if it is covered: the replica it counts has acknowledged the sender's increment. -/
theorem CallInv.wait {s x : State} {id : CallId} {msg : ChatMessage} {rp sp : Int} {ch : Choice}
    {reply : Except String Int} (h : CallInv s id (.wait msg rp sp))
    (hcov : ∀ conn, ch = .wait conn none → senderIncr s id < s.lastWrite conn)
    (hR : wait s ch = some (x, reply)) :
    CallInv x id (PersistCall.afterWait msg rp sp reply) := by
  obtain ⟨rfl, hreply⟩ := wait_cases hR
  cases reply with
  | error err => trivial
  | ok acked =>
    rw [PersistCall.afterWait]
    split_ifs with hpos
    · trivial
    · obtain ⟨conn, hch, hacked⟩ := hreply acked rfl
      obtain ⟨n, hn, hle⟩ := hacked hpos
      obtain ⟨pre, hpre, hr, hsp, post, hlog⟩ := h
      have hlt : pre.length < n := by
        refine lt_of_le_of_lt ?_ ((hcov conn hch).trans_le hle)
        rw [List.append_assoc] at hlog
        exact length_le_senderIncr hlog.symm hpre
      have htake : pre ++ [⟨ptsKey msg.senderId, some (id, .sender)⟩] <+: x.log.take n := by
        rw [List.prefix_take_iff]
        exact ⟨⟨post, hlog⟩, by rw [List.length_append, List.length_singleton]; exact hlt⟩
      have hs : Granted (x.log.take n) msg.senderId (id, .sender) sp :=
        ⟨_, by rw [hsp, nextPTS]; push_cast; rfl, (issued_concat ..).mono htake⟩
      have hr' := hr.mono ((List.prefix_append ..).trans htake)
      exact ⟨n, hn, hr', hs, lt_nextPTS hr', lt_nextPTS hs⟩

theorem CallInv.env {s x : State} {id : CallId} {c : PersistCall} {e : Event} (h : CallInv s id c)
    (hR : env s e = some x) : CallInv x id c := by
  rcases env_cases hR with ⟨r, n, hr, rfl⟩ | ⟨conn, rfl⟩
  · exact h.ack hr
  · exact h.append conn fun role heq => by cases heq

/-- An `INCR` concerns no other call, and without a reply not its own either. -/
theorem CallInv.of_incr {s x : State} {id j : CallId} {role : Role} {c : PersistCall}
    {key : String} {ch : Choice} {reply : Option (Except String Int)} (hj : j ≠ id ∨ reply = none)
    (h : CallInv s j c) (hR : incr s (id, role) key ch = some (x, reply)) : CallInv x j c := by
  rcases incr_cases hR with ⟨rfl, -⟩ | ⟨conn, rfl, hreply⟩ | ⟨conn, rfl, -⟩
  · exact h
  · refine h.append conn fun role' heq => ?_
    obtain rfl : id = j := (Prod.mk.inj (Option.some.inj heq)).1
    rcases hj with hj | rfl
    · exact hj rfl
    · rcases hreply with hreply | ⟨err, hreply⟩ <;> cases hreply
  · exact h.append conn fun role' heq => by cases heq

theorem callRule (replicas : ℕ) : Service.CallRule (redis replicas) Covered CallInv where
  init id role hmem := by cases hmem
  invoke h := h
  incrReceiver := CallInv.incrReceiver
  incrSender := CallInv.incrSender
  wait h hcov hR := by
    refine h.wait (fun conn hch => ?_) hR
    subst hch
    exact hcov
  insert h _ _ reply := by cases reply <;> exact h
  of_incr := CallInv.of_incr
  of_wait h hR := (wait_cases hR).1 ▸ h
  env h _ hR := h.env hR

/-- **Layer 1 on covered `WAIT`s**: in every run in which each `WAIT` is carried by a connection
whose last write is the sender's increment of the call or a later write, every call returned
without an error has both its increments on a replica, in every state reached. -/
theorem allDurable {replicas : ℕ} {es : List (Service.Event Choice Event)}
    {s : Service.State State}
    (h : (pooledService replicas).run (pooledService replicas).init es = some s)
    (hcov : (pooledService replicas).Meets Covered (pooledService replicas).init es) :
    AllDurable s := by
  intro id msg rp sp hid
  have hinv := (callRule replicas).invariant h hcov id
  cases hc : s.calls id with
  | insert msg' rp' sp' =>
    rw [hc] at hid hinv
    obtain ⟨rfl, rfl, rfl⟩ : msg' = msg ∧ rp' = rp ∧ sp' = sp := by
      simpa [PersistCall.allocated?] using hid
    exact hinv
  | returned msg' alloc res =>
    rw [hc] at hid hinv
    cases alloc with
    | none => cases hid
    | some p =>
      obtain ⟨rfl, rfl⟩ : msg' = msg ∧ p = (rp, sp) := by
        simpa [PersistCall.allocated?] using hid
      exact hinv
  | _ =>
    rw [hc] at hid
    cases hid

/-- Everything on connection `0`, and a replica that keeps up. -/
def coveredRun : List (Service.Event Choice Event) :=
  [.invoke 0 ⟨"alice", "bob", "hi", 0⟩, .redis 0 (.incr 0 .executed), .redis 0 (.incr 0 .executed),
    .env (.ack 0), .env (.ack 0), .redis 0 (.wait 0 none)]

/-- A covered `WAIT`, whose call then goes on to its `INSERT`. -/
theorem allDurable_coveredRun : ∃ s,
    (pooledService 1).run (pooledService 1).init coveredRun = some s ∧
    s.calls 0 = .insert ⟨"alice", "bob", "hi", 0⟩ 1 1 ∧ AllDurable s :=
  ⟨_, rfl, rfl, @allDurable 1 coveredRun _ rfl (.of_check (by decide))⟩

end Pooled

end TinyTelegram.MessageService
