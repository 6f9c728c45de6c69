import Mathlib.Data.Set.Basic
import TinyTelegram.Gateway.Equiv.Routing

/-!
# Several connections of a user

`connMap` has one channel for each user, and presence one gateway.  A message for a user is put into
that channel only, and the sender's other connections are not told of it, so of two tabs of a user one
gets nothing (`not_fanOut`).

`Named` is the condition for the open connections of a user to miss nothing: each of them is the one
that a lookup finds, and the one that reads the user's frames.  Then a message for the user is always on
its way to each of them (`due`), and is there once it has settled (`fanOut_of_due`).
-/

namespace TinyTelegram.Gateway

namespace Cluster

open MessageService (Redis CallId)

variable {ρ χ ε : Type} {R : Redis ρ χ ε} {addr : GwId → String}

/-! ### The assumptions -/

/-- Connection `c` of the user `u` is registered, and its read loop runs. -/
def OpenFor (s : State ρ) (u : String) (c : ConnId) : Prop :=
  ∃ g, s.sockets c = some ⟨g, u⟩ ∧ (s.gateways g).conns c = .registered u

/-- The event is a step of an RPC. -/
def ofRpc : Event χ ε → Bool
  | .peer _ _ => true
  | _ => false

/-- Nothing fails, also no RPC by a panic, and no channel is full. -/
structure NoFailure (s : State ρ) (e : Event χ ε) : Prop where
  succeeds : succeeds e = true
  executed : ofRpc e = true → ∀ d ∈ sent? s e, ((s.gateways d.1).chans d.2.1).closedBy = none
  room : ∀ d ∈ sent? s e, ((s.gateways d.1).chans d.2.1).buf.length < Registry.capacity

instance (s : State ρ) (e : Event χ ε) : Decidable (NoFailure s e) :=
  decidable_of_iff (_ ∧ _ ∧ _) ⟨fun h => ⟨h.1, h.2.1, h.2.2⟩, fun h => ⟨h.1, h.2, h.3⟩⟩

/-- For the connections `O` of `u`: when a message for `u` is routed, presence names a gateway, and the
lookup there finds each of them; the channel is not closed when the message is sent; and a message of
`u` that is not for `u` was sent on each of them. -/
structure Named (u : String) (O : Set ConnId) (s : State ρ) (e : Event χ ε) : Prop where
  located : ∀ r m answer, located? s e = some (r, m, answer) → m.isReceiver u = true → O.Nonempty →
    answer.getD "" ≠ ""
  lookedUp : ∀ g r m, lookedUp? s e = some (g, r, m) → m.isReceiver u = true →
    ∀ c ∈ O, (s.gateways g).connMap u = some c
  sent : ∀ g ch m, sent? s e = some (g, ch, m) → m.isReceiver u = true → O.Nonempty →
    ((s.gateways g).chans ch).closedBy = none
  handed : ∀ k m, e = .handler k .persisted → returned? s k = some m → m.isSender u = true →
    ∀ c ∈ O, c = k ∨ m.isReceiver u = true

/-- The message is on its way to a channel no more, and none of the connections `O` has it still to
write. -/
structure Settled (s : State ρ) (O : Set ConnId) (m : PersistedMessage) : Prop where
  passed : ¬ Underway s m
  written : ∀ c ∈ O, (∀ g, m ∉ ((s.gateways g).chans c).buf) ∧ s.writers c ≠ .writing m

/-- What `u` has coming of the message `m`: it is written to each of the connections `O` if `u` is the
receiver, and if `u` is the sender, it or its acknowledgement is. -/
def FanOut (s : State ρ) (u : String) (O : Set ConnId) (m : PersistedMessage) : Prop :=
  ∀ c ∈ O, (m.isReceiver u = true → .message m ∈ s.out c) ∧
    (m.isSender u = true → .message m ∈ s.out c ∨ ackFrame m ∈ s.out c)

/-- A message is in one place. -/
theorem held_unique {s : State ρ} {l l' : Place} {m : PersistedMessage}
    (hs : (cluster R addr).Reachable s) (hm : m ∈ held s l) (hm' : m ∈ held s l') : l = l' :=
  (sound hs).linear.place_unique _ _ _ (List.mem_map_of_mem hm) (List.mem_map_of_mem hm')

theorem mem_held_writer {s : State ρ} {c : ConnId} {m : PersistedMessage}
    (hm : s.writers c = .writing m) : m ∈ held s (.writer c) := by
  simp [held, hm, writerHeld]

/-- A message that two connections are to have is on one of them only. -/
theorem FanOut.subsingleton {s : State ρ} {u : String} {O : Set ConnId} {m : PersistedMessage}
    (hs : (cluster R addr).Reachable s) (h : FanOut s u O m) (hu : m.isReceiver u = true) :
    O.Subsingleton := by
  intro c hc c' hc'
  have hout := mem_held_socket.mpr ((h c hc).1 hu)
  have hout' := mem_held_socket.mpr ((h c' hc').1 hu)
  exact Place.socket.inj (held_unique hs hout hout')

/-- A message on a socket has settled. -/
theorem settled_of_mem_out {s : State ρ} {c : ConnId} {m : PersistedMessage} {O : Set ConnId}
    (hs : (cluster R addr).Reachable s) (hm : .message m ∈ s.out c) : Settled s O m where
  passed := by
    rintro ⟨l, hl⟩
    have hplace := held_unique hs (held_of_carried hl) (mem_held_socket.mpr hm)
    cases l <;> cases hplace
  written k hk := by
    refine ⟨fun g hbuf => ?_, fun hwriting => ?_⟩
    · cases held_unique hs (l := .gateway g (.buffer k)) hbuf (mem_held_socket.mpr hm)
    · cases held_unique hs (mem_held_writer hwriting) (mem_held_socket.mpr hm)

/-! ### The failing schedule -/

/-- A user opens a WebSocket to gateway 0. -/
def opening (c : ConnId) (u : String) : List CounterEvent :=
  [.connect c 0 u, .handler c (.registerUser true), .handler c .registerConn]

/-- Alice writes to Bob on connection 0, and the message is written to connection 3. -/
def hiRun : List CounterEvent :=
  [.handler 0 (.frame (some ⟨"bob", "hi"⟩) 0 5), .service (.redis 0 (.incr .executed)),
    .service (.redis 0 (.incr .executed)), .service (.redis 0 (.wait (.ok 1))),
    .service (.insert 0 "m" 7 8 .executed), .handler 0 .persisted, .handler 0 (.ack true true),
    .handler 0 (.locate false 0), .handler 0 .lookup, .handler 0 .send, .writer 3 .receive,
    .writer 3 (.write true true)]

/-- Alice has the tabs 0 and 1, and Bob the tabs 2 and 3. -/
def fourTabs : List CounterEvent :=
  opening 0 "alice" ++ opening 1 "alice" ++ opening 2 "bob" ++ opening 3 "bob"

/-- **Alice's other tab and Bob's first tab get nothing.** -/
theorem not_fanOut : ∃ (s₀ s : CounterState) (m : PersistedMessage),
    (counterCluster fun _ => "gateway:50051").run (counterCluster fun _ => "gateway:50051").init
      fourTabs = some s₀ ∧
    (counterCluster fun _ => "gateway:50051").run s₀ hiRun = some s ∧
    (∀ c ∈ ({0, 1} : Set ConnId), OpenFor s₀ "alice" c ∧ OpenFor s "alice" c) ∧
    (∀ c ∈ ({2, 3} : Set ConnId), OpenFor s₀ "bob" c ∧ OpenFor s "bob" c) ∧
    (counterCluster fun _ => "gateway:50051").Meets NoFailure
      (counterCluster fun _ => "gateway:50051").init (fourTabs ++ hiRun) ∧
    .handed m ∈ (counterCluster fun _ => "gateway:50051").observe milestone? s₀ hiRun ∧
    (∀ O, Settled s O m) ∧ ¬ FanOut s "alice" {0, 1} m ∧ ¬ FanOut s "bob" {2, 3} m := by
  let m : PersistedMessage := ⟨"m", some ⟨"alice", "bob", "hi", 5⟩, 1, 1, 8⟩
  obtain ⟨s₀, s, hs₀, hs, hopen, hfail, hm, hout, hnone⟩ : ∃ (s₀ s : CounterState),
      (counterCluster fun _ => "gateway:50051").run (counterCluster fun _ => "gateway:50051").init
        fourTabs = some s₀ ∧
      (counterCluster fun _ => "gateway:50051").run s₀ hiRun = some s ∧
      ((∀ c ∈ ({0, 1} : Set ConnId), OpenFor s₀ "alice" c ∧ OpenFor s "alice" c) ∧
        ∀ c ∈ ({2, 3} : Set ConnId), OpenFor s₀ "bob" c ∧ OpenFor s "bob" c) ∧
      (counterCluster fun _ => "gateway:50051").Meets NoFailure
        (counterCluster fun _ => "gateway:50051").init (fourTabs ++ hiRun) ∧
      .handed m ∈ (counterCluster fun _ => "gateway:50051").observe milestone? s₀ hiRun ∧
      s.out 3 = [.message m] ∧ s.out 1 = [] ∧ s.out 2 = [] := by
    refine ⟨_, _, rfl, rfl, ⟨?_, ?_⟩, .of_check (by decide +kernel), by decide +kernel, rfl, rfl, rfl⟩
    · rintro c (rfl | rfl)
      · exact ⟨⟨0, rfl, rfl⟩, ⟨0, rfl, rfl⟩⟩
      · exact ⟨⟨0, rfl, rfl⟩, ⟨0, rfl, rfl⟩⟩
    · rintro c (rfl | rfl)
      · exact ⟨⟨0, rfl, rfl⟩, ⟨0, rfl, rfl⟩⟩
      · exact ⟨⟨0, rfl, rfl⟩, ⟨0, rfl, rfl⟩⟩
  have hreach : (counterCluster fun _ => "gateway:50051").Reachable s :=
    Lts.System.Reachable.run ⟨fourTabs, hs₀⟩ hs
  refine ⟨s₀, s, m, hs₀, hs, hopen.1, hopen.2, hfail, hm, ?_, ?_, ?_⟩
  · exact fun O => settled_of_mem_out hreach (by rw [hout]; exact List.mem_singleton_self _)
  · intro h
    rcases (h 1 (by simp)).2 rfl with hm | hm
    · rw [hnone.1] at hm
      exact absurd hm List.not_mem_nil
    · rw [hnone.1] at hm
      exact absurd hm List.not_mem_nil
  · intro h
    have hm := (h 2 (by simp)).1 rfl
    rw [hnone.2] at hm
    exact absurd hm List.not_mem_nil

/-! ### One message and one connection -/

/-- The message is on its way to connection `c`, or written to it. -/
inductive Coming (s : State ρ) (m : PersistedMessage) (c : ConnId) : Prop where
  | leg {l} (hl : carried? s l = some m) (hch : ∀ g caller ch, l = .inFlight g caller ch → ch = c)
  | buffer {g} (hm : m ∈ ((s.gateways g).chans c).buf)
  | writer (hm : s.writers c = .writing m)
  | socket (hm : .message m ∈ s.out c)

section Steps

variable {s t : State ρ} {e : Event χ ε} {m : PersistedMessage} {c : ConnId}

/-- What is written stays written. -/
theorem mem_out_step (h : Step R addr s e t) {frame : Frame} (hm : frame ∈ s.out c) :
    frame ∈ t.out c := by
  rcases out_step h c with hsame | ⟨frame', hnew, -⟩
  · rw [hsame]
    exact hm
  · rw [hnew]
    exact List.mem_append_left _ hm

theorem out_write (s : State ρ) (c : ConnId) (frame : Frame) :
    frame ∈ (s.write c frame true).out c := by
  simp [State.write]

/-- Connection `c` has been registered. -/
def Registered (s : State ρ) (c : ConnId) : Prop :=
  ∃ g u, s.sockets c = some ⟨g, u⟩ ∧ ((s.gateways g).conns c).user? = some u

theorem OpenFor.registered {u : String} (h : OpenFor s u c) : Registered s c := by
  obtain ⟨g, hs, hc⟩ := h
  exact ⟨g, u, hs, by rw [hc]; rfl⟩

theorem Registered.step (h : Step R addr s e t) (hc : Registered s c) : Registered t c := by
  obtain ⟨g, u, hs, hu⟩ := hc
  refine ⟨g, u, socket_step h hs, ?_⟩
  rcases gateway_step h with hsame | ⟨g', e', x, hx, hgw, -⟩
  · rw [hsame]
    exact hu
  · rw [hgw, Function.update_apply]
    split_ifs with hg
    · subst hg
      exact Registry.user?_mono hx hu
    · exact hu

/-- A writer goes on with its message until it has written it. -/
theorem writing_step (h : Step R addr s e t) (hsucceeds : succeeds e = true) (hc : Registered s c)
    (hm : s.writers c = .writing m) : t.writers c = .writing m ∨ .message m ∈ t.out c := by
  cases writerTurn h c with
  | same hsame => exact Or.inl (hsame.trans hm)
  | started hs hx =>
    obtain ⟨g, u, hs', hu⟩ := hc
    obtain rfl := Option.some.inj (hs.symm.trans hs')
    obtain ⟨-, hstep⟩ := Registry.step_cases hx
    cases hstep with
    | register hfresh =>
      rw [hfresh] at hu
      cases hu
  | received hs hw =>
    rw [hm] at hw
    cases hw
  | drained hs hw =>
    rw [hm] at hw
    cases hw
  | @written m' arrives ok he hw hout =>
    rw [hm] at hw
    cases hw
    subst he
    obtain ⟨rfl, -⟩ : arrives = true ∧ ok = true := Bool.and_eq_true_iff.mp hsucceeds
    refine Or.inr ?_
    rw [hout rfl]
    exact List.mem_append_right _ (List.mem_singleton_self _)

/-- The write of an acknowledgement that succeeds. -/
theorem ok_of_succeeds {ok : Bool} (hm : milestone? s e = some (.acked m ok))
    (hsucceeds : succeeds e = true) : ok = true := by
  rcases milestone_cases hm with ⟨_, _, -, -, heq⟩ | ⟨k, arrives, _, _, rfl, -, heq⟩ | ⟨_, _, _, -, heq⟩
  · cases heq
  · cases heq
    exact (Bool.and_eq_true_iff.mp hsucceeds).2
  · cases heq

theorem enqueued?_of_milestone {g : GwId} {ch : ConnId}
    (hm : milestone? s e = some (.enqueued g ch m)) : enqueued? s e = some (g, ch, m) := by
  rcases milestone_cases hm with ⟨_, _, -, -, heq⟩ | ⟨_, _, _, _, -, -, heq⟩ | ⟨_, _, _, he, heq⟩
  · cases heq
  · cases heq
  · cases heq
    exact he

/-- **One step** keeps a message coming. -/
theorem Coming.step (hs : (cluster R addr).Reachable s) (hstep : Step R addr s e t)
    (hsucceeds : succeeds e = true) (hloss : ¬ Loss s e m)
    (hlookup : ∀ g r, lookedUp? s e = some (g, r, m) → (s.gateways g).connMap r = some c)
    (hc : Registered s c) (h : Coming s m c) : Coming t m c := by
  cases h with
  | @leg l hl hch =>
    have hsame : carried? t l = carried? s l → Coming t m c := fun h => .leg (h.trans hl) hch
    -- a leg that the step finds empty is not the message's
    have hempty : ∀ {k}, carried? s k = none → l ≠ k := by
      rintro k hk rfl
      rw [hk] at hl
      cases hl
    have hunique : ∀ {k m'}, l = k → carried? s k = some m' → m = m' := by
      rintro k m' rfl hk
      exact Option.some.inj (hl.symm.trans hk)
    cases passage hs hstep with
    | same hnone ht => exact hsame (by rw [ht])
    | @handed k m' incoming call msg alloc hm hk hret ht =>
      have hne : l ≠ .acking k := hempty (by simp [carried?, hk, acking?])
      exact hsame (by rw [ht, Function.update_of_ne hne])
    | @acked k m' ok hm hfrom hto ht =>
      by_cases hlk : l = .acking k
      · obtain rfl := hunique hlk hfrom
        obtain rfl := ok_of_succeeds hm hsucceeds
        exact .leg (l := .routing k) (by rw [ht, Function.update_self, if_pos rfl]) (by simp)
      · exact hsame (by rw [ht, Function.update_of_ne (hempty hto), Function.update_of_ne hlk])
    | @called k p m' hnone hfrom hto ht =>
      by_cases hlk : l = .routing k
      · obtain rfl := hunique hlk hfrom
        exact .leg (l := .peer p) (by rw [ht, Function.update_self]) (by simp)
      · exact hsame (by rw [ht, Function.update_of_ne (hempty hto), Function.update_of_ne hlk])
    | @lookedUp l' g caller r ch m' hnone hl' hfrom hlooked hmap hto ht =>
      by_cases hlk : l = l'
      · obtain rfl := hunique hlk hfrom
        obtain rfl : ch = c := Option.some.inj (hmap.symm.trans (hlookup g r hlooked))
        refine .leg (l := .inFlight g caller ch) (by rw [ht, Function.update_self]) ?_
        rintro _ _ _ ⟨⟩
        rfl
      · exact hsame (by rw [ht, Function.update_of_ne (hempty hto), Function.update_of_ne hlk])
    | @enqueued g caller ch m' hm hfrom ht =>
      by_cases hlk : l = .inFlight g caller ch
      · obtain rfl := hunique hlk hfrom
        obtain rfl := hch g caller ch hlk
        exact .buffer (mem_buffer_of_enqueued hstep (enqueued?_of_milestone hm))
      · exact hsame (by rw [ht, Function.update_of_ne hlk])
    | @lost l' m' hnone hl' hfrom hlost ht =>
      by_cases hlk : l = l'
      · obtain rfl := hunique hlk hfrom
        exact absurd hlost hloss
      · exact hsame (by rw [ht, Function.update_of_ne hlk])
  | buffer hm =>
    rcases mem_buffer_step hstep hm with hm | hm
    · exact .buffer hm
    · exact .writer hm
  | writer hm =>
    rcases writing_step hstep hsucceeds hc hm with hm | hm
    · exact .writer hm
    · exact .socket hm
  | socket hm => exact .socket (mem_out_step hstep hm)

/-- An acknowledgement that is written is on the socket. -/
theorem mem_out_of_ack {ok : Bool} (h : Step R addr s (.handler c (.ack true ok)) t)
    (hm : acking? (s.handlers c) = some m) : ackFrame m ∈ t.out c := by
  cases h with
  | ack hs hc =>
    rw [hc] at hm
    cases hm
    exact out_write s c (ackFrame m)

/-- A message stays to be acknowledged until it is. -/
theorem acking_step (hs : (cluster R addr).Reachable s) (hstep : Step R addr s e t)
    (hsucceeds : succeeds e = true) (hm : carried? s (.acking c) = some m) :
    carried? t (.acking c) = some m ∨ ackFrame m ∈ t.out c := by
  have hsame : carried? t (.acking c) = carried? s (.acking c) →
      carried? t (.acking c) = some m ∨ ackFrame m ∈ t.out c := fun h => Or.inl (h.trans hm)
  cases passage hs hstep with
  | same hnone ht => exact hsame (by rw [ht])
  | @handed k m' incoming call msg alloc _ hk hret ht =>
    have hne : Leg.acking c ≠ .acking k := by
      rintro ⟨⟩
      simp [carried?, hk, acking?] at hm
    exact hsame (by rw [ht, Function.update_of_ne hne])
  | @acked k m' ok hacked hfrom hto ht =>
    by_cases hck : c = k
    · subst hck
      obtain rfl : m = m' := Option.some.inj (hm.symm.trans hfrom)
      rcases milestone_cases hacked with ⟨_, _, -, -, heq⟩ | ⟨k, arrives, _, _, rfl, hk, heq⟩ |
        ⟨_, _, _, -, heq⟩
      · cases heq
      · cases heq
        obtain ⟨rfl, -⟩ : arrives = true ∧ ok = true := Bool.and_eq_true_iff.mp hsucceeds
        have hcarried : carried? s (.acking k) = some m := hk
        obtain ⟨⟨⟩, -⟩ := carried_unique hs hcarried hm rfl
        exact Or.inr (mem_out_of_ack hstep hk)
      · cases heq
    · exact hsame (by rw [ht, Function.update_of_ne (by simp), Function.update_of_ne (by simpa using hck)])
  | called hnone hfrom hto ht =>
    exact hsame (by rw [ht, Function.update_of_ne (by simp), Function.update_of_ne (by simp)])
  | lookedUp hnone hl hfrom hlookup hch hto ht =>
    exact hsame (by rw [ht, Function.update_of_ne (by simp), Function.update_of_ne (hl c).symm])
  | enqueued _ hfrom ht => exact hsame (by rw [ht, Function.update_of_ne (by simp)])
  | lost hnone hl hfrom hloss ht => exact hsame (by rw [ht, Function.update_of_ne (hl c).symm])

/-! ### The condition -/

theorem receiver_unique {u v : String} (hu : m.isReceiver u = true) (hv : m.isReceiver v = true) :
    u = v := by
  unfold PersistedMessage.isReceiver at hu hv
  cases hmsg : m.message with
  | none =>
    rw [hmsg] at hu
    cases hu
  | some msg =>
    rw [hmsg, Option.any_some, decide_eq_true_eq] at hu hv
    exact hu.symm.trans hv

/-- A message is looked up under its receiver. -/
theorem receiver_of_lookedUp (hs : (cluster R addr).Reachable s) {g : GwId} {r : String}
    (h : lookedUp? s e = some (g, r, m)) : m.isReceiver r = true := by
  unfold lookedUp? at h
  split at h
  · rename_i c
    split at h
    · rename_i r' m' hc
      obtain ⟨sock, -, heq⟩ := Option.map_eq_some_iff.mp h
      cases heq
      exact (wired hs).receiver c r m (by rw [hc]; rfl)
    · cases h
  · split at h
    · obtain ⟨msg, hmsg, heq⟩ := Option.map_eq_some_iff.mp h
      cases heq
      simp [PersistedMessage.isReceiver, hmsg]
    · cases h
  · cases h

variable {u : String} {O : Set ConnId}

/-- A step that succeeds, and finds room for the message in the channels of `O`. -/
structure Passes (O : Set ConnId) (m : PersistedMessage) (s : State ρ) (e : Event χ ε) : Prop where
  succeeds : succeeds e = true
  room : ∀ g ch, sent? s e = some (g, ch, m) → ch ∈ O →
    ((s.gateways g).chans ch).buf.length < Registry.capacity

theorem NoFailure.passes (h : NoFailure s e) : Passes O m s e := ⟨h.succeeds, fun _ _ hl _ => h.room _ hl⟩

/-- A message that is coming to a connection is sent to no other channel. -/
theorem Coming.eq_of_sent (hs : (cluster R addr).Reachable s) (h : Coming s m c) {g : GwId}
    {ch : ConnId} (hsent : sent? s e = some (g, ch, m)) : ch = c := by
  obtain ⟨caller, hl⟩ := carried_of_sent hsent
  cases h with
  | leg hk hch =>
    obtain ⟨rfl, -⟩ := carried_unique hs hk hl rfl
    exact hch g caller ch rfl
  | @buffer g' hm => cases held_unique hs (l := .gateway g' (.buffer c)) hm (held_of_carried hl)
  | writer hm => cases held_unique hs (mem_held_writer hm) (held_of_carried hl)
  | socket hm => cases held_unique hs (mem_held_socket.mpr hm) (held_of_carried hl)

/-- What the lookup finds for a message to `u`. -/
theorem Named.lookup (hs : (cluster R addr).Reachable s) (h : Named u O s e)
    (hu : m.isReceiver u = true) (hc : c ∈ O) {g : GwId} {r : String}
    (hlooked : lookedUp? s e = some (g, r, m)) : (s.gateways g).connMap r = some c := by
  rw [← receiver_unique hu (receiver_of_lookedUp hs hlooked)]
  exact h.lookedUp g r m hlooked hu c hc

/-- No message to `u` is lost. -/
theorem Named.no_loss (hs : (cluster R addr).Reachable s) (h : Named u O s e) (hpasses : Passes O m s e)
    (hu : m.isReceiver u = true) (hc : c ∈ O) (hcoming : Coming s m c) : ¬ Loss s e m := by
  intro hloss
  cases hloss with
  | nowhere hl hnone => exact h.located _ _ _ hl hu ⟨c, hc⟩ hnone
  | unregistered hl hnone =>
    have hfound := h.lookup hs hu hc hl
    rw [hnone] at hfound
    cases hfound
  | refused hl hnot =>
    obtain rfl := hcoming.eq_of_sent hs hl
    exact hnot ⟨h.sent _ _ _ hl hu ⟨_, hc⟩, hpasses.room _ _ hl hc⟩
  | failed hp he =>
    have hsucceeds := hpasses.succeeds
    rw [he] at hsucceeds
    cases hsucceeds

/-- The message that a handler is handed is the one it is to acknowledge. -/
theorem carried_of_handed (h : Step R addr s (.handler c .persisted) t) (hm : returned? s c = some m) :
    carried? t (.acking c) = some m := by
  cases h with
  | persisted hs hc hret =>
    simp only [returned?, hc, hret, Option.some.injEq] at hm
    subst hm
    show acking? (Function.update s.handlers c _ c) = some _
    rw [Function.update_self]
    rfl

end Steps

theorem Registered.run {s₀ s : State ρ} {es : List (Event χ ε)} {c : ConnId}
    (h : (cluster R addr).run s₀ es = some s) (hc : Registered s₀ c) : Registered s c :=
  Lts.System.run_rel (S := cluster R addr) (R := fun s t => Registered s c → Registered t c)
    (fun _ hc => hc) (fun hst htu hc => htu (hst hc)) (fun _ _ _ hstep => .step (step_cases hstep)) h hc

/-- What there is of a message for connection `c` of `u`, once it was handed to its handler: it is
coming if it is for `u`; and if it is of `u` and for somebody else, its acknowledgement is. -/
structure Due (s : State ρ) (u : String) (m : PersistedMessage) (c : ConnId) : Prop where
  received : m.isReceiver u = true → Coming s m c
  sent : m.isSender u = true →
    m.isReceiver u = true ∨ carried? s (.acking c) = some m ∨ ackFrame m ∈ s.out c

section Due

variable {s t : State ρ} {e : Event χ ε} {m : PersistedMessage} {c : ConnId} {u : String}
  {O : Set ConnId}

/-- A message that its handler is handed is due to all connections of its users. -/
theorem due_of_handed (hstep : Step R addr s e t) (hnamed : Named u O s e) (hc : c ∈ O)
    (hm : milestone? s e = some (.handed m)) : Due t u m c := by
  rcases milestone_cases hm with ⟨k, _, rfl, hret, heq⟩ | ⟨_, _, _, _, -, -, heq⟩ | ⟨_, _, _, -, heq⟩
  · cases heq
    have hcarried := carried_of_handed hstep hret
    refine ⟨fun _ => .leg hcarried (by simp), fun hu => ?_⟩
    rcases hnamed.handed k m rfl hret hu c hc with rfl | hu
    · exact Or.inr (Or.inl hcarried)
    · exact Or.inl hu
  · cases heq
  · cases heq

/-- **One step**. -/
theorem Due.step (hs : (cluster R addr).Reachable s) (hstep : Step R addr s e t)
    (hpasses : Passes O m s e) (hnamed : Named u O s e) (hc : c ∈ O) (hregistered : Registered s c)
    (h : Due s u m c) : Due t u m c where
  received hu := (h.received hu).step hs hstep hpasses.succeeds
    (hnamed.no_loss hs hpasses hu hc (h.received hu)) (fun _ _ => hnamed.lookup hs hu hc) hregistered
  sent hu := by
    rcases h.sent hu with hu | hm | hm
    · exact Or.inl hu
    · exact Or.inr (acking_step hs hstep hpasses.succeeds hm)
    · exact Or.inr (Or.inr (mem_out_step hstep hm))

end Due

/-- **What is due** after a run that passes the message on, and in which the connections are named. -/
theorem due {s₀ s : State ρ} {es : List (Event χ ε)} {u : String} {O : Set ConnId}
    {m : PersistedMessage} (hs₀ : (cluster R addr).Reachable s₀)
    (h : (cluster R addr).run s₀ es = some s) (hO : ∀ c ∈ O, OpenFor s₀ u c)
    (hpasses : (cluster R addr).Meets (Passes O m) s₀ es)
    (hnamed : (cluster R addr).Meets (Named u O) s₀ es)
    (hm : .handed m ∈ (cluster R addr).observe milestone? s₀ es) : ∀ c ∈ O, Due s u m c := by
  revert hm
  refine (hpasses.and hnamed).run_induction
    (motive := fun es s => .handed m ∈ (cluster R addr).observe milestone? s₀ es →
      ∀ c ∈ O, Due s u m c) ?_ ?_ h
  · intro hm
    exact absurd hm List.not_mem_nil
  · rintro es s e t hs _ ih ⟨hpasses, hnamed⟩ hstep hm c hc
    rw [Lts.System.observe_concat _ hs, List.mem_append, Option.mem_toList] at hm
    rcases hm with hm | hm
    · exact (ih hm c hc).step (hs₀.run hs) (step_cases hstep) hpasses hnamed hc
        ((hO c hc).registered.run hs)
    · exact due_of_handed (step_cases hstep) hnamed hc hm

/-- A message that has settled and is coming to a connection is on its socket. -/
theorem Coming.mem_out {s : State ρ} {O : Set ConnId} {m : PersistedMessage} {c : ConnId}
    (h : Coming s m c) (hsettled : Settled s O m) (hc : c ∈ O) : .message m ∈ s.out c := by
  cases h with
  | leg hl hch => exact absurd ⟨_, hl⟩ hsettled.passed
  | buffer hm => exact absurd hm ((hsettled.written c hc).1 _)
  | writer hm => exact absurd hm (hsettled.written c hc).2
  | socket hm => exact hm

/-- What is due is there, once the message has settled. -/
theorem fanOut_of_due {s : State ρ} {u : String} {O : Set ConnId} {m : PersistedMessage}
    (h : ∀ c ∈ O, Due s u m c) (hsettled : Settled s O m) : FanOut s u O m := by
  intro c hc
  have hreceived : m.isReceiver u = true → .message m ∈ s.out c :=
    fun hu => ((h c hc).received hu).mem_out hsettled hc
  refine ⟨hreceived, fun hu => ?_⟩
  rcases (h c hc).sent hu with hu | hl | hack
  · exact Or.inl (hreceived hu)
  · exact absurd ⟨_, hl⟩ hsettled.passed
  · exact Or.inr hack

end Cluster

end TinyTelegram.Gateway
