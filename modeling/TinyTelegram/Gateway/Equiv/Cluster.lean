import TinyTelegram.Gateway.Cluster
import TinyTelegram.Gateway.Equiv.Registry
import TinyTelegram.MessageService.Equiv.Service

/-!
# What the cluster can do

`Step` lists the effects of an event with what each requires, and `step_cases` says that the cluster
takes no other steps.

The message service and the registries of a cluster are components of it (`serviceComponent`,
`gatewayComponent`), so in every state reached they are in states that they reach alone, and what is known
of these holds here.

How the handlers go with them is `Wired`: a connection is registered with the gateway and the user of
its socket, a handler waits for a call that was made with the frame it has read, and no other handler
waits for it.  What a step does to a handler and to a writer is `Turn` and `WriterTurn`.
-/

namespace TinyTelegram.Gateway

namespace Cluster

open MessageService (Redis CallId)

variable {ρ χ ε : Type} {R : Redis ρ χ ε} {addr : GwId → String}

/-! ### Steps -/

/-- A value that an update with something else leaves was there before. -/
theorem eq_of_update_eq {α β : Type} [DecidableEq α] {f : α → β} {a b : α} {x y : β} (hx : x ≠ y)
    (h : Function.update f a x b = y) : f b = y := by
  rw [Function.update_apply] at h
  split_ifs at h
  · exact absurd h hx
  · exact h

/-- The effects of an event in the state `s`. -/
inductive Step (R : Redis ρ χ ε) (addr : GwId → String) (s : State ρ) :
    Event χ ε → State ρ → Prop where
  | connect {c g u p} (hnew : s.sockets c = none)
      (hp : presence.step s.presence (.connect c u (addr g)) = some p) :
      Step R addr s (.connect c g u)
        (((s.setPresence p).upgrade c ⟨g, u⟩).setHandler c .registering)
  | registerUser {c sock ok p} (hs : s.sockets c = some sock) (hc : s.handlers c = .registering)
      (hp : presence.step s.presence (.set c ok) = some p) :
      Step R addr s (.handler c (.registerUser ok)) ((s.setPresence p).setHandler c .connecting)
  | registerConn {c sock x} (hs : s.sockets c = some sock) (hc : s.handlers c = .connecting)
      (hx : registry.step (s.gateways sock.gw) (.register c sock.user) = some x) :
      Step R addr s (.handler c .registerConn)
        (((s.setGateway sock.gw x).setWriter c .waiting).setHandler c .reading)
  | ignore {c sock raw call now} (hs : s.sockets c = some sock) (hc : s.handlers c = .reading)
      (hraw : checkIncoming raw = none) :
      Step R addr s (.handler c (.frame raw call now)) s
  | frame {c sock raw incoming call now x} (hs : s.sockets c = some sock)
      (hc : s.handlers c = .reading) (hraw : checkIncoming raw = some incoming)
      (hx : (MessageService.Service.system R).step s.service
        (.invoke call (chatMessage sock.user incoming now)) = some x) :
      Step R addr s (.handler c (.frame raw call now))
        ((s.setService x).setHandler c (.persisting incoming call))
  | persisted {c sock incoming call msg alloc m} (hs : s.sockets c = some sock)
      (hc : s.handlers c = .persisting incoming call)
      (hm : s.service.calls call = .returned msg alloc (.ok m)) :
      Step R addr s (.handler c .persisted) (s.setHandler c (.acking incoming.receiverId m))
  | persistFailed {c sock incoming call} (hs : s.sockets c = some sock)
      (hc : s.handlers c = .persisting incoming call) :
      Step R addr s (.handler c .persistFailed) (s.setHandler c .reading)
  | ack {c sock receiverID m arrives ok} (hs : s.sockets c = some sock)
      (hc : s.handlers c = .acking receiverID m) :
      Step R addr s (.handler c (.ack arrives ok)) ((s.write c (ackFrame m) arrives).setHandler c
        (if ok then .locating receiverID m else .reading))
  | locateNowhere {c sock receiverID m fail p} (hs : s.sockets c = some sock)
      (hc : s.handlers c = .locating receiverID m)
      (hroute : route (addr sock.gw)
        (if fail then none else s.presence.getUserGateway receiverID) = .nowhere) :
      Step R addr s (.handler c (.locate fail p)) (s.setHandler c .reading)
  | locateHere {c sock receiverID m fail p} (hs : s.sockets c = some sock)
      (hc : s.handlers c = .locating receiverID m)
      (hroute : route (addr sock.gw)
        (if fail then none else s.presence.getUserGateway receiverID) = .here) :
      Step R addr s (.handler c (.locate fail p)) (s.setHandler c (.delivering receiverID m))
  | locatePeer {c sock receiverID m fail p target} (hs : s.sockets c = some sock)
      (hc : s.handlers c = .locating receiverID m) (hp : s.peers p = .idle)
      (hroute : route (addr sock.gw)
        (if fail then none else s.presence.getUserGateway receiverID) = .peer target) :
      Step R addr s (.handler c (.locate fail p))
        ((s.setPeer p (.calling target m)).setHandler c .reading)
  | lookup {c sock receiverID m x} (hs : s.sockets c = some sock)
      (hc : s.handlers c = .delivering receiverID m)
      (hx : registry.step (s.gateways sock.gw) (.lookup (.readLoop c) receiverID m) = some x) :
      Step R addr s (.handler c .lookup) ((s.setGateway sock.gw x).setHandler c
        (if (x.delivering (.readLoop c)).isSome then .sending else .reading))
  | send {c sock x p} (hs : s.sockets c = some sock) (hc : s.handlers c = .sending)
      (hx : registry.step (s.gateways sock.gw) (.send (.readLoop c)) = some x)
      (hp : unwound x c s.presence = some p) :
      Step R addr s (.handler c .send)
        (((s.setGateway sock.gw x).setPresence p).setHandler c (afterSend x c))
  | hangUp {c sock x p} (hs : s.sockets c = some sock) (hc : s.handlers c = .reading)
      (hx : registry.step (s.gateways sock.gw) (.hangUp c) = some x)
      (hp : presence.step s.presence (.stop c) = some p) :
      Step R addr s (.handler c .hangUp)
        (((s.setGateway sock.gw x).setPresence p).setHandler c .closing)
  | unregisterConn {c sock x} (hs : s.sockets c = some sock) (hc : s.handlers c = .closing)
      (hx : registry.step (s.gateways sock.gw) (.unregister c) = some x) :
      Step R addr s (.handler c .unregisterConn)
        ((s.setGateway sock.gw x).setHandler c .unregistering)
  | unregisterUser {c sock ok p} (hs : s.sockets c = some sock)
      (hc : s.handlers c = .unregistering)
      (hp : presence.step s.presence (.del c ok) = some p) :
      Step R addr s (.handler c (.unregisterUser ok)) ((s.setPresence p).setHandler c .closed)
  | receive {c sock m buf x} (hs : s.sockets c = some sock) (hc : s.writers c = .waiting)
      (hbuf : ((s.gateways sock.gw).chans c).buf = m :: buf)
      (hx : registry.step (s.gateways sock.gw) (.receive c) = some x) :
      Step R addr s (.writer c .receive) ((s.setGateway sock.gw x).setWriter c (.writing m))
  | drained {c sock} (hs : s.sockets c = some sock) (hc : s.writers c = .waiting)
      (hclosed : ((s.gateways sock.gw).chans c).closedBy.isSome)
      (hempty : ((s.gateways sock.gw).chans c).buf = []) :
      Step R addr s (.writer c .drained) (s.setWriter c .stopped)
  | write {c sock m arrives ok} (hs : s.sockets c = some sock) (hc : s.writers c = .writing m) :
      Step R addr s (.writer c (.write arrives ok))
        ((s.write c (.message m) arrives).setWriter c (if ok then .waiting else .stopped))
  | deliverNothing {p g target m} (hp : s.peers p = .calling target m) (hm : m.message = none)
      (hg : addr g = target) :
      Step R addr s (.peer p (.deliverMessage g)) (s.setPeer p .done)
  | deliverMessage {p g target m msg x} (hp : s.peers p = .calling target m)
      (hm : m.message = some msg)
      (hx : registry.step (s.gateways g) (.lookup (.rpc p) msg.receiverId m) = some x)
      (hg : addr g = target) :
      Step R addr s (.peer p (.deliverMessage g)) ((s.setGateway g x).setPeer p
        (if (x.delivering (.rpc p)).isSome then .sending g else .done))
  | peerSend {p g x} (hp : s.peers p = .sending g)
      (hx : registry.step (s.gateways g) (.send (.rpc p)) = some x) :
      Step R addr s (.peer p .send) ((s.setGateway g x).setPeer p .done)
  | peerFail {p target m} (hp : s.peers p = .calling target m) :
      Step R addr s (.peer p .fail) (s.setPeer p .done)
  | heartbeat {c e p} (hp : presence.step s.presence e = some p) :
      Step R addr s (.heartbeat c e) (s.setPresence p)
  | expire {u p} (hp : presence.step s.presence (.expire u) = some p) :
      Step R addr s (.expire u) (s.setPresence p)
  | service {e x} (hx : (MessageService.Service.system R).step s.service e = some x) :
      Step R addr s (.service e) (s.setService x)

theorem handlerStep_cases {s t : State ρ} {c : ConnId} {sock : Socket} {e : HandlerEvent}
    (hs : s.sockets c = some sock) (h : handlerStep R addr s c sock e = some t) :
    Step R addr s (.handler c e) t := by
  cases e with
  | registerUser ok =>
    simp only [handlerStep] at h
    split at h
    · obtain ⟨p, hp, rfl⟩ := Option.map_eq_some_iff.mp h
      exact .registerUser hs ‹_› hp
    · cases h
  | registerConn =>
    simp only [handlerStep] at h
    split at h
    · obtain ⟨x, hx, rfl⟩ := Option.map_eq_some_iff.mp h
      exact .registerConn hs ‹_› hx
    · cases h
  | frame raw call now =>
    simp only [handlerStep] at h
    split at h
    · rename_i hc hraw
      obtain rfl := Option.some.inj h
      exact .ignore hs hc hraw
    · rename_i incoming hc hraw
      obtain ⟨x, hx, rfl⟩ := Option.map_eq_some_iff.mp h
      exact .frame hs hc hraw hx
    · cases h
  | persisted =>
    simp only [handlerStep] at h
    split at h
    · split at h
      · obtain rfl := Option.some.inj h
        exact .persisted hs ‹_› ‹_›
      · cases h
    · cases h
  | persistFailed =>
    simp only [handlerStep] at h
    split at h
    · obtain rfl := Option.some.inj h
      exact .persistFailed hs ‹_›
    · cases h
  | ack arrives ok =>
    simp only [handlerStep] at h
    split at h
    · obtain rfl := Option.some.inj h
      exact .ack hs ‹_›
    · cases h
  | locate fail p =>
    simp only [handlerStep] at h
    split at h
    · rename_i receiverID m hc
      split at h
      · obtain rfl := Option.some.inj h
        exact .locateNowhere hs hc ‹_›
      · obtain rfl := Option.some.inj h
        exact .locateHere hs hc ‹_›
      · rename_i target hroute
        split at h
        · obtain rfl := Option.some.inj h
          exact .locatePeer hs hc ‹_› hroute
        · cases h
    · cases h
  | lookup =>
    simp only [handlerStep] at h
    split at h
    · obtain ⟨x, hx, rfl⟩ := Option.map_eq_some_iff.mp h
      exact .lookup hs ‹_› hx
    · cases h
  | send =>
    simp only [handlerStep] at h
    split at h
    · obtain ⟨x, hx, h⟩ := Option.bind_eq_some_iff.mp h
      obtain ⟨p, hp, rfl⟩ := Option.map_eq_some_iff.mp h
      exact .send hs ‹_› hx hp
    · cases h
  | hangUp =>
    simp only [handlerStep] at h
    split at h
    · obtain ⟨x, hx, h⟩ := Option.bind_eq_some_iff.mp h
      obtain ⟨p, hp, rfl⟩ := Option.map_eq_some_iff.mp h
      exact .hangUp hs ‹_› hx hp
    · cases h
  | unregisterConn =>
    simp only [handlerStep] at h
    split at h
    · obtain ⟨x, hx, rfl⟩ := Option.map_eq_some_iff.mp h
      exact .unregisterConn hs ‹_› hx
    · cases h
  | unregisterUser ok =>
    simp only [handlerStep] at h
    split at h
    · obtain ⟨p, hp, rfl⟩ := Option.map_eq_some_iff.mp h
      exact .unregisterUser hs ‹_› hp
    · cases h

theorem writerStep_cases {s t : State ρ} {c : ConnId} {sock : Socket} {e : WriterEvent}
    (hs : s.sockets c = some sock) (h : writerStep s c sock e = some t) :
    Step R addr s (.writer c e) t := by
  cases e with
  | receive =>
    simp only [writerStep] at h
    split at h
    · rename_i m buf hc hbuf
      obtain ⟨x, hx, rfl⟩ := Option.map_eq_some_iff.mp h
      exact .receive hs hc hbuf hx
    · cases h
  | drained =>
    simp only [writerStep] at h
    split at h
    · rename_i hc hchan
      obtain rfl := Option.some.inj h
      exact .drained hs hc (by rw [hchan]; rfl) (by rw [hchan])
    · cases h
  | write arrives ok =>
    simp only [writerStep] at h
    split at h
    · rename_i m hc
      obtain ⟨-, h⟩ := Option.ite_none_left_eq_some.mp h
      obtain rfl := Option.some.inj h
      exact .write hs hc
    · cases h

theorem peerStep_cases {s t : State ρ} {p : RpcId} {e : PeerEvent}
    (h : peerStep addr s p e = some t) : Step R addr s (.peer p e) t := by
  cases e with
  | deliverMessage g =>
    simp only [peerStep] at h
    split at h
    · rename_i target m hp
      split_ifs at h with hg
      unfold deliverMessage at h
      split at h
      · rename_i hm
        split_ifs at h
        obtain rfl := Option.some.inj h
        exact .deliverNothing hp hm hg
      · rename_i msg hm
        obtain ⟨x, hx, rfl⟩ := Option.map_eq_some_iff.mp h
        exact .deliverMessage hp hm hx hg
    · cases h
  | send =>
    simp only [peerStep] at h
    split at h
    · obtain ⟨x, hx, rfl⟩ := Option.map_eq_some_iff.mp h
      exact .peerSend ‹_› hx
    · cases h
  | fail =>
    simp only [peerStep] at h
    split at h
    · obtain rfl := Option.some.inj h
      exact .peerFail ‹_›
    · cases h

theorem live?_eq_some {s : State ρ} {c : ConnId} {sock : Socket} (h : s.live? c = some sock) :
    s.sockets c = some sock :=
  (Option.filter_eq_some_iff.mp h).1

/-- **Every step of the cluster is one of the listed effects.** -/
theorem step_cases {s t : State ρ} {e : Event χ ε} (h : (cluster R addr).step s e = some t) :
    Step R addr s e t := by
  cases e with
  | connect c g u =>
    simp only [cluster, step] at h
    split at h
    · rename_i hnew
      split_ifs at h
      obtain ⟨p, hp, rfl⟩ := Option.map_eq_some_iff.mp h
      exact .connect hnew hp
    · cases h
  | handler c e =>
    obtain ⟨sock, hs, h⟩ := Option.bind_eq_some_iff.mp h
    exact handlerStep_cases (live?_eq_some hs) h
  | writer c e =>
    obtain ⟨sock, hs, h⟩ := Option.bind_eq_some_iff.mp h
    exact writerStep_cases (live?_eq_some hs) h
  | peer p e => exact peerStep_cases h
  | heartbeat c e =>
    simp only [cluster, step] at h
    split_ifs at h
    obtain ⟨p, hp, rfl⟩ := Option.map_eq_some_iff.mp h
    exact .heartbeat hp
  | expire u =>
    simp only [cluster, step] at h
    obtain ⟨p, hp, rfl⟩ := Option.map_eq_some_iff.mp h
    exact .expire hp
  | service e =>
    simp only [cluster, step] at h
    obtain ⟨x, hx, rfl⟩ := Option.map_eq_some_iff.mp h
    exact .service hx

/-! ### The components -/

section Components

variable {s t : State ρ} {e : Event χ ε}

@[simp] theorem write_service (s : State ρ) (c : ConnId) (frame : Frame) (arrives : Bool) :
    (s.write c frame arrives).service = s.service := by
  unfold State.write
  split <;> rfl

@[simp] theorem write_gateways (s : State ρ) (c : ConnId) (frame : Frame) (arrives : Bool) :
    (s.write c frame arrives).gateways = s.gateways := by
  unfold State.write
  split <;> rfl

@[simp] theorem write_sockets (s : State ρ) (c : ConnId) (frame : Frame) (arrives : Bool) :
    (s.write c frame arrives).sockets = s.sockets := by
  unfold State.write
  split <;> rfl

@[simp] theorem write_handlers (s : State ρ) (c : ConnId) (frame : Frame) (arrives : Bool) :
    (s.write c frame arrives).handlers = s.handlers := by
  unfold State.write
  split <;> rfl

@[simp] theorem write_writers (s : State ρ) (c : ConnId) (frame : Frame) (arrives : Bool) :
    (s.write c frame arrives).writers = s.writers := by
  unfold State.write
  split <;> rfl

/-- The message service takes its own steps. -/
theorem service_step (h : Step R addr s e t) :
    t.service = s.service ∨
      ∃ e', (MessageService.Service.system R).step s.service e' = some t.service := by
  cases h with
  | frame hs hc hraw hx => exact Or.inr ⟨_, hx⟩
  | service hx => exact Or.inr ⟨_, hx⟩
  | ack hs hc => exact Or.inl (write_service ..)
  | write hs hc => exact Or.inl (write_service ..)
  | _ => exact Or.inl rfl

/-- Rows are committed by steps of the message service. -/
theorem committed_step (h : Step R addr s e t) :
    t.service.committed = s.service.committed ∨
      ∃ e', e = .service e' ∧
        (MessageService.Service.system R).step s.service e' = some t.service := by
  cases h with
  | frame hs hc hraw hx =>
    rcases MessageService.Service.committed_step hx with hsame | ⟨_, _, _, _, _, _, heq, -⟩
    · exact Or.inl hsame
    · cases heq
  | service hx => exact Or.inr ⟨_, rfl, hx⟩
  | ack hs hc => exact Or.inl (congrArg _ (write_service ..))
  | write hs hc => exact Or.inl (congrArg _ (write_service ..))
  | _ => exact Or.inl rfl

/-- Rows are not removed. -/
theorem committed_prefix (h : Step R addr s e t) :
    s.service.committed <+: t.service.committed := by
  rcases committed_step h with hsame | ⟨e', -, he'⟩
  · rw [hsame]
  · rcases MessageService.Service.committed_step he' with
      hsame | ⟨_, _, _, _, _, _, -, -, happend⟩
    · rw [hsame]
    · rw [happend]
      exact List.prefix_append ..

/-- The handler that has read a complete frame makes a call of its own for it. -/
theorem frame_step {c : ConnId} {raw : Option IncomingMessage} {call : CallId} {now : Int}
    (h : Step R addr s (.handler c (.frame raw call now)) t)
    (hraw : (checkIncoming raw).isSome = true) :
    s.service.calls call = .idle ∧ ∃ msg, (t.service.calls call).msg? = some msg := by
  cases h with
  | ignore hs hc hnone =>
    rw [hnone] at hraw
    cases hraw
  | @frame _ sock _ incoming _ _ x hs hc hsome hx =>
    obtain ⟨hidle, hcalled⟩ := MessageService.Service.invoke_step hx
    refine ⟨hidle, chatMessage sock.user incoming now, ?_⟩
    show (x.calls call).msg? = _
    rw [hcalled]
    rfl

/-- A registry takes its own steps.  It registers a connection for the user of its socket, whose writer then
starts; and a message is looked up in it by a handler of the gateway or for a peer that has called its
address. -/
theorem gateway_step (h : Step R addr s e t) :
    t.gateways = s.gateways ∨
      ∃ g e' x, registry.step (s.gateways g) e' = some x ∧
        t.gateways = Function.update s.gateways g x ∧
        (∀ c u, e' = .register c u → s.sockets c = some ⟨g, u⟩ ∧ t.writers c = .waiting) ∧
        ∀ caller r m, e' = .lookup caller r m →
          (∃ c sock, s.handlers c = .delivering r m ∧ s.sockets c = some sock ∧ sock.gw = g) ∨
            ∃ p, s.peers p = .calling (addr g) m := by
  cases h with
  | registerConn hs hc hx =>
    refine Or.inr ⟨_, _, _, hx, rfl, ?_, (fun _ _ _ heq => by cases heq)⟩
    rintro _ _ ⟨⟩
    exact ⟨hs, Function.update_self ..⟩
  | lookup hs hc hx =>
    refine Or.inr ⟨_, _, _, hx, rfl, (fun _ _ heq => by cases heq), ?_⟩
    rintro _ _ _ ⟨⟩
    exact Or.inl ⟨_, _, hc, hs, rfl⟩
  | @deliverMessage p g target m msg x hp hm hx hg =>
    refine Or.inr ⟨_, _, _, hx, rfl, (fun _ _ heq => by cases heq), ?_⟩
    rintro _ _ _ ⟨⟩
    exact Or.inr ⟨p, hg ▸ hp⟩
  | send hs hc hx hp =>
    exact Or.inr ⟨_, _, _, hx, rfl, (fun _ _ heq => by cases heq), (fun _ _ _ heq => by cases heq)⟩
  | hangUp hs hc hx hp =>
    exact Or.inr ⟨_, _, _, hx, rfl, (fun _ _ heq => by cases heq), (fun _ _ _ heq => by cases heq)⟩
  | unregisterConn hs hc hx =>
    exact Or.inr ⟨_, _, _, hx, rfl, (fun _ _ heq => by cases heq), (fun _ _ _ heq => by cases heq)⟩
  | receive hs hc hbuf hx =>
    exact Or.inr ⟨_, _, _, hx, rfl, (fun _ _ heq => by cases heq), (fun _ _ _ heq => by cases heq)⟩
  | peerSend hp hx =>
    exact Or.inr ⟨_, _, _, hx, rfl, (fun _ _ heq => by cases heq), (fun _ _ _ heq => by cases heq)⟩
  | ack hs hc => exact Or.inl (write_gateways ..)
  | write hs hc => exact Or.inl (write_gateways ..)
  | _ => exact Or.inl rfl

@[simp] theorem write_presence (s : State ρ) (c : ConnId) (frame : Frame) (arrives : Bool) :
    (s.write c frame arrives).presence = s.presence := by
  unfold State.write
  split <;> rfl

/-- A socket stays what it is. -/
theorem socket_step (h : Step R addr s e t) {c : ConnId} {sock : Socket}
    (hs : s.sockets c = some sock) : t.sockets c = some sock := by
  cases h with
  | @connect k g u p hnew hp =>
    have hne : c ≠ k := by
      rintro rfl
      rw [hs] at hnew
      cases hnew
    show Function.update s.sockets k (some ⟨g, u⟩) c = some sock
    rw [Function.update_of_ne hne, hs]
  | ack hs' hc =>
    show (State.write ..).sockets c = some sock
    rw [write_sockets, hs]
  | write hs' hc =>
    show (State.write ..).sockets c = some sock
    rw [write_sockets, hs]
  | _ => exact hs

/-- A socket is new only when it is opened. -/
theorem opened_step (h : Step R addr s e t) {c : ConnId} {sock : Socket}
    (ht : t.sockets c = some sock) :
    s.sockets c = some sock ∨ e = .connect c sock.gw sock.user := by
  cases h with
  | @connect k g u p hnew hp =>
    have ht' : Function.update s.sockets k (some ⟨g, u⟩) c = some sock := ht
    by_cases hk : c = k
    · subst hk
      rw [Function.update_self] at ht'
      obtain rfl := Option.some.inj ht'
      exact Or.inr rfl
    · rw [Function.update_of_ne hk] at ht'
      exact Or.inl ht'
  | ack hs' hc =>
    rw [← write_sockets]
    exact Or.inl ht
  | write hs' hc =>
    rw [← write_sockets]
    exact Or.inl ht
  | _ => exact Or.inl ht

/-- Nothing happens to a connection without a socket. -/
theorem unopened_step (h : Step R addr s e t) {c : ConnId} (hnone : t.sockets c = none) :
    s.sockets c = none ∧ t.handlers c = s.handlers c ∧ t.out c = s.out c := by
  have hs : s.sockets c = none := by
    cases hs : s.sockets c with
    | none => rfl
    | some sock =>
      rw [socket_step h hs] at hnone
      cases hnone
  have hne : ∀ {k sock}, s.sockets k = some sock → c ≠ k := by
    rintro k sock hk rfl
    rw [hs] at hk
    cases hk
  have hset : ∀ {k sock x}, s.sockets k = some sock →
      Function.update s.handlers k x c = s.handlers c := fun hk => Function.update_of_ne (hne hk) ..
  have hwrite : ∀ {k sock frame arrives}, s.sockets k = some sock →
      (s.write k frame arrives).out c = s.out c := by
    intro k sock frame arrives hk
    unfold State.write
    split
    · exact Function.update_of_ne (hne hk) ..
    · rfl
  refine ⟨hs, ?_⟩
  cases h with
  | @connect k g u p hnew hp =>
    have hck : c ≠ k := by
      rintro rfl
      have hsome : Function.update s.sockets c (some ⟨g, u⟩) c = none := hnone
      rw [Function.update_self] at hsome
      cases hsome
    exact ⟨Function.update_of_ne hck .., rfl⟩
  | registerUser hk hc hp => exact ⟨hset hk, rfl⟩
  | registerConn hk hc hx => exact ⟨hset hk, rfl⟩
  | frame hk hc hraw hx => exact ⟨hset hk, rfl⟩
  | persisted hk hc hm => exact ⟨hset hk, rfl⟩
  | persistFailed hk hc => exact ⟨hset hk, rfl⟩
  | ack hk hc =>
    refine ⟨?_, hwrite hk⟩
    show Function.update (State.write ..).handlers _ _ c = _
    rw [write_handlers, hset hk]
  | locateNowhere hk hc => exact ⟨hset hk, rfl⟩
  | locateHere hk hc => exact ⟨hset hk, rfl⟩
  | locatePeer hk hc hp => exact ⟨hset hk, rfl⟩
  | lookup hk hc hx => exact ⟨hset hk, rfl⟩
  | send hk hc hx hp => exact ⟨hset hk, rfl⟩
  | hangUp hk hc hx hp => exact ⟨hset hk, rfl⟩
  | unregisterConn hk hc hx => exact ⟨hset hk, rfl⟩
  | unregisterUser hk hc hp => exact ⟨hset hk, rfl⟩
  | write hk hc => exact ⟨congrFun (write_handlers ..) c, hwrite hk⟩
  | _ => exact ⟨rfl, rfl⟩

end Components

/-- The message service of a cluster. -/
def serviceComponent (R : Redis ρ χ ε) (addr : GwId → String) :
    Lts.Component (cluster R addr) (MessageService.Service.system R) where
  part := State.service
  part_init := rfl
  part_step hstep := service_step (step_cases hstep)

/-- The registry of a gateway. -/
def gatewayComponent (R : Redis ρ χ ε) (addr : GwId → String) (g : GwId) :
    Lts.Component (cluster R addr) registry where
  part s := s.gateways g
  part_init := rfl
  part_step {s e t} hstep := by
    rcases gateway_step (step_cases hstep) with hsame | ⟨g', e', x, hx, hgw, -⟩
    · exact Or.inl (congrFun hsame g)
    · rw [hgw, Function.update_apply]
      split_ifs with hg
      · exact Or.inr ⟨e', hg ▸ hx⟩
      · exact Or.inl rfl

theorem service_reachable {s : State ρ} (h : (cluster R addr).Reachable s) :
    (MessageService.Service.system R).Reachable s.service :=
  (serviceComponent R addr).reachable h

theorem gateway_reachable {s : State ρ} (h : (cluster R addr).Reachable s) (g : GwId) :
    registry.Reachable (s.gateways g) :=
  (gatewayComponent R addr g).reachable h

/-- A connection without a socket has not begun. -/
theorem unopened {s : State ρ} (h : (cluster R addr).Reachable s) {c : ConnId}
    (hnone : s.sockets c = none) : s.handlers c = .idle ∧ s.out c = [] := by
  revert hnone
  refine Lts.System.invariant
    (I := fun s : State ρ => s.sockets c = none → s.handlers c = .idle ∧ s.out c = [])
    (fun _ => ⟨rfl, rfl⟩) ?_ h
  intro s e t ih hstep hnone
  obtain ⟨hs, hhandler, hout⟩ := unopened_step (step_cases hstep) hnone
  rw [hhandler, hout]
  exact ih hs

/-! ### The handlers -/

/-- The receiver and the message that a handler is on its way to deliver. -/
def pending? : Handler → Option (String × PersistedMessage)
  | .acking receiverID m | .locating receiverID m | .delivering receiverID m => some (receiverID, m)
  | _ => none

/-- The frame and the call that a handler waits for. -/
def awaited? : Handler → Option (IncomingMessage × CallId)
  | .persisting incoming call => some (incoming, call)
  | _ => none

/-- How the connections and the handlers go with the registries and the message service. -/
structure Wired (s : State ρ) : Prop where
  /-- A connection in a registry has its socket there. -/
  socket : ∀ g c u, ((s.gateways g).conns c).user? = some u → s.sockets c = some ⟨g, u⟩
  /-- The call that a handler waits for was made with the frame it has read. -/
  call : ∀ c incoming id, awaited? (s.handlers c) = some (incoming, id) →
    ∃ userID now, (s.service.calls id).msg? = some (chatMessage userID incoming now)
  /-- No two handlers wait for one call. -/
  unique : ∀ c c' incoming incoming' id, awaited? (s.handlers c) = some (incoming, id) →
    awaited? (s.handlers c') = some (incoming', id) → c = c'
  /-- A handler delivers a message to its receiver. -/
  receiver : ∀ c r m, pending? (s.handlers c) = some (r, m) → m.isReceiver r = true

theorem wired_init : Wired (init R) where
  socket _ _ _ h := by cases h
  call _ _ _ h := by cases h
  unique _ _ _ _ _ h := by cases h
  receiver _ _ _ h := by cases h

/-- What a step does to a handler: it starts to wait for a call, or it goes on waiting for what it
waits for if for anything, and goes on delivering what it delivers unless it has just been handed
it. -/
inductive Turn (R : Redis ρ χ ε) (s : State ρ) (e : Event χ ε) (t : State ρ) (c : ConnId) :
    Prop where
  | same (h : t.handlers c = s.handlers c)
  | plain (hawaited : awaited? (t.handlers c) = none)
      (hpending : ∀ d, pending? (t.handlers c) = some d → pending? (s.handlers c) = some d)
  | frame {userID raw incoming call now} (he : e = .handler c (.frame raw call now))
      (hraw : checkIncoming raw = some incoming) (hh : t.handlers c = .persisting incoming call)
      (hx : (MessageService.Service.system R).step s.service
        (.invoke call (chatMessage userID incoming now)) = some t.service)
      (hother : ∀ k, k ≠ c → t.handlers k = s.handlers k)
  | persisted {incoming call msg alloc m} (hc : s.handlers c = .persisting incoming call)
      (hm : s.service.calls call = .returned msg alloc (.ok m))
      (hh : t.handlers c = .acking incoming.receiverId m)

theorem turn {s t : State ρ} {e : Event χ ε} (h : Step R addr s e t) (k : ConnId) :
    Turn R s e t k := by
  -- the handler of `c` goes on to `x`
  have hset : ∀ {c x}, t.handlers = Function.update s.handlers c x →
      (k = c → t.handlers k = x → Turn R s e t k) → Turn R s e t k := by
    intro c x hx hturn
    by_cases hk : k = c
    · refine hturn hk ?_
      rw [hx, hk, Function.update_self]
    · refine .same ?_
      rw [hx, Function.update_of_ne hk]
  -- it has nothing at hand then
  have hidle : ∀ {c x}, t.handlers = Function.update s.handlers c x → awaited? x = none →
      pending? x = none → Turn R s e t k := by
    intro c x hx hawaited hpending
    refine hset hx fun _ hk => .plain (by rw [hk, hawaited]) fun d hd => ?_
    rw [hk, hpending] at hd
    cases hd
  -- it has the same message at hand
  have hkeep : ∀ {c x}, t.handlers = Function.update s.handlers c x → awaited? x = none →
      (∀ d, pending? x = some d → pending? (s.handlers c) = some d) → Turn R s e t k := by
    intro c x hx hawaited hpending
    refine hset hx fun hkc hk => .plain (by rw [hk, hawaited]) fun d hd => ?_
    rw [hkc]
    exact hpending d (hk ▸ hd)
  cases h with
  | connect hnew hp => exact hidle rfl rfl rfl
  | registerUser hs hc hp => exact hidle rfl rfl rfl
  | registerConn hs hc hx => exact hidle rfl rfl rfl
  | ignore hs hc hraw => exact .same rfl
  | @frame c sock raw incoming call now x hs hc hraw hx =>
    refine hset rfl fun hk hh => ?_
    subst hk
    exact .frame rfl hraw hh hx fun k' hk' => Function.update_of_ne hk' ..
  | persisted hs hc hm => exact hset rfl fun hk hh => .persisted (by rw [hk, hc]) hm hh
  | persistFailed hs hc => exact hidle rfl rfl rfl
  | @ack c sock r m arrives ok hs hc =>
    refine hkeep (congrArg (Function.update · c _) (write_handlers ..)) ?_ ?_
    · split <;> rfl
    · intro d hd
      rw [hc]
      split at hd
      · exact hd
      · cases hd
  | locateNowhere hs hc => exact hidle rfl rfl rfl
  | locateHere hs hc => exact hkeep rfl rfl fun d hd => by rw [hc]; exact hd
  | locatePeer hs hc hp => exact hidle rfl rfl rfl
  | lookup hs hc hx =>
    refine hidle rfl ?_ ?_
    · split <;> rfl
    · split <;> rfl
  | send hs hc hx hp =>
    refine hidle rfl ?_ ?_
    · unfold afterSend
      split <;> rfl
    · unfold afterSend
      split <;> rfl
  | hangUp hs hc hx hp => exact hidle rfl rfl rfl
  | unregisterConn hs hc hx => exact hidle rfl rfl rfl
  | unregisterUser hs hc hp => exact hidle rfl rfl rfl
  | write hs hc => exact .same (congrFun (write_handlers ..) k)
  | _ => exact .same rfl

/-- What a step writes to a socket: nothing, the acknowledgement that the handler is about to write, or
the message that the writer is. -/
theorem out_step {s t : State ρ} {e : Event χ ε} (h : Step R addr s e t) (c : ConnId) :
    t.out c = s.out c ∨
    ∃ frame, t.out c = s.out c ++ [frame] ∧
      ((∃ r m, pending? (s.handlers c) = some (r, m) ∧ frame = ackFrame m) ∨
        ∃ m, s.writers c = .writing m ∧ frame = .message m) := by
  have hwrite : ∀ k frame arrives, (s.write k frame arrives).out c = s.out c ∨
      c = k ∧ (s.write k frame arrives).out c = s.out c ++ [frame] := by
    intro k frame arrives
    cases arrives with
    | false => exact Or.inl rfl
    | true =>
      show Function.update s.out k _ c = s.out c ∨ c = k ∧ Function.update s.out k _ c = _
      by_cases hk : c = k
      · subst hk
        rw [Function.update_self]
        exact Or.inr ⟨rfl, rfl⟩
      · exact Or.inl (Function.update_of_ne hk ..)
  cases h with
  | @ack k sock r m arrives ok hs hc =>
    rcases hwrite k (ackFrame m) arrives with hsame | ⟨rfl, hnew⟩
    · exact Or.inl hsame
    · exact Or.inr ⟨_, hnew, Or.inl ⟨r, m, by rw [hc]; rfl, rfl⟩⟩
  | @write k sock m arrives ok hs hc =>
    rcases hwrite k (.message m) arrives with hsame | ⟨rfl, hnew⟩
    · exact Or.inl hsame
    · exact Or.inr ⟨_, hnew, Or.inr ⟨m, hc, rfl⟩⟩
  | _ => exact Or.inl rfl

/-- A call that was made keeps its message. -/
theorem msg?_step {s t : State ρ} {e : Event χ ε} (h : Step R addr s e t) {id : CallId}
    {msg : ChatMessage} (hmsg : (s.service.calls id).msg? = some msg) :
    (t.service.calls id).msg? = some msg := by
  rcases service_step h with hsame | ⟨e', he'⟩
  · rw [hsame, hmsg]
  · exact MessageService.Service.msg?_step he' hmsg

/-- A call that has returned stays where it is. -/
theorem returned_step {s t : State ρ} {e : Event χ ε} (h : Step R addr s e t) {id : CallId}
    {msg : ChatMessage} {alloc : Option (ℤ × ℤ)} {res}
    (hret : s.service.calls id = .returned msg alloc res) :
    t.service.calls id = .returned msg alloc res := by
  rcases service_step h with hsame | ⟨e', he'⟩
  · rw [hsame, hret]
  · exact MessageService.Service.returned_step he' hret

/-- The call that a handler starts to wait for is a new one. -/
theorem Wired.not_awaited {s t : State ρ} (h : Wired s) {id : CallId} {msg : ChatMessage}
    (hx : (MessageService.Service.system R).step s.service (.invoke id msg) = some t.service)
    (c : ConnId) (incoming : IncomingMessage) :
    awaited? (s.handlers c) ≠ some (incoming, id) := by
  intro hawaited
  obtain ⟨userID, now, hmsg⟩ := h.call c incoming id hawaited
  rw [(MessageService.Service.invoke_step hx).1] at hmsg
  cases hmsg

/-- **One step** keeps the wiring. -/
theorem Wired.step {s t : State ρ} {e : Event χ ε} (h : Wired s)
    (hrec : MessageService.Service.Recorded s.service) (hstep : Step R addr s e t) : Wired t := by
  constructor
  · intro g c u hu
    apply socket_step hstep
    rcases gateway_step hstep with hsame | ⟨g', e', x, hx, hgw, hregister, -⟩
    · rw [hsame] at hu
      exact h.socket g c u hu
    · rw [hgw, Function.update_apply] at hu
      split_ifs at hu with hg
      · rw [hg]
        rcases Registry.user?_step hx hu with hold | hnew
        · exact h.socket g' c u hold
        · exact (hregister c u hnew).1
      · exact h.socket g c u hu
  · intro c incoming id hc
    have hold : awaited? (s.handlers c) = some (incoming, id) →
        ∃ userID now, (t.service.calls id).msg? = some (chatMessage userID incoming now) := by
      intro hs
      obtain ⟨userID, now, hmsg⟩ := h.call c incoming id hs
      exact ⟨userID, now, msg?_step hstep hmsg⟩
    cases turn hstep c with
    | same hh => exact hold (hh ▸ hc)
    | plain hawaited hpending =>
      rw [hawaited] at hc
      cases hc
    | frame he hraw hh hx hother =>
      rw [hh] at hc
      cases hc
      rw [(MessageService.Service.invoke_step hx).2]
      exact ⟨_, _, rfl⟩
    | persisted hc' hm hh =>
      rw [hh] at hc
      cases hc
  · intro c c' incoming incoming' id hc hc'
    -- a handler that has just started to wait is the only one
    have hfirst : ∀ k k' i i' userID now, awaited? (t.handlers k') = some (i', id) →
        (MessageService.Service.system R).step s.service
          (.invoke id (chatMessage userID i now)) = some t.service →
        (∀ j, j ≠ k → t.handlers j = s.handlers j) → k' = k := by
      intro k k' i i' userID now hk' hx hother
      by_contra hne
      rw [hother k' hne] at hk'
      exact h.not_awaited hx k' i' hk'
    cases turn hstep c with
    | plain hawaited hpending =>
      rw [hawaited] at hc
      cases hc
    | persisted hc' hm hh =>
      rw [hh] at hc
      cases hc
    | frame he hraw hh hx hother =>
      rw [hh] at hc
      cases hc
      exact (hfirst c c' _ _ _ _ hc' hx hother).symm
    | same hsame =>
      cases turn hstep c' with
      | plain hawaited hpending =>
        rw [hawaited] at hc'
        cases hc'
      | persisted hc'' hm hh =>
        rw [hh] at hc'
        cases hc'
      | frame he hraw hh hx hother =>
        rw [hh] at hc'
        cases hc'
        exact hfirst c' c _ _ _ _ hc hx hother
      | same hsame' => exact h.unique c c' incoming incoming' id (hsame ▸ hc) (hsame' ▸ hc')
  · intro c r m hc
    cases turn hstep c with
    | same hh => exact h.receiver c r m (hh ▸ hc)
    | plain hawaited hpending => exact h.receiver c r m (hpending _ hc)
    | frame he hraw hh hx hother =>
      rw [hh] at hc
      cases hc
    | @persisted incoming call msg alloc m' hc' hm hh =>
      rw [hh] at hc
      cases hc
      obtain ⟨hmessage, -, -⟩ := hrec.ok hm
      obtain ⟨userID, now, hmsg⟩ := h.call c incoming call (by rw [hc']; rfl)
      rw [hm] at hmsg
      obtain rfl := Option.some.inj hmsg
      simp [PersistedMessage.isReceiver, hmessage, chatMessage]

/-- The cluster is wired in every state reached. -/
theorem wired {s : State ρ} (h : (cluster R addr).Reachable s) : Wired s := by
  refine h.induction wired_init fun s e t hs ih hstep => ?_
  exact ih.step (MessageService.Service.recorded (service_reachable hs)) (step_cases hstep)

/-! ### The writers -/

/-- What a step does to the writer of `c`: it starts when the connection is registered, takes the next
message from its channel, writes it, and ends when the channel is closed and empty or the write fails. -/
inductive WriterTurn (s : State ρ) (e : Event χ ε) (t : State ρ) (c : ConnId) : Prop where
  | same (h : t.writers c = s.writers c)
  | started {sock x} (hs : s.sockets c = some sock)
      (hx : registry.step (s.gateways sock.gw) (.register c sock.user) = some x)
      (h : t.writers c = .waiting)
  | received {sock m buf} (hs : s.sockets c = some sock) (hc : s.writers c = .waiting)
      (hbuf : ((s.gateways sock.gw).chans c).buf = m :: buf) (h : t.writers c = .writing m)
  | drained {sock} (hs : s.sockets c = some sock) (hc : s.writers c = .waiting)
      (hclosed : ((s.gateways sock.gw).chans c).closedBy ≠ none)
      (hempty : ((s.gateways sock.gw).chans c).buf = []) (h : t.writers c = .stopped)
  | written {m arrives ok} (he : e = .writer c (.write arrives ok)) (hc : s.writers c = .writing m)
      (hout : arrives = true → t.out c = s.out c ++ [.message m])
      (h : t.writers c = if ok then .waiting else .stopped)

theorem writerTurn {s t : State ρ} {e : Event χ ε} (h : Step R addr s e t) (c : ConnId) :
    WriterTurn s e t c := by
  -- the writer of `k` goes on to `w`
  have hset : ∀ {k w}, t.writers = Function.update s.writers k w →
      (c = k → t.writers c = w → WriterTurn s e t c) → WriterTurn s e t c := by
    intro k w hw hturn
    by_cases hk : c = k
    · refine hturn hk ?_
      rw [hw, hk, Function.update_self]
    · refine .same ?_
      rw [hw, Function.update_of_ne hk]
  cases h with
  | registerConn hs hc hx => exact hset rfl fun hk hw => .started (hk ▸ hs) (hk ▸ hx) hw
  | receive hs hc hbuf hx =>
    refine hset rfl fun hk hw => ?_
    subst hk
    exact .received hs hc hbuf hw
  | drained hs hc hclosed hempty =>
    refine hset rfl fun hk hw => ?_
    subst hk
    exact .drained hs hc (Option.isSome_iff_ne_none.mp hclosed) hempty hw
  | @write k sock m arrives ok hs hc =>
    refine hset (congrArg (Function.update · k _) (write_writers ..)) fun hk hw => ?_
    subst hk
    refine .written rfl hc ?_ hw
    rintro rfl
    exact Function.update_self ..
  | ack hs hc => exact .same (congrFun (write_writers ..) c)
  | _ => exact .same rfl

end Cluster

end TinyTelegram.Gateway
