import TinyTelegram.Gateway.Equiv.Cluster
import TinyTelegram.Lib.Linear
import TinyTelegram.MessageService.Counters

/-!
# Deliveries

A message that the message service has returned to a handler is passed on from place to place: from
the handler to a delivery in progress, on its own gateway or by way of a peer, from there to the
buffer of a channel, to the writer of the channel's connection and to its socket.  `held` says which
messages are where, and `effect` says that a step drops some of them, or hands one to a handler, or
moves one on, for a channel that has been looked up under the receiver.

* `Linear`: no message id is in two places, or twice in one.
* `Origin`: every message is what a call has returned, for which no handler waits any more.
* `Routed`: every message on the way to a connection has the user of its socket as receiver.

`deliveries_sound` puts them together for the frames on the sockets.  It does not depend on what
`connMap` and the presence keys say of whom.
-/

namespace TinyTelegram.Gateway

/-! ### The messages of a registry -/

namespace Registry

/-- Where a registry has messages. -/
inductive Place where
  /-- The buffer of a channel. -/
  | buffer (ch : ConnId)
  /-- A delivery in progress, and the channel it has looked up. -/
  | inFlight (caller : Caller) (ch : ConnId)
  deriving DecidableEq

def held (x : State) : Place → List PersistedMessage
  | .buffer ch => (x.chans ch).buf
  | .inFlight caller ch =>
    match x.delivering caller with
    | some (ch', m) => if ch' = ch then [m] else []
    | none => []

section Held

variable {x y : State} {caller : Caller} {ch : ConnId} {m : PersistedMessage}

theorem held_inFlight (hd : x.delivering caller = some (ch, m)) :
    held x (.inFlight caller ch) = [m] := by
  simp only [held, hd, if_true]

/-- The messages are in the buffers and with the deliveries. -/
theorem held_congr (hbuf : ∀ k, (y.chans k).buf = (x.chans k).buf)
    (hdelivering : y.delivering = x.delivering) : held y = held x := by
  funext l
  cases l with
  | buffer k => exact hbuf k
  | inFlight caller k => simp only [held, hdelivering]

theorem held_setBuf (buf : List PersistedMessage) :
    held (x.setBuf ch buf) = Function.update (held x) (.buffer ch) buf := by
  funext l
  cases l with
  | buffer k =>
    by_cases hk : k = ch
    · subst hk
      simp [held, State.setBuf]
    · rw [Function.update_of_ne (by simpa using hk)]
      simp [held, State.setBuf, Function.update_of_ne hk]
  | inFlight caller k =>
    rw [Function.update_of_ne (by simp)]
    rfl

/-- A delivery that is over. -/
theorem held_setDelivering_none (hd : x.delivering caller = some (ch, m)) :
    held (x.setDelivering caller none) = Function.update (held x) (.inFlight caller ch) [] := by
  funext l
  cases l with
  | buffer k =>
    rw [Function.update_of_ne (by simp)]
    rfl
  | inFlight caller' k =>
    by_cases hc : caller' = caller
    · subst hc
      by_cases hk : k = ch
      · subst hk
        simp [held]
      · rw [Function.update_of_ne (by simp [hk])]
        simp [held, hd, Ne.symm hk]
    · rw [Function.update_of_ne (by simp [hc])]
      simp [held, Function.update_of_ne hc]

/-- A delivery that has looked its channel up. -/
theorem held_setDelivering_some (hd : x.delivering caller = none) :
    held (x.setDelivering caller (some (ch, m))) =
      Function.update (held x) (.inFlight caller ch) [m] := by
  funext l
  cases l with
  | buffer k =>
    rw [Function.update_of_ne (by simp)]
    rfl
  | inFlight caller' k =>
    by_cases hc : caller' = caller
    · subst hc
      by_cases hk : k = ch
      · subst hk
        simp [held]
      · rw [Function.update_of_ne (by simp [hk])]
        simp [held, hd, Ne.symm hk]
    · rw [Function.update_of_ne (by simp [hc])]
      simp [held, Function.update_of_ne hc]

theorem drop_buf (u : String) (c k : ConnId) :
    ((x.drop u ch c).chans k).buf = (x.chans k).buf := by
  show (Function.update x.chans ch { x.chans ch with closedBy := some c } k).buf = _
  by_cases hk : k = ch
  · subst hk
    rw [Function.update_self]
  · rw [Function.update_of_ne hk]

theorem held_register {c : ConnId} {u : String} (h : registry.step x (.register c u) = some y) :
    held y = held x := by
  obtain ⟨-, hstep⟩ := step_cases h
  cases hstep with
  | register hc => exact held_congr (fun _ => rfl) rfl

theorem held_hangUp {c : ConnId} (h : registry.step x (.hangUp c) = some y) : held y = held x := by
  obtain ⟨-, hstep⟩ := step_cases h
  cases hstep with
  | hangUp hc hd => exact held_congr (fun _ => rfl) rfl

theorem held_unregister {c : ConnId} (h : registry.step x (.unregister c) = some y) :
    held y = held x := by
  obtain ⟨-, hstep⟩ := step_cases h
  cases hstep with
  | unregisterNone hc hu => exact held_congr (fun _ => rfl) rfl
  | @unregisterSome _ u ch hc hu => exact held_congr (drop_buf u c) rfl

/-- A lookup finds nothing, or it finds a channel and the delivery is in flight to it. -/
theorem held_lookup {receiverID : String}
    (h : registry.step x (.lookup caller receiverID m) = some y) :
    y.delivering caller = none ∧ held y = held x ∨
    ∃ ch, x.connMap receiverID = some ch ∧ y.delivering caller = some (ch, m) ∧
      held x (.inFlight caller ch) = [] ∧
      held y = Function.update (held x) (.inFlight caller ch) [m] := by
  obtain ⟨-, hstep⟩ := step_cases h
  cases hstep with
  | lookup hready =>
    have hd : x.delivering caller = none := by
      cases caller with
      | readLoop c => exact Option.isNone_iff_eq_none.mp (Bool.and_eq_true_iff.mp hready).2
      | rpc n => exact Option.isNone_iff_eq_none.mp hready
    unfold lookup
    cases hmap : x.connMap receiverID with
    | none =>
      refine Or.inl ⟨Function.update_self .., held_congr (fun _ => rfl) ?_⟩
      show Function.update x.delivering caller none = x.delivering
      rw [← hd, Function.update_eq_self]
    | some ch =>
      refine Or.inr ⟨ch, rfl, Function.update_self .., ?_, held_setDelivering_some hd⟩
      simp only [held, hd]

/-- A send moves its message into the buffer of the channel, or drops it. -/
theorem held_send (h : registry.step x (.send caller) = some y) :
    ∃ ch m, held x (.inFlight caller ch) = [m] ∧
      (held y = Function.update (Function.update (held x) (.inFlight caller ch) [])
          (.buffer ch) (held x (.buffer ch) ++ [m]) ∨
        held y = Function.update (held x) (.inFlight caller ch) []) := by
  obtain ⟨-, hstep⟩ := step_cases h
  cases hstep with
  | @deliver _ ch m hd hopen hroom =>
    refine ⟨ch, m, held_inFlight hd, Or.inl ?_⟩
    have hd' : (x.setBuf ch ((x.chans ch).buf ++ [m])).delivering caller = some (ch, m) := hd
    rw [held_setDelivering_none hd', held_setBuf, Function.update_comm (by simp)]
    rfl
  | @full _ ch m hd hopen => exact ⟨ch, m, held_inFlight hd, Or.inr (held_setDelivering_none hd)⟩
  | @panic _ ch m hd hclosed =>
    refine ⟨ch, m, held_inFlight hd, Or.inr ?_⟩
    rw [← held_setDelivering_none hd]
    refine held_congr (fun k => ?_) ?_
    · rw [State.addPanic_chans, unwind_chans]
    · rw [State.addPanic_delivering, unwind_delivering]

theorem held_receive {c : ConnId} {buf : List PersistedMessage} (hbuf : (x.chans c).buf = m :: buf)
    (h : registry.step x (.receive c) = some y) :
    held y = Function.update (held x) (.buffer c) buf := by
  obtain ⟨-, hstep⟩ := step_cases h
  cases hstep with
  | receive hbuf' =>
    obtain ⟨-, rfl⟩ := List.cons.inj (hbuf.symm.trans hbuf')
    exact held_setBuf _

end Held

end Registry

/-! ### The messages of the cluster -/

namespace Cluster

open MessageService (Redis CallId)

variable {ρ χ ε : Type} {R : Redis ρ χ ε} {addr : GwId → String}

/-- Where messages are. -/
inductive Place where
  | handler (c : ConnId)
  | gateway (g : GwId) (l : Registry.Place)
  | peer (p : RpcId)
  | writer (c : ConnId)
  | socket (c : ConnId)
  deriving DecidableEq

/-- The message that a handler is on its way to deliver. -/
def handlerHeld (h : Handler) : List PersistedMessage := (pending? h).toList.map Prod.snd

/-- The message that a writer has taken from its channel and not written. -/
def writerHeld : Writer → List PersistedMessage
  | .writing m => [m]
  | _ => []

/-- The message of an RPC that has not been executed. -/
def peerHeld : Peer → List PersistedMessage
  | .calling _ m => [m]
  | _ => []

def held (s : State ρ) : Place → List PersistedMessage
  | .handler c => handlerHeld (s.handlers c)
  | .gateway g l => Registry.held (s.gateways g) l
  | .peer p => peerHeld (s.peers p)
  | .writer c => writerHeld (s.writers c)
  | .socket c => (s.out c).filterMap Frame.message?

/-- The connection that a message in a place is on its way to. -/
def Place.dest? : Place → Option ConnId
  | .gateway _ (.buffer ch) | .gateway _ (.inFlight _ ch) => some ch
  | .writer c | .socket c => some c
  | .handler _ | .peer _ => none

section Held

variable (s : State ρ)

theorem held_setHandler (c : ConnId) (h : Handler) :
    held (s.setHandler c h) = Function.update (held s) (.handler c) (handlerHeld h) := by
  funext l
  by_cases hl : l = .handler c
  · subst hl
    simp [held, State.setHandler]
  · rw [Function.update_of_ne hl]
    cases l with
    | handler k =>
      have hk : k ≠ c := fun hk => hl (hk ▸ rfl)
      simp [held, State.setHandler, Function.update_of_ne hk]
    | _ => rfl

theorem held_setWriter (c : ConnId) (w : Writer) :
    held (s.setWriter c w) = Function.update (held s) (.writer c) (writerHeld w) := by
  funext l
  by_cases hl : l = .writer c
  · subst hl
    simp [held, State.setWriter]
  · rw [Function.update_of_ne hl]
    cases l with
    | writer k =>
      have hk : k ≠ c := fun hk => hl (hk ▸ rfl)
      simp [held, State.setWriter, Function.update_of_ne hk]
    | _ => rfl

theorem held_setPeer (p : RpcId) (q : Peer) :
    held (s.setPeer p q) = Function.update (held s) (.peer p) (peerHeld q) := by
  funext l
  by_cases hl : l = .peer p
  · subst hl
    simp [held, State.setPeer]
  · rw [Function.update_of_ne hl]
    cases l with
    | peer k =>
      have hk : k ≠ p := fun hk => hl (hk ▸ rfl)
      simp [held, State.setPeer, Function.update_of_ne hk]
    | _ => rfl

theorem held_write (c : ConnId) (frame : Frame) : held (s.write c frame true) =
    Function.update (held s) (.socket c) (held s (.socket c) ++ frame.message?.toList) := by
  funext l
  by_cases hl : l = .socket c
  · subst hl
    cases frame <;> simp [held, State.write, Frame.message?]
  · rw [Function.update_of_ne hl]
    cases l with
    | socket k =>
      have hk : k ≠ c := fun hk => hl (hk ▸ rfl)
      simp [held, State.write, Function.update_of_ne hk]
    | _ => rfl

/-- The messages when those of one gateway are `h`. -/
def atGateway (f : Place → List PersistedMessage) (g : GwId)
    (h : Registry.Place → List PersistedMessage) : Place → List PersistedMessage
  | .gateway g' l => if g' = g then h l else f (.gateway g' l)
  | l => f l

theorem held_setGateway (g : GwId) (x : Registry.State) :
    held (s.setGateway g x) = atGateway (held s) g (Registry.held x) := by
  funext l
  cases l with
  | gateway g' l =>
    show Registry.held (Function.update s.gateways g x g') l = if g' = g then _ else _
    by_cases hg : g' = g
    · subst hg
      rw [Function.update_self, if_pos rfl]
    · rw [Function.update_of_ne hg, if_neg hg]
      rfl
  | _ => rfl

theorem atGateway_self (g : GwId) :
    atGateway (held s) g (Registry.held (s.gateways g)) = held s := by
  funext l
  cases l with
  | gateway g' l =>
    show (if g' = g then _ else _) = _
    by_cases hg : g' = g
    · subst hg
      rw [if_pos rfl]
      rfl
    · rw [if_neg hg]
  | _ => rfl

theorem atGateway_update (f : Place → List PersistedMessage) (g : GwId)
    (h : Registry.Place → List PersistedMessage) (l : Registry.Place)
    (v : List PersistedMessage) : atGateway f g (Function.update h l v) =
      Function.update (atGateway f g h) (.gateway g l) v := by
  funext k
  by_cases hk : k = .gateway g l
  · subst hk
    rw [Function.update_self]
    show (if g = g then Function.update h l v l else _) = v
    rw [if_pos rfl, Function.update_self]
  · rw [Function.update_of_ne hk]
    cases k with
    | gateway g' l' =>
      show (if g' = g then Function.update h l v l' else _) = if g' = g then h l' else _
      by_cases hg : g' = g
      · have hl : l' ≠ l := fun hl => hk (hg ▸ hl ▸ rfl)
        rw [if_pos hg, if_pos hg, Function.update_of_ne hl]
      · rw [if_neg hg, if_neg hg]
    | _ => rfl

end Held

/-! ### What a step does with the messages -/

/-- The places that a message may be passed on to. -/
inductive Next (s : State ρ) : Place → Place → Prop where
  | call {c p} : Next s (.handler c) (.peer p)
  | lookup {c g caller ch} : Next s (.handler c) (.gateway g (.inFlight caller ch))
  | rpcLookup {p g caller ch} : Next s (.peer p) (.gateway g (.inFlight caller ch))
  | send {g caller ch} : Next s (.gateway g (.inFlight caller ch)) (.gateway g (.buffer ch))
  | receive {c sock} (hs : s.sockets c = some sock) :
      Next s (.gateway sock.gw (.buffer c)) (.writer c)
  | write {c} : Next s (.writer c) (.socket c)

/-- What a step does with the messages: it drops some, or hands the message of its call to a handler, or
moves a message on, to a connection only if it was on its way there or is for the user of its
socket. -/
inductive Effect (s t : State ρ) : Prop where
  | drop (h : ∀ l, (held t l).Sublist (held s l))
  | mint {c incoming call msg alloc m} (hc : s.handlers c = .persisting incoming call)
      (hm : s.service.calls call = .returned msg alloc (.ok m))
      (ht : held t = Function.update (held s) (.handler c) (held s (.handler c) ++ [m]))
  | move {l k m rest} (hnext : Next s l k) (hne : l ≠ k) (hfrom : held s l = m :: rest)
      (hdest : ∀ c, k.dest? = some c →
        l.dest? = some c ∨ ∃ sock, s.sockets c = some sock ∧ m.isReceiver sock.user = true)
      (ht : held t = Function.update (Function.update (held s) l rest) k (held s k ++ [m]))

section Effects

variable {s s' t : State ρ}

theorem Effect.congr (h : Effect s s') (ht : held t = held s') : Effect s t := by
  cases h with
  | drop hsub => exact .drop (ht ▸ hsub)
  | mint hc hm hs' => exact .mint hc hm (ht.trans hs')
  | move hnext hne hfrom hdest hs' => exact .move hnext hne hfrom hdest (ht.trans hs')

/-- The messages stay where they are. -/
theorem Effect.refl (s : State ρ) : Effect s s := .drop fun _ => List.Sublist.refl _

/-- A handler keeps or drops what it has at hand. -/
theorem Effect.setHandler {c : ConnId} {h : Handler} (hs : held s' = held s)
    (hh : (handlerHeld h).Sublist (handlerHeld (s'.handlers c))) : Effect s (s'.setHandler c h) := by
  refine .drop fun l => ?_
  rw [held_setHandler, ← hs]
  exact Linear.sublist_update (f := held s') (l := .handler c) hh l

/-- A handler has nothing at hand. -/
theorem Effect.idle {c : ConnId} {h : Handler} (hs : held s' = held s) (hh : handlerHeld h = []) :
    Effect s (s'.setHandler c h) :=
  .setHandler hs (hh ▸ List.nil_sublist _)

theorem held_setHandler_of_eq {c : ConnId} {h : Handler}
    (hh : handlerHeld h = handlerHeld (s.handlers c)) : held (s.setHandler c h) = held s := by
  rw [held_setHandler, hh]
  exact Function.update_eq_self ..

theorem held_setPeer_of_eq {p : RpcId} {q : Peer} (hq : peerHeld q = peerHeld (s.peers p)) :
    held (s.setPeer p q) = held s := by
  rw [held_setPeer, hq]
  exact Function.update_eq_self ..

/-- A call to a peer is over. -/
theorem effect_done (p : RpcId) : Effect s (s.setPeer p .done) := by
  refine .drop fun l => ?_
  rw [held_setPeer]
  exact Linear.sublist_update (List.nil_sublist _) l

theorem held_ack (s : State ρ) (c : ConnId) (m : PersistedMessage) (arrives : Bool) :
    held (s.write c (ackFrame m) arrives) = held s := by
  cases arrives with
  | false => rfl
  | true =>
    rw [held_write]
    show Function.update (held s) _ (held s _ ++ []) = held s
    rw [List.append_nil, Function.update_eq_self]

/-- A registry step that leaves the messages where they are. -/
theorem held_quiet {g : GwId} {x : Registry.State}
    (hx : Registry.held x = Registry.held (s.gateways g)) : held (s.setGateway g x) = held s := by
  rw [held_setGateway, hx, atGateway_self]

/-- The second half of `DeliverLocal`. -/
theorem effect_send {g : GwId} {caller : Caller} {x : Registry.State}
    (hx : registry.step (s.gateways g) (.send caller) = some x) :
    Effect s (s.setGateway g x) := by
  obtain ⟨ch, m, hfrom, hmoved | hdropped⟩ := Registry.held_send hx
  · refine .move (l := .gateway g (.inFlight caller ch)) (k := .gateway g (.buffer ch))
      .send (by simp) hfrom (fun c hc => Or.inl hc) ?_
    rw [held_setGateway, hmoved, atGateway_update, atGateway_update, atGateway_self]
    rfl
  · refine .drop fun l => ?_
    rw [held_setGateway, hdropped, atGateway_update, atGateway_self]
    exact Linear.sublist_update (List.nil_sublist _) l

/-- The first half of `DeliverLocal`, called with a message from the place `l`, which it leaves. -/
theorem effect_lookup (hw : Wired s) {g : GwId} (hreg : Registry.Inv (s.gateways g))
    {caller : Caller} {receiverID : String} {m : PersistedMessage} {x : Registry.State}
    (hx : registry.step (s.gateways g) (.lookup caller receiverID m) = some x) {l : Place}
    (hnext : ∀ ch, Next s l (.gateway g (.inFlight caller ch)))
    (hl : ∀ l', l ≠ .gateway g l') (hfrom : held s l = [m]) (hm : m.isReceiver receiverID = true)
    (ht : held t = Function.update (held (s.setGateway g x)) l []) : Effect s t := by
  rcases Registry.held_lookup hx with ⟨-, hheld⟩ | ⟨ch, hch, -, hempty, hheld⟩
  · refine .drop fun k => ?_
    rw [ht, held_quiet hheld]
    exact Linear.sublist_update (List.nil_sublist _) k
  · refine .move (hnext ch) (hl (.inFlight caller ch)) hfrom (fun c hc => ?_) ?_
    · -- the channel is one of the receiver's
      obtain rfl := Option.some.inj hc
      exact Or.inr ⟨_, hw.socket g ch receiverID (hreg.owner receiverID ch hch), hm⟩
    · have hto : held s (.gateway g (.inFlight caller ch)) = [] := hempty
      rw [ht, held_setGateway, hheld, atGateway_update, atGateway_self, hto,
        Function.update_comm (hl _).symm]
      rfl

/-- **Every step** drops messages, or hands one to a handler, or moves one on. -/
theorem effect {e : Event χ ε} (hw : Wired s) (hreg : ∀ g, Registry.Inv (s.gateways g))
    (h : Step R addr s e t) : Effect s t := by
  cases h with
  | connect hnew hp => exact .idle rfl rfl
  | registerUser hs hc hp => exact .idle rfl rfl
  | registerConn hs hc hx =>
    refine .drop fun l => ?_
    rw [held_setHandler, held_setWriter, held_quiet (Registry.held_register hx)]
    exact (Linear.sublist_update (List.nil_sublist _) l).trans
      (Linear.sublist_update (List.nil_sublist _) l)
  | ignore hs hc hraw => exact .refl s
  | frame hs hc hraw hx => exact .idle rfl rfl
  | @persisted c sock incoming call msg alloc m hs hc hm =>
    refine .mint hc hm ?_
    have hnone : held s (.handler c) = [] := by
      simp only [held, hc]
      rfl
    rw [held_setHandler, hnone]
    rfl
  | persistFailed hs hc => exact .idle rfl rfl
  | @ack c sock r m arrives ok hs hc =>
    refine .setHandler (held_ack ..) ?_
    rw [write_handlers, hc]
    split
    · exact List.Sublist.refl _
    · exact List.nil_sublist _
  | locateNowhere hs hc => exact .idle rfl rfl
  | locateHere hs hc => exact .setHandler rfl (by rw [hc]; exact List.Sublist.refl _)
  | @locatePeer c sock r m fail p target hs hc hp =>
    have hfrom : held s (.handler c) = [m] := by
      simp only [held, hc]
      rfl
    refine .move (k := .peer p) .call (by simp) hfrom ?_ ?_
    · intro k hk
      cases hk
    · have hnone : held s (.peer p) = [] := by
        simp only [held, hp]
        rfl
      rw [held_setHandler, held_setPeer, hnone, Function.update_comm (by simp)]
      rfl
  | @lookup c sock r m x hs hc hx =>
    refine effect_lookup hw (hreg sock.gw) hx (l := .handler c) (fun _ => .lookup) (by simp) ?_ ?_ ?_
    · simp only [held, hc]
      rfl
    · exact hw.receiver c r m (by rw [hc]; rfl)
    · rw [held_setHandler]
      split <;> rfl
  | @send c sock x p hs hc hx hp =>
    refine (effect_send hx).congr
      (held_setHandler_of_eq (s := (s.setGateway sock.gw x).setPresence p) ?_)
    show handlerHeld (afterSend x c) = handlerHeld (s.handlers c)
    rw [hc]
    unfold afterSend
    split <;> rfl
  | hangUp hs hc hx hp =>
    refine .idle ?_ rfl
    exact held_quiet (Registry.held_hangUp hx)
  | unregisterConn hs hc hx =>
    refine .idle ?_ rfl
    exact held_quiet (Registry.held_unregister hx)
  | unregisterUser hs hc hp => exact .idle rfl rfl
  | @receive c sock m buf x hs hc hbuf hx =>
    refine .move (l := .gateway sock.gw (.buffer c)) (k := .writer c) (.receive hs) (by simp) hbuf
      (fun k hk => Or.inl hk) ?_
    have hnone : held s (.writer c) = [] := by
      simp only [held, hc]
      rfl
    rw [held_setWriter, held_setGateway, Registry.held_receive hbuf hx, atGateway_update,
      atGateway_self, hnone]
    rfl
  | drained hs hc =>
    refine .drop fun l => ?_
    rw [held_setWriter]
    exact Linear.sublist_update (List.nil_sublist _) l
  | @write c sock m arrives ok hs hc =>
    have hfrom : held s (.writer c) = [m] := by
      simp only [held, hc]
      rfl
    have hw' : writerHeld (if ok then .waiting else .stopped) = [] := by
      split <;> rfl
    cases arrives with
    | false =>
      refine .drop fun l => ?_
      rw [held_setWriter, hw']
      exact Linear.sublist_update (List.nil_sublist _) l
    | true =>
      refine .move (k := .socket c) .write (by simp) hfrom (fun k hk => Or.inl hk) ?_
      rw [held_setWriter, held_write, hw', Function.update_comm (by simp)]
      rfl
  | deliverNothing hp => exact effect_done _
  | @deliverMessage p g target m msg x hp hm hx =>
    refine effect_lookup hw (hreg g) hx (l := .peer p) (fun _ => .rpcLookup) (by simp) ?_ ?_ ?_
    · simp only [held, hp]
      rfl
    · simp [PersistedMessage.isReceiver, hm]
    · rw [held_setPeer]
      split <;> rfl
  | peerSend hp hx =>
    refine (effect_send hx).congr (held_setPeer_of_eq ?_)
    show peerHeld .done = peerHeld (s.peers _)
    rw [hp]
    rfl
  | peerFail hp => exact effect_done _
  | heartbeat hp => exact (Effect.refl s).congr rfl
  | expire hp => exact (Effect.refl s).congr rfl
  | service hx => exact (Effect.refl s).congr rfl

end Effects

/-! ### The invariant -/

/-- What a call has returned, for which no handler waits any more. -/
def HandedOut (s : State ρ) (m : PersistedMessage) : Prop :=
  ∃ id msg alloc, s.service.calls id = .returned msg alloc (.ok m) ∧
    ∀ c incoming, awaited? (s.handlers c) ≠ some (incoming, id)

/-- What holds of the messages in every state reached. -/
structure Sound (s : State ρ) : Prop where
  linear : Linear fun l => (held s l).map PersistedMessage.id
  origin : ∀ l, ∀ m ∈ held s l, HandedOut s m
  routed : ∀ l, ∀ m ∈ held s l, ∀ c, l.dest? = some c →
    ∃ sock, s.sockets c = some sock ∧ m.isReceiver sock.user = true

theorem sound_init : Sound (init R) := by
  have hempty : ∀ l, held (init R) l = [] := by
    intro l
    cases l with
    | gateway g l => cases l <;> rfl
    | _ => rfl
  constructor
  · constructor
    · intro l
      rw [hempty]
      exact List.nodup_nil
    · intro l l' t ht
      rw [hempty] at ht
      exact absurd ht List.not_mem_nil
  · intro l m hm
    rw [hempty] at hm
    exact absurd hm List.not_mem_nil
  · intro l m hm
    rw [hempty] at hm
    exact absurd hm List.not_mem_nil

section Invariant

variable {s t : State ρ} {e : Event χ ε}

/-- No handler starts to wait for a call that has returned. -/
theorem not_awaited_step (hstep : Step R addr s e t) {id : CallId} {msg alloc res}
    (hret : s.service.calls id = .returned msg alloc res)
    (h : ∀ c incoming, awaited? (s.handlers c) ≠ some (incoming, id)) (c : ConnId)
    (incoming : IncomingMessage) : awaited? (t.handlers c) ≠ some (incoming, id) := by
  intro hawaited
  cases turn hstep c with
  | same hh => exact h c incoming (hh ▸ hawaited)
  | plain hnone hpending =>
    rw [hnone] at hawaited
    cases hawaited
  | frame he hraw hh hx hother =>
    rw [hh] at hawaited
    cases hawaited
    have hidle := (MessageService.Service.invoke_step hx).1
    rw [hret] at hidle
    cases hidle
  | persisted hc hm hh =>
    rw [hh] at hawaited
    cases hawaited

theorem HandedOut.step (hstep : Step R addr s e t) {m : PersistedMessage} (h : HandedOut s m) :
    HandedOut t m := by
  obtain ⟨id, msg, alloc, hret, hnot⟩ := h
  exact ⟨id, msg, alloc, returned_step hstep hret, not_awaited_step hstep hret hnot⟩

/-- The message that a handler is handed has been returned by the call it has waited for. -/
theorem HandedOut.of_persisted (hw : Wired s) {c : ConnId} {m : PersistedMessage}
    {incoming : IncomingMessage} {call : CallId} {msg alloc}
    (hc : s.handlers c = .persisting incoming call)
    (hm : s.service.calls call = .returned msg alloc (.ok m)) (hstep : Step R addr s e t)
    (hnone : awaited? (t.handlers c) = none) : HandedOut t m := by
  refine ⟨call, msg, alloc, returned_step hstep hm, fun k i hk => ?_⟩
  have hawaited : awaited? (s.handlers c) = some (incoming, call) := by
    rw [hc]
    rfl
  cases turn hstep k with
  | same hh =>
    rw [hh] at hk
    obtain rfl := hw.unique c k incoming i call hawaited hk
    rw [hh, hawaited] at hnone
    cases hnone
  | plain hnone' hpending =>
    rw [hnone'] at hk
    cases hk
  | frame he hraw hh hx hother =>
    rw [hh] at hk
    cases hk
    exact hw.not_awaited hx c incoming hawaited
  | persisted hc' hm' hh =>
    rw [hh] at hk
    cases hk

/-- A message that a handler is handed is nowhere yet. -/
theorem Sound.fresh (h : Sound s)
    (hsvc : (MessageService.Service.system R).Reachable s.service) {c : ConnId}
    {incoming : IncomingMessage} {call : CallId} {msg alloc} {m : PersistedMessage}
    (hc : s.handlers c = .persisting incoming call)
    (hm : s.service.calls call = .returned msg alloc (.ok m)) (l : Place) :
    m.id ∉ (held s l).map PersistedMessage.id := by
  intro hmem
  obtain ⟨m', hm', hid⟩ := List.mem_map.mp hmem
  obtain ⟨call', msg', alloc', hret, hnot⟩ := h.origin l m' hm'
  -- the two messages are one, and a handler still waits for it
  obtain rfl := MessageService.Service.returned_id_inj hsvc hret hm hid
  exact hnot c incoming (by rw [hc]; rfl)

/-- A message in a place was in some place before the step, or has been handed to a handler. -/
theorem Effect.mem (h : Effect s t) {l : Place} {m : PersistedMessage} (hm : m ∈ held t l) :
    (∃ l', m ∈ held s l' ∧ ∀ c, l.dest? = some c → l'.dest? = some c ∨
      ∃ sock, s.sockets c = some sock ∧ m.isReceiver sock.user = true) ∨
    ∃ c incoming call msg alloc, l = .handler c ∧ s.handlers c = .persisting incoming call ∧
      s.service.calls call = .returned msg alloc (.ok m) := by
  cases h with
  | drop hsub => exact Or.inl ⟨l, (hsub l).subset hm, fun c hc => Or.inl hc⟩
  | @mint c incoming call msg alloc m' hc hret ht =>
    rw [ht] at hm
    by_cases hl : l = .handler c
    · subst hl
      rw [Function.update_self, List.mem_append, List.mem_singleton] at hm
      rcases hm with hold | rfl
      · exact Or.inl ⟨_, hold, fun k hk => Or.inl hk⟩
      · exact Or.inr ⟨c, incoming, call, msg, alloc, rfl, hc, hret⟩
    · rw [Function.update_of_ne hl] at hm
      exact Or.inl ⟨l, hm, fun k hk => Or.inl hk⟩
  | @move l₁ l₂ m' rest hnext hne hfrom hdest ht =>
    rw [ht] at hm
    by_cases hl : l = l₂
    · subst hl
      rw [Function.update_self, List.mem_append, List.mem_singleton] at hm
      rcases hm with hold | rfl
      · exact Or.inl ⟨_, hold, fun k hk => Or.inl hk⟩
      · exact Or.inl ⟨l₁, by rw [hfrom]; exact List.mem_cons_self, hdest⟩
    · rw [Function.update_of_ne hl] at hm
      have hsub : rest.Sublist (held s l₁) := by
        rw [hfrom]
        exact List.sublist_cons_self ..
      exact Or.inl ⟨l, (Linear.sublist_update hsub l).subset hm, fun k hk => Or.inl hk⟩

/-- The ids are passed on as the messages are. -/
theorem map_id_update (f : Place → List PersistedMessage) (l : Place)
    (v : List PersistedMessage) :
    (fun k => (Function.update f l v k).map PersistedMessage.id) =
      Function.update (fun k => (f k).map PersistedMessage.id) l (v.map PersistedMessage.id) :=
  Function.comp_update (List.map PersistedMessage.id) f l v

/-- **One step** keeps the messages in order. -/
theorem Sound.step (h : Sound s) (hw : Wired s) (hreg : ∀ g, Registry.Inv (s.gateways g))
    (hsvc : (MessageService.Service.system R).Reachable s.service)
    (hstep : Step R addr s e t) : Sound t := by
  have heffect := effect hw hreg hstep
  constructor
  · cases heffect with
    | drop hsub => exact h.linear.drop fun l => (hsub l).map _
    | @mint c incoming call msg alloc m hc hm ht =>
      rw [ht, map_id_update, List.map_append]
      exact h.linear.mint (h.fresh hsvc hc hm)
    | @move l l' m rest hnext hne hfrom hdest ht =>
      rw [ht, map_id_update, map_id_update, List.map_append]
      exact h.linear.move hne (by rw [hfrom]; rfl)
  · intro l m hm
    rcases heffect.mem hm with ⟨l', hold, -⟩ | ⟨c, incoming, call, msg, alloc, rfl, hc, hret⟩
    · exact (h.origin l' m hold).step hstep
    · refine .of_persisted hw hc hret hstep ?_
      -- the handler has the message at hand, so it does not wait
      have hpending : pending? (t.handlers c) ≠ none := by
        intro hnone
        simp only [held, handlerHeld, hnone] at hm
        exact absurd hm List.not_mem_nil
      cases hh : t.handlers c with
      | persisting i k =>
        rw [hh] at hpending
        exact absurd rfl hpending
      | _ => rfl
  · intro l m hm c hc
    rcases heffect.mem hm with ⟨l', hold, hdest⟩ | ⟨k, incoming, call, msg, alloc, rfl, hk, hret⟩
    · rcases hdest c hc with hsame | ⟨sock, hs, hreceiver⟩
      · obtain ⟨sock, hs, hreceiver⟩ := h.routed l' m hold c hsame
        exact ⟨sock, socket_step hstep hs, hreceiver⟩
      · exact ⟨sock, socket_step hstep hs, hreceiver⟩
    · cases hc

end Invariant

/-- The messages are in order in every state reached. -/
theorem sound {s : State ρ} (h : (cluster R addr).Reachable s) : Sound s := by
  refine h.induction sound_init fun s e t hs ih hstep => ?_
  exact ih.step (wired hs) (fun g => Registry.inv (gateway_reachable hs g)) (service_reachable hs)
    (step_cases hstep)

/-- What a call has returned is committed. -/
theorem committed_of_returned {s : State ρ} (h : (cluster R addr).Reachable s)
    {m : PersistedMessage} (hret : ∃ id msg alloc, s.service.calls id = .returned msg alloc (.ok m)) :
    ∃ msg createdAt, m.message = some msg ∧
      MessageService.PersistCall.row msg m.receiverPts m.senderPts m.id createdAt ∈
        s.service.table := by
  obtain ⟨id, msg, alloc, hret⟩ := hret
  obtain ⟨hmessage, -, createdAt, hmem⟩ :=
    (MessageService.Service.recorded (service_reachable h)).ok hret
  exact ⟨msg, createdAt, hmessage, List.mem_map_of_mem hmem⟩

/-- A message in a place is committed. -/
theorem committed {s : State ρ} (h : (cluster R addr).Reachable s) {l : Place}
    {m : PersistedMessage} (hm : m ∈ held s l) : ∃ msg createdAt, m.message = some msg ∧
      MessageService.PersistCall.row msg m.receiverPts m.senderPts m.id createdAt ∈
        s.service.table := by
  obtain ⟨id, msg, alloc, hret, -⟩ := (sound h).origin l m hm
  exact committed_of_returned h ⟨id, msg, alloc, hret⟩

/-- A message in a place after a step was committed before it. -/
theorem committed_before {s t : State ρ} {e : Event χ ε} (h : (cluster R addr).Reachable s)
    (hstep : (cluster R addr).step s e = some t) {l : Place} {m : PersistedMessage}
    (hm : m ∈ held t l) : ∃ msg createdAt, m.message = some msg ∧
      MessageService.PersistCall.row msg m.receiverPts m.senderPts m.id createdAt ∈
        s.service.table := by
  have heffect := effect (wired h) (fun g => Registry.inv (gateway_reachable h g))
    (step_cases hstep)
  rcases heffect.mem hm with ⟨l', hold, -⟩ | ⟨c, incoming, call, msg, alloc, -, -, hret⟩
  · exact committed h hold
  · exact committed_of_returned h ⟨call, msg, alloc, hret⟩

/-! ### The frames -/

/-- The messages among the frames on a socket. -/
theorem mem_held_socket {s : State ρ} {c : ConnId} {m : PersistedMessage} :
    m ∈ held s (.socket c) ↔ .message m ∈ s.out c := by
  show m ∈ (s.out c).filterMap Frame.message? ↔ _
  rw [List.mem_filterMap]
  constructor
  · rintro ⟨frame, hframe, hm⟩
    cases frame with
    | ack senderPts messageId => cases hm
    | message m' =>
      obtain rfl := Option.some.inj hm
      exact hframe
  · intro hm
    exact ⟨_, hm, rfl⟩

/-- **Deliveries are sound**, in every run of the cluster: a message on a socket has the user of the
socket as receiver; its row was in the table before the step that wrote it; and no message id is on
two sockets, or twice on one. -/
theorem deliveries_sound {es : List (Event χ ε)} {s : State ρ}
    (h : (cluster R addr).run (init R) es = some s) :
    (∀ c m, .message m ∈ s.out c →
      ∃ sock, s.sockets c = some sock ∧ m.isReceiver sock.user = true) ∧
    (∀ pre e t u, pre ++ [e] <+: es → (cluster R addr).run (init R) pre = some t →
      (cluster R addr).step t e = some u → ∀ c m, .message m ∈ u.out c →
      ∃ msg createdAt, m.message = some msg ∧
        MessageService.PersistCall.row msg m.receiverPts m.senderPts m.id createdAt ∈
          t.service.table) ∧
    (∀ c, (((s.out c).filterMap Frame.message?).map PersistedMessage.id).Nodup) ∧
    ∀ c c' m m', .message m ∈ s.out c → .message m' ∈ s.out c' → m.id = m'.id → c = c' := by
  have hsound : Sound s := sound ⟨es, h⟩
  refine ⟨fun c m hm => ?_, fun pre e t u _ ht hu c m hm => ?_, fun c => ?_,
    fun c c' m m' hm hm' hid => ?_⟩
  · exact hsound.routed (.socket c) m (mem_held_socket.mpr hm) c rfl
  · exact committed_before ⟨pre, ht⟩ hu (mem_held_socket.mpr hm)
  · exact hsound.linear.nodup (.socket c)
  · have hc := List.mem_map_of_mem (f := PersistedMessage.id) (mem_held_socket.mpr hm)
    have hc' := List.mem_map_of_mem (f := PersistedMessage.id) (mem_held_socket.mpr hm')
    rw [← hid] at hc'
    exact Place.socket.inj (hsound.linear.place_unique _ _ _ hc hc')

/-- Two gateways. -/
def twoGateways (g : GwId) : String := if g = 0 then "gateway1:50051" else "gateway2:50051"

/-- Alice writes to Bob, who has opened a second tab on the other gateway. -/
def secondTabRun : List (Event MessageService.Counters.Choice MessageService.Counters.Event) :=
  [.connect 0 0 "alice", .handler 0 (.registerUser true), .handler 0 .registerConn,
    .connect 1 1 "bob", .handler 1 (.registerUser true), .handler 1 .registerConn,
    .connect 2 1 "bob", .handler 2 (.registerUser true), .handler 2 .registerConn,
    .handler 0 (.frame (some ⟨"bob", "hi"⟩) 0 5),
    .service (.redis 0 (.incr .executed)), .service (.redis 0 (.incr .executed)),
    .service (.redis 0 (.wait (.ok 1))), .service (.insert 0 "m" 7 8 .executed),
    .handler 0 .persisted, .handler 0 (.ack true true), .handler 0 (.locate false 0),
    .peer 0 (.deliverMessage 1), .peer 0 .send, .writer 2 .receive, .writer 2 (.write true true)]

/-- The message is on the socket of the second tab, and not on that of the first. -/
theorem deliveries_sound_secondTabRun : ∃ s m,
    (cluster MessageService.Counters.redis twoGateways).run
      (init MessageService.Counters.redis) secondTabRun = some s ∧
    s.out 2 = [.message m] ∧ .message m ∉ s.out 1 ∧
    ∃ sock, s.sockets 2 = some sock ∧ m.isReceiver sock.user = true := by
  refine ⟨_, ⟨"m", some ⟨"alice", "bob", "hi", 5⟩, 1, 1, 8⟩, rfl, rfl, List.not_mem_nil, ?_⟩
  have hsound := @deliveries_sound _ _ _ MessageService.Counters.redis twoGateways secondTabRun _ rfl
  exact hsound.1 2 _ (List.mem_singleton_self _)

end Cluster

end TinyTelegram.Gateway
