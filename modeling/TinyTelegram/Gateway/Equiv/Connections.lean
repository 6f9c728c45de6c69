import TinyTelegram.Gateway.Equiv.Passage
import TinyTelegram.Gateway.Equiv.Presence

/-!
# The views of a connection

A connection is known to its handler, to the registry of its gateway and to the presence keys, and an
RPC to the goroutine that issued it and to the registry that executes it.  They take their steps
apart, and each of them refuses a step that it is not ready for.  `standing` and `rpcs` say that they
agree in every state reached.
-/

namespace TinyTelegram.Gateway

/-! ### The registry -/

namespace Registry

variable {x y : State} {e : Event}

/-- The goroutine that an event is a step of; a connection's is named by its read loop, also while it
is set up and torn down. -/
def Event.caller? : Event → Option Caller
  | .register c _ | .hangUp c | .unregister c => some (.readLoop c)
  | .lookup caller _ _ | .send caller => some caller
  | .receive _ => none

/-- A goroutine's delivery is its own affair. -/
theorem delivering_frame (h : registry.step x e = some y) {caller : Caller}
    (hne : e.caller? ≠ some caller) : y.delivering caller = x.delivering caller := by
  cases e with
  | lookup caller' r m =>
    rw [(delivering_lookup h).2, Function.update_of_ne]
    rintro rfl
    exact hne rfl
  | send caller' =>
    rw [(delivering_send h).2, Function.update_of_ne]
    rintro rfl
    exact hne rfl
  | _ => exact congrFun (delivering_of_ne h (by simp) (by simp)) caller

/-- A connection moves on by its own steps. -/
theorem conns_frame (h : registry.step x e = some y) {c : ConnId}
    (hne : e.caller? ≠ some (.readLoop c)) : y.conns c = x.conns c := by
  -- another connection moves on
  have hmove : ∀ {k conn}, e.caller? = some (.readLoop k) →
      Function.update x.conns k conn c = x.conns c := by
    intro k conn hk
    refine Function.update_of_ne ?_ ..
    rintro rfl
    exact hne hk
  obtain ⟨-, hstep⟩ := step_cases h
  cases hstep with
  | register hc => exact hmove rfl
  | hangUp hc hd => exact hmove rfl
  | unregisterNone hc hu => exact hmove rfl
  | unregisterSome hc hu => exact hmove rfl
  | @panic caller ch m hd hclosed =>
    rw [State.addPanic_conns]
    cases caller with
    | rpc n => rfl
    | readLoop k =>
      simp only [unwind, State.setDelivering_conns]
      split
      · exact hmove rfl
      · rfl
  | _ => rfl

theorem conns_register {c : ConnId} {u : String} (h : registry.step x (.register c u) = some y) :
    y.conns c = .registered u := by
  obtain ⟨-, hstep⟩ := step_cases h
  cases hstep with
  | register hc => exact Function.update_self ..

theorem conns_hangUp {c : ConnId} (h : registry.step x (.hangUp c) = some y) :
    ∃ u, x.conns c = .registered u ∧ y.conns c = .closing u := by
  obtain ⟨-, hstep⟩ := step_cases h
  cases hstep with
  | hangUp hc hd => exact ⟨_, hc, Function.update_self ..⟩

theorem conns_unregister {c : ConnId} (h : registry.step x (.unregister c) = some y) :
    ∃ u, x.conns c = .closing u ∧ y.conns c = .unregistered u := by
  obtain ⟨-, hstep⟩ := step_cases h
  cases hstep with
  | unregisterNone hc hu => exact ⟨_, hc, Function.update_self ..⟩
  | unregisterSome hc hu => exact ⟨_, hc, Function.update_self ..⟩

theorem conns_lookup {caller : Caller} {r : String} {m : PersistedMessage}
    (h : registry.step x (.lookup caller r m) = some y) : y.conns = x.conns := by
  obtain ⟨-, hstep⟩ := step_cases h
  cases hstep with
  | lookup hready => rfl

/-- A send leaves its read loop running, or a panic ends it. -/
theorem conns_send {c : ConnId} {u : String} (h : registry.step x (.send (.readLoop c)) = some y)
    (hc : x.conns c = .registered u) : y.conns c = .registered u ∨ y.conns c = .closing u := by
  obtain ⟨-, hstep⟩ := step_cases h
  cases hstep with
  | deliver hd hopen hroom => exact Or.inl hc
  | full hd hopen hfull => exact Or.inl hc
  | panic hd hclosed =>
    refine Or.inr ?_
    simp [unwind, hc]

end Registry

/-! ### The presence keys -/

namespace Presence

variable {x y : State} {e : Event}

/-- The connection that an event moves on, and where to. -/
def Event.moves? : Event → Option (ConnId × Stage)
  | .connect c _ _ => some (c, .registering)
  | .set c _ => some (c, .opened)
  | .stop c => some (c, .closing)
  | .del c _ => some (c, .closed)
  | _ => none

theorem conns_frame (h : presence.step x e = some y) {c : ConnId}
    (hne : ∀ stage, e.moves? ≠ some (c, stage)) : y.conns c = x.conns c := by
  have hmove : ∀ {k conn stage}, e.moves? = some (k, stage) →
      Function.update x.conns k conn c = x.conns c := by
    intro k conn stage hk
    refine Function.update_of_ne ?_ ..
    rintro rfl
    exact hne stage hk
  cases step_cases h with
  | connect hc => exact hmove rfl
  | set hc =>
    rw [State.setHeartbeat_conns, State.setConn_conns, State.registerUser_conns]
    exact hmove rfl
  | stop hc => exact hmove rfl
  | del hc =>
    rw [State.setConn_conns, State.unregisterUser_conns]
    exact hmove rfl
  | beat hh hc => rw [State.setHeartbeat_conns, State.registerUser_conns]
  | expire => rw [State.unregisterUser_conns]
  | _ => rfl

theorem stage_of_moves (h : presence.step x e = some y) {c : ConnId} {stage : Stage}
    (hc : e.moves? = some (c, stage)) : (y.conns c).map Conn.stage = some stage := by
  cases step_cases h with
  | connect hnone =>
    cases hc
    rw [State.setConn_conns, Function.update_self]
    rfl
  | set hc' =>
    cases hc
    rw [State.setHeartbeat_conns, State.setConn_conns, Function.update_self]
    rfl
  | stop hc' =>
    cases hc
    rw [State.setConn_conns, Function.update_self]
    rfl
  | del hc' =>
    cases hc
    rw [State.setConn_conns, Function.update_self]
    rfl
  | _ => cases hc

end Presence

namespace Cluster

open MessageService (Redis CallId)

variable {ρ χ ε : Type} {R : Redis ρ χ ε} {addr : GwId → String}

/-! ### The views -/

/-- Where a connection of the user `u` is in the registry of its gateway. -/
def connOf (u : String) : Handler → Registry.Conn
  | .idle | .registering | .connecting => .fresh
  | .closing => .closing u
  | .unregistering | .closed => .unregistered u
  | _ => .registered u

/-- Where it is in the presence keys. -/
def stageOf : Handler → Option Presence.Stage
  | .idle => none
  | .registering => some .registering
  | .closing | .unregistering => some .closing
  | .closed => some .closed
  | _ => some .opened

/-- The registry and the presence keys agree with the handler of connection `c` about it. -/
structure Stands (s : State ρ) (c : ConnId) (sock : Socket) : Prop where
  conn : (s.gateways sock.gw).conns c = connOf sock.user (s.handlers c)
  delivering : ((s.gateways sock.gw).delivering (.readLoop c)).isSome = true ↔
    s.handlers c = .sending
  stage : (s.presence.conns c).map Presence.Conn.stage = stageOf (s.handlers c)

/-- They do for every connection. -/
def Standing (s : State ρ) : Prop := ∀ c sock, s.sockets c = some sock → Stands s c sock

section Standing

variable {s t : State ρ} {e : Event χ ε} {c k : ConnId} {sock : Socket}

/-- What a connection knows of itself is the same. -/
theorem Stands.congr (h : Stands s c sock) (hhandler : t.handlers c = s.handlers c)
    (hconn : (t.gateways sock.gw).conns c = (s.gateways sock.gw).conns c)
    (hdelivering : (t.gateways sock.gw).delivering (.readLoop c) =
      (s.gateways sock.gw).delivering (.readLoop c))
    (hpresence : t.presence.conns c = s.presence.conns c) : Stands t c sock where
  conn := by rw [hconn, hhandler, h.conn]
  delivering := by rw [hdelivering, hhandler, h.delivering]
  stage := by rw [hpresence, hhandler, h.stage]

/-- A registry takes a step that is no step of connection `c`. -/
theorem update_frame {g : GwId} {x : Registry.State} {e' : Registry.Event}
    (hx : registry.step (s.gateways g) e' = some x) (hne : e'.caller? ≠ some (.readLoop c))
    (k : GwId) : (Function.update s.gateways g x k).conns c = (s.gateways k).conns c ∧
      (Function.update s.gateways g x k).delivering (.readLoop c) =
        (s.gateways k).delivering (.readLoop c) := by
  by_cases hk : k = g
  · subst hk
    rw [Function.update_self]
    exact ⟨Registry.conns_frame hx hne, Registry.delivering_frame hx hne⟩
  · rw [Function.update_of_ne hk]
    exact ⟨rfl, rfl⟩

/-- The handler of connection `k` goes on to `x`, and the other connections stay as they are. -/
theorem Standing.turn {x : Handler} (h : Standing s) (hk : s.sockets k = some sock)
    (hsockets : t.sockets = s.sockets) (hhandlers : t.handlers = Function.update s.handlers k x)
    (hgateways : ∀ c, c ≠ k → ∀ g, (t.gateways g).conns c = (s.gateways g).conns c ∧
      (t.gateways g).delivering (.readLoop c) = (s.gateways g).delivering (.readLoop c))
    (hpresence : ∀ c, c ≠ k → t.presence.conns c = s.presence.conns c)
    (hconn : (t.gateways sock.gw).conns k = connOf sock.user x)
    (hdelivering : ((t.gateways sock.gw).delivering (.readLoop k)).isSome = true ↔ x = .sending)
    (hstage : (t.presence.conns k).map Presence.Conn.stage = stageOf x) : Standing t := by
  intro c sock' hc
  rw [hsockets] at hc
  by_cases hck : c = k
  · subst hck
    obtain rfl := Option.some.inj (hk.symm.trans hc)
    have hx : t.handlers c = x := by rw [hhandlers, Function.update_self]
    exact ⟨by rw [hx, hconn], by rw [hx, hdelivering], by rw [hx, hstage]⟩
  · obtain ⟨hconn', hdelivering'⟩ := hgateways c hck sock'.gw
    exact (h c sock' hc).congr (by rw [hhandlers, Function.update_of_ne hck]) hconn' hdelivering'
      (hpresence c hck)

/-- It does so with a step of its registry. -/
theorem Standing.move {x : Handler} {y : Registry.State} {e' : Registry.Event} (h : Standing s)
    (hk : s.sockets k = some sock) (hy : registry.step (s.gateways sock.gw) e' = some y)
    (hcaller : e'.caller? = some (.readLoop k)) (hsockets : t.sockets = s.sockets)
    (hhandlers : t.handlers = Function.update s.handlers k x)
    (hgateways : t.gateways = Function.update s.gateways sock.gw y)
    (hpresence : ∀ c, c ≠ k → t.presence.conns c = s.presence.conns c)
    (hconn : y.conns k = connOf sock.user x)
    (hdelivering : (y.delivering (.readLoop k)).isSome = true ↔ x = .sending)
    (hstage : (t.presence.conns k).map Presence.Conn.stage = stageOf x) : Standing t := by
  refine h.turn hk hsockets hhandlers ?_ hpresence ?_ ?_ hstage
  · intro c hc g
    rw [hgateways]
    exact update_frame hy (by simp [hcaller, Ne.symm hc]) g
  · rw [hgateways, Function.update_self, hconn]
  · rw [hgateways, Function.update_self, hdelivering]

/-- It goes on to a point where the registry and the presence keys see no difference. -/
theorem Standing.goOn {x y : Handler} (h : Standing s) (hk : s.sockets k = some sock)
    (hc : s.handlers k = y) (hsockets : t.sockets = s.sockets)
    (hhandlers : t.handlers = Function.update s.handlers k x) (hgateways : t.gateways = s.gateways)
    (hpresence : t.presence = s.presence) (hconn : connOf sock.user x = connOf sock.user y)
    (hstage : stageOf x = stageOf y) (hfrom : y ≠ .sending) (hto : x ≠ .sending) : Standing t := by
  obtain ⟨hconn', hdelivering', hstage'⟩ := h k sock hk
  rw [hc] at hconn' hdelivering' hstage'
  refine h.turn hk hsockets hhandlers ?_ ?_ ?_ ?_ ?_
  · intro c hc g
    rw [hgateways]
    exact ⟨rfl, rfl⟩
  · intro c hc
    rw [hpresence]
  · rw [hgateways, hconn', hconn]
  · rw [hgateways, hdelivering']
    exact iff_of_false hfrom hto
  · rw [hpresence, hstage', hstage]

/-- A step that none of the three sees. -/
theorem Standing.same (h : Standing s) (hsockets : t.sockets = s.sockets)
    (hhandlers : t.handlers = s.handlers) (hgateways : t.gateways = s.gateways)
    (hpresence : t.presence = s.presence) : Standing t := by
  intro c sock hc
  rw [hsockets] at hc
  exact (h c sock hc).congr (by rw [hhandlers]) (by rw [hgateways]) (by rw [hgateways])
    (by rw [hpresence])

/-- A step of a registry that no handler takes. -/
theorem Standing.ofRegistry {g : GwId} {x : Registry.State} {e' : Registry.Event} (h : Standing s)
    (hx : registry.step (s.gateways g) e' = some x) (hne : ∀ c, e'.caller? ≠ some (.readLoop c))
    (hsockets : t.sockets = s.sockets) (hhandlers : t.handlers = s.handlers)
    (hgateways : t.gateways = Function.update s.gateways g x) (hpresence : t.presence = s.presence) :
    Standing t := by
  intro c sock hc
  rw [hsockets] at hc
  obtain ⟨hconn, hdelivering⟩ := update_frame hx (hne c) sock.gw
  rw [← hgateways] at hconn hdelivering
  exact (h c sock hc).congr (by rw [hhandlers]) hconn hdelivering (by rw [hpresence])

/-- A step of the presence keys that no handler takes. -/
theorem Standing.ofPresence {p : Presence.State} {e' : Presence.Event} (h : Standing s)
    (hp : presence.step s.presence e' = some p) (hne : e'.moves? = none)
    (hsockets : t.sockets = s.sockets) (hhandlers : t.handlers = s.handlers)
    (hgateways : t.gateways = s.gateways) (hpresence : t.presence = p) : Standing t := by
  intro c sock hc
  rw [hsockets] at hc
  refine (h c sock hc).congr (by rw [hhandlers]) (by rw [hgateways]) (by rw [hgateways]) ?_
  rw [hpresence]
  exact Presence.conns_frame hp (by simp [hne])

/-- A connection that is not opened yet is known to no registry. -/
theorem fresh_of_unopened (hs : (cluster R addr).Reachable s) (hnone : s.sockets c = none)
    (g : GwId) : (s.gateways g).conns c = .fresh ∧ (s.gateways g).delivering (.readLoop c) = none := by
  have hfresh : (s.gateways g).conns c = .fresh := by
    cases hconn : (s.gateways g).conns c with
    | fresh => rfl
    | _ => exact absurd ((wired hs).socket g c _ (by rw [hconn]; rfl)) (by simp [hnone])
  refine ⟨hfresh, ?_⟩
  cases hd : (s.gateways g).delivering (.readLoop c) with
  | none => rfl
  | some d =>
    obtain ⟨u, hu⟩ := (Registry.inv (gateway_reachable hs g)).busy c d hd
    rw [hfresh] at hu
    cases hu

/-- A heartbeat takes the steps of a heartbeat only. -/
theorem ofHeartbeat_of_step {e' : Presence.Event}
    (h : (cluster R addr).step s (.heartbeat c e') = some t) : ofHeartbeat c e' = true := by
  simp only [cluster, Cluster.step] at h
  split_ifs at h with hown
  exact hown.2

/-- **One step** leaves the views of a connection together. -/
theorem Standing.step (hs : (cluster R addr).Reachable s) (hstep : (cluster R addr).step s e = some t)
    (h : Standing s) : Standing t := by
  -- the presence keys take a step of the handler of `k`
  have hpresence : ∀ {k p e' stage}, presence.step s.presence e' = some p →
      e'.moves? = some (k, stage) → ∀ c, c ≠ k → p.conns c = s.presence.conns c := by
    intro k p e' stage hp hmoves c hc
    exact Presence.conns_frame hp (by simp [hmoves, Ne.symm hc])
  have hcases := step_cases hstep
  cases hcases with
  | @connect k g u p hnew hp =>
    intro c sock hc
    have hc' : Function.update s.sockets k (some ⟨g, u⟩) c = some sock := hc
    by_cases hck : c = k
    · subst hck
      rw [Function.update_self] at hc'
      obtain rfl := Option.some.inj hc'
      obtain ⟨hfresh, hd⟩ := fresh_of_unopened hs hnew g
      have hhandler : (((s.setPresence p).upgrade c ⟨g, u⟩).setHandler c .registering).handlers c =
          .registering := Function.update_self ..
      refine ⟨?_, ?_, ?_⟩
      · rw [hhandler]
        exact hfresh
      · rw [hhandler]
        refine iff_of_false (fun hsome => ?_) (by simp)
        change ((s.gateways g).delivering (.readLoop c)).isSome = true at hsome
        rw [hd] at hsome
        cases hsome
      · rw [hhandler]
        exact Presence.stage_of_moves hp rfl
    · rw [Function.update_of_ne hck] at hc'
      exact (h c sock hc').congr (Function.update_of_ne hck ..) rfl rfl (hpresence hp rfl c hck)
  | @registerUser k sock ok p hk hc hp =>
    obtain ⟨hconn, hdelivering, hstage⟩ := h k sock hk
    rw [hc] at hconn hdelivering
    exact h.turn hk rfl rfl (fun _ _ _ => ⟨rfl, rfl⟩) (hpresence hp rfl) hconn
      (hdelivering.trans (by simp)) (Presence.stage_of_moves hp rfl)
  | @registerConn k sock x hk hc hx =>
    obtain ⟨hconn, hdelivering, hstage⟩ := h k sock hk
    rw [hc] at hdelivering hstage
    refine h.move hk hx rfl rfl rfl rfl (fun _ _ => rfl) (Registry.conns_register hx) ?_ hstage
    rw [Registry.delivering_of_ne hx (by simp) (by simp), hdelivering]
    simp
  | ignore hk hc hraw => exact h
  | frame hk hc hraw hx => exact h.goOn hk hc rfl rfl rfl rfl rfl rfl (by simp) (by simp)
  | persisted hk hc hm => exact h.goOn hk hc rfl rfl rfl rfl rfl rfl (by simp) (by simp)
  | persistFailed hk hc => exact h.goOn hk hc rfl rfl rfl rfl rfl rfl (by simp) (by simp)
  | @ack k sock r m arrives ok hk hc =>
    refine h.goOn hk hc (write_sockets ..) (congrArg (Function.update · k _) (write_handlers ..))
      (write_gateways ..) (write_presence ..) ?_ ?_ (by simp) ?_
    · cases ok <;> rfl
    · cases ok <;> rfl
    · cases ok <;> simp
  | locateNowhere hk hc hroute => exact h.goOn hk hc rfl rfl rfl rfl rfl rfl (by simp) (by simp)
  | locateHere hk hc hroute => exact h.goOn hk hc rfl rfl rfl rfl rfl rfl (by simp) (by simp)
  | locatePeer hk hc hp hroute => exact h.goOn hk hc rfl rfl rfl rfl rfl rfl (by simp) (by simp)
  | @lookup k sock r m x hk hc hx =>
    obtain ⟨hconn, hdelivering, hstage⟩ := h k sock hk
    rw [hc] at hconn hstage
    refine h.move hk hx rfl rfl rfl rfl (fun _ _ => rfl) ?_ ?_ ?_
    · rw [Registry.conns_lookup hx, hconn]
      split <;> rfl
    · split_ifs with hsome <;> simp [hsome]
    · refine hstage.trans ?_
      split <;> rfl
  | @send k sock x p hk hc hx hp =>
    obtain ⟨hconn, hdelivering, hstage⟩ := h k sock hk
    rw [hc] at hconn hstage
    have hnone : x.delivering (.readLoop k) = none := by
      rw [(Registry.delivering_send hx).2, Function.update_self]
    rcases Registry.conns_send hx hconn with hrunning | hover
    · rw [unwound, hrunning] at hp
      obtain rfl := Option.some.inj hp
      rw [afterSend, hrunning]
      exact h.move hk hx rfl rfl rfl rfl (fun _ _ => rfl) hrunning (by simp [hnone]) hstage
    · rw [unwound, hover] at hp
      rw [afterSend, hover]
      exact h.move hk hx rfl rfl rfl rfl (hpresence hp rfl) hover (by simp [hnone])
        (Presence.stage_of_moves hp rfl)
  | @hangUp k sock x p hk hc hx hp =>
    obtain ⟨hconn, hdelivering, hstage⟩ := h k sock hk
    rw [hc] at hconn hdelivering
    obtain ⟨u, hu, hover⟩ := Registry.conns_hangUp hx
    obtain rfl := Registry.Conn.registered.inj (hconn.symm.trans hu)
    refine h.move hk hx rfl rfl rfl rfl (hpresence hp rfl) hover ?_ (Presence.stage_of_moves hp rfl)
    rw [Registry.delivering_of_ne hx (by simp) (by simp), hdelivering]
    simp
  | @unregisterConn k sock x hk hc hx =>
    obtain ⟨hconn, hdelivering, hstage⟩ := h k sock hk
    rw [hc] at hconn hdelivering hstage
    obtain ⟨u, hu, hover⟩ := Registry.conns_unregister hx
    obtain rfl := Registry.Conn.closing.inj (hconn.symm.trans hu)
    refine h.move hk hx rfl rfl rfl rfl (fun _ _ => rfl) hover ?_ hstage
    rw [Registry.delivering_of_ne hx (by simp) (by simp), hdelivering]
    simp
  | @unregisterUser k sock ok p hk hc hp =>
    obtain ⟨hconn, hdelivering, hstage⟩ := h k sock hk
    rw [hc] at hconn hdelivering
    exact h.turn hk rfl rfl (fun _ _ _ => ⟨rfl, rfl⟩) (hpresence hp rfl) hconn
      (hdelivering.trans (by simp)) (Presence.stage_of_moves hp rfl)
  | receive hk hc hbuf hx => exact h.ofRegistry hx (by simp [Registry.Event.caller?]) rfl rfl rfl rfl
  | drained hk hc hclosed => exact h.same rfl rfl rfl rfl
  | write hk hc =>
    exact h.same (write_sockets ..) (write_handlers ..) (write_gateways ..) (write_presence ..)
  | deliverNothing hp hm => exact h.same rfl rfl rfl rfl
  | deliverMessage hp hm hx => exact h.ofRegistry hx (by simp [Registry.Event.caller?]) rfl rfl rfl rfl
  | peerSend hp hx => exact h.ofRegistry hx (by simp [Registry.Event.caller?]) rfl rfl rfl rfl
  | peerFail hp => exact h.same rfl rfl rfl rfl
  | @heartbeat k e' p hp =>
    have hown := ofHeartbeat_of_step hstep
    refine h.ofPresence hp ?_ rfl rfl rfl rfl
    cases e' with
    | tick => rfl
    | beat => rfl
    | exit => rfl
    | _ => cases hown
  | expire hp => exact h.ofPresence hp rfl rfl rfl rfl rfl
  | service hx => exact h.same rfl rfl rfl rfl

/-- **The views of every connection agree** in every state reached. -/
theorem standing (hs : (cluster R addr).Reachable s) : Standing s := by
  refine hs.induction (fun c sock hc => by cases hc) fun s e t hs ih hstep => ?_
  exact ih.step hs hstep

end Standing

/-! ### The RPCs -/

section Rpcs

variable {s t : State ρ} {e : Event χ ε} {p : RpcId}

@[simp] theorem write_peers (s : State ρ) (c : ConnId) (frame : Frame) (arrives : Bool) :
    (s.write c frame arrives).peers = s.peers := by
  unfold State.write
  split <;> rfl

/-- The registry that executes an RPC agrees about it with the goroutine that issued it. -/
def Rpcs (s : State ρ) : Prop :=
  ∀ p g, ((s.gateways g).delivering (.rpc p)).isSome = true ↔ s.peers p = .sending g

theorem Rpcs.same (h : Rpcs s) (hgateways : t.gateways = s.gateways) (hpeers : t.peers = s.peers) :
    Rpcs t := by
  intro p g
  rw [hgateways, hpeers]
  exact h p g

/-- A registry takes a step that is no RPC's. -/
theorem Rpcs.ofRegistry {g : GwId} {x : Registry.State} {e' : Registry.Event} (h : Rpcs s)
    (hx : registry.step (s.gateways g) e' = some x) (hne : ∀ p, e'.caller? ≠ some (.rpc p))
    (hgateways : t.gateways = Function.update s.gateways g x) (hpeers : t.peers = s.peers) :
    Rpcs t := by
  intro p k
  rw [hgateways, hpeers, ← h p k]
  by_cases hk : k = g
  · subst hk
    rw [Function.update_self, Registry.delivering_frame hx (hne p)]
  · rw [Function.update_of_ne hk]

/-- A goroutine that is in no registry goes on outside of them. -/
theorem Rpcs.setPeer {q : Peer} (h : Rpcs s) (hp : ∀ g, s.peers p ≠ .sending g)
    (hq : ∀ g, q ≠ .sending g) (hgateways : t.gateways = s.gateways)
    (hpeers : t.peers = Function.update s.peers p q) : Rpcs t := by
  intro k g
  rw [hgateways, hpeers, h k g]
  by_cases hk : k = p
  · subst hk
    rw [Function.update_self]
    exact iff_of_false (hp g) (hq g)
  · rw [Function.update_of_ne hk]

/-- The registry of `g` takes a step of the RPC `p`. -/
theorem Rpcs.move {g : GwId} {x : Registry.State} {e' : Registry.Event} {q : Peer} (h : Rpcs s)
    (hx : registry.step (s.gateways g) e' = some x) (hcaller : e'.caller? = some (.rpc p))
    (hother : ∀ k, k ≠ g → s.peers p ≠ .sending k) (hother' : ∀ k, k ≠ g → q ≠ .sending k)
    (hd : (x.delivering (.rpc p)).isSome = true ↔ q = .sending g)
    (hgateways : t.gateways = Function.update s.gateways g x)
    (hpeers : t.peers = Function.update s.peers p q) : Rpcs t := by
  intro n k
  rw [hgateways, hpeers]
  by_cases hn : n = p
  · subst hn
    rw [Function.update_self]
    by_cases hk : k = g
    · subst hk
      rw [Function.update_self, hd]
    · rw [Function.update_of_ne hk, h n k]
      exact iff_of_false (hother k hk) (hother' k hk)
  · rw [Function.update_of_ne hn, ← h n k]
    by_cases hk : k = g
    · subst hk
      rw [Function.update_self, Registry.delivering_frame hx (by simp [hcaller, Ne.symm hn])]
    · rw [Function.update_of_ne hk]

/-- **One step** of the RPCs. -/
theorem Rpcs.step (hstep : Step R addr s e t) (h : Rpcs s) : Rpcs t := by
  cases hstep with
  | registerConn hk hc hx => exact h.ofRegistry hx (by simp [Registry.Event.caller?]) rfl rfl
  | lookup hk hc hx => exact h.ofRegistry hx (by simp [Registry.Event.caller?]) rfl rfl
  | send hk hc hx hp => exact h.ofRegistry hx (by simp [Registry.Event.caller?]) rfl rfl
  | hangUp hk hc hx hp => exact h.ofRegistry hx (by simp [Registry.Event.caller?]) rfl rfl
  | unregisterConn hk hc hx => exact h.ofRegistry hx (by simp [Registry.Event.caller?]) rfl rfl
  | receive hk hc hbuf hx => exact h.ofRegistry hx (by simp [Registry.Event.caller?]) rfl rfl
  | ack hk hc => exact h.same (write_gateways ..) (write_peers ..)
  | write hk hc => exact h.same (write_gateways ..) (write_peers ..)
  | locatePeer hk hc hp hroute => exact h.setPeer (by simp [hp]) (by simp) rfl rfl
  | deliverNothing hp hm => exact h.setPeer (by simp [hp]) (by simp) rfl rfl
  | @deliverMessage p g target m msg x hp hm hx =>
    refine h.move hx rfl (by simp [hp]) ?_ ?_ rfl rfl
    · intro k hk
      split <;> simp [Ne.symm hk]
    · split_ifs with hsome <;> simp [hsome]
  | @peerSend p g x hp hx =>
    refine h.move hx rfl (by simp [hp, eq_comm]) (by simp) ?_ rfl rfl
    rw [(Registry.delivering_send hx).2, Function.update_self]
    simp
  | peerFail hp => exact h.setPeer (by simp [hp]) (by simp) rfl rfl
  | _ => exact h.same rfl rfl

theorem rpcs (hs : (cluster R addr).Reachable s) : Rpcs s := by
  refine Lts.System.invariant (I := Rpcs) ?_ (fun s e t ih hstep => ih.step (step_cases hstep)) hs
  intro p g
  exact iff_of_false (by simp [cluster, init, Registry.init]) (by simp [cluster, init])

end Rpcs

end Cluster

end TinyTelegram.Gateway
