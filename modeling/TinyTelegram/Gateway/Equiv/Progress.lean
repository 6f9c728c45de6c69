import TinyTelegram.Gateway.Equiv.Connections

/-!
# Nothing gets stuck

As long as no process is gone, a handler that has begun has a step to take (`handler_enabled`), since
the registry and the presence keys agree with it about its connection.

A message on its way to a channel is with a handler, with the goroutine that calls a peer, or in
`DeliverLocal`, and whoever has it can take the next step: the registry is ready for the caller, and
there is a gateway at every address in presence (`Addressed`).  Each such step brings it nearer to the
end of its way (`advance`), so a few of them bring it there (`finish`).
-/

namespace TinyTelegram.Gateway

/-! ### The registry -/

namespace Registry

variable {x y : State} {caller : Caller} {m : PersistedMessage}

/-- A caller that is ready is not refused. -/
theorem step_lookup (halive : x.crashed = false) (hready : ready x caller = true) (r : String)
    (m : PersistedMessage) : registry.step x (.lookup caller r m) = some (lookup x caller r m) := by
  simp [registry, step, stepAlive, halive, hready]

theorem step_send {ch : ConnId} (halive : x.crashed = false)
    (hd : x.delivering caller = some (ch, m)) :
    registry.step x (.send caller) = some (finishSend caller (send x ch m)) := by
  simp [registry, step, stepAlive, halive, hd]

theorem step_register {c : ConnId} (halive : x.crashed = false) (hc : x.conns c = .fresh)
    (u : String) : ∃ y, registry.step x (.register c u) = some y := by
  exact ⟨_, by simp only [registry, step, halive, stepAlive, hc]; rfl⟩

theorem step_hangUp {c : ConnId} {u : String} (halive : x.crashed = false)
    (hc : x.conns c = .registered u) (hd : x.delivering (.readLoop c) = none) :
    ∃ y, registry.step x (.hangUp c) = some y := by
  exact ⟨_, by simp only [registry, step, halive, stepAlive, hc, hd]; rfl⟩

theorem step_unregister {c : ConnId} {u : String} (halive : x.crashed = false)
    (hc : x.conns c = .closing u) : ∃ y, registry.step x (.unregister c) = some y := by
  exact ⟨_, by simp only [registry, step, halive, stepAlive, hc]; rfl⟩

theorem crashed_lookup {r : String} (h : registry.step x (.lookup caller r m) = some y) :
    y.crashed = false := by
  obtain ⟨halive, hstep⟩ := step_cases h
  cases hstep with
  | lookup hready => exact halive

/-- A process goes down with an RPC that sends to a closed channel. -/
theorem crashed_step {e : Event} (h : registry.step x e = some y) (hcrashed : y.crashed = true) :
    ∃ n ch m, e = .send (.rpc n) ∧ x.delivering (.rpc n) = some (ch, m) ∧
      (x.chans ch).closedBy ≠ none := by
  obtain ⟨halive, hstep⟩ := step_cases h
  have hsame : y.panics = x.panics → False := by
    intro hpanics
    rw [State.crashed, hpanics, ← State.crashed, halive] at hcrashed
    cases hcrashed
  cases hstep with
  | @panic caller ch m hd hclosed =>
    cases caller with
    | rpc n => exact ⟨n, ch, m, rfl, hd, hclosed⟩
    | readLoop c =>
      rw [State.crashed, State.addPanic_panics, unwind_panics, State.setDelivering_panics,
        List.any_append, ← State.crashed, halive] at hcrashed
      cases hcrashed
  | _ => exact (hsame rfl).elim

end Registry

/-! ### The addresses -/

namespace Presence

variable {x y : State} {e : Event} {P : String → Prop}

/-- The connections and the keys have no addresses but those that handlers come with. -/
theorem addr_step (h : presence.step x e = some y) (hnew : ∀ c u a, e = .connect c u a → P a)
    (hconns : ∀ c conn, x.conns c = some conn → P conn.addr)
    (hpresence : ∀ u a, x.presence u = some a → P a) :
    (∀ c conn, y.conns c = some conn → P conn.addr) ∧ ∀ u a, y.presence u = some a → P a := by
  -- a connection moves on, and a key is set
  have hset : ∀ {k conn}, P conn.addr → ∀ c conn',
      Function.update x.conns k (some conn) c = some conn' → P conn'.addr := by
    intro k conn hconn c conn' hc
    rw [Function.update_apply] at hc
    split_ifs at hc with hck
    · rw [← Option.some.inj hc]
      exact hconn
    · exact hconns c conn' hc
  have hregister : ∀ {u a ok}, P a → ∀ v b, (x.registerUser u a ok).presence v = some b → P b := by
    intro u a ok ha v b hb
    unfold State.registerUser at hb
    split_ifs at hb
    · change Function.update x.presence u (some a) v = some b at hb
      rw [Function.update_apply] at hb
      split_ifs at hb with hv
      · rw [← Option.some.inj hb]
        exact ha
      · exact hpresence v b hb
    · exact hpresence v b hb
  have hunregister : ∀ {u ok} v b, (x.unregisterUser u ok).presence v = some b → P b := by
    intro u ok v b hb
    unfold State.unregisterUser at hb
    split_ifs at hb
    · change Function.update x.presence u none v = some b at hb
      rw [Function.update_apply] at hb
      split_ifs at hb with hv
      exact hpresence v b hb
    · exact hpresence v b hb
  cases step_cases h with
  | connect hc => exact ⟨hset (hnew _ _ _ rfl), hpresence⟩
  | set hc =>
    have ha := hconns _ _ hc
    refine ⟨?_, hregister ha⟩
    rw [State.setHeartbeat_conns, State.setConn_conns, State.registerUser_conns]
    exact hset ha
  | beat hh hc =>
    refine ⟨?_, hregister (hconns _ _ hc)⟩
    rw [State.setHeartbeat_conns, State.registerUser_conns]
    exact hconns
  | stop hc =>
    have ha := hconns _ _ hc
    exact ⟨hset ha, hpresence⟩
  | del hc =>
    have ha := hconns _ _ hc
    refine ⟨?_, hunregister⟩
    rw [State.setConn_conns, State.unregisterUser_conns]
    exact hset ha
  | expire =>
    refine ⟨?_, hunregister⟩
    rw [State.unregisterUser_conns]
    exact hconns
  | _ => exact ⟨hconns, hpresence⟩

/-- What a handler asks of the presence keys is not refused at its stage. -/
theorem step_set {c : ConnId} (h : (x.conns c).map Conn.stage = some .registering) (ok : Bool) :
    ∃ y, presence.step x (.set c ok) = some y := by
  obtain ⟨⟨u, a, stage⟩, hc, rfl⟩ := Option.map_eq_some_iff.mp h
  exact ⟨((x.registerUser u a ok).setConn c ⟨u, a, .opened⟩).setHeartbeat c .waiting,
    by simp [presence, step, hc]⟩

theorem step_del {c : ConnId} (h : (x.conns c).map Conn.stage = some .closing) (ok : Bool) :
    ∃ y, presence.step x (.del c ok) = some y := by
  obtain ⟨⟨u, a, stage⟩, hc, rfl⟩ := Option.map_eq_some_iff.mp h
  exact ⟨(x.unregisterUser u ok).setConn c ⟨u, a, .closed⟩, by simp [presence, step, hc]⟩

theorem step_stop {c : ConnId} (h : (x.conns c).map Conn.stage = some .opened) :
    ∃ y, presence.step x (.stop c) = some y := by
  obtain ⟨⟨u, a, stage⟩, hc, rfl⟩ := Option.map_eq_some_iff.mp h
  exact ⟨x.setConn c ⟨u, a, .closing⟩, by simp [presence, step, hc]⟩

end Presence

namespace Cluster

open MessageService (Redis CallId)

variable {ρ χ ε : Type} {R : Redis ρ χ ε} {addr : GwId → String}

section Addressed

variable {s t : State ρ} {e : Event χ ε}

/-- A peer is called at the address in presence. -/
theorem route_eq_peer {presenceAddr target : String} {answer : Option String}
    (h : route presenceAddr answer = .peer target) : answer = some target ∧ target ≠ "" := by
  cases answer with
  | none => cases h
  | some a =>
    simp only [route] at h
    split_ifs at h with hempty
    obtain rfl := Route.peer.inj h
    exact ⟨rfl, hempty⟩

/-- There is a gateway at every address that a connection, a presence key or an RPC has. -/
structure Addressed (addr : GwId → String) (s : State ρ) : Prop where
  conn : ∀ c conn, s.presence.conns c = some conn → conn.addr ∈ Set.range addr
  key : ∀ u a, s.presence.presence u = some a → a ∈ Set.range addr
  call : ∀ p target m, s.peers p = .calling target m → target ∈ Set.range addr

theorem Addressed.same (h : Addressed addr s) (hpresence : t.presence = s.presence)
    (hpeers : ∀ p target m, t.peers p = .calling target m → target ∈ Set.range addr) :
    Addressed addr t where
  conn := by rw [hpresence]; exact h.conn
  key := by rw [hpresence]; exact h.key
  call := hpeers

theorem Addressed.step (hstep : (cluster R addr).step s e = some t) (h : Addressed addr s) :
    Addressed addr t := by
  have hset : ∀ {p q}, (∀ target m, q = .calling target m → target ∈ Set.range addr) →
      ∀ n target m, Function.update s.peers p q n = .calling target m → target ∈ Set.range addr := by
    intro p q hq n target m hn
    rw [Function.update_apply] at hn
    split_ifs at hn
    · exact hq target m hn
    · exact h.call n target m hn
  -- the presence keys take a step that is none of a new connection
  have hold : ∀ {p e'}, presence.step s.presence e' = some p → (∀ c u a, e' ≠ .connect c u a) →
      t.presence = p → t.peers = s.peers → Addressed addr t := by
    intro p e' hp hne hpresence hpeers
    obtain ⟨hconns, hkeys⟩ := Presence.addr_step hp (fun c u a he => (hne c u a he).elim) h.conn
      h.key
    exact ⟨hpresence ▸ hconns, hpresence ▸ hkeys, hpeers ▸ h.call⟩
  have hcases := step_cases hstep
  cases hcases with
  | @connect c g u p hnew hp =>
    obtain ⟨hconns, hkeys⟩ := Presence.addr_step (P := (· ∈ Set.range addr)) hp
      (fun c' u' a he => by cases he; exact ⟨g, rfl⟩) h.conn h.key
    exact ⟨hconns, hkeys, h.call⟩
  | registerUser hk hc hp => exact hold hp (by simp) rfl rfl
  | @send c sock x p hk hc hx hp =>
    unfold unwound at hp
    split at hp
    · obtain rfl := Option.some.inj hp
      exact h.same rfl h.call
    · exact hold hp (by simp) rfl rfl
  | hangUp hk hc hx hp => exact hold hp (by simp) rfl rfl
  | unregisterUser hk hc hp => exact hold hp (by simp) rfl rfl
  | @heartbeat c e' p hp =>
    refine hold hp ?_ rfl rfl
    rintro k u a rfl
    have hown := ofHeartbeat_of_step hstep
    cases hown
  | expire hp => exact hold hp (by simp) rfl rfl
  | ack hk hc => exact h.same (write_presence ..) (write_peers s .. ▸ h.call)
  | write hk hc => exact h.same (write_presence ..) (write_peers s .. ▸ h.call)
  | @locatePeer c sock r m fail p target hk hc hp hroute =>
    refine h.same rfl (hset ?_)
    rintro target m' ⟨⟩
    obtain ⟨hanswer, -⟩ := route_eq_peer hroute
    cases fail with
    | true => cases hanswer
    | false => exact h.key r target hanswer
  | deliverNothing hp hm => exact h.same rfl (hset (by simp))
  | @deliverMessage p g target m msg x hp hm hx =>
    refine h.same rfl (hset ?_)
    intro target' m' hq
    split at hq <;> cases hq
  | peerSend hp hx => exact h.same rfl (hset (by simp))
  | peerFail hp => exact h.same rfl (hset (by simp))
  | _ => exact h.same rfl h.call

theorem addressed_init : Addressed addr (init R) where
  conn _ _ h := by cases h
  key _ _ h := by cases h
  call _ _ _ h := by cases h

theorem addressed (hs : (cluster R addr).Reachable s) : Addressed addr s :=
  Lts.System.invariant (I := Addressed addr) addressed_init (fun _ _ _ ih hstep => ih.step hstep) hs

/-- Only finitely many RPCs have been issued. -/
theorem exists_idle (hs : (cluster R addr).Reachable s) : ∃ p, s.peers p = .idle := by
  obtain ⟨n, hn⟩ : ∃ n, ∀ p, n ≤ p → s.peers p = .idle := by
    refine Lts.System.invariant (I := fun s : State ρ => ∃ n, ∀ p, n ≤ p → s.peers p = .idle)
      ⟨0, fun p _ => rfl⟩ ?_ hs
    rintro s e t ⟨n, hn⟩ hstep
    have hset : ∀ {p q}, t.peers = Function.update s.peers p q →
        ∃ n, ∀ p, n ≤ p → t.peers p = .idle := by
      intro p q hpeers
      refine ⟨max n (p + 1), fun k hk => ?_⟩
      have hp : p < k := lt_of_lt_of_le (Nat.lt_succ_self p) ((le_max_right ..).trans hk)
      rw [hpeers, Function.update_of_ne hp.ne', hn k ((le_max_left ..).trans hk)]
    cases step_cases hstep with
    | locatePeer hk hc hp hroute => exact hset rfl
    | deliverNothing hp hm => exact hset rfl
    | deliverMessage hp hm hx => exact hset rfl
    | peerSend hp hx => exact hset rfl
    | peerFail hp => exact hset rfl
    | ack hk hc =>
      refine ⟨n, ?_⟩
      show ∀ p, n ≤ p → (State.write ..).peers p = _
      rwa [write_peers]
    | write hk hc =>
      refine ⟨n, ?_⟩
      show ∀ p, n ≤ p → (State.write ..).peers p = _
      rwa [write_peers]
    | _ => exact ⟨n, hn⟩
  exact ⟨n, hn n le_rfl⟩

end Addressed

/-! ### One message, one leg -/

/-- The place of a leg. -/
def Leg.place : Leg → Place
  | .acking c | .routing c => .handler c
  | .peer p => .peer p
  | .inFlight g caller ch => .gateway g (.inFlight caller ch)

section Legs

variable {s t : State ρ} {l l' : Leg} {m m' : PersistedMessage}

theorem routing?_of_acking {h : Handler} (hm : acking? h = some m) : routing? h = none := by
  cases h with
  | acking r m => rfl
  | _ => cases hm

theorem held_of_carried (hl : carried? s l = some m) : m ∈ held s l.place := by
  cases l with
  | acking c =>
    simp only [carried?] at hl
    cases hc : s.handlers c <;> simp [hc, acking?] at hl
    simp [held, Leg.place, hc, handlerHeld, pending?, hl]
  | routing c =>
    simp only [carried?] at hl
    cases hc : s.handlers c <;> simp [hc, routing?] at hl <;>
      simp [held, Leg.place, hc, handlerHeld, pending?, hl]
  | peer p =>
    simp only [carried?] at hl
    cases hp : s.peers p <;> simp [hp, calling?] at hl
    simp [held, Leg.place, hp, peerHeld, hl]
  | inFlight g caller ch =>
    obtain ⟨⟨k, m'⟩, hd, hk⟩ := Option.bind_eq_some_iff.mp hl
    obtain ⟨rfl, heq⟩ := Option.ite_none_right_eq_some.mp hk
    obtain rfl := Option.some.inj heq
    show m' ∈ Registry.held (s.gateways g) (.inFlight caller k)
    rw [Registry.held_inFlight hd]
    exact List.mem_singleton_self m'

/-- No message id is on two legs. -/
theorem carried_unique (hs : (cluster R addr).Reachable s) (hl : carried? s l = some m)
    (hl' : carried? s l' = some m') (hid : m.id = m'.id) : l = l' ∧ m = m' := by
  have hplace : l.place = l'.place := by
    refine (sound hs).linear.place_unique _ _ m.id (List.mem_map_of_mem (held_of_carried hl)) ?_
    rw [hid]
    exact List.mem_map_of_mem (held_of_carried hl')
  have heq : l = l' := by
    cases l <;> cases l' <;> simp_all [Leg.place, carried?, routing?_of_acking]
  subst heq
  exact ⟨rfl, Option.some.inj (hl.symm.trans hl')⟩

/-- A message that leaves its leg is on none. -/
theorem gone_of_update (hs : (cluster R addr).Reachable s) (hl : carried? s l = some m)
    (ht : carried? t = Function.update (carried? s) l none) :
    ∀ k m', carried? t k = some m' → m'.id ≠ m.id := by
  intro k m' hk hid
  rw [ht] at hk
  by_cases hkl : k = l
  · subst hkl
    rw [Function.update_self] at hk
    cases hk
  · rw [Function.update_of_ne hkl] at hk
    exact hkl (carried_unique hs hk hl hid).1

end Legs

/-! ### Who has it can go on -/

/-- A message is on its way to a channel. -/
def Underway (s : State ρ) (m : PersistedMessage) : Prop := ∃ l, carried? s l = some m

/-- The event is no Redis command of a gateway, RPC or socket write that fails. -/
def succeeds : Event χ ε → Bool
  | .handler _ (.registerUser ok) | .handler _ (.unregisterUser ok)
  | .heartbeat _ (.beat _ ok) => ok
  | .handler _ (.ack arrives ok) | .writer _ (.write arrives ok) => arrives && ok
  | .handler _ (.locate fail _) => !fail
  | .handler _ .persistFailed | .peer _ .fail => false
  | _ => true

/-- A step that succeeds, and is not the last one of a handler. -/
def Keeps (e : Event χ ε) : Prop := succeeds e = true ∧ ∀ c ok, e ≠ .handler c (.unregisterUser ok)

/-- How far a leg is from the end of the way. -/
def Leg.distance (s : State ρ) : Leg → ℕ
  | .acking _ => 5
  | .routing c =>
    match s.handlers c with
    | .delivering .. => 3
    | _ => 4
  | .peer _ => 2
  | .inFlight .. => 1

/-- No process is gone. -/
def Alive (s : State ρ) : Prop := ∀ g, (s.gateways g).crashed = false

section Progress

variable {s t : State ρ} {l : Leg} {m : PersistedMessage} {c : ConnId} {sock : Socket}

theorem Alive.setGateway {g : GwId} {x : Registry.State} (h : Alive s) (hx : x.crashed = false)
    (hgateways : t.gateways = Function.update s.gateways g x) : Alive t := by
  intro k
  rw [hgateways, Function.update_apply]
  split_ifs
  · exact hx
  · exact h k

/-- Processes stay alive as long as no RPC sends to a closed channel. -/
theorem Alive.step {e : Event χ ε} (h : Alive s) (hstep : Step R addr s e t)
    (hopen : ∀ p, e = .peer p .send → ∀ d ∈ sent? s e, ((s.gateways d.1).chans d.2.1).closedBy = none) :
    Alive t := by
  -- the registry of `g` takes the step `e'`
  have hreg : ∀ {g e' x}, registry.step (s.gateways g) e' = some x →
      t.gateways = Function.update s.gateways g x →
      (∀ n d, e' = .send (.rpc n) → (s.gateways g).delivering (.rpc n) = some d →
        ((s.gateways g).chans d.1).closedBy = none) → Alive t := by
    intro g e' x hx hgateways hsent
    refine h.setGateway ?_ hgateways
    rw [← Bool.not_eq_true]
    intro hcrashed
    obtain ⟨n, ch, m, he', hd, hclosed⟩ := Registry.crashed_step hx hcrashed
    exact hclosed (hsent n _ he' hd)
  have hsame : t.gateways = s.gateways → Alive t := by
    intro hgateways g
    rw [hgateways, h g]
  cases hstep with
  | registerConn hk hc hx => exact hreg hx rfl (by simp)
  | lookup hk hc hx => exact hreg hx rfl (by simp)
  | send hk hc hx hp => exact hreg hx rfl (by simp)
  | hangUp hk hc hx hp => exact hreg hx rfl (by simp)
  | unregisterConn hk hc hx => exact hreg hx rfl (by simp)
  | receive hk hc hbuf hx => exact hreg hx rfl (by simp)
  | deliverMessage hp hm hx => exact hreg hx rfl (by simp)
  | @peerSend p g x hp hx =>
    refine hreg hx rfl fun n d he' hd => ?_
    cases he'
    exact hopen p rfl (g, d) (by simp [sent?, hp, hd])
  | ack hk hc => exact hsame (write_gateways ..)
  | write hk hc => exact hsame (write_gateways ..)
  | _ => exact hsame rfl

theorem Alive.live (h : Alive s) (hc : s.sockets c = some sock) : s.live? c = some sock := by
  simp [State.live?, hc, h sock.gw]

/-- A handler that has begun has a socket, and its process is alive. -/
theorem handler_live (hs : (cluster R addr).Reachable s) (halive : Alive s)
    (hc : s.handlers c ≠ .idle) : ∃ sock, s.sockets c = some sock ∧ s.live? c = some sock := by
  cases hsock : s.sockets c with
  | none => exact absurd (unopened hs hsock).1 hc
  | some sock => exact ⟨sock, rfl, halive.live hsock⟩

theorem acking?_eq_some {h : Handler} (hm : acking? h = some m) : ∃ r, h = .acking r m := by
  cases h with
  | acking r m' =>
    obtain rfl := Option.some.inj hm
    exact ⟨r, rfl⟩
  | _ => cases hm

theorem routing?_eq_some {h : Handler} (hm : routing? h = some m) :
    ∃ r, h = .locating r m ∨ h = .delivering r m := by
  cases h with
  | locating r m' =>
    obtain rfl := Option.some.inj hm
    exact ⟨r, Or.inl rfl⟩
  | delivering r m' =>
    obtain rfl := Option.some.inj hm
    exact ⟨r, Or.inr rfl⟩
  | _ => cases hm

theorem calling?_eq_some {q : Peer} (hm : calling? q = some m) : ∃ target, q = .calling target m := by
  cases q with
  | calling target m' =>
    obtain rfl := Option.some.inj hm
    exact ⟨target, rfl⟩
  | _ => cases hm

theorem distance_routing (s : State ρ) (c : ConnId) :
    2 < (Leg.routing c).distance s ∧ (Leg.routing c).distance s < 5 := by
  simp only [Leg.distance]
  split <;> decide

theorem distance_pos (s : State ρ) (l : Leg) : 0 < l.distance s := by
  cases l with
  | routing c => exact Nat.zero_lt_of_lt (distance_routing s c).1
  | _ => simp [Leg.distance]

/-- Who looks a channel up for a message has it. -/
theorem carried_of_lookedUp {e : Event χ ε} {g : GwId} {r : String}
    (h : lookedUp? s e = some (g, r, m)) :
    ∃ k, carried? s k = some m ∧ 1 < k.distance s := by
  unfold lookedUp? at h
  split at h
  · rename_i c
    split at h
    · rename_i r' m' hc
      obtain ⟨sock, -, heq⟩ := Option.map_eq_some_iff.mp h
      cases heq
      exact ⟨.routing c, by rw [carried?, hc]; rfl, lt_trans Nat.one_lt_two (distance_routing s c).1⟩
    · cases h
  · rename_i p g'
    split at h
    · rename_i target m' hp
      obtain ⟨msg, -, heq⟩ := Option.map_eq_some_iff.mp h
      cases heq
      exact ⟨.peer p, by rw [carried?, hp]; rfl, Nat.one_lt_two⟩
    · cases h
  · cases h

/-- **A message that leaves its leg** is at the end of its way, or nearer to it. -/
theorem Passage.nearer {e : Event χ ε} (h : Passage s e t) (hs : (cluster R addr).Reachable s)
    (hl : carried? s l = some m) (hleft : carried? t l ≠ some m) :
    ¬ Underway t m ∨ ∃ k, carried? t k = some m ∧ k.distance t < l.distance s := by
  have hgone : carried? t = Function.update (carried? s) l none → ¬ Underway t m := by
    rintro ht ⟨k, hk⟩
    exact gone_of_update hs hl ht k m hk rfl
  cases h with
  | same hnone ht =>
    rw [ht] at hleft
    exact absurd hl hleft
  | @handed c m' incoming call msg alloc hm hc hret ht =>
    have hne : l ≠ .acking c := by
      rintro rfl
      simp [carried?, hc, acking?] at hl
    rw [ht, Function.update_of_ne hne] at hleft
    exact absurd hl hleft
  | @acked c m' ok hm hfrom hto ht =>
    by_cases hc : l = .acking c
    · subst hc
      obtain rfl := Option.some.inj (hl.symm.trans hfrom)
      cases ok with
      | true =>
        refine Or.inr ⟨.routing c, ?_, (distance_routing t c).2⟩
        rw [ht, Function.update_self, if_pos rfl]
      | false =>
        refine Or.inl (hgone (ht.trans (Function.update_eq_self_iff.mpr ?_)))
        rw [Function.update_of_ne (by simp), hto]
        rfl
    · have hne : l ≠ .routing c := by
        rintro rfl
        rw [hto] at hl
        cases hl
      rw [ht, Function.update_of_ne hne, Function.update_of_ne hc] at hleft
      exact absurd hl hleft
  | @called c p m' hnone hfrom hto ht =>
    have hne : l ≠ .peer p := by
      rintro rfl
      rw [hto] at hl
      cases hl
    by_cases hc : l = .routing c
    · subst hc
      obtain rfl := Option.some.inj (hl.symm.trans hfrom)
      refine Or.inr ⟨.peer p, ?_, (distance_routing s c).1⟩
      rw [ht, Function.update_self]
    · rw [ht, Function.update_of_ne hne, Function.update_of_ne hc] at hleft
      exact absurd hl hleft
  | @lookedUp k g caller r ch m' hnone hk hfrom hlookup hch hto ht =>
    have hne : l ≠ .inFlight g caller ch := by
      rintro rfl
      rw [hto] at hl
      cases hl
    by_cases hc : l = k
    · subst hc
      obtain rfl := Option.some.inj (hl.symm.trans hfrom)
      obtain ⟨k, hk, hdistance⟩ := carried_of_lookedUp hlookup
      obtain ⟨rfl, -⟩ := carried_unique hs hl hk rfl
      refine Or.inr ⟨.inFlight g caller ch, ?_, hdistance⟩
      rw [ht, Function.update_self]
    · rw [ht, Function.update_of_ne hne, Function.update_of_ne hc] at hleft
      exact absurd hl hleft
  | @enqueued g caller ch m' hm hfrom ht =>
    by_cases hc : l = .inFlight g caller ch
    · subst hc
      exact Or.inl (hgone ht)
    · rw [ht, Function.update_of_ne hc] at hleft
      exact absurd hl hleft
  | @lost k m' hnone hk hfrom hloss ht =>
    by_cases hc : l = k
    · subst hc
      exact Or.inl (hgone ht)
    · rw [ht, Function.update_of_ne hc] at hleft
      exact absurd hl hleft

/-- A handler whose process is alive takes its steps. -/
theorem step_handler (hlive : s.live? c = some sock) (e : HandlerEvent) :
    (cluster R addr).step s (.handler c e) = handlerStep R addr s c sock e := by
  simp [cluster, Cluster.step, hlive]

/-- The acknowledgement can be written. -/
theorem ack_enabled (hs : (cluster R addr).Reachable s) (halive : Alive s) {r : String}
    (hc : s.handlers c = .acking r m) : ∃ t, (cluster R addr).step s (.handler c (.ack true true)) =
      some t ∧ Alive t ∧ t.handlers c = .locating r m := by
  obtain ⟨sock, hsock, hlive⟩ := handler_live hs halive (by rw [hc]; simp)
  refine ⟨(s.write c (ackFrame m) true).setHandler c (.locating r m), ?_, ?_,
    Function.update_self ..⟩
  · rw [step_handler hlive]
    simp [handlerStep, hc]
  · intro g
    show ((s.write c (ackFrame m) true).gateways g).crashed = false
    rw [write_gateways, halive g]

/-- Presence can be read, and a peer called. -/
theorem locate_enabled (hs : (cluster R addr).Reachable s) (halive : Alive s) {r : String}
    (hc : s.handlers c = .locating r m) :
    ∃ p t, (cluster R addr).step s (.handler c (.locate false p)) = some t ∧ Alive t ∧ (t.handlers c = .reading ∨ t.handlers c = .delivering r m) := by
  obtain ⟨sock, hsock, hlive⟩ := handler_live hs halive (by rw [hc]; simp)
  obtain ⟨p, hp⟩ := exists_idle hs
  cases hroute : route (addr sock.gw) (s.presence.getUserGateway r) with
  | nowhere =>
    refine ⟨p, s.setHandler c .reading, ?_, halive, Or.inl (Function.update_self ..)⟩
    rw [step_handler hlive]
    simp [handlerStep, hc, hroute]
  | here =>
    refine ⟨p, s.setHandler c (.delivering r m), ?_, halive, Or.inr (Function.update_self ..)⟩
    rw [step_handler hlive]
    simp [handlerStep, hc, hroute]
  | peer target =>
    refine ⟨p, (s.setPeer p (.calling target m)).setHandler c .reading, ?_, halive,
      Or.inl (Function.update_self ..)⟩
    rw [step_handler hlive]
    simp [handlerStep, hc, hroute, hp]

/-- The channel can be looked up. -/
theorem lookup_enabled (hs : (cluster R addr).Reachable s) (halive : Alive s) {r : String}
    (hc : s.handlers c = .delivering r m) : ∃ t, (cluster R addr).step s (.handler c .lookup) =
      some t ∧ Alive t ∧ (t.handlers c = .sending ∨ t.handlers c = .reading) := by
  obtain ⟨sock, hsock, hlive⟩ := handler_live hs halive (by rw [hc]; simp)
  obtain ⟨hconn, hdelivering, -⟩ := standing hs c sock hsock
  rw [hc] at hconn hdelivering
  have hready : Registry.ready (s.gateways sock.gw) (.readLoop c) = true := by
    have hnone : (s.gateways sock.gw).delivering (.readLoop c) = none := by simpa using hdelivering
    simp [Registry.ready, hconn, connOf, hnone]
  have hx := Registry.step_lookup (halive sock.gw) hready r m
  generalize Registry.lookup (s.gateways sock.gw) (.readLoop c) r m = x at hx
  have halive' : Alive (s.setGateway sock.gw x) := halive.setGateway (Registry.crashed_lookup hx) rfl
  refine ⟨(s.setGateway sock.gw x).setHandler c
    (if (x.delivering (.readLoop c)).isSome then .sending else .reading), ?_, halive', ?_⟩
  · rw [step_handler hlive]
    simp [handlerStep, hc, hx]
  · simp only [State.setHandler, Function.update_self]
    split_ifs <;> simp

/-- The message can be sent to the channel, whatever becomes of it there. -/
theorem send_enabled (hs : (cluster R addr).Reachable s) (halive : Alive s)
    (hc : s.handlers c = .sending) (hsock : s.sockets c = some sock) :
    ∃ t, (cluster R addr).step s (.handler c .send) = some t ∧
      (t.gateways sock.gw).delivering (.readLoop c) = none := by
  have hlive := halive.live hsock
  obtain ⟨hconn, hdelivering, hstage⟩ := standing hs c sock hsock
  rw [hc] at hconn hdelivering hstage
  obtain ⟨⟨ch, m⟩, hd⟩ := Option.isSome_iff_exists.mp (hdelivering.mpr rfl)
  have hx := Registry.step_send (halive sock.gw) hd
  generalize Registry.finishSend (.readLoop c) (Registry.send (s.gateways sock.gw) ch m) = x at hx
  -- a panic unwinds the handler, and the heartbeat is there to be stopped
  obtain ⟨p, hp⟩ : ∃ p, unwound x c s.presence = some p := by
    rcases Registry.conns_send hx hconn with hrunning | hover
    · exact ⟨s.presence, by simp only [unwound, hrunning]⟩
    · simp only [unwound, hover]
      exact Presence.step_stop hstage
  refine ⟨((s.setGateway sock.gw x).setPresence p).setHandler c (afterSend x c), ?_, ?_⟩
  · rw [step_handler hlive]
    simp [handlerStep, hc, hx, hp]
  · show (Function.update s.gateways sock.gw x sock.gw).delivering (.readLoop c) = none
    rw [Function.update_self, (Registry.delivering_send hx).2, Function.update_self]

/-- **No handler is stuck**: until it has returned it has a step to take, if its process is there. -/
theorem handler_enabled (hs : (cluster R addr).Reachable s) (halive : Alive s)
    (hbegun : s.handlers c ≠ .idle) (hrunning : s.handlers c ≠ .closed) :
    ∃ (e : HandlerEvent) (t : State ρ), (cluster R addr).step s (.handler c e) = some t := by
  obtain ⟨sock, hsock, hlive⟩ := handler_live hs halive hbegun
  obtain ⟨hconn, hdelivering, hstage⟩ := standing hs c sock hsock
  cases hc : s.handlers c with
  | idle => exact absurd hc hbegun
  | registering =>
    rw [hc] at hstage
    obtain ⟨p, hp⟩ := Presence.step_set hstage true
    exact ⟨.registerUser true, _, by rw [step_handler hlive]; simp only [handlerStep, hc, hp]; rfl⟩
  | connecting =>
    rw [hc] at hconn
    obtain ⟨x, hx⟩ := Registry.step_register (halive sock.gw) hconn sock.user
    exact ⟨.registerConn, _, by rw [step_handler hlive]; simp only [handlerStep, hc, hx]; rfl⟩
  | reading =>
    rw [hc] at hconn hdelivering hstage
    have hnone : (s.gateways sock.gw).delivering (.readLoop c) = none := by simpa using hdelivering
    obtain ⟨x, hx⟩ := Registry.step_hangUp (halive sock.gw) hconn hnone
    obtain ⟨p, hp⟩ := Presence.step_stop hstage
    exact ⟨.hangUp, _, by rw [step_handler hlive]; simp only [handlerStep, hc, hx, hp]; rfl⟩
  | persisting incoming call =>
    exact ⟨.persistFailed, _, by rw [step_handler hlive]; simp only [handlerStep, hc]; rfl⟩
  | acking r m =>
    obtain ⟨t, ht, -⟩ := ack_enabled hs halive hc
    exact ⟨_, t, ht⟩
  | locating r m =>
    obtain ⟨p, t, ht, -⟩ := locate_enabled hs halive hc
    exact ⟨_, t, ht⟩
  | delivering r m =>
    obtain ⟨t, ht, -⟩ := lookup_enabled hs halive hc
    exact ⟨_, t, ht⟩
  | sending =>
    obtain ⟨t, ht, -⟩ := send_enabled hs halive hc hsock
    exact ⟨_, t, ht⟩
  | closing =>
    rw [hc] at hconn
    obtain ⟨x, hx⟩ := Registry.step_unregister (halive sock.gw) hconn
    exact ⟨.unregisterConn, _, by rw [step_handler hlive]; simp only [handlerStep, hc, hx]; rfl⟩
  | unregistering =>
    rw [hc] at hstage
    obtain ⟨p, hp⟩ := Presence.step_del hstage true
    exact ⟨.unregisterUser true, _, by rw [step_handler hlive]; simp only [handlerStep, hc, hp]; rfl⟩
  | closed => exact absurd hc hrunning

/-- The RPC can be executed. -/
theorem deliver_enabled (hs : (cluster R addr).Reachable s) (halive : Alive s) {p : RpcId}
    {target : String} (hp : s.peers p = .calling target m) :
    ∃ g t, (cluster R addr).step s (.peer p (.deliverMessage g)) = some t ∧ Alive t ∧
      calling? (t.peers p) = none := by
  obtain ⟨g, hg⟩ := (addressed hs).call p target m hp
  -- a message that has been returned has a content
  have hmem : m ∈ held s (.peer p) := by
    simp [held, hp, peerHeld]
  obtain ⟨msg, createdAt, hmessage, -⟩ := committed hs hmem
  have hready : Registry.ready (s.gateways g) (.rpc p) = true := by
    have hnone := rpcs hs p g
    rw [hp] at hnone
    simpa [Registry.ready] using hnone
  have hx := Registry.step_lookup (halive g) hready msg.receiverId m
  generalize Registry.lookup (s.gateways g) (.rpc p) msg.receiverId m = x at hx
  have halive' : Alive (s.setGateway g x) := halive.setGateway (Registry.crashed_lookup hx) rfl
  refine ⟨g, (s.setGateway g x).setPeer p
    (if (x.delivering (.rpc p)).isSome then .sending g else .done), ?_, halive', ?_⟩
  · simp [cluster, Cluster.step, peerStep, deliverMessage, hp, hg, hmessage, hx]
  · simp only [State.setPeer, Function.update_self]
    split_ifs <;> rfl

theorem peerSend_enabled (hs : (cluster R addr).Reachable s) (halive : Alive s) {p : RpcId} {g : GwId}
    (hp : s.peers p = .sending g) : ∃ t, (cluster R addr).step s (.peer p .send) = some t ∧
      (t.gateways g).delivering (.rpc p) = none := by
  obtain ⟨⟨ch, m⟩, hd⟩ := Option.isSome_iff_exists.mp ((rpcs hs p g).mpr hp)
  have hx := Registry.step_send (halive g) hd
  generalize Registry.finishSend (.rpc p) (Registry.send (s.gateways g) ch m) = x at hx
  refine ⟨(s.setGateway g x).setPeer p .done, ?_, ?_⟩
  · simp [cluster, Cluster.step, peerStep, hp, hx]
  · show (Function.update s.gateways g x g).delivering (.rpc p) = none
    rw [Function.update_self, (Registry.delivering_send hx).2, Function.update_self]

/-- **Whoever has a message can take the next step with it**, and it is then at the end of its way or
nearer to it. -/
theorem advance (hs : (cluster R addr).Reachable s) (halive : Alive s) (hl : carried? s l = some m) :
    ∃ (e : Event χ ε) (t : State ρ), Keeps e ∧ (cluster R addr).step s e = some t ∧
      (¬ Underway t m ∨ Alive t ∧ ∃ k, carried? t k = some m ∧ k.distance t < l.distance s) := by
  -- the message leaves its leg
  have hleave : ∀ {e : Event χ ε} {t}, (cluster R addr).step s e = some t → Alive t →
      carried? t l ≠ some m → ¬ Underway t m ∨
        Alive t ∧ ∃ k, carried? t k = some m ∧ k.distance t < l.distance s := by
    intro e t hstep halive' hleft
    exact ((passage hs (step_cases hstep)).nearer hs hl hleft).imp_right fun h => ⟨halive', h⟩
  cases l with
  | acking c =>
    obtain ⟨r, hc⟩ := acking?_eq_some hl
    obtain ⟨t, hstep, halive', ht⟩ := ack_enabled hs halive hc
    exact ⟨_, t, ⟨rfl, by simp⟩, hstep, hleave hstep halive' (by simp [carried?, ht, acking?])⟩
  | routing c =>
    obtain ⟨r, hc | hc⟩ := routing?_eq_some hl
    · obtain ⟨p, t, hstep, halive', ht | ht⟩ := locate_enabled hs halive hc
      · exact ⟨_, t, ⟨rfl, by simp⟩, hstep, hleave hstep halive' (by simp [carried?, ht, routing?])⟩
      · refine ⟨_, t, ⟨rfl, by simp⟩, hstep, Or.inr ⟨halive', .routing c, ?_, ?_⟩⟩
        · simp [carried?, ht, routing?]
        · simp [Leg.distance, hc, ht]
    · obtain ⟨t, hstep, halive', ht⟩ := lookup_enabled hs halive hc
      refine ⟨_, t, ⟨rfl, by simp⟩, hstep, hleave hstep halive' ?_⟩
      rcases ht with ht | ht <;> simp [carried?, ht, routing?]
  | peer p =>
    obtain ⟨target, hp⟩ := calling?_eq_some hl
    obtain ⟨g, t, hstep, halive', ht⟩ := deliver_enabled hs halive hp
    exact ⟨_, t, ⟨rfl, by simp⟩, hstep, hleave hstep halive' (by simp [carried?, ht])⟩
  | inFlight g caller ch =>
    -- there is no leg after the last one
    have hlast : ∀ {e : Event χ ε} {t}, (cluster R addr).step s e = some t →
        (t.gateways g).delivering caller = none → ¬ Underway t m := by
      intro e t hstep ht
      have hleft : carried? t (.inFlight g caller ch) ≠ some m := by simp [carried?, ht]
      refine ((passage hs (step_cases hstep)).nearer hs hl hleft).resolve_right ?_
      rintro ⟨k, -, hk⟩
      exact absurd hk (Nat.not_lt.mpr (distance_pos t k))
    obtain ⟨⟨ch', m'⟩, hd, -⟩ := Option.bind_eq_some_iff.mp hl
    cases caller with
    | readLoop c =>
      obtain ⟨u, hu⟩ := (Registry.inv (gateway_reachable hs g)).busy c _ hd
      have hsock := (wired hs).socket g c u (by rw [hu]; rfl)
      have hc := (standing hs c _ hsock).delivering.mp (Option.isSome_iff_exists.mpr ⟨_, hd⟩)
      obtain ⟨t, hstep, ht⟩ := send_enabled hs halive hc hsock
      exact ⟨_, t, ⟨rfl, by simp⟩, hstep, Or.inl (hlast hstep ht)⟩
    | rpc p =>
      have hp := (rpcs hs p g).mp (Option.isSome_iff_exists.mpr ⟨_, hd⟩)
      obtain ⟨t, hstep, ht⟩ := peerSend_enabled hs halive hp
      exact ⟨_, t, ⟨rfl, by simp⟩, hstep, Or.inl (hlast hstep ht)⟩

/-- **Every message comes to the end of its way**, by successful steps of those that have it. -/
theorem finish (hs : (cluster R addr).Reachable s) (halive : Alive s) (m : PersistedMessage) :
    ∃ (es : List (Event χ ε)) (t : State ρ), (cluster R addr).run s es = some t ∧
      (∀ e ∈ es, succeeds e = true) ∧ ¬ Underway t m := by
  have hreach : (cluster R addr).CanReach (fun _ e => succeeds e = true) s fun t => ¬ Underway t m := by
    by_cases hunderway : Underway s m
    · obtain ⟨l, hl⟩ := hunderway
      refine Lts.System.CanReach.of_progress (P := fun n s => (cluster R addr).Reachable s ∧ Alive s ∧
        ∃ l, carried? s l = some m ∧ l.distance s = n) ?_ ⟨hs, halive, l, hl, rfl⟩
      rintro n s ⟨hs, halive, l, hl, rfl⟩
      obtain ⟨e, t, ⟨he, -⟩, hstep, hend | ⟨halive', k, hk, hnearer⟩⟩ := advance hs halive hl
      · exact .step he hstep (.refl (Or.inl hend))
      · exact .step he hstep (.refl (Or.inr ⟨_, hnearer, hs.step hstep, halive', k, hk, rfl⟩))
    · exact .refl hunderway
  obtain ⟨es, t, ht, hes, hend⟩ := hreach
  exact ⟨es, t, ht, hes.forall_of_run ht, hend⟩

end Progress

end Cluster

end TinyTelegram.Gateway
