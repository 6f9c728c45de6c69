import TinyTelegram.Gateway.Equiv.FanOut
import TinyTelegram.Gateway.Main

/-!
# Messages go where a gateway has said it is

A gateway has one address (`Process.addr`): what its handlers write to the presence keys, whatever of its
start they read it from, is what it has put into the hash `gateways` (`registered_addr`).  It has none only
if it runs outside of ECS and is told none (`addr_eq_empty_iff`).

A handler reads the address of a receiver from a presence key, and only connections write these, with the
address of their gateway.  `Provenance` follows it from there: with the message to a gateway at that
address, and on to a socket.  So the gateway that has a message for a socket has an address, and a
connection of the receiver on a gateway with this address has set the receiver's key (`routed_by_address`).
-/

namespace TinyTelegram.Gateway

/-! ### The address of a gateway -/

theorem selfID_ne {taskARN id : String} (h : selfID taskARN = some id) : id ≠ "" := by
  obtain ⟨hlen, heq⟩ := Option.ite_none_left_eq_some.mp h
  rintro rfl
  have hnil := congrArg String.toList (Option.some.inj heq)
  rw [String.toList_ofList] at hnil
  have hlength := congrArg List.length hnil
  rw [List.length_drop, String.toList_empty, List.length_nil] at hlength
  omega

/-- A task that can be read has an id and an address. -/
theorem resolveSelfAddr_ne {metaURI grpcPort id addr : String} {get : String → Answer}
    (h : resolveSelfAddr metaURI grpcPort get = .ok (id, addr)) : id ≠ "" ∧ addr ≠ "" := by
  unfold resolveSelfAddr at h
  split_ifs at h
  split at h
  · cases h
  · split_ifs at h
    split at h
    · cases h
    · cases h
    · split at h
      · cases h
      · cases h
      · rename_i hid hip
        cases h
        refine ⟨selfID_ne hid, fun hempty => ?_⟩
        have hnil := congrArg String.toList hempty
        simp [String.toList_append] at hnil

namespace Process

variable (p : Process)

/-- A gateway has what its task says, on ECS, or what is in its environment. -/
theorem start_cases :
    (∃ id addr, p.environ "ECS_CONTAINER_METADATA_URI_V4" ≠ "" ∧ addr ≠ "" ∧ p.addr = addr ∧
      p.identity.registered = some (id, addr)) ∨
    (p.environ "ECS_CONTAINER_METADATA_URI_V4" = "" ∧ p.addr = presenceAddr p.environ ∧
      p.identity.registered =
        if p.environ "GATEWAY_ADDR" = "" then none else some (p.environ "GATEWAY_ADDR", p.addr)) := by
  have h := p.main_eq
  unfold main at h
  by_cases huri : p.environ "ECS_CONTAINER_METADATA_URI_V4" = ""
  · simp only [huri, ne_eq, not_true_eq_false, if_false, Except.ok.injEq] at h
    have hidentity := h.symm
    have haddr : p.addr = presenceAddr p.environ := by
      rw [addr, hidentity]
    refine Or.inr ⟨huri, haddr, ?_⟩
    rw [haddr, hidentity, presenceAddr]
    by_cases hid : p.environ "GATEWAY_ADDR" = "" <;> by_cases hgrpc : p.environ "GATEWAY_GRPC_ADDR" = "" <;>
      simp [hid, hgrpc]
  · simp only [huri, ne_eq, not_false_eq_true, if_true] at h
    split at h
    · cases h
    · rename_i id a hresolve
      obtain ⟨hid, ha⟩ := resolveSelfAddr_ne hresolve
      have hidentity := (Except.ok.inj h).symm
      refine Or.inl ⟨id, a, huri, ha, ?_, ?_⟩
      · rw [addr, hidentity, presenceAddr]
        simp [Environ.setenv, ha]
      · rw [hidentity]
        simp [hid, ha]

/-- What the handlers read is what is registered. -/
theorem registered_addr {id a : String} (h : p.identity.registered = some (id, a)) : p.addr = a := by
  rcases p.start_cases with ⟨id', a', -, -, haddr, hregistered⟩ | ⟨-, -, hregistered⟩
  · rw [hregistered] at h
    cases h
    exact haddr
  · rw [hregistered] at h
    split_ifs at h
    cases h
    rfl

/-- A gateway has no address only if it is told none. -/
theorem addr_eq_empty_iff : p.addr = "" ↔ p.environ "ECS_CONTAINER_METADATA_URI_V4" = "" ∧
    p.environ "GATEWAY_GRPC_ADDR" = "" ∧ p.environ "GATEWAY_ADDR" = "" := by
  rcases p.start_cases with ⟨id, a, huri, ha, haddr, -⟩ | ⟨huri, haddr, -⟩
  · rw [haddr]
    exact iff_of_false ha fun h => huri h.1
  · rw [haddr, presenceAddr]
    by_cases hgrpc : p.environ "GATEWAY_GRPC_ADDR" = "" <;> simp [huri, hgrpc]

end Process

/-! ### The keys -/

namespace Presence

variable {x y : State} {e : Event}

/-- A connection remains one of its user, at the address of its gateway. -/
theorem conn_step (h : presence.step x e = some y) {c : ConnId} {conn : Conn}
    (hc : y.conns c = some conn) :
    (∃ conn', x.conns c = some conn' ∧ conn'.user = conn.user ∧ conn'.addr = conn.addr) ∨
      e = .connect c conn.user conn.addr := by
  -- a connection moves on
  have hmove : ∀ {k u a stage stage'}, x.conns k = some ⟨u, a, stage⟩ →
      Function.update x.conns k (some ⟨u, a, stage'⟩) c = some conn →
      ∃ conn', x.conns c = some conn' ∧ conn'.user = conn.user ∧ conn'.addr = conn.addr := by
    intro k u a stage stage' hk hnew
    rw [Function.update_apply] at hnew
    split_ifs at hnew with hck
    · cases hnew
      exact ⟨⟨u, a, stage⟩, hck ▸ hk, rfl, rfl⟩
    · exact ⟨conn, hnew, rfl, rfl⟩
  cases step_cases h with
  | @connect k u a hk =>
    rw [State.setConn_conns, Function.update_apply] at hc
    split_ifs at hc with hck
    · cases hc
      exact Or.inr (hck ▸ rfl)
    · exact Or.inl ⟨conn, hc, rfl, rfl⟩
  | set hk =>
    rw [State.setHeartbeat_conns, State.setConn_conns, State.registerUser_conns] at hc
    exact Or.inl (hmove hk hc)
  | beat hh hk =>
    rw [State.setHeartbeat_conns, State.registerUser_conns] at hc
    exact Or.inl ⟨conn, hc, rfl, rfl⟩
  | stop hk => exact Or.inl (hmove hk hc)
  | del hk =>
    rw [State.setConn_conns, State.unregisterUser_conns] at hc
    exact Or.inl (hmove hk hc)
  | expire =>
    rw [State.unregisterUser_conns] at hc
    exact Or.inl ⟨conn, hc, rfl, rfl⟩
  | _ => exact Or.inl ⟨conn, hc, rfl, rfl⟩

/-- The connection whose `SET` an event executes. -/
def Event.sets? : Event → Option ConnId
  | .set c true | .beat c true => some c
  | _ => none

/-- A key that is new is that of the connection which has set it. -/
theorem key_step (h : presence.step x e = some y) {u a : String} (hu : y.presence u = some a) :
    x.presence u = some a ∨
      ∃ c conn, e.sets? = some c ∧ x.conns c = some conn ∧ conn.user = u ∧ conn.addr = a := by
  have hset : ∀ {v b ok}, (x.registerUser v b ok).presence u = some a →
      x.presence u = some a ∨ ok = true ∧ v = u ∧ b = a := by
    intro v b ok hnew
    unfold State.registerUser at hnew
    split_ifs at hnew with hok
    · change Function.update x.presence v (some b) u = some a at hnew
      rw [Function.update_apply] at hnew
      split_ifs at hnew with huv
      · exact Or.inr ⟨hok, huv.symm, Option.some.inj hnew⟩
      · exact Or.inl hnew
    · exact Or.inl hnew
  have hdel : ∀ {v ok}, (x.unregisterUser v ok).presence u = some a → x.presence u = some a := by
    intro v ok hnew
    unfold State.unregisterUser at hnew
    split_ifs at hnew
    · change Function.update x.presence v none u = some a at hnew
      rw [Function.update_apply] at hnew
      split_ifs at hnew
      exact hnew
    · exact hnew
  cases step_cases h with
  | set hc =>
    rcases hset hu with hold | ⟨rfl, hv, hb⟩
    · exact Or.inl hold
    · exact Or.inr ⟨_, _, rfl, hc, hv, hb⟩
  | beat hh hc =>
    rcases hset hu with hold | ⟨rfl, hv, hb⟩
    · exact Or.inl hold
    · exact Or.inr ⟨_, _, rfl, hc, hv, hb⟩
  | del hc => exact Or.inl (hdel hu)
  | expire => exact Or.inl (hdel hu)
  | _ => exact Or.inl hu

end Presence

/-! ### The way of an address -/

namespace Cluster

open MessageService (Redis)

variable {ρ χ ε : Type} {R : Redis ρ χ ε} {addr : GwId → String} {s t : State ρ} {e : Event χ ε}
  {es : List (Event χ ε)} {c : ConnId} {g : GwId} {m : PersistedMessage}

/-- The connection whose `SET` of its user's key an event executes. -/
def sets? : Event χ ε → Option ConnId
  | .handler c (.registerUser ok) => (Presence.Event.set c ok).sets?
  | .heartbeat _ e => e.sets?
  | _ => none

/-- A connection of the user on a gateway with the address has set the user's key. -/
def SetBy (addr : GwId → String) (es : List (Event χ ε)) (s : State ρ) (u a : String) : Prop :=
  ∃ k g, s.sockets k = some ⟨g, u⟩ ∧ addr g = a ∧ ∃ e ∈ es, sets? e = some k

/-- The address is one that the receiver of the message has had a key with. -/
def RoutedTo (addr : GwId → String) (es : List (Event χ ε)) (s : State ρ) (m : PersistedMessage)
    (a : String) : Prop :=
  a ≠ "" ∧ ∃ r, m.isReceiver r = true ∧ SetBy addr es s r a

/-- Where the addresses come from that connections, keys and messages have. -/
structure Provenance (addr : GwId → String) (es : List (Event χ ε)) (s : State ρ) : Prop where
  conn : ∀ c conn, s.presence.conns c = some conn →
    ∃ g, s.sockets c = some ⟨g, conn.user⟩ ∧ addr g = conn.addr
  key : ∀ u a, s.presence.presence u = some a → SetBy addr es s u a
  handler : ∀ c r m, s.handlers c = .delivering r m →
    ∃ sock, s.sockets c = some sock ∧ RoutedTo addr es s m (addr sock.gw)
  call : ∀ p target m, s.peers p = .calling target m → RoutedTo addr es s m target
  inFlight : ∀ g caller ch m, (s.gateways g).delivering caller = some (ch, m) →
    RoutedTo addr es s m (addr g)
  buffer : ∀ g ch m, m ∈ ((s.gateways g).chans ch).buf → RoutedTo addr es s m (addr g)
  writer : ∀ c m, s.writers c = .writing m →
    ∃ sock, s.sockets c = some sock ∧ RoutedTo addr es s m (addr sock.gw)
  socket : ∀ c m, .message m ∈ s.out c →
    ∃ sock, s.sockets c = some sock ∧ RoutedTo addr es s m (addr sock.gw)

theorem SetBy.concat (h : Step R addr s e t) {u a : String} (hset : SetBy addr es s u a) :
    SetBy addr (es ++ [e]) t u a := by
  obtain ⟨k, g, hs, ha, e', he', hk⟩ := hset
  exact ⟨k, g, socket_step h hs, ha, e', List.mem_append_left _ he', hk⟩

theorem RoutedTo.concat (h : Step R addr s e t) {a : String} (hm : RoutedTo addr es s m a) :
    RoutedTo addr (es ++ [e]) t m a := by
  obtain ⟨ha, r, hr, hset⟩ := hm
  exact ⟨ha, r, hr, hset.concat h⟩

/-- A connection that is opened has its socket. -/
theorem socket_of_connect {u : String} (h : Step R addr s (.connect c g u) t) :
    t.sockets c = some ⟨g, u⟩ := by
  cases h with
  | connect hnew hp => exact Function.update_self ..

/-- The presence keys take the steps of connections: one that sets a key for the connection that the event
names, and one of a new connection when it is opened. -/
theorem presence_cases (hstep : (cluster R addr).step s e = some t) :
    t.presence = s.presence ∨ ∃ e', presence.step s.presence e' = some t.presence ∧
      (∀ c, e'.sets? = some c → sets? e = some c) ∧
      ∀ c u a, e' = .connect c u a → ∃ g, e = .connect c g u ∧ a = addr g := by
  cases step_cases hstep with
  | @connect c g u p hnew hp =>
    refine Or.inr ⟨_, hp, (fun _ hc => by cases hc), ?_⟩
    rintro _ _ _ ⟨⟩
    exact ⟨g, rfl, rfl⟩
  | registerUser hs hc hp => exact Or.inr ⟨_, hp, fun _ hc => hc, (fun _ _ _ he => by cases he)⟩
  | @send c sock x p hs hc hx hp =>
    unfold unwound at hp
    split at hp
    · exact Or.inl (Option.some.inj hp).symm
    · exact Or.inr ⟨_, hp, (fun _ hc => by cases hc), (fun _ _ _ he => by cases he)⟩
  | hangUp hs hc hx hp => exact Or.inr ⟨_, hp, (fun _ hc => by cases hc), (fun _ _ _ he => by cases he)⟩
  | unregisterUser hs hc hp =>
    exact Or.inr ⟨_, hp, (fun _ hc => by cases hc), (fun _ _ _ he => by cases he)⟩
  | @heartbeat c e' p hp =>
    refine Or.inr ⟨_, hp, fun _ hc => hc, ?_⟩
    rintro _ _ _ rfl
    have hown := ofHeartbeat_of_step hstep
    cases hown
  | expire hp => exact Or.inr ⟨_, hp, (fun _ hc => by cases hc), (fun _ _ _ he => by cases he)⟩
  | ack hs hc => exact Or.inl (write_presence ..)
  | write hs hc => exact Or.inl (write_presence ..)
  | _ => exact Or.inl rfl

/-- A key that is read names the address a message is routed to. -/
theorem getUserGateway_of_route {r a : String} {fail : Bool}
    (h : (if fail then none else s.presence.getUserGateway r) = some a) :
    s.presence.getUserGateway r = some a := by
  cases fail with
  | true => cases h
  | false => exact h

/-- A receiver is here if the key has this gateway's address. -/
theorem route_eq_here {presenceAddr : String} {answer : Option String}
    (h : route presenceAddr answer = .here) : answer = some presenceAddr ∧ presenceAddr ≠ "" := by
  cases answer with
  | none => cases h
  | some a =>
    simp only [route] at h
    split_ifs at h with hempty hhere
    subst hhere
    exact ⟨rfl, hempty⟩

/-- A handler delivers on its own gateway when the key names that. -/
theorem delivering_step (h : Step R addr s e t) {r : String} (hc : t.handlers c = .delivering r m) :
    s.handlers c = .delivering r m ∨ ∃ sock, s.sockets c = some sock ∧
      s.handlers c = .locating r m ∧ s.presence.getUserGateway r = some (addr sock.gw) ∧
      addr sock.gw ≠ "" := by
  cases h with
  | connect hnew hp => exact Or.inl (eq_of_update_eq Handler.noConfusion hc)
  | registerUser hs hk hp => exact Or.inl (eq_of_update_eq Handler.noConfusion hc)
  | registerConn hs hk hx => exact Or.inl (eq_of_update_eq Handler.noConfusion hc)
  | frame hs hk hraw hx => exact Or.inl (eq_of_update_eq Handler.noConfusion hc)
  | persisted hs hk hm => exact Or.inl (eq_of_update_eq Handler.noConfusion hc)
  | persistFailed hs hk => exact Or.inl (eq_of_update_eq Handler.noConfusion hc)
  | @ack k sock r' m' arrives ok hs hk =>
    have hhandlers : (s.write k (ackFrame m') arrives).handlers = s.handlers := write_handlers ..
    refine Or.inl (eq_of_update_eq (a := k) (x := if ok then .locating r' m' else .reading) ?_
      (hhandlers ▸ hc))
    split <;> exact Handler.noConfusion
  | locateNowhere hs hk => exact Or.inl (eq_of_update_eq Handler.noConfusion hc)
  | @locateHere k sock r' m' fail p hs hk hroute =>
    by_cases hck : c = k
    · subst hck
      have hnew : Function.update s.handlers c (.delivering r' m') c = .delivering r m := hc
      rw [Function.update_self] at hnew
      cases hnew
      obtain ⟨hkey, hne⟩ := route_eq_here hroute
      exact Or.inr ⟨sock, hs, hk, getUserGateway_of_route hkey, hne⟩
    · have hold : Function.update s.handlers k (.delivering r' m') c = .delivering r m := hc
      rw [Function.update_of_ne hck] at hold
      exact Or.inl hold
  | locatePeer hs hk hp => exact Or.inl (eq_of_update_eq Handler.noConfusion hc)
  | lookup hs hk hx =>
    refine Or.inl (eq_of_update_eq ?_ hc)
    split <;> exact Handler.noConfusion
  | send hs hk hx hp =>
    refine Or.inl (eq_of_update_eq ?_ hc)
    unfold afterSend
    split <;> exact Handler.noConfusion
  | hangUp hs hk hx hp => exact Or.inl (eq_of_update_eq Handler.noConfusion hc)
  | unregisterConn hs hk hx => exact Or.inl (eq_of_update_eq Handler.noConfusion hc)
  | unregisterUser hs hk hp => exact Or.inl (eq_of_update_eq Handler.noConfusion hc)
  | write hs hk => exact Or.inl (write_handlers s .. ▸ hc)
  | _ => exact Or.inl hc

/-- A peer is called at the address that the key names. -/
theorem calling_step (h : Step R addr s e t) {p : RpcId} {target : String}
    (hp : t.peers p = .calling target m) : s.peers p = .calling target m ∨
      ∃ c r, s.handlers c = .locating r m ∧ s.presence.getUserGateway r = some target ∧ target ≠ "" := by
  cases h with
  | @locatePeer c sock r m' fail k target' hs hc hk hroute =>
    have hnew : Function.update s.peers k (.calling target' m') p = .calling target m := hp
    rw [Function.update_apply] at hnew
    split_ifs at hnew
    · cases hnew
      obtain ⟨hkey, hne⟩ := route_eq_peer hroute
      exact Or.inr ⟨c, r, hc, getUserGateway_of_route hkey, hne⟩
    · exact Or.inl hnew
  | deliverNothing hk hm => exact Or.inl (eq_of_update_eq Peer.noConfusion hp)
  | deliverMessage hk hm hx =>
    refine Or.inl (eq_of_update_eq ?_ hp)
    split <;> exact Peer.noConfusion
  | peerSend hk hx => exact Or.inl (eq_of_update_eq Peer.noConfusion hp)
  | peerFail hk => exact Or.inl (eq_of_update_eq Peer.noConfusion hp)
  | ack hs hc => exact Or.inl (write_peers s .. ▸ hp)
  | write hs hc => exact Or.inl (write_peers s .. ▸ hp)
  | _ => exact Or.inl hp

/-- `DeliverLocal` is called by a handler of the gateway, or for a peer that has called its address. -/
theorem inFlight_step (h : Step R addr s e t) {caller : Caller} {ch : ConnId}
    (hd : (t.gateways g).delivering caller = some (ch, m)) :
    (s.gateways g).delivering caller = some (ch, m) ∨
      (∃ c sock r, s.handlers c = .delivering r m ∧ s.sockets c = some sock ∧ sock.gw = g) ∨
      ∃ p, s.peers p = .calling (addr g) m := by
  rcases gateway_step h with hsame | ⟨k, e', x, hx, hgateways, -, hlookup⟩
  · rw [hsame] at hd
    exact Or.inl hd
  · rw [hgateways] at hd
    by_cases hg : g = k
    · subst hg
      rw [Function.update_self] at hd
      cases e' with
      | lookup caller' r m' =>
        rw [(Registry.delivering_lookup hx).2, Function.update_apply] at hd
        split_ifs at hd
        · obtain ⟨ch', -, heq⟩ := Option.map_eq_some_iff.mp hd
          obtain rfl : m' = m := congrArg Prod.snd heq
          rcases hlookup _ _ _ rfl with ⟨c, sock, hc, hsock, hgw⟩ | hp
          · exact Or.inr (Or.inl ⟨c, sock, r, hc, hsock, hgw⟩)
          · exact Or.inr (Or.inr hp)
        · exact Or.inl hd
      | send caller' =>
        rw [(Registry.delivering_send hx).2, Function.update_apply] at hd
        split_ifs at hd
        exact Or.inl hd
      | _ =>
        rw [Registry.delivering_of_ne hx (by simp) (by simp)] at hd
        exact Or.inl hd
    · rw [Function.update_of_ne hg] at hd
      exact Or.inl hd

/-- **One step** of the way. -/
theorem Provenance.step (hs : (cluster R addr).Reachable s)
    (hstep : (cluster R addr).step s e = some t) (h : Provenance addr es s) :
    Provenance addr (es ++ [e]) t := by
  have hcases := step_cases hstep
  have hmono : ∀ {m a}, RoutedTo addr es s m a → RoutedTo addr (es ++ [e]) t m a :=
    fun hm => hm.concat hcases
  have hsocket : ∀ {c m}, (∃ sock, s.sockets c = some sock ∧ RoutedTo addr es s m (addr sock.gw)) →
      ∃ sock, t.sockets c = some sock ∧ RoutedTo addr (es ++ [e]) t m (addr sock.gw) := by
    rintro c m ⟨sock, hsock, hm⟩
    exact ⟨sock, socket_step hcases hsock, hmono hm⟩
  -- the receiver of a message has had a key with the address that is read
  have hread : ∀ {c r m a}, s.handlers c = .locating r m → s.presence.getUserGateway r = some a →
      a ≠ "" → RoutedTo addr es s m a := by
    intro c r m a hc hkey ha
    exact ⟨ha, r, (wired hs).receiver c r m (by rw [hc]; rfl), h.key r a hkey⟩
  constructor
  · intro c conn hc
    have hold : ∀ {conn'}, s.presence.conns c = some conn' → conn'.user = conn.user →
        conn'.addr = conn.addr → ∃ g, t.sockets c = some ⟨g, conn.user⟩ ∧ addr g = conn.addr := by
      intro conn' hconn' huser haddr
      obtain ⟨g, hsock, hg⟩ := h.conn c conn' hconn'
      exact ⟨g, socket_step hcases (huser ▸ hsock), hg.trans haddr⟩
    rcases presence_cases hstep with hsame | ⟨e', hp, -, hconnect⟩
    · rw [hsame] at hc
      exact hold hc rfl rfl
    · rcases Presence.conn_step hp hc with ⟨conn', hconn', huser, haddr⟩ | he'
      · exact hold hconn' huser haddr
      · obtain ⟨g, rfl, haddr⟩ := hconnect c _ _ he'
        exact ⟨g, socket_of_connect hcases, haddr.symm⟩
  · intro u a hu
    rcases presence_cases hstep with hsame | ⟨e', hp, hsets, -⟩
    · rw [hsame] at hu
      exact (h.key u a hu).concat hcases
    · rcases Presence.key_step hp hu with hold | ⟨k, conn, hset, hconn, rfl, rfl⟩
      · exact (h.key u a hold).concat hcases
      · obtain ⟨g, hsock, hg⟩ := h.conn k conn hconn
        exact ⟨k, g, socket_step hcases hsock, hg, e, by simp, hsets k hset⟩
  · intro c r m hc
    rcases delivering_step hcases hc with hold | ⟨sock, hsock, hlocating, hkey, hne⟩
    · exact hsocket (h.handler c r m hold)
    · exact hsocket ⟨sock, hsock, hread hlocating hkey hne⟩
  · intro p target m hp
    rcases calling_step hcases hp with hold | ⟨c, r, hlocating, hkey, hne⟩
    · exact hmono (h.call p target m hold)
    · exact hmono (hread hlocating hkey hne)
  · intro g caller ch m hd
    rcases inFlight_step hcases hd with hold | ⟨c, sock, r, hc, hsock, rfl⟩ | ⟨p, hp⟩
    · exact hmono (h.inFlight g caller ch m hold)
    · obtain ⟨sock', hsock', hm⟩ := h.handler c r m hc
      obtain rfl := Option.some.inj (hsock.symm.trans hsock')
      exact hmono hm
    · exact hmono (h.call p _ m hp)
  · intro g ch m hm
    rcases buffer_step hcases g ch with hsub | ⟨m', hm', hbuf⟩
    · exact hmono (h.buffer g ch m (hsub.subset hm))
    · rw [hbuf, List.mem_append, List.mem_singleton] at hm
      rcases hm with hold | rfl
      · exact hmono (h.buffer g ch m hold)
      · obtain ⟨caller, hd⟩ := delivering_of_sent (accepts_of_enqueued hm').1
        exact hmono (h.inFlight g caller ch m hd)
  · intro c m hm
    rcases writing_of_step hcases hm with hold | ⟨g, hbuf⟩
    · exact hsocket (h.writer c m hold)
    · obtain ⟨u, hsock⟩ := socket_of_buffer hs hbuf
      exact hsocket ⟨⟨g, u⟩, hsock, h.buffer g c m hbuf⟩
  · intro c m hm
    rcases out_step hcases c with hsame | ⟨frame, hout, hframe⟩
    · rw [hsame] at hm
      exact hsocket (h.socket c m hm)
    · rw [hout, List.mem_append, List.mem_singleton] at hm
      rcases hm with hold | rfl
      · exact hsocket (h.socket c m hold)
      · rcases hframe with ⟨r, m', -, heq⟩ | ⟨m', hwriting, heq⟩
        · cases heq
        · cases heq
          exact hsocket (h.writer c m hwriting)

theorem provenance (h : (cluster R addr).run (init R) es = some s) : Provenance addr es s := by
  refine (cluster R addr).run_induction (motive := fun es s => Provenance addr es s) ?_
    (fun es s e t hs ih hstep => ih.step ⟨es, hs⟩ hstep) h
  constructor
  · intro c conn hc
    cases hc
  · intro u a hu
    cases hu
  · intro c r m hc
    cases hc
  · intro p target m hp
    cases hp
  · intro g caller ch m hd
    cases hd
  · intro g ch m hm
    exact absurd hm List.not_mem_nil
  · intro c m hm
    cases hm
  · intro c m hm
    exact absurd hm List.not_mem_nil

/-- A gateway on ECS. -/
def ecsGateway : Process where
  environ key := if key = "ECS_CONTAINER_METADATA_URI_V4" then "http://169.254.170.2/v4/c" else ""
  get _ := .response 200 (.task ⟨"arn:aws:ecs:us-west-2:1:task/tt/0123456789abcdef", [⟨[⟨["10.0.0.5"]⟩]⟩]⟩)
  identity :=
    { environ := (Environ.setenv
        (fun key => if key = "ECS_CONTAINER_METADATA_URI_V4" then "http://169.254.170.2/v4/c" else "")
        "GATEWAY_ADDR" "89abcdef").setenv "GATEWAY_GRPC_ADDR" "10.0.0.5:9000"
      registered := some ("89abcdef", "10.0.0.5:9000") }
  main_eq := rfl

/-- A gateway that is told its name only. -/
def namedGateway : Process where
  environ key := if key = "GATEWAY_ADDR" then "gateway2:9000" else ""
  get _ := .failed "no such host"
  identity :=
    { environ := fun key => if key = "GATEWAY_ADDR" then "gateway2:9000" else ""
      registered := some ("gateway2:9000", "gateway2:9000") }
  main_eq := rfl

/-- Alice writes to Bob from the one to the other. -/
def acrossRun : List CounterEvent :=
  opening 0 "alice" ++
    [.connect 3 1 "bob", .handler 3 (.registerUser true), .handler 3 .registerConn,
      .handler 0 (.frame (some ⟨"bob", "hi"⟩) 0 5), .service (.redis 0 (.incr .executed)),
      .service (.redis 0 (.incr .executed)), .service (.redis 0 (.wait (.ok 1))),
      .service (.insert 0 "m" 7 8 .executed), .handler 0 .persisted, .handler 0 (.ack true true),
      .handler 0 (.locate false 0), .peer 0 (.deliverMessage 1), .peer 0 .send, .writer 3 .receive,
      .writer 3 (.write true true)]

end Cluster

end TinyTelegram.Gateway
