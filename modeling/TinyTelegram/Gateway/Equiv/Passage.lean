import TinyTelegram.Gateway.Equiv.Enqueue

/-!
# From the message service to a channel

A message that `PersistMessage` has returned is acknowledged by its handler, goes on with the handler
or with the goroutine that calls a peer, is in flight between the two halves of `DeliverLocal`, and
is put into a channel.  `carried?` says which message is on which `Leg` of this way, `milestone?`
which events of a run tell how far a message has come, and `passage` what a step does with the
messages on the way: it takes one up, passes one on, puts one into a channel, or loses one, for one of
the reasons in `Loss`.
-/

namespace TinyTelegram.Gateway

namespace Registry

variable {x y : State} {e : Event} {caller : Caller}

/-- The first half of `DeliverLocal` begins a delivery, if it finds a channel. -/
theorem delivering_lookup {r : String} {m : PersistedMessage}
    (h : registry.step x (.lookup caller r m) = some y) : x.delivering caller = none ∧
      y.delivering = Function.update x.delivering caller ((x.connMap r).map fun ch => (ch, m)) := by
  obtain ⟨-, hstep⟩ := step_cases h
  cases hstep with
  | lookup hready =>
    refine ⟨?_, rfl⟩
    cases caller with
    | readLoop c => exact Option.isNone_iff_eq_none.mp (Bool.and_eq_true_iff.mp hready).2
    | rpc n => exact Option.isNone_iff_eq_none.mp hready

/-- The second half ends it. -/
theorem delivering_send (h : registry.step x (.send caller) = some y) :
    (∃ ch m, x.delivering caller = some (ch, m)) ∧
      y.delivering = Function.update x.delivering caller none := by
  obtain ⟨-, hstep⟩ := step_cases h
  cases hstep with
  | deliver hd hopen hroom => exact ⟨⟨_, _, hd⟩, rfl⟩
  | full hd hopen hfull => exact ⟨⟨_, _, hd⟩, rfl⟩
  | panic hd hclosed =>
    refine ⟨⟨_, _, hd⟩, ?_⟩
    rw [State.addPanic_delivering, unwind_delivering, State.setDelivering_delivering]

/-- The other steps leave the deliveries alone. -/
theorem delivering_of_ne (h : registry.step x e = some y)
    (hlookup : ∀ caller r m, e ≠ .lookup caller r m) (hsend : ∀ caller, e ≠ .send caller) :
    y.delivering = x.delivering := by
  obtain ⟨-, hstep⟩ := step_cases h
  cases hstep with
  | lookup hready => exact (hlookup _ _ _ rfl).elim
  | deliver hd hopen hroom => exact (hsend _ rfl).elim
  | full hd hopen hfull => exact (hsend _ rfl).elim
  | panic hd hclosed => exact (hsend _ rfl).elim
  | _ => rfl

end Registry

namespace Cluster

open MessageService (Redis CallId)

variable {ρ χ ε : Type} {R : Redis ρ χ ε} {addr : GwId → String}

/-! ### The legs -/

/-- Where a message is between the message service and a channel. -/
inductive Leg where
  /-- Its handler is about to acknowledge it. -/
  | acking (c : ConnId)
  /-- Its handler has acknowledged it. -/
  | routing (c : ConnId)
  /-- With the goroutine that calls a peer. -/
  | peer (p : RpcId)
  /-- In `DeliverLocal`, with the channel looked up. -/
  | inFlight (g : GwId) (caller : Caller) (ch : ConnId)
  deriving DecidableEq

/-- The message that a handler is about to acknowledge. -/
def acking? : Handler → Option PersistedMessage
  | .acking _ m => some m
  | _ => none

/-- The message that a handler has acknowledged, and not passed on. -/
def routing? : Handler → Option PersistedMessage
  | .locating _ m | .delivering _ m => some m
  | _ => none

/-- The message of an RPC that has not been executed. -/
def calling? : Peer → Option PersistedMessage
  | .calling _ m => some m
  | _ => none

/-- The message of a delivery to the channel `ch`. -/
def toChan? (d : Option (ConnId × PersistedMessage)) (ch : ConnId) : Option PersistedMessage :=
  d.bind fun (k, m) => if k = ch then some m else none

@[simp] theorem toChan?_none (ch : ConnId) : toChan? none ch = none := rfl

@[simp] theorem toChan?_self (ch : ConnId) (m : PersistedMessage) :
    toChan? (some (ch, m)) ch = some m :=
  if_pos rfl

theorem toChan?_of_ne {ch k : ConnId} (hk : k ≠ ch) (m : PersistedMessage) :
    toChan? (some (ch, m)) k = none :=
  if_neg hk.symm

/-- The message on a leg. -/
def carried? (s : State ρ) : Leg → Option PersistedMessage
  | .acking c => acking? (s.handlers c)
  | .routing c => routing? (s.handlers c)
  | .peer p => calling? (s.peers p)
  | .inFlight g caller ch => toChan? ((s.gateways g).delivering caller) ch

section Carried

variable (s : State ρ)

theorem carried_setHandler (c : ConnId) (h : Handler) : carried? (s.setHandler c h) =
    Function.update (Function.update (carried? s) (.acking c) (acking? h)) (.routing c)
      (routing? h) := by
  funext l
  cases l with
  | acking k =>
    rw [Function.update_of_ne (by simp)]
    by_cases hk : k = c
    · subst hk
      simp [carried?, State.setHandler]
    · rw [Function.update_of_ne (by simpa using hk)]
      simp [carried?, State.setHandler, Function.update_of_ne hk]
  | routing k =>
    by_cases hk : k = c
    · subst hk
      simp [carried?, State.setHandler]
    · rw [Function.update_of_ne (by simpa using hk), Function.update_of_ne (by simp)]
      simp [carried?, State.setHandler, Function.update_of_ne hk]
  | _ =>
    rw [Function.update_of_ne (by simp), Function.update_of_ne (by simp)]
    rfl

/-- A handler that goes on to another point with the message it has. -/
theorem carried_setHandler_of_eq {c : ConnId} {h : Handler}
    (hacking : acking? h = acking? (s.handlers c)) (hrouting : routing? h = routing? (s.handlers c)) :
    carried? (s.setHandler c h) = carried? s := by
  rw [carried_setHandler, hacking, hrouting]
  have hsame : Function.update (carried? s) (.acking c) (acking? (s.handlers c)) = carried? s :=
    Function.update_eq_self ..
  rw [hsame]
  exact Function.update_eq_self ..

/-- A handler that has acknowledged its message passes it on. -/
theorem carried_setHandler_routing {c : ConnId} {h : Handler} {m : Option PersistedMessage}
    (hold : acking? (s.handlers c) = none) (hacking : acking? h = none) (hrouting : routing? h = m) :
    carried? (s.setHandler c h) = Function.update (carried? s) (.routing c) m := by
  rw [carried_setHandler, hacking, hrouting]
  have hsame : Function.update (carried? s) (.acking c) none = carried? s := by
    rw [← hold]
    exact Function.update_eq_self ..
  rw [hsame]

theorem carried_setPeer (p : RpcId) (q : Peer) :
    carried? (s.setPeer p q) = Function.update (carried? s) (.peer p) (calling? q) := by
  funext l
  by_cases hl : l = .peer p
  · subst hl
    simp [carried?, State.setPeer]
  · rw [Function.update_of_ne hl]
    cases l with
    | peer k =>
      have hk : k ≠ p := fun hk => hl (hk ▸ rfl)
      simp [carried?, State.setPeer, Function.update_of_ne hk]
    | _ => rfl

/-- A delivery to the channel `ch` begins or ends. -/
theorem carried_setGateway {g : GwId} {x : Registry.State} {caller : Caller}
    {d : Option (ConnId × PersistedMessage)} {ch : ConnId}
    (hx : x.delivering = Function.update (s.gateways g).delivering caller d)
    (hd : ∀ k, k ≠ ch → toChan? d k = toChan? ((s.gateways g).delivering caller) k) :
    carried? (s.setGateway g x) =
      Function.update (carried? s) (.inFlight g caller ch) (toChan? d ch) := by
  funext l
  by_cases hl : l = .inFlight g caller ch
  · subst hl
    simp [carried?, State.setGateway, hx]
  · rw [Function.update_of_ne hl]
    cases l with
    | inFlight g' caller' k =>
      by_cases hg : g' = g
      · subst hg
        by_cases hc : caller' = caller
        · subst hc
          have hk : k ≠ ch := fun hk => hl (hk ▸ rfl)
          simp [carried?, State.setGateway, hx, hd k hk]
        · simp [carried?, State.setGateway, hx, Function.update_of_ne hc]
      · simp [carried?, State.setGateway, Function.update_of_ne hg]
    | _ => rfl

/-- A registry step that neither begins a delivery nor ends one. -/
theorem carried_setGateway_of_eq {g : GwId} {x : Registry.State}
    (hx : x.delivering = (s.gateways g).delivering) : carried? (s.setGateway g x) = carried? s := by
  funext l
  cases l with
  | inFlight g' caller ch =>
    by_cases hg : g' = g
    · subst hg
      simp [carried?, State.setGateway, hx]
    · simp [carried?, State.setGateway, Function.update_of_ne hg]
  | _ => rfl

theorem carried_write (c : ConnId) (frame : Frame) (arrives : Bool) :
    carried? (s.write c frame arrives) = carried? s := by
  unfold State.write
  split <;> rfl

end Carried

/-! ### What the events tell -/

/-- How far a message has come. -/
inductive Milestone where
  /-- `PersistMessage` has returned it to the handler. -/
  | handed (m : PersistedMessage)
  /-- The write of its acknowledgement has returned, without an error or with one. -/
  | acked (m : PersistedMessage) (ok : Bool)
  /-- It is put into the channel `ch` of the gateway `g`. -/
  | enqueued (g : GwId) (ch : ConnId) (m : PersistedMessage)
  deriving DecidableEq, Repr

def Milestone.message : Milestone → PersistedMessage
  | .handed m | .acked m _ | .enqueued _ _ m => m

/-- The message that the call of a handler has returned. -/
def returned? (s : State ρ) (c : ConnId) : Option PersistedMessage :=
  match s.handlers c with
  | .persisting _ call =>
    match s.service.calls call with
    | .returned _ _ (.ok m) => some m
    | _ => none
  | _ => none

/-- The milestone that an event is. -/
def milestone? (s : State ρ) : Event χ ε → Option Milestone
  | .handler c .persisted => (returned? s c).map .handed
  | .handler c (.ack _ ok) => (acking? (s.handlers c)).map fun m => .acked m ok
  | e => (enqueued? s e).map fun (g, ch, m) => .enqueued g ch m

/-- Which events the milestones are. -/
theorem milestone_cases {s : State ρ} {e : Event χ ε} {x : Milestone} (h : milestone? s e = some x) :
    (∃ c m, e = .handler c .persisted ∧ returned? s c = some m ∧ x = .handed m) ∨
    (∃ c arrives ok m, e = .handler c (.ack arrives ok) ∧ acking? (s.handlers c) = some m ∧
      x = .acked m ok) ∨
    ∃ g ch m, enqueued? s e = some (g, ch, m) ∧ x = .enqueued g ch m := by
  unfold milestone? at h
  split at h
  · obtain ⟨m, hm, rfl⟩ := Option.map_eq_some_iff.mp h
    exact Or.inl ⟨_, m, rfl, hm, rfl⟩
  · obtain ⟨m, hm, rfl⟩ := Option.map_eq_some_iff.mp h
    exact Or.inr (Or.inl ⟨_, _, _, m, rfl, hm, rfl⟩)
  · obtain ⟨⟨g, ch, m⟩, hm, rfl⟩ := Option.map_eq_some_iff.mp h
    exact Or.inr (Or.inr ⟨g, ch, m, hm, rfl⟩)

/-- The receiver whose presence an event looks up, for a message, and the answer. -/
def located? (s : State ρ) : Event χ ε → Option (String × PersistedMessage × Option String)
  | .handler c (.locate fail _) =>
    match s.handlers c with
    | .locating receiverID m =>
      some (receiverID, m, if fail then none else s.presence.getUserGateway receiverID)
    | _ => none
  | _ => none

/-- The receiver whose channel an event looks up, for a message, with the gateway it does so on. -/
def lookedUp? (s : State ρ) : Event χ ε → Option (GwId × String × PersistedMessage)
  | .handler c .lookup =>
    match s.handlers c with
    | .delivering receiverID m => (s.sockets c).map fun sock => (sock.gw, receiverID, m)
    | _ => none
  | .peer p (.deliverMessage g) =>
    match s.peers p with
    | .calling _ m => m.message.map fun msg => (g, msg.receiverId, m)
    | _ => none
  | _ => none

/-- The channel that an event sends a message to, with its gateway. -/
def sent? (s : State ρ) : Event χ ε → Option (GwId × ConnId × PersistedMessage)
  | .handler c .send =>
    (s.sockets c).bind fun sock =>
      ((s.gateways sock.gw).delivering (.readLoop c)).map fun d => (sock.gw, d)
  | .peer p .send =>
    match s.peers p with
    | .sending g => ((s.gateways g).delivering (.rpc p)).map fun d => (g, d)
    | _ => none
  | _ => none

/-- A channel that takes a message. -/
def Accepts (s : State ρ) (g : GwId) (ch : ConnId) : Prop :=
  ((s.gateways g).chans ch).closedBy = none ∧
    ((s.gateways g).chans ch).buf.length < Registry.capacity

instance (s : State ρ) (g : GwId) (ch : ConnId) : Decidable (Accepts s g ch) :=
  inferInstanceAs (Decidable (_ ∧ _))

/-- How a step loses a message: the receiver has no presence, or it could not be read; there is no
channel of the receiver; the channel does not take it; or the RPC is not executed. -/
inductive Loss (s : State ρ) (e : Event χ ε) (m : PersistedMessage) : Prop where
  | nowhere {r answer} (h : located? s e = some (r, m, answer)) (hnone : answer.getD "" = "")
  | unregistered {g r} (h : lookedUp? s e = some (g, r, m))
      (hnone : (s.gateways g).connMap r = none)
  | refused {g ch} (h : sent? s e = some (g, ch, m)) (hnot : ¬ Accepts s g ch)
  | failed {p target} (h : s.peers p = .calling target m) (he : e = .peer p .fail)

/-! ### What a step does with the messages on the way -/

/-- What a step does with the messages on the way to the channels. -/
inductive Passage (s : State ρ) (e : Event χ ε) (t : State ρ) : Prop where
  | same (hnone : milestone? s e = none) (ht : carried? t = carried? s)
  | handed {c m incoming call msg alloc} (hm : milestone? s e = some (.handed m))
      (hc : s.handlers c = .persisting incoming call)
      (hret : s.service.calls call = .returned msg alloc (.ok m))
      (ht : carried? t = Function.update (carried? s) (.acking c) (some m))
  | acked {c m ok} (hm : milestone? s e = some (.acked m ok)) (hfrom : carried? s (.acking c) = some m)
      (hto : carried? s (.routing c) = none)
      (ht : carried? t = Function.update (Function.update (carried? s) (.acking c) none) (.routing c)
        (if ok then some m else none))
  | called {c p m} (hnone : milestone? s e = none) (hfrom : carried? s (.routing c) = some m)
      (hto : carried? s (.peer p) = none)
      (ht : carried? t = Function.update (Function.update (carried? s) (.routing c) none) (.peer p)
        (some m))
  | lookedUp {l g caller r ch m} (hnone : milestone? s e = none) (hl : ∀ c, l ≠ .acking c)
      (hfrom : carried? s l = some m) (hlookup : lookedUp? s e = some (g, r, m))
      (hch : (s.gateways g).connMap r = some ch) (hto : carried? s (.inFlight g caller ch) = none)
      (ht : carried? t = Function.update (Function.update (carried? s) l none) (.inFlight g caller ch)
        (some m))
  | enqueued {g caller ch m} (hm : milestone? s e = some (.enqueued g ch m))
      (hfrom : carried? s (.inFlight g caller ch) = some m)
      (ht : carried? t = Function.update (carried? s) (.inFlight g caller ch) none)
  | lost {l m} (hnone : milestone? s e = none) (hl : ∀ c, l ≠ .acking c)
      (hfrom : carried? s l = some m) (hloss : Loss s e m)
      (ht : carried? t = Function.update (carried? s) l none)

section Passage

variable {s t : State ρ} {e : Event χ ε} {g : GwId} {caller : Caller} {m : PersistedMessage}
  {x : Registry.State}

/-- What a channel accepts of what is sent to it. -/
theorem enqueued?_of_sent {ch : ConnId} (h : sent? s e = some (g, ch, m)) :
    enqueued? s e = if Accepts s g ch then some (g, ch, m) else none := by
  have haccepted : ∀ {caller}, (s.gateways g).delivering caller = some (ch, m) →
      Registry.accepted? (s.gateways g) caller = if Accepts s g ch then some (ch, m) else none := by
    intro caller hd
    simp only [Registry.accepted?, hd, Option.filter, Option.isNone_iff_eq_none, decide_eq_true_eq]
    exact if_congr Iff.rfl rfl rfl
  cases e with
  | handler c e =>
    cases e with
    | send =>
      obtain ⟨sock, hs, h⟩ := Option.bind_eq_some_iff.mp h
      obtain ⟨d, hd, heq⟩ := Option.map_eq_some_iff.mp h
      cases heq
      rw [enqueued?, hs, Option.bind_some, haccepted hd]
      split <;> rfl
    | _ => cases h
  | peer p e =>
    cases e with
    | send =>
      simp only [sent?] at h
      split at h
      · rename_i g' hp
        obtain ⟨d, hd, heq⟩ := Option.map_eq_some_iff.mp h
        cases heq
        simp only [enqueued?, hp]
        rw [haccepted hd]
        split <;> rfl
      · cases h
    | _ => cases h
  | _ => cases h

/-- What is put into a channel was in flight to it, and the channel accepts it. -/
theorem accepts_of_enqueued {c : ConnId} (h : enqueued? s e = some (g, c, m)) :
    sent? s e = some (g, c, m) ∧ Accepts s g c := by
  have haccepted : ∀ {g' caller d}, Registry.accepted? (s.gateways g') caller = some d →
      (g', d) = (g, c, m) → (s.gateways g).delivering caller = some (c, m) ∧ Accepts s g c := by
    rintro g' caller d hd ⟨⟩
    obtain ⟨hd, haccepts⟩ := Option.filter_eq_some_iff.mp hd
    exact ⟨hd, by simpa [Accepts] using haccepts⟩
  unfold enqueued? at h
  split at h
  · obtain ⟨sock, hs, h⟩ := Option.bind_eq_some_iff.mp h
    obtain ⟨d, hd, heq⟩ := Option.map_eq_some_iff.mp h
    obtain rfl : sock.gw = g := congrArg Prod.fst heq
    obtain ⟨hd, haccepts⟩ := haccepted hd heq
    exact ⟨by simp [sent?, hs, hd], haccepts⟩
  · split at h
    · rename_i g' hp
      obtain ⟨d, hd, heq⟩ := Option.map_eq_some_iff.mp h
      obtain rfl : g' = g := congrArg Prod.fst heq
      obtain ⟨hd, haccepts⟩ := haccepted hd heq
      exact ⟨by simp [sent?, hp, hd], haccepts⟩
    · cases h
  · cases h

/-- What is sent to a channel is in flight to it. -/
theorem delivering_of_sent {ch : ConnId} (h : sent? s e = some (g, ch, m)) :
    ∃ caller, (s.gateways g).delivering caller = some (ch, m) := by
  unfold sent? at h
  split at h
  · rename_i c
    obtain ⟨sock, -, h⟩ := Option.bind_eq_some_iff.mp h
    obtain ⟨d, hd, heq⟩ := Option.map_eq_some_iff.mp h
    cases heq
    exact ⟨.readLoop c, hd⟩
  · rename_i p
    split at h
    · obtain ⟨d, hd, heq⟩ := Option.map_eq_some_iff.mp h
      cases heq
      exact ⟨.rpc p, hd⟩
    · cases h
  · cases h

theorem carried_of_sent {ch : ConnId} (h : sent? s e = some (g, ch, m)) :
    ∃ caller, carried? s (.inFlight g caller ch) = some m := by
  obtain ⟨caller, hd⟩ := delivering_of_sent h
  exact ⟨caller, by simp [carried?, hd]⟩

/-- The first half of `DeliverLocal` takes the message of the leg `l` up, or loses it. -/
theorem passage_lookup {l : Leg} {r : String}
    (hx : registry.step (s.gateways g) (.lookup caller r m) = some x)
    (hnone : milestone? s e = none) (hl : ∀ c, l ≠ .acking c) (hne : ∀ ch, l ≠ .inFlight g caller ch)
    (hfrom : carried? s l = some m) (hlookup : lookedUp? s e = some (g, r, m))
    (ht : carried? t = Function.update (carried? (s.setGateway g x)) l none) : Passage s e t := by
  obtain ⟨hold, hd⟩ := Registry.delivering_lookup hx
  cases hch : (s.gateways g).connMap r with
  | none =>
    refine .lost hnone hl hfrom (.unregistered hlookup hch) ?_
    have hsame : x.delivering = (s.gateways g).delivering := by
      rw [hd, hch, Option.map_none, ← hold, Function.update_eq_self]
    rw [ht, carried_setGateway_of_eq s hsame]
  | some ch =>
    have hto : carried? s (.inFlight g caller ch) = none := by
      simp [carried?, hold]
    refine .lookedUp hnone hl hfrom hlookup hch hto ?_
    rw [hch, Option.map_some] at hd
    rw [ht, carried_setGateway s hd, toChan?_self, Function.update_comm (hne ch)]
    intro k hk
    rw [toChan?_of_ne hk, hold, toChan?_none]

/-- The second half puts it into the channel, or loses it. -/
theorem passage_send (hx : registry.step (s.gateways g) (.send caller) = some x)
    (hsent : sent? s e = ((s.gateways g).delivering caller).map fun d => (g, d))
    (hmilestone : milestone? s e = (enqueued? s e).map fun (g, ch, m) => .enqueued g ch m)
    (ht : carried? t = carried? (s.setGateway g x)) : Passage s e t := by
  obtain ⟨⟨ch, m, hold⟩, hd⟩ := Registry.delivering_send hx
  have hfrom : carried? s (.inFlight g caller ch) = some m := by
    simp [carried?, hold]
  have hother : ∀ k, k ≠ ch → toChan? none k = toChan? ((s.gateways g).delivering caller) k := by
    intro k hk
    rw [hold, toChan?_of_ne hk, toChan?_none]
  rw [hold] at hsent
  rw [carried_setGateway s hd hother] at ht
  rw [enqueued?_of_sent hsent] at hmilestone
  split_ifs at hmilestone with haccepts
  · exact .enqueued hmilestone hfrom ht
  · exact .lost hmilestone (by simp) hfrom (.refused hsent haccepts) ht

/-- A message is looked up nowhere exactly when the answer names no gateway. -/
theorem route_eq_nowhere {presenceAddr : String} {answer : Option String} :
    route presenceAddr answer = .nowhere ↔ answer.getD "" = "" := by
  cases answer with
  | none => exact ⟨fun _ => rfl, fun _ => rfl⟩
  | some target =>
    by_cases htarget : target = ""
    · simp [route, htarget]
    · by_cases hhere : target = presenceAddr
      · simp [route, hhere ▸ htarget, hhere]
      · simp [route, htarget, hhere]

/-- **What every step does** with the messages on the way. -/
theorem passage (hs : (cluster R addr).Reachable s) (h : Step R addr s e t) : Passage s e t := by
  -- a handler that has no message, and goes on without one
  have hidle : ∀ {v : State ρ} {c h h'}, s.handlers c = h → v.handlers = s.handlers →
      acking? h = none → routing? h = none → acking? h' = none → routing? h' = none →
      carried? (v.setHandler c h') = carried? v := by
    rintro v c h h' hc hh hacking hrouting hacking' hrouting'
    rw [carried_setHandler_of_eq]
    · rw [hh, hc, hacking, hacking']
    · rw [hh, hc, hrouting, hrouting']
  -- a handler that passes its message on
  have hpast : ∀ {v : State ρ} {c h h'}, s.handlers c = h → v.handlers = s.handlers →
      acking? h = none → acking? h' = none → routing? h' = none →
      carried? (v.setHandler c h') = Function.update (carried? v) (.routing c) none := by
    rintro v c h h' hc hh hacking hacking' hrouting'
    refine carried_setHandler_routing v ?_ hacking' hrouting'
    rw [hh, hc, hacking]
  have hrouting : ∀ {c h m}, s.handlers c = h → routing? h = some m →
      carried? s (.routing c) = some m := by
    intro c h m hc hm
    rw [carried?, hc, hm]
  have hpeer : ∀ {p target m}, s.peers p = .calling target m → carried? s (.peer p) = some m := by
    intro p target m hp
    rw [carried?, hp]
    rfl
  cases h with
  | connect hnew hp => exact .same rfl (hidle (unopened hs hnew).1 rfl rfl rfl rfl rfl)
  | registerUser hs hc hp => exact .same rfl (hidle hc rfl rfl rfl rfl rfl)
  | registerConn hs hc hx =>
    have hd := Registry.delivering_of_ne hx (by simp) (by simp)
    exact .same rfl ((hidle (v := (s.setGateway _ _).setWriter _ _) hc rfl rfl rfl rfl rfl).trans
      (carried_setGateway_of_eq s hd))
  | ignore hs hc hraw => exact .same rfl rfl
  | frame hs hc hraw hx => exact .same rfl (hidle hc rfl rfl rfl rfl rfl)
  | @persisted c sock incoming call msg alloc m hs hc hm =>
    refine .handed (c := c) (m := m) ?_ hc hm ?_
    · simp [milestone?, returned?, hc, hm]
    · rw [carried_setHandler]
      refine Function.update_eq_self_iff.mpr ?_
      rw [Function.update_of_ne (by simp)]
      simp [carried?, hc, routing?]
  | persistFailed hs hc => exact .same rfl (hidle hc rfl rfl rfl rfl rfl)
  | @ack c sock r m arrives ok hs hc =>
    have hacked : milestone? s (.handler c (.ack arrives ok) : Event χ ε) = some (.acked m ok) := by
      simp only [milestone?, acking?, hc, Option.map_some]
    refine .acked (c := c) hacked ?_ ?_ ?_
    · simp [carried?, acking?, hc]
    · simp [carried?, routing?, hc]
    · rw [carried_setHandler, carried_write]
      cases ok <;> rfl
  | @locateNowhere c sock r m fail p hs hc hroute =>
    have hlocated : located? s (.handler c (.locate fail p) : Event χ ε) =
        some (r, m, if fail then none else s.presence.getUserGateway r) := by
      simp only [located?, hc]
    exact .lost rfl (by simp) (hrouting hc rfl) (.nowhere hlocated (route_eq_nowhere.mp hroute))
      (hpast hc rfl rfl rfl rfl)
  | locateHere hs hc hroute =>
    refine .same rfl (carried_setHandler_of_eq s ?_ ?_)
    · rw [hc]
      rfl
    · rw [hc]
      rfl
  | @locatePeer c sock r m fail p target hs hc hp =>
    have hto : carried? s (.peer p) = none := by
      simp [carried?, calling?, hp]
    refine .called (c := c) (p := p) (m := m) rfl (hrouting hc rfl) hto ?_
    rw [hpast (v := s.setPeer p _) hc rfl rfl rfl rfl, carried_setPeer,
      Function.update_comm (by simp)]
    rfl
  | @lookup c sock r m x hs hc hx =>
    refine passage_lookup hx rfl (l := .routing c) (by simp) (by simp) (hrouting hc rfl) ?_ ?_
    · simp [lookedUp?, hc, hs]
    · refine hpast (v := s.setGateway sock.gw x) hc rfl rfl ?_ ?_
      · split <;> rfl
      · split <;> rfl
  | @send c sock x p hs hc hx hp =>
    refine passage_send hx ?_ rfl ?_
    · simp [sent?, hs]
    · refine hidle (v := (s.setGateway sock.gw x).setPresence p) hc rfl rfl rfl ?_ ?_
      · unfold afterSend
        split <;> rfl
      · unfold afterSend
        split <;> rfl
  | hangUp hs hc hx hp =>
    have hd := Registry.delivering_of_ne hx (by simp) (by simp)
    exact .same rfl ((hidle (v := (s.setGateway _ _).setPresence _) hc rfl rfl rfl rfl rfl).trans
      (carried_setGateway_of_eq s hd))
  | unregisterConn hs hc hx =>
    have hd := Registry.delivering_of_ne hx (by simp) (by simp)
    exact .same rfl ((hidle (v := s.setGateway _ _) hc rfl rfl rfl rfl rfl).trans
      (carried_setGateway_of_eq s hd))
  | unregisterUser hs hc hp => exact .same rfl (hidle hc rfl rfl rfl rfl rfl)
  | receive hs hc hbuf hx =>
    have hd := Registry.delivering_of_ne hx (by simp) (by simp)
    exact .same rfl (carried_setGateway_of_eq s hd)
  | drained hs hc => exact .same rfl rfl
  | write hs hc => exact .same rfl (carried_write ..)
  | @deliverNothing p g target m hp hm =>
    -- a message that has been returned has a content
    have hmem : m ∈ held s (.peer p) := by
      simp [held, hp, peerHeld]
    obtain ⟨msg, createdAt, hmessage, -⟩ := committed hs hmem
    rw [hm] at hmessage
    cases hmessage
  | @deliverMessage p g target m msg x hp hm hx =>
    refine passage_lookup hx rfl (l := .peer p) (by simp) (by simp) (hpeer hp) ?_ ?_
    · simp [lookedUp?, hp, hm]
    · rw [carried_setPeer]
      split <;> rfl
  | @peerSend p g x hp hx =>
    refine passage_send hx ?_ rfl ?_
    · simp [sent?, hp]
    · rw [carried_setPeer]
      refine Function.update_eq_self_iff.mpr ?_
      simp [carried?, calling?, State.setGateway, hp]
  | @peerFail p target m hp =>
    refine .lost rfl (by simp) (hpeer hp) (.failed hp rfl) ?_
    rw [carried_setPeer]
    rfl
  | heartbeat hp => exact .same rfl rfl
  | expire hp => exact .same rfl rfl
  | service hx => exact .same rfl rfl

end Passage

end Cluster

end TinyTelegram.Gateway
