import TinyTelegram.Gateway.Equiv.Counters
import TinyTelegram.Gateway.Equiv.Enqueue

/-!
# The order of the messages on a socket

The messages for a user get their PTS one after the other, and then each goes its own way to the
channel of the user: through its handler, or a goroutine and an RPC.  So a later one may be in the
channel first, and the messages on the socket are then out of order (`not_incomingOrder`).

From the channel on the order stays: the buffer, the writer and the socket are one line
(`pipeline`).  If no message is put into a channel while one with a smaller PTS is still on its way
there (`InTurn`), the messages on every socket are in strictly increasing `receiver_pts`
(`incomingOrder`).
-/

namespace TinyTelegram.Gateway

namespace Cluster

open MessageService (CallId ptsKey counterService)
open MessageService.Counters (handed? handout)

/-- The messages on every socket are in strictly increasing `receiver_pts`. -/
def IncomingOrder (s : CounterState) : Prop :=
  ∀ c, ((s.out c).filterMap Frame.message?).Pairwise fun a b => a.receiverPts < b.receiverPts

/-- From the place a message may come to the channel `ch`. -/
def Place.Before (ch : ConnId) : Place → Prop
  | .handler _ | .peer _ => True
  | .gateway _ (.inFlight _ k) => k = ch
  | _ => False

/-- A message for `u` with the receiver's PTS `q` may still come to the channel `ch`: a call that a
handler waits for has been handed the PTS, or the message is at hand somewhere. -/
inductive OnTheWay (s : CounterState) (u : String) (ch : ConnId) : Int → Prop where
  | call {k incoming id msg rp sp} (hk : s.handlers k = .persisting incoming id)
      (hcall : handed? (s.service.calls id) = some (msg, rp, sp))
      (hok : ¬ (s.service.calls id).Failed) (hu : msg.receiverId = u) : OnTheWay s u ch rp
  | message {l m} (hl : l.Before ch) (hm : m ∈ held s l) (hu : m.isReceiver u = true) :
      OnTheWay s u ch m.receiverPts

/-- The event is no rollback, and if it puts a message into a channel, no message with a smaller PTS
is still on its way there. -/
def InTurn (s : CounterState) (e : CounterEvent) : Prop :=
  NoRollback e ∧ ∀ g ch m sock, enqueued? s e = some (g, ch, m) → s.sockets ch = some sock →
    ∀ q, OnTheWay s sock.user ch q → m.receiverPts ≤ q

/-! ### The failing schedule -/

/-- Alice and Carol write to Bob.  Alice's message gets PTS 1 and Carol's PTS 2, and Carol's is
delivered first. -/
def overtakingRun : List CounterEvent :=
  [.connect 0 0 "alice", .handler 0 (.registerUser true), .handler 0 .registerConn,
    .connect 1 0 "carol", .handler 1 (.registerUser true), .handler 1 .registerConn,
    .connect 2 0 "bob", .handler 2 (.registerUser true), .handler 2 .registerConn,
    .handler 0 (.frame (some ⟨"bob", "first"⟩) 0 5),
    .handler 1 (.frame (some ⟨"bob", "second"⟩) 1 6),
    .service (.redis 0 (.incr .executed)), .service (.redis 1 (.incr .executed)),
    .service (.redis 1 (.incr .executed)), .service (.redis 1 (.wait (.ok 1))),
    .service (.insert 1 "b" 0 0 .executed), .handler 1 .persisted, .handler 1 (.ack true true),
    .handler 1 (.locate false 0), .handler 1 .lookup, .handler 1 .send,
    .service (.redis 0 (.incr .executed)), .service (.redis 0 (.wait (.ok 1))),
    .service (.insert 0 "a" 0 0 .executed), .handler 0 .persisted, .handler 0 (.ack true true),
    .handler 0 (.locate false 0), .handler 0 .lookup, .handler 0 .send,
    .writer 2 .receive, .writer 2 (.write true true),
    .writer 2 .receive, .writer 2 (.write true true)]

/-- **Bob gets PTS 2 before PTS 1.** -/
theorem not_incomingOrder : ∃ s,
    (counterCluster fun _ => "gateway:50051").run (counterCluster fun _ => "gateway:50051").init
      overtakingRun = some s ∧ ¬ IncomingOrder s := by
  refine ⟨_, rfl, fun h => ?_⟩
  exact absurd (h 2) (by decide)

/-! ### The line behind a channel -/

section Pipeline

variable {ρ χ ε : Type}

/-- The messages that have been put into a channel of gateway `g` and not dropped, in order. -/
def pipeline (s : State ρ) (g : GwId) (ch : ConnId) : List PersistedMessage :=
  held s (.socket ch) ++ (held s (.writer ch) ++ held s (.gateway g (.buffer ch)))

variable {s t : State ρ} {g : GwId} {ch : ConnId}

theorem mem_pipeline {m : PersistedMessage} : m ∈ pipeline s g ch ↔
    m ∈ held s (.socket ch) ∨ m ∈ held s (.writer ch) ∨ m ∈ held s (.gateway g (.buffer ch)) := by
  rw [pipeline, List.mem_append, List.mem_append]

theorem pipeline_congr (hsocket : held t (.socket ch) = held s (.socket ch))
    (hwriter : held t (.writer ch) = held s (.writer ch))
    (hbuffer : held t (.gateway g (.buffer ch)) = held s (.gateway g (.buffer ch))) :
    pipeline t g ch = pipeline s g ch := by
  rw [pipeline, hsocket, hwriter, hbuffer, pipeline]

/-- **What a step does to the line behind a channel**: it drops some messages, or a delivery in flight
joins its end. -/
theorem pipeline_step (h : Effect s t) (hg : ∀ sock, s.sockets ch = some sock → sock.gw = g) :
    (pipeline t g ch).Sublist (pipeline s g ch) ∨
      ∃ caller m, m ∈ held s (.gateway g (.inFlight caller ch)) ∧
        held t (.gateway g (.buffer ch)) = held s (.gateway g (.buffer ch)) ++ [m] ∧
        pipeline t g ch = pipeline s g ch ++ [m] := by
  have hsame : pipeline t g ch = pipeline s g ch → (pipeline t g ch).Sublist (pipeline s g ch) := by
    intro heq
    rw [heq]
  cases h with
  | drop hsub => exact Or.inl ((hsub _).append ((hsub _).append (hsub _)))
  | mint hc hm ht =>
    refine Or.inl ?_
    rw [pipeline, ht, Function.update_of_ne (by simp), Function.update_of_ne (by simp),
      Function.update_of_ne (by simp)]
    exact List.Sublist.refl _
  | @move l k m rest hnext hne hfrom hdest ht =>
    -- a place that is neither left nor reached
    have hother : ∀ {p}, p ≠ l → p ≠ k → held t p = held s p := by
      intro p hl hk
      rw [ht, Function.update_of_ne hk, Function.update_of_ne hl]
    have hleft : held t l = rest := by
      rw [ht, Function.update_of_ne hne, Function.update_self]
    have hreached : held t k = held s k ++ [m] := by
      rw [ht, Function.update_self]
    cases hnext with
    | call =>
      exact Or.inl (hsame (pipeline_congr (hother (by simp) (by simp)) (hother (by simp) (by simp))
        (hother (by simp) (by simp))))
    | lookup =>
      exact Or.inl (hsame (pipeline_congr (hother (by simp) (by simp)) (hother (by simp) (by simp))
        (hother (by simp) (by simp))))
    | rpcLookup =>
      exact Or.inl (hsame (pipeline_congr (hother (by simp) (by simp)) (hother (by simp) (by simp))
        (hother (by simp) (by simp))))
    | @send g' caller ch' =>
      by_cases hbuf : g' = g ∧ ch' = ch
      · obtain ⟨rfl, rfl⟩ := hbuf
        refine Or.inr ⟨caller, m, by rw [hfrom]; exact List.mem_cons_self, hreached, ?_⟩
        rw [pipeline, hother (by simp) (by simp), hother (by simp) (by simp), hreached, pipeline,
          List.append_assoc, List.append_assoc]
      · refine Or.inl (hsame (pipeline_congr ?_ ?_ ?_))
        · exact hother (by simp) (by simp)
        · exact hother (by simp) (by simp)
        · refine hother (by simp) fun heq => hbuf ?_
          simpa [eq_comm] using heq
    | @receive c sock hs =>
      refine Or.inl (hsame ?_)
      by_cases hc : c = ch
      · subst hc
        obtain rfl := hg sock hs
        rw [pipeline, hother (by simp) (by simp), hreached, hleft, pipeline, hfrom, List.append_assoc,
          List.singleton_append]
      · refine pipeline_congr ?_ ?_ ?_
        · exact hother (by simp) (by simp)
        · exact hother (by simp) (by simp [Ne.symm hc])
        · exact hother (by simp [Ne.symm hc]) (by simp)
    | @write c =>
      refine Or.inl (hsame ?_)
      by_cases hc : c = ch
      · subst hc
        rw [pipeline, hreached, hleft, hother (by simp) (by simp), pipeline, hfrom, List.append_assoc]
        rfl
      · refine pipeline_congr ?_ ?_ ?_
        · exact hother (by simp) (by simp [Ne.symm hc])
        · exact hother (by simp [Ne.symm hc]) (by simp)
        · exact hother (by simp) (by simp)

end Pipeline

/-! ### What is on the way -/

section OnTheWay

variable {addr : GwId → String} {s t : CounterState} {e : CounterEvent} {u : String} {ch : ConnId}
  {q : Int}

/-- The message that a call has returned is for the receiver of the call. -/
theorem receiver_of_returned (hrec : MessageService.Service.Recorded s.service) {id : CallId}
    {msg : ChatMessage} {alloc : Option (Int × Int)} {m : PersistedMessage}
    (hret : s.service.calls id = .returned msg alloc (.ok m)) (hu : m.isReceiver u = true) :
    msg.receiverId = u ∧ handed? (s.service.calls id) = some (msg, m.receiverPts, some m.senderPts) := by
  obtain ⟨hmessage, rfl, -⟩ := hrec.ok hret
  refine ⟨?_, by rw [hret]; rfl⟩
  simpa [PersistedMessage.isReceiver, hmessage] using hu

theorem Next.before {l k : Place} (h : Next s l k) (hk : k.Before ch) : l.Before ch := by
  cases h with
  | call => trivial
  | lookup => trivial
  | rpcLookup => trivial
  | send => exact hk.elim
  | receive hs => exact hk.elim
  | write => exact hk.elim

/-- A message on the way after a step was on the way before it, or has just been handed a PTS above
the counter. -/
theorem OnTheWay.step (hrec : MessageService.Service.Recorded s.service)
    (h : Step MessageService.Counters.redis addr s e t) (heffect : Effect s t) (hback : NoRollback e)
    (hq : OnTheWay t u ch q) : OnTheWay s u ch q ∨ s.service.redis.value (ptsKey u) < q := by
  cases hq with
  | @call k incoming id msg rp sp hk hcall hok hu =>
    cases turn h k with
    | same hh =>
      rw [hh] at hk
      have hold : ¬ (s.service.calls id).Failed :=
        fun hfailed => hok (failed_step h hback hfailed).1
      rcases handed_receiver h hback hcall with ⟨sp', hcall'⟩ | hlt
      · exact Or.inl (.call hk hcall' hold hu)
      · rw [hu] at hlt
        exact Or.inr hlt
    | plain hawaited hpending =>
      rw [hk] at hawaited
      cases hawaited
    | frame he hraw hh hx hother =>
      rw [hk] at hh
      cases hh
      rw [(MessageService.Service.invoke_step hx).2] at hcall
      cases hcall
    | persisted hc hm hh =>
      rw [hk] at hh
      cases hh
  | @message l m hl hm hu =>
    refine Or.inl ?_
    cases heffect with
    | drop hsub => exact .message hl ((hsub l).subset hm) hu
    | @mint c incoming call msg alloc m' hc hret ht =>
      rw [ht] at hm
      by_cases hlc : l = .handler c
      · subst hlc
        rw [Function.update_self, List.mem_append, List.mem_singleton] at hm
        rcases hm with hold | rfl
        · exact .message hl hold hu
        · obtain ⟨hreceiver, hhanded⟩ := receiver_of_returned hrec hret hu
          exact .call hc hhanded (by rw [hret]; exact not_false) hreceiver
      · rw [Function.update_of_ne hlc] at hm
        exact .message hl hm hu
    | @move l' k m' rest hnext hne hfrom hdest ht =>
      rw [ht] at hm
      by_cases hlk : l = k
      · subst hlk
        rw [Function.update_self, List.mem_append, List.mem_singleton] at hm
        rcases hm with hold | rfl
        · exact .message hl hold hu
        · exact .message (hnext.before hl) (by rw [hfrom]; exact List.mem_cons_self) hu
      · rw [Function.update_of_ne hlk] at hm
        have hsub : rest.Sublist (held s l') := by
          rw [hfrom]
          exact List.sublist_cons_self ..
        exact .message hl ((Linear.sublist_update hsub l).subset hm) hu

variable {ds : List MessageService.CounterEvent}
  (hrun : counterService.run counterService.init ds = some s.service)
  (hds : counterService.Meets (fun _ => MessageService.NoRollback) counterService.init ds)
  (hsound : Sound s)

include hrun hds hsound

/-- A message in a place has been returned by a call that no handler waits for, and which was granted
its PTS. -/
theorem granted_of_held {l : Place} {m : PersistedMessage} (hm : m ∈ held s l)
    (hu : m.isReceiver u = true) :
    ∃ id msg alloc, s.service.calls id = .returned msg alloc (.ok m) ∧
      (∀ c incoming, awaited? (s.handlers c) ≠ some (incoming, id)) ∧
      MessageService.Granted s.service.redis.issued u (id, .receiver) m.receiverPts := by
  obtain ⟨id, msg, alloc, hret, hnot⟩ := hsound.origin l m hm
  obtain ⟨hreceiver, hhanded⟩ :=
    receiver_of_returned (MessageService.Service.recorded ⟨ds, hrun⟩) hret hu
  have hgranted := MessageService.Counters.grants_receiver
    (MessageService.Counters.known hrun hds id).2 hhanded
  exact ⟨id, msg, alloc, hret, hnot, hreceiver ▸ hgranted⟩

/-- The PTS of a message in a place is at most the counter of its receiver. -/
theorem receiverPts_le {l : Place} {m : PersistedMessage} (hm : m ∈ held s l)
    (hu : m.isReceiver u = true) : m.receiverPts ≤ s.service.redis.value (ptsKey u) := by
  obtain ⟨id, msg, alloc, -, -, hgranted⟩ := granted_of_held hrun hds hsound hm hu
  exact (MessageService.Counters.granted_le hrun hds hgranted).2

/-- No other message on the way has the PTS of one that is not. -/
theorem receiverPts_ne {l : Place} (hl : ¬ l.Before ch) {m : PersistedMessage} (hm : m ∈ held s l)
    (hu : m.isReceiver u = true) (hq : OnTheWay s u ch q) : m.receiverPts ≠ q := by
  rintro rfl
  obtain ⟨id, msg, alloc, hret, hnot, hgranted⟩ := granted_of_held hrun hds hsound hm hu
  generalize hpts : m.receiverPts = q at hq
  cases hq with
  | @call k incoming id' msg' rp sp hk hcall hok hu' =>
    have hgranted' := MessageService.Counters.grants_receiver
      (MessageService.Counters.known hrun hds id').2 hcall
    rw [hu', ← hpts] at hgranted'
    obtain rfl : id = id' := (Prod.mk.inj (hgranted.ticket_unique hgranted')).1
    exact hnot k incoming (by rw [hk]; rfl)
  | @message l' m' hl' hm' hu' =>
    obtain ⟨id', msg', alloc', hret', -, hgranted'⟩ := granted_of_held hrun hds hsound hm' hu'
    rw [← hpts] at hgranted'
    obtain rfl : id = id' := (Prod.mk.inj (hgranted.ticket_unique hgranted')).1
    rw [hret] at hret'
    cases hret'
    have hsame := hsound.linear.place_unique l l' m.id (List.mem_map_of_mem hm)
      (List.mem_map_of_mem hm')
    exact hl (hsame ▸ hl')

/-- What is on the way has been handed a PTS. -/
theorem OnTheWay.pos (hq : OnTheWay s u ch q) : 0 < q := by
  cases hq with
  | @call k incoming id msg rp sp hk hcall hok hu =>
    exact (MessageService.Counters.granted_le hrun hds (MessageService.Counters.grants_receiver
      (MessageService.Counters.known hrun hds id).2 hcall)).1
  | @message l m hl hm hu =>
    obtain ⟨id, msg, alloc, -, -, hgranted⟩ := granted_of_held hrun hds hsound hm hu
    exact (MessageService.Counters.granted_le hrun hds hgranted).1

end OnTheWay

/-! ### The invariant -/

/-- The messages in the line behind a channel of `u` are in order, and every one that is still on its
way is behind them. -/
structure InLine (s : CounterState) (g : GwId) (u : String) (ch : ConnId) : Prop where
  sorted : (pipeline s g ch).Pairwise fun a b => a.receiverPts < b.receiverPts
  ahead : ∀ m ∈ pipeline s g ch, ∀ q, OnTheWay s u ch q → m.receiverPts < q

section Invariant

variable {addr : GwId → String} {s t : CounterState} {e : CounterEvent} {g : GwId} {u : String}
  {ch : ConnId}

/-- The messages behind a channel are for the user of its socket. -/
theorem receiver_of_pipeline (hsound : Sound s) {m : PersistedMessage} (hm : m ∈ pipeline s g ch) :
    ∃ sock, s.sockets ch = some sock ∧ m.isReceiver sock.user = true := by
  rcases mem_pipeline.mp hm with hm | hm | hm
  · exact hsound.routed _ m hm ch rfl
  · exact hsound.routed _ m hm ch rfl
  · exact hsound.routed _ m hm ch rfl

/-- **One step** that puts no message into a channel before its turn. -/
theorem InLine.step (hs : (counterCluster addr).Reachable s)
    {ds : List MessageService.CounterEvent}
    (hrun : counterService.run counterService.init ds = some s.service)
    (hds : counterService.Meets (fun _ => MessageService.NoRollback) counterService.init ds)
    {ds' : List MessageService.CounterEvent}
    (hrun' : counterService.run counterService.init ds' = some t.service)
    (hds' : counterService.Meets (fun _ => MessageService.NoRollback) counterService.init ds')
    (hsock : ∀ sock, s.sockets ch = some sock → sock = ⟨g, u⟩) (hline : InLine s g u ch)
    (he : InTurn s e) (hstep : (counterCluster addr).step s e = some t) : InLine t g u ch := by
  have h := step_cases hstep
  have hsound := sound hs
  have hrec := MessageService.Service.recorded (service_reachable hs)
  have heffect := effect (wired hs) (fun g => Registry.inv (gateway_reachable hs g)) h
  have hreceiver : ∀ m ∈ pipeline s g ch, m.isReceiver u = true := by
    intro m hm
    obtain ⟨sock, hs, hu⟩ := receiver_of_pipeline hsound hm
    rwa [hsock sock hs] at hu
  -- the messages that were in the line are ahead of what is on the way now
  have hahead : ∀ m ∈ pipeline s g ch, ∀ q, OnTheWay t u ch q → m.receiverPts < q := by
    intro m hm q hq
    rcases hq.step hrec h heffect he.1 with hold | hnew
    · exact hline.ahead m hm q hold
    · have hheld : ∃ l, m ∈ held s l := by
        rcases mem_pipeline.mp hm with hm | hm | hm
        · exact ⟨_, hm⟩
        · exact ⟨_, hm⟩
        · exact ⟨_, hm⟩
      obtain ⟨l, hl⟩ := hheld
      exact (receiverPts_le hrun hds hsound hl (hreceiver m hm)).trans_lt hnew
  rcases pipeline_step heffect fun sock hs => by rw [hsock sock hs] with
    hsub | ⟨caller, m, hm, hbuf, hpipe⟩
  · exact ⟨hline.sorted.sublist hsub, fun m hm => hahead m (hsub.subset hm)⟩
  · obtain ⟨sock, hs', hu⟩ := hsound.routed _ m hm ch rfl
    obtain rfl := hsock sock hs'
    -- it is the turn of the message that joins
    have hturn : ∀ q, OnTheWay s u ch q → m.receiverPts ≤ q := by
      rcases buffer_step h g ch with hsub | ⟨m', henqueued, hbuf'⟩
      · have hlength := hsub.length_le
        change held t (.gateway g (.buffer ch)) = _ at hbuf
        rw [show ((t.gateways g).chans ch).buf = held t (.gateway g (.buffer ch)) from rfl, hbuf,
          List.length_append] at hlength
        exact absurd hlength (Nat.not_succ_le_self _)
      · obtain rfl : m' = m := by
          have heq := hbuf'.symm.trans hbuf
          exact List.singleton_injective (List.append_cancel_left heq)
        exact he.2 g ch m' _ henqueued hs'
    have hmt : m ∈ held t (.gateway g (.buffer ch)) := by
      rw [hbuf]
      exact List.mem_append_right _ (List.mem_singleton_self m)
    constructor
    · rw [hpipe]
      refine List.pairwise_append.mpr ⟨hline.sorted, List.pairwise_singleton .., fun a ha b hb => ?_⟩
      obtain rfl := List.mem_singleton.mp hb
      exact hline.ahead a ha _ (.message (l := .gateway g (.inFlight caller ch)) rfl hm hu)
    · rw [hpipe]
      intro a ha q hq
      rcases List.mem_append.mp ha with ha | ha
      · exact hahead a ha q hq
      · obtain rfl := List.mem_singleton.mp ha
        rcases hq.step hrec h heffect he.1 with hold | hnew
        · have hnot : ¬ (Place.gateway g (.buffer ch)).Before ch := not_false
          have hne := receiverPts_ne hrun' hds' (sound (hs.step hstep)) hnot hmt hu hq
          exact lt_of_le_of_ne (hturn q hold) hne
        · exact (receiverPts_le hrun hds hsound hm hu).trans_lt hnew

end Invariant

/-! ### Runs -/

theorem inLine {addr : GwId → String} {es : List CounterEvent} {s : CounterState}
    (h : (counterCluster addr).run (counterCluster addr).init es = some s)
    (hturn : (counterCluster addr).Meets InTurn (counterCluster addr).init es) :
    ∀ g u ch, (∀ sock, s.sockets ch = some sock → sock = ⟨g, u⟩) → InLine s g u ch := by
  refine hturn.run_induction
    (motive := fun _ s => ∀ g u ch, (∀ sock, s.sockets ch = some sock → sock = ⟨g, u⟩) →
      InLine s g u ch) ?_ ?_ h
  · intro g u ch _
    exact ⟨.nil, fun m hm => absurd hm List.not_mem_nil⟩
  · intro es s e t hs hturn ih he hstep g u ch hsock
    obtain ⟨ds, hrun, hds⟩ := service_run hs (hturn.mono fun _ _ he => he.1)
    obtain ⟨ds', hrun', hds'⟩ := service_run ((Lts.System.run_concat ..).mpr ⟨s, hs, hstep⟩)
      ((hturn.concat hs he).mono fun _ _ he => he.1)
    have hsock' : ∀ sock, s.sockets ch = some sock → sock = ⟨g, u⟩ := fun sock hold =>
      hsock sock (socket_step (step_cases hstep) hold)
    exact (ih g u ch hsock').step ⟨es, hs⟩ hrun hds hrun' hds' hsock' he hstep

/-- **The messages on a socket are in order**, in every run without rollbacks in which no message is
put into a channel while one with a smaller PTS for the same user is still on its way there. -/
theorem incomingOrder {addr : GwId → String} {es : List CounterEvent} {s : CounterState}
    (h : (counterCluster addr).run (counterCluster addr).init es = some s)
    (hturn : (counterCluster addr).Meets InTurn (counterCluster addr).init es) :
    IncomingOrder s := by
  intro c
  have hline : ∃ g u, InLine s g u c := by
    cases hs : s.sockets c with
    | none => exact ⟨0, "", inLine h hturn 0 "" c fun sock hsome => by rw [hs] at hsome; cases hsome⟩
    | some sock =>
      exact ⟨sock.gw, sock.user, inLine h hturn _ _ c fun sock' hsome =>
        Option.some.inj (hsome.symm.trans hs)⟩
  obtain ⟨g, u, hline⟩ := hline
  exact hline.sorted.sublist (List.sublist_append_left ..)

/-- The message of a call is persisted, acknowledged, and delivered to connection 1. -/
def deliverySteps (call : CallId) (msgID : String) : List CounterEvent :=
  [.service (.redis call (.incr .executed)), .service (.redis call (.incr .executed)),
    .service (.redis call (.wait (.ok 1))), .service (.insert call msgID 0 0 .executed),
    .handler 0 .persisted, .handler 0 (.ack true true), .handler 0 (.locate false 0),
    .handler 0 .lookup, .handler 0 .send, .writer 1 .receive, .writer 1 (.write true true)]

/-- Alice writes twice to Bob, and each message is on his socket before the next frame is read. -/
def oneByOneRun : List CounterEvent :=
  [.connect 0 0 "alice", .handler 0 (.registerUser true), .handler 0 .registerConn,
    .connect 1 0 "bob", .handler 1 (.registerUser true), .handler 1 .registerConn,
    .handler 0 (.frame (some ⟨"bob", "one"⟩) 0 5)] ++ deliverySteps 0 "a" ++
  [.handler 0 (.frame (some ⟨"bob", "two"⟩) 1 6)] ++ deliverySteps 1 "b"

/-- The two messages are on Bob's socket, in order. -/
theorem incomingOrder_oneByOneRun : ∃ (s : CounterState) (m m' : PersistedMessage),
    (counterCluster fun _ => "gateway:50051").run (counterCluster fun _ => "gateway:50051").init
      oneByOneRun = some s ∧ s.out 1 = [.message m, .message m'] ∧ IncomingOrder s := by
  let m : PersistedMessage := ⟨"a", some ⟨"alice", "bob", "one", 5⟩, 1, 1, 0⟩
  let m' : PersistedMessage := ⟨"b", some ⟨"alice", "bob", "two", 6⟩, 2, 2, 0⟩
  refine ⟨_, m, m', rfl, rfl, @incomingOrder (fun _ => "gateway:50051") oneByOneRun _ rfl
    (Lts.System.Meets.mono_of_run (C := fun s e => NoRollback e ∧ ∀ d ∈ enqueued? s e,
      s.sockets d.2.1 = some ⟨0, "bob"⟩ ∧ (d.2.2 = m ∨ d.2.2 = m' ∧ m ∈ held s (.socket d.2.1))) ?_
      (.of_check (by decide +kernel)))⟩
  rintro pre hpre t ht e ⟨hback, hcheck⟩
  refine ⟨hback, fun g ch m₀ sock henqueued hs q hq => ?_⟩
  obtain ⟨hsock, hmessage⟩ := hcheck _ henqueued
  obtain rfl : sock = ⟨0, "bob"⟩ := Option.some.inj (hs.symm.trans hsock)
  have hnoRollback : ∀ e ∈ oneByOneRun, NoRollback e := by decide
  obtain ⟨ds, hrun, hds⟩ :=
    service_run ht (.of_forall fun _ e he => hnoRollback e (hpre.subset he))
  have hsound : Sound t := sound ⟨pre, ht⟩
  have hpos := hq.pos hrun hds hsound
  rcases hmessage with rfl | ⟨rfl, hfirst⟩
  · exact hpos
  · have hnot : ¬ (Place.socket ch).Before ch := not_false
    have hne : (1 : Int) ≠ q := receiverPts_ne hrun hds hsound hnot hfirst rfl hq
    show (2 : Int) ≤ q
    omega

end Cluster

end TinyTelegram.Gateway
