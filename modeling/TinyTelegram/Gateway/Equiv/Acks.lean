import Mathlib.Data.List.Forall2
import TinyTelegram.Gateway.Equiv.Counters

/-!
# The acknowledgements of a connection

The read loop of a connection answers its frames one after the other, and some of them not at all.  So
the acknowledgements on the socket are for some of the frames, in their order (`AckStream`).  Their PTS
increase although other connections and other senders move the same counter: the call for a frame is
made when the acknowledgements before it are written, and takes its PTS later (`ackStream`).

`AckTurn` is what a step does to the acknowledgements of one connection and to the frame its handler
has at hand.
-/

namespace TinyTelegram.Gateway

/-- The PTS and the message id of an acknowledgement. -/
def Frame.ack? : Frame → Option (Int × String)
  | .ack senderPts messageId => some (senderPts, messageId)
  | .message _ => none

/-- The handler has a frame at hand that it may yet acknowledge. -/
def Handler.Answering : Handler → Prop
  | .persisting .. | .acking .. => True
  | _ => False

namespace Cluster

open MessageService (Redis CallId ptsKey)

section Defs

variable {ρ χ ε : Type}

/-- The frames read on a connection, malformed ones included. -/
def framesRead (c : ConnId) (es : List (Event χ ε)) : List (Option IncomingMessage) :=
  es.filterMap fun e =>
    match e with
    | .handler k (.frame raw _ _) => if k = c then some raw else none
    | _ => none

/-- The acknowledgements written on a connection. -/
def acks (s : State ρ) (c : ConnId) : List (Int × String) := (s.out c).filterMap Frame.ack?

/-- The acknowledgement names a committed row that `u` has sent, with the receiver and the content of
the frame and the PTS of the acknowledgement. -/
def Acknowledges (t : MessageService.Table) (u : String) (a : Int × String)
    (raw : Option IncomingMessage) : Prop :=
  ∃ incoming, raw = some incoming ∧ ∃ r ∈ t, r.id = a.2 ∧ r.senderId = u ∧
    r.receiverId = incoming.receiverId ∧ r.content = incoming.content ∧ r.senderPts = a.1

/-- The acknowledgements on a connection of `u` are for some of its frames, in order, and their PTS
increase. -/
structure AckStream (es : List (Event χ ε)) (s : State ρ) (c : ConnId) (u : String) : Prop where
  frames : ∃ frames, frames.Sublist (framesRead c es) ∧
    List.Forall₂ (Acknowledges s.service.table u) (acks s c) frames
  increasing : (acks s c).Pairwise fun a b => a.1 < b.1

end Defs

/-! ### What a step does to the acknowledgements -/

section Turn

variable {ρ χ ε : Type} {R : Redis ρ χ ε} {addr : GwId → String} {s t : State ρ} {e : Event χ ε}

/-- What a step does to the acknowledgements of a connection and to the frame its handler has at hand:
neither changes, or a frame is read, its call has returned, or it is acknowledged or given up. -/
inductive AckTurn (R : Redis ρ χ ε) (s : State ρ) (e : Event χ ε) (t : State ρ) (c : ConnId) :
    Prop where
  | same (hh : t.handlers c = s.handlers c) (hacks : acks t c = acks s c)
  | idle (hh : ¬ (t.handlers c).Answering) (hacks : acks t c = acks s c)
  | frame {sock raw incoming call now} (he : e = .handler c (.frame raw call now))
      (hs : s.sockets c = some sock) (hraw : checkIncoming raw = some incoming)
      (hh : t.handlers c = .persisting incoming call)
      (hx : (MessageService.Service.system R).step s.service
        (.invoke call (chatMessage sock.user incoming now)) = some t.service)
      (hacks : acks t c = acks s c)
  | persisted {incoming call msg alloc m} (hc : s.handlers c = .persisting incoming call)
      (hm : s.service.calls call = .returned msg alloc (.ok m))
      (hh : t.handlers c = .acking incoming.receiverId m) (hacks : acks t c = acks s c)
  | ack {receiverID m} (hc : s.handlers c = .acking receiverID m)
      (hh : ¬ (t.handlers c).Answering) (hacks : acks t c = acks s c ++ [(m.senderPts, m.id)])

/-- What is written to a socket is an acknowledgement or none. -/
theorem acks_write (s : State ρ) (k : ConnId) (frame : Frame) (arrives : Bool) (c : ConnId) :
    acks (s.write k frame arrives) c = acks s c ∨
      c = k ∧ acks (s.write k frame arrives) c = acks s c ++ frame.ack?.toList := by
  cases arrives with
  | false => exact Or.inl rfl
  | true =>
    show (Function.update s.out k _ c).filterMap _ = _ ∨ _ ∧ (Function.update s.out k _ c).filterMap _ = _
    by_cases hc : c = k
    · subst hc
      rw [Function.update_self, List.filterMap_append]
      refine Or.inr ⟨rfl, ?_⟩
      cases frame <;> rfl
    · rw [Function.update_of_ne hc]
      exact Or.inl rfl

theorem ackTurn (h : Step R addr s e t) (c : ConnId) : AckTurn R s e t c := by
  -- the handler of `k` goes on to `x`
  have hset : ∀ {k x}, t.handlers = Function.update s.handlers k x → acks t c = acks s c →
      (c = k → t.handlers c = x → AckTurn R s e t c) → AckTurn R s e t c := by
    intro k x hx hacks hturn
    by_cases hk : c = k
    · exact hturn hk (by rw [hx, hk, Function.update_self])
    · exact .same (by rw [hx, Function.update_of_ne hk]) hacks
  -- it has no frame at hand then
  have hidle : ∀ {k x}, t.handlers = Function.update s.handlers k x → acks t c = acks s c →
      ¬ x.Answering → AckTurn R s e t c :=
    fun hx hacks hh => hset hx hacks fun _ hk => .idle (hk ▸ hh) hacks
  cases h with
  | connect hnew hp => exact hidle rfl rfl id
  | registerUser hs hc hp => exact hidle rfl rfl id
  | registerConn hs hc hx => exact hidle rfl rfl id
  | @frame k sock raw incoming call now x hs hc hraw hx =>
    refine hset rfl rfl fun hk hh => ?_
    subst hk
    exact .frame rfl hs hraw hh hx rfl
  | @persisted k sock incoming call msg alloc m hs hc hm =>
    refine hset rfl rfl fun hk hh => ?_
    subst hk
    exact .persisted hc hm hh rfl
  | persistFailed hs hc => exact hidle rfl rfl id
  | @ack k sock receiverID m arrives ok hs hc =>
    have hanswering : ¬ (if ok then Handler.locating receiverID m else .reading).Answering := by
      split <;> exact id
    have hhandlers : ∀ h, ((s.write k (ackFrame m) arrives).setHandler k h).handlers =
        Function.update s.handlers k h := by
      intro h
      rw [State.setHandler, write_handlers]
    rcases acks_write s k (ackFrame m) arrives c with hsame | ⟨rfl, hnew⟩
    · exact hidle (hhandlers _) hsame hanswering
    · refine .ack hc ?_ hnew
      rw [hhandlers, Function.update_self]
      exact hanswering
  | locateNowhere hs hc => exact hidle rfl rfl id
  | locateHere hs hc => exact hidle rfl rfl id
  | locatePeer hs hc hp => exact hidle rfl rfl id
  | lookup hs hc hx =>
    refine hidle rfl rfl ?_
    split <;> exact id
  | send hs hc hx hp =>
    refine hidle rfl rfl ?_
    unfold afterSend
    split <;> exact id
  | hangUp hs hc hx hp => exact hidle rfl rfl id
  | unregisterConn hs hc hx => exact hidle rfl rfl id
  | unregisterUser hs hc hp => exact hidle rfl rfl id
  | @write k sock m arrives ok hs hc =>
    refine .same (congrFun (write_handlers ..) c) ?_
    rcases acks_write s k (.message m) arrives c with hsame | ⟨-, hnew⟩
    · exact hsame
    · exact hnew.trans (List.append_nil _)
  | _ => exact .same rfl rfl

end Turn

/-! ### The invariant -/

section Invariant

open MessageService.Counters (handed? handout)

variable {addr : GwId → String} {s t : CounterState} {es : List CounterEvent} {e : CounterEvent}
  {c : ConnId} {u : String} {frames : List (Option IncomingMessage)}

/-- What is known of the frame that the handler of a connection has at hand, when those of the
acknowledgements are `frames`: it has been read after them, and the PTS that its call may have is
above theirs. -/
def AtHand (es : List CounterEvent) (s : CounterState) (c : ConnId) (u : String)
    (frames : List (Option IncomingMessage)) : Handler → Prop
  | .persisting incoming call =>
    (frames ++ [some incoming]).Sublist (framesRead c es) ∧
    (∃ now, (s.service.calls call).msg? = some (chatMessage u incoming now)) ∧
    ∀ msg rp sp, handed? (s.service.calls call) = some (msg, rp, some sp) →
      ∀ a ∈ acks s c, a.1 < sp
  | .acking _ m =>
    (∃ incoming, (frames ++ [some incoming]).Sublist (framesRead c es) ∧
      Acknowledges s.service.table u (m.senderPts, m.id) (some incoming)) ∧
    m.senderPts ≤ s.service.redis.value (ptsKey u) ∧ ∀ a ∈ acks s c, a.1 < m.senderPts
  | _ => frames.Sublist (framesRead c es)

/-- The acknowledgements are in order, up to the counter, and so is the frame at hand. -/
structure InOrder (es : List CounterEvent) (s : CounterState) (c : ConnId) (u : String) : Prop where
  frames : ∃ frames, List.Forall₂ (Acknowledges s.service.table u) (acks s c) frames ∧
    AtHand es s c u frames (s.handlers c)
  increasing : (acks s c).Pairwise fun a b => a.1 < b.1
  le : ∀ a ∈ acks s c, a.1 ≤ s.service.redis.value (ptsKey u)

theorem AtHand.sublist {h : Handler} (hhand : AtHand es s c u frames h) :
    frames.Sublist (framesRead c es) := by
  cases h with
  | persisting incoming call => exact (List.sublist_append_left ..).trans hhand.1
  | acking receiverID m =>
    obtain ⟨⟨incoming, hsub, -⟩, -⟩ := hhand
    exact (List.sublist_append_left ..).trans hsub
  | _ => exact hhand

theorem AtHand.of_not_answering {h : Handler} (hnot : ¬ h.Answering)
    (hsub : frames.Sublist (framesRead c es)) : AtHand es s c u frames h := by
  cases h with
  | persisting => exact absurd trivial hnot
  | acking => exact absurd trivial hnot
  | _ => exact hsub

theorem Acknowledges.mono {tbl tbl' : MessageService.Table} (hsub : tbl ⊆ tbl') {a : Int × String}
    {raw : Option IncomingMessage} (h : Acknowledges tbl u a raw) : Acknowledges tbl' u a raw := by
  obtain ⟨incoming, hraw, r, hr, hrow⟩ := h
  exact ⟨incoming, hraw, r, hsub hr, hrow⟩

theorem framesRead_concat (c : ConnId) (es : List CounterEvent) (e : CounterEvent) :
    framesRead c (es ++ [e]) = framesRead c es ++ framesRead c [e] :=
  List.filterMap_append

theorem framesRead_sublist (c : ConnId) (es : List CounterEvent) (e : CounterEvent) :
    (framesRead c es).Sublist (framesRead c (es ++ [e])) := by
  rw [framesRead_concat]
  exact List.sublist_append_left ..

theorem table_mono (h : Step MessageService.Counters.redis addr s e t) :
    s.service.table ⊆ t.service.table := by
  have hcommitted := committed_prefix h
  exact (hcommitted.map _).subset

/-- A step lowers no counter. -/
theorem value_mono (h : Step MessageService.Counters.redis addr s e t) (hback : NoRollback e)
    (key : String) : s.service.redis.value key ≤ t.service.redis.value key := by
  rcases service_step_noRollback h hback with hsame | ⟨e', hback', he'⟩
  · rw [hsame]
  · exact MessageService.Counters.le_step hback' he' key

/-- The PTS that a call of `u` is handed in a step is above the counter before it. -/
theorem handed_step (h : Step MessageService.Counters.redis addr s e t) (hback : NoRollback e)
    {call : CallId} {incoming : IncomingMessage} {now : Int}
    (hmsg : (s.service.calls call).msg? = some (chatMessage u incoming now)) {msg : ChatMessage}
    {rp sp : Int} (hhanded : handed? (t.service.calls call) = some (msg, rp, some sp)) :
    handed? (s.service.calls call) = some (msg, rp, some sp) ∨
      s.service.redis.value (ptsKey u) < sp := by
  rcases service_step_noRollback h hback with hsame | ⟨e', -, he'⟩
  · rw [← hsame]
    exact Or.inl hhanded
  · rcases MessageService.Counters.handed_sender he' hhanded with hold | ⟨-, hs, rfl, -⟩
    · exact Or.inl hold
    · rw [hs] at hmsg
      obtain rfl := Option.some.inj hmsg
      exact Or.inr (Int.lt_succ _)

/-- The frame at hand stays as it is while the acknowledgements do. -/
theorem AtHand.step (h : Step MessageService.Counters.redis addr s e t) (hback : NoRollback e)
    (hle : ∀ a ∈ acks s c, a.1 ≤ s.service.redis.value (ptsKey u)) (hacks : acks t c = acks s c)
    {hdl : Handler} (hhand : AtHand es s c u frames hdl) :
    AtHand (es ++ [e]) t c u frames hdl := by
  have hread := framesRead_sublist c es e
  cases hdl with
  | persisting incoming call =>
    obtain ⟨hsub, ⟨now, hmsg⟩, habove⟩ := hhand
    refine ⟨hsub.trans hread, ⟨now, msg?_step h hmsg⟩, fun msg rp sp hhanded a ha => ?_⟩
    rw [hacks] at ha
    rcases handed_step h hback hmsg hhanded with hold | hnew
    · exact habove msg rp sp hold a ha
    · exact (hle a ha).trans_lt hnew
  | acking receiverID m =>
    obtain ⟨⟨incoming, hsub, hrow⟩, hcounter, habove⟩ := hhand
    refine ⟨⟨incoming, hsub.trans hread, hrow.mono (table_mono h)⟩,
      hcounter.trans (value_mono h hback _), ?_⟩
    rw [hacks]
    exact habove
  | _ => exact List.Sublist.trans hhand hread

/-- What a call has returned for the frame at hand is a committed row of `u`, with a PTS above those of
the acknowledgements. -/
theorem AtHand.returned {ds : List MessageService.CounterEvent}
    (hrun : MessageService.counterService.run MessageService.counterService.init ds = some s.service)
    (hback : MessageService.counterService.Meets (fun _ => MessageService.NoRollback)
      MessageService.counterService.init ds) {incoming : IncomingMessage} {call : CallId}
    (hhand : AtHand es s c u frames (.persisting incoming call)) {msg : ChatMessage}
    {alloc : Option (Int × Int)} {m : PersistedMessage}
    (hm : s.service.calls call = .returned msg alloc (.ok m)) :
    AtHand es s c u frames (.acking incoming.receiverId m) := by
  obtain ⟨hsub, ⟨now, hmsg⟩, habove⟩ := hhand
  obtain ⟨-, rfl, createdAt, hcommitted⟩ := (MessageService.Service.recorded ⟨ds, hrun⟩).ok hm
  rw [hm] at hmsg
  obtain rfl := Option.some.inj hmsg
  have hgrants := (MessageService.Counters.known hrun hback call).2
  rw [hm] at hgrants
  refine ⟨⟨incoming, hsub, incoming, rfl, _, List.mem_map_of_mem hcommitted, rfl, rfl, rfl,
    rfl, rfl⟩, (MessageService.Counters.granted_le hrun hback hgrants.2).2, ?_⟩
  exact habove _ m.receiverPts m.senderPts (by rw [hm]; rfl)

/-- **One step** that is no rollback. -/
theorem InOrder.step {ds : List MessageService.CounterEvent}
    (hrun : MessageService.counterService.run MessageService.counterService.init ds = some s.service)
    (hds : MessageService.counterService.Meets (fun _ => MessageService.NoRollback)
      MessageService.counterService.init ds) {sock : Socket} (hs : s.sockets c = some sock)
    (hord : InOrder es s c sock.user) (h : Step MessageService.Counters.redis addr s e t)
    (hback : NoRollback e) : InOrder (es ++ [e]) t c sock.user := by
  obtain ⟨⟨frames, hframes, hhand⟩, hincreasing, hle⟩ := hord
  have hrows : ∀ {frames acks}, List.Forall₂ (Acknowledges s.service.table sock.user) acks frames →
      List.Forall₂ (Acknowledges t.service.table sock.user) acks frames :=
    fun hframes => hframes.imp fun _ _ hrow => hrow.mono (table_mono h)
  have hvalue := value_mono h hback (ptsKey sock.user)
  -- no acknowledgement is written
  have hquiet : acks t c = acks s c → AtHand (es ++ [e]) t c sock.user frames (t.handlers c) →
      InOrder (es ++ [e]) t c sock.user := by
    intro hacks hhand'
    refine ⟨⟨frames, ?_, hhand'⟩, ?_, ?_⟩
    · rw [hacks]
      exact hrows hframes
    · rw [hacks]
      exact hincreasing
    · rw [hacks]
      exact fun a ha => (hle a ha).trans hvalue
  cases ackTurn h c with
  | same hh hacks =>
    refine hquiet hacks ?_
    rw [hh]
    exact hhand.step h hback hle hacks
  | idle hh hacks =>
    exact hquiet hacks (.of_not_answering hh (hhand.sublist.trans (framesRead_sublist c es e)))
  | @frame sock' raw incoming call now he hs' hraw hh hx hacks =>
    obtain rfl : sock = sock' := Option.some.inj (hs.symm.trans hs')
    refine hquiet hacks ?_
    rw [hh]
    have hinvoke := (MessageService.Service.invoke_step hx).2
    refine ⟨?_, ⟨now, by rw [hinvoke]; rfl⟩, fun msg rp sp hhanded => ?_⟩
    · obtain rfl : raw = some incoming := (Option.filter_eq_some_iff.mp hraw).1
      have hread : framesRead c [e] = [some incoming] := by
        rw [he]
        simp [framesRead]
      rw [framesRead_concat, hread]
      exact hhand.sublist.append (List.Sublist.refl _)
    · rw [hinvoke] at hhanded
      cases hhanded
  | persisted hc hm hh hacks =>
    refine hquiet hacks ?_
    rw [hh]
    rw [hc] at hhand
    exact (hhand.returned hrun hds hm).step h hback hle hacks
  | @ack receiverID m hc hh hacks =>
    rw [hc] at hhand
    obtain ⟨⟨incoming, hsub, hrow⟩, hcounter, habove⟩ := hhand
    refine ⟨⟨frames ++ [some incoming], ?_, ?_⟩, ?_, ?_⟩
    · rw [hacks]
      exact List.rel_append (hrows hframes) (.cons (hrow.mono (table_mono h)) .nil)
    · exact .of_not_answering hh (hsub.trans (framesRead_sublist c es e))
    · rw [hacks]
      refine List.pairwise_append.mpr ⟨hincreasing, List.pairwise_singleton .., ?_⟩
      intro a ha b hb
      rw [List.mem_singleton.mp hb]
      exact habove a ha
    · rw [hacks]
      intro a ha
      rcases List.mem_append.mp ha with ha | ha
      · exact (hle a ha).trans hvalue
      · rw [List.mem_singleton.mp ha]
        exact hcounter.trans hvalue

end Invariant

/-! ### Runs -/

theorem inOrder {addr : GwId → String} {es : List CounterEvent} {s : CounterState}
    (h : (counterCluster addr).run (counterCluster addr).init es = some s)
    (hback : (counterCluster addr).Meets (fun _ => NoRollback) (counterCluster addr).init es) :
    ∀ c sock, s.sockets c = some sock → InOrder es s c sock.user := by
  refine hback.run_induction
    (motive := fun es s => ∀ c sock, s.sockets c = some sock → InOrder es s c sock.user) ?_ ?_ h
  · intro c sock hs
    cases hs
  · intro es s e t hs hback ih he hstep c sock hsock
    obtain ⟨ds, hrun, hds⟩ := service_run hs hback
    have hstep' := step_cases hstep
    cases hold : s.sockets c with
    | some sock' =>
      obtain rfl : sock' = sock :=
        Option.some.inj ((socket_step hstep' hold).symm.trans hsock)
      exact (ih c sock' hold).step hrun hds hold hstep' he
    | none =>
      -- the connection is just being opened
      obtain ⟨hidle, hout⟩ := unopened ⟨es, hs⟩ hold
      have hacks : acks s c = [] := congrArg (List.filterMap Frame.ack?) hout
      have hnew : acks t c = [] → ¬ (t.handlers c).Answering → InOrder (es ++ [e]) t c sock.user := by
        intro hacks hnot
        refine ⟨⟨[], ?_, .of_not_answering hnot (List.nil_sublist _)⟩, ?_, ?_⟩
        · rw [hacks]
          exact .nil
        · rw [hacks]
          exact .nil
        · rw [hacks]
          exact fun a ha => absurd ha List.not_mem_nil
      cases ackTurn hstep' c with
      | same hh hsame => exact hnew (hsame.trans hacks) (by rw [hh, hidle]; exact id)
      | idle hh hsame => exact hnew (hsame.trans hacks) hh
      | frame he' hs' hraw hh hx hsame =>
        rw [hold] at hs'
        cases hs'
      | persisted hc hm hh hsame =>
        rw [hidle] at hc
        cases hc
      | ack hc hh happend =>
        rw [hidle] at hc
        cases hc

/-- What is acknowledged on a connection is a PTS that its user has got, for a call that was handed it for
the sender. -/
theorem granted_of_ack {addr : GwId → String} {es : List CounterEvent} {s : CounterState}
    (h : (counterCluster addr).run (counterCluster addr).init es = some s)
    (hback : (counterCluster addr).Meets (fun _ => NoRollback) (counterCluster addr).init es)
    {c : ConnId} {p : Int} {id : String} (hack : .ack p id ∈ s.out c) :
    ∃ sock, s.sockets c = some sock ∧ p ≤ s.service.redis.value (ptsKey sock.user) ∧
      ∃ call, MessageService.Granted s.service.redis.issued sock.user (call, .sender) p := by
  obtain ⟨ds, hds, hdsback⟩ := service_run h hback
  obtain ⟨sock, hsock⟩ : ∃ sock, s.sockets c = some sock := by
    cases hsock : s.sockets c with
    | some sock => exact ⟨sock, rfl⟩
    | none =>
      rw [(unopened (R := MessageService.Counters.redis) ⟨es, h⟩ hsock).2] at hack
      exact absurd hack List.not_mem_nil
  have hmem : (p, id) ∈ acks s c := List.mem_filterMap.mpr ⟨_, hack, rfl⟩
  obtain ⟨⟨frames, hframes, -⟩, -, hle⟩ := inOrder h hback c sock hsock
  -- the row that it names was persisted by a call with its PTS
  have hrow : ∀ a raw, Acknowledges s.service.table sock.user a raw → ∃ call,
      MessageService.Granted s.service.redis.issued sock.user (call, .sender) a.1 := by
    rintro a raw ⟨incoming, -, r, hr, -, hsender, -, -, hpts⟩
    obtain ⟨x, hx, rfl⟩ := List.mem_map.mp hr
    obtain ⟨msg, rp, sp, res, msgID, createdAt, hcall, hrow⟩ :=
      (MessageService.Service.recorded ⟨ds, hds⟩).returned x hx
    have hgranted := (MessageService.Counters.grants_handed
      (MessageService.Counters.known hds hdsback x.call).2 (by rw [hcall]; rfl)).2
    rw [hrow] at hsender hpts
    exact ⟨x.call, hsender ▸ hpts ▸ hgranted⟩
  have hrows := (List.forall₂_and_left _ _).mp
    (hframes.imp fun a raw ha => ⟨hrow a raw ha, ha⟩)
  exact ⟨sock, hsock, hle _ hmem, hrows.1 _ hmem⟩

/-- **The acknowledgements of a connection**, in every run without rollbacks, whatever becomes of its
frames, of the calls made for them and of what is written: they are for some of the frames of the
connection, in order, each naming a committed row that the user of the connection has sent, with the
receiver and the content of the frame and the PTS of the acknowledgement; and their PTS strictly
increase. -/
theorem ackStream {addr : GwId → String} {es : List CounterEvent} {s : CounterState}
    (h : (counterCluster addr).run (counterCluster addr).init es = some s)
    (hback : (counterCluster addr).Meets (fun _ => NoRollback) (counterCluster addr).init es)
    {c : ConnId} {sock : Socket} (hs : s.sockets c = some sock) : AckStream es s c sock.user := by
  obtain ⟨⟨frames, hframes, hhand⟩, hincreasing, -⟩ := inOrder h hback c sock hs
  exact ⟨⟨frames, hhand.sublist, hframes⟩, hincreasing⟩

/-- The steps of the message service for one message, between its frame and its acknowledgement. -/
def persistSteps (call : CallId) (msgID : String) : List CounterEvent :=
  [.service (.redis call (.incr .executed)), .service (.redis call (.incr .executed)),
    .service (.redis call (.wait (.ok 1))), .service (.insert call msgID 0 0 .executed)]

/-- Alice sends two messages and a malformed frame in between. -/
def twoFramesRun : List CounterEvent :=
  [.connect 0 0 "alice", .handler 0 (.registerUser true), .handler 0 .registerConn,
    .handler 0 (.frame (some ⟨"bob", "one"⟩) 0 5)] ++ persistSteps 0 "a" ++
  [.handler 0 .persisted, .handler 0 (.ack true true), .handler 0 (.locate false 0),
    .handler 0 (.frame none 0 0), .handler 0 (.frame (some ⟨"bob", "two"⟩) 1 6)] ++
  persistSteps 1 "b" ++ [.handler 0 .persisted, .handler 0 (.ack true true)]

/-- Both are acknowledged. -/
theorem ackStream_twoFramesRun : ∃ s,
    (counterCluster fun _ => "gateway:50051").run (counterCluster fun _ => "gateway:50051").init
      twoFramesRun = some s ∧ acks s 0 = [(1, "a"), (2, "b")] ∧
    AckStream twoFramesRun s 0 "alice" := by
  refine ⟨_, rfl, rfl, ?_⟩
  exact @ackStream (fun _ => "gateway:50051") twoFramesRun _ rfl (.of_forall fun _ => by decide) 0
    ⟨0, "alice"⟩ rfl

end Cluster

end TinyTelegram.Gateway
