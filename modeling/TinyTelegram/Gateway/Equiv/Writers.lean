import TinyTelegram.Gateway.Equiv.Closes
import TinyTelegram.Gateway.Equiv.Devices
import TinyTelegram.Gateway.Equiv.Teardowns

/-!
# How writers end

The goroutine that writes the messages of a connection ranges over its channel.  It returns when the
channel is closed and empty, or when a write fails.  A channel that another connection has replaced in
`connMap` is never closed, and no message is looked up for it any more.  So unless a write fails its writer
stays, and once it has nothing left to write it waits for good, also after the connection is gone
(`writer_leaks`).
-/

namespace TinyTelegram.Gateway

namespace Cluster

open MessageService (Redis)

variable {ρ χ ε : Type} {R : Redis ρ χ ε} {addr : GwId → String} {s t : State ρ} {e : Event χ ε}
  {c : ConnId}

/-- The writer of the connection gets an error from `WriteJSON`. -/
def WriteFails (c : ConnId) : Event χ ε → Prop
  | .writer k (.write _ ok) => k = c ∧ ok = false
  | _ => False

/-- A writer stops because its channel is closed or its write fails. -/
theorem stopped_step (h : Step R addr s e t) (hstopped : t.writers c = .stopped) :
    s.writers c = .stopped ∨ WriteFails c e ∨
      ∃ sock, s.sockets c = some sock ∧ ((s.gateways sock.gw).chans c).closedBy ≠ none := by
  cases writerTurn h c with
  | same hsame => exact Or.inl (hsame ▸ hstopped)
  | started hs hx hnew =>
    rw [hnew] at hstopped
    cases hstopped
  | received hs hc hbuf hnew =>
    rw [hnew] at hstopped
    cases hstopped
  | drained hs hc hclosed => exact Or.inr (Or.inr ⟨_, hs, hclosed⟩)
  | @written m arrives ok he hc hout hnew =>
    cases ok with
    | true =>
      rw [hnew] at hstopped
      cases hstopped
    | false =>
      subst he
      exact Or.inr (Or.inl ⟨rfl, rfl⟩)

/-- A channel that is closed stays closed. -/
theorem closed_mono (h : Step R addr s e t) {g : GwId}
    (hclosed : ((s.gateways g).chans c).closedBy ≠ none) :
    ((t.gateways g).chans c).closedBy ≠ none := by
  rcases gateway_step h with hsame | ⟨g', e', x, hx, hgateways, -⟩
  · rw [hsame]
    exact hclosed
  · rw [hgateways]
    by_cases hg : g = g'
    · subst hg
      rw [Function.update_self]
      exact (Registry.closed_step hx c).mpr (Or.inr hclosed)
    · rw [Function.update_of_ne hg]
      exact hclosed

/-- A writer that has stopped without a failed write has found its channel closed. -/
theorem closed_of_stopped {es : List (Event χ ε)}
    (h : (cluster R addr).run (cluster R addr).init es = some s)
    (hwrites : ∀ e ∈ es, ¬ WriteFails c e) (hstopped : s.writers c = .stopped) :
    ∃ sock, s.sockets c = some sock ∧ ((s.gateways sock.gw).chans c).closedBy ≠ none := by
  revert hstopped
  refine Lts.System.invariant_of_meets (C := fun _ e => ¬ WriteFails c e)
    (I := fun s : State ρ => s.writers c = .stopped →
      ∃ sock, s.sockets c = some sock ∧ ((s.gateways sock.gw).chans c).closedBy ≠ none)
    (fun hoff => by cases hoff) ?_ h (.of_forall fun _ e he => hwrites e he)
  intro s e t ih he hstep hstopped
  have hstep := step_cases hstep
  obtain ⟨sock, hsock, hclosed⟩ : ∃ sock, s.sockets c = some sock ∧
      ((s.gateways sock.gw).chans c).closedBy ≠ none := by
    rcases stopped_step hstep hstopped with hold | hfails | hclosed
    · exact ih hold
    · exact absurd hfails he
    · exact hclosed
  exact ⟨sock, socket_step hstep hsock, closed_mono hstep hclosed⟩

/-- A channel that is replaced remains so. -/
theorem replaced_mono (hs : (cluster R addr).Reachable s) (h : Step R addr s e t) {g : GwId}
    (hreplaced : Registry.Replaced (s.gateways g) c) : Registry.Replaced (t.gateways g) c := by
  rcases gateway_step h with hsame | ⟨g', e', x, hx, hgateways, -⟩
  · rw [hsame]
    exact hreplaced
  · rw [hgateways]
    by_cases hg : g = g'
    · subst hg
      rw [Function.update_self]
      exact (Registry.replaced_step (Registry.inv (gateway_reachable hs g)) hx c).mpr
        (Or.inl hreplaced)
    · rw [Function.update_of_ne hg]
      exact hreplaced

/-- The writer waits for messages, and there are none in its channel or on their way into it. -/
structure Starved (s : State ρ) (g : GwId) (c : ConnId) : Prop where
  waiting : s.writers c = .waiting
  empty : ((s.gateways g).chans c).buf = []
  unsent : ∀ caller m, (s.gateways g).delivering caller ≠ some (c, m)

/-- No message comes to a channel that is replaced, when none is on its way there. -/
theorem unsent_step {x y : Registry.State} {e : Registry.Event} (h : registry.step x e = some y)
    (hreplaced : Registry.Replaced x c) (hempty : (x.chans c).buf = [])
    (hunsent : ∀ caller m, x.delivering caller ≠ some (c, m)) :
    (y.chans c).buf = [] ∧ ∀ caller m, y.delivering caller ≠ some (c, m) := by
  constructor
  · rcases Registry.buf_step h c with hsub | ⟨caller, m, rfl, haccepted, -⟩
    · rw [hempty] at hsub
      exact List.sublist_nil.mp hsub
    · exact absurd (Option.filter_eq_some_iff.mp haccepted).1 (hunsent caller m)
  · intro caller m hy
    -- a delivery that begins has found its channel in `connMap`
    by_cases hlookup : ∃ caller' r m', e = .lookup caller' r m'
    · obtain ⟨caller', r, m', rfl⟩ := hlookup
      rw [(Registry.delivering_lookup h).2, Function.update_apply] at hy
      split_ifs at hy
      · obtain ⟨ch, hch, heq⟩ := Option.map_eq_some_iff.mp hy
        cases heq
        exact hreplaced.absent r hch
      · exact hunsent caller m hy
    · by_cases hsend : ∃ caller', e = .send caller'
      · obtain ⟨caller', rfl⟩ := hsend
        rw [(Registry.delivering_send h).2, Function.update_apply] at hy
        split_ifs at hy
        exact hunsent caller m hy
      · rw [Registry.delivering_of_ne h (fun caller' r m' he => hlookup ⟨_, _, _, he⟩)
          fun caller' he => hsend ⟨_, he⟩] at hy
        exact hunsent caller m hy

/-- **One step** leaves a writer waiting whose channel is replaced. -/
theorem Starved.step {sock : Socket} (h : Step R addr s e t) (hsock : s.sockets c = some sock)
    (hreplaced : Registry.Replaced (s.gateways sock.gw) c) (hstarved : Starved s sock.gw c) :
    Starved t sock.gw c := by
  obtain ⟨hwaiting, hempty, hunsent⟩ := hstarved
  have hstill : t.writers c = .waiting := by
    cases writerTurn h c with
    | same hsame => rw [hsame, hwaiting]
    | started hs hx hnew => exact hnew
    | received hs hc hbuf =>
      obtain rfl := Option.some.inj (hsock.symm.trans hs)
      rw [hempty] at hbuf
      cases hbuf
    | drained hs hc hclosed =>
      obtain rfl := Option.some.inj (hsock.symm.trans hs)
      exact absurd hreplaced.isOpen hclosed
    | written he hc =>
      rw [hwaiting] at hc
      cases hc
  rcases gateway_step h with hsame | ⟨g', e', x, hx, hgateways, -⟩
  · exact ⟨hstill, by rw [hsame, hempty], by rw [hsame]; exact hunsent⟩
  · by_cases hg : sock.gw = g'
    · subst hg
      have hgw : t.gateways sock.gw = x := by
        rw [hgateways, Function.update_self]
      obtain ⟨hempty', hunsent'⟩ := unsent_step hx hreplaced hempty hunsent
      exact ⟨hstill, by rw [hgw, hempty'], by rw [hgw]; exact hunsent'⟩
    · have hgw : t.gateways sock.gw = s.gateways sock.gw := by
        rw [hgateways, Function.update_of_ne hg]
      exact ⟨hstill, by rw [hgw, hempty], by rw [hgw]; exact hunsent⟩

/-- **A writer that nobody stops.**  From the moment another connection has registered over the channel of a
connection, the channel stays open and out of `connMap`; unless a write to its socket fails its writer does
not return; and once the writer waits with nothing in the channel or on its way into it, it waits in every
later state. -/
theorem writer_leaks {es fs : List (Event χ ε)} {sock : Socket}
    (h : (cluster R addr).run (cluster R addr).init es = some s)
    (h' : (cluster R addr).run s fs = some t) (hsock : s.sockets c = some sock)
    (hreplaced : Registry.Replaced (s.gateways sock.gw) c) :
    Registry.Replaced (t.gateways sock.gw) c ∧
      ((∀ e ∈ es ++ fs, ¬ WriteFails c e) → t.writers c ≠ .stopped) ∧
      (Starved s sock.gw c → Starved t sock.gw c) := by
  have hlater : (cluster R addr).Reachable t ∧ t.sockets c = some sock ∧
      Registry.Replaced (t.gateways sock.gw) c ∧ (Starved s sock.gw c → Starved t sock.gw c) := by
    refine (cluster R addr).run_induction (motive := fun _ t => (cluster R addr).Reachable t ∧
      t.sockets c = some sock ∧ Registry.Replaced (t.gateways sock.gw) c ∧
      (Starved s sock.gw c → Starved t sock.gw c)) ⟨⟨es, h⟩, hsock, hreplaced, id⟩ ?_ h'
    rintro fs u e v - ⟨hu, husock, hureplaced, hustarved⟩ hstep
    exact ⟨hu.step hstep, socket_step (step_cases hstep) husock, replaced_mono hu (step_cases hstep) hureplaced,
      fun hs => (hustarved hs).step (step_cases hstep) husock hureplaced⟩
  obtain ⟨-, htsock, htreplaced, htstarved⟩ := hlater
  refine ⟨htreplaced, fun hwrites hstopped => ?_, htstarved⟩
  have hrun : (cluster R addr).run (cluster R addr).init (es ++ fs) = some t :=
    (Lts.System.run_append ..).mpr ⟨s, h, h'⟩
  obtain ⟨sock', hsock', hclosed⟩ := closed_of_stopped hrun hwrites hstopped
  obtain rfl := Option.some.inj (htsock.symm.trans hsock')
  exact hclosed htreplaced.isOpen

/-- A tab of Alice's is open when she opens another. -/
def secondTabOpensRun : List CounterEvent :=
  [.connect 0 0 "alice", .handler 0 (.registerUser true), .handler 0 .registerConn,
    .connect 1 0 "alice", .handler 1 (.registerUser true), .handler 1 .registerConn]

/-- She closes both. -/
def bothTabsCloseRun : List CounterEvent :=
  [.handler 0 .hangUp, .handler 0 .unregisterConn, .handler 0 (.unregisterUser true),
    .handler 1 .hangUp, .handler 1 .unregisterConn, .handler 1 (.unregisterUser true),
    .writer 1 .drained]

/-- The first connection is closed, and its writer waits. -/
theorem writer_leaks_twoTabs : ∃ s t,
    (counterCluster fun _ => "g").run (counterCluster fun _ => "g").init secondTabOpensRun = some s ∧
    (counterCluster fun _ => "g").run s bothTabsCloseRun = some t ∧ t.handlers 0 = .closed ∧
    t.handlers 1 = .closed ∧ t.writers 0 = .waiting := by
  refine ⟨_, _, rfl, rfl, rfl, rfl, ?_⟩
  refine ((@writer_leaks _ _ _ MessageService.Counters.redis (fun _ => "g") _ _ 0 secondTabOpensRun
    bothTabsCloseRun ⟨0, "alice"⟩ rfl rfl rfl ?_).2.2 ⟨rfl, rfl, fun _ _ hd => by cases hd⟩).waiting
  refine ⟨Option.some_ne_none "alice", rfl, fun u hu => ?_⟩
  change Function.update (Function.update (fun _ => none) "alice" (some 0)) "alice" (some 1) u =
    some 0 at hu
  by_cases halice : u = "alice"
  · rw [halice, Function.update_self] at hu
    cases hu
  · rw [Function.update_of_ne halice, Function.update_of_ne halice] at hu
    cases hu

end Cluster

end TinyTelegram.Gateway
