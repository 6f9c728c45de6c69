import TinyTelegram.Gateway.Counters
import TinyTelegram.Gateway.Equiv.Progress

/-!
# Routing

A message that `PersistMessage` has returned is put into a channel of its receiver, if presence is
read, the RPC is executed, and the channel is there, open and not full (`Favorable`).  It is so except
when the write of its acknowledgement returns an error: the read loop then goes on to the next frame,
and nobody looks for the receiver (`not_enqueued`).  `enqueued_iff_acked` says that there is no other
exception, and that no message stays on its way for want of a step.

`Course` is how far a message has come at the end of a run, with the milestones that it has behind it.
-/

namespace TinyTelegram.Gateway

namespace Cluster

open MessageService (Redis CallId)

variable {ρ χ ε : Type} {R : Redis ρ χ ε} {addr : GwId → String}

/-! ### The course of a message -/

/-- How far the message with the id `i` has come, when `hist` are the milestones that it has
passed since the run began. -/
inductive Course (s : State ρ) (hist : List Milestone) (i : String) : Prop where
  /-- There is no such message yet. -/
  | unborn (hhist : hist = []) (hnowhere : ∀ l m, carried? s l = some m → m.id ≠ i)
  /-- It was handed to its handler before the run began. -/
  | old {m} (hid : m.id = i) (hout : HandedOut s m) (hhist : ∀ m', .handed m' ∉ hist)
  | handed {c m} (hid : m.id = i) (hhist : hist = [.handed m]) (hl : carried? s (.acking c) = some m)
  | acked {l m} (hid : m.id = i) (hhist : hist = [.handed m, .acked m true])
      (hl : carried? s l = some m) (hnot : ∀ c, l ≠ .acking c)
  | refused {m} (hid : m.id = i) (hhist : hist = [.handed m, .acked m false]) (hout : HandedOut s m)
      (hgone : ∀ l m', carried? s l = some m' → m'.id ≠ i)
  | enqueued {m g ch u} (hid : m.id = i)
      (hhist : hist = [.handed m, .acked m true, .enqueued g ch m]) (hout : HandedOut s m)
      (hgone : ∀ l m', carried? s l = some m' → m'.id ≠ i) (hs : s.sockets ch = some ⟨g, u⟩)
      (hu : m.isReceiver u = true)

section Course

variable {s t : State ρ} {e : Event χ ε} {l : Leg} {m : PersistedMessage} {hist : List Milestone}
  {i : String}

theorem handedOut_of_carried (hs : (cluster R addr).Reachable s) (hl : carried? s l = some m) :
    HandedOut s m :=
  (sound hs).origin _ m (held_of_carried hl)

/-- There is no message with the id, or it has been handed to its handler. -/
theorem Course.unborn_or_handedOut (hs : (cluster R addr).Reachable s) (h : Course s hist i) :
    hist = [] ∨ ∃ m, m.id = i ∧ HandedOut s m := by
  cases h with
  | unborn hhist hnowhere => exact Or.inl hhist
  | old hid hout hhist => exact Or.inr ⟨_, hid, hout⟩
  | handed hid hhist hl => exact Or.inr ⟨_, hid, handedOut_of_carried hs hl⟩
  | acked hid hhist hl hnot => exact Or.inr ⟨_, hid, handedOut_of_carried hs hl⟩
  | refused hid hhist hout hgone => exact Or.inr ⟨_, hid, hout⟩
  | enqueued hid hhist hout hgone hs hu => exact Or.inr ⟨_, hid, hout⟩

/-- The course of a message that is on a leg. -/
theorem Course.of_carried (hs : (cluster R addr).Reachable s) (h : Course s hist i)
    (hl : carried? s l = some m) (hid : m.id = i) :
    (∀ m', .handed m' ∉ hist) ∨ (∃ c, l = .acking c) ∧ hist = [.handed m] ∨
      (∀ c, l ≠ .acking c) ∧ hist = [.handed m, .acked m true] := by
  cases h with
  | unborn hhist hnowhere => exact absurd hid (hnowhere l m hl)
  | old hid' hout hhist => exact Or.inl hhist
  | handed hid' hhist hl' =>
    obtain ⟨rfl, rfl⟩ := carried_unique hs hl hl' (hid.trans hid'.symm)
    exact Or.inr (Or.inl ⟨⟨_, rfl⟩, hhist⟩)
  | acked hid' hhist hl' hnot =>
    obtain ⟨rfl, rfl⟩ := carried_unique hs hl hl' (hid.trans hid'.symm)
    exact Or.inr (Or.inr ⟨hnot, hhist⟩)
  | refused hid' hhist hout hgone => exact absurd hid (hgone l m hl)
  | enqueued hid' hhist hout hgone hs hu => exact absurd hid (hgone l m hl)

/-- A message whose acknowledgement has failed, or that is in a channel, is on its way no more. -/
theorem Course.gone (h : Course s hist i) (hhanded : .handed m ∈ hist)
    (hpassed : ∃ x ∈ hist, x = .acked m false ∨ ∃ g ch, x = .enqueued g ch m) :
    ∀ l m', carried? s l = some m' → m'.id ≠ i := by
  cases h with
  | unborn hhist hnowhere => exact hnowhere
  | old hid hout hhist => exact absurd hhanded (hhist m)
  | handed hid hhist hl => simp [hhist] at hpassed
  | acked hid hhist hl hnot => simp [hhist] at hpassed
  | refused hid hhist hout hgone => exact hgone
  | enqueued hid hhist hout hgone hs hu => exact hgone

/-- A step that leaves the message where it is. -/
theorem Course.congr (hstep : Step R addr s e t)
    (hcarried : ∀ l m, m.id = i → (carried? t l = some m ↔ carried? s l = some m))
    (h : Course s hist i) : Course t hist i := by
  have hgone : (∀ l m, carried? s l = some m → m.id ≠ i) →
      ∀ l m, carried? t l = some m → m.id ≠ i :=
    fun hgone l m hl hid => hgone l m ((hcarried l m hid).mp hl) hid
  cases h with
  | unborn hhist hnowhere => exact .unborn hhist (hgone hnowhere)
  | old hid hout hhist => exact .old hid (hout.step hstep) hhist
  | handed hid hhist hl => exact .handed hid hhist ((hcarried _ _ hid).mpr hl)
  | acked hid hhist hl hnot => exact .acked hid hhist ((hcarried _ _ hid).mpr hl) hnot
  | refused hid hhist hout hgone' => exact .refused hid hhist (hout.step hstep) (hgone hgone')
  | enqueued hid hhist hout hgone' hs hu =>
    exact .enqueued hid hhist (hout.step hstep) (hgone hgone') (socket_step hstep hs) hu

/-- A leg that is not the message's changes. -/
theorem update_carried_iff {f : Leg → Option PersistedMessage} {v : Option PersistedMessage}
    (hold : ∀ m, f l = some m → m.id ≠ i) (hnew : ∀ m, v = some m → m.id ≠ i) {k : Leg}
    (hid : m.id = i) : Function.update f l v k = some m ↔ f k = some m := by
  by_cases hk : k = l
  · subst hk
    rw [Function.update_self]
    exact ⟨fun h => absurd hid (hnew m h), fun h => absurd hid (hold m h)⟩
  · rw [Function.update_of_ne hk]

/-- A message that a handler is about to be handed is none that another has been. -/
theorem HandedOut.ne_of_awaited (hs : (cluster R addr).Reachable s) {c : ConnId}
    {incoming : IncomingMessage} {call : CallId} {msg alloc} {m' : PersistedMessage}
    (hc : s.handlers c = .persisting incoming call)
    (hret : s.service.calls call = .returned msg alloc (.ok m)) (h : HandedOut s m') :
    m'.id ≠ m.id := by
  intro hid
  obtain ⟨call', msg', alloc', hret', hnot⟩ := h
  obtain rfl := MessageService.Service.returned_id_inj (service_reachable hs) hret' hret hid
  exact hnot c incoming (by rw [hc]; rfl)

/-- A delivery in flight is on the gateway of its channel's connection. -/
theorem socket_of_inFlight (hs : (cluster R addr).Reachable s) {g : GwId} {caller : Caller}
    {ch : ConnId} : ∀ {m}, carried? s (.inFlight g caller ch) = some m →
      ∃ u, s.sockets ch = some ⟨g, u⟩ := by
  refine hs.induction (I := fun s : State ρ => ∀ {m}, carried? s (.inFlight g caller ch) = some m →
    ∃ u, s.sockets ch = some ⟨g, u⟩) (fun h => by cases h) ?_
  intro s e t hs ih hstep m hl
  have h := step_cases hstep
  have hold : ∀ {m}, carried? s (.inFlight g caller ch) = some m →
      ∃ u, t.sockets ch = some ⟨g, u⟩ := by
    intro m hm
    obtain ⟨u, hu⟩ := ih hm
    exact ⟨u, socket_step h hu⟩
  cases passage hs h with
  | same hnone ht => exact hold (ht ▸ hl)
  | handed hm hc hret ht =>
    rw [ht, Function.update_of_ne (by simp)] at hl
    exact hold hl
  | acked hm hfrom hto ht =>
    rw [ht, Function.update_of_ne (by simp), Function.update_of_ne (by simp)] at hl
    exact hold hl
  | called hnone hfrom hto ht =>
    rw [ht, Function.update_of_ne (by simp), Function.update_of_ne (by simp)] at hl
    exact hold hl
  | @lookedUp l g' caller' r ch' m' hnone hl' hfrom hlookup hch hto ht =>
    by_cases heq : Leg.inFlight g caller ch = .inFlight g' caller' ch'
    · cases heq
      exact ⟨r, socket_step h ((wired hs).socket g ch r
        ((Registry.inv (gateway_reachable hs g)).owner r ch hch))⟩
    · rw [ht, Function.update_of_ne heq, Function.update_apply] at hl
      split_ifs at hl with heq'
      exact hold hl
  | enqueued hm hfrom ht =>
    rw [ht, Function.update_apply] at hl
    split_ifs at hl with heq
    exact hold hl
  | lost hnone hl' hfrom hloss ht =>
    rw [ht, Function.update_apply] at hl
    split_ifs at hl with heq
    exact hold hl

/-- A channel that has a message is one of a connection on its gateway. -/
theorem socket_of_buffer (hs : (cluster R addr).Reachable s) {g : GwId} {c : ConnId} :
    ∀ {m}, m ∈ ((s.gateways g).chans c).buf → ∃ u, s.sockets c = some ⟨g, u⟩ := by
  refine hs.induction (I := fun s : State ρ => ∀ {m}, m ∈ ((s.gateways g).chans c).buf →
    ∃ u, s.sockets c = some ⟨g, u⟩) (fun hm => absurd hm List.not_mem_nil) ?_
  intro s e t hs ih hstep m hm
  have h := step_cases hstep
  obtain ⟨u, hu⟩ : ∃ u, s.sockets c = some ⟨g, u⟩ := by
    rcases buffer_step h g c with hsub | ⟨m', hm', -⟩
    · exact ih (hsub.subset hm)
    · obtain ⟨caller, hl⟩ := carried_of_sent (accepts_of_enqueued hm').1
      exact socket_of_inFlight hs hl
  exact ⟨u, socket_step h hu⟩

/-- The milestones of the message with the id `i` among those that a step passes. -/
def passed (s : State ρ) (e : Event χ ε) (i : String) : List Milestone :=
  (milestone? s e).toList.filter fun x => x.message.id = i

theorem passed_of_none (hnone : milestone? s e = none) : passed s e i = [] := by
  rw [passed, hnone]
  rfl

theorem passed_of_ne {x : Milestone} (hx : milestone? s e = some x) (hid : x.message.id ≠ i) :
    passed s e i = [] := by
  simp [passed, hx, hid]

theorem passed_of_eq {x : Milestone} (hx : milestone? s e = some x) (hid : x.message.id = i) :
    passed s e i = [x] := by
  simp [passed, hx, hid]

/-- A message that goes on from one leg to another. -/
theorem Course.move (hs : (cluster R addr).Reachable s) (hstep : Step R addr s e t) {k : Leg}
    (hnone : milestone? s e = none) (hl : ∀ c, l ≠ .acking c) (hk : ∀ c, k ≠ .acking c) (hne : k ≠ l)
    (hfrom : carried? s l = some m) (hto : carried? s k = none)
    (ht : carried? t = Function.update (Function.update (carried? s) l none) k (some m))
    (h : Course s hist i) : Course t (hist ++ passed s e i) i := by
  rw [passed_of_none hnone, List.append_nil]
  by_cases hid : m.id = i
  · rcases h.of_carried hs hfrom hid with hold | ⟨⟨c, rfl⟩, -⟩ | ⟨-, hhist⟩
    · exact .old hid ((handedOut_of_carried hs hfrom).step hstep) hold
    · exact absurd rfl (hl c)
    · exact .acked hid hhist (by rw [ht, Function.update_self]) hk
  · have hold : ∀ m', carried? s l = some m' → m'.id ≠ i := by
      intro m' hm'
      rwa [← Option.some.inj (hfrom.symm.trans hm')]
    refine h.congr hstep fun k' m' hid' => ?_
    rw [ht, update_carried_iff ?_ ?_ hid', update_carried_iff hold ?_ hid']
    · rintro _ ⟨⟩
    · rw [Function.update_of_ne hne, hto]
      rintro _ ⟨⟩
    · rintro _ ⟨⟩
      exact hid

/-- **One step** of the course of a message that is not lost. -/
theorem Course.step (hs : (cluster R addr).Reachable s) (hstep : Step R addr s e t)
    (hno : ∀ m, m.id = i → ¬ Loss s e m) (h : Course s hist i) :
    Course t (hist ++ passed s e i) i := by
  -- another message leaves its leg
  have hleave : ∀ {l k : Leg} {m m' : PersistedMessage}, carried? s l = some m → m.id ≠ i →
      m'.id = i → (Function.update (carried? s) l none k = some m' ↔ carried? s k = some m') := by
    intro l k m m' hl hid hid'
    refine update_carried_iff ?_ ?_ hid'
    · intro m₀ hm₀
      rwa [← Option.some.inj (hl.symm.trans hm₀)]
    · rintro _ ⟨⟩
  cases passage hs hstep with
  | same hnone ht =>
    rw [passed_of_none hnone, List.append_nil]
    exact h.congr hstep fun l m hid => by rw [ht]
  | @handed c m incoming call msg alloc hm hc hret ht =>
    by_cases hid : m.id = i
    · rw [passed_of_eq hm hid]
      rcases h.unborn_or_handedOut hs with rfl | ⟨m', hid', hout⟩
      · exact .handed hid rfl (by rw [ht, Function.update_self])
      · exact absurd (hid'.trans hid.symm) (hout.ne_of_awaited hs hc hret)
    · rw [passed_of_ne hm hid, List.append_nil]
      refine h.congr hstep fun l m' hid' => ?_
      rw [ht, update_carried_iff ?_ ?_ hid']
      · intro m' hm'
        simp [carried?, hc, acking?] at hm'
      · rintro _ ⟨⟩
        exact hid
  | @acked c m ok hm hfrom hto ht =>
    have hne : Leg.routing c ≠ .acking c := by simp
    by_cases hid : m.id = i
    · rw [passed_of_eq hm hid]
      subst hid
      have hout := (handedOut_of_carried hs hfrom).step hstep
      rcases h.of_carried hs hfrom rfl with hold | ⟨-, rfl⟩ | ⟨hnot, -⟩
      · exact .old rfl hout fun m' => by simpa using hold m'
      · cases ok with
        | true => exact .acked rfl rfl (by rw [ht, Function.update_self]; rfl) (by simp)
        | false =>
          have hsame : Function.update (Function.update (carried? s) (.acking c) none) (.routing c) none =
              Function.update (carried? s) (.acking c) none := by
            refine Function.update_eq_self_iff.mpr ?_
            rw [Function.update_of_ne hne, hto]
          exact .refused rfl rfl hout (gone_of_update hs hfrom (ht.trans hsame))
      · exact absurd rfl (hnot c)
    · rw [passed_of_ne hm hid, List.append_nil]
      refine h.congr hstep fun l m' hid' => ?_
      rw [ht, update_carried_iff ?_ ?_ hid', update_carried_iff ?_ ?_ hid']
      · intro m' hm'
        rwa [← Option.some.inj (hfrom.symm.trans hm')]
      · rintro _ ⟨⟩
      · rw [Function.update_of_ne hne, hto]
        rintro _ ⟨⟩
      · intro m' hm'
        split_ifs at hm'
        rwa [← Option.some.inj hm']
  | called hnone hfrom hto ht =>
    exact h.move hs hstep hnone (by simp) (by simp) (by simp) hfrom hto ht
  | @lookedUp l g caller r ch m hnone hl hfrom hlookup hch hto ht =>
    have hne : .inFlight g caller ch ≠ l := by
      rintro rfl
      rw [hfrom] at hto
      cases hto
    exact h.move hs hstep hnone hl (by simp) hne hfrom hto ht
  | @enqueued g caller ch m hm hfrom ht =>
    by_cases hid : m.id = i
    · rw [passed_of_eq hm hid]
      subst hid
      have hout := (handedOut_of_carried hs hfrom).step hstep
      rcases h.of_carried hs hfrom rfl with hold | ⟨⟨c, hc⟩, -⟩ | ⟨-, rfl⟩
      · exact .old rfl hout fun m' => by simpa using hold m'
      · cases hc
      · obtain ⟨u, hu⟩ := socket_of_inFlight hs hfrom
        obtain ⟨sock, hsock, hreceiver⟩ := (sound hs).routed _ m (held_of_carried hfrom) ch rfl
        obtain rfl := Option.some.inj (hu.symm.trans hsock)
        exact .enqueued rfl rfl hout (gone_of_update hs hfrom ht) (socket_step hstep hu) hreceiver
    · rw [passed_of_ne hm hid, List.append_nil]
      exact h.congr hstep fun l m' hid' => by rw [ht, hleave hfrom hid hid']
  | @lost l m hnone hl hfrom hloss ht =>
    have hid : m.id ≠ i := fun hid => hno m hid hloss
    rw [passed_of_none hnone, List.append_nil]
    exact h.congr hstep fun l m' hid' => by rw [ht, hleave hfrom hid hid']

end Course

/-- **The course of a message** in a run that begins in any state reached and does not lose it. -/
theorem course {s₀ s : State ρ} {es : List (Event χ ε)} {i : String}
    (hs₀ : (cluster R addr).Reachable s₀) (h : (cluster R addr).run s₀ es = some s)
    (hno : (cluster R addr).Meets (fun s e => ∀ m, m.id = i → ¬ Loss s e m) s₀ es) :
    Course s (((cluster R addr).observe milestone? s₀ es).filter fun x => x.message.id = i) i := by
  refine hno.run_induction
    (motive := fun es s =>
      Course s (((cluster R addr).observe milestone? s₀ es).filter fun x => x.message.id = i) i)
    ?_ ?_ h
  · by_cases hunderway : ∃ l m, carried? s₀ l = some m ∧ m.id = i
    · obtain ⟨l, m, hl, hid⟩ := hunderway
      exact .old hid (handedOut_of_carried hs₀ hl) fun m' => List.not_mem_nil
    · exact .unborn rfl fun l m hl hid => hunderway ⟨l, m, hl, hid⟩
  · intro es s e t hs _ ih he hstep
    rw [Lts.System.observe_concat _ hs, List.filter_append]
    exact ih.step (hs₀.run hs) (step_cases hstep) he

/-! ### Routing -/

/-- The event is an RPC that is not executed. -/
def rpcFails : Event χ ε → Bool
  | .peer _ .fail => true
  | _ => false

/-- What routing relies on: presence is read and names a gateway, the RPC is executed, the receiver
has a channel where it is looked up, and the channel is open and has room when the message is sent. -/
structure Favorable (s : State ρ) (e : Event χ ε) : Prop where
  located : ∀ d ∈ located? s e, d.2.2.getD "" ≠ ""
  executed : rpcFails e = false
  lookedUp : ∀ d ∈ lookedUp? s e, ((s.gateways d.1).connMap d.2.1).isSome = true
  sent : ∀ d ∈ sent? s e, Accepts s d.1 d.2.1

instance (s : State ρ) (e : Event χ ε) : Decidable (Favorable s e) :=
  decidable_of_iff ((∀ d ∈ located? s e, d.2.2.getD "" ≠ "") ∧ rpcFails e = false ∧
      (∀ d ∈ lookedUp? s e, ((s.gateways d.1).connMap d.2.1).isSome = true) ∧
      ∀ d ∈ sent? s e, Accepts s d.1 d.2.1)
    ⟨fun ⟨hl, he, hd, hs⟩ => ⟨hl, he, hd, hs⟩, fun ⟨hl, he, hd, hs⟩ => ⟨hl, he, hd, hs⟩⟩

theorem Favorable.no_loss {s : State ρ} {e : Event χ ε} (h : Favorable s e) (m : PersistedMessage) :
    ¬ Loss s e m := by
  intro hloss
  cases hloss with
  | nowhere hl hnone => exact h.located _ hl hnone
  | unregistered hl hnone =>
    have hsome := h.lookedUp _ hl
    rw [hnone] at hsome
    cases hsome
  | refused hl hnot => exact hnot (h.sent _ hl)
  | failed hp he =>
    have hexecuted := h.executed
    rw [he] at hexecuted
    cases hexecuted

/-- No process goes down, as no message is sent to a closed channel. -/
theorem alive_of_favorable {es : List (Event χ ε)} {s : State ρ}
    (h : (cluster R addr).run (init R) es = some s)
    (hfavorable : (cluster R addr).Meets Favorable (init R) es) : Alive s := by
  refine Lts.System.invariant_of_meets (S := cluster R addr) (I := Alive) (fun g => rfl) ?_ h
    hfavorable
  intro s e t halive he hstep
  exact halive.step (step_cases hstep) fun _ _ d hd => (he.sent d hd).1

/-- The channels that the message with the id `i` is put into, with their gateways. -/
def enqueues (hist : List Milestone) (i : String) : List (GwId × ConnId) :=
  hist.filterMap fun x =>
    match x with
    | .enqueued g ch m => if m.id = i then some (g, ch) else none
    | _ => none

theorem enqueues_filter (hist : List Milestone) (i : String) :
    enqueues (hist.filter fun x => x.message.id = i) i = enqueues hist i := by
  rw [enqueues, List.filterMap_filter]
  refine List.filterMap_congr fun x _ => ?_
  cases x with
  | enqueued g ch m => by_cases hid : m.id = i <;> simp [Milestone.message, hid]
  | _ => exact ite_self none

/-- The milestones of a run. -/
def milestones (R : Redis ρ χ ε) (addr : GwId → String) (es : List (Event χ ε)) : List Milestone :=
  (cluster R addr).observe milestone? (init R) es

theorem not_underway {es : List (Event χ ε)} {s : State ρ} {m : PersistedMessage}
    (h : (cluster R addr).run (init R) es = some s)
    (hfavorable : (cluster R addr).Meets Favorable (init R) es)
    (hm : .handed m ∈ milestones R addr es)
    (hpassed : ∃ x ∈ milestones R addr es, x = .acked m false ∨ ∃ g ch, x = .enqueued g ch m) :
    ¬ Underway s m := by
  rintro ⟨l, hl⟩
  have hcourse := course (i := m.id) ⟨[], rfl⟩ h
    (hfavorable.mono fun s e he m' _ => he.no_loss m')
  obtain ⟨x, hx, hpassed⟩ := hpassed
  refine hcourse.gone (List.mem_filter.mpr ⟨hm, by simp [Milestone.message]⟩)
    ⟨x, List.mem_filter.mpr ⟨hx, ?_⟩, hpassed⟩ l m hl rfl
  rcases hpassed with rfl | ⟨g, ch, rfl⟩
  · simp [Milestone.message]
  · simp [Milestone.message]

/-! ### The failing schedule -/

/-- Alice and Bob are on one gateway; she writes to him, and her message is persisted. -/
def persistedRun : List CounterEvent :=
  [.connect 0 0 "alice", .handler 0 (.registerUser true), .handler 0 .registerConn,
    .connect 1 0 "bob", .handler 1 (.registerUser true), .handler 1 .registerConn,
    .handler 0 (.frame (some ⟨"bob", "hi"⟩) 0 5),
    .service (.redis 0 (.incr .executed)), .service (.redis 0 (.incr .executed)),
    .service (.redis 0 (.wait (.ok 1))), .service (.insert 0 "m" 7 8 .executed),
    .handler 0 .persisted]

/-- Her socket is gone when the message is to be acknowledged. -/
def lostAckRun : List CounterEvent := persistedRun ++ [.handler 0 (.ack false false)]

/-- **Bob, who is there and has room, does not get the message**, and it is on its way no more. -/
theorem not_enqueued : ∃ (s : CounterState) (m : PersistedMessage),
    (counterCluster fun _ => "gateway:50051").run (counterCluster fun _ => "gateway:50051").init
      lostAckRun = some s ∧
    (counterCluster fun _ => "gateway:50051").Meets Favorable
      (counterCluster fun _ => "gateway:50051").init lostAckRun ∧
    .handed m ∈ milestones MessageService.Counters.redis (fun _ => "gateway:50051") lostAckRun ∧
    m.isReceiver "bob" = true ∧ s.presence.presence "bob" = some "gateway:50051" ∧
    (s.gateways 0).connMap "bob" = some 1 ∧ Accepts s 0 1 ∧ ¬ Underway s m ∧
    enqueues (milestones MessageService.Counters.redis (fun _ => "gateway:50051") lostAckRun) m.id =
      [] := by
  let m : PersistedMessage := ⟨"m", some ⟨"alice", "bob", "hi", 5⟩, 1, 1, 8⟩
  have hfavorable : (counterCluster fun _ => "gateway:50051").Meets Favorable
      (counterCluster fun _ => "gateway:50051").init lostAckRun := .of_check (by decide +kernel)
  have hmilestones : milestones MessageService.Counters.redis (fun _ => "gateway:50051") lostAckRun =
      [.handed m, .acked m false] := by decide +kernel
  refine ⟨_, m, rfl, hfavorable, ?_, rfl, rfl, rfl, by decide, ?_, ?_⟩
  · rw [hmilestones]
    exact List.mem_cons_self
  · refine not_underway rfl hfavorable ?_ ?_
    · rw [hmilestones]
      exact List.mem_cons_self
    · rw [hmilestones]
      exact ⟨_, List.mem_cons_of_mem _ List.mem_cons_self, Or.inl rfl⟩
  · rw [hmilestones]
    rfl

/-- **A message is put into one channel of its receiver, once, exactly when its acknowledgement is
written without an error**, in every run in which routing has what it relies on: once the message is
on its way no more, and successful steps of those that have it always bring it there. -/
theorem enqueued_iff_acked {es : List (Event χ ε)} {s : State ρ} {m : PersistedMessage}
    (h : (cluster R addr).run (init R) es = some s)
    (hfavorable : (cluster R addr).Meets Favorable (init R) es)
    (hm : .handed m ∈ milestones R addr es) :
    (∃ (fs : List (Event χ ε)) (t : State ρ), (cluster R addr).run s fs = some t ∧
      (∀ e ∈ fs, succeeds e = true) ∧ ¬ Underway t m) ∧
    (¬ Underway s m → ((∃ g ch u, enqueues (milestones R addr es) m.id = [(g, ch)] ∧
      s.sockets ch = some ⟨g, u⟩ ∧ m.isReceiver u = true) ↔
        .acked m true ∈ milestones R addr es)) := by
  refine ⟨finish ⟨es, h⟩ (alive_of_favorable h hfavorable) m, fun hdone => ?_⟩
  have hcourse := course (i := m.id) ⟨[], rfl⟩ h
    (hfavorable.mono fun s e he m' _ => he.no_loss m')
  have hmem : ∀ {x : Milestone}, x.message.id = m.id → (x ∈ milestones R addr es ↔
      x ∈ (milestones R addr es).filter fun x => x.message.id = m.id) := by
    intro x hx
    simp [List.mem_filter, hx]
  rw [hmem rfl] at hm
  rw [hmem rfl, ← enqueues_filter]
  change Course s ((milestones R addr es).filter fun x => x.message.id = m.id) m.id at hcourse
  generalize ((milestones R addr es).filter fun x => x.message.id = m.id) = hist at hm hcourse ⊢
  cases hcourse with
  | unborn hhist hnowhere =>
    rw [hhist] at hm
    exact absurd hm List.not_mem_nil
  | old hid hout hhist => exact absurd hm (hhist m)
  | @handed c m' hid hhist hl =>
    obtain rfl : m = m' := by simpa [hhist] using hm
    exact absurd ⟨_, hl⟩ hdone
  | @acked l m' hid hhist hl hnot =>
    obtain rfl : m = m' := by simpa [hhist] using hm
    exact absurd ⟨_, hl⟩ hdone
  | refused hid hhist hout hgone => simp [hhist, enqueues]
  | @enqueued m' g ch u hid hhist hout hgone hs hu =>
    obtain rfl : m = m' := by simpa [hhist] using hm
    simp [hhist, enqueues, hs, hu]

/-- The acknowledgement is written, and the message is put into Bob's channel. -/
def deliveredRun : List CounterEvent :=
  persistedRun ++ [.handler 0 (.ack true true), .handler 0 (.locate false 0), .handler 0 .lookup,
    .handler 0 .send]

/-- The message is in the channel of connection 1, once. -/
theorem enqueued_iff_acked_deliveredRun : ∃ (s : CounterState) (m : PersistedMessage),
    (counterCluster fun _ => "gateway:50051").run (counterCluster fun _ => "gateway:50051").init
      deliveredRun = some s ∧
    ∃ g ch u, enqueues (milestones MessageService.Counters.redis (fun _ => "gateway:50051")
      deliveredRun) m.id = [(g, ch)] ∧ s.sockets ch = some ⟨g, u⟩ ∧ m.isReceiver u = true := by
  let m : PersistedMessage := ⟨"m", some ⟨"alice", "bob", "hi", 5⟩, 1, 1, 8⟩
  have hfavorable : (counterCluster fun _ => "gateway:50051").Meets Favorable
      (counterCluster fun _ => "gateway:50051").init deliveredRun := .of_check (by decide +kernel)
  have hmilestones : milestones MessageService.Counters.redis (fun _ => "gateway:50051")
      deliveredRun = [.handed m, .acked m true, .enqueued 0 1 m] := by decide +kernel
  refine ⟨_, m, rfl, ((@enqueued_iff_acked _ _ _ MessageService.Counters.redis
    (fun _ => "gateway:50051") deliveredRun _ m rfl hfavorable ?_).2 ?_).mpr ?_⟩
  · rw [hmilestones]
    exact List.mem_cons_self
  · refine not_underway rfl hfavorable ?_ ?_
    · rw [hmilestones]
      exact List.mem_cons_self
    · rw [hmilestones]
      exact ⟨.enqueued 0 1 m, by simp, Or.inr ⟨0, 1, rfl⟩⟩
  · rw [hmilestones]
    exact List.mem_cons_of_mem _ List.mem_cons_self

end Cluster

end TinyTelegram.Gateway
