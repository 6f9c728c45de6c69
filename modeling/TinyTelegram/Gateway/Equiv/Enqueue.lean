import TinyTelegram.Gateway.Equiv.Delivery

/-!
# What is put into the channels

`DeliverLocal` puts its message into the channel it has looked up, if the channel is open and has room.
`enqueued?` is the message that an event puts into a channel, and `buffer_step` says that a channel
gets no other.
-/

namespace TinyTelegram.Gateway

/-- The message that a send puts into a channel. -/
def Registry.accepted? (x : State) (caller : Caller) : Option (ConnId × PersistedMessage) :=
  (x.delivering caller).filter fun (ch, _) =>
    (x.chans ch).closedBy.isNone ∧ (x.chans ch).buf.length < capacity

theorem Registry.buf_setBuf (x : State) (k : ConnId) (buf : List PersistedMessage) (ch : ConnId) :
    ((x.setBuf k buf).chans ch).buf = if ch = k then buf else (x.chans ch).buf := by
  by_cases hch : ch = k
  · subst hch
    simp [State.setBuf]
  · simp [State.setBuf, hch]

/-- A buffer gets the message that a send puts in, or loses its first one. -/
theorem Registry.buf_step {x y : State} {e : Event} (h : registry.step x e = some y) (ch : ConnId) :
    (y.chans ch).buf.Sublist (x.chans ch).buf ∨
      ∃ caller m, e = .send caller ∧ accepted? x caller = some (ch, m) ∧
        (y.chans ch).buf = (x.chans ch).buf ++ [m] := by
  obtain ⟨-, hstep⟩ := step_cases h
  cases hstep with
  | @unregisterSome c u k hc hu =>
    refine Or.inl ?_
    rw [State.setConn_chans, drop_buf]
  | @deliver caller k m hd hopen hroom =>
    have haccepted : accepted? x caller = some (k, m) := by
      rw [accepted?, hd, Option.filter_eq_some_iff]
      exact ⟨rfl, by simp [hopen, hroom]⟩
    by_cases hch : ch = k
    · subst hch
      refine Or.inr ⟨caller, m, rfl, haccepted, ?_⟩
      rw [State.setDelivering_chans, buf_setBuf, if_pos rfl]
    · refine Or.inl ?_
      rw [State.setDelivering_chans, buf_setBuf, if_neg hch]
  | panic hd hclosed =>
    refine Or.inl ?_
    rw [State.addPanic_chans, unwind_chans, State.setDelivering_chans]
  | @receive c m buf hbuf =>
    refine Or.inl ?_
    by_cases hch : ch = c
    · subst hch
      rw [buf_setBuf, if_pos rfl, hbuf]
      exact List.sublist_cons_self ..
    · rw [buf_setBuf, if_neg hch]
  | _ => exact Or.inl (List.Sublist.refl _)

namespace Registry

variable {x y : State} {e : Event} {ch : ConnId} {m : PersistedMessage}

/-- A message stays in its channel until the writer takes it. -/
theorem mem_buf_step (h : registry.step x e = some y) (hm : m ∈ (x.chans ch).buf) :
    m ∈ (y.chans ch).buf ∨ e = .receive ch ∧ ∃ buf, (x.chans ch).buf = m :: buf := by
  obtain ⟨-, hstep⟩ := step_cases h
  cases hstep with
  | @unregisterSome c u k hc hu =>
    refine Or.inl ?_
    rw [State.setConn_chans, drop_buf]
    exact hm
  | @deliver caller k msg hd hopen hroom =>
    refine Or.inl ?_
    rw [State.setDelivering_chans, buf_setBuf]
    split_ifs with hk
    · exact List.mem_append_left _ (hk ▸ hm)
    · exact hm
  | panic hd hclosed =>
    refine Or.inl ?_
    rw [State.addPanic_chans, unwind_chans, State.setDelivering_chans]
    exact hm
  | @receive c msg buf hbuf =>
    rw [buf_setBuf]
    split_ifs with hc
    · subst hc
      rw [hbuf, List.mem_cons] at hm
      rcases hm with rfl | hm
      · exact Or.inr ⟨rfl, buf, hbuf⟩
      · exact Or.inl hm
    · exact Or.inl hm
  | _ => exact Or.inl hm

/-- A message that a channel accepts is in its buffer. -/
theorem mem_buf_of_accepted {caller : Caller} (h : registry.step x (.send caller) = some y)
    (haccepted : accepted? x caller = some (ch, m)) : m ∈ (y.chans ch).buf := by
  obtain ⟨hd, hopen⟩ := Option.filter_eq_some_iff.mp haccepted
  obtain ⟨hopen, hroom⟩ : (x.chans ch).closedBy = none ∧ (x.chans ch).buf.length < capacity := by
    simpa using hopen
  obtain ⟨-, hstep⟩ := step_cases h
  cases hstep with
  | deliver hd' hopen' hroom' =>
    cases hd.symm.trans hd'
    rw [State.setDelivering_chans, buf_setBuf, if_pos rfl]
    exact List.mem_append_right _ (List.mem_singleton_self m)
  | full hd' hopen' hfull =>
    cases hd.symm.trans hd'
    exact absurd hroom hfull
  | panic hd' hclosed =>
    cases hd.symm.trans hd'
    exact absurd hopen hclosed

end Registry

namespace Cluster

open MessageService (Redis)

variable {ρ χ ε : Type} {R : Redis ρ χ ε} {addr : GwId → String}

/-- The message that an event puts into a channel, with the gateway of the channel. -/
def enqueued? (s : State ρ) : Event χ ε → Option (GwId × ConnId × PersistedMessage)
  | .handler c .send =>
    (s.sockets c).bind fun sock =>
      (Registry.accepted? (s.gateways sock.gw) (.readLoop c)).map fun d => (sock.gw, d)
  | .peer p .send =>
    match s.peers p with
    | .sending g => (Registry.accepted? (s.gateways g) (.rpc p)).map fun d => (g, d)
    | _ => none
  | _ => none

/-- **What a step does to a channel**: it puts the message in that the event enqueues, or takes one
out. -/
theorem buffer_step {s t : State ρ} {e : Event χ ε} (h : Step R addr s e t) (g : GwId) (ch : ConnId) :
    ((t.gateways g).chans ch).buf.Sublist ((s.gateways g).chans ch).buf ∨
      ∃ m, enqueued? s e = some (g, ch, m) ∧
        ((t.gateways g).chans ch).buf = ((s.gateways g).chans ch).buf ++ [m] := by
  have hsame : t.gateways = s.gateways →
      ((t.gateways g).chans ch).buf.Sublist ((s.gateways g).chans ch).buf := by
    intro hgw
    rw [hgw]
  -- the registry of `k` takes the step `e'`
  have hreg : ∀ {k e' x}, registry.step (s.gateways k) e' = some x →
      t.gateways = Function.update s.gateways k x →
      (∀ caller, e' = .send caller →
        enqueued? s e = (Registry.accepted? (s.gateways k) caller).map fun d => (k, d)) →
      ((t.gateways g).chans ch).buf.Sublist ((s.gateways g).chans ch).buf ∨
        ∃ m, enqueued? s e = some (g, ch, m) ∧
          ((t.gateways g).chans ch).buf = ((s.gateways g).chans ch).buf ++ [m] := by
    intro k e' x hx hgw hsend
    rw [hgw]
    by_cases hg : g = k
    · subst hg
      rw [Function.update_self]
      rcases Registry.buf_step hx ch with hsub | ⟨caller, m, he, haccepted, hbuf⟩
      · exact Or.inl hsub
      · refine Or.inr ⟨m, ?_, hbuf⟩
        rw [hsend caller he, haccepted]
        rfl
    · rw [Function.update_of_ne hg]
      exact Or.inl (List.Sublist.refl _)
  cases h with
  | registerConn hs hc hx => exact hreg hx rfl fun _ he => by cases he
  | lookup hs hc hx => exact hreg hx rfl fun _ he => by cases he
  | send hs hc hx hp =>
    refine hreg hx rfl fun caller he => ?_
    cases he
    rw [enqueued?, hs]
    rfl
  | hangUp hs hc hx hp => exact hreg hx rfl fun _ he => by cases he
  | unregisterConn hs hc hx => exact hreg hx rfl fun _ he => by cases he
  | receive hs hc hbuf hx => exact hreg hx rfl fun _ he => by cases he
  | deliverMessage hp hm hx => exact hreg hx rfl fun _ he => by cases he
  | peerSend hp hx =>
    refine hreg hx rfl fun caller he => ?_
    cases he
    rw [enqueued?, hp]
  | ack hs hc => exact Or.inl (hsame (write_gateways ..))
  | write hs hc => exact Or.inl (hsame (write_gateways ..))
  | _ => exact Or.inl (hsame rfl)

/-- A message that is put into a channel is in it. -/
theorem mem_buffer_of_enqueued {s t : State ρ} {e : Event χ ε} (h : Step R addr s e t) {g : GwId}
    {ch : ConnId} {m : PersistedMessage} (hm : enqueued? s e = some (g, ch, m)) :
    m ∈ ((t.gateways g).chans ch).buf := by
  cases h with
  | @send c sock x p hs hc hx hp =>
    rw [enqueued?, hs, Option.bind_some] at hm
    obtain ⟨d, hd, heq⟩ := Option.map_eq_some_iff.mp hm
    cases heq
    show m ∈ ((Function.update s.gateways sock.gw x sock.gw).chans ch).buf
    rw [Function.update_self]
    exact Registry.mem_buf_of_accepted hx hd
  | @peerSend p g' x hp hx =>
    simp only [enqueued?, hp] at hm
    obtain ⟨d, hd, heq⟩ := Option.map_eq_some_iff.mp hm
    cases heq
    show m ∈ ((Function.update s.gateways g x g).chans ch).buf
    rw [Function.update_self]
    exact Registry.mem_buf_of_accepted hx hd
  | _ => cases hm

/-- A message in a channel stays there until the writer takes it. -/
theorem mem_buffer_step {s t : State ρ} {e : Event χ ε} (h : Step R addr s e t) {g : GwId}
    {ch : ConnId} {m : PersistedMessage} (hm : m ∈ ((s.gateways g).chans ch).buf) :
    m ∈ ((t.gateways g).chans ch).buf ∨ t.writers ch = .writing m := by
  -- the registry of `k` takes a step that is no receive
  have hreg : ∀ {k e' x}, registry.step (s.gateways k) e' = some x → (∀ c, e' ≠ .receive c) →
      t.gateways = Function.update s.gateways k x → m ∈ ((t.gateways g).chans ch).buf := by
    intro k e' x hx hne hgw
    rw [hgw]
    by_cases hg : g = k
    · subst hg
      rw [Function.update_self]
      exact (Registry.mem_buf_step hx hm).resolve_right fun h => hne _ h.1
    · rw [Function.update_of_ne hg]
      exact hm
  cases h with
  | registerConn hs hc hx => exact Or.inl (hreg hx (by simp) rfl)
  | lookup hs hc hx => exact Or.inl (hreg hx (by simp) rfl)
  | send hs hc hx hp => exact Or.inl (hreg hx (by simp) rfl)
  | hangUp hs hc hx hp => exact Or.inl (hreg hx (by simp) rfl)
  | unregisterConn hs hc hx => exact Or.inl (hreg hx (by simp) rfl)
  | deliverMessage hp hm' hx => exact Or.inl (hreg hx (by simp) rfl)
  | peerSend hp hx => exact Or.inl (hreg hx (by simp) rfl)
  | @receive c sock m' buf x hs hc hbuf hx =>
    show m ∈ ((Function.update s.gateways sock.gw x g).chans ch).buf ∨
      Function.update s.writers c (.writing m') ch = .writing m
    by_cases hg : g = sock.gw
    · subst hg
      rw [Function.update_self]
      rcases Registry.mem_buf_step hx hm with hold | ⟨he, buf', hbuf'⟩
      · exact Or.inl hold
      · cases he
        obtain ⟨rfl, -⟩ := List.cons.inj (hbuf.symm.trans hbuf')
        exact Or.inr (Function.update_self ..)
    · rw [Function.update_of_ne hg]
      exact Or.inl hm
  | ack hs hc =>
    refine Or.inl ?_
    show m ∈ (((State.write ..).gateways g).chans ch).buf
    rw [write_gateways]
    exact hm
  | write hs hc =>
    refine Or.inl ?_
    show m ∈ (((State.write ..).gateways g).chans ch).buf
    rw [write_gateways]
    exact hm
  | _ => exact Or.inl hm

/-- A writer has taken its message from its channel. -/
theorem writing_of_step {s t : State ρ} {e : Event χ ε} (h : Step R addr s e t) {c : ConnId}
    {m : PersistedMessage} (hm : t.writers c = .writing m) :
    s.writers c = .writing m ∨ ∃ g, m ∈ ((s.gateways g).chans c).buf := by
  cases writerTurn h c with
  | same hsame => exact Or.inl (hsame ▸ hm)
  | started hs hx hnew =>
    rw [hnew] at hm
    cases hm
  | @received sock m' buf hs hc hbuf hnew =>
    rw [hnew] at hm
    cases hm
    refine Or.inr ⟨sock.gw, ?_⟩
    rw [hbuf]
    exact List.mem_cons_self
  | drained hs hc hclosed hempty hnew =>
    rw [hnew] at hm
    cases hm
  | @written m' arrives ok he hc hout hnew =>
    rw [hnew] at hm
    split at hm <;> cases hm

end Cluster

end TinyTelegram.Gateway
