import TinyTelegram.Gateway.Equiv.Registry

/-!
# Who closes a channel, and when

`UnregisterConn(userID)` closes the channel that is registered under the user at that moment, whoever
made it, and `close` of a closed channel is a panic.  `closes?` is the channel that an event closes.

A channel that is closed is taken out of `connMap`, where it was under one user only, and is never put
back, so it is open whenever it is closed (`no_double_close`).
-/

namespace TinyTelegram.Gateway

namespace Registry

/-- The channel that an event closes. -/
def closes? (s : State) : Event → Option ConnId
  | .unregister c =>
    match s.conns c with
    | .closing u => s.connMap u
    | _ => none
  | _ => none

/-- A channel is closed by the event that closes it, and stays closed. -/
theorem closed_step {s t : State} {e : Event} (h : registry.step s e = some t) (ch : ConnId) :
    (t.chans ch).closedBy ≠ none ↔ closes? s e = some ch ∨ (s.chans ch).closedBy ≠ none := by
  obtain ⟨-, hstep⟩ := step_cases h
  cases hstep with
  | unregisterNone hc hu => simp [closes?, hc, hu]
  | @unregisterSome c u k hc hu =>
    rw [State.setConn_chans, drop_closedBy]
    by_cases hch : ch = k
    · subst hch
      simp [closes?, hc, hu]
    · simp [closes?, hc, hu, hch, Ne.symm hch]
  | deliver hd hopen hroom => simp [closes?]
  | panic hd hclosed => simp [closes?]
  | receive hbuf => simp [closes?]
  | _ => simp [closes?, lookup, registerConn]

/-- The channel that an event closes is open. -/
theorem open_of_closes {s : State} (hinv : Inv s) {e : Event} {ch : ConnId}
    (h : closes? s e = some ch) : (s.chans ch).closedBy = none := by
  cases e with
  | unregister c =>
    simp only [closes?] at h
    split at h
    · exact hinv.mapOpen _ ch h
    · cases h
  | _ => cases h

/-- **No channel is closed twice.**  Whenever connections register and unregister, the channels in
`connMap` are open and each is there under one user, every channel that `UnregisterConn` closes is open
then, and none is closed a second time. -/
theorem no_double_close {es : List Event} {s : State} (h : registry.run registry.init es = some s) :
    (∀ u ch, s.connMap u = some ch →
      (s.chans ch).closedBy = none ∧ ∀ v, s.connMap v = some ch → v = u) ∧
    registry.Meets (fun s e => ∀ ch, closes? s e = some ch → (s.chans ch).closedBy = none)
      registry.init es ∧
    (registry.observe closes? registry.init es).Nodup := by
  have hinv := inv ⟨es, h⟩
  refine ⟨fun u ch hch => ⟨hinv.mapOpen u ch hch, fun v hv => ?_⟩, ?_, ?_⟩
  · exact Option.some.inj ((hinv.owner v ch hv).symm.trans (hinv.owner u ch hch))
  · intro pre e _ t _ ht _ ch hch
    exact open_of_closes (inv ⟨pre, ht⟩) hch
  · refine Lts.System.nodup_observe (M := fun s ch => (s.chans ch).closedBy ≠ none) ?_ ?_ h
    · intro s e t ch hs _ hch hclosed
      exact hclosed (open_of_closes (inv hs) hch)
    · intro s e t ch _ hstep hch
      exact (closed_step hstep ch).mpr hch

/-- Two tabs of Alice's and one of Bob's; the first tab that goes closes the channel of the second. -/
def threeTabsRun : List Event :=
  [.register 0 "alice", .register 1 "alice", .register 2 "bob", .hangUp 0, .unregister 0, .hangUp 1,
    .unregister 1, .hangUp 2, .unregister 2]

/-- Each channel is closed once at most, and that of the first tab never. -/
theorem no_double_close_threeTabsRun : ∃ s,
    registry.run registry.init threeTabsRun = some s ∧
    registry.observe closes? registry.init threeTabsRun = [1, 2] ∧
    (registry.observe closes? registry.init threeTabsRun).Nodup :=
  ⟨_, rfl, by decide, (@no_double_close threeTabsRun _ rfl).2.2⟩

end Registry

end TinyTelegram.Gateway
