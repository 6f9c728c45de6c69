import TinyTelegram.Gateway.Equiv.Registry

/-!
# Sends on closed channels

`DeliverLocal` releases `connMu` between looking a channel up and sending to it, and a teardown may
close the channel in between (`panics_lateSendRun`).

* `no_panic`: no send of a run panics if no teardown of the run closes a channel that a delivery in
  progress has looked up.
* `exists_panic`: if a teardown does, a send can panic.
-/

namespace TinyTelegram.Gateway

namespace Registry

/-- A teardown closes no channel that a delivery in progress has looked up. -/
def NotLookedUp (s : State) : Event → Prop
  | .unregister c =>
    ∀ u ch, s.conns c = .closing u → s.connMap u = some ch →
      ∀ caller msg, s.delivering caller ≠ some (ch, msg)
  | _ => True

/-- The channels that deliveries in progress have looked up are open, and no send has panicked. -/
def LookedUpOpen (s : State) : Prop :=
  (∀ caller ch msg, s.delivering caller = some (ch, msg) → (s.chans ch).closedBy = none) ∧
    s.panics = []

/-- **One step** that closes no looked-up channel. -/
theorem LookedUpOpen.step {s t : State} {e : Event} (hinv : Inv s) (h : LookedUpOpen s)
    (he : NotLookedUp s e) (hstep : registry.step s e = some t) : LookedUpOpen t := by
  obtain ⟨hlooked, hpanics⟩ := h
  obtain ⟨-, hstep⟩ := step_cases hstep
  cases hstep with
  | register hc => exact ⟨hlooked, hpanics⟩
  | hangUp hc hd => exact ⟨hlooked, hpanics⟩
  | unregisterNone hc hu => exact ⟨hlooked, hpanics⟩
  | @unregisterSome c u ch hc hu =>
    refine ⟨fun caller ch' msg hd => ?_, hpanics⟩
    have hne : ch' ≠ ch := by
      rintro rfl
      exact he u ch' hc hu caller msg hd
    rw [State.setConn_chans, drop_closedBy, if_neg hne]
    exact hlooked caller ch' msg hd
  | @lookup caller receiverID msg hready =>
    refine ⟨fun caller' ch' msg' hd => ?_, hpanics⟩
    rw [lookup, State.setDelivering_delivering, Function.update_apply] at hd
    rw [lookup, State.setDelivering_chans]
    split_ifs at hd with hcaller
    · obtain ⟨ch, hch, heq⟩ := Option.map_eq_some_iff.mp hd
      obtain ⟨rfl, -⟩ := Prod.mk.inj heq
      exact hinv.mapOpen receiverID ch hch
    · exact hlooked caller' ch' msg' hd
  | @deliver caller ch msg hd hopen hroom =>
    refine ⟨fun caller' ch' msg' hd' => ?_, hpanics⟩
    rw [State.setDelivering_delivering, Function.update_apply] at hd'
    rw [State.setDelivering_chans, setBuf_closedBy]
    split_ifs at hd'
    exact hlooked caller' ch' msg' hd'
  | @full caller ch msg hd hopen =>
    refine ⟨fun caller' ch' msg' hd' => ?_, hpanics⟩
    rw [State.setDelivering_delivering, Function.update_apply] at hd'
    split_ifs at hd'
    exact hlooked caller' ch' msg' hd'
  | @panic caller ch msg hd hclosed => exact absurd (hlooked caller ch msg hd) hclosed
  | @receive c m buf hbuf =>
    refine ⟨fun caller ch msg hd => ?_, hpanics⟩
    rw [setBuf_closedBy]
    exact hlooked caller ch msg hd

/-- **No send panics** in a run in which no teardown closes a channel that a delivery in progress has
looked up. -/
theorem no_panic {es : List Event} {s : State} (h : registry.run registry.init es = some s)
    (hlooked : registry.Meets NotLookedUp registry.init es) : s.panics = [] := by
  have hopen : LookedUpOpen s := by
    refine Lts.System.invariant_of_meets_with (C := NotLookedUp) (J := Inv)
      (fun {es t} ht _ => inv ⟨es, ht⟩) ?_ ?_ h hlooked
    · exact ⟨fun _ _ _ hd => (Option.some_ne_none _ hd.symm).elim, rfl⟩
    · intro s e t hinv hs he hstep
      exact hs.step hinv he hstep
  exact hopen.2

/-- **A teardown that closes a looked-up channel makes a panic possible**: the delivery only has to
go on. -/
theorem exists_panic {s t : State} {c : ConnId} (hstep : registry.step s (.unregister c) = some t)
    (hnot : ¬ NotLookedUp s (.unregister c)) :
    ∃ caller t', registry.step t (.send caller) = some t' ∧ t'.panics ≠ [] := by
  simp only [NotLookedUp, not_forall, not_not, exists_prop] at hnot
  obtain ⟨u, ch, hc, hu, caller, msg, hd⟩ := hnot
  obtain ⟨halive, hcases⟩ := step_cases hstep
  cases hcases with
  | unregisterNone hc' hu' =>
    obtain rfl := Conn.closing.inj (hc'.symm.trans hc)
    rw [hu] at hu'
    cases hu'
  | @unregisterSome _ u' ch' hc' hu' =>
    obtain rfl := Conn.closing.inj (hc'.symm.trans hc)
    obtain rfl := Option.some.inj (hu'.symm.trans hu)
    refine ⟨caller, finishSend caller (send ((s.drop u' ch' c).setConn c (.unregistered u')) ch' msg),
      ?_, ?_⟩
    · show (if s.crashed then none else stepAlive _ (.send caller)) = _
      rw [halive, if_neg Bool.false_ne_true, stepAlive, State.setConn_delivering, drop_delivering, hd,
        Option.map_some]
    · unfold send
      rw [State.setConn_chans, drop_closedBy, if_pos rfl, if_pos Option.isSome_some, finishSend,
        State.addPanic_panics]
      simp

/-- A peer gateway delivers to Alice, and then her tab is closed. -/
def deliveredRun : List Event :=
  [.register 0 "alice", .lookup (.rpc 0) "alice" ⟨"a", some ⟨"bob", "alice", "hi", 0⟩, 1, 1, 0⟩,
    .send (.rpc 0), .hangUp 0]

/-- The teardown comes when the delivery is over. -/
theorem no_panic_deliveredRun : ∃ s,
    registry.run registry.init (deliveredRun ++ [.unregister 0]) = some s ∧
    (s.chans 0).closedBy = some 0 ∧ (s.chans 0).buf.length = 1 ∧ s.panics = [] := by
  refine ⟨_, rfl, rfl, rfl,
    @no_panic (deliveredRun ++ [.unregister 0]) _ rfl (Lts.System.meets_concat.mpr ⟨?_, ?_⟩)⟩
  · refine Lts.System.Meets.of_forall fun t e he => ?_
    simp only [deliveredRun, List.mem_cons, List.not_mem_nil, or_false] at he
    rcases he with rfl | rfl | rfl | rfl <;> trivial
  · intro t _ ht _ u ch _ _ caller msg hd
    obtain rfl := Option.some.inj ht
    by_cases hcaller : caller = .rpc 0
    · subst hcaller
      cases hd
    · have hd' : Function.update (Function.update init.delivering (.rpc 0) (some (0, _))) (.rpc 0)
          none caller = some (ch, msg) := hd
      rw [Function.update_of_ne hcaller, Function.update_of_ne hcaller] at hd'
      cases hd'

/-- A peer gateway delivers to Alice while her tab is closed. -/
def lateSendRun : List Event :=
  [.register 0 "alice", .lookup (.rpc 0) "alice" ⟨"a", some ⟨"bob", "alice", "hi", 0⟩, 1, 1, 0⟩,
    .hangUp 0, .unregister 0, .send (.rpc 0)]

/-- **The send is on a closed channel**, and ends the process. -/
theorem panics_lateSendRun : ∃ s,
    registry.run registry.init lateSendRun = some s ∧ s.panics ≠ [] ∧ s.crashed = true :=
  ⟨_, rfl, by decide, rfl⟩

end Registry

end TinyTelegram.Gateway
