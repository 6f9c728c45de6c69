import TinyTelegram.Gateway.Equiv.Registry

/-!
# Whose channel is it

Lifetimes are per connection and `connMap` is per user: a connection that registers replaces the
channel of any other connection of the same user, and `UnregisterConn` closes whatever channel the user
has there.  So the first of two tabs that is closed closes the channel of the other one
(`not_owned_twoTabsRun`).

`Owned` says that teardowns keep to their own channel and that a user with a running read loop is
reachable on one.  `owned_iff` says when it holds throughout a run: a teardown may begin on the
registered connection of a user only if the user has no other running read loop, and may run only if no
other connection is registered.
-/

namespace TinyTelegram.Gateway

namespace Registry

/-- Teardowns have closed their own channels only, and every user with a running read loop has in
`connMap` an open channel of one. -/
structure Owned (s : State) : Prop where
  own : ∀ ch c, (s.chans ch).closedBy = some c → c = ch
  reachable : ∀ u c, s.conns c = .registered u →
    ∃ ch, s.connMap u = some ch ∧ (s.chans ch).closedBy = none ∧ s.conns ch = .registered u

/-- If the connection `c` is the registered one of its user, no other read loop of that user runs. -/
def Alone (s : State) (c : ConnId) : Prop :=
  ∀ u, s.conns c = .registered u → s.connMap u = some c → ∀ k, s.conns k = .registered u → k = c

/-- A teardown begins only on a connection that is not the registered one of its user or the only one
running, and runs only when no other connection of the user is registered. -/
def Exclusive (s : State) : Event → Prop
  | .hangUp c => Alone s c
  | .send (.readLoop c) =>
    ∀ ch msg, s.delivering (.readLoop c) = some (ch, msg) → (s.chans ch).closedBy ≠ none → Alone s c
  | .unregister c => ∀ u, s.conns c = .closing u → s.connMap u = none ∨ s.connMap u = some c
  | _ => True

/-! ### Steps -/

/-- A step that leaves `connMap`, the connections and the closed channels alone. -/
theorem Owned.congr {s t : State} (h : Owned s) (hmap : t.connMap = s.connMap)
    (hconns : t.conns = s.conns) (hclosed : ∀ c, (t.chans c).closedBy = (s.chans c).closedBy) :
    Owned t where
  own ch c hc := h.own ch c (hclosed ch ▸ hc)
  reachable u c hc := by
    rw [hconns] at hc
    obtain ⟨ch, hch, hopen, hreg⟩ := h.reachable u c hc
    exact ⟨ch, hmap ▸ hch, by rw [hclosed, hopen], by rw [hconns, hreg]⟩

theorem Owned.register {s : State} (h : Owned s) (hinv : Inv s) {c : ConnId} {u : String}
    (hc : s.conns c = .fresh) : Owned ((registerConn s u c).setConn c (.registered u)) where
  own := h.own
  reachable u' k hk := by
    by_cases hu : u' = u
    · subst hu
      refine ⟨c, ?_, hinv.freshOpen c hc, Function.update_self ..⟩
      rw [State.setConn_connMap, registerConn_connMap, Function.update_self]
    · have hkc : k ≠ c := by
        rintro rfl
        rw [State.setConn_conns, Function.update_self] at hk
        exact hu (Conn.registered.inj hk).symm
      rw [State.setConn_conns, Function.update_of_ne hkc] at hk
      obtain ⟨ch, hch, hopen, hreg⟩ := h.reachable u' k hk
      have hchc : ch ≠ c := by
        rintro rfl
        have hfresh : s.conns ch = .fresh := hc
        rw [hreg] at hfresh
        cases hfresh
      refine ⟨ch, ?_, hopen, ?_⟩
      · rw [State.setConn_connMap, registerConn_connMap, Function.update_of_ne hu]
        exact hch
      · rw [State.setConn_conns, Function.update_of_ne hchc]
        exact hreg

/-- A teardown that begins leaves its user reachable exactly if it is not on the registered connection
or there is no other one. -/
theorem owned_iff_alone {s t : State} (h : Owned s) {c : ConnId} {u : String}
    (hc : s.conns c = .registered u) (hmap : t.connMap = s.connMap)
    (hconns : t.conns = Function.update s.conns c (.closing u))
    (hclosed : ∀ k, (t.chans k).closedBy = (s.chans k).closedBy) : Owned t ↔ Alone s c := by
  constructor
  · intro ht u' hu' hmap' k hk
    obtain rfl := Conn.registered.inj (hu'.symm.trans hc)
    by_contra hne
    -- the other connection still runs, but `connMap` has the channel of this one
    have hk' : t.conns k = .registered u' := by
      rw [hconns, Function.update_of_ne hne]
      exact hk
    obtain ⟨ch, hch, -, hreg⟩ := ht.reachable u' k hk'
    rw [hmap, hmap'] at hch
    obtain rfl := Option.some.inj hch
    rw [hconns, Function.update_self] at hreg
    cases hreg
  · intro halone
    refine ⟨fun ch k hk => h.own ch k (hclosed ch ▸ hk), fun u' k hk => ?_⟩
    have hkc : k ≠ c := by
      rintro rfl
      rw [hconns, Function.update_self] at hk
      cases hk
    rw [hconns, Function.update_of_ne hkc] at hk
    obtain ⟨ch, hch, hopen, hreg⟩ := h.reachable u' k hk
    have hchc : ch ≠ c := by
      rintro rfl
      exact hkc (halone u' hreg hch k hk)
    exact ⟨ch, hmap ▸ hch, by rw [hclosed, hopen], by rw [hconns, Function.update_of_ne hchc, hreg]⟩

/-- A teardown that finds a channel in `connMap` must find its own. -/
theorem owned_iff_own {s : State} (h : Owned s) {c ch : ConnId} {u : String}
    (hc : s.conns c = .closing u) (hu : s.connMap u = some ch) :
    Owned ((s.drop u ch c).setConn c (.unregistered u)) ↔ ch = c := by
  constructor
  · intro ht
    have hclosed := ht.own ch c (by rw [State.setConn_chans, drop_closedBy, if_pos rfl])
    exact hclosed.symm
  · rintro rfl
    constructor
    · intro k c' hk
      rw [State.setConn_chans, drop_closedBy] at hk
      split_ifs at hk with hkc
      · rw [hkc]
        exact (Option.some.inj hk).symm
      · exact h.own k c' hk
    · intro u' k hk
      have hkc : k ≠ ch := by
        rintro rfl
        rw [State.setConn_conns, Function.update_self] at hk
        cases hk
      rw [State.setConn_conns, drop_conns, Function.update_of_ne hkc] at hk
      obtain ⟨ch', hch', hopen, hreg⟩ := h.reachable u' k hk
      have hne : ch' ≠ ch := by
        rintro rfl
        rw [hc] at hreg
        cases hreg
      have hu' : u' ≠ u := by
        rintro rfl
        exact hne (Option.some.inj (hch'.symm.trans hu))
      refine ⟨ch', ?_, ?_, ?_⟩
      · rw [State.setConn_connMap, drop_connMap, Function.update_of_ne hu']
        exact hch'
      · rw [State.setConn_chans, drop_closedBy, if_neg hne]
        exact hopen
      · rw [State.setConn_conns, drop_conns, Function.update_of_ne hne]
        exact hreg

/-- **One step** keeps the channels in order exactly when it is exclusive. -/
theorem owned_step {s t : State} {e : Event} (hinv : Inv s) (h : Owned s)
    (hstep : registry.step s e = some t) : Owned t ↔ Exclusive s e := by
  obtain ⟨-, hstep⟩ := step_cases hstep
  cases hstep with
  | register hc => exact iff_of_true (h.register hinv hc) trivial
  | hangUp hc hd => exact owned_iff_alone h hc rfl rfl fun _ => rfl
  | @unregisterNone c u hc hu =>
    refine iff_of_true ⟨h.own, fun u' k hk => ?_⟩ fun u' hc' => ?_
    · have hkc : k ≠ c := by
        rintro rfl
        rw [State.setConn_conns, Function.update_self] at hk
        cases hk
      rw [State.setConn_conns, Function.update_of_ne hkc] at hk
      obtain ⟨ch, hch, hopen, hreg⟩ := h.reachable u' k hk
      have hchc : ch ≠ c := by
        rintro rfl
        rw [hc] at hreg
        cases hreg
      exact ⟨ch, hch, hopen, by rw [State.setConn_conns, Function.update_of_ne hchc, hreg]⟩
    · obtain rfl := Conn.closing.inj (hc'.symm.trans hc)
      exact Or.inl hu
  | @unregisterSome c u ch hc hu =>
    rw [owned_iff_own h hc hu]
    constructor
    · rintro rfl u' hc'
      obtain rfl := Conn.closing.inj (hc'.symm.trans hc)
      exact Or.inr hu
    · intro hexclusive
      rcases hexclusive u hc with hnone | hsome
      · rw [hu] at hnone
        cases hnone
      · exact Option.some.inj (hu.symm.trans hsome)
  | lookup hready => exact iff_of_true (h.congr rfl rfl fun _ => rfl) trivial
  | @deliver caller ch msg hd hopen hroom =>
    refine iff_of_true (h.congr rfl rfl fun _ => setBuf_closedBy ..) ?_
    cases caller with
    | rpc n => trivial
    | readLoop c =>
      intro ch' msg' hd' hclosed
      obtain ⟨rfl, -⟩ := Prod.mk.inj (Option.some.inj (hd.symm.trans hd'))
      exact absurd hopen hclosed
  | @full caller ch msg hd hopen =>
    refine iff_of_true (h.congr rfl rfl fun _ => rfl) ?_
    cases caller with
    | rpc n => trivial
    | readLoop c =>
      intro ch' msg' hd' hclosed
      obtain ⟨rfl, -⟩ := Prod.mk.inj (Option.some.inj (hd.symm.trans hd'))
      exact absurd hopen hclosed
  | @panic caller ch msg hd hclosed =>
    cases caller with
    | rpc n => exact iff_of_true (h.congr rfl rfl fun _ => rfl) trivial
    | readLoop c =>
      obtain ⟨u, hu⟩ := hinv.busy c _ hd
      have hconns : ((unwind (s.setDelivering (.readLoop c) none) (.readLoop c)).addPanic
          (.readLoop c)).conns = Function.update s.conns c (.closing u) := by
        simp only [unwind, State.setDelivering_conns, hu]
        rfl
      rw [owned_iff_alone h hu (by simp) hconns fun _ => by simp]
      exact ⟨fun halone _ _ _ _ => halone, fun hexclusive => hexclusive ch msg hd hclosed⟩
  | receive hbuf => exact iff_of_true (h.congr rfl rfl fun _ => setBuf_closedBy ..) trivial

/-- **Ownership, exactly.**  Throughout a run teardowns close their own channels only, and every user
with a running read loop has an open channel of one in `connMap`, if and only if each teardown of the
run begins on a connection that is not the registered one of its user or is the only one running, and
runs when no other connection of the user is registered. -/
theorem owned_iff (es : List Event) :
    registry.Always Owned registry.init es ↔ registry.Meets Exclusive registry.init es := by
  apply Lts.System.always_iff_meets
  · constructor
    · intro ch c hc
      cases hc
    · intro u c hc
      cases hc
  · intro s e t hs h hstep
    exact owned_step (inv hs) h hstep

/-- Two tabs of Alice's, of which the first is closed. -/
def twoTabsRun : List Event :=
  [.register 0 "alice", .register 1 "alice", .hangUp 0, .unregister 0]

/-- **The teardown of the first tab closes the channel of the second**, which stays open and gets
nothing. -/
theorem not_owned_twoTabsRun : ∃ s,
    registry.run registry.init twoTabsRun = some s ∧ s.conns 1 = .registered "alice" ∧
    s.connMap "alice" = none ∧ ¬ Owned s :=
  ⟨_, rfl, rfl, rfl, fun h => absurd (h.own 1 0 rfl) (by decide)⟩

end Registry

end TinyTelegram.Gateway
