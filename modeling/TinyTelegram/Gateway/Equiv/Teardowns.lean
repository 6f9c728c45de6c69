import Mathlib.Data.Set.Card
import TinyTelegram.Gateway.Equiv.Closes

/-!
# What teardowns leave behind

The channel in `connMap` is always that of a connection whose teardown is still to come, so when all
connections are torn down the registry is empty.  But a channel that another connection of the user has
replaced in `connMap` is never closed, since a teardown closes what it finds there: the writer goroutine
that ranges over it waits for good.  No other channel is left open, and whose teardown has closed one says
what that teardown found under its user (`torn_down`).

The metrics report `ConnCount` as the number of active connections.  It counts users, and a user only while
`connMap` has the user's entry; `connCount_le` says when that is the same.
-/

namespace TinyTelegram.Gateway

namespace Registry

/-- The channel has been made, is open, and is not in `connMap`. -/
structure Replaced (s : State) (ch : ConnId) : Prop where
  made : (s.conns ch).user? ≠ none
  isOpen : (s.chans ch).closedBy = none
  absent : ∀ u, s.connMap u ≠ some ch

/-- In the run of `es` a connection registers over the channel of another. -/
def Overwritten (es : List Event) (ch : ConnId) : Prop :=
  ∃ pre c u t, pre ++ [.register c u] <+: es ∧ registry.run registry.init pre = some t ∧
    t.connMap u = some ch

/-- In the run of `es` the teardown of the connection `c` finds the channel `ch` in `connMap` under its
user. -/
def ClosedBy (es : List Event) (c ch : ConnId) : Prop :=
  ∃ pre t, pre ++ [.unregister c] <+: es ∧ registry.run registry.init pre = some t ∧
    closes? t (.unregister c) = some ch

/-! ### `connMap` -/

/-- The teardown of a connection in `connMap` is still to come. -/
def Tended (s : State) : Prop := ∀ u ch, s.connMap u = some ch → ∀ v, s.conns ch ≠ .unregistered v

theorem Tended.congr {s t : State} (h : Tended s) (hmap : t.connMap = s.connMap)
    (hconns : ∀ c v, t.conns c = .unregistered v → s.conns c = .unregistered v) : Tended t := by
  intro u ch hch v hv
  rw [hmap] at hch
  exact h u ch hch v (hconns ch v hv)

/-- A connection that is torn down takes the entry of its user away. -/
theorem Tended.unregister {s t : State} (hinv : Inv s) (h : Tended s) {c : ConnId} {u : String}
    (hc : s.conns c = .closing u) (hmap : t.connMap = Function.update s.connMap u none)
    (hconns : t.conns = Function.update s.conns c (.unregistered u)) : Tended t := by
  intro u' ch hch v hv
  have hu' : u' ≠ u := by
    rintro rfl
    rw [hmap, Function.update_self] at hch
    cases hch
  rw [hmap, Function.update_of_ne hu'] at hch
  have hne : ch ≠ c := by
    rintro rfl
    have howner := hinv.owner u' ch hch
    rw [hc] at howner
    exact hu' (Option.some.inj howner).symm
  rw [hconns, Function.update_of_ne hne] at hv
  exact h u' ch hch v hv

theorem Tended.step {s t : State} {e : Event} (hinv : Inv s) (h : Tended s)
    (hstep : registry.step s e = some t) : Tended t := by
  obtain ⟨-, hstep⟩ := step_cases hstep
  -- a connection moves on, and is not torn down yet
  have hmove : ∀ {c : ConnId} {conn : Conn}, (∀ v, conn ≠ .unregistered v) → ∀ k v,
      Function.update s.conns c conn k = .unregistered v → s.conns k = .unregistered v := by
    intro c conn hconn k v hk
    by_cases hkc : k = c
    · subst hkc
      rw [Function.update_self] at hk
      exact absurd hk (hconn v)
    · rwa [Function.update_of_ne hkc] at hk
  cases hstep with
  | @register c u hc =>
    intro u' ch hch v hv
    have hne : ch ≠ c := by
      rintro rfl
      rw [State.setConn_conns, Function.update_self] at hv
      cases hv
    have hu' : u' ≠ u := by
      rintro rfl
      rw [State.setConn_connMap, registerConn_connMap, Function.update_self] at hch
      exact hne (Option.some.inj hch).symm
    rw [State.setConn_connMap, registerConn_connMap, Function.update_of_ne hu'] at hch
    rw [State.setConn_conns, Function.update_of_ne hne] at hv
    exact h u' ch hch v hv
  | hangUp hc hd => exact h.congr rfl (hmove fun v hv => by cases hv)
  | @unregisterNone c u hc hu =>
    have hmap : s.connMap = Function.update s.connMap u none := by
      rw [← hu, Function.update_eq_self]
    exact Tended.unregister hinv h hc hmap rfl
  | unregisterSome hc hu => exact Tended.unregister hinv h hc rfl rfl
  | @panic caller ch msg hd hclosed =>
    refine h.congr (unwind_connMap ..) fun c v hv => ?_
    rw [State.addPanic_conns] at hv
    unfold unwind at hv
    split at hv
    · split at hv
      · exact hmove (fun v hv => by cases hv) c v hv
      · exact hv
    · exact hv
  | _ => exact h.congr rfl fun _ _ hv => hv

theorem tended {s : State} (h : registry.Reachable s) : Tended s :=
  h.induction (I := Tended) (fun u ch hch => by cases hch)
    fun _ _ _ hs ih hstep => ih.step (inv hs) hstep

/-- Whose connection a channel in `connMap` is. -/
theorem conns_of_connMap {s : State} (h : registry.Reachable s) {u : String} {ch : ConnId}
    (hch : s.connMap u = some ch) : s.conns ch = .registered u ∨ s.conns ch = .closing u := by
  have huser := (inv h).owner u ch hch
  cases hc : s.conns ch with
  | fresh =>
    rw [hc] at huser
    cases huser
  | registered v =>
    rw [hc] at huser
    exact Or.inl (congrArg _ (Option.some.inj huser))
  | closing v =>
    rw [hc] at huser
    exact Or.inr (congrArg _ (Option.some.inj huser))
  | unregistered v => exact absurd hc (tended h u ch hch v)

/-! ### Replaced channels -/

theorem Replaced.congr_iff {s t : State} {ch : ConnId} (hmap : t.connMap = s.connMap)
    (huser : (t.conns ch).user? = (s.conns ch).user?)
    (hclosed : (t.chans ch).closedBy = (s.chans ch).closedBy) : Replaced t ch ↔ Replaced s ch := by
  constructor
  · rintro ⟨hmade, hopen, habsent⟩
    exact ⟨huser ▸ hmade, hclosed ▸ hopen, hmap ▸ habsent⟩
  · rintro ⟨hmade, hopen, habsent⟩
    exact ⟨huser ▸ hmade, hclosed ▸ hopen, hmap ▸ habsent⟩

/-- A connection registers: it replaces the channel that its user has in `connMap`. -/
theorem replaced_register {s : State} (hinv : Inv s) {c ch : ConnId} {u : String}
    (hc : s.conns c = .fresh) :
    Replaced ((registerConn s u c).setConn c (.registered u)) ch ↔
      Replaced s ch ∨ s.connMap u = some ch := by
  constructor
  · rintro ⟨hmade, hopen, habsent⟩
    have hne : ch ≠ c := by
      rintro rfl
      exact habsent u (by rw [State.setConn_connMap, registerConn_connMap, Function.update_self])
    rw [State.setConn_conns, Function.update_of_ne hne] at hmade
    by_cases hu : s.connMap u = some ch
    · exact Or.inr hu
    · refine Or.inl ⟨hmade, hopen, fun v hv => ?_⟩
      have hvu : v ≠ u := by
        rintro rfl
        exact hu hv
      apply habsent v
      rw [State.setConn_connMap, registerConn_connMap, Function.update_of_ne hvu, hv]
  · have hfresh : ∀ {v}, (s.conns c).user? ≠ some v := by
      intro v hv
      rw [hc] at hv
      cases hv
    rintro (⟨hmade, hopen, habsent⟩ | hu)
    · have hne : ch ≠ c := by
        rintro rfl
        rw [hc] at hmade
        exact hmade rfl
      refine ⟨?_, hopen, fun v hv => ?_⟩
      · rw [State.setConn_conns, Function.update_of_ne hne]
        exact hmade
      · rw [State.setConn_connMap, registerConn_connMap, Function.update_apply] at hv
        split_ifs at hv
        · exact hne (Option.some.inj hv).symm
        · exact habsent v hv
    · have howner := hinv.owner u ch hu
      have hne : ch ≠ c := by
        rintro rfl
        exact hfresh howner
      refine ⟨?_, hinv.mapOpen u ch hu, fun v hv => ?_⟩
      · rw [State.setConn_conns, Function.update_of_ne hne]
        show (s.conns ch).user? ≠ none
        rw [howner]
        exact Option.some_ne_none u
      · rw [State.setConn_connMap, registerConn_connMap, Function.update_apply] at hv
        split_ifs at hv with hvu
        · exact hne (Option.some.inj hv).symm
        · exact hvu (Option.some.inj ((hinv.owner v ch hv).symm.trans howner))

/-- **One event**: a channel is replaced by the registration of another connection of the user, and
remains so. -/
theorem replaced_step {s t : State} {e : Event} (hinv : Inv s) (hstep : registry.step s e = some t)
    (ch : ConnId) :
    Replaced t ch ↔ Replaced s ch ∨ ∃ c u, e = .register c u ∧ s.connMap u = some ch := by
  obtain ⟨-, hstep⟩ := step_cases hstep
  -- the user of a connection that moves on
  have huser : ∀ {c : ConnId} {conn : Conn}, conn.user? = (s.conns c).user? →
      (Function.update s.conns c conn ch).user? = (s.conns ch).user? := by
    intro c conn hconn
    rw [Function.update_apply]
    split_ifs with hk
    · rw [hk, hconn]
    · rfl
  -- a step that registers nobody, and leaves `connMap` and the closed channels alone
  have hframe : (∀ c u, e ≠ .register c u) → t.connMap = s.connMap →
      (t.conns ch).user? = (s.conns ch).user? → (t.chans ch).closedBy = (s.chans ch).closedBy →
      (Replaced t ch ↔ Replaced s ch ∨ ∃ c u, e = .register c u ∧ s.connMap u = some ch) := by
    intro he hmap hsame hclosed
    rw [Replaced.congr_iff hmap hsame hclosed]
    constructor
    · exact Or.inl
    · rintro (hs | ⟨c, u, heq, -⟩)
      · exact hs
      · exact absurd heq (he c u)
  cases hstep with
  | @register c u hc =>
    rw [replaced_register hinv hc]
    constructor
    · rintro (hs | hu)
      · exact Or.inl hs
      · exact Or.inr ⟨c, u, rfl, hu⟩
    · rintro (hs | ⟨c', u', heq, hu⟩)
      · exact Or.inl hs
      · obtain ⟨-, rfl⟩ := Event.register.inj heq
        exact Or.inr hu
  | hangUp hc hd => exact hframe (fun _ _ => Event.noConfusion) rfl (huser (by rw [hc]; rfl)) rfl
  | unregisterNone hc hu =>
    exact hframe (fun _ _ => Event.noConfusion) rfl (huser (by rw [hc]; rfl)) rfl
  | @unregisterSome c u k hc hu =>
    have hsame : (((s.drop u k c).setConn c (.unregistered u)).conns ch).user? =
        (s.conns ch).user? := huser (by rw [hc]; rfl)
    simp only [reduceCtorEq, false_and, exists_false, or_false]
    constructor
    · rintro ⟨hmade, hopen, habsent⟩
      rw [hsame] at hmade
      rw [State.setConn_chans, drop_closedBy] at hopen
      split_ifs at hopen with hk
      refine ⟨hmade, hopen, fun v hv => ?_⟩
      have hvu : v ≠ u := by
        rintro rfl
        exact hk (Option.some.inj (hv.symm.trans hu))
      apply habsent v
      rw [State.setConn_connMap, drop_connMap, Function.update_of_ne hvu, hv]
    · rintro ⟨hmade, hopen, habsent⟩
      refine ⟨by rwa [hsame], ?_, fun v hv => ?_⟩
      · rw [State.setConn_chans, drop_closedBy, if_neg, hopen]
        rintro rfl
        exact habsent u hu
      · rw [State.setConn_connMap, drop_connMap, Function.update_apply] at hv
        split_ifs at hv
        exact habsent v hv
  | deliver hd hopen hroom => exact hframe (fun _ _ => Event.noConfusion) rfl rfl (setBuf_closedBy ..)
  | panic hd hclosed =>
    refine hframe (fun _ _ => Event.noConfusion) (unwind_connMap ..) (unwind_user ..) ?_
    rw [State.addPanic_chans, unwind_chans]
    rfl
  | receive hbuf => exact hframe (fun _ _ => Event.noConfusion) rfl rfl (setBuf_closedBy ..)
  | _ => exact hframe (fun _ _ => Event.noConfusion) rfl rfl rfl

/-- A channel is replaced exactly if another connection has registered over it. -/
theorem replaced_iff_overwritten {es : List Event} {s : State}
    (h : registry.run registry.init es = some s) (ch : ConnId) :
    Replaced s ch ↔ Overwritten es ch := by
  refine registry.run_induction (motive := fun es s => Replaced s ch ↔ Overwritten es ch) ?_ ?_ h
  · constructor
    · intro hs
      exact absurd rfl hs.made
    · rintro ⟨pre, c, u, t, hpre, -⟩
      exact absurd (List.prefix_nil.mp hpre) (by simp)
  · intro es s e t hs ih hstep
    rw [replaced_step (inv ⟨es, hs⟩) hstep, ih]
    constructor
    · rintro (⟨pre, c, u, r, hpre, hr, hu⟩ | ⟨c, u, rfl, hu⟩)
      · exact ⟨pre, c, u, r, hpre.trans (List.prefix_append ..), hr, hu⟩
      · exact ⟨es, c, u, s, List.prefix_rfl, hs, hu⟩
    · rintro ⟨pre, c, u, r, hpre, hr, hu⟩
      rcases List.prefix_concat_iff.mp hpre with heq | hpre
      · obtain ⟨rfl, he⟩ := List.append_inj' heq rfl
        obtain rfl := List.singleton_injective he
        obtain rfl := Option.some.inj (hs.symm.trans hr)
        exact Or.inr ⟨c, u, rfl, hu⟩
      · exact Or.inl ⟨pre, c, u, r, hpre, hr, hu⟩

/-- The teardown that closes a channel is that of the connection whose `UnregisterConn` it is. -/
theorem closedBy_step {s t : State} {e : Event} (hinv : Inv s) (hstep : registry.step s e = some t)
    (c ch : ConnId) : (t.chans ch).closedBy = some c ↔
      e = .unregister c ∧ closes? s e = some ch ∨ (s.chans ch).closedBy = some c := by
  obtain ⟨-, hstep⟩ := step_cases hstep
  cases hstep with
  | unregisterNone hc hu => simp [closes?, hc, hu]
  | @unregisterSome k u ch' hc hu =>
    rw [State.setConn_chans, drop_closedBy]
    by_cases hch : ch = ch'
    · subst hch
      have hopen := hinv.mapOpen u ch hu
      simp [closes?, hc, hu, hopen]
    · simp [closes?, hc, hu, hch, Ne.symm hch]
  | deliver hd hopen hroom => simp
  | panic hd hclosed => simp
  | receive hbuf => simp
  | _ => simp [lookup, registerConn]

/-- Whose teardown has closed a channel. -/
theorem closedBy_iff {es : List Event} {s : State} (h : registry.run registry.init es = some s)
    (c ch : ConnId) : (s.chans ch).closedBy = some c ↔ ClosedBy es c ch := by
  refine registry.run_induction
    (motive := fun es s => (s.chans ch).closedBy = some c ↔ ClosedBy es c ch) ?_ ?_ h
  · constructor
    · intro hc
      cases hc
    · rintro ⟨pre, t, hpre, -⟩
      exact absurd (List.prefix_nil.mp hpre) (by simp)
  · intro es s e t hs ih hstep
    rw [closedBy_step (inv ⟨es, hs⟩) hstep, ih]
    constructor
    · rintro (⟨rfl, hcloses⟩ | ⟨pre, r, hpre, hr, hcloses⟩)
      · exact ⟨es, s, List.prefix_rfl, hs, hcloses⟩
      · exact ⟨pre, r, hpre.trans (List.prefix_append ..), hr, hcloses⟩
    · rintro ⟨pre, r, hpre, hr, hcloses⟩
      rcases List.prefix_concat_iff.mp hpre with heq | hpre
      · obtain ⟨rfl, he⟩ := List.append_inj' heq rfl
        obtain rfl := List.singleton_injective he
        obtain rfl := Option.some.inj (hs.symm.trans hr)
        exact Or.inl ⟨rfl, hcloses⟩
      · exact Or.inr ⟨pre, r, hpre, hr, hcloses⟩

/-- **What teardowns leave behind.**  The channels in `connMap` are those of connections that have not been
torn down, under their users; of the connections that have been torn down, a channel is still open exactly if
another connection has registered over it; and a channel is closed by the teardown of a connection exactly if
that has found it in `connMap`, be it its own or that of another connection of the user. -/
theorem torn_down {es : List Event} {s : State} (h : registry.run registry.init es = some s) :
    (∀ u ch, s.connMap u = some ch → s.conns ch = .registered u ∨ s.conns ch = .closing u) ∧
    (∀ u ch, s.conns ch = .unregistered u → ((s.chans ch).closedBy = none ↔ Overwritten es ch)) ∧
    ∀ c ch, (s.chans ch).closedBy = some c ↔ ClosedBy es c ch := by
  have hs : registry.Reachable s := ⟨es, h⟩
  refine ⟨fun u ch => conns_of_connMap hs, fun u ch hch => ?_, closedBy_iff h⟩
  rw [← replaced_iff_overwritten h]
  constructor
  · intro hopen
    refine ⟨?_, hopen, fun v hv => tended hs v ch hv u hch⟩
    rw [hch]
    exact Option.some_ne_none u
  · exact Replaced.isOpen

/-- Two tabs of Alice's, one after the other, and both are closed. -/
def twoTabsClosedRun : List Event :=
  [.register 0 "alice", .register 1 "alice", .hangUp 0, .unregister 0, .hangUp 1, .unregister 1]

/-- The channel of the first tab is never closed, and its teardown closes that of the second. -/
theorem torn_down_twoTabsClosedRun : ∃ s, registry.run registry.init twoTabsClosedRun = some s ∧
    s.conns 0 = .unregistered "alice" ∧ (s.chans 0).closedBy = none ∧
    Overwritten twoTabsClosedRun 0 ∧ ClosedBy twoTabsClosedRun 0 1 := by
  obtain ⟨s, hs, hconn, hopen, hclosed⟩ : ∃ s, registry.run registry.init twoTabsClosedRun = some s ∧
      s.conns 0 = .unregistered "alice" ∧ (s.chans 0).closedBy = none ∧
      (s.chans 1).closedBy = some 0 := ⟨_, rfl, rfl, rfl, rfl⟩
  obtain ⟨-, hleft, hwhose⟩ := torn_down hs
  exact ⟨s, hs, hconn, hopen, (hleft "alice" 0 hconn).mp hopen, (hwhose 0 1).mp hclosed⟩

/-! ### `ConnCount` -/

/-- `ConnCount`: the number of keys of `connMap`. -/
noncomputable def connCount (s : State) : ℕ := Set.ncard {u | s.connMap u ≠ none}

/-- The connections that have registered and are not torn down. -/
def active (s : State) : Set ConnId := {c | ∃ u, s.conns c = .registered u ∨ s.conns c = .closing u}

/-- There are only so many connections. -/
theorem made_finite {s : State} (h : registry.Reachable s) :
    {c | (s.conns c).user? ≠ none}.Finite := by
  refine Lts.System.invariant (I := fun s : State => {c | (s.conns c).user? ≠ none}.Finite) ?_ ?_ h
  · exact Set.Finite.subset Set.finite_empty fun c hc => hc rfl
  · intro s e t hs hstep
    -- the connection that registers is the only new one
    have hsub : {c | (t.conns c).user? ≠ none} ⊆
        {c | (s.conns c).user? ≠ none} ∪ {c | ∃ u, e = .register c u} := by
      intro c hc
      obtain ⟨u, hu⟩ := Option.ne_none_iff_exists'.mp hc
      rcases user?_step hstep hu with hold | hnew
      · left
        show (s.conns c).user? ≠ none
        rw [hold]
        exact Option.some_ne_none u
      · exact Or.inr ⟨u, hnew⟩
    refine (hs.union ?_).subset hsub
    cases e with
    | register k v =>
      refine (Set.finite_singleton k).subset ?_
      rintro c ⟨u, hu⟩
      exact (Event.register.inj hu).1.symm
    | _ => exact Set.Finite.subset Set.finite_empty fun c ⟨u, hu⟩ => by cases hu

/-- **What `ConnCount` counts**: at most the connections that are registered and not torn down, and all
of them exactly if each of them is the one that is in `connMap` under its user. -/
theorem connCount_le {s : State} (h : registry.Reachable s) :
    connCount s ≤ (active s).ncard ∧
    (connCount s = (active s).ncard ↔
      ∀ c u, s.conns c = .registered u ∨ s.conns c = .closing u → s.connMap u = some c) := by
  have hfinite : (active s).Finite := by
    refine (made_finite h).subset ?_
    rintro c ⟨u, hc | hc⟩
    · show (s.conns c).user? ≠ none
      rw [hc]
      exact Option.some_ne_none u
    · show (s.conns c).user? ≠ none
      rw [hc]
      exact Option.some_ne_none u
  -- a key of `connMap` goes with the connection that it leads to
  let f : String → ConnId := fun u => (s.connMap u).getD 0
  have hf : ∀ u, s.connMap u ≠ none → s.connMap u = some (f u) := by
    intro u hu
    obtain ⟨ch, hch⟩ := Option.ne_none_iff_exists'.mp hu
    show s.connMap u = some ((s.connMap u).getD 0)
    rw [hch]
    rfl
  have hinj : Set.InjOn f {u | s.connMap u ≠ none} := by
    intro u hu v hv heq
    have hu' := hf u hu
    rw [heq] at hu'
    have howner := (inv h).owner u _ hu'
    have howner' := (inv h).owner v _ (hf v hv)
    exact Option.some.inj (howner.symm.trans howner')
  have himage : f '' {u | s.connMap u ≠ none} ⊆ active s := by
    rintro _ ⟨u, hu, rfl⟩
    exact ⟨u, conns_of_connMap h (hf u hu)⟩
  have hcard : connCount s = (f '' {u | s.connMap u ≠ none}).ncard :=
    hinj.ncard_image.symm
  rw [hcard]
  refine ⟨Set.ncard_le_ncard himage hfinite, ?_, ?_⟩
  · intro heq c u hc
    have hsurj := Set.eq_of_subset_of_ncard_le himage heq.ge hfinite
    obtain ⟨v, hv, rfl⟩ : c ∈ f '' {u | s.connMap u ≠ none} := by
      rw [hsurj]
      exact ⟨u, hc⟩
    have hmap := hf v hv
    obtain rfl : v = u := by
      rcases conns_of_connMap h hmap with hreg | hclosing
      · rcases hc with hc | hc
        · exact Conn.registered.inj (hreg.symm.trans hc)
        · rw [hreg] at hc
          cases hc
      · rcases hc with hc | hc
        · rw [hclosing] at hc
          cases hc
        · exact Conn.closing.inj (hclosing.symm.trans hc)
    exact hmap
  · intro hall
    congr 1
    refine Set.Subset.antisymm himage ?_
    rintro c ⟨u, hc⟩
    have hmap := hall c u hc
    refine ⟨u, ?_, ?_⟩
    · show s.connMap u ≠ none
      rw [hmap]
      exact Option.some_ne_none c
    · show (s.connMap u).getD 0 = c
      rw [hmap]
      rfl

/-- Two tabs of one user are not counted twice. -/
theorem connCount_le_twoTabs : ∃ s,
    registry.run registry.init [.register 0 "alice", .register 1 "alice"] = some s ∧
    connCount s ≤ (active s).ncard ∧ connCount s ≠ (active s).ncard := by
  obtain ⟨s, hs, hconn, hmap⟩ : ∃ s,
      registry.run registry.init [.register 0 "alice", .register 1 "alice"] = some s ∧
      s.conns 0 = .registered "alice" ∧ s.connMap "alice" = some 1 := ⟨_, rfl, rfl, rfl⟩
  obtain ⟨hle, hiff⟩ := connCount_le ⟨_, hs⟩
  refine ⟨s, hs, hle, fun heq => ?_⟩
  have hfirst := hiff.mp heq 0 "alice" (Or.inl hconn)
  rw [hmap] at hfirst
  cases hfirst

end Registry

end TinyTelegram.Gateway
