import TinyTelegram.Gateway.Presence

/-!
# Whether presence agrees with the connections

When no handler of a user is in setup or teardown and no command is in flight (`Quiet`), the presence
key should name a gateway with an open connection of the user, or be absent if there is none
(`Agrees`).  The key has one value for all connections, the last writer wins, and a teardown deletes
whatever is there:

* `not_agrees_reconnectRun`: the teardown of an old connection deletes the key of a new one on another
  gateway.
* `agrees`: in a run in which no teardown deletes the key of another connection, and no heartbeat that
  was under way sets a key that is no longer anyone's, presence agrees with the connections whenever
  they are quiet.
* `not_agrees_of_not_guarded`: each of the two makes presence wrong.

The invariant is `Inv`: a key names a gateway of a connection that is open or in teardown, whose own
`DEL` is still to come, and a user with an open connection has a key.
-/

namespace TinyTelegram.Gateway

namespace Presence

/-- No handler of `u` is in setup or teardown, and no command for its key is in flight. -/
def Quiet (s : State) (u : String) : Prop :=
  ∀ c conn, s.conns c = some conn → conn.user = u →
    conn.stage ≠ .registering ∧ conn.stage ≠ .closing ∧ s.heartbeats c ≠ .setting

/-- The presence of `u` is set exactly if `u` has an open connection, and then names a gateway that
has one. -/
def Agrees (s : State) (u : String) : Prop :=
  (s.getUserGateway u ≠ none ↔ ∃ c a, s.conns c = some ⟨u, a, .opened⟩) ∧
    ∀ a, s.getUserGateway u = some a → ∃ c, s.conns c = some ⟨u, a, .opened⟩

/-- The commands take effect, and no key expires. -/
def Reliable : Event → Prop
  | .set _ ok | .beat _ ok | .del _ ok => ok = true
  | .expire _ => False
  | _ => True

/-- Beside `Reliable`: a heartbeat sets the key only while a connection of the user with that address
has set its key and not deleted it, and a teardown deletes the key only while no other connection of
the user is open. -/
def Guarded (s : State) (e : Event) : Prop :=
  Reliable e ∧
    match e with
    | .beat c _ => ∀ conn, s.conns c = some conn →
      ∃ k, s.conns k = some ⟨conn.user, conn.addr, .opened⟩ ∨
        s.conns k = some ⟨conn.user, conn.addr, .closing⟩
    | .del c _ => ∀ conn, s.conns c = some conn →
      ∀ k a, k ≠ c → s.conns k ≠ some ⟨conn.user, a, .opened⟩
    | _ => True

/-! ### Steps -/

/-- The effects of an event in the state `s`. -/
inductive Step (s : State) : Event → State → Prop where
  | connect {c u a} (hc : s.conns c = none) :
      Step s (.connect c u a) (s.setConn c ⟨u, a, .registering⟩)
  | set {c u a ok} (hc : s.conns c = some ⟨u, a, .registering⟩) :
      Step s (.set c ok)
        (((s.registerUser u a ok).setConn c ⟨u, a, .opened⟩).setHeartbeat c .waiting)
  | tick {c} (hh : s.heartbeats c = .waiting) : Step s (.tick c) (s.setHeartbeat c .setting)
  | beat {c conn ok} (hh : s.heartbeats c = .setting) (hc : s.conns c = some conn) :
      Step s (.beat c ok) ((s.registerUser conn.user conn.addr ok).setHeartbeat c .waiting)
  | stop {c u a} (hc : s.conns c = some ⟨u, a, .opened⟩) :
      Step s (.stop c) (s.setConn c ⟨u, a, .closing⟩)
  | del {c u a ok} (hc : s.conns c = some ⟨u, a, .closing⟩) :
      Step s (.del c ok) ((s.unregisterUser u ok).setConn c ⟨u, a, .closed⟩)
  | exit {c} (hh : s.heartbeats c = .waiting) : Step s (.exit c) (s.setHeartbeat c .stopped)
  | expire {u} : Step s (.expire u) (s.unregisterUser u true)

/-- **Every step is one of the listed effects.** -/
theorem step_cases {s t : State} {e : Event} (h : presence.step s e = some t) : Step s e t := by
  cases e with
  | connect c u a =>
    simp only [presence, step] at h
    split at h
    · rename_i hc
      obtain rfl := Option.some.inj h
      exact .connect hc
    · cases h
  | set c ok =>
    simp only [presence, step] at h
    split at h
    · rename_i u a hc
      obtain rfl := Option.some.inj h
      exact .set hc
    · cases h
  | tick c =>
    simp only [presence, step] at h
    split at h
    · rename_i hh
      obtain rfl := Option.some.inj h
      exact .tick hh
    · cases h
  | beat c ok =>
    simp only [presence, step] at h
    split at h
    · rename_i conn hh hc
      obtain rfl := Option.some.inj h
      exact .beat hh hc
    · cases h
  | stop c =>
    simp only [presence, step] at h
    split at h
    · rename_i u a hc
      obtain rfl := Option.some.inj h
      exact .stop hc
    · cases h
  | del c ok =>
    simp only [presence, step] at h
    split at h
    · rename_i u a hc
      obtain rfl := Option.some.inj h
      exact .del hc
    · cases h
  | exit c =>
    simp only [presence, step] at h
    split at h
    · rename_i hh _
      obtain rfl := Option.some.inj h
      exact .exit hh
    · rename_i hh _
      obtain rfl := Option.some.inj h
      exact .exit hh
    · cases h
  | expire u =>
    obtain rfl := Option.some.inj h
    exact .expire

/-! ### The invariant -/

/-- What holds of presence in every state of a guarded run. -/
structure Inv (s : State) : Prop where
  /-- A key names a gateway of a connection that has set its key and not deleted it. -/
  named : ∀ u a, s.presence u = some a →
    ∃ c, s.conns c = some ⟨u, a, .opened⟩ ∨ s.conns c = some ⟨u, a, .closing⟩
  /-- A user with an open connection has a key. -/
  present : ∀ u c a, s.conns c = some ⟨u, a, .opened⟩ → s.presence u ≠ none

/-- The connection `k` of `u`, on a gateway with address `a`, has set its key and not deleted it. -/
def Live (s : State) (k : ConnId) (u a : String) : Prop :=
  s.conns k = some ⟨u, a, .opened⟩ ∨ s.conns k = some ⟨u, a, .closing⟩

/-- The connections after one of them has moved on. -/
theorem update_conns {s : State} {c k : ConnId} {conn x : Conn} :
    Function.update s.conns c (some conn) k = some x ↔
      k = c ∧ conn = x ∨ k ≠ c ∧ s.conns k = some x := by
  rw [Function.update_apply]
  by_cases hk : k = c
  · simp [hk]
  · simp [hk]

/-- A connection that moves on, without having set its key or while it keeps it, leaves the others
live. -/
theorem Live.update {s : State} {c k : ConnId} {conn : Conn} {u a : String} (h : Live s k u a)
    (hc : Live s c u a → conn = ⟨u, a, .opened⟩ ∨ conn = ⟨u, a, .closing⟩) :
    Function.update s.conns c (some conn) k = some ⟨u, a, .opened⟩ ∨
      Function.update s.conns c (some conn) k = some ⟨u, a, .closing⟩ := by
  by_cases hk : k = c
  · subst hk
    rw [Function.update_self, Option.some.injEq, Option.some.injEq]
    exact hc h
  · rw [Function.update_of_ne hk]
    exact h

/-- A step that leaves the keys alone, takes no key from a connection and opens none. -/
theorem Inv.congr {s t : State} (h : Inv s) (hpresence : t.presence = s.presence)
    (hlive : ∀ c u a, Live s c u a → Live t c u a)
    (hopened : ∀ c u a, t.conns c = some ⟨u, a, .opened⟩ → s.conns c = some ⟨u, a, .opened⟩) :
    Inv t where
  named u a ha := by
    rw [hpresence] at ha
    obtain ⟨c, hc⟩ := h.named u a ha
    exact ⟨c, hlive c u a hc⟩
  present u c a hc := by
    rw [hpresence]
    exact h.present u c a (hopened c u a hc)

/-- A `SET` that names a gateway of a live connection of the user. -/
theorem Inv.registerUser {s t : State} (h : Inv s) {u a : String}
    (hpresence : t.presence = Function.update s.presence u (some a)) (hset : ∃ c, Live t c u a)
    (hlive : ∀ c v b, Live s c v b → Live t c v b)
    (hopened : ∀ c v b, t.conns c = some ⟨v, b, .opened⟩ →
      v = u ∨ s.conns c = some ⟨v, b, .opened⟩) : Inv t where
  named v b hb := by
    rw [hpresence, Function.update_apply] at hb
    split_ifs at hb with hv
    · obtain rfl := Option.some.inj hb
      rw [hv]
      exact hset
    · obtain ⟨c, hc⟩ := h.named v b hb
      exact ⟨c, hlive c v b hc⟩
  present v c b hc := by
    rw [hpresence, Function.update_apply]
    split_ifs with hv
    · exact Option.some_ne_none a
    · exact h.present v c b ((hopened c v b hc).resolve_left hv)

theorem Inv.set {s : State} (h : Inv s) {c : ConnId} {u a : String}
    (hc : s.conns c = some ⟨u, a, .registering⟩) :
    Inv (((s.registerUser u a true).setConn c ⟨u, a, .opened⟩).setHeartbeat c .waiting) := by
  refine h.registerUser (u := u) (a := a) rfl ⟨c, Or.inl (Function.update_self ..)⟩ ?_ ?_
  · intro k v b hk
    refine hk.update fun hlive => ?_
    rcases hlive with hlive | hlive <;> rw [hc] at hlive <;> cases hlive
  · intro k v b hk
    rcases update_conns.mp hk with ⟨-, heq⟩ | ⟨-, hs⟩
    · exact Or.inl (congrArg Conn.user heq).symm
    · exact Or.inr hs

theorem Inv.del {s : State} (h : Inv s) {c : ConnId} {u a : String}
    (hc : s.conns c = some ⟨u, a, .closing⟩)
    (hother : ∀ k b, k ≠ c → s.conns k ≠ some ⟨u, b, .opened⟩) :
    Inv ((s.unregisterUser u true).setConn c ⟨u, a, .closed⟩) where
  named v b hb := by
    have hb' : Function.update s.presence u none v = some b := hb
    rw [Function.update_apply] at hb'
    split_ifs at hb' with hv
    obtain ⟨k, hk⟩ := h.named v b hb'
    refine ⟨k, Live.update (s := s) hk fun hlive => ?_⟩
    -- the connection that moves on is one of `u`
    rcases hlive with hlive | hlive
    all_goals
      rw [hc] at hlive
      exact absurd (congrArg Conn.user (Option.some.inj hlive)).symm hv
  present v k b hk := by
    show Function.update s.presence u none v ≠ none
    rcases update_conns.mp hk with ⟨-, heq⟩ | ⟨hkc, hs⟩
    · cases heq
    · have hv : v ≠ u := by
        rintro rfl
        exact hother k b hkc hs
      rw [Function.update_of_ne hv]
      exact h.present v k b hs

/-- **One guarded step** keeps the invariant. -/
theorem Inv.step {s t : State} {e : Event} (h : Inv s) (he : Guarded s e)
    (hstep : presence.step s e = some t) : Inv t := by
  obtain ⟨hreliable, hguard⟩ := he
  cases step_cases hstep with
  | @connect c u a hc =>
    refine h.congr rfl (fun k v b hk => hk.update fun hlive => ?_) fun k v b hk => ?_
    · rcases hlive with hlive | hlive <;> rw [hc] at hlive <;> cases hlive
    · rcases update_conns.mp hk with ⟨-, heq⟩ | ⟨-, hs⟩
      · cases heq
      · exact hs
  | @set c u a ok hc =>
    have hok : ok = true := hreliable
    subst hok
    exact h.set hc
  | tick hh => exact h.congr rfl (fun _ _ _ hk => hk) fun _ _ _ hk => hk
  | @beat c conn ok hh hc =>
    have hok : ok = true := hreliable
    subst hok
    exact h.registerUser (u := conn.user) (a := conn.addr) rfl (hguard conn hc) (fun _ _ _ hk => hk)
      fun _ _ _ hk => Or.inr hk
  | @stop c u a hc =>
    refine h.congr rfl (fun k v b hk => hk.update fun hlive => ?_) fun k v b hk => ?_
    · rcases hlive with hlive | hlive
      · rw [hc] at hlive
        cases hlive
        exact Or.inr rfl
      · rw [hc] at hlive
        cases hlive
    · rcases update_conns.mp hk with ⟨-, heq⟩ | ⟨-, hs⟩
      · cases heq
      · exact hs
  | @del c u a ok hc =>
    have hok : ok = true := hreliable
    subst hok
    exact h.del hc fun k b hkc => hguard _ hc k b hkc
  | exit hh => exact h.congr rfl (fun _ _ _ hk => hk) fun _ _ _ hk => hk
  | expire => exact hreliable.elim

/-! ### Runs -/

/-- **Presence agrees with the connections.**  In every run in which no key expires, commands take
effect, each heartbeat sets the key only while a connection of the user with that address has set its
key and not deleted it, and each teardown deletes the key only while no other connection of the user is
open: in every state reached in which no handler of `u` is in setup or teardown and no command for its
key is in flight, presence is set exactly if `u` has an open connection, and names a gateway that has
one. -/
theorem agrees {es : List Event} {s : State} (h : presence.run presence.init es = some s)
    (hguarded : presence.Meets Guarded presence.init es) (u : String) (hquiet : Quiet s u) :
    Agrees s u := by
  have hinv : Inv s := by
    refine Lts.System.invariant_of_meets ?_ ?_ h hguarded
    · constructor
      · intro u a ha
        cases ha
      · intro u c a hc
        cases hc
    · intro s e t hs he hstep
      exact hs.step he hstep
  have hnamed : ∀ a, s.presence u = some a → ∃ c, s.conns c = some ⟨u, a, .opened⟩ := by
    intro a ha
    obtain ⟨c, hc | hc⟩ := hinv.named u a ha
    · exact ⟨c, hc⟩
    · exact absurd rfl (hquiet c _ hc rfl).2.1
  refine ⟨⟨fun hne => ?_, ?_⟩, hnamed⟩
  · obtain ⟨a, ha⟩ := Option.ne_none_iff_exists'.mp hne
    obtain ⟨c, hc⟩ := hnamed a ha
    exact ⟨c, a, hc⟩
  · rintro ⟨c, a, hc⟩
    exact hinv.present u c a hc

/-- A connection that is not opened in a run does nothing. -/
theorem conns_eq_none {es : List Event} {s : State} (h : presence.run presence.init es = some s)
    {c : ConnId} (hc : ∀ u a, Event.connect c u a ∉ es) : s.conns c = none := by
  revert hc
  refine Lts.System.run_induction (S := presence)
    (motive := fun es s => (∀ u a, Event.connect c u a ∉ es) → s.conns c = none) (fun _ => rfl) ?_ h
  intro es s e t _ ih hstep hc
  have hs : s.conns c = none := ih fun u a hmem => hc u a (List.mem_append_left _ hmem)
  -- the connection that moves is another one, since it has been opened
  have hother : ∀ {k conn x}, s.conns k = some conn →
      Function.update s.conns k (some x) c = none := by
    intro k conn x hk
    have hne : c ≠ k := by
      rintro rfl
      rw [hs] at hk
      cases hk
    rw [Function.update_of_ne hne]
    exact hs
  cases step_cases hstep with
  | @connect k u a hk =>
    have hne : c ≠ k := by
      rintro rfl
      exact hc u a (List.mem_append_right _ (List.mem_singleton_self _))
    rw [State.setConn_conns, Function.update_of_ne hne]
    exact hs
  | set hk =>
    rw [State.setHeartbeat_conns, State.setConn_conns, State.registerUser_conns]
    exact hother hk
  | beat hh hk =>
    rw [State.setHeartbeat_conns, State.registerUser_conns]
    exact hs
  | stop hk => exact hother hk
  | del hk =>
    rw [State.setConn_conns, State.unregisterUser_conns]
    exact hother hk
  | tick hh => exact hs
  | exit hh => exact hs
  | expire =>
    rw [State.unregisterUser_conns]
    exact hs

/-- Alice opens a tab, and its teardown begins. -/
def closingRun : List Event := [.connect 0 "alice" "g1", .set 0 true, .stop 0]

/-- The teardown runs when no other connection of Alice's is open. -/
theorem agrees_closingRun : ∃ s,
    presence.run presence.init (closingRun ++ [.del 0 true]) = some s ∧ Agrees s "alice" := by
  refine ⟨_, rfl, @agrees (closingRun ++ [.del 0 true]) _ rfl
    (Lts.System.meets_concat.mpr ⟨?_, ?_⟩) "alice" ?_⟩
  · refine Lts.System.Meets.of_forall fun t e he => ?_
    simp only [closingRun, List.mem_cons, List.not_mem_nil, or_false] at he
    rcases he with rfl | rfl | rfl <;> exact ⟨by trivial, trivial⟩
  · intro t _ ht _
    refine ⟨rfl, fun conn _ k a hk hopen => ?_⟩
    rw [conns_eq_none ht fun u a hmem => by simp [closingRun, hk] at hmem] at hopen
    cases hopen
  · intro c conn hc _
    by_cases hc0 : c = 0
    · subst hc0
      obtain rfl := Option.some.inj hc
      exact ⟨by decide, by decide, by decide⟩
    · rw [@conns_eq_none (closingRun ++ [.del 0 true]) _ rfl c fun u a hmem => by
        simp [closingRun, hc0] at hmem] at hc
      cases hc

/-- **A step that is not guarded makes presence wrong** at once: the key it sets names a gateway
without a connection of the user, or the key it deletes was that of another one. -/
theorem not_agrees_of_not_guarded {s t : State} {e : Event} (hreliable : Reliable e)
    (hnot : ¬ Guarded s e) (hstep : presence.step s e = some t) : ∃ u, ¬ Agrees t u := by
  have hguard := not_and.mp hnot hreliable
  cases step_cases hstep with
  | @beat c conn ok hh hc =>
    have hok : ok = true := hreliable
    subst hok
    refine ⟨conn.user, fun hagrees => hguard fun conn' hc' => ?_⟩
    obtain rfl := Option.some.inj (hc.symm.trans hc')
    obtain ⟨k, hk⟩ := hagrees.2 conn.addr (Function.update_self ..)
    exact ⟨k, Or.inl hk⟩
  | @del c u a ok hc =>
    have hok : ok = true := hreliable
    subst hok
    refine ⟨u, fun hagrees => hguard fun conn hc' k b hkc hk => ?_⟩
    obtain rfl := Option.some.inj (hc.symm.trans hc')
    have hopen : Function.update s.conns c (some ⟨u, a, .closed⟩) k = some ⟨u, b, .opened⟩ := by
      rw [Function.update_of_ne hkc]
      exact hk
    exact hagrees.1.mpr ⟨k, b, hopen⟩ (Function.update_self ..)
  | expire => exact hreliable.elim
  | _ => exact absurd trivial hguard

/-- Alice reconnects on another gateway before the first one has noticed that she is gone. -/
def reconnectRun : List Event :=
  [.connect 0 "alice" "g1", .set 0 true, .connect 1 "alice" "g2", .set 1 true, .stop 0, .del 0 true]

/-- **The teardown of the old connection deletes the key of the new one.** -/
theorem not_agrees_reconnectRun : ∃ s,
    presence.run presence.init reconnectRun = some s ∧ (∀ e ∈ reconnectRun, Reliable e) ∧
    Quiet s "alice" ∧ ¬ Agrees s "alice" := by
  refine ⟨_, rfl, ?_, ?_, fun h => h.1.mpr ⟨1, "g2", rfl⟩ rfl⟩
  · intro e he
    simp only [reconnectRun, List.mem_cons, List.not_mem_nil, or_false] at he
    rcases he with rfl | rfl | rfl | rfl | rfl | rfl <;> trivial
  · intro c conn hc _
    by_cases hc0 : c = 0
    · subst hc0
      obtain rfl := Option.some.inj hc
      exact ⟨by decide, by decide, by decide⟩
    by_cases hc1 : c = 1
    · subst hc1
      obtain rfl := Option.some.inj hc
      exact ⟨by decide, by decide, by decide⟩
    rw [@conns_eq_none reconnectRun _ rfl c fun u a hmem => by
      simp [reconnectRun, hc0, hc1] at hmem] at hc
    cases hc

end Presence

end TinyTelegram.Gateway
