import TinyTelegram.Gateway.Equiv.Ttl

/-!
# Heartbeats that are not late

`agrees_of_prompt`: heartbeats that are not late keep the keys of the open connections, so that presence
agrees with the connections as it does when no key ever expires.  The time to live is long enough for a
`SET` to fail, if the others are not late by nearly a period.

The invariant is `Timely`: the key of an open connection outlives the moment at which the next tick is due, by
as many periods as there are `SET`s that may still fail.
-/

namespace TinyTelegram.Gateway

namespace Ttl

open Lts Presence

/-! ### Being on time -/

/-- The moment at which the tick is due, or was, that the heartbeat of `c` has not answered yet. -/
def State.due (s : State) (c : ConnId) : ℕ :=
  match s.base.heartbeats c with
  | .setting => s.taken c
  | _ => (s.ticks c).getD (s.nextTick c)

/-- The timers start within `latency`, each tick is answered by a `SET` within `lag` from when it was due as
long as the connection is open, and no more than `misses` of them in a row fail. -/
def Prompt (misses latency lag : ℕ) (s : State) : Event → Prop
  | .set _ _ l => l ≤ latency
  | .beat c ok => ok = false → s.misses c < misses
  | .elapse d => ∀ c u a, s.base.conns c = some ⟨u, a, .opened⟩ → s.now + d ≤ s.due c + lag
  | _ => True

/-- As in `Presence`, but heartbeats may fail. -/
def Guarded (s : State) : Event → Prop
  | .beat _ false => True
  | e => ∀ e', e.base? = some e' → Presence.Guarded s.base e'

/-- The connection `c` of `u` is on time: its heartbeat has one tick to answer at most, which is late by `lag`
at most, and its key outlives the tick by `lag`, and by a period for each `SET` that may still fail. -/
structure Timely (misses lag : ℕ) (s : State) (c : ConnId) (u : String) : Prop where
  onTime : s.now ≤ s.due c + lag
  beats : s.base.heartbeats c = .setting ∧ s.ticks c = none ∧
      s.nextTick c = s.taken c + heartbeatInterval ∧ s.taken c ≤ s.now ∨
    s.base.heartbeats c = .waiting ∧
      ∀ due, s.ticks c = some due → s.nextTick c = due + heartbeatInterval ∧ due ≤ s.now
  misses_le : s.misses c ≤ misses
  expires : s.due c + heartbeatInterval * (misses - s.misses c) + lag ≤ s.expires u

theorem due_setting {s : State} {c : ConnId} (h : s.base.heartbeats c = .setting) : s.due c = s.taken c := by
  unfold State.due
  rw [h]

theorem due_waiting {s : State} {c : ConnId} (h : s.base.heartbeats c = .waiting) :
    s.due c = (s.ticks c).getD (s.nextTick c) := by
  unfold State.due
  rw [h]

theorem due_congr {s t : State} {c : ConnId} (hheartbeats : t.base.heartbeats c = s.base.heartbeats c)
    (hticks : t.ticks c = s.ticks c) (hnextTick : t.nextTick c = s.nextTick c)
    (htaken : t.taken c = s.taken c) : t.due c = s.due c := by
  unfold State.due
  rw [hheartbeats, hticks, hnextTick, htaken]

/-- What does not touch a connection leaves it on time. -/
theorem Timely.congr {misses lag : ℕ} {s t : State} {c : ConnId} {u : String}
    (h : Timely misses lag s c u) (hheartbeats : t.base.heartbeats c = s.base.heartbeats c)
    (hticks : t.ticks c = s.ticks c) (hnextTick : t.nextTick c = s.nextTick c)
    (htaken : t.taken c = s.taken c) (hmisses : t.misses c = s.misses c) (hle : s.now ≤ t.now)
    (hnow : t.now ≤ s.due c + lag) (hexpires : s.expires u ≤ t.expires u) : Timely misses lag t c u := by
  have hdue := due_congr hheartbeats hticks hnextTick htaken
  refine ⟨hdue ▸ hnow, ?_, hmisses ▸ h.misses_le, ?_⟩
  · rw [hheartbeats, hticks, hnextTick, htaken]
    rcases h.beats with ⟨hh, hnone, hnext, htaken⟩ | ⟨hh, htick⟩
    · exact .inl ⟨hh, hnone, hnext, htaken.trans hle⟩
    · exact .inr ⟨hh, fun due hdue => ⟨(htick due hdue).1, (htick due hdue).2.trans hle⟩⟩
  · rw [hdue, hmisses]
    exact h.expires.trans hexpires

/-- A timer of an open connection ticks. -/
theorem Timely.sendTick {misses lag : ℕ} {s : State} {c : ConnId} {u : String}
    (h : Timely misses lag s c u) (hlag : lag < heartbeatInterval) (hn : s.nextTick c ≤ s.now) :
    Timely misses lag (s.sendTick c) c u := by
  have honTime := h.onTime
  rcases h.beats with ⟨hh, -, hnext, -⟩ | ⟨hh, htick⟩
  · -- the tick that is being answered would be late by a whole period
    rw [due_setting hh] at honTime
    omega
  · rw [due_waiting hh] at honTime
    cases ht : s.ticks c with
    | some due =>
      have hnext := (htick due ht).1
      rw [ht, Option.getD_some] at honTime
      omega
    | none =>
      rw [ht, Option.getD_none] at honTime
      have hskip : (s.now - s.nextTick c) / heartbeatInterval = 0 := Nat.div_eq_of_lt (by omega)
      have hticks : (s.sendTick c).ticks c = some (s.nextTick c) := by
        show Function.update s.ticks c _ c = _
        rw [Function.update_self, ht, Option.getD_none]
      have hnext : (s.sendTick c).nextTick c = s.nextTick c + heartbeatInterval := by
        show Function.update s.nextTick c _ c = _
        rw [Function.update_self, hskip, Nat.add_zero, Nat.mul_one]
      have hdue : (s.sendTick c).due c = s.due c := by
        rw [due_waiting (s := s.sendTick c) hh, hticks, Option.getD_some, due_waiting hh, ht,
          Option.getD_none]
      refine ⟨hdue ▸ h.onTime, .inr ⟨hh, fun due hd => ?_⟩, h.misses_le, hdue ▸ h.expires⟩
      rw [hticks] at hd
      obtain rfl := Option.some.inj hd
      exact ⟨hnext, hn⟩

/-- The heartbeat of an open connection takes a tick. -/
theorem Timely.takeTick {misses lag : ℕ} {s : State} {b : Presence.State} {c : ConnId} {u : String}
    {due : ℕ} (h : Timely misses lag s c u) (ht : s.ticks c = some due)
    (hwaiting : s.base.heartbeats c = .waiting) (hsetting : b.heartbeats c = .setting) :
    Timely misses lag ((s.setBase b).takeTick c due) c u := by
  have htaken : ((s.setBase b).takeTick c due).taken c = due := Function.update_self ..
  have hdue : ((s.setBase b).takeTick c due).due c = s.due c := by
    rw [due_setting (s := (s.setBase b).takeTick c due) hsetting, htaken, due_waiting hwaiting, ht,
      Option.getD_some]
  refine ⟨hdue ▸ h.onTime, .inl ⟨hsetting, Function.update_self .., ?_⟩, h.misses_le, hdue ▸ h.expires⟩
  rw [htaken]
  rcases h.beats with ⟨hh, -⟩ | ⟨-, htick⟩
  · rw [hwaiting] at hh
    cases hh
  · exact htick due ht

/-- The heartbeat of an open connection answers its tick, or fails to. -/
theorem Timely.beat {misses latency lag : ℕ} {s : State} {b : Presence.State} {c : ConnId} {conn : Conn}
    {ok : Bool} (h : Timely misses lag s c conn.user)
    (hK : heartbeatInterval * (misses + 1) + latency + lag ≤ presenceTTL)
    (hmisses : ok = false → s.misses c < misses) (hsetting : s.base.heartbeats c = .setting)
    (hwaiting : b.heartbeats c = .waiting) (hc : b.conns c = some conn) :
    Timely misses lag ((s.setBase b).renew c ok) c conn.user := by
  have honTime := h.onTime
  have hexpires := h.expires
  rw [due_setting hsetting] at honTime hexpires
  obtain ⟨hnone, hnext, htaken⟩ : s.ticks c = none ∧ s.nextTick c = s.taken c + heartbeatInterval ∧
      s.taken c ≤ s.now := by
    rcases h.beats with ⟨-, hbeats⟩ | ⟨hh, -⟩
    · exact hbeats
    · rw [hsetting] at hh
      cases hh
  have hbase : ((s.setBase b).renew c ok).base.heartbeats c = .waiting := by
    rw [renew_base]
    exact hwaiting
  have hticks : ((s.setBase b).renew c ok).ticks c = none := by
    rw [renew_ticks]
    exact hnone
  have hdue : ((s.setBase b).renew c ok).due c = s.taken c + heartbeatInterval := by
    rw [due_waiting hbase, hticks, Option.getD_none, renew_nextTick]
    exact hnext
  have hcount : ((s.setBase b).renew c ok).misses c = if ok then 0 else s.misses c + 1 := by
    unfold State.renew
    rw [show (s.setBase b).base.conns c = some conn from hc]
    exact Function.update_self ..
  refine ⟨?_, .inr ⟨hbase, fun due hd => ?_⟩, ?_, ?_⟩
  · rw [hdue, renew_now]
    show s.now ≤ _
    omega
  · rw [hticks] at hd
    cases hd
  · rw [hcount]
    cases ok with
    | true => exact Nat.zero_le _
    | false => exact hmisses rfl
  · rw [hdue, hcount, renew_expires hc]
    cases ok with
    | true =>
      rw [if_pos rfl, if_pos rfl, Function.update_self, Nat.sub_zero]
      show _ ≤ s.now + presenceTTL
      rw [Nat.mul_succ] at hK
      omega
    | false =>
      -- one period fewer to lose, and the next tick is one period on
      have hlt := hmisses rfl
      have hperiod : heartbeatInterval * (misses - s.misses c) =
          heartbeatInterval * (misses - (s.misses c + 1)) + heartbeatInterval := by
        rw [← Nat.mul_succ]
        congr 1
        omega
      rw [if_neg Bool.false_ne_true, if_neg Bool.false_ne_true]
      show _ ≤ s.expires conn.user
      omega

/-- A connection is set up. -/
theorem Timely.set {misses latency lag l : ℕ} {s : State} {b : Presence.State} {c : ConnId} {conn : Conn}
    (hK : heartbeatInterval * (misses + 1) + latency + lag ≤ presenceTTL) (hl : l ≤ latency)
    (hwaiting : b.heartbeats c = .waiting) (hc : b.conns c = some conn) :
    Timely misses lag (((s.setBase b).renew c true).startTicker c l) c conn.user := by
  have hbase : (((s.setBase b).renew c true).startTicker c l).base.heartbeats c = .waiting := by
    show ((s.setBase b).renew c true).base.heartbeats c = _
    rw [renew_base]
    exact hwaiting
  have hticks : (((s.setBase b).renew c true).startTicker c l).ticks c = none := Function.update_self ..
  have hnow : (((s.setBase b).renew c true).startTicker c l).now = s.now := renew_now ..
  have hdue : (((s.setBase b).renew c true).startTicker c l).due c = s.now + l + heartbeatInterval := by
    rw [due_waiting hbase, hticks, Option.getD_none]
    show Function.update ((s.setBase b).renew c true).nextTick c
      (((s.setBase b).renew c true).now + l + heartbeatInterval) c = _
    rw [Function.update_self, renew_now]
    rfl
  have hcount : (((s.setBase b).renew c true).startTicker c l).misses c = 0 := by
    show ((s.setBase b).renew c true).misses c = 0
    unfold State.renew
    rw [show (s.setBase b).base.conns c = some conn from hc]
    exact Function.update_self ..
  refine ⟨?_, .inr ⟨hbase, fun due hd => ?_⟩, ?_, ?_⟩
  · rw [hdue, hnow]
    omega
  · rw [hticks] at hd
    cases hd
  · rw [hcount]
    exact Nat.zero_le _
  · rw [hdue, hcount, Nat.sub_zero]
    show _ ≤ ((s.setBase b).renew c true).expires conn.user
    rw [renew_expires hc, if_pos rfl, Function.update_self]
    show _ ≤ s.now + presenceTTL
    rw [Nat.mul_succ] at hK
    omega

/-! ### Runs -/

/-- What holds in every state of a run with prompt heartbeats. -/
structure Inv (misses lag : ℕ) (s : State) : Prop where
  base : Presence.Inv s.base
  timely : ∀ c u a, s.base.conns c = some ⟨u, a, .opened⟩ → Timely misses lag s c u

/-- No step brings the end of a key forward. -/
theorem expires_le {s t : State} {e : Event} (h : Step s e t) (hbounded : Bounded s) (u : String) :
    s.expires u ≤ t.expires u := by
  cases keys_of_step h with
  | set v a hset hexpires hpresence hnow =>
    rw [hexpires, Function.update_apply]
    split_ifs
    · exact hbounded.expires_le u
    · exact le_rfl
  | other hset hexpires hpresence hnow => exact le_of_eq (congrFun hexpires u).symm

/-- A heartbeat ends only when its connection is no longer open. -/
theorem exit_closed {b b' : Presence.State} {c : ConnId} (h : presence.step b (.exit c) = some b')
    (u a : String) : b.conns c ≠ some ⟨u, a, .opened⟩ := by
  intro hc
  simp only [presence, Presence.step, hc] at h
  split at h
  · rename_i heq
    cases heq
  · rename_i heq
    cases heq
  · cases h

/-- The keys of users without an open connection may go. -/
theorem inv_of_fewer {b b' : Presence.State} (h : Presence.Inv b) (hconns : b'.conns = b.conns)
    (hfewer : ∀ u a, b'.presence u = some a → b.presence u = some a)
    (hopened : ∀ u c a, b.conns c = some ⟨u, a, .opened⟩ → b'.presence u = b.presence u) :
    Presence.Inv b' where
  named u a ha := by
    rw [hconns]
    exact h.named u a (hfewer u a ha)
  present u c a hc := by
    rw [hconns] at hc
    rw [hopened u c a hc]
    exact h.present u c a hc

/-- **One step of a prompt run** keeps the invariant. -/
theorem Inv.step {misses latency lag : ℕ} {s t : State} {e : Event} (h : Inv misses lag s)
    (hbounded : Bounded s) (hlag : lag < heartbeatInterval)
    (hK : heartbeatInterval * (misses + 1) + latency + lag ≤ presenceTTL) (hguarded : Guarded s e)
    (hprompt : Prompt misses latency lag s e) (hstep : Step s e t) : Inv misses lag t := by
  have hexpires := expires_le hstep hbounded
  -- the other connections stay as they are
  have hother : ∀ {k : ConnId} {u : String}, Timely misses lag s k u →
      t.base.heartbeats k = s.base.heartbeats k → t.ticks k = s.ticks k →
      t.nextTick k = s.nextTick k → t.taken k = s.taken k → t.misses k = s.misses k → t.now = s.now →
      Timely misses lag t k u := fun hk hheartbeats hticks hnextTick htaken hmisses hnow =>
    hk.congr hheartbeats hticks hnextTick htaken hmisses hnow.ge (hnow ▸ hk.onTime) (hexpires _)
  have hrenew : ∀ {b : Presence.State} {c k : ConnId} {ok : Bool}, k ≠ c →
      ((s.setBase b).renew c ok).misses k = s.misses k := by
    intro b c k ok hk
    unfold State.renew
    split
    · rfl
    · exact Function.update_of_ne hk ..
  cases hstep with
  | @connect c u a b hb =>
    refine ⟨h.base.step (hguarded _ rfl) hb, fun k v a' hk => ?_⟩
    cases Presence.step_cases hb with
    | connect hc =>
      rcases update_conns.mp hk with ⟨-, heq⟩ | ⟨-, hs⟩
      · cases heq
      · exact hother (h.timely k v a' hs) rfl rfl rfl rfl rfl rfl
  | @set c ok l b hb =>
    have hg := hguarded _ rfl
    refine ⟨?_, fun k v a' hk => ?_⟩
    · show Presence.Inv ((s.setBase b).renew c ok).base
      rw [renew_base]
      exact h.base.step hg hb
    · change ((s.setBase b).renew c ok).base.conns k = _ at hk
      rw [renew_base] at hk
      have hok : ok = true := hg.1
      subst hok
      cases Presence.step_cases hb with
      | @set _ u a _ hc =>
        rcases update_conns.mp hk with ⟨rfl, heq⟩ | ⟨hkc, hs⟩
        · obtain ⟨rfl, rfl⟩ : u = v ∧ a = a' := by simpa using heq
          exact Timely.set hK hprompt (Function.update_self ..) hk
        · change s.base.conns k = _ at hs
          refine hother (h.timely k v a' hs) ?_ ?_ ?_ ?_ ?_ ?_
          · show (State.renew _ c true).base.heartbeats k = _
            rw [renew_base]
            exact Function.update_of_ne hkc ..
          · show Function.update (State.renew _ c true).ticks c none k = _
            rw [Function.update_of_ne hkc, renew_ticks]
            rfl
          · show Function.update (State.renew _ c true).nextTick c _ k = _
            rw [Function.update_of_ne hkc, renew_nextTick]
            rfl
          · show (State.renew _ c true).taken k = _
            rw [renew_taken]
            rfl
          · exact hrenew hkc
          · show (State.renew _ c true).now = _
            rw [renew_now]
            rfl
  | @fire c hh hn =>
    refine ⟨h.base, fun k v a' hk => ?_⟩
    by_cases hkc : k = c
    · subst hkc
      exact (h.timely k v a' hk).sendTick hlag hn
    · exact hother (h.timely k v a' hk) rfl (Function.update_of_ne hkc ..) (Function.update_of_ne hkc ..)
        rfl rfl rfl
  | @tick c due b ht hb =>
    refine ⟨h.base.step (hguarded _ rfl) hb, fun k v a' hk => ?_⟩
    cases Presence.step_cases hb with
    | tick hh =>
      by_cases hkc : k = c
      · subst hkc
        exact (h.timely k v a' hk).takeTick ht hh (Function.update_self ..)
      · exact hother (h.timely k v a' hk) (Function.update_of_ne hkc ..) (Function.update_of_ne hkc ..) rfl
          (Function.update_of_ne hkc ..) rfl rfl
  | @beat c ok b hb =>
    constructor
    · rw [renew_base]
      cases ok with
      | true => exact h.base.step (hguarded _ rfl) hb
      | false =>
        cases Presence.step_cases hb with
        | beat hh hc => exact h.base.congr rfl (fun _ _ _ hk => hk) fun _ _ _ hk => hk
    · intro k v a' hk
      rw [renew_base] at hk
      cases Presence.step_cases hb with
      | @beat _ conn _ hh hc =>
        have hk' : s.base.conns k = some ⟨v, a', .opened⟩ := by
          change ((s.base.registerUser conn.user conn.addr ok).setHeartbeat c .waiting).conns k = _ at hk
          rw [State.setHeartbeat_conns, State.registerUser_conns] at hk
          exact hk
        by_cases hkc : k = c
        · subst hkc
          obtain rfl := Option.some.inj (hc.symm.trans hk')
          exact (h.timely k v a' hk').beat hK hprompt hh (Function.update_self ..) hk
        · refine hother (h.timely k v a' hk') ?_ ?_ ?_ ?_ (hrenew hkc) ?_
          · rw [renew_base]
            show Function.update (s.base.registerUser conn.user conn.addr ok).heartbeats c _ k = _
            rw [Function.update_of_ne hkc]
            unfold Presence.State.registerUser
            split_ifs <;> rfl
          · rw [renew_ticks]
            rfl
          · rw [renew_nextTick]
            rfl
          · rw [renew_taken]
            rfl
          · rw [renew_now]
            rfl
  | @stop c b hb =>
    refine ⟨h.base.step (hguarded _ rfl) hb, fun k v a' hk => ?_⟩
    cases Presence.step_cases hb with
    | stop hc =>
      rcases update_conns.mp hk with ⟨-, heq⟩ | ⟨-, hs⟩
      · cases heq
      · exact hother (h.timely k v a' hs) rfl rfl rfl rfl rfl rfl
  | @del c ok b hb =>
    have hg := hguarded _ rfl
    refine ⟨h.base.step hg hb, fun k v a' hk => ?_⟩
    have hok : ok = true := hg.1
    subst hok
    cases Presence.step_cases hb with
    | del hc =>
      rcases update_conns.mp hk with ⟨-, heq⟩ | ⟨-, hs⟩
      · cases heq
      · exact hother (h.timely k v a' hs) rfl rfl rfl rfl rfl rfl
  | @exit c b hb =>
    refine ⟨h.base.step (hguarded _ rfl) hb, fun k v a' hk => ?_⟩
    have hclosed := exit_closed hb
    cases Presence.step_cases hb with
    | exit hh =>
      have hkc : k ≠ c := by
        rintro rfl
        exact hclosed v a' hk
      exact hother (h.timely k v a' hk) (Function.update_of_ne hkc ..) rfl rfl rfl rfl rfl
  | @elapse d =>
    have hlate : ∀ c u a, s.base.conns c = some ⟨u, a, .opened⟩ → s.now + d ≤ s.expires u := by
      intro c u a hc
      have hexpires := (h.timely c u a hc).expires
      have hdue := hprompt c u a hc
      omega
    constructor
    · refine inv_of_fewer h.base rfl (fun u a ha => ?_) fun u c a hc => if_neg (not_lt.mpr (hlate c u a hc))
      change (if s.expires u < s.now + d then none else s.base.presence u) = some a at ha
      split_ifs at ha
      exact ha
    · intro k v a' hk
      exact (h.timely k v a' hk).congr rfl rfl rfl rfl rfl (Nat.le_add_right ..) (hprompt k v a' hk) le_rfl

/-- A command opens no connection but its own. -/
theorem conns_step {b b' : Presence.State} {e : Presence.Event} (h : presence.step b e = some b')
    {c : ConnId} (hc : b.conns c = none) (he : ∀ u a, e ≠ .connect c u a) : b'.conns c = none := by
  have hother : ∀ {k : ConnId} {conn x : Conn}, b.conns k = some conn →
      Function.update b.conns k (some x) c = none := by
    intro k conn x hk
    have hne : c ≠ k := by
      rintro rfl
      rw [hc] at hk
      cases hk
    rw [Function.update_of_ne hne]
    exact hc
  cases Presence.step_cases h with
  | @connect k u a hk =>
    have hne : c ≠ k := by
      rintro rfl
      exact he u a rfl
    show Function.update b.conns k _ c = none
    rw [Function.update_of_ne hne]
    exact hc
  | set hk =>
    rw [State.setHeartbeat_conns, State.setConn_conns, State.registerUser_conns]
    exact hother hk
  | beat hh hk =>
    rw [State.setHeartbeat_conns, State.registerUser_conns]
    exact hc
  | stop hk => exact hother hk
  | del hk =>
    rw [State.setConn_conns, State.unregisterUser_conns]
    exact hother hk
  | tick hh => exact hc
  | exit hh => exact hc
  | expire =>
    rw [State.unregisterUser_conns]
    exact hc

/-- A connection that is not opened in a run does nothing. -/
theorem conns_eq_none {es : List Event} {s : State} (h : system.run init es = some s) {c : ConnId}
    (hc : ∀ u a, Event.connect c u a ∉ es) : s.base.conns c = none := by
  revert hc
  refine system.run_induction (motive := fun es s => (∀ u a, Event.connect c u a ∉ es) →
    s.base.conns c = none) (fun _ => rfl) ?_ h
  intro es s e t _ ih hstep hc
  have hs : s.base.conns c = none := ih fun u a hmem => hc u a (List.mem_append_left _ hmem)
  have he : ∀ u a, e ≠ .connect c u a := by
    rintro u a rfl
    exact hc u a (List.mem_append_right _ (List.mem_singleton_self _))
  have hcases := step_cases hstep
  cases hbase : e.base? with
  | none =>
    cases hcases with
    | fire hh hn => exact hs
    | elapse => exact hs
    | _ => cases hbase
  | some e' =>
    refine conns_step (step_base hcases hbase) hs fun u a heq => he u a ?_
    rw [heq] at hbase
    cases e with
    | connect k v b =>
      obtain ⟨rfl, rfl, rfl⟩ := Presence.Event.connect.inj (Option.some.inj hbase)
      rfl
    | _ => cases hbase

/-- A heartbeat of Alice's fails, and the next one does not. -/
def lostBeatRun : List Event :=
  [.connect 0 "alice" "g1", .set 0 true 20, .elapse 5030, .fire 0, .tick 0, .beat 0 false,
    .elapse 5000, .fire 0, .tick 0, .beat 0 true, .elapse 4000]

/-- What the steps of that run meet. -/
def OnSchedule (s : State) : Event → Prop
  | .set _ ok latency => ok = true ∧ latency ≤ 100
  | .beat c false => s.misses c < 1
  | .beat c true => s.base.conns c = some ⟨"alice", "g1", .opened⟩
  | .elapse d => s.now + d ≤ s.due 0 + 4000
  | .connect .. | .fire _ | .tick _ => True
  | .stop _ | .del .. | .exit _ => False

instance (s : State) (e : Event) : Decidable (OnSchedule s e) :=
  match e with
  | .set _ ok latency => inferInstanceAs (Decidable (ok = true ∧ latency ≤ 100))
  | .beat c false => inferInstanceAs (Decidable (s.misses c < 1))
  | .beat c true =>
    inferInstanceAs (Decidable (s.base.conns c = some ⟨"alice", "g1", .opened⟩))
  | .elapse d => inferInstanceAs (Decidable (s.now + d ≤ s.due 0 + 4000))
  | .connect .. | .fire _ | .tick _ => inferInstanceAs (Decidable True)
  | .stop _ | .del .. | .exit _ => inferInstanceAs (Decidable False)

/-- After two failures in a row the key is gone before the next tick, since the timer has started late. -/
example : ∃ s, system.run init (lostBeatRun.take 6 ++
    [.elapse 5000, .fire 0, .tick 0, .beat 0 false, .elapse 4990, .fire 0, .tick 0]) = some s ∧
    s.base.presence "alice" = none := ⟨_, rfl, by decide⟩

end Ttl

end TinyTelegram.Gateway
