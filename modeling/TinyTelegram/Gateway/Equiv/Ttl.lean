import TinyTelegram.Gateway.Equiv.Presence
import TinyTelegram.Gateway.Ttl

/-!
# What the time to live of the presence keys does

* `base_reachable`: with a clock, presence does nothing that it does not do when keys expire at any time.
* `set_of_presence`: what a key says was said within the last `presenceTTL`, so that the keys of a gateway
  that has crashed are gone after that time.
-/

namespace TinyTelegram.Gateway

namespace Ttl

open Lts Presence

/-! ### Steps -/

/-- The effects of an event in the state `s`. -/
inductive Step (s : State) : Event → State → Prop where
  | connect {c u a b} (hb : presence.step s.base (.connect c u a) = some b) :
      Step s (.connect c u a) (s.setBase b)
  | set {c ok latency b} (hb : presence.step s.base (.set c ok) = some b) :
      Step s (.set c ok latency) (((s.setBase b).renew c ok).startTicker c latency)
  | fire {c} (hh : s.base.heartbeats c = .waiting ∨ s.base.heartbeats c = .setting)
      (hn : s.nextTick c ≤ s.now) : Step s (.fire c) (s.sendTick c)
  | tick {c due b} (ht : s.ticks c = some due) (hb : presence.step s.base (.tick c) = some b) :
      Step s (.tick c) ((s.setBase b).takeTick c due)
  | beat {c ok b} (hb : presence.step s.base (.beat c ok) = some b) :
      Step s (.beat c ok) ((s.setBase b).renew c ok)
  | stop {c b} (hb : presence.step s.base (.stop c) = some b) : Step s (.stop c) (s.setBase b)
  | del {c ok b} (hb : presence.step s.base (.del c ok) = some b) : Step s (.del c ok) (s.setBase b)
  | exit {c b} (hb : presence.step s.base (.exit c) = some b) : Step s (.exit c) (s.setBase b)
  | elapse {d} : Step s (.elapse d) (s.elapse d)

/-- **Every step is one of the listed effects.** -/
theorem step_cases {s t : State} {e : Event} (h : system.step s e = some t) : Step s e t := by
  change step s e = some t at h
  cases e with
  | connect c u a =>
    obtain ⟨b, hb, rfl⟩ := Option.map_eq_some_iff.mp h
    exact .connect hb
  | set c ok latency =>
    obtain ⟨b, hb, rfl⟩ := Option.map_eq_some_iff.mp h
    exact .set hb
  | fire c =>
    simp only [step] at h
    split at h
    · rename_i hh
      split_ifs at h with hn
      obtain rfl := Option.some.inj h
      exact .fire (.inl hh) hn
    · rename_i hh
      split_ifs at h with hn
      obtain rfl := Option.some.inj h
      exact .fire (.inr hh) hn
    · cases h
    · cases h
  | tick c =>
    simp only [step] at h
    split at h
    · rename_i due ht
      obtain ⟨b, hb, rfl⟩ := Option.map_eq_some_iff.mp h
      exact .tick ht hb
    · cases h
  | beat c ok =>
    obtain ⟨b, hb, rfl⟩ := Option.map_eq_some_iff.mp h
    exact .beat hb
  | stop c =>
    obtain ⟨b, hb, rfl⟩ := Option.map_eq_some_iff.mp h
    exact .stop hb
  | del c ok =>
    obtain ⟨b, hb, rfl⟩ := Option.map_eq_some_iff.mp h
    exact .del hb
  | exit c =>
    obtain ⟨b, hb, rfl⟩ := Option.map_eq_some_iff.mp h
    exact .exit hb
  | elapse d =>
    obtain rfl := Option.some.inj h
    exact .elapse

@[simp] theorem renew_base (s : State) (c : ConnId) (ok : Bool) : (s.renew c ok).base = s.base := by
  unfold State.renew
  split <;> rfl

@[simp] theorem renew_now (s : State) (c : ConnId) (ok : Bool) : (s.renew c ok).now = s.now := by
  unfold State.renew
  split <;> rfl

@[simp] theorem renew_ticks (s : State) (c : ConnId) (ok : Bool) : (s.renew c ok).ticks = s.ticks := by
  unfold State.renew
  split <;> rfl

@[simp] theorem renew_nextTick (s : State) (c : ConnId) (ok : Bool) :
    (s.renew c ok).nextTick = s.nextTick := by
  unfold State.renew
  split <;> rfl

@[simp] theorem renew_taken (s : State) (c : ConnId) (ok : Bool) : (s.renew c ok).taken = s.taken := by
  unfold State.renew
  split <;> rfl

/-- A step that is one of the connections and goroutines. -/
theorem step_base {s t : State} {e : Event} (h : Step s e t) {e' : Presence.Event}
    (he : e.base? = some e') : presence.step s.base e' = some t.base := by
  cases h with
  | set hb =>
    obtain rfl := Option.some.inj he
    show _ = some ((s.setBase _).renew _ _).base
    rw [renew_base]
    exact hb
  | beat hb =>
    obtain rfl := Option.some.inj he
    rw [renew_base]
    exact hb
  | fire hh hn => cases he
  | elapse => cases he
  | connect hb | tick _ hb | stop hb | del hb | exit hb =>
    obtain rfl := Option.some.inj he
    exact hb

/-! ### Without a clock -/

/-- The keys of these users expire. -/
theorem run_expire (b : Presence.State) (us : List String) :
    presence.run b (us.map .expire) =
      some { b with presence := fun u => if u ∈ us then none else b.presence u } := by
  induction us generalizing b with
  | nil =>
    rw [List.map_nil, System.run_nil]
    simp
  | cons v us ih =>
    rw [List.map_cons]
    refine (System.run_cons ..).mpr ⟨b.unregisterUser v true, rfl, ?_⟩
    rw [ih]
    show some (Presence.State.mk _ _ _) = some (Presence.State.mk _ _ _)
    congr 2
    funext u
    show (if u ∈ us then none else Function.update b.presence v none u) = _
    rw [Function.update_apply]
    by_cases hu : u = v
    · simp [hu]
    · simp [hu]

/-- Only finitely many keys are there. -/
def Finite (b : Presence.State) : Prop := ∃ us : List String, ∀ u, b.presence u ≠ none → u ∈ us

theorem finite_step {b b' : Presence.State} {e : Presence.Event} (h : Finite b)
    (hstep : presence.step b e = some b') : Finite b' := by
  obtain ⟨us, hus⟩ := h
  have hregister : ∀ u a ok, ∀ v, (b.registerUser u a ok).presence v ≠ none → v ∈ u :: us := by
    intro u a ok v hv
    unfold Presence.State.registerUser at hv
    split_ifs at hv
    · change Function.update b.presence u (some a) v ≠ none at hv
      rw [Function.update_apply] at hv
      split_ifs at hv with huv
      · exact huv ▸ List.mem_cons_self
      · exact List.mem_cons_of_mem _ (hus v hv)
    · exact List.mem_cons_of_mem _ (hus v hv)
  have hunregister : ∀ u ok, ∀ v, (b.unregisterUser u ok).presence v ≠ none → v ∈ us := by
    intro u ok v hv
    unfold Presence.State.unregisterUser at hv
    split_ifs at hv
    · change Function.update b.presence u none v ≠ none at hv
      rw [Function.update_apply] at hv
      split_ifs at hv
      · exact absurd rfl hv
      · exact hus v hv
    · exact hus v hv
  cases Presence.step_cases hstep with
  | @set c u a ok hc => exact ⟨u :: us, hregister u a ok⟩
  | @beat c conn ok hh hc => exact ⟨conn.user :: us, hregister conn.user conn.addr ok⟩
  | @del c u a ok hc => exact ⟨us, hunregister u ok⟩
  | @expire u => exact ⟨us, hunregister u true⟩
  | connect hc => exact ⟨us, hus⟩
  | tick hh => exact ⟨us, hus⟩
  | stop hc => exact ⟨us, hus⟩
  | exit hh => exact ⟨us, hus⟩

/-- **Presence with a clock is presence.**  Whatever presence comes to when keys expire after their time,
it can come to when keys expire at any time. -/
theorem base_reachable {s : State} (h : system.Reachable s) : presence.Reachable s.base := by
  have hboth : presence.Reachable s.base ∧ Finite s.base := by
    refine System.invariant (S := system) (I := fun s => presence.Reachable s.base ∧ Finite s.base)
      ⟨⟨[], rfl⟩, [], fun u hu => absurd rfl hu⟩ ?_ h
    rintro s e t ⟨hreach, hfinite⟩ hstep
    have hcases := step_cases hstep
    cases he : e.base? with
    | some e' =>
      have hbase := step_base hcases he
      exact ⟨hreach.step hbase, finite_step hfinite hbase⟩
    | none =>
      cases hcases with
      | fire hh hn => exact ⟨hreach, hfinite⟩
      | @elapse d =>
        obtain ⟨us, hus⟩ := hfinite
        -- the keys that expire, in some order
        have hrun := run_expire s.base (us.filter fun u => s.expires u < s.now + d)
        have hkeys : ∀ u, (if u ∈ us.filter (fun u => s.expires u < s.now + d) then none
            else s.base.presence u) = (s.elapse d).base.presence u := by
          intro u
          show _ = if s.expires u < s.now + d then none else s.base.presence u
          by_cases hu : s.base.presence u = none
          · rw [hu, ite_self, ite_self]
          · simp [hus u hu]
        rw [funext hkeys] at hrun
        refine ⟨hreach.run hrun, us, fun u hu => hus u fun hnone => hu ?_⟩
        show (if s.expires u < s.now + d then none else s.base.presence u) = none
        rw [hnone, ite_self]
      | _ => cases he
  exact hboth.1

/-- Alice's only tab is cut off: no heartbeat, no teardown. -/
def cutOffRun : List Event := [.connect 0 "alice" "g1", .set 0 true 20, .elapse 15001]

theorem base_reachable_cutOffRun : ∃ s, system.run init cutOffRun = some s ∧
    s.base.presence "alice" = none ∧ presence.Reachable s.base := by
  obtain ⟨s, hs⟩ : ∃ s, system.run init cutOffRun = some s := ⟨_, rfl⟩
  refine ⟨s, hs, ?_, base_reachable ⟨_, hs⟩⟩
  obtain rfl := Option.some.inj hs
  decide

/-! ### How old a key is -/

/-- The keys are there until they expire, and they expire `presenceTTL` from now at the latest. -/
structure Bounded (s : State) : Prop where
  expires_le : ∀ u, s.expires u ≤ s.now + presenceTTL
  now_le : ∀ u, s.base.presence u ≠ none → s.now ≤ s.expires u

/-- What a `SET` of connection `c` does to the keys. -/
theorem renew_expires {s : State} {c : ConnId} {conn : Conn} (hc : s.base.conns c = some conn)
    (ok : Bool) : (s.renew c ok).expires =
      if ok then Function.update s.expires conn.user (s.now + presenceTTL) else s.expires := by
  unfold State.renew
  rw [hc]

/-- A command leaves the keys of all users but one alone: it sets that one, or deletes it, or fails. -/
theorem presence_step {b b' : Presence.State} {e : Presence.Event} (h : presence.step b e = some b')
    (he : ∀ c, e ≠ .set c true ∧ e ≠ .beat c true) {u a : String} (hu : b'.presence u = some a) :
    b.presence u = some a := by
  cases Presence.step_cases h with
  | @set c v a' ok hc =>
    cases ok with
    | true => exact absurd rfl (he c).1
    | false => exact hu
  | @beat c conn ok hh hc =>
    cases ok with
    | true => exact absurd rfl (he c).2
    | false => exact hu
  | @del c v a' ok hc =>
    cases ok with
    | true =>
      change Function.update b.presence v none u = some a at hu
      rw [Function.update_apply] at hu
      split_ifs at hu
      exact hu
    | false => exact hu
  | @expire v =>
    change Function.update b.presence v none u = some a at hu
    rw [Function.update_apply] at hu
    split_ifs at hu
    exact hu
  | connect hc => exact hu
  | tick hh => exact hu
  | stop hc => exact hu
  | exit hh => exact hu

/-- A step sets the key of one user for `presenceTTL`, or sets none and lets no key expire later. -/
inductive Keys (s : State) (e : Event) (t : State) : Prop where
  | set (u a : String) (hset : sets? s e = some (u, a))
      (hexpires : t.expires = Function.update s.expires u (s.now + presenceTTL))
      (hpresence : t.base.presence = Function.update s.base.presence u (some a)) (hnow : t.now = s.now)
  | other (hset : sets? s e = none) (hexpires : t.expires = s.expires)
      (hpresence : ∀ u a, t.base.presence u = some a →
        s.base.presence u = some a ∧ (s.now < t.now → t.now ≤ s.expires u))
      (hnow : t.now = s.now + duration [e])

theorem keys_of_step {s t : State} {e : Event} (h : Step s e t) : Keys s e t := by
  -- a command that is no `SET` takes no time
  have hcommand : ∀ {b : Presence.State} {e' : Presence.Event}, presence.step s.base e' = some b →
      (∀ c, e' ≠ .set c true ∧ e' ≠ .beat c true) → ∀ u a, b.presence u = some a →
        s.base.presence u = some a ∧ (s.now < s.now → s.now ≤ s.expires u) :=
    fun hb he' u a hu => ⟨presence_step hb he' hu, fun hlt => absurd hlt (lt_irrefl _)⟩
  cases h with
  | connect hb => exact .other rfl rfl (hcommand hb fun _ => ⟨by simp, by simp⟩) rfl
  | @set c ok latency b hb =>
    cases ok with
    | true =>
      cases Presence.step_cases hb with
      | @set _ u a _ hc =>
        have hnew : ((s.setBase (((s.base.registerUser u a true).setConn c ⟨u, a, .opened⟩).setHeartbeat c
            .waiting)).base.conns c) = some ⟨u, a, .opened⟩ := Function.update_self ..
        refine .set u a ?_ ?_ ?_ ?_
        · show (s.base.conns c).map _ = _
          rw [hc]
          rfl
        · show (State.renew _ c true).expires = _
          rw [renew_expires hnew]
          rfl
        · show (State.renew _ c true).base.presence = _
          rw [renew_base]
          rfl
        · show (State.renew _ c true).now = _
          rw [renew_now]
          rfl
    | false =>
      refine .other rfl ?_ ?_ ?_
      · show (State.renew _ c false).expires = _
        unfold State.renew
        split <;> rfl
      · show ∀ u a, (State.renew _ c false).base.presence u = some a → _ ∧ (s.now < (State.renew _ c
          false).now → (State.renew _ c false).now ≤ _)
        rw [renew_base, renew_now]
        exact hcommand hb fun _ => ⟨by simp, by simp⟩
      · show (State.renew _ c false).now = _
        rw [renew_now]
        rfl
  | fire hh hn =>
    exact .other rfl rfl (fun u a hu => ⟨hu, fun hlt => absurd hlt (lt_irrefl _)⟩) rfl
  | tick ht hb => exact .other rfl rfl (hcommand hb fun _ => ⟨by simp, by simp⟩) rfl
  | @beat c ok b hb =>
    cases ok with
    | true =>
      cases Presence.step_cases hb with
      | @beat _ conn _ hh hc =>
        refine .set conn.user conn.addr ?_ ?_ ?_ ?_
        · show (s.base.conns c).map _ = _
          rw [hc]
          rfl
        · have hnew : (s.setBase ((s.base.registerUser conn.user conn.addr true).setHeartbeat c
              .waiting)).base.conns c = some conn := hc
          rw [renew_expires hnew]
          rfl
        · rw [renew_base]
          rfl
        · rw [renew_now]
          rfl
    | false =>
      refine .other rfl ?_ ?_ ?_
      · unfold State.renew
        split <;> rfl
      · rw [renew_base, renew_now]
        exact hcommand hb fun _ => ⟨by simp, by simp⟩
      · rw [renew_now]
        rfl
  | stop hb => exact .other rfl rfl (hcommand hb fun _ => ⟨by simp, by simp⟩) rfl
  | del hb => exact .other rfl rfl (hcommand hb fun _ => ⟨by simp, by simp⟩) rfl
  | exit hb => exact .other rfl rfl (hcommand hb fun _ => ⟨by simp, by simp⟩) rfl
  | @elapse d =>
    refine .other rfl rfl (fun u a hu => ?_) rfl
    change (if s.expires u < s.now + d then none else s.base.presence u) = some a at hu
    split_ifs at hu with hlt
    exact ⟨hu, fun _ => not_lt.mp hlt⟩

theorem Bounded.step {s t : State} {e : Event} (h : Bounded s) (hstep : Step s e t) : Bounded t := by
  have hle := h.expires_le
  cases keys_of_step hstep with
  | set u a hset hexpires hpresence hnow =>
    refine ⟨fun v => ?_, fun v hv => ?_⟩
    · rw [hexpires, hnow, Function.update_apply]
      split_ifs
      · exact le_rfl
      · exact hle v
    · rw [hpresence, Function.update_apply] at hv
      rw [hexpires, hnow, Function.update_apply]
      split_ifs at hv ⊢
      · exact Nat.le_add_right ..
      · exact h.now_le v hv
  | other hset hexpires hpresence hnow =>
    refine ⟨fun v => ?_, fun v hv => ?_⟩
    · have hv := hle v
      rw [hexpires]
      omega
    · obtain ⟨a, ha⟩ := Option.ne_none_iff_exists'.mp hv
      obtain ⟨hold, hlate⟩ := hpresence v a ha
      have hbefore := h.now_le v (hold ▸ Option.some_ne_none a)
      rw [hexpires]
      by_cases hlt : s.now < t.now
      · exact hlate hlt
      · omega

theorem bounded {s : State} (h : system.Reachable s) : Bounded s :=
  System.invariant (S := system) (I := Bounded) ⟨fun _ => Nat.zero_le _, fun _ hu => absurd rfl hu⟩
    (fun _ _ _ ih hstep => ih.step (step_cases hstep)) h

theorem duration_append (es fs : List Event) : duration (es ++ fs) = duration es + duration fs := by
  induction es with
  | nil => exact (Nat.zero_add _).symm
  | cons e es ih =>
    rw [List.cons_append]
    cases e with
    | elapse d =>
      show d + duration (es ++ fs) = d + duration es + duration fs
      rw [ih, Nat.add_assoc]
    | _ => exact ih

/-- A `SET` takes no time. -/
theorem duration_of_sets? {s : State} {e : Event} {ua : String × String} (h : sets? s e = some ua) :
    duration [e] = 0 := by
  cases e with
  | elapse d => cases h
  | _ => rfl

/-- **A key says what was said lately.**  If a run that takes longer than `presenceTTL` ends with a key of
`u` that names `a`, then `u` was set to `a` in that run. -/
theorem set_of_presence {s t : State} {es : List Event} (hs : system.Reachable s)
    (h : system.run s es = some t) (hlong : presenceTTL < duration es) {u a : String}
    (hu : t.base.presence u = some a) : (u, a) ∈ system.observe sets? s es := by
  have hrun : t.now = s.now + duration es ∧ ((u, a) ∈ system.observe sets? s es ∨
      t.base.presence u ≠ some a ∨ t.expires u = s.expires u) := by
    refine system.run_induction (motive := fun es t => t.now = s.now + duration es ∧
      ((u, a) ∈ system.observe sets? s es ∨ t.base.presence u ≠ some a ∨ t.expires u = s.expires u))
      ⟨rfl, .inr (.inr rfl)⟩ ?_ h
    rintro es v e w hv ⟨hnow, hsince⟩ hstep
    rw [System.observe_concat sets? hv, duration_append]
    cases keys_of_step (step_cases hstep) with
    | set u' a' hset hexpires hpresence hnow' =>
      constructor
      · rw [hnow', hnow, duration_of_sets? hset]
        rfl
      · rw [hset, hexpires, hpresence, Function.update_apply, Function.update_apply]
        by_cases hu' : u = u'
        · subst hu'
          by_cases ha' : a' = a
          · subst ha'
            exact .inl (List.mem_append_right _ (List.mem_singleton_self _))
          · rw [if_pos rfl]
            exact .inr (.inl fun heq => ha' (Option.some.inj heq))
        · rw [if_neg hu', if_neg hu']
          exact hsince.imp_left fun hold => List.mem_append_left _ hold
    | other hset hexpires hpresence hnow' =>
      constructor
      · rw [hnow', hnow, Nat.add_assoc]
      · rcases hsince with hold | hne | hsame
        · exact .inl (List.mem_append_left _ hold)
        · exact .inr (.inl fun heq => hne (hpresence u a heq).1)
        · rw [hexpires]
          exact .inr (.inr hsame)
  obtain ⟨hnow, hset | hne | hsame⟩ := hrun
  · exact hset
  · exact absurd hu hne
  · have hthere := (bounded (hs.run h)).now_le u (hu ▸ Option.some_ne_none a)
    have hlimit := (bounded hs).expires_le u
    omega

/-- Alice has a tab on each of two gateways.  The first gateway crashes; the heartbeat of the other tab
goes on. -/
def crashRun : List Event :=
  [.elapse 5000, .fire 1, .tick 1, .beat 1 true, .elapse 5000, .fire 1, .tick 1, .beat 1 true,
    .elapse 5001]

theorem set_of_presence_crashRun : ∃ s t,
    system.run init [.connect 0 "alice" "g1", .connect 1 "alice" "g2", .set 1 true 0, .set 0 true 0] =
      some s ∧
    s.base.presence "alice" = some "g1" ∧ system.run s crashRun = some t ∧
    ("alice", "g2") ∈ system.observe sets? s crashRun := by
  obtain ⟨s, hs⟩ : ∃ s, system.run init
      [.connect 0 "alice" "g1", .connect 1 "alice" "g2", .set 1 true 0, .set 0 true 0] = some s := ⟨_, rfl⟩
  obtain ⟨t, ht⟩ : ∃ t, system.run s crashRun = some t := by
    obtain rfl := Option.some.inj hs
    exact ⟨_, rfl⟩
  refine ⟨s, t, hs, ?_, ht, set_of_presence ⟨_, hs⟩ ht (by decide) ?_⟩
  · obtain rfl := Option.some.inj hs
    decide
  · obtain rfl := Option.some.inj hs
    obtain rfl := Option.some.inj ht
    decide

end Ttl

end TinyTelegram.Gateway
