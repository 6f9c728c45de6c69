import TinyTelegram.MessageService.Discovery

/-!
# What `DiscoverGateways` comes to know

The goroutine is the only one that writes `clients`, so that it makes one connection at most to each address,
and only to addresses that some gateway has registered.  A pass of its loop ends after three steps for each
address at most, and then every address that the hash had when the pass began has a client, or
`grpc.NewClient` has failed for it in this pass.  A client is kept for good, also after its gateway has taken
its entry out of the hash.
-/

namespace TinyTelegram.MessageService.Discovery

open Lts

/-! ### The map of clients -/

/-- What the goroutine is about, as far as `clients` goes. -/
def Loop.phase : Loop → OnDemand.Phase String
  | .asleep | .ranging _ => .idle
  | .connecting addr _ => .missed addr
  | .storing addr client _ => .made addr client

/-- The clients, as a map of values made on demand by one caller. -/
def cache (s : State) : OnDemand.State String where
  map := s.clients
  made := s.conns
  phase n := if n = 0 then s.loop.phase else .idle

/-- The event of the map that a step is. -/
def cacheEvent? (s : State) : Event → Option (OnDemand.Event String)
  | .next =>
    match s.loop with
    | .ranging (addr :: _) => some (.look 0 addr)
    | _ => none
  | .newClient ok => some (.make 0 ok)
  | .store => some (.store 0)
  | .hSet .. | .hDel _ | .hGetAll _ => none

theorem cache_phase_zero (s : State) : (cache s).phase 0 = s.loop.phase := rfl

theorem cache_setPhase {s : State} {t : OnDemand.State String} {p : OnDemand.Phase String}
    (hmap : t.map = s.clients) (hmade : t.made = s.conns) (hphase : ∀ n, n ≠ 0 → t.phase n = .idle)
    (hp : p = s.loop.phase) : t.setPhase 0 p = cache s := by
  obtain ⟨map, made, phase⟩ := t
  obtain rfl : map = s.clients := hmap
  obtain rfl : made = s.conns := hmade
  unfold cache OnDemand.State.setPhase
  congr 1
  funext n
  rw [Function.update_apply]
  split_ifs with hn
  · exact hp
  · exact hphase n hn

theorem cache_phase_of_ne (s : State) (n : ℕ) (hn : n ≠ 0) : (cache s).phase n = .idle := if_neg hn

/-- A step of the goroutine is a step on the map. -/
theorem cache_step {s t : State} {e : Event} (h : step s e = some t) :
    match cacheEvent? s e with
    | none => cache t = cache s
    | some d => (OnDemand.system String).step (cache s) d = some (cache t) := by
  have hmap : ∀ addr, (cache s).map addr = s.clients addr := fun addr => rfl
  -- a step that leaves the map alone and goes on with nothing
  have hsame : ∀ {l : Loop}, l.phase = s.loop.phase → cache { s with loop := l } = cache s := by
    intro l hl
    unfold cache
    congr 1
    funext n
    rw [← hl]
  cases e with
  | hSet id addr =>
    obtain rfl := Option.some.inj h
    rfl
  | hDel id =>
    obtain rfl := Option.some.inj h
    rfl
  | hGetAll addrs =>
    show cache t = cache s
    cases addrs with
    | none =>
      simp only [step] at h
      split at h
      · obtain rfl := Option.some.inj h
        rfl
      · cases h
    | some addrs =>
      simp only [step] at h
      split at h
      · rename_i hloop
        split_ifs at h
        obtain rfl := Option.some.inj h
        apply hsame
        rw [hloop]
        rfl
      · cases h
  | next =>
    simp only [step] at h
    split at h
    · rename_i hloop
      obtain rfl := Option.some.inj h
      simp only [cacheEvent?, hloop]
      apply hsame
      rw [hloop]
      rfl
    · rename_i addr addrs hloop
      simp only [cacheEvent?, hloop]
      show OnDemand.step (cache s) (.look 0 addr) = some (cache t)
      split at h
      · rename_i client hc
        obtain rfl := Option.some.inj h
        simp only [OnDemand.step, cache_phase_zero, hmap, hloop, hc, Loop.phase, Option.some.injEq]
        symm
        apply hsame
        rw [hloop]
        rfl
      · rename_i hc
        obtain rfl := Option.some.inj h
        simp only [OnDemand.step, cache_phase_zero, hmap, hloop, hc, Loop.phase, Option.some.injEq]
        exact cache_setPhase rfl rfl (cache_phase_of_ne s) rfl
    · cases h
  | newClient ok =>
    simp only [step] at h
    show OnDemand.step (cache s) (.make 0 ok) = some (cache t)
    split at h
    · rename_i addr addrs hloop
      obtain rfl := Option.some.inj h
      cases ok with
      | true =>
        simp only [OnDemand.step, cache_phase_zero, hloop, Loop.phase, if_true, Option.some.injEq]
        exact cache_setPhase rfl rfl (cache_phase_of_ne s) rfl
      | false =>
        simp only [OnDemand.step, cache_phase_zero, hloop, Loop.phase, Bool.false_eq_true, if_false,
          Option.some.injEq]
        exact cache_setPhase rfl rfl (cache_phase_of_ne s) rfl
    · cases h
  | store =>
    simp only [step] at h
    show OnDemand.step (cache s) (.store 0) = some (cache t)
    split at h
    · rename_i addr client addrs hloop
      obtain rfl := Option.some.inj h
      simp only [OnDemand.step, cache_phase_zero, hloop, Loop.phase, Option.some.injEq]
      exact cache_setPhase rfl rfl (cache_phase_of_ne s) rfl
    · cases h

/-- The clients are a map of values made on demand, whatever the hash is. -/
def cacheProjection : Projection system (OnDemand.system String) where
  part := cache
  event? := cacheEvent?
  part_init := by
    unfold cache
    show OnDemand.State.mk _ _ _ = OnDemand.State.mk _ _ _
    congr 1
    funext n
    split_ifs <;> rfl
  part_same h he := by
    have hstep := cache_step h
    rw [he] at hstep
    exact hstep
  part_step h he := by
    have hstep := cache_step h
    rw [he] at hstep
    exact hstep

/-! ### One connection for each address -/

/-- The goroutine is the only caller. -/
theorem takesTurns {s : State} {d : OnDemand.Event String} {e : Event}
    (h : cacheEvent? s e = some d) : OnDemand.TakesTurns (cache s) d := by
  cases d with
  | look n k =>
    have hn : n = 0 := by
      cases e with
      | next =>
        simp only [cacheEvent?] at h
        split at h
        · cases h
          rfl
        · cases h
      | _ => cases h
    intro m hm
    rw [cache_phase_of_ne s m (hn ▸ hm)]
    exact fun heq => by cases heq
  | make n ok => trivial
  | store n => trivial

/-- The addresses that are on the way to a connection. -/
def Loop.addrs : Loop → List String
  | .asleep => []
  | .ranging addrs => addrs
  | .connecting addr addrs | .storing addr _ addrs => addr :: addrs

/-- What is known of an address was registered for some gateway. -/
structure Known (s : State) (es : List Event) : Prop where
  hash : ∀ id addr, (id, addr) ∈ s.gateways → ∃ id, .hSet id addr ∈ es
  loop : ∀ addr ∈ s.loop.addrs, ∃ id, .hSet id addr ∈ es
  conns : ∀ addr ∈ s.conns, ∃ id, .hSet id addr ∈ es

theorem known {es : List Event} {s : State} (h : system.run init es = some s) : Known s es := by
  refine system.run_induction (motive := fun es s => Known s es) ?_ ?_ h
  · exact ⟨(fun _ _ h => absurd h List.not_mem_nil), (fun _ h => absurd h List.not_mem_nil),
      (fun _ h => absurd h List.not_mem_nil)⟩
  intro es s e t _ ih hstep
  have hold : ∀ {addr : String}, (∃ id, Event.hSet id addr ∈ es) → ∃ id, .hSet id addr ∈ es ++ [e] :=
    fun ⟨id, hid⟩ => ⟨id, List.mem_append_left _ hid⟩
  have hash := fun id addr h => hold (ih.hash id addr h)
  have loop := fun addr h => hold (ih.loop addr h)
  have conns := fun addr h => hold (ih.conns addr h)
  change step s e = some t at hstep
  cases e with
  | hSet id addr =>
    obtain rfl := Option.some.inj hstep
    refine ⟨fun id' addr' hmem => ?_, loop, conns⟩
    rcases List.mem_append.mp hmem with hrest | hnew
    · exact hash id' addr' (List.mem_of_mem_filter hrest)
    · obtain ⟨rfl, rfl⟩ := Prod.mk.inj (List.mem_singleton.mp hnew)
      exact ⟨id', by simp⟩
  | hDel id =>
    obtain rfl := Option.some.inj hstep
    exact ⟨fun id' addr' hmem => hash id' addr' (List.mem_of_mem_filter hmem), loop, conns⟩
  | hGetAll addrs =>
    cases addrs with
    | none =>
      simp only [step] at hstep
      split at hstep
      · obtain rfl := Option.some.inj hstep
        exact ⟨hash, loop, conns⟩
      · cases hstep
    | some addrs =>
      simp only [step] at hstep
      split at hstep
      · split_ifs at hstep with hperm
        obtain rfl := Option.some.inj hstep
        refine ⟨hash, fun addr haddr => ?_, conns⟩
        obtain ⟨⟨id, addr'⟩, hmem, rfl⟩ := List.mem_map.mp (hperm.mem_iff.mp haddr)
        exact hash id addr' hmem
      · cases hstep
  | next =>
    simp only [step] at hstep
    split at hstep
    · obtain rfl := Option.some.inj hstep
      exact ⟨hash, fun addr haddr => absurd haddr List.not_mem_nil, conns⟩
    · rename_i addr addrs hloop
      rw [hloop] at loop
      split at hstep
      · obtain rfl := Option.some.inj hstep
        exact ⟨hash, fun addr' haddr' => loop addr' (List.mem_cons_of_mem _ haddr'), conns⟩
      · obtain rfl := Option.some.inj hstep
        exact ⟨hash, loop, conns⟩
    · cases hstep
  | newClient ok =>
    simp only [step] at hstep
    split at hstep
    · rename_i addr addrs hloop
      rw [hloop] at loop
      obtain rfl := Option.some.inj hstep
      cases ok with
      | true =>
        refine ⟨hash, loop, fun addr' haddr' => ?_⟩
        rcases List.mem_append.mp haddr' with hrest | hnew
        · exact conns addr' hrest
        · obtain rfl := List.mem_singleton.mp hnew
          exact loop addr' List.mem_cons_self
      | false => exact ⟨hash, fun addr' haddr' => loop addr' (List.mem_cons_of_mem _ haddr'), conns⟩
    · cases hstep
  | store =>
    simp only [step] at hstep
    split at hstep
    · rename_i addr client addrs hloop
      rw [hloop] at loop
      obtain rfl := Option.some.inj hstep
      exact ⟨hash, fun addr' haddr' => loop addr' (List.mem_cons_of_mem _ haddr'), conns⟩
    · cases hstep

/-- No two connections are to one address. -/
theorem nodup_conns {es : List Event} {s : State} (h : system.run init es = some s) : s.conns.Nodup := by
  have hrun := cacheProjection.run h
  have hinit : cacheProjection.part init = OnDemand.init := cacheProjection.part_init
  rw [hinit] at hrun
  refine OnDemand.nodup_made hrun ?_
  rw [← hinit]
  exact cacheProjection.meets (C := fun _ _ => True) (fun _ => takesTurns) h
    (.of_forall fun _ _ _ => trivial)

/-- **One connection for each gateway that was registered.**  The message service connects at most once to an
address, and only to one that some gateway has registered; the client of an address is the one of that
connection. -/
theorem one_connection {es : List Event} {s : State} (h : system.run init es = some s) :
    s.conns.Nodup ∧ (∀ addr ∈ s.conns, ∃ id, .hSet id addr ∈ es) ∧
      ∀ addr client, s.clients addr = some client → s.conns[client]? = some addr :=
  ⟨nodup_conns h, (known h).conns, (OnDemand.inv (cacheProjection.reachable ⟨es, h⟩)).map⟩

/-- Two gateways register, and a pass connects to one and fails to connect to the other. -/
def twoGatewaysRun : List Event :=
  [.hSet "gw1" "10.0.0.1:9000", .hSet "gw2" "10.0.0.2:9000",
    .hGetAll (some ["10.0.0.2:9000", "10.0.0.1:9000"]),
    .next, .newClient true, .store, .next, .newClient false, .next]

theorem one_connection_twoGatewaysRun :
    ∃ s, system.run init twoGatewaysRun = some s ∧ s.clients "10.0.0.2:9000" = some 0 ∧
      s.conns.Nodup := by
  obtain ⟨s, hs⟩ : ∃ s, system.run init twoGatewaysRun = some s := ⟨_, rfl⟩
  refine ⟨s, hs, ?_, (one_connection hs).1⟩
  obtain rfl := Option.some.inj hs
  rfl

/-! ### A pass -/

/-- The goroutine's own steps. -/
def Event.isLoop : Event → Bool
  | .next | .newClient _ | .store => true
  | .hSet .. | .hDel _ | .hGetAll _ => false

/-- How many steps a pass still takes at most. -/
def Loop.left : Loop → ℕ
  | .asleep => 0
  | .ranging addrs => 3 * addrs.length + 1
  | .connecting _ addrs => 3 * addrs.length + 3
  | .storing _ _ addrs => 3 * addrs.length + 2

/-- What a pass over `addrs` has done after the events `es`, with `failures` of them failed. -/
structure Pass (addrs : List String) (s : State) (steps : ℕ) (failures : List String) : Prop where
  done : ∀ addr ∈ addrs, s.clients addr ≠ none ∨ addr ∈ failures ∨ addr ∈ s.loop.addrs
  left : steps + s.loop.left ≤ 3 * addrs.length + 1

theorem Pass.step {addrs : List String} {s t : State} {e : Event} {steps : ℕ} {failures : List String}
    (h : Pass addrs s steps failures) (hstep : step s e = some t) (he : ∀ o, e ≠ .hGetAll o) :
    Pass addrs t (steps + if e.isLoop then 1 else 0) (failures ++ (failed? s e).toList) := by
  have hdone := h.done
  have hleft := h.left
  cases e with
  | hSet id addr =>
    obtain rfl := Option.some.inj hstep
    simp only [failed?, Option.toList_none, List.append_nil, Event.isLoop, Bool.false_eq_true, if_false]
    exact ⟨hdone, hleft⟩
  | hDel id =>
    obtain rfl := Option.some.inj hstep
    simp only [failed?, Option.toList_none, List.append_nil, Event.isLoop, Bool.false_eq_true, if_false]
    exact ⟨hdone, hleft⟩
  | hGetAll o => exact absurd rfl (he o)
  | next =>
    simp only [failed?, Option.toList_none, List.append_nil, Event.isLoop, if_true]
    simp only [Discovery.step] at hstep
    split at hstep
    · rename_i hloop
      rw [hloop] at hdone hleft
      obtain rfl := Option.some.inj hstep
      refine ⟨hdone, ?_⟩
      simp only [Loop.left, List.length_nil] at hleft ⊢
      omega
    · rename_i addr rest hloop
      rw [hloop] at hdone hleft
      split at hstep
      · rename_i client hc
        obtain rfl := Option.some.inj hstep
        constructor
        · intro addr' haddr'
          rcases hdone addr' haddr' with hclient | hfailed | hrest
          · exact .inl hclient
          · exact .inr (.inl hfailed)
          · rcases List.mem_cons.mp hrest with rfl | hrest
            · refine .inl ?_
              rw [hc]
              exact Option.some_ne_none client
            · exact .inr (.inr hrest)
        · simp only [Loop.left, List.length_cons] at hleft ⊢
          omega
      · obtain rfl := Option.some.inj hstep
        refine ⟨hdone, ?_⟩
        simp only [Loop.left, List.length_cons] at hleft ⊢
        omega
    · cases hstep
  | newClient ok =>
    simp only [Discovery.step] at hstep
    split at hstep
    · rename_i addr rest hloop
      rw [hloop] at hdone hleft
      obtain rfl := Option.some.inj hstep
      cases ok with
      | true =>
        simp only [failed?, Option.toList_none, List.append_nil, Event.isLoop, if_true]
        refine ⟨hdone, ?_⟩
        simp only [Loop.left] at hleft ⊢
        omega
      | false =>
        simp only [failed?, hloop, Option.toList_some, Event.isLoop, if_true, Bool.false_eq_true, if_false]
        constructor
        · intro addr' haddr'
          rcases hdone addr' haddr' with hclient | hfailed | hrest
          · exact .inl hclient
          · exact .inr (.inl (List.mem_append_left _ hfailed))
          · rcases List.mem_cons.mp hrest with rfl | hrest
            · exact .inr (.inl (List.mem_append_right _ (List.mem_singleton_self _)))
            · exact .inr (.inr hrest)
        · simp only [Loop.left] at hleft ⊢
          omega
    · cases hstep
  | store =>
    simp only [failed?, Option.toList_none, List.append_nil, Event.isLoop, if_true]
    simp only [Discovery.step] at hstep
    split at hstep
    · rename_i addr client rest hloop
      rw [hloop] at hdone hleft
      obtain rfl := Option.some.inj hstep
      constructor
      · intro addr' haddr'
        show Function.update s.clients addr (some client) addr' ≠ none ∨ _
        rw [Function.update_apply]
        split_ifs with hsame
        · exact .inl (Option.some_ne_none client)
        · rcases hdone addr' haddr' with hclient | hfailed | hrest
          · exact .inl hclient
          · exact .inr (.inl hfailed)
          · exact .inr (.inr (List.mem_of_ne_of_mem hsame hrest))
      · simp only [Loop.left] at hleft ⊢
        omega
    · cases hstep

/-- A pass, from its `HGETALL` on. -/
theorem pass {s t u : State} {addrs : List String} (hget : step s (.hGetAll (some addrs)) = some t)
    {es : List Event} (h : system.run t es = some u) (hes : ∀ o, .hGetAll o ∉ es) :
    addrs.Perm (s.gateways.map Prod.snd) ∧
      Pass addrs u (es.countP Event.isLoop) (system.observe failed? t es) := by
  simp only [step] at hget
  split at hget
  · split_ifs at hget with hperm
    refine ⟨hperm, ?_⟩
    obtain rfl := Option.some.inj hget
    revert hes
    refine system.run_induction (motive := fun es u => (∀ o, .hGetAll o ∉ es) →
      Pass addrs u (es.countP Event.isLoop) (system.observe failed? _ es)) ?_ ?_ h
    · intro _
      exact ⟨fun addr haddr => .inr (.inr haddr), le_of_eq (Nat.zero_add _)⟩
    · intro es v e w hv ih hstep hes
      have hprev := ih fun o ho => hes o (List.mem_append_left _ ho)
      rw [System.observe_concat failed? hv, List.countP_append, List.countP_singleton]
      exact hprev.step hstep fun o ho => hes o (ho ▸ List.mem_append_right _ (List.mem_singleton_self _))
  · cases hget

/-- **Every gateway of the hash is found.**  Let a pass of the loop begin with an `HGETALL` in the state
`s`, and let no other have begun by the state `u`.  The goroutine has taken three steps for each address at
most, and one more.  If it is asleep again, then each address that the hash had in `s` has a client, and
keeps that client in every later state `v`, where `DeliverMessage` calls the gateway at the address instead
of giving up; unless `grpc.NewClient` has failed for the address in this pass. -/
theorem discovered {pre es fs : List Event} {s t u v : State} {addrs : List String}
    (hs : system.run init pre = some s) (hget : step s (.hGetAll (some addrs)) = some t)
    (hu : system.run t es = some u) (hes : ∀ o, .hGetAll o ∉ es) (hv : system.run u fs = some v) :
    es.countP Event.isLoop ≤ 3 * s.gateways.length + 1 ∧
      (u.loop = .asleep → ∀ id addr, (id, addr) ∈ s.gateways → addr ∉ system.observe failed? t es →
        ∃ client, u.clients addr = some client ∧ v.clients addr = some client ∧
          v.conns[client]? = some addr ∧ ∀ rpc, deliverMessage v addr rpc = rpc client) := by
  obtain ⟨hperm, hpass⟩ := pass hget hu hes
  constructor
  · have hlength : addrs.length = s.gateways.length := by
      rw [hperm.length_eq, List.length_map]
    have hleft := hpass.left
    omega
  · intro hasleep id addr hmem hok
    have haddr : addr ∈ addrs := hperm.mem_iff.mpr (List.mem_map.mpr ⟨_, hmem, rfl⟩)
    have hclient : u.clients addr ≠ none := by
      rcases hpass.done addr haddr with hclient | hfailed | hrest
      · exact hclient
      · exact absurd hfailed hok
      · rw [hasleep] at hrest
        cases hrest
    obtain ⟨client, hc⟩ := Option.ne_none_iff_exists'.mp hclient
    have htrun : system.run init (pre ++ [.hGetAll (some addrs)]) = some t :=
      (System.run_concat ..).mpr ⟨s, hs, hget⟩
    have hvrun : system.run init (pre ++ [.hGetAll (some addrs)] ++ es ++ fs) = some v :=
      (System.run_append ..).mpr ⟨u, (System.run_append ..).mpr ⟨t, htrun, hu⟩, hv⟩
    have hureach : system.Reachable u := System.Reachable.run ⟨_, htrun⟩ hu
    have hkept : v.clients addr = some client :=
      OnDemand.value_kept (cacheProjection.reachable hureach) (cacheProjection.run hv) (nodup_conns hvrun) hc
    refine ⟨client, hc, hkept, ?_, fun rpc => ?_⟩
    · exact (OnDemand.inv (cacheProjection.reachable ⟨_, hvrun⟩)).map addr client hkept
    · unfold deliverMessage
      rw [hkept]

/-- The gateway that was connected to leaves after the pass. -/
theorem discovered_twoGatewaysRun :
    ∃ v, system.run init (twoGatewaysRun ++ [.hDel "gw2"]) = some v ∧
      ∃ client, v.clients "10.0.0.2:9000" = some client ∧ v.conns[client]? = some "10.0.0.2:9000" := by
  obtain ⟨s, hs⟩ : ∃ s, system.run init (twoGatewaysRun.take 2) = some s := ⟨_, rfl⟩
  obtain ⟨t, ht⟩ : ∃ t, step s (.hGetAll (some ["10.0.0.2:9000", "10.0.0.1:9000"])) = some t := by
    obtain rfl := Option.some.inj hs
    exact ⟨_, rfl⟩
  obtain ⟨u, hu⟩ : ∃ u, system.run t (twoGatewaysRun.drop 3) = some u := by
    obtain rfl := Option.some.inj hs
    obtain rfl := Option.some.inj ht
    exact ⟨_, rfl⟩
  obtain ⟨v, hv⟩ : ∃ v, system.run u [.hDel "gw2"] = some v := ⟨_, rfl⟩
  have hrun : system.run init (twoGatewaysRun ++ [.hDel "gw2"]) = some v := by
    obtain rfl := Option.some.inj hs
    obtain rfl := Option.some.inj ht
    obtain rfl := Option.some.inj hu
    obtain rfl := Option.some.inj hv
    rfl
  have hfound := (discovered hs ht hu (by simp [twoGatewaysRun]) hv).2 (by
    obtain rfl := Option.some.inj hs
    obtain rfl := Option.some.inj ht
    obtain rfl := Option.some.inj hu
    rfl) "gw2" "10.0.0.2:9000" (by
    obtain rfl := Option.some.inj hs
    decide) (by
    obtain rfl := Option.some.inj hs
    obtain rfl := Option.some.inj ht
    decide)
  obtain ⟨client, -, hc, hconn, -⟩ := hfound
  exact ⟨v, hrun, client, hc, hconn⟩

end TinyTelegram.MessageService.Discovery
