import TinyTelegram.Gateway.Peer

/-!
# What `GetOrConnect` hands out

`clients` is a map of values made on demand, which any number of goroutines share.  A client that is used
for an address was connected to it; an address that has a client keeps one; and a gateway makes no more
connections to an address than goroutines have found it without a client, before the first client was in the
map.
-/

namespace TinyTelegram.Gateway.Peer

open Lts

/-! ### The map of clients -/

/-- What a goroutine is about, as far as `clients` goes. -/
def Goroutine.phase : Goroutine → OnDemand.Phase String
  | .idle | .calling .. => .idle
  | .connecting addr _ => .missed addr
  | .storing addr client _ => .made addr client

/-- The clients, as a map of values made on demand. -/
def cache (s : State) : OnDemand.State String where
  map := s.clients
  made := s.conns
  phase n := (s.goroutines n).phase

/-- The event of the map that a step is. -/
def cacheEvent? : Event → Option (OnDemand.Event String)
  | .deliverMessage n addr _ => some (.look n addr)
  | .newClient n ok => some (.make n ok)
  | .store n => some (.store n)
  | .reply .. => none

theorem cache_setGoroutine (s : State) (n : GoroutineId) (g : Goroutine) :
    cache (s.setGoroutine n g) = (cache s).setPhase n g.phase := by
  unfold cache State.setGoroutine OnDemand.State.setPhase
  congr 1
  funext m
  show (Function.update s.goroutines n g m).phase =
    Function.update (fun n => (s.goroutines n).phase) n g.phase m
  rw [Function.update_apply, Function.update_apply]
  split_ifs <;> rfl

/-- A goroutine that goes on to something of the same phase leaves the map as it is. -/
theorem cache_setGoroutine_of_phase {s : State} {n : GoroutineId} {g : Goroutine}
    (h : (s.goroutines n).phase = g.phase) : cache (s.setGoroutine n g) = cache s := by
  rw [cache_setGoroutine, ← h]
  show OnDemand.State.mk _ _ _ = OnDemand.State.mk _ _ _
  congr 1
  exact Function.update_eq_self n _

/-- A step of a goroutine is a step on the map. -/
theorem cache_step {s t : State} {e : Event} (h : step s e = some t) :
    match cacheEvent? e with
    | none => cache t = cache s
    | some d => (OnDemand.system String).step (cache s) d = some (cache t) := by
  have hphase : ∀ n, (cache s).phase n = (s.goroutines n).phase := fun n => rfl
  cases e with
  | deliverMessage n addr msg =>
    simp only [step] at h
    show OnDemand.step (cache s) (.look n addr) = some (cache t)
    have hmap : (cache s).map addr = s.clients addr := rfl
    split at h
    · rename_i client hn hc
      obtain rfl := Option.some.inj h
      rw [cache_setGoroutine_of_phase (by rw [hn]; rfl)]
      simp only [OnDemand.step, hphase, hmap, hn, hc, Goroutine.phase]
    · rename_i hn hc
      obtain rfl := Option.some.inj h
      simp only [OnDemand.step, hphase, hmap, hn, hc, Goroutine.phase, cache_setGoroutine]
    · cases h
  | newClient n ok =>
    simp only [step] at h
    show OnDemand.step (cache s) (.make n ok) = some (cache t)
    split at h
    · rename_i addr msg hn
      obtain rfl := Option.some.inj h
      cases ok with
      | true =>
        simp only [OnDemand.step, hphase, hn, Goroutine.phase, if_true, cache_setGoroutine]
        rfl
      | false =>
        simp only [OnDemand.step, hphase, hn, Goroutine.phase, Bool.false_eq_true, if_false,
          cache_setGoroutine]
    · cases h
  | store n =>
    simp only [step] at h
    show OnDemand.step (cache s) (.store n) = some (cache t)
    split at h
    · rename_i addr client msg hn
      obtain rfl := Option.some.inj h
      simp only [OnDemand.step, hphase, hn, Goroutine.phase, cache_setGoroutine]
      rfl
    · cases h
  | reply n ack =>
    simp only [step] at h
    show cache t = cache s
    split at h
    · rename_i hn
      obtain rfl := Option.some.inj h
      exact cache_setGoroutine_of_phase (by rw [hn]; rfl)
    · cases h

/-- The clients are a map of values made on demand, whatever the RPCs do. -/
def cacheProjection : Projection system (OnDemand.system String) where
  part := cache
  event? _ e := cacheEvent? e
  part_init := rfl
  part_same h he := by
    have hstep := cache_step h
    rw [he] at hstep
    exact hstep
  part_step h he := by
    have hstep := cache_step h
    rw [he] at hstep
    exact hstep

/-! ### Calls and connections -/

/-- An RPC starts with a client that the map hands out. -/
theorem calls?_map (s : State) (e : Event) :
    (calls? s e).map (fun call => (call.1, call.2.1)) =
      ((cacheEvent? e).bind (OnDemand.handsOut? (cache s))).map Prod.snd := by
  cases e with
  | deliverMessage n addr msg =>
    show ((s.clients addr).map _).map _ = ((s.clients addr).map _).map _
    cases s.clients addr <;> rfl
  | newClient n ok => rfl
  | store n =>
    show _ = (OnDemand.handsOut? (cache s) (.store n)).map Prod.snd
    have hphase : (cache s).phase n = (s.goroutines n).phase := rfl
    simp only [calls?, OnDemand.handsOut?, hphase]
    cases s.goroutines n <;> rfl
  | reply n ack => rfl

theorem misses?_eq (s : State) (e : Event) :
    misses? s e = (cacheEvent? e).bind (OnDemand.misses? (cache s)) := by
  cases e <;> rfl

/-- The client of an RPC was handed out for the address of the RPC. -/
theorem exists_handedOut {es : List Event} {s : State} (h : system.run init es = some s)
    {addr : String} {client : ClientId} {msg : PersistedMessage}
    (hcall : (addr, client, msg) ∈ system.observe calls? init es) :
    ∃ n, (n, addr, client) ∈ (OnDemand.system String).observe OnDemand.handsOut? OnDemand.init
      (system.observe cacheProjection.event? init es) := by
  have hobserve := cacheProjection.observe OnDemand.handsOut? h
  change (OnDemand.system String).observe _ OnDemand.init _ = _ at hobserve
  rw [hobserve]
  revert hcall
  refine system.run_induction (motive := fun es _ => (addr, client, msg) ∈ system.observe calls? init es →
    ∃ n, (n, addr, client) ∈ system.observe _ init es) (fun hcall => by cases hcall) ?_ h
  intro es u e t hu ih hstep hcall
  rw [System.observe_concat calls? hu, List.mem_append, Option.mem_toList] at hcall
  rw [System.observe_concat _ hu]
  rcases hcall with hold | hnew
  · obtain ⟨n, hn⟩ := ih hold
    exact ⟨n, List.mem_append_left _ hn⟩
  · have hmap := calls?_map u e
    rw [hnew, Option.map_some, eq_comm, Option.map_eq_some_iff] at hmap
    obtain ⟨⟨n, addr', client'⟩, hout, heq⟩ := hmap
    obtain ⟨rfl, rfl⟩ := Prod.mk.inj heq
    exact ⟨n, List.mem_append_right _ (Option.mem_toList.mpr hout)⟩

/-- **Every RPC goes to the gateway that it is for, and few connections are made.**  The client of an RPC
is one of a connection to the address that `DeliverMessage` was called for.  And when an address has a
client after `pre`, it has one for good, and over the whole run no more connections to it are made than
goroutines have found it without one in `pre`. -/
theorem getOrConnect {pre es : List Event} {s t : State} (hpre : system.run init pre = some s)
    (h : system.run s es = some t) :
    (∀ addr client msg, (addr, client, msg) ∈ system.observe calls? init (pre ++ es) →
      t.conns[client]? = some addr) ∧
    ∀ addr, s.clients addr ≠ none → t.clients addr ≠ none ∧
      t.conns.count addr ≤ (system.observe misses? init pre).countP (fun a => a.2 = addr) := by
  have hrun : system.run init (pre ++ es) = some t := (System.run_append ..).mpr ⟨s, hpre, h⟩
  have hcachePre := cacheProjection.run hpre
  have hcache := cacheProjection.run h
  constructor
  · intro addr client msg hcall
    obtain ⟨n, hn⟩ := exists_handedOut hrun hcall
    exact OnDemand.made_of_handedOut (cacheProjection.run hrun) hn
  · intro addr haddr
    refine ⟨OnDemand.kept hcache haddr, ?_⟩
    have hcount := OnDemand.count_made_le hcachePre hcache haddr
    have hmisses := cacheProjection.observe OnDemand.misses? hpre
    change (OnDemand.system String).observe _ OnDemand.init _ = _ at hmisses
    rw [hmisses] at hcount
    have heq : (fun s e => (cacheEvent? e).bind (OnDemand.misses? (cache s))) = misses? := by
      funext s e
      exact (misses?_eq s e).symm
    rw [← heq]
    exact hcount

/-- Two goroutines deliver to the same gateway, and neither finds a client. -/
def twoDialsRun : List Event :=
  [.deliverMessage 0 "10.0.0.2:9000" ⟨"m1", none, 1, 1, 0⟩,
    .deliverMessage 1 "10.0.0.2:9000" ⟨"m2", none, 2, 1, 0⟩,
    .newClient 0 true, .newClient 1 true, .store 0, .store 1, .reply 0 (some true)]

theorem getOrConnect_twoDialsRun :
    ∃ t, system.run init twoDialsRun = some t ∧ t.clients "10.0.0.2:9000" = some 1 ∧
      t.conns.count "10.0.0.2:9000" ≤ 2 := by
  obtain ⟨s, hs⟩ : ∃ s, system.run init (twoDialsRun.take 5) = some s := ⟨_, rfl⟩
  obtain ⟨t, ht⟩ : ∃ t, system.run s (twoDialsRun.drop 5) = some t := by
    obtain rfl := Option.some.inj hs
    exact ⟨_, rfl⟩
  have hkept := (getOrConnect hs ht).2 "10.0.0.2:9000" (by
    obtain rfl := Option.some.inj hs
    decide)
  refine ⟨t, (System.run_append ..).mpr ⟨s, hs, ht⟩, ?_, hkept.2⟩
  obtain rfl := Option.some.inj hs
  obtain rfl := Option.some.inj ht
  rfl

end TinyTelegram.Gateway.Peer
