import TinyTelegram.Gateway.Equiv.Acks
import TinyTelegram.Gateway.Equiv.Incoming
import TinyTelegram.WebClient.Equiv.Acks

/-!
# What is lost behind the client's PTS

The sent and the received messages of a user share a counter, and the client keeps one PTS for both.  A
message that arrives with a PTS that is not the next one is reported as a gap, and so what the client
has missed lies in a gap (`Accounted.message`).  An acknowledgement takes the client to the sender's PTS
without that check (`not_noSilentLoss`), and what it has passed is not reported later either
(`le_reported`).

`noSilentLoss` is about the runs without such an acknowledgement, where `NoSkip` says what it may pass
over: the PTS of a call that has failed without a row, and that of its own message, if the user writes
to himself.  The invariant is `Accounted`, about the PTS that calls have been handed; whether and when
they are committed does not matter.
-/

namespace TinyTelegram.WebClient

open Gateway (ConnId Frame)
open Gateway.Cluster (awaited? held NoRollback)
open MessageService (CallId ptsKey)
open MessageService.Counters (handed?)

variable {ρ χ ε : Type}

/-- The events of a session over plain counters. -/
abbrev CounterEvent := Event MessageService.Counters.Choice MessageService.Counters.Event

/-- The states of a session over plain counters. -/
abbrev CounterState := State MessageService.Counters.State

/-- A tab with the web client, in a cluster over plain counters. -/
abbrev counterSession (addr : Gateway.GwId → String) : Lts.System CounterState CounterEvent :=
  session MessageService.Counters.redis addr

/-- The frame that is next on a socket of the tab. -/
def nextFrame? (s : State ρ) (c : ConnId) : Option Frame :=
  (s.links c).bind fun link => (s.cluster.out c)[link.received]?

/-- The gap that the client reports in a step. -/
def reported? (s : State ρ) : Event χ ε → Option (Int × Int)
  | .onMessage c _ =>
    (nextFrame? s c).bind fun frame =>
      frame.message?.bind fun m => m.message.bind fun msg => s.client.gap? m msg
  | _ => none

/-- The events of a page that `u` is connected with: it connects as `u`, and is not loaded again. -/
def AsUser (u : String) : Event χ ε → Prop
  | .connect _ userId _ | .connectFails userId _ => userId = u
  | .reload => False
  | _ => True

instance (u : String) : DecidablePred (AsUser u : Event χ ε → Prop)
  | .connect _ userId _ | .connectFails userId _ => inferInstanceAs (Decidable (userId = u))
  | .reload => isFalse not_false
  | .onOpen .. | .onMessage .. | .onClose .. | .send .. | .cluster .. => isTrue trivial

/-- The message `id` is in transit to the tab: a handler waits for the call that has returned it, it is
at hand where its receiver is looked up, it is with a gateway on the way to a socket of the tab that is
not closed, or it is written to one and not received. -/
inductive InTransit (s : State ρ) (id : String) : Prop where
  | call {k incoming call msg alloc m} (hk : awaited? (s.cluster.handlers k) = some (incoming, call))
      (hcall : s.cluster.service.calls call = .returned msg alloc (.ok m)) (hid : m.id = id)
  | routing {l m} (hl : l.dest? = none) (hm : m ∈ held s.cluster l) (hid : m.id = id)
  | channel {l c link m} (hl : l.dest? = some c) (hne : l ≠ .socket c)
      (hlink : s.links c = some link) (hopen : link.readyState ≠ .closed)
      (hm : m ∈ held s.cluster l) (hid : m.id = id)
  | socket {c link m} (hlink : s.links c = some link) (hopen : link.readyState ≠ .closed)
      (hm : .message m ∈ (s.cluster.out c).drop link.received) (hid : m.id = id)

/-- Every committed row for `u` up to the client's PTS is in its messages, or in transit to it, or lies
strictly inside one of the gaps. -/
def NoSilentLoss (s : State ρ) (gaps : List (Int × Int)) (u : String) : Prop :=
  ∀ r ∈ s.cluster.service.table, r.receiverId = u → r.receiverPts ≤ s.client.localPts →
    (s.client.messages r.id).isSome = true ∨ InTransit s r.id ∨
      ∃ g ∈ gaps, g.1 < r.receiverPts ∧ r.receiverPts < g.2

variable {R : MessageService.Redis ρ χ ε} {addr : Gateway.GwId → String}

/-- The PTS of the client rises as long as the page is not loaded again. -/
theorem localPts_mono {u : String} {s t : State ρ} {e : Event χ ε} (huser : AsUser u e)
    (hstep : Step R addr s e t) : s.client.localPts ≤ t.client.localPts := by
  cases hstep with
  | onMessage hl hframe => exact s.client.localPts_le_onMessage ..
  | onClose hl => exact (Client.onClose_localPts _).ge
  | reload => exact huser.elim
  | cluster hallowed hx => exact (congrArg Client.localPts (noteCluster_client ..)).ge
  | _ => exact le_rfl

/-- **What the client has passed is not reported any more**: a gap that it reports begins at its PTS or
above. -/
theorem le_reported {u : String} {s t : State ρ} {es : List (Event χ ε)}
    (h : (session R addr).run s es = some t) (huser : ∀ e ∈ es, AsUser u e) :
    s.client.localPts ≤ t.client.localPts ∧
      ∀ g ∈ (session R addr).observe reported? s es, s.client.localPts ≤ g.1 := by
  revert huser
  refine Lts.System.run_induction (S := session R addr)
    (motive := fun es t => (∀ e ∈ es, AsUser u e) → s.client.localPts ≤ t.client.localPts ∧
      ∀ g ∈ (session R addr).observe reported? s es, s.client.localPts ≤ g.1)
    (fun _ => ⟨le_rfl, fun _ hg => absurd hg List.not_mem_nil⟩) ?_ h
  intro es v e t hv ih hstep huser
  obtain ⟨hle, hgaps⟩ := ih fun e he => huser e (List.mem_append_left _ he)
  have he : AsUser u e := huser e (List.mem_append_right _ (List.mem_singleton_self _))
  refine ⟨hle.trans (localPts_mono he (step_cases hstep)), fun g hg => ?_⟩
  rw [Lts.System.observe_concat _ hv, List.mem_append, Option.mem_toList] at hg
  rcases hg with hold | hnew
  · exact hgaps g hold
  · cases e with
    | onMessage c now =>
      obtain ⟨frame, -, hnew⟩ := Option.bind_eq_some_iff.mp hnew
      obtain ⟨m, -, hnew⟩ := Option.bind_eq_some_iff.mp hnew
      obtain ⟨msg, -, hnew⟩ := Option.bind_eq_some_iff.mp hnew
      rw [v.client.gap?_fst hnew]
      exact hle
    | _ => cases hnew

/-! ### The failing run -/

/-- Bob's message to Alice is on her socket when the connection is lost.  She connects again, and writes
to Bob. -/
def lostRun : List CounterEvent :=
  loginRun ++
  [.cluster (.connect 1 0 "bob"), .cluster (.handler 1 (.registerUser true)),
    .cluster (.handler 1 .registerConn), .cluster (.handler 1 (.frame (some ⟨"alice", "hi"⟩) 0 1)),
    .cluster (.service (.redis 0 (.incr .executed))), .cluster (.service (.redis 0 (.incr .executed))),
    .cluster (.service (.redis 0 (.wait (.ok 1)))), .cluster (.service (.insert 0 "b1" 2 3 .executed)),
    .cluster (.handler 1 .persisted), .cluster (.handler 1 (.ack true true)),
    .cluster (.handler 1 (.locate false 0)), .cluster (.handler 1 .lookup),
    .cluster (.handler 1 .send), .cluster (.writer 0 .receive),
    .cluster (.writer 0 (.write true true)), .onClose 0,
    .connect 2 "alice" "ws://gateway1", .cluster (.connect 2 0 "alice"),
    .cluster (.handler 2 (.registerUser true)), .cluster (.handler 2 .registerConn), .onOpen 2,
    .send "bob" "hello" 4 "k3vd", .cluster (.handler 2 (.frame (some ⟨"bob", "hello"⟩) 1 5)),
    .cluster (.service (.redis 1 (.incr .executed))), .cluster (.service (.redis 1 (.incr .executed))),
    .cluster (.service (.redis 1 (.wait (.ok 1)))), .cluster (.service (.insert 1 "a1" 6 7 .executed)),
    .cluster (.handler 2 .persisted), .cluster (.handler 2 (.ack true true)), .onMessage 2 8]

/-- A message that was written to a socket of the tab is lost when that is closed. -/
theorem not_inTransit {s : State ρ} (h : (session R addr).Reachable s) {c : ConnId} {link : Link}
    (hl : s.links c = some link) (hclosed : link.readyState = .closed) {m : PersistedMessage}
    (hm : m ∈ held s.cluster (.socket c)) : ¬ InTransit s m.id := by
  have hreach := cluster_reachable h
  have hsound := Gateway.Cluster.sound hreach
  have hservice := Gateway.Cluster.service_reachable hreach
  -- it is in no other place
  have hplace : ∀ {l m'}, m' ∈ held s.cluster l → m'.id = m.id → l = .socket c := by
    intro l m' hm' hid
    refine hsound.linear.place_unique l (.socket c) m.id ?_ (List.mem_map_of_mem hm)
    rw [← hid]
    exact List.mem_map_of_mem hm'
  intro htransit
  cases htransit with
  | @call k incoming call msg alloc m' hk hcall hid =>
    -- no handler waits for the call that returned it
    obtain ⟨call', msg', alloc', hret, hnot⟩ := hsound.origin _ m hm
    obtain rfl := MessageService.Service.returned_id_inj hservice hcall hret hid
    exact hnot k incoming hk
  | routing hl' hm' hid =>
    rw [hplace hm' hid] at hl'
    cases hl'
  | channel hl' hne hlink hopen hm' hid =>
    obtain rfl := hplace hm' hid
    obtain rfl := Option.some.inj hl'
    exact hne rfl
  | socket hlink hopen hm' hid =>
    have hheld := Gateway.Cluster.mem_held_socket.mpr (List.mem_of_mem_drop hm')
    obtain rfl := Gateway.Cluster.Place.socket.inj (hplace hheld hid)
    obtain rfl := Option.some.inj (hl.symm.trans hlink)
    exact hopen hclosed

/-- **The acknowledgement takes Alice past Bob's message**, and she reports nothing. -/
theorem not_noSilentLoss : ∃ s,
    (counterSession Gateway.Cluster.twoGateways).run
      (counterSession Gateway.Cluster.twoGateways).init lostRun = some s ∧
    (∀ e ∈ lostRun, AsUser "alice" e) ∧
    ¬ NoSilentLoss s ((counterSession Gateway.Cluster.twoGateways).observe
      reported? (counterSession Gateway.Cluster.twoGateways).init lostRun) "alice" := by
  obtain ⟨s, m, hrun, hlink, hm, hid, hrow, hpts, hmessages⟩ : ∃ s m,
      (counterSession Gateway.Cluster.twoGateways).run
        (counterSession Gateway.Cluster.twoGateways).init lostRun = some s ∧
      (s.links 0).map Link.readyState = some .closed ∧ m ∈ held s.cluster (.socket 0) ∧
      m.id = "b1" ∧ ⟨"b1", "bob", "alice", "hi", 1, 1, 2⟩ ∈ s.cluster.service.table ∧
      s.client.localPts = 2 ∧ s.client.messages "b1" = none :=
    ⟨_, ⟨"b1", some ⟨"bob", "alice", "hi", 1⟩, 1, 1, 3⟩, rfl, rfl, by decide, rfl, by decide, rfl, rfl⟩
  refine ⟨s, hrun, by decide, fun h => ?_⟩
  obtain ⟨link, hl, hclosed⟩ := Option.map_eq_some_iff.mp hlink
  rcases h _ hrow rfl (by rw [hpts]; decide) with hstored | htransit | ⟨g, hg, -⟩
  · rw [hmessages] at hstored
    cases hstored
  · exact not_inTransit ⟨_, hrun⟩ hl hclosed hm (hid ▸ htransit)
  · have hnone : (counterSession Gateway.Cluster.twoGateways).observe reported?
        (counterSession Gateway.Cluster.twoGateways).init lostRun = [] := rfl
    rw [hnone] at hg
    exact absurd hg List.not_mem_nil

/-! ### One user -/

/-- The tab is that of `u`. -/
structure OneUser (u : String) (s : State ρ) : Prop where
  client : ∀ c, s.links c ≠ none → s.client.userId = some u
  link : ∀ c link, s.links c = some link → link.user = u
  socket : ∀ c, s.links c ≠ none → ∀ sock, s.cluster.sockets c = some sock → sock.user = u

section OneUser

variable {u : String} {s t : State ρ} {e : Event χ ε}

theorem oneUser_init : OneUser u (init R) where
  client _ hc := absurd rfl hc
  link _ _ hl := by cases hl
  socket _ hc := absurd rfl hc

/-- A step of the tab on one of its sockets. -/
theorem OneUser.congr (h : OneUser u s) (hcluster : t.cluster = s.cluster)
    (hclient : t.client.userId = s.client.userId) {c : ConnId} {link link' : Link}
    (hl : s.links c = some link) (hlinks : t.links = Function.update s.links c (some link'))
    (huser : link'.user = link.user) : OneUser u t := by
  have hold : ∀ k l, t.links k = some l → ∃ l', s.links k = some l' ∧ l.user = l'.user :=
    fun k l hk => user_of_update hk hl hlinks huser
  have hlinked : ∀ k, t.links k ≠ none → s.links k ≠ none := by
    intro k hk
    obtain ⟨l, hl⟩ := Option.ne_none_iff_exists'.mp hk
    obtain ⟨l', hl', -⟩ := hold k l hl
    exact Option.ne_none_iff_exists'.mpr ⟨l', hl'⟩
  refine ⟨fun k hk => ?_, fun k l hk => ?_, fun k hk => ?_⟩
  · rw [hclient]
    exact h.client k (hlinked k hk)
  · obtain ⟨l', hl', heq⟩ := hold k l hk
    rw [heq]
    exact h.link k l' hl'
  · rw [hcluster]
    exact h.socket k (hlinked k hk)

/-- **One step** of a page that `u` is connected with. -/
theorem OneUser.step (h : OneUser u s) (hstep : Step R addr s e t) (huser : AsUser u e) :
    OneUser u t := by
  cases hstep with
  | @connect c userId gatewayUrl hnew hs =>
    obtain rfl : userId = u := huser
    have hlinks : ∀ k, k ≠ c → Function.update s.links c (some ⟨userId, .connecting, [], 0, 0⟩) k =
        s.links k := fun k hk => Function.update_of_ne hk ..
    refine ⟨fun k hk => rfl, fun k link hk => ?_, fun k hk sock hsock => ?_⟩
    · by_cases hkc : k = c
      · subst hkc
        have hk' : Function.update s.links k _ k = some link := hk
        rw [Function.update_self] at hk'
        obtain rfl := Option.some.inj hk'
        rfl
      · exact h.link k link ((hlinks k hkc).symm.trans hk)
    · by_cases hkc : k = c
      · subst hkc
        exact absurd (hs.symm.trans hsock) (Option.some_ne_none _).symm
      · exact h.socket k (fun hnone => hk ((hlinks k hkc).trans hnone)) sock hsock
  | connectFails =>
    obtain rfl : _ = u := huser
    exact ⟨fun _ _ => rfl, h.link, h.socket⟩
  | onOpen hl => exact h.congr rfl rfl hl rfl rfl
  | @onMessage c now link frame hl hframe =>
    refine h.congr (note_cluster s frame) (s.client.onMessage_userId now frame) hl
      (congrArg (Function.update · c _) (note_links s frame)) rfl
  | onClose hl => exact h.congr rfl (Client.onClose_userId _) hl rfl rfl
  | send hl => exact h.congr rfl rfl hl rfl rfl
  | sendClosed => exact h
  | reload => exact huser.elim
  | @cluster e x hallowed hx =>
    refine ⟨fun c hc => ?_, fun c link hl => ?_, fun c hc sock hsock => ?_⟩
    · exact (congrArg Client.userId (noteCluster_client s e)).trans
        (h.client c (links_of_noteCluster hc))
    · obtain ⟨link', hl', huser'⟩ := noteCluster_user hl
      exact huser'.trans (h.link c link' hl')
    · have hc' := links_of_noteCluster hc
      rcases Gateway.Cluster.opened_step (Gateway.Cluster.step_cases hx) hsock with hold | rfl
      · exact h.socket c hc' sock hold
      · obtain ⟨link, hl⟩ := Option.ne_none_iff_exists'.mp hc'
        -- a socket of the tab is opened for its user
        have huser' : link.user = sock.user := by
          simpa [allowed, hl] using hallowed
        rw [← huser', h.link c link hl]

end OneUser

/-! ### Which PTS are accounted for -/

/-- The row of a call is in the messages of the client. -/
def Stored (s : State ρ) (call : CallId) : Prop :=
  ∃ x ∈ s.cluster.service.committed, x.call = call ∧ (s.client.messages x.row.id).isSome = true

/-- A call has failed, and committed nothing. -/
def Void (s : State ρ) (call : CallId) : Prop :=
  (s.cluster.service.calls call).Failed ∧ ∀ x ∈ s.cluster.service.committed, x.call ≠ call

/-- The acknowledgement with the id `id` puts the row of a call into the messages of the client. -/
def Replaces (s : State ρ) (id : String) (call : CallId) : Prop :=
  s.replacing?.isSome = true ∧ ∃ x ∈ s.cluster.service.committed, x.call = call ∧ x.row.id = id

/-- The event rolls no counter back, and if it is an acknowledgement, no PTS that a call has been handed
for a message to `u` lies between the client's and that of the acknowledgement, except where the call has
failed without a row, or its own row is put into the messages. -/
def NoSkip (u : String) (s : CounterState) : CounterEvent → Prop
  | .cluster e => NoRollback e
  | .onMessage c _ => ∀ p id, nextFrame? s c = some (.ack p id) →
    ∀ call msg q sp, handed? (s.cluster.service.calls call) = some (msg, q, sp) →
      msg.receiverId = u → s.client.localPts < q → q < p → Void s call ∨ Replaces s id call
  | _ => True

/-- Every PTS that a call has been handed for a message to `u`, up to the client's, lies inside a gap, or
belongs to a row that is in the client's messages, or to a call that has failed without a row. -/
def Accounted (s : State ρ) (gaps : List (Int × Int)) (u : String) : Prop :=
  ∀ call msg q sp, handed? (s.cluster.service.calls call) = some (msg, q, sp) →
    msg.receiverId = u → q ≤ s.client.localPts →
    (∃ g ∈ gaps, g.1 < q ∧ q < g.2) ∨ Stored s call ∨ Void s call

/-- Nothing is lost while every PTS is accounted for. -/
theorem Accounted.nothing_lost {s : State ρ}
    (hrec : MessageService.Service.Recorded s.cluster.service) {gaps : List (Int × Int)} {u : String}
    (h : Accounted s gaps u) : NoSilentLoss s gaps u := by
  intro r hr hu hle
  obtain ⟨x, hx, rfl⟩ := List.mem_map.mp hr
  obtain ⟨msg, rp, sp, res, msgID, createdAt, hcall, hrow⟩ := hrec.returned x hx
  rw [hrow] at hu hle
  have hhanded : handed? (s.cluster.service.calls x.call) = some (msg, rp, some sp) := by
    rw [hcall]
    rfl
  rcases h x.call msg rp (some sp) hhanded hu hle with hgap | ⟨y, hy, hxy, hstored⟩ | ⟨-, hvoid⟩
  · refine Or.inr (Or.inr ?_)
    rw [hrow]
    exact hgap
  · obtain rfl := List.inj_on_of_nodup_map hrec.nodup hy hx hxy
    exact Or.inl hstored
  · exact absurd rfl (hvoid x hx)

section Steps

variable {u : String} {s t : CounterState} {gaps gaps' : List (Int × Int)}

/-- A step of the tab: the PTS that it takes the client past are accounted for. -/
theorem Accounted.advance (h : Accounted s gaps u) (hcluster : t.cluster = s.cluster)
    (hgaps : gaps ⊆ gaps')
    (hmessages : ∀ r ∈ s.cluster.service.table, (s.client.messages r.id).isSome = true →
      (t.client.messages r.id).isSome = true)
    (hnew : ∀ call msg q sp, handed? (s.cluster.service.calls call) = some (msg, q, sp) →
      msg.receiverId = u → s.client.localPts < q → q ≤ t.client.localPts →
      (∃ g ∈ gaps', g.1 < q ∧ q < g.2) ∨ Stored t call ∨ Void s call) : Accounted t gaps' u := by
  have hvoid : ∀ {call}, Void s call → Void t call := by
    intro call hvoid
    rwa [Void, hcluster]
  intro call msg q sp hhanded hu hle
  rw [hcluster] at hhanded
  by_cases hpast : s.client.localPts < q
  · rcases hnew call msg q sp hhanded hu hpast hle with hgap | hstored | hv
    · exact Or.inl hgap
    · exact Or.inr (Or.inl hstored)
    · exact Or.inr (Or.inr (hvoid hv))
  · rcases h call msg q sp hhanded hu (not_lt.mp hpast) with
      ⟨g, hg, hgap⟩ | ⟨x, hx, hcall, hstored⟩ | hv
    · exact Or.inl ⟨g, hgaps hg, hgap⟩
    · refine Or.inr (Or.inl ⟨x, by rwa [hcluster], hcall, ?_⟩)
      exact hmessages x.row (List.mem_map_of_mem hx) hstored
    · exact Or.inr (Or.inr (hvoid hv))

/-- A step of the tab that leaves the PTS of the client as it is. -/
theorem Accounted.keep (h : Accounted s gaps u) (hcluster : t.cluster = s.cluster)
    (hpts : t.client.localPts = s.client.localPts)
    (hmessages : ∀ r ∈ s.cluster.service.table, (s.client.messages r.id).isSome = true →
      (t.client.messages r.id).isSome = true) : Accounted t gaps u := by
  refine h.advance hcluster (List.Subset.refl _) hmessages fun call msg q sp _ _ hlt hle => ?_
  rw [hpts] at hle
  exact absurd hle hlt.not_ge

/-- More gaps. -/
theorem Accounted.subset (h : Accounted s gaps u) (hgaps : gaps ⊆ gaps') : Accounted s gaps' u := by
  intro call msg q sp hhanded hu hle
  exact (h call msg q sp hhanded hu hle).imp_left fun ⟨g, hg, hgap⟩ => ⟨g, hgaps hg, hgap⟩

/-- A step of the cluster: it hands out PTS above the client's only. -/
theorem Accounted.cluster {e : Gateway.Cluster.CounterEvent} {x : Gateway.Cluster.CounterState}
    (h : Accounted s gaps u) (hle : s.client.localPts ≤ s.cluster.service.redis.value (ptsKey u))
    (hback : NoRollback e) (hx : (Gateway.counterCluster addr).step s.cluster e = some x) :
    Accounted ((noteCluster s e).setCluster x) gaps u := by
  have hclient : ((noteCluster s e).setCluster x).client = s.client := noteCluster_client s e
  have hstep := Gateway.Cluster.step_cases hx
  have hcommitted := Gateway.Cluster.committed_prefix hstep
  intro call msg q sp hhanded hu hpts
  rw [hclient] at hpts
  rcases Gateway.Cluster.handed_receiver hstep hback hhanded with ⟨sp', hold⟩ | hlt
  · rcases h call msg q sp' hold hu hpts with hgap | ⟨y, hy, hcall, hstored⟩ | ⟨hfailed, hnone⟩
    · exact Or.inl hgap
    · refine Or.inr (Or.inl ⟨y, hcommitted.subset hy, hcall, ?_⟩)
      rwa [hclient]
    · obtain ⟨hfailed', hkept⟩ := Gateway.Cluster.failed_step hstep hback hfailed
      exact Or.inr (Or.inr ⟨hfailed', fun y hy hcall => hnone y (hkept y hy hcall) hcall⟩)
  · rw [hu] at hlt
    exact absurd (hpts.trans hle) hlt.not_ge

/-! ### What arrives on a socket -/

section Frames

variable {es : List Gateway.Cluster.CounterEvent}
  (hrun : (Gateway.counterCluster addr).run (Gateway.counterCluster addr).init es = some s.cluster)
  (hback : (Gateway.counterCluster addr).Meets (fun _ => NoRollback)
    (Gateway.counterCluster addr).init es)
  (huser : OneUser u s)

include hrun hback huser

/-- A message on a socket of the tab is for `u`, and the row of the call that was handed its PTS. -/
theorem received_message {c : ConnId} {link : Link} (hl : s.links c = some link)
    {m : PersistedMessage} (hm : .message m ∈ s.cluster.out c) :
    ∃ msg call r, m.message = some msg ∧ s.client.applicablePts m msg = some m.receiverPts ∧
      ⟨call, r⟩ ∈ s.cluster.service.committed ∧ r.id = m.id ∧ 0 < m.receiverPts ∧
      m.receiverPts ≤ s.cluster.service.redis.value (ptsKey u) ∧
      MessageService.Granted s.cluster.service.redis.issued u (call, .receiver) m.receiverPts := by
  obtain ⟨ds, hds, hdsback⟩ := Gateway.Cluster.service_run hrun hback
  have hsound := Gateway.Cluster.sound (R := MessageService.Counters.redis) ⟨es, hrun⟩
  have hheld : m ∈ held s.cluster (.socket c) := Gateway.Cluster.mem_held_socket.mpr hm
  have hlinked : s.links c ≠ none := by
    rw [hl]
    exact Option.some_ne_none _
  obtain ⟨sock, hsock, hreceiver⟩ := hsound.routed _ m hheld c rfl
  rw [huser.socket c hlinked sock hsock] at hreceiver
  obtain ⟨call, msg, alloc, hret, -, hgranted⟩ :=
    Gateway.Cluster.granted_of_held hds hdsback hsound hheld hreceiver
  obtain ⟨hmsg, -, createdAt, hcommitted⟩ :=
    (MessageService.Service.recorded ⟨ds, hds⟩).ok hret
  have hpts := MessageService.Counters.granted_le hds hdsback hgranted
  have hu : msg.receiverId = u := by
    simpa [PersistedMessage.isReceiver, hmsg] using hreceiver
  refine ⟨msg, call, _, hmsg, ?_, hcommitted, rfl, hpts.1, hpts.2, hgranted⟩
  rw [Client.applicablePts, if_pos]
  rw [huser.client c hlinked, hu]

/-- An acknowledgement on a socket of the tab has a PTS that was handed to a call of `u` for the
sender. -/
theorem received_ack {c : ConnId} {link : Link} (hl : s.links c = some link) {p : Int} {id : String}
    (hack : .ack p id ∈ s.cluster.out c) :
    p ≤ s.cluster.service.redis.value (ptsKey u) ∧
      ∃ call, MessageService.Granted s.cluster.service.redis.issued u (call, .sender) p := by
  have hlinked : s.links c ≠ none := by
    rw [hl]
    exact Option.some_ne_none _
  obtain ⟨sock, hsock, hle, hgranted⟩ := Gateway.Cluster.granted_of_ack hrun hback hack
  rw [huser.socket c hlinked sock hsock] at hle hgranted
  exact ⟨hle, hgranted⟩

/-- **A message that arrives**: the client reports a gap up to its PTS, unless there is nothing in
between. -/
theorem Accounted.message (h : Accounted s gaps u) {c : ConnId} {link : Link}
    (hl : s.links c = some link) {m : PersistedMessage}
    (hframe : (s.cluster.out c)[link.received]? = some (.message m)) (hcluster : t.cluster = s.cluster)
    {now : Int} (hclient : t.client = s.client.onMessage now (.message m)) :
    Accounted t (gaps ++ (reported? s (.onMessage c now : Event χ ε)).toList) u := by
  obtain ⟨ds, hds, hdsback⟩ := Gateway.Cluster.service_run hrun hback
  obtain ⟨msg, call, r, hmsg, hpts, hr, hid, hpos, -, hgranted⟩ :=
    received_message hrun hback huser hl (List.mem_of_getElem? hframe)
  have hclient' : t.client = s.client.handleIncomingMessage m msg now := by
    rw [hclient, Client.onMessage, hmsg]
  obtain ⟨stored, hmessages, -⟩ := s.client.handleIncomingMessage_messages m msg now
  rw [← hclient'] at hmessages
  have hlocal : t.client.localPts = (s.client.updatePtsIf m.receiverPts).localPts := by
    rw [hclient', (s.client.handleIncomingMessage_updatePtsIf m msg now).1, hpts, Option.getD_some]
  have hreported : reported? s (.onMessage c now : Event χ ε) = s.client.gap? m msg := by
    simp only [reported?, nextFrame?, hl, Option.bind_some, hframe, Frame.message?, hmsg]
  refine h.advance hcluster (List.subset_append_left ..) (fun r' _ hsome => ?_)
    fun call' msg' q sp hhanded hu hlt hle => ?_
  · rw [hmessages]
    by_cases hm : r'.id = m.id
    · rw [hm, Function.update_self]
      rfl
    · rwa [Function.update_of_ne hm]
  · rw [hlocal] at hle
    rcases s.client.updatePtsIf_localPts m.receiverPts with hsame | ⟨-, hnew⟩
    · rw [hsame] at hle
      exact absurd hle hlt.not_ge
    · rw [hnew] at hle
      rcases hle.lt_or_eq with hbelow | rfl
      · refine Or.inl ⟨(s.client.localPts, m.receiverPts), ?_, hlt, hbelow⟩
        rw [hreported, Client.gap?, hpts, Option.bind_some, if_pos ⟨hpos.ne', by omega⟩]
        exact List.mem_append_right _ (List.mem_singleton_self _)
      · -- the PTS of the message itself was handed to its own call only
        have hgranted' := MessageService.Counters.grants_receiver
          (MessageService.Counters.known hds hdsback call').2 hhanded
        rw [hu] at hgranted'
        obtain rfl := (Prod.mk.inj (hgranted'.ticket_unique hgranted)).1
        refine Or.inr (Or.inl ⟨_, by rwa [hcluster], rfl, ?_⟩)
        rw [hmessages, hid, Function.update_self]
        rfl

/-- **An acknowledgement that arrives** and skips nothing. -/
theorem Accounted.ack (h : Accounted s gaps u)
    (hreach : (counterSession addr).Reachable s) {c : ConnId} {link : Link}
    (hl : s.links c = some link) {p : Int} {id : String} (hack : .ack p id ∈ s.cluster.out c)
    (hcluster : t.cluster = s.cluster) (hclient : t.client = s.client.handleAck p id)
    (hnoskip : ∀ call msg q sp, handed? (s.cluster.service.calls call) = some (msg, q, sp) →
      msg.receiverId = u → s.client.localPts < q → q < p → Void s call ∨ Replaces s id call) :
    Accounted t gaps u := by
  obtain ⟨ds, hds, hdsback⟩ := Gateway.Cluster.service_run hrun hback
  obtain ⟨-, call, hgranted⟩ := received_ack hrun hback huser hl hack
  have hlinked := linked hreach
  refine h.advance hcluster (List.Subset.refl _) (fun r hr hsome => ?_)
    fun call' msg q sp hhanded hu hlt hle => ?_
  · rw [hclient]
    refine s.client.handleAck_isSome hsome fun hmem => ?_
    -- temp ids are no ids of rows
    have huuid := isUUID_pendingAcks hreach r.id hmem
    rw [hlinked.uuid r hr] at huuid
    cases huuid
  · rw [hclient, (s.client.handleAck_updatePtsIf p id).1] at hle
    rcases s.client.updatePtsIf_localPts p with hsame | ⟨-, hnew⟩
    · rw [hsame] at hle
      exact absurd hle hlt.not_ge
    · rw [hnew] at hle
      rcases hle.lt_or_eq with hbelow | rfl
      · rcases hnoskip call' msg q sp hhanded hu hlt hbelow with hvoid | ⟨hreplacing, x, hx, hxc, rfl⟩
        · exact Or.inr (Or.inr hvoid)
        · refine Or.inr (Or.inl ⟨x, by rwa [hcluster], hxc, ?_⟩)
          obtain ⟨f, hf⟩ := Option.isSome_iff_exists.mp hreplacing
          unfold State.replacing? at hf
          split at hf
          · cases hf
          · rename_i tempID f' rest hpending
            split_ifs at hf with htemp
            obtain ⟨msg', hmsg'⟩ := Option.isSome_iff_exists.mp htemp
            rw [hclient, s.client.handleAck_messages (by rw [hlinked.pendingAcks, hpending]; rfl)
              hmsg', Function.update_self]
            rfl
      · -- the PTS of the acknowledgement was handed out for the sender
        have hgranted' := MessageService.Counters.grants_receiver
          (MessageService.Counters.known hds hdsback call').2 hhanded
        rw [hu] at hgranted'
        cases hgranted'.ticket_unique hgranted

/-- A frame that arrives takes the client to no PTS above the counter. -/
theorem localPts_onMessage (hle : s.client.localPts ≤ s.cluster.service.redis.value (ptsKey u))
    {c : ConnId} {link : Link} (hl : s.links c = some link) {frame : Frame}
    (hframe : frame ∈ s.cluster.out c) (now : Int) :
    (s.client.onMessage now frame).localPts ≤ s.cluster.service.redis.value (ptsKey u) := by
  have hadvance : ∀ pts, pts ≤ s.cluster.service.redis.value (ptsKey u) →
      (s.client.updatePtsIf pts).localPts ≤ s.cluster.service.redis.value (ptsKey u) := by
    intro pts hpts
    rcases s.client.updatePtsIf_localPts pts with hsame | ⟨-, hnew⟩
    · rwa [hsame]
    · rwa [hnew]
  cases frame with
  | ack p id =>
    rw [Client.onMessage, (s.client.handleAck_updatePtsIf p id).1]
    exact hadvance p (received_ack hrun hback huser hl hframe).1
  | message m =>
    obtain ⟨msg, call, r, hmsg, hpts, -, -, -, hvalue, -⟩ :=
      received_message hrun hback huser hl hframe
    rw [Client.onMessage, hmsg]
    simp only
    rw [(s.client.handleIncomingMessage_updatePtsIf m msg now).1, hpts, Option.getD_some]
    exact hadvance _ hvalue

end Frames

end Steps

/-! ### Runs -/

/-- What holds of a page all of whose acknowledgements have skipped nothing. -/
structure Tended (u : String) (s : CounterState) (gaps : List (Int × Int)) : Prop where
  user : OneUser u s
  le : s.client.localPts ≤ s.cluster.service.redis.value (ptsKey u)
  accounted : Accounted s gaps u

/-- The cluster makes a run without rollbacks. -/
theorem cluster_run {u : String} {es : List CounterEvent} {s : CounterState}
    (h : (counterSession addr).run (counterSession addr).init es = some s)
    (hnoskip : (counterSession addr).Meets (NoSkip u) (counterSession addr).init es) :
    ∃ ds, (Gateway.counterCluster addr).run (Gateway.counterCluster addr).init ds = some s.cluster ∧
      (Gateway.counterCluster addr).Meets (fun _ => NoRollback) (Gateway.counterCluster addr).init ds := by
  refine (clusterComponent MessageService.Counters.redis addr).exists_run
    (C := NoSkip u) (D := fun _ => NoRollback) (fun s e t he hstep => ?_) h hnoskip
  cases step_cases hstep with
  | @cluster e x hallowed hx => exact Or.inr ⟨e, he, hx⟩
  | onMessage hl hframe => exact Or.inl (note_cluster ..)
  | _ => exact Or.inl rfl

/-- **One step** that skips nothing. -/
theorem Tended.step {u : String} {s t : CounterState} {gaps : List (Int × Int)} (h : Tended u s gaps)
    (hreach : (counterSession addr).Reachable s) {ds : List Gateway.Cluster.CounterEvent}
    (hrun : (Gateway.counterCluster addr).run (Gateway.counterCluster addr).init ds = some s.cluster)
    (hback : (Gateway.counterCluster addr).Meets (fun _ => NoRollback)
      (Gateway.counterCluster addr).init ds)
    {e : CounterEvent} (hstep : Step MessageService.Counters.redis addr s e t) (huser : AsUser u e)
    (hnoskip : NoSkip u s e) : Tended u t (gaps ++ (reported? s e).toList) := by
  have hone := h.user.step hstep huser
  have hgaps : gaps ⊆ gaps ++ (reported? s e).toList := List.subset_append_left ..
  cases hstep with
  | connect hnew hs => exact ⟨hone, h.le, .subset (h.accounted.keep rfl rfl fun _ _ hm => hm) hgaps⟩
  | connectFails => exact ⟨hone, h.le, .subset (h.accounted.keep rfl rfl fun _ _ hm => hm) hgaps⟩
  | onOpen hl => exact ⟨hone, h.le, .subset (h.accounted.keep rfl rfl fun _ _ hm => hm) hgaps⟩
  | @onMessage c now link frame hl hframe =>
    have hcluster : (((s.note frame).setClient (s.client.onMessage now frame)).setLink c
        { link with received := link.received + 1 }).cluster = s.cluster := note_cluster s frame
    refine ⟨hone, ?_, ?_⟩
    · rw [hcluster]
      exact localPts_onMessage hrun hback h.user h.le hl (List.mem_of_getElem? hframe) now
    · cases frame with
      | ack p id =>
        have hnext : nextFrame? s c = some (.ack p id) := by
          rw [nextFrame?, hl, Option.bind_some, hframe]
        exact .subset (h.accounted.ack hrun hback h.user hreach hl (List.mem_of_getElem? hframe)
          hcluster rfl (hnoskip p id hnext)) hgaps
      | message m => exact h.accounted.message hrun hback h.user hl hframe hcluster rfl
  | onClose hl =>
    refine ⟨hone, (Client.onClose_localPts _).trans_le h.le, ?_⟩
    refine .subset (h.accounted.keep rfl (Client.onClose_localPts _) fun r _ hm => ?_) hgaps
    exact (Client.onClose_messages s.client).symm ▸ hm
  | @send receiverID content now rand c link hl =>
    refine ⟨hone, h.le, .subset (h.accounted.keep rfl rfl fun r _ hm => ?_) hgaps⟩
    show (Function.update s.client.messages (tempId now rand) _ r.id).isSome = true
    by_cases htemp : r.id = tempId now rand
    · rw [htemp, Function.update_self]
      rfl
    · rwa [Function.update_of_ne htemp]
  | sendClosed => exact ⟨hone, h.le, h.accounted.subset hgaps⟩
  | reload => exact huser.elim
  | @cluster e x hallowed hx =>
    refine ⟨hone, ?_, .subset (h.accounted.cluster h.le hnoskip hx) hgaps⟩
    show (noteCluster s e).client.localPts ≤ x.service.redis.value (ptsKey u)
    rw [noteCluster_client]
    exact h.le.trans (Gateway.Cluster.value_mono (Gateway.Cluster.step_cases hx) hnoskip _)

section Runs

variable {u : String} {es : List CounterEvent} {s : CounterState}

/-- A page is tended after every run that skips nothing. -/
theorem tended (h : (counterSession addr).run (counterSession addr).init es = some s)
    (huser : ∀ e ∈ es, AsUser u e)
    (hnoskip : (counterSession addr).Meets (NoSkip u) (counterSession addr).init es) :
    Tended u s ((counterSession addr).observe reported? (counterSession addr).init es) := by
  revert huser
  refine hnoskip.run_induction
    (motive := fun es s => (∀ e ∈ es, AsUser u e) →
      Tended u s ((counterSession addr).observe reported? (counterSession addr).init es)) ?_ ?_ h
  · intro _
    exact ⟨oneUser_init, le_rfl, fun _ _ _ _ hhanded => by cases hhanded⟩
  · intro es s e t hs hnoskip ih he hstep huser
    obtain ⟨ds, hrun, hback⟩ := cluster_run hs hnoskip
    rw [Lts.System.observe_concat _ hs]
    refine (ih fun e he => huser e (List.mem_append_left _ he)).step ⟨es, hs⟩ hrun hback
      (step_cases hstep) (huser e ?_) he
    exact List.mem_append_right _ (List.mem_singleton_self _)

/-- **Nothing is lost silently** in a run of a page of `u` in which no acknowledgement skips a PTS of a
message to `u`: every committed row for `u` up to the client's PTS is in its messages, or in transit to
it, or lies inside a gap that the client has reported. -/
theorem noSilentLoss (h : (counterSession addr).run (counterSession addr).init es = some s)
    (huser : ∀ e ∈ es, AsUser u e)
    (hnoskip : (counterSession addr).Meets (NoSkip u) (counterSession addr).init es) :
    NoSilentLoss s ((counterSession addr).observe reported? (counterSession addr).init es) u := by
  have hservice := Gateway.Cluster.service_reachable (cluster_reachable ⟨es, h⟩)
  exact (tended h huser hnoskip).accounted.nothing_lost (MessageService.Service.recorded hservice)

end Runs

/-- The event rolls no counter back, and if it is an acknowledgement, it takes the client to the next PTS
at most. -/
def InSequence (s : CounterState) : CounterEvent → Prop
  | .cluster e => NoRollback e
  | .onMessage c _ => ∀ frame ∈ nextFrame? s c, ∀ a ∈ frame.ack?, a.1 ≤ s.client.localPts + 1
  | _ => True

instance (s : CounterState) : DecidablePred (InSequence s)
  | .cluster e => inferInstanceAs (Decidable (NoRollback e))
  | .onMessage c _ => inferInstanceAs
      (Decidable (∀ frame ∈ nextFrame? s c, ∀ a ∈ frame.ack?, a.1 ≤ s.client.localPts + 1))
  | .connect .. | .connectFails .. | .onOpen .. | .onClose .. | .send .. | .reload => isTrue trivial

/-- There is no PTS in between. -/
theorem InSequence.noSkip {s : CounterState} {e : CounterEvent} (h : InSequence s e) (u : String) :
    NoSkip u s e := by
  cases e with
  | cluster e => exact h
  | onMessage c now =>
    intro p id hnext call msg q sp _ _ hlt hskip
    have hle : p ≤ s.client.localPts + 1 := h _ hnext _ rfl
    omega
  | _ => trivial

/-- The gateway reads a frame of Bob's to Alice, call `call` persists it, and Alice is looked up. -/
def bobWrites (call : CallId) (messageID : String) : List CounterEvent :=
  [.cluster (.handler 1 (.frame (some ⟨"alice", "hi"⟩) call 1)),
    .cluster (.service (.redis call (.incr .executed))),
    .cluster (.service (.redis call (.incr .executed))),
    .cluster (.service (.redis call (.wait (.ok 1)))),
    .cluster (.service (.insert call messageID 2 3 .executed)), .cluster (.handler 1 .persisted),
    .cluster (.handler 1 (.ack true true)), .cluster (.handler 1 (.locate false 0))]

/-- Bob writes to Alice before she logs in and after it, and she gets the second message.  Then she
writes to him. -/
def reportedRun : List CounterEvent :=
  [.cluster (.connect 1 0 "bob"), .cluster (.handler 1 (.registerUser true)),
    .cluster (.handler 1 .registerConn)] ++ bobWrites 1 "b1" ++ loginRun ++ bobWrites 2 "b2" ++
  [.cluster (.handler 1 .lookup), .cluster (.handler 1 .send), .cluster (.writer 0 .receive),
    .cluster (.writer 0 (.write true true)), .onMessage 0 4, .send "bob" "hello" 5 "k3vd",
    .cluster (.handler 0 (.frame (some ⟨"bob", "hello"⟩) 0 6)),
    .cluster (.service (.redis 0 (.incr .executed))), .cluster (.service (.redis 0 (.incr .executed))),
    .cluster (.service (.redis 0 (.wait (.ok 1)))), .cluster (.service (.insert 0 "a1" 6 7 .executed)),
    .cluster (.handler 0 .persisted), .cluster (.handler 0 (.ack true true)), .onMessage 0 8]

/-- Alice has reported the gap that the first message lies in. -/
theorem noSilentLoss_reportedRun : ∃ s,
    (counterSession Gateway.Cluster.twoGateways).run
      (counterSession Gateway.Cluster.twoGateways).init reportedRun = some s ∧ s.client.localPts = 3 ∧
    NoSilentLoss s [(0, 2)] "alice" := by
  refine ⟨_, rfl, rfl, @noSilentLoss Gateway.Cluster.twoGateways "alice" reportedRun _ rfl (by decide)
    (Lts.System.Meets.mono (C := InSequence) (fun _ _ he => he.noSkip _) (.of_check (by decide)))⟩

end TinyTelegram.WebClient
