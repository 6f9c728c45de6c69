import TinyTelegram.WebClient.Browser
import TinyTelegram.WebClient.Equiv.Gaps

/-!
# Whose PTS it is

`saveState` saves the PTS together with the user, but `loadState` takes the PTS over before it is known who
logs in, and `connect` keeps it.  So a tab that logs in as another user starts with the PTS of the last one,
which may be above all of its own (`not_belongs`).

`Belongs` says that no tab is connected with a PTS that its user has not got yet, and `belongs_iff` when
this holds throughout a run: whenever a socket opens, the PTS of the page must be one of its user, and so
must what arrives in a connected tab from elsewhere, on the socket of another user or after `connect` has
failed for one.  What arrives on the socket of the user is always theirs.
-/

namespace TinyTelegram.WebClient

open Gateway (ConnId Frame)
open MessageService (ptsKey)

variable {ρ χ ε : Type} {R : MessageService.Redis ρ χ ε} {addr : Gateway.GwId → String}

/-! ### As whom a tab is connected -/

/-- The user of a socket that is open. -/
def Link.openFor? (link : Link) : Option String :=
  if link.readyState = .opened then some link.user else none

/-- The user that a tab is connected as. -/
def State.connectedAs? (s : State ρ) : Option String :=
  s.client.ws.bind fun c => (s.links c).bind Link.openFor?

theorem connectedAs?_eq {s : State ρ} {c : ConnId} {link : Link} (hws : s.client.ws = some c)
    (hl : s.links c = some link) : s.connectedAs? = link.openFor? := by
  rw [State.connectedAs?, hws, Option.bind_some, hl, Option.bind_some]

/-- A step on one socket of the tab. -/
theorem connectedAs?_update {s t : State ρ} {c : ConnId} {link' : Link}
    (hws : t.client.ws = s.client.ws) (hlinks : t.links = Function.update s.links c (some link')) :
    t.connectedAs? = if s.client.ws = some c then link'.openFor? else s.connectedAs? := by
  split_ifs with hc
  · refine connectedAs?_eq (hws.trans hc) ?_
    rw [hlinks, Function.update_self]
  · unfold State.connectedAs?
    rw [hws]
    cases hcur : s.client.ws with
    | none => rfl
    | some k =>
      have hk : k ≠ c := fun hkc => hc (hkc ▸ hcur)
      rw [Option.bind_some, Option.bind_some, hlinks, Function.update_of_ne hk]

/-- A step that leaves the state and the user of the socket as they are. -/
theorem connectedAs?_keep {s t : State ρ} {c : ConnId} {link link' : Link} (hl : s.links c = some link)
    (hws : t.client.ws = s.client.ws) (hlinks : t.links = Function.update s.links c (some link'))
    (hopen : link'.openFor? = link.openFor?) : t.connectedAs? = s.connectedAs? := by
  rw [connectedAs?_update hws hlinks]
  split_ifs with hc
  · rw [hopen, connectedAs?_eq hc hl]
  · rfl

theorem noteCluster_connectedAs? (s : State ρ) (e : Gateway.Cluster.Event χ ε) :
    (noteCluster s e).connectedAs? = s.connectedAs? := by
  unfold noteCluster
  split
  · split
    · rename_i link hl
      exact connectedAs?_keep hl rfl rfl rfl
    · rfl
  · rfl

namespace Browser

/-- The states of a browser in a cluster over plain counters. -/
abbrev CounterBrowser := Browser MessageService.Counters.State

/-- The events of a browser in a cluster over plain counters. -/
abbrev CounterEvent := Event MessageService.Counters.Choice MessageService.Counters.Event

/-- A browser in a cluster over plain counters. -/
abbrev counterBrowser (addr : Gateway.GwId → String) : Lts.System CounterBrowser CounterEvent :=
  browser MessageService.Counters.redis addr

/-- The highest PTS that was allocated to `u`. -/
def allocated (b : CounterBrowser) (u : String) : Int :=
  b.cluster.service.redis.value (ptsKey u)

/-- No tab is connected with a PTS above those of its user. -/
def Belongs (b : CounterBrowser) : Prop :=
  ∀ s ∈ b.tabs, ∀ u ∈ s.connectedAs?, s.client.localPts ≤ b.allocated u

/-- The event is not the rollback of a counter. -/
def NoRollback : CounterEvent → Prop
  | .cluster e => Gateway.Cluster.NoRollback e
  | _ => True

/-- A frame that arrives on `link` in a tab that is connected as `u`: if it is an acknowledgement for
another user, or a message when the page has another user, its PTS is one of `u`. -/
def FrameOf (b : CounterBrowser) (s : CounterState) (u : String) (link : Link) : Frame → Prop
  | .ack p _ => link.user ≠ u → p ≤ b.allocated u
  | .message m => s.client.userId ≠ some u →
    ∀ msg ∈ m.message, ∀ pts ∈ s.client.applicablePts m msg, pts ≤ b.allocated u

/-- The PTS that the event brings a connected tab to is one of its user. -/
def OwnPts (b : CounterBrowser) : CounterEvent → Prop
  | .tab k (.onOpen c) => ∀ s ∈ b.tabs[k]?, s.client.ws = some c →
    ∀ link ∈ s.links c, s.client.localPts ≤ b.allocated link.user
  | .tab k (.onMessage c _) => ∀ s ∈ b.tabs[k]?, ∀ u ∈ s.connectedAs?, ∀ link ∈ s.links c,
    ∀ frame ∈ (b.cluster.out c)[link.received]?, FrameOf b s u link frame
  | _ => True

instance : DecidablePred NoRollback
  | .cluster e => inferInstanceAs (Decidable (Gateway.Cluster.NoRollback e))
  | .newTab | .tab .. => isTrue trivial

instance (b : CounterBrowser) (s : CounterState) (u : String) (link : Link) :
    DecidablePred (FrameOf b s u link)
  | .ack p _ => inferInstanceAs (Decidable (link.user ≠ u → p ≤ b.allocated u))
  | .message m => inferInstanceAs (Decidable (s.client.userId ≠ some u →
      ∀ msg ∈ m.message, ∀ pts ∈ s.client.applicablePts m msg, pts ≤ b.allocated u))

instance (b : CounterBrowser) : DecidablePred (OwnPts b)
  | .tab k (.onOpen c) => inferInstanceAs (Decidable (∀ s ∈ b.tabs[k]?, s.client.ws = some c →
      ∀ link ∈ s.links c, s.client.localPts ≤ b.allocated link.user))
  | .tab k (.onMessage c _) => inferInstanceAs (Decidable (∀ s ∈ b.tabs[k]?, ∀ u ∈ s.connectedAs?,
      ∀ link ∈ s.links c, ∀ frame ∈ (b.cluster.out c)[link.received]?, FrameOf b s u link frame))
  | .newTab | .cluster .. | .tab _ (.connect ..) | .tab _ (.connectFails ..) | .tab _ (.onClose ..)
  | .tab _ (.send ..) | .tab _ .reload | .tab _ (.cluster ..) => isTrue trivial

/-! ### Steps -/

/-- The effects of an event in the state `b`. -/
inductive Step (R : MessageService.Redis ρ χ ε) (addr : Gateway.GwId → String) (b : Browser ρ) :
    Event χ ε → Browser ρ → Prop where
  | newTab : Step R addr b .newTab
      { b with tabs := b.tabs ++ [{ WebClient.init R with client := .load b.storage }] }
  | tab {k e s t} (hs : b.tabs[k]? = some s) (hturn : b.isTurn e = true)
      (hstep : WebClient.Step R addr (b.turn s) e t) :
      Step R addr b (.tab k e) { b with storage := t.client.storage, tabs := b.tabs.set k t }
  | cluster {e x} (hallowed : ∀ s ∈ b.tabs, allowed (b.turn s) e = true)
      (hx : (Gateway.cluster R addr).step b.cluster e = some x) :
      Step R addr b (.cluster e)
        { b with cluster := x, tabs := b.tabs.map fun s => noteCluster (b.turn s) e }

/-- **Every step of a browser is one of the listed effects.** -/
theorem step_cases {b b' : Browser ρ} {e : Event χ ε} (h : (browser R addr).step b e = some b') :
    Step R addr b e b' := by
  cases e with
  | newTab =>
    obtain rfl := Option.some.inj h
    exact .newTab
  | tab k e =>
    simp only [browser, step] at h
    split at h
    · split_ifs at h with hturn
      obtain ⟨t, ht, rfl⟩ := Option.map_eq_some_iff.mp h
      exact .tab ‹_› hturn (WebClient.step_cases ht)
    · cases h
  | cluster e =>
    simp only [browser, step] at h
    split_ifs at h with hallowed
    obtain ⟨x, hx, rfl⟩ := Option.map_eq_some_iff.mp h
    exact .cluster (List.all_eq_true.mp hallowed) hx

/-- The cluster of a browser. -/
def clusterComponent (R : MessageService.Redis ρ χ ε) (addr : Gateway.GwId → String) :
    Lts.Component (browser R addr) (Gateway.cluster R addr) where
  part := cluster
  part_init := rfl
  part_step hstep := by
    cases step_cases hstep with
    | cluster hallowed hx => exact Or.inr ⟨_, hx⟩
    | _ => exact Or.inl rfl

/-- The cluster makes a run without rollbacks. -/
theorem cluster_run {es : List CounterEvent} {b : CounterBrowser}
    (h : (counterBrowser addr).run (counterBrowser addr).init es = some b)
    (hback : (counterBrowser addr).Meets (fun _ => NoRollback) (counterBrowser addr).init es) :
    ∃ ds, (Gateway.counterCluster addr).run (Gateway.counterCluster addr).init ds = some b.cluster ∧
      (Gateway.counterCluster addr).Meets (fun _ => Gateway.Cluster.NoRollback)
        (Gateway.counterCluster addr).init ds := by
  refine (clusterComponent MessageService.Counters.redis addr).exists_run
    (C := fun _ => NoRollback) (D := fun _ => Gateway.Cluster.NoRollback)
    (fun b e b' he hstep => ?_) h hback
  cases step_cases hstep with
  | @cluster e x hallowed hx => exact Or.inr ⟨e, he, hx⟩
  | _ => exact Or.inl rfl

/-- The sockets of the tabs are those of their users. -/
def Attuned (b : Browser ρ) : Prop :=
  ∀ s ∈ b.tabs, ∀ c link, s.links c = some link → ∀ sock, b.cluster.sockets c = some sock →
    link.user = sock.user

theorem attuned_step {b b' : Browser ρ} (h : Attuned b) {e : Event χ ε} (hstep : Step R addr b e b') :
    Attuned b' := by
  cases hstep with
  | newTab =>
    intro s hs c link hl
    rcases List.mem_append.mp hs with hold | hnew
    · exact h s hold c link hl
    · rw [List.mem_singleton.mp hnew] at hl
      cases hl
  | @tab k e s t hs hturn hstep =>
    intro s' hs' c link hl sock hsock
    rcases List.mem_or_eq_of_mem_set hs' with hold | rfl
    · exact h s' hold c link hl sock hsock
    · rcases user_of_step hstep hl with ⟨link', hl', huser⟩ | hnone
      · rw [huser]
        exact h s (List.mem_of_getElem? hs) c link' hl' sock hsock
      · rw [show b.cluster.sockets c = none from hnone] at hsock
        cases hsock
  | @cluster e x hallowed hx =>
    intro s' hs' c link hl sock hsock
    obtain ⟨s, hs, rfl⟩ := List.mem_map.mp hs'
    obtain ⟨link', hl', huser⟩ := noteCluster_user hl
    rw [huser]
    rcases Gateway.Cluster.opened_step (Gateway.Cluster.step_cases hx) hsock with hold | rfl
    · exact h s hs c link' hl' sock hold
    · -- a socket of a tab is opened for its user
      have hl'' : (b.turn s).links c = some link' := hl'
      simpa [allowed, hl''] using hallowed s hs

theorem attuned {b : Browser ρ} (h : (browser R addr).Reachable b) : Attuned b :=
  Lts.System.invariant (I := Attuned) (fun s hs => by cases hs)
    (fun _ _ _ h hstep => attuned_step h (step_cases hstep)) h

/-! ### What arrives in a tab -/

/-- `updatePts` keeps the PTS below a bound exactly if the new one is. -/
theorem updatePtsIf_le_iff {c : Client} {bound : Int} (hle : c.localPts ≤ bound) (hbound : 0 ≤ bound)
    (pts : Int) : (c.updatePtsIf pts).localPts ≤ bound ↔ pts ≤ bound := by
  unfold Client.updatePtsIf Client.updatePts
  split_ifs with hpts hlt
  · exact Iff.rfl
  · exact iff_of_true hle ((not_lt.mp hlt).trans hle)
  · exact iff_of_true hle ((not_not.mp hpts).trans_le hbound)

section Run

variable {es : List CounterEvent} {b b' : CounterBrowser}
  (hrun : (counterBrowser addr).run (counterBrowser addr).init es = some b)
  (hback : (counterBrowser addr).Meets (fun _ => NoRollback) (counterBrowser addr).init es)

include hrun hback

theorem allocated_nonneg (u : String) : 0 ≤ b.allocated u := by
  obtain ⟨ds, hds, hdsback⟩ := cluster_run hrun hback
  obtain ⟨fs, hfs, hfsback⟩ := Gateway.Cluster.service_run hds hdsback
  rw [allocated, MessageService.Counters.value_eq_count hfs hfsback]
  exact Int.natCast_nonneg _

/-- What is acknowledged on a socket of a tab is a PTS of the user of the socket. -/
theorem ack_le {s : CounterState} (hs : s ∈ b.tabs) {c : ConnId} {link : Link}
    (hl : s.links c = some link) {p : Int} {id : String} (hack : .ack p id ∈ b.cluster.out c) :
    p ≤ b.allocated link.user := by
  obtain ⟨ds, hds, hdsback⟩ := cluster_run hrun hback
  obtain ⟨sock, hsock, hle, -⟩ := Gateway.Cluster.granted_of_ack hds hdsback hack
  rw [attuned (R := MessageService.Counters.redis) ⟨es, hrun⟩ s hs c link hl sock hsock]
  exact hle

/-- The PTS that applies of a message on any socket is one of the user of the page. -/
theorem applicablePts_le {c : ConnId} {m : PersistedMessage} (hm : .message m ∈ b.cluster.out c)
    {msg : ChatMessage} (hmsg : m.message = some msg) {client : Client} {u : String}
    (hu : client.userId = some u) {pts : Int} (hpts : client.applicablePts m msg = some pts) :
    pts ≤ b.allocated u := by
  obtain ⟨ds, hds, hdsback⟩ := cluster_run hrun hback
  obtain ⟨fs, hfs, hfsback⟩ := Gateway.Cluster.service_run hds hdsback
  have hsound := Gateway.Cluster.sound (R := MessageService.Counters.redis) ⟨ds, hds⟩
  obtain ⟨call, msg', alloc, hret, -⟩ :=
    hsound.origin (.socket c) m (Gateway.Cluster.mem_held_socket.mpr hm)
  obtain ⟨hmsg', -, createdAt, hcommitted⟩ := (MessageService.Service.recorded ⟨fs, hfs⟩).ok hret
  obtain rfl := Option.some.inj (hmsg.symm.trans hmsg')
  -- the row of the message has the PTS in the role of the user
  have hrow := List.mem_map_of_mem (f := MessageService.Committed.row) hcommitted
  have hle := fun hinvolved => (MessageService.Counters.ptsFor_le hfs hfsback hrow (u := u) hinvolved).2
  rw [Client.applicablePts, hu] at hpts
  split_ifs at hpts with hreceiver hsender
  · obtain rfl := Option.some.inj hpts
    have hr := Option.some.inj hreceiver
    exact (if_pos hr).symm.trans_le (hle (Or.inl hr))
  · obtain rfl := Option.some.inj hpts
    have hr : msg.receiverId ≠ u := fun hr => hreceiver (congrArg some hr)
    exact (if_neg hr).symm.trans_le (hle (Or.inr (Option.some.inj hsender)))

/-- **A frame that arrives** in a tab that is connected as `u`. -/
theorem onMessage_le_iff {s : CounterState} (hs : s ∈ b.tabs) {u : String}
    (hle : s.client.localPts ≤ b.allocated u) {c : ConnId} {link : Link} (hl : s.links c = some link)
    {frame : Frame} (hframe : frame ∈ b.cluster.out c) (now : Int) :
    ((b.turn s).client.onMessage now frame).localPts ≤ b.allocated u ↔ FrameOf b s u link frame := by
  have hle' : (b.turn s).client.localPts ≤ b.allocated u := hle
  have hbound := allocated_nonneg hrun hback u
  cases frame with
  | ack p id =>
    rw [Client.onMessage, (Client.handleAck_updatePtsIf _ p id).1, updatePtsIf_le_iff hle' hbound]
    constructor
    · exact fun hp _ => hp
    · intro hp
      by_cases huser : link.user = u
      · exact huser ▸ ack_le hrun hback hs hl hframe
      · exact hp huser
  | message m =>
    simp only [Client.onMessage, FrameOf]
    cases hmsg : m.message with
    | none => exact iff_of_true hle fun _ msg hmem => absurd hmem.symm (Option.some_ne_none msg)
    | some msg =>
      have hlocal := ((b.turn s).client.handleIncomingMessage_updatePtsIf m msg now).1
      simp only [hlocal, updatePtsIf_le_iff hle' hbound]
      have happlicable : (b.turn s).client.applicablePts m msg = s.client.applicablePts m msg := rfl
      rw [happlicable]
      constructor
      · rintro hp - _ ⟨⟩ pts hpts
        rw [hpts] at hp
        exact hp
      · intro hp
        cases hpts : s.client.applicablePts m msg with
        | none => exact hbound
        | some pts =>
          by_cases huser : s.client.userId = some u
          · exact applicablePts_le hrun hback hframe hmsg huser hpts
          · exact hp huser msg rfl pts hpts

/-! ### One event -/

/-- **A turn of a tab.** -/
theorem turn_iff {k : ℕ} {s t : CounterState} (hk : b.tabs[k]? = some s)
    (h : ∀ u ∈ s.connectedAs?, s.client.localPts ≤ b.allocated u) {e : WebClient.CounterEvent}
    (hturn : b.isTurn e = true) (hstep : WebClient.Step MessageService.Counters.redis addr (b.turn s) e t) :
    (∀ u ∈ t.connectedAs?, t.client.localPts ≤ b.allocated u) ↔ OwnPts b (.tab k e) := by
  -- the tab stays connected as it is, or is not connected any more
  have hkeep : (∀ u ∈ t.connectedAs?, u ∈ s.connectedAs?) → t.client.localPts = s.client.localPts →
      ∀ u ∈ t.connectedAs?, t.client.localPts ≤ b.allocated u := by
    intro hconnected hpts u hu
    rw [hpts]
    exact h u (hconnected u hu)
  cases hstep with
  | @connect c userId gatewayUrl hnew hs =>
    -- the new socket is not open yet
    refine iff_of_true (fun u hu => ?_) trivial
    rw [connectedAs?_eq rfl (Function.update_self ..)] at hu
    cases hu
  | connectFails => exact iff_of_true (hkeep (fun _ hu => hu) rfl) trivial
  | @onOpen c link hl =>
    have hconnected := connectedAs?_update (s := b.turn s)
      (t := ((b.turn s).setClient (b.turn s).client.onOpen).setLink c { link with readyState := .opened })
      rfl rfl
    have hl' : s.links c = some link := hl
    simp only [OwnPts, hk, Option.mem_some_iff, forall_eq', hl', hconnected]
    by_cases hws : s.client.ws = some c
    · have hws' : (b.turn s).client.ws = some c := hws
      rw [if_pos hws']
      simp only [Link.openFor?, if_true, Option.mem_some_iff, forall_eq', hws, forall_const]
      exact Iff.rfl
    · have hws' : (b.turn s).client.ws ≠ some c := hws
      rw [if_neg hws']
      exact iff_of_true (fun u hu => h u hu) fun hc => absurd hc hws
  | @onMessage c now link frame hl hframe =>
    have hlinks := congrArg (fun f => Function.update f c (some { link with
      received := link.received + 1 })) (note_links (b.turn s) frame)
    have hconnected := connectedAs?_keep (t := (((b.turn s).note frame).setClient
      ((b.turn s).client.onMessage now frame)).setLink c { link with received := link.received + 1 }) hl
      (Client.onMessage_ws ..) hlinks rfl
    have hl' : s.links c = some link := hl
    have hframe' : (b.cluster.out c)[link.received]? = some frame := hframe
    simp only [OwnPts, hk, Option.mem_some_iff, forall_eq', hl', hframe', hconnected]
    refine forall₂_congr fun u hu => ?_
    exact onMessage_le_iff hrun hback (List.mem_of_getElem? hk) (h u hu) hl'
      (List.mem_of_getElem? hframe') now
  | @onClose c link hl =>
    have hconnected := connectedAs?_update (s := b.turn s)
      (t := ((b.turn s).setClient (b.turn s).client.onClose.1).setLink c { link with readyState := .closed })
      (Client.onClose_ws _) rfl
    refine iff_of_true (hkeep (fun u hu => ?_) (Client.onClose_localPts _)) trivial
    rw [hconnected] at hu
    split_ifs at hu
    · cases hu
    · exact hu
  | @send receiverID content now rand c link hl =>
    have hconnected := connectedAs?_keep
      (t := (b.turn s).sendOn c link receiverID content (tempId now rand) now) hl rfl rfl rfl
    exact iff_of_true (hkeep (fun u hu => hconnected ▸ hu) rfl) trivial
  | sendClosed => exact iff_of_true (hkeep (fun _ hu => hu) rfl) trivial
  | reload =>
    refine iff_of_true (fun u hu => ?_) trivial
    cases hu
  | cluster hallowed hx => cases hturn

/-- **One event.** -/
theorem belongs_step (h : Belongs b) {e : CounterEvent} (he : NoRollback e)
    (hstep : Step MessageService.Counters.redis addr b e b') : Belongs b' ↔ OwnPts b e := by
  cases hstep with
  | newTab =>
    refine iff_of_true (fun s hs u hu => ?_) trivial
    rcases List.mem_append.mp hs with hold | hnew
    · exact h s hold u hu
    · rw [List.mem_singleton.mp hnew] at hu
      cases hu
  | @tab k e s t hk hturn hstep =>
    rw [← turn_iff hrun hback hk (h s (List.mem_of_getElem? hk)) hturn hstep]
    constructor
    · intro hbelongs
      exact hbelongs t (List.mem_set (List.getElem?_eq_some_iff.mp hk).1 t)
    · intro ht s' hs'
      -- the other tabs are as before
      rcases List.mem_or_eq_of_mem_set hs' with hold | rfl
      · exact h s' hold
      · exact ht
  | @cluster e x hallowed hx =>
    refine iff_of_true (fun s' hs' u hu => ?_) trivial
    obtain ⟨s, hs, rfl⟩ := List.mem_map.mp hs'
    rw [noteCluster_connectedAs?] at hu
    rw [noteCluster_client]
    exact (h s hs u hu).trans (Gateway.Cluster.value_mono (Gateway.Cluster.step_cases hx) he _)

end Run

/-- **When the PTS belongs to the user.**  In a run without rollbacks no tab is ever connected with a PTS
above those that its user has got, exactly if the PTS is one of the user whenever a socket opens, and so are
those that arrive in the tab from elsewhere. -/
theorem belongs_iff {es : List CounterEvent}
    (hback : (counterBrowser addr).Meets (fun _ => NoRollback) (counterBrowser addr).init es) :
    (counterBrowser addr).Always Belongs (counterBrowser addr).init es ↔
      (counterBrowser addr).Meets OwnPts (counterBrowser addr).init es := by
  refine hback.always_iff_meets (fun s hs => by cases hs) fun es b e b' hb hes he h hstep => ?_
  exact belongs_step hb hes h he (step_cases hstep)

/-! ### Two runs -/

/-- A session of the tab `k`. -/
def inTab (k : ℕ) : WebClient.CounterEvent → CounterEvent
  | .cluster e => .cluster e
  | e => .tab k e

/-- Alice logs in in one tab, writes to Bob and gets the acknowledgement with PTS `1`. -/
def firstTab : List CounterEvent :=
  .newTab :: (loginRun ++ .send "bob" "one" 1 "k3vd" :: persistRun "one" 0 "a1").map (inTab 0)

/-- `userId` logs in in another tab. -/
def secondTab (userId : String) : List CounterEvent :=
  .newTab :: [.connect 1 userId "ws://gateway1", .cluster (.connect 1 0 userId),
    .cluster (.handler 1 (.registerUser true)), .cluster (.handler 1 .registerConn),
    .onOpen 1].map (inTab 1)

/-- Bob has got PTS `1` himself. -/
theorem belongs_iff_firstTab :
    (counterBrowser Gateway.Cluster.twoGateways).Always Belongs
      (counterBrowser Gateway.Cluster.twoGateways).init (firstTab ++ secondTab "bob") :=
  (belongs_iff (.of_check (by decide))).mpr (.of_check (by decide))

/-- **Carol's tab starts with Alice's PTS**, and Carol has none. -/
theorem not_belongs : ∃ b,
    (counterBrowser Gateway.Cluster.twoGateways).run
      (counterBrowser Gateway.Cluster.twoGateways).init (firstTab ++ secondTab "carol") = some b ∧
    b.tabs.map (fun s => (s.connectedAs?, s.client.localPts)) = [(some "alice", 1), (some "carol", 1)] ∧
    b.allocated "carol" = 0 ∧
    (counterBrowser Gateway.Cluster.twoGateways).Meets (fun _ => NoRollback)
      (counterBrowser Gateway.Cluster.twoGateways).init (firstTab ++ secondTab "carol") ∧
    ¬ (counterBrowser Gateway.Cluster.twoGateways).Always Belongs
      (counterBrowser Gateway.Cluster.twoGateways).init (firstTab ++ secondTab "carol") := by
  obtain ⟨b, hb, htabs, hcarol⟩ : ∃ b,
      (counterBrowser Gateway.Cluster.twoGateways).run
        (counterBrowser Gateway.Cluster.twoGateways).init (firstTab ++ secondTab "carol") = some b ∧
      b.tabs.map (fun s => (s.connectedAs?, s.client.localPts)) =
        [(some "alice", 1), (some "carol", 1)] ∧ b.allocated "carol" = 0 := ⟨_, rfl, rfl, rfl⟩
  refine ⟨b, hb, htabs, hcarol, .of_check (by decide), fun h => ?_⟩
  have hmem : (some "carol", 1) ∈ b.tabs.map fun s => (s.connectedAs?, s.client.localPts) := by
    rw [htabs]
    exact List.mem_cons_of_mem _ List.mem_cons_self
  obtain ⟨s, hs, heq⟩ := List.mem_map.mp hmem
  obtain ⟨hconnected, hpts⟩ := Prod.mk.inj heq
  have hle := h.of_run hb s hs "carol" hconnected
  rw [hpts, hcarol] at hle
  exact absurd hle (by decide)

end Browser

end TinyTelegram.WebClient
