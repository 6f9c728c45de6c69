import TinyTelegram.Gateway.Equiv.Cluster
import TinyTelegram.WebClient.Session

/-!
# What a session can do

`Step` lists the effects of an event with what each requires, and `step_cases` says that a session
takes no other steps.  A session grows: sockets stay, and so do the frames sent on them, what is in the
books about calls, and committed rows (`Grows`).

`Linked` is how the tab goes with the cluster, in every state reached: a handler of one of its sockets
works on a frame that was sent there, and an acknowledgement on one of its sockets has the id of a row
that was committed for a frame sent there, with the receiver and the content of that frame
(`Answers`).
-/

namespace TinyTelegram.WebClient

open Gateway (ConnId IncomingMessage Frame)
open Gateway.Cluster (awaited? pending? Turn)
open MessageService (Redis CallId Committed PersistCall)
open MessageService.PersistCall (row)

variable {ρ χ ε : Type} {R : Redis ρ χ ε} {addr : Gateway.GwId → String}

/-! ### Steps -/

/-- The effects of an event in the state `s`. -/
inductive Step (R : Redis ρ χ ε) (addr : Gateway.GwId → String) (s : State ρ) :
    Event χ ε → State ρ → Prop where
  | connect {c userId gatewayUrl} (hnew : s.links c = none) (hs : s.cluster.sockets c = none) :
      Step R addr s (.connect c userId gatewayUrl)
        ((s.setClient (s.client.connect userId gatewayUrl (some c))).setLink c
          ⟨userId, .connecting, [], 0, 0⟩)
  | connectFails {userId gatewayUrl} :
      Step R addr s (.connectFails userId gatewayUrl)
        (s.setClient (s.client.connect userId gatewayUrl none))
  | onOpen {c link} (hl : s.links c = some link) :
      Step R addr s (.onOpen c)
        ((s.setClient s.client.onOpen).setLink c { link with readyState := .opened })
  | onMessage {c now link frame} (hl : s.links c = some link)
      (hframe : (s.cluster.out c)[link.received]? = some frame) :
      Step R addr s (.onMessage c now)
        (((s.note frame).setClient (s.client.onMessage now frame)).setLink c
          { link with received := link.received + 1 })
  | onClose {c link} (hl : s.links c = some link) :
      Step R addr s (.onClose c)
        ((s.setClient s.client.onClose.1).setLink c { link with readyState := .closed })
  | send {receiverID content now rand c link} (hl : s.links c = some link) :
      Step R addr s (.send receiverID content now rand)
        (s.sendOn c link receiverID content (tempId now rand) now)
  | sendClosed {receiverID content now rand} : Step R addr s (.send receiverID content now rand) s
  | reload : Step R addr s .reload s.reload
  | cluster {e x} (hallowed : allowed s e = true)
      (hx : (Gateway.cluster R addr).step s.cluster e = some x) :
      Step R addr s (.cluster e) ((noteCluster s e).setCluster x)

theorem openSocket?_eq_some {s : State ρ} {c : ConnId} {link : Link}
    (h : s.openSocket? = some (c, link)) : s.links c = some link := by
  obtain ⟨c', -, h⟩ := Option.bind_eq_some_iff.mp h
  obtain ⟨link', hl, h⟩ := Option.bind_eq_some_iff.mp h
  split_ifs at h
  cases h
  exact hl

/-- **Every step of a session is one of the listed effects.** -/
theorem step_cases {s t : State ρ} {e : Event χ ε} (h : (session R addr).step s e = some t) :
    Step R addr s e t := by
  cases e with
  | connect c userId gatewayUrl =>
    simp only [session, step] at h
    split at h
    · obtain rfl := Option.some.inj h
      exact .connect ‹_› ‹_›
    · cases h
  | connectFails userId gatewayUrl =>
    obtain rfl := Option.some.inj h
    exact .connectFails
  | onOpen c =>
    simp only [session, step] at h
    split at h
    · split_ifs at h
      obtain rfl := Option.some.inj h
      exact .onOpen ‹_›
    · cases h
  | onMessage c now =>
    simp only [session, step] at h
    split at h
    · split_ifs at h
      obtain ⟨frame, hframe, rfl⟩ := Option.map_eq_some_iff.mp h
      exact .onMessage ‹_› hframe
    · cases h
  | onClose c =>
    simp only [session, step] at h
    split at h
    · split_ifs at h
      obtain rfl := Option.some.inj h
      exact .onClose ‹_›
    · cases h
  | send receiverID content now rand =>
    simp only [session, step] at h
    split at h
    · rename_i c link hopen
      obtain rfl := Option.some.inj h
      exact .send (openSocket?_eq_some hopen)
    · obtain rfl := Option.some.inj h
      exact .sendClosed
  | reload =>
    obtain rfl := Option.some.inj h
    exact .reload
  | cluster e =>
    simp only [session, step] at h
    split_ifs at h with hallowed
    obtain ⟨x, hx, rfl⟩ := Option.map_eq_some_iff.mp h
    exact .cluster hallowed hx

/-! ### What a frame of the cluster does to the books -/

section Notes

variable (s : State ρ) (frame : Frame)

@[simp] theorem note_cluster : (s.note frame).cluster = s.cluster := by
  cases frame <;> rfl

@[simp] theorem note_client : (s.note frame).client = s.client := by
  cases frame <;> rfl

@[simp] theorem note_links : (s.note frame).links = s.links := by
  cases frame <;> rfl

@[simp] theorem note_frameOf : (s.note frame).frameOf = s.frameOf := by
  cases frame <;> rfl

end Notes

/-- The cluster of a session. -/
def clusterComponent (R : Redis ρ χ ε) (addr : Gateway.GwId → String) :
    Lts.Component (session R addr) (Gateway.cluster R addr) where
  part := State.cluster
  part_init := rfl
  part_step hstep := by
    cases step_cases hstep with
    | cluster hallowed hx => exact Or.inr ⟨_, hx⟩
    | onMessage hl hframe => exact Or.inl (note_cluster ..)
    | _ => exact Or.inl rfl

theorem cluster_reachable {s : State ρ} (h : (session R addr).Reachable s) :
    (Gateway.cluster R addr).Reachable s.cluster :=
  (clusterComponent R addr).reachable h

/-! ### Growing -/

/-- The frame `f` of the tab. -/
def Sent (s : State ρ) (f : FrameName) (incoming : IncomingMessage) : Prop :=
  ∃ link, s.links f.1 = some link ∧ link.sent[f.2]? = some incoming

/-- What never goes away. -/
structure Grows (s t : State ρ) : Prop where
  sent : ∀ f incoming, Sent s f incoming → Sent t f incoming
  frameOf : ∀ call f, s.frameOf call = some f → t.frameOf call = some f
  committed : s.cluster.service.committed <+: t.cluster.service.committed

/-- A socket is replaced by one with the same frames and perhaps more. -/
theorem sent_update {s t : State ρ} {c : ConnId} {link link' : Link} (hl : s.links c = some link)
    (hlinks : t.links = Function.update s.links c (some link'))
    (hsent : link.sent <+: link'.sent) {f : FrameName} {incoming : IncomingMessage}
    (h : Sent s f incoming) : Sent t f incoming := by
  obtain ⟨l, hf, hget⟩ := h
  by_cases hfc : f.1 = c
  · refine ⟨link', ?_, ?_⟩
    · rw [hlinks, hfc, Function.update_self]
    · rw [hfc, hl] at hf
      obtain rfl := Option.some.inj hf
      obtain ⟨more, hmore⟩ := hsent
      obtain ⟨hlt, -⟩ := List.getElem?_eq_some_iff.mp hget
      rw [← hmore, List.getElem?_append_left hlt, hget]
  · exact ⟨l, by rw [hlinks, Function.update_of_ne hfc, hf], hget⟩

/-- An acknowledgement with the id `id` on the socket `c` is for a frame that was sent there. -/
def Answers (s : State ρ) (c : ConnId) (id : String) : Prop :=
  ∃ call n incoming userID now receiverPTS senderPTS createdAt,
    s.frameOf call = some (c, n) ∧ Sent s (c, n) incoming ∧
    ⟨call, row (Gateway.chatMessage userID incoming now) receiverPTS senderPTS id createdAt⟩ ∈
      s.cluster.service.committed

theorem Answers.mono {s t : State ρ} {c : ConnId} {id : String} (h : Answers s c id)
    (hgrows : Grows s t) : Answers t c id := by
  obtain ⟨call, n, incoming, userID, now, rp, sp, createdAt, hframe, hsent, hmem⟩ := h
  exact ⟨call, n, incoming, userID, now, rp, sp, createdAt, hgrows.frameOf _ _ hframe,
    hgrows.sent _ _ hsent, hgrows.committed.subset hmem⟩

/-- What a step of the cluster does to the books about calls. -/
theorem noteCluster_frameOf (s : State ρ) (e : Gateway.Cluster.Event χ ε) :
    (noteCluster s e).frameOf = s.frameOf ∨
    ∃ c raw call now link, e = .handler c (.frame raw call now) ∧ s.links c = some link ∧
      (Gateway.checkIncoming raw).isSome = true ∧
      (noteCluster s e).frameOf = Function.update s.frameOf call (some (c, link.read)) := by
  unfold noteCluster
  split
  · rename_i c raw call now
    split
    · rename_i link hl
      by_cases hraw : (Gateway.checkIncoming raw).isSome = true
      · refine Or.inr ⟨c, raw, call, now, link, rfl, hl, hraw, ?_⟩
        exact if_pos hraw
      · exact Or.inl (if_neg hraw)
    · exact Or.inl rfl
  · exact Or.inl rfl

/-- A step of the cluster leaves the sockets as they are, up to the frames read. -/
theorem noteCluster_links (s : State ρ) (e : Gateway.Cluster.Event χ ε) :
    (noteCluster s e).links = s.links ∨
    ∃ c link link', s.links c = some link ∧ link'.sent = link.sent ∧
      (noteCluster s e).links = Function.update s.links c (some link') := by
  unfold noteCluster
  split
  · split
    · rename_i link hl
      exact Or.inr ⟨_, link, { link with read := link.read + 1 }, hl, rfl, rfl⟩
    · exact Or.inl rfl
  · exact Or.inl rfl

/-- It leaves their users as they are. -/
theorem noteCluster_user {s : State ρ} {e : Gateway.Cluster.Event χ ε} {c : ConnId} {link' : Link}
    (h : (noteCluster s e).links c = some link') :
    ∃ link, s.links c = some link ∧ link'.user = link.user := by
  unfold noteCluster at h
  split at h
  · rename_i k raw call now
    split at h
    · rename_i link hl
      have h' : Function.update s.links k (some { link with read := link.read + 1 }) c = some link' :=
        h
      by_cases hk : c = k
      · subst hk
        rw [Function.update_self] at h'
        obtain rfl := Option.some.inj h'
        exact ⟨link, hl, rfl⟩
      · rw [Function.update_of_ne hk] at h'
        exact ⟨link', h', rfl⟩
    · exact ⟨link', h, rfl⟩
  · exact ⟨link', h, rfl⟩

/-- It brings no sockets. -/
theorem links_of_noteCluster {s : State ρ} {e : Gateway.Cluster.Event χ ε} {c : ConnId}
    (hc : (noteCluster s e).links c ≠ none) : s.links c ≠ none := by
  obtain ⟨link', hl'⟩ := Option.ne_none_iff_exists'.mp hc
  obtain ⟨link, hl, -⟩ := noteCluster_user hl'
  rw [hl]
  exact Option.some_ne_none _

@[simp] theorem noteCluster_client (s : State ρ) (e : Gateway.Cluster.Event χ ε) :
    (noteCluster s e).client = s.client := by
  unfold noteCluster
  split
  · split <;> rfl
  · rfl

@[simp] theorem noteCluster_pending (s : State ρ) (e : Gateway.Cluster.Event χ ε) :
    (noteCluster s e).pending = s.pending := by
  unfold noteCluster
  split
  · split <;> rfl
  · rfl

@[simp] theorem noteCluster_unanswered (s : State ρ) (e : Gateway.Cluster.Event χ ε) :
    (noteCluster s e).unanswered = s.unanswered := by
  unfold noteCluster
  split
  · split <;> rfl
  · rfl

@[simp] theorem noteCluster_replaced (s : State ρ) (e : Gateway.Cluster.Event χ ε) :
    (noteCluster s e).replaced = s.replaced := by
  unfold noteCluster
  split
  · split <;> rfl
  · rfl

theorem sent_noteCluster {s : State ρ} {e : Gateway.Cluster.Event χ ε}
    {x : Gateway.Cluster.State ρ} {f : FrameName}
    {incoming : IncomingMessage} (h : Sent s f incoming) :
    Sent ((noteCluster s e).setCluster x) f incoming := by
  rcases noteCluster_links s e with hsame | ⟨c, link, link', hl, hsent, hlinks⟩
  · obtain ⟨l, hf, hget⟩ := h
    exact ⟨l, by rw [← hf, ← hsame]; rfl, hget⟩
  · exact sent_update hl hlinks (by rw [hsent]) h

/-! ### The users of the sockets -/

/-- A step on one socket of the tab leaves its user as it is. -/
theorem user_of_update {s t : State ρ} {c : ConnId} {link : Link} (hl : t.links c = some link)
    {k : ConnId} {old new : Link} (hk : s.links k = some old)
    (hlinks : t.links = Function.update s.links k (some new)) (huser : new.user = old.user) :
    ∃ link', s.links c = some link' ∧ link.user = link'.user := by
  rw [hlinks] at hl
  by_cases hc : c = k
  · rw [hc, Function.update_self] at hl
    obtain rfl := Option.some.inj hl
    exact ⟨old, hc ▸ hk, huser⟩
  · rw [Function.update_of_ne hc] at hl
    exact ⟨link, hl, rfl⟩

/-- The sockets of a tab are as old, or have just been made. -/
theorem user_of_step {s t : State ρ} {e : Event χ ε} (hstep : Step R addr s e t) {c : ConnId}
    {link : Link} (hl : t.links c = some link) :
    (∃ link', s.links c = some link' ∧ link.user = link'.user) ∨ s.cluster.sockets c = none := by
  cases hstep with
  | @connect c' userId gatewayUrl hnew hs =>
    by_cases hc : c = c'
    · rw [hc]
      exact Or.inr hs
    · exact Or.inl ⟨link, (Function.update_of_ne hc ..).symm.trans hl, rfl⟩
  | connectFails => exact Or.inl ⟨link, hl, rfl⟩
  | onOpen hk => exact Or.inl (user_of_update hl hk rfl rfl)
  | @onMessage k now old frame hk hframe =>
    exact Or.inl (user_of_update hl hk (congrArg (Function.update · k _) (note_links s frame)) rfl)
  | onClose hk => exact Or.inl (user_of_update hl hk rfl rfl)
  | send hk => exact Or.inl (user_of_update hl hk rfl rfl)
  | sendClosed => exact Or.inl ⟨link, hl, rfl⟩
  | reload =>
    obtain ⟨link', hl', rfl⟩ := Option.map_eq_some_iff.mp hl
    exact Or.inl ⟨link', hl', rfl⟩
  | cluster hallowed hx => exact Or.inl (noteCluster_user hl)

/-! ### The tab and the cluster -/

/-- How the tab goes with the cluster. -/
structure Linked (s : State ρ) : Prop where
  /-- A handler of a socket of the tab waits for a call that was made for a frame sent there. -/
  asked : ∀ c, s.links c ≠ none → ∀ incoming call,
    awaited? (s.cluster.handlers c) = some (incoming, call) →
    ∃ n, s.frameOf call = some (c, n) ∧ Sent s (c, n) incoming
  /-- It has at hand what such a call has returned. -/
  handed : ∀ c, s.links c ≠ none → ∀ r m, pending? (s.cluster.handlers c) = some (r, m) →
    Answers s c m.id
  /-- It has acknowledged what such calls have returned. -/
  acked : ∀ c, s.links c ≠ none → ∀ senderPts id, .ack senderPts id ∈ s.cluster.out c →
    Answers s c id
  /-- The books are about calls that have been made. -/
  called : ∀ call f, s.frameOf call = some f →
    ∃ msg, (s.cluster.service.calls call).msg? = some msg
  uuid : ∀ r ∈ s.cluster.service.table, isUUID r.id = true
  pendingAcks : s.client.pendingAcks = s.pending.map Prod.fst

theorem linked_init : Linked (init R) where
  asked c hc := absurd rfl hc
  handed c hc := absurd rfl hc
  acked c hc := absurd rfl hc
  called call f h := by cases h
  uuid r hr := absurd hr List.not_mem_nil
  pendingAcks := rfl

/-- A step of the tab alone. -/
theorem Linked.congr {s t : State ρ} (h : Linked s) (hcluster : t.cluster = s.cluster)
    (hframeOf : t.frameOf = s.frameOf) (hsent : ∀ f incoming, Sent s f incoming → Sent t f incoming)
    (hlinks : ∀ c, t.links c ≠ none → s.links c ≠ none ∨
      s.cluster.handlers c = .idle ∧ s.cluster.out c = [])
    (hpending : t.client.pendingAcks = t.pending.map Prod.fst) : Linked t := by
  have hgrows : Grows s t := by
    refine ⟨hsent, fun call f hf => by rw [hframeOf, hf], ?_⟩
    rw [hcluster]
  constructor
  · intro c hc incoming call hawaited
    rw [hcluster] at hawaited
    rcases hlinks c hc with hold | ⟨hidle, -⟩
    · obtain ⟨n, hframe, hsent'⟩ := h.asked c hold incoming call hawaited
      exact ⟨n, hgrows.frameOf _ _ hframe, hsent _ _ hsent'⟩
    · rw [hidle] at hawaited
      cases hawaited
  · intro c hc r m hpending'
    rw [hcluster] at hpending'
    rcases hlinks c hc with hold | ⟨hidle, -⟩
    · exact (h.handed c hold r m hpending').mono hgrows
    · rw [hidle] at hpending'
      cases hpending'
  · intro c hc senderPts id hmem
    rw [hcluster] at hmem
    rcases hlinks c hc with hold | ⟨-, hempty⟩
    · exact (h.acked c hold senderPts id hmem).mono hgrows
    · rw [hempty] at hmem
      exact absurd hmem List.not_mem_nil
  · intro call f hf
    rw [hcluster]
    exact h.called call f (hframeOf ▸ hf)
  · rw [hcluster]
    exact h.uuid
  · exact hpending

/-- A session grows. -/
theorem grows {s t : State ρ} {e : Event χ ε} (h : Linked s) (hstep : Step R addr s e t) :
    Grows s t := by
  cases hstep with
  | @connect c userId gatewayUrl hnew hs =>
    refine ⟨fun f incoming hsent => ?_, fun _ _ hf => hf, List.prefix_rfl⟩
    obtain ⟨link, hf, hget⟩ := hsent
    have hne : f.1 ≠ c := by
      intro hfc
      rw [hfc, hnew] at hf
      cases hf
    exact ⟨link, by rw [← hf]; exact Function.update_of_ne hne .., hget⟩
  | connectFails => exact ⟨fun _ _ hsent => hsent, fun _ _ hf => hf, List.prefix_rfl⟩
  | onOpen hl =>
    refine ⟨fun _ _ hsent => ?_, fun _ _ hf => hf, List.prefix_rfl⟩
    refine sent_update hl rfl ?_ hsent
    exact List.prefix_rfl
  | @onMessage c now link frame hl hframe =>
    refine ⟨fun _ _ hsent => ?_, fun _ _ hf => ?_, ?_⟩
    · refine sent_update hl (congrArg (Function.update · c _) (note_links s frame)) ?_ hsent
      exact List.prefix_rfl
    · show (s.note frame).frameOf _ = _
      rw [note_frameOf, hf]
    · show _ <+: (s.note frame).cluster.service.committed
      rw [note_cluster]
  | onClose hl =>
    refine ⟨fun _ _ hsent => ?_, fun _ _ hf => hf, List.prefix_rfl⟩
    refine sent_update hl rfl ?_ hsent
    exact List.prefix_rfl
  | send hl =>
    refine ⟨fun _ _ hsent => ?_, fun _ _ hf => hf, List.prefix_rfl⟩
    refine sent_update hl rfl ?_ hsent
    exact List.prefix_append ..
  | sendClosed => exact ⟨fun _ _ hsent => hsent, fun _ _ hf => hf, List.prefix_rfl⟩
  | reload =>
    refine ⟨fun f incoming hsent => ?_, fun _ _ hf => hf, List.prefix_rfl⟩
    obtain ⟨link, hf, hget⟩ := hsent
    refine ⟨{ link with readyState := .closed }, ?_, hget⟩
    show (s.links f.1).map _ = _
    rw [hf]
    rfl
  | @cluster e x hallowed hx =>
    refine ⟨fun _ _ hsent => sent_noteCluster hsent, fun call f hf => ?_,
      Gateway.Cluster.committed_prefix (Gateway.Cluster.step_cases hx)⟩
    show (noteCluster s e).frameOf call = some f
    rcases noteCluster_frameOf s e with hsame | ⟨c, raw, call', now, link, rfl, -, hraw, hnew⟩
    · rw [hsame, hf]
    · have hne : call ≠ call' := by
        rintro rfl
        -- the call of a new frame has not been made before
        obtain ⟨hidle, -⟩ := Gateway.Cluster.frame_step (Gateway.Cluster.step_cases hx) hraw
        obtain ⟨msg, hmsg⟩ := h.called call f hf
        rw [hidle] at hmsg
        cases hmsg
      rw [hnew, Function.update_of_ne hne, hf]

section Cluster

variable {s : State ρ} {e : Gateway.Cluster.Event χ ε} {x : Gateway.Cluster.State ρ}
  (h : Linked s) (hreach : (Gateway.cluster R addr).Reachable s.cluster)
  (hallowed : allowed s e = true) (hx : (Gateway.cluster R addr).step s.cluster e = some x)

include h hallowed hx

/-- A handler of a socket of the tab starts to wait for a call when it has read the next frame of the
socket. -/
theorem Linked.asked_step {c : ConnId} (hc : s.links c ≠ none) {incoming : IncomingMessage}
    {call : CallId} (hawaited : awaited? (x.handlers c) = some (incoming, call)) :
    ∃ n, (noteCluster s e).frameOf call = some (c, n) ∧
      Sent ((noteCluster s e).setCluster x) (c, n) incoming := by
  have hgrows : Grows s ((noteCluster s e).setCluster x) := grows h (.cluster hallowed hx)
  cases Gateway.Cluster.turn (Gateway.Cluster.step_cases hx) c with
  | same hh =>
    obtain ⟨n, hframe, hsent⟩ := h.asked c hc incoming call (hh ▸ hawaited)
    exact ⟨n, hgrows.frameOf _ _ hframe, hgrows.sent _ _ hsent⟩
  | plain hnone hpending => exact absurd (hawaited.symm.trans hnone) (Option.some_ne_none _)
  | @frame userID raw incoming' call' now he hraw hh hx' hother =>
    rw [hh] at hawaited
    cases hawaited
    subst he
    obtain ⟨link, hl⟩ := Option.ne_none_iff_exists'.mp hc
    have hnext : raw = link.sent[link.read]? := by
      simp only [allowed, hl, Option.all_some, decide_eq_true_eq] at hallowed
      exact hallowed.2
    have hincoming : raw = some incoming := (Option.filter_eq_some_iff.mp hraw).1
    have hsome : (Gateway.checkIncoming raw).isSome = true := by
      rw [hraw]
      rfl
    refine ⟨link.read, ?_, hgrows.sent _ _ ⟨link, hl, by rw [← hnext, hincoming]⟩⟩
    simp only [noteCluster, hl, State.readFrame, hsome, if_true, Function.update_self]
  | persisted hs hm hh =>
    rw [hh] at hawaited
    cases hawaited

include hreach in
/-- What it has at hand is what a call has returned that it has waited for. -/
theorem Linked.handed_step {c : ConnId} (hc : s.links c ≠ none) {r : String} {m : PersistedMessage}
    (hpending : pending? (x.handlers c) = some (r, m)) :
    Answers ((noteCluster s e).setCluster x) c m.id := by
  have hgrows : Grows s ((noteCluster s e).setCluster x) := grows h (.cluster hallowed hx)
  cases Gateway.Cluster.turn (Gateway.Cluster.step_cases hx) c with
  | same hh => exact (h.handed c hc r m (hh ▸ hpending)).mono hgrows
  | plain hnone hkept => exact (h.handed c hc r m (hkept _ hpending)).mono hgrows
  | frame he hraw hh hx' hother =>
    rw [hh] at hpending
    cases hpending
  | @persisted incoming call msg alloc m' hs hm hh =>
    rw [hh] at hpending
    cases hpending
    have hawaited : awaited? (s.cluster.handlers c) = some (incoming, call) := by
      rw [hs]
      rfl
    obtain ⟨n, hframe, hsent⟩ := h.asked c hc incoming call hawaited
    obtain ⟨userID, now, hmsg⟩ := (Gateway.Cluster.wired hreach).call c incoming call hawaited
    rw [hm] at hmsg
    obtain rfl := Option.some.inj hmsg
    obtain ⟨-, -, createdAt, hmem⟩ := (MessageService.Service.recorded
      (Gateway.Cluster.service_reachable hreach)).ok hm
    exact Answers.mono ⟨call, n, incoming, userID, now, _, _, createdAt, hframe, hsent, hmem⟩
      hgrows

/-- It acknowledges what it has at hand. -/
theorem Linked.acked_step {c : ConnId} (hc : s.links c ≠ none) {senderPts : Int} {id : String}
    (hmem : .ack senderPts id ∈ x.out c) : Answers ((noteCluster s e).setCluster x) c id := by
  have hgrows : Grows s ((noteCluster s e).setCluster x) := grows h (.cluster hallowed hx)
  rcases Gateway.Cluster.out_step (Gateway.Cluster.step_cases hx) c with hsame | ⟨frame, hnew, hframe⟩
  · rw [hsame] at hmem
    exact (h.acked c hc senderPts id hmem).mono hgrows
  · rw [hnew, List.mem_append, List.mem_singleton] at hmem
    rcases hmem with hold | rfl
    · exact (h.acked c hc senderPts id hold).mono hgrows
    · rcases hframe with ⟨r, m, hpending, hack⟩ | ⟨m, -, hmessage⟩
      · obtain ⟨-, rfl⟩ := Frame.ack.inj hack
        exact (h.handed c hc r m hpending).mono hgrows
      · cases hmessage

omit hallowed in
/-- A call gets into the books when it is made. -/
theorem Linked.called_step {call : CallId} {f : FrameName}
    (hf : (noteCluster s e).frameOf call = some f) :
    ∃ msg, (x.service.calls call).msg? = some msg := by
  have hstep := Gateway.Cluster.step_cases hx
  have hmade : ∀ {f}, s.frameOf call = some f → ∃ msg, (x.service.calls call).msg? = some msg := by
    intro f hf
    obtain ⟨msg, hmsg⟩ := h.called call f hf
    exact ⟨msg, Gateway.Cluster.msg?_step hstep hmsg⟩
  rcases noteCluster_frameOf s e with hsame | ⟨c, raw, call', now, link, rfl, -, hraw, hnew⟩
  · exact hmade (hsame ▸ hf)
  · by_cases hcall : call = call'
    · subst hcall
      exact (Gateway.Cluster.frame_step hstep hraw).2
    · rw [hnew, Function.update_of_ne hcall] at hf
      exact hmade hf

/-- The id of a new row is a UUID. -/
theorem Linked.uuid_step : ∀ r ∈ x.service.table, isUUID r.id = true := by
  intro r hr
  have hr' : r ∈ x.service.committed.map Committed.row := hr
  have hkept : r ∈ s.cluster.service.committed.map Committed.row → isUUID r.id = true := h.uuid r
  rcases Gateway.Cluster.committed_step (Gateway.Cluster.step_cases hx) with hsame | ⟨e', rfl, he'⟩
  · rw [hsame] at hr'
    exact hkept hr'
  · rcases MessageService.Service.committed_step he' with
      hsame | ⟨id, msgID, createdAt, t, out, r', rfl, hid, happend⟩
    · rw [hsame] at hr'
      exact hkept hr'
    · rw [happend, List.map_append, List.mem_append] at hr'
      rcases hr' with hr' | hr'
      · exact hkept hr'
      · rw [List.mem_singleton.mp hr']
        show isUUID r'.id = true
        rw [hid]
        exact hallowed

include hreach in
/-- A step of the cluster keeps the tab linked. -/
theorem Linked.cluster : Linked ((noteCluster s e).setCluster x) where
  asked c hc _ _ hawaited := h.asked_step hallowed hx (links_of_noteCluster hc) hawaited
  handed c hc _ _ hpending := h.handed_step hreach hallowed hx (links_of_noteCluster hc) hpending
  acked c hc _ _ hmem := h.acked_step hallowed hx (links_of_noteCluster hc) hmem
  called _ _ hf := h.called_step hx hf
  uuid := h.uuid_step hallowed hx
  pendingAcks := by
    show (noteCluster s e).client.pendingAcks = (noteCluster s e).pending.map Prod.fst
    rw [noteCluster_client, noteCluster_pending, h.pendingAcks]

end Cluster

/-- **One step** keeps the tab linked. -/
theorem Linked.step {s t : State ρ} {e : Event χ ε} (h : Linked s)
    (hreach : (Gateway.cluster R addr).Reachable s.cluster) (hstep : Step R addr s e t) :
    Linked t := by
  have hgrows := grows h hstep
  -- the sockets of the tab when one is replaced
  have hlinks : ∀ {c link link'}, s.links c = some link →
      ∀ k, Function.update s.links c (some link') k ≠ none → s.links k ≠ none ∨
        s.cluster.handlers k = .idle ∧ s.cluster.out k = [] := by
    intro c link link' hl k hk
    by_cases hkc : k = c
    · subst hkc
      exact Or.inl (by rw [hl]; exact Option.some_ne_none _)
    · rw [Function.update_of_ne hkc] at hk
      exact Or.inl hk
  cases hstep with
  | @connect c userId gatewayUrl hnew hs =>
    refine h.congr rfl rfl hgrows.sent (fun k hk => ?_) h.pendingAcks
    by_cases hkc : k = c
    · subst hkc
      exact Or.inr (Gateway.Cluster.unopened hreach hs)
    · have hk' : Function.update s.links c _ k ≠ none := hk
      rw [Function.update_of_ne hkc] at hk'
      exact Or.inl hk'
  | connectFails => exact h.congr rfl rfl hgrows.sent (fun _ hk => Or.inl hk) h.pendingAcks
  | onOpen hl => exact h.congr rfl rfl hgrows.sent (hlinks hl) h.pendingAcks
  | @onMessage c now link frame hl hframe =>
    refine h.congr (note_cluster s frame) (note_frameOf s frame) hgrows.sent (fun k hk => ?_) ?_
    · have hk' : Function.update (s.note frame).links c _ k ≠ none := hk
      rw [note_links] at hk'
      exact hlinks hl k hk'
    · cases frame with
      | ack senderPts messageID =>
        show (s.client.handleAck senderPts messageID).pendingAcks = s.pending.tail.map Prod.fst
        rw [Client.handleAck_pendingAcks, h.pendingAcks, List.map_tail]
      | message m =>
        show (s.client.onMessage now (.message m)).pendingAcks = s.pending.map Prod.fst
        rw [← h.pendingAcks, Client.onMessage]
        split
        · rw [Client.handleIncomingMessage_pendingAcks]
        · rfl
  | onClose hl =>
    refine h.congr rfl rfl hgrows.sent (hlinks hl) ?_
    exact (Client.onClose_pendingAcks s.client).trans h.pendingAcks
  | @send receiverID content now rand c link hl =>
    refine h.congr rfl rfl hgrows.sent (hlinks hl) ?_
    show s.client.pendingAcks ++ [tempId now rand] =
      (s.pending ++ [(tempId now rand, _)]).map Prod.fst
    rw [h.pendingAcks, List.map_append, List.map_singleton]
  | sendClosed => exact h
  | reload =>
    refine h.congr rfl rfl hgrows.sent (fun k hk => Or.inl fun hnone => hk ?_) rfl
    show (s.links k).map _ = none
    rw [hnone]
    rfl
  | cluster hallowed hx => exact h.cluster hreach hallowed hx

/-- The tab is linked in every state reached. -/
theorem linked {s : State ρ} (h : (session R addr).Reachable s) : Linked s := by
  refine h.induction linked_init fun s e t hs ih hstep => ?_
  exact ih.step (cluster_reachable hs) (step_cases hstep)

/-- A temp id is not a UUID. -/
theorem isUUID_tempId (now : Int) (rand : String) : isUUID (tempId now rand) = false := by
  have hlist : (tempId now rand).toList =
      't' :: ("emp_".toList ++ (toString now ++ "_" ++ rand).toList) := by
    simp [tempId]
  rw [isUUID, hlist]
  rfl

/-- The ids in `pendingAcks` are temp ids. -/
theorem isUUID_pendingAcks {s : State ρ} (h : (session R addr).Reachable s) :
    ∀ tempID ∈ s.client.pendingAcks, isUUID tempID = false := by
  refine h.induction (I := fun s => ∀ tempID ∈ s.client.pendingAcks, isUUID tempID = false)
    (fun _ hmem => absurd hmem List.not_mem_nil) fun s e t hs ih hstep => ?_
  cases step_cases hstep with
  | @onMessage c now link frame hl hframe =>
    intro tempID hmem
    have hmem' : tempID ∈ (s.client.onMessage now frame).pendingAcks := hmem
    cases frame with
    | ack senderPts messageID =>
      rw [Client.onMessage, Client.handleAck_pendingAcks] at hmem'
      exact ih tempID (List.mem_of_mem_tail hmem')
    | message m =>
      rw [Client.onMessage] at hmem'
      split at hmem'
      · rw [Client.handleIncomingMessage_pendingAcks] at hmem'
        exact ih tempID hmem'
      · exact ih tempID hmem'
  | onClose hl =>
    intro tempID hmem
    exact ih tempID ((Client.onClose_pendingAcks s.client) ▸ hmem)
  | @send receiverID content now rand c link hl =>
    intro tempID hmem
    rcases List.mem_append.mp hmem with hold | hnew
    · exact ih tempID hold
    · rw [List.mem_singleton.mp hnew]
      exact isUUID_tempId now rand
  | reload => exact fun _ hmem => absurd hmem List.not_mem_nil
  | @cluster e x hallowed hx =>
    intro tempID hmem
    exact ih tempID (noteCluster_client s e ▸ hmem)
  | _ => exact ih

end TinyTelegram.WebClient
