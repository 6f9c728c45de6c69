import TinyTelegram.Gateway.Equiv.Writers

/-!
# Every connection of a user gets the user's messages

As long as nothing fails, the writer of a connection that is open is there for what its channel has
(`Serving`), so the channel can be emptied (`drain`).  With that, a message that a handler was handed
can always be brought on: those that have it take the steps of `advance`, the channel that it comes to is
emptied before it is sent there, and emptied again afterwards (`settle`).

What is then on the sockets follows from what is due to them: with `Named`, every connection of the user
has the message (`fanOut`).
-/

namespace TinyTelegram.Gateway

namespace Cluster

open MessageService (Redis)

variable {ρ χ ε : Type} {R : Redis ρ χ ε} {addr : GwId → String} {s t : State ρ} {e : Event χ ε}
  {c : ConnId} {g : GwId} {m : PersistedMessage} {O : Set ConnId}

/-! ### The writers -/

/-- The channel is closed and empty. -/
def Shut (s : State ρ) (g : GwId) (c : ConnId) : Prop :=
  ((s.gateways g).chans c).closedBy ≠ none ∧ ((s.gateways g).chans c).buf = []

/-- A channel that is closed and empty remains so. -/
theorem Shut.step (h : Step R addr s e t) (hshut : Shut s g c) : Shut t g c := by
  refine ⟨closed_mono h hshut.1, ?_⟩
  rcases buffer_step h g c with hsub | ⟨m, hm, -⟩
  · rw [hshut.2] at hsub
    exact List.sublist_nil.mp hsub
  · exact absurd (accepts_of_enqueued hm).2.1 hshut.1

/-- The writer of the connection runs, unless its channel is closed and empty. -/
def Manned (s : State ρ) (g : GwId) (c : ConnId) : Prop :=
  s.writers c = .off ∨ s.writers c = .stopped → Shut s g c

/-- **One step** leaves a writer running that has something to come. -/
theorem Manned.step (h : Step R addr s e t) (hsucceeds : succeeds e = true)
    (hg : ∀ sock, s.sockets c = some sock → sock.gw = g) (hmanned : Manned s g c) : Manned t g c := by
  intro hidle
  cases writerTurn h c with
  | same hsame => exact (hmanned (hsame ▸ hidle)).step h
  | drained hs hc hclosed hempty =>
    obtain rfl := hg _ hs
    exact Shut.step h ⟨hclosed, hempty⟩
  | started hs hx hnew => simp [hnew] at hidle
  | received hs hc hbuf hnew => simp [hnew] at hidle
  | @written m arrives ok he hc hout hnew =>
    subst he
    obtain ⟨-, rfl⟩ : arrives = true ∧ ok = true := Bool.and_eq_true_iff.mp hsucceeds
    simp [hnew] at hidle

/-- The connection is registered, its socket open, and its writer there for what its channel has. -/
structure Serving (s : State ρ) (c : ConnId) : Prop where
  registered : Registered s c
  isOpen : s.handlers c ≠ .closed
  manned : ∀ sock, s.sockets c = some sock → Manned s sock.gw c

/-- A handler returns by its last step only. -/
theorem closed_step (h : Step R addr s e t) (hclosed : t.handlers c = .closed) :
    s.handlers c = .closed ∨ ∃ ok, e = .handler c (.unregisterUser ok) := by
  cases h with
  | connect hnew hp => exact Or.inl (eq_of_update_eq Handler.noConfusion hclosed)
  | registerUser hs hc hp => exact Or.inl (eq_of_update_eq Handler.noConfusion hclosed)
  | registerConn hs hc hx => exact Or.inl (eq_of_update_eq Handler.noConfusion hclosed)
  | frame hs hc hraw hx => exact Or.inl (eq_of_update_eq Handler.noConfusion hclosed)
  | persisted hs hc hm => exact Or.inl (eq_of_update_eq Handler.noConfusion hclosed)
  | persistFailed hs hc => exact Or.inl (eq_of_update_eq Handler.noConfusion hclosed)
  | @ack k sock r m' arrives ok hs hc =>
    have hhandlers : (s.write k (ackFrame m') arrives).handlers = s.handlers := write_handlers ..
    refine Or.inl (eq_of_update_eq (a := k) (x := if ok then .locating r m' else .reading) ?_
      (hhandlers ▸ hclosed))
    split <;> exact Handler.noConfusion
  | locateNowhere hs hc => exact Or.inl (eq_of_update_eq Handler.noConfusion hclosed)
  | locateHere hs hc => exact Or.inl (eq_of_update_eq Handler.noConfusion hclosed)
  | locatePeer hs hc hp => exact Or.inl (eq_of_update_eq Handler.noConfusion hclosed)
  | lookup hs hc hx =>
    refine Or.inl (eq_of_update_eq ?_ hclosed)
    split <;> exact Handler.noConfusion
  | send hs hc hx hp =>
    refine Or.inl (eq_of_update_eq ?_ hclosed)
    unfold afterSend
    split <;> exact Handler.noConfusion
  | hangUp hs hc hx hp => exact Or.inl (eq_of_update_eq Handler.noConfusion hclosed)
  | unregisterConn hs hc hx => exact Or.inl (eq_of_update_eq Handler.noConfusion hclosed)
  | @unregisterUser k sock ok p hs hc hp =>
    by_cases hk : c = k
    · exact Or.inr ⟨ok, hk ▸ rfl⟩
    · have hold : Function.update s.handlers k .closed c = .closed := hclosed
      rw [Function.update_of_ne hk] at hold
      exact Or.inl hold
  | write hs hc => exact Or.inl (write_handlers s .. ▸ hclosed)
  | _ => exact Or.inl hclosed

theorem Serving.step (h : Step R addr s e t) (hkeeps : Keeps e) (hc : Serving s c) : Serving t c where
  registered := hc.registered.step h
  isOpen hclosed := by
    rcases closed_step h hclosed with hold | ⟨ok, he⟩
    · exact hc.isOpen hold
    · exact hkeeps.2 c ok he
  manned sock hsock := by
    obtain ⟨g, u, hs, -⟩ := hc.registered
    obtain rfl := Option.some.inj ((socket_step h hs).symm.trans hsock)
    refine (hc.manned _ hs).step h hkeeps.1 fun sock' hs' => ?_
    rw [hs] at hs'
    rw [← Option.some.inj hs']

/-- No process is gone, and the connections `O` are served. -/
structure Ready (R : Redis ρ χ ε) (addr : GwId → String) (O : Set ConnId) (s : State ρ) : Prop where
  reachable : (cluster R addr).Reachable s
  alive : Alive s
  serving : ∀ c ∈ O, Serving s c

theorem Ready.step (h : Ready R addr O s) (hstep : (cluster R addr).step s e = some t)
    (hkeeps : Keeps e) (halive : Alive t) : Ready R addr O t where
  reachable := h.reachable.step hstep
  alive := halive
  serving c hc := (h.serving c hc).step (step_cases hstep) hkeeps

/-! ### Emptying a channel -/

/-- What the writer of a connection has still to write counts two in the channel, and one at hand. -/
def load (s : State ρ) (g : GwId) (c : ConnId) : ℕ :=
  2 * ((s.gateways g).chans c).buf.length + (writerHeld (s.writers c)).length

/-- A writer takes no message from its leg. -/
theorem carried_writer {e' : WriterEvent} (h : Step R addr s (.writer c e') t) :
    carried? t = carried? s := by
  cases h with
  | receive hs hc hbuf hx =>
    exact carried_setGateway_of_eq s (Registry.delivering_of_ne hx (by simp) (by simp))
  | drained hs hc => rfl
  | write hs hc => exact carried_write ..

/-- The writer's steps pass a message on, and keep what is coming. -/
theorem passes_writer {e' : WriterEvent} (hsucceeds : succeeds (.writer c e' : Event χ ε) = true) :
    Passes O m s (.writer c e' : Event χ ε) :=
  ⟨hsucceeds, fun _ _ hsent => by cases hsent⟩

theorem Coming.writer_step {k : ConnId} {e' : WriterEvent} (hs : (cluster R addr).Reachable s)
    (h : Step R addr s (.writer c e') t) (hsucceeds : succeeds (.writer c e' : Event χ ε) = true)
    (hk : Registered s k) (hcoming : Coming s m k) : Coming t m k := by
  refine hcoming.step hs h hsucceeds ?_ (fun _ _ hlooked => by cases hlooked) hk
  intro hloss
  cases hloss with
  | nowhere h hnone => cases h
  | unregistered h hnone => cases h
  | refused h hnot => cases h
  | failed hp he => cases he

/-- A writer that waits takes the next message. -/
theorem receive_enabled {sock : Socket} {buf : List PersistedMessage} (h : Ready R addr O s)
    (hsock : s.sockets c = some sock) (hwaiting : s.writers c = .waiting)
    (hbuf : ((s.gateways sock.gw).chans c).buf = m :: buf) :
    ∃ t, (cluster R addr).step s (.writer c .receive) = some t ∧ load t sock.gw c < load s sock.gw c := by
  have hx : registry.step (s.gateways sock.gw) (.receive c) =
      some ((s.gateways sock.gw).setBuf c buf) := by
    simp [registry, Registry.step, Registry.stepAlive, h.alive sock.gw, hbuf]
  refine ⟨(s.setGateway sock.gw ((s.gateways sock.gw).setBuf c buf)).setWriter c (.writing m), ?_, ?_⟩
  · simp [cluster, Cluster.step, h.alive.live hsock, writerStep, hwaiting, hbuf, hx]
  · simp [load, State.setGateway, State.setWriter, Registry.State.setBuf, hbuf, writerHeld]
    omega

/-- A writer whose socket is open writes the message it has. -/
theorem write_enabled {sock : Socket} (h : Ready R addr O s) (hsock : s.sockets c = some sock)
    (hopen : s.handlers c ≠ .closed) (hwriting : s.writers c = .writing m) :
    ∃ t, (cluster R addr).step s (.writer c (.write true true)) = some t ∧
      load t sock.gw c < load s sock.gw c := by
  refine ⟨(s.write c (.message m) true).setWriter c .waiting, ?_, ?_⟩
  · simp [cluster, Cluster.step, h.alive.live hsock, writerStep, hwriting, hopen]
  · simp [load, State.setWriter, State.write, hwriting, writerHeld]

/-- **The channel of a connection that is served can be emptied**, and nothing else changes for a
message that is coming. -/
theorem drain (h : Ready R addr O s) (hc : c ∈ O) (m : PersistedMessage) :
    (cluster R addr).CanReach (Passes O m) s fun t => Ready R addr O t ∧ carried? t = carried? s ∧
      (Coming s m c → Coming t m c) ∧ (∀ sock, t.sockets c = some sock → load t sock.gw c = 0) := by
  obtain ⟨g, u, hsock, -⟩ := (h.serving c hc).registered
  refine Lts.System.CanReach.of_progress (P := fun n t => Ready R addr O t ∧ carried? t = carried? s ∧
    (Coming s m c → Coming t m c) ∧ t.sockets c = some ⟨g, u⟩ ∧ load t g c = n) ?_
    ⟨h, rfl, id, hsock, rfl⟩
  rintro n v ⟨hv, hcarried, hcoming, hsock, rfl⟩
  have hserving := hv.serving c hc
  -- the writer takes a step
  have hnext : ∀ {e' : WriterEvent} {w}, succeeds (.writer c e' : Event χ ε) = true →
      (cluster R addr).step v (.writer c e') = some w → load w g c < load v g c →
      (cluster R addr).CanReach (Passes O m) v fun t => (Ready R addr O t ∧ carried? t = carried? s ∧
        (Coming s m c → Coming t m c) ∧ (∀ sock, t.sockets c = some sock → load t sock.gw c = 0)) ∨
        ∃ k, k < load v g c ∧ Ready R addr O t ∧ carried? t = carried? s ∧
          (Coming s m c → Coming t m c) ∧ t.sockets c = some ⟨g, u⟩ ∧ load t g c = k := by
    intro e' w hsucceeds hstep hload
    have halive : Alive w := hv.alive.step (step_cases hstep) (by simp)
    refine .step (passes_writer hsucceeds) hstep (.refl (Or.inr ⟨_, hload, ?_, ?_, ?_, ?_, rfl⟩))
    · exact hv.step hstep ⟨hsucceeds, by simp⟩ halive
    · rw [carried_writer (step_cases hstep), hcarried]
    · exact fun hm => (hcoming hm).writer_step hv.reachable (step_cases hstep) hsucceeds
        hserving.registered
    · exact socket_step (step_cases hstep) hsock
  -- nothing is left to write
  have hdone : ((v.gateways g).chans c).buf = [] → writerHeld (v.writers c) = [] →
      ∀ sock, v.sockets c = some sock → load v sock.gw c = 0 := by
    intro hbuf hheld sock hs
    obtain rfl := Option.some.inj (hsock.symm.trans hs)
    simp [load, hbuf, hheld]
  cases hw : v.writers c with
  | off =>
    have hshut := hserving.manned _ hsock (Or.inl hw)
    exact .refl (Or.inl ⟨hv, hcarried, hcoming, hdone hshut.2 (by rw [hw]; rfl)⟩)
  | stopped =>
    have hshut := hserving.manned _ hsock (Or.inr hw)
    exact .refl (Or.inl ⟨hv, hcarried, hcoming, hdone hshut.2 (by rw [hw]; rfl)⟩)
  | writing m' =>
    obtain ⟨w, hstep, hload⟩ := write_enabled hv hsock hserving.isOpen hw
    exact hnext rfl hstep hload
  | waiting =>
    cases hbuf : ((v.gateways g).chans c).buf with
    | nil => exact .refl (Or.inl ⟨hv, hcarried, hcoming, hdone hbuf (by rw [hw]; rfl)⟩)
    | cons m' buf =>
      obtain ⟨w, hstep, hload⟩ := receive_enabled hv hsock hw hbuf
      exact hnext rfl hstep hload

/-! ### Bringing a message on -/

/-- A message on its way to a channel is put into none but the one it is enqueued on. -/
theorem unheld_step (hs : (cluster R addr).Reachable s) (h : Step R addr s e t) {l : Leg}
    (hl : carried? s l = some m) (hnot : ∀ g c, enqueued? s e ≠ some (g, c, m)) :
    (∀ g c, m ∉ ((t.gateways g).chans c).buf) ∧ ∀ c, t.writers c ≠ .writing m := by
  have hbefore : ∀ g c, m ∉ ((s.gateways g).chans c).buf := by
    intro g c hm
    have hplace := held_unique hs (l := .gateway g (.buffer c)) hm (held_of_carried hl)
    cases l <;> cases hplace
  constructor
  · intro g c hm
    rcases buffer_step h g c with hsub | ⟨m', hm', hbuf⟩
    · exact hbefore g c (hsub.subset hm)
    · rw [hbuf, List.mem_append, List.mem_singleton] at hm
      rcases hm with hold | rfl
      · exact hbefore g c hold
      · exact hnot g c hm'
  · intro c hm
    rcases writing_of_step h hm with hwriting | ⟨g, hbuf⟩
    · have hplace := held_unique hs (mem_held_writer hwriting) (held_of_carried hl)
      cases l <;> cases hplace
    · exact hbefore g c hbuf

/-- The channel that a message is in flight to can be emptied first. -/
theorem make_room (h : Ready R addr O s) {l : Leg} (hl : carried? s l = some m) :
    (cluster R addr).CanReach (Passes O m) s fun t => Ready R addr O t ∧ carried? t l = some m ∧
      l.distance t = l.distance s ∧
      ∀ g caller c, l = .inFlight g caller c → c ∈ O → ((t.gateways g).chans c).buf = [] := by
  by_cases hfull : ∃ g caller c, l = .inFlight g caller c ∧ c ∈ O
  · obtain ⟨g, caller, c, rfl, hc⟩ := hfull
    refine (drain h hc m).mono (fun _ _ => id) ?_
    rintro t ⟨ht, hcarried, -, hload⟩
    have hl' : carried? t (.inFlight g caller c) = some m := by
      rw [hcarried, hl]
    refine ⟨ht, hl', rfl, ?_⟩
    rintro _ _ _ ⟨⟩ -
    obtain ⟨u, hu⟩ := socket_of_inFlight ht.reachable hl'
    have hzero := hload _ hu
    exact List.length_eq_zero_iff.mp (by simp only [load] at hzero; omega)
  · exact .refl ⟨h, hl, rfl, fun g caller c heq hc => absurd ⟨g, caller, c, heq, hc⟩ hfull⟩

/-- A message that is on its way to a channel no more settles, as the channel it is in is emptied. -/
theorem settle_passed (h : Ready R addr O s) (hend : ¬ Underway s m) :
    (cluster R addr).CanReach (Passes O m) s fun t => Settled t O m := by
  by_cases hcoming : ∃ c ∈ O, Coming s m c
  · obtain ⟨c, hc, hcoming⟩ := hcoming
    refine (drain h hc m).mono (fun _ _ => id) ?_
    rintro t ⟨ht, hcarried, hkept, hload⟩
    suffices hout : .message m ∈ t.out c from settled_of_mem_out ht.reachable hout
    cases hkept hcoming with
    | @leg l hl hch =>
      rw [hcarried] at hl
      exact absurd ⟨l, hl⟩ hend
    | @buffer g hm =>
      obtain ⟨u, hu⟩ := socket_of_buffer ht.reachable hm
      have hpos := List.length_pos_of_mem hm
      have hzero := hload _ hu
      simp only [load] at hzero
      omega
    | writer hm =>
      obtain ⟨g, u, hs, -⟩ := (ht.serving c hc).registered
      have hzero := hload _ hs
      simp [load, hm, writerHeld] at hzero
    | socket hm => exact hm
  · refine .refl ⟨hend, fun c hc => ⟨fun g hm => ?_, fun hm => ?_⟩⟩
    · exact hcoming ⟨c, hc, .buffer hm⟩
    · exact hcoming ⟨c, hc, .writer hm⟩

/-- So does one that has just come to the end of its way. -/
theorem settle_last (h : Ready R addr O s) {l : Leg} (hl : carried? s l = some m)
    (hstep : (cluster R addr).step s e = some t) (hkeeps : Keeps e) (hend : ¬ Underway t m) :
    (cluster R addr).CanReach (Passes O m) t fun t => Settled t O m := by
  by_cases halive : Alive t
  · exact settle_passed (h.step hstep hkeeps halive) hend
  · -- a process goes down with an RPC that sends to a closed channel, which does not get the message
    have hnot : ∀ g c, enqueued? s e ≠ some (g, c, m) := by
      intro g c hm
      obtain ⟨hsent, haccepts⟩ := accepts_of_enqueued hm
      refine halive (h.alive.step (step_cases hstep) fun p he d hd => ?_)
      obtain rfl := Option.some.inj (hsent.symm.trans hd)
      exact haccepts.1
    obtain ⟨hbuf, hwriters⟩ := unheld_step h.reachable (step_cases hstep) hl hnot
    exact .refl ⟨hend, fun c _ => ⟨fun g => hbuf g c, hwriters c⟩⟩

/-- **Every message settles**, by successful steps of those that have it and of the writers. -/
theorem settle (h : Ready R addr O s) (m : PersistedMessage) :
    (cluster R addr).CanReach (Passes O m) s fun t => Settled t O m := by
  by_cases hunderway : Underway s m
  · obtain ⟨l, hl⟩ := hunderway
    refine Lts.System.CanReach.of_progress (P := fun n s => Ready R addr O s ∧
      ∃ l, carried? s l = some m ∧ l.distance s = n) ?_ ⟨h, l, hl, rfl⟩
    rintro n s ⟨hs, l, hl, rfl⟩
    refine (make_room hs hl).trans ?_
    rintro v ⟨hv, hl, hdistance, hroom⟩
    obtain ⟨e, t, hkeeps, hstep, hnext⟩ := advance hv.reachable hv.alive hl
    have hpasses : Passes O m v e := by
      refine ⟨hkeeps.1, fun g c hsent hc => ?_⟩
      obtain ⟨caller, hk⟩ := carried_of_sent hsent
      obtain ⟨rfl, -⟩ := carried_unique hv.reachable hl hk rfl
      rw [hroom g caller c rfl hc]
      decide
    refine .step hpasses hstep ?_
    rcases hnext with hend | ⟨halive, k, hk, hnearer⟩
    · exact (settle_last hv hl hstep hkeeps hend).mono (fun _ _ => id) fun _ => Or.inl
    · exact .refl (Or.inr ⟨_, hdistance ▸ hnearer, hv.step hstep hkeeps halive, k, hk, rfl⟩)
  · exact settle_passed h hunderway

/-! ### Runs without failures -/

/-- The writer of a connection starts when it is registered. -/
theorem registered_of_step (h : Step R addr s e t)
    (ht : ∃ u, ((t.gateways g).conns c).user? = some u) :
    (∃ u, ((s.gateways g).conns c).user? = some u) ∨ t.writers c = .waiting := by
  rcases gateway_step h with hsame | ⟨k, e', x, hx, hgateways, hregister, -⟩
  · rw [hsame] at ht
    exact Or.inl ht
  · obtain ⟨u, hu⟩ := ht
    rw [hgateways] at hu
    by_cases hg : g = k
    · subst hg
      rw [Function.update_self] at hu
      rcases Registry.user?_step hx hu with hold | rfl
      · exact Or.inl ⟨u, hold⟩
      · exact Or.inr (hregister c u rfl).2
    · rw [Function.update_of_ne hg] at hu
      exact Or.inl ⟨u, hu⟩

/-- **Open connections are served** after a run without failures. -/
theorem ready {es : List (Event χ ε)} {u : String} (h : (cluster R addr).run (init R) es = some s)
    (hfail : (cluster R addr).Meets NoFailure (init R) es) (hO : ∀ c ∈ O, OpenFor s u c) :
    Ready R addr O s := by
  have hreach : (cluster R addr).Reachable s := ⟨es, h⟩
  have hinv : Alive s ∧ ∀ c g, (∃ u, ((s.gateways g).conns c).user? = some u) → Manned s g c := by
    refine hfail.run_induction (S := cluster R addr) (motive := fun _ s => Alive s ∧
      ∀ c g, (∃ u, ((s.gateways g).conns c).user? = some u) → Manned s g c) ?_ ?_ h
    · exact ⟨fun g => rfl, fun c g ⟨u, hu⟩ => by cases hu⟩
    · rintro es s e t hs - ⟨halive, hmanned⟩ hfail hstep
      have hwired : Wired s := wired ⟨es, hs⟩
      refine ⟨halive.step (step_cases hstep) fun p he => ?_, fun c g ht => ?_⟩
      · exact hfail.executed (by rw [he]; rfl)
      · rcases registered_of_step (step_cases hstep) ht with ⟨u, hu⟩ | hwaiting
        · refine (hmanned c g ⟨u, hu⟩).step (step_cases hstep) hfail.succeeds fun sock hsock => ?_
          rw [hwired.socket g c u hu] at hsock
          rw [← Option.some.inj hsock]
        · intro hidle
          rw [hwaiting] at hidle
          rcases hidle with hidle | hidle <;> cases hidle
  refine ⟨hreach, hinv.1, fun c hc => ⟨(hO c hc).registered, fun hclosed => ?_, fun sock hsock => ?_⟩⟩
  · obtain ⟨g, hsock, hconn⟩ := hO c hc
    have hstands := (standing hreach c _ hsock).conn
    rw [hclosed, hconn] at hstands
    cases hstands
  · obtain ⟨g, hsock', hconn⟩ := hO c hc
    obtain rfl := Option.some.inj (hsock'.symm.trans hsock)
    exact hinv.2 c g ⟨u, by rw [hconn]; rfl⟩

/-- **Every open connection of a user gets every message** of the user's and for the user, in every run
without failures in which the connections are named.  A message that a handler was handed can be brought
on by successful steps until it has settled, and is then on each of the connections if they are named in
these steps too; and whenever it has settled, however that came, it is on each of them. -/
theorem fanOut {s₀ s : State ρ} {ds es : List (Event χ ε)} {u : String} {O : Set ConnId}
    {m : PersistedMessage} (h₀ : (cluster R addr).run (init R) ds = some s₀)
    (h : (cluster R addr).run s₀ es = some s) (hO : ∀ c ∈ O, OpenFor s₀ u c ∧ OpenFor s u c)
    (hfail : (cluster R addr).Meets NoFailure (init R) (ds ++ es))
    (hnamed : (cluster R addr).Meets (Named u O) s₀ es)
    (hm : .handed m ∈ (cluster R addr).observe milestone? s₀ es) :
    (∃ fs t, (cluster R addr).run s fs = some t ∧ (∀ e ∈ fs, succeeds e = true) ∧ Settled t O m ∧
      ((cluster R addr).Meets (Named u O) s fs → FanOut t u O m)) ∧
    (Settled s O m → FanOut s u O m) := by
  have hrun : (cluster R addr).run (init R) (ds ++ es) = some s :=
    (Lts.System.run_append ..).mpr ⟨s₀, h₀, h⟩
  have hpasses : (cluster R addr).Meets (Passes O m) s₀ es :=
    (hfail.of_append h₀).mono fun _ _ he => he.passes
  have hopen : ∀ c ∈ O, OpenFor s₀ u c := fun c hc => (hO c hc).1
  refine ⟨?_, fanOut_of_due (due ⟨ds, h₀⟩ h hopen hpasses hnamed hm)⟩
  obtain ⟨fs, t, ht, hfs, hsettled⟩ := settle (ready hrun hfail fun c hc => (hO c hc).2) m
  refine ⟨fs, t, ht, (hfs.mono fun _ _ he => he.succeeds).forall_of_run ht, hsettled, fun hnamed' => ?_⟩
  have hm' : .handed m ∈ (cluster R addr).observe milestone? s₀ (es ++ fs) := by
    rw [Lts.System.observe_append _ h ht]
    exact List.mem_append_left _ hm
  exact fanOut_of_due (due ⟨ds, h₀⟩ ((Lts.System.run_append ..).mpr ⟨s, h, ht⟩) hopen
    (hpasses.trans h hfs) (hnamed.trans h hnamed') hm') hsettled

/-- Alice and Bob have one tab each. -/
def twoTabs : List CounterEvent := opening 0 "alice" ++ opening 3 "bob"

/-- The message is on Bob's tab; and when it has only been handed to Alice's handler, it can be brought on
to there. -/
theorem fanOut_hiRun : ∃ (s t : CounterState) (m : PersistedMessage),
    (counterCluster fun _ => "gateway:50051").run (counterCluster fun _ => "gateway:50051").init
      (twoTabs ++ hiRun) = some s ∧ FanOut s "bob" {3} m ∧
    (counterCluster fun _ => "gateway:50051").run (counterCluster fun _ => "gateway:50051").init
      (twoTabs ++ hiRun.take 6) = some t ∧
    ∃ fs v, (counterCluster fun _ => "gateway:50051").run t fs = some v ∧ Settled v {3} m := by
  let m : PersistedMessage := ⟨"m", some ⟨"alice", "bob", "hi", 5⟩, 1, 1, 8⟩
  let C : CounterState → CounterEvent → Prop := fun s e =>
    (∀ d ∈ located? s e, d.2.2.getD "" ≠ "") ∧
    (∀ d ∈ lookedUp? s e, (s.gateways d.1).connMap "bob" = some 3) ∧
    (∀ d ∈ sent? s e, ((s.gateways d.1).chans d.2.1).closedBy = none) ∧
    ∀ d ∈ milestone? s e, d.message.isReceiver "bob" = true
  have hnamed : ∀ s e, C s e → Named "bob" {3} s e := by
    rintro s e ⟨hlocated, hlookedUp, hsent, hhanded⟩
    refine ⟨fun r m answer h _ _ => hlocated _ h, fun g r m h _ c hc => hc ▸ hlookedUp _ h,
      fun g ch m h _ _ => hsent _ h, fun k m he hm _ c _ => Or.inr ?_⟩
    refine hhanded (.handed m) ?_
    rw [he, milestone?, hm]
    rfl
  obtain ⟨s₀, s, t, hs₀, hs, ht, hopen, hopens, hopent, hfail, hcheck, hm, hm', hout⟩ :
      ∃ (s₀ s t : CounterState),
      (counterCluster fun _ => "gateway:50051").run (counterCluster fun _ => "gateway:50051").init
        twoTabs = some s₀ ∧
      (counterCluster fun _ => "gateway:50051").run s₀ hiRun = some s ∧
      (counterCluster fun _ => "gateway:50051").run s₀ (hiRun.take 6) = some t ∧
      OpenFor s₀ "bob" 3 ∧ OpenFor s "bob" 3 ∧ OpenFor t "bob" 3 ∧
      (counterCluster fun _ => "gateway:50051").Meets NoFailure
        (counterCluster fun _ => "gateway:50051").init (twoTabs ++ hiRun) ∧
      (counterCluster fun _ => "gateway:50051").Meets C s₀ hiRun ∧
      .handed m ∈ (counterCluster fun _ => "gateway:50051").observe milestone? s₀ hiRun ∧
      .handed m ∈ (counterCluster fun _ => "gateway:50051").observe milestone? s₀ (hiRun.take 6) ∧
      s.out 3 = [.message m] := by
    exact ⟨_, _, _, rfl, rfl, rfl, ⟨0, rfl, rfl⟩, ⟨0, rfl, rfl⟩, ⟨0, rfl, rfl⟩,
      .of_check (by decide +kernel), .of_check (by decide +kernel), by decide +kernel,
      by decide +kernel, rfl⟩
  have hrun := (Lts.System.run_append ..).mpr ⟨s₀, hs₀, hs⟩
  have hprefix : twoTabs ++ hiRun.take 6 <+: twoTabs ++ hiRun :=
    (List.prefix_append_right_inj _).mpr (List.take_prefix ..)
  obtain ⟨-, hfan⟩ := @fanOut _ _ _ MessageService.Counters.redis (fun _ => "gateway:50051") s₀ s
    twoTabs hiRun "bob" {3} m hs₀ hs (by rintro c rfl; exact ⟨hopen, hopens⟩) hfail
    (hcheck.mono hnamed) hm
  obtain ⟨⟨fs, v, hv, -, hsettled, -⟩, -⟩ := @fanOut _ _ _ MessageService.Counters.redis
    (fun _ => "gateway:50051") s₀ t twoTabs (hiRun.take 6) "bob" {3} m hs₀ ht
    (by rintro c rfl; exact ⟨hopen, hopent⟩) (hfail.of_prefix hprefix)
    ((hcheck.of_prefix (List.take_prefix ..)).mono hnamed) hm'
  refine ⟨s, t, m, hrun, hfan ?_, (Lts.System.run_append ..).mpr ⟨s₀, hs₀, ht⟩, fs, v, hv, hsettled⟩
  exact settled_of_mem_out ⟨_, hrun⟩ (by rw [hout]; exact List.mem_singleton_self _)

end Cluster

end TinyTelegram.Gateway
