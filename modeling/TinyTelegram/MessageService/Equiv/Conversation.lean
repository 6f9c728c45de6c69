import TinyTelegram.MessageService.Equiv.Cursor
import TinyTelegram.MessageService.Equiv.Handout

/-!
# The order of a conversation

A message takes two PTS, one `INCR` after the other: first that of its receiver, then that of its
sender.  Of two messages between the same two users each has a PTS in both streams, and the two
streams should agree which comes first (`SameOrder`).

Two calls that interleave may be in one order on one counter and in the other on the other
(`not_sameOrder`).  No call does this to another if it takes its second PTS only when the calls
between the same users that still have to take theirs are behind it on both counters (`InTurn`),
and then the two streams always agree (`sameOrder`).
-/

namespace TinyTelegram.MessageService

namespace Counters

/-- The message is one between the users `a` and `b`. -/
def Exchanged (a b senderId receiverId : String) : Prop :=
  senderId = a ∧ receiverId = b ∨ senderId = b ∧ receiverId = a

instance (a b senderId receiverId : String) : Decidable (Exchanged a b senderId receiverId) :=
  inferInstanceAs (Decidable (_ ∨ _))

/-- Of any two messages between two users, the streams of both agree which comes first. -/
def SameOrder (t : Table) : Prop :=
  ∀ a b, a ≠ b → ∀ r ∈ t, ∀ r' ∈ t, Exchanged a b r.senderId r.receiverId →
    Exchanged a b r'.senderId r'.receiverId →
    (r.ptsFor a < r'.ptsFor a ↔ r.ptsFor b < r'.ptsFor b)

/-- If the step hands a call the PTS of its sender, and the call `id'` is another one between the same
two users that stands between its two increments, then `id'` has the same receiver and took its PTS
later. -/
def InTurnWith (id' : CallId) (s : Service.State State) : CounterEvent → Prop
  | .redis id (.incr .executed) =>
    match s.calls id, s.calls id' with
    | .incrSender msg rp, .incrSender msg' rp' =>
      id' ≠ id → msg.senderId ≠ msg.receiverId →
        Exchanged msg.senderId msg.receiverId msg'.senderId msg'.receiverId →
        msg'.receiverId = msg.receiverId ∧ rp < rp'
    | _, _ => True
  | _ => True

/-- The step is no rollback, and no call takes its second PTS before its turn. -/
def InTurn (s : Service.State State) (e : CounterEvent) : Prop :=
  NoRollback e ∧ ∀ id', InTurnWith id' s e

/-! ### The failing schedule -/

/-- Alice and Bob write to each other at once: each message gets the PTS of its receiver before the
other one gets that of its sender. -/
def crossedRun : List CounterEvent :=
  [.invoke 0 ⟨"alice", "bob", "to bob", 0⟩, .redis 0 (.incr .executed),
    .invoke 1 ⟨"bob", "alice", "to alice", 0⟩, .redis 1 (.incr .executed),
    .redis 0 (.incr .executed), .redis 0 (.wait (.ok 1)), .insert 0 "a" 0 0 .executed,
    .redis 1 (.incr .executed), .redis 1 (.wait (.ok 1)), .insert 1 "b" 0 0 .executed]

/-- **Alice has Bob's message first, and Bob has Alice's.** -/
theorem not_sameOrder : ∃ s, counterService.run counterService.init crossedRun = some s ∧
    ¬ SameOrder s.table := by
  refine ⟨_, rfl, fun h => ?_⟩
  have horder := h "alice" "bob" (by decide)
    ⟨"a", "alice", "bob", "to bob", 2, 1, 0⟩ List.mem_cons_self
    ⟨"b", "bob", "alice", "to alice", 2, 1, 0⟩ (List.mem_cons_of_mem _ List.mem_cons_self)
    (by decide) (by decide)
  exact absurd horder (by decide)

/-! ### Before and after -/

/-- The PTS of a message in the stream of one of its two users. -/
def ptsOf (msg : ChatMessage) (rp sp : Int) (u : String) : Int :=
  if msg.receiverId = u then rp else sp

/-- The two calls, of messages between `a` and `b`, were handed their PTS in the same order. -/
def Ordered (a b : String) (msg : ChatMessage) (rp sp : Int) (msg' : ChatMessage)
    (rp' sp' : Int) : Prop :=
  ptsOf msg rp sp a < ptsOf msg' rp' sp' a ∧ ptsOf msg rp sp b < ptsOf msg' rp' sp' b

theorem exchanged_users {a b c d c' d' : String} (h : Exchanged a b c d) (h' : Exchanged a b c' d') :
    Exchanged c d c' d' := by
  rcases h with ⟨rfl, rfl⟩ | ⟨rfl, rfl⟩
  · exact h'
  · exact h'.symm

theorem ordered_of_users {a b : String} {msg msg' : ChatMessage} {rp sp rp' sp' : Int}
    (hab : Exchanged a b msg'.senderId msg'.receiverId)
    (hreceiver : ptsOf msg rp sp msg'.receiverId < ptsOf msg' rp' sp' msg'.receiverId)
    (hsender : ptsOf msg rp sp msg'.senderId < ptsOf msg' rp' sp' msg'.senderId) :
    Ordered a b msg rp sp msg' rp' sp' := by
  rcases hab with ⟨rfl, rfl⟩ | ⟨rfl, rfl⟩
  · exact ⟨hsender, hreceiver⟩
  · exact ⟨hreceiver, hsender⟩

/-- How the calls between `a` and `b` stand to each other: two that have both their PTS have them in
the same order, and one that has only its first has it after all those that have both. -/
structure TakingTurns (a b : String) (s : Service.State State) : Prop where
  both : ∀ id id' msg rp sp msg' rp' sp', id ≠ id' →
    handed? (s.calls id) = some (msg, rp, some sp) →
    handed? (s.calls id') = some (msg', rp', some sp') →
    Exchanged a b msg.senderId msg.receiverId → Exchanged a b msg'.senderId msg'.receiverId →
    Ordered a b msg rp sp msg' rp' sp' ∨ Ordered a b msg' rp' sp' msg rp sp
  first : ∀ id id' msg rp sp msg' rp', handed? (s.calls id) = some (msg, rp, some sp) →
    s.calls id' = .incrSender msg' rp' →
    Exchanged a b msg.senderId msg.receiverId → Exchanged a b msg'.senderId msg'.receiverId →
    ptsOf msg rp sp msg'.receiverId < rp'

section Run

variable {es : List CounterEvent} {s t : Service.State State}
  (h : counterService.run counterService.init es = some s)
  (hback : counterService.Meets (fun _ => NoRollback) counterService.init es)

include h hback

/-- What a call has been handed is at most the counter of its user. -/
theorem ptsOf_le {id : CallId} {msg : ChatMessage} {rp sp : Int}
    (hhanded : handed? (s.calls id) = some (msg, rp, some sp)) {u : String}
    (hu : msg.receiverId = u ∨ msg.senderId = u) :
    ptsOf msg rp sp u ≤ s.redis.value (ptsKey u) := by
  obtain ⟨hreceiver, hsender⟩ := grants_handed (known h hback id).2 hhanded
  unfold ptsOf
  split_ifs with hrec
  · exact hrec ▸ (granted_le h hback hreceiver).2
  · exact hu.resolve_left hrec ▸ (granted_le h hback hsender).2

/-- A call that gets its sender's PTS gets both after a call that has both already, if it got its
receiver's after it. -/
theorem ordered_of_sender {a b : String} {id : CallId} {msg msg' : ChatMessage} {rp sp rp' : Int}
    (hhanded : handed? (s.calls id) = some (msg, rp, some sp))
    (hne : msg'.senderId ≠ msg'.receiverId) (hab : Exchanged a b msg.senderId msg.receiverId)
    (hab' : Exchanged a b msg'.senderId msg'.receiverId)
    (hfirst : ptsOf msg rp sp msg'.receiverId < rp') :
    Ordered a b msg rp sp msg' rp' (s.redis.value (ptsKey msg'.senderId) + 1) := by
  have hu : msg.receiverId = msg'.senderId ∨ msg.senderId = msg'.senderId := by
    rcases hab with ⟨rfl, rfl⟩ | ⟨rfl, rfl⟩
    · exact hab'.elim (fun h => Or.inr h.1.symm) fun h => Or.inl h.1.symm
    · exact hab'.elim (fun h => Or.inl h.1.symm) fun h => Or.inr h.1.symm
  refine ordered_of_users hab' ?_ ?_
  · rw [ptsOf, ptsOf, if_pos rfl] at *
    exact hfirst
  · have hle := ptsOf_le h hback hhanded hu
    rw [ptsOf, ptsOf, if_neg hne.symm] at *
    omega

/-- **One step** in which no call takes its second PTS before its turn. -/
theorem TakingTurns.step {a b : String} (hab : a ≠ b) (hs : TakingTurns a b s) {e : CounterEvent}
    (he : InTurn s e) (hstep : counterService.step s e = some t) : TakingTurns a b t := by
  have hne : ∀ {msg : ChatMessage}, Exchanged a b msg.senderId msg.receiverId →
      msg.senderId ≠ msg.receiverId := by
    rintro msg (⟨hsend, hrec⟩ | ⟨hsend, hrec⟩)
    · rwa [hsend, hrec]
    · rw [hsend, hrec]
      exact hab.symm
  constructor
  · intro id id' msg rp sp msg' rp' sp' hid hh hh' hx hx'
    -- at most one of the two has just been handed its second PTS
    rcases handed_sender hstep hh with hold | ⟨-, hcs, rfl, hother⟩
    · rcases handed_sender hstep hh' with hold' | ⟨-, hcs, rfl, -⟩
      · exact hs.both id id' _ _ _ _ _ _ hid hold hold' hx hx'
      · exact Or.inl (ordered_of_sender h hback hold (hne hx') hx hx'
          (hs.first id id' _ _ _ _ _ hold hcs hx hx'))
    · rw [hother id' hid.symm] at hh'
      exact Or.inr (ordered_of_sender h hback hh' (hne hx) hx' hx
        (hs.first id' id _ _ _ _ _ hh' hcs hx' hx))
  · intro id id' msg rp sp msg' rp' hh hc' hx hx'
    have hfirst : handed? (t.calls id') = some (msg', rp', none) := by
      rw [hc']
      rfl
    rcases handed_sender hstep hh with hold | ⟨he', hcs, rfl, hother⟩
    · cases handout hstep id' with
      | lost h => rw [h] at hfirst; cases hfirst
      | sender he hcs hct hother => rw [hct] at hc'; cases hc'
      | same hsame' =>
        rw [hsame'] at hfirst
        exact hs.first id id' _ _ _ _ _ hold (handed?_first hfirst) hx hx'
      | @receiver msg'' he hcs hct hother =>
        rw [hct] at hc'
        cases hc'
        have hu : msg.receiverId = msg'.receiverId ∨ msg.senderId = msg'.receiverId := by
          rcases hx with ⟨rfl, rfl⟩ | ⟨rfl, rfl⟩
          · exact hx'.elim (fun h => Or.inl h.2.symm) fun h => Or.inr h.2.symm
          · exact hx'.elim (fun h => Or.inr h.2.symm) fun h => Or.inl h.2.symm
        have hle := ptsOf_le h hback hold hu
        omega
    · -- the other call is behind it, as it is in its turn
      have hid : id' ≠ id := by
        rintro rfl
        rw [hc'] at hh
        cases hh
      rw [hother id' hid] at hc'
      have hturn := he.2 id'
      rw [he'] at hturn
      simp only [InTurnWith, hcs, hc'] at hturn
      obtain ⟨hrec, hlt⟩ := hturn hid (hne hx) (exchanged_users hx hx')
      rw [ptsOf, hrec, if_pos rfl]
      exact hlt

end Run

/-! ### Runs -/

/-- In every run in which calls take their second PTS in turn, the calls of a conversation do. -/
theorem takingTurns {a b : String} (hab : a ≠ b) {es : List CounterEvent} {s : Service.State State}
    (h : counterService.run counterService.init es = some s)
    (hturn : counterService.Meets InTurn counterService.init es) : TakingTurns a b s := by
  refine Lts.System.invariant_of_meets_with (C := InTurn)
    (J := fun s => ∃ es, counterService.run counterService.init es = some s ∧
      counterService.Meets (fun _ => NoRollback) counterService.init es)
    (fun {es t} ht hC => ⟨es, ht, hC.mono fun _ _ he => he.1⟩) ?_ ?_ h hturn
  · constructor
    · intro id id' msg rp sp msg' rp' sp' _ hh
      cases hh
    · intro id id' msg rp sp msg' rp' hh
      cases hh
  · rintro s e t ⟨es, hs, hback⟩ hturns he hstep
    exact hturns.step hs hback hab he hstep

/-- **Both users agree on the order of their conversation**, in every run without rollbacks in which a
call is handed the PTS of its sender only while each other call between the same two users that
stands between its two increments has the same receiver and a greater PTS of it. -/
theorem sameOrder {es : List CounterEvent} {s : Service.State State}
    (h : counterService.run counterService.init es = some s)
    (hturn : counterService.Meets InTurn counterService.init es) : SameOrder s.table := by
  intro a b hab r hr r' hr' hrab hrab'
  obtain ⟨x, hx, rfl⟩ := List.mem_map.mp hr
  obtain ⟨y, hy, rfl⟩ := List.mem_map.mp hr'
  obtain ⟨msg, rp, sp, res, msgID, createdAt, hxcall, hxrow⟩ :=
    (Service.recorded ⟨es, h⟩).returned x hx
  obtain ⟨msg', rp', sp', res', msgID', createdAt', hycall, hyrow⟩ :=
    (Service.recorded ⟨es, h⟩).returned y hy
  by_cases hcall : x.call = y.call
  · -- one call, so one message
    rw [hcall, hycall] at hxcall
    cases hxcall
    rw [hxrow, hyrow]
    exact iff_of_false (lt_irrefl _) (lt_irrefl _)
  · rw [hxrow] at hrab ⊢
    rw [hyrow] at hrab' ⊢
    have hboth := (takingTurns hab h hturn).both x.call y.call msg rp sp msg' rp' sp' hcall
      (by rw [hxcall]; rfl) (by rw [hycall]; rfl) hrab hrab'
    rcases hboth with ⟨ha, hb⟩ | ⟨ha, hb⟩
    · exact iff_of_true ha hb
    · exact iff_of_false ha.not_gt hb.not_gt

/-- Calls that are made one after the other are in turn. -/
theorem InTurn.of_alone {s : Service.State State} {e : CounterEvent} (hback : NoRollback e)
    (halone : ∀ id id', (s.calls id).InProgress → (s.calls id').InProgress → id' = id) :
    InTurn s e := by
  refine ⟨hback, fun id' => ?_⟩
  unfold InTurnWith
  split
  · rename_i id
    split
    · rename_i msg rp msg' rp' hc hc'
      exact fun hne => absurd (halone id id' (by rw [hc]; trivial) (by rw [hc']; trivial)) hne
    · trivial
  · trivial

/-- Alice writes to Bob, and then Bob to Alice. -/
def answeredRun : List CounterEvent :=
  wholeCall 0 ⟨"alice", "bob", "hi", 0⟩ "a" ++ wholeCall 1 ⟨"bob", "alice", "hello", 0⟩ "b"

/-- Both have Alice's message first. -/
theorem sameOrder_answeredRun : ∃ s,
    counterService.run counterService.init answeredRun = some s ∧ s.table.length = 2 ∧
    SameOrder s.table := by
  refine ⟨_, rfl, rfl, @sameOrder answeredRun _ rfl (Lts.System.Meets.mono_of_run
    (C := fun s e => NoRollback e ∧ (¬ (s.calls 0).InProgress ∨ ¬ (s.calls 1).InProgress)) ?_
    (.of_check (by decide)))⟩
  rintro pre hpre t ht e ⟨hback, halone⟩
  have hidle : ∀ id, (t.calls id).InProgress → id = 0 ∨ id = 1 := by
    intro id hid
    by_contra hne
    rw [Service.calls_eq_idle ht] at hid
    · exact hid
    · intro msg hmem
      have hcall := hpre.subset hmem
      simp [answeredRun, wholeCall] at hcall
      exact hne (hcall.imp And.left And.left)
  refine .of_alone hback fun id id' hid hid' => ?_
  rcases hidle id hid with rfl | rfl <;> rcases hidle id' hid' with rfl | rfl
  · rfl
  · exact (halone.elim (absurd hid) (absurd hid'))
  · exact (halone.elim (absurd hid') (absurd hid))
  · rfl

/-! ### A call that is not in its turn -/

/-- A call that is not in its turn takes its second PTS while another one between the same users, which
is not behind it, still has to take its own. -/
theorem exists_of_not_inTurnWith {s : Service.State State} {id id' : CallId}
    (hnot : ¬ InTurnWith id' s (.redis id (.incr .executed))) :
    ∃ msg rp msg' rp', s.calls id = .incrSender msg rp ∧ s.calls id' = .incrSender msg' rp' ∧
      id' ≠ id ∧ msg.senderId ≠ msg.receiverId ∧
      Exchanged msg.senderId msg.receiverId msg'.senderId msg'.receiverId ∧
      ¬ (msg'.receiverId = msg.receiverId ∧ rp < rp') := by
  simp only [InTurnWith] at hnot
  split at hnot
  · rename_i msg rp msg' rp' hc hc'
    simp only [Classical.not_imp] at hnot
    exact ⟨msg, rp, msg', rp', hc, hc', hnot⟩
  · exact absurd trivial hnot

/-- Where the two users agree, the sender's PTS of a message is before that of another one if the
receiver's is. -/
theorem SameOrder.ptsOf_iff {t : Table} (h : SameOrder t) {msg msg' : ChatMessage}
    {rp sp rp' sp' : Int} {msgID msgID' : String} {createdAt createdAt' : Int}
    (hr : PersistCall.row msg rp sp msgID createdAt ∈ t)
    (hr' : PersistCall.row msg' rp' sp' msgID' createdAt' ∈ t) (hne : msg.senderId ≠ msg.receiverId)
    (hpair : Exchanged msg.senderId msg.receiverId msg'.senderId msg'.receiverId) :
    sp < ptsOf msg' rp' sp' msg.senderId ↔ rp < ptsOf msg' rp' sp' msg.receiverId := by
  have hiff := h msg.senderId msg.receiverId hne _ hr _ hr' (Or.inl ⟨rfl, rfl⟩) hpair
  have hsender : (PersistCall.row msg rp sp msgID createdAt).ptsFor msg.senderId = sp :=
    if_neg hne.symm
  have hreceiver : (PersistCall.row msg rp sp msgID createdAt).ptsFor msg.receiverId = rp :=
    if_pos rfl
  rwa [hsender, hreceiver] at hiff

section Run

variable {es : List CounterEvent} {s : Service.State State}
  (h : counterService.run counterService.init es = some s)
  (hback : counterService.Meets (fun _ => NoRollback) counterService.init es)

include h hback

/-- Of two calls that still have to take their second PTS, one can finish and then the other one. -/
theorem exists_finished {id id' : CallId} {msg msg' : ChatMessage} {rp rp' : Int}
    (hc : s.calls id = .incrSender msg rp) (hc' : s.calls id' = .incrSender msg' rp')
    (hne : id' ≠ id) : ∃ es' t msgID msgID' sp',
      counterService.run s (.redis id (.incr .executed) :: es') = some t ∧
      (∀ e ∈ es', NoRollback e) ∧
      PersistCall.row msg rp (s.redis.value (ptsKey msg.senderId) + 1) msgID 0 ∈ t.table ∧
      PersistCall.row msg' rp' sp' msgID' 0 ∈ t.table ∧
      (msg.receiverId = msg'.senderId ∨ msg.senderId = msg'.senderId →
        ptsOf msg rp (s.redis.value (ptsKey msg.senderId) + 1) msg'.senderId < sp') := by
  obtain ⟨msgID, hid⟩ := Infinite.exists_notMem_finset (s.table.map Row.id).toFinset
  rw [List.mem_toFinset] at hid
  obtain ⟨u, hu, hfirst⟩ := finish_incrSender h hback hid hc
  have hrun : counterService.run counterService.init
      (es ++ finish id msgID (.incrSender msg rp)) = some u :=
    (Lts.System.run_append ..).mpr ⟨s, h, hu⟩
  have hback' : counterService.Meets (fun _ => NoRollback) counterService.init
      (es ++ finish id msgID (.incrSender msg rp)) := hback.append fun _ => noRollback_finish
  obtain ⟨msgID', hid'⟩ := Infinite.exists_notMem_finset (u.table.map Row.id).toFinset
  rw [List.mem_toFinset] at hid'
  obtain ⟨t, ht, hsecond⟩ := finish_incrSender hrun hback' hid'
    ((hfirst.other id' hne).trans hc')
  have hr : PersistCall.row msg rp (s.redis.value (ptsKey msg.senderId) + 1) msgID 0 ∈ u.table := by
    rw [hfirst.table]
    exact List.mem_append_right _ (List.mem_singleton_self _)
  refine ⟨[.redis id (.wait (.ok 1)), .insert id msgID 0 0 .executed] ++
    finish id' msgID' (.incrSender msg' rp'), t, msgID, msgID',
    u.redis.value (ptsKey msg'.senderId) + 1, ?_, ?_, ?_, ?_, fun hu => ?_⟩
  · exact (Lts.System.run_append _ _ (finish id msgID (.incrSender msg rp)) _).mpr ⟨u, hu, ht⟩
  · intro e he
    rcases List.mem_append.mp he with he | he
    · have hfinish : ∀ e ∈ finish id msgID (.wait msg rp 0), NoRollback e := noRollback_finish
      exact hfinish e he
    · exact noRollback_finish e he
  · rw [hsecond.table]
    exact List.mem_append_left _ hr
  · rw [hsecond.table]
    exact List.mem_append_right _ (List.mem_singleton_self _)
  · exact Int.lt_add_one_of_le (ptsFor_le hrun hback' hr hu).2

/-- **A call that is not in its turn can turn the conversation around**: the run goes on, without
rollbacks and without failures, to a state where the two users disagree about its message and that of
the other call. -/
theorem exists_disagreement {id id' : CallId}
    (hnot : ¬ InTurnWith id' s (.redis id (.incr .executed))) :
    ∃ es' t, counterService.run s (.redis id (.incr .executed) :: es') = some t ∧
      (∀ e ∈ es', NoRollback e) ∧ ¬ SameOrder t.table := by
  obtain ⟨msg, rp, msg', rp', hc, hc', hne, hdistinct, hpair, hbehind⟩ :=
    exists_of_not_inTurnWith hnot
  obtain ⟨es', t, msgID, msgID', sp', ht, hback', hr, hr', hlt⟩ := exists_finished h hback hc hc' hne
  refine ⟨es', t, ht, hback', fun horder => ?_⟩
  have hiff := horder.ptsOf_iff hr hr' hdistinct hpair
  rcases hpair with ⟨hsend', hrec'⟩ | ⟨hsend', hrec'⟩
  · -- the other message is after it in the sender's stream only
    have hafter := hlt (Or.inr hsend'.symm)
    rw [ptsOf, ptsOf, hrec', if_neg hdistinct.symm, if_pos rfl] at hiff
    rw [ptsOf, hsend', if_neg hdistinct.symm] at hafter
    exact hbehind ⟨hrec', hiff.mp hafter⟩
  · -- the other message is after it in the receiver's stream only
    have hafter := hlt (Or.inl hsend'.symm)
    rw [ptsOf, ptsOf, hrec', if_pos rfl, if_neg hdistinct] at hiff
    rw [ptsOf, hsend', if_pos rfl] at hafter
    have hbefore := hiff.mpr hafter
    have hgranted := (known h hback id').2
    rw [hc'] at hgranted
    have hle := (granted_le h hback hgranted).2
    rw [hrec'] at hle
    omega

end Run

end Counters

end TinyTelegram.MessageService
