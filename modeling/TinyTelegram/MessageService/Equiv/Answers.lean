import TinyTelegram.MessageService.Equiv.Counters

/-!
# What `GetDiff` answers

`GetDiff` reads the rows from one store and then the counter from another, while other calls go on.
Its entries are rows of the table, over any Redis (`answered`).  Over counters that are never rolled
back no committed PTS is above the counter, and the counter is read last, so the `CurrentPts` of a
response is a barrier (`currentPts_barrier`): all entries are up to it, and all PTS of the user that
are handed out afterwards are above it.
-/

namespace TinyTelegram.MessageService

/-! ### Over any Redis -/

namespace Service

variable {ρ χ ε : Type} {R : Redis ρ χ ε}

/-- The entries of all answers are rows of their users above the PTS of the requests. -/
def Answered (s : State ρ) : Prop :=
  ∀ q req messages, (s.diffs q).answer? = some (req, messages) → ∀ m ∈ messages,
    ∃ r ∈ s.table, r.involves req.userId ∧ req.clientPts < r.ptsFor req.userId ∧
      m = r.toEntry req.userId

/-- A step adds rows, if anything. -/
theorem table_step {s t : State ρ} {e : Event χ ε} (hstep : (system R).step s e = some t) :
    s.table <+: t.table := by
  rcases committed_step hstep with hsame | ⟨id, msgID, createdAt, time, out, r, -, -, hnew⟩
  · rw [State.table, State.table, hsame]
  · rw [State.table, State.table, hnew, List.map_append]
    exact List.prefix_append ..

/-- The rows of a query are rows of the table. -/
theorem mem_selectRows {t : Table} {u : String} {c limit : Int} {r : Row}
    (hr : r ∈ selectRows t u c limit) : r ∈ t ∧ r.involves u ∧ c < r.ptsFor u :=
  mem_stream.mp (List.mem_of_mem_take (l := stream t u c) hr)

/-- A row that a query asks for is selected, unless a full page of rows that are not after it is. -/
theorem mem_selectRows_or {t : Table} {u : String} {c limit : Int} {r : Row} (hr : r ∈ t)
    (hu : r.involves u) (hc : c < r.ptsFor u) : r ∈ selectRows t u c limit ∨
      (selectRows t u c limit).length = limit.toNat ∧
        ∀ r' ∈ selectRows t u c limit, r'.ptsFor u ≤ r.ptsFor u := by
  have hstream : r ∈ (stream t u c).take limit.toNat ++ (stream t u c).drop limit.toNat := by
    rw [List.take_append_drop]
    exact mem_stream.mpr ⟨hr, hu, hc⟩
  rcases List.mem_append.mp hstream with hpage | hrest
  · exact .inl hpage
  · refine .inr ⟨?_, fun r' hr' => ?_⟩
    · have hpos := List.length_pos_of_mem hrest
      rw [List.length_drop] at hpos
      show ((stream t u c).take limit.toNat).length = limit.toNat
      rw [List.length_take]
      omega
    · have hsorted := stream_sorted t u c
      rw [← List.take_append_drop limit.toNat (stream t u c)] at hsorted
      exact (List.pairwise_append.mp hsorted).2.2 r' hr' r hrest

/-- What a step does to the answers: nothing, or a query gets the rows it selects. -/
theorem answer_step {s t : State ρ} {e : Event χ ε} (hstep : (system R).step s e = some t) {q : DiffId}
    {req : GetDiffRequest} {messages : List PersistedMessage}
    (hanswer : (t.diffs q).answer? = some (req, messages)) :
    (s.diffs q).answer? = some (req, messages) ∨
    messages = (selectRows s.table req.userId req.clientPts (normalizeLimit req.limit)).map
      (Row.toEntry req.userId) := by
  cases step_cases hstep with
  | @query j req' fail hd =>
    rw [State.setDiff_diffs, Function.update_apply] at hanswer
    split_ifs at hanswer with hj
    · cases fail with
      | some err => cases hanswer
      | none =>
        obtain ⟨rfl, rfl⟩ := Prod.mk.inj (Option.some.inj hanswer)
        exact Or.inr (map_scanRow_selectDiff ..)
    · exact Or.inl hanswer
  | @get j req' messages' fail hd =>
    rw [State.setDiff_diffs, Function.update_apply] at hanswer
    split_ifs at hanswer with hj
    · cases fail with
      | some err => cases hanswer
      | none =>
        rw [hj, hd]
        exact Or.inl hanswer
    · exact Or.inl hanswer
  | _ => exact Or.inl hanswer

/-- **The entries of `GetDiff` are rows of the table**, in every state reached. -/
theorem answered {s : State ρ} (h : (system R).Reachable s) : Answered s := by
  refine Lts.System.invariant (I := Answered) ?_ ?_ h
  · intro q req messages hanswer
    cases hanswer
  · intro s e t ih hstep q req messages hanswer m hm
    have hsub := (table_step hstep).subset
    rcases answer_step hstep hanswer with hold | rfl
    · obtain ⟨r, hr, hrow⟩ := ih q req messages hold m hm
      exact ⟨r, hsub hr, hrow⟩
    · obtain ⟨r, hr, rfl⟩ := List.mem_map.mp hm
      obtain ⟨hrt, hu, hc⟩ := mem_selectRows hr
      exact ⟨r, hsub hrt, hu, hc, rfl⟩

end Service

/-! ### Over counters without rollbacks -/

namespace Counters

variable {s t : Service.State State}

/-- The counter that `GetDiff` reads; an absent one reads as `0`. -/
theorem get_getD (s : State) (key : String) : (get s key).getD 0 = s.value key := by
  unfold get
  split_ifs with hzero
  · exact hzero.symm
  · rfl

/-- A step that is no rollback lowers no counter. -/
theorem le_step {e : CounterEvent} (hback : NoRollback e)
    (hstep : counterService.step s e = some t) : Le s.redis t.redis := by
  cases Service.step_cases hstep with
  | incrReceiver hc hR => exact le_of_incr hR
  | incrReceiverAgain hc hR => exact le_of_incr hR
  | incrSender hc hR => exact le_of_incr hR
  | incrSenderAgain hc hR => exact le_of_incr hR
  | wait hc hR =>
    rw [wait_eq hR]
    exact fun _ => le_rfl
  | env hR =>
    rw [env_eq hback hR]
    exact le_bump _ _ _
  | _ => exact fun _ => le_rfl

/-- The receiver of a call is handed the next value of their counter. -/
theorem incrReceiver_step {id : CallId} {ch : Choice} {msg msg' : ChatMessage} {rp : Int}
    (hstep : counterService.step s (.redis id ch) = some t) (hc : s.calls id = .incrReceiver msg)
    (ht : t.calls id = .incrSender msg' rp) : rp = s.redis.value (ptsKey msg.receiverId) + 1 := by
  cases Service.step_cases hstep with
  | @incrReceiver _ msg₀ _ x reply hc' hR =>
    rw [hc] at hc'
    obtain rfl := PersistCall.incrReceiver.inj hc'
    rw [Service.State.setCall_calls, Function.update_self] at ht
    cases reply with
    | error err => cases ht
    | ok v =>
      obtain ⟨-, rfl⟩ := PersistCall.incrSender.inj ht
      exact (incr_ok hR).2.2
  | incrReceiverAgain hc' hR =>
    rw [Service.State.setCall_calls, Function.update_self] at ht
    cases ht
  | incrSender hc' hR => rw [hc] at hc'; cases hc'
  | incrSenderAgain hc' hR => rw [hc] at hc'; cases hc'
  | wait hc' hR => rw [hc] at hc'; cases hc'

/-- So is its sender. -/
theorem incrSender_step {id : CallId} {ch : Choice} {msg msg' : ChatMessage} {rp rp' sp : Int}
    (hstep : counterService.step s (.redis id ch) = some t) (hc : s.calls id = .incrSender msg rp)
    (ht : t.calls id = .wait msg' rp' sp) : sp = s.redis.value (ptsKey msg.senderId) + 1 := by
  cases Service.step_cases hstep with
  | @incrSender _ msg₀ rp₀ _ x reply hc' hR =>
    rw [hc] at hc'
    obtain ⟨rfl, rfl⟩ := PersistCall.incrSender.inj hc'
    rw [Service.State.setCall_calls, Function.update_self] at ht
    cases reply with
    | error err => cases ht
    | ok v =>
      obtain ⟨-, -, rfl⟩ := PersistCall.wait.inj ht
      exact (incr_ok hR).2.2
  | incrSenderAgain hc' hR =>
    rw [Service.State.setCall_calls, Function.update_self] at ht
    cases ht
  | incrReceiver hc' hR => rw [hc] at hc'; cases hc'
  | incrReceiverAgain hc' hR => rw [hc] at hc'; cases hc'
  | wait hc' hR => rw [hc] at hc'; cases hc'

/-- What is known of the answers to a client: the entries are in the order of their PTS, and up to the
counter; and of a response, that `CurrentPts` is in between. -/
structure Barred (s : Service.State State) : Prop where
  sorted : ∀ q req messages, (s.diffs q).answer? = some (req, messages) →
    messages.Pairwise fun a b => a.ptsFor req.userId < b.ptsFor req.userId
  le_counter : ∀ q req messages, (s.diffs q).answer? = some (req, messages) → ∀ m ∈ messages,
    m.ptsFor req.userId ≤ s.redis.value (ptsKey req.userId)
  barrier : ∀ q req res, s.diffs q = .returned req (.ok res) →
    (∀ m ∈ res.messages, m.ptsFor req.userId ≤ res.currentPts) ∧
      res.currentPts ≤ s.redis.value (ptsKey req.userId)

/-- **One step** that is no rollback. -/
theorem Barred.step {es : List CounterEvent}
    (h : counterService.run counterService.init es = some s)
    (hback : counterService.Meets (fun _ => NoRollback) counterService.init es) (hs : Barred s)
    {e : CounterEvent} (he : NoRollback e) (hstep : counterService.step s e = some t) :
    Barred t where
  sorted q req messages hanswer := by
    rcases Service.answer_step hstep hanswer with hold | rfl
    · exact hs.sorted q req messages hold
    · rw [List.pairwise_map]
      have hdistinct := (streamUnique h hback).distinctAbove req.userId req.clientPts
      refine ((stream_pairwise hdistinct).sublist (List.take_sublist ..)).imp fun {a b} hab => ?_
      rw [ptsFor_toEntry, ptsFor_toEntry]
      exact hab
  le_counter q req messages hanswer m hm := by
    refine le_trans ?_ (le_step he hstep (ptsKey req.userId))
    rcases Service.answer_step hstep hanswer with hold | rfl
    · exact hs.le_counter q req messages hold m hm
    · obtain ⟨r, hr, rfl⟩ := List.mem_map.mp hm
      obtain ⟨hrt, hu, -⟩ := Service.mem_selectRows hr
      rw [ptsFor_toEntry]
      exact (ptsFor_le h hback hrt hu).2
  barrier q req res hq := by
    have hold : s.diffs q = .returned req (.ok res) →
        (∀ m ∈ res.messages, m.ptsFor req.userId ≤ res.currentPts) ∧
          res.currentPts ≤ t.redis.value (ptsKey req.userId) := fun hq =>
      ⟨(hs.barrier q req res hq).1,
        (hs.barrier q req res hq).2.trans (le_step he hstep (ptsKey req.userId))⟩
    cases Service.step_cases hstep with
    | @query j req' fail hd =>
      rw [Service.State.setDiff_diffs, Function.update_apply] at hq
      split_ifs at hq with hj
      · cases fail <;> cases hq
      · exact hold hq
    | @get j req' messages fail hd =>
      rw [Service.State.setDiff_diffs, Function.update_apply] at hq
      split_ifs at hq with hj
      · -- the counter is read now, so it is `CurrentPts`
        cases fail with
        | some err => cases hq
        | none =>
          obtain ⟨rfl, hres⟩ := DiffCall.returned.inj hq
          obtain rfl := Except.ok.inj hres
          have hcounter : (redis.get s.redis (ptsKey req'.userId)).getD 0 =
              s.redis.value (ptsKey req'.userId) := get_getD ..
          rw [hcounter]
          refine ⟨fun m hm => ?_, le_rfl⟩
          exact hs.le_counter j req' messages (by rw [hd]; rfl) m hm
      · exact hold hq
    | _ => exact hold hq

theorem barred {es : List CounterEvent} (h : counterService.run counterService.init es = some s)
    (hback : counterService.Meets (fun _ => NoRollback) counterService.init es) : Barred s := by
  refine Lts.System.invariant_of_meets_with (C := fun _ => NoRollback)
    (J := fun s => ∃ es, counterService.run counterService.init es = some s ∧
      counterService.Meets (fun _ => NoRollback) counterService.init es)
    (fun {es t} ht hC => ⟨es, ht, hC⟩) ?_ ?_ h hback
  · constructor
    · intro q req messages hanswer
      cases hanswer
    · intro q req messages hanswer
      cases hanswer
    · intro q req res hq
      cases hq
  · rintro s e t ⟨es, hs, hback⟩ hbarred he hstep
    exact hbarred.step hs hback he hstep

/-- **`CurrentPts` is a barrier.**  In every run without rollbacks, once `GetDiff` has returned a
response, its entries are in strictly increasing PTS above that of the request and up to
`CurrentPts`; and whatever PTS of the user an `INCR` hands out from then on, to a receiver or to a
sender, is above `CurrentPts`. -/
theorem currentPts_barrier {es : List CounterEvent}
    (h : counterService.run counterService.init es = some s)
    (hback : counterService.Meets (fun _ => NoRollback) counterService.init es) {q : DiffId}
    {req : GetDiffRequest} {res : GetDiffResponse} (hq : s.diffs q = .returned req (.ok res)) :
    (res.messages.Pairwise fun a b => a.ptsFor req.userId < b.ptsFor req.userId) ∧
    (∀ m ∈ res.messages, req.clientPts < m.ptsFor req.userId ∧
      m.ptsFor req.userId ≤ res.currentPts) ∧
    (∀ id ch t msg rp, counterService.step s (.redis id ch) = some t →
      s.calls id = .incrReceiver msg → msg.receiverId = req.userId →
      t.calls id = .incrSender msg rp → res.currentPts < rp) ∧
    (∀ id ch t msg rp sp, counterService.step s (.redis id ch) = some t →
      s.calls id = .incrSender msg rp → msg.senderId = req.userId →
      t.calls id = .wait msg rp sp → res.currentPts < sp) := by
  have hbarred := barred h hback
  have hanswer : (s.diffs q).answer? = some (req, res.messages) := by
    rw [hq]
    rfl
  obtain ⟨hle, hcounter⟩ := hbarred.barrier q req res hq
  refine ⟨hbarred.sorted q req _ hanswer, fun m hm => ⟨?_, hle m hm⟩, ?_, ?_⟩
  · obtain ⟨r, -, -, hc, rfl⟩ := Service.answered ⟨es, h⟩ q req _ hanswer m hm
    rw [ptsFor_toEntry]
    exact hc
  · intro id ch t msg rp hstep hc hu ht
    have hrp := incrReceiver_step hstep hc ht
    rw [hrp, hu]
    omega
  · intro id ch t msg rp sp hstep hc hu ht
    have hsp := incrSender_step hstep hc ht
    rw [hsp, hu]
    omega

/-- One message, and a client that catches up. -/
def caughtUpRun : List CounterEvent :=
  wholeCall 0 ⟨"alice", "bob", "hi", 0⟩ "a" ++ [.query 0 ⟨"bob", 0, 0⟩ none, .get 0 none]

/-- The client gets the message, and `CurrentPts` with it. -/
theorem currentPts_barrier_caughtUpRun : ∃ (s : Service.State State) (res : GetDiffResponse),
    counterService.run counterService.init caughtUpRun = some s ∧ res.currentPts = 1 ∧
    res.messages.length = 1 ∧ ∀ m ∈ res.messages, m.ptsFor "bob" ≤ res.currentPts := by
  refine ⟨_, ⟨[⟨"a", some ⟨"alice", "bob", "hi", 0⟩, 1, 0, 0⟩], 1⟩, rfl, rfl, rfl, ?_⟩
  have hbarrier := @currentPts_barrier _ caughtUpRun rfl
    (.of_forall fun _ => by decide) 0 ⟨"bob", 0, 0⟩ _ rfl
  exact fun m hm => (hbarrier.2.1 m hm).2

end Counters

end TinyTelegram.MessageService
