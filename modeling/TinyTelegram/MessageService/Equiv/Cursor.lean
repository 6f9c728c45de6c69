import Mathlib.Data.Fintype.EquivFin
import TinyTelegram.MessageService.Equiv.Counters

/-!
# The cursor of `GetDiff` and the calls in flight

A client takes the PTS of the last entry of a `GetDiff` response for its own and never asks for
anything up to it again.  That is safe if every row of its stream up to there is in the response,
also those committed later (`CursorStable`).

PTS are handed out by Redis and rows are committed by Postgres, and of two calls the one with the
greater PTS may commit first.  A `GetDiff` in between leaves the other row behind the cursor
(`not_cursorStable`).  If at each query no call in flight holds a PTS of the stream that the response
passes over (`Settled`), no row is ever left behind (`cursorStable`), and if at a query one does, a
row can be (`exists_skipped`).

The invariant is `Closed`: up to the cursor all committed rows are in the response, no call in flight
holds a PTS up to the cursor, and the counter has passed it, so that nobody will be handed one.
-/

namespace TinyTelegram.MessageService

namespace Counters

/-- Every row in the stream of the requesting user, above the PTS of the request and up to that of
the last entry, is in the response. -/
def CursorStable (s : Service.State State) : Prop :=
  ∀ q req messages m, (s.diffs q).answer? = some (req, messages) → messages.getLast? = some m →
    ∀ r ∈ s.table, r.involves req.userId → req.clientPts < r.ptsFor req.userId →
      r.ptsFor req.userId ≤ m.ptsFor req.userId → r.toEntry req.userId ∈ messages

/-- The query of the request `req` passes over nothing that is still to come: for every PTS of the
stream above that of the request which a call in flight holds, no committed row of the stream is
above it, or there are enough committed rows below it to fill the response. -/
def SettledFor (s : Service.State State) (req : GetDiffRequest) : Prop :=
  ∀ id v, held? req.userId (s.calls id) = some v → req.clientPts < v →
    (∀ r ∈ s.table, r.involves req.userId → r.ptsFor req.userId ≤ v) ∨
    normalizeLimit req.limit ≤ s.table.countP fun r =>
      r.involves req.userId ∧ req.clientPts < r.ptsFor req.userId ∧ r.ptsFor req.userId < v

/-- The step is no rollback, and if it is a query it is settled. -/
def Settled (s : Service.State State) (e : CounterEvent) : Prop :=
  NoRollback e ∧
    match e with
    | .query _ req none => SettledFor s req
    | _ => True

/-! ### The failing schedule -/

/-- Two messages for Bob.  Alice's gets PTS 1 and Carol's PTS 2; Carol's is committed, Bob catches
up, and then Alice's is committed. -/
def overtakingRun : List CounterEvent :=
  [.invoke 0 ⟨"alice", "bob", "first", 0⟩, .redis 0 (.incr .executed),
    .invoke 1 ⟨"carol", "bob", "second", 0⟩, .redis 1 (.incr .executed),
    .redis 1 (.incr .executed), .redis 1 (.wait (.ok 1)), .insert 1 "b" 0 0 .executed,
    .query 0 ⟨"bob", 0, 0⟩ none, .get 0 none,
    .redis 0 (.incr .executed), .redis 0 (.wait (.ok 1)), .insert 0 "a" 0 0 .executed]

/-- **Alice's message is behind Bob's cursor**, and not in his response. -/
theorem not_cursorStable : ∃ s,
    counterService.run counterService.init overtakingRun = some s ∧ ¬ CursorStable s := by
  refine ⟨_, rfl, fun h => ?_⟩
  have hmem := h 0 ⟨"bob", 0, 0⟩ [⟨"b", some ⟨"carol", "bob", "second", 0⟩, 2, 0, 0⟩] _ rfl rfl
    ⟨"a", "alice", "bob", "first", 1, 1, 0⟩ (List.mem_cons_of_mem _ (List.mem_singleton_self _))
    (Or.inl rfl) (by decide) (by decide)
  exact absurd hmem (by decide)

/-! ### The invariant -/

/-- Nothing in the stream of `u` above `c` and up to `p` is missing from `messages` or still to
come. -/
structure Closed (s : Service.State State) (u : String) (c p : Int)
    (messages : List PersistedMessage) : Prop where
  present : ∀ r ∈ s.table, r.involves u → c < r.ptsFor u → r.ptsFor u ≤ p → r.toEntry u ∈ messages
  held : ∀ id v, held? u (s.calls id) = some v → c < v → p < v
  counter : p ≤ s.redis.value (ptsKey u)

variable {s t : Service.State State} {u : String} {c p : Int} {messages : List PersistedMessage}

/-- A step of one call that commits nothing, after which the call holds nothing up to the cursor. -/
theorem Closed.setCall (h : Closed s u c p messages) {id : CallId} {call : PersistCall}
    (hcalls : t.calls = Function.update s.calls id call) (htable : t.table = s.table)
    (hle : Le s.redis t.redis) (hheld : ∀ v, held? u call = some v → c < v → p < v) :
    Closed t u c p messages where
  present := by rw [htable]; exact h.present
  held j v hv hcv := by
    rw [hcalls, Function.update_apply] at hv
    split_ifs at hv with hj
    · exact hheld v hv hcv
    · exact h.held j v hv hcv
  counter := h.counter.trans (hle _)

/-- A step that changes no call and commits nothing. -/
theorem Closed.congr (h : Closed s u c p messages) (hcalls : t.calls = s.calls)
    (htable : t.table = s.table) (hle : Le s.redis t.redis) : Closed t u c p messages where
  present := by rw [htable]; exact h.present
  held := by rw [hcalls]; exact h.held
  counter := h.counter.trans (hle _)

/-- After the receiver's `INCR` the call holds a PTS past the cursor. -/
theorem Closed.incrReceiver (h : Closed s u c p messages) {id : CallId} {msg : ChatMessage}
    {ch : Choice} {x : State} {reply : Except String Int}
    (hR : incr s.redis (id, .receiver) (ptsKey msg.receiverId) ch = some (x, some reply)) :
    Closed ((s.setRedis x).setCall id (PersistCall.afterIncrReceiver msg reply)) u c p messages := by
  refine h.setCall rfl rfl (le_of_incr hR) fun v hv _ => ?_
  cases reply with
  | error err => cases hv
  | ok rp =>
    have hrp := (incr_ok hR).2.2
    simp only [PersistCall.afterIncrReceiver, held?] at hv
    split_ifs at hv with hrec
    obtain rfl := Option.some.inj hv
    have hcounter := h.counter
    rw [← hrec] at hcounter
    omega

/-- After the sender's `INCR` the call holds what it held, or a PTS past the cursor. -/
theorem Closed.incrSender (h : Closed s u c p messages) {id : CallId} {msg : ChatMessage} {rp : Int}
    {ch : Choice} {x : State} {reply : Except String Int} (hc : s.calls id = .incrSender msg rp)
    (hR : incr s.redis (id, .sender) (ptsKey msg.senderId) ch = some (x, some reply)) :
    Closed ((s.setRedis x).setCall id (PersistCall.afterIncrSender msg rp reply)) u c p
      messages := by
  refine h.setCall rfl rfl (le_of_incr hR) fun v hv hcv => ?_
  cases reply with
  | error err => cases hv
  | ok sp =>
    have hsp := (incr_ok hR).2.2
    simp only [PersistCall.afterIncrSender, held?] at hv
    split_ifs at hv with hrec hsend
    · apply h.held id v ?_ hcv
      rw [hc]
      simp only [held?, if_pos hrec]
      exact hv
    · obtain rfl := Option.some.inj hv
      have hcounter := h.counter
      rw [← hsend] at hcounter
      omega

/-- Past `WAIT` the call holds what it held. -/
theorem Closed.wait (h : Closed s u c p messages) {id : CallId} {msg : ChatMessage} {rp sp : Int}
    {ch : Choice} {x : State} {reply : Except String Int} (hc : s.calls id = .wait msg rp sp)
    (hR : wait s.redis ch = some (x, reply)) :
    Closed ((s.setRedis x).setCall id (PersistCall.afterWait msg rp sp reply)) u c p messages := by
  obtain rfl := wait_eq hR
  refine h.setCall rfl rfl (fun _ => le_rfl) fun v hv hcv => ?_
  cases reply with
  | error err => cases hv
  | ok acked =>
    rw [PersistCall.afterWait] at hv
    split_ifs at hv
    · cases hv
    · exact h.held id v (by rw [hc]; exact hv) hcv

/-- A row that is committed has a PTS its call held, so none up to the cursor. -/
theorem Closed.commit (h : Closed s u c p messages) {id : CallId} {msg : ChatMessage} {rp sp : Int}
    {msgID : String} {createdAt : Int} {call : PersistCall} (hc : s.calls id = .insert msg rp sp)
    (hcall : held? u call = none) :
    Closed ((s.commit id (PersistCall.row msg rp sp msgID createdAt)).setCall id call) u c p
      messages where
  present r hr hu hcr hrp := by
    rw [Service.State.setCall_table, Service.State.commit_table, List.mem_append] at hr
    rcases hr with hr | hr
    · exact h.present r hr hu hcr hrp
    · obtain rfl := List.mem_singleton.mp hr
      have hlt := h.held id _ (by rw [hc]; exact held_insert hu) hcr
      exact absurd hrp hlt.not_ge
  held j v hv hcv := by
    rw [Service.State.setCall_calls, Service.State.commit_calls, Function.update_apply] at hv
    split_ifs at hv with hj
    · rw [hcall] at hv
      cases hv
    · exact h.held j v hv hcv
  counter := h.counter

/-- **One step** that is no rollback keeps the stream closed up to the cursor. -/
theorem Closed.step {e : CounterEvent} (h : Closed s u c p messages) (hback : NoRollback e)
    (hstep : counterService.step s e = some t) : Closed t u c p messages := by
  have hreturned : ∀ {msg rp sp msgID time reply},
      held? u (PersistCall.afterInsert msg rp sp msgID time reply) = none := by
    intro msg rp sp msgID time reply
    cases reply <;> rfl
  cases Service.step_cases hstep with
  | invoke hc => exact h.setCall rfl rfl (fun _ => le_rfl) fun v hv _ => by cases hv
  | incrReceiver hc hR => exact h.incrReceiver hR
  | incrReceiverAgain hc hR => exact h.setCall rfl rfl (le_of_incr hR) fun v hv _ => by cases hv
  | incrSender hc hR => exact h.incrSender hc hR
  | @incrSenderAgain id msg rp ch x hc hR =>
    exact h.setCall rfl rfl (le_of_incr hR) fun v hv => h.held id v (by rw [hc]; exact hv)
  | wait hc hR => exact h.wait hc hR
  | commit reply hc hv hout => exact h.commit hc hreturned
  | reject err hc hout =>
    refine h.setCall rfl rfl (fun _ => le_rfl) fun v hv _ => ?_
    rw [hreturned] at hv
    cases hv
  | env hR =>
    obtain rfl := env_eq hback hR
    exact h.congr rfl rfl (le_bump _ _ _)
  | query hd => exact h.congr rfl rfl fun _ => le_rfl
  | get hd => exact h.congr rfl rfl fun _ => le_rfl

/-! ### A settled query -/

section Run

variable {es : List CounterEvent} (h : counterService.run counterService.init es = some s)
  (hback : counterService.Meets (fun _ => NoRollback) counterService.init es)

include h hback

/-- The rows a query selects are a page of the stream. -/
theorem selectRows_page (u : String) (c limit : Int) :
    selectRows s.table u c limit =
      Keyset.page (Row.ptsFor u) (stream s.table u c) c limit.toNat :=
  selectRows_eq_page ((streamUnique h hback).distinctAbove u c) le_rfl limit

omit h hback in
/-- The rows of the stream strictly between two PTS, counted in the table. -/
theorem countP_stream (u : String) (c v : Int) :
    ((stream s.table u c).countP fun r => c < r.ptsFor u ∧ r.ptsFor u < v) =
      s.table.countP fun r => r.involves u ∧ c < r.ptsFor u ∧ r.ptsFor u < v := by
  rw [stream_perm.countP_eq, List.countP_filter]
  exact List.countP_congr fun r _ => by simp; tauto

/-- **A settled query** finds the stream closed up to its last entry. -/
theorem closed_of_settled {req : GetDiffRequest} (hsettled : SettledFor s req) {z : Row}
    (hz : (selectRows s.table req.userId req.clientPts (normalizeLimit req.limit)).getLast? =
      some z) :
    Closed s req.userId req.clientPts (z.ptsFor req.userId)
      ((selectRows s.table req.userId req.clientPts (normalizeLimit req.limit)).map
        (Row.toEntry req.userId)) := by
  have hsorted := stream_pairwise ((streamUnique h hback).distinctAbove req.userId req.clientPts)
  have hpage := selectRows_page h hback req.userId req.clientPts (normalizeLimit req.limit)
  rw [hpage] at hz ⊢
  have hmem := List.mem_of_getLast? hz
  obtain ⟨hztable, hzu, hzc⟩ := mem_stream.mp (Keyset.page_sublist.subset hmem)
  have hnext : Keyset.next (Row.ptsFor req.userId) req.clientPts
      (Keyset.page (Row.ptsFor req.userId) (stream s.table req.userId req.clientPts) req.clientPts
        (normalizeLimit req.limit).toNat) = z.ptsFor req.userId := by
    rw [Keyset.next, hz, Option.map_some, Option.getD_some]
  constructor
  · intro r hr hu hcr hrz
    apply List.mem_map_of_mem
    exact Keyset.mem_page_of_le_next hsorted (mem_stream.mpr ⟨hr, hu, hcr⟩) hcr (hnext.symm ▸ hrz)
  · intro id v hv hcv
    rcases hsettled id v hv hcv with habove | hfull
    · exact lt_of_le_of_ne (habove z hztable hzu) (held_ne_ptsFor h hback hv hztable hzu)
    · refine Keyset.lt_of_mem_page_of_le_countP hsorted (n := (normalizeLimit req.limit).toNat) ?_ hmem
      rw [countP_stream]
      omega
  · exact (ptsFor_le h hback hztable hzu).2

end Run

/-! ### Runs -/

/-- Up to its last entry, every response leaves the stream of its user closed. -/
def AllClosed (s : Service.State State) : Prop :=
  ∀ q req messages m, (s.diffs q).answer? = some (req, messages) → messages.getLast? = some m →
    Closed s req.userId req.clientPts (m.ptsFor req.userId) messages

/-- **One step** that is no rollback, and settled if it is a query. -/
theorem AllClosed.step {es : List CounterEvent}
    (h : counterService.run counterService.init es = some s)
    (hback : counterService.Meets (fun _ => NoRollback) counterService.init es)
    (hs : AllClosed s) {e : CounterEvent} (he : Settled s e)
    (hstep : counterService.step s e = some t) : AllClosed t := by
  intro j req messages m hanswer hlast
  -- an answer that was there before the step
  have hold : (s.diffs j).answer? = some (req, messages) →
      Closed t req.userId req.clientPts (m.ptsFor req.userId) messages :=
    fun hanswer => (hs j req messages m hanswer hlast).step he.1 hstep
  cases Service.step_cases hstep with
  | @query q req' fail hd =>
    rw [Service.State.setDiff_diffs, Function.update_apply] at hanswer
    split_ifs at hanswer with hj
    · cases fail with
      | some err => cases hanswer
      | none =>
        obtain ⟨rfl, rfl⟩ := Prod.mk.inj (Option.some.inj hanswer)
        rw [map_scanRow_selectDiff] at hlast ⊢
        rw [List.getLast?_map, Option.map_eq_some_iff] at hlast
        obtain ⟨z, hz, rfl⟩ := hlast
        rw [ptsFor_toEntry]
        exact (closed_of_settled h hback he.2 hz).congr rfl rfl fun _ => le_rfl
    · exact hold hanswer
  | @get q req' messages' fail hd =>
    rw [Service.State.setDiff_diffs, Function.update_apply] at hanswer
    split_ifs at hanswer with hj
    · cases fail with
      | some err => cases hanswer
      | none =>
        apply hold
        rw [hj, hd]
        exact hanswer
    · exact hold hanswer
  | _ => exact hold hanswer

/-- **The cursor is stable when queries are settled.**  In every run without rollbacks in which, at
each query, no call in flight holds a PTS that the response passes over, every row of the requesting
user from the PTS of the request to that of the last entry is in the response, in whatever state and
however long after the query it is committed. -/
theorem cursorStable {es : List CounterEvent}
    (h : counterService.run counterService.init es = some s)
    (hsettled : counterService.Meets Settled counterService.init es) : CursorStable s := by
  have hclosed : AllClosed s := by
    refine Lts.System.invariant_of_meets_with (C := Settled)
      (J := fun s => ∃ es, counterService.run counterService.init es = some s ∧
        counterService.Meets (fun _ => NoRollback) counterService.init es)
      (fun {es t} ht hC => ⟨es, ht, hC.mono fun _ _ he => he.1⟩) ?_ ?_ h hsettled
    · intro q req messages m hanswer
      cases hanswer
    · rintro s e t ⟨es, hs, hback⟩ hclosed he hstep
      exact hclosed.step hs hback he hstep
  intro q req messages m hanswer hlast r hr hu hcr hrm
  exact (hclosed q req messages m hanswer hlast).present r hr hu hcr hrm

/-! ### A query that is not settled -/

/-- The steps that finish a call in flight, all of them successful. -/
def finish (id : CallId) (msgID : String) : PersistCall → List CounterEvent
  | .incrSender .. =>
    [.redis id (.incr .executed), .redis id (.wait (.ok 1)), .insert id msgID 0 0 .executed]
  | .wait .. => [.redis id (.wait (.ok 1)), .insert id msgID 0 0 .executed]
  | .insert .. => [.insert id msgID 0 0 .executed]
  | _ => []

theorem noRollback_finish {id : CallId} {msgID : String} {call : PersistCall} :
    ∀ e ∈ finish id msgID call, NoRollback e := by
  intro e he
  unfold finish at he
  split at he
  all_goals
    simp only [List.mem_cons, List.not_mem_nil, or_false] at he
  · rcases he with rfl | rfl | rfl <;> trivial
  · rcases he with rfl | rfl <;> trivial
  · obtain rfl := he
    trivial

/-- `t` is `s` with one more row, of the given id and with the PTS `v` in the stream of `u`. -/
def Adds (u : String) (v : Int) (msgID : String) (s t : Service.State State) : Prop :=
  t.diffs = s.diffs ∧ ∃ r, t.table = s.table ++ [r] ∧ r.id = msgID ∧ r.involves u ∧ r.ptsFor u = v

/-- `t` is `s` after the call `id` has committed the row with these PTS. -/
structure Finished (s : Service.State State) (id : CallId) (msg : ChatMessage) (rp sp : Int)
    (msgID : String) (t : Service.State State) : Prop where
  diffs : t.diffs = s.diffs
  table : t.table = s.table ++ [PersistCall.row msg rp sp msgID 0]
  other : ∀ j, j ≠ id → t.calls j = s.calls j
  counters : Le s.redis t.redis

/-- A step of the call that commits nothing, before it finishes. -/
theorem Finished.of_step {s s' t : Service.State State} {id : CallId} {call : PersistCall}
    {msg : ChatMessage} {rp sp : Int} {msgID : String} (ht : Finished s' id msg rp sp msgID t)
    (hdiffs : s'.diffs = s.diffs) (htable : s'.table = s.table)
    (hcalls : s'.calls = Function.update s.calls id call) (hle : Le s.redis s'.redis) :
    Finished s id msg rp sp msgID t where
  diffs := ht.diffs.trans hdiffs
  table := by rw [ht.table, htable]
  other j hj := by rw [ht.other j hj, hcalls, Function.update_of_ne hj]
  counters key := (hle key).trans (ht.counters key)

section Finish

variable {es : List CounterEvent} (h : counterService.run counterService.init es = some s)
  (hback : counterService.Meets (fun _ => NoRollback) counterService.init es)
  {id : CallId} {msg : ChatMessage} {rp sp v : Int} {msgID : String}
  (hid : msgID ∉ s.table.map Row.id)

include h hback hid

theorem finish_insert (hc : s.calls id = .insert msg rp sp) :
    ∃ t, counterService.run s (finish id msgID (.insert msg rp sp)) = some t ∧
      Finished s id msg rp sp msgID t := by
  have hnone := violatedConstraint_eq_none h hback hc hid 0
  have hstep : counterService.step s (.insert id msgID 0 0 .executed) =
      some ((s.commit id (PersistCall.row msg rp sp msgID 0)).setCall id
        (PersistCall.afterInsert msg rp sp msgID 0 (.ok ()))) := by
    show Service.step redis s (.insert id msgID 0 0 .executed) = _
    simp only [Service.step, hc, Service.execInsert, hnone]
  exact ⟨_, (Lts.System.run_cons ..).mpr ⟨_, hstep, rfl⟩, rfl, Service.State.commit_table ..,
    fun j hj => Function.update_of_ne hj .., fun _ => le_rfl⟩

theorem finish_wait (hc : s.calls id = .wait msg rp sp) :
    ∃ t, counterService.run s (finish id msgID (.wait msg rp sp)) = some t ∧
      Finished s id msg rp sp msgID t := by
  have hstep : counterService.step s (.redis id (.wait (.ok 1))) =
      some ((s.setRedis s.redis).setCall id (.insert msg rp sp)) := by
    show Service.step redis s (.redis id (.wait (.ok 1))) = _
    simp only [Service.step, hc]
    rfl
  obtain ⟨t, ht, hfinished⟩ := finish_insert ((Lts.System.run_concat ..).mpr ⟨s, h, hstep⟩)
    (Lts.System.meets_concat.mpr ⟨hback, fun _ _ _ _ => trivial⟩) hid (Function.update_self ..)
  exact ⟨t, (Lts.System.run_cons ..).mpr ⟨_, hstep, ht⟩,
    hfinished.of_step rfl rfl rfl fun _ => le_rfl⟩

theorem finish_incrSender (hc : s.calls id = .incrSender msg rp) :
    ∃ t, counterService.run s (finish id msgID (.incrSender msg rp)) = some t ∧
      Finished s id msg rp (s.redis.value (ptsKey msg.senderId) + 1) msgID t := by
  have hstep : counterService.step s (.redis id (.incr .executed)) =
      some ((s.setRedis (s.redis.bump (ptsKey msg.senderId) (some (id, .sender)))).setCall id
        (.wait msg rp (s.redis.value (ptsKey msg.senderId) + 1))) := by
    show Service.step redis s (.redis id (.incr .executed)) = _
    simp only [Service.step, hc]
    rfl
  obtain ⟨t, ht, hfinished⟩ := finish_wait ((Lts.System.run_concat ..).mpr ⟨s, h, hstep⟩)
    (Lts.System.meets_concat.mpr ⟨hback, fun _ _ _ _ => trivial⟩) hid (Function.update_self ..)
  exact ⟨t, (Lts.System.run_cons ..).mpr ⟨_, hstep, ht⟩,
    hfinished.of_step rfl rfl rfl (le_bump _ _ _)⟩

/-- A call in flight that holds a PTS can commit it. -/
theorem finish_run (hv : held? u (s.calls id) = some v) :
    ∃ t, counterService.run s (finish id msgID (s.calls id)) = some t ∧ Adds u v msgID s t := by
  -- the row that the call commits has the PTS that the call holds before its `INSERT`
  have hadds : ∀ {msg : ChatMessage} {rp sp : Int} {t},
      held? u (.insert msg rp sp) = some v → Finished s id msg rp sp msgID t →
      Adds u v msgID s t := by
    intro msg rp sp t hv ht
    obtain ⟨hu, hpts⟩ := involves_of_held hv msgID 0
    exact ⟨ht.diffs, _, ht.table, rfl, hu, hpts⟩
  cases hc : s.calls id with
  | incrSender msg rp =>
    obtain ⟨t, ht, hfinished⟩ := finish_incrSender h hback hid hc
    refine ⟨t, ht, hadds ?_ hfinished⟩
    rw [hc] at hv
    simp only [held?] at hv ⊢
    split_ifs at hv with hrec
    rw [if_pos hrec]
    exact hv
  | wait msg rp sp =>
    obtain ⟨t, ht, hfinished⟩ := finish_wait h hback hid hc
    exact ⟨t, ht, hadds (by rw [hc] at hv; exact hv) hfinished⟩
  | insert msg rp sp =>
    obtain ⟨t, ht, hfinished⟩ := finish_insert h hback hid hc
    exact ⟨t, ht, hadds (by rw [hc] at hv; exact hv) hfinished⟩
  | _ =>
    rw [hc] at hv
    cases hv

end Finish

/-- **A query that is not settled can skip a message**: the run goes on, without rollbacks and
without failures, to a state where a row is missing from its response. -/
theorem exists_skipped {es : List CounterEvent}
    (h : counterService.run counterService.init es = some s)
    (hback : counterService.Meets (fun _ => NoRollback) counterService.init es) {q : DiffId}
    {req : GetDiffRequest} (hq : s.diffs q = .idle) (hnot : ¬ SettledFor s req) :
    ∃ id msgID t, counterService.run s (.query q req none :: finish id msgID (s.calls id)) = some t ∧
      (∀ e ∈ finish id msgID (s.calls id), NoRollback e) ∧ ¬ CursorStable t := by
  simp only [SettledFor, not_forall, not_or, not_le, exists_prop] at hnot
  obtain ⟨id, v, hv, hcv, ⟨r, hr, hu, hvr⟩, hcount⟩ := hnot
  obtain ⟨msgID, hid⟩ := Infinite.exists_notMem_finset (s.table.map Row.id).toFinset
  rw [List.mem_toFinset] at hid
  have hsorted := stream_pairwise ((streamUnique h hback).distinctAbove req.userId req.clientPts)
  have hpage := selectRows_page h hback req.userId req.clientPts (normalizeLimit req.limit)
  -- the response reaches the PTS the call holds
  have hreach : v ≤ Keyset.next (Row.ptsFor req.userId) req.clientPts
      (selectRows s.table req.userId req.clientPts (normalizeLimit req.limit)) := by
    rw [hpage]
    refine Keyset.le_next_of_countP_lt hsorted ?_ (mem_stream.mpr ⟨hr, hu, hcv.trans hvr⟩)
      (hcv.trans hvr) hvr.le
    rw [countP_stream]
    omega
  obtain ⟨z, hz⟩ : ∃ z, (selectRows s.table req.userId req.clientPts
      (normalizeLimit req.limit)).getLast? = some z := by
    by_contra hnone
    rw [not_exists] at hnone
    rw [Keyset.next, Option.eq_none_iff_forall_ne_some.mpr hnone] at hreach
    exact hcv.not_ge hreach
  rw [Keyset.next, hz, Option.map_some, Option.getD_some] at hreach
  -- the query, and then the rest of the call
  have hstep : counterService.step s (.query q req none) = some (s.setDiff q (.selected req
      ((selectRows s.table req.userId req.clientPts (normalizeLimit req.limit)).map
        (Row.toEntry req.userId)))) := by
    rw [← map_scanRow_selectDiff]
    show Service.step redis s (.query q req none) = _
    simp only [Service.step, hq]
    rfl
  obtain ⟨t, ht, hdiffs, r', htable, hr'id, hr'u, hr'v⟩ :=
    finish_run ((Lts.System.run_concat ..).mpr ⟨s, h, hstep⟩)
      (Lts.System.meets_concat.mpr ⟨hback, fun _ _ _ _ => trivial⟩) hid hv
  refine ⟨id, msgID, t, (Lts.System.run_cons ..).mpr ⟨_, hstep, ht⟩, noRollback_finish,
    fun hstable => ?_⟩
  have hanswer : (t.diffs q).answer? = some (req,
      (selectRows s.table req.userId req.clientPts (normalizeLimit req.limit)).map
        (Row.toEntry req.userId)) := by
    rw [hdiffs, Service.State.setDiff_diffs, Function.update_self]
    rfl
  have hmem := hstable q req _ (z.toEntry req.userId) hanswer
    (by rw [List.getLast?_map, hz, Option.map_some]) r' (by rw [htable]; simp) hr'u
    (hr'v ▸ hcv) (by rw [ptsFor_toEntry, hr'v]; exact hreach)
  -- but its id is not that of any row committed before
  obtain ⟨r'', hr'', heq⟩ := List.mem_map.mp hmem
  have hr''t : r'' ∈ s.table := by
    rw [hpage] at hr''
    exact (mem_stream.mp (Keyset.page_sublist.subset hr'')).1
  have hidr : r''.id = r'.id := congrArg PersistedMessage.id heq
  exact hid (hr'id ▸ hidr ▸ List.mem_map_of_mem hr''t)

/-- Three messages for Bob.  Alice's and Dave's are committed with the PTS 1 and 3, and Carol's has got the
PTS 2 in between. -/
def heldRun : List CounterEvent :=
  wholeCall 0 ⟨"alice", "bob", "first", 0⟩ "a" ++
    [.invoke 1 ⟨"carol", "bob", "second", 0⟩, .redis 1 (.incr .executed)] ++
    wholeCall 2 ⟨"dave", "bob", "third", 0⟩ "c"

/-- Bob asks for one message then, and Carol's is committed after that. -/
def settledRun : List CounterEvent :=
  heldRun ++ [.query 0 ⟨"bob", 0, 1⟩ none] ++
    [.redis 1 (.incr .executed), .redis 1 (.wait (.ok 1)), .insert 1 "b" 0 0 .executed]

/-- Bob's response ends before the PTS that Carol's call holds. -/
theorem cursorStable_settledRun : ∃ t s,
    counterService.run counterService.init heldRun = some t ∧ held? "bob" (t.calls 1) = some 2 ∧
    counterService.run counterService.init settledRun = some s ∧ s.table.length = 3 ∧
    CursorStable s := by
  refine ⟨_, _, rfl, rfl, rfl, rfl, @cursorStable _ settledRun rfl (.append ?_ fun t e he => ?_)⟩
  · refine Lts.System.meets_concat.mpr ⟨.of_forall fun t e he => ?_, fun t _ ht _ => ⟨trivial, ?_⟩⟩
    · simp only [heldRun, wholeCall, List.cons_append, List.nil_append, List.mem_cons, List.not_mem_nil,
        or_false] at he
      rcases he with rfl | rfl | rfl | rfl | rfl | rfl | rfl | rfl | rfl | rfl | rfl | rfl <;>
        exact ⟨trivial, trivial⟩
    · intro id v hv _
      by_cases hid : id ∈ [0, 1, 2]
      · obtain rfl := Option.some.inj ht
        simp only [List.mem_cons, List.not_mem_nil, or_false] at hid
        rcases hid with rfl | rfl | rfl
        · cases hv
        · obtain rfl := Option.some.inj hv
          exact Or.inr (by decide)
        · cases hv
      · have hidle : t.calls id = .idle :=
          Service.calls_eq_idle ht fun msg hmem => hid (by
            simp only [heldRun, wholeCall, List.cons_append, List.nil_append, List.mem_cons,
              List.not_mem_nil, or_false] at hmem
            simp_all)
        rw [hidle] at hv
        cases hv
  · simp only [List.mem_cons, List.not_mem_nil, or_false] at he
    rcases he with rfl | rfl | rfl <;> exact ⟨trivial, trivial⟩

end Counters

end TinyTelegram.MessageService
