import TinyTelegram.MessageService.Equiv.Answers
import TinyTelegram.MessageService.Equiv.Handout

/-!
# Holes in a stream

A value of a user's counter that no entry of their stream carries is a hole.  When no call is in
progress, every hole should be the trace of a rejected write: a value taken by a call that returned
an error (`HolesRejected`).

Three kinds of increments leave a hole that nobody was told about: of the two PTS of a message that a
user sends to themselves only one is ever shown (`not_holesRejected`); an `INCR` whose reply is lost
may be issued again by the client library, and the call succeeds with the second value; and the
benchmark handler increments the counter of a user.  There are no others (`holesRejected_iff`).

Every value of a counter was taken by one event of the run, and `sourced` says by which.
-/

namespace TinyTelegram.MessageService

namespace Counters

variable {s t : Service.State State} {es : List CounterEvent} {u : String} {v : Int}

/-- The counter of `u`. -/
def counterOf (u : String) (s : Service.State State) : Int := s.redis.value (ptsKey u)

/-- In the run `es` the event `e` takes the counter of `u` to `v`. -/
def Took (es : List CounterEvent) (u : String) (v : Int) (e : CounterEvent) : Prop :=
  counterService.Raises (counterOf u) counterService.init es v e

/-- The PTS of the entries a client of `u` gets in its first `n` calls of `GetDiff`. -/
def pagedPts (s : Service.State State) (u : String) (limits : ℕ → Int) (n : ℕ) : List Int :=
  ((List.range n).flatMap fun k => entries (responseAt s.table (get s.redis) u limits k)).map
    fun m => m.ptsFor u

/-- Every value up to `cur` that is not in `pts` was taken by a call that returned an error, and
`pts` is `1..cur` if there is no such call. -/
def HolesRejected (es : List CounterEvent) (s : Service.State State) (u : String) (cur : Int)
    (pts : List Int) : Prop :=
  (∀ v, 1 ≤ v → v ≤ cur → v ∉ pts →
    ∃ id ch, Took es u v (.redis id ch) ∧ (s.calls id).Failed) ∧
  ((∀ id, ¬ (s.calls id).Failed) → pts = (List.range cur.toNat).map fun k : ℕ => (k : Int) + 1)

/-- No call that returned a message sent it from `u` to `u`, or had an `INCR` of the counter of `u`
issued again; and the benchmark handler left the counter alone. -/
structure Accounted (es : List CounterEvent) (s : Service.State State) (u : String) : Prop where
  noSelf : ∀ id msg alloc m, s.calls id = .returned msg alloc (.ok m) → msg.receiverId = u →
    msg.senderId ≠ u
  noRetry : ∀ id msg alloc m, s.calls id = .returned msg alloc (.ok m) → ∀ v,
    ¬ Took es u v (.redis id (.incr .retried))
  noBenchmark : ptsKey u = benchmarkKey → Service.Event.env .redisOnly ∉ es

/-! ### The failing run -/

/-- Alice writes to herself. -/
def selfRun : List CounterEvent := wholeCall 0 ⟨"alice", "alice", "note", 0⟩ "a"

theorem selfRun_idle {s : Service.State State}
    (h : counterService.run counterService.init selfRun = some s) {id : CallId} (hid : id ≠ 0) :
    s.calls id = .idle :=
  Service.calls_eq_idle h fun msg hmem => by simp [selfRun, wholeCall, hid] at hmem

/-- **Alice's stream has a hole at PTS 2**, and no call returned an error. -/
theorem not_holesRejected : ∃ s, counterService.run counterService.init selfRun = some s ∧
    (∀ id, ¬ (s.calls id).InProgress) ∧
    (getUserPts ⟨"alice"⟩).eval (serve s.table (get s.redis)) = .ok ⟨2⟩ ∧
    entries (responseAt s.table (get s.redis) "alice" (fun _ => 0) 1) = [] ∧
    ¬ HolesRejected selfRun s "alice" 2 (pagedPts s "alice" (fun _ => 0) 1) := by
  refine ⟨_, rfl, fun id => ?_, rfl, rfl, fun h => ?_⟩
  · by_cases hid : id = 0
    · subst hid
      exact not_false
    · rw [selfRun_idle rfl hid]
      exact not_false
  · have hfull := h.2 fun id hfailed => ?_
    · exact absurd hfull (by decide)
    · by_cases hid : id = 0
      · subst hid
        exact hfailed
      · rw [selfRun_idle rfl hid] at hfailed
        exact hfailed

/-! ### What raises a counter -/

/-- The call has been handed `v` from the counter of `u`. -/
def Handed (u : String) (v : Int) (c : PersistCall) : Prop :=
  ∃ msg rp sp, handed? c = some (msg, rp, sp) ∧
    (msg.receiverId = u ∧ rp = v ∨ msg.senderId = u ∧ sp = some v)

/-- What a step does to the counter of `u`: nothing, or it raises it by one, for a call that is handed
the value or has failed, for one that asks again, or for the benchmark handler. -/
inductive Raise (s : Service.State State) (e : CounterEvent) (t : Service.State State) (u : String) :
    Prop where
  | same (h : counterOf u t = counterOf u s)
  | call {id ch} (he : e = .redis id ch) (h : counterOf u t = counterOf u s + 1)
      (hid : Handed u (counterOf u s + 1) (t.calls id) ∨ (t.calls id).Failed)
  | retried {id} (he : e = .redis id (.incr .retried)) (h : counterOf u t = counterOf u s + 1)
      (hid : ∃ msg, (t.calls id).msg? = some msg)
  | benchmark (he : e = .env .redisOnly) (hu : ptsKey u = benchmarkKey)
      (h : counterOf u t = counterOf u s + 1)

theorem value_bump_of (x : State) (key : String) (tag : Option Ticket) (u : String) :
    (ptsKey u ≠ key ∧ (x.bump key tag).value (ptsKey u) = x.value (ptsKey u)) ∨
    (ptsKey u = key ∧ (x.bump key tag).value (ptsKey u) = x.value (ptsKey u) + 1) := by
  rw [State.bump_value]
  by_cases hu : ptsKey u = key
  · rw [← hu, Function.update_self]
    exact Or.inr ⟨rfl, rfl⟩
  · rw [Function.update_of_ne hu]
    exact Or.inl ⟨hu, rfl⟩

/-- What an `INCR` of the counter of `w` does to that of `u`. -/
theorem incr_raises {x y : State} {ticket : Ticket} {w : String} {ch : Choice}
    {reply : Option (Except String Int)} (hR : incr x ticket (ptsKey w) ch = some (y, reply)) :
    y.value (ptsKey u) = x.value (ptsKey u) ∨
    (w = u ∧ y.value (ptsKey u) = x.value (ptsKey u) + 1 ∧
      (reply = some (.ok (x.value (ptsKey u) + 1)) ∨ (∃ err, reply = some (.error err)) ∨
        ch = .incr .retried ∧ reply = none)) := by
  have hbump : ∀ tag, y = x.bump (ptsKey w) tag →
      y.value (ptsKey u) = x.value (ptsKey u) ∨
        (w = u ∧ y.value (ptsKey u) = x.value (ptsKey u) + 1) := by
    rintro tag rfl
    rcases value_bump_of x (ptsKey w) tag u with ⟨-, hsame⟩ | ⟨hu, hnext⟩
    · exact Or.inl hsame
    · exact Or.inr ⟨(ptsKey_inj.mp hu).symm, hnext⟩
  rcases incr_cases hR with ⟨rfl, -⟩ | ⟨-, hy, hreply⟩ | ⟨err, -, hy, hreply⟩ | ⟨hch, hy, hreply⟩
  · exact Or.inl rfl
  · rcases hbump _ hy with hsame | ⟨rfl, hnext⟩
    · exact Or.inl hsame
    · exact Or.inr ⟨rfl, hnext, Or.inl hreply⟩
  · rcases hbump _ hy with hsame | ⟨rfl, hnext⟩
    · exact Or.inl hsame
    · exact Or.inr ⟨rfl, hnext, Or.inr (Or.inl ⟨err, hreply⟩)⟩
  · rcases hbump _ hy with hsame | ⟨rfl, hnext⟩
    · exact Or.inl hsame
    · exact Or.inr ⟨rfl, hnext, Or.inr (Or.inr ⟨hch, hreply⟩)⟩

theorem raise {e : CounterEvent} (hback : NoRollback e) (hstep : counterService.step s e = some t)
    (u : String) : Raise s e t u := by
  cases Service.step_cases hstep with
  | @incrReceiver id msg ch x reply hc hR =>
    rcases incr_raises (u := u) hR with hsame | ⟨hu, hnext, hreply⟩
    · exact .same hsame
    · refine .call rfl hnext ?_
      rw [Service.State.setCall_calls, Function.update_self]
      rcases hreply with hok | ⟨err, herr⟩ | ⟨-, hnone⟩
      · obtain rfl := Option.some.inj hok
        exact Or.inl ⟨msg, _, none, rfl, Or.inl ⟨hu, rfl⟩⟩
      · obtain rfl := Option.some.inj herr
        exact Or.inr trivial
      · cases hnone
  | @incrReceiverAgain id msg ch x hc hR =>
    rcases incr_raises (u := u) hR with hsame | ⟨-, hnext, hok | ⟨err, herr⟩ | ⟨rfl, -⟩⟩
    · exact .same hsame
    · cases hok
    · cases herr
    · exact .retried rfl hnext ⟨msg, by
        rw [Service.State.setCall_calls, Function.update_self]; rfl⟩
  | @incrSender id msg rp ch x reply hc hR =>
    rcases incr_raises (u := u) hR with hsame | ⟨hu, hnext, hreply⟩
    · exact .same hsame
    · refine .call rfl hnext ?_
      rw [Service.State.setCall_calls, Function.update_self]
      rcases hreply with hok | ⟨err, herr⟩ | ⟨-, hnone⟩
      · obtain rfl := Option.some.inj hok
        exact Or.inl ⟨msg, rp, _, rfl, Or.inr ⟨hu, rfl⟩⟩
      · obtain rfl := Option.some.inj herr
        exact Or.inr trivial
      · cases hnone
  | @incrSenderAgain id msg rp ch x hc hR =>
    rcases incr_raises (u := u) hR with hsame | ⟨-, hnext, hok | ⟨err, herr⟩ | ⟨rfl, -⟩⟩
    · exact .same hsame
    · cases hok
    · cases herr
    · exact .retried rfl hnext ⟨msg, by
        rw [Service.State.setCall_calls, Function.update_self]; rfl⟩
  | @wait id msg rp sp ch x reply hc hR =>
    obtain rfl := wait_eq hR
    exact .same rfl
  | @env e x hR =>
    obtain rfl := env_eq hback hR
    cases e with
    | rollback key v => exact hback.elim
    | redisOnly =>
      rcases value_bump_of s.redis benchmarkKey none u with ⟨-, hsame⟩ | ⟨hu, hnext⟩
      · exact .same hsame
      · exact .benchmark rfl hu hnext
  | _ => exact .same rfl

/-- Apart from a rollback, nothing lowers a counter. -/
theorem counterOf_step {e : CounterEvent} (hback : NoRollback e)
    (hstep : counterService.step s e = some t) : counterOf u s ≤ counterOf u t :=
  le_step hback hstep (ptsKey u)

/-- A call keeps what it was handed until it fails. -/
theorem Handed.step {id : CallId} (h : Handed u v (s.calls id)) {e : CounterEvent}
    (hstep : counterService.step s e = some t) : Handed u v (t.calls id) ∨ (t.calls id).Failed := by
  obtain ⟨msg, rp, sp, hhanded, hrole⟩ := h
  cases handout hstep id with
  | same hsame => exact Or.inl ⟨msg, rp, sp, hsame.trans hhanded, hrole⟩
  | lost hnone hfailed =>
    rcases hfailed with hs | hfailed
    · rw [hs] at hhanded
      cases hhanded
    · exact Or.inr hfailed
  | receiver he hs ht hother hredis =>
    rw [hs] at hhanded
    cases hhanded
  | sender he hs ht hother hredis =>
    rw [hs] at hhanded
    cases hhanded
    rcases hrole with hrec | ⟨-, hnone⟩
    · exact Or.inl ⟨msg, rp, _, by rw [ht]; rfl, Or.inl hrec⟩
    · cases hnone

theorem msg?_of_handed {c : PersistCall} {msg : ChatMessage} {rp : Int} {sp : Option Int}
    (h : handed? c = some (msg, rp, sp)) : c.msg? = some msg := by
  cases c with
  | idle => cases h
  | incrReceiver => cases h
  | returned msg' alloc res =>
    cases alloc with
    | none => cases h
    | some p => cases h; rfl
  | _ => cases h; rfl

/-- A call that was invoked and is not in progress has returned. -/
theorem failed_or_ok {c : PersistCall} {msg : ChatMessage} (hquiet : ¬ c.InProgress)
    (hmsg : c.msg? = some msg) : c.Failed ∨ ∃ alloc m, c = .returned msg alloc (.ok m) := by
  cases c with
  | idle => cases hmsg
  | returned msg' alloc res =>
    obtain rfl := Option.some.inj hmsg
    cases res with
    | error err => exact Or.inl trivial
    | ok m => exact Or.inr ⟨alloc, m, rfl⟩
  | _ => exact absurd trivial hquiet

/-! ### Who took a value -/

/-- The event that took the value `v` of the counter of `u`, and what it was for. -/
inductive Source (es : List CounterEvent) (s : Service.State State) (u : String) (v : Int) :
    Prop where
  | call {id ch} (h : Took es u v (.redis id ch))
      (hid : Handed u v (s.calls id) ∨ (s.calls id).Failed)
  | retried {id} (h : Took es u v (.redis id (.incr .retried)))
      (hid : ∃ msg, (s.calls id).msg? = some msg)
  | benchmark (h : Took es u v (.env .redisOnly)) (hu : ptsKey u = benchmarkKey)

/-- A value that was taken keeps its source. -/
theorem Source.step (h : Source es s u v) {e : CounterEvent}
    (hstep : counterService.step s e = some t) : Source (es ++ [e]) t u v := by
  cases h with
  | call h hid =>
    refine .call (h.concat e) ?_
    exact hid.elim (fun hid => hid.step hstep) fun hid => Or.inr (failed_step hid hstep)
  | retried h hid =>
    obtain ⟨msg, hid⟩ := hid
    exact .retried (h.concat e) ⟨msg, Service.msg?_step hstep hid⟩
  | benchmark h hu => exact .benchmark (h.concat e) hu

/-- The value that a step takes has the step for its source. -/
theorem Raise.source (hrun : counterService.run counterService.init es = some s)
    {e : CounterEvent} (hstep : counterService.step s e = some t) (h : Raise s e t u)
    (hlt : counterOf u s < v) (hle : v ≤ counterOf u t) : Source (es ++ [e]) t u v := by
  have hlast : counterOf u t = counterOf u s + 1 → Took (es ++ [e]) u v e ∧ v = counterOf u s + 1 := by
    intro hnext
    have hv : v = counterOf u s + 1 := by omega
    exact ⟨.last hrun hstep hlt (by rw [hnext, hv]), hv⟩
  cases h with
  | same h => omega
  | call he h hid =>
    subst he
    obtain ⟨htook, rfl⟩ := hlast h
    exact .call htook hid
  | retried he h hid =>
    subst he
    exact .retried (hlast h).1 hid
  | benchmark he hu h =>
    subst he
    exact .benchmark (hlast h).1 hu

/-- What a value of the counter of `u` has gone to, once no call is in progress. -/
inductive Outcome (es : List CounterEvent) (s : Service.State State) (u : String) (v : Int) :
    Prop where
  | rejected {id ch} (htook : Took es u v (.redis id ch)) (hfailed : (s.calls id).Failed)
  | received {id msg alloc m} (hret : s.calls id = .returned msg alloc (.ok m))
      (hu : msg.receiverId = u) (hv : m.receiverPts = v)
  | sent {id msg alloc m} (hret : s.calls id = .returned msg alloc (.ok m)) (hu : msg.senderId = u)
      (hv : m.senderPts = v)
  | retried {id msg alloc m} (hret : s.calls id = .returned msg alloc (.ok m))
      (htook : Took es u v (.redis id (.incr .retried)))
  | benchmark (htook : Took es u v (.env .redisOnly)) (hu : ptsKey u = benchmarkKey)

/-- The calls that took the values have returned. -/
theorem Source.outcome (h : (counterService).Reachable s) (hquiet : ∀ id, ¬ (s.calls id).InProgress)
    (hsource : Source es s u v) : Outcome es s u v := by
  cases hsource with
  | @call id ch htook hid =>
    rcases hid with ⟨msg, rp, sp, hhanded, hrole⟩ | hfailed
    · rcases failed_or_ok (hquiet id) (msg?_of_handed hhanded) with hfailed | ⟨alloc, m, hret⟩
      · exact .rejected htook hfailed
      · obtain ⟨-, rfl, -⟩ := (Service.recorded h).ok hret
        rw [hret] at hhanded
        cases hhanded
        rcases hrole with ⟨hrec, hv⟩ | ⟨hsend, hv⟩
        · exact .received hret hrec hv
        · exact .sent hret hsend (Option.some.inj hv)
    · exact .rejected htook hfailed
  | @retried id htook hid =>
    obtain ⟨msg, hmsg⟩ := hid
    rcases failed_or_ok (hquiet id) hmsg with hfailed | ⟨alloc, m, hret⟩
    · exact .rejected htook hfailed
    · exact .retried hret htook
  | benchmark htook hu => exact .benchmark htook hu

/-- The row of a message that a call has returned. -/
theorem exists_row (h : (counterService).Reachable s) {id : CallId} {msg : ChatMessage}
    {alloc : Option (Int × Int)} {m : PersistedMessage}
    (hret : s.calls id = .returned msg alloc (.ok m)) :
    ∃ createdAt, PersistCall.row msg m.receiverPts m.senderPts m.id createdAt ∈ s.table := by
  obtain ⟨-, -, createdAt, hcommitted⟩ := (Service.recorded h).ok hret
  exact ⟨createdAt, List.mem_map_of_mem (f := Committed.row) hcommitted⟩

section Run

variable (h : counterService.run counterService.init es = some s)
  (hback : counterService.Meets (fun _ => NoRollback) counterService.init es)

include h hback

/-- **Every value of a counter was taken** by an event of the run. -/
theorem sourced (u : String) : ∀ v, 1 ≤ v → v ≤ counterOf u s → Source es s u v := by
  refine hback.run_induction
    (motive := fun es s => ∀ v, 1 ≤ v → v ≤ counterOf u s → Source es s u v) ?_ ?_ h
  · intro v hpos hle
    exact absurd hpos hle.not_gt
  · intro es s e t hs _ ih he hstep v hpos hle
    by_cases hold : v ≤ counterOf u s
    · exact (ih v hpos hold).step hstep
    · exact (raise he hstep u).source hs hstep (not_le.mp hold) hle

omit hback in
/-- **What a call was handed it took by an `INCR`** that was executed and answered. -/
theorem took_of_handed : ∀ id u v, Handed u v (s.calls id) →
    Took es u v (.redis id (.incr .executed)) := by
  refine Lts.System.run_induction (S := counterService)
    (motive := fun es s => ∀ id u v, Handed u v (s.calls id) →
      Took es u v (.redis id (.incr .executed))) ?_ ?_ h
  · rintro id u v ⟨msg, rp, sp, hhanded, -⟩
    cases hhanded
  · rintro es s e t hs ih hstep id u v ⟨msg, rp, sp, hhanded, hrole⟩
    -- the value was there, or it is the next one of the counter
    have hnext : ∀ {key tag}, e = .redis id (.incr .executed) → t.redis = s.redis.bump key tag →
        ptsKey u = key → v = s.redis.value key + 1 → Took (es ++ [e]) u v (.redis id (.incr .executed)) := by
      rintro key tag rfl hredis rfl rfl
      refine .last hs hstep (Int.lt_succ _) ?_
      rw [counterOf, hredis, State.bump_value, Function.update_self]
    cases handout hstep id with
    | same hsame => exact (ih id u v ⟨msg, rp, sp, hsame ▸ hhanded, hrole⟩).concat e
    | lost hnone hfailed =>
      rw [hnone] at hhanded
      cases hhanded
    | receiver he hs' ht hother hredis =>
      rw [ht] at hhanded
      cases hhanded
      rcases hrole with ⟨hu, hv⟩ | ⟨-, hnone⟩
      · exact hnext he hredis (by rw [hu]) hv.symm
      · cases hnone
    | sender he hs' ht hother hredis =>
      rw [ht] at hhanded
      cases hhanded
      rcases hrole with hrec | ⟨hu, hsp⟩
      · exact (ih id u v ⟨msg, rp, none, by rw [hs']; rfl, Or.inl hrec⟩).concat e
      · exact hnext he hredis (by rw [hu]) (Option.some.inj hsp).symm

/-- A value that was taken is one of those up to the counter. -/
theorem Took.range {e : CounterEvent} (htook : Took es u v e) : 1 ≤ v ∧ v ≤ counterOf u s := by
  obtain ⟨pre, t, t', ⟨fs, hfs⟩, ht, ht', hlt, rfl⟩ := htook
  have hprefix : pre <+: es := ⟨[e] ++ fs, by rw [← List.append_assoc, hfs]⟩
  have hnonneg : 0 ≤ counterOf u t := by
    rw [counterOf, value_eq_count ht (hback.of_prefix hprefix)]
    exact Int.natCast_nonneg _
  subst hfs
  obtain ⟨w, hw, hrun⟩ := (Lts.System.run_append ..).mp h
  obtain rfl : t' = w := Option.some.inj (((Lts.System.run_concat ..).mpr ⟨t, ht, ht'⟩).symm.trans hw)
  exact ⟨by omega, hback.le_of_run (fun _ _ _ => counterOf_step) hw hrun⟩

omit h in
/-- A value is taken once. -/
theorem Took.unique {e e' : CounterEvent} (htook : Took es u v e) (htook' : Took es u v e') : e = e' :=
  Lts.System.Raises.unique (fun _ _ _ => counterOf_step) hback htook htook'

omit h hback in
theorem Took.mem {e : CounterEvent} (htook : Took es u v e) : e ∈ es := by
  obtain ⟨pre, -, -, hpre, -⟩ := htook
  exact hpre.subset (by simp)

omit hback in
/-- A call that has returned a message took its sender's PTS. -/
theorem took_of_sent {id : CallId} {msg : ChatMessage} {alloc : Option (Int × Int)}
    {m : PersistedMessage} (hret : s.calls id = .returned msg alloc (.ok m)) :
    Took es msg.senderId m.senderPts (.redis id (.incr .executed)) := by
  obtain ⟨-, rfl, -⟩ := (Service.recorded ⟨es, h⟩).ok hret
  refine took_of_handed h id _ _ ⟨msg, m.receiverPts, some m.senderPts, ?_, Or.inr ⟨rfl, rfl⟩⟩
  rw [hret]
  rfl

omit hback in
/-- The benchmark handler takes a value. -/
theorem took_of_benchmark (hu : ptsKey u = benchmarkKey)
    (hmem : Service.Event.env .redisOnly ∈ es) : ∃ v, Took es u v (.env .redisOnly) := by
  obtain ⟨pre, post, rfl⟩ := List.mem_iff_append.mp hmem
  obtain ⟨t, ht, hrun⟩ := (Lts.System.run_append ..).mp h
  obtain ⟨t', ht', -⟩ := (Lts.System.run_cons ..).mp hrun
  refine ⟨counterOf u t + 1, pre, t, t', ⟨post, by simp⟩, ht, ht', Int.lt_succ _, ?_⟩
  obtain rfl := Option.some.inj ht'
  rcases value_bump_of t.redis benchmarkKey none u with ⟨hne, -⟩ | ⟨-, hnext⟩
  · exact absurd hu hne
  · exact hnext

/-! ### Holes -/

omit hback in
/-- A row of `u` has a PTS that its call was handed. -/
theorem handed_of_row {r : Row} (hr : r ∈ s.table) (hu : r.involves u) :
    ∃ id msg rp sp res, s.calls id = .returned msg (some (rp, sp)) res ∧
      Handed u (r.ptsFor u) (s.calls id) ∧ (msg.receiverId = u → r.ptsFor u = rp) := by
  obtain ⟨x, hx, rfl⟩ := List.mem_map.mp hr
  obtain ⟨msg, rp, sp, res, msgID, createdAt, hcall, hrow⟩ :=
    (Service.recorded ⟨es, h⟩).returned x hx
  rw [hrow] at hu ⊢
  refine ⟨x.call, msg, rp, sp, res, hcall, ⟨msg, rp, some sp, by rw [hcall]; rfl, ?_⟩,
    fun hrec => if_pos hrec⟩
  by_cases hrec : msg.receiverId = u
  · exact Or.inl ⟨hrec, (if_pos hrec).symm⟩
  · exact Or.inr ⟨hu.resolve_left hrec, congrArg some (if_neg hrec).symm⟩

variable {limits : ℕ → Int} {n : ℕ}
  (hend : entries (responseAt s.table (get s.redis) u limits n) = [])

include hend

/-- The PTS a client gets are those of the rows of its user, in order. -/
theorem pagedPts_eq : pagedPts s u limits n = (stream s.table u 0).map (Row.ptsFor u) := by
  have hdistinct := (streamUnique h hback).distinctAbove u 0
  rw [pagedPts, flatMap_entries hdistinct hend, List.map_map]
  exact List.map_congr_left fun r _ => ptsFor_toEntry r

theorem mem_pagedPts : v ∈ pagedPts s u limits n ↔ ∃ r ∈ s.table, r.involves u ∧ r.ptsFor u = v := by
  rw [pagedPts_eq h hback hend, List.mem_map]
  constructor
  · rintro ⟨r, hr, hv⟩
    obtain ⟨hrt, hu, -⟩ := mem_stream.mp hr
    exact ⟨r, hrt, hu, hv⟩
  · rintro ⟨r, hr, hu, hv⟩
    exact ⟨r, mem_stream.mpr ⟨hr, hu, (ptsFor_le h hback hr hu).1⟩, hv⟩

/-- Only an `INCR` that is executed and answered takes a value that an entry carries. -/
theorem not_mem_pagedPts {e : CounterEvent} (htook : Took es u v e)
    (he : ∀ id, e ≠ .redis id (.incr .executed)) : v ∉ pagedPts s u limits n := by
  intro hmem
  obtain ⟨r, hr, hu, rfl⟩ := (mem_pagedPts h hback hend).mp hmem
  obtain ⟨id, -, -, -, -, -, hhanded, -⟩ := handed_of_row h hr hu
  exact he id (htook.unique hback (took_of_handed h id u _ hhanded))

/-- The PTS that a client gets are `1..cur` if there is no hole up to the counter. -/
theorem pagedPts_eq_range (hfull : ∀ v, 1 ≤ v → v ≤ counterOf u s → v ∈ pagedPts s u limits n) :
    pagedPts s u limits n = (List.range (counterOf u s).toNat).map fun k : ℕ => (k : Int) + 1 := by
  have hsorted : (pagedPts s u limits n).Pairwise (· < ·) := by
    rw [pagedPts_eq h hback hend, List.pairwise_map]
    exact stream_pairwise ((streamUnique h hback).distinctAbove u 0)
  have hrange : ((List.range (counterOf u s).toNat).map fun k : ℕ => (k : Int) + 1).Pairwise (· < ·) := by
    rw [List.pairwise_map]
    exact List.pairwise_lt_range.imp fun hlt => by omega
  refine List.Perm.eq_of_pairwise (fun a b _ _ hab hba => absurd hab hba.not_gt) hsorted hrange ?_
  refine (List.perm_ext_iff_of_nodup (hsorted.imp ne_of_lt) (hrange.imp ne_of_lt)).mpr fun v => ?_
  rw [List.mem_map]
  constructor
  · intro hv
    obtain ⟨r, hr, hu, rfl⟩ := (mem_pagedPts h hback hend).mp hv
    have hle := ptsFor_le h hback hr hu
    rw [counterOf]
    exact ⟨(r.ptsFor u - 1).toNat, List.mem_range.mpr (by omega), by omega⟩
  · rintro ⟨k, hk, rfl⟩
    have hlt := List.mem_range.mp hk
    exact hfull _ (by omega) (by omega)

/-- A hole that none of the three kinds of increments left is the trace of a rejected write. -/
theorem Source.rejected (hacc : Accounted es s u) (hquiet : ∀ id, ¬ (s.calls id).InProgress)
    (hsource : Source es s u v) (hhole : v ∉ pagedPts s u limits n) :
    ∃ id ch, Took es u v (.redis id ch) ∧ (s.calls id).Failed := by
  -- the row of a message carries the value
  have hrow : ∀ {r : Row}, r ∈ s.table → r.involves u → r.ptsFor u ≠ v := fun hr hu hv =>
    hhole ((mem_pagedPts h hback hend).mpr ⟨_, hr, hu, hv⟩)
  cases hsource.outcome ⟨es, h⟩ hquiet with
  | rejected htook hfailed => exact ⟨_, _, htook, hfailed⟩
  | received hret hu hv =>
    obtain ⟨createdAt, hr⟩ := exists_row ⟨es, h⟩ hret
    exact absurd ((if_pos hu).trans hv) (hrow hr (Or.inl hu))
  | sent hret hu hv =>
    obtain ⟨createdAt, hr⟩ := exists_row ⟨es, h⟩ hret
    have hrec := fun hrec => hacc.noSelf _ _ _ _ hret hrec hu
    exact absurd ((if_neg hrec).trans hv) (hrow hr (Or.inr hu))
  | retried hret htook => exact absurd htook (hacc.noRetry _ _ _ _ hret v)
  | benchmark htook hu => exact absurd htook.mem (hacc.noBenchmark hu)

/-- The increments of the three kinds leave holes that are not. -/
theorem accounted_of_rejected (hrejected : ∀ v, 1 ≤ v → v ≤ counterOf u s →
    v ∉ pagedPts s u limits n → ∃ id ch, Took es u v (.redis id ch) ∧ (s.calls id).Failed) :
    Accounted es s u := by
  -- the call that left a hole is the one that returned an error
  have hfailed : ∀ {v e}, Took es u v e → v ∉ pagedPts s u limits n →
      ∃ id ch, e = .redis id ch ∧ (s.calls id).Failed := by
    intro v e htook hhole
    obtain ⟨hpos, hle⟩ := htook.range h hback
    obtain ⟨id, ch, htook', hfailed⟩ := hrejected v hpos hle hhole
    exact ⟨id, ch, htook.unique hback htook', hfailed⟩
  constructor
  · intro id msg alloc m hret hrec hsend
    obtain ⟨-, rfl, createdAt, hcommitted⟩ := (Service.recorded ⟨es, h⟩).ok hret
    have hgrants := (known h hback id).2
    rw [hret] at hgrants
    have htook : Took es u m.senderPts (.redis id (.incr .executed)) := hsend ▸ took_of_sent h hret
    have hhole : m.senderPts ∉ pagedPts s u limits n := by
      intro hmem
      obtain ⟨r, hr, hu, hv⟩ := (mem_pagedPts h hback hend).mp hmem
      obtain ⟨id', msg', rp, sp, res, hret', hhanded, hpts⟩ := handed_of_row h hr hu
      rw [hv] at hhanded hpts
      have hid : id = id' := by
        have hsame := htook.unique hback (took_of_handed h id' u _ hhanded)
        cases hsame
        rfl
      rw [← hid, hret] at hret'
      cases hret'
      -- one value for two increments of one counter
      have hgranted := hgrants.1
      rw [hrec, ← hpts hrec, ← hsend] at hgranted
      cases (hgranted.ticket_unique hgrants.2)
    obtain ⟨id', ch, he, hid⟩ := hfailed htook hhole
    cases he
    rw [hret] at hid
    exact hid
  · intro id msg alloc m hret v htook
    obtain ⟨id', ch, he, hid⟩ := hfailed htook
      (not_mem_pagedPts h hback hend htook fun id he => by cases he)
    cases he
    rw [hret] at hid
    exact hid
  · intro hu hmem
    obtain ⟨v, htook⟩ := took_of_benchmark h hu hmem
    obtain ⟨id, ch, he, -⟩ := hfailed htook
      (not_mem_pagedPts h hback hend htook fun id he => by cases he)
    cases he

omit h hback hend in
theorem eval_getUserPts (u : String) :
    (getUserPts ⟨u⟩).eval (serve s.table (get s.redis)) = .ok ⟨counterOf u s⟩ := by
  rw [counterOf, ← get_getD]
  cases hval : get s.redis (ptsKey u) with
  | none => simp [getUserPts, getUserPTS, Prog.lift, Prog.eval, serve, hval, MessageService.get]
  | some val => simp [getUserPts, getUserPTS, Prog.lift, Prog.eval, serve, hval, MessageService.get]

/-- **Every hole is a rejected write, exactly.**  In every run without rollbacks, in every state where
no call is in progress and for every user: the values up to `GetUserPts` that the completely paged
stream does not show were all taken by calls that returned an error, and the stream is
`1..GetUserPts` if no call did, if and only if no call that succeeded sent a message of the user to
themselves or had an `INCR` of their counter issued again, and the benchmark handler left the counter
alone. -/
theorem holesRejected_iff (hquiet : ∀ id, ¬ (s.calls id).InProgress) {cur : Int}
    (hcur : (getUserPts ⟨u⟩).eval (serve s.table (get s.redis)) = .ok ⟨cur⟩) :
    HolesRejected es s u cur (pagedPts s u limits n) ↔ Accounted es s u := by
  rw [eval_getUserPts] at hcur
  obtain rfl := PtsResponse.mk.inj (Except.ok.inj hcur)
  constructor
  · rintro ⟨hrejected, -⟩
    exact accounted_of_rejected h hback hend hrejected
  · intro hacc
    have hrejected : ∀ v, 1 ≤ v → v ≤ counterOf u s → v ∉ pagedPts s u limits n →
        ∃ id ch, Took es u v (.redis id ch) ∧ (s.calls id).Failed := fun v hpos hle hhole =>
      (sourced h hback u v hpos hle).rejected h hback hend hacc hquiet hhole
    refine ⟨hrejected, fun hnone => pagedPts_eq_range h hback hend fun v hpos hle => ?_⟩
    by_contra hhole
    obtain ⟨id, ch, -, hfailed⟩ := hrejected v hpos hle hhole
    exact hnone id hfailed

end Run

/-- Alice's message to Bob is persisted, and the `INSERT` of his answer fails. -/
def rejectedRun : List CounterEvent :=
  wholeCall 0 ⟨"alice", "bob", "hi", 0⟩ "a" ++
    [.invoke 1 ⟨"bob", "alice", "hello", 0⟩, .redis 1 (.incr .executed), .redis 1 (.incr .executed),
      .redis 1 (.wait (.ok 1)), .insert 1 "b" 0 0 (.failed "driver: bad connection")]

theorem rejectedRun_idle {s : Service.State State}
    (h : counterService.run counterService.init rejectedRun = some s) (id : CallId) :
    s.calls (id + 2) = .idle :=
  Service.calls_eq_idle h fun msg hmem => by simp [rejectedRun, wholeCall] at hmem

/-- Alice's stream has a hole at PTS 2, the trace of the answer. -/
theorem holesRejected_iff_rejectedRun : ∃ s,
    counterService.run counterService.init rejectedRun = some s ∧
    pagedPts s "alice" (fun _ => 0) 1 = [1] ∧
    HolesRejected rejectedRun s "alice" 2 (pagedPts s "alice" (fun _ => 0) 1) := by
  refine ⟨_, rfl, rfl, (@holesRejected_iff _ rejectedRun "alice" rfl
    (.of_forall fun _ => by decide) (fun _ => 0) 1 rfl (fun id => ?_) 2 rfl).mpr ⟨?_, ?_, ?_⟩⟩
  · match id with
    | 0 => exact not_false
    | 1 => exact not_false
    | id + 2 =>
      rw [rejectedRun_idle rfl id]
      exact not_false
  · intro id msg alloc m hret hrec hsend
    match id with
    | 0 =>
      cases hret
      exact absurd hrec (by decide)
    | 1 => cases hret
    | id + 2 =>
      rw [rejectedRun_idle rfl id] at hret
      cases hret
  · intro id msg alloc m hret v htook
    have hmem := htook.mem
    simp [rejectedRun, wholeCall] at hmem
  · intro _ hmem
    simp [rejectedRun, wholeCall] at hmem

end Counters

end TinyTelegram.MessageService
