import TinyTelegram.MessageService.DbCheck
import TinyTelegram.MessageService.Equiv.Holes

/-!
# What the audit finds

`dbcheck` finds no duplicates, as the constraints of the table exclude them (`no_duplicates`).  A gap in
the `receiver_pts` of a user is read as the trace of a rejected write.  But the counter of the user also
gives the PTS of the messages that they send, which are in other rows: a user who receives a message,
answers it and receives another has a gap where nothing was rejected (`not_rejectedIn`).

So a gap shows a rejected write exactly if it has a value that went to nothing else (`rejectedIn_iff`):
to no message that the user sent, no `INCR` that was issued again for a call that succeeded, and not to
the benchmark handler.
-/

namespace TinyTelegram.MessageService

namespace DbCheck

open Counters (Took sourced took_of_sent exists_row ptsFor_le wholeCall)

/-! ### Duplicates -/

theorem duplicates_eq_nil {t : Table} (ht : Service.Constrained t) (role : Role) :
    duplicates t role = [] := by
  refine List.filter_eq_nil_iff.mpr fun x hx => ?_
  obtain ⟨slot, -, rfl⟩ := List.mem_map.mp hx
  simpa using List.nodup_iff_count_le_one.mp (ht.slot_nodup role) slot

/-- **There are no duplicates** in a table that the service reaches. -/
theorem no_duplicates {ρ χ ε : Type} {R : Redis ρ χ ε} {s : Service.State ρ}
    (h : (Service.system R).Reachable s) {role : Role} {out : List ((String × Int) × ℕ)}
    (hout : PrintsDuplicates s.table role out) : out = [] := by
  obtain ⟨l, hperm, rfl⟩ := hout
  rw [duplicates_eq_nil (Service.constrained_table h)] at hperm
  rw [hperm.eq_nil, List.take_nil]

/-! ### Gaps -/

/-- Two neighbours in a list in order have nothing in between. -/
theorem lag_neighbours {l : List Int} {first prev cur : Int} (hsorted : (first :: l).Pairwise (· ≤ ·))
    (h : (some prev, cur) ∈ lag (some first) l) :
    prev ∈ first :: l ∧ cur ∈ l ∧ ∀ v ∈ first :: l, v ≤ prev ∨ cur ≤ v := by
  induction l generalizing first with
  | nil => cases h
  | cons x l ih =>
    obtain ⟨hfirst, htail⟩ := List.pairwise_cons.mp hsorted
    rcases List.mem_cons.mp h with heq | hrest
    · cases heq
      refine ⟨List.mem_cons_self, List.mem_cons_self, fun v hv => ?_⟩
      rcases List.mem_cons.mp hv with rfl | hv
      · exact Or.inl le_rfl
      · rcases List.mem_cons.mp hv with rfl | hv
        · exact Or.inr le_rfl
        · exact Or.inr ((List.pairwise_cons.mp htail).1 v hv)
    · obtain ⟨hprev, hcur, hnone⟩ := ih htail hrest
      refine ⟨List.mem_cons_of_mem first hprev, List.mem_cons_of_mem x hcur, fun v hv => ?_⟩
      rcases List.mem_cons.mp hv with rfl | hv
      · exact Or.inl (hfirst prev hprev)
      · exact hnone v hv

theorem mem_partition {t : Table} {u : String} {v : Int} :
    v ∈ partition t u ↔ ∃ r ∈ t, r.receiverId = u ∧ r.receiverPts = v := by
  rw [partition, List.mem_insertionSort, List.mem_map]
  constructor
  · rintro ⟨r, hr, hv⟩
    obtain ⟨hrt, hu⟩ := List.mem_filter.mp hr
    exact ⟨r, hrt, of_decide_eq_true hu, hv⟩
  · rintro ⟨r, hr, hu, hv⟩
    exact ⟨r, List.mem_filter.mpr ⟨hr, decide_eq_true hu⟩, hv⟩

/-- A gap is between two messages to a user, with none in between. -/
theorem mem_gaps {t : Table} {g : Gap} (h : g ∈ gaps t) :
    (∃ r ∈ t, r.receiverId = g.receiverId ∧ r.receiverPts = g.prev) ∧
    (∃ r ∈ t, r.receiverId = g.receiverId ∧ r.receiverPts = g.receiverPts) ∧
    ∀ r ∈ t, r.receiverId = g.receiverId → r.receiverPts ≤ g.prev ∨ g.receiverPts ≤ r.receiverPts := by
  obtain ⟨u, -, hg⟩ := List.mem_flatMap.mp h
  obtain ⟨⟨prev?, cur⟩, hlag, hg⟩ := List.mem_filterMap.mp hg
  obtain ⟨prev, rfl, hg⟩ := Option.bind_eq_some_iff.mp hg
  split_ifs at hg
  obtain rfl := Option.some.inj hg
  have hsorted : (partition t u).Pairwise (· ≤ ·) := List.pairwise_insertionSort _ _
  have hmem := fun v => mem_partition (t := t) (u := u) (v := v)
  cases hl : partition t u with
  | nil =>
    rw [hl] at hlag
    cases hlag
  | cons first l =>
    rw [hl] at hsorted hlag hmem
    have hlag' : (some prev, cur) ∈ lag (some first) l := by
      rcases List.mem_cons.mp hlag with heq | hrest
      · cases heq
      · exact hrest
    obtain ⟨hprev, hcur, hnone⟩ := lag_neighbours hsorted hlag'
    refine ⟨(hmem prev).mp hprev, (hmem cur).mp (List.mem_cons_of_mem first hcur), ?_⟩
    intro r hr hu
    exact hnone _ ((hmem _).mpr ⟨r, hr, hu, rfl⟩)

theorem Prints.subset {t : Table} {out : List Gap} (h : Prints t out) : out ⊆ gaps t := by
  obtain ⟨l, hperm, -, rfl⟩ := h
  exact fun g hg => hperm.subset (List.mem_of_mem_take hg)

/-! ### What a gap shows -/

variable {s : Service.State Counters.State} {es : List CounterEvent}

/-- A value strictly inside the gap was taken by a call that returned an error. -/
def RejectedIn (es : List CounterEvent) (s : Service.State Counters.State) (g : Gap) : Prop :=
  ∃ v, g.prev < v ∧ v < g.receiverPts ∧
    ∃ id ch, Took es g.receiverId v (.redis id ch) ∧ (s.calls id).Failed

/-- The value `v` of the counter of `u` went to something that was not rejected: a message that `u` sent,
an `INCR` that was issued again for a call that succeeded, or the benchmark handler. -/
inductive Spent (es : List CounterEvent) (s : Service.State Counters.State) (u : String) (v : Int) :
    Prop where
  | sent {id msg alloc m} (hret : s.calls id = .returned msg alloc (.ok m)) (hu : msg.senderId = u)
      (hv : m.senderPts = v)
  | retried {id msg alloc m} (hret : s.calls id = .returned msg alloc (.ok m))
      (htook : Took es u v (.redis id (.incr .retried)))
  | benchmark (htook : Took es u v (.env .redisOnly))

section Run

variable (h : counterService.run counterService.init es = some s)
  (hback : counterService.Meets (fun _ => NoRollback) counterService.init es)

include h hback

/-- What went to something else was not rejected. -/
theorem Spent.not_rejected {u : String} {v : Int} (hspent : Spent es s u v) {id : CallId}
    {ch : Counters.Choice} (htook : Took es u v (.redis id ch)) : ¬ (s.calls id).Failed := by
  -- one event took the value
  cases hspent with
  | sent hret hu hv =>
    subst hu hv
    cases htook.unique hback (took_of_sent h hret)
    rw [hret]
    exact not_false
  | retried hret htook' =>
    cases htook.unique hback htook'
    rw [hret]
    exact not_false
  | benchmark htook' => cases htook.unique hback htook'

/-- A value inside a gap that no rejected call took went to something else. -/
theorem spent_of_not_rejected (hquiet : ∀ id, ¬ (s.calls id).InProgress) {g : Gap}
    (hg : g ∈ gaps s.table) {v : Int} (hprev : g.prev < v) (hcur : v < g.receiverPts)
    (hnot : ∀ id ch, Took es g.receiverId v (.redis id ch) → ¬ (s.calls id).Failed) :
    Spent es s g.receiverId v := by
  obtain ⟨⟨r, hr, hru, hrv⟩, ⟨r', hr', hru', hrv'⟩, hnone⟩ := mem_gaps hg
  have hpos := ptsFor_le h hback hr (Or.inl hru)
  have hle := ptsFor_le h hback hr' (Or.inl hru')
  rw [Row.ptsFor, if_pos hru, hrv] at hpos
  rw [Row.ptsFor, if_pos hru', hrv'] at hle
  have hsource := sourced h hback g.receiverId v (by omega) (hcur.le.trans hle.2)
  cases hsource.outcome ⟨es, h⟩ hquiet with
  | rejected htook hfailed => exact absurd hfailed (hnot _ _ htook)
  | received hret hu hv =>
    -- the row of a message to the user would be in between
    obtain ⟨createdAt, hrow⟩ := exists_row ⟨es, h⟩ hret
    subst hv
    rcases hnone _ hrow hu with hbelow | habove
    · exact absurd hbelow hprev.not_ge
    · exact absurd habove hcur.not_ge
  | sent hret hu hv => exact .sent hret hu hv
  | retried hret htook => exact .retried hret htook
  | benchmark htook hu => exact .benchmark htook

/-- **What a gap shows, exactly.**  When no call is in progress after a run without rollbacks, a row that
`dbcheck` prints is the trace of a call that returned an error exactly if some value inside the gap went to
nothing else. -/
theorem rejectedIn_iff (hquiet : ∀ id, ¬ (s.calls id).InProgress) {out : List Gap}
    (hout : Prints s.table out) {g : Gap} (hg : g ∈ out) :
    RejectedIn es s g ↔ ∃ v, g.prev < v ∧ v < g.receiverPts ∧ ¬ Spent es s g.receiverId v := by
  constructor
  · rintro ⟨v, hprev, hcur, id, ch, htook, hfailed⟩
    exact ⟨v, hprev, hcur, fun hspent => hspent.not_rejected h hback htook hfailed⟩
  · rintro ⟨v, hprev, hcur, hspent⟩
    by_contra hnot
    refine hspent (spent_of_not_rejected h hback hquiet (hout.subset hg) hprev hcur ?_)
    intro id ch htook hfailed
    exact hnot ⟨v, hprev, hcur, id, ch, htook, hfailed⟩

end Run

/-- Bob writes to Alice twice, and in between the `WAIT` for another message to her fails. -/
def rejectedBetweenRun : List CounterEvent :=
  wholeCall 0 ⟨"bob", "alice", "hi", 0⟩ "a" ++
  [.invoke 1 ⟨"bob", "alice", "hello", 0⟩, .redis 1 (.incr .executed), .redis 1 (.incr .executed),
    .redis 1 (.wait (.ok 0))] ++
  wholeCall 2 ⟨"bob", "alice", "hello", 0⟩ "b"

theorem rejectedBetweenRun_idle {s : Service.State Counters.State}
    (h : counterService.run counterService.init rejectedBetweenRun = some s) (id : CallId) :
    s.calls (id + 3) = .idle :=
  Service.calls_eq_idle h fun msg hmem => by simp [rejectedBetweenRun, wholeCall] at hmem

/-- The gap in Alice's PTS is the trace of the message between. -/
theorem rejectedIn_iff_rejectedBetweenRun : ∃ s,
    counterService.run counterService.init rejectedBetweenRun = some s ∧
    Prints s.table [⟨"alice", 1, 3, 2⟩] ∧
    RejectedIn rejectedBetweenRun s ⟨"alice", 1, 3, 2⟩ := by
  have hprints : Prints [⟨"a", "bob", "alice", "hi", 1, 1, 0⟩, ⟨"b", "bob", "alice", "hello", 3, 3, 0⟩]
      [⟨"alice", 1, 3, 2⟩] := ⟨_, .refl _, by decide, rfl⟩
  refine ⟨_, rfl, hprints, (@rejectedIn_iff _ rejectedBetweenRun rfl
    (.of_forall fun _ => by decide) (fun id => ?_) _ hprints _
    (List.mem_singleton_self _)).mpr ⟨2, by decide, by decide, fun hspent => ?_⟩⟩
  · match id with
    | 0 => exact not_false
    | 1 => exact not_false
    | 2 => exact not_false
    | id + 3 =>
      rw [rejectedBetweenRun_idle rfl id]
      exact not_false
  · cases hspent with
    | @sent id msg alloc m hret hu hv =>
      -- nobody has got a message from Alice
      match id with
      | 0 =>
        cases hret
        exact absurd hu (by decide)
      | 1 => cases hret
      | 2 =>
        cases hret
        exact absurd hu (by decide)
      | id + 3 =>
        rw [rejectedBetweenRun_idle rfl id] at hret
        cases hret
    | retried hret htook =>
      have hmem := htook.mem
      simp [rejectedBetweenRun, wholeCall] at hmem
    | benchmark htook =>
      have hmem := htook.mem
      simp [rejectedBetweenRun, wholeCall] at hmem

/-- Bob writes to Alice, she answers, and he writes again. -/
def answeredRun : List CounterEvent :=
  wholeCall 0 ⟨"bob", "alice", "hi", 0⟩ "a" ++ wholeCall 1 ⟨"alice", "bob", "hello", 0⟩ "b" ++
  wholeCall 2 ⟨"bob", "alice", "how are you", 0⟩ "c"

theorem answeredRun_idle {s : Service.State Counters.State}
    (h : counterService.run counterService.init answeredRun = some s) (id : CallId) :
    s.calls (id + 3) = .idle :=
  Service.calls_eq_idle h fun msg hmem => by simp [answeredRun, wholeCall] at hmem

/-- **The audit prints a gap of Alice's**, and no call returned an error. -/
theorem not_rejectedIn : ∃ s, counterService.run counterService.init answeredRun = some s ∧
    (∀ id, ¬ (s.calls id).InProgress) ∧ Prints s.table [⟨"alice", 1, 3, 2⟩] ∧
    ¬ RejectedIn answeredRun s ⟨"alice", 1, 3, 2⟩ := by
  refine ⟨_, rfl, fun id => ?_, ⟨_, .refl _, by decide, rfl⟩, ?_⟩
  · match id with
    | 0 => exact not_false
    | 1 => exact not_false
    | 2 => exact not_false
    | id + 3 =>
      rw [answeredRun_idle rfl id]
      exact not_false
  · rintro ⟨v, -, -, id, ch, -, hfailed⟩
    match id with
    | 0 => exact hfailed
    | 1 => exact hfailed
    | 2 => exact hfailed
    | id + 3 =>
      rw [answeredRun_idle rfl id] at hfailed
      exact hfailed

end DbCheck

end TinyTelegram.MessageService
