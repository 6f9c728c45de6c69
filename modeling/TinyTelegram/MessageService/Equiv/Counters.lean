import TinyTelegram.MessageService.Equiv.Backstop
import TinyTelegram.MessageService.Equiv.GetDiff
import TinyTelegram.MessageService.Equiv.Tickets

/-!
# Counters that are never rolled back

Without rollbacks a counter is the number of its increments (`value_eq_count`), so every PTS is
handed out once: to a call in flight (`granted_held`) or to a committed row (`granted_row`).  Hence
the streams are free of duplicates without any help from the constraints (`streamUnique`), all PTS
are positive, and a client that catches up on any table reached so gets it exactly
(`paging_exact_of_run`).
-/

namespace TinyTelegram.MessageService

namespace Counters

open CounterLog

/-! ### What Redis can do -/

/-- An `INCR` is not executed, or it is and its reply arrives, is lost to the call, or never reaches
the client library. -/
theorem incr_cases {s x : State} {ticket : Ticket} {key : String} {ch : Choice}
    {reply : Option (Except String Int)} (h : incr s ticket key ch = some (x, reply)) :
    (x = s ∧ ∃ err, reply = some (.error err)) ∨
    (ch = .incr .executed ∧ x = s.bump key (some ticket) ∧ reply = some (.ok (s.value key + 1))) ∨
    (∃ err, ch = .incr (.lost err) ∧ x = s.bump key (some ticket) ∧ reply = some (.error err)) ∨
    (ch = .incr .retried ∧ x = s.bump key none ∧ reply = none) := by
  cases ch with
  | wait reply => cases h
  | incr out =>
    obtain ⟨rfl, rfl⟩ := Prod.mk.inj (Option.some.inj h)
    cases out with
    | executed => exact Or.inr (Or.inl ⟨rfl, rfl, rfl⟩)
    | failed err => exact Or.inl ⟨rfl, err, rfl⟩
    | lost err => exact Or.inr (Or.inr (Or.inl ⟨err, rfl, rfl, rfl⟩))
    | retried => exact Or.inr (Or.inr (Or.inr ⟨rfl, rfl, rfl⟩))

/-- An `INCR` that hands out a PTS is executed, and the PTS is the next value of the counter. -/
theorem incr_ok {s x : State} {ticket : Ticket} {key : String} {ch : Choice} {v : Int}
    (h : incr s ticket key ch = some (x, some (.ok v))) :
    ch = .incr .executed ∧ x = s.bump key (some ticket) ∧ v = s.value key + 1 := by
  rcases incr_cases h with ⟨-, err, hreply⟩ | ⟨hch, hx, hreply⟩ | ⟨err, -, -, hreply⟩ | ⟨-, -, hreply⟩
  · cases hreply
  · exact ⟨hch, hx, Except.ok.inj (Option.some.inj hreply)⟩
  · cases hreply
  · cases hreply

theorem wait_eq {s x : State} {ch : Choice} {reply : Except String Int}
    (h : wait s ch = some (x, reply)) : x = s := by
  cases ch with
  | incr out => cases h
  | wait reply' => exact (Prod.mk.inj (Option.some.inj h)).1.symm

theorem env_eq {s x : State} {e : Event} (hback : NoRollback (.env e)) (h : env s e = some x) :
    x = s.bump benchmarkKey none := by
  cases e with
  | rollback key v => exact hback.elim
  | redisOnly => exact (Option.some.inj h).symm

/-- No counter of `x` is below the same counter of `s`. -/
def Le (s x : State) : Prop := ∀ key, s.value key ≤ x.value key

theorem le_bump (s : State) (key : String) (tag : Option Ticket) : Le s (s.bump key tag) := by
  intro key'
  show s.value key' ≤ Function.update s.value key (s.value key + 1) key'
  by_cases hkey : key' = key
  · subst hkey
    rw [Function.update_self]
    omega
  · rw [Function.update_of_ne hkey]

theorem le_of_incr {s x : State} {ticket : Ticket} {key : String} {ch : Choice}
    {reply : Option (Except String Int)} (h : incr s ticket key ch = some (x, reply)) : Le s x := by
  rcases incr_cases h with ⟨rfl, -⟩ | ⟨-, rfl, -⟩ | ⟨err, -, rfl, -⟩ | ⟨-, rfl, -⟩
  · exact fun _ => le_rfl
  · exact le_bump _ _ _
  · exact le_bump _ _ _
  · exact le_bump _ _ _

/-! ### The invariant -/

/-- The counters count their increments, and a call was granted what it holds. -/
def Known (s : State) (id : CallId) (c : PersistCall) : Prop :=
  (∀ key, s.value key = count key s.issued) ∧ Grants s.issued id c

theorem value_bump {s : State} (h : ∀ key, s.value key = count key s.issued) (key : String)
    (tag : Option Ticket) (key' : String) :
    (s.bump key tag).value key' = count key' (s.bump key tag).issued := by
  show Function.update s.value key (s.value key + 1) key' = (count key' (s.issued ++ [_]) : Int)
  by_cases hkey : key' = key
  · subst hkey
    rw [Function.update_self, count_concat_self, h]
    push_cast
    rfl
  · rw [Function.update_of_ne hkey, count_concat_of_ne (Ne.symm hkey), h]

theorem Known.bump {s : State} {id : CallId} {c : PersistCall} (h : Known s id c) (key : String)
    (tag : Option Ticket) : Known (s.bump key tag) id c :=
  ⟨value_bump h.1 key tag, h.2.mono (List.prefix_append ..)⟩

/-- An increment grants the value it returns. -/
theorem granted_bump {s : State} (h : ∀ key, s.value key = count key s.issued) (user : String)
    (ticket : Ticket) :
    Granted (s.bump (ptsKey user) (some ticket)).issued user ticket (s.value (ptsKey user) + 1) :=
  ⟨_, by rw [h]; push_cast; rfl, issued_concat ..⟩

theorem Known.of_incr {s x : State} {ticket : Ticket} {key : String} {ch : Choice}
    {reply : Option (Except String Int)} {id : CallId} {c : PersistCall} (h : Known s id c)
    (hR : incr s ticket key ch = some (x, reply)) : Known x id c := by
  rcases incr_cases hR with ⟨rfl, -⟩ | ⟨-, rfl, -⟩ | ⟨err, -, rfl, -⟩ | ⟨-, rfl, -⟩
  · exact h
  · exact h.bump ..
  · exact h.bump ..
  · exact h.bump ..

theorem Known.incrReceiver {s x : State} {id : CallId} {msg : ChatMessage} {ch : Choice}
    {reply : Except String Int} (h : Known s id (.incrReceiver msg))
    (hR : incr s (id, .receiver) (ptsKey msg.receiverId) ch = some (x, some reply)) :
    Known x id (PersistCall.afterIncrReceiver msg reply) := by
  have hx := (h.of_incr hR).1
  cases reply with
  | error err => exact ⟨hx, trivial⟩
  | ok rp =>
    obtain ⟨-, rfl, rfl⟩ := incr_ok hR
    exact ⟨hx, granted_bump h.1 ..⟩

theorem Known.incrSender {s x : State} {id : CallId} {msg : ChatMessage} {rp : Int} {ch : Choice}
    {reply : Except String Int} (h : Known s id (.incrSender msg rp))
    (hR : incr s (id, .sender) (ptsKey msg.senderId) ch = some (x, some reply)) :
    Known x id (PersistCall.afterIncrSender msg rp reply) := by
  have hx := h.of_incr hR
  cases reply with
  | error err => exact ⟨hx.1, trivial⟩
  | ok sp =>
    obtain ⟨-, rfl, rfl⟩ := incr_ok hR
    exact ⟨hx.1, hx.2, granted_bump h.1 ..⟩

theorem callRule : Service.CallRule redis (fun _ => NoRollback) Known where
  init id := ⟨fun _ => rfl, trivial⟩
  invoke h := ⟨h.1, trivial⟩
  incrReceiver := Known.incrReceiver
  incrSender := Known.incrSender
  wait {s y id msg rp sp ch reply} h _ hR := by
    have hy := wait_eq hR
    rw [hy]
    refine ⟨h.1, ?_⟩
    cases reply with
    | error err => trivial
    | ok acked =>
      rw [PersistCall.afterWait]
      split
      · trivial
      · exact h.2
  insert h _ _ reply := by cases reply <;> exact h
  of_incr _ h hR := h.of_incr hR
  of_wait h hR := wait_eq hR ▸ h
  env h hback hR := env_eq hback hR ▸ h.bump ..

/-! ### What is known after a run without rollbacks -/

section Run

variable {es : List CounterEvent} {s : Service.State State}
  (h : counterService.run counterService.init es = some s)
  (hback : counterService.Meets (fun _ => NoRollback) counterService.init es)

include h hback

theorem known (id : CallId) : Known s.redis id (s.calls id) := callRule.invariant h hback id

/-- A counter is the number of its increments. -/
theorem value_eq_count (key : String) : s.redis.value key = count key s.redis.issued :=
  (known h hback 0).1 key

/-- What was granted is at most the counter. -/
theorem granted_le {u : String} {ticket : Ticket} {p : Int} (hp : Granted s.redis.issued u ticket p) :
    0 < p ∧ p ≤ s.redis.value (ptsKey u) := by
  obtain ⟨v, rfl, hv⟩ := hp
  have hle := hv.le_count
  have hpos := hv.pos
  rw [value_eq_count h hback]
  omega

/-- What a call in flight holds for a user was granted to it. -/
theorem granted_held {u : String} {id : CallId} {v : Int} (hv : held? u (s.calls id) = some v) :
    ∃ role, Granted s.redis.issued u (id, role) v :=
  (known h hback id).2.held hv

/-- A committed row is that of a call which was granted its PTS. -/
theorem grants_committed {x : Committed} (hx : x ∈ s.committed) :
    ∃ msg rp sp msgID createdAt, Grants s.redis.issued x.call (.insert msg rp sp) ∧
      x.row = PersistCall.row msg rp sp msgID createdAt := by
  obtain ⟨msg, rp, sp, res, msgID, createdAt, hcall, hrow⟩ :=
    (Service.recorded ⟨es, h⟩).returned x hx
  have hret := (known h hback x.call).2
  rw [hcall] at hret
  exact ⟨msg, rp, sp, msgID, createdAt, hret, hrow⟩

/-- The PTS of a committed row in the stream of one of its users was granted to its call. -/
theorem granted_row {x : Committed} (hx : x ∈ s.committed) {u : String} (hu : x.row.involves u) :
    ∃ role, Granted s.redis.issued u (x.call, role) (x.row.ptsFor u) := by
  obtain ⟨msg, rp, sp, msgID, createdAt, hgrants, hrow⟩ := grants_committed h hback hx
  rw [hrow] at hu ⊢
  exact hgrants.held (held_insert hu)

/-- The constraints accept the row of a call, under a fresh id. -/
theorem violatedConstraint_eq_none {id : CallId} {msg : ChatMessage} {rp sp : Int}
    (hc : s.calls id = .insert msg rp sp) {msgID : String} (hid : msgID ∉ s.table.map Row.id)
    (createdAt : Int) :
    violatedConstraint s.table (PersistCall.row msg rp sp msgID createdAt) = none := by
  refine Service.violatedConstraint_eq_none_iff.mpr ⟨hid, fun role hmem => ?_⟩
  obtain ⟨r, hr, hslot⟩ := List.mem_map.mp hmem
  obtain ⟨x, hx, rfl⟩ := List.mem_map.mp hr
  have hgranted : Granted s.redis.issued
      ((PersistCall.row msg rp sp msgID createdAt).slot role).1 (id, role)
      ((PersistCall.row msg rp sp msgID createdAt).slot role).2 := by
    have hgrants := (known h hback id).2
    rw [hc] at hgrants
    exact hgrants.slot msgID createdAt role
  obtain ⟨msg', rp', sp', msgID', createdAt', hgrants', hrow⟩ := grants_committed h hback hx
  have hgranted' := hgrants'.slot msgID' createdAt' role
  rw [← hrow, hslot] at hgranted'
  have hcall : x.call = id := (Prod.mk.inj (hgranted'.ticket_unique hgranted)).1
  -- but the call of a committed row has returned
  obtain ⟨_, _, _, _, _, _, hret, _⟩ := (Service.recorded ⟨es, h⟩).returned x hx
  rw [hcall, hc] at hret
  cases hret

/-- The PTS of committed rows are positive and at most the counter. -/
theorem ptsFor_le {r : Row} (hr : r ∈ s.table) {u : String} (hu : r.involves u) :
    0 < r.ptsFor u ∧ r.ptsFor u ≤ s.redis.value (ptsKey u) := by
  obtain ⟨x, hx, rfl⟩ := List.mem_map.mp hr
  obtain ⟨role, hgranted⟩ := granted_row h hback hx hu
  exact granted_le h hback hgranted

/-- What a call in flight holds is not the PTS of any committed row. -/
theorem held_ne_ptsFor {u : String} {id : CallId} {v : Int} (hv : held? u (s.calls id) = some v)
    {r : Row} (hr : r ∈ s.table) (hu : r.involves u) : r.ptsFor u ≠ v := by
  rintro rfl
  obtain ⟨x, hx, rfl⟩ := List.mem_map.mp hr
  obtain ⟨role, hgranted⟩ := granted_row h hback hx hu
  obtain ⟨role', hgranted'⟩ := granted_held h hback hv
  have hcall : x.call = id := (Prod.mk.inj (hgranted.ticket_unique hgranted')).1
  -- but the call of a committed row has returned
  obtain ⟨_, _, _, _, _, _, hret, _⟩ := (Service.recorded ⟨es, h⟩).returned x hx
  rw [← hcall, hret] at hv
  cases hv

/-- **Without rollbacks the streams are free of duplicates.** -/
theorem streamUnique : StreamUnique s.table := by
  intro u
  have hnodup : s.committed.Pairwise fun x y => x.call ≠ y.call :=
    List.pairwise_map.mp (Service.recorded ⟨es, h⟩).nodup
  apply List.pairwise_map.mpr
  refine hnodup.imp_of_mem fun {x y} hx hy hne hux huy hpts => ?_
  obtain ⟨role, hgx⟩ := granted_row h hback hx hux
  obtain ⟨role', hgy⟩ := granted_row h hback hy huy
  rw [← hpts] at hgy
  exact hne (Prod.mk.inj (hgx.ticket_unique hgy)).1

omit h hback in
/-- A stream without duplicates has distinct PTS. -/
theorem StreamUnique.distinctAbove {t : Table} (ht : StreamUnique t) (u : String) (c : Int) :
    DistinctAbove t u c := by
  refine ((ht u).sublist List.filter_sublist).imp_of_mem fun {r r'} hr hr' hne => ?_
  have hu := of_decide_eq_true (List.mem_filter.mp hr).2
  have hu' := of_decide_eq_true (List.mem_filter.mp hr').2
  exact hne hu.1 hu'.1

/-- **A client that catches up gets exactly its stream**, on every table reached without rollbacks:
every row of the user once, in increasing PTS, whatever limits it asks with. -/
theorem paging_exact_of_run (counters : String → Option Int) (u : String) (limits : ℕ → Int) :
    ∃ n, entries (responseAt s.table counters u limits n) = [] ∧
      ((List.range n).flatMap fun k => entries (responseAt s.table counters u limits k)) =
        (stream s.table u 0).map (Row.toEntry u) ∧
      (stream s.table u 0).Perm (s.table.filter fun r => r.involves u) := by
  have hdistinct : DistinctAbove s.table u 0 := (streamUnique h hback).distinctAbove u 0
  obtain ⟨n, hn, -⟩ := Keyset.exists_page_eq_nil (c := 0)
    (stream_pairwise hdistinct) fun k => normalizeLimit_pos (limits k)
  have hempty : entries (responseAt s.table counters u limits n) = [] := by
    rw [entries_responseAt hdistinct]
    exact congrArg (List.map _) hn
  refine ⟨n, hempty, flatMap_entries hdistinct hempty, stream_perm.trans (.of_eq ?_)⟩
  refine List.filter_congr fun r hr => ?_
  rw [decide_eq_decide]
  exact and_iff_left_of_imp fun hu => (ptsFor_le h hback hr hu).1

end Run

end Counters

end TinyTelegram.MessageService
