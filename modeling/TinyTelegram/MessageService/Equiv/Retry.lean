import Mathlib.Data.Int.Order.Basic
import Mathlib.Order.Basic
import TinyTelegram.MessageService.Equiv.Service
import TinyTelegram.MessageService.Retry

/-!
# Trying again ends

Each attempt raises the counter of the receiver and that of the sender by one at least
(`attempt_cases`), so it brings PTS that no row holds as soon as both counters have passed all rows
of their user and role (`accepted_of_maxPts_lt`).  Until then a refused attempt leaves the table as
it is.  So no attempt is refused after as many as the counters were `behind` (`lt_behind_of_refused`),
and `retry_bounded` says what is returned in the end.
-/

namespace TinyTelegram.MessageService

open PersistCall (row)

/-! ### The texts of the constraints -/

theorem contains_iff {s substr : String} :
    contains s substr = true ↔ substr.toList <:+: s.toList := by
  rw [contains, List.any_eq_true, List.infix_iff_prefix_suffix]
  refine exists_congr fun l => ?_
  rw [List.mem_tails, List.isPrefixOf_iff_prefix]
  exact and_comm

theorem contains_append {s substr : String} (h : contains s substr = true) (s' : String) :
    contains (s ++ s') substr = true := by
  rw [contains_iff, String.toList_append]
  exact (contains_iff.mp h).trans (List.prefix_append ..).isInfix

/-- **The driver's error for a constraint is recognised**, whatever the constraint. -/
theorem isUniqueViolation_uniqueViolationText (constraint : String) :
    isUniqueViolation (some (uniqueViolationText constraint)) = true := by
  have hcontains : contains (uniqueViolationText constraint)
      "duplicate key value violates unique constraint" = true := by
    refine contains_append (contains_append ?_ constraint) "\""
    decide +kernel
  rw [isUniqueViolation, hcontains, Bool.true_or, Bool.true_or]

/-! ### One attempt -/

/-- The error of an attempt that a constraint of the table has refused. -/
def refused : Status := ⟨.unavailable, "PTS uniqueness violation, retry"⟩

/-- The user of a message in a role. -/
def participant (msg : ChatMessage) : Role → String
  | .receiver => msg.receiverId
  | .sender => msg.senderId

section Attempt

variable (msg : ChatMessage) (d : Draw) (s : Stores)

/-- The counters after the receiver's `INCR`. -/
def afterReceiver : String → Int :=
  Function.update s.value (ptsKey msg.receiverId) (s.value (ptsKey msg.receiverId) + 1)

/-- The counters after both. -/
def afterSender : String → Int :=
  Function.update (afterReceiver msg s) (ptsKey msg.senderId)
    (afterReceiver msg s (ptsKey msg.senderId) + 1)

/-- The row of the attempt. -/
def rowOf : Row :=
  row msg (afterReceiver msg s (ptsKey msg.receiverId)) (afterSender msg s (ptsKey msg.senderId))
    d.msgID d.createdAt

theorem le_afterReceiver (key : String) : s.value key ≤ afterReceiver msg s key := by
  rw [afterReceiver, Function.update_apply]
  split_ifs with hkey
  · rw [hkey]
    omega
  · exact le_rfl

theorem le_afterSender (key : String) : afterReceiver msg s key ≤ afterSender msg s key := by
  rw [afterSender, Function.update_apply]
  split_ifs with hkey
  · rw [hkey]
    omega
  · exact le_rfl

theorem rowOf_user (role : Role) : ((rowOf msg d s).slot role).1 = participant msg role := by
  cases role <;> rfl

/-- Both PTS of an attempt are greater than the counters before it. -/
theorem lt_rowOf (role : Role) :
    s.value (ptsKey (participant msg role)) < ((rowOf msg d s).slot role).2 := by
  cases role with
  | receiver =>
    show s.value (ptsKey msg.receiverId) < afterReceiver msg s (ptsKey msg.receiverId)
    rw [afterReceiver, Function.update_self]
    omega
  | sender =>
    show s.value (ptsKey msg.senderId) < afterSender msg s (ptsKey msg.senderId)
    have hle := le_afterReceiver msg s (ptsKey msg.senderId)
    rw [afterSender, Function.update_self]
    omega

/-- The counters after an attempt have reached its PTS. -/
theorem rowOf_le (role : Role) :
    ((rowOf msg d s).slot role).2 ≤ afterSender msg s (ptsKey (participant msg role)) := by
  cases role with
  | receiver => exact le_afterSender msg s (ptsKey msg.receiverId)
  | sender => exact le_rfl

/-- Both PTS are allocated, if a replica has them. -/
theorem exec_allocatePTSWithWait (hacked : 1 ≤ d.acked) :
    (allocatePTSWithWait msg.receiverId msg.senderId ptsWaitTimeoutMs).exec (answer d) s =
      (.ok (afterReceiver msg s (ptsKey msg.receiverId), afterSender msg s (ptsKey msg.senderId)),
        { s with value := afterSender msg s }) := by
  have hwait : ¬ d.acked < 1 := hacked.not_gt
  have hreceiver : afterReceiver msg s (ptsKey msg.receiverId) =
      s.value (ptsKey msg.receiverId) + 1 := Function.update_self ..
  have hsender : afterSender msg s (ptsKey msg.senderId) =
      afterReceiver msg s (ptsKey msg.senderId) + 1 := Function.update_self ..
  rw [hsender, hreceiver]
  simp only [allocatePTSWithWait, incr, wait, Prog.lift, Prog.bind_eq, Prog.call_bind, Prog.pure_bind,
    Prog.pure_eq, Prog.exec, answer, if_neg hwait]
  rfl

/-- **One attempt** is refused by a constraint, which leaves the table as it is, or adds its row. -/
theorem attempt_cases (hacked : 1 ≤ d.acked) :
    (∃ c, violatedConstraint s.table (rowOf msg d s) = some c ∧
      attempt msg d s = (.error refused, { s with value := afterSender msg s })) ∨
    (violatedConstraint s.table (rowOf msg d s) = none ∧ ∃ m, m.message = some msg ∧
      rowOf msg d s = row msg m.receiverPts m.senderPts m.id d.createdAt ∧
      attempt msg d s =
        (.ok m, { table := s.table ++ [rowOf msg d s], value := afterSender msg s })) := by
  cases hv : violatedConstraint s.table (rowOf msg d s) with
  | some c =>
    refine Or.inl ⟨c, rfl, ?_⟩
    have hv' : violatedConstraint s.table ⟨d.msgID, msg.senderId, msg.receiverId, msg.content,
        afterSender msg s (ptsKey msg.senderId), afterReceiver msg s (ptsKey msg.receiverId),
        d.createdAt⟩ = some c := hv
    rw [attempt, persistMessage, Prog.bind_eq, Prog.exec_bind, exec_allocatePTSWithWait msg d s hacked]
    simp only [newString, insert, Prog.lift, Prog.bind_eq, Prog.call_bind, Prog.pure_bind, Prog.pure_eq,
      Prog.exec, answer, hv', isUniqueViolation_uniqueViolationText, if_true, refused]
  | none =>
    refine Or.inr ⟨rfl, ⟨d.msgID, some msg, afterReceiver msg s (ptsKey msg.receiverId),
      afterSender msg s (ptsKey msg.senderId), d.now⟩, rfl, rfl, ?_⟩
    have hv' : violatedConstraint s.table ⟨d.msgID, msg.senderId, msg.receiverId, msg.content,
        afterSender msg s (ptsKey msg.senderId), afterReceiver msg s (ptsKey msg.receiverId),
        d.createdAt⟩ = none := hv
    rw [attempt, persistMessage, Prog.bind_eq, Prog.exec_bind, exec_allocatePTSWithWait msg d s hacked]
    simp only [newString, now, insert, Prog.lift, Prog.bind_eq, Prog.call_bind, Prog.pure_bind,
      Prog.pure_eq, Prog.exec, answer, hv']
    rfl

end Attempt

/-! ### All rows are passed -/

theorem slot_le_maxPts {t : Table} {r : Row} (hr : r ∈ t) (role : Role) :
    (r.slot role).2 ≤ maxPts t role (r.slot role).1 := by
  have hmem : (r.slot role).2 ∈ (t.filter fun r' => (r'.slot role).1 = (r.slot role).1).map
      fun r' => (r'.slot role).2 :=
    List.mem_map_of_mem (f := fun r' : Row => (r'.slot role).2)
      (List.mem_filter.mpr ⟨hr, decide_eq_true rfl⟩)
  rw [maxPts]
  cases hmax : ((t.filter fun r' => (r'.slot role).1 = (r.slot role).1).map
      fun r' => (r'.slot role).2).max? with
  | none =>
    rw [List.max?_eq_none_iff.mp hmax] at hmem
    exact absurd hmem List.not_mem_nil
  | some p => exact (List.max?_eq_some_iff.mp hmax).2 _ hmem

/-- A row with a new id that is past all rows of its users in its roles violates nothing. -/
theorem accepted_of_maxPts_lt {t : Table} {r : Row} (hid : r.id ∉ t.map Row.id)
    (hlt : ∀ role, maxPts t role (r.slot role).1 < (r.slot role).2) :
    violatedConstraint t r = none := by
  refine Service.violatedConstraint_eq_none_iff.mpr ⟨hid, fun role hmem => ?_⟩
  obtain ⟨r', hr', hslot⟩ := List.mem_map.mp hmem
  have hle := slot_le_maxPts hr' role
  rw [hslot] at hle
  exact (hlt role).not_ge hle

/-- How far the counters are behind the rows of the receiver and of the sender, the farther of the
two. -/
def behind (msg : ChatMessage) (s : Stores) : Int :=
  max 0 (max (maxPts s.table .receiver msg.receiverId - s.value (ptsKey msg.receiverId))
    (maxPts s.table .sender msg.senderId - s.value (ptsKey msg.senderId)))

theorem behind_nonneg (msg : ChatMessage) (s : Stores) : 0 ≤ behind msg s := le_max_left ..

theorem le_behind (msg : ChatMessage) (s : Stores) (role : Role) :
    maxPts s.table role (participant msg role) - s.value (ptsKey (participant msg role)) ≤
      behind msg s := by
  cases role with
  | receiver => exact (le_max_left ..).trans (le_max_right ..)
  | sender => exact (le_max_right ..).trans (le_max_right ..)

/-! ### All attempts -/

/-- The `k`-th attempt is refused, and the table is still `s.table` after it. -/
def Refused (msg : ChatMessage) (draws : ℕ → Draw) (s : Stores) (k : ℕ) : Prop :=
  attemptAt msg draws s k = .error refused ∧ (storesAt msg draws s (k + 1)).table = s.table

section Attempts

variable {msg : ChatMessage} {draws : ℕ → Draw} {s : Stores} (hacked : ∀ k, 1 ≤ (draws k).acked)

include hacked

/-- While the attempts are refused, the table stays and the counters grow with each attempt. -/
theorem storesAt_of_refused (role : Role) :
    ∀ {k : ℕ}, (∀ j < k, Refused msg draws s j) → (storesAt msg draws s k).table = s.table ∧
      s.value (ptsKey (participant msg role)) + k ≤
        (storesAt msg draws s k).value (ptsKey (participant msg role)) := by
  intro k hrefused
  induction k with
  | zero => exact ⟨rfl, by simp [storesAt]⟩
  | succ k ih =>
    obtain ⟨-, hle⟩ := ih fun j hj => hrefused j (by omega)
    refine ⟨(hrefused k (by omega)).2, ?_⟩
    have hvalue : (storesAt msg draws s (k + 1)).value =
        afterSender msg (storesAt msg draws s k) := by
      rw [storesAt]
      rcases attempt_cases msg (draws k) (storesAt msg draws s k) (hacked k) with
        ⟨c, -, heq⟩ | ⟨-, m, -, -, heq⟩
      · rw [heq]
      · rw [heq]
    have hlt := lt_rowOf msg (draws k) (storesAt msg draws s k) role
    have hreached := rowOf_le msg (draws k) (storesAt msg draws s k) role
    rw [hvalue]
    push_cast
    omega

/-- An attempt after refused ones is refused, or it returns the message and adds its row. -/
theorem refused_or_ok {k : ℕ} (hrefused : ∀ j < k, Refused msg draws s j) :
    Refused msg draws s k ∨ ∃ m, m.message = some msg ∧ attemptAt msg draws s k = .ok m ∧
      (storesAt msg draws s (k + 1)).table =
        s.table ++ [row msg m.receiverPts m.senderPts m.id (draws k).createdAt] := by
  have htable := (storesAt_of_refused hacked .receiver hrefused).1
  rw [attemptAt]
  rcases attempt_cases msg (draws k) (storesAt msg draws s k) (hacked k) with
    ⟨c, -, heq⟩ | ⟨-, m, hm, hrow, heq⟩
  · refine Or.inl ⟨?_, ?_⟩
    · rw [attemptAt, heq]
    · rw [storesAt, heq]
      exact htable
  · refine Or.inr ⟨m, hm, by rw [heq], ?_⟩
    rw [storesAt, heq, ← hrow, ← htable]

/-- When as many attempts have been refused as the counters are behind, the next row has passed all
rows. -/
theorem accepted_of_behind_le (hfresh : ∀ k, (draws k).msgID ∉ s.table.map Row.id) {k : ℕ}
    (hrefused : ∀ j < k, Refused msg draws s j) (hle : behind msg s ≤ k) :
    violatedConstraint (storesAt msg draws s k).table
      (rowOf msg (draws k) (storesAt msg draws s k)) = none := by
  rw [(storesAt_of_refused hacked .receiver hrefused).1]
  refine accepted_of_maxPts_lt (hfresh k) fun role => ?_
  have hgrown := (storesAt_of_refused hacked role hrefused).2
  have hnext := lt_rowOf msg (draws k) (storesAt msg draws s k) role
  have hpassed := (le_behind msg s role).trans hle
  rw [rowOf_user]
  omega

/-- So no attempt is refused from there on. -/
theorem lt_behind_of_refused (hfresh : ∀ k, (draws k).msgID ∉ s.table.map Row.id) {k : ℕ}
    (hrefused : ∀ j ≤ k, Refused msg draws s j) : (k : Int) < behind msg s := by
  by_contra hle
  have hnone := accepted_of_behind_le hacked hfresh (fun j hj => hrefused j hj.le) (not_lt.mp hle)
  have herror := (hrefused k le_rfl).1
  rw [attemptAt] at herror
  rcases attempt_cases msg (draws k) (storesAt msg draws s k) (hacked k) with
    ⟨c, hv, -⟩ | ⟨-, m, -, -, heq⟩
  · rw [hnone] at hv
    cases hv
  · rw [heq] at herror
    cases herror

/-- Some attempt is not refused. -/
theorem exists_not_refused (hfresh : ∀ k, (draws k).msgID ∉ s.table.map Row.id) :
    ∃ n, ¬ Refused msg draws s n := by
  by_contra hall
  rw [not_exists] at hall
  simp only [not_not] at hall
  have hlt := lt_behind_of_refused hacked hfresh fun j (_ : j ≤ (behind msg s).toNat) => hall j
  omega

end Attempts

/-- **Recovery after a rollback is bounded.**  A message that is sent again and again, with fresh ids
and nobody else at work, is refused with `Unavailable` at most as often as the counter of its
receiver is behind the rows of its receiver, or that of its sender behind those of its sender, and
the table stays as it is meanwhile.  The next attempt returns the message, and adds the row of the message
it returns and no other. -/
theorem retry_bounded (t : Table) (value : String → Int) (msg : ChatMessage) (draws : ℕ → Draw)
    (hacked : ∀ k, 1 ≤ (draws k).acked) (hfresh : ∀ k, (draws k).msgID ∉ t.map Row.id) :
    ∃ n : ℕ,
      (n : Int) ≤ max 0 (max (maxPts t .receiver msg.receiverId - value (ptsKey msg.receiverId))
        (maxPts t .sender msg.senderId - value (ptsKey msg.senderId))) ∧
      (∀ k < n, attemptAt msg draws ⟨t, value⟩ k =
          .error ⟨.unavailable, "PTS uniqueness violation, retry"⟩ ∧
        (storesAt msg draws ⟨t, value⟩ (k + 1)).table = t) ∧
      ∃ m, m.message = some msg ∧ attemptAt msg draws ⟨t, value⟩ n = .ok m ∧
        (storesAt msg draws ⟨t, value⟩ (n + 1)).table =
          t ++ [row msg m.receiverPts m.senderPts m.id (draws n).createdAt] := by
  classical
  -- the first attempt that is not refused
  have hexists : ∃ n, ¬ Refused msg draws ⟨t, value⟩ n := exists_not_refused hacked hfresh
  have hfirst : ∀ k < Nat.find hexists, Refused msg draws ⟨t, value⟩ k :=
    fun k hk => not_not.mp (Nat.find_min hexists hk)
  refine ⟨Nat.find hexists, ?_, hfirst, ?_⟩
  · show (Nat.find hexists : Int) ≤ behind msg ⟨t, value⟩
    cases hn : Nat.find hexists with
    | zero => exact behind_nonneg msg ⟨t, value⟩
    | succ k =>
      have hlt := lt_behind_of_refused hacked hfresh fun j (hj : j ≤ k) => hfirst j (by omega)
      push_cast
      omega
  · exact (refused_or_ok hacked hfirst).resolve_left (Nat.find_spec hexists)

/-- Alice has written to Bob once. -/
def writtenOnce : Table := [⟨"a", "alice", "bob", "hello", 1, 1, 0⟩]

/-- Bob's counter has lost the increment of that message, and Alice's has not. -/
def rolledBack : String → Int := Function.update (fun _ => 0) (ptsKey "alice") 1

/-- Alice's next message is refused once at most. -/
theorem retry_bounded_writtenOnce : ∃ n : ℕ, (n : Int) ≤ 1 ∧ ∃ m,
    attemptAt ⟨"alice", "bob", "again", 0⟩ (fun _ => ⟨"b", 1, 0, 0⟩) ⟨writtenOnce, rolledBack⟩ n =
      .ok m := by
  obtain ⟨n, hn, -, m, -, hm, -⟩ := retry_bounded writtenOnce rolledBack ⟨"alice", "bob", "again", 0⟩
    (fun _ => ⟨"b", 1, 0, 0⟩) (fun _ => le_rfl) (fun _ => by decide)
  exact ⟨n, hn.trans (by decide), m, hm⟩

end TinyTelegram.MessageService
