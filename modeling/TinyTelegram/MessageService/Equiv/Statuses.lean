import TinyTelegram.MessageService.Counters
import TinyTelegram.MessageService.Equiv.Retry
import TinyTelegram.MessageService.Equiv.Service

/-!
# What an error tells about the table

`PersistMessage` answers `Unavailable` "so the client retries".  In every run, over any Redis, an `Unavailable`
call has left no row, and if it reports a violation of a constraint then a row is in the table that its own
would clash with; the error of any other `INSERT` is `Internal`, and leaves open whether there is a row
(`error_tells`).  So a message that is sent again after each `Unavailable` is stored at most once, and exactly
as the last answer has it if that is no error (`stored_once`).

An `INSERT` is judged by the text of its error.  So this takes it that no error but a violation has the text of
one (`PlainError`).
-/

namespace TinyTelegram.MessageService

namespace Service

open PersistCall

variable {ρ χ ε : Type} {R : Redis ρ χ ε} {s t : State ρ} {e : Event χ ε} {id : CallId}

/-- An `INSERT` that fails without a violation, or whose reply is lost, does not have the text of one. -/
def PlainError : Event χ ε → Prop
  | .insert _ _ _ _ (.failed err) | .insert _ _ _ _ (.lost err) => isUniqueViolation (some err) = false
  | _ => True

instance : DecidablePred (PlainError (χ := χ) (ε := ε))
  | .insert _ _ _ _ (.failed err) => inferInstanceAs (Decidable (isUniqueViolation (some err) = false))
  | .insert _ _ _ _ (.lost err) => inferInstanceAs (Decidable (isUniqueViolation (some err) = false))
  | .insert _ _ _ _ .executed => isTrue trivial
  | .invoke .. | .redis .. | .env .. | .query .. | .get .. => isTrue trivial

/-- The violation that `PersistMessage` reports. -/
def violation : Status := ⟨.unavailable, "PTS uniqueness violation, retry"⟩

/-- What an error tells: that nothing was allocated, and there is no row; that the row would clash with one that
is there, and there is none; or that the `INSERT` has failed in another way. -/
inductive Tells (s : State ρ) (id : CallId) : PersistCall → Prop where
  | notDurable {msg err} (hnone : ∀ x ∈ s.committed, x.call ≠ id) :
      Tells s id (.returned msg none (.error (notDurable err)))
  | violation {msg rp sp} (hnone : ∀ x ∈ s.committed, x.call ≠ id) {msgID createdAt}
      (hclash : (violatedConstraint s.table (row msg rp sp msgID createdAt)).isSome) :
      Tells s id (.returned msg (some (rp, sp)) (.error violation))
  | internal {msg rp sp err} :
      Tells s id (.returned msg (some (rp, sp)) (.error ⟨.internal, "insert message: " ++ err⟩))

theorem violated_mono {tbl rows : Table} {r : Row} (h : (violatedConstraint tbl r).isSome) :
    (violatedConstraint (tbl ++ rows) r).isSome := by
  by_contra hnone
  have hfree := violatedConstraint_eq_none_iff.mp (Option.not_isSome_iff_eq_none.mp hnone)
  rw [List.map_append] at hfree
  have hclear : violatedConstraint tbl r = none := by
    refine violatedConstraint_eq_none_iff.mpr ⟨fun hmem => hfree.1 (List.mem_append_left _ hmem), ?_⟩
    intro role hmem
    have hrole := hfree.2 role
    rw [List.map_append] at hrole
    exact hrole (List.mem_append_left _ hmem)
  rw [hclear] at h
  cases h

/-- Rows of other calls change nothing about it. -/
theorem Tells.mono {c : PersistCall} {rows : List Committed} (h : Tells s id c)
    (hcommitted : t.committed = s.committed ++ rows) (hrows : ∀ x ∈ rows, x.call ≠ id) : Tells t id c := by
  have hnone : (∀ x ∈ s.committed, x.call ≠ id) → ∀ x ∈ t.committed, x.call ≠ id := by
    intro hold x hx
    rw [hcommitted] at hx
    rcases List.mem_append.mp hx with hx | hx
    · exact hold x hx
    · exact hrows x hx
  have htable : t.table = s.table ++ rows.map Committed.row := by
    unfold State.table
    rw [hcommitted, List.map_append]
  cases h with
  | notDurable hold => exact .notDurable (hnone hold)
  | violation hold hclash => exact .violation (hnone hold) (htable ▸ violated_mono hclash)
  | internal => exact .internal

theorem afterInsert_of_plain {msg : ChatMessage} {rp sp now : Int} {msgID err : String}
    (h : isUniqueViolation (some err) = false) : afterInsert msg rp sp msgID now (.error err) =
      .returned msg (some (rp, sp)) (.error ⟨.internal, "insert message: " ++ err⟩) := by
  rw [afterInsert, h]
  rfl

theorem afterInsert_of_violation {msg : ChatMessage} {rp sp now : Int} {msgID err : String}
    (h : isUniqueViolation (some err) = true) : afterInsert msg rp sp msgID now (.error err) =
      .returned msg (some (rp, sp)) (.error violation) := by
  rw [afterInsert, h]
  rfl

/-- A call that has not returned has no row. -/
theorem Recorded.call_ne (h : Recorded s) (hres : (s.calls id).result? = none) :
    ∀ x ∈ s.committed, x.call ≠ id := by
  rintro x hx rfl
  obtain ⟨msg, rp, sp, res, msgID, createdAt, hcall, -⟩ := h.returned x hx
  rw [hcall] at hres
  cases hres

/-- No call has two rows. -/
theorem Recorded.length_filter_call_le (h : Recorded s) (id : CallId) :
    (s.committed.filter fun x => x.call = id).length ≤ 1 := by
  have hcount := List.nodup_iff_count_le_one.mp h.nodup id
  rw [List.count, List.countP_map, List.countP_eq_length_filter] at hcount
  exact hcount

/-- **One step.** -/
theorem tells_step (hrec : Recorded s) (hplain : PlainError e) (hstep : (system R).step s e = some t)
    (htells : ∀ id, (s.calls id).Failed → Tells s id (s.calls id)) (id : CallId)
    (hfailed : (t.calls id).Failed) : Tells t id (t.calls id) := by
  have hsame : t.calls id = s.calls id → t.committed = s.committed → Tells t id (t.calls id) := by
    intro hcalls hcommitted
    rw [hcalls] at hfailed ⊢
    have hnew : t.committed = s.committed ++ [] := by
      rw [List.append_nil, hcommitted]
    exact (htells id hfailed).mono hnew fun x hx => absurd hx List.not_mem_nil
  -- the call `j`, which has no row, goes on to `c`
  have hmove : ∀ {j c}, t.calls = Function.update s.calls j c → t.committed = s.committed →
      (s.calls j).result? = none → (c.Failed → (∀ x ∈ t.committed, x.call ≠ j) → Tells t j c) →
      Tells t id (t.calls id) := by
    intro j c hcalls hcommitted hres hc
    by_cases hid : id = j
    · subst hid
      rw [hcalls, Function.update_self] at hfailed ⊢
      refine hc hfailed ?_
      rw [hcommitted]
      exact hrec.call_ne hres
    · refine hsame ?_ hcommitted
      rw [hcalls, Function.update_of_ne hid]
  cases step_cases hstep with
  | invoke hc => exact hmove rfl rfl (by rw [hc]; rfl) False.elim
  | @incrReceiver j msg ch x reply hc hR =>
    refine hmove rfl rfl (by rw [hc]; rfl) fun hfailed hnone => ?_
    cases reply with
    | error err => exact .notDurable hnone
    | ok rp => exact hfailed.elim
  | incrReceiverAgain hc hR => exact hmove rfl rfl (by rw [hc]; rfl) False.elim
  | @incrSender j msg rp ch x reply hc hR =>
    refine hmove rfl rfl (by rw [hc]; rfl) fun hfailed hnone => ?_
    cases reply with
    | error err => exact .notDurable hnone
    | ok sp => exact hfailed.elim
  | incrSenderAgain hc hR => exact hmove rfl rfl (by rw [hc]; rfl) False.elim
  | @wait j msg rp sp ch x reply hc hR =>
    refine hmove rfl rfl (by rw [hc]; rfl) fun hfailed hnone => ?_
    cases reply with
    | error err => exact .notDurable hnone
    | ok acked =>
      by_cases hacked : acked < 1
      · have hstop : afterWait msg rp sp (.ok acked) =
            .returned msg none (.error (notDurable errPTSNotDurable)) := if_pos hacked
        rw [hstop]
        exact .notDurable hnone
      · have hgo : afterWait msg rp sp (.ok acked) = .insert msg rp sp := if_neg hacked
        rw [hgo] at hfailed
        exact hfailed.elim
  | @commit j msg rp sp msgID createdAt now out reply hc hv hout =>
    by_cases hid : id = j
    · subst hid
      rw [State.setCall_calls, Function.update_self] at hfailed ⊢
      rcases hout with ⟨-, rfl⟩ | ⟨err, rfl, rfl⟩
      · exact hfailed.elim
      · rw [afterInsert_of_plain hplain]
        exact .internal
    · rw [State.setCall_calls, Function.update_of_ne hid, State.commit_calls] at hfailed ⊢
      refine (htells id hfailed).mono (State.commit_committed ..) fun x hx => ?_
      rw [List.mem_singleton.mp hx]
      exact Ne.symm hid
  | @reject j msg rp sp msgID createdAt now out err hc hout =>
    refine hmove rfl rfl (by rw [hc]; rfl) fun _ hnone => ?_
    rcases hout with rfl | ⟨constraint, hv, ⟨rfl, rfl⟩ | rfl⟩
    · rw [afterInsert_of_plain hplain]
      exact .internal
    · rw [afterInsert_of_violation (isUniqueViolation_uniqueViolationText constraint)]
      have hclash : (violatedConstraint s.table (row msg rp sp msgID createdAt)).isSome := by
        rw [hv]
        rfl
      exact .violation hnone hclash
    · rw [afterInsert_of_plain hplain]
      exact .internal
  | env hR => exact hsame rfl rfl
  | query hd => exact hsame rfl rfl
  | get hd => exact hsame rfl rfl

/-! ### Runs -/

section Runs

variable {es : List (Event χ ε)} (h : (system R).run (system R).init es = some s)
  (hplain : (system R).Meets (fun _ => PlainError) (system R).init es)

include h hplain

theorem told : ∀ id, (s.calls id).Failed → Tells s id (s.calls id) := by
  refine Lts.System.invariant_of_meets_with (J := Recorded)
    (I := fun s => ∀ id, (s.calls id).Failed → Tells s id (s.calls id)) ?_ ?_ ?_ h hplain
  · exact fun hrun _ => recorded ⟨_, hrun⟩
  · exact fun id hfailed => hfailed.elim
  · exact fun s e t hrec htells hplain hstep => tells_step hrec hplain hstep htells

/-- **What an error tells.** -/
theorem error_tells {msg : ChatMessage} {alloc : Option (Int × Int)} {st : Status}
    (hret : s.calls id = .returned msg alloc (.error st)) :
    (st.code = .unavailable ∧ (∀ x ∈ s.committed, x.call ≠ id) ∧
      (st = violation → ∃ rp sp msgID createdAt, alloc = some (rp, sp) ∧
        (violatedConstraint s.table (row msg rp sp msgID createdAt)).isSome)) ∨
    (st.code = .internal ∧ ∃ err, st.message = "insert message: " ++ err) := by
  have htells := told h hplain id (by rw [hret]; trivial)
  rw [hret] at htells
  cases htells with
  | @notDurable _ err hnone =>
    refine .inl ⟨rfl, hnone, fun heq => ?_⟩
    have hmessage : ("PTS not durable: " ++ err).toList = "PTS uniqueness violation, retry".toList :=
      congrArg (fun st => st.message.toList) heq
    rw [String.toList_append] at hmessage
    simp at hmessage
  | violation hnone hclash => exact .inl ⟨rfl, hnone, fun _ => ⟨_, _, _, _, rfl, hclash⟩⟩
  | internal => exact .inr ⟨rfl, _, rfl⟩

/-- **A message that is sent again after every `Unavailable` is stored at most once**, and if the last call
returns it, as it has been returned. -/
theorem stored_once {ids : List CallId} {last : CallId}
    (hretried : ∀ id ∈ ids, ∃ msg alloc text,
      s.calls id = .returned msg alloc (.error ⟨.unavailable, text⟩)) :
    (s.committed.filter fun x => x.call ∈ ids ++ [last]).length ≤ 1 ∧
    ∀ msg alloc m, s.calls last = .returned msg alloc (.ok m) → ∃ createdAt,
      s.committed.filter (fun x => x.call ∈ ids ++ [last]) =
        [⟨last, row msg m.receiverPts m.senderPts m.id createdAt⟩] := by
  have hrec : Recorded s := recorded ⟨es, h⟩
  -- the calls before the last one have no row
  have hlast : ∀ x ∈ s.committed, x.call ∈ ids ++ [last] ↔ x.call = last := by
    intro x hx
    rw [List.mem_append, List.mem_singleton]
    refine or_iff_right fun hid => ?_
    obtain ⟨msg, alloc, text, hret⟩ := hretried x.call hid
    rcases error_tells h hplain hret with ⟨-, hnone, -⟩ | ⟨hcode, -⟩
    · exact hnone x hx rfl
    · cases hcode
  have hfilter : (s.committed.filter fun x => x.call ∈ ids ++ [last]) =
      s.committed.filter fun x => x.call = last :=
    List.filter_congr fun x hx => decide_eq_decide.mpr (hlast x hx)
  have hle : (s.committed.filter fun x => x.call = last).length ≤ 1 := hrec.length_filter_call_le last
  rw [hfilter]
  refine ⟨hle, fun msg alloc m hret => ?_⟩
  obtain ⟨-, -, createdAt, hmem⟩ := hrec.ok hret
  have hfound : ⟨last, row msg m.receiverPts m.senderPts m.id createdAt⟩ ∈
      s.committed.filter fun x => x.call = last := List.mem_filter.mpr ⟨hmem, decide_eq_true rfl⟩
  obtain ⟨x, hx⟩ := List.length_eq_one_iff.mp (hle.antisymm (List.length_pos_of_mem hfound))
  rw [hx, List.mem_singleton] at hfound
  exact ⟨createdAt, by rw [hx, hfound]⟩

end Runs

/-- No replica acknowledges Alice's message in time, and she sends it again. -/
def againRun : List (Event Counters.Choice Counters.Event) :=
  [.invoke 0 ⟨"alice", "bob", "hi", 5⟩, .redis 0 (.incr .executed), .redis 0 (.incr .executed),
    .redis 0 (.wait (.ok 0)),
    .invoke 1 ⟨"alice", "bob", "hi", 6⟩, .redis 1 (.incr .executed), .redis 1 (.incr .executed),
    .redis 1 (.wait (.ok 1)), .insert 1 "m" 7 8 .executed]

/-- It is there once, with the PTS 2. -/
theorem stored_once_againRun : ∃ s, (system Counters.redis).run (system Counters.redis).init againRun = some s ∧
    ∃ createdAt, s.committed.filter (fun x => x.call ∈ [0] ++ [1]) =
      [⟨1, row ⟨"alice", "bob", "hi", 6⟩ 2 2 "m" createdAt⟩] := by
  obtain ⟨s, hs, hfirst, hlast⟩ : ∃ s,
      (system Counters.redis).run (system Counters.redis).init againRun = some s ∧
      s.calls 0 = .returned ⟨"alice", "bob", "hi", 5⟩ none (.error (notDurable errPTSNotDurable)) ∧
      s.calls 1 = .returned ⟨"alice", "bob", "hi", 6⟩ (some (2, 2))
        (.ok ⟨"m", some ⟨"alice", "bob", "hi", 6⟩, 2, 2, 8⟩) := ⟨_, rfl, rfl, rfl⟩
  have hplain : ∀ e ∈ againRun, PlainError e := by decide
  have hretried : ∀ id ∈ [0], ∃ msg alloc text,
      s.calls id = .returned msg alloc (.error ⟨.unavailable, text⟩) := by
    intro id hid
    rw [List.mem_singleton.mp hid]
    exact ⟨_, _, _, hfirst⟩
  exact ⟨s, hs, (stored_once hs (.of_forall fun _ e he => hplain e he) hretried).2 _ _ _ hlast⟩

end Service

end TinyTelegram.MessageService
