import TinyTelegram.MessageService.Counters
import TinyTelegram.MessageService.Equiv.Service

/-!
# The second layer: the UNIQUE constraints

When a counter is rolled back its values are handed out again, and the two UNIQUE constraints are
to keep the second use of a value out of the table.  Each of them covers one role, while the stream
of a user (`Row.ptsFor`) mixes its two roles.

* `violated_of_same_role`: the constraints do refuse a second use in the same role.
* `not_streamUnique`: a value used once as a receiver's and once as a sender's PTS of the same user
  gets through.
* `streamUnique_iff`: this is the only way.  The streams stay free of duplicates throughout a run
  exactly when no accepted `INSERT` of the run is such a crossing.
-/

namespace TinyTelegram.MessageService

namespace Counters

/-- No two rows of the stream of one user have the same PTS in it. -/
def StreamUnique (t : Table) : Prop :=
  ∀ u, t.Pairwise fun r' r => r'.involves u → r.involves u → r'.ptsFor u ≠ r.ptsFor u

/-- The row `r` brings a PTS that `r'` holds for the same user in the other role: the receiver's PTS
of `r` is one its receiver has in `r'` as the sender of a message to someone else, or the sender's
PTS of a message to someone else is one its sender has in `r'` as the receiver. -/
def CrossRole (r' r : Row) : Prop :=
  (r'.senderId = r.receiverId ∧ r'.receiverId ≠ r.receiverId ∧ r'.senderPts = r.receiverPts) ∨
  (r'.receiverId = r.senderId ∧ r.receiverId ≠ r.senderId ∧ r'.receiverPts = r.senderPts)

instance (r' r : Row) : Decidable (CrossRole r' r) := inferInstanceAs (Decidable (_ ∨ _))

/-- An `INSERT` that reaches Postgres and that the constraints accept does not bring a PTS which a
committed row holds for the same user in the other role. -/
def CrossRoleFree (s : Service.State State) : CounterEvent → Prop
  | .insert id msgID createdAt _ out =>
    ∀ msg rp sp, s.calls id = .insert msg rp sp → (∀ err, out ≠ .failed err) →
      violatedConstraint s.table (PersistCall.row msg rp sp msgID createdAt) = none →
      ∀ r' ∈ s.table, ¬ CrossRole r' (PersistCall.row msg rp sp msgID createdAt)
  | _ => True

/-! ### What the constraints cover -/

/-- Two rows with the same PTS in the stream of `u`, in which `u` has the same role, are refused. -/
theorem violated_of_same_role {t : Table} {r' r : Row} {u : String} (hr' : r' ∈ t)
    (hu' : r'.involves u) (hu : r.involves u) (hrole : r'.receiverId = u ↔ r.receiverId = u)
    (hpts : r'.ptsFor u = r.ptsFor u) : violatedConstraint t r ≠ none := by
  intro hv
  obtain ⟨-, hslot⟩ := Service.violatedConstraint_eq_none_iff.mp hv
  unfold Row.ptsFor at hpts
  by_cases hrec : r.receiverId = u
  · have hrec' : r'.receiverId = u := hrole.mpr hrec
    rw [if_pos hrec, if_pos hrec'] at hpts
    apply hslot .receiver
    have heq : r'.slot .receiver = r.slot .receiver :=
      Prod.ext (hrec'.trans hrec.symm) hpts
    exact heq ▸ List.mem_map_of_mem hr'
  · have hrec' : r'.receiverId ≠ u := fun h => hrec (hrole.mp h)
    rw [if_neg hrec, if_neg hrec'] at hpts
    apply hslot .sender
    have hsend : r.senderId = u := hu.resolve_left hrec
    have hsend' : r'.senderId = u := hu'.resolve_left hrec'
    have heq : r'.slot .sender = r.slot .sender :=
      Prod.ext (hsend'.trans hsend.symm) hpts
    exact heq ▸ List.mem_map_of_mem hr'

/-- An accepted row clashes with a committed one in some stream exactly when it crosses its role. -/
theorem clash_iff_crossRole {t : Table} {r' r : Row} (hr' : r' ∈ t)
    (hv : violatedConstraint t r = none) :
    (∃ u, r'.involves u ∧ r.involves u ∧ r'.ptsFor u = r.ptsFor u) ↔ CrossRole r' r := by
  constructor
  · rintro ⟨u, hu', hu, hpts⟩
    by_cases hrole : r'.receiverId = u ↔ r.receiverId = u
    · exact absurd hv (violated_of_same_role hr' hu' hu hrole hpts)
    · unfold Row.ptsFor at hpts
      by_cases hrec : r.receiverId = u
      · -- `u` receives the new message and has sent the old one
        have hrec' : r'.receiverId ≠ u := fun h => hrole ⟨fun _ => hrec, fun _ => h⟩
        rw [if_pos hrec, if_neg hrec'] at hpts
        have hsend' : r'.senderId = u := hu'.resolve_left hrec'
        exact Or.inl ⟨hsend'.trans hrec.symm, fun h => hrec' (h.trans hrec), hpts⟩
      · -- `u` sends the new message and has received the old one
        have hrec' : r'.receiverId = u := by
          by_contra h
          exact hrole ⟨fun h' => absurd h' h, fun h' => absurd h' hrec⟩
        rw [if_neg hrec, if_pos hrec'] at hpts
        have hsend : r.senderId = u := hu.resolve_left hrec
        exact Or.inr ⟨hrec'.trans hsend.symm, fun h => hrec (h.trans hsend), hpts⟩
  · rintro (⟨hsend', hne, hpts⟩ | ⟨hrec', hne, hpts⟩)
    · refine ⟨r.receiverId, Or.inr hsend', Or.inl rfl, ?_⟩
      unfold Row.ptsFor
      rw [if_neg hne, if_pos rfl]
      exact hpts
    · refine ⟨r.senderId, Or.inl hrec', Or.inr rfl, ?_⟩
      unfold Row.ptsFor
      rw [if_pos hrec', if_neg hne]
      exact hpts

/-- An accepted row keeps the streams free of duplicates exactly when it crosses no committed row. -/
theorem streamUnique_concat {t : Table} {r : Row} (hv : violatedConstraint t r = none) :
    StreamUnique (t ++ [r]) ↔ StreamUnique t ∧ ∀ r' ∈ t, ¬ CrossRole r' r := by
  constructor
  · intro h
    refine ⟨fun u => (List.pairwise_append.mp (h u)).1, fun r' hr' hcross => ?_⟩
    obtain ⟨u, hu', hu, hpts⟩ := (clash_iff_crossRole hr' hv).mpr hcross
    exact (List.pairwise_append.mp (h u)).2.2 r' hr' r (List.mem_singleton_self r) hu' hu hpts
  · rintro ⟨ht, hcross⟩ u
    refine List.pairwise_append.mpr ⟨ht u, List.pairwise_singleton _ _, ?_⟩
    intro r' hr' x hx hu' hu hpts
    obtain rfl := List.mem_singleton.mp hx
    exact hcross r' hr' ((clash_iff_crossRole hr' hv).mp ⟨u, hu', hu, hpts⟩)

/-! ### Runs -/

/-- **One step** keeps the streams free of duplicates exactly when it is free of crossings. -/
theorem streamUnique_step {s t : Service.State State} {e : CounterEvent}
    (hs : StreamUnique s.table) (hstep : counterService.step s e = some t) :
    StreamUnique t.table ↔ CrossRoleFree s e := by
  cases Service.step_cases hstep with
  | @commit id msg rp sp msgID createdAt t' out reply hc hv hout =>
    rw [Service.State.setCall_table, Service.State.commit_table, streamUnique_concat hv]
    have hout' : ∀ err, out ≠ .failed err := by
      rintro err rfl
      rcases hout with ⟨h, -⟩ | ⟨err', h, -⟩ <;> cases h
    constructor
    · rintro ⟨-, hfree⟩ msg' rp' sp' hc' - - r' hr'
      rw [hc] at hc'
      cases hc'
      exact hfree r' hr'
    · intro hfree
      exact ⟨hs, hfree msg rp sp hc hout' hv⟩
  | @reject id msg rp sp msgID createdAt t' out err hc hout =>
    refine iff_of_true hs fun msg' rp' sp' hc' hout' hv => ?_
    rw [hc] at hc'
    cases hc'
    rcases hout with hfail | ⟨c, hc, -⟩
    · exact absurd hfail (hout' err)
    · rw [hv] at hc
      cases hc
  | _ => exact iff_of_true hs trivial

/-- **Layer 2, exactly.**  The streams of all users are free of duplicates in every state of a run,
with any interleaving and any rollbacks, if and only if every accepted `INSERT` of the run is free of
role crossings with the rows committed before it. -/
theorem streamUnique_iff (es : List CounterEvent) :
    counterService.Always (fun s => StreamUnique s.table) counterService.init es ↔
      counterService.Meets CrossRoleFree counterService.init es := by
  apply Lts.System.always_iff_meets
  · exact fun u => List.Pairwise.nil
  · intro s e t _ hs hstep
    exact streamUnique_step hs hstep

/-- One call of `PersistMessage` from its invocation to its `INSERT`. -/
def wholeCall (id : CallId) (msg : ChatMessage) (msgID : String) : List CounterEvent :=
  [.invoke id msg, .redis id (.incr .executed), .redis id (.incr .executed),
    .redis id (.wait (.ok 1)), .insert id msgID 0 0 .executed]

/-- Bob writes to Alice, a failover loses Alice's increment, and Alice writes to Bob. -/
def crossingRun : List CounterEvent :=
  wholeCall 0 ⟨"bob", "alice", "hi", 0⟩ "a" ++ [.env (.rollback (ptsKey "alice") 0)] ++
    wholeCall 1 ⟨"alice", "bob", "hello", 0⟩ "b"

/-- **Both messages are in Alice's stream with PTS 1**: as the receiver's in the first row and as the
sender's in the second, which no constraint compares. -/
theorem not_streamUnique : ∃ s,
    counterService.run counterService.init crossingRun = some s ∧ ¬ StreamUnique s.table := by
  refine ⟨_, rfl, fun h => ?_⟩
  have halice := List.rel_of_pairwise_cons (h "alice") (List.mem_singleton_self _)
  exact halice (Or.inl rfl) (Or.inr rfl) rfl

end Counters

end TinyTelegram.MessageService
