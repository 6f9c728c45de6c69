import TinyTelegram.Gateway.Equiv.Acks
import TinyTelegram.Gateway.Equiv.Incoming
import TinyTelegram.Scripts.ConsistencyTest

/-!
# What the consistency test reports

In a run without rollbacks the acknowledgements of a connection are in order, no PTS is on two of its frames,
and the messages are in the order in which they have come through its channel.  The script counts something
else.

* It counts no violation of the order exactly if every frame has a higher PTS than the messages before it
  (`violations_iff`).  So an acknowledgement that a message has overtaken counts, although both PTS are right.
* A connection is consistent for it exactly if its acknowledgements count from 1 up to the first message, from
  there messages without a gap are followed by acknowledgements without a gap, and no message on it has been
  acknowledged on it (`consistent_iff`).  So nobody is consistent who gets a message, then sends one, and then
  gets another.
-/

namespace TinyTelegram.Scripts

namespace ConsistencyTest

open Gateway (Frame)

/-- The PTS of a frame in the stream of the user it is for. -/
def pts : Frame → Int
  | .ack senderPts _ => senderPts
  | .message m => m.receiverPts

/-- The message it names. -/
def messageId : Frame → String
  | .ack _ id => id
  | .message m => m.id

/-- What is known of the frames of a connection of `userId`. -/
structure Genuine (userId : String) (frames : List Frame) : Prop where
  pos : ∀ f ∈ frames, 0 < pts f
  addressed : ∀ m, .message m ∈ frames → m.isReceiver userId = true
  increasing : (frames.filterMap Frame.ack?).Pairwise fun a b => a.1 < b.1
  distinct : ∀ p id m, .ack p id ∈ frames → .message m ∈ frames → p ≠ m.receiverPts

variable {userId : String} {frames : List Frame} {f : Frame} {k : Check}

theorem Genuine.cut {rest : List Frame} (h : Genuine userId (frames ++ rest)) : Genuine userId frames := by
  have hmem : ∀ g ∈ frames, g ∈ frames ++ rest := fun g hg => List.mem_append_left _ hg
  constructor
  · exact fun g hg => h.pos g (hmem g hg)
  · exact fun m hm => h.addressed m (hmem _ hm)
  · have hincreasing := h.increasing
    rw [List.filterMap_append] at hincreasing
    exact (List.pairwise_append.mp hincreasing).1
  · exact fun p id m hp hm => h.distinct p id m (hmem _ hp) (hmem _ hm)

/-- An acknowledgement is above those before it. -/
theorem Genuine.ack_lt {p p' : Int} {id id' : String} (h : Genuine userId (frames ++ [.ack p id]))
    (hp' : .ack p' id' ∈ frames) : p' < p := by
  have hincreasing := h.increasing
  rw [List.filterMap_append] at hincreasing
  have hmem : (p', id') ∈ frames.filterMap Frame.ack? := List.mem_filterMap.mpr ⟨_, hp', rfl⟩
  exact (List.pairwise_append.mp hincreasing).2.2 _ hmem (p, id) (List.mem_singleton_self _)

/-! ### The checks -/

namespace Check

@[simp] theorem checkOrder_messageLog (last p : Int) : (k.checkOrder last p).messageLog = k.messageLog := by
  unfold checkOrder
  split <;> rfl

@[simp] theorem checkOrder_lastReceivedPts (last p : Int) :
    (k.checkOrder last p).lastReceivedPts = k.lastReceivedPts := by
  unfold checkOrder
  split <;> rfl

@[simp] theorem checkOrder_ptsOrderViolations (last p : Int) : (k.checkOrder last p).ptsOrderViolations =
    k.ptsOrderViolations + if p ≤ last then 1 else 0 := by
  unfold checkOrder
  split <;> rfl

@[simp] theorem checkOrder_sequenceConsistent (last p : Int) :
    (k.checkOrder last p).sequenceConsistent = true ↔ k.sequenceConsistent = true ∧ last < p := by
  unfold checkOrder
  split
  · simp only [Bool.false_eq_true, false_iff]
    omega
  · simp only [iff_self_and]
    omega

@[simp] theorem checkGap_messageLog (last p : Int) : (k.checkGap last p).messageLog = k.messageLog := by
  unfold checkGap
  split <;> rfl

@[simp] theorem checkGap_lastReceivedPts (last p : Int) :
    (k.checkGap last p).lastReceivedPts = k.lastReceivedPts := by
  unfold checkGap
  split <;> rfl

@[simp] theorem checkGap_ptsOrderViolations (last p : Int) :
    (k.checkGap last p).ptsOrderViolations = k.ptsOrderViolations := by
  unfold checkGap
  split <;> rfl

@[simp] theorem checkGap_sequenceConsistent (last p : Int) :
    (k.checkGap last p).sequenceConsistent = true ↔ k.sequenceConsistent = true ∧ p ≤ last + 1 := by
  unfold checkGap
  split
  · simp only [Bool.false_eq_true, false_iff]
    omega
  · simp only [iff_self_and]
    omega

@[simp] theorem checkDuplicate_messageLog (id : String) :
    (k.checkDuplicate id).messageLog = k.messageLog := by
  unfold checkDuplicate
  split <;> rfl

@[simp] theorem checkDuplicate_lastReceivedPts (id : String) :
    (k.checkDuplicate id).lastReceivedPts = k.lastReceivedPts := by
  unfold checkDuplicate
  split <;> rfl

@[simp] theorem checkDuplicate_ptsOrderViolations (id : String) :
    (k.checkDuplicate id).ptsOrderViolations = k.ptsOrderViolations := by
  unfold checkDuplicate
  split <;> rfl

@[simp] theorem checkDuplicate_sequenceConsistent (id : String) :
    (k.checkDuplicate id).sequenceConsistent = true ↔ k.sequenceConsistent = true ∧ id ∉ k.messageLog := by
  unfold checkDuplicate
  split
  · simp only [Bool.false_eq_true, false_iff]
    tauto
  · simp only [iff_self_and]
    tauto

end Check

/-- **What an acknowledgement does.** -/
structure Acked (k : Check) (p : Int) (id : String) (k' : Check) : Prop where
  localPts : k'.localPts = p
  lastReceivedPts : k'.lastReceivedPts = k.lastReceivedPts
  messageLog : k'.messageLog = id :: k.messageLog
  violations : k'.ptsOrderViolations = k.ptsOrderViolations + if p ≤ k.localPts then 1 else 0
  consistent : k'.sequenceConsistent = true ↔
    k.sequenceConsistent = true ∧ p = k.localPts + 1 ∧ id ∉ k.messageLog

theorem acked {p : Int} (hp : 0 < p) (id : String) : Acked k p id (k.onAck p id) := by
  unfold Check.onAck
  rw [if_neg hp.ne']
  constructor
  · rfl
  · simp
  · simp
  · simp
  · simp only [Check.checkDuplicate_sequenceConsistent, Check.checkGap_sequenceConsistent,
      Check.checkOrder_sequenceConsistent, Check.checkGap_messageLog, Check.checkOrder_messageLog]
    have heq : (k.localPts < p ∧ p ≤ k.localPts + 1) ↔ p = k.localPts + 1 := by omega
    tauto

/-- **What a message does.** -/
structure Received (k : Check) (m : PersistedMessage) (k' : Check) : Prop where
  localPts : k'.localPts = max k.localPts m.receiverPts
  lastReceivedPts : k'.lastReceivedPts = m.receiverPts
  messageLog : k'.messageLog = m.id :: k.messageLog
  violations : k'.ptsOrderViolations =
    k.ptsOrderViolations + if m.receiverPts ≤ k.lastReceivedPts then 1 else 0
  consistent : k'.sequenceConsistent = true ↔ k.sequenceConsistent = true ∧
    k.lastReceivedPts < m.receiverPts ∧
    (0 < k.lastReceivedPts → m.receiverPts = k.lastReceivedPts + 1) ∧ m.id ∉ k.messageLog

theorem received {m : PersistedMessage} (hm : m.isReceiver userId = true) (hp : 0 < m.receiverPts) :
    Received k m (k.onIncoming userId m) := by
  obtain ⟨incomingMsg, hmessage, hreceiver⟩ : ∃ msg, m.message = some msg ∧ msg.receiverId = userId := by
    simpa [PersistedMessage.isReceiver, Option.any_eq_true] using hm
  unfold Check.onIncoming
  rw [hmessage]
  simp only [Check.applicablePts?, if_pos hreceiver, if_neg hp.ne']
  constructor
  · rfl
  · rfl
  · simp only [Check.checkDuplicate_messageLog]
    split <;> simp
  · simp only [Check.checkDuplicate_ptsOrderViolations]
    split <;> simp
  · simp only [Check.checkDuplicate_sequenceConsistent]
    split
    · simp only [Check.checkGap_sequenceConsistent, Check.checkOrder_sequenceConsistent,
        Check.checkGap_messageLog, Check.checkOrder_messageLog]
      have heq : (k.lastReceivedPts < m.receiverPts ∧ m.receiverPts ≤ k.lastReceivedPts + 1) ↔
          m.receiverPts = k.lastReceivedPts + 1 := by omega
      have hlt : m.receiverPts = k.lastReceivedPts + 1 → k.lastReceivedPts < m.receiverPts := by omega
      tauto
    · simp only [Check.checkOrder_sequenceConsistent, Check.checkOrder_messageLog]
      tauto

theorem check_concat (userId : String) (frames : List Frame) (f : Frame) :
    check userId (frames ++ [f]) = (check userId frames).onMessage userId f :=
  List.foldl_concat ..

theorem Genuine.acked {p : Int} {id : String} (h : Genuine userId (frames ++ [.ack p id])) :
    Acked (check userId frames) p id (check userId (frames ++ [.ack p id])) := by
  rw [check_concat]
  exact ConsistencyTest.acked (h.pos (.ack p id) (List.mem_concat_self ..)) id

theorem Genuine.received {m : PersistedMessage} (h : Genuine userId (frames ++ [.message m])) :
    Received (check userId frames) m (check userId (frames ++ [.message m])) := by
  rw [check_concat]
  exact ConsistencyTest.received (h.addressed m (List.mem_concat_self ..))
    (h.pos (.message m) (List.mem_concat_self ..))

/-- The log has the ids of the frames. -/
theorem mem_messageLog (h : Genuine userId frames) {id : String} :
    id ∈ (check userId frames).messageLog ↔ id ∈ frames.map messageId := by
  induction frames using List.reverseRecOn with
  | nil => exact Iff.rfl
  | append_singleton frames f ih =>
    rw [List.map_append, List.mem_append, ← ih h.cut]
    cases f with
    | ack p id' =>
      rw [h.acked.messageLog, List.mem_cons]
      simp [messageId, or_comm]
    | message m =>
      rw [h.received.messageLog, List.mem_cons]
      simp [messageId, or_comm]

/-! ### The order -/

/-- The PTS that the checks compare with: one of a frame, and above those of the messages while no violation
has been counted. -/
structure Bounds (frames : List Frame) (k : Check) : Prop where
  localPts : k.localPts = 0 ∨ ∃ f ∈ frames, k.localPts = pts f
  lastReceivedPts : k.lastReceivedPts = 0 ∨ ∃ m, .message m ∈ frames ∧ k.lastReceivedPts = m.receiverPts
  le_localPts : k.ptsOrderViolations = 0 → ∀ m, .message m ∈ frames → m.receiverPts ≤ k.localPts
  le_lastReceivedPts : k.ptsOrderViolations = 0 → ∀ m, .message m ∈ frames → m.receiverPts ≤ k.lastReceivedPts

theorem bounds (h : Genuine userId frames) : Bounds frames (check userId frames) := by
  induction frames using List.reverseRecOn with
  | nil =>
    have hempty : ∀ {f : Frame}, f ∉ ([] : List Frame) := List.not_mem_nil
    exact ⟨.inl rfl, .inl rfl, fun _ m hm => absurd hm hempty, fun _ m hm => absurd hm hempty⟩
  | append_singleton frames f ih =>
    have hbounds := ih h.cut
    cases f with
    | ack p id =>
      have hacked := h.acked
      have hmem : ∀ {m}, Frame.message m ∈ frames ++ [.ack p id] → Frame.message m ∈ frames := by
        intro m hm
        simpa using hm
      constructor
      · exact .inr ⟨.ack p id, List.mem_concat_self .., hacked.localPts⟩
      · rw [hacked.lastReceivedPts]
        exact hbounds.lastReceivedPts.imp_right fun ⟨m, hm, heq⟩ => ⟨m, List.mem_append_left _ hm, heq⟩
      · rw [hacked.violations, hacked.localPts]
        intro hzero m hm
        have hle := hbounds.le_localPts (by omega) m (hmem hm)
        split at hzero <;> omega
      · rw [hacked.violations, hacked.lastReceivedPts]
        exact fun hzero m hm => hbounds.le_lastReceivedPts (by omega) m (hmem hm)
    | message m =>
      have hreceived := h.received
      have hmem : ∀ {m'}, Frame.message m' ∈ frames ++ [.message m] → Frame.message m' ∈ frames ∨ m' = m := by
        intro m' hm'
        simpa using hm'
      constructor
      · rw [hreceived.localPts]
        rcases le_total (check userId frames).localPts m.receiverPts with hle | hle
        · exact .inr ⟨.message m, List.mem_concat_self .., max_eq_right hle⟩
        · rw [max_eq_left hle]
          exact hbounds.localPts.imp_right fun ⟨f, hf, heq⟩ => ⟨f, List.mem_append_left _ hf, heq⟩
      · exact .inr ⟨m, List.mem_concat_self .., hreceived.lastReceivedPts⟩
      · rw [hreceived.violations, hreceived.localPts]
        intro hzero m' hm'
        rcases hmem hm' with hold | rfl
        · exact (hbounds.le_localPts (by omega) m' hold).trans (le_max_left ..)
        · exact le_max_right ..
      · rw [hreceived.violations, hreceived.lastReceivedPts]
        intro hzero m' hm'
        rcases hmem hm' with hold | rfl
        · have hle := hbounds.le_lastReceivedPts (by omega) m' hold
          split at hzero <;> omega
        · exact le_rfl

/-- The frame has a higher PTS than a message before it. -/
def Above (f g : Frame) : Prop := ∀ m, f = .message m → m.receiverPts < pts g

/-- The check of a frame counts nothing exactly if the frame is above the messages before it. -/
theorem violations_concat (h : Genuine userId (frames ++ [f])) :
    (check userId (frames ++ [f])).ptsOrderViolations = 0 ↔
      (check userId frames).ptsOrderViolations = 0 ∧ ∀ g ∈ frames, Above g f := by
  have hbounds := bounds h.cut
  have hpos := h.pos f (List.mem_concat_self ..)
  cases f with
  | ack p id =>
    rw [h.acked.violations]
    constructor
    · intro hzero
      have hbefore : (check userId frames).ptsOrderViolations = 0 := by omega
      refine ⟨hbefore, ?_⟩
      rintro g hg m rfl
      have hle := hbounds.le_localPts hbefore m hg
      show m.receiverPts < p
      split at hzero <;> omega
    · rintro ⟨hbefore, habove⟩
      have hlt : (check userId frames).localPts < p := by
        rcases hbounds.localPts with hzero | ⟨g, hg, heq⟩
        · exact hzero ▸ hpos
        · rw [heq]
          cases g with
          | ack p' id' => exact h.ack_lt hg
          | message m => exact habove _ hg m rfl
      rw [hbefore, if_neg (by omega)]
  | message m =>
    rw [h.received.violations]
    constructor
    · intro hzero
      have hbefore : (check userId frames).ptsOrderViolations = 0 := by omega
      refine ⟨hbefore, ?_⟩
      rintro g hg m' rfl
      have hle := hbounds.le_lastReceivedPts hbefore m' hg
      show m'.receiverPts < m.receiverPts
      split at hzero <;> omega
    · rintro ⟨hbefore, habove⟩
      have hlt : (check userId frames).lastReceivedPts < m.receiverPts := by
        rcases hbounds.lastReceivedPts with hzero | ⟨m', hm', heq⟩
        · exact hzero ▸ hpos
        · rw [heq]
          exact habove _ hm' m' rfl
      rw [hbefore, if_neg (by omega)]

theorem violations_eq_zero_iff (h : Genuine userId frames) :
    (check userId frames).ptsOrderViolations = 0 ↔ frames.Pairwise Above := by
  induction frames using List.reverseRecOn with
  | nil => exact iff_of_true rfl .nil
  | append_singleton frames f ih =>
    rw [violations_concat h, ih h.cut, List.pairwise_append]
    simp

/-! ### The score -/

/-- The list is `p`, `p + 1` and so on. -/
def Counts : Int → List Int → Prop
  | _, [] => True
  | p, q :: l => q = p ∧ Counts (p + 1) l

theorem counts_append {p : Int} {l l' : List Int} :
    Counts p (l ++ l') ↔ Counts p l ∧ Counts (p + l.length) l' := by
  induction l generalizing p with
  | nil => simp [Counts]
  | cons q l ih =>
    have hlength : p + 1 + (l.length : Int) = p + ((q :: l).length : ℕ) := by
      rw [List.length_cons]
      omega
    rw [List.cons_append, Counts, ih, Counts, hlength, and_assoc]

theorem counts_concat {p q : Int} {l : List Int} :
    Counts p (l ++ [q]) ↔ Counts p l ∧ q = p + l.length := by
  rw [counts_append]
  simp [Counts]

/-- It goes through every number up to its last. -/
theorem mem_of_counts {p q : Int} {l : List Int} (h : Counts p l) (hle : p ≤ q) (hlt : q < p + l.length) :
    q ∈ l := by
  induction l generalizing p with
  | nil =>
    rw [List.length_nil] at hlt
    omega
  | cons r l ih =>
    obtain ⟨rfl, hcounts⟩ := h
    rw [List.length_cons] at hlt
    by_cases heq : q = r
    · exact heq ▸ List.mem_cons_self
    · exact List.mem_cons_of_mem _ (ih hcounts (by omega) (by omega))

/-- An acknowledgement as a frame. -/
def ackOf (a : Int × String) : Frame := .ack a.1 a.2

/-- The frames are acknowledgements that count from 1, messages that count from `first`, and acknowledgements
that count on from these. -/
structure Smooth (before : List (Int × String)) (messages : List PersistedMessage) (after : List (Int × String))
    (first : Int) (frames : List Frame) : Prop where
  frames_eq : frames = before.map ackOf ++ (messages.map Frame.message ++ after.map ackOf)
  settled : messages = [] → after = []
  before_counts : Counts 1 (before.map Prod.fst)
  counts : Counts first (messages.map PersistedMessage.receiverPts ++ after.map Prod.fst)

/-- No message is above the acknowledgements that the first one comes after. -/
theorem length_lt_of_distinct {before : List (Int × String)} {m : PersistedMessage}
    (h : Genuine userId frames) (hbefore : ∀ a ∈ before, ackOf a ∈ frames) (hm : .message m ∈ frames)
    (hcounts : Counts 1 (before.map Prod.fst)) : (before.length : Int) < m.receiverPts := by
  by_contra hle
  have hpos := h.pos _ hm
  have hmem : m.receiverPts ∈ before.map Prod.fst := by
    refine mem_of_counts hcounts ?_ ?_
    · exact hpos
    · rw [List.length_map]
      omega
  obtain ⟨a, ha, heq⟩ := List.mem_map.mp hmem
  exact h.distinct a.1 a.2 m (hbefore a ha) hm heq

/-- What the script has when it has counted nothing. -/
inductive Phase (frames : List Frame) (k : Check) : Prop where
  | before {before : List (Int × String)} (hframes : frames = before.map ackOf)
      (hcounts : Counts 1 (before.map Prod.fst)) (hlocal : k.localPts = before.length)
      (hlast : k.lastReceivedPts = 0)
  | later {before messages after first} (hsmooth : Smooth before messages after first frames)
      (hne : messages ≠ []) (hlocal : k.localPts = first + messages.length + after.length - 1)
      (hlast : k.lastReceivedPts = first + messages.length - 1) (hpos : 0 < k.lastReceivedPts)

/-- **What a connection with the score 1 has got.** -/
theorem phase (h : Genuine userId frames) (hconsistent : (check userId frames).sequenceConsistent = true) :
    Phase frames (check userId frames) := by
  induction frames using List.reverseRecOn with
  | nil =>
    have hnone : ([] : List Frame) = [].map ackOf := rfl
    exact .before hnone trivial rfl rfl
  | append_singleton frames f ih =>
    cases f with
    | ack p id =>
      have hacked := h.acked
      obtain ⟨hbefore, hp, -⟩ := hacked.consistent.mp hconsistent
      cases ih h.cut hbefore with
      | @before before hframes hcounts hlocal hlast =>
        have hframes' : frames ++ [.ack p id] = (before ++ [(p, id)]).map ackOf := by
          rw [hframes, List.map_append]
          rfl
        refine .before hframes' ?_ ?_ ?_
        · rw [List.map_append]
          refine counts_concat.mpr ⟨hcounts, ?_⟩
          rw [List.length_map]
          omega
        · rw [hacked.localPts, List.length_append, List.length_singleton]
          omega
        · rw [hacked.lastReceivedPts, hlast]
      | @later before messages after first hsmooth hne hlocal hlast hpos =>
        have hsmooth' : Smooth before messages (after ++ [(p, id)]) first (frames ++ [.ack p id]) := by
          refine ⟨?_, fun hnil => absurd hnil hne, hsmooth.before_counts, ?_⟩
          · rw [hsmooth.frames_eq, List.map_append, List.append_assoc, List.append_assoc]
            rfl
          · rw [List.map_append, ← List.append_assoc]
            refine counts_concat.mpr ⟨hsmooth.counts, ?_⟩
            rw [List.length_append, List.length_map, List.length_map]
            omega
        refine .later hsmooth' hne ?_ ?_ ?_
        · rw [hacked.localPts, List.length_append, List.length_singleton]
          omega
        · rw [hacked.lastReceivedPts, hlast]
        · rw [hacked.lastReceivedPts]
          exact hpos
    | message m =>
      have hreceived := h.received
      obtain ⟨hbefore, hlt, hnext, -⟩ := hreceived.consistent.mp hconsistent
      have hm : Frame.message m ∈ frames ++ [.message m] := List.mem_concat_self ..
      cases ih h.cut hbefore with
      | @before before hframes hcounts hlocal hlast =>
        have hlength : (before.length : Int) < m.receiverPts := by
          refine length_lt_of_distinct h (fun a ha => ?_) hm hcounts
          rw [hframes]
          exact List.mem_append_left _ (List.mem_map_of_mem ha)
        have hsmooth : Smooth before [m] [] m.receiverPts (frames ++ [.message m]) :=
          ⟨by rw [hframes]; rfl, fun _ => rfl, hcounts, ⟨rfl, trivial⟩⟩
        refine .later hsmooth (List.cons_ne_nil _ _) ?_ ?_ ?_
        · rw [hreceived.localPts, hlocal, max_eq_right hlength.le]
          show m.receiverPts = m.receiverPts + 1 + 0 - 1
          omega
        · rw [hreceived.lastReceivedPts]
          show m.receiverPts = m.receiverPts + 1 - 1
          omega
        · rw [hreceived.lastReceivedPts]
          exact h.pos _ hm
      | @later before messages after first hsmooth hne hlocal hlast hpos =>
        have hcounts := counts_append.mp hsmooth.counts
        rw [List.length_map] at hcounts
        have heq := hnext hpos
        cases after with
        | nil =>
          have hsmooth' : Smooth before (messages ++ [m]) [] first (frames ++ [.message m]) := by
            refine ⟨?_, fun _ => rfl, hsmooth.before_counts, ?_⟩
            · rw [hsmooth.frames_eq, List.map_append]
              simp
            · rw [List.map_append, List.map_nil, List.append_nil]
              refine counts_concat.mpr ⟨hcounts.1, ?_⟩
              rw [List.length_map]
              omega
          refine .later hsmooth' (by simp) ?_ ?_ ?_
          · rw [hreceived.localPts, List.length_append, List.length_singleton]
            rw [List.length_nil] at hlocal ⊢
            omega
          · rw [hreceived.lastReceivedPts, List.length_append, List.length_singleton]
            omega
          · rw [hreceived.lastReceivedPts]
            exact h.pos _ hm
        | cons a after =>
          have hack : Frame.ack a.1 a.2 ∈ frames ++ [.message m] := by
            refine List.mem_append_left _ ?_
            rw [hsmooth.frames_eq]
            simp [ackOf]
          have ha : a.1 = first + messages.length := hcounts.2.1
          exact absurd (by omega) (h.distinct a.1 a.2 m hack hm)

/-- The script has counted nothing, and has these PTS. -/
structure Scored (localPts lastReceivedPts : Int) (k : Check) : Prop where
  consistent : k.sequenceConsistent = true
  localPts : k.localPts = localPts
  lastReceivedPts : k.lastReceivedPts = lastReceivedPts

section Scored

variable {l last : Int}

/-- The id of a frame is not in the log yet, if no two frames have one id. -/
theorem fresh (h : Genuine userId frames) (hnodup : ((frames ++ [f]).map messageId).Nodup) :
    messageId f ∉ (check userId frames).messageLog := by
  intro hlog
  rw [List.map_append, List.map_singleton] at hnodup
  exact (List.nodup_append.mp hnodup).2.2 _ ((mem_messageLog h).mp hlog) _ (List.mem_singleton_self _) rfl

theorem Scored.ack {p : Int} {id : String} (h : Genuine userId (frames ++ [.ack p id]))
    (hnodup : ((frames ++ [Frame.ack p id]).map messageId).Nodup) (hscored : Scored l last (check userId frames))
    (hp : p = l + 1) : Scored p last (check userId (frames ++ [.ack p id])) := by
  have hacked := h.acked
  have hlocal := hscored.localPts
  constructor
  · exact hacked.consistent.mpr ⟨hscored.consistent, by omega, fresh h.cut hnodup⟩
  · exact hacked.localPts
  · rw [hacked.lastReceivedPts, hscored.lastReceivedPts]

theorem Scored.message {m : PersistedMessage} (h : Genuine userId (frames ++ [.message m]))
    (hnodup : ((frames ++ [Frame.message m]).map messageId).Nodup) (hscored : Scored l last (check userId frames))
    (hl : l ≤ m.receiverPts) (hlast : last = 0 ∨ m.receiverPts = last + 1) :
    Scored m.receiverPts m.receiverPts (check userId (frames ++ [.message m])) := by
  have hreceived := h.received
  have hpos : 0 < m.receiverPts := h.pos (.message m) (List.mem_concat_self ..)
  have hlast' := hscored.lastReceivedPts
  constructor
  · exact hreceived.consistent.mpr ⟨hscored.consistent, by omega, by omega, fresh h.cut hnodup⟩
  · rw [hreceived.localPts, hscored.localPts, max_eq_right hl]
  · exact hreceived.lastReceivedPts

/-- No two ids are the same in a first part of the frames. -/
theorem nodup_cut {rest : List Frame} (h : ((frames ++ rest).map messageId).Nodup) :
    (frames.map messageId).Nodup := by
  rw [List.map_append] at h
  exact (List.nodup_append.mp h).1

/-- Acknowledgements that count on. -/
theorem Scored.acks {acks : List (Int × String)} (h : Genuine userId (frames ++ acks.map ackOf))
    (hnodup : ((frames ++ acks.map ackOf).map messageId).Nodup) (hscored : Scored l last (check userId frames))
    (hcounts : Counts (l + 1) (acks.map Prod.fst)) :
    Scored (l + acks.length) last (check userId (frames ++ acks.map ackOf)) := by
  induction acks generalizing frames l with
  | nil =>
    simpa using hscored
  | cons a acks ih =>
    obtain ⟨ha, hcounts⟩ := hcounts
    have hsplit : frames ++ (a :: acks).map ackOf = (frames ++ [.ack a.1 a.2]) ++ acks.map ackOf :=
      List.append_cons ..
    have hlength : l + ((a :: acks).length : ℕ) = a.1 + acks.length := by
      rw [List.length_cons]
      omega
    rw [hsplit] at h hnodup ⊢
    rw [hlength]
    refine ih h hnodup (hscored.ack h.cut (nodup_cut hnodup) ha) ?_
    rw [ha]
    exact hcounts

/-- Messages that count on. -/
theorem Scored.messages {messages : List PersistedMessage}
    (h : Genuine userId (frames ++ messages.map Frame.message))
    (hnodup : ((frames ++ messages.map Frame.message).map messageId).Nodup)
    (hscored : Scored last last (check userId frames))
    (hcounts : Counts (last + 1) (messages.map PersistedMessage.receiverPts)) :
    Scored (last + messages.length) (last + messages.length)
      (check userId (frames ++ messages.map Frame.message)) := by
  induction messages generalizing frames last with
  | nil =>
    simpa using hscored
  | cons m messages ih =>
    obtain ⟨hm, hcounts⟩ := hcounts
    have hsplit : frames ++ (m :: messages).map Frame.message =
        (frames ++ [.message m]) ++ messages.map Frame.message := List.append_cons ..
    have hlength : last + ((m :: messages).length : ℕ) = m.receiverPts + messages.length := by
      rw [List.length_cons]
      omega
    rw [hsplit] at h hnodup ⊢
    rw [hlength]
    refine ih h hnodup (hscored.message h.cut (nodup_cut hnodup) (by omega) (.inr hm)) ?_
    rw [hm]
    exact hcounts

end Scored

/-- **Whoever has got this has the score 1.** -/
theorem Smooth.scored {before messages after first} (h : Genuine userId frames)
    (hnodup : (frames.map messageId).Nodup) (hsmooth : Smooth before messages after first frames) :
    (check userId frames).sequenceConsistent = true := by
  have hmem : ∀ a ∈ before, ackOf a ∈ frames := by
    intro a ha
    rw [hsmooth.frames_eq]
    exact List.mem_append_left _ (List.mem_map_of_mem ha)
  obtain ⟨hmessages, hafter⟩ := counts_append.mp hsmooth.counts
  rw [List.length_map] at hafter
  have hstart : Scored 0 0 (check userId []) := ⟨rfl, rfl, rfl⟩
  cases messages with
  | nil =>
    obtain rfl := hsmooth.settled rfl
    have hframes : frames = [] ++ before.map ackOf := by
      rw [hsmooth.frames_eq]
      simp
    rw [hframes] at h hnodup ⊢
    exact (hstart.acks h hnodup hsmooth.before_counts).consistent
  | cons m messages =>
    obtain ⟨rfl, hmessages⟩ := hmessages
    have hframes : frames = (([] ++ before.map ackOf ++ [.message m]) ++ messages.map Frame.message) ++
        after.map ackOf := by
      rw [hsmooth.frames_eq]
      simp
    have hm : Frame.message m ∈ frames := by
      rw [hframes]
      simp
    have hlt := length_lt_of_distinct h hmem hm hsmooth.before_counts
    rw [hframes] at h hnodup ⊢
    have hbefore := hstart.acks h.cut.cut.cut
      (nodup_cut (nodup_cut (nodup_cut hnodup))) hsmooth.before_counts
    have hfirst := hbefore.message h.cut.cut (nodup_cut (nodup_cut hnodup)) (by omega) (.inl rfl)
    have hlast := hfirst.messages h.cut (nodup_cut hnodup) hmessages
    refine (hlast.acks h hnodup ?_).consistent
    have hlength : m.receiverPts + ((m :: messages).length : ℕ) = m.receiverPts + messages.length + 1 := by
      rw [List.length_cons]
      omega
    rw [← hlength]
    exact hafter

/-- No two frames have one id, if the script has counted nothing. -/
theorem nodup_of_consistent (h : Genuine userId frames)
    (hconsistent : (check userId frames).sequenceConsistent = true) : (frames.map messageId).Nodup := by
  induction frames using List.reverseRecOn with
  | nil => exact List.nodup_nil
  | append_singleton frames f ih =>
    have hstep : (check userId frames).sequenceConsistent = true ∧
        messageId f ∉ (check userId frames).messageLog := by
      cases f with
      | ack p id =>
        obtain ⟨hbefore, -, hfresh⟩ := h.acked.consistent.mp hconsistent
        exact ⟨hbefore, hfresh⟩
      | message m =>
        obtain ⟨hbefore, -, -, hfresh⟩ := h.received.consistent.mp hconsistent
        exact ⟨hbefore, hfresh⟩
    rw [mem_messageLog h.cut] at hstep
    rw [List.map_append, List.map_singleton]
    refine List.nodup_append.mpr ⟨ih h.cut hstep.1, List.nodup_singleton _, ?_⟩
    rintro a ha b hb rfl
    rw [List.mem_singleton.mp hb] at ha
    exact hstep.2 ha

theorem Phase.smooth {k : Check} (h : Phase frames k) :
    ∃ before messages after first, Smooth before messages after first frames := by
  cases h with
  | @before before hframes hcounts hlocal hlast =>
    exact ⟨before, [], [], 0, by rw [hframes]; simp, fun _ => rfl, hcounts, trivial⟩
  | later hsmooth hne hlocal hlast hpos => exact ⟨_, _, _, _, hsmooth⟩

/-! ### Runs -/

section Runs

open Gateway (GwId ConnId counterCluster)
open Gateway.Cluster (CounterEvent CounterState NoRollback Socket)

variable {addr : GwId → String} {es : List CounterEvent} {s : CounterState} {c : ConnId} {sock : Socket}

/-- The frames of a connection are genuine. -/
theorem genuine (h : (counterCluster addr).run (counterCluster addr).init es = some s)
    (hback : (counterCluster addr).Meets (fun _ => NoRollback) (counterCluster addr).init es)
    (hs : s.sockets c = some sock) : Genuine sock.user (s.out c) := by
  obtain ⟨ds, hds, hdsback⟩ := Gateway.Cluster.service_run h hback
  have hsound := Gateway.Cluster.sound ⟨es, h⟩
  have haddressed : ∀ m, .message m ∈ s.out c → m.isReceiver sock.user = true := by
    intro m hm
    obtain ⟨sock', hs', hreceiver⟩ := hsound.routed _ m (Gateway.Cluster.mem_held_socket.mpr hm) c rfl
    obtain rfl := Option.some.inj (hs.symm.trans hs')
    exact hreceiver
  have hack : ∀ p id, .ack p id ∈ s.out c →
      ∃ call, MessageService.Granted s.service.redis.issued sock.user (call, .sender) p := by
    intro p id hp
    obtain ⟨sock', hs', -, hgranted⟩ := Gateway.Cluster.granted_of_ack h hback hp
    obtain rfl := Option.some.inj (hs.symm.trans hs')
    exact hgranted
  have hmessage : ∀ m, .message m ∈ s.out c → ∃ call,
      MessageService.Granted s.service.redis.issued sock.user (call, .receiver) m.receiverPts := by
    intro m hm
    obtain ⟨id, -, -, -, -, hgranted⟩ := Gateway.Cluster.granted_of_held hds hdsback hsound
      (Gateway.Cluster.mem_held_socket.mpr hm) (haddressed m hm)
    exact ⟨id, hgranted⟩
  constructor
  · intro f hf
    cases f with
    | ack p id =>
      obtain ⟨call, hgranted⟩ := hack p id hf
      exact (MessageService.Counters.granted_le hds hdsback hgranted).1
    | message m =>
      obtain ⟨call, hgranted⟩ := hmessage m hf
      exact (MessageService.Counters.granted_le hds hdsback hgranted).1
  · exact haddressed
  · exact (Gateway.Cluster.inOrder h hback c sock hs).increasing
  · rintro p id m hp hm rfl
    obtain ⟨call, hgranted⟩ := hack _ id hp
    obtain ⟨call', hgranted'⟩ := hmessage m hm
    have hticket := hgranted.ticket_unique hgranted'
    cases hticket

/-- No two frames have one id, unless the user has got a message that they have sent. -/
theorem nodup_messageId (h : (counterCluster addr).run (counterCluster addr).init es = some s)
    (hback : (counterCluster addr).Meets (fun _ => NoRollback) (counterCluster addr).init es)
    (hs : s.sockets c = some sock)
    (hown : ∀ p id m, .ack p id ∈ s.out c → .message m ∈ s.out c → m.id ≠ id) :
    ((s.out c).map messageId).Nodup := by
  obtain ⟨⟨answered, hanswered, -⟩, hincreasing, -⟩ := Gateway.Cluster.inOrder h hback c sock hs
  have hrow : ∀ a ∈ Gateway.Cluster.acks s c, ∃ r ∈ s.service.table, r.id = a.2 ∧ r.senderPts = a.1 := by
    refine ((List.forall₂_and_left _ _).mp (hanswered.imp fun a raw ha => ⟨?_, ha⟩)).1
    obtain ⟨incoming, -, r, hr, hid, -, -, -, hpts⟩ := ha
    exact ⟨r, hr, hid, hpts⟩
  have hids := (MessageService.Service.constrained_table
    (Gateway.Cluster.service_reachable (R := MessageService.Counters.redis) ⟨es, h⟩)).id_nodup
  have hmessages := (Gateway.Cluster.sound ⟨es, h⟩).linear.nodup (.socket c)
  have hmessages' : (s.out c).Pairwise fun f g => ∀ m, f.message? = some m → ∀ m', g.message? = some m' →
      m.id ≠ m'.id := List.pairwise_filterMap.mp (List.pairwise_map.mp hmessages)
  have hacks : (s.out c).Pairwise fun f g => ∀ a, f.ack? = some a → ∀ a', g.ack? = some a' → a.1 < a'.1 :=
    List.pairwise_filterMap.mp hincreasing
  refine List.pairwise_map.mpr ((hmessages'.and hacks).imp_of_mem fun {f g} hf hg hboth => ?_)
  cases f with
  | ack p id =>
    cases g with
    | ack p' id' =>
      -- the ids are those of two rows
      rintro rfl
      obtain ⟨r, hr, hid, hp⟩ := hrow (p, id) (List.mem_filterMap.mpr ⟨_, hf, rfl⟩)
      obtain ⟨r', hr', hid', hp'⟩ := hrow (p', id) (List.mem_filterMap.mpr ⟨_, hg, rfl⟩)
      obtain rfl := List.inj_on_of_nodup_map hids hr hr' (hid.trans hid'.symm)
      have hlt : p < p' := hboth.2 _ rfl _ rfl
      exact absurd (hp.symm.trans hp') hlt.ne
    | message m => exact (hown p id m hf hg).symm
  | message m =>
    cases g with
    | ack p id => exact hown p id m hg hf
    | message m' => exact hboth.1 _ rfl _ rfl

/-- **The order that the script checks.**  It has counted no violation on a connection exactly if every frame
has a higher PTS than the messages before it. -/
theorem violations_iff (h : (counterCluster addr).run (counterCluster addr).init es = some s)
    (hback : (counterCluster addr).Meets (fun _ => NoRollback) (counterCluster addr).init es)
    (hs : s.sockets c = some sock) :
    (check sock.user (s.out c)).ptsOrderViolations = 0 ↔
      (s.out c).Pairwise fun f g => ∀ m, f = .message m → m.receiverPts < pts g :=
  violations_eq_zero_iff (genuine h hback hs)

/-- Bob has been handed PTS 1 for a message of his own, and gets one of Alice's before his acknowledgement. -/
def overtakenAckRun : List CounterEvent :=
  [.connect 0 0 "alice", .handler 0 (.registerUser true), .handler 0 .registerConn,
    .connect 1 0 "bob", .handler 1 (.registerUser true), .handler 1 .registerConn,
    .handler 1 (.frame (some ⟨"alice", "hey"⟩) 0 5)] ++ Gateway.Cluster.persistSteps 0 "a" ++
  [.handler 0 (.frame (some ⟨"bob", "hi"⟩) 1 6)] ++ Gateway.Cluster.deliverySteps 1 "b" ++
  [.handler 1 .persisted, .handler 1 (.ack true true)]

/-- The script counts a violation of the order. -/
theorem violations_iff_overtakenAckRun : ∃ (s : CounterState) (m : PersistedMessage),
    (counterCluster fun _ => "gateway:50051").run (counterCluster fun _ => "gateway:50051").init
      overtakenAckRun = some s ∧ s.out 1 = [.message m, .ack 1 "a"] ∧
    (check "bob" (s.out 1)).ptsOrderViolations ≠ 0 := by
  let m : PersistedMessage := ⟨"b", some ⟨"alice", "bob", "hi", 6⟩, 2, 2, 0⟩
  obtain ⟨s, hs, hsock, hout⟩ : ∃ s, (counterCluster fun _ => "gateway:50051").run
      (counterCluster fun _ => "gateway:50051").init overtakenAckRun = some s ∧
      s.sockets 1 = some ⟨0, "bob"⟩ ∧ s.out 1 = [.message m, .ack 1 "a"] := ⟨_, rfl, rfl, rfl⟩
  have hback : ∀ e ∈ overtakenAckRun, NoRollback e := by decide
  refine ⟨s, m, hs, hout, fun hzero => ?_⟩
  have habove := (violations_iff hs (.of_forall fun _ e he => hback e he) hsock).mp hzero
  rw [hout] at habove
  have hlt : (2 : Int) < 1 := (List.pairwise_cons.mp habove).1 _ (List.mem_singleton_self _) m rfl
  omega

/-- **The score of a connection.**  The script finds a connection consistent exactly if its acknowledgements
count from 1 up to the first message, the messages count on from this one and are followed by acknowledgements
alone, which count on from the last of them; and none of the messages has the id of an acknowledgement on this
connection. -/
theorem consistent_iff (h : (counterCluster addr).run (counterCluster addr).init es = some s)
    (hback : (counterCluster addr).Meets (fun _ => NoRollback) (counterCluster addr).init es)
    (hs : s.sockets c = some sock) :
    (check sock.user (s.out c)).sequenceConsistent = true ↔
      (∃ before messages after first, Smooth before messages after first (s.out c)) ∧
      ∀ p id m, .ack p id ∈ s.out c → .message m ∈ s.out c → m.id ≠ id := by
  have hgenuine := genuine h hback hs
  constructor
  · intro hconsistent
    refine ⟨(phase hgenuine hconsistent).smooth, fun p id m hp hm heq => ?_⟩
    have hsame := List.inj_on_of_nodup_map (nodup_of_consistent hgenuine hconsistent) hp hm heq.symm
    cases hsame
  · rintro ⟨⟨before, messages, after, first, hsmooth⟩, hown⟩
    exact hsmooth.scored hgenuine (nodup_messageId h hback hs hown)

/-- Alice and Bob take turns: she writes to him, he answers, and she writes again. -/
def turnsRun : List CounterEvent :=
  [.connect 0 0 "alice", .handler 0 (.registerUser true), .handler 0 .registerConn,
    .connect 1 0 "bob", .handler 1 (.registerUser true), .handler 1 .registerConn,
    .handler 0 (.frame (some ⟨"bob", "one"⟩) 0 5)] ++ Gateway.Cluster.deliverySteps 0 "a" ++
  [.handler 1 (.frame (some ⟨"alice", "two"⟩) 1 6)] ++ Gateway.Cluster.persistSteps 1 "b" ++
  [.handler 1 .persisted, .handler 1 (.ack true true), .handler 1 (.locate false 0),
    .handler 1 .lookup, .handler 1 .send, .writer 0 .receive, .writer 0 (.write true true),
    .handler 0 (.frame (some ⟨"bob", "three"⟩) 2 7)] ++ Gateway.Cluster.deliverySteps 2 "c"

/-- Both have got the PTS 1, 2 and 3 in order; the script finds Alice consistent, and Bob not. -/
theorem consistent_iff_turnsRun : ∃ s : CounterState,
    (counterCluster fun _ => "gateway:50051").run (counterCluster fun _ => "gateway:50051").init
      turnsRun = some s ∧ (s.out 0).map pts = [1, 2, 3] ∧ (s.out 1).map pts = [1, 2, 3] ∧
    (check "alice" (s.out 0)).sequenceConsistent = true ∧
    (check "bob" (s.out 1)).sequenceConsistent = false := by
  let m : PersistedMessage := ⟨"b", some ⟨"bob", "alice", "two", 6⟩, 2, 2, 0⟩
  let m' : PersistedMessage := ⟨"a", some ⟨"alice", "bob", "one", 5⟩, 1, 1, 0⟩
  let m'' : PersistedMessage := ⟨"c", some ⟨"alice", "bob", "three", 7⟩, 3, 3, 0⟩
  obtain ⟨s, hs, hsock, halice, hbob⟩ : ∃ s, (counterCluster fun _ => "gateway:50051").run
      (counterCluster fun _ => "gateway:50051").init turnsRun = some s ∧
      s.sockets 0 = some ⟨0, "alice"⟩ ∧ s.out 0 = [.ack 1 "a", .message m, .ack 3 "c"] ∧
      s.out 1 = [.message m', .ack 2 "b", .message m''] := ⟨_, rfl, rfl, rfl, rfl⟩
  have hback : ∀ e ∈ turnsRun, NoRollback e := by decide
  have hsmooth : Smooth [(1, "a")] [m] [(3, "c")] 2 (s.out 0) :=
    ⟨halice, fun h => absurd h (List.cons_ne_nil _ _), ⟨rfl, trivial⟩, ⟨rfl, rfl, trivial⟩⟩
  refine ⟨s, hs, by rw [halice]; rfl, by rw [hbob]; rfl, ?_, by rw [hbob]; rfl⟩
  refine (consistent_iff hs (.of_forall fun _ e he => hback e he) hsock).mpr ⟨⟨_, _, _, _, hsmooth⟩, ?_⟩
  rw [halice]
  intro p id m₀ hp hm₀
  obtain rfl : m₀ = m := by simpa using hm₀
  have hid : m.id = "b" := rfl
  rintro rfl
  simp [hid] at hp

end Runs

end ConsistencyTest

end TinyTelegram.Scripts
