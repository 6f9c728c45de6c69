import TinyTelegram.Lib.Keyset
import TinyTelegram.MessageService.Sync

/-!
# `GetDiff` pages a stream

The `SELECT` of `GetDiff` filters, sorts and cuts the table on each call.  If the PTS in the stream
of a user are pairwise distinct, its result is a page of that stream, sorted once and for all, and
the calls of a client that catches up read the stream page by page:

* `selectRows_eq_page`: the rows one call selects are a page of the stream.
* `paging_exact`: a client that starts at `0` and follows the PTS of the last entry, whatever limits
  it asks with, gets every message of the user once, in increasing PTS, and nothing else, and then
  an empty response.
-/

namespace TinyTelegram.MessageService

/-- The rows in the stream of `u` above a PTS, in increasing PTS. -/
def stream (t : Table) (u : String) (clientPts : Int) : List Row :=
  (t.filter fun r => r.involves u ∧ clientPts < r.ptsFor u).insertionSort
    fun a b => a.ptsFor u ≤ b.ptsFor u

/-- The PTS above `clientPts` in the stream of `u` are pairwise distinct. -/
def DistinctAbove (t : Table) (u : String) (clientPts : Int) : Prop :=
  (t.filter fun r => r.involves u ∧ clientPts < r.ptsFor u).Pairwise
    fun a b => a.ptsFor u ≠ b.ptsFor u

instance (t : Table) (u : String) (clientPts : Int) : Decidable (DistinctAbove t u clientPts) :=
  inferInstanceAs (Decidable (List.Pairwise _ _))

/-- The entry of a `GetDiff` response for a row. -/
def Row.toEntry (u : String) (r : Row) : PersistedMessage := scanRow u (r.toDiffRow u)

variable {t : Table} {u : String} {c c' : Int}

/-! ### The stream -/

theorem stream_perm : (stream t u c).Perm (t.filter fun r => r.involves u ∧ c < r.ptsFor u) :=
  List.perm_insertionSort ..

theorem mem_stream {r : Row} : r ∈ stream t u c ↔ r ∈ t ∧ r.involves u ∧ c < r.ptsFor u := by
  unfold stream
  rw [List.mem_insertionSort, List.mem_filter, decide_eq_true_eq]

variable (t u c) in
/-- The stream is in order, also with a PTS that occurs twice. -/
theorem stream_sorted : (stream t u c).Pairwise fun a b => a.ptsFor u ≤ b.ptsFor u := by
  have htotal : Std.Total fun a b : Row => a.ptsFor u ≤ b.ptsFor u :=
    ⟨fun a b => le_total (a.ptsFor u) (b.ptsFor u)⟩
  have htrans : IsTrans Row fun a b => a.ptsFor u ≤ b.ptsFor u := ⟨fun _ _ _ => le_trans⟩
  exact List.pairwise_insertionSort (fun a b : Row => a.ptsFor u ≤ b.ptsFor u) _

/-- With distinct PTS the stream is strictly increasing. -/
theorem stream_pairwise (h : DistinctAbove t u c) :
    (stream t u c).Pairwise fun a b => a.ptsFor u < b.ptsFor u := by
  have hne : (stream t u c).Pairwise fun a b => a.ptsFor u ≠ b.ptsFor u :=
    (stream_perm.pairwise_iff fun {_ _} hab => hab.symm).mpr h
  exact (stream_sorted t u c).imp₂ (fun _ _ hab hne => lt_of_le_of_ne hab hne) hne

theorem DistinctAbove.mono (h : DistinctAbove t u c) (hle : c ≤ c') : DistinctAbove t u c' := by
  unfold DistinctAbove at h ⊢
  refine h.sublist ?_
  have hsub : (t.filter fun r => r.involves u ∧ c' < r.ptsFor u) =
      (t.filter fun r => r.involves u ∧ c < r.ptsFor u).filter fun r => c' < r.ptsFor u := by
    rw [List.filter_filter]
    refine List.filter_congr fun r _ => ?_
    by_cases hr : c' < r.ptsFor u
    · simp [hr, hle.trans_lt hr]
    · simp [hr]
  rw [hsub]
  exact List.filter_sublist

/-- What the stream holds above a later PTS is the stream from there. -/
theorem filter_stream (h : DistinctAbove t u c) (hle : c ≤ c') :
    (stream t u c).filter (fun r => c' < r.ptsFor u) = stream t u c' := by
  have hanti : Std.Antisymm fun a b : Row => a.ptsFor u < b.ptsFor u :=
    ⟨fun a b hab hba => absurd hab hba.not_gt⟩
  have hirrefl : Std.Irrefl fun a b : Row => a.ptsFor u < b.ptsFor u := ⟨fun a => lt_irrefl _⟩
  refine List.Pairwise.eq_of_mem_iff ((stream_pairwise h).sublist List.filter_sublist)
    (stream_pairwise (h.mono hle)) fun r => ?_
  rw [List.mem_filter, mem_stream, mem_stream, decide_eq_true_eq]
  constructor
  · rintro ⟨⟨hr, hu, -⟩, hlt⟩
    exact ⟨hr, hu, hlt⟩
  · rintro ⟨hr, hu, hlt⟩
    exact ⟨⟨hr, hu, hle.trans_lt hlt⟩, hlt⟩

/-! ### One call -/

theorem normalizeLimit_pos (limit : Int) : 0 < (normalizeLimit limit).toNat := by
  unfold normalizeLimit
  split <;> omega

/-- **The rows one call selects are a page of the stream**, cut off at any PTS before the client's. -/
theorem selectRows_eq_page (h : DistinctAbove t u c) (hle : c ≤ c') (limit : Int) :
    selectRows t u c' limit = Keyset.page (Row.ptsFor u) (stream t u c) c' limit.toNat := by
  rw [Keyset.page, filter_stream h hle]
  rfl

/-- An entry has the PTS of its row in the stream of the requesting user. -/
theorem ptsFor_toEntry (r : Row) : (r.toEntry u).ptsFor u = r.ptsFor u := by
  unfold PersistedMessage.ptsFor PersistedMessage.isReceiver Row.toEntry Row.toDiffRow scanRow
    Row.ptsFor
  by_cases hrec : r.receiverId = u
  · simp [hrec]
  · simp [hrec]

/-- The entries built from the result of the query are those of the rows it selects. -/
theorem map_scanRow_selectDiff (t : Table) (u : String) (clientPts limit : Int) :
    (selectDiff t u clientPts limit).map (scanRow u) =
      (selectRows t u clientPts limit).map (Row.toEntry u) := by
  unfold selectDiff
  rw [List.map_map]
  rfl

/-- Against unchanging stores a call succeeds, with the entries of the rows it selects. -/
theorem fetch_eq (t : Table) (counters : String → Option Int) (req : GetDiffRequest) :
    fetch t counters req = .ok {
      messages := (selectRows t req.userId req.clientPts (normalizeLimit req.limit)).map
        (Row.toEntry req.userId)
      currentPts := (counters (ptsKey req.userId)).getD 0 } := by
  rw [← map_scanRow_selectDiff]
  cases hval : counters (ptsKey req.userId) with
  | none => simp [fetch, getDiff, getUserPTS, query, get, Prog.lift, Prog.eval, serve, hval]
  | some val => simp [fetch, getDiff, getUserPTS, query, get, Prog.lift, Prog.eval, serve, hval]

/-! ### Catching up -/

variable {counters : String → Option Int} {limits : ℕ → Int}

/-- The page size of the `k`-th call. -/
def pageSize (limits : ℕ → Int) (k : ℕ) : ℕ := (normalizeLimit (limits k)).toNat

/-- After a call the client stands at the PTS of the last row it selected. -/
theorem nextClientPts_fetch (limit : Int) :
    nextClientPts u c (fetch t counters ⟨u, c, limit⟩) =
      Keyset.next (Row.ptsFor u) c (selectRows t u c (normalizeLimit limit)) := by
  have hpts : (fun m => PersistedMessage.ptsFor m u) ∘ Row.toEntry u = Row.ptsFor u :=
    funext ptsFor_toEntry
  rw [fetch_eq, nextClientPts, List.getLast?_map, Option.map_map, hpts, Keyset.next]

/-- The PTS of the client moves along the stream as the cursor of its pages. -/
theorem clientPtsAt_eq (h : DistinctAbove t u 0) (k : ℕ) :
    clientPtsAt t counters u limits k =
      Keyset.cursor (Row.ptsFor u) (stream t u 0) 0 (pageSize limits) k := by
  induction k with
  | zero => rfl
  | succ k ih =>
    show nextClientPts u (clientPtsAt t counters u limits k)
      (fetch t counters ⟨u, clientPtsAt t counters u limits k, limits k⟩) = _
    rw [nextClientPts_fetch, ih, selectRows_eq_page h (Keyset.le_cursor k)]
    rfl

/-- The `k`-th response holds the `k`-th page. -/
theorem entries_responseAt (h : DistinctAbove t u 0) (k : ℕ) :
    entries (responseAt t counters u limits k) =
      (Keyset.pageAt (Row.ptsFor u) (stream t u 0) 0 (pageSize limits) k).map (Row.toEntry u) := by
  unfold responseAt
  rw [clientPtsAt_eq h, fetch_eq, entries, Keyset.pageAt]
  rw [selectRows_eq_page h (Keyset.le_cursor k)]
  rfl

/-- All entries up to the first empty response are those of the stream, in order. -/
theorem flatMap_entries (h : DistinctAbove t u 0) {n : ℕ}
    (hn : entries (responseAt t counters u limits n) = []) :
    ((List.range n).flatMap fun k => entries (responseAt t counters u limits k)) =
      (stream t u 0).map (Row.toEntry u) := by
  rw [entries_responseAt h, List.map_eq_nil_iff] at hn
  have hpages := Keyset.flatMap_pages (stream_pairwise h)
    (fun k => normalizeLimit_pos (limits k)) hn
  rw [filter_stream h le_rfl] at hpages
  rw [← hpages, List.map_flatMap]
  exact congrArg (fun f => (List.range n).flatMap f) (funext fun k => entries_responseAt h k)

/-- **Paging is exact.**  Let the positive PTS in the stream of `u` be pairwise distinct.  A client
that starts at `0` and calls `GetDiff` on the unchanged table with any limits, each time with the PTS
of the last entry it got, gets an answer each time and an empty one after finitely many calls.  Up
to there it got strictly increasing PTS, and each row of `u` with a positive PTS exactly once and
no other; so if all PTS of `u` are positive, as those of a counter are, each row where `u` is sender
or receiver exactly once. -/
theorem paging_exact (t : Table) (counters : String → Option Int) (u : String) (limits : ℕ → Int)
    (h : DistinctAbove t u 0) :
    (∀ k, ∃ res, responseAt t counters u limits k = .ok res) ∧
    ∃ n, entries (responseAt t counters u limits n) = [] ∧
      (∀ k < n, entries (responseAt t counters u limits k) ≠ []) ∧
      let received := (List.range n).flatMap fun k => entries (responseAt t counters u limits k)
      (received.Pairwise fun a b => a.ptsFor u < b.ptsFor u) ∧
      received.Perm ((t.filter fun r => r.involves u ∧ 0 < r.ptsFor u).map (Row.toEntry u)) ∧
      ((∀ r ∈ t, r.involves u → 0 < r.ptsFor u) →
        received.Perm ((t.filter fun r => r.involves u).map (Row.toEntry u))) := by
  refine ⟨fun k => ⟨_, fetch_eq ..⟩, ?_⟩
  obtain ⟨n, hn, hlt⟩ := Keyset.exists_page_eq_nil (c := 0) (stream_pairwise h)
    fun k => normalizeLimit_pos (limits k)
  have hempty : entries (responseAt t counters u limits n) = [] := by
    rw [entries_responseAt h]
    exact congrArg (List.map _) hn
  refine ⟨n, hempty, fun k hk => ?_, ?_⟩
  · rw [entries_responseAt h]
    exact fun hnil => hlt k hk (List.map_eq_nil_iff.mp hnil)
  · intro received
    have hreceived : received = (stream t u 0).map (Row.toEntry u) := flatMap_entries h hempty
    have hperm : received.Perm
        ((t.filter fun r => r.involves u ∧ 0 < r.ptsFor u).map (Row.toEntry u)) := by
      rw [hreceived]
      exact stream_perm.map _
    refine ⟨?_, hperm, fun hpos => ?_⟩
    · rw [hreceived, List.pairwise_map]
      refine (stream_pairwise h).imp fun {a b} hab => ?_
      rw [ptsFor_toEntry, ptsFor_toEntry]
      exact hab
    · have hall : (t.filter fun r => r.involves u ∧ 0 < r.ptsFor u) =
          t.filter fun r => r.involves u := by
        refine List.filter_congr fun r hr => ?_
        rw [decide_eq_decide]
        exact and_iff_left_of_imp (hpos r hr)
      rw [← hall]
      exact hperm

/-- Three messages of Alice's, one of them to herself. -/
def aliceTable : Table :=
  [⟨"a", "bob", "alice", "hi", 1, 2, 0⟩, ⟨"b", "alice", "bob", "hello", 1, 2, 0⟩,
    ⟨"c", "alice", "alice", "note", 4, 3, 0⟩]

/-- Alice catches up, asking for one message at a time. -/
theorem paging_exact_aliceTable :
    ∃ n, entries (responseAt aliceTable (fun _ => some 4) "alice" (fun _ => 1) n) = [] := by
  obtain ⟨-, n, hn, -⟩ :=
    paging_exact aliceTable (fun _ => some 4) "alice" (fun _ => 1) (by decide)
  exact ⟨n, hn⟩

end TinyTelegram.MessageService
