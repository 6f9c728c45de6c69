import TinyTelegram.WebClient.Equiv.Wire
import TinyTelegram.WebClient.Storage

/-!
# A page loads what another has saved

`load_saveText`: from the text of `saveState` the constructor of the next page has the PTS and the messages
that were saved, which is what `Client.load` says.
-/

namespace TinyTelegram.WebClient

namespace Storage

open Json (Value)
open Wire (Exact intOf stringOf)

/-! ### Entries -/

/-- An entry as `saveState` may find it. -/
structure Entry.Valid (entry : Entry) : Prop where
  /-- No message of the other literal is pending. -/
  pending : entry.literal = .handleIncomingMessage → entry.message.pending = false
  timestamp : Exact entry.message.timestamp
  pts : ∀ pts, entry.message.pts = some pts → Exact pts

/-- The members of an entry's object. -/
def Entry.members (entry : Entry) : List (String × Value) :=
  [("id", .str entry.message.id), ("senderId", orNull entry.message.senderId),
      ("receiverId", .str entry.message.receiverId), ("content", .str entry.message.content)] ++
    ptsMember entry.literal entry.message.pts ++ [("timestamp", .int entry.message.timestamp)] ++
    pendingMember entry.literal entry.message.pending

theorem lookup_ptsMember (literal : Literal) (pts : Option Int) {name : String} (h : name ≠ "pts") :
    Json.lookup (ptsMember literal pts) name = none := by
  unfold ptsMember
  cases pts with
  | some n => simp [Json.lookup, h.symm]
  | none => cases literal <;> simp [Json.lookup, h.symm]

theorem lookup_pendingMember (literal : Literal) (pending : Bool) {name : String} (h : name ≠ "pending") :
    Json.lookup (pendingMember literal pending) name = none := by
  unfold pendingMember
  cases literal <;> simp [Json.lookup, h.symm]

/-- A name of one of the other members. -/
theorem lookup_members (entry : Entry) {name : String} (hpts : name ≠ "pts") (hpending : name ≠ "pending") :
    Json.lookup entry.members name =
      Json.lookup [("id", .str entry.message.id), ("senderId", orNull entry.message.senderId),
        ("receiverId", .str entry.message.receiverId), ("content", .str entry.message.content),
        ("timestamp", .int entry.message.timestamp)] name := by
  unfold Entry.members
  rw [Json.lookup_append, lookup_pendingMember _ _ hpending, Json.lookup_append, Json.lookup_append,
    lookup_ptsMember _ _ hpts, Option.none_or, Option.none_or, ← Json.lookup_append]
  rfl

/-- **An entry is read as it was.** -/
theorem readEntry_json {entry : Entry} (h : entry.Valid) :
    readEntry entry.json = some (entry.key, entry.message) := by
  have hid : stringOf entry.members "id" = some entry.message.id := by
    unfold stringOf
    rw [lookup_members entry (by decide) (by decide)]
    simp [Json.lookup]
  have hsender : orNullOf entry.members "senderId" = some entry.message.senderId := by
    unfold orNullOf
    rw [lookup_members entry (by decide) (by decide)]
    cases entry.message.senderId <;> simp [Json.lookup, orNull]
  have hreceiver : stringOf entry.members "receiverId" = some entry.message.receiverId := by
    unfold stringOf
    rw [lookup_members entry (by decide) (by decide)]
    simp [Json.lookup]
  have hcontent : stringOf entry.members "content" = some entry.message.content := by
    unfold stringOf
    rw [lookup_members entry (by decide) (by decide)]
    simp [Json.lookup]
  have htimestamp : intOf entry.members "timestamp" = some entry.message.timestamp := by
    have hlookup : Json.lookup entry.members "timestamp" = some (.int entry.message.timestamp) := by
      rw [lookup_members entry (by decide) (by decide)]
      simp [Json.lookup]
    unfold intOf
    rw [hlookup]
    exact if_pos ⟨rfl, h.timestamp⟩
  have hpts : ptsOf entry.members = some entry.message.pts := by
    have hlookup : Json.lookup entry.members "pts" =
        Json.lookup (ptsMember entry.literal entry.message.pts) "pts" := by
      unfold Entry.members
      rw [Json.lookup_append, lookup_pendingMember _ _ (by decide), Json.lookup_append, Json.lookup_append]
      simp [Json.lookup]
    unfold ptsOf
    rw [hlookup]
    cases hm : entry.message.pts with
    | some pts =>
      have hmember : Json.lookup (ptsMember entry.literal (some pts)) "pts" = some (.int pts) := by
        simp [ptsMember, Json.lookup]
      rw [hmember]
      show (Wire.number? ⟨pts, 0⟩).map some = _
      unfold Wire.number?
      rw [if_pos ⟨rfl, h.pts pts hm⟩]
      rfl
    | none => cases entry.literal <;> simp [ptsMember, Json.lookup]
  have hpending : pendingOf entry.members = some entry.message.pending := by
    have hlookup : Json.lookup entry.members "pending" =
        Json.lookup (pendingMember entry.literal entry.message.pending) "pending" := by
      unfold Entry.members
      rw [Json.lookup_append, Json.lookup_append, Json.lookup_append, lookup_ptsMember _ _ (by decide)]
      simp [Json.lookup]
    unfold pendingOf
    rw [hlookup]
    cases hliteral : entry.literal with
    | sendMessage => simp [pendingMember, Json.lookup]
    | handleIncomingMessage => simp [pendingMember, Json.lookup, h.pending hliteral]
  have hmessage : readMessage entry.members = some entry.message := by
    unfold readMessage
    rw [hid, hsender, hreceiver, hcontent, hpts, htimestamp, hpending]
    rfl
  show (readMessage entry.members).map (fun msg => (entry.key, msg)) = _
  rw [hmessage]
  rfl

/-! ### The map -/

/-- A map of entries with different keys has each of them. -/
theorem newMap_apply {entries : List (String × Message)} (hkeys : (entries.map Prod.fst).Nodup)
    (id : String) : newMap entries id = (entries.find? fun entry => entry.1 = id).map Prod.snd := by
  unfold newMap
  induction entries using List.reverseRecOn with
  | nil => rfl
  | append_singleton entries entry ih =>
    rw [List.map_append, List.nodup_append] at hkeys
    obtain ⟨hkeys, -, hdisjoint⟩ := hkeys
    rw [List.foldl_append, List.foldl_cons, List.foldl_nil, Function.update_apply, ih hkeys,
      List.find?_append]
    by_cases hid : id = entry.1
    · have hnone : entries.find? (fun entry' => decide (entry'.1 = id)) = none := by
        refine List.find?_eq_none.mpr fun entry' hmem => ?_
        have hne := hdisjoint entry'.1 (List.mem_map_of_mem hmem) entry.1 (by simp)
        simpa [hid] using hne
      rw [if_pos hid, hnone]
      simp [hid]
    · rw [if_neg hid]
      have hlast : [entry].find? (fun entry' => decide (entry'.1 = id)) = none := by
        simp [Ne.symm hid]
      rw [hlast, Option.or_none]

/-- **A page loads what another has saved.**  The constructor reads from the text of `saveState` the PTS and
the messages that were saved. -/
theorem load_saveText {saved : Saved} {entries : List Entry}
    (hkeys : (entries.map Entry.key).Nodup)
    (hmessages : ∀ id, saved.messages id =
      (entries.find? fun entry => entry.key = id).map Entry.message)
    (hvalid : ∀ entry ∈ entries, entry.Valid) (hpts : Exact saved.localPts) :
    loadText (saveText saved.userId saved.gatewayUrl saved.localPts entries) =
      some ((Client.load (some saved)).localPts, (Client.load (some saved)).messages) := by
  have hentries : (entries.map Entry.json).mapM readEntry =
      some (entries.map fun entry => (entry.key, entry.message)) := by
    clear hkeys hmessages
    induction entries with
    | nil => rfl
    | cons entry entries ih =>
      rw [List.map_cons, List.mapM_cons, readEntry_json (hvalid entry List.mem_cons_self),
        ih fun entry' hmem => hvalid entry' (List.mem_cons_of_mem _ hmem)]
      rfl
  have hmap : newMap (entries.map fun entry => (entry.key, entry.message)) = saved.messages := by
    funext id
    rw [newMap_apply (by rw [List.map_map]; exact hkeys), hmessages, List.find?_map, Option.map_map]
    rfl
  have hlocal : intOf [("userId", orNull saved.userId), ("gatewayUrl", orNull saved.gatewayUrl),
      ("localPts", .int saved.localPts), ("messages", .arr (entries.map Entry.json))] "localPts" =
        some saved.localPts := by
    have hlookup : Json.lookup [("userId", orNull saved.userId), ("gatewayUrl", orNull saved.gatewayUrl),
        ("localPts", .int saved.localPts), ("messages", .arr (entries.map Entry.json))] "localPts" =
          some (.int saved.localPts) := by
      simp [Json.lookup]
    unfold intOf
    rw [hlookup]
    exact if_pos ⟨rfl, hpts⟩
  unfold loadText saveText
  rw [Json.parse_print Wire.style _ rfl]
  simp only [hlocal, Json.lookup, Option.none_or, if_true, Option.some_or, hentries, bind, Option.bind_some,
    hmap, pure]
  rfl

/-- A message of Bob's to Alice, on Alice's page. -/
def bobsMessage : Message where
  id := "m1"
  senderId := some "bob"
  receiverId := "alice"
  content := "hi"
  pts := some 3
  timestamp := 1700000000000
  pending := false

/-- A page that has this message. -/
def alicesState : Saved where
  userId := some "alice"
  gatewayUrl := some "ws://localhost:8081/ws"
  localPts := 3
  messages := fun id => if "m1" = id then some bobsMessage else none

theorem load_saveText_alicesState :
    loadText (saveText alicesState.userId alicesState.gatewayUrl alicesState.localPts
      [⟨.handleIncomingMessage, "m1", bobsMessage⟩]) =
        some (3, fun id => if "m1" = id then some bobsMessage else none) := by
  refine load_saveText (by decide) (fun id => ?_) (fun entry hmem => ?_) (by unfold Exact; decide)
  · show (if "m1" = id then some bobsMessage else none) = _
    by_cases hid : "m1" = id <;> simp [hid]
  · obtain rfl := List.mem_singleton.mp hmem
    refine ⟨fun _ => rfl, by unfold Exact; decide, fun pts hpts => ?_⟩
    obtain rfl := Option.some.inj hpts
    unfold Exact
    decide

end Storage

end TinyTelegram.WebClient
