import TinyTelegram.MessageService.Equiv.DbCheck
import TinyTelegram.MessageService.Migrations

/-!
# What the migrations leave

`runMigrations` is executed anew by every service that starts, and may stop after any file.  A database that
has the constraints keeps them, and one that does not have them yet gets both or none.

* `runMigrations_ok_iff`: the migration of a database without the constraints succeeds exactly if `dbcheck`
  prints no duplicates, and changes no row.
* `migrated`: whatever services start, are cut off and start again, on a database without duplicates none of
  their migrations fails, and on one with duplicates no service ever serves; so that an `INSERT` is always
  checked against the primary key and both constraints.
-/

namespace TinyTelegram.MessageService

namespace Migrations

open Lts
open Service (Constrained)

theorem names_eq : names = ["001_init.sql", "002_add_unique_pts.sql"] := by decide

/-- The two UNIQUE constraints, in the order in which the second file adds them. -/
def constraints : List (String × Role) :=
  [("uniq_receiver_pts", .receiver), ("uniq_sender_pts", .sender)]

/-- The table has none of the two constraints, and their names are free. -/
structure Messages.Bare (m : Messages) : Prop where
  ids : (m.rows.map Row.id).Nodup
  unique : m.unique = []
  indexes : ∀ c ∈ constraints, c.1 ∉ m.indexes

/-- The table has both constraints, and its rows satisfy them. -/
structure Messages.Guarded (m : Messages) : Prop where
  rows : Constrained m.rows
  unique : m.unique = constraints
  indexes : ∀ c ∈ constraints, c.1 ∈ m.indexes

/-! ### The first file -/

/-- An index that is there or is made. -/
def withIndex (m : Messages) (name : String) : Messages :=
  if name ∈ m.indexes then m else { m with indexes := m.indexes ++ [name] }

theorem withIndex_rows (m : Messages) (name : String) : (withIndex m name).rows = m.rows := by
  unfold withIndex
  split_ifs <;> rfl

theorem withIndex_unique (m : Messages) (name : String) : (withIndex m name).unique = m.unique := by
  unfold withIndex
  split_ifs <;> rfl

/-- The other indexes stay as they are. -/
theorem mem_withIndex {m : Messages} {name name' : String} (hne : name' ≠ name) :
    name' ∈ (withIndex m name).indexes ↔ name' ∈ m.indexes := by
  unfold withIndex
  split_ifs
  · rfl
  · simp [hne]

theorem Messages.Bare.withIndex {m : Messages} (h : m.Bare) {name : String}
    (hname : ∀ c ∈ constraints, c.1 ≠ name) : (withIndex m name).Bare where
  ids := by
    rw [withIndex_rows]
    exact h.ids
  unique := by
    rw [withIndex_unique]
    exact h.unique
  indexes c hc := by
    rw [mem_withIndex (hname c hc)]
    exact h.indexes c hc

theorem Messages.Guarded.withIndex {m : Messages} (h : m.Guarded) {name : String}
    (hname : ∀ c ∈ constraints, c.1 ≠ name) : (withIndex m name).Guarded where
  rows := by
    rw [withIndex_rows]
    exact h.rows
  unique := by
    rw [withIndex_unique]
    exact h.unique
  indexes c hc := by
    rw [mem_withIndex (hname c hc)]
    exact h.indexes c hc

/-- The table after the first file. -/
def afterInit (m : Option Messages) : Messages :=
  withIndex (withIndex (m.getD ⟨[], ["messages_pkey"], []⟩) "idx_messages_receiver_pts")
    "idx_messages_sender_pts"

theorem afterInit_rows (m : Option Messages) :
    (afterInit m).rows = (m.map Messages.rows).getD [] := by
  unfold afterInit
  rw [withIndex_rows, withIndex_rows]
  cases m <;> rfl

/-- A table without the constraints has none after the first file. -/
theorem bare_afterInit {m : Option Messages} (h : ∀ m', m = some m' → m'.Bare) : (afterInit m).Bare := by
  have hstart : (m.getD ⟨[], ["messages_pkey"], []⟩).Bare := by
    cases m with
    | none => exact ⟨List.nodup_nil, rfl, by decide⟩
    | some m' => exact h m' rfl
  exact (hstart.withIndex (by decide)).withIndex (by decide)

/-- A table with the constraints keeps them. -/
theorem guarded_afterInit {m : Messages} (h : m.Guarded) : (afterInit (some m)).Guarded :=
  (Messages.Guarded.withIndex h (by decide)).withIndex (by decide)

theorem execStatement_createTable (db : Database) : execStatement db .createTable =
    .ok { db with messages := some (db.messages.getD ⟨[], ["messages_pkey"], []⟩) } := by
  obtain ⟨pgcrypto, messages⟩ := db
  cases messages <;> rfl

theorem execStatement_createIndex (pgcrypto : Bool) (m : Messages) (name : String) :
    execStatement ⟨pgcrypto, some m⟩ (.createIndex name) = .ok ⟨pgcrypto, some (withIndex m name)⟩ := by
  show (if name ∈ m.indexes then _ else _) = _
  unfold withIndex
  split_ifs <;> rfl

/-- **The first file never fails.** -/
theorem execFile_init (db : Database) :
    execFile db "001_init.sql" = .ok ⟨true, some (afterInit db.messages)⟩ := by
  have hfile : migrationFS.lookup "001_init.sql" = some [.createExtension, .createTable,
      .createIndex "idx_messages_receiver_pts", .createIndex "idx_messages_sender_pts"] := by decide
  have hextension : execStatement db .createExtension = .ok ⟨true, db.messages⟩ := rfl
  unfold execFile
  rw [hfile]
  simp only [List.foldlM_cons, List.foldlM_nil, hextension, execStatement_createTable,
    execStatement_createIndex, bind, Except.bind, pure, Except.pure]
  rfl

/-! ### The second file -/

/-- The rows have no two values of a slot. -/
abbrev Distinct (t : Table) (role : Role) : Prop := (t.map fun r => r.slot role).Nodup

/-- The second file on a table without the constraints. -/
theorem execFile_bare {db : Database} {m : Messages} (hdb : db.messages = some m) (hm : m.Bare) :
    execFile db "002_add_unique_pts.sql" =
      if Distinct m.rows .receiver then
        if Distinct m.rows .sender then
          .ok { db with messages := some { m with
            indexes := m.indexes ++ ["uniq_receiver_pts", "uniq_sender_pts"]
            unique := constraints } }
        else .error ("exec 002_add_unique_pts.sql: pq: could not create unique index " ++
          "\"uniq_sender_pts\"")
      else .error ("exec 002_add_unique_pts.sql: pq: could not create unique index " ++
        "\"uniq_receiver_pts\"") := by
  have hfile : migrationFS.lookup "002_add_unique_pts.sql" = some
      [.addUnique "uniq_receiver_pts" .receiver, .addUnique "uniq_sender_pts" .sender] := by decide
  have hreceiver : "uniq_receiver_pts" ∉ m.indexes := hm.indexes _ (by decide : ("uniq_receiver_pts",
    Role.receiver) ∈ constraints)
  have hsender : "uniq_sender_pts" ∉ m.indexes ++ ["uniq_receiver_pts"] := by
    rw [List.mem_append, not_or]
    exact ⟨hm.indexes _ (by decide : ("uniq_sender_pts", Role.sender) ∈ constraints), by decide⟩
  obtain ⟨pgcrypto, messages⟩ := db
  obtain rfl : messages = some m := hdb
  unfold execFile
  rw [hfile]
  simp only [List.foldlM_cons, List.foldlM_nil, bind, Except.bind, pure, Except.pure, execStatement,
    if_neg hreceiver]
  by_cases hr : Distinct m.rows .receiver
  · rw [if_pos hr, if_pos hr]
    simp only [if_neg hsender]
    by_cases hs : Distinct m.rows .sender
    · rw [if_pos hs, if_pos hs]
      simp only [hm.unique, List.nil_append, List.append_assoc, List.cons_append]
      rfl
    · rw [if_neg hs, if_neg hs]
      rfl
  · rw [if_neg hr, if_neg hr]
    rfl

/-- The second file on a table with the constraints. -/
theorem execFile_guarded {db : Database} {m : Messages} (hdb : db.messages = some m) (hm : m.Guarded) :
    execFile db "002_add_unique_pts.sql" = .ok db := by
  have hfile : migrationFS.lookup "002_add_unique_pts.sql" = some
      [.addUnique "uniq_receiver_pts" .receiver, .addUnique "uniq_sender_pts" .sender] := by decide
  have hreceiver : "uniq_receiver_pts" ∈ m.indexes := hm.indexes _ (by decide : ("uniq_receiver_pts",
    Role.receiver) ∈ constraints)
  have hsender : "uniq_sender_pts" ∈ m.indexes := hm.indexes _ (by decide : ("uniq_sender_pts",
    Role.sender) ∈ constraints)
  obtain ⟨pgcrypto, messages⟩ := db
  obtain rfl : messages = some m := hdb
  unfold execFile
  rw [hfile]
  simp only [List.foldlM_cons, List.foldlM_nil, bind, Except.bind, pure, Except.pure, execStatement,
    if_pos hreceiver, if_pos hsender]

/-- The table after the second file has been executed. -/
theorem guarded_of_execFile {db db' : Database} {m : Messages} (hdb : db.messages = some m)
    (hm : m.Bare ∨ m.Guarded) (h : execFile db "002_add_unique_pts.sql" = .ok db') :
    ∃ m', db'.messages = some m' ∧ m'.Guarded ∧ m'.rows = m.rows := by
  rcases hm with hbare | hguarded
  · rw [execFile_bare hdb hbare] at h
    split_ifs at h with hr hs
    obtain rfl := Except.ok.inj h
    refine ⟨_, rfl, ⟨⟨hbare.ids, fun role => ?_⟩, rfl, by simp [constraints]⟩, rfl⟩
    cases role with
    | receiver => exact hr
    | sender => exact hs
  · rw [execFile_guarded hdb hguarded] at h
    obtain rfl := Except.ok.inj h
    exact ⟨m, hdb, hguarded, rfl⟩

/-! ### One migration -/

theorem distinct_iff {t : Table} {role : Role} :
    Distinct t role ↔ DbCheck.PrintsDuplicates t role [] := by
  have hnil : Distinct t role ↔ DbCheck.duplicates t role = [] := by
    unfold DbCheck.duplicates Distinct
    rw [List.filter_eq_nil_iff, List.nodup_iff_count_le_one]
    constructor
    · intro h x hx
      obtain ⟨slot, -, rfl⟩ := List.mem_map.mp hx
      simpa using h slot
    · intro h slot
      by_cases hslot : slot ∈ t.map fun r => r.slot role
      · have hcount := h _ (List.mem_map.mpr ⟨slot, List.mem_dedup.mpr hslot, rfl⟩)
        simpa using hcount
      · rw [List.count_eq_zero_of_not_mem hslot]
        exact Nat.zero_le 1
  rw [hnil]
  constructor
  · intro h
    exact ⟨[], by rw [h], rfl⟩
  · rintro ⟨l, hperm, hout⟩
    have hl : l = [] := by
      rcases List.take_eq_nil_iff.mp hout.symm with h10 | hl
      · cases h10
      · exact hl
    rw [hl] at hperm
    exact hperm.symm.eq_nil

/-- **When the migration succeeds.**  On a table without the constraints, `runMigrations` succeeds exactly if
`dbcheck` prints no duplicates of either kind.  It changes no row either way; if it succeeds the table has
both constraints, and otherwise none. -/
theorem runMigrations_ok_iff {db : Database} {m : Messages} (hdb : db.messages = some m) (hm : m.Bare) :
    ((runMigrations db).1 = .ok () ↔
      ∀ role, DbCheck.PrintsDuplicates m.rows role []) ∧
    ∃ m', (runMigrations db).2.messages = some m' ∧ m'.rows = m.rows ∧
      ((runMigrations db).1 = .ok () → m'.Guarded) ∧ ((runMigrations db).1 ≠ .ok () → m'.Bare) := by
  have hbare : (afterInit db.messages).Bare := by
    refine bare_afterInit fun m' hm' => ?_
    obtain rfl := Option.some.inj (hdb.symm.trans hm')
    exact hm
  have hrows : (afterInit db.messages).rows = m.rows := by
    rw [afterInit_rows, hdb]
    rfl
  have hrun : ∀ db', execFile ⟨true, some (afterInit db.messages)⟩ "002_add_unique_pts.sql" = .ok db' →
      runMigrations db = (.ok (), db') := by
    intro db' hexec
    unfold runMigrations
    rw [names_eq, execFiles, execFile_init]
    simp [execFiles, hexec]
  have hrun' : ∀ err, execFile ⟨true, some (afterInit db.messages)⟩ "002_add_unique_pts.sql" = .error err →
      runMigrations db = (.error err, ⟨true, some (afterInit db.messages)⟩) := by
    intro err hexec
    unfold runMigrations
    rw [names_eq, execFiles, execFile_init]
    simp [execFiles, hexec]
  have hboth : (∀ role, DbCheck.PrintsDuplicates m.rows role []) ↔
      Distinct m.rows .receiver ∧ Distinct m.rows .sender := by
    rw [distinct_iff, distinct_iff]
    constructor
    · exact fun h => ⟨h .receiver, h .sender⟩
    · rintro ⟨hr, hs⟩ role
      cases role with
      | receiver => exact hr
      | sender => exact hs
  rw [hboth]
  cases hexec : execFile ⟨true, some (afterInit db.messages)⟩ "002_add_unique_pts.sql" with
  | ok db' =>
    rw [hrun db' hexec]
    obtain ⟨m', hm', hguarded, hrows'⟩ := guarded_of_execFile rfl (.inl hbare) hexec
    have hdistinct := hguarded.rows.slot_nodup
    rw [hrows', hrows] at hdistinct
    exact ⟨⟨fun _ => ⟨hdistinct .receiver, hdistinct .sender⟩, fun _ => rfl⟩, m', hm', hrows'.trans hrows,
      fun _ => hguarded, fun hne => absurd rfl hne⟩
  | error err =>
    rw [hrun' err hexec]
    rw [execFile_bare rfl hbare, hrows] at hexec
    refine ⟨⟨(fun heq => by cases heq), fun hdistinct => ?_⟩, _, rfl, hrows, (fun heq => by cases heq),
      fun _ => hbare⟩
    rw [if_pos hdistinct.1, if_pos hdistinct.2] at hexec
    cases hexec

/-- A table of the first file alone, in which a PTS of Alice's occurs twice. -/
def legacyMessages (secondPts : Int) : Messages where
  rows := [⟨"m1", "bob", "alice", "hi", 1, 7, 0⟩, ⟨"m2", "carol", "alice", "hello", 1, secondPts, 0⟩]
  indexes := ["messages_pkey", "idx_messages_receiver_pts", "idx_messages_sender_pts"]
  unique := []

theorem bare_legacyMessages (secondPts : Int) : (legacyMessages secondPts).Bare :=
  ⟨by simp [legacyMessages], rfl, by simp [legacyMessages, constraints]⟩

theorem runMigrations_ok_iff_legacyMessages :
    (runMigrations ⟨false, some (legacyMessages 8)⟩).1 = .ok () ∧
    (runMigrations ⟨false, some (legacyMessages 7)⟩).1 =
      .error "exec 002_add_unique_pts.sql: pq: could not create unique index \"uniq_receiver_pts\"" := by
  constructor
  · refine (runMigrations_ok_iff rfl (bare_legacyMessages 8)).1.mpr fun role => distinct_iff.mp ?_
    cases role <;> decide
  · decide

/-! ### Any number of services -/

/-- The rows of the table, if there is one. -/
def Database.rows (db : Database) : Table := (db.messages.map Messages.rows).getD []

/-- No PTS of a user occurs twice in a role. -/
def Clean (db : Database) : Prop := ∀ role, Distinct db.rows role

/-- A database as the two files leave it, or one of them: without the table, without the constraints, or with
both. -/
def WellFormed (db : Database) : Prop := ∀ m, db.messages = some m → m.Bare ∨ m.Guarded

/-- What holds of a process that has got so far. -/
def Passed (s : State) : Process → Prop
  | .down => True
  | .migrating rest => rest = names ∨ rest = ["002_add_unique_pts.sql"] ∧ s.db.messages ≠ none ∨
    rest = [] ∧ ∃ m, s.db.messages = some m ∧ m.Guarded
  | .serving => ∃ m, s.db.messages = some m ∧ m.Guarded

/-- What holds in every state that is reached from the database `db`: until the constraints are there, the
rows are those of `db`. -/
structure Inv (db : Database) (s : State) : Prop where
  wellFormed : WellFormed s.db
  before : (∀ m, s.db.messages = some m → m.Bare) → s.db.rows = db.rows
  clean : ∀ m, s.db.messages = some m → m.Guarded → Clean db
  passed : ∀ n, Passed s (s.processes n)

/-- A table that has the constraints is not one without. -/
theorem Messages.Guarded.not_bare {m : Messages} (h : m.Guarded) : ¬ m.Bare := by
  intro hbare
  have hunique := h.unique.symm.trans hbare.unique
  cases hunique

/-- What a process has passed is not undone by a database that only gains. -/
theorem Passed.mono {s t : State} {p : Process} (h : Passed s p)
    (htable : s.db.messages ≠ none → t.db.messages ≠ none)
    (hguarded : (∃ m, s.db.messages = some m ∧ m.Guarded) → ∃ m, t.db.messages = some m ∧ m.Guarded) :
    Passed t p := by
  cases p with
  | down => trivial
  | migrating rest =>
    rcases h with hall | ⟨hrest, hne⟩ | ⟨hrest, hm⟩
    · exact .inl hall
    · exact .inr (.inl ⟨hrest, htable hne⟩)
    · exact .inr (.inr ⟨hrest, hguarded hm⟩)
  | serving => exact hguarded h

theorem rows_of_messages {db : Database} {m : Messages} (h : db.messages = some m) : db.rows = m.rows := by
  unfold Database.rows
  rw [h]
  rfl

/-- What the execution of a file does to a database. -/
structure Gains (db db' : Database) : Prop where
  wellFormed : WellFormed db'
  rows : db'.rows = db.rows
  table : db'.messages ≠ none
  guarded : (∃ m, db.messages = some m ∧ m.Guarded) → ∃ m, db'.messages = some m ∧ m.Guarded

/-- A file that a process may come to is executed. -/
theorem gains_of_execFile {s : State} (hwf : WellFormed s.db) {name : String} {rest : List String}
    (hp : Passed s (.migrating (name :: rest))) {db' : Database} (hexec : execFile s.db name = .ok db') :
    Gains s.db db' ∧ ∀ processes, Passed ⟨db', processes⟩ (.migrating rest) := by
  rcases hp with hall | ⟨hrest, htable⟩ | ⟨hnil, -⟩
  · rw [names_eq] at hall
    obtain ⟨rfl, rfl⟩ := List.cons.inj hall
    rw [execFile_init] at hexec
    obtain rfl := Except.ok.inj hexec
    have hguarded : ∀ m, s.db.messages = some m → m.Guarded → (afterInit s.db.messages).Guarded := by
      intro m hm hguarded
      rw [hm]
      exact guarded_afterInit hguarded
    refine ⟨⟨fun m hm => ?_, ?_, Option.some_ne_none _, ?_⟩, fun _ => .inr (.inl ⟨rfl,
      Option.some_ne_none _⟩)⟩
    · obtain rfl := Option.some.inj hm
      by_cases hg : ∃ m, s.db.messages = some m ∧ m.Guarded
      · obtain ⟨m, hm, hg⟩ := hg
        exact .inr (hguarded m hm hg)
      · exact .inl (bare_afterInit fun m hm => (hwf m hm).resolve_right fun hg' => hg ⟨m, hm, hg'⟩)
    · exact (rows_of_messages rfl).trans (afterInit_rows _)
    · rintro ⟨m, hm, hg⟩
      exact ⟨_, rfl, hguarded m hm hg⟩
  · obtain ⟨rfl, rfl⟩ := List.cons.inj hrest
    obtain ⟨m, hm⟩ := Option.ne_none_iff_exists'.mp htable
    obtain ⟨m', hm', hguarded, hrows⟩ := guarded_of_execFile hm (hwf m hm) hexec
    refine ⟨⟨fun m'' hm'' => ?_, ?_, ?_, fun _ => ⟨m', hm', hguarded⟩⟩,
      fun _ => .inr (.inr ⟨rfl, m', hm', hguarded⟩)⟩
    · obtain rfl := Option.some.inj (hm'.symm.trans hm'')
      exact .inr hguarded
    · rw [rows_of_messages hm', rows_of_messages hm, hrows]
    · rw [hm']
      exact Option.some_ne_none m'
  · cases hnil

/-- A process moves on, and the database gains. -/
theorem Inv.gain {db db' : Database} {s : State} (h : Inv db s) (hgains : Gains s.db db') {n : ℕ}
    {p : Process} (hp : ∀ processes, Passed ⟨db', processes⟩ p) :
    Inv db ⟨db', Function.update s.processes n p⟩ := by
  have hbare : (∀ m, db'.messages = some m → m.Bare) → ∀ m, s.db.messages = some m → m.Bare := by
    intro hall m hm
    refine (h.wellFormed m hm).resolve_right fun hguarded => ?_
    obtain ⟨m', hm', hguarded'⟩ := hgains.guarded ⟨m, hm, hguarded⟩
    exact hguarded'.not_bare (hall m' hm')
  refine ⟨hgains.wellFormed, fun hall => ?_, fun m' hm' hguarded => ?_, fun k => ?_⟩
  · show db'.rows = db.rows
    rw [hgains.rows]
    exact h.before (hbare hall)
  · by_cases hg : ∃ m, s.db.messages = some m ∧ m.Guarded
    · obtain ⟨m, hm, hg⟩ := hg
      exact h.clean m hm hg
    · -- the constraints are new, and were added to the rows of `db`
      have hrows := h.before fun m hm => (h.wellFormed m hm).resolve_right fun hg' => hg ⟨m, hm, hg'⟩
      intro role
      have hdistinct := hguarded.rows.slot_nodup role
      rw [← rows_of_messages hm', hgains.rows, hrows] at hdistinct
      exact hdistinct
  · show Passed _ (Function.update s.processes n p k)
    rw [Function.update_apply]
    split_ifs
    · exact hp _
    · exact (h.passed k).mono (fun _ => hgains.table) hgains.guarded

/-- A process moves on, and the database stays as it is. -/
theorem Inv.setProcess {db : Database} {s : State} (h : Inv db s) {n : ℕ} {p : Process}
    (hp : Passed s p) : Inv db (s.setProcess n p) := by
  refine ⟨h.wellFormed, h.before, h.clean, fun k => ?_⟩
  show Passed _ (Function.update s.processes n p k)
  rw [Function.update_apply]
  split_ifs
  · exact hp.mono id id
  · exact (h.passed k).mono id id

/-- The constraints of a guarded table are those that the primary key and `violatedConstraint` stand for. -/
theorem violated_eq {m : Messages} (h : m.Guarded) (r : Row) :
    m.violated r = violatedConstraint m.rows r := by
  unfold Messages.violated violatedConstraint
  rw [h.unique]
  simp only [constraints, List.find?_cons, List.find?_nil, Row.slot, Prod.mk.injEq]
  generalize (m.rows.any fun r' =>
    decide (r'.receiverId = r.receiverId ∧ r'.receiverPts = r.receiverPts)) = receiver
  generalize (m.rows.any fun r' =>
    decide (r'.senderId = r.senderId ∧ r'.senderPts = r.senderPts)) = sender
  congr 1
  cases receiver <;> cases sender <;> rfl

theorem insert_eq {m : Messages} (h : m.Guarded) (r : Row) : m.insert r =
    match violatedConstraint m.rows r with
    | some c => .error (uniqueViolationText c)
    | none => .ok { m with rows := m.rows ++ [r] } := by
  have hviolated := violated_eq h r
  unfold Messages.insert
  cases hr : violatedConstraint m.rows r with
  | none => rw [hviolated, hr]
  | some c => rw [hviolated, hr]

/-- A row is inserted into a guarded table. -/
theorem guarded_insert {m m' : Messages} (h : m.Guarded) {r : Row} (hinsert : m.insert r = .ok m') :
    m'.Guarded := by
  rw [insert_eq h] at hinsert
  split at hinsert
  · cases hinsert
  · rename_i hnone
    obtain rfl := Except.ok.inj hinsert
    exact ⟨h.rows.concat hnone, h.unique, h.indexes⟩

theorem Inv.step {db : Database} {s t : State} {e : Event} (h : Inv db s)
    (hstep : Migrations.step s e = some t) : Inv db t := by
  cases e with
  | start n =>
    simp only [Migrations.step] at hstep
    split at hstep
    · obtain rfl := Option.some.inj hstep
      exact h.setProcess (.inl rfl)
    · cases hstep
  | exec n out =>
    simp only [Migrations.step] at hstep
    split at hstep
    · rename_i name rest hn
      have hp := h.passed n
      rw [hn] at hp
      split at hstep
      · rename_i db' hexec
        obtain rfl := Option.some.inj hstep
        obtain ⟨hgains, hpassed⟩ := gains_of_execFile h.wellFormed hp hexec
        exact h.gain hgains hpassed
      · rename_i db' hexec
        obtain rfl := Option.some.inj hstep
        exact h.gain (gains_of_execFile h.wellFormed hp hexec).1 fun _ => trivial
      · obtain rfl := Option.some.inj hstep
        exact h.setProcess trivial
      · obtain rfl := Option.some.inj hstep
        exact h.setProcess trivial
    · cases hstep
  | serve n =>
    simp only [Migrations.step] at hstep
    split at hstep
    · rename_i hn
      obtain rfl := Option.some.inj hstep
      have hp := h.passed n
      rw [hn] at hp
      rcases hp with hall | ⟨hrest, -⟩ | ⟨-, hguarded⟩
      · rw [names_eq] at hall
        cases hall
      · cases hrest
      · exact h.setProcess hguarded
    · cases hstep
  | insert n r =>
    simp only [Migrations.step] at hstep
    split at hstep
    · rename_i m hn hm
      have hguarded : m.Guarded := by
        have hp := h.passed n
        rw [hn] at hp
        obtain ⟨m', hm', hguarded⟩ := hp
        obtain rfl := Option.some.inj (hm.symm.trans hm')
        exact hguarded
      split at hstep
      · rename_i m' hinsert
        obtain rfl := Option.some.inj hstep
        have hguarded' := guarded_insert hguarded hinsert
        refine ⟨fun m'' hm'' => ?_, fun hall => ?_, fun _ _ _ => h.clean m hm hguarded, fun k => ?_⟩
        · obtain rfl := Option.some.inj hm''
          exact .inr hguarded'
        · exact absurd (hall m' rfl) hguarded'.not_bare
        · exact (h.passed k).mono (fun _ => Option.some_ne_none m') fun _ => ⟨m', rfl, hguarded'⟩
      · obtain rfl := Option.some.inj hstep
        exact h
    · obtain rfl := Option.some.inj hstep
      exact h
    · cases hstep
  | kill n =>
    obtain rfl := Option.some.inj hstep
    exact h.setProcess trivial

/-- **Services that start, stop and start again.**  Let any number of services start on a database as the two
files leave it, or one of them, or on an empty one, and each be cut off, fail and start again at any time.  If
the database had no duplicates then no file fails that a service comes to, other than for the connection.  And
a service that serves is a sign that the database had none: every `INSERT` is then answered as the primary key
and the two constraints have it, and the rows always satisfy them. -/
theorem migrated {db : Database} (hdb : WellFormed db) {es : List Event} {s : State}
    (h : (system db).run (system db).init es = some s) :
    (Clean db → ∀ n name rest, s.processes n = .migrating (name :: rest) →
      ∃ db', execFile s.db name = .ok db') ∧
    ∀ n, s.processes n = .serving → Clean db ∧ ∃ m, s.db.messages = some m ∧ Constrained m.rows ∧
      ∀ r, m.insert r = match violatedConstraint m.rows r with
        | some c => .error (uniqueViolationText c)
        | none => .ok { m with rows := m.rows ++ [r] } := by
  have hinv : Inv db s := by
    refine System.invariant (S := system db) (I := Inv db) ?_ (fun _ _ _ ih hstep => ih.step hstep) ⟨es, h⟩
    exact ⟨hdb, fun _ => rfl, fun m hm hguarded role => rows_of_messages hm ▸ hguarded.rows.slot_nodup role,
      fun _ => trivial⟩
  constructor
  · intro hclean n name rest hn
    have hp := hinv.passed n
    rw [hn] at hp
    rcases hp with hall | ⟨hrest, htable⟩ | ⟨hnil, -⟩
    · rw [names_eq] at hall
      obtain ⟨rfl, -⟩ := List.cons.inj hall
      exact ⟨_, execFile_init s.db⟩
    · obtain ⟨rfl, -⟩ := List.cons.inj hrest
      obtain ⟨m, hm⟩ := Option.ne_none_iff_exists'.mp htable
      rcases hinv.wellFormed m hm with hbare | hguarded
      · -- nothing was inserted yet
        have hrows : m.rows = db.rows := by
          rw [← rows_of_messages hm]
          refine hinv.before fun m' hm' => ?_
          obtain rfl := Option.some.inj (hm.symm.trans hm')
          exact hbare
        have hdistinct : ∀ role, Distinct m.rows role := by
          rw [hrows]
          exact hclean
        rw [execFile_bare hm hbare, if_pos (hdistinct .receiver), if_pos (hdistinct .sender)]
        exact ⟨_, rfl⟩
      · exact ⟨_, execFile_guarded hm hguarded⟩
    · cases hnil
  · intro n hn
    have hp := hinv.passed n
    rw [hn] at hp
    obtain ⟨m, hm, hguarded⟩ := hp
    exact ⟨hinv.clean m hm hguarded, m, hm, hguarded.rows, fun r => insert_eq hguarded r⟩

/-- Two services start on an empty database; the first is cut off after the first file. -/
def cutOffRun : List Event :=
  [.start 0, .exec 0 .answered, .start 1, .kill 0, .exec 1 .answered, .start 0, .exec 1 .answered, .serve 1,
    .insert 1 ⟨"m1", "bob", "alice", "hi", 1, 1, 0⟩, .exec 0 .answered]

theorem migrated_cutOffRun : ∃ s,
    (system ⟨false, none⟩).run (system ⟨false, none⟩).init cutOffRun = some s ∧
    s.processes 0 = .migrating ["002_add_unique_pts.sql"] ∧
    (∃ db', execFile s.db "002_add_unique_pts.sql" = .ok db') ∧
    ∃ m, s.db.messages = some m ∧ m.rows.length = 1 := by
  obtain ⟨s, hs⟩ : ∃ s, (system ⟨false, none⟩).run (system ⟨false, none⟩).init cutOffRun = some s :=
    ⟨_, rfl⟩
  have hmigrated := migrated (fun _ hm => by cases hm) hs
  have h0 : s.processes 0 = .migrating ["002_add_unique_pts.sql"] := by
    obtain rfl := Option.some.inj hs
    decide
  refine ⟨s, hs, h0, hmigrated.1 (fun _ => List.nodup_nil) 0 _ _ h0, ?_⟩
  obtain rfl := Option.some.inj hs
  exact ⟨_, rfl, rfl⟩

end Migrations

end TinyTelegram.MessageService
