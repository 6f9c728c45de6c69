import Mathlib.Data.List.Sort
import Mathlib.Logic.Function.Basic
import TinyTelegram.Lib.System
import TinyTelegram.MessageService.Table

/-!
# The migrations

`message-service/store/postgres.go`: `runMigrations`, which every message service runs before it serves, and
the two files that it executes.  Nothing records which files have been executed; each of their statements
looks whether what it makes is there already.

A file is sent as one query, so that Postgres executes all of its statements or none.
-/

namespace TinyTelegram.MessageService

namespace Migrations

/-- The table `messages`: its rows, the names of its indexes, those of the constraints included, and its
UNIQUE constraints in the order in which they were added. -/
structure Messages where
  rows : Table
  indexes : List String
  unique : List (String × Role)
  deriving DecidableEq, Repr

structure Database where
  /-- The extension `pgcrypto`. -/
  pgcrypto : Bool
  messages : Option Messages
  deriving DecidableEq, Repr

/-- The statements of the two files. -/
inductive Statement where
  /-- `CREATE EXTENSION IF NOT EXISTS "pgcrypto"`. -/
  | createExtension
  /-- `CREATE TABLE IF NOT EXISTS messages`. -/
  | createTable
  /-- `CREATE INDEX IF NOT EXISTS`. -/
  | createIndex (name : String)
  /-- `ALTER TABLE messages ADD CONSTRAINT ... UNIQUE` for the columns of a role, in a block that takes
  `duplicate_object` and `duplicate_table` for success. -/
  | addUnique (name : String) (role : Role)
  deriving DecidableEq, Repr

/-- One statement, or the text of the database driver's error. -/
def execStatement (db : Database) : Statement → Except String Database
  | .createExtension => .ok { db with pgcrypto := true }
  | .createTable =>
    match db.messages with
    | some _ => .ok db
    | none => .ok { db with messages := some ⟨[], ["messages_pkey"], []⟩ }
  | .createIndex name =>
    match db.messages with
    | none => .error "pq: relation \"messages\" does not exist"
    | some m =>
      if name ∈ m.indexes then .ok db
      else .ok { db with messages := some { m with indexes := m.indexes ++ [name] } }
  | .addUnique name role =>
    match db.messages with
    | none => .error "pq: relation \"messages\" does not exist"
    | some m =>
      if name ∈ m.indexes then .ok db
      else if (m.rows.map fun r => r.slot role).Nodup then
        .ok { db with messages := some { m with
          indexes := m.indexes ++ [name]
          unique := m.unique ++ [(name, role)] } }
      else .error ("pq: could not create unique index \"" ++ name ++ "\"")

/-- The embedded directory `migrations`. -/
def migrationFS : List (String × List Statement) :=
  [("001_init.sql",
      [.createExtension, .createTable, .createIndex "idx_messages_receiver_pts",
        .createIndex "idx_messages_sender_pts"]),
    ("002_add_unique_pts.sql",
      [.addUnique "uniq_receiver_pts" .receiver, .addUnique "uniq_sender_pts" .sender])]

/-- The names of the files, in order. -/
def names : List String :=
  ((migrationFS.map Prod.fst).filter fun name => ".sql".toList.isSuffixOf name.toList).insertionSort
    (· ≤ ·)

/-- `fs.ReadFile` and `DB.Exec` for one file. -/
def execFile (db : Database) (name : String) : Except String Database :=
  match migrationFS.lookup name with
  | none => .error ("read " ++ name ++ ": open migrations/" ++ name ++ ": file does not exist")
  | some statements =>
    match statements.foldlM execStatement db with
    | .ok db' => .ok db'
    | .error err => .error ("exec " ++ name ++ ": " ++ err)

/-- The loop of `runMigrations`: its result, and the database after it. -/
def execFiles (db : Database) : List String → Except String Unit × Database
  | [] => (.ok (), db)
  | name :: rest =>
    match execFile db name with
    | .ok db' => execFiles db' rest
    | .error err => (.error err, db)

def runMigrations (db : Database) : Except String Unit × Database := execFiles db names

/-- The constraint that a new row violates.  The primary key is checked first, and then the others in the
order in which they were added. -/
def Messages.violated (m : Messages) (r : Row) : Option String :=
  if m.rows.any fun r' => r'.id = r.id then some "messages_pkey"
  else (m.unique.find? fun c => m.rows.any fun r' => r'.slot c.2 = r.slot c.2).map Prod.fst

/-- `INSERT INTO messages`. -/
def Messages.insert (m : Messages) (r : Row) : Except String Messages :=
  match m.violated r with
  | some c => .error (uniqueViolationText c)
  | none => .ok { m with rows := m.rows ++ [r] }

/-! ### The message services -/

/-- A process of the message service. -/
inductive Process where
  /-- Not started, or gone. -/
  | down
  /-- In `runMigrations`, with these files to come. -/
  | migrating (names : List String)
  /-- `InitPostgres` has returned. -/
  | serving
  deriving DecidableEq, Repr

/-- What becomes of a file that is sent to Postgres. -/
inductive Outcome where
  /-- It is executed, and the answer arrives. -/
  | answered
  /-- It is not executed, and `DB.Exec` fails. -/
  | refused
  /-- It is executed, and `DB.Exec` fails. -/
  | lost
  deriving DecidableEq, Repr

structure State where
  db : Database
  processes : ℕ → Process

inductive Event where
  /-- A message service is started. -/
  | start (n : ℕ)
  /-- It sends its next file to Postgres. -/
  | exec (n : ℕ) (out : Outcome)
  /-- `runMigrations` returns. -/
  | serve (n : ℕ)
  /-- It inserts a row. -/
  | insert (n : ℕ) (r : Row)
  /-- It is killed. -/
  | kill (n : ℕ)
  deriving DecidableEq, Repr

namespace State

def setProcess (s : State) (n : ℕ) (p : Process) : State :=
  { s with processes := Function.update s.processes n p }

def setDb (s : State) (db : Database) : State := { s with db := db }

end State

/-- One event.  A process whose migration fails is gone (`log.Fatalf`). -/
def step (s : State) : Event → Option State
  | .start n =>
    match s.processes n with
    | .down => some (s.setProcess n (.migrating names))
    | _ => none
  | .exec n out =>
    match s.processes n with
    | .migrating (name :: rest) =>
      match out, execFile s.db name with
      | .answered, .ok db => some ((s.setDb db).setProcess n (.migrating rest))
      | .lost, .ok db => some ((s.setDb db).setProcess n .down)
      | .refused, _ | _, .error _ => some (s.setProcess n .down)
    | _ => none
  | .serve n =>
    match s.processes n with
    | .migrating [] => some (s.setProcess n .serving)
    | _ => none
  | .insert n r =>
    match s.processes n, s.db.messages with
    | .serving, some m =>
      match m.insert r with
      | .ok m' => some (s.setDb { s.db with messages := some m' })
      | .error _ => some s
    | .serving, none => some s
    | _, _ => none
  | .kill n => some (s.setProcess n .down)

/-- Any number of message services on a database that is there already. -/
def system (db : Database) : Lts.System State Event where
  init := ⟨db, fun _ => .down⟩
  step := step

end Migrations

end TinyTelegram.MessageService
