import TinyTelegram.Proto
import Mathlib.Data.List.Sort

/-!
# The `messages` table

The rows of `messages` with the constraints of the two migrations, and the one query that reads
them.  A table is the list of its rows in commit order.

`id` is the primary key, and `uniq_receiver_pts` and `uniq_sender_pts` are the two UNIQUE
constraints of `002_add_unique_pts.sql`; each of the two covers one role only.  An `INSERT` is
atomic: it checks the constraints against the rows committed so far and then adds the row.
-/

namespace TinyTelegram.MessageService

/-- A row of `messages`.  `createdAt` is the database clock at the `INSERT`, in microseconds. -/
structure Row where
  id : String
  senderId : String
  receiverId : String
  content : String
  senderPts : Int
  receiverPts : Int
  createdAt : Int
  deriving DecidableEq, Repr

abbrev Table := List Row

/-- The two roles in which a user takes part in a message. -/
inductive Role where
  | receiver
  | sender
  deriving DecidableEq, Repr

namespace Row

/-- `receiver_id = $1 OR sender_id = $1`. -/
def involves (u : String) (r : Row) : Prop := r.receiverId = u ∨ r.senderId = u

instance (u : String) (r : Row) : Decidable (r.involves u) :=
  inferInstanceAs (Decidable (_ ∨ _))

/-- `CASE WHEN receiver_id = $1 THEN receiver_pts ELSE sender_pts END`: the PTS of the row in the
stream of user `$1`. -/
def ptsFor (u : String) (r : Row) : Int :=
  if r.receiverId = u then r.receiverPts else r.senderPts

/-- The user and the PTS a row holds in a role. -/
def slot (r : Row) : Role → String × Int
  | .receiver => (r.receiverId, r.receiverPts)
  | .sender => (r.senderId, r.senderPts)

end Row

/-! ### `INSERT` -/

/-- The constraint of the table that adding the row would violate, in the order the indexes were
created. -/
def violatedConstraint (t : Table) (r : Row) : Option String :=
  if t.any fun r' => r'.id = r.id then some "messages_pkey"
  else if t.any fun r' => r'.receiverId = r.receiverId ∧ r'.receiverPts = r.receiverPts then
    some "uniq_receiver_pts"
  else if t.any fun r' => r'.senderId = r.senderId ∧ r'.senderPts = r.senderPts then
    some "uniq_sender_pts"
  else none

/-- The text of the database driver's error for a violated constraint. -/
def uniqueViolationText (constraint : String) : String :=
  "pq: duplicate key value violates unique constraint \"" ++ constraint ++ "\""

/-! ### The query of `GetDiff` -/

/-- A row of the result of the query. -/
structure DiffRow where
  id : String
  senderId : String
  receiverId : String
  content : String
  pts : Int
  createdAt : Int
  deriving DecidableEq, Repr

/-- The columns the query selects. -/
def Row.toDiffRow (u : String) (r : Row) : DiffRow where
  id := r.id
  senderId := r.senderId
  receiverId := r.receiverId
  content := r.content
  pts := r.ptsFor u
  createdAt := r.createdAt

/-- The rows the query selects: those of the user with a PTS above `$2`, in increasing PTS, at
most `$3` of them. -/
def selectRows (t : Table) (u : String) (clientPts limit : Int) : List Row :=
  ((t.filter fun r => r.involves u ∧ clientPts < r.ptsFor u).insertionSort
    fun a b => a.ptsFor u ≤ b.ptsFor u).take limit.toNat

/-- The result of the query. -/
def selectDiff (t : Table) (u : String) (clientPts limit : Int) : List DiffRow :=
  (selectRows t u clientPts limit).map (Row.toDiffRow u)

end TinyTelegram.MessageService
