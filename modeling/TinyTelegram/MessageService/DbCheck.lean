import Mathlib.Data.List.Dedup
import TinyTelegram.MessageService.Table

/-!
# The audit of the table

The queries of `message-service/cmd/dbcheck`, which look for PTS that occur twice and for gaps in those
of a receiver.  SQL leaves the order of groups and of rows with equal keys open, so what a query prints is
a relation.
-/

namespace TinyTelegram.MessageService

namespace DbCheck

/-! ### Duplicates -/

/-- `SELECT user, pts, count(*) GROUP BY 1, 2 HAVING count(*) > 1`, for the columns of a role. -/
def duplicates (t : Table) (role : Role) : List ((String × Int) × ℕ) :=
  ((t.map fun r => r.slot role).dedup.map fun slot =>
    (slot, (t.map fun r => r.slot role).count slot)).filter fun x => 1 < x.2

/-- `LIMIT 10`. -/
def PrintsDuplicates (t : Table) (role : Role) (out : List ((String × Int) × ℕ)) : Prop :=
  ∃ l : List ((String × Int) × ℕ), l.Perm (duplicates t role) ∧ out = l.take 10

/-! ### Gaps -/

/-- `LAG(x)` over rows in order, the first of which comes after `prev`. -/
def lag : Option Int → List Int → List (Option Int × Int)
  | _, [] => []
  | prev, x :: l => (prev, x) :: lag (some x) l

/-- `receiver_pts` in the partition of a receiver, in order. -/
def partition (t : Table) (u : String) : List Int :=
  ((t.filter fun r => r.receiverId = u).map Row.receiverPts).insertionSort (· ≤ ·)

/-- A row of the query. -/
structure Gap where
  receiverId : String
  prev : Int
  receiverPts : Int
  gap : Int
  deriving DecidableEq, Repr

/-- `WHERE receiver_pts - prev > 1`, which the first row of a partition does not satisfy. -/
def gap? (u : String) (x : Option Int × Int) : Option Gap :=
  x.1.bind fun prev => if x.2 - prev > 1 then some ⟨u, prev, x.2, x.2 - prev⟩ else none

/-- The rows of the query. -/
def gaps (t : Table) : List Gap :=
  (t.map Row.receiverId).dedup.flatMap fun u => (lag none (partition t u)).filterMap (gap? u)

/-- `ORDER BY gap DESC LIMIT 20`. -/
def Prints (t : Table) (out : List Gap) : Prop :=
  ∃ l : List Gap, l.Perm (gaps t) ∧ l.Pairwise (fun a b => b.gap ≤ a.gap) ∧ out = l.take 20

end DbCheck

end TinyTelegram.MessageService
