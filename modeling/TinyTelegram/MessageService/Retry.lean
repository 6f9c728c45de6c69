import Mathlib.Logic.Function.Basic
import TinyTelegram.MessageService.Server

/-!
# Trying again

A client whose message was refused with `Unavailable` sends it again.  Here it does so against stores
that nobody else uses, and whose counters may be behind the table: every command of an attempt is
executed and answered, and an `INSERT` fails only by a constraint of the table.
-/

namespace TinyTelegram.MessageService

/-- The table, and the counters in Redis. -/
structure Stores where
  table : Table
  value : String → Int

/-- What an attempt gets from elsewhere: its UUID, the answer to `WAIT`, the database clock at the
`INSERT` and the clock of the service. -/
structure Draw where
  msgID : String
  acked : Int
  createdAt : Int
  now : Int

/-- The replies of the stores, and what becomes of them. -/
def answer (d : Draw) (s : Stores) : (c : Command) → Reply c × Stores
  | .incr key =>
    (.ok (s.value key + 1), { s with value := Function.update s.value key (s.value key + 1) })
  | .wait _ _ => (.ok d.acked, s)
  | .get key => (.ok (if s.value key = 0 then none else some (s.value key)), s)
  | .newString => (d.msgID, s)
  | .insert id senderId receiverId content senderPts receiverPts =>
    match violatedConstraint s.table
        ⟨id, senderId, receiverId, content, senderPts, receiverPts, d.createdAt⟩ with
    | some c => (.error (uniqueViolationText c), s)
    | none =>
      (.ok (), { s with table := s.table ++
        [⟨id, senderId, receiverId, content, senderPts, receiverPts, d.createdAt⟩] })
  | .query userId clientPts limit => (.ok (selectDiff s.table userId clientPts limit), s)
  | .now => (d.now, s)

/-- One attempt: what `PersistMessage` returns, and the stores after it. -/
def attempt (msg : ChatMessage) (d : Draw) (s : Stores) :
    Except Status PersistedMessage × Stores :=
  (persistMessage msg).exec (answer d) s

/-- The stores before the `k`-th attempt. -/
def storesAt (msg : ChatMessage) (draws : ℕ → Draw) (s : Stores) : ℕ → Stores
  | 0 => s
  | k + 1 => (attempt msg (draws k) (storesAt msg draws s k)).2

/-- What the `k`-th attempt returns. -/
def attemptAt (msg : ChatMessage) (draws : ℕ → Draw) (s : Stores) (k : ℕ) :
    Except Status PersistedMessage :=
  (attempt msg (draws k) (storesAt msg draws s k)).1

/-- The largest PTS that a row holds for the user in a role, `0` if there is none. -/
def maxPts (t : Table) (role : Role) (user : String) : Int :=
  ((t.filter fun r => (r.slot role).1 = user).map fun r => (r.slot role).2).max?.getD 0

end TinyTelegram.MessageService
