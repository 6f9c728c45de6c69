import TinyTelegram.Lib.Prog
import TinyTelegram.MessageService.Table

/-!
# The PTS counters

`message-service/store/redis.go`, as programs over the commands the service sends to Redis and
Postgres (and the two local sources of fresh values, the UUID generator and the clock).  How the
stores answer is not said here: it is the business of the systems the programs are run in.
-/

namespace TinyTelegram.MessageService

/-- What the message service asks of its environment. -/
inductive Command where
  /-- `INCR key`. -/
  | incr (key : String)
  /-- `WAIT numReplicas timeoutMs`. -/
  | wait (numReplicas timeoutMs : Int)
  /-- `GET key`. -/
  | get (key : String)
  /-- `uuid.NewString()`. -/
  | newString
  /-- The `INSERT` of `PersistMessage`. -/
  | insert (id senderId receiverId content : String) (senderPts receiverPts : Int)
  /-- The `SELECT` of `GetDiff`. -/
  | query (userId : String) (clientPts limit : Int)
  /-- `time.Now().UnixMilli()`. -/
  | now

/-- The reply to a command; a failed command is answered with the text of its error. -/
@[reducible] def Reply : Command → Type
  | .incr _ => Except String Int
  | .wait _ _ => Except String Int
  | .get _ => Except String (Option Int)
  | .newString => String
  | .insert .. => Except String Unit
  | .query .. => Except String (List DiffRow)
  | .now => Int

/-- Programs of the message service. -/
abbrev Remote := Prog Command Reply

def incr (key : String) : Remote (Except String Int) := Prog.lift (Command.incr key)

def wait (numReplicas timeoutMs : Int) : Remote (Except String Int) :=
  Prog.lift (Command.wait numReplicas timeoutMs)

def get (key : String) : Remote (Except String (Option Int)) := Prog.lift (Command.get key)

def newString : Remote String := Prog.lift Command.newString

def insert (id senderId receiverId content : String) (senderPts receiverPts : Int) :
    Remote (Except String Unit) :=
  Prog.lift (Command.insert id senderId receiverId content senderPts receiverPts)

def query (userId : String) (clientPts limit : Int) : Remote (Except String (List DiffRow)) :=
  Prog.lift (Command.query userId clientPts limit)

def now : Remote Int := Prog.lift Command.now

/-- The key of a user's counter, `user:%s:pts`. -/
def ptsKey (userID : String) : String := "user:" ++ userID ++ ":pts"

/-- Different users have different counters. -/
@[simp] theorem ptsKey_inj {u v : String} : ptsKey u = ptsKey v ↔ u = v := by
  simp [ptsKey]

def errPTSNotDurable : String := "PTS not durable: Redis WAIT did not receive replica ack"

/-- The key the benchmark handler increments, outside of any message. -/
def benchmarkKey : String := ptsKey "benchmark-user"

def nextUserPTS (userID : String) : Remote (Except String Int) := incr (ptsKey userID)

/-- An absent counter (`redis.Nil`) reads as `0`. -/
def getUserPTS (userID : String) : Remote (Except String Int) := do
  match ← get (ptsKey userID) with
  | .error err => return .error err
  | .ok none => return .ok 0
  | .ok (some val) => return .ok val

/-- Increment the receiver's and the sender's counter, then ask with a single `WAIT` whether a
replica has acknowledged. -/
def allocatePTSWithWait (receiverID senderID : String) (timeoutMs : Int) :
    Remote (Except String (Int × Int)) := do
  match ← incr (ptsKey receiverID) with
  | .error err => return .error ("incr receiver: " ++ err)
  | .ok receiverPTS =>
    match ← incr (ptsKey senderID) with
    | .error err => return .error ("incr sender: " ++ err)
    | .ok senderPTS =>
      match ← wait 1 timeoutMs with
      | .error err => return .error ("wait: " ++ err)
      | .ok acked =>
        if acked < 1 then return .error errPTSNotDurable
        return .ok (receiverPTS, senderPTS)

end TinyTelegram.MessageService
