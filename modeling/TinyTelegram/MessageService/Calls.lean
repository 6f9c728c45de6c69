import TinyTelegram.MessageService.Server

/-!
# Calls in progress

Between two of its commands a call of `PersistMessage` or `GetDiff` is determined by where it
stands and the local variables it needs from there on.  `PersistCall` and `DiffCall` are those
points, and the functions below say how a call goes on with the reply to the command it is
waiting for.  The UUID and the two clocks are read without waiting for anyone, so they come with
the reply of the command next to them.

`Equiv/Calls.lean` shows that these are exactly the programs of `Server.lean`, cut at their
commands.
-/

namespace TinyTelegram.MessageService

/-- Where a call of `PersistMessage` stands.  `alloc` is what `AllocatePTSWithWait` returned to a
call that has ended, `none` if it returned an error. -/
inductive PersistCall where
  /-- Not invoked yet. -/
  | idle
  /-- About to `INCR` the receiver's counter. -/
  | incrReceiver (msg : ChatMessage)
  /-- About to `INCR` the sender's counter. -/
  | incrSender (msg : ChatMessage) (receiverPTS : Int)
  /-- About to `WAIT`. -/
  | wait (msg : ChatMessage) (receiverPTS senderPTS : Int)
  /-- About to `INSERT`. -/
  | insert (msg : ChatMessage) (receiverPTS senderPTS : Int)
  /-- Returned. -/
  | returned (msg : ChatMessage) (alloc : Option (Int × Int)) (res : Except Status PersistedMessage)

namespace PersistCall

/-- The error of a call whose allocation failed with `err`. -/
def notDurable (err : String) : Status := ⟨.unavailable, "PTS not durable: " ++ err⟩

def afterIncrReceiver (msg : ChatMessage) : Except String Int → PersistCall
  | .error err => .returned msg none (.error (notDurable ("incr receiver: " ++ err)))
  | .ok receiverPTS => .incrSender msg receiverPTS

def afterIncrSender (msg : ChatMessage) (receiverPTS : Int) : Except String Int → PersistCall
  | .error err => .returned msg none (.error (notDurable ("incr sender: " ++ err)))
  | .ok senderPTS => .wait msg receiverPTS senderPTS

def afterWait (msg : ChatMessage) (receiverPTS senderPTS : Int) : Except String Int → PersistCall
  | .error err => .returned msg none (.error (notDurable ("wait: " ++ err)))
  | .ok acked =>
    if acked < 1 then .returned msg none (.error (notDurable errPTSNotDurable))
    else .insert msg receiverPTS senderPTS

def afterInsert (msg : ChatMessage) (receiverPTS senderPTS : Int) (msgID : String)
    (serverTimestamp : Int) : Except String Unit → PersistCall
  | .error err =>
    .returned msg (some (receiverPTS, senderPTS)) <| .error <|
      if isUniqueViolation (some err) then ⟨.unavailable, "PTS uniqueness violation, retry"⟩
      else ⟨.internal, "insert message: " ++ err⟩
  | .ok () =>
    .returned msg (some (receiverPTS, senderPTS)) <| .ok {
      id := msgID
      message := some msg
      receiverPts := receiverPTS
      senderPts := senderPTS
      serverTimestamp := serverTimestamp }

/-- The message a call was invoked with. -/
def msg? : PersistCall → Option ChatMessage
  | .idle => none
  | .incrReceiver msg => some msg
  | .incrSender msg _ => some msg
  | .wait msg _ _ => some msg
  | .insert msg _ _ => some msg
  | .returned msg _ _ => some msg

/-- The PTS pair `AllocatePTSWithWait` returned to a call, with the call's message; `none` as long
as it has not returned, or if it returned an error. -/
def allocated? : PersistCall → Option (ChatMessage × Int × Int)
  | .insert msg receiverPTS senderPTS => some (msg, receiverPTS, senderPTS)
  | .returned msg (some (receiverPTS, senderPTS)) _ => some (msg, receiverPTS, senderPTS)
  | _ => none

/-- The call has been invoked and has not returned. -/
def InProgress : PersistCall → Prop
  | .idle | .returned .. => False
  | _ => True

instance : DecidablePred InProgress
  | .idle | .returned .. => isFalse id
  | .incrReceiver .. | .incrSender .. | .wait .. | .insert .. => isTrue trivial

/-- The call has returned an error. -/
def Failed : PersistCall → Prop
  | .returned _ _ (.error _) => True
  | _ => False

/-- The row a call inserts. -/
def row (msg : ChatMessage) (receiverPTS senderPTS : Int) (msgID : String) (createdAt : Int) :
    Row where
  id := msgID
  senderId := msg.senderId
  receiverId := msg.receiverId
  content := msg.content
  senderPts := senderPTS
  receiverPts := receiverPTS
  createdAt := createdAt

end PersistCall

/-- Where a call of `GetDiff` stands. -/
inductive DiffCall where
  /-- Not invoked yet. -/
  | idle
  /-- The rows are read; about to read the counter. -/
  | selected (req : GetDiffRequest) (messages : List PersistedMessage)
  /-- Returned. -/
  | returned (req : GetDiffRequest) (res : Except Status GetDiffResponse)

namespace DiffCall

def afterQuery (req : GetDiffRequest) : Except String (List DiffRow) → DiffCall
  | .error err => .returned req (.error ⟨.unknown, err⟩)
  | .ok rows => .selected req (rows.map (scanRow req.userId))

def afterGet (req : GetDiffRequest) (messages : List PersistedMessage) :
    Except String (Option Int) → DiffCall
  | .error err => .returned req (.error ⟨.unknown, err⟩)
  | .ok val => .returned req (.ok ⟨messages, val.getD 0⟩)

/-- The request a call was made with. -/
def req? : DiffCall → Option GetDiffRequest
  | .idle => none
  | .selected req _ => some req
  | .returned req _ => some req

/-- The entries a call answers with, once it has read them; `none` also if it failed. -/
def answer? : DiffCall → Option (GetDiffRequest × List PersistedMessage)
  | .selected req messages => some (req, messages)
  | .returned req (.ok res) => some (req, res.messages)
  | _ => none

end DiffCall

end TinyTelegram.MessageService
