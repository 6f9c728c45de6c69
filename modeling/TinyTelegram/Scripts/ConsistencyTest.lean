import TinyTelegram.Gateway.WebSocket

/-!
# The consistency test

`scripts/experiment4/consistency_test.js`: what the script makes of the frames of a connection.  A connection
counts as consistent if none of its checks has failed when it closes.
-/

namespace TinyTelegram.Scripts

namespace ConsistencyTest

open Gateway (Frame)

/-- The variables of a connection, and what it has added to the metrics. -/
structure Check where
  localPts : Int
  lastReceivedPts : Int
  /-- The ids that have an entry in the log. -/
  messageLog : List String
  sequenceConsistent : Bool
  messagesReceived : ℕ
  ptsOrderViolations : ℕ
  ptsGapsDetected : ℕ
  ptsGapSize : List Int
  duplicateMessages : ℕ
  deriving DecidableEq, Repr

def start : Check :=
  { localPts := 0, lastReceivedPts := 0, messageLog := [], sequenceConsistent := true, messagesReceived := 0,
    ptsOrderViolations := 0, ptsGapsDetected := 0, ptsGapSize := [], duplicateMessages := 0 }

namespace Check

/-- `pts <= last`. -/
def checkOrder (k : Check) (last pts : Int) : Check :=
  if pts ≤ last then
    { k with ptsOrderViolations := k.ptsOrderViolations + 1, sequenceConsistent := false }
  else k

/-- `pts > last + 1`. -/
def checkGap (k : Check) (last pts : Int) : Check :=
  if pts > last + 1 then
    { k with
      ptsGapsDetected := k.ptsGapsDetected + 1
      ptsGapSize := k.ptsGapSize ++ [pts - last - 1]
      sequenceConsistent := false }
  else k

/-- `messageLog.has(msgId)`. -/
def checkDuplicate (k : Check) (msgId : String) : Check :=
  if msgId ∈ k.messageLog then
    { k with duplicateMessages := k.duplicateMessages + 1, sequenceConsistent := false }
  else k

/-- An acknowledgement. -/
def onAck (k : Check) (pts : Int) (msgId : String) : Check :=
  if pts = 0 then k
  else
    let checked := ((k.checkOrder k.localPts pts).checkGap k.localPts pts).checkDuplicate msgId
    { checked with messageLog := msgId :: checked.messageLog, localPts := pts }

/-- The PTS that applies to the user, if there is one. -/
def applicablePts? (userId : String) (m : PersistedMessage) (incomingMsg : ChatMessage) : Option Int :=
  if incomingMsg.receiverId = userId then some m.receiverPts
  else if incomingMsg.senderId = userId then some m.senderPts
  else none

/-- A message.  There is no gap before the first one. -/
def onIncoming (userId : String) (k : Check) (m : PersistedMessage) : Check :=
  match m.message with
  | none => k
  | some incomingMsg =>
    let received := { k with messagesReceived := k.messagesReceived + 1 }
    match applicablePts? userId m incomingMsg with
    | none => received
    | some pts =>
      if pts = 0 then received
      else
        let ordered := received.checkOrder k.lastReceivedPts pts
        let gapless := if k.lastReceivedPts > 0 then ordered.checkGap k.lastReceivedPts pts else ordered
        let checked := gapless.checkDuplicate m.id
        { checked with
          messageLog := m.id :: checked.messageLog
          lastReceivedPts := pts
          localPts := max k.localPts pts }

def onMessage (userId : String) (k : Check) : Frame → Check
  | .ack pts msgId => k.onAck pts msgId
  | .message m => k.onIncoming userId m

end Check

/-- What the frames of a connection of `userId` come to. -/
def check (userId : String) (frames : List Frame) : Check := frames.foldl (Check.onMessage userId) start

end ConsistencyTest

end TinyTelegram.Scripts
