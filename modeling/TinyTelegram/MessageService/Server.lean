import TinyTelegram.MessageService.Store

/-!
# The gRPC handlers of the message service

`message-service/grpc/server.go`: `PersistMessage`, `GetDiff` and `GetUserPts`.
-/

namespace TinyTelegram.MessageService

def ptsWaitTimeoutMs : Int := 100

/-- `strings.Contains`. -/
def contains (s substr : String) : Bool := s.toList.tails.any fun t => substr.toList.isPrefixOf t

/-- Whether an error is a violation of a UNIQUE constraint, judged by its text. -/
def isUniqueViolation : Option String → Bool
  | none => false
  | some err =>
    contains err "duplicate key value violates unique constraint" ||
      contains err "uniq_receiver_pts" || contains err "uniq_sender_pts"

/-- Every failure to allocate is `Unavailable`, and so is an `INSERT` refused by a UNIQUE
constraint. -/
def persistMessage (msg : ChatMessage) : Remote (Except Status PersistedMessage) := do
  match ← allocatePTSWithWait msg.receiverId msg.senderId ptsWaitTimeoutMs with
  | .error err => return .error ⟨.unavailable, "PTS not durable: " ++ err⟩
  | .ok (receiverPTS, senderPTS) =>
    let msgID ← newString
    match ← insert msgID msg.senderId msg.receiverId msg.content senderPTS receiverPTS with
    | .error err =>
      if isUniqueViolation (some err) then
        return .error ⟨.unavailable, "PTS uniqueness violation, retry"⟩
      return .error ⟨.internal, "insert message: " ++ err⟩
    | .ok () =>
      let serverTimestamp ← now
      return .ok {
        id := msgID
        message := some msg
        receiverPts := receiverPTS
        senderPts := senderPTS
        serverTimestamp := serverTimestamp }

/-- The page size `GetDiff` works with. -/
def normalizeLimit (limit : Int) : Int := if limit ≤ 0 ∨ limit > 1000 then 1000 else limit

/-- The message `GetDiff` builds from a row: only the PTS of the requesting user is set, and the
client timestamp is not stored. -/
def scanRow (userId : String) (row : DiffRow) : PersistedMessage where
  id := row.id
  message := some {
    senderId := row.senderId
    receiverId := row.receiverId
    content := row.content
    clientTimestamp := 0 }
  receiverPts := if row.receiverId = userId then row.pts else 0
  senderPts := if row.receiverId = userId then 0 else row.pts
  serverTimestamp := row.createdAt / 1000

/-- The rows and the counter are read one after the other, from two stores. -/
def getDiff (req : GetDiffRequest) : Remote (Except Status GetDiffResponse) := do
  match ← query req.userId req.clientPts (normalizeLimit req.limit) with
  | .error err => return .error ⟨.unknown, err⟩
  | .ok rows =>
    let messages := rows.map (scanRow req.userId)
    match ← getUserPTS req.userId with
    | .error err => return .error ⟨.unknown, err⟩
    | .ok currentPTS => return .ok ⟨messages, currentPTS⟩

def getUserPts (req : PtsRequest) : Remote (Except Status PtsResponse) := do
  match ← getUserPTS req.userId with
  | .error err => return .error ⟨.unknown, err⟩
  | .ok pts => return .ok ⟨pts⟩

end TinyTelegram.MessageService
