import TinyTelegram.Lib.CounterLog
import TinyTelegram.Lib.System
import TinyTelegram.MessageService.Calls

/-!
# The message service at work

Any number of calls of `PersistMessage` and `GetDiff` in progress at once, against one Redis and
one Postgres.  Each command of each call is one atomic step, and the steps of different calls
interleave in any order; a call may stop for good between any two of them.

What Redis does is a parameter, `Redis`: the state it keeps, how it answers `INCR`, `WAIT` and
`GET`, and what can happen to it on its own (replication, a failover, another client).  The three
instances are the plain counters of `Counters.lean`, the replicated pair of `Failover.lean` and the
replicated server behind a connection pool of `Pool.lean`.

An `INSERT` is answered normally, or fails without effect, or takes effect while its reply is
lost.
-/

namespace TinyTelegram.MessageService

/-- Names of calls of `PersistMessage`. -/
abbrev CallId := ℕ

/-- Names of calls of `GetDiff`. -/
abbrev DiffId := ℕ

/-- The increment a `PersistMessage` call makes for one of its two roles. -/
abbrev Ticket := CallId × Role

/-- An executed increment, with the ticket it was executed for; `none` for the benchmark handler and
for an increment whose reply never reached the call that issued it. -/
abbrev LogEntry := CounterLog.Entry String (Option Ticket)

/-- A Redis deployment: its states `ρ`, the choices `χ` the environment makes when a command is
executed, and the events `ε` that happen without a call. -/
structure Redis (ρ χ ε : Type) where
  init : ρ
  /-- `INCR key` on behalf of a ticket.  The reply is `none` when it is lost and the client
  library is about to issue the command again. -/
  incr : ρ → Ticket → String → χ → Option (ρ × Option (Except String Int))
  /-- `WAIT` on behalf of a call. -/
  wait : ρ → CallId → (numReplicas timeoutMs : Int) → χ → Option (ρ × Except String Int)
  /-- `GET key`. -/
  get : ρ → String → Option Int
  /-- An event of its own. -/
  env : ρ → ε → Option ρ

/-- What becomes of an `INCR`. -/
inductive IncrOutcome where
  /-- It is executed and its reply arrives. -/
  | executed
  /-- It is not executed and fails with this error. -/
  | failed (err : String)
  /-- It is executed, but the call gets this error. -/
  | lost (err : String)
  /-- It is executed, its reply is lost, and the client library issues it again. -/
  | retried
  deriving DecidableEq, Repr

/-- The state after an `INCR` and its reply.  `exec tag` is the state once the increment is
executed, on behalf of `tag`, and `value` is the new value of the counter.  An increment whose reply
never reaches the call is on nobody's behalf. -/
def execIncr {ρ : Type} (s : ρ) (exec : Option Ticket → ρ) (ticket : Ticket) (value : Int) :
    IncrOutcome → ρ × Option (Except String Int)
  | .executed => (exec (some ticket), some (.ok value))
  | .failed err => (s, some (.error err))
  | .lost err => (exec (some ticket), some (.error err))
  | .retried => (exec none, none)

/-- What becomes of an `INSERT`. -/
inductive InsertOutcome where
  /-- It is executed and its reply arrives. -/
  | executed
  /-- It is not executed and fails with this error. -/
  | failed (err : String)
  /-- It is executed, but the call gets this error. -/
  | lost (err : String)
  deriving DecidableEq, Repr

/-- A committed row and the call that inserted it (which is not a column). -/
structure Committed where
  call : CallId
  row : Row

namespace Service

/-- The state of the service: of Redis, of Postgres and of every call. -/
structure State (ρ : Type) where
  redis : ρ
  committed : List Committed
  calls : CallId → PersistCall
  diffs : DiffId → DiffCall

namespace State

variable {ρ : Type}

/-- The table `messages`. -/
def table (s : State ρ) : Table := s.committed.map Committed.row

/-- A call moves on. -/
def setCall (s : State ρ) (id : CallId) (c : PersistCall) : State ρ :=
  { s with calls := Function.update s.calls id c }

/-- A `GetDiff` moves on. -/
def setDiff (s : State ρ) (q : DiffId) (d : DiffCall) : State ρ :=
  { s with diffs := Function.update s.diffs q d }

/-- A row is committed. -/
def commit (s : State ρ) (id : CallId) (r : Row) : State ρ :=
  { s with committed := s.committed ++ [⟨id, r⟩] }

def setRedis (s : State ρ) (r : ρ) : State ρ := { s with redis := r }

variable (s : State ρ) (id : CallId) (c : PersistCall) (q : DiffId) (d : DiffCall) (r : Row) (x : ρ)

@[simp] theorem setCall_redis : (s.setCall id c).redis = s.redis := rfl
@[simp] theorem setCall_committed : (s.setCall id c).committed = s.committed := rfl
@[simp] theorem setCall_calls : (s.setCall id c).calls = Function.update s.calls id c := rfl
@[simp] theorem setCall_diffs : (s.setCall id c).diffs = s.diffs := rfl
@[simp] theorem setCall_table : (s.setCall id c).table = s.table := rfl
@[simp] theorem setDiff_redis : (s.setDiff q d).redis = s.redis := rfl
@[simp] theorem setDiff_committed : (s.setDiff q d).committed = s.committed := rfl
@[simp] theorem setDiff_calls : (s.setDiff q d).calls = s.calls := rfl
@[simp] theorem setDiff_diffs : (s.setDiff q d).diffs = Function.update s.diffs q d := rfl
@[simp] theorem setDiff_table : (s.setDiff q d).table = s.table := rfl
@[simp] theorem setRedis_redis : (s.setRedis x).redis = x := rfl
@[simp] theorem setRedis_committed : (s.setRedis x).committed = s.committed := rfl
@[simp] theorem setRedis_calls : (s.setRedis x).calls = s.calls := rfl
@[simp] theorem setRedis_diffs : (s.setRedis x).diffs = s.diffs := rfl
@[simp] theorem setRedis_table : (s.setRedis x).table = s.table := rfl
@[simp] theorem commit_redis : (s.commit id r).redis = s.redis := rfl
@[simp] theorem commit_committed : (s.commit id r).committed = s.committed ++ [⟨id, r⟩] := rfl
@[simp] theorem commit_calls : (s.commit id r).calls = s.calls := rfl
@[simp] theorem commit_diffs : (s.commit id r).diffs = s.diffs := rfl
@[simp] theorem commit_table : (s.commit id r).table = s.table ++ [r] := by
  simp [table]

end State

/-- An event of the service. -/
inductive Event (χ ε : Type) where
  /-- `PersistMessage(msg)` is called. -/
  | invoke (id : CallId) (msg : ChatMessage)
  /-- The call's next command, if it is one to Redis, is executed. -/
  | redis (id : CallId) (ch : χ)
  /-- The call's `INSERT`, with its UUID, the database clock and the service's clock. -/
  | insert (id : CallId) (msgID : String) (createdAt serverTimestamp : Int) (out : InsertOutcome)
  /-- Redis on its own. -/
  | env (e : ε)
  /-- `GetDiff(req)` is called and reads the rows, or fails to. -/
  | query (q : DiffId) (req : GetDiffRequest) (fail : Option String)
  /-- It reads the counter, or fails to. -/
  | get (q : DiffId) (fail : Option String)

variable {ρ χ ε : Type}

/-- The `INSERT` of the row `r` by call `id`, which goes on by `k` with the reply. -/
def execInsert (s : State ρ) (id : CallId) (r : Row) (k : Except String Unit → PersistCall) :
    InsertOutcome → State ρ
  | .executed =>
    match violatedConstraint s.table r with
    | some c => s.setCall id (k (.error (uniqueViolationText c)))
    | none => (s.commit id r).setCall id (k (.ok ()))
  | .failed err => s.setCall id (k (.error err))
  | .lost err =>
    match violatedConstraint s.table r with
    | some _ => s.setCall id (k (.error err))
    | none => (s.commit id r).setCall id (k (.error err))

/-- One event. -/
def step (R : Redis ρ χ ε) (s : State ρ) : Event χ ε → Option (State ρ)
  | .invoke id msg =>
    match s.calls id with
    | .idle => some (s.setCall id (.incrReceiver msg))
    | _ => none
  | .redis id ch =>
    match s.calls id with
    | .incrReceiver msg =>
      (R.incr s.redis (id, .receiver) (ptsKey msg.receiverId) ch).map fun (x, reply) =>
        (s.setRedis x).setCall id
          (reply.elim (.incrReceiver msg) (PersistCall.afterIncrReceiver msg))
    | .incrSender msg receiverPTS =>
      (R.incr s.redis (id, .sender) (ptsKey msg.senderId) ch).map fun (x, reply) =>
        (s.setRedis x).setCall id
          (reply.elim (.incrSender msg receiverPTS) (PersistCall.afterIncrSender msg receiverPTS))
    | .wait msg receiverPTS senderPTS =>
      (R.wait s.redis id 1 ptsWaitTimeoutMs ch).map fun (x, reply) =>
        (s.setRedis x).setCall id (PersistCall.afterWait msg receiverPTS senderPTS reply)
    | _ => none
  | .insert id msgID createdAt serverTimestamp out =>
    match s.calls id with
    | .insert msg receiverPTS senderPTS =>
      some (execInsert s id (PersistCall.row msg receiverPTS senderPTS msgID createdAt)
        (PersistCall.afterInsert msg receiverPTS senderPTS msgID serverTimestamp) out)
    | _ => none
  | .env e => (R.env s.redis e).map s.setRedis
  | .query q req fail =>
    match s.diffs q with
    | .idle =>
      some (s.setDiff q (DiffCall.afterQuery req (fail.elim
        (.ok (selectDiff s.table req.userId req.clientPts (normalizeLimit req.limit))) .error)))
    | _ => none
  | .get q fail =>
    match s.diffs q with
    | .selected req messages =>
      some (s.setDiff q (DiffCall.afterGet req messages (fail.elim
        (.ok (R.get s.redis (ptsKey req.userId))) .error)))
    | _ => none

/-- The state before the first call. -/
def init (R : Redis ρ χ ε) : State ρ where
  redis := R.init
  committed := []
  calls := fun _ => .idle
  diffs := fun _ => .idle

/-- The message service over a Redis deployment. -/
def system (R : Redis ρ χ ε) : Lts.System (State ρ) (Event χ ε) where
  init := init R
  step := step R

end Service

end TinyTelegram.MessageService
