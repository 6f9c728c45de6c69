import TinyTelegram.MessageService.Service

/-!
# The connection pool

Redis behind the shared client `RDB` of `message-service/store/redis.go`.  Each command is carried
by some idle connection of the client's pool, a different one each time if it so happens.  The
server executes the writes in one order and each replica acknowledges a prefix of them, in its own
time.  `WAIT` on a connection counts the replicas that have acknowledged the last write issued on
that same connection; if the connection has issued none, it counts them all.
-/

namespace TinyTelegram.MessageService

namespace Pooled

/-- Names of the connections of the pool. -/
abbrev ConnId := ℕ

/-- The writes of the server; how many of them had been executed when the last write of each
connection was (`0` for a connection without a write); and how many each replica has
acknowledged. -/
structure State where
  log : List LogEntry
  lastWrite : ConnId → ℕ
  acked : List ℕ

/-- The environment's choice for a command: the connection that carries it and its outcome. -/
inductive Choice where
  | incr (conn : ConnId) (out : IncrOutcome)
  | wait (conn : ConnId) (fail : Option String)

/-- What happens to Redis on its own. -/
inductive Event where
  /-- The `r`-th replica acknowledges one more write. -/
  | ack (r : ℕ)
  /-- `RedisOnlyHandler`, on this connection. -/
  | redisOnly (conn : ConnId)
  deriving DecidableEq, Repr

namespace State

/-- Execute an `INCR` that came on connection `conn`. -/
def append (s : State) (conn : ConnId) (e : LogEntry) : State where
  log := s.log ++ [e]
  lastWrite := Function.update s.lastWrite conn (s.log.length + 1)
  acked := s.acked

/-- The number of replicas that have acknowledged the last write of connection `conn`. -/
def ackedReplicas (s : State) (conn : ConnId) : ℕ := s.acked.countP fun n => s.lastWrite conn ≤ n

variable (s : State) (conn : ConnId) (e : LogEntry)

@[simp] theorem append_log : (s.append conn e).log = s.log ++ [e] := rfl
@[simp] theorem append_lastWrite :
    (s.append conn e).lastWrite = Function.update s.lastWrite conn (s.log.length + 1) := rfl
@[simp] theorem append_acked : (s.append conn e).acked = s.acked := rfl

end State

def incr (s : State) (ticket : Ticket) (key : String) :
    Choice → Option (State × Option (Except String Int))
  | .incr conn out =>
    some (execIncr s (fun tag => s.append conn ⟨key, tag⟩) ticket (CounterLog.count key s.log + 1)
      out)
  | .wait .. => none

def wait (s : State) : Choice → Option (State × Except String Int)
  | .wait conn none => some (s, .ok (s.ackedReplicas conn))
  | .wait _ (some err) => some (s, .error err)
  | .incr .. => none

def get (s : State) (key : String) : Option Int :=
  if CounterLog.count key s.log = 0 then none else some (CounterLog.count key s.log)

def env (s : State) : Event → Option State
  | .ack r =>
    match s.acked[r]? with
    | some n => if n < s.log.length then some { s with acked := s.acked.set r (n + 1) } else none
    | none => none
  | .redisOnly conn => some (s.append conn ⟨benchmarkKey, none⟩)

/-- Redis with `replicas` replicas behind a connection pool, all empty at first. -/
def redis (replicas : ℕ) : Redis State Choice Event where
  init := { log := [], lastWrite := fun _ => 0, acked := List.replicate replicas 0 }
  incr := incr
  wait := fun s _ _ _ => wait s
  get := get
  env := env

end Pooled

/-- The message service over a connection pool. -/
abbrev pooledService (replicas : ℕ) :
    Lts.System (Service.State Pooled.State) (Service.Event Pooled.Choice Pooled.Event) :=
  Service.system (Pooled.redis replicas)

end TinyTelegram.MessageService
