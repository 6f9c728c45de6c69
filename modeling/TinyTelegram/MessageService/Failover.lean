import TinyTelegram.MessageService.Service

/-!
# A primary and its replica

The Redis of the first layer of the PTS defence: the writes of a primary, in the order it executed
them, and a replica that has received a prefix of them.  A failover makes the replica the primary,
with the writes it has received, and the node that replaces it starts as its copy.

`WAIT` is ideal: it counts the replica for a call only if the replica holds both increments of that
same call.
-/

namespace TinyTelegram.MessageService

namespace Replicated

/-- The write logs of the two nodes; the replica's is always a prefix of the primary's. -/
structure State where
  primary : List LogEntry
  replica : List LogEntry
  replica_prefix : replica <+: primary

/-- The environment's choice for a command. -/
inductive Choice where
  | incr (out : IncrOutcome)
  | wait (reply : Except String Int)

/-- What happens to the two nodes on its own. -/
inductive Event where
  /-- The next write reaches the replica. -/
  | replicate
  /-- The replica is promoted. -/
  | failover
  /-- `RedisOnlyHandler`. -/
  | redisOnly
  deriving DecidableEq, Repr

namespace State

/-- Execute an `INCR` on the primary. -/
def append (s : State) (e : LogEntry) : State where
  primary := s.primary ++ [e]
  replica := s.replica
  replica_prefix := s.replica_prefix.trans (List.prefix_append ..)

/-- One more write reaches the replica. -/
def replicate (s : State) : State where
  primary := s.primary
  replica := s.primary.take (s.replica.length + 1)
  replica_prefix := List.take_prefix ..

/-- The replica takes over; the writes it has not received are gone. -/
def failover (s : State) : State where
  primary := s.replica
  replica := s.replica
  replica_prefix := List.prefix_rfl

/-- The replica holds both increments of call `id`. -/
def holdsBoth (s : State) (id : CallId) : Prop :=
  some (id, Role.receiver) ∈ s.replica.map CounterLog.Entry.tag ∧
    some (id, Role.sender) ∈ s.replica.map CounterLog.Entry.tag

instance (s : State) (id : CallId) : Decidable (s.holdsBoth id) :=
  inferInstanceAs (Decidable (_ ∧ _))

variable (s : State) (e : LogEntry)

@[simp] theorem append_primary : (s.append e).primary = s.primary ++ [e] := rfl
@[simp] theorem append_replica : (s.append e).replica = s.replica := rfl
@[simp] theorem replicate_primary : s.replicate.primary = s.primary := rfl
@[simp] theorem failover_primary : s.failover.primary = s.replica := rfl
@[simp] theorem failover_replica : s.failover.replica = s.replica := rfl

end State

def incr (s : State) (ticket : Ticket) (key : String) :
    Choice → Option (State × Option (Except String Int))
  | .incr out =>
    some (execIncr s (fun tag => s.append ⟨key, tag⟩) ticket (CounterLog.count key s.primary + 1) out)
  | .wait _ => none

/-- `WAIT` may fail, may count no replica, and may count the replica if it holds both increments of
the call. -/
def wait (s : State) (id : CallId) : Choice → Option (State × Except String Int)
  | .wait (.error err) => some (s, .error err)
  | .wait (.ok n) => if n = 0 ∨ n = 1 ∧ s.holdsBoth id then some (s, .ok n) else none
  | .incr _ => none

def get (s : State) (key : String) : Option Int :=
  if CounterLog.count key s.primary = 0 then none else some (CounterLog.count key s.primary)

def env (s : State) : Event → Option State
  | .replicate => some s.replicate
  | .failover => some s.failover
  | .redisOnly => some (s.append ⟨benchmarkKey, none⟩)

/-- Redis as a primary and its replica, both empty at first. -/
def redis : Redis State Choice Event where
  init := { primary := [], replica := [], replica_prefix := List.prefix_rfl }
  incr := incr
  wait := fun s id _ _ => wait s id
  get := get
  env := env

end Replicated

/-- The message service over a primary and its replica. -/
abbrev replicatedService :
    Lts.System (Service.State Replicated.State) (Service.Event Replicated.Choice Replicated.Event) :=
  Service.system Replicated.redis

end TinyTelegram.MessageService
