import TinyTelegram.MessageService.Service

/-!
# Plain counters

The Redis of the claims that do not look inside replication: one value for every key, which an
`INCR` raises by one, and a `WAIT` whose reply is whatever it is.  A failover that lost increments
shows as a rollback of a counter to an earlier value.

Beside the values the state keeps the log of the increments executed.

`INCR` refuses to go past the largest `int64`; that refusal is one of the failures, and going on
instead only adds runs.
-/

namespace TinyTelegram.MessageService

namespace Counters

/-- The values of the counters, and the increments executed so far. -/
structure State where
  value : String → Int
  issued : List LogEntry

/-- The environment's choice for a command. -/
inductive Choice where
  | incr (out : IncrOutcome)
  | wait (reply : Except String Int)

/-- What happens to the counters on its own. -/
inductive Event where
  /-- The counter `key` goes back to an earlier value. -/
  | rollback (key : String) (v : Int)
  /-- `RedisOnlyHandler`. -/
  | redisOnly
  deriving DecidableEq, Repr

namespace State

/-- Execute an `INCR`. -/
def bump (s : State) (key : String) (tag : Option Ticket) : State where
  value := Function.update s.value key (s.value key + 1)
  issued := s.issued ++ [⟨key, tag⟩]

variable (s : State) (key : String) (tag : Option Ticket)

@[simp] theorem bump_value :
    (s.bump key tag).value = Function.update s.value key (s.value key + 1) := rfl

@[simp] theorem bump_issued : (s.bump key tag).issued = s.issued ++ [⟨key, tag⟩] := rfl

end State

def incr (s : State) (ticket : Ticket) (key : String) :
    Choice → Option (State × Option (Except String Int))
  | .incr out => some (execIncr s (s.bump key) ticket (s.value key + 1) out)
  | .wait _ => none

def wait (s : State) : Choice → Option (State × Except String Int)
  | .wait reply => some (s, reply)
  | .incr _ => none

/-- A counter that was never incremented is absent. -/
def get (s : State) (key : String) : Option Int :=
  if s.value key = 0 then none else some (s.value key)

def env (s : State) : Event → Option State
  | .rollback key v =>
    if 0 ≤ v ∧ v ≤ s.value key then some { s with value := Function.update s.value key v } else none
  | .redisOnly => some (s.bump benchmarkKey none)

/-- Redis as plain counters, all absent at first. -/
def redis : Redis State Choice Event where
  init := { value := fun _ => 0, issued := [] }
  incr := incr
  wait := fun s _ _ _ => wait s
  get := get
  env := env

end Counters

/-- The events of the message service over plain counters. -/
abbrev CounterEvent := Service.Event Counters.Choice Counters.Event

/-- The message service over plain counters. -/
abbrev counterService : Lts.System (Service.State Counters.State) CounterEvent :=
  Service.system Counters.redis

/-- The event is not the rollback of a counter. -/
def NoRollback : CounterEvent → Prop
  | .env (.rollback ..) => False
  | _ => True

instance : DecidablePred NoRollback
  | .env (.rollback ..) => isFalse id
  | .env .redisOnly => isTrue trivial
  | .invoke .. | .redis .. | .insert .. | .query .. | .get .. => isTrue trivial

end TinyTelegram.MessageService
