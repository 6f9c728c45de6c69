import TinyTelegram.Gateway.Presence
import TinyTelegram.Lib.Keyspace
import TinyTelegram.MessageService.Counters
import TinyTelegram.MessageService.Discovery

/-!
# The Redis of both programs

`gateway/store/redis.go` and `message-service/store/redis.go` have a client `RDB` each, of one and the same
Redis.  Here are the commands of both as commands on one keyspace, and what the functions return that issue
them (`RDB`).

The other models keep the counters, the presence keys and the hash `gateways` apart.  `Stores` is what they
take for granted: stores of their own, which answer by themselves.

`WAIT` has no key and changes nothing; what it says is in `MessageService/Failover.lean`.
-/

namespace TinyTelegram

namespace RDB

open Keyspace (Op Reply)


/-! ### Keys and commands -/

def presenceKey (userID : String) : String := "presence:" ++ userID

def gatewaysKey : String := "gateways"

def aliveKey (gatewayID : String) : String := "gateway:" ++ gatewayID ++ ":alive"

/-- The names of the keys. -/
inductive Key where
  | pts (userID : String)
  | presence (userID : String)
  | gateways
  | alive (gatewayID : String)
  deriving DecidableEq, Repr

def Key.text : Key → String
  | .pts userID => MessageService.ptsKey userID
  | .presence userID => presenceKey userID
  | .gateways => gatewaysKey
  | .alive gatewayID => aliveKey gatewayID

/-- The places at which a command is issued. -/
inductive Call where
  /-- `NextUserPTS`, and either `INCR` of `AllocatePTSWithWait`. -/
  | nextUserPTS (userID : String)
  | getUserPTS (userID : String)
  | registerUser (userID gatewayAddr : String)
  | unregisterUser (userID : String)
  | getUserGateway (userID : String)
  /-- The `HSET` of `RegisterGateway`. -/
  | registerGateway (gatewayID grpcAddr : String)
  /-- Its `SET`. -/
  | registerAlive (gatewayID : String)
  /-- The `HDEL` of `UnregisterGateway`. -/
  | unregisterGateway (gatewayID : String)
  /-- Its `DEL`. -/
  | unregisterAlive (gatewayID : String)
  | discoverGateways
  deriving DecidableEq, Repr

def Call.key : Call → Key
  | .nextUserPTS userID => .pts userID
  | .getUserPTS userID => .pts userID
  | .registerUser userID _ => .presence userID
  | .unregisterUser userID => .presence userID
  | .getUserGateway userID => .presence userID
  | .registerGateway _ _ => .gateways
  | .registerAlive gatewayID => .alive gatewayID
  | .unregisterGateway _ => .gateways
  | .unregisterAlive gatewayID => .alive gatewayID
  | .discoverGateways => .gateways

def Call.op : Call → Op
  | .nextUserPTS _ => .incr
  | .getUserPTS _ => .get
  | .registerUser _ gatewayAddr => .set gatewayAddr true
  | .unregisterUser _ => .del
  | .getUserGateway _ => .get
  | .registerGateway gatewayID grpcAddr => .hSet gatewayID grpcAddr
  | .registerAlive _ => .set "1" true
  | .unregisterGateway gatewayID => .hDel gatewayID
  | .unregisterAlive _ => .del
  | .discoverGateways => .hGetAll

/-! ### What the functions return -/

inductive Err where
  /-- An error of Redis. -/
  | redis (text : String)
  /-- `redis.Nil`. -/
  | nil
  /-- `strconv.ParseInt` fails. -/
  | parseInt (val : String)
  deriving DecidableEq, Repr

inductive Answer where
  | pts (res : Except Err Int)
  | addr (res : Except Err String)
  | entries (res : Except Err (List (String × String)))
  | done (res : Except Err Unit)

/-- The error of an answer. -/
def Answer.err? : Answer → Option Err
  | .pts (.error err) => some err
  | .addr (.error err) => some err
  | .entries (.error err) => some err
  | .done (.error err) => some err
  | _ => none

def failure {α : Type} : Except String α → Except Err α
  | .ok x => .ok x
  | .error text => .error (.redis text)

/-- `Result`, with an absent key as an error. -/
def result : Except String (Option String) → Except Err String
  | .ok (some val) => .ok val
  | .ok none => .error .nil
  | .error text => .error (.redis text)

/-- `Int64`; an absent counter is `0`. -/
def int64 : Except String (Option String) → Except Err Int
  | .ok (some val) => (Keyspace.parseInt val).elim (.error (.parseInt val)) .ok
  | .ok none => .ok 0
  | .error text => .error (.redis text)

/-- What the function makes of the reply. -/
def Call.answer : (c : Call) → Reply c.op → Answer
  | .nextUserPTS _, reply => .pts (failure reply)
  | .getUserPTS _, reply => .pts (int64 reply)
  | .registerUser _ _, reply => .done (failure reply)
  | .unregisterUser _, _ => .done (.ok ())
  | .getUserGateway _, reply => .addr (result reply)
  | .registerGateway _ _, reply => .done ((failure reply).map fun _ => ())
  | .registerAlive _, reply => .done (failure reply)
  | .unregisterGateway _, reply => .done ((failure reply).map fun _ => ())
  | .unregisterAlive _, _ => .done (.ok ())
  | .discoverGateways, reply => .entries (failure reply)

/-! ### One keyspace -/

inductive Event where
  /-- A command is executed. -/
  | call (c : Call)
  /-- A key expires. -/
  | expire (k : Key)
  deriving DecidableEq, Repr

def step (db : Keyspace.State) : Event → Option Keyspace.State
  | .call c => some (Keyspace.exec db c.key.text c.op).1
  | .expire k => Keyspace.expire db k.text

/-- What the call returns. -/
def answer? (db : Keyspace.State) : Event → Option Answer
  | .call c => some (c.answer (Keyspace.exec db c.key.text c.op).2)
  | .expire _ => none

/-- The PTS that `NextUserPTS` or `AllocatePTSWithWait` gets for a user. -/
def handedOut? (userID : String) (db : Keyspace.State) : Event → Option Int
  | .call (.nextUserPTS userID') =>
    if userID' = userID then (Keyspace.exec db (MessageService.ptsKey userID) .incr).2.toOption else none
  | _ => none

/-- The keyspace, empty at first. -/
def system : Lts.System Keyspace.State Event where
  init := fun _ => none
  step := step

end RDB

/-! ### Stores of their own -/

structure Stores where
  counters : MessageService.Counters.State
  presence : Gateway.Presence.State
  gateways : List (String × String)
  alive : String → Bool

namespace Stores

open MessageService (ptsKey)
open RDB (Call Event Answer)

/-- `INCR`, which refuses to go past the largest integer. -/
def nextUserPTS (s : Stores) (userID : String) : Stores :=
  if s.counters.value (ptsKey userID) = Keyspace.maxInt64 then s
  else { s with counters := s.counters.bump (ptsKey userID) none }

/-- A call changes one of the stores. -/
def exec (s : Stores) : Call → Stores
  | .nextUserPTS userID => s.nextUserPTS userID
  | .getUserPTS _ => s
  | .registerUser userID gatewayAddr =>
    { s with presence := s.presence.registerUser userID gatewayAddr true }
  | .unregisterUser userID => { s with presence := s.presence.unregisterUser userID true }
  | .getUserGateway _ => s
  | .registerGateway gatewayID grpcAddr =>
    { s with gateways := MessageService.Discovery.hSet s.gateways gatewayID grpcAddr }
  | .registerAlive gatewayID => { s with alive := Function.update s.alive gatewayID true }
  | .unregisterGateway gatewayID =>
    { s with gateways := MessageService.Discovery.hDel s.gateways gatewayID }
  | .unregisterAlive gatewayID => { s with alive := Function.update s.alive gatewayID false }
  | .discoverGateways => s

/-- The only command that can fail is an `INCR` of the largest integer. -/
def answer (s : Stores) : Call → Answer
  | .nextUserPTS userID =>
    .pts (if s.counters.value (ptsKey userID) = Keyspace.maxInt64 then .error (.redis Keyspace.overflow)
      else .ok (s.counters.value (ptsKey userID) + 1))
  | .getUserPTS userID => .pts (.ok ((MessageService.Counters.get s.counters (ptsKey userID)).getD 0))
  | .getUserGateway userID => .addr ((s.presence.getUserGateway userID).elim (.error .nil) .ok)
  | .discoverGateways => .entries (.ok s.gateways)
  | _ => .done (.ok ())

/-- Presence expires, and the key that says that a gateway is alive.  Counters and addresses stay. -/
def step (s : Stores) : Event → Option Stores
  | .call c => some (s.exec c)
  | .expire (.presence userID) =>
    if (s.presence.getUserGateway userID).isSome then
      some (s.exec (.unregisterUser userID))
    else none
  | .expire (.alive gatewayID) =>
    if s.alive gatewayID then some (s.exec (.unregisterAlive gatewayID)) else none
  | .expire _ => none

def answer? (s : Stores) : Event → Option Answer
  | .call c => some (s.answer c)
  | .expire _ => none

def system : Lts.System Stores Event where
  init := {
    counters := MessageService.Counters.redis.init
    presence := Gateway.Presence.init
    gateways := []
    alive := fun _ => false }
  step := step

end Stores

end TinyTelegram
