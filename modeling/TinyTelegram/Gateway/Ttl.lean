import TinyTelegram.Gateway.Presence

/-!
# Presence with a clock

`gateway/store/redis.go` once more, with its two constants: a presence key is set for `presenceTTL`, and the
goroutine of `StartHeartbeat` sets it again on each tick of a timer with the period `heartbeatInterval`.

The commands and the connections are those of `Presence`.  Beside them there are the clock, the moment each
key expires, and the timers: a tick goes into a channel of capacity 1, is dropped if the channel is full, and
the timer is set to the next multiple of its period that is still to come.  Time is counted in milliseconds.
-/

namespace TinyTelegram.Gateway

namespace Ttl

def presenceTTL : ℕ := 15 * 1000

def heartbeatInterval : ℕ := 5 * 1000

structure State where
  /-- The keys that are there, the connections and the goroutines. -/
  base : Presence.State
  now : ℕ
  /-- The last moment at which the key of a user is there, if it is. -/
  expires : String → ℕ
  /-- When the timer of a heartbeat ticks next. -/
  nextTick : ConnId → ℕ
  /-- The channel of a timer: the moment at which the tick in it was due. -/
  ticks : ConnId → Option ℕ
  /-- The moment at which the tick was due that the heartbeat has taken last. -/
  taken : ConnId → ℕ
  /-- How many `SET`s of the heartbeat have failed since the last that did not. -/
  misses : ConnId → ℕ

inductive Event where
  /-- A handler starts and issues `RegisterUser`. -/
  | connect (c : ConnId) (u addr : String)
  /-- Its `RegisterUser` is executed, and after `latency` more the timer of the heartbeat starts. -/
  | set (c : ConnId) (ok : Bool) (latency : ℕ)
  /-- The timer of the heartbeat ticks. -/
  | fire (c : ConnId)
  /-- The heartbeat takes a tick and issues `RegisterUser`. -/
  | tick (c : ConnId)
  /-- The heartbeat's `RegisterUser` is executed. -/
  | beat (c : ConnId) (ok : Bool)
  /-- The teardown begins: `stopHeartbeat()`. -/
  | stop (c : ConnId)
  /-- `UnregisterUser` is executed. -/
  | del (c : ConnId) (ok : Bool)
  /-- The heartbeat sees `done` closed. -/
  | exit (c : ConnId)
  /-- Time passes. -/
  | elapse (d : ℕ)
  deriving DecidableEq, Repr

/-- The event of the connections and goroutines that an event is. -/
def Event.base? : Event → Option Presence.Event
  | .connect c u addr => some (.connect c u addr)
  | .set c ok _ => some (.set c ok)
  | .tick c => some (.tick c)
  | .beat c ok => some (.beat c ok)
  | .stop c => some (.stop c)
  | .del c ok => some (.del c ok)
  | .exit c => some (.exit c)
  | .fire _ | .elapse _ => none

namespace State

def setBase (s : State) (base : Presence.State) : State := { s with base := base }

/-- A `SET` of connection `c`, which takes effect (`ok`) or does not: the key of its user is there for
`presenceTTL` from now on. -/
def renew (s : State) (c : ConnId) (ok : Bool) : State :=
  match s.base.conns c with
  | none => s
  | some conn =>
    { s with
      expires := if ok then Function.update s.expires conn.user (s.now + presenceTTL) else s.expires
      misses := Function.update s.misses c (if ok then 0 else s.misses c + 1) }

/-- `time.NewTicker`, after `latency`: a timer with an empty channel. -/
def startTicker (s : State) (c : ConnId) (latency : ℕ) : State :=
  { s with
    ticks := Function.update s.ticks c none
    nextTick := Function.update s.nextTick c (s.now + latency + heartbeatInterval) }

/-- The timer ticks: the tick goes into the channel, unless that is full. -/
def sendTick (s : State) (c : ConnId) : State :=
  { s with
    ticks := Function.update s.ticks c (some ((s.ticks c).getD (s.nextTick c)))
    nextTick := Function.update s.nextTick c
      (s.nextTick c + heartbeatInterval * (1 + (s.now - s.nextTick c) / heartbeatInterval)) }

/-- The heartbeat takes the tick that was due at `due`. -/
def takeTick (s : State) (c : ConnId) (due : ℕ) : State :=
  { s with
    ticks := Function.update s.ticks c none
    taken := Function.update s.taken c due }

/-- Time passes, and takes the keys with it that expire. -/
def elapse (s : State) (d : ℕ) : State :=
  { s with
    now := s.now + d
    base := { s.base with
      presence := fun u => if s.expires u < s.now + d then none else s.base.presence u } }

end State

/-- One event. -/
def step (s : State) : Event → Option State
  | .connect c u addr => (Presence.step s.base (.connect c u addr)).map s.setBase
  | .set c ok latency =>
    (Presence.step s.base (.set c ok)).map fun base =>
      ((s.setBase base).renew c ok).startTicker c latency
  | .fire c =>
    match s.base.heartbeats c with
    | .waiting | .setting => if s.nextTick c ≤ s.now then some (s.sendTick c) else none
    | .off | .stopped => none
  | .tick c =>
    match s.ticks c with
    | some due => (Presence.step s.base (.tick c)).map fun base => (s.setBase base).takeTick c due
    | none => none
  | .beat c ok =>
    (Presence.step s.base (.beat c ok)).map fun base => (s.setBase base).renew c ok
  | .stop c => (Presence.step s.base (.stop c)).map s.setBase
  | .del c ok => (Presence.step s.base (.del c ok)).map s.setBase
  | .exit c => (Presence.step s.base (.exit c)).map s.setBase
  | .elapse d => some (s.elapse d)

/-- Nobody is connected. -/
def init : State where
  base := Presence.init
  now := 0
  expires := fun _ => 0
  nextTick := fun _ => 0
  ticks := fun _ => none
  taken := fun _ => 0
  misses := fun _ => 0

def system : Lts.System State Event where
  init := init
  step := step

/-- The user and the address of a `SET` that takes effect. -/
def sets? (s : State) : Event → Option (String × String)
  | .set c true _ | .beat c true => (s.base.conns c).map fun conn => (conn.user, conn.addr)
  | _ => none

/-- How long a run takes. -/
def duration : List Event → ℕ
  | [] => 0
  | .elapse d :: es => d + duration es
  | _ :: es => duration es

end Ttl

end TinyTelegram.Gateway
