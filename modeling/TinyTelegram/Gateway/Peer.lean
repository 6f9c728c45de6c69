import TinyTelegram.Lib.OnDemand
import TinyTelegram.Proto

/-!
# The clients of the other gateways

`gateway/peer/client.go`: `clients`, which holds a gRPC client for each gateway that was ever delivered to,
and the goroutines that call `DeliverMessage`, one for each message that goes to another gateway.

`GetOrConnect` reads `clients` under `clientMu` as a reader, makes a connection with the lock released, and
writes `clients` under `clientMu` as a writer.  It does not look again before it writes, and nothing closes
a connection or takes a client out of the map.
-/

namespace TinyTelegram.Gateway.Peer

open Lts

/-- Names of the goroutines that call `DeliverMessage`. -/
abbrev GoroutineId := ℕ

/-- A client goes by the position of its connection among all that were made. -/
abbrev ClientId := ℕ

/-- Where a goroutine stands in `DeliverMessage`. -/
inductive Goroutine where
  /-- Not started, or returned. -/
  | idle
  /-- `clients` has no client for the address: `grpc.NewClient` is to come. -/
  | connecting (addr : String) (msg : PersistedMessage)
  /-- The client is made, and is to be put into `clients`. -/
  | storing (addr : String) (client : ClientId) (msg : PersistedMessage)
  /-- The RPC of the client is under way. -/
  | calling (addr : String) (client : ClientId) (msg : PersistedMessage)
  deriving DecidableEq, Repr

structure State where
  clients : String → Option ClientId
  /-- The addresses of the connections that were made, in order. -/
  conns : List String
  goroutines : GoroutineId → Goroutine

inductive Event where
  /-- `DeliverMessage` is called, and `GetOrConnect` reads `clients`. -/
  | deliverMessage (n : GoroutineId) (gatewayAddr : String) (msg : PersistedMessage)
  /-- `grpc.NewClient` returns a connection, or an error. -/
  | newClient (n : GoroutineId) (ok : Bool)
  /-- `clients[addr] = client`. -/
  | store (n : GoroutineId)
  /-- The RPC returns an answer, or an error. -/
  | reply (n : GoroutineId) (ack : Option Bool)
  deriving DecidableEq, Repr

namespace State

def setGoroutine (s : State) (n : GoroutineId) (g : Goroutine) : State :=
  { s with goroutines := Function.update s.goroutines n g }

end State

/-- One event. -/
def step (s : State) : Event → Option State
  | .deliverMessage n addr msg =>
    match s.goroutines n, s.clients addr with
    | .idle, some client => some (s.setGoroutine n (.calling addr client msg))
    | .idle, none => some (s.setGoroutine n (.connecting addr msg))
    | _, _ => none
  | .newClient n ok =>
    match s.goroutines n with
    | .connecting addr msg =>
      some (if ok then
          { s with conns := s.conns ++ [addr] }.setGoroutine n (.storing addr s.conns.length msg)
        else s.setGoroutine n .idle)
    | _ => none
  | .store n =>
    match s.goroutines n with
    | .storing addr client msg =>
      some ({ s with clients := Function.update s.clients addr (some client) }.setGoroutine n
        (.calling addr client msg))
    | _ => none
  | .reply n _ =>
    match s.goroutines n with
    | .calling .. => some (s.setGoroutine n .idle)
    | _ => none

def init : State where
  clients := fun _ => none
  conns := []
  goroutines := fun _ => .idle

def system : System State Event where
  init := init
  step := step

/-- The RPC that a step starts: the address it is for, the client, and the message. -/
def calls? (s : State) : Event → Option (String × ClientId × PersistedMessage)
  | .deliverMessage _ addr msg => (s.clients addr).map fun client => (addr, client, msg)
  | .store n =>
    match s.goroutines n with
    | .storing addr client msg => some (addr, client, msg)
    | _ => none
  | .newClient .. | .reply .. => none

/-- The goroutine that finds no client for an address, and the address. -/
def misses? (s : State) : Event → Option (GoroutineId × String)
  | .deliverMessage n addr _ => if (s.clients addr).isNone then some (n, addr) else none
  | _ => none

end TinyTelegram.Gateway.Peer
