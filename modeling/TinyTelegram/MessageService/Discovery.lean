import Mathlib.Data.List.Perm.Basic
import TinyTelegram.Lib.OnDemand

/-!
# The gateways that the message service knows

`message-service/grpc/client.go`: the goroutine of `DiscoverGateways`, which reads the Redis hash `gateways`
every three seconds and makes a client for each address in it that has none; and the commands by which the
gateways keep their entries in that hash (`RegisterGateway` and `UnregisterGateway` of
`gateway/store/redis.go`).

The hash takes the id of a gateway to its address.  A Go map is iterated over in any order, and so the
addresses of an `HGETALL` come in any order, an address that two gateways share twice.
-/

namespace TinyTelegram.MessageService

open Lts

namespace Discovery

/-- A client goes by the position of its connection among all that were made. -/
abbrev ClientId := ℕ

/-- Where the goroutine stands. -/
inductive Loop where
  /-- In `time.Sleep`. -/
  | asleep
  /-- In the loop over what `HGETALL` has returned; these addresses are to come. -/
  | ranging (addrs : List String)
  /-- In `RegisterGateway`: `grpc.NewClient` is to come. -/
  | connecting (addr : String) (addrs : List String)
  /-- In `RegisterGateway`: the client is to be put into `clients`. -/
  | storing (addr : String) (client : ClientId) (addrs : List String)
  deriving DecidableEq, Repr

structure State where
  /-- The hash `gateways`. -/
  gateways : List (String × String)
  clients : String → Option ClientId
  /-- The addresses of the connections that were made, in order. -/
  conns : List String
  loop : Loop

inductive Event where
  /-- `HSET gateways id addr`, by a gateway. -/
  | hSet (id addr : String)
  /-- `HDEL gateways id`, by a gateway. -/
  | hDel (id : String)
  /-- `HGETALL gateways` returns these addresses, or fails. -/
  | hGetAll (addrs : Option (List String))
  /-- The loop looks the next address up, or is at its end. -/
  | next
  /-- `grpc.NewClient` returns a connection, or an error. -/
  | newClient (ok : Bool)
  /-- `clients[addr] = pb.NewGatewayServiceClient(conn)`. -/
  | store
  deriving DecidableEq, Repr

/-- `HSET` on the entries of a hash. -/
def hSet (hash : List (String × String)) (id addr : String) : List (String × String) :=
  hash.filter (fun entry => entry.1 ≠ id) ++ [(id, addr)]

/-- `HDEL` on the entries of a hash. -/
def hDel (hash : List (String × String)) (id : String) : List (String × String) :=
  hash.filter fun entry => entry.1 ≠ id

/-- One event. -/
def step (s : State) : Event → Option State
  | .hSet id addr => some { s with gateways := hSet s.gateways id addr }
  | .hDel id => some { s with gateways := hDel s.gateways id }
  | .hGetAll none =>
    match s.loop with
    | .asleep => some s
    | _ => none
  | .hGetAll (some addrs) =>
    match s.loop with
    | .asleep =>
      if addrs.Perm (s.gateways.map Prod.snd) then some { s with loop := .ranging addrs } else none
    | _ => none
  | .next =>
    match s.loop with
    | .ranging [] => some { s with loop := .asleep }
    | .ranging (addr :: addrs) =>
      match s.clients addr with
      | some _ => some { s with loop := .ranging addrs }
      | none => some { s with loop := .connecting addr addrs }
    | _ => none
  | .newClient ok =>
    match s.loop with
    | .connecting addr addrs =>
      some (if ok then
          { s with conns := s.conns ++ [addr], loop := .storing addr s.conns.length addrs }
        else { s with loop := .ranging addrs })
    | _ => none
  | .store =>
    match s.loop with
    | .storing addr client addrs =>
      some { s with
        clients := Function.update s.clients addr (some client)
        loop := .ranging addrs }
    | _ => none

def init : State where
  gateways := []
  clients := fun _ => none
  conns := []
  loop := .asleep

def system : System State Event where
  init := init
  step := step

/-- The address that no connection could be made to. -/
def failed? (s : State) : Event → Option String
  | .newClient false =>
    match s.loop with
    | .connecting addr _ => some addr
    | _ => none
  | _ => none

/-- `DeliverMessage`, with what the RPC of a client comes to. -/
def deliverMessage (s : State) (gatewayAddr : String) (rpc : ClientId → Except String Bool) :
    Except String Bool :=
  match s.clients gatewayAddr with
  | none => .ok false
  | some client => rpc client

end Discovery

end TinyTelegram.MessageService
