import Mathlib.Data.Nat.Notation
import Mathlib.Logic.Function.Basic

/-!
# The identity of a gateway

`gateway/main.go` and `gateway/taskmeta.go`: where a gateway takes its id and its address from before it
serves.  On ECS it makes both of what the task metadata endpoint tells it, and publishes them in its own
environment, because every handler reads them there; elsewhere they are in the environment that it is
started with.
-/

namespace TinyTelegram.Gateway

/-- The environment of a process; a variable that is not set is empty. -/
abbrev Environ := String → String

/-- `os.Setenv`. -/
def Environ.setenv (environ : Environ) (key value : String) : Environ := Function.update environ key value

/-! ### The task metadata -/

structure Network where
  ipv4Addresses : List String
  deriving DecidableEq, Repr

structure Container where
  networks : List Network
  deriving DecidableEq, Repr

/-- What is read of the metadata of a task. -/
structure TaskMetadata where
  taskARN : String
  containers : List Container
  deriving DecidableEq, Repr

/-- The body of a response. -/
inductive Body where
  /-- `io.ReadAll` fails. -/
  | broken (err : String)
  /-- `json.Unmarshal` fails. -/
  | malformed (err : String)
  | task (task : TaskMetadata)
  deriving DecidableEq, Repr

/-- What a `GET` comes to. -/
inductive Answer where
  | failed (err : String)
  | response (status : ℕ) (body : Body)
  deriving DecidableEq, Repr

/-- The last 8 characters of the last part of an ARN, which is ASCII. -/
def selfID (taskARN : String) : Option String :=
  let last := (taskARN.toList.splitOn '/').getLastD []
  if last.length < 8 then none else some (String.ofList (last.drop (last.length - 8)))

/-- The first address of the first network of the first container. -/
def containerIP (task : TaskMetadata) : Option String :=
  task.containers.head?.bind fun container =>
    container.networks.head?.bind fun network => network.ipv4Addresses.head?

/-- The id and the address of a task. -/
def resolveSelfAddr (metaURI grpcPort : String) (get : String → Answer) :
    Except String (String × String) :=
  if metaURI = "" then .error "ECS_CONTAINER_METADATA_URI_V4 not set"
  else
    match get (metaURI ++ "/task") with
    | .failed err => .error err
    | .response status body =>
      if status ≠ 200 then .error ("metadata HTTP " ++ toString status)
      else
        match body with
        | .broken err => .error err
        | .malformed err => .error ("parse metadata: " ++ err)
        | .task task =>
          match selfID task.taskARN, containerIP task with
          | none, _ => .error ("unexpected task ARN: " ++ task.taskARN)
          | some _, none => .error "no container IP in metadata"
          | some id, some ip => .ok (id, ip ++ ":" ++ grpcPort)

/-! ### The start -/

/-- What the rest of a process has of its start. -/
structure Identity where
  /-- The environment that the handlers read. -/
  environ : Environ
  /-- The id and the address that `RegisterGateway` and the heartbeat put into the hash `gateways`. -/
  registered : Option (String × String)

/-- `main`, up to the point at which it serves, with what the metadata endpoint answers; an error is
fatal. -/
def main (environ : Environ) (get : String → Answer) : Except String Identity :=
  let grpcPort := if environ "GRPC_PORT" = "" then "9000" else environ "GRPC_PORT"
  let metaURI := environ "ECS_CONTAINER_METADATA_URI_V4"
  let register (environ : Environ) (gatewayAddr grpcAddr : String) : Identity :=
    { environ
      registered := if gatewayAddr ≠ "" ∧ grpcAddr ≠ "" then some (gatewayAddr, grpcAddr) else none }
  if metaURI ≠ "" then
    match resolveSelfAddr metaURI grpcPort get with
    | .error err => .error ("ECS metadata resolution failed: " ++ err)
    | .ok (id, addr) =>
      .ok (register ((environ.setenv "GATEWAY_ADDR" id).setenv "GATEWAY_GRPC_ADDR" addr) id addr)
  else
    let gatewayAddr := environ "GATEWAY_ADDR"
    let grpcAddr :=
      if environ "GATEWAY_GRPC_ADDR" = "" then gatewayAddr else environ "GATEWAY_GRPC_ADDR"
    .ok (register environ gatewayAddr grpcAddr)

/-- The address that a handler writes to the presence key of its user, in
`gateway/handler/websocket.go`. -/
def presenceAddr (environ : Environ) : String :=
  if environ "GATEWAY_GRPC_ADDR" = "" then environ "GATEWAY_ADDR" else environ "GATEWAY_GRPC_ADDR"

/-- A gateway that serves. -/
structure Process where
  /-- The environment that it was started with. -/
  environ : Environ
  get : String → Answer
  identity : Identity
  main_eq : main environ get = .ok identity

/-- The address of the connections of a gateway. -/
def Process.addr (p : Process) : String := presenceAddr p.identity.environ

end TinyTelegram.Gateway
