import TinyTelegram.WebClient.Session

/-!
# The tabs of a browser

Any number of tabs with the web client, which share the `localStorage` of a browser, and the cluster that
they talk to.  A tab is a session of `Session.lean`: when it is its turn, it finds the cluster and the
storage as the others have left them.
-/

namespace TinyTelegram.WebClient

open Gateway (Cluster.State Cluster.Event)
open MessageService (Redis)

/-- The cluster, the storage and the tabs. -/
structure Browser (ρ : Type) where
  cluster : Cluster.State ρ
  storage : Option Saved
  /-- The cluster and the storage that a tab has here are those of its last turn. -/
  tabs : List (State ρ)

/-- What happens in a browser. -/
inductive Browser.Event (χ ε : Type) where
  /-- The page is loaded in a new tab. -/
  | newTab
  /-- An event of the tab `k`. -/
  | tab (k : ℕ) (e : WebClient.Event χ ε)
  /-- A step of the cluster. -/
  | cluster (e : Cluster.Event χ ε)

namespace Browser

variable {ρ χ ε : Type}

/-- What a tab finds when it is its turn. -/
def turn (b : Browser ρ) (s : State ρ) : State ρ :=
  { s with cluster := b.cluster, client := { s.client with storage := b.storage } }

/-- The event is one of a tab on its own, and a new socket is not one of another tab. -/
def isTurn (b : Browser ρ) : WebClient.Event χ ε → Bool
  | .connect c _ _ => b.tabs.all fun s => (s.links c).isNone
  | .cluster _ => false
  | _ => true

/-- One event. -/
def step (R : Redis ρ χ ε) (addr : Gateway.GwId → String) (b : Browser ρ) :
    Event χ ε → Option (Browser ρ)
  | .newTab =>
    some { b with tabs := b.tabs ++ [{ WebClient.init R with client := .load b.storage }] }
  | .tab k e =>
    match b.tabs[k]? with
    | some s =>
      if b.isTurn e then
        (WebClient.step R addr (b.turn s) e).map fun t =>
          { b with storage := t.client.storage, tabs := b.tabs.set k t }
      else none
    | none => none
  | .cluster e =>
    if b.tabs.all fun s => allowed (b.turn s) e then
      ((Gateway.cluster R addr).step b.cluster e).map fun x =>
        { b with cluster := x, tabs := b.tabs.map fun s => noteCluster (b.turn s) e }
    else none

/-- A browser without anything stored. -/
def init (R : Redis ρ χ ε) : Browser ρ where
  cluster := Gateway.Cluster.init R
  storage := none
  tabs := []

end Browser

/-- A browser with the web client in its tabs, in a cluster. -/
def browser {ρ χ ε : Type} (R : Redis ρ χ ε) (addr : Gateway.GwId → String) :
    Lts.System (Browser ρ) (Browser.Event χ ε) where
  init := .init R
  step := Browser.step R addr

end TinyTelegram.WebClient
