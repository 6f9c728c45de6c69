import TinyTelegram.Gateway.Cluster
import TinyTelegram.MessageService.Counters

/-!
# The cluster over plain counters

The gateways with a message service whose Redis is the plain counters of `MessageService/Counters.lean`.
-/

namespace TinyTelegram.Gateway

namespace Cluster

/-- The events of the cluster over plain counters. -/
abbrev CounterEvent := Event MessageService.Counters.Choice MessageService.Counters.Event

/-- The states of the cluster over plain counters. -/
abbrev CounterState := State MessageService.Counters.State

/-- The event is not the rollback of a counter. -/
def NoRollback : CounterEvent → Prop
  | .service e => MessageService.NoRollback e
  | _ => True

instance : DecidablePred NoRollback
  | .service e => inferInstanceAs (Decidable (MessageService.NoRollback e))
  | .connect .. | .handler .. | .writer .. | .peer .. | .heartbeat .. | .expire .. =>
    isTrue trivial

end Cluster

/-- The cluster over plain counters. -/
abbrev counterCluster (addr : GwId → String) : Lts.System Cluster.CounterState Cluster.CounterEvent :=
  cluster MessageService.Counters.redis addr

end TinyTelegram.Gateway
