import TinyTelegram.MessageService.Server

/-!
# Catching up

A client that catches up calls `GetDiff` again and again, each time with the PTS of the last entry
it got, until it gets no more.  Here it does so against stores that do not change: `serve` answers
the commands of the service from a fixed table and fixed counters.
-/

namespace TinyTelegram.MessageService

/-- The replies of stores that are only read: the table `t`, and Redis with these values. -/
def serve (t : Table) (counters : String → Option Int) : ∀ c : Command, Reply c
  | .query userId clientPts limit => .ok (selectDiff t userId clientPts limit)
  | .get key => .ok (counters key)
  | .incr _ => .error "READONLY"
  | .wait .. => .error "READONLY"
  | .insert .. => .error "read-only transaction"
  | .newString => ""
  | .now => 0

/-- `GetDiff(userId, clientPts, limit)` against unchanging stores. -/
def fetch (t : Table) (counters : String → Option Int) (req : GetDiffRequest) :
    Except Status GetDiffResponse :=
  (getDiff req).eval (serve t counters)

/-- The PTS of the client after a response: that of its last entry. -/
def nextClientPts (userId : String) (clientPts : Int) : Except Status GetDiffResponse → Int
  | .error _ => clientPts
  | .ok res => (res.messages.getLast?.map fun m => m.ptsFor userId).getD clientPts

/-- The PTS of the client before its `k`-th call, when it starts from `0` and asks with the given
limits. -/
def clientPtsAt (t : Table) (counters : String → Option Int) (userId : String) (limits : ℕ → Int) :
    ℕ → Int
  | 0 => 0
  | k + 1 =>
    let clientPts := clientPtsAt t counters userId limits k
    nextClientPts userId clientPts (fetch t counters ⟨userId, clientPts, limits k⟩)

/-- The response to its `k`-th call. -/
def responseAt (t : Table) (counters : String → Option Int) (userId : String) (limits : ℕ → Int)
    (k : ℕ) : Except Status GetDiffResponse :=
  fetch t counters ⟨userId, clientPtsAt t counters userId limits k, limits k⟩

/-- The entries of a response. -/
def entries : Except Status GetDiffResponse → List PersistedMessage
  | .error _ => []
  | .ok res => res.messages

end TinyTelegram.MessageService
