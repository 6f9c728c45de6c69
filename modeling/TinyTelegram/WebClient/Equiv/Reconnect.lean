import TinyTelegram.WebClient.Equiv.Sockets

/-!
# Trying to reconnect, and giving up

A socket that closes makes the client try again, after a delay that grows with the attempts since a socket
last opened, and five times at most.  All sockets of the page count their attempts in the one field
`reconnectAttempts`, so the bound does not depend on how many there are.

* `backoff`: as long as no socket opens, the delays are 2000 ms, 4000 ms and so on, each once.
* `gives_up`: once five sockets have closed and none has opened in between, a socket that closes starts no
  timer, and the page asks to be reloaded.
* `stuck_iff`: nothing changes a page any more once the login form is gone and every socket that was made for
  it has come to its end, by giving up or because `new WebSocket` has thrown.
-/

namespace TinyTelegram.WebClient

open Gateway (Frame)

namespace Client

variable (c : Client)

@[simp] theorem updatePtsIf_reconnectAttempts (pts : Int) :
    (c.updatePtsIf pts).reconnectAttempts = c.reconnectAttempts := by
  rcases c.updatePtsIf_cases pts with h | ⟨-, h⟩
  · exact congrArg reconnectAttempts h
  · exact (congrArg reconnectAttempts h).trans rfl

@[simp] theorem updatePtsIf_gatewayUrl (pts : Int) :
    (c.updatePtsIf pts).gatewayUrl = c.gatewayUrl := by
  rcases c.updatePtsIf_cases pts with h | ⟨-, h⟩
  · exact congrArg gatewayUrl h
  · exact (congrArg gatewayUrl h).trans rfl

/-- No frame counts as an attempt. -/
@[simp] theorem onMessage_reconnectAttempts (now : Int) (frame : Frame) :
    (c.onMessage now frame).reconnectAttempts = c.reconnectAttempts := by
  cases frame with
  | ack senderPts messageID =>
    show (c.handleAck senderPts messageID).reconnectAttempts = c.reconnectAttempts
    rw [c.handleAck_eq]
    exact c.updatePtsIf_reconnectAttempts senderPts
  | message m =>
    rw [onMessage]
    split
    · exact c.updatePtsIf_reconnectAttempts _
    · rfl

/-- What `onClose` does while it tries again. -/
theorem onClose_of_lt (h : c.reconnectAttempts < maxReconnectAttempts) :
    c.onClose = ({ c with reconnectAttempts := c.reconnectAttempts + 1 },
      some (reconnectDelay * (c.reconnectAttempts + 1))) := by
  unfold onClose
  rw [if_pos h]

/-- What `onClose` does when it has tried often enough. -/
theorem onClose_of_not_lt (h : ¬ c.reconnectAttempts < maxReconnectAttempts) :
    c.onClose = (c, none) := by
  unfold onClose
  rw [if_neg h]

end Client

namespace Page

/-- The event opens a socket. -/
def opens : Event → Bool
  | .onOpen _ => true
  | _ => false

/-- A socket closes, or a timer fires. -/
def retries : Event → Bool
  | .onClose _ | .timeout _ _ => true
  | _ => false

/-- A socket closes. -/
def closes : Event → Bool
  | .onClose _ => true
  | _ => false

/-- The delay of the timer that an event starts. -/
def delay? (p : Page) : Event → Option ℕ
  | .onClose _ => p.client.onClose.2
  | _ => none

/-- The sockets that the page makes by itself, if none opens: for the timers, and for the attempts that
are left. -/
def budget (p : Page) : ℕ :=
  p.timers.length + (maxReconnectAttempts - p.client.reconnectAttempts)

/-- How many sockets are connecting or open. -/
def liveSockets (p : Page) : ℕ := p.sockets.countP (· ≠ .closed)

/-- How often sockets close and timers fire, at most, if none opens. -/
def fuel (p : Page) : ℕ := p.liveSockets + 2 * p.budget

/-! ### What the functions change -/

/-- What decides about reconnecting. -/
structure Plan where
  sockets : List ReadyState
  timers : List ℕ
  reconnectAttempts : ℕ
  loginShown : Bool

def plan (p : Page) : Plan := ⟨p.sockets, p.timers, p.client.reconnectAttempts, p.loginShown⟩

section Plan

variable (p : Page)

theorem displayMessage_plan (id : String) : (p.displayMessage id).plan = p.plan := by
  unfold displayMessage
  split <;> rfl

theorem handleAck_plan (senderPts : Int) (messageID : String) :
    (p.handleAck senderPts messageID).plan = p.plan := by
  have hattempts : (p.client.handleAck senderPts messageID).reconnectAttempts =
      p.client.reconnectAttempts := p.client.onMessage_reconnectAttempts 0 (.ack senderPts messageID)
  have hclient : plan { p with client := p.client.handleAck senderPts messageID } = p.plan := by
    unfold plan
    simp only [hattempts]
  unfold handleAck
  simp only
  split
  · exact hclient
  · split
    · rw [displayMessage_plan]
      exact hclient
    · exact hclient

/-- A frame does not make the page connect. -/
theorem onMessage_plan (now : Int) (frame : Frame) : (p.onMessage now frame).plan = p.plan := by
  cases frame with
  | ack senderPts messageID => exact p.handleAck_plan senderPts messageID
  | message m =>
    simp only [onMessage]
    split
    · unfold handleIncomingMessage
      rw [displayMessage_plan]
      have hattempts := p.client.updatePtsIf_reconnectAttempts
        ((p.client.applicablePts m ‹ChatMessage›).getD 0)
      unfold plan
      show Plan.mk p.sockets p.timers (p.client.updatePtsIf _).reconnectAttempts p.loginShown = _
      rw [hattempts]
    · rfl

theorem sendMessage_plan (receiverID content tempID : String) (now : Int) :
    (p.sendMessage receiverID content tempID now).plan = p.plan := by
  unfold sendMessage
  split
  · rw [displayMessage_plan]
    rfl
  · rfl

variable {p}

theorem budget_congr {q : Page} (h : q.plan = p.plan) : q.budget = p.budget := by
  have htimers : q.timers = p.timers := congrArg Plan.timers h
  have hattempts : q.client.reconnectAttempts = p.client.reconnectAttempts :=
    congrArg Plan.reconnectAttempts h
  rw [budget, budget, htimers, hattempts]

theorem fuel_congr {q : Page} (h : q.plan = p.plan) : q.fuel = p.fuel := by
  have hsockets : q.sockets = p.sockets := congrArg Plan.sockets h
  rw [fuel, fuel, budget_congr h, liveSockets, liveSockets, hsockets]

/-- A socket that closes starts a timer at the cost of an attempt, if one is left. -/
theorem onClose_budget (p : Page) : p.onClose.budget = p.budget := by
  by_cases hlt : p.client.reconnectAttempts < maxReconnectAttempts
  · unfold onClose
    rw [p.client.onClose_of_lt hlt]
    show (p.timers ++ [_]).length + (maxReconnectAttempts - (p.client.reconnectAttempts + 1)) = p.budget
    rw [List.length_append, List.length_singleton, budget]
    omega
  · unfold onClose
    rw [p.client.onClose_of_not_lt hlt]
    rfl

theorem onClose_sockets (p : Page) : p.onClose.sockets = p.sockets := by
  unfold onClose
  split <;> rfl

end Plan

/-! ### One event -/

/-- A timer that fires is used up. -/
theorem eraseIdx_budget {p : Page} {k delay : ℕ} (hk : p.timers[k]? = some delay) :
    budget { p with timers := p.timers.eraseIdx k } + 1 = p.budget := by
  have hlength := List.length_eraseIdx_add_one (List.getElem?_eq_some_iff.mp hk).1
  show (p.timers.eraseIdx k).length + (maxReconnectAttempts - p.client.reconnectAttempts) + 1 = p.budget
  rw [budget]
  omega

theorem connect_budget (p : Page) (userId gatewayUrl : String) (throws : Bool) :
    (p.connect userId gatewayUrl throws).budget = p.budget := by
  cases throws <;> rfl

theorem connect_sockets (p : Page) (userId gatewayUrl : String) (throws : Bool) :
    (p.connect userId gatewayUrl throws).sockets.length =
      p.sockets.length + if throws then 0 else 1 := by
  cases throws with
  | true => rfl
  | false =>
    show (p.sockets ++ [ReadyState.connecting]).length = p.sockets.length + 1
    rw [List.length_append, List.length_singleton]

theorem connect_liveSockets (p : Page) (userId gatewayUrl : String) (throws : Bool) :
    (p.connect userId gatewayUrl throws).liveSockets =
      p.liveSockets + if throws then 0 else 1 := by
  cases throws with
  | true => rfl
  | false =>
    show (p.sockets ++ [ReadyState.connecting]).countP (· ≠ .closed) = p.liveSockets + 1
    rw [List.countP_append, liveSockets]
    rfl

theorem close_liveSockets {p : Page} {i : ℕ} {r : ReadyState} (hi : p.sockets[i]? = some r)
    (hr : r ≠ .closed) : liveSockets { p with sockets := p.sockets.set i .closed } + 1 =
      p.liveSockets := by
  have hset := set_live hi .closed
  rw [if_pos hr] at hset
  simp only [live, ne_eq, not_true_eq_false, if_false] at hset
  simp only [liveSockets, ne_eq]
  omega

/-- **One event** that opens no socket: a submission of the form brings one socket, and every other socket
is paid for. -/
theorem budget_step {p q : Page} {e : Event} (hstep : Step p e q) (hopen : opens e = false) :
    q.sockets.length + q.budget ≤ p.sockets.length + p.budget + (if submits e then 1 else 0) ∧
    q.fuel + (if retries e then 1 else 0) ≤ p.fuel + if submits e then 1 else 0 := by
  have hsame : ∀ {q : Page}, q.plan = p.plan →
      q.sockets.length + q.budget ≤ p.sockets.length + p.budget + (if submits e then 1 else 0) ∧
      q.fuel ≤ p.fuel + if submits e then 1 else 0 := by
    intro q h
    have hsockets : q.sockets = p.sockets := congrArg Plan.sockets h
    rw [hsockets, budget_congr h, fuel_congr h]
    exact ⟨Nat.le_add_right .., Nat.le_add_right ..⟩
  cases hstep with
  | @submit userId gatewayUrl throws hshown =>
    have hbudget := p.connect_budget userId gatewayUrl throws
    have hsockets := p.connect_sockets userId gatewayUrl throws
    have hlive := p.connect_liveSockets userId gatewayUrl throws
    cases throws with
    | true => simp_all [fuel, submits, retries]
    | false =>
      simp only [fuel, hbudget, hlive, hsockets, submits, retries]
      simp only [Bool.not_false, Bool.false_eq_true, if_false, if_true]
      omega
  | onOpen hi => cases hopen
  | @onMessage i now frame hi => exact hsame (p.onMessage_plan now frame)
  | onError => exact hsame rfl
  | @onClose i r hi hr =>
    have hlive := close_liveSockets hi hr
    have hbudget : budget { p with sockets := p.sockets.set i .closed } = p.budget := rfl
    have hlength : (p.sockets.set i .closed).length = p.sockets.length := List.length_set
    simp only [fuel, liveSockets, onClose_sockets, onClose_budget, hbudget, hlength, submits, retries]
    simp only [liveSockets] at hlive
    simp only [Bool.false_eq_true, if_false, if_true]
    omega
  | @timeout k throws delay userId gatewayUrl hk huser hurl =>
    have hgone := eraseIdx_budget hk
    have hsockets := connect_sockets { p with timers := p.timers.eraseIdx k } userId gatewayUrl throws
    have hlive := connect_liveSockets { p with timers := p.timers.eraseIdx k } userId gatewayUrl throws
    have hsame' : liveSockets { p with timers := p.timers.eraseIdx k } = p.liveSockets := rfl
    simp only [fuel, connect_budget, hsockets, hlive, hsame', submits, retries]
    simp only [Bool.false_eq_true, if_false, if_true]
    cases throws
    · simp only [Bool.false_eq_true, if_false]
      omega
    · simp only [if_true]
      omega
  | send hfilled => exact hsame (p.sendMessage_plan ..)
  | sendEmpty hempty => exact hsame rfl

/-- The attempts that an event counts, if it opens no socket: one for each delay. -/
theorem attempts_step {p q : Page} {e : Event} (hstep : Step p e q) (hopen : opens e = false) :
    p.delay? e = none ∧ q.client.reconnectAttempts = p.client.reconnectAttempts ∨
    p.client.reconnectAttempts < maxReconnectAttempts ∧
      p.delay? e = some (reconnectDelay * (p.client.reconnectAttempts + 1)) ∧
      q.client.reconnectAttempts = p.client.reconnectAttempts + 1 := by
  cases hstep with
  | @submit userId gatewayUrl throws hshown =>
    left
    cases throws <;> exact ⟨rfl, rfl⟩
  | onOpen hi => cases hopen
  | @onMessage i now frame hi =>
    exact Or.inl ⟨rfl, congrArg Plan.reconnectAttempts (p.onMessage_plan now frame)⟩
  | onError => exact Or.inl ⟨rfl, rfl⟩
  | @onClose i r hi hr =>
    by_cases hlt : p.client.reconnectAttempts < maxReconnectAttempts
    · right
      refine ⟨hlt, ?_, ?_⟩
      · rw [delay?, p.client.onClose_of_lt hlt]
      · unfold onClose
        rw [Client.onClose_of_lt _ hlt]
        rfl
    · left
      refine ⟨?_, ?_⟩
      · rw [delay?, p.client.onClose_of_not_lt hlt]
      · unfold onClose
        rw [Client.onClose_of_not_lt _ hlt]
        rfl
  | @timeout k throws delay userId gatewayUrl hk huser hurl =>
    left
    cases throws <;> exact ⟨rfl, rfl⟩
  | send hfilled =>
    exact Or.inl ⟨rfl, congrArg Plan.reconnectAttempts (p.sendMessage_plan ..)⟩
  | sendEmpty hempty => exact Or.inl ⟨rfl, rfl⟩

/-- Which events count as attempts, if no socket opens. -/
theorem attempts_closes {p q : Page} {e : Event} (hstep : Step p e q) (hopen : opens e = false) :
    q.client.reconnectAttempts =
      if closes e = true ∧ p.client.reconnectAttempts < maxReconnectAttempts then
        p.client.reconnectAttempts + 1
      else p.client.reconnectAttempts := by
  have hdelay : closes e = true ∧ p.client.reconnectAttempts < maxReconnectAttempts ↔ p.delay? e ≠ none := by
    cases e with
    | onClose i =>
      by_cases hlt : p.client.reconnectAttempts < maxReconnectAttempts
      · simp [closes, delay?, p.client.onClose_of_lt hlt, hlt]
      · simp [delay?, p.client.onClose_of_not_lt hlt, hlt]
    | _ => simp [closes, delay?]
  rcases attempts_step hstep hopen with ⟨hnone, hsame⟩ | ⟨hlt, hsome, hnext⟩
  · rw [if_neg (fun h => hdelay.mp h hnone), hsame]
  · rw [if_pos (hdelay.mpr (by rw [hsome]; exact Option.some_ne_none _)), hnext]

/-! ### Whole runs -/

/-- The count of attempts never passes five. -/
theorem attempts_le {storage : Option Saved} {p : Page} (hp : (page storage).Reachable p) :
    p.client.reconnectAttempts ≤ maxReconnectAttempts := by
  refine Lts.System.invariant (I := fun p : Page => p.client.reconnectAttempts ≤ maxReconnectAttempts)
    (Nat.zero_le _) (fun p e q hp hstep => ?_) hp
  cases he : opens e with
  | true =>
    cases step_cases hstep with
    | onOpen hi => exact Nat.zero_le _
    | _ => cases he
  | false =>
    rcases attempts_step (step_cases hstep) he with ⟨-, hsame⟩ | ⟨hlt, -, hnext⟩
    · rw [hsame]
      exact hp
    · rw [hnext]
      exact hlt

/-- **Backoff.**  As long as no socket opens, the delays of the timers are multiples of 2000 ms, one for each
further attempt, and no attempt is made after the fifth. -/
theorem backoff {storage : Option Saved} {p q : Page} {es : List Event}
    (hp : (page storage).Reachable p) (h : (page storage).run p es = some q)
    (hopen : ∀ e ∈ es, opens e = false) :
    (page storage).observe delay? p es =
        (List.range' (p.client.reconnectAttempts + 1)
          (q.client.reconnectAttempts - p.client.reconnectAttempts)).map (reconnectDelay * ·) ∧
      p.client.reconnectAttempts ≤ q.client.reconnectAttempts ∧
      q.client.reconnectAttempts ≤ maxReconnectAttempts := by
  have hmax := attempts_le hp
  induction es using List.reverseRecOn generalizing q with
  | nil =>
    obtain rfl := Option.some.inj h
    simp [Lts.System.observe, hmax]
  | append_singleton es e ih =>
    obtain ⟨r, hr, hstep⟩ := (Lts.System.run_concat ..).mp h
    obtain ⟨hdelays, hle, hr5⟩ := ih hr fun d hd => hopen d (List.mem_append_left _ hd)
    have he : opens e = false := hopen e (List.mem_append_right _ (List.mem_singleton_self e))
    rw [Lts.System.observe_concat delay? hr, hdelays]
    rcases attempts_step (step_cases hstep) he with ⟨hnone, hsame⟩ | ⟨hlt, hdelay, hnext⟩
    · rw [hnone, hsame]
      exact ⟨List.append_nil _, hle, hr5⟩
    · have hcount : r.client.reconnectAttempts + 1 - p.client.reconnectAttempts =
          r.client.reconnectAttempts - p.client.reconnectAttempts + 1 := by omega
      have hlast : p.client.reconnectAttempts + 1 +
          (r.client.reconnectAttempts - p.client.reconnectAttempts) =
            r.client.reconnectAttempts + 1 := by omega
      rw [hdelay, hnext, hcount, List.range'_concat, List.map_append, Nat.one_mul, hlast]
      exact ⟨rfl, by omega, hlt⟩

/-- The login form is submitted, and the gateway is down. -/
def downRun : List Event :=
  [.submit "alice" "ws://gateway1" false, .onError 0, .onClose 0, .timeout 0 false, .onClose 1,
    .timeout 0 false, .onClose 2]

/-- The delays are 2000, 4000 and 6000 ms. -/
theorem backoff_downRun : ∃ q, (page none).run (page none).init downRun = some q ∧
    (page none).observe delay? (page none).init downRun = [2000, 4000, 6000] := by
  refine ⟨_, rfl, ?_⟩
  exact (@backoff none (page none).init _ downRun ⟨[], rfl⟩ rfl (by decide)).1

/-- What the sockets that close do to the count, as long as none opens. -/
theorem attempts_run {storage : Option Saved} {p q : Page} {es : List Event}
    (hp : p.client.reconnectAttempts ≤ maxReconnectAttempts) (h : (page storage).run p es = some q)
    (hopen : ∀ e ∈ es, opens e = false) :
    q.client.reconnectAttempts =
      min maxReconnectAttempts (p.client.reconnectAttempts + es.countP closes) := by
  induction es using List.reverseRecOn generalizing q with
  | nil =>
    obtain rfl := Option.some.inj h
    rw [List.countP_nil, Nat.add_zero, Nat.min_eq_right hp]
  | append_singleton es e ih =>
    obtain ⟨r, hr, hstep⟩ := (Lts.System.run_concat ..).mp h
    have hcount := ih hr fun d hd => hopen d (List.mem_append_left _ hd)
    have he : opens e = false := hopen e (List.mem_append_right _ (List.mem_singleton_self e))
    rw [List.countP_append, List.countP_singleton, attempts_closes (step_cases hstep) he, hcount]
    split_ifs with hlt hcloses hcloses
    · omega
    · exact absurd hlt.1 hcloses
    · have hfull := mt (And.intro hcloses) hlt
      omega
    · omega

/-- The sockets and the retries of a run in which no socket opens. -/
theorem budget_run {storage : Option Saved} {p q : Page} {es : List Event}
    (h : (page storage).run p es = some q) (hopen : ∀ e ∈ es, opens e = false) :
    q.sockets.length + q.budget ≤ p.sockets.length + p.budget + es.countP submits ∧
      q.fuel + es.countP retries ≤ p.fuel + es.countP submits := by
  induction es using List.reverseRecOn generalizing q with
  | nil =>
    obtain rfl := Option.some.inj h
    simp
  | append_singleton es e ih =>
    obtain ⟨r, hr, hstep⟩ := (Lts.System.run_concat ..).mp h
    obtain ⟨hsockets, hfuel⟩ := ih hr fun d hd => hopen d (List.mem_append_left _ hd)
    have he : opens e = false := hopen e (List.mem_append_right _ (List.mem_singleton_self e))
    obtain ⟨hsockets', hfuel'⟩ := budget_step (step_cases hstep) he
    rw [List.countP_append, List.countP_append, List.countP_singleton, List.countP_singleton]
    omega

/-- **Giving up.**  Let no socket open in a run.  A socket that closes after it starts a timer as long as
fewer than five have closed since one opened; from then on it starts none, and the page says that it must be
reloaded.  The page makes a socket for each submission of the form, each pending timer and each attempt that
is left, and no others, and so only so many sockets close and timers fire. -/
theorem gives_up {storage : Option Saved} {p q : Page} {es : List Event}
    (hp : (page storage).Reachable p) (h : (page storage).run p es = some q)
    (hopen : ∀ e ∈ es, opens e = false) :
    (∀ i r, (page storage).step q (.onClose i) = some r →
      if p.client.reconnectAttempts + es.countP closes < maxReconnectAttempts then
        r.timers = q.timers ++
          [reconnectDelay * (p.client.reconnectAttempts + es.countP closes + 1)]
      else
        r.timers = q.timers ∧ r.container = q.container ++
          [.system "Connection lost. Please refresh the page to reconnect."]) ∧
    q.sockets.length ≤ p.sockets.length + p.timers.length +
        (maxReconnectAttempts - p.client.reconnectAttempts) + es.countP submits ∧
    es.countP retries ≤ p.fuel + es.countP submits := by
  refine ⟨fun i r hstep => ?_, ?_⟩
  · have hcount := attempts_run (attempts_le hp) h hopen
    have hclose : Step q (.onClose i) r := step_cases hstep
    cases hclose with
    | onClose hi hr =>
      split_ifs with hlt
      · have hleft : q.client.reconnectAttempts < maxReconnectAttempts := by omega
        unfold onClose
        rw [q.client.onClose_of_lt hleft]
        show q.timers ++ [reconnectDelay * (q.client.reconnectAttempts + 1)] = _
        rw [hcount, Nat.min_eq_right hlt.le]
      · have hnone : ¬ q.client.reconnectAttempts < maxReconnectAttempts := by omega
        unfold onClose
        rw [q.client.onClose_of_not_lt hnone]
        exact ⟨rfl, rfl⟩
  · have hrun := budget_run h hopen
    unfold budget at hrun
    omega

/-- Alice's connection is lost, and the five attempts that follow fail too. -/
def lostRun : List Event :=
  [.submit "alice" "ws://gateway1" false, .onOpen 0, .onClose 0, .timeout 0 false, .onClose 1,
    .timeout 0 false, .onClose 2, .timeout 0 false, .onClose 3, .timeout 0 false, .onClose 4,
    .timeout 0 false, .onClose 5]

/-- The page gives up at the sixth close. -/
theorem gives_up_lostRun : ∃ q r, (page none).run (page none).init lostRun.dropLast = some q ∧
    (page none).step q (.onClose 5) = some r ∧ r.timers = q.timers ∧
    r.container = q.container ++ [.system "Connection lost. Please refresh the page to reconnect."] := by
  obtain ⟨p, hp⟩ : ∃ p, (page none).run (page none).init (lostRun.take 2) = some p := ⟨_, rfl⟩
  obtain ⟨q, hq⟩ : ∃ q, (page none).run p (lostRun.dropLast.drop 2) = some q := by
    obtain rfl := Option.some.inj hp
    exact ⟨_, rfl⟩
  have hcount : p.client.reconnectAttempts = 0 := by
    obtain rfl := Option.some.inj hp
    rfl
  obtain ⟨r, hr⟩ : ∃ r, (page none).step q (.onClose 5) = some r := by
    obtain rfl := Option.some.inj hp
    obtain rfl := Option.some.inj hq
    exact ⟨_, rfl⟩
  have hlast := (gives_up ⟨_, hp⟩ hq (by decide)).1 5 r hr
  rw [hcount, if_neg (by decide)] at hlast
  exact ⟨q, r, (Lts.System.run_append (page none).init q (lostRun.take 2) _).mpr ⟨p, hp, hq⟩, hr, hlast⟩

/-! ### The end of it -/

/-- The login form is gone, and no socket and no timer is left. -/
def Stuck (p : Page) : Prop := p.loginShown = false ∧ p.live = 0

/-- A page with a socket or a timer knows where to connect. -/
def Known (p : Page) : Prop :=
  p.sockets = [] ∧ p.timers = [] ∨ p.client.userId ≠ none ∧ p.client.gatewayUrl ≠ none

theorem known_connect (p : Page) (userId gatewayUrl : String) (throws : Bool) :
    Known (p.connect userId gatewayUrl throws) := by
  right
  cases throws <;> exact ⟨Option.some_ne_none _, Option.some_ne_none _⟩

/-- Only `connect` changes where the page connects to. -/
theorem Known.congr {p q : Page} (h : Known p) (hplan : q.plan = p.plan)
    (huser : q.client.userId = p.client.userId) (hurl : q.client.gatewayUrl = p.client.gatewayUrl) :
    Known q := by
  have hsockets : q.sockets = p.sockets := congrArg Plan.sockets hplan
  have htimers : q.timers = p.timers := congrArg Plan.timers hplan
  unfold Known
  rw [hsockets, htimers, huser, hurl]
  exact h

/-- A page with a socket knows where to connect. -/
theorem Known.of_socket {p : Page} (h : Known p) {i : ℕ} {r : ReadyState}
    (hi : p.sockets[i]? = some r) : p.client.userId ≠ none ∧ p.client.gatewayUrl ≠ none := by
  rcases h with ⟨hnil, -⟩ | h
  · rw [hnil] at hi
    cases hi
  · exact h

theorem Known.step {p q : Page} {e : Event} (h : Known p) (hstep : Step p e q) : Known q := by
  cases hstep with
  | submit hshown => exact p.known_connect ..
  | onOpen hi => exact Or.inr (h.of_socket hi)
  | @onMessage i now frame hi =>
    refine h.congr (p.onMessage_plan now frame) ?_ ?_
    · rw [onMessage_client, Client.onMessage_userId]
    · rw [onMessage_client]
      cases frame with
      | ack senderPts messageID =>
        show (p.client.handleAck senderPts messageID).gatewayUrl = _
        rw [p.client.handleAck_eq]
        exact p.client.updatePtsIf_gatewayUrl senderPts
      | message m =>
        rw [Client.onMessage]
        split
        · exact p.client.updatePtsIf_gatewayUrl _
        · rfl
  | onError => exact h
  | onClose hi hr =>
    right
    rw [onClose_client, Client.onClose_fst]
    exact h.of_socket hi
  | timeout hk huser hurl => exact known_connect ..
  | send hfilled =>
    refine h.congr (p.sendMessage_plan ..) ?_ ?_
    · unfold sendMessage
      split
      · rw [displayMessage_client]
        rfl
      · rfl
    · unfold sendMessage
      split
      · rw [displayMessage_client]
        rfl
      · rfl
  | sendEmpty hempty => exact h

theorem known {storage : Option Saved} {p : Page} (hp : (page storage).Reachable p) : Known p :=
  Lts.System.invariant (I := Known) (Or.inl ⟨rfl, rfl⟩)
    (fun _ _ _ h hstep => h.step (step_cases hstep)) hp

theorem Stuck.closed {p : Page} (h : Stuck p) {i : ℕ} {r : ReadyState} (hi : p.sockets[i]? = some r) :
    r = .closed := by
  by_contra hr
  have hlive := set_live hi .closed
  rw [if_pos hr, h.2] at hlive
  simp at hlive

/-- Nothing that can happen changes a page that is stuck. -/
theorem Stuck.step {p q : Page} {e : Event} (h : Stuck p) (hstep : Step p e q) : q = p := by
  cases hstep with
  | submit hshown =>
    rw [h.1] at hshown
    cases hshown
  | onOpen hi => exact absurd (h.closed hi) (by decide)
  | onMessage hi => exact absurd (h.closed hi) (by decide)
  | onError => rfl
  | onClose hi hr => exact absurd (h.closed hi) hr
  | timeout hk huser hurl =>
    have hnil : p.timers = [] := List.length_eq_zero_iff.mp (by
      have := h.2
      unfold live at this
      omega)
    rw [hnil] at hk
    cases hk
  | @send receiverID content now rand hfilled =>
    have hdown : p.connected = false := by
      by_contra hup
      rw [Bool.not_eq_false, connected, decide_eq_true_eq] at hup
      obtain ⟨i, -, hi⟩ := Option.bind_eq_some_iff.mp hup
      exact absurd (h.closed hi) (by decide)
    unfold sendMessage
    rw [hdown, if_neg Bool.false_ne_true]
  | sendEmpty hempty => rfl

/-- A page that nothing can change is stuck. -/
theorem stuck_of_unchanged {storage : Option Saved} {p : Page} (hp : (page storage).Reachable p)
    (h : ∀ es q, (page storage).run p es = some q → q = p) : Stuck p := by
  have hone : ∀ e q, (page storage).step p e = some q → q = p := fun e q hstep =>
    h [e] q ((Lts.System.run_cons ..).mpr ⟨q, hstep, rfl⟩)
  -- the container or the sockets or the timers get longer or shorter by what can still happen
  have hshown : p.loginShown = false := by
    by_contra hshown
    rw [Bool.not_eq_false] at hshown
    have hstep : (page storage).step p (.submit "" "" false) = some (p.connect "" "" false) :=
      if_pos hshown
    have hlength := congrArg (fun p : Page => p.sockets.length) (hone _ _ hstep)
    have hmade := p.connect_sockets "" "" false
    change (p.connect "" "" false).sockets.length = p.sockets.length at hlength
    rw [if_neg Bool.false_ne_true] at hmade
    omega
  have hsockets : p.sockets.countP (· ≠ .closed) = 0 := by
    rw [List.countP_eq_zero]
    intro r hr hne
    obtain ⟨i, hi⟩ := List.mem_iff_getElem?.mp hr
    have hopen : r ≠ .closed := by simpa using hne
    have hstep : (page storage).step p (.onClose i) =
        some (onClose { p with sockets := p.sockets.set i .closed }) := by
      cases r with
      | closed => exact absurd rfl hopen
      | connecting => simp [page, step, hi]
      | opened => simp [page, step, hi]
    have hcontainer := congrArg (fun p : Page => p.container.length) (hone _ _ hstep)
    unfold onClose at hcontainer
    split at hcontainer
    · simp [addSystemMessage] at hcontainer
    · simp [addSystemMessage] at hcontainer
  have htimers : p.timers = [] := by
    by_contra htimers
    obtain ⟨huser, hurl⟩ := (known hp).resolve_left fun hnil => htimers hnil.2
    obtain ⟨userId, huser⟩ := Option.ne_none_iff_exists'.mp huser
    obtain ⟨gatewayUrl, hurl⟩ := Option.ne_none_iff_exists'.mp hurl
    obtain ⟨delay, hk⟩ : ∃ delay, p.timers[0]? = some delay := by
      cases ht : p.timers with
      | nil => exact absurd ht htimers
      | cons delay timers => exact ⟨delay, rfl⟩
    have hstep : (page storage).step p (.timeout 0 true) =
        some (connect { p with timers := p.timers.eraseIdx 0 } userId gatewayUrl true) := by
      simp only [page, step, hk, huser, hurl]
    have hlength := congrArg (fun p : Page => p.timers.length) (hone _ _ hstep)
    have hgone := List.length_eraseIdx_add_one (List.getElem?_eq_some_iff.mp hk).1
    change (p.timers.eraseIdx 0).length = p.timers.length at hlength
    omega
  refine ⟨hshown, ?_⟩
  rw [live, hsockets, htimers]
  rfl

/-- Nothing that can happen changes a page exactly if it is stuck. -/
theorem unchanged_iff_stuck {storage : Option Saved} {p : Page} (hp : (page storage).Reachable p) :
    (∀ es q, (page storage).run p es = some q → q = p) ↔ Stuck p := by
  refine ⟨stuck_of_unchanged hp, fun hstuck es q h => ?_⟩
  refine (page storage).run_induction (motive := fun _ q => q = p) rfl ?_ h
  rintro es r e q - rfl hstep
  exact hstuck.step (step_cases hstep)

/-- How the attempts of the page to keep a connection end. -/
inductive Ending where
  /-- A socket closes, and `onClose` arranges no attempt. -/
  | gaveUp
  /-- A timer fires, and `new WebSocket` throws. -/
  | threw
  deriving DecidableEq, Repr

/-- The ending that an event is. -/
def ending? (p : Page) : Event → Option Ending
  | .onClose _ => if p.client.reconnectAttempts < maxReconnectAttempts then none else some .gaveUp
  | .timeout _ true => some .threw
  | _ => none

/-- **One event**: a socket that is made for the form lives on, itself or in a timer, until an ending. -/
theorem live_ending {p q : Page} {e : Event} (hstep : Step p e q) :
    q.live + (p.ending? e).toList.length = p.live + if submits e then 1 else 0 := by
  cases hstep with
  | @submit userId gatewayUrl throws hshown =>
    rw [p.connect_live userId gatewayUrl throws]
    cases throws <;> rfl
  | onOpen hi =>
    have hlive := set_live hi .opened
    simp only [ne_eq, reduceCtorEq, not_false_eq_true, if_true] at hlive
    exact Nat.add_right_cancel hlive
  | @onMessage i now frame hi => exact p.onMessage_live now frame
  | onError => rfl
  | @onClose i r hi hr =>
    have hclosed := set_live hi .closed
    rw [if_pos hr, if_neg (by decide)] at hclosed
    by_cases hlt : p.client.reconnectAttempts < maxReconnectAttempts
    · have hnone : p.ending? (.onClose i) = none := if_pos hlt
      have hmore : (onClose { p with sockets := p.sockets.set i .closed }).live =
          { p with sockets := p.sockets.set i .closed }.live + 1 := by
        unfold onClose
        rw [Client.onClose_of_lt _ hlt]
        simp [addSystemMessage, live, Nat.add_assoc]
      rw [hnone, hmore, hclosed]
      rfl
    · have hgaveUp : p.ending? (.onClose i) = some .gaveUp := if_neg hlt
      have hsame : (onClose { p with sockets := p.sockets.set i .closed }).live =
          { p with sockets := p.sockets.set i .closed }.live := by
        unfold onClose
        rw [Client.onClose_of_not_lt _ hlt]
        rfl
      rw [hgaveUp, hsame]
      exact hclosed
  | @timeout k throws delay userId gatewayUrl hk huser hurl =>
    have hlength := List.length_eraseIdx_add_one (List.getElem?_eq_some_iff.mp hk).1
    have hfired : { p with timers := p.timers.eraseIdx k }.live + 1 = p.live := by
      simp only [live]
      omega
    rw [connect_live, ← hfired]
    cases throws <;> rfl
  | send hfilled => exact p.sendMessage_live ..
  | sendEmpty hempty => rfl

/-- Only a socket that opens takes the login form away. -/
theorem loginShown_step {p q : Page} {e : Event} (hstep : Step p e q) :
    q.loginShown = (p.loginShown && !opens e) := by
  -- an event that opens no socket
  have hkept : opens e = false → q.loginShown = p.loginShown → q.loginShown = (p.loginShown && !opens e) := by
    intro hopen hsame
    rw [hopen, hsame, Bool.not_false, Bool.and_true]
  cases hstep with
  | @submit userId gatewayUrl throws hshown => exact hkept rfl (by cases throws <;> rfl)
  | onOpen hi => exact (Bool.and_false _).symm
  | @onMessage i now frame hi =>
    exact hkept rfl (congrArg Plan.loginShown (p.onMessage_plan now frame))
  | onError => exact hkept rfl rfl
  | @onClose i r hi hr => exact hkept rfl (by unfold onClose; split <;> rfl)
  | @timeout k throws delay userId gatewayUrl hk huser hurl =>
    exact hkept rfl (by cases throws <;> rfl)
  | send hfilled => exact hkept rfl (congrArg Plan.loginShown (p.sendMessage_plan ..))
  | sendEmpty hempty => exact hkept rfl rfl

/-- The sockets and timers that a page has after a run: one for each socket made for the form, less those
that have come to an end. -/
theorem live_run {storage : Option Saved} {p : Page} {es : List Event}
    (h : (page storage).run (page storage).init es = some p) :
    p.live + ((page storage).observe ending? (page storage).init es).length = es.countP submits ∧
      p.loginShown = !es.any opens := by
  refine (page storage).run_induction (motive := fun es p =>
    p.live + ((page storage).observe ending? (page storage).init es).length = es.countP submits ∧
      p.loginShown = !es.any opens) ⟨rfl, rfl⟩ ?_ h
  rintro es p e q hp ⟨hlive, hshown⟩ hstep
  have hone := live_ending (step_cases hstep)
  rw [Lts.System.observe_concat ending? hp, List.length_append, List.countP_append,
    List.countP_singleton, loginShown_step (step_cases hstep), hshown]
  constructor
  · omega
  · simp

/-- **When the page is over.**  After a run nothing that can happen changes the page any more exactly if a
socket has opened, and as many attempts have ended, because the page gave up or `new WebSocket` threw, as
sockets were made for submissions of the form. -/
theorem stuck_iff {storage : Option Saved} {p : Page} {es : List Event}
    (h : (page storage).run (page storage).init es = some p) :
    (∀ fs q, (page storage).run p fs = some q → q = p) ↔
      es.any opens = true ∧
        es.countP submits = ((page storage).observe ending? (page storage).init es).length := by
  obtain ⟨hlive, hshown⟩ := live_run h
  rw [unchanged_iff_stuck ⟨es, h⟩, Stuck, hshown]
  constructor
  · rintro ⟨hopened, hnone⟩
    exact ⟨by simpa using hopened, by omega⟩
  · rintro ⟨hopened, hends⟩
    exact ⟨by simpa using hopened, by omega⟩

/-- Alice's page has given up, and nothing happens to it any more. -/
theorem stuck_iff_lostRun : ∃ p, (page none).run (page none).init lostRun = some p ∧
    (page none).observe ending? (page none).init lostRun = [.gaveUp] ∧
    ∀ es q, (page none).run p es = some q → q = p := by
  obtain ⟨p, hp⟩ : ∃ p, (page none).run (page none).init lostRun = some p := ⟨_, rfl⟩
  have hends : (page none).observe ending? (page none).init lostRun = [.gaveUp] := by decide
  exact ⟨p, hp, hends, (stuck_iff hp).mpr ⟨by decide, by rw [hends]; decide⟩⟩

end Page

end TinyTelegram.WebClient
