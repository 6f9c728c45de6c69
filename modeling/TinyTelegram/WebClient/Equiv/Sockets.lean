import TinyTelegram.WebClient.Equiv.Page

/-!
# How many sockets the page has

A socket that closes leaves a timer, and a timer that fires makes a socket, so neither changes how many of
both there are (`live_step`).  But the login form stays until a socket opens, and each submission makes
another: `connect` puts it into `ws` and does not close the one before.  Both stay connected
(`not_oneSocket`), and both reconnect.

So the page has one socket or timer exactly as long as nobody submits the form while it has one
(`oneSocket_iff`).
-/

namespace TinyTelegram.WebClient

namespace Page

/-- How many WebSockets are connecting or open, and how many timers will connect again. -/
def live (p : Page) : ℕ := p.sockets.countP (· ≠ .closed) + p.timers.length

/-- At most one WebSocket is connecting or open or to be connected again. -/
def OneSocket (p : Page) : Prop := p.live ≤ 1

/-- The event makes a WebSocket for the login form. -/
def submits : Event → Bool
  | .submit _ _ throws => !throws
  | _ => false

/-- If the event makes a WebSocket for the login form, there is no other, and no timer. -/
def Retired (p : Page) (e : Event) : Prop := submits e = true → p.live = 0

/-! ### One event -/

section Live

variable (p : Page)

theorem displayMessage_live (id : String) : (p.displayMessage id).live = p.live := by
  unfold displayMessage
  split <;> rfl

/-- `connect` makes a WebSocket, unless the constructor throws. -/
theorem connect_live (userId gatewayUrl : String) (throws : Bool) :
    (p.connect userId gatewayUrl throws).live = p.live + if throws then 0 else 1 := by
  cases throws with
  | true => rfl
  | false =>
    have hnew : (p.sockets ++ [ReadyState.connecting]).countP (· ≠ .closed) =
        p.sockets.countP (· ≠ .closed) + 1 := by
      rw [List.countP_append]
      rfl
    show (p.sockets ++ [ReadyState.connecting]).countP (· ≠ .closed) + p.timers.length =
      p.live + 1
    rw [hnew, live, Nat.add_right_comm]

theorem handleAck_live (senderPts : Int) (messageID : String) :
    (p.handleAck senderPts messageID).live = p.live := by
  unfold handleAck
  simp only
  split
  · rfl
  · split
    · exact displayMessage_live ..
    · rfl

theorem onMessage_live (now : Int) (frame : Gateway.Frame) :
    (p.onMessage now frame).live = p.live := by
  cases frame with
  | ack senderPts messageID => exact p.handleAck_live senderPts messageID
  | message m =>
    simp only [onMessage]
    split
    · exact displayMessage_live ..
    · rfl

theorem sendMessage_live (receiverID content tempID : String) (now : Int) :
    (p.sendMessage receiverID content tempID now).live = p.live := by
  unfold sendMessage
  split
  · exact displayMessage_live ..
  · rfl

/-- A WebSocket that closes leaves one timer at most. -/
theorem onClose_live : p.onClose.live ≤ p.live + 1 := by
  unfold onClose
  split
  · simp [addSystemMessage, live, Nat.add_assoc]
  · exact Nat.le_succ _

variable {p}

/-- The WebSocket `i` gets into another state. -/
theorem set_live {i : ℕ} {r : ReadyState} (hi : p.sockets[i]? = some r) (r' : ReadyState) :
    { p with sockets := p.sockets.set i r' }.live + (if r ≠ .closed then 1 else 0) =
      p.live + if r' ≠ .closed then 1 else 0 := by
  obtain ⟨hlt, rfl⟩ := List.getElem?_eq_some_iff.mp hi
  have hcount := List.countP_set (p := fun r : ReadyState => decide (r ≠ .closed)) (a := r') hlt
  have hpos : p.sockets[i] ≠ .closed → 0 < p.sockets.countP (· ≠ .closed) := by
    intro hne
    exact List.countP_pos_iff.mpr ⟨_, List.getElem_mem hlt, by simpa using hne⟩
  simp only [live]
  rw [hcount]
  simp only [decide_eq_true_eq]
  split_ifs with hr hr'
  · have := hpos hr
    omega
  · have := hpos hr
    omega
  · omega
  · omega

end Live

/-- **One event.**  Only a submission of the form brings another socket. -/
theorem live_step {p q : Page} {e : Event} (hstep : Step p e q) :
    submits e = true ∧ q.live = p.live + 1 ∨ submits e = false ∧ q.live ≤ p.live := by
  cases hstep with
  | @submit userId gatewayUrl throws hshown =>
    have hmade := p.connect_live userId gatewayUrl throws
    cases throws with
    | true => exact Or.inr ⟨rfl, hmade.le⟩
    | false => exact Or.inl ⟨rfl, hmade⟩
  | onOpen hi => exact Or.inr ⟨rfl, (Nat.add_right_cancel (set_live hi .opened)).le⟩
  | @onMessage i now frame hi => exact Or.inr ⟨rfl, (p.onMessage_live now frame).le⟩
  | onError => exact Or.inr ⟨rfl, le_rfl⟩
  | onClose hi hr =>
    have hset := set_live hi .closed
    rw [if_pos hr] at hset
    exact Or.inr ⟨rfl, (onClose_live _).trans hset.le⟩
  | @timeout k throws delay userId gatewayUrl hk huser hurl =>
    -- the timer that is gone makes up for the socket
    have hgone : Page.live { p with timers := p.timers.eraseIdx k } + 1 = p.live := by
      have hlength := List.length_eraseIdx_add_one (List.getElem?_eq_some_iff.mp hk).1
      rw [live, live, Nat.add_assoc, hlength]
    refine Or.inr ⟨rfl, ?_⟩
    rw [connect_live, ← hgone]
    split_ifs
    · exact Nat.le_succ _
    · exact le_rfl
  | send hfilled => exact Or.inr ⟨rfl, (p.sendMessage_live ..).le⟩
  | sendEmpty hempty => exact Or.inr ⟨rfl, le_rfl⟩

/-- **When the page has one socket.**  It never has more than one WebSocket that is connecting or open or
to be connected again exactly if the login form is not submitted while it has one. -/
theorem oneSocket_iff (storage : Option Saved) (es : List Event) :
    (page storage).Always OneSocket (page storage).init es ↔
      (page storage).Meets Retired (page storage).init es := by
  refine (page storage).always_iff_meets (Nat.zero_le 1) (fun p e q _ h hstep => ?_) es
  unfold OneSocket Retired
  rcases live_step (step_cases hstep) with ⟨he, hlive⟩ | ⟨he, hlive⟩
  · rw [hlive]
    exact ⟨fun hone _ => Nat.le_zero.mp (Nat.le_of_succ_le_succ hone), fun hzero => by rw [hzero he]⟩
  · rw [he]
    exact iff_of_true (hlive.trans h) fun hsubmits => absurd hsubmits Bool.false_ne_true

/-- Alice submits the form twice before the first socket opens. -/
def twoSubmissionsRun : List Event :=
  [.submit "alice" "ws://gateway1" false, .submit "alice" "ws://gateway1" false, .onOpen 0, .onOpen 1]

/-- **Two sockets** are open. -/
theorem not_oneSocket : ∃ p, (page none).run (page none).init twoSubmissionsRun = some p ∧
    p.sockets = [.opened, .opened] ∧
    ¬ (page none).Always OneSocket (page none).init twoSubmissionsRun := by
  obtain ⟨p, hp, hsockets⟩ : ∃ p, (page none).run (page none).init twoSubmissionsRun = some p ∧
      p.sockets = [.opened, .opened] := ⟨_, rfl, rfl⟩
  refine ⟨p, hp, hsockets, fun h => ?_⟩
  have hone := h.of_run hp
  rw [OneSocket, live, hsockets] at hone
  exact absurd ((Nat.le_add_right ..).trans hone) (by decide)

end Page

end TinyTelegram.WebClient
