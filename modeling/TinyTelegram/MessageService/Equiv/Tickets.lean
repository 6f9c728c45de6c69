import TinyTelegram.MessageService.Service

/-!
# What was issued to a ticket

The PTS of a log of increments, per user and ticket.  `Granted l u t p` says that the increment
made for the ticket `t` is in the log `l`, on `u`'s counter, and returned `p`; `Marked l u t p` that
wherever it survives in `l` it returned `p`, which is all that is known of an increment that a
failover may drop.

`held?` is the PTS that a call in flight holds for a user, and `Grants` says that the call was
granted it.
-/

namespace TinyTelegram.MessageService

open CounterLog

/-- The PTS `p` was issued to a ticket within the log `l`. -/
def Granted (l : List LogEntry) (user : String) (ticket : Ticket) (p : Int) : Prop :=
  ∃ v : ℕ, p = v ∧ Issued l (ptsKey user) (some ticket) v

/-- Wherever the increment of a ticket survives in the log `l`, it issued the PTS `p`. -/
def Marked (l : List LogEntry) (user : String) (ticket : Ticket) (p : Int) : Prop :=
  ∃ v : ℕ, p = v ∧ Stamped l (ptsKey user) (some ticket) v

theorem Granted.mono {l l' : List LogEntry} {user : String} {ticket : Ticket} {p : Int}
    (hl : l <+: l') (h : Granted l user ticket p) : Granted l' user ticket p := by
  obtain ⟨v, hv, h⟩ := h
  exact ⟨v, hv, h.mono hl⟩

theorem Marked.cut {l l' : List LogEntry} {user : String} {ticket : Ticket} {p : Int}
    (hl : l' <+: l) (h : Marked l user ticket p) : Marked l' user ticket p := by
  obtain ⟨v, hv, h⟩ := h
  exact ⟨v, hv, h.cut hl⟩

theorem Marked.concat {l : List LogEntry} {user : String} {ticket : Ticket} {p : Int}
    (h : Marked l user ticket p) {e : LogEntry} (he : e.tag ≠ some ticket) :
    Marked (l ++ [e]) user ticket p := by
  obtain ⟨v, hv, h⟩ := h
  exact ⟨v, hv, h.concat he⟩

/-- A surviving increment was granted what it is marked with. -/
theorem Marked.granted {l l' : List LogEntry} {user : String} {ticket : Ticket} {p : Int}
    (h : Marked l user ticket p) (hl : l' <+: l) (ht : some ticket ∈ l'.map Entry.tag) :
    Granted l' user ticket p := by
  obtain ⟨v, hv, h⟩ := h
  exact ⟨v, hv, h l' hl ht⟩

/-- The increment that introduces a ticket marks it with the next value of the counter. -/
theorem marked_concat {l : List LogEntry} {user : String} {ticket : Ticket}
    (ht : some ticket ∉ l.map Entry.tag) :
    Marked (l ++ [⟨ptsKey user, some ticket⟩]) user ticket (count (ptsKey user) l + 1) :=
  ⟨_, by push_cast; rfl, stamped_concat ht⟩

/-- Two tickets granted the same PTS of the same user are the same. -/
theorem Granted.ticket_unique {l : List LogEntry} {user : String} {t t' : Ticket} {p : Int}
    (h : Granted l user t p) (h' : Granted l user t' p) : t = t' := by
  obtain ⟨v, rfl, h⟩ := h
  obtain ⟨v', hv, h'⟩ := h'
  obtain rfl : v = v' := by exact_mod_cast hv
  exact Option.some.inj (h.tag_unique h')

/-- What a call has been granted within the log `l` when it stands at a given point. -/
def Grants (l : List LogEntry) (id : CallId) : PersistCall → Prop
  | .incrSender msg rp => Granted l msg.receiverId (id, .receiver) rp
  | .wait msg rp sp | .insert msg rp sp | .returned msg (some (rp, sp)) _ =>
    Granted l msg.receiverId (id, .receiver) rp ∧ Granted l msg.senderId (id, .sender) sp
  | _ => True

theorem Grants.mono {l l' : List LogEntry} {id : CallId} {c : PersistCall} (hl : l <+: l')
    (h : Grants l id c) : Grants l' id c := by
  unfold Grants at h ⊢
  split
  · exact Granted.mono hl h
  · exact ⟨h.1.mono hl, h.2.mono hl⟩
  · exact ⟨h.1.mono hl, h.2.mono hl⟩
  · exact ⟨h.1.mono hl, h.2.mono hl⟩
  · trivial

/-! ### What a call in flight holds -/

/-- The PTS a call in flight holds for the stream of `u`: it has been handed out, and the row that is
to carry it is not committed yet. -/
def held? (u : String) : PersistCall → Option Int
  | .incrSender msg rp => if msg.receiverId = u then some rp else none
  | .wait msg rp sp | .insert msg rp sp =>
    if msg.receiverId = u then some rp else if msg.senderId = u then some sp else none
  | _ => none

/-- A call about to insert holds, for each user of its row, the PTS of the row in their stream. -/
theorem held_insert {msg : ChatMessage} {rp sp : Int} {msgID : String} {createdAt : Int} {u : String}
    (hu : (PersistCall.row msg rp sp msgID createdAt).involves u) :
    held? u (.insert msg rp sp) =
      some ((PersistCall.row msg rp sp msgID createdAt).ptsFor u) := by
  show (if msg.receiverId = u then some rp else if msg.senderId = u then some sp else none) =
    some (if msg.receiverId = u then rp else sp)
  by_cases hrec : msg.receiverId = u
  · rw [if_pos hrec, if_pos hrec]
  · have hsend : msg.senderId = u := hu.resolve_left hrec
    rw [if_neg hrec, if_neg hrec, if_pos hsend]

/-- What a call about to insert holds for a user is the PTS of its row in their stream. -/
theorem involves_of_held {msg : ChatMessage} {rp sp v : Int} {u : String}
    (hv : held? u (.insert msg rp sp) = some v) (msgID : String) (createdAt : Int) :
    (PersistCall.row msg rp sp msgID createdAt).involves u ∧
      (PersistCall.row msg rp sp msgID createdAt).ptsFor u = v := by
  simp only [held?] at hv
  split_ifs at hv with hrec hsend
  · exact ⟨Or.inl hrec, (if_pos hrec).trans (Option.some.inj hv)⟩
  · exact ⟨Or.inr hsend, (if_neg hrec).trans (Option.some.inj hv)⟩

/-- The PTS of a row were granted to its call. -/
theorem Grants.slot {l : List LogEntry} {id : CallId} {msg : ChatMessage} {rp sp : Int}
    (h : Grants l id (.insert msg rp sp)) (msgID : String) (createdAt : Int) (role : Role) :
    Granted l ((PersistCall.row msg rp sp msgID createdAt).slot role).1 (id, role)
      ((PersistCall.row msg rp sp msgID createdAt).slot role).2 := by
  cases role with
  | receiver => exact h.1
  | sender => exact h.2

/-- What a call holds was granted to it. -/
theorem Grants.held {l : List LogEntry} {id : CallId} {c : PersistCall} (h : Grants l id c)
    {u : String} {v : Int} (hv : held? u c = some v) : ∃ role, Granted l u (id, role) v := by
  have hboth : ∀ {msg : ChatMessage} {rp sp : Int},
      Granted l msg.receiverId (id, .receiver) rp ∧ Granted l msg.senderId (id, .sender) sp →
      (if msg.receiverId = u then some rp else if msg.senderId = u then some sp else none) = some v →
      ∃ role, Granted l u (id, role) v := by
    intro msg rp sp hgranted hv
    split_ifs at hv with hrec hsend
    · obtain rfl := Option.some.inj hv
      exact ⟨.receiver, hrec ▸ hgranted.1⟩
    · obtain rfl := Option.some.inj hv
      exact ⟨.sender, hsend ▸ hgranted.2⟩
  cases c with
  | incrSender msg rp =>
    simp only [held?] at hv
    split_ifs at hv with hrec
    obtain rfl := Option.some.inj hv
    exact ⟨.receiver, hrec ▸ h⟩
  | wait msg rp sp => exact hboth h hv
  | insert msg rp sp => exact hboth h hv
  | _ => cases hv

end TinyTelegram.MessageService
