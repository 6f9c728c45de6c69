import TinyTelegram.MessageService.Equiv.Counters

/-!
# What a call has been handed

`handed?` is what a call of `PersistMessage` has got from the two counters so far, and `handout` says
how a step changes it: a call is handed the next value of one counter by an `INCR` that is executed
and answered, and loses what it was handed only by returning an error.
-/

namespace TinyTelegram.MessageService

namespace Counters

/-- What a call has been handed: its receiver's PTS and, if it got that far, its sender's. -/
def handed? : PersistCall → Option (ChatMessage × Int × Option Int)
  | .incrSender msg rp => some (msg, rp, none)
  | .wait msg rp sp | .insert msg rp sp | .returned msg (some (rp, sp)) _ => some (msg, rp, some sp)
  | _ => none

/-- What a call has been handed was granted to it. -/
theorem grants_handed {l : List LogEntry} {id : CallId} {c : PersistCall} {msg : ChatMessage}
    {rp sp : Int} (h : Grants l id c) (hhanded : handed? c = some (msg, rp, some sp)) :
    Granted l msg.receiverId (id, .receiver) rp ∧ Granted l msg.senderId (id, .sender) sp := by
  cases c with
  | wait => cases hhanded; exact h
  | insert => cases hhanded; exact h
  | returned msg' alloc res =>
    cases alloc with
    | none => cases hhanded
    | some p => cases hhanded; exact h
  | _ => cases hhanded

theorem handed?_first {c : PersistCall} {msg : ChatMessage} {rp : Int}
    (hhanded : handed? c = some (msg, rp, none)) : c = .incrSender msg rp := by
  cases c with
  | incrSender => cases hhanded; rfl
  | returned msg' alloc res => cases alloc <;> cases hhanded
  | _ => cases hhanded

/-- So was the receiver's PTS, as soon as the call has it. -/
theorem grants_receiver {l : List LogEntry} {id : CallId} {c : PersistCall} {msg : ChatMessage}
    {rp : Int} {sp : Option Int} (h : Grants l id c) (hhanded : handed? c = some (msg, rp, sp)) :
    Granted l msg.receiverId (id, .receiver) rp := by
  cases sp with
  | some sp => exact (grants_handed h hhanded).1
  | none =>
    rw [handed?_first hhanded] at h
    exact h

/-- A call goes on from `WAIT` with what it holds, or fails. -/
theorem handed?_afterWait (msg : ChatMessage) (rp sp : Int) (reply : Except String Int) :
    (handed? (PersistCall.afterWait msg rp sp reply) = none ∧
      (PersistCall.afterWait msg rp sp reply).Failed) ∨
      handed? (PersistCall.afterWait msg rp sp reply) = some (msg, rp, some sp) := by
  cases reply with
  | error err => exact Or.inl ⟨rfl, trivial⟩
  | ok acked =>
    rw [PersistCall.afterWait]
    split
    · exact Or.inl ⟨rfl, trivial⟩
    · exact Or.inr rfl

/-- What a step does to what a call has been handed: nothing, or it loses it with the call, or the
call is handed the next value of one counter, and no other call moves. -/
inductive Handout (s : Service.State State) (e : CounterEvent) (t : Service.State State)
    (id : CallId) : Prop where
  | same (h : handed? (t.calls id) = handed? (s.calls id))
  | lost (h : handed? (t.calls id) = none)
      (hfailed : handed? (s.calls id) = none ∨ (t.calls id).Failed)
  | receiver {msg} (he : e = .redis id (.incr .executed)) (hs : s.calls id = .incrReceiver msg)
      (ht : t.calls id = .incrSender msg (s.redis.value (ptsKey msg.receiverId) + 1))
      (hother : ∀ j, j ≠ id → t.calls j = s.calls j)
      (hredis : t.redis = s.redis.bump (ptsKey msg.receiverId) (some (id, .receiver)))
  | sender {msg rp} (he : e = .redis id (.incr .executed)) (hs : s.calls id = .incrSender msg rp)
      (ht : t.calls id = .wait msg rp (s.redis.value (ptsKey msg.senderId) + 1))
      (hother : ∀ j, j ≠ id → t.calls j = s.calls j)
      (hredis : t.redis = s.redis.bump (ptsKey msg.senderId) (some (id, .sender)))

theorem handout {s t : Service.State State} {e : CounterEvent}
    (hstep : counterService.step s e = some t) (k : CallId) : Handout s e t k := by
  -- the call `id` goes on to `c`
  have hset : ∀ {id c}, t.calls = Function.update s.calls id c →
      (k = id → t.calls k = c → (∀ j, j ≠ k → t.calls j = s.calls j) → Handout s e t k) →
      Handout s e t k := by
    intro id c hcalls hmoved
    by_cases hk : k = id
    · subst hk
      refine hmoved rfl (by rw [hcalls, Function.update_self]) fun j hj => ?_
      rw [hcalls, Function.update_of_ne hj]
    · refine .same ?_
      rw [hcalls, Function.update_of_ne hk]
  cases Service.step_cases hstep with
  | invoke hc => exact hset rfl fun hk ht _ => .lost (by rw [ht]; rfl) (Or.inl (by rw [hk, hc]; rfl))
  | @incrReceiver id msg ch x reply hc hR =>
    refine hset rfl fun hk ht hother => ?_
    subst hk
    cases reply with
    | error err => exact .lost (by rw [ht]; rfl) (Or.inl (by rw [hc]; rfl))
    | ok v =>
      obtain ⟨rfl, rfl, rfl⟩ := incr_ok hR
      exact .receiver rfl hc ht hother rfl
  | incrReceiverAgain hc hR => exact hset rfl fun hk ht _ => .same (by rw [ht, hk, hc])
  | @incrSender id msg rp ch x reply hc hR =>
    refine hset rfl fun hk ht hother => ?_
    subst hk
    cases reply with
    | error err => exact .lost (by rw [ht]; rfl) (Or.inr (by rw [ht]; trivial))
    | ok v =>
      obtain ⟨rfl, rfl, rfl⟩ := incr_ok hR
      exact .sender rfl hc ht hother rfl
  | incrSenderAgain hc hR => exact hset rfl fun hk ht _ => .same (by rw [ht, hk, hc])
  | @wait id msg rp sp ch x reply hc hR =>
    refine hset rfl fun hk ht _ => ?_
    rcases handed?_afterWait msg rp sp reply with ⟨hnone, hfailed⟩ | hsome
    · exact .lost (by rw [ht, hnone]) (Or.inr (by rw [ht]; exact hfailed))
    · exact .same (by rw [ht, hk, hc, hsome]; rfl)
  | @commit id msg rp sp msgID createdAt time out reply hc hv hout =>
    refine hset rfl fun hk ht _ => .same ?_
    rw [ht, hk, hc]
    cases reply <;> rfl
  | reject err hc hout => exact hset rfl fun hk ht _ => .same (by rw [ht, hk, hc]; rfl)
  | env hR => exact .same rfl
  | query hd => exact .same rfl
  | get hd => exact .same rfl

/-- The receiver's PTS that a call has been handed, it had already, or it is above the counter. -/
theorem handed_receiver {s t : Service.State State} {e : CounterEvent}
    (hstep : counterService.step s e = some t) {id : CallId} {msg : ChatMessage} {rp : Int}
    {sp : Option Int} (hhanded : handed? (t.calls id) = some (msg, rp, sp)) :
    (∃ sp', handed? (s.calls id) = some (msg, rp, sp')) ∨
      s.redis.value (ptsKey msg.receiverId) < rp := by
  cases handout hstep id with
  | same h => exact Or.inl ⟨sp, h ▸ hhanded⟩
  | lost h => exact absurd (hhanded.symm.trans h) (Option.some_ne_none _)
  | @receiver msg' he hs ht =>
    rw [ht] at hhanded
    obtain ⟨rfl, rfl, -⟩ : msg' = msg ∧ _ = rp ∧ none = sp := by simpa [handed?] using hhanded
    exact Or.inr (Int.lt_succ _)
  | @sender msg' rp' he hs ht =>
    rw [ht] at hhanded
    obtain ⟨rfl, rfl, -⟩ : msg' = msg ∧ rp' = rp ∧ _ = sp := by simpa [handed?] using hhanded
    exact Or.inl ⟨none, by rw [hs]; rfl⟩

/-- Both PTS that a call has been handed, it had already, or it has just been handed the next value of
the sender's counter. -/
theorem handed_sender {s t : Service.State State} {e : CounterEvent}
    (hstep : counterService.step s e = some t) {id : CallId} {msg : ChatMessage} {rp sp : Int}
    (hhanded : handed? (t.calls id) = some (msg, rp, some sp)) :
    handed? (s.calls id) = some (msg, rp, some sp) ∨
      e = .redis id (.incr .executed) ∧ s.calls id = .incrSender msg rp ∧
        sp = s.redis.value (ptsKey msg.senderId) + 1 ∧ ∀ j, j ≠ id → t.calls j = s.calls j := by
  cases handout hstep id with
  | same h => exact Or.inl (h ▸ hhanded)
  | lost h => exact absurd (hhanded.symm.trans h) (Option.some_ne_none _)
  | receiver he hs ht =>
    rw [ht] at hhanded
    cases hhanded
  | sender he hs ht hother =>
    rw [ht] at hhanded
    cases hhanded
    exact Or.inr ⟨he, hs, rfl, hother⟩

/-- A call that has failed stays where it is. -/
theorem failed_step {s t : Service.State State} {id : CallId} (h : (s.calls id).Failed)
    {e : CounterEvent} (hstep : counterService.step s e = some t) : (t.calls id).Failed := by
  cases hc : s.calls id with
  | returned msg alloc res =>
    rw [Service.returned_step hstep hc]
    rwa [hc] at h
  | _ =>
    rw [hc] at h
    exact h.elim

/-- A call that has failed commits nothing any more. -/
theorem committed_of_failed {s t : Service.State State} {e : CounterEvent}
    (hstep : counterService.step s e = some t) {x : Committed} (hx : x ∈ t.committed)
    (hfailed : (s.calls x.call).Failed) : x ∈ s.committed := by
  cases Service.step_cases hstep with
  | @commit id msg rp sp msgID createdAt time out reply hc hv hout =>
    rcases List.mem_append.mp hx with hold | hnew
    · exact hold
    · obtain rfl := List.mem_singleton.mp hnew
      rw [hc] at hfailed
      exact hfailed.elim
  | _ => exact hx

end Counters

end TinyTelegram.MessageService
