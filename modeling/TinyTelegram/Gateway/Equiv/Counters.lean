import TinyTelegram.Gateway.Counters
import TinyTelegram.Gateway.Equiv.Cluster
import TinyTelegram.MessageService.Equiv.Handout
import TinyTelegram.MessageService.Equiv.Answers

/-!
# The message service in a cluster over plain counters

In a run of the cluster without rollbacks the message service makes a run of its own without rollbacks
(`service_run`), so that what is known of the counters holds in the cluster.
-/

namespace TinyTelegram.Gateway

namespace Cluster

open MessageService (counterService CallId ptsKey)
open MessageService.Counters (handed?)

variable {addr : GwId → String} {s t : CounterState}

/-- A step that is no rollback is none of the message service either. -/
theorem service_step_noRollback {e : CounterEvent}
    (h : Step MessageService.Counters.redis addr s e t) (hback : NoRollback e) :
    t.service = s.service ∨
      ∃ e', MessageService.NoRollback e' ∧ counterService.step s.service e' = some t.service := by
  cases h with
  | @frame c sock raw incoming call now x hs hc hraw hx =>
    exact Or.inr ⟨.invoke call (chatMessage sock.user incoming now), trivial, hx⟩
  | service hx => exact Or.inr ⟨_, hback, hx⟩
  | ack hs hc => exact Or.inl (write_service ..)
  | write hs hc => exact Or.inl (write_service ..)
  | _ => exact Or.inl rfl

/-- The receiver's PTS that a call has been handed, it had already, or it is above the counter. -/
theorem handed_receiver {e : CounterEvent} (h : Step MessageService.Counters.redis addr s e t)
    (hback : NoRollback e) {call : CallId} {msg : ChatMessage} {rp : Int} {sp : Option Int}
    (hhanded : handed? (t.service.calls call) = some (msg, rp, sp)) :
    (∃ sp', handed? (s.service.calls call) = some (msg, rp, sp')) ∨
      s.service.redis.value (ptsKey msg.receiverId) < rp := by
  rcases service_step_noRollback h hback with hsame | ⟨e', -, he'⟩
  · exact Or.inl ⟨sp, hsame ▸ hhanded⟩
  · exact MessageService.Counters.handed_receiver he' hhanded

/-- A call that has failed stays where it is, and commits nothing. -/
theorem failed_step {e : CounterEvent} (h : Step MessageService.Counters.redis addr s e t)
    (hback : NoRollback e) {call : CallId} (hfailed : (s.service.calls call).Failed) :
    (t.service.calls call).Failed ∧
      ∀ x ∈ t.service.committed, x.call = call → x ∈ s.service.committed := by
  rcases service_step_noRollback h hback with hsame | ⟨e', -, he'⟩
  · rw [hsame]
    exact ⟨hfailed, fun x hx _ => hx⟩
  · refine ⟨MessageService.Counters.failed_step hfailed he', ?_⟩
    rintro x hx rfl
    exact MessageService.Counters.committed_of_failed he' hx hfailed

/-- **The message service makes a run without rollbacks** when the cluster does. -/
theorem service_run {es : List CounterEvent}
    (h : (counterCluster addr).run (counterCluster addr).init es = some s)
    (hback : (counterCluster addr).Meets (fun _ => NoRollback) (counterCluster addr).init es) :
    ∃ ds, counterService.run counterService.init ds = some s.service ∧
      counterService.Meets (fun _ => MessageService.NoRollback) counterService.init ds :=
  (serviceComponent MessageService.Counters.redis addr).exists_run
    (C := fun _ => NoRollback) (D := fun _ => MessageService.NoRollback)
    (fun _ _ _ he hstep => service_step_noRollback (step_cases hstep) he) h hback

end Cluster

end TinyTelegram.Gateway
