import TinyTelegram.MessageService.Equiv.Calls
import TinyTelegram.MessageService.Service

/-!
# What the message service can do

`Service.Step` lists the effects of an event with what each requires, and `step_cases` says that
the service takes no other steps.  All invariants below and in the modules on the three
Redis deployments are proved by cases on it.

An invariant of single calls is proved by `CallRule`, one command at a time.  Over any Redis:

* `calls_run_persistMessage`, `diffs_run_getDiff`: every call in progress is an execution of
  `persistMessage`, or of `getDiff`.
* `Recorded`: a committed row is the row of a call that has returned with the values it was
  allocated, no call commits two rows, and a call that returned a message committed its row.
* `Constrained`: the table satisfies the primary key and the two UNIQUE constraints.
-/

namespace TinyTelegram.MessageService

namespace Service

variable {ρ χ ε : Type} {R : Redis ρ χ ε}

open PersistCall DiffCall

/-- The effects of an event in the state `s`. -/
inductive Step (R : Redis ρ χ ε) (s : State ρ) : Event χ ε → State ρ → Prop where
  | invoke {id msg} (h : s.calls id = .idle) :
      Step R s (.invoke id msg) (s.setCall id (.incrReceiver msg))
  | incrReceiver {id msg ch x reply} (h : s.calls id = .incrReceiver msg)
      (hR : R.incr s.redis (id, .receiver) (ptsKey msg.receiverId) ch = some (x, some reply)) :
      Step R s (.redis id ch) ((s.setRedis x).setCall id (afterIncrReceiver msg reply))
  | incrReceiverAgain {id msg ch x} (h : s.calls id = .incrReceiver msg)
      (hR : R.incr s.redis (id, .receiver) (ptsKey msg.receiverId) ch = some (x, none)) :
      Step R s (.redis id ch) ((s.setRedis x).setCall id (.incrReceiver msg))
  | incrSender {id msg rp ch x reply} (h : s.calls id = .incrSender msg rp)
      (hR : R.incr s.redis (id, .sender) (ptsKey msg.senderId) ch = some (x, some reply)) :
      Step R s (.redis id ch) ((s.setRedis x).setCall id (afterIncrSender msg rp reply))
  | incrSenderAgain {id msg rp ch x} (h : s.calls id = .incrSender msg rp)
      (hR : R.incr s.redis (id, .sender) (ptsKey msg.senderId) ch = some (x, none)) :
      Step R s (.redis id ch) ((s.setRedis x).setCall id (.incrSender msg rp))
  | wait {id msg rp sp ch x reply} (h : s.calls id = .wait msg rp sp)
      (hR : R.wait s.redis id 1 ptsWaitTimeoutMs ch = some (x, reply)) :
      Step R s (.redis id ch) ((s.setRedis x).setCall id (afterWait msg rp sp reply))
  | commit {id msg rp sp msgID createdAt t out} (reply : Except String Unit)
      (h : s.calls id = .insert msg rp sp)
      (hv : violatedConstraint s.table (row msg rp sp msgID createdAt) = none)
      (hout : out = .executed ∧ reply = .ok () ∨ ∃ err, out = .lost err ∧ reply = .error err) :
      Step R s (.insert id msgID createdAt t out)
        ((s.commit id (row msg rp sp msgID createdAt)).setCall id
          (afterInsert msg rp sp msgID t reply))
  | reject {id msg rp sp msgID createdAt t out} (err : String)
      (h : s.calls id = .insert msg rp sp)
      (hout : out = .failed err ∨
        ∃ c, violatedConstraint s.table (row msg rp sp msgID createdAt) = some c ∧
          (out = .executed ∧ err = uniqueViolationText c ∨ out = .lost err)) :
      Step R s (.insert id msgID createdAt t out)
        (s.setCall id (afterInsert msg rp sp msgID t (.error err)))
  | env {e x} (hR : R.env s.redis e = some x) : Step R s (.env e) (s.setRedis x)
  | query {q req fail} (h : s.diffs q = .idle) :
      Step R s (.query q req fail) (s.setDiff q (afterQuery req (fail.elim
        (.ok (selectDiff s.table req.userId req.clientPts (normalizeLimit req.limit))) .error)))
  | get {q req messages fail} (h : s.diffs q = .selected req messages) :
      Step R s (.get q fail) (s.setDiff q (afterGet req messages (fail.elim
        (.ok (R.get s.redis (ptsKey req.userId))) .error)))

/-- The steps of an `INSERT` are `Step.commit` and `Step.reject`. -/
theorem execInsert_step {s : State ρ} {id : CallId} {msg : ChatMessage} {rp sp : Int}
    {msgID : String} {createdAt t : Int} (h : s.calls id = .insert msg rp sp)
    (out : InsertOutcome) :
    Step R s (.insert id msgID createdAt t out)
      (execInsert s id (row msg rp sp msgID createdAt) (afterInsert msg rp sp msgID t) out) := by
  cases out with
  | executed =>
    rw [execInsert]
    split
    · rename_i c hc
      exact .reject _ h (Or.inr ⟨c, hc, Or.inl ⟨rfl, rfl⟩⟩)
    · rename_i hc
      exact .commit (.ok ()) h hc (Or.inl ⟨rfl, rfl⟩)
  | failed err => exact .reject err h (Or.inl rfl)
  | lost err =>
    rw [execInsert]
    split
    · rename_i c hc
      exact .reject err h (Or.inr ⟨c, hc, Or.inr rfl⟩)
    · rename_i hc
      exact .commit (.error err) h hc (Or.inr ⟨err, rfl, rfl⟩)

/-- **Every step of the service is one of the listed effects.** -/
theorem step_cases {s t : State ρ} {e : Event χ ε} (h : (system R).step s e = some t) :
    Step R s e t := by
  cases e with
  | invoke id msg =>
    simp only [system, step] at h
    split at h
    · rename_i hc
      obtain rfl := Option.some.inj h
      exact .invoke hc
    · cases h
  | redis id ch =>
    simp only [system, step] at h
    split at h
    · rename_i msg hc
      obtain ⟨⟨x, reply⟩, hR, rfl⟩ := Option.map_eq_some_iff.mp h
      cases reply with
      | none => exact .incrReceiverAgain hc hR
      | some reply => exact .incrReceiver hc hR
    · rename_i msg rp hc
      obtain ⟨⟨x, reply⟩, hR, rfl⟩ := Option.map_eq_some_iff.mp h
      cases reply with
      | none => exact .incrSenderAgain hc hR
      | some reply => exact .incrSender hc hR
    · rename_i msg rp sp hc
      obtain ⟨⟨x, reply⟩, hR, rfl⟩ := Option.map_eq_some_iff.mp h
      exact .wait hc hR
    · cases h
  | insert id msgID createdAt t' out =>
    simp only [system, step] at h
    split at h
    · rename_i msg rp sp hc
      obtain rfl := Option.some.inj h
      exact execInsert_step hc out
    · cases h
  | env e =>
    obtain ⟨x, hR, rfl⟩ := Option.map_eq_some_iff.mp h
    exact .env hR
  | query q req fail =>
    simp only [system, step] at h
    split at h
    · rename_i hd
      obtain rfl := Option.some.inj h
      exact .query hd
    · cases h
  | get q fail =>
    simp only [system, step] at h
    split at h
    · rename_i req messages hd
      obtain rfl := Option.some.inj h
      exact .get hd
    · cases h

/-- The effects of an `INCR`: none, and an error; the increment, and its value or an error; or a
stray increment, and no reply. -/
theorem execIncr_cases {s x : ρ} {exec : Option Ticket → ρ} {ticket : Ticket} {value : Int}
    {out : IncrOutcome} {reply : Option (Except String Int)}
    (h : execIncr s exec ticket value out = (x, reply)) :
    (x = s ∧ ∃ err, reply = some (.error err)) ∨
    (x = exec (some ticket) ∧ (reply = some (.ok value) ∨ ∃ err, reply = some (.error err))) ∨
    (x = exec none ∧ reply = none) := by
  cases out with
  | executed =>
    obtain ⟨rfl, rfl⟩ := Prod.mk.inj h
    exact Or.inr (Or.inl ⟨rfl, Or.inl rfl⟩)
  | failed err =>
    obtain ⟨rfl, rfl⟩ := Prod.mk.inj h
    exact Or.inl ⟨rfl, err, rfl⟩
  | lost err =>
    obtain ⟨rfl, rfl⟩ := Prod.mk.inj h
    exact Or.inr (Or.inl ⟨rfl, Or.inr ⟨err, rfl⟩⟩)
  | retried =>
    obtain ⟨rfl, rfl⟩ := Prod.mk.inj h
    exact Or.inr (Or.inr ⟨rfl, rfl⟩)

/-! ### The calls are executions of the programs -/

/-- What a call has run so far, and what it still has to run. -/
def Executes (c : PersistCall) : Prop :=
  ∀ msg, c.msg? = some msg → ∃ l p, (persistMessage msg).Steps l p ∧ c.Ahead p

theorem Executes.afterIncrReceiver {msg : ChatMessage} (h : Executes (.incrReceiver msg))
    (reply : Except String Int) : Executes (afterIncrReceiver msg reply) := by
  obtain ⟨l, p, hl, hp⟩ := h msg rfl
  intro msg' hmsg'
  rw [msg?_afterIncrReceiver] at hmsg'
  obtain rfl := Option.some.inj hmsg'
  cases hp with
  | incrReceiver hk => exact ⟨_, _, hl.trans (.single _ _ reply), hk reply⟩

theorem Executes.afterIncrSender {msg : ChatMessage} {rp : Int} (h : Executes (.incrSender msg rp))
    (reply : Except String Int) : Executes (afterIncrSender msg rp reply) := by
  obtain ⟨l, p, hl, hp⟩ := h msg rfl
  intro msg' hmsg'
  rw [msg?_afterIncrSender] at hmsg'
  obtain rfl := Option.some.inj hmsg'
  cases hp with
  | incrSender hk => exact ⟨_, _, hl.trans (.single _ _ reply), hk reply⟩

theorem Executes.afterWait {msg : ChatMessage} {rp sp : Int} (h : Executes (.wait msg rp sp))
    (reply : Except String Int) : Executes (afterWait msg rp sp reply) := by
  obtain ⟨l, p, hl, hp⟩ := h msg rfl
  intro msg' hmsg'
  rw [msg?_afterWait] at hmsg'
  obtain rfl := Option.some.inj hmsg'
  cases hp with
  | wait hk => exact ⟨_, _, hl.trans (.single _ _ reply), hk reply⟩

theorem Executes.afterInsert {msg : ChatMessage} {rp sp : Int} (h : Executes (.insert msg rp sp))
    (msgID : String) (t : Int) (reply : Except String Unit) :
    Executes (afterInsert msg rp sp msgID t reply) := by
  obtain ⟨l, p, hl, hp⟩ := h msg rfl
  intro msg' hmsg'
  cases hp with
  | insert hk =>
    cases reply with
    | error err =>
      obtain rfl := Option.some.inj hmsg'
      exact ⟨_, _, hl.trans (hk msgID t (.error err) _ rfl), .returned⟩
    | ok =>
      obtain rfl := Option.some.inj hmsg'
      exact ⟨_, _, hl.trans (hk msgID t (.ok ()) _ rfl), .returned⟩

/-- **Every call in progress is an execution of `persistMessage`**: it has run some of its
commands, with the replies it got, and has ahead of it what is left of the program. -/
theorem calls_run_persistMessage {s : State ρ} (h : (system R).Reachable s) (id : CallId) :
    Executes (s.calls id) := by
  refine Lts.System.invariant (I := fun s => ∀ id, Executes (s.calls id)) ?_ ?_ h id
  · intro id msg hmsg
    cases hmsg
  · intro s e t ih hstep
    -- a step changes one call at most
    have hupd : ∀ {id c}, Executes c → ∀ j, Executes (Function.update s.calls id c j) := by
      intro id c hc j
      rw [Function.update_apply]
      split
      · exact hc
      · exact ih j
    cases step_cases hstep with
    | invoke hc =>
      refine hupd fun msg' hmsg' => ?_
      obtain rfl := Option.some.inj hmsg'
      exact ⟨[], _, .refl _, ahead_persistMessage _⟩
    | @incrReceiver id msg ch x reply hc hR => exact hupd ((hc ▸ ih id).afterIncrReceiver reply)
    | @incrReceiverAgain id msg ch x hc hR => exact hupd (hc ▸ ih id)
    | @incrSender id msg rp ch x reply hc hR => exact hupd ((hc ▸ ih id).afterIncrSender reply)
    | @incrSenderAgain id msg rp ch x hc hR => exact hupd (hc ▸ ih id)
    | @wait id msg rp sp ch x reply hc hR => exact hupd ((hc ▸ ih id).afterWait reply)
    | @commit id msg rp sp msgID createdAt t out reply hc hv hout =>
      exact hupd ((hc ▸ ih id).afterInsert msgID t reply)
    | @reject id msg rp sp msgID createdAt t out err hc hout =>
      exact hupd ((hc ▸ ih id).afterInsert msgID t (.error err))
    | env hR => exact ih
    | query hd => exact ih
    | get hd => exact ih

/-- What a call of `GetDiff` has run so far, and what it still has to run. -/
def DiffExecutes (d : DiffCall) : Prop :=
  ∀ req, d.req? = some req → ∃ l p, (getDiff req).Steps l p ∧ d.Ahead p

theorem diffExecutes_afterQuery (req : GetDiffRequest) (reply : Except String (List DiffRow)) :
    DiffExecutes (afterQuery req reply) := by
  obtain ⟨k, hk, hahead⟩ := ahead_getDiff req
  intro req' hreq'
  obtain rfl : req = req' := by
    cases reply <;> exact Option.some.inj hreq'
  rw [hk]
  exact ⟨_, _, .single _ _ reply, hahead reply⟩

theorem DiffExecutes.afterGet {req : GetDiffRequest} {messages : List PersistedMessage}
    (h : DiffExecutes (.selected req messages)) (reply : Except String (Option Int)) :
    DiffExecutes (afterGet req messages reply) := by
  obtain ⟨l, p, hl, hp⟩ := h req rfl
  intro req' hreq'
  obtain rfl : req = req' := by
    cases reply <;> exact Option.some.inj hreq'
  cases hp with
  | selected hk => exact ⟨_, _, hl.trans (.single _ _ reply), hk reply⟩

/-- **Every call of `GetDiff` in progress is an execution of `getDiff`**, though the stores change between
its two commands. -/
theorem diffs_run_getDiff {s : State ρ} (h : (system R).Reachable s) (q : DiffId) :
    DiffExecutes (s.diffs q) := by
  refine Lts.System.invariant (I := fun s => ∀ q, DiffExecutes (s.diffs q)) ?_ ?_ h q
  · intro q req hreq
    cases hreq
  · intro s e t ih hstep
    have hupd : ∀ {q d}, DiffExecutes d → ∀ j, DiffExecutes (Function.update s.diffs q d j) := by
      intro q d hd j
      rw [Function.update_apply]
      split
      · exact hd
      · exact ih j
    cases step_cases hstep with
    | query hd => exact hupd (diffExecutes_afterQuery _ _)
    | get hd => exact hupd ((hd ▸ ih _).afterGet _)
    | _ => exact ih

/-- A call that is not invoked in a run does nothing. -/
theorem calls_eq_idle {es : List (Event χ ε)} {s : State ρ}
    (h : (system R).run (system R).init es = some s) {id : CallId}
    (hid : ∀ msg, Event.invoke id msg ∉ es) : s.calls id = .idle := by
  revert hid
  refine Lts.System.run_induction (S := system R)
    (motive := fun es s => (∀ msg, Event.invoke id msg ∉ es) → s.calls id = .idle)
    (fun _ => rfl) ?_ h
  intro es s e t _ ih hstep hid
  have hs : s.calls id = .idle := ih fun msg hmem => hid msg (List.mem_append_left _ hmem)
  -- the call that moves is another one, since it is not idle
  have hother : ∀ {j c}, s.calls j ≠ .idle → Function.update s.calls j c id = .idle := by
    intro j c hj
    have hne : id ≠ j := by
      rintro rfl
      exact hj hs
    rw [Function.update_of_ne hne]
    exact hs
  cases step_cases hstep with
  | @invoke j msg hc =>
    have hj : id ≠ j := by
      rintro rfl
      exact hid msg (List.mem_append_right _ (List.mem_singleton_self _))
    rw [State.setCall_calls, Function.update_of_ne hj]
    exact hs
  | incrReceiver hc hR => exact hother (by simp [hc])
  | incrReceiverAgain hc hR => exact hother (by simp [hc])
  | incrSender hc hR => exact hother (by simp [hc])
  | incrSenderAgain hc hR => exact hother (by simp [hc])
  | wait hc hR => exact hother (by simp [hc])
  | commit reply hc hv hout => exact hother (by simp [hc])
  | reject err hc hout => exact hother (by simp [hc])
  | env hR => exact hs
  | query hd => exact hs
  | get hd => exact hs

/-- What a step does to a call: nothing, or it starts it, or it moves it on with the message it has,
unless it has returned. -/
theorem call_step {s t : State ρ} {e : Event χ ε} (hstep : (system R).step s e = some t)
    (id : CallId) : t.calls id = s.calls id ∨ s.calls id = .idle ∨
      (s.calls id).result? = none ∧ (t.calls id).msg? = (s.calls id).msg? := by
  -- the call `j` moves on to `c`
  have hmove : ∀ {j c}, (s.calls j).result? = none → c.msg? = (s.calls j).msg? →
      Function.update s.calls j c id = s.calls id ∨ s.calls id = .idle ∨
        (s.calls id).result? = none ∧
          (Function.update s.calls j c id).msg? = (s.calls id).msg? := by
    intro j c hres hmsg
    by_cases hid : id = j
    · subst hid
      rw [Function.update_self]
      exact Or.inr (Or.inr ⟨hres, hmsg⟩)
    · rw [Function.update_of_ne hid]
      exact Or.inl rfl
  cases step_cases hstep with
  | @invoke j msg hc =>
    by_cases hid : id = j
    · subst hid
      exact Or.inr (Or.inl hc)
    · exact Or.inl (Function.update_of_ne hid ..)
  | incrReceiver hc hR =>
    exact hmove (by rw [hc]; rfl) (by rw [hc, msg?_afterIncrReceiver]; rfl)
  | incrReceiverAgain hc hR => exact hmove (by rw [hc]; rfl) (by rw [hc])
  | incrSender hc hR =>
    exact hmove (by rw [hc]; rfl) (by rw [hc, msg?_afterIncrSender]; rfl)
  | incrSenderAgain hc hR => exact hmove (by rw [hc]; rfl) (by rw [hc])
  | wait hc hR => exact hmove (by rw [hc]; rfl) (by rw [hc, msg?_afterWait]; rfl)
  | commit reply hc hv hout =>
    exact hmove (by rw [hc]; rfl) (by rw [hc, msg?_afterInsert]; rfl)
  | reject err hc hout => exact hmove (by rw [hc]; rfl) (by rw [hc]; rfl)
  | env hR => exact Or.inl rfl
  | query hd => exact Or.inl rfl
  | get hd => exact Or.inl rfl

/-- A call is invoked once. -/
theorem invoke_step {s t : State ρ} {id : CallId} {msg : ChatMessage}
    (hstep : (system R).step s (.invoke id msg) = some t) :
    s.calls id = .idle ∧ t.calls id = .incrReceiver msg := by
  cases step_cases hstep with
  | invoke hc => exact ⟨hc, Function.update_self ..⟩

/-- A call that has returned stays where it is. -/
theorem returned_step {s t : State ρ} {e : Event χ ε} (hstep : (system R).step s e = some t)
    {id : CallId} {msg : ChatMessage} {alloc : Option (Int × Int)}
    {res : Except Status PersistedMessage} (h : s.calls id = .returned msg alloc res) :
    t.calls id = .returned msg alloc res := by
  rcases call_step hstep id with hsame | hidle | ⟨hres, -⟩
  · rw [hsame, h]
  · rw [h] at hidle
    cases hidle
  · rw [h] at hres
    cases hres

/-- A call keeps the message it was invoked with. -/
theorem msg?_step {s t : State ρ} {e : Event χ ε} (hstep : (system R).step s e = some t)
    {id : CallId} {msg : ChatMessage} (h : (s.calls id).msg? = some msg) :
    (t.calls id).msg? = some msg := by
  rcases call_step hstep id with hsame | hidle | ⟨-, hmsg⟩
  · rw [hsame, h]
  · rw [hidle] at h
    cases h
  · rw [hmsg, h]

/-- A step commits at most the row of an `INSERT`, under the id that it brings. -/
theorem committed_step {s t : State ρ} {e : Event χ ε} (hstep : (system R).step s e = some t) :
    t.committed = s.committed ∨
    ∃ id msgID createdAt serverTimestamp out r,
      e = .insert id msgID createdAt serverTimestamp out ∧ r.id = msgID ∧
      t.committed = s.committed ++ [⟨id, r⟩] := by
  cases step_cases hstep with
  | commit reply hc hv hout => exact Or.inr ⟨_, _, _, _, _, _, rfl, rfl, rfl⟩
  | _ => exact Or.inl rfl

/-! ### Invariants of single calls -/

/-- What makes `K` an invariant of every call: `K x id c` says something of call `id` standing at
`c` while Redis is in the state `x`.  A step moves one call and may change Redis, which `K` has to
survive for all the others; `C` is a condition on the steps. -/
structure CallRule (R : Redis ρ χ ε) (C : State ρ → Event χ ε → Prop)
    (K : ρ → CallId → PersistCall → Prop) : Prop where
  init : ∀ id, K R.init id .idle
  invoke : ∀ {x id msg}, K x id .idle → K x id (.incrReceiver msg)
  incrReceiver : ∀ {x y id msg ch reply}, K x id (.incrReceiver msg) →
    R.incr x (id, .receiver) (ptsKey msg.receiverId) ch = some (y, some reply) →
    K y id (afterIncrReceiver msg reply)
  incrSender : ∀ {x y id msg rp ch reply}, K x id (.incrSender msg rp) →
    R.incr x (id, .sender) (ptsKey msg.senderId) ch = some (y, some reply) →
    K y id (afterIncrSender msg rp reply)
  wait : ∀ {s : State ρ} {y id msg rp sp ch reply}, K s.redis id (.wait msg rp sp) →
    C s (.redis id ch) → R.wait s.redis id 1 ptsWaitTimeoutMs ch = some (y, reply) →
    K y id (afterWait msg rp sp reply)
  insert : ∀ {x id msg rp sp}, K x id (.insert msg rp sp) → ∀ msgID t reply,
    K x id (afterInsert msg rp sp msgID t reply)
  /-- An `INCR` concerns no other call, and without a reply not its own either. -/
  of_incr : ∀ {x y id j role key ch reply c}, j ≠ id ∨ reply = none → K x j c →
    R.incr x (id, role) key ch = some (y, reply) → K y j c
  /-- A `WAIT` concerns no other call. -/
  of_wait : ∀ {x y id j ch reply c}, K x j c →
    R.wait x id 1 ptsWaitTimeoutMs ch = some (y, reply) → K y j c
  env : ∀ {s : State ρ} {y id e c}, K s.redis id c → C s (.env e) → R.env s.redis e = some y →
    K y id c

/-- **The rule for calls**: `K` holds of every call in every run whose steps meet `C`. -/
theorem CallRule.invariant {C : State ρ → Event χ ε → Prop} {K : ρ → CallId → PersistCall → Prop}
    (rule : CallRule R C K) {s : State ρ} {es : List (Event χ ε)}
    (h : (system R).run (system R).init es = some s) (hC : (system R).Meets C (system R).init es)
    (id : CallId) : K s.redis id (s.calls id) := by
  refine Lts.System.invariant_of_meets (I := fun s => ∀ id, K s.redis id (s.calls id)) ?_ ?_ h hC id
  · exact rule.init
  · intro s e t ih hCe hstep
    -- the call that moves, and all the others
    have hupd : ∀ {x id c}, (∀ j, j ≠ id → K x j (s.calls j)) → K x id c →
        ∀ j, K x j (Function.update s.calls id c j) := by
      intro x id c hother hc j
      by_cases hj : j = id
      · subst hj
        rw [Function.update_self]
        exact hc
      · rw [Function.update_of_ne hj]
        exact hother j hj
    have hat : ∀ {id c}, s.calls id = c → K s.redis id c := fun {id c} hc => hc ▸ ih id
    cases step_cases hstep with
    | invoke hc => exact hupd (fun j _ => ih j) (rule.invoke (hat hc))
    | incrReceiver hc hR =>
      exact hupd (fun j hj => rule.of_incr (Or.inl hj) (ih j) hR) (rule.incrReceiver (hat hc) hR)
    | incrReceiverAgain hc hR =>
      exact hupd (fun j hj => rule.of_incr (Or.inl hj) (ih j) hR)
        (rule.of_incr (Or.inr rfl) (hat hc) hR)
    | incrSender hc hR =>
      exact hupd (fun j hj => rule.of_incr (Or.inl hj) (ih j) hR) (rule.incrSender (hat hc) hR)
    | incrSenderAgain hc hR =>
      exact hupd (fun j hj => rule.of_incr (Or.inl hj) (ih j) hR)
        (rule.of_incr (Or.inr rfl) (hat hc) hR)
    | wait hc hR =>
      exact hupd (fun j _ => rule.of_wait (ih j) hR) (rule.wait (hat hc) hCe hR)
    | commit reply hc hv hout => exact hupd (fun j _ => ih j) (rule.insert (hat hc) _ _ reply)
    | reject err hc hout => exact hupd (fun j _ => ih j) (rule.insert (hat hc) _ _ (.error err))
    | env hR => exact fun j => rule.env (ih j) hCe hR
    | query hd => exact ih
    | get hd => exact ih

/-! ### The table and the calls -/

/-- The constraints of the table: no two rows share an id, nor the slot of one role. -/
structure Constrained (t : Table) : Prop where
  id_nodup : (t.map Row.id).Nodup
  slot_nodup : ∀ role, (t.map fun r => r.slot role).Nodup

theorem violatedConstraint_eq_none_iff {t : Table} {r : Row} :
    violatedConstraint t r = none ↔
      r.id ∉ t.map Row.id ∧ ∀ role, r.slot role ∉ t.map fun r => r.slot role := by
  have hreceiver : r.slot .receiver ∉ (t.map fun r => r.slot .receiver) ↔
      ¬ t.any fun r' => r'.receiverId = r.receiverId ∧ r'.receiverPts = r.receiverPts := by
    simp [Row.slot]
  have hsender : r.slot .sender ∉ (t.map fun r => r.slot .sender) ↔
      ¬ t.any fun r' => r'.senderId = r.senderId ∧ r'.senderPts = r.senderPts := by
    simp [Row.slot]
  have hid : r.id ∉ t.map Row.id ↔ ¬ t.any fun r' => r'.id = r.id := by
    simp
  constructor
  · intro h
    rw [violatedConstraint] at h
    split_ifs at h with h1 h2 h3
    refine ⟨hid.mpr h1, fun role => ?_⟩
    cases role with
    | receiver => exact hreceiver.mpr h2
    | sender => exact hsender.mpr h3
  · rintro ⟨h1, h2⟩
    rw [violatedConstraint, if_neg (hid.mp h1), if_neg (hreceiver.mp (h2 .receiver)),
      if_neg (hsender.mp (h2 .sender))]

/-- A row that violates nothing can be added. -/
theorem Constrained.concat {t : Table} {r : Row} (ht : Constrained t)
    (hr : violatedConstraint t r = none) : Constrained (t ++ [r]) := by
  obtain ⟨hid, hslot⟩ := violatedConstraint_eq_none_iff.mp hr
  constructor
  · rw [List.map_append, List.map_singleton]
    exact List.nodup_append.mpr ⟨ht.id_nodup, List.nodup_singleton _,
      fun a ha b hb => by rw [List.mem_singleton.mp hb]; rintro rfl; exact hid ha⟩
  · intro role
    rw [List.map_append, List.map_singleton]
    exact List.nodup_append.mpr ⟨ht.slot_nodup role, List.nodup_singleton _,
      fun a ha b hb => by rw [List.mem_singleton.mp hb]; rintro rfl; exact hslot role ha⟩

/-- Every table the service reaches satisfies its constraints. -/
theorem constrained_table {s : State ρ} (h : (system R).Reachable s) : Constrained s.table := by
  refine Lts.System.invariant (I := fun s => Constrained s.table) ?_ ?_ h
  · exact ⟨List.nodup_nil, fun _ => List.nodup_nil⟩
  · intro s e t ih hstep
    cases step_cases hstep with
    | commit reply hc hv hout =>
      rw [State.setCall_table, State.commit_table]
      exact ih.concat hv
    | _ => exact ih

/-- How the committed rows and the calls go together. -/
structure Recorded (s : State ρ) : Prop where
  /-- A committed row is the row of a call that has returned. -/
  returned : ∀ x ∈ s.committed, ∃ msg rp sp res msgID createdAt,
    s.calls x.call = .returned msg (some (rp, sp)) res ∧ x.row = row msg rp sp msgID createdAt
  /-- No call commits two rows. -/
  nodup : (s.committed.map Committed.call).Nodup
  /-- A call that returned a message committed a row under its id, with the PTS it returned. -/
  ok : ∀ {id msg alloc m}, s.calls id = .returned msg alloc (.ok m) →
    m.message = some msg ∧ alloc = some (m.receiverPts, m.senderPts) ∧
      ∃ createdAt, ⟨id, row msg m.receiverPts m.senderPts m.id createdAt⟩ ∈ s.committed

/-- A step that commits nothing and returns no message keeps the record. -/
theorem Recorded.setCall {s s' : State ρ} (h : Recorded s) {id : CallId} {c : PersistCall}
    (hcom : s'.committed = s.committed) (hcalls : s'.calls = Function.update s.calls id c)
    (hid : ∀ msg alloc res, s.calls id ≠ .returned msg alloc res)
    (hc : ∀ msg alloc m, c ≠ .returned msg alloc (.ok m)) : Recorded s' where
  returned x hx := by
    rw [hcom] at hx
    obtain ⟨msg, rp, sp, res, msgID, createdAt, hcall, hrow⟩ := h.returned x hx
    refine ⟨msg, rp, sp, res, msgID, createdAt, ?_, hrow⟩
    rw [hcalls, Function.update_of_ne, hcall]
    rintro rfl
    exact hid _ _ _ hcall
  nodup := hcom ▸ h.nodup
  ok {j msg alloc m} hj := by
    rw [hcalls, Function.update_apply] at hj
    split at hj
    · exact absurd hj (hc _ _ _)
    · rw [hcom]
      exact h.ok hj

/-- A step that leaves the calls and the committed rows alone keeps the record. -/
theorem Recorded.congr {s s' : State ρ} (h : Recorded s) (hcom : s'.committed = s.committed)
    (hcalls : s'.calls = s.calls) : Recorded s' where
  returned := by rw [hcom, hcalls]; exact h.returned
  nodup := hcom ▸ h.nodup
  ok := by rw [hcom, hcalls]; exact h.ok

theorem recorded {s : State ρ} (h : (system R).Reachable s) : Recorded s := by
  refine Lts.System.invariant (I := Recorded) ?_ ?_ h
  · exact ⟨fun x hx => (List.not_mem_nil hx).elim, List.nodup_nil, fun h => by cases h⟩
  · intro s e t ih hstep
    cases step_cases hstep with
    | invoke hc =>
      refine ih.setCall rfl rfl ?_ ?_ <;> intros <;> simp [hc]
    | @incrReceiver id msg ch x reply hc hR =>
      refine ih.setCall rfl rfl (by intros; simp [hc]) ?_
      cases reply <;> intros <;> simp [afterIncrReceiver]
    | incrReceiverAgain hc hR =>
      refine ih.setCall rfl rfl ?_ ?_ <;> intros <;> simp [hc]
    | @incrSender id msg rp ch x reply hc hR =>
      refine ih.setCall rfl rfl (by intros; simp [hc]) ?_
      cases reply <;> intros <;> simp [afterIncrSender]
    | incrSenderAgain hc hR =>
      refine ih.setCall rfl rfl ?_ ?_ <;> intros <;> simp [hc]
    | @wait id msg rp sp ch x reply hc hR =>
      refine ih.setCall rfl rfl (by intros; simp [hc]) ?_
      cases reply with
      | error err => intros; simp [afterWait]
      | ok acked => intros; rw [afterWait]; split <;> simp
    | @commit id msg rp sp msgID createdAt t out reply hc hv hout =>
      have hnew : id ∉ s.committed.map Committed.call := by
        rintro hmem
        obtain ⟨x, hx, rfl⟩ := List.mem_map.mp hmem
        obtain ⟨_, _, _, _, _, _, hcall, _⟩ := ih.returned x hx
        rw [hc] at hcall
        cases hcall
      refine ⟨fun x hx => ?_, ?_, fun {j msg' alloc m} hj => ?_⟩
      · rw [State.setCall_committed, State.commit_committed, List.mem_append] at hx
        rw [State.setCall_calls]
        rcases hx with hx | hx
        · obtain ⟨msg', rp', sp', res, msgID', createdAt', hcall, hrow⟩ := ih.returned x hx
          refine ⟨msg', rp', sp', res, msgID', createdAt', ?_, hrow⟩
          rw [Function.update_of_ne, State.commit_calls, hcall]
          rintro rfl
          exact hnew (List.mem_map_of_mem hx)
        · obtain rfl := List.mem_singleton.mp hx
          cases reply with
          | error err => exact ⟨msg, rp, sp, _, msgID, createdAt, Function.update_self .., rfl⟩
          | ok => exact ⟨msg, rp, sp, _, msgID, createdAt, Function.update_self .., rfl⟩
      · rw [State.setCall_committed, State.commit_committed, List.map_append, List.map_singleton]
        exact List.nodup_append.mpr ⟨ih.nodup, List.nodup_singleton _,
          fun a ha b hb => by rw [List.mem_singleton.mp hb]; rintro rfl; exact hnew ha⟩
      · rw [State.setCall_calls, Function.update_apply] at hj
        rw [State.setCall_committed, State.commit_committed]
        split at hj
        · rename_i hjid
          cases reply with
          | error err => cases hj
          | ok =>
            cases hj
            rw [hjid]
            exact ⟨rfl, rfl, createdAt, List.mem_append_right _ (List.mem_singleton_self _)⟩
        · obtain ⟨hmsg, halloc, createdAt', hmem⟩ := ih.ok hj
          exact ⟨hmsg, halloc, createdAt', List.mem_append_left _ hmem⟩
    | reject err hc hout =>
      refine ih.setCall rfl rfl (by intros; simp [hc]) (by intros; simp [afterInsert])
    | env hR => exact ih.congr rfl rfl
    | query hd => exact ih.congr rfl rfl
    | get hd => exact ih.congr rfl rfl

/-- **Message ids are unique**: no two calls return messages with one id. -/
theorem returned_id_inj {s : State ρ} (h : (system R).Reachable s) {id id' : CallId}
    {msg msg' : ChatMessage} {alloc alloc' : Option (Int × Int)} {m m' : PersistedMessage}
    (hm : s.calls id = .returned msg alloc (.ok m))
    (hm' : s.calls id' = .returned msg' alloc' (.ok m')) (heq : m.id = m'.id) : id = id' := by
  obtain ⟨-, -, createdAt, hmem⟩ := (recorded h).ok hm
  obtain ⟨-, -, createdAt', hmem'⟩ := (recorded h).ok hm'
  have hnodup : (s.committed.map fun x => x.row.id).Nodup := by
    have hid := (constrained_table h).id_nodup
    rw [State.table, List.map_map] at hid
    exact hid
  have hrow := List.inj_on_of_nodup_map hnodup hmem hmem' heq
  exact congrArg Committed.call hrow

end Service

end TinyTelegram.MessageService
