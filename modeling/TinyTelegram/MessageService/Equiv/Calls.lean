import TinyTelegram.MessageService.Calls

/-!
# The calls in progress are the programs

`PersistCall.Ahead c p` says that `p` is the program a call standing at `c` still has to run, and
`DiffCall.Ahead` says it for `GetDiff`.  A call of `PersistMessage` starts with `persistMessage msg`
ahead of it (`ahead_persistMessage`), and with each reply both move on together: the constructors
are the commands of the source, and the functions `after...` of `Calls.lean` are what the source
does with the replies.  A call of `GetDiff` is named with its first command (`ahead_getDiff`).
-/

namespace TinyTelegram.MessageService

/-- The commands of the last leg of `PersistMessage`, from the UUID on, and their replies. -/
def insertTranscript (msg : ChatMessage) (receiverPTS senderPTS : Int) (msgID : String)
    (serverTimestamp : Int) (reply : Except String Unit) : List (Sigma Reply) :=
  ⟨.newString, msgID⟩ ::
    ⟨.insert msgID msg.senderId msg.receiverId msg.content senderPTS receiverPTS, reply⟩ ::
    match reply with
    | .error _ => []
    | .ok _ => [⟨.now, serverTimestamp⟩]

/-! ### A call keeps its message -/

section Messages

variable (msg : ChatMessage) (receiverPTS senderPTS : Int)

@[simp] theorem PersistCall.msg?_afterIncrReceiver (reply : Except String Int) :
    (afterIncrReceiver msg reply).msg? = some msg := by
  cases reply <;> rfl

@[simp] theorem PersistCall.msg?_afterIncrSender (reply : Except String Int) :
    (afterIncrSender msg receiverPTS reply).msg? = some msg := by
  cases reply <;> rfl

@[simp] theorem PersistCall.msg?_afterWait (reply : Except String Int) :
    (afterWait msg receiverPTS senderPTS reply).msg? = some msg := by
  cases reply with
  | error err => rfl
  | ok acked => rw [afterWait]; split <;> rfl

@[simp] theorem PersistCall.msg?_afterInsert (msgID : String) (serverTimestamp : Int)
    (reply : Except String Unit) :
    (afterInsert msg receiverPTS senderPTS msgID serverTimestamp reply).msg? = some msg := by
  cases reply <;> rfl

end Messages

/-! ### What is left to run -/

/-- What a call that has ended returned. -/
def PersistCall.result? : PersistCall → Option (Except Status PersistedMessage)
  | .returned _ _ res => some res
  | _ => none

/-- `p` is what a call of `PersistMessage` standing at `c` still has to run. -/
inductive PersistCall.Ahead : PersistCall → Remote (Except Status PersistedMessage) → Prop where
  | incrReceiver {msg : ChatMessage} {k : Except String Int → Remote _}
      (h : ∀ r, Ahead (afterIncrReceiver msg r) (k r)) :
      Ahead (.incrReceiver msg) (.call (.incr (ptsKey msg.receiverId)) k)
  | incrSender {msg : ChatMessage} {receiverPTS : Int} {k : Except String Int → Remote _}
      (h : ∀ r, Ahead (afterIncrSender msg receiverPTS r) (k r)) :
      Ahead (.incrSender msg receiverPTS) (.call (.incr (ptsKey msg.senderId)) k)
  | wait {msg : ChatMessage} {receiverPTS senderPTS : Int} {k : Except String Int → Remote _}
      (h : ∀ r, Ahead (afterWait msg receiverPTS senderPTS r) (k r)) :
      Ahead (.wait msg receiverPTS senderPTS) (.call (.wait 1 ptsWaitTimeoutMs) k)
  | insert {msg : ChatMessage} {receiverPTS senderPTS : Int} {p : Remote _}
      (h : ∀ msgID t r res, (afterInsert msg receiverPTS senderPTS msgID t r).result? = some res →
        p.Steps (insertTranscript msg receiverPTS senderPTS msgID t r) (.pure res)) :
      Ahead (.insert msg receiverPTS senderPTS) p
  | returned {msg : ChatMessage} {alloc : Option (Int × Int)}
      {res : Except Status PersistedMessage} : Ahead (.returned msg alloc res) (.pure res)

/-- A call that has just been invoked has all of `persistMessage` ahead of it. -/
theorem PersistCall.ahead_persistMessage (msg : ChatMessage) :
    Ahead (.incrReceiver msg) (persistMessage msg) := by
  refine .incrReceiver fun r => ?_
  cases r with
  | error err => exact .returned
  | ok receiverPTS =>
    refine .incrSender fun r => ?_
    cases r with
    | error err => exact .returned
    | ok senderPTS =>
      refine .wait fun r => ?_
      cases r with
      | error err => exact .returned
      | ok acked =>
        by_cases hacked : acked < 1
        · simp only [afterWait, hacked, if_true, Prog.pure_bind, Prog.pure_eq]
          exact .returned
        · simp only [afterWait, hacked, if_false, Prog.pure_bind, Prog.pure_eq]
          refine .insert fun msgID t r res hres => ?_
          cases r with
          | error err =>
            obtain rfl := Option.some.inj hres
            refine Prog.Steps.call (Prog.Steps.call ?_)
            by_cases huniq : isUniqueViolation (some err)
            · simp only [Prog.pure_bind, huniq, if_true]
              exact .refl _
            · simp only [Prog.pure_bind, huniq, Bool.false_eq_true, if_false]
              exact .refl _
          | ok =>
            obtain rfl := Option.some.inj hres
            exact Prog.Steps.call (Prog.Steps.call (Prog.Steps.call (.refl _)))

/-- `p` is what a call of `GetDiff` standing at `d` still has to run. -/
inductive DiffCall.Ahead : DiffCall → Remote (Except Status GetDiffResponse) → Prop where
  | selected {req : GetDiffRequest} {messages : List PersistedMessage}
      {k : Except String (Option Int) → Remote _}
      (h : ∀ r, Ahead (afterGet req messages r) (k r)) :
      Ahead (.selected req messages) (.call (.get (ptsKey req.userId)) k)
  | returned {req : GetDiffRequest} {res : Except Status GetDiffResponse} :
      Ahead (.returned req res) (.pure res)

/-- `getDiff` begins with the query, and goes on as `DiffCall` says. -/
theorem DiffCall.ahead_getDiff (req : GetDiffRequest) :
    ∃ k, getDiff req = .call (.query req.userId req.clientPts (normalizeLimit req.limit)) k ∧
      ∀ r, Ahead (afterQuery req r) (k r) := by
  refine ⟨_, rfl, fun r => ?_⟩
  cases r with
  | error err => exact .returned
  | ok rows =>
    refine .selected fun r => ?_
    rcases r with err | _ | val
    · exact .returned
    · exact .returned
    · exact .returned

end TinyTelegram.MessageService
