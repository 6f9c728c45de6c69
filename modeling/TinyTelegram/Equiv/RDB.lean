import TinyTelegram.RDB

/-!
# One keyspace and its stores

The commands of the gateways and of the message service meet in one keyspace, and act as if each kind of key
were a store of its own (`simulation`): whatever the users and the gateways are called, the names of two keys
differ (`text_injective`), and so no command finds a value of another type or a counter that is no integer.
What the functions return is what the separate stores answer (`one_keyspace`).  So the numbers of a user are
handed out in order, whatever happens to the other keys (`numbers_in_order`).
-/

namespace TinyTelegram

open MessageService (ptsKey)
open RDB (Key Call Event Answer)

/-! ### Keys -/

namespace RDB

/-- **Different names have different keys**, for all ids of users and gateways. -/
theorem text_injective : Function.Injective Key.text := by
  intro k k' h
  have hchars := congrArg String.toList h
  cases k with
  | pts u =>
    cases k' with
    | pts u' => simpa [Key.text, ptsKey] using h
    | presence u' => simp [Key.text, ptsKey, presenceKey] at hchars
    | gateways => simp [Key.text, ptsKey, gatewaysKey] at hchars
    | alive g => simp [Key.text, ptsKey, aliveKey] at hchars
  | presence u =>
    cases k' with
    | pts u' => simp [Key.text, ptsKey, presenceKey] at hchars
    | presence u' => simpa [Key.text, presenceKey] using h
    | gateways => simp [Key.text, presenceKey, gatewaysKey] at hchars
    | alive g => simp [Key.text, presenceKey, aliveKey] at hchars
  | gateways =>
    cases k' with
    | pts u' => simp [Key.text, ptsKey, gatewaysKey] at hchars
    | presence u' => simp [Key.text, presenceKey, gatewaysKey] at hchars
    | gateways => rfl
    | alive g => simp [Key.text, gatewaysKey, aliveKey] at hchars
  | alive g =>
    cases k' with
    | pts u' => simp [Key.text, ptsKey, aliveKey] at hchars
    | presence u' => simp [Key.text, presenceKey, aliveKey] at hchars
    | gateways => simp [Key.text, gatewaysKey, aliveKey] at hchars
    | alive g' => simpa [Key.text, aliveKey] using h

theorem toOption_failure {α : Type} (reply : Except String α) :
    (failure reply).toOption = reply.toOption := by
  cases reply with
  | ok x => rfl
  | error text => rfl

end RDB

namespace Stores

/-! ### The keyspace of the stores -/

/-- What a key holds. -/
def entry (s : Stores) : Key → Option Keyspace.Entry
  | .pts u => (MessageService.Counters.get s.counters (ptsKey u)).map fun n =>
    ⟨.string (toString n), false⟩
  | .presence u => (s.presence.getUserGateway u).map fun a => ⟨.string a, true⟩
  | .gateways => if s.gateways = [] then none else some ⟨.hash s.gateways, false⟩
  | .alive g => if s.alive g then some ⟨.string "1", true⟩ else none

/-- The counters are integers of 64 bits, and not negative. -/
def InRange (s : Stores) : Prop :=
  ∀ u, 0 ≤ s.counters.value (ptsKey u) ∧ s.counters.value (ptsKey u) ≤ Keyspace.maxInt64

/-- The keyspace has what the stores have. -/
structure Kept (db : Keyspace.State) (s : Stores) : Prop where
  holds : Keyspace.Holds Key.text db s.entry
  range : s.InRange

variable {s : Stores}

/-- A counter that is there is read. -/
theorem entry_pts (h : s.InRange) (u : String) :
    (s.entry (.pts u) = none ∧ s.counters.value (ptsKey u) = 0) ∨
    (s.entry (.pts u) = some ⟨.string (toString (s.counters.value (ptsKey u))), false⟩ ∧
      s.counters.value (ptsKey u) ≠ 0 ∧
      Keyspace.readInt (toString (s.counters.value (ptsKey u))) = some (s.counters.value (ptsKey u))) := by
  obtain ⟨hlo, hhi⟩ := h u
  by_cases hzero : s.counters.value (ptsKey u) = 0
  · exact .inl ⟨by simp [entry, MessageService.Counters.get, hzero], hzero⟩
  · refine .inr ⟨by simp [entry, MessageService.Counters.get, hzero], hzero, Keyspace.readInt_toString ?_ hhi⟩
    have hmax : (0 : Int) ≤ Keyspace.maxInt64 := by decide
    omega

/-! ### One command -/

/-- **A command does with its key what the call does with its store**, and says the same. -/
theorem run_op (h : s.InRange) (c : Call) :
    (c.op.run (s.entry c.key)).1 = (s.exec c).entry c.key ∧
    c.answer (c.op.run (s.entry c.key)).2 = s.answer c := by
  cases c with
  | nextUserPTS u =>
    show (Keyspace.Op.incr.run (s.entry (.pts u))).1 = (s.exec (.nextUserPTS u)).entry (.pts u) ∧
      Answer.pts (RDB.failure (Keyspace.Op.incr.run (s.entry (.pts u))).2) = s.answer (.nextUserPTS u)
    rcases entry_pts h u with ⟨hentry, hzero⟩ | ⟨hentry, hne, hread⟩
    · rw [hentry]
      have hmax : (0 : Int) ≠ Keyspace.maxInt64 := by decide
      simp [Keyspace.Op.run, exec, nextUserPTS, answer, entry, MessageService.Counters.get, hzero, hmax,
        RDB.failure]
    · rw [hentry]
      obtain ⟨hlo, -⟩ := h u
      by_cases hmax : s.counters.value (ptsKey u) = Keyspace.maxInt64
      · simp only [Keyspace.Op.run, hread, if_pos hmax, exec, nextUserPTS, answer, hentry]
        exact ⟨trivial, rfl⟩
      · have hsucc : s.counters.value (ptsKey u) + 1 ≠ 0 := by omega
        simp only [Keyspace.Op.run, hread, if_neg hmax, exec, nextUserPTS, answer]
        simp [entry, MessageService.Counters.get, hsucc, RDB.failure]
  | getUserPTS u =>
    show (Keyspace.Op.get.run (s.entry (.pts u))).1 = s.entry (.pts u) ∧
      Answer.pts (RDB.int64 (Keyspace.Op.get.run (s.entry (.pts u))).2) = s.answer (.getUserPTS u)
    rcases entry_pts h u with ⟨hentry, hzero⟩ | ⟨hentry, hne, hread⟩
    · rw [hentry]
      simp [Keyspace.Op.run, answer, MessageService.Counters.get, hzero, RDB.int64]
    · have hparse := Keyspace.parseInt_of_readInt hread
      rw [hentry]
      simp only [Keyspace.Op.run, RDB.int64, hparse, Option.elim_some, answer]
      simp [MessageService.Counters.get, hne]
  | registerUser u a =>
    simp [Call.op, Call.key, Call.answer, Keyspace.Op.run, exec, answer, entry,
      Gateway.Presence.State.registerUser, Gateway.Presence.State.getUserGateway, RDB.failure]
  | unregisterUser u =>
    simp [Call.op, Call.key, Call.answer, Keyspace.Op.run, exec, answer, entry,
      Gateway.Presence.State.unregisterUser, Gateway.Presence.State.getUserGateway]
  | getUserGateway u =>
    show (Keyspace.Op.get.run (s.entry (.presence u))).1 = s.entry (.presence u) ∧
      Answer.addr (RDB.result (Keyspace.Op.get.run (s.entry (.presence u))).2) = s.answer (.getUserGateway u)
    cases ha : s.presence.getUserGateway u with
    | none => simp [Keyspace.Op.run, answer, entry, ha, RDB.result]
    | some a => simp [Keyspace.Op.run, answer, entry, ha, RDB.result]
  | registerGateway g a =>
    have hset : MessageService.Discovery.hSet s.gateways g a =
        Keyspace.without s.gateways g ++ [(g, a)] := rfl
    by_cases hnil : s.gateways = []
    · rw [hnil] at hset
      simp [Call.op, Call.key, Call.answer, Keyspace.Op.run, exec, answer, entry, hset, hnil,
        Keyspace.without, RDB.failure, Except.map]
    · simp [Call.op, Call.key, Call.answer, Keyspace.Op.run, exec, answer, entry, hset, hnil,
        RDB.failure, Except.map]
  | registerAlive g =>
    simp [Call.op, Call.key, Call.answer, Keyspace.Op.run, exec, answer, entry, RDB.failure]
  | unregisterGateway g =>
    have hdel : MessageService.Discovery.hDel s.gateways g = Keyspace.without s.gateways g := rfl
    by_cases hnil : s.gateways = []
    · rw [hnil] at hdel
      simp [Call.op, Call.key, Call.answer, Keyspace.Op.run, exec, answer, entry, hdel, hnil,
        Keyspace.without, RDB.failure, Except.map]
    · simp [Call.op, Call.key, Call.answer, Keyspace.Op.run, exec, answer, entry, hdel, hnil,
        RDB.failure, Except.map]
  | unregisterAlive g =>
    simp [Call.op, Call.key, Call.answer, Keyspace.Op.run, exec, answer, entry]
  | discoverGateways =>
    by_cases hnil : s.gateways = []
    · simp [Call.op, Call.key, Call.answer, Keyspace.Op.run, exec, answer, entry, hnil, RDB.failure]
    · simp [Call.op, Call.key, Call.answer, Keyspace.Op.run, exec, answer, entry, hnil, RDB.failure]

/-- It leaves the other keys. -/
theorem entry_exec_of_ne {c : Call} {k : Key} (hk : k ≠ c.key) : (s.exec c).entry k = s.entry k := by
  cases k with
  | pts u =>
    cases c with
    | nextUserPTS u' =>
      have hu : ptsKey u ≠ ptsKey u' := fun heq =>
        hk (congrArg Key.pts (MessageService.ptsKey_inj.mp heq))
      show (s.nextUserPTS u').entry (.pts u) = _
      unfold nextUserPTS
      split
      · rfl
      · simp only [entry, MessageService.Counters.get, MessageService.Counters.State.bump_value,
          Function.update_of_ne hu]
    | _ => rfl
  | presence u =>
    cases c with
    | registerUser u' a =>
      have hu : u ≠ u' := fun heq => hk (congrArg Key.presence heq)
      simp [exec, entry, Gateway.Presence.State.registerUser, Gateway.Presence.State.getUserGateway, hu]
    | unregisterUser u' =>
      have hu : u ≠ u' := fun heq => hk (congrArg Key.presence heq)
      simp [exec, entry, Gateway.Presence.State.unregisterUser, Gateway.Presence.State.getUserGateway, hu]
    | nextUserPTS u' =>
      show (s.nextUserPTS u').entry (.presence u) = _
      unfold nextUserPTS
      split <;> rfl
    | _ => rfl
  | gateways =>
    cases c with
    | registerGateway g a => exact absurd rfl hk
    | unregisterGateway g => exact absurd rfl hk
    | nextUserPTS u' =>
      show (s.nextUserPTS u').entry .gateways = _
      unfold nextUserPTS
      split <;> rfl
    | _ => rfl
  | alive g =>
    cases c with
    | registerAlive g' =>
      have hg : g ≠ g' := fun heq => hk (congrArg Key.alive heq)
      simp [exec, entry, hg]
    | unregisterAlive g' =>
      have hg : g ≠ g' := fun heq => hk (congrArg Key.alive heq)
      simp [exec, entry, hg]
    | nextUserPTS u' =>
      show (s.nextUserPTS u').entry (.alive g) = _
      unfold nextUserPTS
      split <;> rfl
    | _ => rfl

/-- No counter leaves the integers of 64 bits. -/
theorem inRange_exec (h : s.InRange) (c : Call) : (s.exec c).InRange := by
  cases c with
  | nextUserPTS u =>
    show (s.nextUserPTS u).InRange
    unfold nextUserPTS
    split
    · exact h
    · rename_i hmax
      intro u'
      obtain ⟨hlo, hhi⟩ := h u
      simp only [MessageService.Counters.State.bump_value]
      by_cases hu : u' = u
      · rw [hu, Function.update_self]
        omega
      · rw [Function.update_of_ne fun heq => hu (MessageService.ptsKey_inj.mp heq)]
        exact h u'
  | _ => exact h

/-! ### The whole run -/

/-- **The keyspace is simulated by the stores.** -/
theorem simulation : Lts.Simulation RDB.system system Kept where
  init := by
    have hmax : (0 : Int) ≤ Keyspace.maxInt64 := by decide
    refine ⟨⟨fun k => ?_, fun _ _ => rfl⟩, fun u => ⟨le_rfl, hmax⟩⟩
    cases k with
    | pts u => rfl
    | presence u => rfl
    | gateways => rfl
    | alive g => rfl
  step := by
    intro db s e db' hkept hstep
    cases e with
    | call c =>
      obtain rfl := Option.some.inj hstep
      exact ⟨s.exec c, rfl, hkept.holds.exec RDB.text_injective (run_op hkept.range c).1.symm
        fun k hk => entry_exec_of_ne hk, inRange_exec hkept.range c⟩
    | expire k =>
      obtain ⟨⟨value, hvalue⟩, hholds⟩ := hkept.holds.expire RDB.text_injective hstep
      cases k with
      | pts u =>
        -- a counter has no time to live
        rcases entry_pts hkept.range u with ⟨hentry, -⟩ | ⟨hentry, -⟩
        · rw [hentry] at hvalue
          cases hvalue
        · rw [hentry] at hvalue
          cases hvalue
      | presence u =>
        have hsome : (s.presence.getUserGateway u).isSome = true := by
          obtain ⟨a, ha, -⟩ := Option.map_eq_some_iff.mp hvalue
          rw [ha]
          rfl
        refine ⟨s.exec (.unregisterUser u), if_pos hsome, hholds _ ?_ fun k hk => entry_exec_of_ne hk,
          inRange_exec hkept.range _⟩
        simp [exec, entry, Gateway.Presence.State.unregisterUser, Gateway.Presence.State.getUserGateway]
      | gateways =>
        -- nor has the hash
        simp only [entry] at hvalue
        split at hvalue
        · cases hvalue
        · cases hvalue
      | alive g =>
        have halive : s.alive g = true := by
          simp only [entry] at hvalue
          split at hvalue
          · assumption
          · cases hvalue
        refine ⟨s.exec (.unregisterAlive g), if_pos halive, hholds _ ?_ fun k hk => entry_exec_of_ne hk,
          inRange_exec hkept.range _⟩
        simp [exec, entry]

/-- The only errors are that a user has no gateway, and that a counter has come to its end. -/
theorem err_answer {c : Call} {err : RDB.Err} (h : (s.answer c).err? = some err) :
    err = .nil ∨ err = .redis Keyspace.overflow := by
  cases c with
  | nextUserPTS u =>
    simp only [answer] at h
    split at h
    · exact .inr (Option.some.inj h).symm
    · cases h
  | getUserGateway u =>
    simp only [answer] at h
    cases ha : s.presence.getUserGateway u with
    | none =>
      rw [ha] at h
      exact .inl (Option.some.inj h).symm
    | some a =>
      rw [ha] at h
      cases h
  | _ => cases h

/-- **One Redis for two programs.**  In every run of the commands of any number of gateways and message
services on one keyspace, whatever the ids of the users and gateways are, the keyspace has what the separate
stores have after the same calls, and nothing else, and each call returns what its own store answers. -/
theorem one_keyspace {es : List Event} {db : Keyspace.State} (h : RDB.system.run RDB.system.init es = some db) :
    (∃ s, system.run system.init es = some s ∧ Kept db s) ∧
    RDB.system.observe RDB.answer? RDB.system.init es = system.observe answer? system.init es ∧
    ∀ a ∈ RDB.system.observe RDB.answer? RDB.system.init es, ∀ err, a.err? = some err →
      err = .nil ∨ err = .redis Keyspace.overflow := by
  have hobserve : RDB.system.observe RDB.answer? RDB.system.init es =
      system.observe answer? system.init es := by
    refine simulation.observe ?_ h
    intro db s e db' hkept hstep
    cases e with
    | call c =>
      show some (c.answer (Keyspace.exec db c.key.text c.op).2) = some (s.answer c)
      rw [hkept.holds.reply, (run_op hkept.range c).2]
    | expire k => rfl
  refine ⟨simulation.run h, hobserve, ?_⟩
  rw [hobserve]
  refine Lts.System.forall_observe (fun s e a ha err herr => ?_) _ _
  cases e with
  | call c =>
    obtain rfl := Option.some.inj ha
    exact err_answer herr
  | expire k => cases ha

/-- A gateway `bob:pts` and a user `gateways`, whose ids look like keys of another kind. -/
def sharedRun : List Event :=
  [.call (.registerGateway "bob:pts" "10.0.0.1:9000"), .call (.registerAlive "bob:pts"),
    .call (.registerUser "gateways" "10.0.0.1:9000"), .call (.nextUserPTS "gateways"),
    .expire (.alive "bob:pts"), .call (.nextUserPTS "gateways"), .call .discoverGateways,
    .call (.getUserGateway "gateways"), .call (.getUserPTS "gateways")]

theorem one_keyspace_sharedRun : ∃ db, RDB.system.run RDB.system.init sharedRun = some db ∧
    RDB.system.observe RDB.answer? RDB.system.init sharedRun =
      system.observe answer? system.init sharedRun := by
  obtain ⟨db, hdb⟩ : ∃ db, RDB.system.run RDB.system.init sharedRun = some db := ⟨_, rfl⟩
  exact ⟨db, hdb, (one_keyspace hdb).2.1⟩

/-! ### The numbers of a user -/

/-- What `NextUserPTS` gets from the counters. -/
def handedOut? (u : String) (s : Stores) : Event → Option Int
  | .call (.nextUserPTS u') =>
    if u' = u ∧ s.counters.value (ptsKey u) ≠ Keyspace.maxInt64 then
      some (s.counters.value (ptsKey u) + 1)
    else none
  | _ => none

/-- A step that hands out a number of the user raises the counter to it; other steps leave the counter. -/
theorem value_step {u : String} {e : Event} {t : Stores} (h : system.step s e = some t) :
    (handedOut? u s e = none ∧ t.counters.value (ptsKey u) = s.counters.value (ptsKey u)) ∨
    (handedOut? u s e = some (s.counters.value (ptsKey u) + 1) ∧
      t.counters.value (ptsKey u) = s.counters.value (ptsKey u) + 1) := by
  cases e with
  | call c =>
    obtain rfl := Option.some.inj h
    cases c with
    | nextUserPTS u' =>
      have hhand : handedOut? u s (.call (.nextUserPTS u')) =
          if u' = u ∧ s.counters.value (ptsKey u) ≠ Keyspace.maxInt64 then
            some (s.counters.value (ptsKey u) + 1)
          else none := rfl
      have hexec : s.exec (.nextUserPTS u') = s.nextUserPTS u' := rfl
      rw [hhand, hexec, nextUserPTS]
      by_cases hu : u' = u
      · rw [hu]
        by_cases hmax : s.counters.value (ptsKey u) = Keyspace.maxInt64
        · rw [if_neg fun hand => hand.2 hmax, if_pos hmax]
          exact .inl ⟨rfl, rfl⟩
        · rw [if_pos ⟨rfl, hmax⟩, if_neg hmax]
          exact .inr ⟨rfl, Function.update_self ..⟩
      · have hkey : ptsKey u ≠ ptsKey u' := fun heq => hu (MessageService.ptsKey_inj.mp heq).symm
        rw [if_neg fun hand => hu hand.1]
        refine .inl ⟨rfl, ?_⟩
        split
        · rfl
        · exact Function.update_of_ne hkey ..
    | _ => exact .inl ⟨rfl, rfl⟩
  | expire k =>
    refine .inl ⟨rfl, ?_⟩
    cases k with
    | presence u' =>
      obtain ⟨-, ht⟩ := Option.ite_none_right_eq_some.mp h
      obtain rfl := Option.some.inj ht
      rfl
    | alive g =>
      obtain ⟨-, ht⟩ := Option.ite_none_right_eq_some.mp h
      obtain rfl := Option.some.inj ht
      rfl
    | pts u' => cases h
    | gateways => cases h

/-- The numbers that were handed out are those up to the counter. -/
theorem observe_handedOut {es : List Event} (h : system.run system.init es = some s) (u : String) :
    ∃ n : ℕ, s.counters.value (ptsKey u) = n ∧
      system.observe (handedOut? u) system.init es = (List.range n).map fun i : ℕ => (i : Int) + 1 := by
  refine system.run_induction (motive := fun es s => ∃ n : ℕ, s.counters.value (ptsKey u) = n ∧
    system.observe (handedOut? u) system.init es = (List.range n).map fun i : ℕ => (i : Int) + 1)
    ⟨0, rfl, rfl⟩ ?_ h
  rintro es s e t hs ⟨n, hn, hobserve⟩ hstep
  rw [Lts.System.observe_concat _ hs, hobserve]
  rcases value_step (u := u) hstep with ⟨hnone, hvalue⟩ | ⟨hsome, hvalue⟩
  · refine ⟨n, hvalue.trans hn, ?_⟩
    rw [hnone, Option.toList_none, List.append_nil]
  · refine ⟨n + 1, ?_, ?_⟩
    · rw [hvalue, hn]
      rfl
    · rw [hsome, hn, List.range_succ, List.map_append]
      rfl

/-- **A user's numbers are handed out in order**: whatever else is done to the keyspace, and whatever expires,
the `INCR`s for a user that succeed return 1, 2, 3 and so on, and `GetUserPTS` the last of them. -/
theorem numbers_in_order {es : List Event} {db : Keyspace.State} (h : RDB.system.run RDB.system.init es = some db)
    (u : String) : ∃ n : ℕ, RDB.system.observe (RDB.handedOut? u) RDB.system.init es =
        ((List.range n).map fun i : ℕ => (i : Int) + 1) ∧
      RDB.answer? db (.call (.getUserPTS u)) = some (.pts (.ok n)) := by
  obtain ⟨s, hs, hkept⟩ := simulation.run h
  obtain ⟨n, hn, hobserve⟩ := observe_handedOut hs u
  refine ⟨n, ?_, ?_⟩
  · rw [← hobserve]
    refine simulation.observe ?_ h
    intro db s e db' hkept hstep
    cases e with
    | expire k => rfl
    | call c =>
      cases c with
      | nextUserPTS u' =>
        show (if u' = u then (Keyspace.exec db (Key.pts u).text .incr).2.toOption else none) =
          if u' = u ∧ s.counters.value (ptsKey u) ≠ Keyspace.maxInt64 then
            some (s.counters.value (ptsKey u) + 1)
          else none
        by_cases hu : u' = u
        · have hreply := Answer.pts.inj (run_op hkept.range (.nextUserPTS u)).2
          rw [if_pos hu, hkept.holds.reply, ← RDB.toOption_failure]
          refine (congrArg Except.toOption hreply).trans ?_
          by_cases hmax : s.counters.value (ptsKey u) = Keyspace.maxInt64
          · rw [if_pos hmax, if_neg fun hand => hand.2 hmax]
            rfl
          · rw [if_neg hmax, if_pos ⟨hu, hmax⟩]
            rfl
        · rw [if_neg hu, if_neg fun hand => hu hand.1]
      | _ => rfl
  · show some ((Call.getUserPTS u).answer
      (Keyspace.exec db (Call.getUserPTS u).key.text (Call.getUserPTS u).op).2) = _
    rw [hkept.holds.reply, (run_op hkept.range (.getUserPTS u)).2]
    simp only [answer, MessageService.Counters.get, hn]
    by_cases hzero : n = 0
    · simp [hzero]
    · simp [hzero]

theorem numbers_in_order_sharedRun : ∃ db, RDB.system.run RDB.system.init sharedRun = some db ∧
    ∃ n : ℕ, RDB.system.observe (RDB.handedOut? "gateways") RDB.system.init sharedRun =
        ((List.range n).map fun i : ℕ => (i : Int) + 1) ∧
      RDB.answer? db (.call (.getUserPTS "gateways")) = some (.pts (.ok n)) := by
  obtain ⟨db, hdb⟩ : ∃ db, RDB.system.run RDB.system.init sharedRun = some db := ⟨_, rfl⟩
  exact ⟨db, hdb, numbers_in_order hdb "gateways"⟩

end Stores

end TinyTelegram
