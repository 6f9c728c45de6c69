import TinyTelegram.Gateway.Registry

/-!
# What the registry can do

`Step` lists the effects of an event with what each requires, and `step_cases` says that the registry
takes no other steps.  In every state reached a channel in `connMap` is open and was made by a
connection of its user (`inv`), so no channel is closed twice.  With nothing in between, the two steps
of a delivery are the source's `DeliverLocal` (`run_deliverLocal`).
-/

namespace TinyTelegram.Gateway

namespace Registry

/-! ### Steps -/

/-- The effects of an event in the state `s`. -/
inductive Step (s : State) : Event → State → Prop where
  | register {c u} (hc : s.conns c = .fresh) :
      Step s (.register c u) ((registerConn s u c).setConn c (.registered u))
  | hangUp {c u} (hc : s.conns c = .registered u) (hd : s.delivering (.readLoop c) = none) :
      Step s (.hangUp c) (s.setConn c (.closing u))
  | unregisterNone {c u} (hc : s.conns c = .closing u) (hu : s.connMap u = none) :
      Step s (.unregister c) (s.setConn c (.unregistered u))
  | unregisterSome {c u ch} (hc : s.conns c = .closing u) (hu : s.connMap u = some ch) :
      Step s (.unregister c) ((s.drop u ch c).setConn c (.unregistered u))
  | lookup {caller receiverID msg} (hready : ready s caller) :
      Step s (.lookup caller receiverID msg) (lookup s caller receiverID msg)
  | deliver {caller ch msg} (hd : s.delivering caller = some (ch, msg))
      (hopen : (s.chans ch).closedBy = none) (hroom : (s.chans ch).buf.length < capacity) :
      Step s (.send caller) ((s.setBuf ch ((s.chans ch).buf ++ [msg])).setDelivering caller none)
  | full {caller ch msg} (hd : s.delivering caller = some (ch, msg))
      (hopen : (s.chans ch).closedBy = none) (hfull : ¬ (s.chans ch).buf.length < capacity) :
      Step s (.send caller) (s.setDelivering caller none)
  | panic {caller ch msg} (hd : s.delivering caller = some (ch, msg))
      (hclosed : (s.chans ch).closedBy ≠ none) :
      Step s (.send caller) ((unwind (s.setDelivering caller none) caller).addPanic caller)
  | receive {c m buf} (hbuf : (s.chans c).buf = m :: buf) : Step s (.receive c) (s.setBuf c buf)

/-- The steps of a send are `Step.deliver`, `Step.full` and `Step.panic`. -/
theorem send_step {s : State} {caller : Caller} {ch : ConnId} {msg : PersistedMessage}
    (hd : s.delivering caller = some (ch, msg)) :
    Step s (.send caller) (finishSend caller (send s ch msg)) := by
  unfold send
  split_ifs with hclosed hroom
  · exact .panic hd (Option.isSome_iff_ne_none.mp hclosed)
  · exact .deliver hd (by simpa using hclosed) hroom
  · exact .full hd (by simpa using hclosed) hroom

/-- **Every step of the registry is one of the listed effects**, taken by a process that is alive. -/
theorem step_cases {s t : State} {e : Event} (h : registry.step s e = some t) :
    s.crashed = false ∧ Step s e t := by
  have halive : s.crashed = false ∧ stepAlive s e = some t := by
    have h' : (if s.crashed then none else stepAlive s e) = some t := h
    split_ifs at h' with hcrashed
    exact ⟨by simpa using hcrashed, h'⟩
  refine ⟨halive.1, ?_⟩
  have h := halive.2
  cases e with
  | register c u =>
    simp only [stepAlive] at h
    split at h
    · rename_i hc
      obtain rfl := Option.some.inj h
      exact .register hc
    · cases h
  | hangUp c =>
    simp only [stepAlive] at h
    split at h
    · rename_i u hc hd
      obtain rfl := Option.some.inj h
      exact .hangUp hc hd
    · cases h
  | unregister c =>
    simp only [stepAlive] at h
    split at h
    · rename_i u hc
      obtain rfl := Option.some.inj h
      unfold unregisterConn
      split
      · rename_i ch hu
        exact .unregisterSome hc hu
      · rename_i hu
        exact .unregisterNone hc hu
    · cases h
  | lookup caller receiverID msg =>
    simp only [stepAlive] at h
    split_ifs at h with hready
    obtain rfl := Option.some.inj h
    exact .lookup hready
  | send caller =>
    obtain ⟨⟨ch, msg⟩, hd, rfl⟩ := Option.map_eq_some_iff.mp h
    exact send_step hd
  | receive c =>
    simp only [stepAlive] at h
    split at h
    · cases h
    · rename_i m buf hbuf
      obtain rfl := Option.some.inj h
      exact .receive hbuf

/-! ### What the updates do -/

section Updates

variable (s : State) (c ch k : ConnId) (u : String) (buf : List PersistedMessage) (caller : Caller)

@[simp] theorem registerConn_connMap :
    (registerConn s u c).connMap = Function.update s.connMap u (some c) := rfl

@[simp] theorem setBuf_closedBy : ((s.setBuf c buf).chans k).closedBy = (s.chans k).closedBy := by
  show (Function.update s.chans c { s.chans c with buf := buf } k).closedBy = _
  by_cases hk : k = c
  · subst hk
    rw [Function.update_self]
  · rw [Function.update_of_ne hk]

@[simp] theorem drop_conns : (s.drop u ch c).conns = s.conns := rfl

@[simp] theorem drop_connMap :
    (s.drop u ch c).connMap = Function.update s.connMap u none := rfl

@[simp] theorem drop_delivering : (s.drop u ch c).delivering = s.delivering := rfl

@[simp] theorem drop_panics : (s.drop u ch c).panics = s.panics := rfl

theorem drop_closedBy :
    ((s.drop u ch c).chans k).closedBy = if k = ch then some c else (s.chans k).closedBy := by
  show (Function.update s.chans ch { s.chans ch with closedBy := some c } k).closedBy = _
  by_cases hk : k = ch
  · subst hk
    rw [Function.update_self, if_pos rfl]
  · rw [Function.update_of_ne hk, if_neg hk]

@[simp] theorem unwind_connMap : (unwind s caller).connMap = s.connMap := by
  unfold unwind
  split
  · split <;> rfl
  · rfl

@[simp] theorem unwind_chans : (unwind s caller).chans = s.chans := by
  unfold unwind
  split
  · split <;> rfl
  · rfl

@[simp] theorem unwind_delivering : (unwind s caller).delivering = s.delivering := by
  unfold unwind
  split
  · split <;> rfl
  · rfl

@[simp] theorem unwind_panics : (unwind s caller).panics = s.panics := by
  unfold unwind
  split
  · split <;> rfl
  · rfl

/-- A panic ends a read loop; it does not change whose connection it is. -/
theorem unwind_user : ((unwind s caller).conns k).user? = (s.conns k).user? := by
  unfold unwind
  split
  · rename_i c
    split
    · rename_i u hc
      rw [State.setConn_conns, Function.update_apply]
      split_ifs with hk
      · rw [hk, hc]
        rfl
      · rfl
    · rfl
  · rfl

theorem setDelivering_cancel (h : s.delivering caller = none)
    (d : Option (ConnId × PersistedMessage)) :
    (s.setDelivering caller d).setDelivering caller none = s := by
  show ({ s with
    delivering := Function.update (Function.update s.delivering caller d) caller none } : State) = s
  rw [Function.update_idem, ← h, Function.update_eq_self]

end Updates

/-! ### The invariant -/

/-- What holds of the registry in every state reached. -/
structure Inv (s : State) : Prop where
  /-- A channel in `connMap` was made by a connection of its user. -/
  owner : ∀ u ch, s.connMap u = some ch → (s.conns ch).user? = some u
  /-- A channel in `connMap` is open. -/
  mapOpen : ∀ u ch, s.connMap u = some ch → (s.chans ch).closedBy = none
  /-- The channel of a connection that is not open yet is open and empty. -/
  freshOpen : ∀ c, s.conns c = .fresh → (s.chans c).closedBy = none
  /-- Only a running read loop delivers. -/
  busy : ∀ c d, s.delivering (.readLoop c) = some d → ∃ u, s.conns c = .registered u

/-- A step that leaves `connMap`, the users of the connections and the closed channels alone. -/
theorem Inv.congr {s t : State} (h : Inv s) (hmap : t.connMap = s.connMap)
    (huser : ∀ c, (t.conns c).user? = (s.conns c).user?)
    (hclosed : ∀ c, (t.chans c).closedBy = (s.chans c).closedBy)
    (hbusy : ∀ c d, t.delivering (.readLoop c) = some d → ∃ u, t.conns c = .registered u) :
    Inv t where
  owner u ch hu := by rw [huser]; exact h.owner u ch (hmap ▸ hu)
  mapOpen u ch hu := by rw [hclosed]; exact h.mapOpen u ch (hmap ▸ hu)
  freshOpen c hc := by
    rw [hclosed]
    apply h.freshOpen
    have huser' := huser c
    rw [hc] at huser'
    cases hs : s.conns c with
    | fresh => rfl
    | _ => rw [hs] at huser'; cases huser'
  busy := hbusy

theorem inv_init : Inv init where
  owner u ch hu := by cases hu
  mapOpen u ch hu := by cases hu
  freshOpen c _ := rfl
  busy c d hd := by cases hd

theorem Inv.register {s : State} (h : Inv s) {c : ConnId} {u : String} (hc : s.conns c = .fresh) :
    Inv ((registerConn s u c).setConn c (.registered u)) := by
  have hmap : ∀ u' ch, ((registerConn s u c).setConn c (.registered u)).connMap u' = some ch →
      u' = u ∧ ch = c ∨ s.connMap u' = some ch ∧ ch ≠ c := by
    intro u' ch hu'
    rw [State.setConn_connMap, registerConn_connMap, Function.update_apply] at hu'
    split_ifs at hu' with heq
    · exact Or.inl ⟨heq, (Option.some.inj hu').symm⟩
    · refine Or.inr ⟨hu', ?_⟩
      rintro rfl
      have howner := h.owner u' ch hu'
      rw [hc] at howner
      cases howner
  constructor
  · intro u' ch hu'
    rcases hmap u' ch hu' with ⟨rfl, rfl⟩ | ⟨hs, hne⟩
    · rw [State.setConn_conns, Function.update_self]
      rfl
    · rw [State.setConn_conns, Function.update_of_ne hne]
      exact h.owner u' ch hs
  · intro u' ch hu'
    rcases hmap u' ch hu' with ⟨rfl, rfl⟩ | ⟨hs, -⟩
    · exact h.freshOpen ch hc
    · exact h.mapOpen u' ch hs
  · intro c' hc'
    rw [State.setConn_conns, Function.update_apply] at hc'
    split_ifs at hc'
    exact h.freshOpen c' hc'
  · intro c' d hd
    have hne : c' ≠ c := by
      rintro rfl
      obtain ⟨u', hu'⟩ := h.busy c' d hd
      rw [hc] at hu'
      cases hu'
    rw [State.setConn_conns, Function.update_of_ne hne]
    exact h.busy c' d hd

theorem Inv.unregister {s : State} (h : Inv s) {c ch : ConnId} {u : String}
    (hc : s.conns c = .closing u) (hu : s.connMap u = some ch) :
    Inv ((s.drop u ch c).setConn c (.unregistered u)) := by
  have huser : ∀ k, (((s.drop u ch c).setConn c (.unregistered u)).conns k).user? =
      (s.conns k).user? := by
    intro k
    rw [State.setConn_conns, drop_conns, Function.update_apply]
    split_ifs with hk
    · rw [hk, hc]
      rfl
    · rfl
  have hmap : ∀ u' ch', ((s.drop u ch c).setConn c (.unregistered u)).connMap u' = some ch' →
      s.connMap u' = some ch' ∧ ch' ≠ ch := by
    intro u' ch' hu'
    rw [State.setConn_connMap, drop_connMap, Function.update_apply] at hu'
    split_ifs at hu' with heq
    refine ⟨hu', ?_⟩
    rintro rfl
    -- the channel of `u` has no other user
    have howner := h.owner u ch' hu
    rw [h.owner u' ch' hu'] at howner
    exact heq (Option.some.inj howner)
  constructor
  · intro u' ch' hu'
    rw [huser]
    exact h.owner u' ch' (hmap u' ch' hu').1
  · intro u' ch' hu'
    obtain ⟨hs, hne⟩ := hmap u' ch' hu'
    rw [State.setConn_chans, drop_closedBy, if_neg hne]
    exact h.mapOpen u' ch' hs
  · intro k hk
    have hfresh : s.conns k = .fresh := by
      rw [State.setConn_conns, drop_conns, Function.update_apply] at hk
      split_ifs at hk
      exact hk
    have hne : k ≠ ch := by
      rintro rfl
      have howner := h.owner u k hu
      rw [hfresh] at howner
      cases howner
    rw [State.setConn_chans, drop_closedBy, if_neg hne]
    exact h.freshOpen k hfresh
  · intro k d hd
    have hne : k ≠ c := by
      rintro rfl
      obtain ⟨u', hu'⟩ := h.busy k d hd
      rw [hc] at hu'
      cases hu'
    rw [State.setConn_conns, drop_conns, Function.update_of_ne hne]
    exact h.busy k d hd

/-- The read loop of a connection that is torn down delivers nothing. -/
theorem Inv.not_busy {s : State} (h : Inv s) {c k : ConnId} {u : String} (hc : s.conns c = .closing u)
    {d : ConnId × PersistedMessage} (hd : s.delivering (.readLoop k) = some d) : k ≠ c := by
  rintro rfl
  obtain ⟨u', hu'⟩ := h.busy k d hd
  rw [hc] at hu'
  cases hu'

/-- A connection has the user it was registered with. -/
theorem user?_step {s t : State} {e : Event} (hstep : registry.step s e = some t) {k : ConnId}
    {u : String} (h : (t.conns k).user? = some u) :
    (s.conns k).user? = some u ∨ e = .register k u := by
  -- the connection `c` moves on
  have hmove : ∀ {c conn}, conn.user? = (s.conns c).user? →
      (Function.update s.conns c conn k).user? = some u → (s.conns k).user? = some u := by
    intro c conn hconn hk
    rw [Function.update_apply] at hk
    split_ifs at hk with hkc
    · rw [hkc, ← hconn, hk]
    · exact hk
  obtain ⟨-, hstep⟩ := step_cases hstep
  cases hstep with
  | @register c u' hc =>
    rw [State.setConn_conns, Function.update_apply] at h
    split_ifs at h with hkc
    · obtain rfl := Option.some.inj h
      exact Or.inr (hkc ▸ rfl)
    · exact Or.inl h
  | hangUp hc hd => exact Or.inl (hmove (by rw [hc]; rfl) h)
  | unregisterNone hc hu => exact Or.inl (hmove (by rw [hc]; rfl) h)
  | unregisterSome hc hu => exact Or.inl (hmove (by rw [hc]; rfl) h)
  | lookup hready => exact Or.inl h
  | deliver hd hopen hroom => exact Or.inl h
  | full hd hopen => exact Or.inl h
  | panic hd hclosed =>
    rw [State.addPanic_conns, unwind_user] at h
    exact Or.inl h
  | receive hbuf => exact Or.inl h

/-- A connection keeps the user it was registered with. -/
theorem user?_mono {s t : State} {e : Event} (hstep : registry.step s e = some t) {k : ConnId}
    {u : String} (h : (s.conns k).user? = some u) : (t.conns k).user? = some u := by
  -- the connection `c` moves on
  have hmove : ∀ {c conn}, conn.user? = (s.conns c).user? →
      (Function.update s.conns c conn k).user? = some u := by
    intro c conn hconn
    rw [Function.update_apply]
    split_ifs with hkc
    · rw [hconn, ← hkc, h]
    · exact h
  obtain ⟨-, hstep⟩ := step_cases hstep
  cases hstep with
  | @register c u' hc =>
    have hkc : k ≠ c := by
      rintro rfl
      rw [hc] at h
      cases h
    rw [State.setConn_conns, Function.update_of_ne hkc]
    exact h
  | hangUp hc hd => exact hmove (by rw [hc]; rfl)
  | unregisterNone hc hu => exact hmove (by rw [hc]; rfl)
  | unregisterSome hc hu => exact hmove (by rw [hc]; rfl)
  | panic hd hclosed =>
    rw [State.addPanic_conns, unwind_user]
    exact h
  | _ => exact h

/-- **One step** keeps the invariant. -/
theorem Inv.step {s t : State} {e : Event} (h : Inv s) (hstep : registry.step s e = some t) :
    Inv t := by
  obtain ⟨-, hstep⟩ := step_cases hstep
  -- the users of the connections when one moves on
  have huser : ∀ {c conn}, conn.user? = (s.conns c).user? →
      ∀ k, (Function.update s.conns c conn k).user? = (s.conns k).user? := by
    intro c conn hconn k
    rw [Function.update_apply]
    split_ifs with hk
    · rw [hk, hconn]
    · rfl
  -- the deliveries when one is over
  have hover : ∀ {caller k d}, Function.update s.delivering caller none (.readLoop k) = some d →
      Caller.readLoop k ≠ caller ∧ s.delivering (.readLoop k) = some d := by
    intro caller k d hd
    rw [Function.update_apply] at hd
    split_ifs at hd with hk
    exact ⟨hk, hd⟩
  cases hstep with
  | register hc => exact h.register hc
  | @hangUp c u hc hd =>
    refine h.congr rfl (huser (by rw [hc]; rfl)) (fun _ => rfl) fun k d hk => ?_
    have hne : k ≠ c := by
      rintro rfl
      rw [State.setConn_delivering, hd] at hk
      cases hk
    rw [State.setConn_conns, Function.update_of_ne hne]
    exact h.busy k d hk
  | @unregisterNone c u hc hu =>
    refine h.congr rfl (huser (by rw [hc]; rfl)) (fun _ => rfl) fun k d hk => ?_
    rw [State.setConn_conns, Function.update_of_ne (h.not_busy hc hk)]
    exact h.busy k d hk
  | unregisterSome hc hu => exact h.unregister hc hu
  | @lookup caller receiverID msg hready =>
    refine h.congr rfl (fun _ => rfl) (fun _ => rfl) fun k d hk => ?_
    rw [lookup, State.setDelivering_delivering, Function.update_apply] at hk
    split_ifs at hk with hcaller
    · subst hcaller
      simp only [ready, Bool.and_eq_true] at hready
      show ∃ u, s.conns k = .registered u
      cases hc : s.conns k with
      | registered u => exact ⟨u, rfl⟩
      | _ => rw [hc] at hready; cases hready.1
    · exact h.busy k d hk
  | deliver hd hopen hroom =>
    refine h.congr rfl (fun _ => rfl) (fun _ => setBuf_closedBy ..) fun k d hk => ?_
    exact h.busy k d (hover hk).2
  | full hd hopen =>
    refine h.congr rfl (fun _ => rfl) (fun _ => rfl) fun k d hk => ?_
    exact h.busy k d (hover hk).2
  | @panic caller ch msg hd hclosed =>
    refine h.congr (unwind_connMap ..) (fun _ => unwind_user ..)
      (fun _ => by rw [State.addPanic_chans, unwind_chans]; rfl) fun k d hk => ?_
    rw [State.addPanic_delivering, unwind_delivering] at hk
    obtain ⟨hne, hk⟩ := hover hk
    obtain ⟨u, hu⟩ := h.busy k d hk
    refine ⟨u, ?_⟩
    show (unwind (s.setDelivering caller none) caller).conns k = .registered u
    unfold unwind
    split
    · rename_i c
      split
      · rw [State.setConn_conns, Function.update_of_ne (fun heq => hne (congrArg _ heq))]
        exact hu
      · exact hu
    · exact hu
  | receive hbuf =>
    exact h.congr rfl (fun _ => rfl) (fun _ => setBuf_closedBy ..) fun k d hk => h.busy k d hk

/-- The invariant holds in every state reached. -/
theorem inv {s : State} (h : registry.Reachable s) : Inv s :=
  Lts.System.invariant inv_init (fun _ _ _ hs hstep => hs.step hstep) h

/-- With nothing in between, the two steps of an RPC's `DeliverLocal` are `deliverLocal`. -/
theorem run_deliverLocal {s : State} (h : registry.Reachable s) (halive : s.crashed = false)
    {n : RpcId} (hn : s.delivering (.rpc n) = none) {receiverID : String} {ch : ConnId}
    (hch : s.connMap receiverID = some ch) (msg : PersistedMessage) :
    registry.run s [.lookup (.rpc n) receiverID msg, .send (.rpc n)] =
      some (deliverLocal s receiverID msg).1 := by
  have hopen : (s.chans ch).closedBy = none := (inv h).mapOpen receiverID ch hch
  have hready : ready s (.rpc n) = true := Option.isNone_iff_eq_none.mpr hn
  have hlookup : registry.step s (.lookup (.rpc n) receiverID msg) =
      some (s.setDelivering (.rpc n) (some (ch, msg))) := by
    show (if s.crashed then none else stepAlive s _) = _
    rw [halive, if_neg Bool.false_ne_true, stepAlive, if_pos hready, lookup, hch]
    rfl
  refine (Lts.System.run_cons ..).mpr ⟨_, hlookup, (Lts.System.run_cons ..).mpr ⟨_, ?_, rfl⟩⟩
  show (if s.crashed then none else stepAlive (s.setDelivering (.rpc n) (some (ch, msg))) _) = _
  rw [halive, if_neg Bool.false_ne_true, stepAlive, State.setDelivering_delivering,
    Function.update_self, Option.map_some, deliverLocal, hch]
  show some (finishSend _ (send _ ch msg)) = some (send s ch msg).1
  by_cases hroom : (s.chans ch).buf.length < capacity
  · simp only [send, State.setDelivering_chans, hopen, Option.isSome_none, Bool.false_eq_true,
      if_false, hroom, if_true]
    exact congrArg some (setDelivering_cancel (s.setBuf ch ((s.chans ch).buf ++ [msg])) _ hn _)
  · simp only [send, State.setDelivering_chans, hopen, Option.isSome_none, Bool.false_eq_true,
      if_false, hroom]
    exact congrArg some (setDelivering_cancel s _ hn _)

end Registry

end TinyTelegram.Gateway
