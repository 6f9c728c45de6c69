import Mathlib.Data.List.Count
import Mathlib.Data.List.Nodup
import Mathlib.Logic.Function.Basic
import TinyTelegram.Lib.System

/-!
# Values made on demand

A map that any number of callers share.  A caller that finds no value under its key makes one, puts it into
the map, and goes on with the value it has made.  Reading the map is one step and writing it another, and the
value is made in between, so that several callers may miss a key and make a value each; the last one that is
put into the map stays there.

A value goes by its position in the list of all that were made.

* `made_of_handedOut`: what is handed out under a key was made for it.
* `count_made_le`: the values made for a key are no more than the callers that have missed it, and nobody
  misses a key that has a value.
* `nodup_made`: callers that take turns make one value for each key, which the key then keeps
  (`value_kept`).
-/

namespace OnDemand

open Lts

/-- What a caller is about. -/
inductive Phase (κ : Type*) where
  | idle
  /-- It has found no value under the key. -/
  | missed (k : κ)
  /-- It has made the value `v` for the key. -/
  | made (k : κ) (v : ℕ)

/-- The shared map, the keys of the values that were made, and the callers. -/
structure State (κ : Type*) where
  map : κ → Option ℕ
  made : List κ
  phase : ℕ → Phase κ

inductive Event (κ : Type*) where
  /-- Caller `n` looks for a value. -/
  | look (n : ℕ) (k : κ)
  /-- It makes one, or fails to. -/
  | make (n : ℕ) (ok : Bool)
  /-- It puts it into the map. -/
  | store (n : ℕ)

variable {κ : Type*}

namespace State

def setPhase (s : State κ) (n : ℕ) (p : Phase κ) : State κ :=
  { s with phase := Function.update s.phase n p }

/-- A value is made for the key. -/
def add (s : State κ) (k : κ) : State κ := { s with made := s.made ++ [k] }

/-- The value `v` is put into the map. -/
def put [DecidableEq κ] (s : State κ) (k : κ) (v : ℕ) : State κ :=
  { s with map := Function.update s.map k (some v) }

section Updates

variable (s : State κ) (n : ℕ) (p : Phase κ) (k : κ) (v : ℕ)

@[simp] theorem setPhase_map : (s.setPhase n p).map = s.map := rfl
@[simp] theorem setPhase_made : (s.setPhase n p).made = s.made := rfl
@[simp] theorem setPhase_phase : (s.setPhase n p).phase = Function.update s.phase n p := rfl
@[simp] theorem add_map : (s.add k).map = s.map := rfl
@[simp] theorem add_made : (s.add k).made = s.made ++ [k] := rfl
@[simp] theorem add_phase : (s.add k).phase = s.phase := rfl

variable [DecidableEq κ]

@[simp] theorem put_map : (s.put k v).map = Function.update s.map k (some v) := rfl
@[simp] theorem put_made : (s.put k v).made = s.made := rfl
@[simp] theorem put_phase : (s.put k v).phase = s.phase := rfl

end Updates

end State

/-- What was made remains so. -/
theorem getElem?_of_prefix {l l' : List κ} (h : l <+: l') {v : ℕ} {k : κ} (hv : l[v]? = some k) :
    l'[v]? = some k := by
  obtain ⟨l'', rfl⟩ := h
  obtain ⟨hlt, rfl⟩ := List.getElem?_eq_some_iff.mp hv
  rw [List.getElem?_append_left hlt, List.getElem?_eq_getElem hlt]

variable [DecidableEq κ]

/-- One event. -/
def step (s : State κ) : Event κ → Option (State κ)
  | .look n k =>
    match s.phase n, s.map k with
    | .idle, some _ => some s
    | .idle, none => some (s.setPhase n (.missed k))
    | _, _ => none
  | .make n ok =>
    match s.phase n with
    | .missed k =>
      some (if ok then (s.add k).setPhase n (.made k s.made.length)
        else s.setPhase n .idle)
    | _ => none
  | .store n =>
    match s.phase n with
    | .made k v => some ((s.put k v).setPhase n .idle)
    | _ => none

/-- An empty map. -/
def init : State κ where
  map := fun _ => none
  made := []
  phase := fun _ => .idle

def system (κ : Type*) [DecidableEq κ] : System (State κ) (Event κ) where
  init := init
  step := step

/-- The value that an event hands out, with the caller and the key. -/
def handsOut? (s : State κ) : Event κ → Option (ℕ × κ × ℕ)
  | .look n k => (s.map k).map fun v => (n, k, v)
  | .store n =>
    match s.phase n with
    | .made k v => some (n, k, v)
    | _ => none
  | .make _ _ => none

/-- The key that a caller misses. -/
def misses? (s : State κ) : Event κ → Option (ℕ × κ)
  | .look n k => if (s.map k).isNone then some (n, k) else none
  | _ => none

/-! ### Steps -/

/-- The effects of an event in the state `s`. -/
inductive Step (s : State κ) : Event κ → State κ → Prop where
  | hit {n k v} (hn : s.phase n = .idle) (hk : s.map k = some v) : Step s (.look n k) s
  | miss {n k} (hn : s.phase n = .idle) (hk : s.map k = none) :
      Step s (.look n k) (s.setPhase n (.missed k))
  | make {n k} (hn : s.phase n = .missed k) :
      Step s (.make n true)
        ((s.add k).setPhase n (.made k s.made.length))
  | fail {n k} (hn : s.phase n = .missed k) : Step s (.make n false) (s.setPhase n .idle)
  | store {n k v} (hn : s.phase n = .made k v) :
      Step s (.store n) ((s.put k v).setPhase n .idle)

/-- **Every step is one of the listed effects.** -/
theorem step_cases {s t : State κ} {e : Event κ} (h : (system κ).step s e = some t) : Step s e t := by
  change step s e = some t at h
  cases e with
  | look n k =>
    simp only [step] at h
    split at h
    · obtain rfl := Option.some.inj h
      exact .hit ‹_› ‹_›
    · obtain rfl := Option.some.inj h
      exact .miss ‹_› ‹_›
    · cases h
  | make n ok =>
    simp only [step] at h
    split at h
    · obtain rfl := Option.some.inj h
      cases ok with
      | true => exact .make ‹_›
      | false => exact .fail ‹_›
    · cases h
  | store n =>
    simp only [step] at h
    split at h
    · obtain rfl := Option.some.inj h
      exact .store ‹_›
    · cases h

/-! ### What was made -/

theorem prefix_made {s t : State κ} {e : Event κ} (h : Step s e t) : s.made <+: t.made := by
  cases h with
  | make hn => exact List.prefix_append ..
  | _ => exact List.prefix_rfl

/-- A value in the map or at hand was made for its key. -/
structure Inv (s : State κ) : Prop where
  map : ∀ k v, s.map k = some v → s.made[v]? = some k
  hand : ∀ n k v, s.phase n = .made k v → s.made[v]? = some k

theorem Inv.step {s t : State κ} {e : Event κ} (h : Inv s) (hstep : Step s e t) : Inv t := by
  -- a caller that moves on has nothing else at hand
  have hhand : ∀ {n : ℕ} {p : Phase κ} {m : ℕ} {k : κ} {v : ℕ}, (∀ k v, p ≠ .made k v) →
      Function.update s.phase n p m = .made k v → s.phase m = .made k v := by
    intro n p m k v hp hm
    rw [Function.update_apply] at hm
    split_ifs at hm
    · exact absurd hm (hp k v)
    · exact hm
  cases hstep with
  | hit hn hk => exact h
  | miss hn hk =>
    exact ⟨h.map, fun m k v hm => h.hand m k v (hhand (fun _ _ heq => by cases heq) hm)⟩
  | fail hn =>
    exact ⟨h.map, fun m k v hm => h.hand m k v (hhand (fun _ _ heq => by cases heq) hm)⟩
  | @make n k hn =>
    have hprefix : s.made <+: s.made ++ [k] := List.prefix_append ..
    refine ⟨fun k' v hv => getElem?_of_prefix hprefix (h.map k' v hv), fun m k' v hm => ?_⟩
    show (s.made ++ [k])[v]? = some k'
    rw [State.setPhase_phase, Function.update_apply] at hm
    split_ifs at hm with hmn
    · obtain ⟨rfl, rfl⟩ := Phase.made.inj hm
      exact List.getElem?_concat_length
    · exact getElem?_of_prefix hprefix (h.hand m k' v hm)
  | @store n k v hn =>
    constructor
    · intro k' v' hv'
      rw [State.setPhase_map, State.put_map, Function.update_apply] at hv'
      split_ifs at hv' with hk
      · obtain rfl := Option.some.inj hv'
        rw [hk]
        exact h.hand n k v hn
      · exact h.map k' v' hv'
    · exact fun m k' v' hm => h.hand m k' v' (hhand (fun _ _ heq => by cases heq) hm)

theorem inv {s : State κ} (h : (system κ).Reachable s) : Inv s :=
  System.invariant (S := system κ) (I := Inv) ⟨(fun _ _ h => by cases h), (fun _ _ _ h => by cases h)⟩
    (fun _ _ _ ih hstep => ih.step (step_cases hstep)) h

/-- **What is handed out under a key was made for it.** -/
theorem made_of_handedOut {es : List (Event κ)} {s : State κ}
    (h : (system κ).run init es = some s) {n : ℕ} {k : κ} {v : ℕ}
    (hout : (n, k, v) ∈ (system κ).observe handsOut? init es) : s.made[v]? = some k := by
  revert hout
  refine (system κ).run_induction (motive := fun es s =>
    (n, k, v) ∈ (system κ).observe handsOut? init es → s.made[v]? = some k) ?_ ?_ h
  · intro hout
    cases hout
  · intro es s e t hs ih hstep hout
    have hinv := inv ⟨es, hs⟩
    rw [System.observe_concat handsOut? hs, List.mem_append, Option.mem_toList] at hout
    have hnow : s.made[v]? = some k := by
      rcases hout with hold | hnew
      · exact ih hold
      · cases e with
        | look n' k' =>
          obtain ⟨v', hv', heq⟩ := Option.map_eq_some_iff.mp hnew
          obtain ⟨-, rfl, rfl⟩ : n' = n ∧ k' = k ∧ v' = v := by simpa using heq
          exact hinv.map k' v' hv'
        | make n' ok => cases hnew
        | store n' =>
          simp only [handsOut?] at hnew
          split at hnew
          · rename_i k' v' hn'
            obtain ⟨-, rfl, rfl⟩ : n' = n ∧ k' = k ∧ v' = v := by simpa using hnew
            exact hinv.hand n' k' v' hn'
          · cases hnew
    exact getElem?_of_prefix (prefix_made (step_cases hstep)) hnow

/-! ### How much is made -/

/-- A key that has a value keeps one. -/
theorem kept {s t : State κ} {es : List (Event κ)} (h : (system κ).run s es = some t) {k : κ}
    (hk : s.map k ≠ none) : t.map k ≠ none := by
  refine (system κ).run_induction (motive := fun _ t => t.map k ≠ none) hk ?_ h
  intro es u e t _ hu hstep
  cases step_cases hstep with
  | @store n k' v hn =>
    rw [State.setPhase_map, State.put_map, Function.update_apply]
    split_ifs
    · exact Option.some_ne_none v
    · exact hu
  | _ => exact hu

/-- While one value at most was made for each key, a key that has a value keeps it. -/
theorem value_kept {s t : State κ} {es : List (Event κ)} (hs : (system κ).Reachable s)
    (h : (system κ).run s es = some t) (hnodup : t.made.Nodup) {k : κ} {v : ℕ} (hk : s.map k = some v) :
    t.map k = some v := by
  obtain ⟨v', hv'⟩ := Option.ne_none_iff_exists'.mp (kept h (by rw [hk]; exact Option.some_ne_none v))
  have hprefix : s.made <+: t.made :=
    (system κ).run_rel (R := fun s t => s.made <+: t.made) (fun _ => List.prefix_rfl) .trans
      (fun _ _ _ hstep => prefix_made (step_cases hstep)) h
  have hold : t.made[v]? = some k := getElem?_of_prefix hprefix ((inv hs).map k v hk)
  have hnew : t.made[v']? = some k := (inv (hs.run h)).map k v' hv'
  obtain ⟨hlt, -⟩ := List.getElem?_eq_some_iff.mp hold
  rw [hv', (List.getElem?_inj hlt hnodup).mp (hold.trans hnew.symm)]

/-- Whether a caller has missed the key and made nothing yet. -/
def Phase.owes (k : κ) : Phase κ → ℕ
  | .missed k' => if k' = k then 1 else 0
  | _ => 0

@[simp] theorem owes_idle (k : κ) : (Phase.idle).owes k = 0 := rfl
@[simp] theorem owes_missed (k k' : κ) : (Phase.missed k').owes k = if k' = k then 1 else 0 := rfl
@[simp] theorem owes_made (k k' : κ) (v : ℕ) : (Phase.made k' v).owes k = 0 := rfl

/-- The caller that makes a value, and the key that it is for. -/
def makes? (s : State κ) : Event κ → Option (ℕ × κ)
  | .make n true =>
    match s.phase n with
    | .missed k => some (n, k)
    | _ => none
  | _ => none

/-- The values are made for the keys in `made`. -/
theorem made_eq {es : List (Event κ)} {s : State κ} (h : (system κ).run init es = some s) :
    s.made = ((system κ).observe makes? init es).map Prod.snd := by
  refine (system κ).run_induction
    (motive := fun es s => s.made = ((system κ).observe makes? init es).map Prod.snd) rfl ?_ h
  intro es s e t hs ih hstep
  rw [System.observe_concat makes? hs, List.map_append, ← ih]
  cases step_cases hstep with
  | make hn =>
    simp only [makes?, hn]
    rfl
  | _ => exact (List.append_nil _).symm

/-- One event: a caller that misses a key may make a value for it later, once. -/
theorem owes_step {s t : State κ} {e : Event κ} (h : Step s e t) (n : ℕ) (k : κ) :
    (makes? s e).toList.count (n, k) + (t.phase n).owes k ≤
      (s.phase n).owes k + (misses? s e).toList.count (n, k) := by
  have hupdate : ∀ m p, (Function.update s.phase m p n).owes k =
      if n = m then p.owes k else (s.phase n).owes k := by
    intro m p
    rw [Function.update_apply]
    split_ifs <;> rfl
  have hcount : ∀ (m : ℕ) (k' : κ), (some (m, k')).toList.count (n, k) =
      if n = m ∧ k' = k then 1 else 0 := by
    intro m k'
    rw [Option.toList_some, List.count_singleton]
    congr 1
    rw [beq_iff_eq, Prod.mk.injEq, eq_iff_iff, eq_comm (a := n)]
  have hnone : (none : Option (ℕ × κ)).toList.count (n, k) = 0 := rfl
  cases h with
  | hit hn hk =>
    simp only [makes?, misses?, hk, Option.isNone_some, Bool.false_eq_true, if_false, hnone]
    omega
  | @miss m k' hn hk =>
    simp only [makes?, misses?, hk, Option.isNone_none, if_true, hnone, hcount, State.setPhase_phase,
      hupdate, owes_missed]
    by_cases hm : n = m
    · subst hm
      simp only [true_and, if_true]
      omega
    · rw [if_neg hm, if_neg fun hmk => hm hmk.1]
      omega
  | @make m k' hn =>
    simp only [makes?, misses?, hn, hnone, hcount, State.setPhase_phase, State.add_phase, hupdate,
      owes_made]
    by_cases hm : n = m
    · subst hm
      simp only [true_and, if_true, hn, owes_missed]
      omega
    · rw [if_neg hm, if_neg fun hmk => hm hmk.1]
      omega
  | @fail m k' hn =>
    simp only [makes?, misses?, hnone, State.setPhase_phase, hupdate, owes_idle]
    split_ifs <;> omega
  | @store m k' v hn =>
    simp only [makes?, misses?, hnone, State.setPhase_phase, State.put_phase, hupdate, owes_idle]
    split_ifs <;> omega

/-- **A caller makes no more values for a key than it has missed it.** -/
theorem count_makes_le {es : List (Event κ)} {s : State κ} (h : (system κ).run init es = some s)
    (n : ℕ) (k : κ) :
    ((system κ).observe makes? init es).count (n, k) + (s.phase n).owes k ≤
      ((system κ).observe misses? init es).count (n, k) := by
  refine (system κ).run_induction (motive := fun es s =>
    ((system κ).observe makes? init es).count (n, k) + (s.phase n).owes k ≤
      ((system κ).observe misses? init es).count (n, k)) (le_of_eq rfl) ?_ h
  intro es s e t hs ih hstep
  rw [System.observe_concat makes? hs, System.observe_concat misses? hs, List.count_append,
    List.count_append]
  have hone := owes_step (step_cases hstep) n k
  omega

/-- Nobody misses a key that has a value. -/
theorem misses_of_kept {s : State κ} {k : κ} (hk : s.map k ≠ none) {es : List (Event κ)} {t : State κ}
    (h : (system κ).run s es = some t) :
    ((system κ).observe misses? s es).countP (fun a => a.2 = k) = 0 := by
  refine (system κ).run_induction (motive := fun es _ =>
    ((system κ).observe misses? s es).countP (fun a => a.2 = k) = 0) rfl ?_ h
  intro es u e v hu ih hstep
  rw [System.observe_concat misses? hu, List.countP_append, ih, Nat.zero_add]
  have huk := kept hu hk
  cases e with
  | look n k' =>
    by_cases hkk : k' = k
    · subst hkk
      obtain ⟨x, hx⟩ := Option.ne_none_iff_exists'.mp huk
      simp [misses?, hx]
    · cases hmap : u.map k' with
      | none => simp [misses?, hmap, hkk]
      | some x => simp [misses?, hmap]
  | _ => rfl

/-- **Few values are made.**  The values that are ever made for a key that has a value by the end of `pre`
are no more than the callers that have missed it in `pre`. -/
theorem count_made_le {pre es : List (Event κ)} {s t : State κ} (hpre : (system κ).run init pre = some s)
    (h : (system κ).run s es = some t) {k : κ} (hk : s.map k ≠ none) :
    t.made.count k ≤ ((system κ).observe misses? init pre).countP (fun a => a.2 = k) := by
  have hrun : (system κ).run init (pre ++ es) = some t := (System.run_append ..).mpr ⟨s, hpre, h⟩
  have hsubperm : ((system κ).observe makes? init (pre ++ es)).Subperm
      ((system κ).observe misses? init (pre ++ es)) := by
    rw [List.subperm_ext_iff]
    rintro ⟨n, k'⟩ -
    exact (Nat.le_add_right ..).trans (count_makes_le hrun n k')
  have hcount : t.made.count k =
      ((system κ).observe makes? init (pre ++ es)).countP (fun a => a.2 = k) := by
    rw [made_eq hrun, List.count, List.countP_map]
    congr 1
  have hmisses : ((system κ).observe misses? init (pre ++ es)).countP (fun a => a.2 = k) =
      ((system κ).observe misses? init pre).countP (fun a => a.2 = k) := by
    rw [System.observe_append misses? hpre h, List.countP_append, misses_of_kept hk h, Nat.add_zero]
  rw [hcount, ← hmisses]
  exact hsubperm.countP_le _

/-! ### Callers that take turns -/

/-- The key that a caller is busy with. -/
def Phase.key? : Phase κ → Option κ
  | .idle => none
  | .missed k => some k
  | .made k _ => some k

/-- Nobody looks a key up while another caller is busy with it. -/
def TakesTurns (s : State κ) : Event κ → Prop
  | .look n k => ∀ m, m ≠ n → (s.phase m).key? ≠ some k
  | _ => True

/-- A key that something was made for is in the map or about to be, and no two callers are busy with one. -/
structure TurnsInv (s : State κ) : Prop where
  nodup : s.made.Nodup
  settled : ∀ k ∈ s.made, s.map k ≠ none ∨ ∃ n v, s.phase n = .made k v
  fresh : ∀ n k, s.phase n = .missed k → k ∉ s.made
  one : ∀ m n k, (s.phase m).key? = some k → (s.phase n).key? = some k → m = n

theorem TurnsInv.step {s t : State κ} {e : Event κ} (h : TurnsInv s) (hturns : TakesTurns s e)
    (hstep : Step s e t) : TurnsInv t := by
  -- a caller that is busy with what it was busy with before, or with nothing, is in nobody's way
  have hone : ∀ {n : ℕ} {p : Phase κ}, (∀ k, p.key? = some k → (s.phase n).key? = some k) →
      ∀ m m' k, (Function.update s.phase n p m).key? = some k →
        (Function.update s.phase n p m').key? = some k → m = m' := by
    intro n p hp m m' k hm hm'
    have hbusy : ∀ {m : ℕ}, (Function.update s.phase n p m).key? = some k →
        (s.phase m).key? = some k := by
      intro m hm
      rw [Function.update_apply] at hm
      split_ifs at hm with hmn
      · rw [hmn]
        exact hp k hm
      · exact hm
    exact h.one m m' k (hbusy hm) (hbusy hm')
  have hmissed : ∀ {n m : ℕ} {p : Phase κ} {k : κ}, (∀ k, p ≠ .missed k) →
      Function.update s.phase n p m = .missed k → m ≠ n ∧ s.phase m = .missed k := by
    intro n m p k hp hm
    rw [Function.update_apply] at hm
    split_ifs at hm with hmn
    · exact absurd hm (hp k)
    · exact ⟨hmn, hm⟩
  have hsettled : ∀ {n : ℕ} {p : Phase κ} {k : κ}, (∀ v, s.phase n ≠ .made k v) → k ∈ s.made →
      s.map k ≠ none ∨ ∃ m v, Function.update s.phase n p m = .made k v := by
    intro n p k hn hk
    rcases h.settled k hk with hmap | ⟨m, v, hm⟩
    · exact .inl hmap
    · have hmn : m ≠ n := fun hmn => hn v (hmn ▸ hm)
      exact .inr ⟨m, v, by rw [Function.update_of_ne hmn, hm]⟩
  cases hstep with
  | hit hn hk => exact h
  | @miss n k hn hk =>
    have hk' : k ∉ s.made := by
      intro hmem
      rcases h.settled k hmem with hmap | ⟨m, v, hm⟩
      · exact hmap hk
      · have hmn : m ≠ n := by
          rintro rfl
          rw [hn] at hm
          cases hm
        exact hturns m hmn (by rw [hm]; rfl)
    refine ⟨h.nodup, fun k' hk' => ?_, fun m k' hm => ?_, fun m m' k' hm hm' => ?_⟩
    · exact hsettled (fun v hv => by rw [hn] at hv; cases hv) hk'
    · rw [State.setPhase_phase, Function.update_apply] at hm
      split_ifs at hm with hmn
      · obtain rfl := Phase.missed.inj hm
        exact hk'
      · exact h.fresh m k' hm
    · rw [State.setPhase_phase, Function.update_apply] at hm hm'
      split_ifs at hm hm' with hmn hmn' hmn'
      · rw [hmn, hmn']
      · obtain rfl := Option.some.inj hm
        exact absurd hm' (hturns m' hmn')
      · obtain rfl := Option.some.inj hm'
        exact absurd hm (hturns m hmn)
      · exact h.one m m' k' hm hm'
  | @make n k hn =>
    have hkey : ∀ k', (Phase.made k s.made.length).key? = some k' → (s.phase n).key? = some k' := by
      intro k' hk'
      rw [hn]
      exact hk'
    refine ⟨?_, fun k' hk' => ?_, fun m k' hm => ?_, hone hkey⟩
    · show (s.made ++ [k]).Nodup
      exact (List.nodup_append_comm.mpr (List.nodup_cons.mpr ⟨h.fresh n k hn, h.nodup⟩))
    · change k' ∈ s.made ++ [k] at hk'
      rcases List.mem_append.mp hk' with hold | hnew
      · exact hsettled (fun v hv => by rw [hn] at hv; cases hv) hold
      · obtain rfl := List.mem_singleton.mp hnew
        exact .inr ⟨n, s.made.length, Function.update_self ..⟩
    · obtain ⟨hmn, hbusy⟩ := hmissed (fun _ heq => by cases heq) hm
      show k' ∉ s.made ++ [k]
      rw [List.mem_append, List.mem_singleton, not_or]
      refine ⟨h.fresh m k' hbusy, ?_⟩
      rintro rfl
      exact hmn (h.one m n k' (by rw [hbusy]; rfl) (by rw [hn]; rfl))
  | @fail n k hn =>
    refine ⟨h.nodup, fun k' hk' => ?_, fun m k' hm => ?_, hone fun _ heq => by cases heq⟩
    · exact hsettled (fun v hv => by rw [hn] at hv; cases hv) hk'
    · exact h.fresh m k' (hmissed (fun _ heq => by cases heq) hm).2
  | @store n k v hn =>
    refine ⟨h.nodup, fun k' hk' => ?_, fun m k' hm => ?_, hone fun _ heq => by cases heq⟩
    · rw [State.setPhase_map, State.put_map, Function.update_apply]
      split_ifs with hkk
      · exact .inl (Option.some_ne_none v)
      · refine hsettled (fun v' hv' => ?_) hk'
        rw [hn] at hv'
        exact hkk (Phase.made.inj hv').1.symm
    · exact h.fresh m k' (hmissed (fun _ heq => by cases heq) hm).2

/-- **Callers that take turns make one value for each key.** -/
theorem nodup_made {es : List (Event κ)} {s : State κ} (h : (system κ).run init es = some s)
    (hturns : (system κ).Meets TakesTurns init es) : s.made.Nodup :=
  (System.invariant_of_meets (S := system κ) (I := TurnsInv)
    ⟨List.nodup_nil, (fun _ h => by cases h), (fun _ _ h => by cases h), (fun _ _ _ h => by cases h)⟩
    (fun _ _ _ ih hturn hstep => ih.step hturn (step_cases hstep)) h hturns).nodup

end OnDemand
