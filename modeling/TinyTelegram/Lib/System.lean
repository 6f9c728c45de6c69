import Mathlib.Data.List.Infix
import Mathlib.Order.Basic
import Mathlib.Tactic.Common

/-!
# Guarded transition systems

A system is an initial state and an executable step function: `step s e` is `some t` when event
`e` is enabled in `s` and leads to `t`, and `none` when it is not enabled.  All nondeterminism of
the modelled program (scheduling, the outcome of a remote call, what the environment does) is in
the events, so a run is a list of events and every schedule is one.

* `run_induction` is induction over the runs from the initial state, one event at a time, and
  `Meets.run_induction` over those whose steps all meet a condition.
* `observe` lists what the steps of a run show.
* `invariant` and `invariant_of_meets` reduce a fact about every state reached to the initial
  state and one step, the second for runs whose steps all meet a condition.
* `Meets.always_iff_meets` and `always_iff_meets` say when a fact holds throughout a run, if the steps
  that keep it are known.
* `Raises.unique`: in a run that never lowers a value, one step at most takes it to a given one.
* `CanReach.of_progress` is the rule for what can always be brought to its end.
* `nodup_observe`: a run shows nothing twice, if its steps mark what they show.
* `run_rel` is the invariant rule for a reflexive and transitive relation between two states of a
  run.
* `Component` is a part of a system that is a system of its own: whatever the rest does, it is in a
  state it reaches by itself.  A `Projection` also says which of its events each step is, so that what a
  run of the system shows of the part is what the part's own run shows.
* A `Simulation` is a second system that takes the same events, and shows the same.
-/

namespace Lts

/-- A guarded transition system with states `σ` and events `ε`. -/
structure System (σ ε : Type*) where
  /-- The state every run starts from. -/
  init : σ
  /-- The effect of one event; `none` when the event is not enabled. -/
  step : σ → ε → Option σ

namespace System

variable {σ ε : Type*} (S : System σ ε)

/-- Execute the events in order; `none` as soon as one of them is not enabled. -/
def run (s : σ) : List ε → Option σ
  | [] => some s
  | e :: es => (S.step s e).bind fun t => run t es

/-- `t` is reached by some run from the initial state. -/
def Reachable (t : σ) : Prop := ∃ es, S.run S.init es = some t

/-- Every step that the run of `es` from `s` takes meets `C`: `C t e` holds for each event `e` of
the run and the state `t` it is taken in. -/
def Meets (C : σ → ε → Prop) (s : σ) (es : List ε) : Prop :=
  ∀ pre e, pre ++ [e] <+: es → ∀ t u, S.run s pre = some t → S.step t e = some u → C t e

/-- The event `e` of the run of `es` from `s` takes `f` from below `v` to `v`. -/
def Raises {ι : Type*} [LT ι] (f : σ → ι) (s : σ) (es : List ε) (v : ι) (e : ε) : Prop :=
  ∃ pre t u, pre ++ [e] <+: es ∧ S.run s pre = some t ∧ S.step t e = some u ∧ f t < v ∧ f u = v

/-- `P` holds in every state of the run of `es` from `s`. -/
def Always (P : σ → Prop) (s : σ) (es : List ε) : Prop :=
  ∀ pre, pre <+: es → ∀ t, S.run s pre = some t → P t

/-- Some run from `s` whose steps all meet `C` leads to a state in which `Q` holds. -/
def CanReach (C : σ → ε → Prop) (s : σ) (Q : σ → Prop) : Prop :=
  ∃ es t, S.run s es = some t ∧ S.Meets C s es ∧ Q t

/-- What the steps of the run of `es` from `s` show, in order. -/
def observe (S : System σ ε) {α : Type*} (f : σ → ε → Option α) (s : σ) : List ε → List α
  | [] => []
  | e :: es => (f s e).toList ++ ((S.step s e).map fun t => observe S f t es).getD []

variable {S}

@[simp] theorem run_nil (s : σ) : S.run s [] = some s := rfl

theorem run_cons (s t : σ) (e : ε) (es : List ε) :
    S.run s (e :: es) = some t ↔ ∃ u, S.step s e = some u ∧ S.run u es = some t := by
  rw [run, Option.bind_eq_some_iff]

theorem run_append (s t : σ) (es fs : List ε) :
    S.run s (es ++ fs) = some t ↔ ∃ u, S.run s es = some u ∧ S.run u fs = some t := by
  induction es generalizing s with
  | nil => simp
  | cons e es ih =>
    rw [List.cons_append, run_cons]
    constructor
    · rintro ⟨v, hv, hrun⟩
      obtain ⟨u, hu, hfs⟩ := (ih v).mp hrun
      exact ⟨u, (run_cons ..).mpr ⟨v, hv, hu⟩, hfs⟩
    · rintro ⟨u, hu, hfs⟩
      obtain ⟨v, hv, hes⟩ := (run_cons ..).mp hu
      exact ⟨v, hv, (ih v).mpr ⟨u, hes, hfs⟩⟩

/-- The last event of a run: `run_append` for a single event. -/
theorem run_concat (s t : σ) (es : List ε) (e : ε) :
    S.run s (es ++ [e]) = some t ↔ ∃ u, S.run s es = some u ∧ S.step u e = some t := by
  rw [run_append]
  simp only [run_cons, run_nil, Option.some.injEq, exists_eq_right]

/-- **Induction over runs**, adding one event at the end. -/
theorem run_induction {s : σ} {motive : List ε → σ → Prop} (nil : motive [] s)
    (snoc : ∀ es u e t, S.run s es = some u → motive es u → S.step u e = some t →
      motive (es ++ [e]) t) :
    ∀ {es : List ε} {t : σ}, S.run s es = some t → motive es t := by
  intro es
  induction es using List.reverseRecOn with
  | nil =>
    intro t h
    obtain rfl := Option.some.inj h
    exact nil
  | append_singleton es e ih =>
    intro t h
    obtain ⟨u, hu, ht⟩ := (run_concat ..).mp h
    exact snoc es u e t hu (ih hu) ht

/-- The last step of a run. -/
theorem observe_concat {α : Type*} (f : σ → ε → Option α) {s t : σ} {es : List ε} {e : ε}
    (h : S.run s es = some t) :
    S.observe f s (es ++ [e]) = S.observe f s es ++ (f t e).toList := by
  induction es generalizing s with
  | nil =>
    obtain rfl := Option.some.inj h
    cases hstep : S.step s e <;> simp [observe, hstep]
  | cons d es ih =>
    obtain ⟨u, hu, h⟩ := (run_cons ..).mp h
    rw [List.cons_append, observe, observe, hu, Option.map_some, Option.map_some, Option.getD_some,
      Option.getD_some, ih h, List.append_assoc]

/-- What a run shows is what its steps show. -/
theorem forall_observe {α : Type*} {f : σ → ε → Option α} {P : α → Prop}
    (hP : ∀ s e a, f s e = some a → P a) (s : σ) (es : List ε) : ∀ a ∈ S.observe f s es, P a := by
  induction es generalizing s with
  | nil => simp [observe]
  | cons e es ih =>
    intro a ha
    rw [observe, List.mem_append, Option.mem_toList] at ha
    rcases ha with ha | ha
    · exact hP s e a ha
    · cases hstep : S.step s e with
      | none => simp [hstep] at ha
      | some t =>
        rw [hstep] at ha
        exact ih t a ha

/-- What a run shows that goes on from another. -/
theorem observe_append {α : Type*} (f : σ → ε → Option α) {s t u : σ} {es fs : List ε}
    (h : S.run s es = some t) (h' : S.run t fs = some u) :
    S.observe f s (es ++ fs) = S.observe f s es ++ S.observe f t fs := by
  refine S.run_induction (motive := fun fs _ =>
    S.observe f s (es ++ fs) = S.observe f s es ++ S.observe f t fs) ?_ ?_ h'
  · rw [observe, List.append_nil, List.append_nil]
  · intro fs v e w hv ih _
    have hrun : S.run s (es ++ fs) = some v := (run_append ..).mpr ⟨t, h, hv⟩
    rw [← List.append_assoc, observe_concat f hrun, observe_concat f hv, ih, List.append_assoc]

/-! ### Conditions on the steps of a run -/

theorem meets_concat {C : σ → ε → Prop} {s : σ} {es : List ε} {e : ε} :
    S.Meets C s (es ++ [e]) ↔
      S.Meets C s es ∧ ∀ t u, S.run s es = some t → S.step t e = some u → C t e := by
  constructor
  · intro h
    exact ⟨fun pre e' hpre => h pre e' (hpre.trans (List.prefix_append ..)),
      h es e List.prefix_rfl⟩
  · rintro ⟨h, he⟩ pre e' hpre t u ht hu
    rcases List.prefix_concat_iff.mp hpre with heq | hpre'
    · obtain ⟨rfl, hee⟩ := List.append_inj' heq rfl
      obtain rfl := List.singleton_injective hee
      exact he t u ht hu
    · exact h pre e' hpre' t u ht hu

theorem Meets.and {C D : σ → ε → Prop} {s : σ} {es : List ε} (h : S.Meets C s es)
    (h' : S.Meets D s es) : S.Meets (fun t e => C t e ∧ D t e) s es :=
  fun pre e hpre t u ht hu => ⟨h pre e hpre t u ht hu, h' pre e hpre t u ht hu⟩

/-- One more step that meets the condition. -/
theorem Meets.concat {C : σ → ε → Prop} {s t : σ} {es : List ε} {e : ε} (h : S.Meets C s es)
    (ht : S.run s es = some t) (he : C t e) : S.Meets C s (es ++ [e]) := by
  refine meets_concat.mpr ⟨h, fun t' u ht' _ => ?_⟩
  obtain rfl := Option.some.inj (ht.symm.trans ht')
  exact he

/-- Two runs, one after the other. -/
theorem Meets.trans {C : σ → ε → Prop} {s t : σ} {es fs : List ε} (h : S.Meets C s es)
    (ht : S.run s es = some t) (hfs : S.Meets C t fs) : S.Meets C s (es ++ fs) := by
  induction fs using List.reverseRecOn with
  | nil => rwa [List.append_nil]
  | append_singleton fs e ih =>
    obtain ⟨hfs, he⟩ := meets_concat.mp hfs
    rw [← List.append_assoc, meets_concat]
    refine ⟨ih hfs, fun u v hu hv => ?_⟩
    obtain ⟨t', ht', hu⟩ := (run_append ..).mp hu
    obtain rfl := Option.some.inj (ht.symm.trans ht')
    exact he u v hu hv

/-- **Induction over the runs whose steps all meet a condition.** -/
theorem Meets.run_induction {C : σ → ε → Prop} {s : σ} {motive : List ε → σ → Prop}
    (nil : motive [] s) (snoc : ∀ es u e t, S.run s es = some u → S.Meets C s es → motive es u →
      C u e → S.step u e = some t → motive (es ++ [e]) t) {es : List ε} {t : σ}
    (h : S.run s es = some t) (hC : S.Meets C s es) : motive es t := by
  refine System.run_induction (motive := fun es t => S.Meets C s es → motive es t) (fun _ => nil) ?_
    h hC
  intro es u e t hu ih ht hC
  obtain ⟨hes, he⟩ := meets_concat.mp hC
  exact snoc es u e t hu hes (ih hes) (he u t hu ht) ht

/-- The second part of a run. -/
theorem Meets.of_append {C : σ → ε → Prop} {s t : σ} {es fs : List ε} (h : S.Meets C s (es ++ fs))
    (ht : S.run s es = some t) : S.Meets C t fs := by
  intro pre e hpre u v hu hv
  refine h (es ++ pre) e ?_ u v ((run_append ..).mpr ⟨t, ht, hu⟩) hv
  rw [List.append_assoc]
  exact (List.prefix_append_right_inj es).mpr hpre

/-- All events of a run are events of its steps. -/
theorem Meets.forall_of_run {C : ε → Prop} {s t : σ} {es : List ε} (h : S.Meets (fun _ => C) s es)
    (ht : S.run s es = some t) : ∀ e ∈ es, C e := by
  refine h.run_induction (motive := fun es _ => ∀ e ∈ es, C e)
    (fun e he => absurd he List.not_mem_nil) (fun es u e v _ _ ih he _ => ?_) ht
  intro e' he'
  rcases List.mem_append.mp he' with hold | hnew
  · exact ih e' hold
  · exact List.mem_singleton.mp hnew ▸ he

/-- Run the events and check a decidable condition at each step. -/
def check (S : System σ ε) (C : σ → ε → Prop) [∀ s e, Decidable (C s e)] (s : σ) : List ε → Bool
  | [] => true
  | e :: es => decide (C s e) && ((S.step s e).map fun t => check S C t es).getD true

theorem Meets.of_check {C : σ → ε → Prop} [∀ s e, Decidable (C s e)] {s : σ} {es : List ε}
    (h : S.check C s es = true) : S.Meets C s es := by
  intro pre
  induction pre generalizing s es with
  | nil =>
    intro e' hpre t u ht _
    obtain ⟨es, rfl⟩ := hpre
    obtain rfl := Option.some.inj ht
    rw [List.nil_append, List.singleton_append, check, Bool.and_eq_true] at h
    exact of_decide_eq_true h.1
  | cons e pre ih =>
    intro e' hpre t u ht hu
    obtain ⟨es', rfl⟩ := hpre
    obtain ⟨v, hv, ht⟩ := (run_cons ..).mp ht
    rw [List.cons_append, List.cons_append, check, hv, Option.map_some, Option.getD_some,
      Bool.and_eq_true] at h
    exact ih h.2 e' (List.prefix_append ..) t u ht hu

theorem Meets.of_forall {C : σ → ε → Prop} {s : σ} {es : List ε} (h : ∀ t, ∀ e ∈ es, C t e) :
    S.Meets C s es := by
  intro pre e hpre t u _ _
  exact h t e (hpre.subset (by simp))

/-- A run goes on by steps that meet the condition wherever they are taken. -/
theorem Meets.append {C : σ → ε → Prop} {s : σ} {es fs : List ε} (h : S.Meets C s es)
    (hfs : ∀ t, ∀ e ∈ fs, C t e) : S.Meets C s (es ++ fs) := by
  induction fs using List.reverseRecOn with
  | nil => rwa [List.append_nil]
  | append_singleton fs e ih =>
    rw [← List.append_assoc, meets_concat]
    exact ⟨ih fun t e' he' => hfs t e' (List.mem_append_left _ he'),
      fun t _ _ _ => hfs t e (List.mem_append_right _ (List.mem_singleton_self _))⟩

/-- The condition may be replaced by one that follows from it in the states of the run. -/
theorem Meets.mono_of_run {C D : σ → ε → Prop} {s : σ} {es : List ε}
    (hCD : ∀ pre, pre <+: es → ∀ t, S.run s pre = some t → ∀ e, C t e → D t e)
    (h : S.Meets C s es) : S.Meets D s es :=
  fun pre e hpre t u ht hu =>
    hCD pre ((List.prefix_append ..).trans hpre) t ht e (h pre e hpre t u ht hu)

theorem Meets.mono {C D : σ → ε → Prop} {s : σ} {es : List ε} (hCD : ∀ t e, C t e → D t e)
    (h : S.Meets C s es) : S.Meets D s es :=
  h.mono_of_run fun _ _ t _ e => hCD t e

theorem always_concat {P : σ → Prop} {s : σ} {es : List ε} {e : ε} :
    S.Always P s (es ++ [e]) ↔
      S.Always P s es ∧ ∀ t, S.run s (es ++ [e]) = some t → P t := by
  constructor
  · intro h
    exact ⟨fun pre hpre => h pre (hpre.trans (List.prefix_append ..)), h _ List.prefix_rfl⟩
  · rintro ⟨h, he⟩ pre hpre t ht
    rcases List.prefix_concat_iff.mp hpre with rfl | hpre'
    · exact he t ht
    · exact h pre hpre' t ht

theorem Always.of_run {P : σ → Prop} {s t : σ} {es : List ε} (h : S.Always P s es)
    (ht : S.run s es = some t) : P t :=
  h es List.prefix_rfl t ht

/-- **When a fact holds throughout a run.**  If `P` holds initially and a step of a run whose steps all
meet `D` keeps it exactly when it meets `C`, then `P` holds throughout such a run exactly when the steps of
the run all meet `C`. -/
theorem Meets.always_iff_meets {P : σ → Prop} {C D : σ → ε → Prop} (hinit : P S.init)
    (hstep : ∀ es s e t, S.run S.init es = some s → S.Meets D S.init es → D s e → P s →
      S.step s e = some t → (P t ↔ C s e)) {es : List ε} (hD : S.Meets D S.init es) :
    S.Always P S.init es ↔ S.Meets C S.init es := by
  induction es using List.reverseRecOn with
  | nil =>
    constructor
    · intro _ pre e hpre
      exact absurd (List.prefix_nil.mp hpre) (by simp)
    · intro _ pre hpre t ht
      obtain rfl := List.prefix_nil.mp hpre
      obtain rfl := Option.some.inj ht
      exact hinit
  | append_singleton es e ih =>
    obtain ⟨hes, he⟩ := meets_concat.mp hD
    rw [always_concat, meets_concat, ih hes]
    apply and_congr_right
    intro hC
    have hP : ∀ s, S.run S.init es = some s → P s := fun s hs => ((ih hes).mpr hC).of_run hs
    constructor
    · intro h s t hs ht
      exact (hstep es s e t hs hes (he s t hs ht) (hP s hs) ht).mp
        (h t ((run_concat ..).mpr ⟨s, hs, ht⟩))
    · intro h t ht
      obtain ⟨s, hs, ht⟩ := (run_concat ..).mp ht
      exact (hstep es s e t hs hes (he s t hs ht) (hP s hs) ht).mpr (h s t hs ht)

/-- The same for all runs. -/
theorem always_iff_meets {P : σ → Prop} {C : σ → ε → Prop} (hinit : P S.init)
    (hstep : ∀ s e t, S.Reachable s → P s → S.step s e = some t → (P t ↔ C s e)) (es : List ε) :
    S.Always P S.init es ↔ S.Meets C S.init es :=
  Meets.always_iff_meets (D := fun _ _ => True) hinit
    (fun es s e t hs _ _ hP ht => hstep s e t ⟨es, hs⟩ hP ht) (.of_forall fun _ _ _ => trivial)

/-! ### What rises in a run -/

section Raises

variable {ι : Type*} {f : σ → ι} {s t u : σ} {es : List ε} {e : ε} {v : ι}

theorem Raises.concat [LT ι] (h : S.Raises f s es v e) (e' : ε) : S.Raises f s (es ++ [e']) v e := by
  obtain ⟨pre, t, u, hpre, h⟩ := h
  exact ⟨pre, t, u, hpre.trans (List.prefix_append ..), h⟩

/-- The last event of a run. -/
theorem Raises.last [LT ι] (ht : S.run s es = some t) (hu : S.step t e = some u) (hlt : f t < v)
    (hv : f u = v) : S.Raises f s (es ++ [e]) v e :=
  ⟨es, t, u, List.prefix_rfl, ht, hu, hlt, hv⟩

/-- What no step lowers is no lower at the end of a run. -/
theorem Meets.le_of_run [Preorder ι] {C : σ → ε → Prop}
    (hle : ∀ t e u, C t e → S.step t e = some u → f t ≤ f u) {fs : List ε} (hC : S.Meets C s (es ++ fs))
    (ht : S.run s es = some t) (hu : S.run t fs = some u) : f t ≤ f u := by
  induction fs using List.reverseRecOn generalizing u with
  | nil =>
    obtain rfl := Option.some.inj hu
    exact le_rfl
  | append_singleton fs e ih =>
    rw [← List.append_assoc, meets_concat] at hC
    obtain ⟨w, hw, hu⟩ := (run_concat ..).mp hu
    have hrun : S.run s (es ++ fs) = some w := (run_append ..).mpr ⟨t, ht, hw⟩
    exact (ih hC.1 hw).trans (hle w e u (hC.2 w u hrun hu) hu)

theorem Meets.of_prefix {C : σ → ε → Prop} (h : S.Meets C s es) {fs : List ε} (hfs : fs <+: es) :
    S.Meets C s fs :=
  fun pre e hpre => h pre e (hpre.trans hfs)

/-- **What no step lowers is raised to a value once.** -/
theorem Raises.unique [Preorder ι] {C : σ → ε → Prop}
    (hle : ∀ t e u, C t e → S.step t e = some u → f t ≤ f u) (hC : S.Meets C s es) {e' : ε}
    (h : S.Raises f s es v e) (h' : S.Raises f s es v e') : e = e' := by
  -- of two such steps the later one would start from `v` or above
  have hlast : ∀ {pre pre' : List ε} {e e' : ε} {t u t' : σ}, pre ++ [e] <+: pre' ++ [e'] →
      pre' ++ [e'] <+: es → S.run s pre = some t → S.step t e = some u → f u = v →
      S.run s pre' = some t' → f t' < v → e = e' := by
    intro pre pre' e e' t u t' hpre hpre' ht hu hv ht' hlt
    rcases List.prefix_concat_iff.mp hpre with heq | ⟨fs, rfl⟩
    · exact List.singleton_injective (List.append_inj' heq rfl).2
    · obtain ⟨w, hw, hrun⟩ := (run_append ..).mp ht'
      obtain rfl : u = w := Option.some.inj (((run_concat ..).mpr ⟨t, ht, hu⟩).symm.trans hw)
      have hprefix : pre ++ [e] ++ fs <+: es := (List.prefix_append ..).trans hpre'
      exact absurd (hv ▸ (hC.of_prefix hprefix).le_of_run hle hw hrun) hlt.not_ge
  obtain ⟨pre, t, u, hpre, ht, hu, hlt, hv⟩ := h
  obtain ⟨pre', t', u', hpre', ht', hu', hlt', hv'⟩ := h'
  rcases List.prefix_or_prefix_of_prefix hpre hpre' with hle | hle
  · exact hlast hle hpre' ht hu hv ht' hlt'
  · exact (hlast hle hpre ht' hu' hv' ht hlt).symm

end Raises

/-! ### Invariants -/

/-- **The invariant rule** for runs whose steps all meet `C`, given what is already known to hold
of every state that such a run reaches. -/
theorem invariant_of_meets_with {C : σ → ε → Prop} {I J : σ → Prop}
    (hJ : ∀ {es t}, S.run S.init es = some t → S.Meets C S.init es → J t) (hinit : I S.init)
    (hstep : ∀ s e t, J s → I s → C s e → S.step s e = some t → I t) :
    ∀ {es : List ε} {t : σ}, S.run S.init es = some t → S.Meets C S.init es → I t := by
  intro es t h hC
  exact hC.run_induction (motive := fun _ t => I t) hinit
    (fun _ u e t hu hes ih he ht => hstep u e t (hJ hu hes) ih he ht) h

/-- The invariant rule for runs whose steps all meet `C`. -/
theorem invariant_of_meets {C : σ → ε → Prop} {I : σ → Prop} (hinit : I S.init)
    (hstep : ∀ s e t, I s → C s e → S.step s e = some t → I t) :
    ∀ {es : List ε} {t : σ}, S.run S.init es = some t → S.Meets C S.init es → I t :=
  invariant_of_meets_with (J := fun _ => True) (fun _ _ => trivial) hinit
    fun s e t _ hI => hstep s e t hI

/-- **The invariant rule**: what holds initially and is preserved by every step holds of every
state reached. -/
theorem invariant {I : σ → Prop} (hinit : I S.init)
    (hstep : ∀ s e t, I s → S.step s e = some t → I t) {t : σ} (h : S.Reachable t) : I t := by
  obtain ⟨es, hes⟩ := h
  exact invariant_of_meets (C := fun _ _ => True) hinit (fun s e t hs _ => hstep s e t hs) hes
    (.of_forall fun _ _ _ => trivial)

/-- The invariant rule, for a step from a state that is known to be reached. -/
theorem Reachable.induction {I : σ → Prop} (hinit : I S.init)
    (hstep : ∀ s e t, S.Reachable s → I s → S.step s e = some t → I t) {t : σ}
    (h : S.Reachable t) : I t := by
  obtain ⟨es, hes⟩ := h
  exact invariant_of_meets_with (C := fun _ _ => True) (J := S.Reachable)
    (fun {es t} ht _ => ⟨es, ht⟩) hinit (fun s e t hs ih _ => hstep s e t hs ih) hes
    (.of_forall fun _ _ _ => trivial)

/-- **Nothing is shown twice** in a run, if a step marks what it shows, shows nothing that is marked,
and marks stay. -/
theorem nodup_observe {α : Type*} {f : σ → ε → Option α} {M : σ → α → Prop}
    (hfresh : ∀ s e t a, S.Reachable s → S.step s e = some t → f s e = some a → ¬ M s a)
    (hmark : ∀ s e t a, S.Reachable s → S.step s e = some t → f s e = some a ∨ M s a →
      M t a) {es : List ε} {t : σ} (h : S.run S.init es = some t) :
    (S.observe f S.init es).Nodup := by
  have hrun : (S.observe f S.init es).Nodup ∧ ∀ a ∈ S.observe f S.init es, M t a := by
    refine S.run_induction (motive := fun es t => (S.observe f S.init es).Nodup ∧
      ∀ a ∈ S.observe f S.init es, M t a) ⟨List.nodup_nil, by simp [observe]⟩ ?_ h
    rintro es s e t hs ⟨hnodup, hmarked⟩ hstep
    rw [observe_concat f hs]
    refine ⟨List.nodup_append.mpr ⟨hnodup, ?_, ?_⟩, fun a ha => ?_⟩
    · cases f s e with
      | none => exact List.nodup_nil
      | some a => simp
    · rintro a ha _ hnew rfl
      exact hfresh s e t a ⟨es, hs⟩ hstep (Option.mem_toList.mp hnew) (hmarked a ha)
    · rw [List.mem_append, Option.mem_toList] at ha
      exact hmark s e t a ⟨es, hs⟩ hstep (ha.symm.imp_right (hmarked a))
  exact hrun.1

/-- A reflexive and transitive relation that every step respects relates the two ends of a run. -/
theorem run_rel {R : σ → σ → Prop} (hrefl : ∀ s, R s s)
    (htrans : ∀ {s t u}, R s t → R t u → R s u)
    (hstep : ∀ s e t, S.step s e = some t → R s t) {s t : σ} {es : List ε}
    (h : S.run s es = some t) : R s t :=
  run_induction (motive := fun _ t => R s t) (hrefl s)
    (fun _ _ _ _ _ ih ht => htrans ih (hstep _ _ _ ht)) h

/-! ### What some run leads to -/

theorem CanReach.refl {C : σ → ε → Prop} {Q : σ → Prop} {s : σ} (h : Q s) : S.CanReach C s Q :=
  ⟨[], s, rfl, .of_forall fun _ _ he => absurd he List.not_mem_nil, h⟩

theorem CanReach.step {C : σ → ε → Prop} {Q : σ → Prop} {s t : σ} {e : ε} (he : C s e)
    (ht : S.step s e = some t) (h : S.CanReach C t Q) : S.CanReach C s Q := by
  obtain ⟨es, u, hu, hes, hQ⟩ := h
  have hfirst : S.Meets C s ([] ++ [e]) :=
    .concat (.of_forall fun _ _ he => absurd he List.not_mem_nil) rfl he
  exact ⟨[] ++ [e] ++ es, u, (run_cons ..).mpr ⟨t, ht, hu⟩,
    hfirst.trans ((run_concat ..).mpr ⟨s, rfl, ht⟩) hes, hQ⟩

/-- One run goes on where the other has led to. -/
theorem CanReach.trans {C : σ → ε → Prop} {P Q : σ → Prop} {s : σ} (h : S.CanReach C s P)
    (hPQ : ∀ t, P t → S.CanReach C t Q) : S.CanReach C s Q := by
  obtain ⟨es, t, ht, hes, hP⟩ := h
  obtain ⟨fs, u, hu, hfs, hQ⟩ := hPQ t hP
  exact ⟨es ++ fs, u, (run_append ..).mpr ⟨t, ht, hu⟩, hes.trans ht hfs, hQ⟩

theorem CanReach.mono {C D : σ → ε → Prop} {P Q : σ → Prop} {s : σ} (h : S.CanReach C s P)
    (hCD : ∀ t e, C t e → D t e) (hPQ : ∀ t, P t → Q t) : S.CanReach D s Q := by
  obtain ⟨es, t, ht, hes, hP⟩ := h
  exact ⟨es, t, ht, hes.mono hCD, hPQ t hP⟩

/-- **The progress rule**: if from every state at the distance `n` some run leads nearer, or to the
goal, then some run leads to the goal. -/
theorem CanReach.of_progress {C : σ → ε → Prop} {P : ℕ → σ → Prop} {Q : σ → Prop}
    (hstep : ∀ n s, P n s → S.CanReach C s fun t => Q t ∨ ∃ k, k < n ∧ P k t) {n : ℕ} {s : σ}
    (h : P n s) : S.CanReach C s Q := by
  induction n using Nat.strongRecOn generalizing s with
  | ind n ih =>
    refine (hstep n s h).trans fun t hnext => ?_
    rcases hnext with hgoal | ⟨k, hk, hnearer⟩
    · exact .refl hgoal
    · exact ih k hk hnearer

theorem Reachable.run {s t : σ} {es : List ε} (hs : S.Reachable s) (h : S.run s es = some t) :
    S.Reachable t := by
  obtain ⟨fs, hfs⟩ := hs
  exact ⟨fs ++ es, (run_append ..).mpr ⟨s, hfs, h⟩⟩

theorem Reachable.step {s t : σ} {e : ε} (hs : S.Reachable s) (h : S.step s e = some t) :
    S.Reachable t := by
  obtain ⟨es, hes⟩ := hs
  exact ⟨es ++ [e], (run_concat ..).mpr ⟨s, hes, h⟩⟩

end System

/-! ### Components -/

/-- A component of `S`: a part of its states that starts as `T` does and changes by steps of `T`
only. -/
structure Component {σ ε τ δ : Type*} (S : System σ ε) (T : System τ δ) where
  /-- The state of the component. -/
  part : σ → τ
  part_init : part S.init = T.init
  part_step : ∀ {s e t}, S.step s e = some t →
    part t = part s ∨ ∃ d, T.step (part s) d = some (part t)

/-- A component is in a state that it reaches on its own. -/
theorem Component.reachable {σ ε τ δ : Type*} {S : System σ ε} {T : System τ δ}
    (comp : Component S T) {t : σ} (h : S.Reachable t) : T.Reachable (comp.part t) := by
  refine System.invariant (I := fun t => T.Reachable (comp.part t)) ?_ ?_ h
  · rw [comp.part_init]
    exact ⟨[], rfl⟩
  · intro s e t hs ht
    rcases comp.part_step ht with hsame | ⟨d, hd⟩
    · rw [hsame]
      exact hs
    · exact hs.step hd

/-- **A component makes a run of its own**, of steps that meet `D` if those of the system that it takes
part in meet `C`. -/
theorem Component.exists_run {σ ε τ δ : Type*} {S : System σ ε} {T : System τ δ}
    (comp : Component S T) {C : σ → ε → Prop} {D : τ → δ → Prop}
    (hstep : ∀ s e t, C s e → S.step s e = some t → comp.part t = comp.part s ∨
      ∃ d, D (comp.part s) d ∧ T.step (comp.part s) d = some (comp.part t))
    {es : List ε} {t : σ} (h : S.run S.init es = some t) (hC : S.Meets C S.init es) :
    ∃ ds, T.run T.init ds = some (comp.part t) ∧ T.Meets D T.init ds := by
  refine System.invariant_of_meets
    (I := fun t => ∃ ds, T.run T.init ds = some (comp.part t) ∧ T.Meets D T.init ds) ?_ ?_ h hC
  · rw [comp.part_init]
    exact ⟨[], rfl, .of_forall fun _ _ he => absurd he List.not_mem_nil⟩
  · rintro s e t ⟨ds, hds, hD⟩ he ht
    rcases hstep s e t he ht with hsame | ⟨d, hd, hstep⟩
    · rw [hsame]
      exact ⟨ds, hds, hD⟩
    · refine ⟨ds ++ [d], (System.run_concat ..).mpr ⟨_, hds, hstep⟩,
        System.meets_concat.mpr ⟨hD, fun u _ hu _ => ?_⟩⟩
      obtain rfl : comp.part s = u := Option.some.inj (hds.symm.trans hu)
      exact hd

/-! ### Projections -/

/-- A projection of `S` onto `T`: a part of its states, and the event of `T` that each step is, if any. -/
structure Projection {σ ε τ δ : Type*} (S : System σ ε) (T : System τ δ) where
  part : σ → τ
  event? : σ → ε → Option δ
  part_init : part S.init = T.init
  part_same : ∀ {s e t}, S.step s e = some t → event? s e = none → part t = part s
  part_step : ∀ {s e t d}, S.step s e = some t → event? s e = some d →
    T.step (part s) d = some (part t)

namespace Projection

variable {σ ε τ δ : Type*} {S : System σ ε} {T : System τ δ} (proj : Projection S T)

/-- **A run projects onto a run** from the part that it starts in. -/
theorem run {s t : σ} {es : List ε} (h : S.run s es = some t) :
    T.run (proj.part s) (S.observe proj.event? s es) = some (proj.part t) := by
  refine S.run_induction (motive := fun es t =>
    T.run (proj.part s) (S.observe proj.event? s es) = some (proj.part t)) rfl ?_ h
  intro es u e t hu ih hstep
  rw [System.observe_concat _ hu, System.run_append]
  refine ⟨_, ih, ?_⟩
  cases he : proj.event? u e with
  | none =>
    show T.run (proj.part u) [] = some (proj.part t)
    rw [System.run_nil, proj.part_same hstep he]
  | some d =>
    exact (System.run_cons ..).mpr ⟨_, proj.part_step hstep he, rfl⟩

/-- The part is in a state that it reaches on its own. -/
theorem reachable {t : σ} (h : S.Reachable t) : T.Reachable (proj.part t) := by
  obtain ⟨es, hes⟩ := h
  have hrun := proj.run hes
  rw [proj.part_init] at hrun
  exact ⟨_, hrun⟩

/-- What the run of the part shows is what the run of the system shows of it. -/
theorem observe {α : Type*} (f : τ → δ → Option α) {s t : σ} {es : List ε} (h : S.run s es = some t) :
    T.observe f (proj.part s) (S.observe proj.event? s es) =
      S.observe (fun s e => (proj.event? s e).bind (f (proj.part s))) s es := by
  refine S.run_induction (motive := fun es _ =>
    T.observe f (proj.part s) (S.observe proj.event? s es) =
      S.observe (fun s e => (proj.event? s e).bind (f (proj.part s))) s es) rfl ?_ h
  intro es u e t hu ih hstep
  rw [System.observe_concat _ hu, System.observe_concat _ hu, ← ih]
  cases proj.event? u e with
  | none => rw [Option.toList_none, Option.bind_none, Option.toList_none, List.append_nil, List.append_nil]
  | some d => rw [Option.toList_some, System.observe_concat f (proj.run hu), Option.bind_some]

/-- The steps of the part meet what the steps of the system make sure of. -/
theorem meets {C : σ → ε → Prop} {D : τ → δ → Prop} (hCD : ∀ {s e d}, C s e → proj.event? s e = some d →
      D (proj.part s) d) {s t : σ} {es : List ε} (h : S.run s es = some t) (hC : S.Meets C s es) :
    T.Meets D (proj.part s) (S.observe proj.event? s es) := by
  refine hC.run_induction (motive := fun es _ =>
    T.Meets D (proj.part s) (S.observe proj.event? s es)) ?_ ?_ h
  · exact .of_forall fun _ _ he => absurd he List.not_mem_nil
  · intro es u e t hu _ ih he _
    rw [System.observe_concat _ hu]
    cases hd : proj.event? u e with
    | none =>
      rw [Option.toList_none, List.append_nil]
      exact ih
    | some d => exact ih.concat (proj.run hu) (hCD he hd)

end Projection

/-! ### Simulations -/

/-- A step of `S` is a step of `T` by the same event, from any state that stands for that of `S`. -/
structure Simulation {σ ε τ : Type*} (S : System σ ε) (T : System τ ε) (R : σ → τ → Prop) : Prop where
  init : R S.init T.init
  step : ∀ {s x e t}, R s x → S.step s e = some t → ∃ y, T.step x e = some y ∧ R t y

namespace Simulation

variable {σ ε τ : Type*} {S : System σ ε} {T : System τ ε} {R : σ → τ → Prop}

/-- **A run of `S` is a run of `T`.** -/
theorem run (sim : Simulation S T R) {es : List ε} {t : σ} (h : S.run S.init es = some t) :
    ∃ y, T.run T.init es = some y ∧ R t y := by
  refine S.run_induction (motive := fun es t => ∃ y, T.run T.init es = some y ∧ R t y)
    ⟨T.init, rfl, sim.init⟩ ?_ h
  rintro es s e t - ⟨x, hx, hR⟩ hstep
  obtain ⟨y, hy, hR'⟩ := sim.step hR hstep
  exact ⟨y, (System.run_concat ..).mpr ⟨x, hx, hy⟩, hR'⟩

/-- The two runs show the same. -/
theorem observe (sim : Simulation S T R) {α : Type*} {f : σ → ε → Option α} {g : τ → ε → Option α}
    (hfg : ∀ {s x e t}, R s x → S.step s e = some t → f s e = g x e) {es : List ε} {t : σ}
    (h : S.run S.init es = some t) : S.observe f S.init es = T.observe g T.init es := by
  refine S.run_induction (motive := fun es _ => S.observe f S.init es = T.observe g T.init es) rfl ?_ h
  intro es s e t hs ih hstep
  obtain ⟨x, hx, hR⟩ := sim.run hs
  rw [System.observe_concat f hs, System.observe_concat g hx, ih, hfg hR hstep]

end Simulation

end Lts
