import Mathlib.Data.List.Basic
import Mathlib.Order.Bounds.Basic

/-!
# Deliveries in any order, and more than once

A state that takes deliveries one after the other, under at-least-once delivery.  If those of a set `D`
commute and a repeated one changes nothing (`Insensitive`), the state that a list of them ends with
depends on which they are, and neither on their order nor on how often each of them comes
(`Insensitive.foldl_eq_of_mem_iff`).

`isGreatest_foldl` is about what a delivery can only raise.
-/

namespace Redelivery

variable {σ δ : Type*} {f : σ → δ → σ}

/-- The deliveries `D` commute, and when repeated change nothing. -/
structure Insensitive (f : σ → δ → σ) (D : Set δ) : Prop where
  swap : ∀ a ∈ D, ∀ b ∈ D, ∀ s, f (f s a) b = f (f s b) a
  again : ∀ a ∈ D, ∀ s, f (f s a) a = f s a

namespace Insensitive

variable {D : Set δ} (h : Insensitive f D) {l l' : List δ}
include h

/-- The order does not matter. -/
theorem foldl_perm (hl : ∀ a ∈ l, a ∈ D) (hperm : l.Perm l') (s : σ) : l.foldl f s = l'.foldl f s :=
  hperm.foldl_eq' (fun a ha b hb => h.swap a (hl a ha) b (hl b hb)) s

/-- A delivery that has come before changes nothing. -/
theorem foldl_again (hl : ∀ a ∈ l, a ∈ D) {a : δ} (ha : a ∈ l) (s : σ) :
    f (l.foldl f s) a = l.foldl f s := by
  obtain ⟨l₁, l₂, rfl⟩ := List.append_of_mem ha
  have hperm : (l₁ ++ a :: l₂).Perm (l₁ ++ l₂ ++ [a]) := by
    rw [List.append_assoc]
    exact (List.perm_append_singleton a l₂).symm.append_left l₁
  rw [h.foldl_perm hl hperm, List.foldl_append, List.foldl_cons, List.foldl_nil]
  exact h.again a (hl a ha) _

/-- Nor do any number of such. -/
theorem foldl_subset (hl : ∀ a ∈ l, a ∈ D) (hsub : l' ⊆ l) (s : σ) :
    l'.foldl f (l.foldl f s) = l.foldl f s := by
  induction l' with
  | nil => rfl
  | cons a l' ih =>
    obtain ⟨ha, hsub⟩ := List.cons_subset.mp hsub
    rw [List.foldl_cons, h.foldl_again hl ha]
    exact ih hsub

/-- **Only which deliveries there are matters.** -/
theorem foldl_eq_of_mem_iff (hl : ∀ a ∈ l, a ∈ D) (hmem : ∀ a, a ∈ l ↔ a ∈ l') (s : σ) :
    l.foldl f s = l'.foldl f s := by
  have hl' : ∀ a ∈ l', a ∈ D := fun a ha => hl a ((hmem a).mpr ha)
  have happend : ∀ a ∈ l ++ l', a ∈ D := by
    intro a ha
    exact (List.mem_append.mp ha).elim (hl a) (hl' a)
  calc l.foldl f s
      = l'.foldl f (l.foldl f s) := (h.foldl_subset hl (fun a ha => (hmem a).mpr ha) s).symm
    _ = (l ++ l').foldl f s := List.foldl_append.symm
    _ = (l' ++ l).foldl f s := h.foldl_perm happend List.perm_append_comm s
    _ = l.foldl f (l'.foldl f s) := List.foldl_append
    _ = l'.foldl f s := h.foldl_subset hl' (fun a ha => (hmem a).mp ha) s

end Insensitive

/-- What each delivery raises to its values, all of them raise to the greatest.  The steps are those of
the states that satisfy the invariant `I`. -/
theorem isGreatest_foldl {ι : Type*} [Preorder ι] {g : σ → ι} {w : δ → Set ι} {I : σ → Prop}
    {l : List δ} (hinv : ∀ a ∈ l, ∀ s, I s → I (f s a))
    (hstep : ∀ a ∈ l, ∀ s, I s → IsGreatest (insert (g s) (w a)) (g (f s a))) {s : σ} (hs : I s) :
    IsGreatest {x | x = g s ∨ ∃ a ∈ l, x ∈ w a} (g (l.foldl f s)) := by
  induction l generalizing s with
  | nil => exact ⟨Or.inl rfl, fun x hx => (hx.resolve_right (by simp)).le⟩
  | cons a l ih =>
    have ha := List.mem_cons_self (a := a) (l := l)
    obtain ⟨hmem, hle⟩ := ih (fun b hb => hinv b (List.mem_cons_of_mem a hb))
      (fun b hb => hstep b (List.mem_cons_of_mem a hb)) (hinv a ha s hs)
    obtain ⟨hmem', hle'⟩ := hstep a ha s hs
    have hfirst : g (f s a) ≤ g (l.foldl f (f s a)) := hle (Or.inl rfl)
    constructor
    · rcases hmem with hsame | ⟨b, hb, hw⟩
      · rw [List.foldl_cons, hsame]
        exact hmem'.imp id fun hw => ⟨a, ha, hw⟩
      · exact Or.inr ⟨b, List.mem_cons_of_mem a hb, hw⟩
    · rintro x (rfl | ⟨b, hb, hw⟩)
      · exact (hle' (Or.inl rfl)).trans hfirst
      · rcases List.mem_cons.mp hb with rfl | hb
        · exact (hle' (Or.inr hw)).trans hfirst
        · exact hle (Or.inr ⟨b, hb, hw⟩)

end Redelivery
