import Mathlib.Data.List.Nodup
import Mathlib.Tactic.Common

/-!
# Tokens that are held at most once

Places `L` hold lists of tokens `τ`.  `Linear f` says that no token is held twice, in one place or in
two.  It survives what a system that passes tokens on can do: lose some (`Linear.drop`), bring in a
new one (`Linear.mint`), and move one from the front of a place to the back of another
(`Linear.move`).
-/

variable {L τ : Type*}

/-- No token is held twice, in one place or in two. -/
structure Linear (f : L → List τ) : Prop where
  nodup : ∀ l, (f l).Nodup
  place_unique : ∀ l l' t, t ∈ f l → t ∈ f l' → l = l'

namespace Linear

variable {f g : L → List τ} {l l' : L} {t : τ} {rest : List τ}

/-- Tokens are lost. -/
theorem drop (h : Linear f) (hsub : ∀ k, (g k).Sublist (f k)) : Linear g where
  nodup k := (h.nodup k).sublist (hsub k)
  place_unique k k' t hk hk' := h.place_unique k k' t ((hsub k).subset hk) ((hsub k').subset hk')

variable [DecidableEq L]

/-- A list that gets shorter is lost tokens. -/
theorem sublist_update (hsub : rest.Sublist (f l)) (k : L) :
    (Function.update f l rest k).Sublist (f k) := by
  by_cases hk : k = l
  · subst hk
    rw [Function.update_self]
    exact hsub
  · rw [Function.update_of_ne hk]

/-- A new token comes in. -/
theorem mint (h : Linear f) (hfresh : ∀ k, t ∉ f k) :
    Linear (Function.update f l (f l ++ [t])) := by
  have hold : ∀ {k u}, u ∈ Function.update f l (f l ++ [t]) k → u ≠ t → u ∈ f k := by
    intro k u hu hut
    by_cases hk : k = l
    · subst hk
      rw [Function.update_self, List.mem_append, List.mem_singleton] at hu
      exact hu.resolve_right hut
    · rw [Function.update_of_ne hk] at hu
      exact hu
  have honly : ∀ {k}, t ∈ Function.update f l (f l ++ [t]) k → k = l := by
    intro k ht
    by_contra hk
    rw [Function.update_of_ne hk] at ht
    exact hfresh k ht
  constructor
  · intro k
    by_cases hk : k = l
    · subst hk
      rw [Function.update_self]
      exact List.nodup_append.mpr ⟨h.nodup k, List.nodup_singleton t,
        fun a ha b hb => by rw [List.mem_singleton.mp hb]; rintro rfl; exact hfresh k ha⟩
    · rw [Function.update_of_ne hk]
      exact h.nodup k
  · intro k k' u hu hu'
    by_cases hut : u = t
    · subst hut
      rw [honly hu, honly hu']
    · exact h.place_unique k k' u (hold hu hut) (hold hu' hut)

/-- A token moves from the front of a place to the back of another one: it is lost, and then it is
new. -/
theorem move (h : Linear f) (hne : l ≠ l') (hfrom : f l = t :: rest) :
    Linear (Function.update (Function.update f l rest) l' (f l' ++ [t])) := by
  have hsub : rest.Sublist (f l) := by
    rw [hfrom]
    exact List.sublist_cons_self ..
  have hmem : t ∈ f l := by
    rw [hfrom]
    exact List.mem_cons_self
  have hgone : t ∉ rest := by
    have hnodup := h.nodup l
    rw [hfrom, List.nodup_cons] at hnodup
    exact hnodup.1
  have hfresh : ∀ k, t ∉ Function.update f l rest k := by
    intro k
    by_cases hk : k = l
    · subst hk
      rw [Function.update_self]
      exact hgone
    · rw [Function.update_of_ne hk]
      exact fun ht => hk (h.place_unique k l t ht hmem)
  have hto : Function.update f l rest l' = f l' := Function.update_of_ne hne.symm ..
  rw [← hto]
  exact (h.drop (sublist_update hsub)).mint hfresh

end Linear
