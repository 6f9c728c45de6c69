import Mathlib.Data.List.Nodup
import Mathlib.Logic.Function.Basic
import Mathlib.Tactic.Common

/-!
# A list that shows a map

A partial function `f` with a list of its keys, each once, where those whose values have a weight are in
the order of the weights (`Listing`).  A key may be erased (`Listing.erase`).  A new entry may be put at
the end exactly if its key is not there and its weight is above all others (`Listing.concat_iff`).
-/

variable {κ μ ι : Type*}

/-- The weight of the entry of a key, if it has one. -/
def Listing.weight? (w : μ → Option ι) (f : κ → Option μ) (k : κ) : Option ι := (f k).bind w

/-- `l` has every key of `f` once, and the weights of their values in order. -/
structure Listing [LT ι] (w : μ → Option ι) (f : κ → Option μ) (l : List κ) : Prop where
  nodup : l.Nodup
  mem_iff : ∀ k, k ∈ l ↔ f k ≠ none
  increasing : (l.filterMap (Listing.weight? w f)).Pairwise (· < ·)

namespace Listing

variable {w : μ → Option ι} {f : κ → Option μ} {l : List κ} {k : κ}

theorem empty [LT ι] (hf : ∀ k, f k = none) : Listing w f [] where
  nodup := List.nodup_nil
  mem_iff k := by simp [hf k]
  increasing := List.Pairwise.nil

variable [DecidableEq κ]

/-- Elsewhere the weights stay. -/
theorem filterMap_update {x : Option μ} (hk : k ∉ l) :
    l.filterMap (weight? w (Function.update f k x)) = l.filterMap (weight? w f) := by
  refine List.filterMap_congr fun a ha => ?_
  have hne : a ≠ k := fun heq => hk (heq ▸ ha)
  rw [weight?, weight?, Function.update_of_ne hne]

variable [LT ι]

/-- **An entry is taken away.** -/
theorem erase (h : Listing w f l) : Listing w (Function.update f k none) (l.erase k) where
  nodup := h.nodup.erase k
  mem_iff a := by
    rw [h.nodup.mem_erase_iff, h.mem_iff]
    by_cases ha : a = k
    · simp [ha]
    · simp [ha]
  increasing := by
    rw [filterMap_update h.nodup.not_mem_erase]
    exact h.increasing.sublist ((List.erase_sublist).filterMap _)

/-- **An entry is put at the end.** -/
theorem concat_iff (h : Listing w f l) {v : μ} :
    Listing w (Function.update f k (some v)) (l ++ [k]) ↔
      f k = none ∧ ∀ x, w v = some x → ∀ a y, weight? w f a = some y → y < x := by
  have hnew : ∀ x, weight? w (Function.update f k (some v)) k = some x ↔ w v = some x := by
    intro x
    rw [weight?, Function.update_self, Option.bind_some]
  have hkeys : ∀ {a y}, weight? w f a = some y → a ∈ l := by
    intro a y hy
    rw [h.mem_iff]
    intro hnone
    rw [weight?, hnone] at hy
    cases hy
  constructor
  · intro hconcat
    have hk : k ∉ l := by
      have hnodup := List.nodup_append.mp hconcat.nodup
      exact fun hmem => hnodup.2.2 k hmem k (List.mem_singleton_self k) rfl
    refine ⟨not_not.mp fun hsome => hk ((h.mem_iff k).mpr hsome), fun x hx a y hy => ?_⟩
    have hincreasing := hconcat.increasing
    rw [List.filterMap_append, filterMap_update hk, List.pairwise_append] at hincreasing
    refine hincreasing.2.2 y (List.mem_filterMap.mpr ⟨a, hkeys hy, hy⟩) x ?_
    exact List.mem_filterMap.mpr ⟨k, List.mem_singleton_self k, (hnew x).mpr hx⟩
  · rintro ⟨hnone, hbelow⟩
    have hk : k ∉ l := fun hmem => (h.mem_iff k).mp hmem hnone
    refine ⟨?_, fun a => ?_, ?_⟩
    · refine List.nodup_append.mpr ⟨h.nodup, List.nodup_singleton k, ?_⟩
      rintro a ha b hb rfl
      exact hk (List.mem_singleton.mp hb ▸ ha)
    · rw [List.mem_append, List.mem_singleton, h.mem_iff]
      by_cases ha : a = k
      · simp [ha]
      · simp [ha]
    · rw [List.filterMap_append, filterMap_update hk, List.pairwise_append]
      refine ⟨h.increasing, ?_, ?_⟩
      · exact List.pairwise_filterMap.mpr (List.pairwise_singleton _ _)
      · intro y hy x hx
        obtain ⟨a, -, hy⟩ := List.mem_filterMap.mp hy
        obtain ⟨b, hb, hx⟩ := List.mem_filterMap.mp hx
        rw [List.mem_singleton.mp hb] at hx
        exact hbelow x ((hnew x).mp hx) a y hy

end Listing
