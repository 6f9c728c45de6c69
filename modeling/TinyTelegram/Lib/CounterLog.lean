import Mathlib.Data.List.Infix
import Mathlib.Data.List.Nodup
import Mathlib.Tactic.Common

/-!
# Logs of counter increments

A log is the list of increments executed so far, oldest first.  Each entry names the counter it
incremented and carries a tag saying who asked for it.  The value of a counter is the number of
its entries (`count`), and the value an increment returned is the value of its counter just after
its own entry: `Issued l k t v` says that `l` holds an entry for counter `k` tagged `t` which
returned `v`.

A log only loses increments by being cut to a prefix, so what was issued in a prefix stays issued
with the same value (`Issued.mono`).  Within one log the value identifies the entry
(`Issued.tag_unique`), and an entry added later has a larger value (`Issued.count_lt`).
-/

namespace CounterLog

/-- An increment of the counter `key`, asked for by `tag`. -/
structure Entry (κ τ : Type*) where
  key : κ
  tag : τ
  deriving DecidableEq, Repr

variable {κ τ : Type*} [DecidableEq κ]

/-- The value of counter `k` after the increments of `l`. -/
def count (k : κ) (l : List (Entry κ τ)) : ℕ := l.countP fun e => e.key = k

/-- `l` holds an increment of `k` tagged `t`, and that increment returned `v`. -/
def Issued (l : List (Entry κ τ)) (k : κ) (t : τ) (v : ℕ) : Prop :=
  ∃ pre post, l = pre ++ ⟨k, t⟩ :: post ∧ v = count k pre + 1

/-! ### Counting -/

@[simp] theorem count_nil (k : κ) : count k ([] : List (Entry κ τ)) = 0 := rfl

theorem count_append (k : κ) (l l' : List (Entry κ τ)) :
    count k (l ++ l') = count k l + count k l' :=
  List.countP_append

theorem count_cons (k : κ) (e : Entry κ τ) (l : List (Entry κ τ)) :
    count k (e :: l) = count k l + if e.key = k then 1 else 0 := by
  rw [count, List.countP_cons]
  simp only [decide_eq_true_eq]
  rfl

theorem count_concat_self (k : κ) (t : τ) (l : List (Entry κ τ)) :
    count k (l ++ [⟨k, t⟩]) = count k l + 1 := by
  rw [count_append, count_cons]
  simp

theorem count_concat_of_ne {k k' : κ} (h : k' ≠ k) (t : τ) (l : List (Entry κ τ)) :
    count k (l ++ [⟨k', t⟩]) = count k l := by
  rw [count_append, count_cons]
  simp [h]

theorem count_mono {k : κ} {l l' : List (Entry κ τ)} (h : l <+: l') : count k l ≤ count k l' := by
  obtain ⟨m, rfl⟩ := h
  rw [count_append]
  exact Nat.le_add_right _ _

/-! ### Issued values -/

theorem Issued.mem {l : List (Entry κ τ)} {k : κ} {t : τ} {v : ℕ} (h : Issued l k t v) :
    (⟨k, t⟩ : Entry κ τ) ∈ l := by
  obtain ⟨pre, post, rfl, -⟩ := h
  simp

theorem Issued.pos {l : List (Entry κ τ)} {k : κ} {t : τ} {v : ℕ} (h : Issued l k t v) : 0 < v := by
  obtain ⟨pre, post, -, rfl⟩ := h
  exact Nat.succ_pos _

theorem Issued.le_count {l : List (Entry κ τ)} {k : κ} {t : τ} {v : ℕ} (h : Issued l k t v) :
    v ≤ count k l := by
  obtain ⟨pre, post, rfl, rfl⟩ := h
  rw [count_append, count_cons]
  simp

/-- An increment keeps its value when the log grows. -/
theorem Issued.mono {l l' : List (Entry κ τ)} {k : κ} {t : τ} {v : ℕ} (hl : l <+: l')
    (h : Issued l k t v) : Issued l' k t v := by
  obtain ⟨m, rfl⟩ := hl
  obtain ⟨pre, post, rfl, rfl⟩ := h
  exact ⟨pre, post ++ m, by simp, rfl⟩

/-- The increment executed next returns the value of its counter plus one. -/
theorem issued_concat (l : List (Entry κ τ)) (k : κ) (t : τ) :
    Issued (l ++ [⟨k, t⟩]) k t (count k l + 1) :=
  ⟨l, [], rfl, rfl⟩

/-- Two increments of one counter which returned the same value are the same entry, so they carry
the same tag: of two different entries of `k` the later one counts the earlier. -/
theorem Issued.tag_unique {l : List (Entry κ τ)} {k : κ} {t t' : τ} {v : ℕ} (h : Issued l k t v)
    (h' : Issued l k t' v) : t = t' := by
  obtain ⟨pre, post, rfl, rfl⟩ := h
  obtain ⟨pre', post', heq, hv⟩ := h'
  rcases List.append_eq_append_iff.mp heq with ⟨m, rfl, hm⟩ | ⟨m, rfl, hm⟩
  · cases m with
    | nil => simp only [List.nil_append, List.cons.injEq, Entry.mk.injEq] at hm; exact hm.1.2
    | cons e m =>
      obtain ⟨rfl, -⟩ := List.cons.inj (by simpa using hm)
      rw [count_append, count_cons] at hv
      simp at hv
  · cases m with
    | nil => simp only [List.nil_append, List.cons.injEq, Entry.mk.injEq] at hm; exact hm.1.2.symm
    | cons e m =>
      obtain ⟨rfl, -⟩ := List.cons.inj (by simpa using hm)
      rw [count_append, count_cons] at hv
      simp at hv

/-- An increment that is only in the longer log returned more than every increment of its counter
in the shorter one. -/
theorem Issued.count_lt {l l' : List (Entry κ τ)} {k : κ} {t : τ} {v : ℕ} (hl : l <+: l')
    (h : Issued l' k t v) (hnot : (⟨k, t⟩ : Entry κ τ) ∉ l) : count k l < v := by
  obtain ⟨pre, post, rfl, rfl⟩ := h
  obtain ⟨m, hm⟩ := hl
  rcases List.append_eq_append_iff.mp hm with ⟨w, rfl, -⟩ | ⟨w, rfl, hw⟩
  · rw [count_append]
    omega
  · cases w with
    | nil => simp
    | cons e w =>
      obtain ⟨rfl, -⟩ := List.cons.inj (by simpa using hw)
      exact absurd (by simp) hnot

/-! ### Stamps -/

/-- Wherever `t` occurs in a prefix of `l`, it is on the increment of `k` that returned `v`.  This
survives both growing the log and cutting it. -/
def Stamped (l : List (Entry κ τ)) (k : κ) (t : τ) (v : ℕ) : Prop :=
  ∀ l', l' <+: l → t ∈ l'.map Entry.tag → Issued l' k t v

theorem Stamped.cut {l l' : List (Entry κ τ)} {k : κ} {t : τ} {v : ℕ} (hl : l' <+: l)
    (h : Stamped l k t v) : Stamped l' k t v :=
  fun l'' hl'' => h l'' (hl''.trans hl)

theorem Stamped.concat {l : List (Entry κ τ)} {k : κ} {t : τ} {v : ℕ} (h : Stamped l k t v)
    {e : Entry κ τ} (he : e.tag ≠ t) : Stamped (l ++ [e]) k t v := by
  intro l' hl' ht
  rcases List.prefix_concat_iff.mp hl' with rfl | hl'
  · rw [List.map_append, List.mem_append] at ht
    rcases ht with ht | ht
    · exact (h l List.prefix_rfl ht).mono (List.prefix_append ..)
    · exact absurd (by simpa using ht : t = e.tag).symm he
  · exact h l' hl' ht

/-- A fresh tag is stamped by the increment that introduces it. -/
theorem stamped_concat {l : List (Entry κ τ)} {k : κ} {t : τ} (ht : t ∉ l.map Entry.tag) :
    Stamped (l ++ [⟨k, t⟩]) k t (count k l + 1) := by
  intro l' hl' ht'
  rcases List.prefix_concat_iff.mp hl' with rfl | hl'
  · exact issued_concat l k t
  · exact absurd ((hl'.map Entry.tag).subset ht') ht

end CounterLog
