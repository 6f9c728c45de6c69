import Mathlib.Data.List.Sort
import Mathlib.Data.List.Pairwise
import Mathlib.Order.Basic
import Mathlib.Tactic.Common

/-!
# Keyset pagination

A list `l` with a key function is read in pages: `page key l c n` holds the first `n` entries
whose key is above the cursor `c`, and the cursor then moves to the key of the last entry of the
page (`next`).  On a list whose keys are strictly increasing a page is an interval of keys:

* `mem_page_of_le_next`: every entry with a key above the cursor and up to the last key of the
  page is in the page.
* `filter_next`: what is above the next cursor is what was above the cursor, less the page.

* `lt_of_mem_page_of_le_countP` and `le_next_of_countP_lt`: a page stays below a key if there is a
  page's worth of entries before it, and reaches it if there is not.

Hence the pages read one after the other, with any positive page sizes, partition the entries
above the first cursor (`flatMap_pages`), and there are only finitely many non-empty ones
(`exists_page_eq_nil`).
-/

namespace Keyset

variable {α β : Type*} [LinearOrder β] (key : α → β)

/-- The first `n` entries of `l` with a key above the cursor `c`. -/
def page (l : List α) (c : β) (n : ℕ) : List α := (l.filter fun a => c < key a).take n

/-- The cursor after a page: the key of its last entry, and the old cursor if it is empty. -/
def next (c : β) (p : List α) : β := (p.getLast?.map key).getD c

/-- The cursor before the `k`-th page, when the page sizes are `sizes`. -/
def cursor (l : List α) (c : β) (sizes : ℕ → ℕ) : ℕ → β
  | 0 => c
  | k + 1 => next key (cursor l c sizes k) (page key l (cursor l c sizes k) (sizes k))

/-- The `k`-th page. -/
def pageAt (l : List α) (c : β) (sizes : ℕ → ℕ) (k : ℕ) : List α :=
  page key l (cursor key l c sizes k) (sizes k)

variable {key} {l : List α} {c : β} {n : ℕ}

theorem page_sublist : (page key l c n).Sublist l :=
  (List.take_sublist ..).trans List.filter_sublist

theorem lt_of_mem_page {a : α} (h : a ∈ page key l c n) : c < key a := by
  have := List.mem_of_mem_take h
  rw [List.mem_filter] at this
  simpa using this.2

theorem page_pairwise (hl : l.Pairwise fun a b => key a < key b) :
    (page key l c n).Pairwise fun a b => key a < key b :=
  hl.sublist page_sublist

/-- The cursor never moves back. -/
theorem le_next : c ≤ next key c (page key l c n) := by
  rw [next]
  cases hlast : (page key l c n).getLast? with
  | none => exact le_rfl
  | some z => exact (lt_of_mem_page (List.mem_of_getLast? hlast)).le

/-- The last entry of a page has its largest key. -/
theorem le_next_of_mem_page (hl : l.Pairwise fun a b => key a < key b) {a : α}
    (h : a ∈ page key l c n) : key a ≤ next key c (page key l c n) := by
  obtain ⟨init, z, hz⟩ := (List.eq_nil_or_concat' _).resolve_left (List.ne_nil_of_mem h)
  have hp := page_pairwise (c := c) (n := n) hl
  rw [hz] at hp h ⊢
  rw [next, List.getLast?_concat, Option.map_some, Option.getD_some]
  rcases List.mem_append.mp h with h | h
  · exact (List.pairwise_append.mp hp).2.2 a h z (List.mem_singleton_self z) |>.le
  · rw [List.mem_singleton.mp h]

/-- An entry above the cursor that is left out of the page has a key above all of the page. -/
theorem next_lt_of_not_mem_page (hl : l.Pairwise fun a b => key a < key b) {a : α} (ha : a ∈ l)
    (hc : c < key a) (h : a ∉ page key l c n) : next key c (page key l c n) < key a := by
  have hf : a ∈ l.filter fun a => c < key a := List.mem_filter.mpr ⟨ha, by simpa using hc⟩
  have hp := hl.sublist (List.filter_sublist (p := fun a => c < key a))
  rw [← List.take_append_drop n (l.filter _)] at hf hp
  have hdrop : a ∈ (l.filter fun a => c < key a).drop n := (List.mem_append.mp hf).resolve_left h
  rw [next]
  cases hlast : (page key l c n).getLast? with
  | none => simpa using hc
  | some z =>
    rw [Option.map_some, Option.getD_some]
    exact (List.pairwise_append.mp hp).2.2 z (List.mem_of_getLast? hlast) a hdrop

/-- **A page is an interval of keys**: it holds every entry of `l` above the cursor and up to its
own last key. -/
theorem mem_page_of_le_next (hl : l.Pairwise fun a b => key a < key b) {a : α} (ha : a ∈ l)
    (hc : c < key a) (hle : key a ≤ next key c (page key l c n)) : a ∈ page key l c n := by
  by_contra h
  exact (next_lt_of_not_mem_page hl ha hc h).not_ge hle

/-- A page of `n` entries stays below a key that has `n` entries between the cursor and itself. -/
theorem lt_of_mem_page_of_le_countP (hl : l.Pairwise fun a b => key a < key b) {v : β}
    (hn : n ≤ l.countP fun a => c < key a ∧ key a < v) {a : α} (h : a ∈ page key l c n) :
    key a < v := by
  by_contra hav
  have hp := hl.sublist (List.filter_sublist (p := fun a => c < key a))
  have hcount : (l.countP fun a => c < key a ∧ key a < v) =
      (l.filter fun a => c < key a).countP fun a => key a < v := by
    rw [List.countP_filter]
    exact List.countP_congr fun a _ => by simp [and_comm]
  rw [hcount, ← List.take_append_drop n (l.filter _), List.countP_append] at hn
  rw [← List.take_append_drop n (l.filter _), List.pairwise_append] at hp
  -- what comes after the page is above `a`, so not below `v`
  have hdrop : ((l.filter fun a => c < key a).drop n).countP (fun a => key a < v) = 0 := by
    rw [List.countP_eq_zero]
    intro b hb
    have hab := hp.2.2 a h b hb
    simpa using (not_lt.mp hav).trans hab.le
  -- and `a` itself is one of the page that is not below `v`
  have htake : ((l.filter fun a => c < key a).take n).countP (fun a => key a < v) <
      ((l.filter fun a => c < key a).take n).length := by
    refine lt_of_le_of_ne List.countP_le_length fun heq => ?_
    rw [List.countP_eq_length] at heq
    exact hav (by simpa using heq a h)
  have hlen : ((l.filter fun a => c < key a).take n).length ≤ n := List.length_take_le ..
  omega

/-- A page reaches every key that has an entry at or above it, and less than a page's worth of
entries between the cursor and itself. -/
theorem le_next_of_countP_lt (hl : l.Pairwise fun a b => key a < key b) {v : β}
    (hn : (l.countP fun a => c < key a ∧ key a < v) < n) {a : α} (ha : a ∈ l) (hc : c < key a)
    (hva : v ≤ key a) : v ≤ next key c (page key l c n) := by
  by_contra hlt
  rw [not_le] at hlt
  have hnot : a ∉ page key l c n := fun hmem =>
    ((le_next_of_mem_page hl hmem).trans_lt hlt).not_ge hva
  have hfilter : a ∈ l.filter fun a => c < key a := List.mem_filter.mpr ⟨ha, by simpa using hc⟩
  -- the page is full, and all of it lies between the cursor and `v`
  have hfull : (page key l c n).length = n := by
    rw [page, List.length_take, min_eq_left]
    by_contra hshort
    exact hnot (by rw [page, List.take_of_length_le (not_le.mp hshort).le]; exact hfilter)
  have hall : (page key l c n).countP (fun a => c < key a ∧ key a < v) =
      (page key l c n).length := by
    rw [List.countP_eq_length]
    intro b hb
    exact decide_eq_true ⟨lt_of_mem_page hb, (le_next_of_mem_page hl hb).trans_lt hlt⟩
  have hsub : (page key l c n).Sublist l := page_sublist
  have hle := hsub.countP_le (p := fun a => c < key a ∧ key a < v)
  omega

/-- What is above the next cursor is what was above the cursor, less the page. -/
theorem filter_next (hl : l.Pairwise fun a b => key a < key b) :
    (l.filter fun a => next key c (page key l c n) < key a) =
      (l.filter fun a => c < key a).drop n := by
  have hp := hl.sublist (List.filter_sublist (p := fun a => c < key a))
  have hsub : (l.filter fun a => next key c (page key l c n) < key a) =
      (l.filter fun a => c < key a).filter fun a => next key c (page key l c n) < key a := by
    rw [List.filter_filter]
    refine List.filter_congr fun a _ => ?_
    have hle : c ≤ next key c (page key l c n) := le_next
    by_cases h : next key c (page key l c n) < key a
    · simp [h, hle.trans_lt h]
    · simp [h]
  rw [hsub]
  conv_lhs => rw [← List.take_append_drop n (l.filter fun a => c < key a)]
  rw [List.filter_append]
  have htake : ((l.filter fun a => c < key a).take n).filter
      (fun a => next key c (page key l c n) < key a) = [] := by
    rw [List.filter_eq_nil_iff]
    intro a ha
    simpa using le_next_of_mem_page hl ha
  have hdrop : ((l.filter fun a => c < key a).drop n).filter
      (fun a => next key c (page key l c n) < key a) = (l.filter fun a => c < key a).drop n := by
    rw [List.filter_eq_self]
    intro a ha
    have haf : a ∈ l.filter fun a => c < key a := List.mem_of_mem_drop ha
    rw [List.mem_filter] at haf
    rw [decide_eq_true_eq]
    refine next_lt_of_not_mem_page hl haf.1 (by simpa using haf.2) fun hmem => ?_
    rw [← List.take_append_drop n (l.filter _), List.pairwise_append] at hp
    exact lt_irrefl _ (hp.2.2 a hmem a ha)
  rw [htake, hdrop, List.nil_append]

/-! ### Reading all pages -/

variable {sizes : ℕ → ℕ}

theorem cursor_succ (k : ℕ) :
    cursor key l c sizes (k + 1) = next key (cursor key l c sizes k) (pageAt key l c sizes k) :=
  rfl

theorem le_cursor (k : ℕ) : c ≤ cursor key l c sizes k := by
  induction k with
  | zero => exact le_rfl
  | succ k ih => exact ih.trans le_next

/-- The entries above the cursor split into the pages read so far and what is still above the
cursor. -/
theorem flatMap_pages_append (hl : l.Pairwise fun a b => key a < key b) (k : ℕ) :
    (List.range k).flatMap (pageAt key l c sizes) ++
        (l.filter fun a => cursor key l c sizes k < key a) =
      l.filter fun a => c < key a := by
  induction k with
  | zero => rfl
  | succ k ih =>
    rw [List.range_succ, List.flatMap_append, List.append_assoc, cursor_succ, pageAt,
      filter_next hl, List.flatMap_singleton, pageAt, page, List.take_append_drop]
    exact ih

/-- Every non-empty page leaves fewer entries above the cursor. -/
theorem length_remaining (hl : l.Pairwise fun a b => key a < key b) (hsizes : ∀ k, 0 < sizes k)
    (k : ℕ) (hne : ∀ j < k, pageAt key l c sizes j ≠ []) :
    (l.filter fun a => cursor key l c sizes k < key a).length + k ≤ l.length := by
  induction k with
  | zero => exact List.length_filter_le ..
  | succ k ih =>
    have hk := ih fun j hj => hne j (hj.trans k.lt_succ_self)
    have hpos : 0 < (l.filter fun a => cursor key l c sizes k < key a).length := by
      rw [List.length_pos_iff]
      intro hnil
      exact hne k k.lt_succ_self (by rw [pageAt, page, hnil, List.take_nil])
    rw [cursor_succ, pageAt, filter_next hl, List.length_drop]
    have := hsizes k
    omega

/-- Reading page after page reaches an empty page after finitely many. -/
theorem exists_page_eq_nil (hl : l.Pairwise fun a b => key a < key b)
    (hsizes : ∀ k, 0 < sizes k) :
    ∃ n, pageAt key l c sizes n = [] ∧ ∀ k < n, pageAt key l c sizes k ≠ [] := by
  have hex : ∃ n, pageAt key l c sizes n = [] := by
    by_contra h
    rw [not_exists] at h
    have := length_remaining (c := c) hl hsizes (l.length + 1) fun j _ => h j
    omega
  classical
  exact ⟨Nat.find hex, Nat.find_spec hex, fun k hk => Nat.find_min hex hk⟩

/-- **The pages up to the first empty one hold exactly the entries above the first cursor**, in
order and each once. -/
theorem flatMap_pages (hl : l.Pairwise fun a b => key a < key b) (hsizes : ∀ k, 0 < sizes k)
    {n : ℕ} (hn : pageAt key l c sizes n = []) :
    (List.range n).flatMap (pageAt key l c sizes) = l.filter fun a => c < key a := by
  have hrest : (l.filter fun a => cursor key l c sizes n < key a) = [] := by
    rcases List.take_eq_nil_iff.mp hn with h | h
    · exact absurd h (hsizes n).ne'
    · exact h
  rw [← flatMap_pages_append hl n, hrest, List.append_nil]

end Keyset
