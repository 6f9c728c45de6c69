import Mathlib.Logic.Function.Basic
import Mathlib.Tactic.Common

/-!
# A keyspace of strings and hashes

The part of Redis that keeps strings and hashes: one map from keys to values, on which commands are executed
one at a time.  A command works on one key, so it is an operation on what the key holds; an operation on a
value of another type is refused.  A key that is written with a time to live is gone after it; here it is
gone at some moment.

A program uses a family of keys, with a key `key i` for every name `i`.  `Holds key db entries` says that the
keyspace `db` has the `entries` under these names and nothing else.  If different names have different keys
then an operation on one of them changes its entry, and no other (`Holds.exec`).
-/

namespace Keyspace

/-! ### Integers -/

def maxInt64 : Int := 0x7fffffffffffffff

/-- An integer of 64 bits. -/
def int64? (n : Int) : Option Int := if -maxInt64 - 1 ≤ n ∧ n ≤ maxInt64 then some n else none

/-- The number of the digits with its sign, if it has 64 bits. -/
def ofDigits (negative : Bool) (digits : List Char) : Option Int :=
  if digits.isEmpty ∨ ¬ digits.all Char.isDigit then none
  else int64? (if negative then -(Nat.ofDigitChars 10 digits 0 : Int) else Nat.ofDigitChars 10 digits 0)

/-- A decimal integer, with or without a sign. -/
def parseInt (s : String) : Option Int :=
  match s.toList with
  | '-' :: digits => ofDigits true digits
  | '+' :: digits => ofDigits false digits
  | digits => ofDigits false digits

/-- A decimal integer, as `INCR` takes it: without a plus, and without zeros in front. -/
def readInt (s : String) : Option Int := (parseInt s).filter fun n => toString n = s

/-! ### Commands -/

inductive Value where
  | string (s : String)
  | hash (fields : List (String × String))
  deriving DecidableEq, Repr

/-- What a key holds, and whether it has a time to live. -/
structure Entry where
  value : Value
  volatile : Bool
  deriving DecidableEq, Repr

abbrev State := String → Option Entry

/-- What a command does with its key. -/
inductive Op where
  | get
  /-- `SET`, with a time to live or without. -/
  | set (s : String) (volatile : Bool)
  | del
  | incr
  | hSet (field value : String)
  | hDel (field : String)
  | hGetAll
  deriving DecidableEq, Repr

/-- The reply to a command; a command that fails is answered with the text of the error. -/
@[reducible] def Reply : Op → Type
  | .get => Except String (Option String)
  | .set _ _ => Except String Unit
  | .del => Int
  | .incr => Except String Int
  | .hSet _ _ => Except String Int
  | .hDel _ => Except String Int
  | .hGetAll => Except String (List (String × String))

def wrongType : String := "WRONGTYPE Operation against a key holding the wrong kind of value"

def notAnInteger : String := "ERR value is not an integer or out of range"

def overflow : String := "ERR increment or decrement would overflow"

/-- The fields of a hash without one; their order says nothing. -/
def without (fields : List (String × String)) (field : String) : List (String × String) :=
  fields.filter fun entry => entry.1 ≠ field

/-- How many fields of the name there are. -/
def count (fields : List (String × String)) (field : String) : Int :=
  (fields.countP fun entry => entry.1 = field : ℕ)

/-- An operation on what its key holds, and the reply.  A hash without fields is no hash. -/
def Op.run : (op : Op) → Option Entry → Option Entry × Reply op
  | .get, none => (none, .ok none)
  | .get, some ⟨.string s, v⟩ => (some ⟨.string s, v⟩, .ok (some s))
  | .get, some ⟨.hash fields, v⟩ => (some ⟨.hash fields, v⟩, .error wrongType)
  | .set s volatile, _ => (some ⟨.string s, volatile⟩, .ok ())
  | .del, entry => (none, if entry.isSome then 1 else 0)
  | .incr, none => (some ⟨.string (toString (1 : Int)), false⟩, .ok 1)
  | .incr, some ⟨.string s, v⟩ =>
    match readInt s with
    | none => (some ⟨.string s, v⟩, .error notAnInteger)
    | some n =>
      if n = maxInt64 then (some ⟨.string s, v⟩, .error overflow)
      else (some ⟨.string (toString (n + 1)), v⟩, .ok (n + 1))
  | .incr, some ⟨.hash fields, v⟩ => (some ⟨.hash fields, v⟩, .error wrongType)
  | .hSet field value, none => (some ⟨.hash [(field, value)], false⟩, .ok 1)
  | .hSet _ _, some ⟨.string s, v⟩ => (some ⟨.string s, v⟩, .error wrongType)
  | .hSet field value, some ⟨.hash fields, v⟩ =>
    (some ⟨.hash (without fields field ++ [(field, value)]), v⟩, .ok (1 - count fields field))
  | .hDel _, none => (none, .ok 0)
  | .hDel _, some ⟨.string s, v⟩ => (some ⟨.string s, v⟩, .error wrongType)
  | .hDel field, some ⟨.hash fields, v⟩ =>
    (if without fields field = [] then none else some ⟨.hash (without fields field), v⟩,
      .ok (count fields field))
  | .hGetAll, none => (none, .ok [])
  | .hGetAll, some ⟨.string s, v⟩ => (some ⟨.string s, v⟩, .error wrongType)
  | .hGetAll, some ⟨.hash fields, v⟩ => (some ⟨.hash fields, v⟩, .ok fields)

/-- The command `op key`. -/
def exec (db : State) (key : String) (op : Op) : State × Reply op :=
  (Function.update db key (op.run (db key)).1, (op.run (db key)).2)

/-- A key expires; only one with a time to live does. -/
def expire (db : State) (key : String) : Option State :=
  match db key with
  | some ⟨_, true⟩ => some (Function.update db key none)
  | _ => none

/-! ### Integers that are written and read -/

theorem ofDigits_toDigits (negative : Bool) (n : ℕ) :
    ofDigits negative (Nat.toDigits 10 n) = int64? (if negative then -(n : Int) else n) := by
  have hempty : ¬ (Nat.toDigits 10 n).isEmpty = true := fun h =>
    Nat.toDigits_ne_nil (List.isEmpty_iff.mp h)
  have hall : (Nat.toDigits 10 n).all Char.isDigit = true := by
    rw [List.all_eq_true]
    intro c hc
    exact Nat.isDigit_of_mem_toDigits (by decide) (by decide) hc
  unfold ofDigits
  rw [if_neg (not_or.mpr ⟨hempty, not_not.mpr hall⟩), Nat.ofDigitChars_ten_toDigits]

/-- An integer is read as it was written. -/
theorem parseInt_toString (n : Int) : parseInt (toString n) = int64? n := by
  cases n with
  | ofNat n =>
    have htext : (toString (Int.ofNat n)).toList = Nat.toDigits 10 n := by
      show (Nat.repr n).toList = _
      simp [Nat.repr]
    have hdigits : ∀ c ∈ Nat.toDigits 10 n, c.isDigit = true := fun c hc =>
      Nat.isDigit_of_mem_toDigits (by decide) (by decide) hc
    unfold parseInt
    rw [htext]
    split
    · rename_i heq
      exact absurd (hdigits '-' (by rw [heq]; exact List.mem_cons_self)) (by decide)
    · rename_i heq
      exact absurd (hdigits '+' (by rw [heq]; exact List.mem_cons_self)) (by decide)
    · exact ofDigits_toDigits false n
  | negSucc n =>
    have htext : (toString (Int.negSucc n)).toList = '-' :: Nat.toDigits 10 (n + 1) := by
      show ("-" ++ Nat.repr (n + 1)).toList = _
      simp [Nat.repr]
    unfold parseInt
    rw [htext]
    exact ofDigits_toDigits true (n + 1)

theorem readInt_toString {n : Int} (hlo : -maxInt64 - 1 ≤ n) (hhi : n ≤ maxInt64) :
    readInt (toString n) = some n := by
  unfold readInt
  rw [parseInt_toString, int64?, if_pos ⟨hlo, hhi⟩]
  simp

theorem parseInt_of_readInt {s : String} {n : Int} (h : readInt s = some n) : parseInt s = some n :=
  (Option.filter_eq_some_iff.mp h).1

/-! ### A family of keys -/

section Family

variable {ι : Type*} {key : ι → String} {db : State} {entries entries' : ι → Option Entry}

/-- The keyspace has these entries under the keys of the family, and nothing under any other key. -/
structure Holds (key : ι → String) (db : State) (entries : ι → Option Entry) : Prop where
  entry : ∀ i, db (key i) = entries i
  other : ∀ k, (∀ i, key i ≠ k) → db k = none

/-- What a key comes to hold, if no other name stands for it. -/
theorem Holds.update (hkey : Function.Injective key) (h : Holds key db entries) {i : ι}
    (hframe : ∀ j, j ≠ i → entries' j = entries j) :
    Holds key (Function.update db (key i) (entries' i)) entries' := by
  constructor
  · intro j
    by_cases hj : j = i
    · rw [hj, Function.update_self]
    · rw [Function.update_of_ne fun heq => hj (hkey heq), h.entry j, hframe j hj]
  · intro k hk
    rw [Function.update_of_ne (hk i).symm]
    exact h.other k hk

/-- **An operation changes the entry of its own name.** -/
theorem Holds.exec (hkey : Function.Injective key) (h : Holds key db entries) {i : ι} {op : Op}
    (hentry : entries' i = (op.run (entries i)).1) (hframe : ∀ j, j ≠ i → entries' j = entries j) :
    Holds key (exec db (key i) op).1 entries' := by
  have hupdate : Holds key (Function.update db (key i) (entries' i)) entries' := h.update hkey hframe
  rw [hentry, ← h.entry i] at hupdate
  exact hupdate

/-- It is answered by this entry. -/
theorem Holds.reply (h : Holds key db entries) (i : ι) (op : Op) :
    (Keyspace.exec db (key i) op).2 = (op.run (entries i)).2 := by
  rw [← h.entry i]
  rfl

/-- What expires had a time to live, and leaves the other entries. -/
theorem Holds.expire (hkey : Function.Injective key) (h : Holds key db entries) {i : ι} {db' : State}
    (hexpire : expire db (key i) = some db') : (∃ value, entries i = some ⟨value, true⟩) ∧
      ∀ entries', entries' i = none → (∀ j, j ≠ i → entries' j = entries j) → Holds key db' entries' := by
  unfold Keyspace.expire at hexpire
  rw [h.entry i] at hexpire
  split at hexpire
  · rename_i value heq
    obtain rfl := Option.some.inj hexpire
    refine ⟨⟨value, heq⟩, fun entries' hnone hframe => ?_⟩
    have hupdate := h.update hkey hframe
    rw [hnone] at hupdate
    exact hupdate
  · cases hexpire

end Family

end Keyspace
