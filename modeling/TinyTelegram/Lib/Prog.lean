import Mathlib.Tactic.Common

/-!
# Programs of remote commands

`Prog C R α` is a sequential program that returns an `α` and talks to the outside by commands
`c : C`, each answered by a reply in `R c`: the free monad over the signature.  It lets a function
that calls services be written down as the source has it, before saying how the services behave
or what runs in between two of its commands.

* `Prog.eval` runs a program against a fixed service, given as the reply to every command.
* `Prog.exec` runs it against a service with a state, which nobody else uses meanwhile.
* `Prog.Steps p l q` says that `q` is what is left of `p` after the commands and replies in `l`:
  the semantics against services that change between two commands.
-/

/-- A program that issues commands in `C`, each answered in `R`, and returns an `α`. -/
inductive Prog (C : Type) (R : C → Type) (α : Type) : Type where
  /-- Return. -/
  | pure (a : α)
  /-- Issue a command and go on with its reply. -/
  | call (c : C) (k : R c → Prog C R α)

namespace Prog

variable {C : Type} {R : C → Type} {α β : Type}

/-- Sequential composition. -/
def bind : Prog C R α → (α → Prog C R β) → Prog C R β
  | .pure a, f => f a
  | .call c k, f => .call c fun r => bind (k r) f

instance : Monad (Prog C R) where
  pure := Prog.pure
  bind := Prog.bind

@[simp] theorem pure_bind (a : α) (f : α → Prog C R β) : (Prog.pure a).bind f = f a := rfl

@[simp] theorem call_bind (c : C) (k : R c → Prog C R α) (f : α → Prog C R β) :
    (Prog.call c k).bind f = .call c fun r => (k r).bind f := rfl

@[simp] theorem pure_eq (a : α) : (Pure.pure a : Prog C R α) = .pure a := rfl

@[simp] theorem bind_eq (p : Prog C R α) (f : α → Prog C R β) : p >>= f = p.bind f := rfl

/-- Issue one command and return its reply. -/
def lift (c : C) : Prog C R (R c) := .call c .pure

/-- The result of the program when every command `c` is answered by `h c`. -/
def eval (h : ∀ c, R c) : Prog C R α → α
  | .pure a => a
  | .call c k => eval h (k (h c))

/-- The result of the program, and the state it leaves the service in, when a command `c` that finds
the service in the state `s` is answered, and changes the state, as `h s c` says. -/
def exec {σ : Type} (h : σ → (c : C) → R c × σ) : σ → Prog C R α → α × σ
  | s, .pure a => (a, s)
  | s, .call c k => exec h (h s c).2 (k (h s c).1)

/-- One program after the other. -/
theorem exec_bind {σ : Type} (h : σ → (c : C) → R c × σ) (p : Prog C R α) (f : α → Prog C R β) (s : σ) :
    (p.bind f).exec h s = (f (p.exec h s).1).exec h (p.exec h s).2 := by
  induction p generalizing s with
  | pure a => rfl
  | call c k ih => exact ih (h s c).1 (h s c).2

/-- What is left of a program after a sequence of commands and their replies. -/
inductive Steps : Prog C R α → List (Sigma R) → Prog C R α → Prop where
  | refl (p : Prog C R α) : Steps p [] p
  | call {c : C} {k : R c → Prog C R α} {r : R c} {l : List (Sigma R)} {q : Prog C R α} :
      Steps (k r) l q → Steps (.call c k) (⟨c, r⟩ :: l) q

theorem Steps.single (c : C) (k : R c → Prog C R α) (r : R c) : Steps (.call c k) [⟨c, r⟩] (k r) :=
  .call (.refl _)

theorem Steps.trans {p q r : Prog C R α} {l l' : List (Sigma R)} (h : Steps p l q)
    (h' : Steps q l' r) : Steps p (l ++ l') r := by
  induction h with
  | refl => exact h'
  | call _ ih => exact .call (ih h')

end Prog
