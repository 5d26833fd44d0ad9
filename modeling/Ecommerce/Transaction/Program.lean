import Mathlib.Logic.Function.Basic
import Mathlib.Control.Basic

set_option autoImplicit false

/-!
# Transaction bodies

A transaction body is a tree of statements. A statement reads every row that is visible to
it, or replaces one row, and what follows depends on its answer.
-/

namespace Transaction

abbrev Store (K : Type) (V : K → Type) := (key : K) → Option (V key)

section Store

variable {K : Type} [DecidableEq K] {V : K → Type}

def Store.set (rows : Store K V) (key : K) (row : V key) : Store K V :=
  Function.update rows key (some row)

@[simp] theorem Store.set_same (rows : Store K V) (key : K) (row : V key) :
    rows.set key row key = some row := Function.update_self ..

theorem Store.set_other (rows : Store K V) {key other : K} (row : V key) (different : other ≠ key) :
    rows.set key row other = rows other := Function.update_of_ne different ..

end Store

inductive Prog (K : Type) (V : K → Type) (E A : Type) where
  | pure (value : A)
  | throw (error : E)
  -- A value that was not drawn before, from outside the database.
  | fresh (next : Nat → Prog K V E A)
  | select (next : Store K V → Prog K V E A)
  -- The change sees the latest version of the row, and the answer is the new version.
  | write (key : K) (change : Option (V key) → Except E (Option (V key)))
      (next : Option (V key) → Prog K V E A)

namespace Prog

variable {K : Type} {V : K → Type} {E A B : Type}

def bind : Prog K V E A → (A → Prog K V E B) → Prog K V E B
  | .pure value, rest => rest value
  | .throw error, _ => .throw error
  | .fresh next, rest => .fresh fun value => (next value).bind rest
  | .select next, rest => .select fun rows => (next rows).bind rest
  | .write key change next, rest => .write key change fun row => (next row).bind rest

instance : Monad (Prog K V E) where
  pure := .pure
  bind := bind

@[simp] theorem bind_pure (value : A) (rest : A → Prog K V E B) :
    (Prog.pure value >>= rest) = rest value := rfl

@[simp] theorem bind_fresh (next : Nat → Prog K V E A) (rest : A → Prog K V E B) :
    (Prog.fresh next >>= rest) = .fresh fun value => next value >>= rest := rfl

@[simp] theorem bind_select (next : Store K V → Prog K V E A) (rest : A → Prog K V E B) :
    (Prog.select next >>= rest) = .select fun rows => next rows >>= rest := rfl

@[simp] theorem bind_write (key : K) (change : Option (V key) → Except E (Option (V key)))
    (next : Option (V key) → Prog K V E A) (rest : A → Prog K V E B) :
    (Prog.write key change next >>= rest) = .write key change fun row => next row >>= rest := rfl

def forEach {I : Type} (items : List I) (body : I → Prog K V E Unit) : Prog K V E Unit :=
  match items with
  | [] => .pure ()
  | item :: rest => do
      body item
      forEach rest body

/-- A loop that pushes what its bodies answer. -/
def collect {I : Type} (items : List I) (found : List A) (body : I → Prog K V E (Option A)) :
    Prog K V E (List A) :=
  match items with
  | [] => .pure found
  | item :: rest => do
      let answer ← body item
      collect rest (found ++ answer.toList) body

end Prog

end Transaction
