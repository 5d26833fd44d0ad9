import Ecommerce.Transaction.WeakestPrecondition

set_option autoImplicit false

/-!
# Bodies that leave rows alone
-/

namespace Transaction

variable {K : Type} {V : K → Type} {E A B : Type}

/-- No statement of the body writes one of the keys. -/
def Prog.Leaves (keys : K → Prop) : Prog K V E A → Prop
  | .pure _ => True
  | .throw _ => True
  | .fresh next => ∀ value, (next value).Leaves keys
  | .select next => ∀ rows, (next rows).Leaves keys
  | .write key _ next => ¬ keys key ∧ ∀ row, (next row).Leaves keys

variable {keys : K → Prop} {inv : Store K V → Prop} {rely : Store K V → Store K V → Prop}
variable {draws : Nat → Prop}

theorem Prog.Leaves.bind {body : Prog K V E A} {rest : A → Prog K V E B}
    (first : body.Leaves keys) (second : ∀ value, (rest value).Leaves keys) :
    (body >>= rest).Leaves keys := by
  induction body with
  | pure value => exact second value
  | throw => trivial
  | fresh next ih => exact fun value => ih value (first value)
  | select next ih => exact fun rows => ih rows (first rows)
  | write key change next ih => exact ⟨first.1, fun row => ih row (first.2 row)⟩

section Rules

variable [DecidableEq K]

theorem wp_and {one two : A → Writes K V → Store K V → Prop} (body : Prog K V E A)
    (writes : Writes K V) (rows : Store K V) (first : wp inv rely draws body one writes rows)
    (second : wp inv rely draws body two writes rows) :
    wp inv rely draws body (fun value writes rows => one value writes rows ∧ two value writes rows)
      writes rows := by
  induction body generalizing writes rows with
  | pure => exact ⟨first, second⟩
  | throw => trivial
  | fresh next ih =>
      exact fun value drawn => ih value writes rows (first value drawn) (second value drawn)
  | select next ih =>
      exact fun now interference => ih _ writes now (first now interference) (second now interference)
  | write key change next ih =>
      exact fun now interference row changed =>
        ih row _ now (first now interference row changed) (second now interference row changed)

theorem Writes.put_other (writes : Writes K V) {key other : K} (row : Option (V key))
    (different : other ≠ key) : writes.put key row other = writes other :=
  Function.update_of_ne different ..

/-- A body that leaves the keys alone has the same writes there at its end, and what the rows
promise to a session with these writes. -/
theorem wp_leaves {promise : Store K V → Prop} {body : Prog K V E A} (leaves : body.Leaves keys)
    (start writes : Writes K V) (rows : Store K V)
    (same : ∀ key, keys key → writes key = start key)
    (stays : ∀ writes before after, (∀ key, keys key → writes key = start key) →
      Interferes inv rely writes before after → promise before → promise after)
    (holds : promise rows) :
    wp inv rely draws body
      (fun _ writes rows => (∀ key, keys key → writes key = start key) ∧ promise rows)
      writes rows := by
  induction body generalizing writes rows with
  | pure => exact ⟨same, holds⟩
  | throw => trivial
  | fresh next ih => exact fun value _ => ih value (leaves value) writes rows same holds
  | select next ih =>
      exact fun now interference =>
        ih _ (leaves _) writes now same (stays writes rows now same interference holds)
  | write key change next ih =>
      intro now interference row _
      apply ih row (leaves.2 row) _ now
      · intro other listed
        have different : other ≠ key := fun match_ => leaves.1 (match_ ▸ listed)
        rw [Writes.put_other _ _ different]
        exact same other listed
      · exact stays writes rows now same interference holds

end Rules

end Transaction
