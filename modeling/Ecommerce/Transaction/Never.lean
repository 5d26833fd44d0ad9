import Ecommerce.Transaction.Serial

set_option autoImplicit false

/-!
# Errors that a body never throws
-/

namespace Transaction

variable {K : Type} {V : K → Type} {E A B : Type}

/-- Whatever the statements of the body read and draw, none of them fails with the error. -/
def Prog.Never (bad : E) : Prog K V E A → Prop
  | .pure _ => True
  | .throw error => error ≠ bad
  | .fresh next => ∀ value, (next value).Never bad
  | .select next => ∀ rows, (next rows).Never bad
  | .write _ change next =>
      (∀ row error, change row = .error error → error ≠ bad) ∧ ∀ row, (next row).Never bad

variable {bad : E}

theorem Prog.Never.bind {body : Prog K V E A} {rest : A → Prog K V E B} (first : body.Never bad)
    (second : ∀ value, (rest value).Never bad) : (body >>= rest).Never bad := by
  induction body with
  | pure value => exact second value
  | throw => exact first
  | fresh next ih => exact fun value => ih value (first value)
  | select next ih => exact fun rows => ih rows (first rows)
  | write key change next ih => exact ⟨first.1, fun row => ih row (first.2 row)⟩

variable [DecidableEq K]

theorem Prog.Never.exec {body : Prog K V E A} (never : body.Never bad) {writes : Writes K V}
    {rows : Store K V} {supply : Nat} : body.exec none writes rows supply ≠ .error bad := by
  intro failed
  induction body generalizing writes supply with
  | pure => cases failed
  | throw error =>
      cases failed
      exact never rfl
  | fresh next ih => exact ih supply (never supply) failed
  | select next ih => exact ih _ (never _) failed
  | write key change next ih =>
      simp only [Prog.exec] at failed
      cases changed : change (writes.over rows key) with
      | error error =>
          rw [changed] at failed
          cases failed
          exact never.1 _ _ changed rfl
      | ok row =>
          rw [changed] at failed
          exact ih row (never.2 row) failed

theorem Prog.Never.transaction {body : Prog K V E A} (never : body.Never bad) {rows : Store K V}
    {supply : Nat} : body.transaction none rows supply ≠ .error bad := by
  intro failed
  unfold Prog.transaction at failed
  cases ran : body.exec none .none rows supply with
  | ok =>
      rw [ran] at failed
      cases failed
  | error error =>
      rw [ran] at failed
      cases failed
      exact never.exec ran

end Transaction
