import Mathlib.Logic.Basic

set_option autoImplicit false

/-!
# What one party sees of a run

A view that the actions of the others leave alone, and that its own actions change by what is in
the view, is determined by its own actions.
-/

namespace Machine

variable {S A V : Type} (step : S → A → S) (view : S → V) (mine : A → Bool)

/-- The view is closed: nothing outside of it has a part in what it becomes. -/
structure Closed : Prop where
  others : ∀ state action, mine action = false → view (step state action) = view state
  own : ∀ one other action, mine action = true → view one = view other →
    view (step one action) = view (step other action)

variable {step view mine} {one other : S}

theorem Closed.purged (closed : Closed step view mine) (same : view one = view other)
    (actions : List A) :
    view (actions.foldl step one) = view ((actions.filter mine).foldl step other) := by
  induction actions generalizing one other with
  | nil => exact same
  | cons action rest ih =>
      rw [List.foldl_cons, List.filter_cons]
      cases owned : mine action with
      | false => exact ih ((closed.others one action owned).trans same)
      | true => exact ih (closed.own one other action owned same)

theorem Closed.determined (closed : Closed step view mine) {left right : List A}
    (same : view one = view other) (agree : left.filter mine = right.filter mine) :
    view (left.foldl step one) = view (right.foldl step other) := by
  rw [closed.purged same left, agree]
  exact (closed.purged rfl right).symm

end Machine
