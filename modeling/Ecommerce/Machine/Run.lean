set_option autoImplicit false

/-!
# Runs of a machine

A machine is a partial step function. A run takes its actions one after the other, and exists
when each of them is possible where it is taken.
-/

namespace Machine

variable {S A : Type} (step : S → A → Option S)

def run (start : S) (actions : List A) : Option S :=
  actions.foldlM step start

/-- Each action of the run is taken in a state that it meets the condition in. -/
def Along (meets : S → A → Prop) : S → List A → Prop
  | _, [] => True
  | state, action :: rest =>
      meets state action ∧ ∀ next, step state action = some next → Along meets next rest

variable {step} {start last : S} {actions : List A}

theorem run_nil (ran : run step start [] = some last) : start = last :=
  Option.some.inj ran

theorem run_cons {action : A} {rest : List A}
    (ran : run step start (action :: rest) = some last) :
    ∃ next, step start action = some next ∧ run step next rest = some last := by
  unfold run at ran
  rw [List.foldlM_cons] at ran
  exact Option.bind_eq_some_iff.mp ran

theorem run_append {middle : S} {more : List A} (ran : run step start actions = some middle)
    (later : run step middle more = some last) : run step start (actions ++ more) = some last := by
  unfold run at *
  rw [List.foldlM_append, ran]
  exact later

theorem run_after {middle : S} {more : List A} (ran : run step start actions = some middle)
    (whole : run step start (actions ++ more) = some last) : run step middle more = some last := by
  unfold run at *
  rw [List.foldlM_append, ran] at whole
  exact whole

theorem run_snoc {middle : S} {action : A} (ran : run step start actions = some middle)
    (stepped : step middle action = some last) :
    run step start (actions ++ [action]) = some last := by
  apply run_append ran
  simp [run, stepped]

theorem run_invariant (inv : S → Prop)
    (keeps : ∀ state action next, inv state → step state action = some next → inv next)
    (holds : inv start) (ran : run step start actions = some last) : inv last := by
  induction actions generalizing start with
  | nil => exact run_nil ran ▸ holds
  | cons action rest ih =>
      obtain ⟨next, stepped, ran⟩ := run_cons ran
      exact ih (keeps start action next holds stepped) ran

/-- What a step keeps exactly when it meets a condition, a run keeps exactly when all its steps
do. -/
theorem run_iff_along {inv : S → Prop} (holds : S → Prop) {meets : S → A → Prop}
    (keeps : ∀ state action next, inv state → step state action = some next → inv next)
    (exact : ∀ state action next, inv state → step state action = some next →
      (holds next ↔ holds state ∧ meets state action))
    (sound : inv start) (ran : run step start actions = some last) :
    holds last ↔ holds start ∧ Along step meets start actions := by
  induction actions generalizing start with
  | nil =>
      rw [run_nil ran]
      simp [Along]
  | cons action rest ih =>
      obtain ⟨next, stepped, ran⟩ := run_cons ran
      rw [ih (keeps start action next sound stepped) ran, exact start action next sound stepped,
        and_assoc]
      simp [Along, stepped]

end Machine
