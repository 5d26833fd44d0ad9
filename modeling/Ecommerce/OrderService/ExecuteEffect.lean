import Ecommerce.OrderService.CreateEffect
import Ecommerce.OrderService.Execute

set_option autoImplicit false

/-!
# What the transaction of a call does to the idempotency keys
-/

namespace Ecommerce.OrderService

open Transaction

def Call.completed (config : Config) (call : Call) (value : OrderResponse × Nat) : IdempotencyKey :=
  { requestHash := call.requestHash
    status := .completed
    response := some value.1
    statusCode := some value.2
    expiresAt := some (call.now + config.idempotencyTtlSeconds * 1000) }

/-- What a call's work answers, on whatever database it runs. -/
def Call.Promises (promised : Call → OrderResponse × Nat → Prop) (call : Call) : Prop :=
  ∀ inv rely writes rows, wp inv rely (fun _ => True)
    (onRows call.work : Prog (TableKey Key) (TableRow Row) TxError _)
    (fun value _ _ => promised call value) writes rows

structure ExecuteEffect (config : Config) (uuid : ToUuid)
    (promised : Call → OrderResponse × Nat → Prop) (call : Call) (value : OrderResponse × Nat)
    (rows : OrderDb) (writes : Writes (TableKey Key) (TableRow Row)) : Prop where
  unclaimed : rows (idempotencyKey (uuid call.key)) = none
  claimed : writes (idempotencyKey (uuid call.key)) = some (some (call.completed config value))
  others : ∀ key, key ≠ uuid call.key → writes (idempotencyKey key) = none
  answer : promised call value

/-- Every idempotency key that is there is completed. -/
def Completed (database : OrderDb) : Prop :=
  ∀ key (row : IdempotencyKey), database (idempotencyKey key) = some row →
    row.status = .completed ∧ row.response ≠ none ∧ row.statusCode ≠ none

def KeysKept (before after : OrderDb) : Prop :=
  ∀ key (row : IdempotencyKey), before (idempotencyKey key) = some row →
    after (idempotencyKey key) = some row

section Wp

variable {config : Config} {uuid : ToUuid} {promised : Call → OrderResponse × Nat → Prop}
variable {inv : OrderDb → Prop} {rely : OrderDb → OrderDb → Prop} {call : Call}

def onTable (keys : Key → Prop) : TableKey Key → Prop
  | .row key => keys key
  | .processed _ _ => False

theorem onRows_leaves {A : Type} {keys : Key → Prop} {body : Tx A} (leaves : body.Leaves keys) :
    (onRows body : Prog (TableKey Key) (TableRow Row) TxError A).Leaves (onTable keys) := by
  induction body with
  | pure | throw => trivial
  | fresh next ih => exact fun value => ih value (leaves value)
  | select next ih => exact fun database => ih _ (leaves _)
  | write key change next ih => exact ⟨leaves.1, fun row => ih row (leaves.2 row)⟩

theorem Call.wp_body (promises : call.Promises promised) (rows : OrderDb) :
    wp inv rely (fun _ => True) (call.body config uuid)
      (Commits inv rely (ExecuteEffect config uuid promised) call) .none rows := by
  simp only [Call.body, executeTx, onRows_bind, onRows_create, wp_bind, wp_create]
  intro claiming one unclaimed
  generalize claim : (Writes.none : Writes (TableKey Key) (TableRow Row)).put _ _ = claimed
  have mine : claimed (idempotencyKey (uuid call.key)) ≠ none := by
    rw [← claim]
    simp [Writes.put]
  have stays (writes : Writes (TableKey Key) (TableRow Row)) (before after : OrderDb)
      (same : ∀ key, onTable isIdempotencyKey key → writes key = claimed key)
      (interference : Interferes inv rely writes before after)
      (unclaimed : before (idempotencyKey (uuid call.key)) = none) :
      after (idempotencyKey (uuid call.key)) = none := by
    have locked : writes (idempotencyKey (uuid call.key)) ≠ none := by
      rw [same (idempotencyKey (uuid call.key)) trivial]
      exact mine
    rw [interference.frame _ locked, unclaimed]
  have working := wp_and _ _ _
    (wp_leaves (onRows_leaves call.leaves) claimed claimed claiming (fun _ _ => rfl) stays unclaimed)
    (promises inv rely claimed claiming)
  refine wp_mono ?_ _ _ _ working
  rintro value writes rows ⟨⟨same, unclaimed⟩, answer⟩
  have keyed (key : Uuid) : writes (idempotencyKey key) = claimed (idempotencyKey key) :=
    same (idempotencyKey key) trivial
  simp only [onRows_update, onRows_pure, wp_bind, wp_update, wp_pure]
  intro completing two row found last three
  have locked : writes (idempotencyKey (uuid call.key)) ≠ none := by
    rw [keyed]
    exact mine
  refine ⟨?_, ?_, ?_, answer⟩
  · rw [three.unput.frame _ locked, two.frame _ locked, unclaimed]
  · -- The completion updates the row that the claim has inserted.
    rw [Writes.over, keyed, ← claim] at found
    simp only [Writes.put, Function.update_self, Option.getD_some, Option.some.injEq] at found
    simp [Writes.put, ← found, Call.completed]
  · intro key different
    rw [Writes.put_other _ _ (by simpa using different), keyed, ← claim,
      Writes.put_other _ _ (by simpa using different)]
    rfl

theorem ExecuteEffect.keeps {value : OrderResponse × Nat} {rows : OrderDb}
    {writes : Writes (TableKey Key) (TableRow Row)} (completed : Completed rows)
    (effect : ExecuteEffect config uuid promised call value rows writes) :
    Completed (writes.over rows) ∧ KeysKept rows (writes.over rows) := by
  constructor
  · intro key row found
    by_cases same : key = uuid call.key
    · subst same
      rw [Writes.over, effect.claimed] at found
      cases found
      simp [Call.completed]
    · rw [Writes.over, effect.others key same] at found
      exact completed key row found
  · intro key row found
    have different : key ≠ uuid call.key := by
      rintro rfl
      cases effect.unclaimed.symm.trans found
    rw [Writes.over, effect.others key different]
    exact found

theorem executeDiscipline (config : Config) (uuid : ToUuid)
    (promised : Call → OrderResponse × Nat → Prop) :
    Discipline Completed KeysKept (ExecuteEffect config uuid promised) (Call.body config uuid)
      (Call.Promises promised) where
  relyRefl _ _ _ := id
  relyTrans _ _ _ one two key row found := two key row (one key row found)
  starts call promises rows _ := call.wp_body promises rows
  keeps _ _ _ _ _ completed effect := effect.keeps completed

end Wp

end Ecommerce.OrderService
