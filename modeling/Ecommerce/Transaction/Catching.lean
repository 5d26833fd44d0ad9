import Ecommerce.Transaction.Serial

set_option autoImplicit false

/-!
# Bodies that catch

An application is handed the failure of a statement and may go on. The database does not: a
statement that fails in it aborts the transaction, the later ones are refused, and a COMMIT then
rolls back without an error.
-/

namespace Transaction

/-- A body as it is written, with a `try` around any of its statements. What it draws or reads
elsewhere is part of the tree. -/
inductive Work (K : Type) (V : K → Type) (E A : Type) where
  | pure (value : A)
  | throw (error : E)
  | select (next : Except E (Store K V) → Work K V E A)
  | write (key : K) (change : Option (V key) → Except E (Option (V key)))
      (next : Except E (Option (V key)) → Work K V E A)

/-- What a transaction meets: the rows that the other sessions have committed by each of its
statements, and the statements that fail from outside. COMMIT is the last of them. -/
structure Surroundings (K : Type) (V : K → Type) (E : Type) where
  rows : Nat → Store K V
  fault : Nat → Option E

/-- Errors of the database. -/
structure Failures (E : Type) where
  aborts : E → Bool
  -- The answer to a statement of an aborted transaction.
  refused : E

structure Ended (K : Type) (V : K → Type) (E A : Type) where
  answer : Except E A
  aborted : Bool
  writes : Writes K V
  statements : Nat

section Exec

variable {K : Type} [DecidableEq K] {V : K → Type} {E A : Type}
variable (failures : Failures E) (around : Surroundings K V E)

/-- The body up to its end, from this statement on. -/
def Work.exec : Work K V E A → (aborted : Bool) → Writes K V → (statement : Nat) → Ended K V E A
  | .pure value, aborted, writes, statement =>
      { answer := .ok value, aborted, writes, statements := statement }
  | .throw error, aborted, writes, statement =>
      { answer := .error error, aborted, writes, statements := statement }
  | .select next, aborted, writes, statement =>
      match around.fault statement with
      | some error => (next (.error error)).exec true writes (statement + 1)
      | none =>
          if aborted then (next (.error failures.refused)).exec true writes (statement + 1)
          else (next (.ok (writes.over (around.rows statement)))).exec false writes (statement + 1)
  | .write key change next, aborted, writes, statement =>
      match around.fault statement with
      | some error => (next (.error error)).exec true writes (statement + 1)
      | none =>
          if aborted then (next (.error failures.refused)).exec true writes (statement + 1)
          else
            match change (writes.over (around.rows statement) key) with
            | .ok row => (next (.ok row)).exec false (writes.put key row) (statement + 1)
            | .error error =>
                (next (.error error)).exec (failures.aborts error) writes (statement + 1)

/-- How the transaction of a body that has ended turns out, and the rows that it leaves. -/
def Ended.finish (ended : Ended K V E A) : Except E A × Store K V :=
  let rows := around.rows ended.statements
  match ended.answer, around.fault ended.statements with
  | .error error, _ | .ok _, some error => (.error error, rows)
  | .ok value, none => (.ok value, if ended.aborted then rows else ended.writes.over rows)

def Work.transaction (work : Work K V E A) : Except E A × Store K V :=
  (work.exec failures around false .none 0).finish around

end Exec

section Prog

variable {K : Type} {V : K → Type} {E A : Type}

/-- Outside a `try` the failure of a statement is thrown. -/
def Work.orThrow {R : Type} (next : R → Work K V E A) : Except E R → Work K V E A
  | .ok answer => next answer
  | .error error => .throw error

/-- A body that catches nothing, with the values that it draws counted up. -/
def Work.ofProg : Prog K V E A → Nat → Work K V E A
  | .pure value, _ => .pure value
  | .throw error, _ => .throw error
  | .fresh next, supply => ofProg (next supply) (supply + 1)
  | .select next, supply => .select (Work.orThrow fun rows => ofProg (next rows) supply)
  | .write key change next, supply =>
      .write key change (Work.orThrow fun row => ofProg (next row) supply)

/-- Nobody else commits, and one statement fails. -/
def Surroundings.still (rows : Store K V) (fault : Fault E) : Surroundings K V E where
  rows _ := rows
  fault statement :=
    fault.bind fun (failing, error) => if statement = failing then some error else none

/-- From this statement on a fault is so many statements later. -/
def Fault.shift (statement : Nat) (fault : Fault E) : Fault E :=
  fault.map fun (later, error) => (statement + later, error)

theorem still_now (rows : Store K V) (fault : Fault E) (statement : Nat) :
    (Surroundings.still rows (fault.shift statement)).fault statement =
      match fault.tick with
      | .error error => some error
      | .ok _ => none := by
  rcases fault with _ | ⟨_ | later, error⟩ <;> simp [Surroundings.still, Fault.shift, Fault.tick]

theorem shift_tick {fault later : Fault E} (ticked : fault.tick = .ok later) (statement : Nat) :
    fault.shift statement = later.shift (statement + 1) := by
  rcases fault with _ | ⟨_ | rest, error⟩ <;> cases ticked
  · rfl
  · simp only [Fault.shift, Option.map_some]
    congr 2
    omega

/-- A body that catches nothing comes to what it comes to alone. -/
theorem finish_ofProg [DecidableEq K] (failures : Failures E) (body : Prog K V E A) (fault : Fault E)
    (writes : Writes K V) (rows : Store K V) (supply statement : Nat) :
    let around := Surroundings.still rows (fault.shift statement)
    ((Work.ofProg body supply).exec failures around false writes statement).finish around =
      match body.exec fault writes rows supply with
      | .ok (value, after, _) => (.ok value, after.over rows)
      | .error error => (.error error, rows) := by
  induction body generalizing fault writes supply statement with
  | pure value =>
      have now := still_now rows fault statement
      cases ticked : fault.tick with
      | error error =>
          rw [ticked] at now
          simp only [Work.ofProg, Work.exec, Ended.finish, Prog.exec, now, ticked]
          rfl
      | ok later =>
          rw [ticked] at now
          simp only [Work.ofProg, Work.exec, Ended.finish, Prog.exec, now, ticked]
          rfl
  | throw error => rfl
  | fresh next ih => exact ih supply fault writes (supply + 1) statement
  | select next ih =>
      have now := still_now rows fault statement
      cases ticked : fault.tick with
      | error error =>
          rw [ticked] at now
          simp only [Work.ofProg, Work.exec, Ended.finish, Prog.exec, now, ticked]
          rfl
      | ok later =>
          rw [ticked] at now
          simp only [Work.ofProg, Work.exec, Prog.exec, now, ticked, Bool.false_eq_true, if_false]
          rw [shift_tick ticked]
          exact ih _ later writes supply (statement + 1)
  | write key change next ih =>
      have now := still_now rows fault statement
      cases ticked : fault.tick with
      | error error =>
          rw [ticked] at now
          simp only [Work.ofProg, Work.exec, Ended.finish, Prog.exec, now, ticked]
          rfl
      | ok later =>
          rw [ticked] at now
          simp only [Work.ofProg, Work.exec, Prog.exec, now, ticked, Bool.false_eq_true, if_false]
          have seen : (Surroundings.still rows (fault.shift statement)).rows statement = rows := rfl
          rw [seen]
          cases changed : change (writes.over rows key) with
          | error error => rfl
          | ok row =>
              rw [shift_tick ticked]
              exact ih row later (writes.put key row) supply (statement + 1)

theorem transaction_ofProg [DecidableEq K] (failures : Failures E) (body : Prog K V E A)
    (fault : Fault E) (rows : Store K V) (supply : Nat) :
    (Work.ofProg body supply).transaction failures (.still rows fault) =
      match body.transaction fault rows supply with
      | .ok (value, after, _) => (.ok value, after)
      | .error error => (.error error, rows) := by
  have start : fault.shift 0 = fault := by
    rcases fault with _ | ⟨later, error⟩ <;> simp [Fault.shift]
  have finished := finish_ofProg failures body fault .none rows supply 0
  rw [start] at finished
  rw [Work.transaction, finished, Prog.transaction]
  cases body.exec fault .none rows supply <;> rfl

end Prog

end Transaction
