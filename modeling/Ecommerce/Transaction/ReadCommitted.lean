import Ecommerce.Transaction.Program
import Mathlib.Logic.Relation

set_option autoImplicit false

/-!
# Interleaved transactions under READ COMMITTED

Sessions run one statement at a time. A read sees the committed rows and the session's own
writes; a write waits for the lock on its row and holds it until the session ends.
-/

namespace Transaction

variable {K : Type} {V : K → Type} {E A J : Type} [DecidableEq K]

/-- The rows a session has written, each with its new version. -/
abbrev Writes (K : Type) (V : K → Type) := (key : K) → Option (Option (V key))

def Writes.none : Writes K V := fun _ => Option.none

def Writes.over (writes : Writes K V) (rows : Store K V) : Store K V :=
  fun key => (writes key).getD (rows key)

def Writes.put (writes : Writes K V) (key : K) (row : Option (V key)) : Writes K V :=
  Function.update writes key (some row)

omit [DecidableEq K] in
@[simp] theorem Writes.none_over (rows : Store K V) : (Writes.none : Writes K V).over rows = rows :=
  rfl

@[simp] theorem Writes.put_over (writes : Writes K V) (key : K) (row : V key) (rows : Store K V) :
    (writes.put key (some row)).over rows = (writes.over rows).set key row := by
  funext other
  by_cases same : other = key
  · subst same
    simp [Writes.over, Writes.put]
  · simp [Writes.over, Writes.put, Function.update_of_ne same, Store.set_other _ _ same]

@[simp] theorem Writes.put_put (writes : Writes K V) (key : K) (first second : Option (V key)) :
    (writes.put key first).put key second = writes.put key second := Function.update_idem ..

theorem Writes.put_comm (writes : Writes K V) {one two : K} (different : one ≠ two)
    (first : Option (V one)) (second : Option (V two)) :
    (writes.put one first).put two second = (writes.put two second).put one first :=
  Function.update_comm different ..

theorem Writes.put_written (writes : Writes K V) (key other : K) (row : Option (V key)) :
    writes.put key row other ≠ Option.none ↔ other = key ∨ writes other ≠ Option.none := by
  by_cases same : other = key
  · subst same
    simp [Writes.put]
  · simp [Writes.put, same]

inductive Slot (K : Type) (V : K → Type) (E A J : Type) where
  | idle
  | running (job : J) (rest : Prog K V E A) (writes : Writes K V)
  | committed (job : J) (value : A)
  | failed (job : J) (error : Option E)

structure System (K : Type) (V : K → Type) (E A J : Type) where
  rows : Store K V
  slots : Nat → Slot K V E A J
  locks : K → Option Nat

def System.initial (rows : Store K V) : System K V E A J :=
  { rows, slots := fun _ => .idle, locks := fun _ => none }

def System.release (system : System K V E A J) (session : Nat) : K → Option Nat :=
  fun key => if system.locks key = some session then none else system.locks key

def System.resume (system : System K V E A J) (session : Nat) (job : J)
    (rest : Prog K V E A) (writes : Writes K V) : System K V E A J :=
  { system with slots := Function.update system.slots session (.running job rest writes) }

def System.fail (system : System K V E A J) (session : Nat) (job : J) (error : Option E) :
    System K V E A J :=
  { system with
    slots := Function.update system.slots session (.failed job error)
    locks := system.release session }

def System.commit (system : System K V E A J) (session : Nat) (job : J) (value : A)
    (writes : Writes K V) : System K V E A J :=
  { rows := writes.over system.rows
    slots := Function.update system.slots session (.committed job value)
    locks := system.release session }

inductive Label (J : Type) where
  | start (session : Nat) (job : J)
  -- The next statement of a session; a drawn value is the second argument.
  | advance (session : Nat) (drawn : Nat)
  | rollback (session : Nat)

/-- The next statement of a running session, `none` while it waits for a row lock. -/
def System.advance (system : System K V E A J) (session drawn : Nat) (job : J)
    (rest : Prog K V E A) (writes : Writes K V) : Option (System K V E A J) :=
  match rest with
  | .pure value => some (system.commit session job value writes)
  | .throw error => some (system.fail session job (some error))
  | .fresh next => some (system.resume session job (next drawn) writes)
  | .select next => some (system.resume session job (next (writes.over system.rows)) writes)
  | .write key change next =>
      if system.locks key = none ∨ system.locks key = some session then
        match change (writes.over system.rows key) with
        | .error error => some (system.fail session job (some error))
        | .ok row =>
            some { system.resume session job (next row) (writes.put key row) with
              locks := Function.update system.locks key (some session) }
      else none

def System.step (body : J → Prog K V E A) (system : System K V E A J) :
    Label J → Option (System K V E A J)
  | .start session job =>
      match system.slots session with
      | .running _ _ _ => none
      | _ => some (system.resume session job (body job) .none)
  | .advance session drawn =>
      match system.slots session with
      | .running job rest writes => system.advance session drawn job rest writes
      | _ => none
  | .rollback session =>
      match system.slots session with
      | .running job _ _ => some (system.fail session job none)
      | _ => none

def System.finishing (system : System K V E A J) : Label J → Option (J × A × Writes K V)
  | .advance session _ =>
      match system.slots session with
      | .running job (.pure value) writes => some (job, value, writes)
      | _ => none
  | _ => none

/-- Reachable by steps whose labels are allowed in the state they are taken in. -/
inductive Reachable (body : J → Prog K V E A) (allowed : System K V E A J → Label J → Prop)
    (initial : System K V E A J) : System K V E A J → Prop
  | initial : Reachable body allowed initial initial
  | step {system next : System K V E A J} (label : Label J)
      (before : Reachable body allowed initial system) (enabled : allowed system label)
      (taken : system.step body label = some next) : Reachable body allowed initial next

def System.run (body : J → Prog K V E A) (accepts : System K V E A J → Label J → Bool)
    (system : System K V E A J) : List (Label J) → Option (System K V E A J)
  | [] => some system
  | label :: rest =>
      if accepts system label then
        (system.step body label).bind fun next => next.run body accepts rest
      else none

section Inversion

variable {body : J → Prog K V E A} {system next : System K V E A J} {session drawn : Nat}

theorem System.start_cases {job : J} (taken : system.step body (.start session job) = some next) :
    (∀ running rest writes, system.slots session ≠ .running running rest writes) ∧
      next = system.resume session job (body job) .none := by
  cases slot : system.slots session <;> simp [System.step, slot] at taken <;>
    exact ⟨by simp, taken.symm⟩

theorem System.rollback_cases (taken : system.step body (.rollback session) = some next) :
    ∃ job rest writes, system.slots session = .running job rest writes ∧
      next = system.fail session job none := by
  cases slot : system.slots session with
  | idle | committed | failed => simp [System.step, slot] at taken
  | running job rest writes =>
      simp only [System.step, slot, Option.some.injEq] at taken
      exact ⟨job, rest, writes, rfl, taken.symm⟩

/-- A session that advances commits, fails, or goes on with its job. -/
theorem System.advance_cases (taken : system.step body (.advance session drawn) = some next) :
    ∃ job rest writes, system.slots session = .running job rest writes ∧
      ((∃ value, rest = .pure value ∧ next = system.commit session job value writes) ∨
        (∃ error, system.finishing (.advance session drawn) = none ∧
          next = system.fail session job error) ∨
        ∃ later more, system.finishing (.advance session drawn) = none ∧
          next.rows = system.rows ∧
          next.slots = Function.update system.slots session (.running job later more)) := by
  cases slot : system.slots session with
  | idle | committed | failed => simp [System.step, slot] at taken
  | running job rest writes =>
      refine ⟨job, rest, writes, rfl, ?_⟩
      simp only [System.step, slot] at taken
      cases rest with
      | pure value =>
          simp only [System.advance, Option.some.injEq] at taken
          exact .inl ⟨value, rfl, taken.symm⟩
      | throw error =>
          simp only [System.advance, Option.some.injEq] at taken
          exact .inr (.inl ⟨some error, by simp [System.finishing, slot], taken.symm⟩)
      | fresh | select =>
          simp only [System.advance, Option.some.injEq] at taken
          subst taken
          exact .inr (.inr ⟨_, _, by simp [System.finishing, slot], rfl, rfl⟩)
      | write key change later =>
          have unfinished : system.finishing (.advance session drawn) = none := by
            simp [System.finishing, slot]
          simp only [System.advance] at taken
          split at taken
          · cases changed : change (writes.over system.rows key) with
            | error error =>
                simp only [changed, Option.some.injEq] at taken
                exact .inr (.inl ⟨some error, unfinished, taken.symm⟩)
            | ok row =>
                simp only [changed, Option.some.injEq] at taken
                subst taken
                exact .inr (.inr ⟨_, _, unfinished, rfl, rfl⟩)
          · simp at taken

theorem System.step_rows (label : Label J) (taken : system.step body label = some next) :
    system.finishing label = none ∧ next.rows = system.rows ∨
      ∃ job value writes, system.finishing label = some (job, value, writes) ∧
        next.rows = writes.over system.rows := by
  cases label with
  | start session job =>
      obtain ⟨_, same⟩ := System.start_cases taken
      exact .inl ⟨rfl, same ▸ rfl⟩
  | rollback session =>
      obtain ⟨job, _, _, _, same⟩ := System.rollback_cases taken
      exact .inl ⟨rfl, same ▸ rfl⟩
  | advance session drawn =>
      obtain ⟨job, rest, writes, slot, outcome⟩ := System.advance_cases taken
      rcases outcome with ⟨value, done, same⟩ | ⟨error, unfinished, same⟩ |
        ⟨later, more, unfinished, same, _⟩
      · exact .inr ⟨job, value, writes, by simp [System.finishing, slot, done], same ▸ rfl⟩
      · exact .inl ⟨unfinished, same ▸ rfl⟩
      · exact .inl ⟨unfinished, same⟩

end Inversion

theorem Reachable.trans {body : J → Prog K V E A} {allowed : System K V E A J → Label J → Prop}
    {first second third : System K V E A J} (one : Reachable body allowed first second)
    (two : Reachable body allowed second third) : Reachable body allowed first third := by
  induction two with
  | initial => exact one
  | step label _ enabled taken ih => exact ih.step label enabled taken

theorem Reachable.of_run {body : J → Prog K V E A} (allowed : System K V E A J → Label J → Prop)
    {accepts : System K V E A J → Label J → Bool} {system last : System K V E A J}
    (labels : List (Label J))
    (enabled : ∀ label ∈ labels, ∀ system, accepts system label = true → allowed system label)
    (ran : system.run body accepts labels = some last) :
    Reachable body allowed system last := by
  induction labels generalizing system with
  | nil =>
      simp only [System.run, Option.some.injEq] at ran
      exact ran ▸ .initial
  | cons label rest ih =>
      simp only [System.run] at ran
      split at ran
      · next accepted =>
          obtain ⟨next, taken, ran⟩ := Option.bind_eq_some_iff.mp ran
          have later := ih (fun label member => enabled label (List.mem_cons_of_mem _ member)) ran
          have permitted := enabled label (by simp) system accepted
          exact (Reachable.step label .initial permitted taken).trans later
      · cases ran

end Transaction
