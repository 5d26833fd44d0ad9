import Ecommerce.Deduplication

set_option autoImplicit false

/-!
# Exactly-once effects from at-least-once delivery
-/

namespace Ecommerce

open Transaction

variable {K : Type} [DecidableEq K] {V : K → Type}

/-- One delivery of an event to `processOnce`. -/
structure Attempt where
  event : EventEnvelope
  -- The values that the attempt draws are counted from here.
  supply : Nat
  fault : Fault TxError
  -- The consumer sees an error even if the transaction has committed.
  ackLost : Bool

section Runs

variable (consumer : String) (work : EventEnvelope → Prog K V TxError Unit)

def Attempt.commits (attempt : Attempt) (database : Database K V) : Bool :=
  ((processOnceTx consumer attempt.event (onRows (work attempt.event))).transaction attempt.fault
    database attempt.supply).isOk

/-- What the consumer sees of an attempt, and the database after it. -/
def Attempt.run (attempt : Attempt) (database : Database K V) :
    Except TxError Unit × Database K V :=
  let (report, after) := processOnce consumer attempt.event (onRows (work attempt.event))
    attempt.fault database attempt.supply
  (if attempt.ackLost then .error (.other "connection lost") else report, after)

def deliver : List Attempt → Database K V → Database K V
  | [], database => database
  | attempt :: rest, database => deliver rest (attempt.run consumer work database).2

/-- The attempts that commit, in the order of their commits. -/
def commitLog : List Attempt → Database K V → List Attempt
  | [], _ => []
  | attempt :: rest, database =>
      let later := commitLog rest (attempt.run consumer work database).2
      if attempt.commits consumer work database then attempt :: later else later

/-- The work of each attempt alone, one after the other and without faults. -/
def ideal : List Attempt → Store K V → Except TxError (Store K V)
  | [], rows => .ok rows
  | attempt :: rest, rows => do
      let (_, after, _) ← (work attempt.event).transaction none rows attempt.supply
      ideal rest after

end Runs

section Attempts

variable {consumer : String} {work : EventEnvelope → Prog K V TxError Unit}
variable {attempt : Attempt} {database : Database K V}

/-- What a work has written to the own tables, beside what `processed_events` has. -/
def beside (marks : Writes (TableKey K) (TableRow V)) (own : Writes K V) :
    Writes (TableKey K) (TableRow V)
  | .processed eventId name => marks (.processed eventId name)
  | .row key => own key

omit [DecidableEq K] in
theorem beside_none : beside (.none : Writes (TableKey K) (TableRow V)) .none = .none := by
  funext key
  cases key <;> rfl

theorem beside_put (marks : Writes (TableKey K) (TableRow V)) (own : Writes K V) (key : K)
    (row : Option (V key)) :
    (beside marks own).put (.row key) row = beside marks (own.put key row) := by
  funext other
  cases other with
  | processed => simp [Writes.put, beside]
  | row other =>
      by_cases same : other = key
      · subst same
        simp [Writes.put, beside]
      · simp [Writes.put, beside, same]

/-- The own tables do not depend on `processed_events`, which the work leaves alone. -/
theorem exec_onRows {E A : Type} (body : Prog K V E A) (fault : Fault E)
    (marks : Writes (TableKey K) (TableRow V)) (own : Writes K V) (supply : Nat) :
    (onRows body).exec fault (beside marks own) database supply =
      (body.exec fault own database.ownRows supply).map fun result =>
        (result.1, beside marks result.2.1, result.2.2) := by
  induction body generalizing fault own supply with
  | pure =>
      simp only [onRows, Prog.exec]
      cases fault.tick <;> rfl
  | throw => rfl
  | fresh next ih => exact ih supply fault own (supply + 1)
  | select next ih =>
      simp only [onRows, Prog.exec]
      cases fault.tick with
      | error => rfl
      | ok later => exact ih _ later own supply
  | write key change next ih =>
      simp only [onRows, Prog.exec]
      cases fault.tick with
      | error => rfl
      | ok later =>
          have seen : (beside marks own).over database (.row key) = own.over database.ownRows key := rfl
          simp only [bind, Except.bind, seen]
          cases change (own.over database.ownRows key) with
          | error => rfl
          | ok row =>
              dsimp only
              rw [beside_put]
              exact ih row later (own.put key row) supply

theorem transaction_onRows (body : Prog K V TxError Unit) (fault : Fault TxError) (supply : Nat) :
    (onRows body).transaction fault database supply =
      (body.exec fault .none database.ownRows supply).map fun result =>
        (result.1, (beside .none result.2.1).over database, result.2.2) := by
  rw [Prog.transaction, ← beside_none, exec_onRows]
  cases body.exec fault .none database.ownRows supply <;> rfl

theorem transaction_onRows_ok {body : Prog K V TxError Unit} {fault : Fault TxError}
    {supply next : Nat} {after : Database K V}
    (ran : (onRows body).transaction fault database supply = .ok ((), after, next)) :
    body.transaction fault database.ownRows supply = .ok ((), after.ownRows, next) ∧
      ∀ eventId name, after (.processed eventId name) = database (.processed eventId name) := by
  rw [transaction_onRows] at ran
  cases finished : body.exec fault .none database.ownRows supply with
  | error => simp [finished, Except.map] at ran
  | ok result =>
      rw [finished] at ran
      cases ran
      refine ⟨?_, fun _ _ => rfl⟩
      rw [Prog.transaction, finished]
      rfl

theorem Attempt.run_cases (consumer : String) (work : EventEnvelope → Prog K V TxError Unit)
    (attempt : Attempt) (database : Database K V) :
    (attempt.commits consumer work database = true ∧
      database (processedKey attempt.event consumer) = none ∧
      (∃ next, (work attempt.event).transaction none database.ownRows attempt.supply =
        .ok ((), (attempt.run consumer work database).2.ownRows, next)) ∧
      ∀ eventId name, (attempt.run consumer work database).2 (.processed eventId name) =
        marked consumer attempt.event database (.processed eventId name)) ∨
    (attempt.commits consumer work database = false ∧
      (attempt.run consumer work database).2 = database) := by
  have transaction := processOnceTx_transaction consumer attempt.event
    (onRows (work attempt.event)) attempt.fault database attempt.supply
  cases ran : (processOnceTx consumer attempt.event (onRows (work attempt.event))).transaction
      attempt.fault database attempt.supply with
  | error error =>
      refine .inr ⟨by simp [Attempt.commits, ran, Except.isOk, Except.toBool], ?_⟩
      simp only [Attempt.run, processOnce, ran]
      split
      · next ended => cases ended
      · rfl
      · rfl
  | ok result =>
      obtain ⟨_, after, next⟩ := result
      refine .inl ⟨by simp [Attempt.commits, ran, Except.isOk, Except.toBool], ?_⟩
      have left : (attempt.run consumer work database).2 = after := by
        simp only [Attempt.run, processOnce, ran]
      rw [left]
      rw [ran] at transaction
      obtain ⟨later, _, ran⟩ := bind_ok transaction.symm
      split at ran
      · next absent =>
          obtain ⟨own, untouched⟩ := transaction_onRows_ok ran
          exact ⟨absent, ⟨next, Prog.transaction_faultless own⟩, untouched⟩
      · cases ran

/-- Without a fault the only things in the way are the marker and the work. -/
theorem Attempt.commits_of_work (unmarked : database (processedKey attempt.event consumer) = none)
    (faultless : attempt.fault = none)
    (works : ((work attempt.event).transaction none database.ownRows attempt.supply).isOk = true) :
    attempt.commits consumer work database = true := by
  rw [Attempt.commits, processOnceTx_transaction, faultless]
  change (if _ then _ else _ : Except _ _).isOk = true
  rw [if_pos unmarked, transaction_onRows]
  have own : (marked consumer attempt.event database).ownRows = database.ownRows := rfl
  rw [own]
  rw [Prog.transaction] at works
  cases finished : (work attempt.event).exec none .none database.ownRows attempt.supply with
  | error =>
      rw [finished] at works
      cases works
  | ok => rfl

theorem processed_marked (event : EventEnvelope) (eventId : Uuid) (name : String) :
    marked consumer event database (.processed eventId name) ≠ none ↔
      database (.processed eventId name) ≠ none ∨ name = consumer ∧ eventId = event.eventId := by
  by_cases same : TableKey.processed eventId name = (processedKey event consumer : TableKey K)
  · obtain ⟨sameId, sameName⟩ := TableKey.processed.inj same
    subst sameId sameName
    simp [marked]
  · rw [marked, Store.set_other _ _ same]
    simp only [TableKey.processed.injEq, not_and] at same
    grind

theorem deliver_markers (attempts : List Attempt) (database : Database K V) (eventId : Uuid)
    (name : String) :
    deliver consumer work attempts database (.processed eventId name) ≠ none ↔
      database (.processed eventId name) ≠ none ∨ name = consumer ∧
        eventId ∈ (commitLog consumer work attempts database).map (·.event.eventId) := by
  induction attempts generalizing database with
  | nil => simp [deliver, commitLog]
  | cons attempt rest ih =>
      rw [deliver, ih, commitLog]
      rcases attempt.run_cases consumer work database with ⟨commits, _, _, markers⟩ | ⟨aborts, same⟩
      · rw [markers, processed_marked, if_pos commits, List.map_cons, List.mem_cons]
        grind
      · rw [same, if_neg (by simp [aborts])]

theorem commitLog_new (attempts : List Attempt) (database : Database K V) (attempt : Attempt)
    (logged : attempt ∈ commitLog consumer work attempts database) :
    database (processedKey attempt.event consumer) = none := by
  induction attempts generalizing database with
  | nil => cases logged
  | cons first rest ih =>
      rw [commitLog] at logged
      rcases first.run_cases consumer work database with
        ⟨commits, absent, _, markers⟩ | ⟨aborts, same⟩
      · rw [if_pos commits] at logged
        rcases List.mem_cons.mp logged with same | later
        · exact same ▸ absent
        · have new := ih _ later
          rw [markers] at new
          by_contra present
          exact (processed_marked first.event attempt.event.eventId consumer).mpr (.inl present) new
      · rw [if_neg (by simp [aborts]), same] at logged
        exact ih database logged

theorem commitLog_nodup (attempts : List Attempt) (database : Database K V) :
    ((commitLog consumer work attempts database).map (·.event.eventId)).Nodup := by
  induction attempts generalizing database with
  | nil => exact List.nodup_nil
  | cons first rest ih =>
      rw [commitLog]
      rcases first.run_cases consumer work database with ⟨commits, _, _, markers⟩ | ⟨aborts, _⟩
      · rw [if_pos commits, List.map_cons, List.nodup_cons]
        refine ⟨fun again => ?_, ih _⟩
        obtain ⟨attempt, logged, same⟩ := List.mem_map.mp again
        -- A later commit of the same event would have found the marker.
        have new := commitLog_new rest _ attempt logged
        rw [markers] at new
        exact (processed_marked first.event attempt.event.eventId consumer).mpr (.inr ⟨rfl, same⟩) new
      · rw [if_neg (by simp [aborts])]
        exact ih _

theorem ideal_commitLog (attempts : List Attempt) (database : Database K V) :
    ideal work (commitLog consumer work attempts database) database.ownRows =
      .ok (deliver consumer work attempts database).ownRows := by
  induction attempts generalizing database with
  | nil => rfl
  | cons attempt rest ih =>
      rw [commitLog, deliver]
      rcases attempt.run_cases consumer work database with ⟨commits, _, worked, _⟩ | ⟨aborts, same⟩
      · obtain ⟨next, worked⟩ := worked
        rw [if_pos commits, ideal, worked]
        exact ih _
      · rw [if_neg (by simp [aborts]), same]
        exact ih database

theorem exactly_once (consumer : String) (work : EventEnvelope → Prog K V TxError Unit)
    (attempts : List Attempt) (database : Database K V) :
    let log := commitLog consumer work attempts database
    let final := deliver consumer work attempts database
    ideal work log database.ownRows = .ok final.ownRows ∧
      (log.map (·.event.eventId)).Nodup ∧
      (∀ attempt ∈ log, database (processedKey attempt.event consumer) = none) ∧
      (∀ eventId name, final (.processed eventId name) ≠ none ↔
        database (.processed eventId name) ≠ none ∨
          name = consumer ∧ eventId ∈ log.map (·.event.eventId)) ∧
      (∀ attempt : Attempt, ∀ before : Database K V,
        attempt.commits consumer work before = false →
          (attempt.run consumer work before).2 = before) ∧
      ∀ attempt : Attempt, ∀ before : Database K V,
        before (processedKey attempt.event consumer) = none → attempt.fault = none →
          ((work attempt.event).transaction none before.ownRows attempt.supply).isOk = true →
            attempt.commits consumer work before = true := by
  refine ⟨ideal_commitLog attempts database, commitLog_nodup attempts database,
    commitLog_new attempts database, deliver_markers attempts database, ?_,
    fun _ _ unmarked faultless works => Attempt.commits_of_work unmarked faultless works⟩
  intro attempt before aborts
  rcases attempt.run_cases consumer work before with ⟨commits, _⟩ | ⟨_, same⟩
  · simp [aborts] at commits
  · exact same

end Attempts

end Ecommerce
