import Ecommerce.InventoryService.EventsConsumer
import Ecommerce.Shared.Statements

set_option autoImplicit false

/-!
# Consumer dedup

What `processOnce` does for one event, and what it makes of any sequence of deliveries.
-/

namespace Ecommerce

open Transaction

variable {K : Type} [DecidableEq K] {V : K → Type}

abbrev processedKey (event : EventEnvelope) (consumer : String) : TableKey K :=
  .processed event.eventId consumer

/-- The database that the work of an event sees first. -/
def marked (consumer : String) (event : EventEnvelope) (database : Database K V) : Database K V :=
  Store.set (V := TableRow V) database (processedKey event consumer) ()

theorem processOnceTx_transaction (consumer : String) (event : EventEnvelope)
    (work : Prog (TableKey K) (TableRow V) TxError Unit) (fault : Fault TxError)
    (database : Database K V) (supply : Nat) :
    (processOnceTx consumer event work).transaction fault database supply =
      fault.tick.bind fun fault =>
        if database (processedKey event consumer) = none then
          work.transaction fault (marked consumer event database) supply
        else .error (.known .P2002) := by
  unfold processOnceTx create
  simp only [Prog.bind_write, Prog.bind_pure, Prog.transaction, Prog.exec, Writes.none_over]
  cases fault.tick with
  | error error => rfl
  | ok later =>
      cases found : database (processedKey event consumer) with
      | none =>
          have seen : _ = work.transaction later (Writes.over _ database) supply :=
            work.transaction_seen (Writes.none.put (processedKey event consumer) (some ()))
          rw [Writes.put_over, Writes.none_over] at seen
          exact seen
      | some => rfl

/-- What a delivery of an event meets. A unique index reports duplicates and nothing else does; and
nobody else touches the marker of the event, which is never deleted. -/
structure Delivering (K : Type) [DecidableEq K] (V : K → Type) (consumer : String)
    (event : EventEnvelope) extends Surroundings (TableKey K) (TableRow V) TxError where
  faults : ∀ statement, fault statement ≠ some (.known .P2002)
  marker : ∀ statement,
    rows statement (processedKey event consumer) = rows 0 (processedKey event consumer)

section Work

variable (consumer : String) (event : EventEnvelope)
variable (work : Work (TableKey K) (TableRow V) TxError Unit)
variable (around : Delivering K V consumer event)

/-- The work, from the statement after the insert of the marker to its end. -/
def worked : Ended (TableKey K) (TableRow V) TxError Unit :=
  work.exec txFailures around.toSurroundings false
    (Writes.none.put (processedKey event consumer) (some ())) 1

/-- No event is lost without a trace: a normal return means that the event is marked, and either it
was before and nothing is committed, or the work is committed with the marker; and an error of the
work is passed on, with nothing committed. -/
structure NotSwallowed : Prop where
  returned : ∀ after,
    AnyWork.processOnce consumer event work around.toSurroundings = (.ok (), after) →
    after (processedKey event consumer) ≠ none ∧
      (around.rows 0 (processedKey event consumer) ≠ none ∧ after = around.rows 1 ∨
        around.rows 0 (processedKey event consumer) = none ∧
          (worked consumer event work around).answer = .ok () ∧
          after = (worked consumer event work around).writes.over
            (around.rows (worked consumer event work around).statements))
  thrown : ∀ error, around.rows 0 (processedKey event consumer) = none → around.fault 0 = none →
    (worked consumer event work around).answer = .error error →
      AnyWork.processOnce consumer event work around.toSurroundings =
        (.error error, around.rows (worked consumer event work around).statements)

/-- The work, run after the marker was inserted, does not fail with P2002; and where it returns,
COMMIT fails, or the marker is still there and no statement had failed in the database. -/
def keepsMarker : Bool :=
  let ended := worked consumer event work around
  match ended.answer with
  | .error error => error ≠ .known .P2002
  | .ok _ =>
      (around.fault ended.statements).isSome ||
        !ended.aborted &&
          (ended.writes.over (around.rows ended.statements) (processedKey event consumer)).isSome

end Work

section Ends

variable {consumer : String} {event : EventEnvelope}
variable (work : Work (TableKey K) (TableRow V) TxError Unit)
variable {around : Delivering K V consumer event}

theorem processOnce_unopened {error : TxError} (failed : around.fault 0 = some error) :
    AnyWork.processOnce consumer event work around.toSurroundings = (.error error, around.rows 1) := by
  have different : error ≠ .known .P2002 := fun same => around.faults 0 (same ▸ failed)
  simp only [AnyWork.processOnce, AnyWork.processOnceTx, Work.transaction, Work.exec, failed,
    Ended.finish]
  exact AnyWork.caught_error different _

theorem processOnce_marked (opened : around.fault 0 = none)
    (present : around.rows 0 (processedKey event consumer) ≠ none) :
    AnyWork.processOnce consumer event work around.toSurroundings = (.ok (), around.rows 1) := by
  obtain ⟨row, found⟩ := Option.ne_none_iff_exists'.mp present
  simp only [AnyWork.processOnce, AnyWork.processOnceTx, Work.transaction, Work.exec, opened,
    Writes.none_over, found, Bool.false_eq_true, if_false, Ended.finish]
  rfl

theorem processOnce_worked (opened : around.fault 0 = none)
    (absent : around.rows 0 (processedKey event consumer) = none) :
    AnyWork.processOnce consumer event work around.toSurroundings =
      AnyWork.caught ((worked consumer event work around).finish around.toSurroundings) := by
  simp only [AnyWork.processOnce, AnyWork.processOnceTx, Work.transaction, Work.exec, opened,
    Writes.none_over, absent, Bool.false_eq_true, if_false, Work.orThrow, worked]

/-- Once the marker is inserted, it depends on the end of the work. -/
theorem not_swallowed_iff_of_worked (opened : around.fault 0 = none)
    (absent : around.rows 0 (processedKey event consumer) = none) :
    NotSwallowed consumer event work around ↔ keepsMarker consumer event work around = true := by
  have ends := processOnce_worked work opened absent
  have unmarked := (around.marker (worked consumer event work around).statements).trans absent
  unfold keepsMarker
  dsimp only
  generalize ran : worked consumer event work around = ended at ends unmarked ⊢
  cases answer : ended.answer with
  | error error =>
      simp only [Ended.finish, answer] at ends
      simp only [decide_eq_true_eq]
      by_cases duplicate : error = .known .P2002
      · subst duplicate
        refine iff_of_false (fun kept => ?_) (by simp)
        have passed := kept.thrown _ absent opened (by rw [ran, answer])
        rw [ends] at passed
        cases passed
      · rw [AnyWork.caught_error duplicate] at ends
        refine iff_of_true ⟨fun after returned => ?_, fun other _ _ thrown => ?_⟩ duplicate
        · rw [ends] at returned
          cases returned
        · rw [ran, answer] at thrown
          cases thrown
          rw [ends, ran]
  | ok =>
      have silent (error : TxError) : ended.answer ≠ .error error := by simp [answer]
      simp only [Ended.finish, answer] at ends
      cases committing : around.fault ended.statements with
      | some error =>
          have different : error ≠ .known .P2002 :=
            fun same => around.faults _ (same ▸ committing)
          simp only [committing, AnyWork.caught_error different] at ends
          refine iff_of_true ⟨fun after returned => ?_, fun other _ _ thrown => ?_⟩ (by simp)
          · rw [ends] at returned
            cases returned
          · exact absurd (ran ▸ thrown) (silent other)
      | none =>
          simp only [committing] at ends
          cases aborted : ended.aborted with
          | true =>
              -- COMMIT has rolled back, and nothing shows it.
              rw [aborted, if_pos rfl] at ends
              refine iff_of_false (fun kept => ?_) (by simp)
              exact (kept.returned _ ends).1 unmarked
          | false =>
              rw [aborted, if_neg Bool.false_ne_true] at ends
              simp only [Option.isSome_none, Bool.false_or, Bool.not_false, Bool.true_and,
                Option.isSome_iff_ne_none]
              refine ⟨fun kept => (kept.returned _ ends).1, fun present => ?_⟩
              refine ⟨fun after returned => ?_, fun other _ _ thrown => ?_⟩
              · rw [ends] at returned
                cases returned
                exact ⟨present, .inr ⟨absent, by rw [ran, answer], by rw [ran]⟩⟩
              · exact absurd (ran ▸ thrown) (silent other)

end Ends

theorem event_not_swallowed_iff (consumer : String) (event : EventEnvelope)
    (work : Work (TableKey K) (TableRow V) TxError Unit) (around : Delivering K V consumer event) :
    NotSwallowed consumer event work around ↔
      around.fault 0 ≠ none ∨ around.rows 0 (processedKey event consumer) ≠ none ∨
        keepsMarker consumer event work around = true := by
  cases opened : around.fault 0 with
  | some error =>
      have ends := processOnce_unopened work opened
      refine iff_of_true ⟨fun after returned => ?_, fun _ _ unopened => ?_⟩ (.inl (by simp))
      · rw [ends] at returned
        cases returned
      · rw [opened] at unopened
        cases unopened
  | none =>
      rw [or_iff_right (not_not.mpr rfl)]
      by_cases absent : around.rows 0 (processedKey event consumer) = none
      · rw [or_iff_right (not_not.mpr absent)]
        exact not_swallowed_iff_of_worked work opened absent
      · have ends := processOnce_marked work opened absent
        refine iff_of_true ⟨fun after returned => ?_, fun _ unmarked => absurd unmarked absent⟩
          (.inl absent)
        rw [ends] at returned
        cases returned
        exact ⟨around.marker 1 ▸ absent, .inl ⟨absent, rfl⟩⟩

section Sample

open InventoryService

def sampleOrder : OrderCreatedPayload :=
  { orderId := 7
    customerId := 1
    items := [{ productId := 3, quantity := 1, unitPriceCents := 500 }]
    totalAmountCents := 500
    currency := "USD" }

def sampleCreated : EventEnvelope :=
  NewEvent.envelope
    { eventType := .ordersCreated, correlationId := 8, aggregateId := 7
      producer := "order-service", payload := .orderCreated sampleOrder } 0 21

def sampleWork : Work (TableKey Key) (TableRow Row) TxError Unit :=
  .ofProg (onRows (reserve { defaultStock := 100 } 1 sampleOrder 8)) 50

/-- A delivery of an event that has no marker. -/
def sampleDelivery (rows : Nat → InventoryDb) (fault : Nat → Option TxError)
    (faults : ∀ statement, fault statement ≠ some (.known .P2002))
    (unmarked : ∀ statement, rows statement (processedKey sampleCreated consumer) = none) :
    Delivering Key Row consumer sampleCreated :=
  { rows
    fault
    faults
    marker := fun statement => (unmarked statement).trans (unmarked 0).symm }

/-- The order has a reservation already, which another event has made. -/
def sampleReserved : InventoryDb :=
  Store.set (fun _ => none) (reservationKey 7)
    { id := 30, status := .reserved, items := [{ productId := 3, quantity := 1 }] }

theorem reservation_swallowed :
    ¬ NotSwallowed consumer sampleCreated sampleWork
      (sampleDelivery (fun _ => sampleReserved) (fun _ => none) (fun _ => nofun) fun _ => rfl) := by
  intro kept
  -- The work fails with P2002 on `reservation.create`, and its event is taken for a duplicate.
  have ended : AnyWork.processOnce consumer sampleCreated sampleWork (.still sampleReserved none) =
      (.ok (), sampleReserved) := by
    rw [sampleWork, processOnce_ofProg]
    rfl
  exact (kept.returned sampleReserved ended).1 rfl

/-- From one statement on the product is there, added with another order. -/
def sampleAdded (added statement : Nat) : InventoryDb :=
  if statement < added then fun _ => none
  else Store.set (fun _ => none) (productKey 3) { availableQty := 99, reservedQty := 1 }

theorem sampleAdded_unmarked (added statement : Nat) :
    sampleAdded added statement (processedKey sampleCreated consumer) = none := by
  unfold sampleAdded
  split <;> rfl

abbrev sampleRacing (added : Nat) : Delivering Key Row consumer sampleCreated :=
  sampleDelivery (sampleAdded added) (fun _ => none) (fun _ => nofun) (sampleAdded_unmarked added)

/-- The other order is harmless before the read of the upsert; between the read and the insert it
makes the upsert fail with P2002. -/
theorem event_not_swallowed_iff_racing :
    NotSwallowed consumer sampleCreated sampleWork (sampleRacing 1) ∧
      ¬ NotSwallowed consumer sampleCreated sampleWork (sampleRacing 2) := by
  refine ⟨(event_not_swallowed_iff _ _ _ _).mpr (.inr (.inr rfl)), fun kept => ?_⟩
  obtain opened | marked | lost := (event_not_swallowed_iff _ _ _ _).mp kept
  · exact opened rfl
  · exact marked rfl
  · cases lost

-- A read that fails, and a work that goes on without it: COMMIT rolls the marker back.
example :
    AnyWork.processOnce consumer sampleCreated (.select fun _ => .pure ())
      { rows := sampleAdded 0
        fault := fun statement => if statement = 1 then some (.other "timeout") else none } =
      (.ok (), sampleAdded 0 2) := rfl

end Sample

end Ecommerce
