import Ecommerce.OrderService.Settlement

set_option autoImplicit false

/-!
# Terminal events under interleaved outcome transactions

`applyLegOutcome` reads the status once, before its updates. A second handler that read the
order as PENDING settles it again after the first one has committed.
-/

namespace Ecommerce.OrderService

open Transaction

def TerminalRow (database : OrderDb) (orderId rowId : Uuid) : Prop :=
  RowAbout database orderId .ordersConfirmed rowId ∨ RowAbout database orderId .ordersCancelled rowId

structure OneTerminal (database : OrderDb) : Prop where
  atMostOne : ∀ orderId one two, TerminalRow database orderId one →
    TerminalRow database orderId two → one = two
  settled : ∀ orderId (order : Order), database (orderKey orderId) = some order →
    order.status ≠ .pending → ∃ rowId, TerminalRow database orderId rowId

def pendingOrder (database : OrderDb) (orderId : Uuid) : Bool :=
  match database (orderKey orderId) with
  | some order => Order.status order == .pending
  | none => false

/-- A transaction that is about to commit an update of its order finds it still PENDING among the
committed rows. -/
def updatesPending (system : OrderSystem) (label : Label Delivery) : Bool :=
  match system.finishing label with
  | some (delivery, _, writes) =>
      (writes (orderKey delivery.orderId)).isNone || pendingOrder system.rows delivery.orderId
  | none => true

section Preservation

variable {events : OutcomeEvent → Prop} {before after : OrderDb}

theorem pendingOrder_of_found {orderId : Uuid} {order : Order}
    (found : before (orderKey orderId) = some order) :
    pendingOrder before orderId = true ↔ order.status = .pending := by
  simp [pendingOrder, found]

theorem TerminalRow.settled {orderId rowId : Uuid} (settling : Settling events before orderId)
    (terminal : TerminalRow before orderId rowId) :
    ∃ order : Order, before (orderKey orderId) = some order ∧ order.status ≠ .pending := by
  rcases terminal with about | about
  · obtain ⟨order, found, confirmed⟩ := settling.confirmed rowId about
    exact ⟨order, found, by simp [confirmed]⟩
  · obtain ⟨order, found, cancelled⟩ := settling.cancelled rowId about
    exact ⟨order, found, by simp [cancelled]⟩

theorem Unsettled.oneTerminal (unsettled : Unsettled events before) : OneTerminal before where
  atMostOne orderId one _ terminal :=
    (terminal.elim (unsettled.rows orderId one).1 (unsettled.rows orderId one).2).elim
  settled orderId order found moved := absurd (unsettled.status orderId order found) moved

theorem OneTerminal.frame (holds : OneTerminal before)
    (sameRows : ∀ orderId rowId, TerminalRow after orderId rowId ↔ TerminalRow before orderId rowId)
    (sameStatus : ∀ orderId (order : Order), after (orderKey orderId) = some order →
      ∃ earlier : Order, before (orderKey orderId) = some earlier ∧ earlier.status = order.status) :
    OneTerminal after where
  atMostOne orderId one two first second :=
    holds.atMostOne orderId one two ((sameRows _ _).mp first) ((sameRows _ _).mp second)
  settled orderId order found moved := by
    obtain ⟨earlier, present, same⟩ := sameStatus orderId order found
    obtain ⟨rowId, terminal⟩ := holds.settled orderId earlier present (same ▸ moved)
    exact ⟨rowId, (sameRows _ _).mpr terminal⟩

variable {delivery : Delivery} {writes : Writes (TableKey Key) (TableRow Row)}

theorem OneTerminal.skipped (holds : OneTerminal before) (eventId : Uuid) :
    OneTerminal (before.set (marker eventId) ()) :=
  holds.frame (by simp [TerminalRow]) fun orderId order found => ⟨order, by simpa using found, rfl⟩

theorem OneTerminal.recorded (holds : OneTerminal before) {order : Order}
    (found : before (orderKey delivery.orderId) = some order) :
    OneTerminal ((before.set (marker delivery.event.eventId) ()).set (orderKey delivery.orderId)
      (delivery.record order)) := by
  refine holds.frame (by simp [TerminalRow]) fun orderId later present => ?_
  by_cases own : orderId = delivery.orderId
  · subst own
    rw [Store.set_same, Option.some.injEq] at present
    exact ⟨order, found, present ▸ (recordLeg_status ..).symm⟩
  · rw [order_set_order _ _ own, order_set_marker] at present
    exact ⟨later, present, rfl⟩

theorem OneTerminal.settled_iff (holds : OneTerminal before)
    (settling : Settling events before delivery.orderId) {order : Order}
    (found : before (orderKey delivery.orderId) = some order) {status : OrderStatus}
    (decided : (delivery.record order).settlement = some status) {rowId : Uuid} {row : OutboxEvent}
    (free : before (outboxKey rowId) = none) (topic : row.topic = terminalTopic status)
    (aggregate : row.aggregateId = delivery.orderId) :
    OneTerminal (((before.set (marker delivery.event.eventId) ()).set (orderKey delivery.orderId)
      { delivery.record order with status }).set (outboxKey rowId) row) ↔ order.status = .pending := by
  -- Settling announces once more; this is the first time exactly if the order was PENDING.
  have freeNow : ((before.set (marker delivery.event.eventId) ()).set (orderKey delivery.orderId)
      { delivery.record order with status }) (outboxKey rowId) = none := by
    rw [Store.set_other _ _ (by simp), Store.set_other _ _ (by simp), free]
  have terminal (orderId other : Uuid) :
      TerminalRow (((before.set (marker delivery.event.eventId) ()).set
        (orderKey delivery.orderId) { delivery.record order with status }).set (outboxKey rowId) row)
          orderId other ↔
        TerminalRow before orderId other ∨ other = rowId ∧ orderId = delivery.orderId := by
    have onTerminalTopic : row.topic = .ordersConfirmed ∨ row.topic = .ordersCancelled := by
      rw [topic]
      cases status <;> simp [terminalTopic]
    simp only [TerminalRow, rowAbout_set_outbox _ _ _ _ row freeNow, rowAbout_set_order,
      rowAbout_set_marker, aggregate]
    grind
  constructor
  · intro one
    by_contra moved
    obtain ⟨earlier, about⟩ := holds.settled delivery.orderId order found moved
    have same := one.atMostOne delivery.orderId earlier rowId ((terminal _ _).mpr (.inl about))
      ((terminal _ _).mpr (.inr ⟨rfl, rfl⟩))
    -- The row that announced the order before is not the inserted one.
    subst same
    rcases about with ⟨row, present, _⟩ | ⟨row, present, _⟩ <;>
      exact absurd (free.symm.trans present) (by simp)
  · intro pending
    have first (other : Uuid) : ¬ TerminalRow before delivery.orderId other := by
      intro about
      obtain ⟨same, present, moved⟩ := about.settled settling
      rw [found] at present
      cases present
      exact moved pending
    constructor
    · intro orderId one two left right
      rcases (terminal _ _).mp left with left | ⟨left, own⟩ <;>
        rcases (terminal _ _).mp right with right | ⟨right, own'⟩
      · exact holds.atMostOne orderId one two left right
      · exact absurd (own' ▸ left) (first one)
      · exact absurd (own ▸ right) (first two)
      · rw [left, right]
    · intro orderId later present moved
      by_cases own : orderId = delivery.orderId
      · exact ⟨rowId, (terminal _ _).mpr (.inr ⟨rfl, own⟩)⟩
      · rw [order_set_outbox, order_set_order _ _ own, order_set_marker] at present
        obtain ⟨other, about⟩ := holds.settled orderId later present moved
        exact ⟨other, (terminal _ _).mpr (.inl about)⟩

theorem OutcomeEffect.oneTerminal_iff (distinct : Distinct events)
    (known : events delivery.toOutcomeEvent) (all : ∀ orderId, Settling events before orderId)
    (holds : OneTerminal before) (effect : OutcomeEffect overlapping delivery before writes) :
    OneTerminal (writes.over before) ↔
      ((writes (orderKey delivery.orderId)).isNone || pendingOrder before delivery.orderId) := by
  cases effect with
  | skipped unmarked settled =>
      rw [Writes.put_over, Writes.none_over]
      simp [holds.skipped, Writes.put, Writes.none]
  | recorded unmarked order found _ undecided =>
      rw [Writes.put_over, Writes.put_over, Writes.none_over]
      have openLeg := (all _).leg_open distinct known rfl (by simpa [Marked] using unmarked) found
      have pending : order.status = .pending := by
        rcases (all _).open_status found openLeg delivery.outcome with pending | ⟨_, cancelled⟩
        · exact pending
        · exact absurd (undecided.symm.trans cancelled) (by simp)
      simp [holds.recorded found, (pendingOrder_of_found found).mpr pending]
  | settled unmarked order found _ status decided eventId rowId _ _ free =>
      rw [Writes.put_over, Writes.put_over, Writes.put_over, Writes.none_over]
      rw [holds.settled_iff (all _) found decided free rfl rfl, ← pendingOrder_of_found found]
      simp [Writes.put]

end Preservation

theorem OneTerminal.step_iff {events : OutcomeEvent → Prop} (distinct : Distinct events)
    {first : OrderDb} {system next : OrderSystem}
    (sound : system.Sound (fun database => ∀ orderId, Settling events database orderId) OrdersKept
      (fun delivery _ => OutcomeEffect overlapping delivery)
      (fun delivery => events delivery.toOutcomeEvent) first)
    (holds : OneTerminal system.rows) (label : Label Delivery)
    (taken : system.step Delivery.body label = some next) :
    OneTerminal next.rows ↔ updatesPending system label = true := by
  rcases System.step_rows label taken with ⟨unfinished, same⟩ | ⟨_, _, _, finishing, same⟩
  · simp [same, holds, updatesPending, unfinished]
  · obtain ⟨known, effect⟩ := sound.finishing (outcomeDiscipline distinct) finishing
    rw [same, effect.oneTerminal_iff distinct known sound.invariant holds]
    simp only [updatesPending, finishing]

def DeliversPending (events : OutcomeEvent → Prop) (system : OrderSystem) (label : Label Delivery) :
    Prop :=
  Delivers events system label ∧ updatesPending system label = true

theorem one_terminal_event (events : OutcomeEvent → Prop) (distinct : Distinct events)
    (first : OrderDb) (unsettled : Unsettled events first) (system : OrderSystem)
    (reachable : Reachable Delivery.body (DeliversPending events) (System.initial first) system) :
    OneTerminal system.rows ∧
      ∀ label next, Delivers events system label → system.step Delivery.body label = some next →
        (OneTerminal next.rows ↔ updatesPending system label = true) := by
  have sound {system : OrderSystem}
      (reachable : Reachable Delivery.body (DeliversPending events) (System.initial first) system) :=
    reachable.sound (outcomeDiscipline distinct) (fun _ _ _ delivered => delivered.1)
      (.initial first unsettled.settling (outcomeDiscipline distinct))
  have holds : OneTerminal system.rows := by
    induction reachable with
    | initial => exact unsettled.oneTerminal
    | step label before enabled taken ih =>
        exact (ih.step_iff distinct (sound before) label taken).mpr enabled.2
  exact ⟨holds, fun label _ _ taken => holds.step_iff distinct (sound reachable) label taken⟩

def sampleInTurn : Option OrderSystem :=
  (System.initial sampleDb).run Delivery.body updatesPending
    [.start 0 { samplePayment .failed with now := 1 }, .advance 0 0, .advance 0 0, .advance 0 0,
      .advance 0 0, .advance 0 40, .advance 0 41, .advance 0 0, .advance 0 0,
      .start 1 { sampleInventory with now := 1 }, .advance 1 0, .advance 1 0, .advance 1 0]

theorem sampleInTurn_ran : sampleInTurn.isSome = true := by decide +kernel

theorem one_terminal_event_inTurn : OneTerminal (sampleInTurn.get sampleInTurn_ran).rows := by
  have reachable := Reachable.of_run (DeliversPending (sampleEvents .failed)) _
    (by simp [DeliversPending, Delivers, sampleEvents])
    (Option.some_get sampleInTurn_ran).symm
  exact (one_terminal_event (sampleEvents .failed) (sampleEvents_distinct _) sampleDb
    (sampleDb_unsettled _) _ reachable).1

def sampleCancelledTwice : Option OrderSystem :=
  (System.initial sampleDb).run Delivery.body (fun _ _ => true)
    (sampleOverlap .failed ++
      [.advance 0 0, .advance 0 0, .advance 0 40, .advance 0 41, .advance 0 0, .advance 0 0] ++
      [.advance 1 0, .advance 1 0, .advance 1 42, .advance 1 43, .advance 1 0, .advance 1 0])

theorem sampleCancelledTwice_ran : sampleCancelledTwice.isSome = true := by decide +kernel

theorem cancelled_twice :
    Distinct (sampleEvents .failed) ∧ Unsettled (sampleEvents .failed) sampleDb ∧
      ∃ system, Reachable Delivery.body (Delivers (sampleEvents .failed)) (System.initial sampleDb)
        system ∧ ¬ OneTerminal system.rows := by
  -- A declined payment cancels the order, and the reservation that read it as PENDING cancels it
  -- a second time.
  refine ⟨sampleEvents_distinct _, sampleDb_unsettled _,
    sampleCancelledTwice.get sampleCancelledTwice_ran, ?_, ?_⟩
  · exact Reachable.of_run (Delivers (sampleEvents .failed)) _
      (by simp [sampleOverlap, Delivers, sampleEvents])
      (Option.some_get sampleCancelledTwice_ran).symm
  · intro one
    have cancelled (rowId : Uuid) (present : rowId = 41 ∨ rowId = 43) :
        TerminalRow (sampleCancelledTwice.get sampleCancelledTwice_ran).rows 7 rowId := by
      right
      rcases present with same | same <;> subst same
      · exact ⟨_, rfl, rfl, rfl⟩
      · exact ⟨_, rfl, rfl, rfl⟩
    exact absurd (one.atMostOne 7 41 43 (cancelled 41 (.inl rfl)) (cancelled 43 (.inr rfl)))
      (by decide)

end Ecommerce.OrderService
