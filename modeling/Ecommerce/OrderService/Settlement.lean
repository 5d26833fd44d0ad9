import Ecommerce.OrderService.OutcomeEffect

set_option autoImplicit false

/-!
# Settlement under interleaved outcome transactions
-/

namespace Ecommerce.OrderService

open Transaction

/-- At most one outcome event for each leg of an order, under ids of their own. -/
structure Distinct (events : OutcomeEvent → Prop) : Prop where
  ids : ∀ one two, events one → events two → one.event.eventId = two.event.eventId → one = two
  legs : ∀ one two, events one → events two → one.orderId = two.orderId → one.leg = two.leg →
    one = two

def RowAbout (database : OrderDb) (orderId : Uuid) (topic : Topic) (rowId : Uuid) : Prop :=
  ∃ row : OutboxEvent, database (outboxKey rowId) = some row ∧ row.topic = topic ∧
    row.aggregateId = orderId

def Marked (database : OrderDb) (outcome : OutcomeEvent) : Prop :=
  database (marker outcome.event.eventId) ≠ none

instance (database : OrderDb) (outcome : OutcomeEvent) : Decidable (Marked database outcome) :=
  inferInstanceAs (Decidable (¬ database (marker outcome.event.eventId) = none))

/-- Every order was just created and none of the outcome events has been handled. -/
structure Unsettled (events : OutcomeEvent → Prop) (database : OrderDb) : Prop where
  status : ∀ orderId (order : Order), database (orderKey orderId) = some order →
    order.status = .pending
  legs : ∀ orderId (order : Order), database (orderKey orderId) = some order →
    ∀ leg, order.leg leg = .pending
  rows : ∀ orderId rowId, ¬ RowAbout database orderId .ordersConfirmed rowId ∧
    ¬ RowAbout database orderId .ordersCancelled rowId
  markers : ∀ outcome, events outcome → ¬ Marked database outcome

/-- What the order row, its outcome events and its terminal rows have to do with each other. -/
structure Settling (events : OutcomeEvent → Prop) (database : OrderDb) (orderId : Uuid) :
    Prop where
  decided : ∀ order : Order, database (orderKey orderId) = some order →
    ∀ leg, order.leg leg ≠ .pending → ∃ outcome, events outcome ∧ outcome.orderId = orderId ∧
      outcome.leg = leg ∧ order.leg leg = outcome.outcome.legStatus ∧ Marked database outcome
  recorded : ∀ outcome, events outcome → outcome.orderId = orderId → Marked database outcome →
    ∀ order : Order, database (orderKey orderId) = some order →
      order.leg outcome.leg = outcome.outcome.legStatus ∨ order.status = .cancelled
  status : ∀ order : Order, database (orderKey orderId) = some order →
    order.status = order.settlement.getD .pending
  confirmed : ∀ rowId, RowAbout database orderId .ordersConfirmed rowId →
    ∃ order : Order, database (orderKey orderId) = some order ∧ order.status = .confirmed
  cancelled : ∀ rowId, RowAbout database orderId .ordersCancelled rowId →
    ∃ order : Order, database (orderKey orderId) = some order ∧ order.status = .cancelled
  confirmedOnce : ∀ one two, RowAbout database orderId .ordersConfirmed one →
    RowAbout database orderId .ordersConfirmed two → one = two
  announced : ∀ order : Order, database (orderKey orderId) = some order →
    order.status ≠ .pending → ∃ rowId, RowAbout database orderId (terminalTopic order.status) rowId

/-- What another session may do to an order row while a handler is under way. -/
structure OrdersKept (before after : OrderDb) : Prop where
  unknown : ∀ orderId, before (orderKey orderId) = none → after (orderKey orderId) = none
  final : ∀ orderId (order : Order), before (orderKey orderId) = some order →
    ∃ later : Order, after (orderKey orderId) = some later ∧
      (order.status ≠ .pending → later.status = order.status)

def NotPending (database : OrderDb) (orderId : Uuid) : Prop :=
  ∀ order : Order, database (orderKey orderId) = some order → order.status ≠ .pending

def overlapping : Knowledge :=
  -- A handler that overlaps others knows that a settled order stays settled, not that a PENDING
  -- one is still PENDING.
  { settled := NotPending
    pending := fun _ _ => True
    drawn := fun _ => True }

theorem OrdersKept.notPending {before after : OrderDb} (kept : OrdersKept before after)
    {orderId : Uuid} (settled : NotPending before orderId) : NotPending after orderId := by
  intro later present
  cases found : before (orderKey orderId) with
  | none =>
      rw [kept.unknown orderId found] at present
      cases present
  | some order =>
      obtain ⟨other, same, final⟩ := kept.final orderId order found
      rw [same] at present
      cases present
      rw [final (settled order found)]
      exact settled order found

theorem overlapping_lasting (inv : OrderDb → Prop) : overlapping.Lasting inv OrdersKept where
  settled _ _ settled := settled
  pending _ _ _ _ _ := trivial
  stays _ _ _ _ interference := ⟨interference.allowed.notPending, id⟩

theorem settlement_open_leg (order : Order) (leg : Leg) (outcome : Outcome)
    (undecided : order.leg leg = .pending) :
    order.settlement = none ∨
      order.settlement = some .cancelled ∧ (order.recordLeg leg outcome).settlement = some .cancelled := by
  -- With a leg still open only a failure of the other leg settles, and recording keeps it.
  cases leg <;> cases outcome <;>
    simp_all [Order.leg, Order.settlement, Order.recordLeg, Outcome.legStatus] <;>
    grind

section Lookups

variable (database : OrderDb) (orderId other rowId : Uuid) (topic : Topic)

@[simp] theorem order_set_marker (eventId : Uuid) :
    database.set (marker eventId) () (orderKey orderId) = database (orderKey orderId) :=
  Store.set_other _ _ (by simp)

@[simp] theorem order_set_outbox (row : OutboxEvent) :
    database.set (outboxKey rowId) row (orderKey orderId) = database (orderKey orderId) :=
  Store.set_other _ _ (by simp)

theorem order_set_order {orderId other : Uuid} (order : Order) (different : other ≠ orderId) :
    database.set (orderKey orderId) order (orderKey other) = database (orderKey other) :=
  Store.set_other _ _ (by simpa using different)

@[simp] theorem rowAbout_set_marker (eventId : Uuid) :
    RowAbout (database.set (marker eventId) ()) orderId topic rowId ↔
      RowAbout database orderId topic rowId := by
  simp [RowAbout, Store.set_other]

@[simp] theorem rowAbout_set_order (order : Order) :
    RowAbout (database.set (orderKey other) order) orderId topic rowId ↔
      RowAbout database orderId topic rowId := by
  simp [RowAbout, Store.set_other]

theorem rowAbout_set_outbox {inserted : Uuid} (row : OutboxEvent)
    (free : database (outboxKey inserted) = none) :
    RowAbout (database.set (outboxKey inserted) row) orderId topic rowId ↔
      RowAbout database orderId topic rowId ∨
        rowId = inserted ∧ row.topic = topic ∧ row.aggregateId = orderId := by
  by_cases same : rowId = inserted
  · subst same
    simp [RowAbout, free]
  · simp [RowAbout, Store.set_other, same]

variable (outcome : OutcomeEvent)

@[simp] theorem marked_set_order (order : Order) :
    Marked (database.set (orderKey orderId) order) outcome ↔ Marked database outcome := by
  simp [Marked, Store.set_other]

@[simp] theorem marked_set_outbox (row : OutboxEvent) :
    Marked (database.set (outboxKey rowId) row) outcome ↔ Marked database outcome := by
  simp [Marked, Store.set_other]

theorem marked_set_marker (eventId : Uuid) :
    Marked (database.set (marker eventId) ()) outcome ↔
      outcome.event.eventId = eventId ∨ Marked database outcome := by
  by_cases same : outcome.event.eventId = eventId
  · subst same
    simp [Marked]
  · simp [Marked, Store.set_other, same]

end Lookups

section Preservation

variable {events : OutcomeEvent → Prop} {before after : OrderDb} {orderId : Uuid}

theorem Unsettled.settling (unsettled : Unsettled events before) (orderId : Uuid) :
    Settling events before orderId where
  decided order found leg moved := absurd (unsettled.legs orderId order found leg) moved
  recorded outcome known _ marked := absurd marked (unsettled.markers outcome known)
  status order found := by
    have payment := unsettled.legs orderId order found .payment
    have inventory := unsettled.legs orderId order found .inventory
    simp only [Order.leg] at payment inventory
    simp [unsettled.status orderId order found, Order.settlement, payment, inventory]
  confirmed rowId about := absurd about (unsettled.rows orderId rowId).1
  cancelled rowId about := absurd about (unsettled.rows orderId rowId).2
  confirmedOnce one _ about _ := absurd about (unsettled.rows orderId one).1
  announced order found moved := absurd (unsettled.status orderId order found) moved

theorem Settling.frame (settling : Settling events before orderId)
    (sameOrder : after (orderKey orderId) = before (orderKey orderId))
    (sameRows : ∀ topic rowId, RowAbout after orderId topic rowId ↔
      RowAbout before orderId topic rowId)
    (sameMarks : ∀ outcome, events outcome → outcome.orderId = orderId →
      (Marked after outcome ↔ Marked before outcome)) :
    Settling events after orderId where
  decided order found leg moved := by
    obtain ⟨outcome, known, about, same, value, marked⟩ :=
      settling.decided order (sameOrder ▸ found) leg moved
    exact ⟨outcome, known, about, same, value, (sameMarks outcome known about).mpr marked⟩
  recorded outcome known about marked order found :=
    settling.recorded outcome known about ((sameMarks outcome known about).mp marked) order
      (sameOrder ▸ found)
  status order found := settling.status order (sameOrder ▸ found)
  confirmed rowId about := by
    rw [sameOrder]
    exact settling.confirmed rowId ((sameRows _ _).mp about)
  cancelled rowId about := by
    rw [sameOrder]
    exact settling.cancelled rowId ((sameRows _ _).mp about)
  confirmedOnce one two first second :=
    settling.confirmedOnce one two ((sameRows _ _).mp first) ((sameRows _ _).mp second)
  announced order found moved := by
    obtain ⟨rowId, about⟩ := settling.announced order (sameOrder ▸ found) moved
    exact ⟨rowId, (sameRows _ _).mpr about⟩

theorem Settling.leg_open (settling : Settling events before orderId) (distinct : Distinct events)
    {outcome : OutcomeEvent} (known : events outcome) (about : outcome.orderId = orderId)
    (unmarked : ¬ Marked before outcome) {order : Order}
    (found : before (orderKey orderId) = some order) : order.leg outcome.leg = .pending := by
  by_contra moved
  obtain ⟨other, otherKnown, otherAbout, sameLeg, _, marked⟩ :=
    settling.decided order found outcome.leg moved
  have same := distinct.legs other outcome otherKnown known (otherAbout.trans about.symm) sameLeg
  exact unmarked (same ▸ marked)

theorem Settling.open_status (settling : Settling events before orderId) {order : Order}
    (found : before (orderKey orderId) = some order) {leg : Leg}
    (undecided : order.leg leg = .pending) (outcome : Outcome) :
    order.status = .pending ∨ order.status = .cancelled ∧
      (order.recordLeg leg outcome).settlement = some .cancelled := by
  have status := settling.status order found
  rcases settlement_open_leg order leg outcome undecided with none | ⟨cancelled, kept⟩
  · exact .inl (by simpa [none] using status)
  · exact .inr ⟨by simpa [cancelled] using status, kept⟩

theorem terminalTopic_confirmed {order : Order} {status : OrderStatus}
    (decided : order.settlement = some status) :
    terminalTopic status = .ordersConfirmed ↔ status = .confirmed := by
  cases status <;> simp [terminalTopic]
  simp [Order.settlement] at decided
  grind

theorem terminalTopic_cancelled (status : OrderStatus) :
    terminalTopic status = .ordersCancelled ↔ status = .cancelled := by
  cases status <;> simp [terminalTopic]

variable {outcome : OutcomeEvent}

section Recorded

variable {order : Order} (later : Order)

theorem Settling.decided_after (settling : Settling events before orderId)
    (known : events outcome) (about : outcome.orderId = orderId)
    (found : before (orderKey orderId) = some order)
    (legs : ∀ leg, later.leg leg = (order.recordLeg outcome.leg outcome.outcome).leg leg)
    (marks : ∀ other, events other → (Marked after other ↔ other = outcome ∨ Marked before other)) :
    ∀ leg, later.leg leg ≠ .pending → ∃ other, events other ∧ other.orderId = orderId ∧
      other.leg = leg ∧ later.leg leg = other.outcome.legStatus ∧ Marked after other := by
  intro leg moved
  by_cases same : leg = outcome.leg
  · subst same
    refine ⟨outcome, known, about, rfl, ?_, (marks outcome known).mpr (.inl rfl)⟩
    rw [legs, recordLeg_leg]
  · rw [legs, recordLeg_other order _ same] at moved
    obtain ⟨other, otherKnown, otherAbout, otherLeg, value, marked⟩ :=
      settling.decided order found leg moved
    refine ⟨other, otherKnown, otherAbout, otherLeg, ?_, (marks other otherKnown).mpr (.inr marked)⟩
    rw [legs, recordLeg_other order _ same, value]

theorem Settling.recorded_after (settling : Settling events before orderId)
    (distinct : Distinct events) (known : events outcome) (about : outcome.orderId = orderId)
    (found : before (orderKey orderId) = some order)
    (legs : ∀ leg, later.leg leg = (order.recordLeg outcome.leg outcome.outcome).leg leg)
    (marks : ∀ other, events other → (Marked after other ↔ other = outcome ∨ Marked before other))
    (kept : order.status = .cancelled → later.status = .cancelled) :
    ∀ other, events other → other.orderId = orderId → Marked after other →
      later.leg other.leg = other.outcome.legStatus ∨ later.status = .cancelled := by
  intro other otherKnown otherAbout marked
  rcases (marks other otherKnown).mp marked with same | marked
  · subst same
    exact .inl (by rw [legs, recordLeg_leg])
  · by_cases same : other.leg = outcome.leg
    · have equal := distinct.legs other outcome otherKnown known (otherAbout.trans about.symm) same
      subst equal
      exact .inl (by rw [legs, recordLeg_leg])
    · rcases settling.recorded other otherKnown otherAbout marked order found with value | cancelled
      · exact .inl (by rw [legs, recordLeg_other order _ same, value])
      · exact .inr (kept cancelled)

end Recorded

theorem Settling.skipped (settling : Settling events before orderId) (distinct : Distinct events)
    (known : events outcome) (about : outcome.orderId = orderId) (unmarked : ¬ Marked before outcome)
    (settled : NotPending before orderId) :
    Settling events (before.set (marker outcome.event.eventId) ()) orderId := by
  have marks (other : OutcomeEvent) (otherKnown : events other) :
      Marked (before.set (marker outcome.event.eventId) ()) other ↔
        other = outcome ∨ Marked before other := by
    rw [marked_set_marker]
    exact or_congr ⟨distinct.ids other outcome otherKnown known, fun same => same ▸ rfl⟩ Iff.rfl
  refine ⟨?_, ?_, ?_, ?_, ?_, ?_, ?_⟩ <;>
    simp only [order_set_marker, rowAbout_set_marker]
  · intro order found leg moved
    obtain ⟨other, otherKnown, otherAbout, same, value, marked⟩ :=
      settling.decided order found leg moved
    exact ⟨other, otherKnown, otherAbout, same, value, (marks other otherKnown).mpr (.inr marked)⟩
  · intro other otherKnown otherAbout marked order found
    rcases (marks other otherKnown).mp marked with same | marked
    · subst same
      have undecided := settling.leg_open distinct known about unmarked found
      rcases settling.open_status found undecided .failed with pending | ⟨cancelled, _⟩
      · exact absurd pending (settled order found)
      · exact .inr cancelled
    · exact settling.recorded other otherKnown otherAbout marked order found
  · exact settling.status
  · exact settling.confirmed
  · exact settling.cancelled
  · exact settling.confirmedOnce
  · exact settling.announced

theorem marked_after (before : OrderDb) (orderId : Uuid) (order : Order)
    (distinct : Distinct events) (known : events outcome) (other : OutcomeEvent) (otherKnown : events other) :
    Marked ((before.set (marker outcome.event.eventId) ()).set (orderKey orderId) order) other ↔
      other = outcome ∨ Marked before other := by
  rw [marked_set_order, marked_set_marker]
  exact or_congr ⟨distinct.ids other outcome otherKnown known, fun same => same ▸ rfl⟩ Iff.rfl

theorem Settling.recorded_open (settling : Settling events before orderId)
    (distinct : Distinct events) (known : events outcome) (about : outcome.orderId = orderId)
    (unmarked : ¬ Marked before outcome) {order : Order}
    (found : before (orderKey orderId) = some order)
    (undecided : (order.recordLeg outcome.leg outcome.outcome).settlement = none) :
    Settling events ((before.set (marker outcome.event.eventId) ()).set (orderKey orderId)
      (order.recordLeg outcome.leg outcome.outcome)) orderId := by
  have marks := marked_after before orderId (order.recordLeg outcome.leg outcome.outcome) distinct
    known
  have pending : order.status = .pending := by
    have openLeg := settling.leg_open distinct known about unmarked found
    rcases settling.open_status found openLeg outcome.outcome with pending | ⟨_, cancelled⟩
    · exact pending
    · simp [undecided] at cancelled
  have noTerminal {rowId : Uuid} {topic : Topic} (about : RowAbout before orderId topic rowId)
      (terminal : topic = .ordersConfirmed ∨ topic = .ordersCancelled) : False := by
    rcases terminal with same | same <;> subst same
    · obtain ⟨other, present, confirmed⟩ := settling.confirmed rowId about
      rw [found] at present
      cases present
      simp [pending] at confirmed
    · obtain ⟨other, present, cancelled⟩ := settling.cancelled rowId about
      rw [found] at present
      cases present
      simp [pending] at cancelled
  have status : (order.recordLeg outcome.leg outcome.outcome).status = .pending := by
    rw [recordLeg_status, pending]
  refine ⟨?_, ?_, ?_, ?_, ?_, ?_, ?_⟩ <;>
    simp only [Store.set_same, Option.some.injEq, forall_eq', rowAbout_set_order,
      rowAbout_set_marker]
  · exact settling.decided_after _ known about found (fun _ => rfl) marks
  · intro other otherKnown otherAbout marked
    refine settling.recorded_after _ distinct known about found (fun _ => rfl) marks ?_
      other otherKnown otherAbout marked
    simp [pending]
  · rw [status, undecided, Option.getD_none]
  · exact fun rowId about => (noTerminal about (.inl rfl)).elim
  · exact fun rowId about => (noTerminal about (.inr rfl)).elim
  · exact fun one two about _ => (noTerminal about (.inl rfl)).elim
  · exact fun moved => absurd status moved

theorem Settling.recorded_settled (settling : Settling events before orderId)
    (distinct : Distinct events) (known : events outcome) (about : outcome.orderId = orderId)
    (unmarked : ¬ Marked before outcome) {order : Order}
    (found : before (orderKey orderId) = some order) {status : OrderStatus}
    (decided : (order.recordLeg outcome.leg outcome.outcome).settlement = some status)
    {rowId : Uuid} {row : OutboxEvent} (free : before (outboxKey rowId) = none)
    (topic : row.topic = terminalTopic status) (aggregate : row.aggregateId = orderId) :
    Settling events (((before.set (marker outcome.event.eventId) ()).set (orderKey orderId)
      { order.recordLeg outcome.leg outcome.outcome with status }).set (outboxKey rowId) row)
      orderId := by
  have marks (other : OutcomeEvent) (otherKnown : events other) :=
    marked_after before orderId { order.recordLeg outcome.leg outcome.outcome with status } distinct
      known other otherKnown
  have openLeg := settling.leg_open distinct known about unmarked found
  have notConfirmed (other : Uuid) : ¬ RowAbout before orderId .ordersConfirmed other := by
    intro about
    obtain ⟨found', present, confirmed⟩ := settling.confirmed other about
    rw [found] at present
    cases present
    rcases settling.open_status found openLeg outcome.outcome with pending | ⟨cancelled, _⟩ <;>
      simp_all
  have kept (cancelled : order.status = .cancelled) : status = .cancelled := by
    rcases settling.open_status found openLeg outcome.outcome with pending | ⟨_, same⟩
    · simp [pending] at cancelled
    · simpa [decided] using same
  have freeNow : ((before.set (marker outcome.event.eventId) ()).set (orderKey orderId)
      { order.recordLeg outcome.leg outcome.outcome with status }) (outboxKey rowId) = none := by
    rw [Store.set_other _ _ (by simp), Store.set_other _ _ (by simp), free]
  refine ⟨?_, ?_, ?_, ?_, ?_, ?_, ?_⟩ <;>
    simp only [order_set_outbox, Store.set_same, Option.some.injEq, forall_eq',
      rowAbout_set_outbox _ _ _ _ row freeNow, rowAbout_set_order, rowAbout_set_marker,
      marked_set_outbox, exists_eq_left', topic, aggregate]
  · exact settling.decided_after { order.recordLeg _ _ with status } known about found
      (fun leg => leg_status _ status leg) marks
  · intro other otherKnown otherAbout marked
    exact settling.recorded_after { order.recordLeg _ _ with status } distinct known
      about found (fun leg => leg_status _ status leg) marks kept other otherKnown otherAbout marked
  · simp [settlement_status, decided]
  · rintro other (about | ⟨_, same, _⟩)
    · exact absurd about (notConfirmed other)
    · exact (terminalTopic_confirmed decided).mp same
  · rintro other (about | ⟨_, same, _⟩)
    · obtain ⟨earlier, present, cancelled⟩ := settling.cancelled other about
      rw [found] at present
      cases present
      exact kept cancelled
    · exact (terminalTopic_cancelled status).mp same
  · rintro one two (first | ⟨first, _, _⟩) (second | ⟨second, _, _⟩)
    · exact absurd first (notConfirmed one)
    · exact absurd first (notConfirmed one)
    · exact absurd second (notConfirmed two)
    · rw [first, second]
  · exact fun _ => ⟨rowId, .inr (by simp)⟩

theorem OutcomeEffect.settling {delivery : Delivery} (distinct : Distinct events)
    (known : events delivery.toOutcomeEvent) (all : ∀ orderId, Settling events before orderId)
    {writes : Writes (TableKey Key) (TableRow Row)}
    (effect : OutcomeEffect overlapping delivery before writes) (orderId : Uuid) :
    Settling events (writes.over before) orderId := by
  have marks (other : OutcomeEvent) (otherKnown : events other)
      (elsewhere : other.orderId ≠ delivery.orderId) :
      other.event.eventId ≠ delivery.event.eventId :=
    fun same => elsewhere (by rw [distinct.ids other _ otherKnown known same])
  by_cases own : delivery.orderId = orderId
  · subst own
    cases effect with
    | skipped unmarked settled =>
        rw [Writes.put_over, Writes.none_over]
        exact (all _).skipped distinct known rfl (by simpa [Marked] using unmarked) settled
    | recorded unmarked order found pending undecided =>
        rw [Writes.put_over, Writes.put_over, Writes.none_over]
        exact (all _).recorded_open distinct known rfl (by simpa [Marked] using unmarked) found
          undecided
    | settled unmarked order found pending status decided eventId rowId drawn _ free =>
        rw [Writes.put_over, Writes.put_over, Writes.put_over, Writes.none_over]
        exact (all _).recorded_settled distinct known rfl (by simpa [Marked] using unmarked) found
          decided free rfl rfl
  · refine (all orderId).frame ?_ ?_ ?_
    · cases effect with
      | skipped => simp
      | recorded => simp [order_set_order _ _ (Ne.symm own)]
      | settled => simp [order_set_order _ _ (Ne.symm own)]
    · intro topic rowId
      cases effect with
      | skipped => simp
      | recorded => simp
      | settled unmarked order found pending status decided eventId inserted drawn _ free =>
          have freeNow : ((before.set (marker delivery.event.eventId) ()).set
              (orderKey delivery.orderId) { delivery.record order with status })
                (outboxKey inserted) = none := by
            rw [Store.set_other _ _ (by simp), Store.set_other _ _ (by simp), free]
          rw [Writes.put_over, Writes.put_over, Writes.put_over, Writes.none_over,
            rowAbout_set_outbox _ _ _ _ _ freeNow]
          simp [terminalRow, terminalEvent, outboxRow, NewEvent.envelope, own]
    · intro other otherKnown about
      have elsewhere := marks other otherKnown (about ▸ Ne.symm own)
      cases effect <;> simp [marked_set_marker, elsewhere]

theorem OutcomeEffect.kept {delivery : Delivery} (distinct : Distinct events)
    (known : events delivery.toOutcomeEvent) (all : ∀ orderId, Settling events before orderId)
    {writes : Writes (TableKey Key) (TableRow Row)}
    (effect : OutcomeEffect overlapping delivery before writes) :
    OrdersKept before (writes.over before) := by
  have updated (order later : Order) (found : before (orderKey delivery.orderId) = some order)
      (final : order.status ≠ .pending → later.status = order.status) :
      OrdersKept before ((before.set (marker delivery.event.eventId) ()).set
        (orderKey delivery.orderId) later) := by
    constructor
    · intro orderId absent
      by_cases own : orderId = delivery.orderId
      · subst own
        simp [found] at absent
      · rw [order_set_order _ _ own, order_set_marker, absent]
    · intro orderId earlier present
      by_cases own : orderId = delivery.orderId
      · subst own
        rw [found] at present
        cases present
        exact ⟨later, by simp, final⟩
      · exact ⟨earlier, by rw [order_set_order _ _ own, order_set_marker, present], fun _ => rfl⟩
  cases effect with
  | skipped =>
      exact ⟨by simp, fun orderId order found => ⟨order, by simpa using found, fun _ => rfl⟩⟩
  | recorded unmarked order found pending undecided =>
      rw [Writes.put_over, Writes.put_over, Writes.none_over]
      exact updated order _ found fun _ => recordLeg_status ..
  | settled unmarked order found pending status decided eventId rowId drawn _ free =>
      have kept := updated order { delivery.record order with status } found fun moved => by
        have openLeg := (all _).leg_open distinct known rfl (by simpa [Marked] using unmarked) found
        rcases (all _).open_status found openLeg delivery.outcome with pending | ⟨cancelled, same⟩
        · exact absurd pending moved
        · rw [cancelled]
          simpa [Delivery.record, decided] using same
      rw [Writes.put_over, Writes.put_over, Writes.put_over, Writes.none_over]
      exact ⟨fun orderId absent => by simpa using kept.unknown orderId absent,
        fun orderId earlier present => by simpa using kept.final orderId earlier present⟩

theorem outcomeDiscipline (distinct : Distinct events) :
    Discipline (fun database => ∀ orderId, Settling events database orderId) OrdersKept
      (fun delivery _ => OutcomeEffect overlapping delivery) Delivery.body
      (fun delivery => events delivery.toOutcomeEvent) where
  relyRefl _ := ⟨fun _ absent => absent, fun _ order found => ⟨order, found, fun _ => rfl⟩⟩
  relyTrans _ _ _ one two := by
    constructor
    · exact fun orderId absent => two.unknown orderId (one.unknown orderId absent)
    · intro orderId order found
      obtain ⟨middle, present, first⟩ := one.final orderId order found
      obtain ⟨last, present, second⟩ := two.final orderId middle present
      refine ⟨last, present, fun moved => ?_⟩
      rw [second (by rwa [first moved]), first moved]
  starts delivery _ _ _ :=
    delivery.wp_body (overlapping_lasting _)
  keeps _ _ _ _ known all effect :=
    ⟨effect.settling distinct known all, effect.kept distinct known all⟩

end Preservation

abbrev OrderSystem := System (TableKey Key) (TableRow Row) TxError Unit Delivery

def Delivers (events : OutcomeEvent → Prop) (_ : OrderSystem) : Label Delivery → Prop
  | .start _ delivery => events delivery.toOutcomeEvent
  | _ => True

theorem Unsettled.sound {events : OutcomeEvent → Prop} (distinct : Distinct events)
    {first : OrderDb} (unsettled : Unsettled events first) {system : OrderSystem}
    (reachable : Reachable Delivery.body (Delivers events) (System.initial first) system) :
    system.Sound (fun database => ∀ orderId, Settling events database orderId) OrdersKept
      (fun delivery _ => OutcomeEffect overlapping delivery)
      (fun delivery => events delivery.toOutcomeEvent) first :=
  reachable.sound (outcomeDiscipline distinct) (fun _ _ _ delivered => delivered)
    (.initial first unsettled.settling (outcomeDiscipline distinct))

theorem Settling.both_marked {events : OutcomeEvent → Prop} (distinct : Distinct events)
    {database : OrderDb} {payment inventory : OutcomeEvent}
    (settling : Settling events database payment.orderId)
    (paymentKnown : events payment) (inventoryKnown : events inventory)
    (paymentLeg : payment.leg = .payment) (inventoryLeg : inventory.leg = .inventory)
    (same : payment.orderId = inventory.orderId) (paymentMarked : Marked database payment)
    (inventoryMarked : Marked database inventory) {order : Order}
    (found : database (orderKey payment.orderId) = some order) :
    order.status = if payment.outcome = .succeeded ∧ inventory.outcome = .succeeded then .confirmed
      else .cancelled := by
  -- Once both legs of an order were handled it is settled by them, whatever the interleaving.
  have status := settling.status order found
  have paymentValue := settling.recorded payment paymentKnown rfl paymentMarked order found
  have inventoryValue := settling.recorded inventory inventoryKnown same.symm inventoryMarked
    order found
  rw [paymentLeg] at paymentValue
  rw [inventoryLeg] at inventoryValue
  -- A leg that is decided was decided by the one event there is for it.
  have fromPayment (moved : order.paymentStatus ≠ .pending) :
      order.paymentStatus = payment.outcome.legStatus := by
    obtain ⟨other, known, about, leg, value, _⟩ := settling.decided order found .payment moved
    have equal := distinct.legs other payment known paymentKnown about (leg.trans paymentLeg.symm)
    exact equal ▸ value
  have fromInventory (moved : order.inventoryStatus ≠ .pending) :
      order.inventoryStatus = inventory.outcome.legStatus := by
    obtain ⟨other, known, about, leg, value, _⟩ := settling.decided order found .inventory moved
    have equal := distinct.legs other inventory known inventoryKnown (about.trans same)
      (leg.trans inventoryLeg.symm)
    exact equal ▸ value
  simp only [Order.leg] at paymentValue inventoryValue
  cases hp : payment.outcome <;> cases hi : inventory.outcome <;>
    simp only [hp, hi, Outcome.legStatus, Order.settlement] at * <;> grind

theorem settlement_not_lost (events : OutcomeEvent → Prop) (distinct : Distinct events)
    (first : OrderDb) (unsettled : Unsettled events first) (system : OrderSystem)
    (reachable : Reachable Delivery.body (Delivers events) (System.initial first) system) :
    (∀ payment inventory, events payment → events inventory → payment.leg = .payment →
      inventory.leg = .inventory → payment.orderId = inventory.orderId →
      Marked system.rows payment → Marked system.rows inventory →
      ∀ created : Order, first (orderKey payment.orderId) = some created →
        ∃ order : Order, system.rows (orderKey payment.orderId) = some order ∧
          order.status = if payment.outcome = .succeeded ∧ inventory.outcome = .succeeded
            then .confirmed else .cancelled) ∧
    (∀ orderId one, RowAbout system.rows orderId .ordersConfirmed one → ∀ two,
      (RowAbout system.rows orderId .ordersConfirmed two → two = one) ∧
        ¬ RowAbout system.rows orderId .ordersCancelled two) ∧
    (∀ later, Reachable Delivery.body (Delivers events) system later →
      ∀ orderId (order : Order), system.rows (orderKey orderId) = some order →
        order.status ≠ .pending → ∃ last : Order, later.rows (orderKey orderId) = some last ∧
          last.status = order.status) := by
  have sound := unsettled.sound distinct reachable
  refine ⟨?_, ?_, ?_⟩
  · intro payment inventory paymentKnown inventoryKnown paymentLeg inventoryLeg same paymentMarked
      inventoryMarked created wasThere
    obtain ⟨order, found, _⟩ := sound.since.final _ created wasThere
    exact ⟨order, found, (sound.invariant _).both_marked distinct paymentKnown inventoryKnown
      paymentLeg inventoryLeg same paymentMarked inventoryMarked found⟩
  · intro orderId one about two
    refine ⟨fun other => (sound.invariant orderId).confirmedOnce two one other about, ?_⟩
    intro cancelled
    obtain ⟨order, found, confirmed⟩ := (sound.invariant orderId).confirmed one about
    obtain ⟨other, present, cancelled⟩ := (sound.invariant orderId).cancelled two cancelled
    rw [found] at present
    cases present
    simp [confirmed] at cancelled
  · intro later reachable orderId order found moved
    have kept := reachable.related (outcomeDiscipline distinct) (fun _ _ _ delivered => delivered)
      sound
    obtain ⟨last, present, final⟩ := kept.final orderId order found
    exact ⟨last, present, final moved⟩

section Sample

def sampleOrder : Order :=
  { id := 7
    customerId := 1
    status := .pending
    paymentStatus := .pending
    inventoryStatus := .pending
    totalAmountCents := 500
    currency := "USD"
    correlationId := 8
    createdAt := 0
    items := [{ productId := 3, quantity := 1, unitPriceCents := 500 }] }

def sampleDb : OrderDb := Store.set (fun _ => none) (orderKey 7) sampleOrder

def samplePayment : Outcome → OutcomeEvent
  | .succeeded =>
      { event := NewEvent.envelope
          { eventType := .paymentsCompleted, correlationId := 8, aggregateId := 7
            producer := "payment-service"
            payload := .paymentCompleted
              { orderId := 7, customerId := 1, paymentId := 20, amountChargedCents := 500 } } 0 21
        leg := .payment
        outcome := .succeeded }
  | .failed =>
      { event := NewEvent.envelope
          { eventType := .paymentsFailed, correlationId := 8, aggregateId := 7
            producer := "payment-service"
            payload := .paymentFailed { orderId := 7, customerId := 1, reason := .cardDeclined } } 0 21
        leg := .payment
        outcome := .failed }

def sampleInventory : OutcomeEvent :=
  { event := NewEvent.envelope
      { eventType := .inventoryReserved, correlationId := 8, aggregateId := 7
        producer := "inventory-service"
        payload := .inventoryReserved
          { orderId := 7, reservationId := 30, items := [{ productId := 3, quantity := 1 }] } } 0 31
    leg := .inventory
    outcome := .succeeded }

def sampleEvents (payment : Outcome) (outcome : OutcomeEvent) : Prop :=
  outcome = samplePayment payment ∨ outcome = sampleInventory

theorem sampleEvents_distinct (payment : Outcome) : Distinct (sampleEvents payment) := by
  constructor <;> rintro one two (rfl | rfl) (rfl | rfl) <;>
    cases payment <;> simp [samplePayment, sampleInventory, NewEvent.envelope]

theorem sampleDb_unsettled (payment : Outcome) : Unsettled (sampleEvents payment) sampleDb := by
  have only (orderId : Uuid) (order : Order) (found : sampleDb (orderKey orderId) = some order) :
      order = sampleOrder := by
    by_cases same : orderId = 7
    · subst same
      simpa [sampleDb, eq_comm] using found
    · simp [sampleDb, order_set_order _ _ same] at found
  refine ⟨?_, ?_, ?_, ?_⟩
  · intro orderId order found
    rw [only orderId order found]
    rfl
  · intro orderId order found leg
    rw [only orderId order found]
    cases leg <;> rfl
  · intro orderId rowId
    simp only [sampleDb, rowAbout_set_order]
    simp [RowAbout]
  · intro outcome _
    simp only [sampleDb, marked_set_order]
    simp [Marked]

def sampleOverlap (payment : Outcome) : List (Label Delivery) :=
  -- Both handlers read the order before either of them updates it.
  [.start 0 { samplePayment payment with now := 1 }, .start 1 { sampleInventory with now := 1 },
    .advance 0 0, .advance 1 0, .advance 0 0, .advance 1 0]

def sampleBothSucceed : Option OrderSystem :=
  (System.initial sampleDb).run Delivery.body (fun _ _ => true)
    (sampleOverlap .succeeded ++ [.advance 0 0, .advance 0 0] ++
      [.advance 1 0, .advance 1 0, .advance 1 40, .advance 1 41, .advance 1 0, .advance 1 0])

theorem sampleBothSucceed_ran : sampleBothSucceed.isSome = true := by decide +kernel

theorem settlement_not_lost_overlap :
    ∃ order : Order, (sampleBothSucceed.get sampleBothSucceed_ran).rows (orderKey 7) = some order ∧
      order.status = .confirmed := by
  have reachable := Reachable.of_run (Delivers (sampleEvents .succeeded)) _
    (by simp [sampleOverlap, Delivers, sampleEvents])
    (Option.some_get sampleBothSucceed_ran).symm
  have result := settlement_not_lost (sampleEvents .succeeded) (sampleEvents_distinct _) sampleDb
    (sampleDb_unsettled _) _ reachable
  exact result.1 (samplePayment .succeeded) sampleInventory (.inl rfl) (.inr rfl) rfl rfl rfl
    (by decide +kernel) (by decide +kernel) sampleOrder (by simp [sampleDb, samplePayment,
      NewEvent.envelope, OutcomeEvent.orderId, Payload.orderId])

end Sample

end Ecommerce.OrderService
