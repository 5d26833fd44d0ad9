import Ecommerce.OrderService.SagaConsumer
import Ecommerce.Shared.Statements

set_option autoImplicit false

/-!
# What an outcome transaction does to the order database
-/

namespace Ecommerce.OrderService

open Transaction

/-- What `applyLegOutcome` decides about the row that its update returned. -/
def Order.settlement (updated : Order) : Option OrderStatus :=
  if updated.paymentStatus = .failed ∨ updated.inventoryStatus = .failed then some .cancelled
  else if updated.paymentStatus = .succeeded ∧ updated.inventoryStatus = .succeeded then
    some .confirmed
  else none

def Order.leg (order : Order) : Leg → LegStatus
  | .payment => order.paymentStatus
  | .inventory => order.inventoryStatus

@[simp] theorem recordLeg_leg (order : Order) (leg : Leg) (outcome : Outcome) :
    (order.recordLeg leg outcome).leg leg = outcome.legStatus := by
  cases leg <;> rfl

theorem recordLeg_other (order : Order) {leg other : Leg} (outcome : Outcome)
    (different : other ≠ leg) : (order.recordLeg leg outcome).leg other = order.leg other := by
  cases leg <;> cases other <;> first | rfl | contradiction

@[simp] theorem recordLeg_status (order : Order) (leg : Leg) (outcome : Outcome) :
    (order.recordLeg leg outcome).status = order.status := by
  cases leg <;> rfl

theorem settlement_status (order : Order) (status : OrderStatus) :
    ({ order with status } : Order).settlement = order.settlement := rfl

theorem leg_status (order : Order) (status : OrderStatus) (leg : Leg) :
    ({ order with status } : Order).leg leg = order.leg leg := by
  cases leg <;> rfl

theorem settlement_cases {order : Order} {status : OrderStatus}
    (decided : order.settlement = some status) : status = .cancelled ∨ status = .confirmed := by
  unfold Order.settlement at decided
  split at decided
  · exact .inl (Option.some.inj decided).symm
  · split at decided
    · exact .inr (Option.some.inj decided).symm
    · cases decided

def terminalTopic : OrderStatus → Topic
  | .cancelled => .ordersCancelled
  | _ => .ordersConfirmed

def terminalPayload (orderId : Uuid) (updated : Order) : OrderStatus → Payload
  | .cancelled => .orderCancelled
      { orderId, customerId := updated.customerId, reason := cancelReason updated }
  | _ => .orderConfirmed
      { orderId
        customerId := updated.customerId
        totalAmountCents := updated.totalAmountCents }

def terminalEvent (now : Timestamp) (orderId : Uuid) (updated : Order) (status : OrderStatus)
    (eventId : Uuid) : EventEnvelope :=
  NewEvent.envelope
    { eventType := terminalTopic status
      correlationId := updated.correlationId
      aggregateId := orderId
      producer
      payload := terminalPayload orderId updated status } now eventId

def terminalRow (now : Timestamp) (orderId : Uuid) (updated : Order) (status : OrderStatus)
    (eventId : Uuid) : OutboxEvent :=
  outboxRow "Order" now (terminalTopic status) (terminalEvent now orderId updated status eventId)

structure OutcomeEvent where
  event : EventEnvelope
  leg : Leg
  outcome : Outcome

abbrev OutcomeEvent.orderId (outcome : OutcomeEvent) : Uuid := outcome.event.payload.orderId

structure Delivery extends OutcomeEvent where
  now : Timestamp

def Delivery.body (delivery : Delivery) : Prog (TableKey Key) (TableRow Row) TxError Unit :=
  handleOutcome delivery.leg delivery.outcome delivery.now delivery.event

abbrev Delivery.record (delivery : Delivery) (order : Order) : Order :=
  order.recordLeg delivery.leg delivery.outcome

/-- What is known at its commit of an order that a transaction found settled or unknown, of one
that it found PENDING, and of the values it drew. -/
structure Knowledge where
  settled : OrderDb → Uuid → Prop
  pending : OrderDb → Uuid → Prop
  drawn : Uuid → Prop

structure Knowledge.Lasting (inv : OrderDb → Prop) (rely : OrderDb → OrderDb → Prop)
    (knowledge : Knowledge) : Prop where
  settled : ∀ database orderId, (∀ order : Order, database (orderKey orderId) = some order →
    order.status ≠ .pending) → knowledge.settled database orderId
  pending : ∀ database orderId (order : Order), database (orderKey orderId) = some order →
    order.status = .pending → knowledge.pending database orderId
  stays : ∀ writes before after orderId, Interferes inv rely writes before after →
    (knowledge.settled before orderId → knowledge.settled after orderId) ∧
      (knowledge.pending before orderId → knowledge.pending after orderId)

inductive OutcomeEffect (knowledge : Knowledge) (delivery : Delivery)
    (rows : OrderDb) : Writes (TableKey Key) (TableRow Row) → Prop
  | skipped (unmarked : rows (marker delivery.event.eventId) = none)
      (settled : knowledge.settled rows delivery.orderId) :
      OutcomeEffect knowledge delivery rows
        (Writes.none.put (marker delivery.event.eventId) (some ()))
  | recorded (unmarked : rows (marker delivery.event.eventId) = none) (order : Order)
      (found : rows (orderKey delivery.orderId) = some order)
      (pending : knowledge.pending rows delivery.orderId)
      (undecided : (delivery.record order).settlement = none) :
      OutcomeEffect knowledge delivery rows
        ((Writes.none.put (marker delivery.event.eventId) (some ())).put (orderKey delivery.orderId)
          (some (delivery.record order)))
  | settled (unmarked : rows (marker delivery.event.eventId) = none) (order : Order)
      (found : rows (orderKey delivery.orderId) = some order)
      (pending : knowledge.pending rows delivery.orderId)
      (status : OrderStatus) (decided : (delivery.record order).settlement = some status)
      (eventId rowId : Uuid) (drawn : knowledge.drawn eventId) (rowDrawn : knowledge.drawn rowId)
      (free : rows (outboxKey rowId) = none) :
      OutcomeEffect knowledge delivery rows
        (((Writes.none.put (marker delivery.event.eventId) (some ())).put (orderKey delivery.orderId)
          (some { delivery.record order with status })).put (outboxKey rowId)
          (some (terminalRow delivery.now delivery.orderId (delivery.record order) status eventId)))

section Wp

variable {inv : OrderDb → Prop} {rely : OrderDb → OrderDb → Prop} {draws : Uuid → Prop}
variable {post : Unit → Writes (TableKey Key) (TableRow Row) → OrderDb → Prop}
variable {writes : Writes (TableKey Key) (TableRow Row)} {rows : OrderDb}

theorem wp_enqueue {now : Timestamp} {topic : Topic} {event : EventEnvelope} :
    wp inv rely draws (onRows (enqueue now topic event)) post writes rows ↔
      ∀ rowId, draws rowId → ∀ later, Interferes inv rely writes rows later →
        writes.over later (outboxKey rowId) = none →
          post () (writes.put (outboxKey rowId) (some (outboxRow "Order" now topic event))) later := by
  simp only [enqueue, enqueueAs, onRows_bind, onRows_randomUUID, onRows_create, wp_bind,
    wp_randomUUID, wp_create]
  rfl

theorem wp_settle {status : OrderStatus} {topic : Topic} {payload : Order → Payload}
    {now : Timestamp} {orderId : Uuid} :
    wp inv rely draws (onRows (settle status topic payload now orderId)) post writes rows ↔
      ∀ found, Interferes inv rely writes rows found →
        ∀ order : Order, writes.over found (orderKey orderId) = some order →
          let settled : Order := { order with status }
          ∀ eventId, draws eventId → ∀ rowId, draws rowId → ∀ later,
            Interferes inv rely (writes.put (orderKey orderId) (some settled)) found later →
            (writes.put (orderKey orderId) (some settled)).over later (outboxKey rowId) = none →
              post () ((writes.put (orderKey orderId) (some settled)).put (outboxKey rowId)
                (some (outboxRow "Order" now topic
                  (NewEvent.envelope
                    { eventType := topic
                      correlationId := order.correlationId
                      aggregateId := orderId
                      producer
                      payload := payload settled } now eventId)))) later := by
  simp only [settle, onRows_bind, onRows_update, onRows_createEvent, wp_bind, wp_update,
    wp_createEvent, wp_enqueue]

variable {knowledge : Knowledge}

theorem Delivery.wp_settle (delivery : Delivery) (lasting : knowledge.Lasting inv rely)
    {order : Order} {status : OrderStatus}
    (decided : (delivery.record order).settlement = some status)
    {topic : Topic} {payload : Order → Payload} (sameTopic : topic = terminalTopic status)
    (samePayload : payload { delivery.record order with status } =
      terminalPayload delivery.orderId (delivery.record order) status)
    (unmarked : rows (marker delivery.event.eventId) = none)
    (found : rows (orderKey delivery.orderId) = some order)
    (pending : knowledge.pending rows delivery.orderId) :
    wp inv rely knowledge.drawn
      (onRows (settle status topic payload delivery.now delivery.orderId))
      (Commits inv rely (fun delivery _ => OutcomeEffect knowledge delivery) delivery)
      ((Writes.none.put (marker delivery.event.eventId) (some ())).put (orderKey delivery.orderId)
        (some (delivery.record order))) rows := by
  rw [OrderService.wp_settle]
  intro settling one updated same settled eventId drawn rowId rowDrawn inserting two free last three
  have updatedIs : updated = delivery.record order := by
    simpa [Writes.over, Writes.put] using same.symm
  subst updatedIs
  have unmarkedNow : last (marker delivery.event.eventId) = none := by
    rw [three.frame _ (by simp [Writes.put_written]), two.frame _ (by simp [Writes.put_written]),
      one.frame _ (by simp [Writes.put_written]), unmarked]
  have foundNow : last (orderKey delivery.orderId) = some order := by
    rw [three.frame _ (by simp [Writes.put_written]), two.frame _ (by simp [Writes.put_written]),
      one.frame _ (by simp [Writes.put_written]), found]
  have pendingNow : knowledge.pending last delivery.orderId :=
    (lasting.stays _ _ _ _ three).2 ((lasting.stays _ _ _ _ two).2
      ((lasting.stays _ _ _ _ one).2 pending))
  have freeNow : last (outboxKey rowId) = none := by
    rw [three.frame _ (by simp [Writes.put_written])]
    simpa [Store.set_other] using free
  have effect := OutcomeEffect.settled unmarkedNow order foundNow pendingNow status decided
    eventId rowId drawn rowDrawn freeNow
  subst sameTopic
  simpa [settled, samePayload, terminalRow, terminalEvent] using effect

/-- Whatever other sessions commit meanwhile, an outcome transaction that commits has this effect. -/
theorem Delivery.wp_body (delivery : Delivery) (lasting : knowledge.Lasting inv rely) :
    wp inv rely knowledge.drawn delivery.body
      (Commits inv rely (fun delivery _ => OutcomeEffect knowledge delivery) delivery)
      .none rows := by
  simp only [Delivery.body, handleOutcome, processOnceTx, applyLegOutcome, onRows_bind, wp_bind,
    wp_create, onRows_findUnique, wp_findUnique]
  intro marking one unmarked reading two
  have unmarkedThen : reading (marker delivery.event.eventId) = none := by
    rw [two.frame _ (by simp [Writes.put_written])]
    exact unmarked
  have skipped (settled : knowledge.settled reading delivery.orderId) :
      Commits inv rely (fun delivery _ => OutcomeEffect knowledge delivery) delivery ()
        (Writes.none.put (marker delivery.event.eventId) (some ())) reading := by
    intro last three
    have unmarkedNow : last (marker delivery.event.eventId) = none := by
      rw [three.frame _ (by simp [Writes.put_written]), unmarkedThen]
    exact .skipped unmarkedNow ((lasting.stays _ _ _ _ three).1 settled)
  cases found : (Writes.none.put (marker delivery.event.eventId) (some ())).over reading
      (orderKey delivery.event.payload.orderId) with
  | none =>
      simp only [onRows_pure, wp_pure]
      apply skipped (lasting.settled _ _ _)
      intro order present
      simp [Store.set_other, OutcomeEvent.orderId] at found present
      simp [found] at present
  | some order =>
      simp only [Writes.put_over, Writes.none_over] at found
      rw [Store.set_other _ _ (by simp)] at found
      simp only [onRows_ite, onRows_pure, onRows_bind, onRows_update]
      split
      · next notPending =>
          apply skipped (lasting.settled _ _ _)
          intro other present
          rw [OutcomeEvent.orderId, found] at present
          exact Option.some.inj present ▸ notPending
      · next isPending =>
          have pendingThen := lasting.pending _ _ order found (not_not.mp isPending)
          rw [wp_bind, wp_update]
          intro recording three current same
          -- The update sees the latest version, which need not be the one that was read.
          have unmarkedAt : recording (marker delivery.event.eventId) = none := by
            rw [three.frame _ (by simp [Writes.put_written]), unmarkedThen]
          have foundAt : recording (orderKey delivery.orderId) = some current := by
            simpa [Store.set_other] using same
          have pendingAt := (lasting.stays _ _ _ _ three).2 pendingThen
          split
          · next failed =>
              exact delivery.wp_settle lasting
                (by simp [Order.settlement, Delivery.record, failed]) rfl rfl
                unmarkedAt foundAt pendingAt
          · next noneFailed =>
              split
              · next succeeded =>
                  exact delivery.wp_settle lasting
                    (by simp [Order.settlement, Delivery.record, succeeded]) rfl rfl
                    unmarkedAt foundAt pendingAt
              · next undecided =>
                  intro last four
                  have unmarkedNow : last (marker delivery.event.eventId) = none := by
                    rw [four.frame _ (by simp [Writes.put_written]), unmarkedAt]
                  have foundNow : last (orderKey delivery.orderId) = some current := by
                    rw [four.frame _ (by simp [Writes.put_written, OutcomeEvent.orderId]), foundAt]
                  exact .recorded unmarkedNow current foundNow
                    ((lasting.stays _ _ _ _ four).2 pendingAt)
                    (by simp [Order.settlement, Delivery.record, noneFailed, undecided])

end Wp

end Ecommerce.OrderService
