import Ecommerce.PaymentService.OrderEventsConsumer
import Ecommerce.Shared.Statements

set_option autoImplicit false

/-!
# What a charge transaction does to the payment database
-/

namespace Ecommerce.PaymentService

open Transaction

structure Charging where
  event : EventEnvelope
  order : OrderCreatedPayload
  now : Timestamp
  created : event.payload = .orderCreated order

def Charging.body (config : Config) (job : Charging) :
    Prog (TableKey Key) (TableRow Row) TxError Unit :=
  onOrderCreated config job.now job.event

def Charging.payment (config : Config) (job : Charging) (paymentId : Uuid) : Payment :=
  if config.declined job.order.totalAmountCents then
    { id := paymentId
      customerId := job.order.customerId
      amountCents := job.order.totalAmountCents
      status := .failed
      failureCode := some .cardDeclined }
  else
    { id := paymentId
      customerId := job.order.customerId
      amountCents := job.order.totalAmountCents
      status := .completed
      failureCode := none }

def Charging.topic (config : Config) (job : Charging) : Topic :=
  if config.declined job.order.totalAmountCents then .paymentsFailed else .paymentsCompleted

def Charging.payload (config : Config) (job : Charging) (paymentId : Uuid) : Payload :=
  if config.declined job.order.totalAmountCents then
    .paymentFailed
      { orderId := job.order.orderId
        customerId := job.order.customerId
        reason := .cardDeclined }
  else
    .paymentCompleted
      { orderId := job.order.orderId
        customerId := job.order.customerId
        paymentId
        amountChargedCents := job.order.totalAmountCents }

def Charging.outcome (config : Config) (job : Charging) (paymentId eventId : Uuid) :
    EventEnvelope :=
  NewEvent.envelope
    { eventType := job.topic config
      correlationId := job.event.correlationId
      aggregateId := job.order.orderId
      producer
      payload := job.payload config paymentId } job.now eventId

@[simp] theorem Charging.payment_id (config : Config) (job : Charging) (paymentId : Uuid) :
    (job.payment config paymentId).id = paymentId := by
  unfold Charging.payment
  split <;> rfl

inductive ChargeEffect (config : Config) (drawn : Uuid → Prop) (job : Charging)
    (rows : PaymentDb) : Writes (TableKey Key) (TableRow Row) → Prop
  | charged (unmarked : rows (marker job.event.eventId) = none)
      (uncharged : rows (paymentKey job.order.orderId) = none)
      (paymentId eventId rowId : Uuid) (eventDrawn : drawn eventId) (rowDrawn : drawn rowId)
      (free : rows (outboxKey rowId) = none) :
      ChargeEffect config drawn job rows
        (((Writes.none.put (marker job.event.eventId) (some ())).put
          (paymentKey job.order.orderId) (some (job.payment config paymentId))).put
            (outboxKey rowId) (some (outboxRow "Payment" job.now (job.topic config)
              (job.outcome config paymentId eventId))))

section Wp

variable {inv : PaymentDb → Prop} {rely : PaymentDb → PaymentDb → Prop} {drawn : Uuid → Prop}

theorem wp_enqueue {now : Timestamp} {topic : Topic} {event : EventEnvelope}
    {post : Unit → Writes (TableKey Key) (TableRow Row) → PaymentDb → Prop}
    {writes : Writes (TableKey Key) (TableRow Row)} {rows : PaymentDb} :
    wp inv rely drawn (onRows (enqueue now topic event)) post writes rows ↔
      ∀ rowId, drawn rowId → ∀ later, Interferes inv rely writes rows later →
        writes.over later (outboxKey rowId) = none →
          post () (writes.put (outboxKey rowId) (some (outboxRow "Payment" now topic event)))
            later := by
  simp only [enqueue, enqueueAs, onRows_bind, onRows_randomUUID, onRows_create, wp_bind,
    wp_randomUUID, wp_create]
  rfl

theorem Charging.wp_record (config : Config) (job : Charging) {rows : PaymentDb}
    (unmarked : rows (marker job.event.eventId) = none) :
    wp inv rely drawn
      (onRows (do
        let id ← randomUUID
        let payment ← createPayment job.order.orderId (job.payment config id)
        let event ← createEvent job.now
          { eventType := job.topic config
            correlationId := job.event.correlationId
            aggregateId := job.order.orderId
            producer
            payload := job.payload config payment.id }
        enqueue job.now (job.topic config) event))
      (Commits inv rely (fun job _ => ChargeEffect config drawn job) job)
      (Writes.none.put (marker job.event.eventId) (some ())) rows := by
  simp only [createPayment, onRows_bind, onRows_randomUUID, onRows_ite, onRows_create,
    onRows_throw, onRows_createEvent, wp_bind, wp_randomUUID]
  intro paymentId _
  split
  · rw [wp_create]
    intro charging one uncharged
    simp only [wp_bind, wp_createEvent, wp_enqueue]
    intro eventId eventDrawn rowId rowDrawn inserting two free last three
    have unmarkedNow : last (marker job.event.eventId) = none := by
      rw [three.frame _ (by simp [Writes.put_written]), two.frame _ (by simp [Writes.put_written]),
        one.frame _ (by simp [Writes.put_written]), unmarked]
    have unchargedNow : last (paymentKey job.order.orderId) = none := by
      rw [three.frame _ (by simp [Writes.put_written]), two.frame _ (by simp [Writes.put_written])]
      simpa [Store.set_other] using uncharged
    have freeNow : last (outboxKey rowId) = none := by
      rw [three.frame _ (by simp [Writes.put_written])]
      simpa [Store.set_other] using free
    rw [job.payment_id]
    exact .charged unmarkedNow unchargedNow paymentId eventId rowId eventDrawn rowDrawn freeNow
  · trivial

theorem Charging.wp_body (config : Config) (job : Charging) (rows : PaymentDb) :
    wp inv rely drawn (job.body config)
      (Commits inv rely (fun job _ => ChargeEffect config drawn job) job) .none rows := by
  simp only [Charging.body, onOrderCreated, processOnceTx, job.created, wp_bind, wp_create]
  intro marking one unmarked
  have recorded : wp inv rely drawn _ _ _ marking := job.wp_record config unmarked
  rw [charge]
  cases declined : config.declined job.order.totalAmountCents with
  | true =>
      rw [if_pos rfl]
      simp only [Charging.payment, Charging.topic, Charging.payload, declined, if_true] at recorded
      exact recorded
  | false =>
      rw [if_neg Bool.false_ne_true]
      simp only [Charging.payment, Charging.topic, Charging.payload, declined, Bool.false_eq_true,
        if_false] at recorded
      exact recorded

end Wp

end Ecommerce.PaymentService
