import Ecommerce.Checkout.World
import Ecommerce.InventoryService.ReleaseEffect
import Ecommerce.NotificationService.SendEffect
import Ecommerce.PaymentService.ChargeEffect
import Mathlib.Data.Set.Insert

set_option autoImplicit false

/-!
# The ledger of a checkout

The system as its customers see it: orders, payments, reservations and notifications by order,
the events that were emitted and the ones each service has processed. Where an event is staged,
published or marked does not matter.
-/

namespace Ecommerce

open OrderService (Order OrderStatus Leg Outcome Delivery)
open PaymentService (Payment Charging)
open InventoryService (Reservation Reserving)
open NotificationService (NotificationKind)

@[ext] structure Ledger where
  order : Uuid → Option Order
  payment : Uuid → Option Payment
  reservation : Uuid → Option Reservation
  notified : Uuid → Set NotificationKind
  emitted : Set EventEnvelope
  processed : Service → Set Uuid
  nextUuid : Uuid

def World.ledger (world : World) : Ledger :=
  { order := fun orderId => world.orders (OrderService.orderKey orderId)
    payment := fun orderId => world.payments (PaymentService.paymentKey orderId)
    reservation := fun orderId => world.inventory (InventoryService.reservationKey orderId)
    notified := fun orderId =>
      { kind | world.notifications (NotificationService.notificationKey orderId kind) ≠ none }
    emitted := { event | ∃ producer rowId row, world.outbox producer rowId = some row ∧
      row.payload = event }
    processed := fun service => { eventId | world.processed service eventId = true }
    nextUuid := world.nextUuid }

/-- Two ledgers are one, field by field; a field that did not change need not be named. -/
structure Ledger.Same (left right : Ledger) : Prop where
  order : left.order = right.order := by rfl
  payment : left.payment = right.payment := by rfl
  reservation : left.reservation = right.reservation := by rfl
  notified : left.notified = right.notified := by rfl
  emitted : left.emitted = right.emitted := by rfl
  processed : left.processed = right.processed := by rfl
  nextUuid : left.nextUuid = right.nextUuid := by rfl

theorem Ledger.Same.eq {left right : Ledger} (same : left.Same right) : left = right :=
  Ledger.ext same.order same.payment same.reservation same.notified same.emitted same.processed
    same.nextUuid

/-- The four things that can be said about an order, each by one event at most. -/
inductive Stage where
  | placed
  | charged
  | stocked
  | settled
  deriving DecidableEq

def Payload.stage : Payload → Stage
  | .orderCreated _ => .placed
  | .paymentCompleted _ | .paymentFailed _ => .charged
  | .inventoryReserved _ | .inventoryRejected _ => .stocked
  | .orderConfirmed _ | .orderCancelled _ => .settled

abbrev EventEnvelope.orderId (event : EventEnvelope) : Uuid := event.payload.orderId

abbrev EventEnvelope.stage (event : EventEnvelope) : Stage := event.payload.stage

/-- The leg and the outcome that an event reports to the order service. -/
def Payload.outcome : Payload → Option (Leg × Outcome)
  | .paymentCompleted _ => some (.payment, .succeeded)
  | .paymentFailed _ => some (.payment, .failed)
  | .inventoryReserved _ => some (.inventory, .succeeded)
  | .inventoryRejected _ => some (.inventory, .failed)
  | _ => none

def OrderService.Order.createdPayload (order : Order) : OrderCreatedPayload :=
  { orderId := order.id
    customerId := order.customerId
    items := order.items
    totalAmountCents := order.totalAmountCents
    currency := order.currency }

namespace Ledger

/-- A value drawn between two moments. -/
def Drawn (ledger : Ledger) (next value : Uuid) : Prop := ledger.nextUuid ≤ value ∧ value < next

variable (ledger : Ledger)

def process (service : Service) (event : EventEnvelope) (next : Uuid) : Ledger :=
  { ledger with
    processed := Function.update ledger.processed service
      (insert event.eventId (ledger.processed service))
    nextUuid := next }

def emit (event : EventEnvelope) : Ledger :=
  { ledger with emitted := insert event ledger.emitted }

section Fields

variable {ledger} {service : Service} {event : EventEnvelope} {next : Uuid}

@[simp] theorem process_order : (ledger.process service event next).order = ledger.order := rfl

@[simp] theorem process_payment :
    (ledger.process service event next).payment = ledger.payment := rfl

@[simp] theorem process_reservation :
    (ledger.process service event next).reservation = ledger.reservation := rfl

@[simp] theorem process_notified :
    (ledger.process service event next).notified = ledger.notified := rfl

@[simp] theorem emit_order : (ledger.emit event).order = ledger.order := rfl

@[simp] theorem emit_payment : (ledger.emit event).payment = ledger.payment := rfl

@[simp] theorem emit_reservation : (ledger.emit event).reservation = ledger.reservation := rfl

@[simp] theorem emit_processed : (ledger.emit event).processed = ledger.processed := rfl

end Fields

structure Pending (service : Service) (event : EventEnvelope) : Prop where
  emitted : event ∈ ledger.emitted
  unprocessed : event.eventId ∉ ledger.processed service

/-- What reserve has decided for an order, if the step did that. -/
inductive Decision where
  | none
  | rejected (order : OrderCreatedPayload)
  | reserved (order : OrderCreatedPayload)

inductive Step (config : Config) : Decision → Ledger → Prop
  | idle (next : Uuid) (later : ledger.nextUuid ≤ next) :
      Step config .none { ledger with nextUuid := next }
  | placed (next : Uuid) (order : Order) (event : EventEnvelope)
      (unknown : ledger.order order.id = none)
      (begins : order.status = .pending ∧ order.paymentStatus = .pending ∧
        order.inventoryStatus = .pending)
      (total : order.totalAmountCents = OrderService.itemsTotal order.items)
      (payload : event.payload = .orderCreated order.createdPayload)
      (topic : event.eventType = .ordersCreated) (drawn : ledger.Drawn next event.eventId) :
      Step config .none
        ({ ledger with
          order := Function.update ledger.order order.id (some order)
          nextUuid := next }.emit event)
  | charged (next : Uuid) (job : Charging) (pending : ledger.Pending .payment job.event)
      (uncharged : ledger.payment job.order.orderId = none) (paymentId eventId : Uuid)
      (drawn : ledger.Drawn next eventId) :
      Step config .none
        (({ ledger with
          payment := Function.update ledger.payment job.order.orderId
            (some (job.payment config.payments paymentId)) }.emit
              (job.outcome config.payments paymentId eventId)).process .payment job.event next)
  | rejected (next : Uuid) (job : Reserving) (pending : ledger.Pending .inventory job.event)
      (shortfalls : List Shortfall) (eventId : Uuid) (drawn : ledger.Drawn next eventId) :
      Step config (.rejected job.order)
        ((ledger.emit (job.rejectedRow shortfalls eventId).payload).process .inventory job.event
          next)
  | reserved (next : Uuid) (job : Reserving) (pending : ledger.Pending .inventory job.event)
      (unreserved : ledger.reservation job.order.orderId = none) (reservationId eventId : Uuid)
      (drawn : ledger.Drawn next eventId) :
      Step config (.reserved job.order)
        (({ ledger with
          reservation := Function.update ledger.reservation job.order.orderId
            (some (job.reservation reservationId)) }.emit
              (job.reservedRow reservationId eventId).payload).process .inventory job.event next)
  | released (next : Uuid) (later : ledger.nextUuid ≤ next) (event : EventEnvelope)
      (pending : ledger.Pending .inventory event) (topic : event.eventType = .ordersCancelled) :
      Step config .none
        ({ ledger with
          reservation := Function.update ledger.reservation event.orderId
            ((ledger.reservation event.orderId).map Reservation.release) }.process .inventory event
              next)
  | skipped (next : Uuid) (later : ledger.nextUuid ≤ next) (event : EventEnvelope)
      (pending : ledger.Pending .order event)
      (settled : ∀ order, ledger.order event.orderId = some order → order.status ≠ .pending) :
      Step config .none (ledger.process .order event next)
  | recorded (next : Uuid) (later : ledger.nextUuid ≤ next) (delivery : Delivery)
      (pending : ledger.Pending .order delivery.event)
      (outcome : delivery.event.payload.outcome = some (delivery.leg, delivery.outcome))
      (order : Order) (found : ledger.order delivery.orderId = some order)
      (unsettled : order.status = .pending) (undecided : (delivery.record order).settlement = none) :
      Step config .none
        ({ ledger with
          order := Function.update ledger.order delivery.orderId
            (some (delivery.record order)) }.process .order delivery.event next)
  | settled (next : Uuid) (delivery : Delivery) (pending : ledger.Pending .order delivery.event)
      (outcome : delivery.event.payload.outcome = some (delivery.leg, delivery.outcome))
      (order : Order) (found : ledger.order delivery.orderId = some order)
      (unsettled : order.status = .pending) (status : OrderStatus)
      (decided : (delivery.record order).settlement = some status) (eventId : Uuid)
      (drawn : ledger.Drawn next eventId) :
      Step config .none
        (({ ledger with
          order := Function.update ledger.order delivery.orderId
            (some { delivery.record order with status }) }.emit
              (OrderService.terminalEvent delivery.now delivery.orderId (delivery.record order) status
                eventId)).process .order delivery.event next)
  | notified (next : Uuid) (later : ledger.nextUuid ≤ next) (event : EventEnvelope)
      (pending : ledger.Pending .notification event) (kind : NotificationKind)
      (asked : NotificationService.notificationKind event.payload = some kind) :
      Step config .none
        ({ ledger with
          notified := Function.update ledger.notified event.orderId
            (insert kind (ledger.notified event.orderId)) }.process .notification event next)

variable {ledger}

theorem Step.to {config : Config} {decision : Decision} {after other : Ledger}
    (step : ledger.Step config decision after) (same : other.Same after) :
    ledger.Step config decision other :=
  same.eq ▸ step

theorem Drawn.le {next value : Uuid} (drawn : ledger.Drawn next value) : ledger.nextUuid ≤ next :=
  Nat.le_of_lt (Nat.lt_of_le_of_lt drawn.1 drawn.2)

end Ledger

end Ecommerce
