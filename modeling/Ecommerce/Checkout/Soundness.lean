import Ecommerce.Checkout.Ledger

set_option autoImplicit false

/-!
# What always holds of a ledger
-/

namespace Ecommerce

open OrderService (Order OrderStatus Leg LegStatus Outcome Delivery)
open PaymentService (Payment Charging)
open InventoryService (Reservation Reserving)
open NotificationService (NotificationKind)

/-- An order keeps what its customer asked for, and a settled order does not change at all. -/
structure OrderService.Order.Evolves (before after : Order) : Prop where
  asked : after.createdPayload = before.createdPayload
  traced : after.correlationId = before.correlationId
  settled : before.status ≠ .pending → after = before

def InventoryService.Reservation.Keeps (before after : Reservation) : Prop :=
  after.items = before.items

/-- The answer of a service to a created order. -/
def Service.answer : Service → Option Stage
  | .payment => some .charged
  | .inventory => some .stocked
  | .order | .notification => none

namespace Ledger

def Emits (ledger : Ledger) (orderId : Uuid) (stated : Payload → Prop) : Prop :=
  ∃ event ∈ ledger.emitted, event.orderId = orderId ∧ stated event.payload

def Reported (ledger : Ledger) : Payload → Prop
  | .orderCreated payload => ∃ order, ledger.order payload.orderId = some order ∧
      order.createdPayload = payload
  | .paymentCompleted payload => ∃ payment, ledger.payment payload.orderId = some payment ∧
      payment.status = .completed
  | .paymentFailed payload => ∃ payment, ledger.payment payload.orderId = some payment ∧
      payment.status = .failed
  | .inventoryReserved payload => ∃ reservation,
      ledger.reservation payload.orderId = some reservation
  | .inventoryRejected _ => True
  | .orderConfirmed payload => ∃ order, ledger.order payload.orderId = some order ∧
      order.status = .confirmed ∧ payload.totalAmountCents = order.totalAmountCents
  | .orderCancelled payload => ∃ order, ledger.order payload.orderId = some order ∧
      order.status = .cancelled

structure Sound (config : Config) (ledger : Ledger) : Prop where
  drawn : ∀ event ∈ ledger.emitted, event.eventId < ledger.nextUuid
  identified : ∀ one ∈ ledger.emitted, ∀ two ∈ ledger.emitted, one.eventId = two.eventId → one = two
  typed : ∀ event ∈ ledger.emitted, event.eventType = event.payload.topic
  reported : ∀ event ∈ ledger.emitted, ledger.Reported event.payload
  known : ∀ event ∈ ledger.emitted, ledger.order event.orderId ≠ none
  once : ∀ one ∈ ledger.emitted, ∀ two ∈ ledger.emitted, one.orderId = two.orderId →
    one.stage = two.stage → one = two
  processed : ∀ service, ∀ eventId ∈ ledger.processed service, eventId < ledger.nextUuid
  answered : ∀ created ∈ ledger.emitted, created.stage = .placed → ∀ service stage,
    service.answer = some stage → (created.eventId ∈ ledger.processed service ↔
      ledger.Emits created.orderId fun payload => payload.stage = stage)
  total : ∀ orderId order, ledger.order orderId = some order →
    order.totalAmountCents = OrderService.itemsTotal order.items
  announced : ∀ orderId order, ledger.order orderId = some order →
    ledger.Emits orderId fun payload => payload.stage = .placed
  legs : ∀ orderId order, ledger.order orderId = some order → ∀ leg,
    order.leg leg = .pending ∨ ∃ outcome : Outcome, order.leg leg = outcome.legStatus ∧
      ledger.Emits orderId fun payload => payload.outcome = some (leg, outcome)
  decided : ∀ orderId order, ledger.order orderId = some order →
    order.settlement.getD .pending = order.status
  terminal : ∀ orderId order, ledger.order orderId = some order → order.status ≠ .pending →
    ledger.Emits orderId fun payload => payload.stage = .settled
  recorded : ∀ event ∈ ledger.emitted, ∀ leg outcome,
    event.payload.outcome = some (leg, outcome) → event.eventId ∈ ledger.processed .order →
      ∃ order, ledger.order event.orderId = some order ∧
        (order.status ≠ .pending ∨ order.leg leg = outcome.legStatus)
  paid : ∀ orderId payment, ledger.payment orderId = some payment →
    ∃ order, ledger.order orderId = some order ∧
      payment.amountCents = order.totalAmountCents ∧
      payment.status =
        if config.payments.declined order.totalAmountCents then .failed else .completed
  stocked : ∀ orderId reservation, ledger.reservation orderId = some reservation →
    (∃ order, ledger.order orderId = some order ∧
      reservation.items = order.items.map InventoryService.reservedItem) ∧
    ledger.Emits orderId (fun payload => payload.outcome = some (.inventory, .succeeded)) ∧
    (reservation.status = .released →
      ledger.Emits orderId fun payload => payload.topic = .ordersCancelled)
  told : ∀ orderId, ∀ kind ∈ ledger.notified orderId, ledger.Emits orderId fun payload =>
    NotificationService.notificationKind payload = some kind

section Grows

structure Grows (before after : Ledger) : Prop where
  order : ∀ orderId order, before.order orderId = some order →
    ∃ later, after.order orderId = some later ∧ order.Evolves later
  payment : ∀ orderId payment, before.payment orderId = some payment →
    after.payment orderId = some payment
  reservation : ∀ orderId reservation, before.reservation orderId = some reservation →
    ∃ later, after.reservation orderId = some later ∧ reservation.Keeps later
  emitted : before.emitted ⊆ after.emitted
  nextUuid : before.nextUuid ≤ after.nextUuid

variable {before after : Ledger}

theorem Emits.grows {orderId : Uuid} {stated : Payload → Prop} (emits : before.Emits orderId stated)
    (grows : before.Grows after) : after.Emits orderId stated :=
  let ⟨event, emitted, about⟩ := emits
  ⟨event, grows.emitted emitted, about⟩

theorem Reported.grows {payload : Payload} (reported : before.Reported payload)
    (grows : before.Grows after) : after.Reported payload := by
  cases payload with
  | orderCreated payload =>
      obtain ⟨order, found, same⟩ := reported
      obtain ⟨later, foundLater, evolves⟩ := grows.order _ _ found
      exact ⟨later, foundLater, evolves.asked.trans same⟩
  | paymentCompleted payload =>
      obtain ⟨payment, found, status⟩ := reported
      exact ⟨payment, grows.payment _ _ found, status⟩
  | paymentFailed payload =>
      obtain ⟨payment, found, status⟩ := reported
      exact ⟨payment, grows.payment _ _ found, status⟩
  | inventoryReserved payload =>
      obtain ⟨reservation, found⟩ := reported
      obtain ⟨later, foundLater, _⟩ := grows.reservation _ _ found
      exact ⟨later, foundLater⟩
  | inventoryRejected => trivial
  | orderConfirmed payload =>
      obtain ⟨order, found, status, total⟩ := reported
      obtain ⟨later, foundLater, evolves⟩ := grows.order _ _ found
      rw [evolves.settled (by simp [status])] at foundLater
      exact ⟨order, foundLater, status, total⟩
  | orderCancelled payload =>
      obtain ⟨order, found, status⟩ := reported
      obtain ⟨later, foundLater, evolves⟩ := grows.order _ _ found
      rw [evolves.settled (by simp [status])] at foundLater
      exact ⟨order, foundLater, status⟩

theorem Evolves.refl (order : Order) : order.Evolves order := ⟨rfl, rfl, fun _ => rfl⟩

end Grows

end Ledger

end Ecommerce
