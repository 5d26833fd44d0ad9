import Ecommerce.Checkout.Refinement

set_option autoImplicit false

/-!
# A confirmed order is paid and in stock
-/

namespace Ecommerce

open OrderService (Order OrderStatus Leg LegStatus Outcome)
open PaymentService (Payment PaymentStatus)
open InventoryService (Reservation)

namespace Ledger

section Legs

variable {config : Config} {ledger : Ledger} {orderId : Uuid} {order : Order}

theorem Sound.reported_about (sound : ledger.Sound config) {stated : Payload → Prop}
    (emits : ledger.Emits orderId stated) :
    ∃ payload : Payload, payload.orderId = orderId ∧ stated payload ∧ ledger.Reported payload :=
  let ⟨event, emitted, about, said⟩ := emits
  ⟨event.payload, about, said, sound.reported event emitted⟩

theorem Sound.leg_reported (sound : ledger.Sound config) (found : ledger.order orderId = some order)
    (leg : Leg) (outcome : Outcome) (decided : order.leg leg = outcome.legStatus) :
    ledger.Emits orderId fun payload => payload.outcome = some (leg, outcome) := by
  rcases sound.legs orderId order found leg with waiting | ⟨other, same, emits⟩
  · rw [waiting] at decided
    cases outcome <;> cases decided
  · have sameOutcome : other = outcome := by
      rw [same] at decided
      cases other <;> cases outcome <;> first | rfl | cases decided
    exact sameOutcome ▸ emits

theorem Sound.payment_of_outcome (sound : ledger.Sound config) (outcome : Outcome)
    (emits : ledger.Emits orderId fun payload => payload.outcome = some (.payment, outcome)) :
    ∃ payment, ledger.payment orderId = some payment ∧
      payment.status = match outcome with
        | .succeeded => .completed
        | .failed => .failed := by
  obtain ⟨payload, about, stated, reported⟩ := sound.reported_about emits
  cases payload <;> cases stated <;> exact about ▸ reported

theorem Sound.reservation_of_outcome (sound : ledger.Sound config)
    (emits : ledger.Emits orderId fun payload => payload.outcome = some (.inventory, .succeeded)) :
    ∃ reservation, ledger.reservation orderId = some reservation := by
  obtain ⟨payload, about, stated, reported⟩ := sound.reported_about emits
  cases payload <;> cases stated
  exact about ▸ reported

theorem Sound.unreserved_of_outcome (sound : ledger.Sound config)
    (emits : ledger.Emits orderId fun payload => payload.outcome = some (.inventory, .failed)) :
    ledger.reservation orderId = none := by
  by_contra reserved
  obtain ⟨reservation, found⟩ := Option.ne_none_iff_exists'.mp reserved
  obtain ⟨rejected, rejectedEmitted, rejectedAbout, failed⟩ := emits
  obtain ⟨-, ⟨accepted, acceptedEmitted, acceptedAbout, succeeded⟩, -⟩ :=
    sound.stocked orderId reservation found
  have same := sound.once rejected rejectedEmitted accepted acceptedEmitted
    (rejectedAbout.trans acceptedAbout.symm) (stage_of_outcome failed succeeded)
  cases (same ▸ failed).symm.trans succeeded

theorem Sound.legs_of_confirmed (sound : ledger.Sound config)
    (found : ledger.order orderId = some order) (confirmed : order.status = .confirmed) :
    order.paymentStatus = .succeeded ∧ order.inventoryStatus = .succeeded := by
  have decided := sound.decided orderId order found
  rw [confirmed, OrderService.Order.settlement] at decided
  split at decided
  · cases decided
  · split at decided
    · assumption
    · cases decided

theorem Sound.order_of_confirmed (sound : ledger.Sound config)
    (emits : ledger.Emits orderId fun payload => payload.topic = .ordersConfirmed) :
    ∃ order, ledger.order orderId = some order ∧ order.status = .confirmed := by
  obtain ⟨payload, about, stated, reported⟩ := sound.reported_about emits
  cases payload <;> cases stated
  obtain ⟨order, found, confirmed, -⟩ := reported
  exact ⟨order, about ▸ found, confirmed⟩

theorem Sound.order_of_cancelled (sound : ledger.Sound config)
    (emits : ledger.Emits orderId fun payload => payload.topic = .ordersCancelled) :
    ∃ order, ledger.order orderId = some order ∧ order.status = .cancelled := by
  obtain ⟨payload, about, stated, reported⟩ := sound.reported_about emits
  cases payload <;> cases stated
  obtain ⟨order, found, cancelled⟩ := reported
  exact ⟨order, about ▸ found, cancelled⟩

end Legs

end Ledger

namespace World

inductive SaidConfirmed (world : World) (orderId : Uuid) : Prop
  | order (order : Order) (found : world.orders (OrderService.orderKey orderId) = some order)
      (confirmed : order.status = .confirmed)
  | outbox (producer : Producer) (rowId : Uuid) (row : OutboxEvent)
      (present : world.outbox producer rowId = some row) (topic : row.topic = .ordersConfirmed)
      (about : row.payload.orderId = orderId)
  | notification (sent : world.notifications
      (NotificationService.notificationKey orderId .orderConfirmed) ≠ none)

/-- One payment and one reservation stand for the order; both tables are keyed by the order. -/
structure PaidAndInStock (world : World) (orderId : Uuid) (order : Order) : Prop where
  paid : ∃ payment : Payment, world.payments (PaymentService.paymentKey orderId) = some payment ∧
    payment.status = .completed ∧ payment.amountCents = OrderService.itemsTotal order.items ∧
    ∀ producer rowId row payload, world.outbox producer rowId = some row →
      row.payload.payload = .orderConfirmed payload → payload.orderId = orderId →
        payload.totalAmountCents = payment.amountCents
  inStock : ∃ reservation : Reservation,
    world.inventory (InventoryService.reservationKey orderId) = some reservation ∧
      reservation.status = .reserved ∧
      reservation.items = order.items.map InventoryService.reservedItem
  untold : world.notifications (NotificationService.notificationKey orderId .paymentFailed) = none

structure LegsAgree (world : World) (orderId : Uuid) (order : Order) : Prop where
  charged : order.paymentStatus = .succeeded → ∃ payment : Payment,
    world.payments (PaymentService.paymentKey orderId) = some payment ∧ payment.status = .completed
  declined : order.paymentStatus = .failed → ∃ payment : Payment,
    world.payments (PaymentService.paymentKey orderId) = some payment ∧ payment.status = .failed
  reserved : order.inventoryStatus = .succeeded →
    world.inventory (InventoryService.reservationKey orderId) ≠ none
  rejected : order.inventoryStatus = .failed →
    world.inventory (InventoryService.reservationKey orderId) = none

section Confirmed

variable {config : Config} {world : World} {orderId : Uuid} {order : Order}

theorem Sound.order_of_said (sound : world.Sound config) (said : world.SaidConfirmed orderId) :
    ∃ order, world.orders (OrderService.orderKey orderId) = some order ∧
      order.status = .confirmed := by
  cases said with
  | order order found confirmed => exact ⟨order, found, confirmed⟩
  | outbox producer rowId row present topic about =>
      have emitted : row.payload ∈ world.ledger.emitted := ⟨producer, rowId, row, present, rfl⟩
      have typed := sound.ledger.typed row.payload emitted
      rw [← (sound.traced.rows producer rowId row present).2.1, topic] at typed
      exact sound.ledger.order_of_confirmed ⟨row.payload, emitted, about, typed.symm⟩
  | notification sent =>
      obtain ⟨event, emitted, about, asked⟩ := sound.ledger.told orderId .orderConfirmed sent
      refine sound.ledger.order_of_confirmed ⟨event, emitted, about, ?_⟩
      cases payload : event.payload <;> rw [payload] at asked <;> first | rfl | cases asked

theorem Sound.legs_agree (sound : world.Sound config)
    (found : world.orders (OrderService.orderKey orderId) = some order) :
    world.LegsAgree orderId order where
  charged leg := sound.ledger.payment_of_outcome .succeeded
    (sound.ledger.leg_reported found .payment .succeeded leg)
  declined leg := sound.ledger.payment_of_outcome .failed
    (sound.ledger.leg_reported found .payment .failed leg)
  reserved leg := by
    obtain ⟨reservation, present⟩ := sound.ledger.reservation_of_outcome
      (sound.ledger.leg_reported found .inventory .succeeded leg)
    exact fun absent => nomatch present.symm.trans absent
  rejected leg := sound.ledger.unreserved_of_outcome
    (sound.ledger.leg_reported found .inventory .failed leg)

theorem Sound.reserved_of_confirmed (sound : world.Sound config)
    (found : world.orders (OrderService.orderKey orderId) = some order)
    (confirmed : order.status = .confirmed) {reservation : Reservation}
    (present : world.inventory (InventoryService.reservationKey orderId) = some reservation) :
    reservation.status = .reserved := by
  obtain ⟨-, -, released⟩ := sound.ledger.stocked orderId reservation present
  cases status : reservation.status with
  | reserved => rfl
  | released =>
      obtain ⟨other, there, cancelled⟩ := sound.ledger.order_of_cancelled (released status)
      cases found.symm.trans there
      cases confirmed.symm.trans cancelled

theorem Sound.paid_and_in_stock (sound : world.Sound config)
    (found : world.orders (OrderService.orderKey orderId) = some order)
    (confirmed : order.status = .confirmed) : world.PaidAndInStock orderId order := by
  obtain ⟨paymentLeg, inventoryLeg⟩ := sound.ledger.legs_of_confirmed found confirmed
  have agree := sound.legs_agree found
  obtain ⟨payment, charged, completed⟩ := agree.charged paymentLeg
  have total := sound.ledger.total orderId order found
  have amount : payment.amountCents = order.totalAmountCents := by
    obtain ⟨other, there, amount, -⟩ := sound.ledger.paid orderId payment charged
    cases found.symm.trans there
    exact amount
  refine ⟨⟨payment, charged, completed, amount.trans total, ?_⟩, ?_, ?_⟩
  · intro producer rowId row payload present stated about
    have reported := sound.ledger.reported row.payload ⟨producer, rowId, row, present, rfl⟩
    rw [stated] at reported
    obtain ⟨other, there, -, sameTotal⟩ := reported
    cases found.symm.trans (about ▸ there)
    exact sameTotal.trans amount.symm
  · obtain ⟨reservation, present⟩ := Option.ne_none_iff_exists'.mp (agree.reserved inventoryLeg)
    obtain ⟨⟨other, there, items⟩, -⟩ := sound.ledger.stocked orderId reservation present
    cases found.symm.trans there
    exact ⟨reservation, present, sound.reserved_of_confirmed found confirmed present, items⟩
  · by_contra told
    -- The notification goes back to a payments.failed event.
    obtain ⟨event, emitted, about, asked⟩ := sound.ledger.told orderId .paymentFailed told
    have failed : event.payload.outcome = some (.payment, .failed) := by
      cases payload : event.payload <;> rw [payload] at asked <;> first | rfl | cases asked
    obtain ⟨other, there, status⟩ := sound.ledger.payment_of_outcome .failed
      ⟨event, emitted, about, failed⟩
    cases charged.symm.trans there
    cases completed.symm.trans status

end Confirmed

theorem confirmed_paid_and_in_stock (config : Config)
    (products : Uuid → Option InventoryService.Product) (actions : List Action) (world : World)
    (ran : Machine.run (step config) (initial products) actions = some world) :
    (∀ orderId, world.SaidConfirmed orderId → ∃ order,
      world.orders (OrderService.orderKey orderId) = some order ∧
        world.PaidAndInStock orderId order) ∧
    ∀ orderId order, world.orders (OrderService.orderKey orderId) = some order →
      world.LegsAgree orderId order := by
  have sound := run_sound ran
  refine ⟨fun orderId said => ?_, fun orderId order found => sound.legs_agree found⟩
  obtain ⟨order, found, confirmed⟩ := sound.order_of_said said
  exact ⟨order, found, sound.paid_and_in_stock found confirmed⟩

section Sample

def sampleConfig : Config :=
  { orders := { hashBody := fun _ => "", idempotencyTtlSeconds := 86400 }
    payments := { declineEndsIn := .integer 13 }
    inventory := { defaultStock := 100 }
    notifications := { uuidText := toString } }

def lineRequest (quantity unitPriceCents : Nat) (quantityPositive : 0 < quantity)
    (unitPriceCentsPositive : 0 < unitPriceCents) : OrderService.Request :=
  { key := 1
    dto :=
      { customerId := 5
        items :=
          [{ productId := 3
             quantity
             unitPriceCents
             quantityPositive
             unitPriceCentsPositive }]
        currency := some "USD"
        itemsNotEmpty := List.cons_ne_nil _ _ }
    now := 0 }

def sampleRequest : OrderService.Request := lineRequest 2 450 Nat.two_pos (by decide)

def sampleCreated : Message := (sampleRequest.createdRow 0 1 2).message

def sampleCharging : PaymentService.Charging :=
  { event := sampleCreated.event
    order := ((sampleRequest.order 0 1).createdPayload)
    now := 0
    created := rfl }

def sampleReserving : InventoryService.Reserving :=
  { event := sampleCreated.event
    order := ((sampleRequest.order 0 1).createdPayload)
    now := 0
    created := rfl }

def sampleCharged : Message :=
  { topic := .paymentsCompleted
    key := 0
    event := sampleCharging.outcome sampleConfig.payments 4 5 }

def sampleReserved : Message := (sampleReserving.reservedRow 7 8).message

def sampleConfirmed : Message :=
  (OrderService.terminalRow 0 0 (sampleRequest.order 0 1) .confirmed 10).message

def sampleCheckout : List Action :=
  [.createOrder sampleRequest none, .publish .order 3,
    .deliver .payment sampleCreated 0 none, .deliver .inventory sampleCreated 0 none,
    .publish .payment 6, .publish .inventory 9,
    .deliver .order sampleCharged 0 none, .deliver .order sampleReserved 0 none,
    .publish .order 11, .deliver .notification sampleConfirmed 0 none]

theorem confirmed_paid_and_in_stock_sample : ∃ world,
    Machine.run (step sampleConfig) (initial fun _ => none) sampleCheckout = some world ∧
      ∃ order, world.orders (OrderService.orderKey 0) = some order ∧ world.PaidAndInStock 0 order := by
  have ran : ∃ world,
      Machine.run (step sampleConfig) (initial fun _ => none) sampleCheckout = some world ∧
        (world.orders (OrderService.orderKey 0)).map OrderService.Order.status = some .confirmed :=
    ⟨_, rfl, rfl⟩
  obtain ⟨world, ran, status⟩ := ran
  obtain ⟨order, found, confirmed⟩ := Option.map_eq_some_iff.mp status
  exact ⟨world, ran, (confirmed_paid_and_in_stock sampleConfig _ _ world ran).1 0
    (.order order found confirmed)⟩

end Sample

end World

end Ecommerce
