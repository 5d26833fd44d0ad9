import Ecommerce.Checkout.Charges

set_option autoImplicit false

/-!
# Checkouts settle once the messages drain
-/

namespace Ecommerce

open OrderService (Order OrderStatus Leg Outcome)
open PaymentService (Payment PaymentStatus)
open NotificationService (Notification NotificationKind)

namespace Ledger

/-- What the notification service has processed it has told the customer. -/
def Informed (ledger : Ledger) : Prop :=
  ∀ event ∈ ledger.emitted, event.eventId ∈ ledger.processed .notification →
    ∀ kind, NotificationService.notificationKind event.payload = some kind →
      kind ∈ ledger.notified event.orderId

section Steps

variable {config : Config} {ledger after : Ledger} {decision : Decision}

theorem Step.notifies (step : ledger.Step config decision after) :
    after.processed .notification = ledger.processed .notification ∧
        after.notified = ledger.notified ∨
      ∃ event kind, ledger.Pending .notification event ∧
        NotificationService.notificationKind event.payload = some kind ∧
        after.processed .notification = insert event.eventId (ledger.processed .notification) ∧
        after.notified = Function.update ledger.notified event.orderId
          (insert kind (ledger.notified event.orderId)) := by
  cases step with
  | idle | placed => exact .inl ⟨rfl, rfl⟩
  | charged | rejected | reserved | released | skipped | recorded | settled =>
      exact .inl ⟨by simp [process], rfl⟩
  | notified _ _ event pending kind asked =>
      exact .inr ⟨event, kind, pending, asked, by simp [process], rfl⟩

theorem Step.emitted_of_processed (step : ledger.Step config decision after)
    (sound : ledger.Sound config) {service : Service} {event : EventEnvelope}
    (emitted : event ∈ after.emitted) (processed : event.eventId ∈ after.processed service) :
    event ∈ ledger.emitted := by
  rcases step.news sound with same | ⟨latest, news⟩
  · exact same ▸ emitted
  · rcases Set.mem_insert_iff.mp (news.emitted ▸ emitted) with rfl | earlier
    · -- An event that is new has an id that no service can have seen.
      have unseen : ¬ event.eventId < ledger.nextUuid := Nat.not_lt_of_le news.drawn.1
      rcases step.processed with same | ⟨other, handled, pending, inserted⟩
      · exact absurd (sound.processed service _ (same ▸ processed)) unseen
      · rw [inserted] at processed
        by_cases own : service = other
        · subst own
          rw [Function.update_self] at processed
          rcases processed with same | old
          · exact absurd (same ▸ sound.drawn handled pending.emitted) unseen
          · exact absurd (sound.processed service _ old) unseen
        · rw [Function.update_of_ne own] at processed
          exact absurd (sound.processed service _ processed) unseen
    · exact earlier

theorem Step.informed (step : ledger.Step config decision after) (sound : ledger.Sound config)
    (informed : ledger.Informed) : after.Informed := by
  intro event emitted processed kind asked
  have earlier := step.emitted_of_processed sound emitted processed
  rcases step.notifies with ⟨same, kept⟩ | ⟨other, told, pending, asks, handled, tells⟩
  · rw [kept]
    exact informed event earlier (same ▸ processed) kind asked
  · rw [handled] at processed
    rw [tells]
    by_cases own : event.orderId = other.orderId
    · rw [own, Function.update_self]
      rcases processed with same | old
      · have event_eq := sound.identified event earlier other pending.emitted same
        cases asks.symm.trans (event_eq ▸ asked)
        exact .inl rfl
      · exact .inr (own ▸ informed event earlier old kind asked)
    · rw [Function.update_of_ne own]
      rcases processed with same | old
      · exact absurd (congrArg EventEnvelope.orderId
          (sound.identified event earlier other pending.emitted same)) own
      · exact informed event earlier old kind asked

end Steps

end Ledger

namespace World

/-- A payment that went through and a reservation, in whatever state it is by now. -/
def PaidAndReserved (world : World) (orderId : Uuid) : Prop :=
  (∃ payment : Payment, world.payments (PaymentService.paymentKey orderId) = some payment ∧
    payment.status = .completed) ∧
  world.inventory (InventoryService.reservationKey orderId) ≠ none

def ToldOnce (world : World) (orderId : Uuid) (kind : NotificationKind) : Prop :=
  -- Notifications are unique by order and kind.
  ∃! notification : Notification,
    world.notifications (NotificationService.notificationKey orderId kind) = some notification

structure Settled (world : World) (orderId : Uuid) (order : Order) : Prop where
  decided : order.status ≠ .pending
  confirmed : order.status = .confirmed ↔ world.PaidAndReserved orderId
  cancelled : order.status = .cancelled ↔ ¬ world.PaidAndReserved orderId
  thanked : order.status = .confirmed → world.ToldOnce orderId .orderConfirmed
  warned : (∃ payment : Payment, world.payments (PaymentService.paymentKey orderId) = some payment ∧
    payment.status = .failed) → world.ToldOnce orderId .paymentFailed

section Quiescent

variable {config : Config} {world : World} {orderId : Uuid} {order : Order}

theorem run_informed {products : Uuid → Option InventoryService.Product} {actions : List Action}
    (ran : Machine.run (step config) (initial products) actions = some world) :
    world.ledger.Informed := by
  refine (Machine.run_invariant (fun world : World =>
    world.Sound config ∧ world.ledger.Informed) ?_ ⟨initial_sound config products, ?_⟩ ran).2
  · rintro before action next ⟨sound, informed⟩ stepped
    exact ⟨sound.step stepped,
      (step_refines sound.traced sound.ledger stepped).step.informed sound.ledger informed⟩
  · exact fun event emitted => absurd emitted (initial_silent products event)

/-- The services have processed everything about an order up to its decision. -/
def Heard (config : Config) (world : World) (orderId : Uuid) : Prop :=
  ∀ event ∈ world.ledger.emitted, event.orderId = orderId → event.stage ≠ .settled →
    ∀ service, subscribes config service event.payload.topic →
      event.eventId ∈ world.ledger.processed service

theorem Quiescent.heard (quiescent : world.Quiescent config) (sound : world.Sound config)
    (orderId : Uuid) : world.Heard config orderId :=
  fun _ emitted _ _ service subscribed =>
    quiescent.processed_of_emitted sound emitted service subscribed

theorem Heard.answer (heard : world.Heard config orderId) (sound : world.Sound config)
    (found : world.orders (OrderService.orderKey orderId) = some order) (service : Service)
    (stage : Stage) (answers : service.answer = some stage) :
    world.ledger.Emits orderId fun payload => payload.stage = stage := by
  obtain ⟨created, emitted, about, placed⟩ := sound.ledger.announced orderId order found
  have topic : created.payload.topic = .ordersCreated := by
    cases payload : created.payload <;> rw [payload] at placed <;> first | rfl | cases placed
  have subscribed : subscribes config service created.payload.topic = true := by
    rw [topic]
    cases service <;> first | rfl | cases answers
  have early : created.stage ≠ .settled := by simp [placed]
  have processed := heard created emitted about early service subscribed
  exact about ▸ (sound.ledger.answered created emitted placed service stage answers).mp processed

theorem Heard.leg_decided (heard : world.Heard config orderId) (sound : world.Sound config)
    (found : world.orders (OrderService.orderKey orderId) = some order)
    (pending : order.status = .pending) (leg : Leg) :
    ∃ outcome : Outcome, order.leg leg = outcome.legStatus := by
  -- The outcome of the leg was published, so the order service has processed it.
  have reported : ∃ event ∈ world.ledger.emitted, event.orderId = orderId ∧
      ∃ outcome, event.payload.outcome = some (leg, outcome) := by
    cases leg with
    | payment =>
        obtain ⟨event, emitted, about, stage⟩ := heard.answer sound found .payment .charged rfl
        refine ⟨event, emitted, about, ?_⟩
        cases payload : event.payload <;> rw [payload] at stage <;>
          first | exact ⟨_, rfl⟩ | cases stage
    | inventory =>
        obtain ⟨event, emitted, about, stage⟩ := heard.answer sound found .inventory .stocked rfl
        refine ⟨event, emitted, about, ?_⟩
        cases payload : event.payload <;> rw [payload] at stage <;>
          first | exact ⟨_, rfl⟩ | cases stage
  obtain ⟨event, emitted, about, outcome, stated⟩ := reported
  have subscribed : subscribes config .order event.payload.topic = true := by
    cases payload : event.payload <;> rw [payload] at stated <;> first | rfl | cases stated
  have early : event.stage ≠ .settled := by
    rw [EventEnvelope.stage]
    cases payload : event.payload <;> rw [payload] at stated <;> simp [Payload.stage] <;> cases stated
  have processed := heard event emitted about early .order subscribed
  obtain ⟨other, there, settled⟩ := sound.ledger.recorded event emitted leg outcome stated processed
  cases found.symm.trans (about ▸ there)
  exact ⟨outcome, settled.resolve_left (not_not.mpr pending)⟩

theorem Heard.decided (heard : world.Heard config orderId) (sound : world.Sound config)
    (found : world.orders (OrderService.orderKey orderId) = some order) :
    order.status ≠ .pending := by
  intro pending
  obtain ⟨paid, payment⟩ := heard.leg_decided sound found pending .payment
  obtain ⟨stocked, inventory⟩ := heard.leg_decided sound found pending .inventory
  have decided := sound.ledger.decided orderId order found
  have paymentStatus : order.paymentStatus = paid.legStatus := payment
  have inventoryStatus : order.inventoryStatus = stocked.legStatus := inventory
  rw [pending, OrderService.Order.settlement, paymentStatus, inventoryStatus] at decided
  cases paid <;> cases stocked <;> cases decided

theorem Sound.confirmed_of_paid (sound : world.Sound config)
    (found : world.orders (OrderService.orderKey orderId) = some order)
    (decided : order.status ≠ .pending) (paid : world.PaidAndReserved orderId) :
    order.status = .confirmed := by
  cases status : order.status with
  | pending => exact absurd status decided
  | confirmed => rfl
  | cancelled =>
      obtain ⟨⟨payment, charged, completed⟩, reserved⟩ := paid
      have agree := sound.legs_agree found
      rcases sound.leg_of_cancelled found status with failed | failed
      · obtain ⟨other, there, declined⟩ := agree.declined failed
        cases charged.symm.trans there
        cases completed.symm.trans declined
      · exact absurd (agree.rejected failed) reserved

theorem Quiescent.told (quiescent : world.Quiescent config) (sound : world.Sound config)
    (informed : world.ledger.Informed) {event : EventEnvelope} {kind : NotificationKind}
    (emitted : event ∈ world.ledger.emitted) (about : event.orderId = orderId)
    (asked : NotificationService.notificationKind event.payload = some kind) :
    world.ToldOnce orderId kind := by
  have subscribed : subscribes config .notification event.payload.topic = true := by
    cases payload : event.payload <;> rw [payload] at asked <;> first | rfl | cases asked
  have processed := quiescent.processed_of_emitted sound emitted .notification subscribed
  have told := informed event emitted processed kind asked
  obtain ⟨notification, sent⟩ := Option.ne_none_iff_exists'.mp (about ▸ told)
  exact ⟨notification, sent, fun other present => Option.some.inj (present.symm.trans sent)⟩

theorem Quiescent.thanked (quiescent : world.Quiescent config) (sound : world.Sound config)
    (informed : world.ledger.Informed)
    (found : world.orders (OrderService.orderKey orderId) = some order)
    (confirmed : order.status = .confirmed) : world.ToldOnce orderId .orderConfirmed := by
  obtain ⟨event, emitted, about, stage⟩ := sound.ledger.terminal orderId order found
    (by simp [confirmed])
  refine quiescent.told sound informed emitted about ?_
  cases payload : event.payload <;> rw [payload] at stage <;> try cases stage
  case orderConfirmed => rfl
  case orderCancelled =>
    obtain ⟨other, there, cancelled⟩ := sound.ledger.order_of_cancelled
      ⟨event, emitted, about, by rw [payload]; rfl⟩
    cases found.symm.trans there
    cases confirmed.symm.trans cancelled

theorem Quiescent.warned (quiescent : world.Quiescent config) (sound : world.Sound config)
    (informed : world.ledger.Informed)
    (found : world.orders (OrderService.orderKey orderId) = some order) {payment : Payment}
    (charged : world.payments (PaymentService.paymentKey orderId) = some payment)
    (failed : payment.status = .failed) : world.ToldOnce orderId .paymentFailed := by
  obtain ⟨event, emitted, about, stage⟩ :=
    (quiescent.heard sound orderId).answer sound found .payment .charged rfl
  refine quiescent.told sound informed emitted about ?_
  cases payload : event.payload <;> rw [payload] at stage <;> try cases stage
  case paymentFailed => rfl
  case paymentCompleted =>
    obtain ⟨other, there, completed⟩ := sound.ledger.payment_of_outcome .succeeded
      ⟨event, emitted, about, by rw [payload]; rfl⟩
    cases charged.symm.trans there
    cases failed.symm.trans completed

end Quiescent

theorem quiescent_settled (config : Config) (products : Uuid → Option InventoryService.Product)
    (actions : List Action) (world : World)
    (ran : Machine.run (step config) (initial products) actions = some world)
    (quiescent : world.Quiescent config) (orderId : Uuid) (order : Order)
    (found : world.orders (OrderService.orderKey orderId) = some order) :
    world.Settled orderId order := by
  have sound := run_sound ran
  have informed := run_informed ran
  have decided := (quiescent.heard sound orderId).decided sound found
  have confirmed : order.status = .confirmed ↔ world.PaidAndReserved orderId := by
    refine ⟨fun confirmed => ?_, sound.confirmed_of_paid found decided⟩
    obtain ⟨⟨payment, charged, completed, -⟩, ⟨reservation, present, -⟩, -⟩ :=
      sound.paid_and_in_stock found confirmed
    exact ⟨⟨payment, charged, completed⟩, by simp [present]⟩
  refine ⟨decided, confirmed, ?_, quiescent.thanked sound informed found, ?_⟩
  · rw [← confirmed]
    cases status : order.status with
    | pending => exact absurd status decided
    | confirmed | cancelled => decide
  · rintro ⟨payment, charged, failed⟩
    exact quiescent.warned sound informed found charged failed

section Sample

def settledCheckout : List Action :=
  sampleCheckout ++
    [.mark .order 3 0, .mark .payment 6 0, .mark .inventory 9 0, .mark .order 11 0]

theorem quiescent_settled_checkout : ∃ world order,
    Machine.run (step sampleConfig) (initial fun _ => none) settledCheckout = some world ∧
      world.orders (OrderService.orderKey 0) = some order ∧ order.status = .confirmed ∧
        world.Settled 0 order := by
  have ran : ∃ world,
      Machine.run (step sampleConfig) (initial fun _ => none) settledCheckout = some world ∧
        world.isQuiescent sampleConfig = true ∧
        (world.orders (OrderService.orderKey 0)).map OrderService.Order.status = some .confirmed :=
    ⟨_, rfl, rfl, rfl⟩
  obtain ⟨world, ran, quiet, status⟩ := ran
  obtain ⟨order, found, confirmed⟩ := Option.map_eq_some_iff.mp status
  have quiescent := (run_sound ran).quiescent_iff.mpr quiet
  exact ⟨world, order, ran, found, confirmed,
    quiescent_settled sampleConfig _ _ world ran quiescent 0 order found⟩

end Sample

end World

end Ecommerce
