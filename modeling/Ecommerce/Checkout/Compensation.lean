import Ecommerce.Checkout.Confirmed

set_option autoImplicit false

/-!
# Stock of cancelled orders

Inventory releases the stock of a cancelled order when it processes orders.cancelled, and does not
come back to it when it reserves stock for the order only afterwards.
-/

namespace Ecommerce

open OrderService (Order OrderStatus Leg Outcome)
open PaymentService (Payment)
open InventoryService (Reservation ReservationStatus)

namespace Ledger

/-- Inventory has processed an orders.cancelled event of the order. -/
def CancelSeen (ledger : Ledger) (orderId : Uuid) : Prop :=
  ∃ event ∈ ledger.emitted, event.payload.topic = .ordersCancelled ∧ event.orderId = orderId ∧
    event.eventId ∈ ledger.processed .inventory

def Late (ledger : Ledger) (decision : Decision) : Prop :=
  ∃ order, decision = .reserved order ∧ ledger.CancelSeen order.orderId

def Released (ledger : Ledger) : Prop :=
  ∀ orderId, ledger.CancelSeen orderId → ∀ reservation,
    ledger.reservation orderId = some reservation → reservation.status ≠ .reserved

section Steps

variable {config : Config} {ledger after : Ledger} {decision : Decision}

theorem Step.processed_subset (step : ledger.Step config decision after) (service : Service) :
    ledger.processed service ⊆ after.processed service := by
  rcases step.processed with same | ⟨other, event, -, inserted⟩
  · rw [same]
  · rw [inserted]
    by_cases own : service = other
    · subst own
      rw [Function.update_self]
      exact Set.subset_insert ..
    · rw [Function.update_of_ne own]

theorem Step.cancelSeen (step : ledger.Step config decision after) (sound : ledger.Sound config)
    (orderId : Uuid) : after.CancelSeen orderId ↔ ledger.CancelSeen orderId ∨
      ∃ event, ledger.Pending .inventory event ∧ event.payload.topic = .ordersCancelled ∧
        event.orderId = orderId ∧ event.eventId ∈ after.processed .inventory := by
  constructor
  · rintro ⟨event, emitted, topic, about, processed⟩
    have old : event.eventId < ledger.nextUuid := by
      rcases step.processed with same | ⟨service, other, pending, inserted⟩
      · exact sound.processed .inventory _ (same ▸ processed)
      · rw [inserted] at processed
        by_cases own : service = .inventory
        · subst own
          rw [Function.update_self] at processed
          rcases processed with same | earlier
          · exact same ▸ sound.drawn other pending.emitted
          · exact sound.processed .inventory _ earlier
        · rw [Function.update_of_ne (Ne.symm own)] at processed
          exact sound.processed .inventory _ processed
    have emittedBefore : event ∈ ledger.emitted := by
      rcases step.news sound with same | ⟨latest, news⟩
      · exact same ▸ emitted
      · rcases Set.mem_insert_iff.mp (news.emitted ▸ emitted) with rfl | earlier
        · exact absurd old (Nat.not_lt_of_le news.drawn.1)
        · exact earlier
    by_cases before : event.eventId ∈ ledger.processed .inventory
    · exact .inl ⟨event, emittedBefore, topic, about, before⟩
    · exact .inr ⟨event, ⟨emittedBefore, before⟩, topic, about, processed⟩
  · rintro (⟨event, emitted, topic, about, processed⟩ | ⟨event, pending, topic, about, processed⟩)
    · exact ⟨event, step.grows.emitted emitted, topic, about, step.processed_subset _ processed⟩
    · exact ⟨event, step.grows.emitted pending.emitted, topic, about, processed⟩

theorem Sound.cancelled_once (sound : ledger.Sound config) {one two : EventEnvelope}
    (oneEmitted : one ∈ ledger.emitted) (twoEmitted : two ∈ ledger.emitted)
    (oneTopic : one.payload.topic = .ordersCancelled) (twoTopic : two.payload.topic = .ordersCancelled)
    (same : one.orderId = two.orderId) : one = two :=
  sound.once one oneEmitted two twoEmitted same
    ((stage_of_cancelled oneTopic).trans (stage_of_cancelled twoTopic).symm)

theorem Pending.not_created (sound : ledger.Sound config) {job : InventoryService.Reserving}
    (handling : ledger.Pending .inventory job.event) {event : EventEnvelope}
    (pending : ledger.Pending .inventory event) (topic : event.payload.topic = .ordersCancelled) :
    event.eventId ∉ insert job.event.eventId (ledger.processed .inventory) := by
  rintro (same | processed)
  · rw [sound.identified event pending.emitted job.event handling.emitted same, job.created] at topic
    cases topic
  · exact pending.unprocessed processed

theorem released_congr (reservation : after.reservation = ledger.reservation)
    (seen : ∀ orderId, after.CancelSeen orderId ↔ ledger.CancelSeen orderId) :
    after.Released ↔ ledger.Released := by
  simp only [Released, reservation, seen]

theorem released_of_new_reservation {orderId : Uuid} {reservation : Reservation}
    (unreserved : ledger.reservation orderId = none)
    (rows : after.reservation = Function.update ledger.reservation orderId (some reservation))
    (active : reservation.status = .reserved)
    (seen : ∀ other, after.CancelSeen other ↔ ledger.CancelSeen other) :
    after.Released ↔ ledger.Released ∧ ¬ ledger.CancelSeen orderId := by
  simp only [Released, rows, seen]
  constructor
  · intro released
    refine ⟨fun other seen old found => ?_, fun late => ?_⟩
    · have different : other ≠ orderId := by
        rintro rfl
        cases unreserved.symm.trans found
      exact released other seen old ((Function.update_of_ne different ..).trans found)
    · exact released orderId late reservation (Function.update_self ..) active
  · rintro ⟨released, prompt⟩ other seen new found
    rcases update_found found with ⟨rfl, rfl⟩ | old
    · exact absurd seen prompt
    · exact released other seen new old

theorem released_of_cancellation {orderId : Uuid}
    (rows : after.reservation = Function.update ledger.reservation orderId
      ((ledger.reservation orderId).map Reservation.release))
    (first : ¬ ledger.CancelSeen orderId)
    (seen : ∀ other, after.CancelSeen other ↔ ledger.CancelSeen other ∨ other = orderId) :
    after.Released ↔ ledger.Released := by
  simp only [Released, rows, seen]
  constructor
  · intro released other known reservation found
    have different : other ≠ orderId := by
      rintro rfl
      exact first known
    exact released other (.inl known) reservation ((Function.update_of_ne different ..).trans found)
  · intro released other known reservation found
    by_cases same : other = orderId
    · subst same
      rw [Function.update_self, Option.map_eq_some_iff] at found
      obtain ⟨before, -, rfl⟩ := found
      intro reserved
      cases reserved
    · exact released other (known.resolve_right same) reservation
        ((Function.update_of_ne same ..).symm.trans found)

theorem Step.released_iff (step : ledger.Step config decision after) (sound : ledger.Sound config) :
    after.Released ↔ ledger.Released ∧ ¬ ledger.Late decision := by
  have seen := step.cancelSeen sound
  -- Where inventory processes no cancellation, none is seen that was not seen before.
  have unseen (none : ∀ event, ledger.Pending .inventory event →
      event.payload.topic = .ordersCancelled → event.eventId ∉ after.processed .inventory)
      (orderId : Uuid) : after.CancelSeen orderId ↔ ledger.CancelSeen orderId := by
    rw [seen]
    refine or_iff_left ?_
    rintro ⟨event, pending, topic, -, processed⟩
    exact none event pending topic processed
  have prompt (notReserved : ∀ order, decision ≠ .reserved order) : ¬ ledger.Late decision := by
    rintro ⟨order, same, -⟩
    exact notReserved order same
  cases step with
  | idle | placed =>
      rw [and_iff_left (prompt (by simp))]
      exact released_congr rfl (unseen fun _ pending _ => pending.unprocessed)
  | charged | skipped | recorded | settled | notified =>
      rw [and_iff_left (prompt (by simp))]
      refine released_congr rfl (unseen fun event pending _ => ?_)
      simpa [process] using pending.unprocessed
  | rejected next job handling =>
      rw [and_iff_left (prompt (by simp))]
      refine released_congr rfl (unseen fun event pending topic => ?_)
      simpa [process] using handling.not_created sound pending topic
  | reserved next job handling unreserved reservationId eventId =>
      have sameSeen := unseen fun event pending topic => by
        simpa [process] using handling.not_created sound pending topic
      rw [released_of_new_reservation unreserved rfl rfl sameSeen]
      simp [Late]
  | released next later event handling topic =>
      have cancelled := sound.typed event handling.emitted ▸ topic
      rw [and_iff_left (prompt (by simp))]
      refine released_of_cancellation rfl ?_ fun orderId => ?_
      · -- The order has been cancelled once only, and that event is processed in this step.
        rintro ⟨other, emitted, otherTopic, about, processed⟩
        have own := sound.cancelled_once emitted handling.emitted otherTopic cancelled about
        exact handling.unprocessed (own ▸ processed)
      · rw [seen]
        refine or_congr_right ⟨?_, ?_⟩
        · rintro ⟨other, pending, -, about, processed⟩
          have inserted : other.eventId ∈ insert event.eventId (ledger.processed .inventory) := by
            simpa [process] using processed
          have own := inserted.resolve_right pending.unprocessed
          have same := sound.identified other pending.emitted event handling.emitted own
          exact about.symm.trans (congrArg EventEnvelope.orderId same)
        · rintro rfl
          exact ⟨event, handling, cancelled, rfl, by simp [process]⟩

end Steps

end Ledger

namespace World

def Compensated (world : World) : Prop :=
  ∀ orderId (order : Order) (reservation : Reservation),
    world.orders (OrderService.orderKey orderId) = some order → order.status = .cancelled →
      world.inventory (InventoryService.reservationKey orderId) = some reservation →
        reservation.status ≠ .reserved

def ReservesLate (config : Config) (world : World) (action : Action) : Prop :=
  world.ledger.Late (world.decision config action)

section Quiescent

variable {config : Config} {world : World}

theorem Sound.quiescent_iff (sound : world.Sound config) :
    world.Quiescent config ↔ world.isQuiescent config = true := by
  -- Row ids are drawn, so that only those below the supply have to be looked at.
  have producers (producer : Producer) : producer ∈ [Producer.order, .payment, .inventory] := by
    cases producer <;> decide
  have services (service : Service) :
      service ∈ [Service.order, .payment, .inventory, .notification] := by
    cases service <;> decide
  simp only [isQuiescent, Bool.and_eq_true, List.all_eq_true, List.mem_range, Bool.or_eq_true,
    Bool.not_eq_true', Option.all_eq_true]
  constructor
  · rintro ⟨published, processed⟩
    refine ⟨fun producer _ rowId _ row present => ?_, fun message member service _ => ?_⟩
    · exact Option.isSome_iff_ne_none.mpr (published producer rowId row present)
    · cases subscribed : subscribes config service message.topic with
      | false => exact .inl rfl
      | true => exact .inr (processed message member service subscribed)
  · rintro ⟨published, processed⟩
    refine ⟨fun producer rowId row present => ?_, fun message member service subscribed => ?_⟩
    · have drawn := (sound.traced.rows producer rowId row present).1
      exact Option.isSome_iff_ne_none.mp (published producer (producers producer) rowId drawn row present)
    · rcases processed message member service (services service) with unsubscribed | done
      · cases unsubscribed.symm.trans subscribed
      · exact done

theorem Quiescent.processed_of_emitted (quiescent : world.Quiescent config)
    (sound : world.Sound config) {event : EventEnvelope} (emitted : event ∈ world.ledger.emitted)
    (service : Service) (subscribed : subscribes config service event.payload.topic) :
    event.eventId ∈ world.ledger.processed service := by
  obtain ⟨producer, rowId, row, present, rfl⟩ := emitted
  obtain ⟨-, typed, published⟩ := sound.traced.rows producer rowId row present
  have message := published (quiescent.published producer rowId row present)
  have topic := sound.ledger.typed row.payload ⟨producer, rowId, row, present, rfl⟩
  exact quiescent.processed row.message message service
    (show subscribes config service row.topic by rw [typed, topic]; exact subscribed)

/-- Every order of a quiescent world has been heard of. -/
theorem Quiescent.order_heard (quiescent : world.Quiescent config) (sound : world.Sound config)
    {orderId : Uuid} {order : Order}
    (found : world.orders (OrderService.orderKey orderId) = some order) :
    ∃ message ∈ world.messages, message.event.orderId = orderId := by
  obtain ⟨event, ⟨producer, rowId, row, present, rfl⟩, about, -⟩ :=
    sound.ledger.announced orderId order found
  obtain ⟨-, -, published⟩ := sound.traced.rows producer rowId row present
  exact ⟨row.message, published (quiescent.published producer rowId row present), about⟩

theorem Sound.cancelled_emitted (sound : world.Sound config) {orderId : Uuid} {order : Order}
    (found : world.orders (OrderService.orderKey orderId) = some order)
    (cancelled : order.status = .cancelled) :
    world.ledger.Emits orderId fun payload => payload.topic = .ordersCancelled := by
  obtain ⟨event, emitted, about, stage⟩ := sound.ledger.terminal orderId order found
    (by simp [cancelled])
  refine ⟨event, emitted, about, ?_⟩
  cases payload : event.payload <;> rw [payload] at stage <;> try cases stage
  case orderConfirmed confirmed =>
    obtain ⟨other, there, status⟩ := sound.ledger.order_of_confirmed
      ⟨event, emitted, about, by rw [payload]; rfl⟩
    cases found.symm.trans there
    cases cancelled.symm.trans status
  case orderCancelled => rfl

theorem compensated_iff_released (sound : world.Sound config) (quiescent : world.Quiescent config) :
    world.Compensated ↔ world.ledger.Released := by
  constructor
  · rintro compensated orderId ⟨event, emitted, topic, about, -⟩ reservation found
    obtain ⟨order, present, cancelled⟩ := sound.ledger.order_of_cancelled
      ⟨event, emitted, about, topic⟩
    exact compensated orderId order reservation present cancelled found
  · intro released orderId order reservation present cancelled found
    obtain ⟨event, emitted, about, topic⟩ := sound.cancelled_emitted present cancelled
    have processed := quiescent.processed_of_emitted sound emitted .inventory (by rw [topic]; rfl)
    exact released orderId ⟨event, emitted, topic, about, processed⟩ reservation found

end Quiescent

theorem compensated_iff (config : Config) (products : Uuid → Option InventoryService.Product)
    (actions : List Action) (world : World)
    (ran : Machine.run (step config) (initial products) actions = some world)
    (quiescent : world.Quiescent config) :
    world.Compensated ↔ Machine.Along (step config)
      (fun before action => ¬ before.ReservesLate config action) (initial products) actions := by
  rw [compensated_iff_released (run_sound ran) quiescent]
  have start : (initial products).ledger.Released :=
    fun _ ⟨event, emitted, _⟩ => absurd emitted (initial_silent products event)
  rw [Machine.run_iff_along (fun world : World => world.ledger.Released)
    (fun _ _ _ sound stepped => Sound.step sound stepped)
    (fun before action next sound stepped =>
      (step_refines sound.traced sound.ledger stepped).step.released_iff sound.ledger)
    (initial_sound config products) ran]
  exact and_iff_right start

section Sample

def declinedRequest : OrderService.Request := lineRequest 1 1013 Nat.one_pos (by decide)

def declinedCreated : Message := (declinedRequest.createdRow 0 1 2).message

def declinedCharging : PaymentService.Charging :=
  { event := declinedCreated.event
    order := ((declinedRequest.order 0 1).createdPayload)
    now := 0
    created := rfl }

def declinedCharged : Message :=
  { topic := .paymentsFailed
    key := 0
    event := declinedCharging.outcome sampleConfig.payments 4 5 }

def declinedCancelled : Message :=
  (OrderService.terminalRow 0 0 { declinedRequest.order 0 1 with paymentStatus := .failed }
    .cancelled 7).message

def declinedReserving : InventoryService.Reserving :=
  { event := declinedCreated.event
    order := ((declinedRequest.order 0 1).createdPayload)
    now := 0
    created := rfl }

def declinedReserved : Message := (declinedReserving.reservedRow 9 10).message

def declinedOrder : List Action :=
  [.createOrder declinedRequest none, .publish .order 3, .deliver .payment declinedCreated 0 none,
    .publish .payment 6, .deliver .order declinedCharged 0 none, .publish .order 8]

def drained : List Action :=
  [.publish .inventory 11, .deliver .order declinedReserved 0 none,
    .deliver .notification declinedCharged 0 none, .mark .order 3 0, .mark .order 8 0,
    .mark .payment 6 0, .mark .inventory 11 0]

def reservedFirst : List Action :=
  declinedOrder ++ [.deliver .inventory declinedCreated 0 none,
    .deliver .inventory declinedCancelled 0 none] ++ drained

def cancelledFirst : List Action :=
  declinedOrder ++ [.deliver .inventory declinedCancelled 0 none,
    .deliver .inventory declinedCreated 0 none] ++ drained

theorem reservedFirst_ends : ∃ world,
    Machine.run (step sampleConfig) (initial fun _ => none) reservedFirst = some world ∧
      world.Quiescent sampleConfig ∧
      (∀ orderId order, world.orders (OrderService.orderKey orderId) = some order → orderId = 0) ∧
      (world.inventory (InventoryService.reservationKey 0)).map Reservation.status =
        some .released ∧
      (world.payments (PaymentService.paymentKey 0)).map Payment.status = some .failed := by
  have ran : ∃ world,
      Machine.run (step sampleConfig) (initial fun _ => none) reservedFirst = some world ∧
        world.isQuiescent sampleConfig = true ∧
        (world.messages.all fun message => message.event.orderId = 0) = true ∧
        (world.inventory (InventoryService.reservationKey 0)).map Reservation.status =
          some .released ∧
        (world.payments (PaymentService.paymentKey 0)).map Payment.status = some .failed :=
    ⟨_, rfl, rfl, rfl, rfl, rfl⟩
  obtain ⟨world, ran, quiet, messages, released, declined⟩ := ran
  have sound : world.Sound sampleConfig := run_sound ran
  have quiescent : world.Quiescent sampleConfig := sound.quiescent_iff.mpr quiet
  refine ⟨world, ran, quiescent, fun orderId order found => ?_, released, declined⟩
  obtain ⟨message, member, rfl⟩ := quiescent.order_heard sound found
  simpa using List.all_eq_true.mp messages message member

theorem compensated_iff_reservedFirst : ∃ world,
    Machine.run (step sampleConfig) (initial fun _ => none) reservedFirst = some world ∧
      world.Quiescent sampleConfig ∧ world.Compensated ∧
      Machine.Along (step sampleConfig)
        (fun before action => ¬ before.ReservesLate sampleConfig action) (initial fun _ => none)
        reservedFirst := by
  obtain ⟨world, ran, quiescent, only, released, -⟩ := reservedFirst_ends
  have compensated : world.Compensated := by
    intro orderId order reservation found _ present
    rw [only orderId order found] at present
    rw [present] at released
    simp [Option.some.inj released]
  exact ⟨world, ran, quiescent, compensated,
    (compensated_iff sampleConfig _ _ world ran quiescent).mp compensated⟩

theorem cancelled_order_keeps_stock : ∃ world,
    Machine.run (step sampleConfig) (initial fun _ => none) cancelledFirst = some world ∧
      world.Quiescent sampleConfig ∧ ¬ world.Compensated := by
  have ran : ∃ world,
      Machine.run (step sampleConfig) (initial fun _ => none) cancelledFirst = some world ∧
        world.isQuiescent sampleConfig = true ∧
        (world.orders (OrderService.orderKey 0)).map OrderService.Order.status = some .cancelled ∧
        (world.inventory (InventoryService.reservationKey 0)).map Reservation.status =
          some .reserved := ⟨_, rfl, rfl, rfl, rfl⟩
  obtain ⟨world, ran, quiet, status, reserved⟩ := ran
  obtain ⟨order, found, cancelled⟩ := Option.map_eq_some_iff.mp status
  obtain ⟨reservation, present, kept⟩ := Option.map_eq_some_iff.mp reserved
  refine ⟨world, ran, (run_sound ran).quiescent_iff.mpr quiet, fun compensated => ?_⟩
  exact compensated 0 order reservation found cancelled present kept

end Sample

end World

end Ecommerce
