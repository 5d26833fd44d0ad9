import Ecommerce.Checkout.Confirmed
import Ecommerce.Kafka.EventCodec

set_option autoImplicit false

/-!
# From an outbox to a handler

A row of an outbox is stored as JSON, published as bytes and parsed by a consumer. The event that
its handler is called with is the event of the row.
-/

namespace Ecommerce

open Kafka

def Payload.integers : Payload → List Int
  | .orderCreated payload =>
      payload.totalAmountCents :: payload.items.flatMap fun item =>
        [(item.quantity : Int), (item.unitPriceCents : Int)]
  | .orderConfirmed payload => [payload.totalAmountCents]
  | .orderCancelled _ | .paymentFailed _ => []
  | .paymentCompleted payload => [payload.amountChargedCents]
  | .inventoryReserved payload => payload.items.map fun item => (item.quantity : Int)
  | .inventoryRejected payload =>
      payload.shortfalls.flatMap fun shortfall => [(shortfall.requested : Int), shortfall.available]

/-- The integers and the date of an event are those of JavaScript. -/
structure EventEnvelope.Exact (event : EventEnvelope) : Prop where
  dated : event.occurredAt ≤ maxTime
  integers : ∀ value ∈ (event.version : Int) :: event.payload.integers, value.natAbs ≤ maxExact

section Fits

variable {texts : Texts}

theorem payload_fits {payload : Payload}
    (small : ∀ value ∈ payload.integers, value.natAbs ≤ maxExact) :
    (Payload.codec texts payload.topic).Fits payload := by
  cases payload with
  | orderCreated payload =>
      simp only [Payload.integers, List.forall_mem_cons, List.forall_mem_flatMap] at small
      have items (item : OrderLineItem) (member : item ∈ payload.items) :
          (OrderLineItem.codec texts).Fits item := by
        have both := small.2 item member
        exact lineItem_fits both.1 both.2.1
      have total : payload.totalAmountCents ≤ maxExact := small.1
      refine ⟨payload, rfl, ?_⟩
      simpa [OrderCreatedPayload.codec, total] using items
  | orderConfirmed payload =>
      have total : payload.totalAmountCents ≤ maxExact :=
        small (payload.totalAmountCents : Int) (by simp [Payload.integers])
      exact ⟨payload, rfl, by simp [OrderConfirmedPayload.codec, total]⟩
  | orderCancelled payload =>
      exact ⟨payload, rfl, by simp [OrderCancelledPayload.codec, CancelReason.codec]⟩
  | paymentCompleted payload =>
      have amount : payload.amountChargedCents ≤ maxExact :=
        small (payload.amountChargedCents : Int) (by simp [Payload.integers])
      exact ⟨payload, rfl, by simp [PaymentCompletedPayload.codec, amount]⟩
  | paymentFailed payload =>
      exact ⟨payload, rfl, by simp [PaymentFailedPayload.codec, DeclineReason.codec]⟩
  | inventoryReserved payload =>
      have items (item : ReservedItem) (member : item ∈ payload.items) :
          (ReservedItem.codec texts).Fits item := by
        have quantity : item.quantity ≤ maxExact :=
          small _ (List.mem_map_of_mem member)
        exact reservedItem_fits quantity
      refine ⟨payload, rfl, ?_⟩
      simpa [InventoryReservedPayload.codec] using items
  | inventoryRejected payload =>
      simp only [Payload.integers, List.forall_mem_cons, List.forall_mem_flatMap] at small
      have shortfalls (shortfall : Shortfall) (member : shortfall ∈ payload.shortfalls) :
          (Shortfall.codec texts).Fits shortfall := by
        have both := small shortfall member
        exact shortfall_fits both.1 both.2.1
      exact ⟨payload, rfl, trivial, texts.uuid_fits _, ⟨trivial, trivial⟩, shortfalls⟩

theorem event_fits {event : EventEnvelope} (typed : event.eventType = event.payload.topic)
    (exact : event.Exact) : (EventEnvelope.codec texts event.eventType).Fits event := by
  have integers := exact.integers
  rw [List.forall_mem_cons] at integers
  have version : event.version ≤ maxExact := integers.1
  have payload : (Payload.codec texts event.eventType).Fits event.payload := by
    rw [typed]
    exact payload_fits integers.2
  simp [EventEnvelope.codec, Topic.codec, version, exact.dated, payload]

end Fits

/-- What the relay sends for a row, which a JSONB column has kept. -/
def OutboxEvent.published (texts : Texts) (decimal : JsString → Option JsString)
    (arrange : List (JsString × Json) → List (JsString × Json)) (row : OutboxEvent) :
    Kafka.Message :=
  { key := some (bufferFrom (utf16 (texts.uuidText row.partitionKey)))
    value := some (publishedValue decimal ((row.payload.toJson texts).arranged arrange)) }

/-- Of every row of every run: a service that has subscribed to its topic calls its handler with the
event of the row, and the lines of a reservation come back as they were reserved. -/
theorem handlers_get_the_events (config : Config)
    (products : Uuid → Option InventoryService.Product) (actions : List Action) (world : World)
    (ran : Machine.run (World.step config) (.initial products) actions = some world)
    (texts : Texts) (decimal : JsString → Option JsString) (numeric : Numeric decimal)
    (exact : KeepsIntegers decimal)
    (arrange : List (JsString × Json) → List (JsString × Json))
    (keeps : ∀ members, (arrange members).Perm members) :
    (∀ producer rowId row, world.outbox producer rowId = some row → row.payload.Exact →
      ∀ (service : Kafka.Service) handler, service.routes row.topic.name = some handler →
      ∀ sendSucceeds failedAt fuel,
        ∃ arrived, dispatch service sendSucceeds failedAt row.topic.name
            (row.published texts decimal arrange) fuel =
          handleWithRetry service sendSucceeds failedAt row.topic.name arrived
            (row.published texts decimal arrange) handler fuel 0 0 ∧
          (EventEnvelope.codec texts row.topic).read arrived = some row.message.event) ∧
    ∀ orderId (reservation : InventoryService.Reservation),
      world.inventory (InventoryService.reservationKey orderId) = some reservation →
      (∀ item ∈ reservation.items, item.quantity ≤ maxExact) →
        let column := (ReservedItem.codec texts).list
        column.read ((column.write reservation.items).arranged arrange) =
          some reservation.items := by
  have sound := World.run_sound ran
  have stored := arranged_faithful keeps
  constructor
  · intro producer rowId row present rowExact service handler routed sendSucceeds failedAt fuel
    obtain ⟨-, topic, -⟩ := sound.traced.rows producer rowId row present
    have typed := sound.ledger.typed row.payload ⟨producer, rowId, row, present, rfl⟩
    have fits : (EventEnvelope.codec texts row.payload.eventType).Fits row.payload :=
      event_fits typed rowExact
    have written := (EventEnvelope.codec texts row.payload.eventType).valid row.payload fits
    have valid : ((row.payload.toJson texts).arranged arrange).Valid := stored.valid _ written
    refine ⟨((row.payload.toJson texts).arranged arrange).normal decimal, ?_, ?_⟩
    · simp only [dispatch, routed, OutboxEvent.published, jsonParse_publishedValue numeric valid]
    · rw [topic]
      exact (EventEnvelope.codec texts row.payload.eventType).reads row.payload _ fits
        (stored.comp (normal_faithful numeric exact))
  · intro orderId reservation present small column
    apply column.reads reservation.items _ _ stored
    intro item member
    exact reservedItem_fits (small item member)

section Sample

theorem sampleCreated_exact : World.sampleCreated.event.Exact where
  dated := by decide
  integers := by decide

theorem handlers_get_the_events_sample : ∃ world row reservation arrived,
    Machine.run (World.step World.sampleConfig) (.initial fun _ => none) World.sampleCheckout =
      some world ∧
    world.outbox .order 3 = some row ∧ row.topic = .ordersCreated ∧
    world.inventory (InventoryService.reservationKey 0) = some reservation ∧
    (EventEnvelope.codec sampleTexts row.topic).read arrived = some World.sampleCreated.event ∧
    (ReservedItem.codec sampleTexts).list.read
      ((((ReservedItem.codec sampleTexts).list).write reservation.items).arranged List.reverse) =
        some [{ productId := 3, quantity := 2 }] := by
  have ran : ∃ world,
      Machine.run (World.step World.sampleConfig) (.initial fun _ => none) World.sampleCheckout =
        some world ∧
      (world.outbox .order 3).map OutboxEvent.message = some World.sampleCreated ∧
      (world.inventory (InventoryService.reservationKey 0)).map
        InventoryService.Reservation.items = some [{ productId := 3, quantity := 2 }] :=
    ⟨_, rfl, rfl, rfl⟩
  obtain ⟨world, ran, created, reserved⟩ := ran
  obtain ⟨row, present, sent⟩ := Option.map_eq_some_iff.mp created
  obtain ⟨reservation, kept, items⟩ := Option.map_eq_some_iff.mp reserved
  have event : row.payload = World.sampleCreated.event := congrArg Message.event sent
  have topic : row.topic = .ordersCreated := congrArg Message.topic sent
  have exactly : row.payload.Exact := event ▸ sampleCreated_exact
  obtain ⟨rows, columns⟩ := handlers_get_the_events World.sampleConfig _ _ world ran sampleTexts
    some numeric_some (fun _ _ => rfl) List.reverse List.reverse_perm
  obtain ⟨arrived, -, read⟩ := rows .order 3 row present exactly paymentService _
    (by rw [topic]; rfl) true 0 0
  have column := columns 0 reservation kept (by rw [items]; decide)
  rw [items] at column
  have sentEvent : some row.message.event = some World.sampleCreated.event := congrArg some event
  rw [← items] at column
  exact ⟨world, row, reservation, arrived, ran, present, topic, kept, read.trans sentEvent,
    column.trans (congrArg some items)⟩

end Sample

end Ecommerce
