import Ecommerce.Checkout.Charges

set_option autoImplicit false

/-!
# Every event of a checkout is traceable to its order

The correlation id reaches an event from the order row, or from the event that its service
answers.
-/

namespace Ecommerce

open Transaction
open OrderService (Order Delivery Request)
open PaymentService (Charging)
open InventoryService (Reserving)

def Payload.customerId : Payload → Option Uuid
  | .orderCreated payload => some payload.customerId
  | .orderConfirmed payload => some payload.customerId
  | .orderCancelled payload => some payload.customerId
  | .paymentCompleted payload => some payload.customerId
  | .paymentFailed payload => some payload.customerId
  | .inventoryReserved _ | .inventoryRejected _ => none

structure EventEnvelope.TracedTo (event : EventEnvelope) (order : Order) : Prop where
  aggregateId : event.aggregateId = order.id
  orderId : event.orderId = order.id
  correlationId : event.correlationId = order.correlationId
  customerId : ∀ customerId, event.payload.customerId = some customerId →
    customerId = order.customerId

structure OutboxEvent.TracedTo (row : OutboxEvent) (order : Order) : Prop where
  aggregateId : row.aggregateId = order.id
  partitionKey : row.partitionKey = order.id
  eventType : row.eventType = row.topic ∧ row.payload.eventType = row.topic
  event : row.payload.TracedTo order

structure Message.TracedTo (message : Message) (order : Order) : Prop where
  key : message.key = order.id
  eventType : message.event.eventType = message.topic
  event : message.event.TracedTo order

theorem OrderService.record_id (delivery : Delivery) (order : Order) :
    (delivery.record order).id = order.id := by
  cases leg : delivery.leg <;> simp [Delivery.record, Order.recordLeg, leg]

theorem Ledger.Step.keyed {config : Config} {ledger after : Ledger} {decision : Ledger.Decision}
    (step : ledger.Step config decision after)
    (kept : ∀ orderId order, ledger.order orderId = some order → order.id = orderId) :
    ∀ orderId order, after.order orderId = some order → order.id = orderId := by
  intro orderId order found
  cases step with
  | idle | charged | rejected | reserved | released | skipped | notified =>
      exact kept orderId order found
  | placed =>
      rcases Ledger.update_found found with ⟨rfl, rfl⟩ | old
      · rfl
      · exact kept orderId order old
  | recorded _ _ delivery _ _ before present =>
      rcases Ledger.update_found found with ⟨rfl, rfl⟩ | old
      · exact (OrderService.record_id delivery before).trans (kept _ before present)
      · exact kept orderId order old
  | settled _ delivery _ _ before present =>
      rcases Ledger.update_found found with ⟨rfl, rfl⟩ | old
      · exact (OrderService.record_id delivery before).trans (kept _ before present)
      · exact kept orderId order old

namespace World

/-- An order of the order service that this holds of. -/
def HasOrder (world : World) (stated : Order → Prop) : Prop :=
  ∃ order, world.orders (OrderService.orderKey order.id) = some order ∧ stated order

structure Traceable (world : World) : Prop where
  keyed : ∀ orderId order, world.orders (OrderService.orderKey orderId) = some order →
    order.id = orderId
  rows : ∀ producer rowId row, world.outbox producer rowId = some row →
    world.HasOrder row.TracedTo
  messages : ∀ message ∈ world.messages, world.HasOrder message.TracedTo

section Orders

variable {config : Config} {before after : World} {order later : Order}

theorem traced_of_evolves (evolves : order.Evolves later) {event : EventEnvelope}
    (traced : event.TracedTo order) : event.TracedTo later where
  aggregateId := traced.aggregateId.trans (congrArg OrderCreatedPayload.orderId evolves.asked).symm
  orderId := traced.orderId.trans (congrArg OrderCreatedPayload.orderId evolves.asked).symm
  correlationId := traced.correlationId.trans evolves.traced.symm
  customerId customerId stated :=
    (traced.customerId customerId stated).trans
      (congrArg OrderCreatedPayload.customerId evolves.asked).symm

theorem HasOrder.grows {stated : Order → Prop} (has : before.HasOrder stated)
    (grows : before.ledger.Grows after.ledger)
    (kept : ∀ order later, order.Evolves later → stated order → stated later) :
    after.HasOrder stated := by
  obtain ⟨order, found, holds⟩ := has
  obtain ⟨later, foundLater, evolves⟩ := grows.order _ order found
  have sameId : later.id = order.id := congrArg OrderCreatedPayload.orderId evolves.asked
  exact ⟨later, sameId ▸ foundLater, kept order later evolves holds⟩

theorem HasOrder.of_key {stated : Order → Prop} (orderId : Uuid) (order : Order)
    (found : after.orders (OrderService.orderKey orderId) = some order) (sameId : order.id = orderId)
    (holds : stated order) : after.HasOrder stated := by
  subst sameId
  exact ⟨order, found, holds⟩

theorem HasOrder.row_grows {row : OutboxEvent} (has : before.HasOrder row.TracedTo)
    (grows : before.ledger.Grows after.ledger) : after.HasOrder row.TracedTo := by
  refine has.grows grows fun order later evolves traced => ?_
  have sameId : later.id = order.id := congrArg OrderCreatedPayload.orderId evolves.asked
  exact ⟨traced.aggregateId.trans sameId.symm, traced.partitionKey.trans sameId.symm,
    traced.eventType, traced_of_evolves evolves traced.event⟩

theorem HasOrder.message_grows {message : Message} (has : before.HasOrder message.TracedTo)
    (grows : before.ledger.Grows after.ledger) : after.HasOrder message.TracedTo := by
  refine has.grows grows fun order later evolves traced => ?_
  have sameId : later.id = order.id := congrArg OrderCreatedPayload.orderId evolves.asked
  exact ⟨traced.key.trans sameId.symm, traced.eventType, traced_of_evolves evolves traced.event⟩

theorem message_traced {row : OutboxEvent} (traced : row.TracedTo order) :
    row.message.TracedTo order :=
  ⟨traced.partitionKey, traced.eventType.2, traced.event⟩

/-- A row that was there up to its mark, or a row of this event. -/
def RowsFrom (before after : World) (new : OutboxEvent → Prop) : Prop :=
  ∀ producer rowId row, after.outbox producer rowId = some row →
    (∃ old mark, before.outbox producer rowId = some old ∧
      row = { old with publishedAt := mark }) ∨ new row

theorem RowsFrom.of_same {new : OutboxEvent → Prop} (same : after.outbox = before.outbox) :
    before.RowsFrom after new := by
  intro producer rowId row present
  rw [same] at present
  exact .inl ⟨row, row.publishedAt, present, rfl⟩

theorem RowsFrom.of_staged {new : OutboxEvent → Prop} {producer : Producer} {rowId : Uuid}
    {row : OutboxEvent} (outbox : ∀ other id, after.outbox other id =
      if other = producer ∧ id = rowId then some row else before.outbox other id)
    (holds : new row) : before.RowsFrom after new := by
  intro other id found present
  rw [outbox] at present
  split at present
  · cases present
    exact .inr holds
  · exact .inl ⟨found, found.publishedAt, present, rfl⟩

theorem RowsFrom.of_marked {new : OutboxEvent → Prop} {producer : Producer} {rowId : Uuid}
    {row : OutboxEvent} {now : Timestamp} (marks : before.Marks after producer rowId row now) :
    before.RowsFrom after new := by
  intro other id found present
  rw [marks.outbox] at present
  split at present
  · next same =>
      cases present
      exact .inl ⟨row, some now, same.1 ▸ same.2 ▸ marks.present, rfl⟩
  · exact .inl ⟨found, found.publishedAt, present, rfl⟩

end Orders

section Emitters

variable {world : World} {config : Config} {next : Uuid}

theorem Traceable.event (traceable : world.Traceable) {event : EventEnvelope}
    (emitted : event ∈ world.ledger.emitted) : world.HasOrder event.TracedTo := by
  obtain ⟨producer, rowId, row, present, rfl⟩ := emitted
  obtain ⟨order, found, traced⟩ := traceable.rows producer rowId row present
  exact ⟨order, found, traced.event⟩

theorem create_rows (request : Request)
    {writes : Writes (TableKey OrderService.Key) (TableRow OrderService.Row)}
    (effect : OrderService.CreateEffect config.orders (between world.nextUuid next) request
      world.orders writes) :
    world.RowsFrom { world with orders := writes.over world.orders, nextUuid := next }
      fun row => HasOrder
        { world with orders := writes.over world.orders, nextUuid := next } row.TracedTo := by
  cases effect with
  | created unclaimed orderId correlationId eventId rowId _ _ _ unknown free =>
      simp only [Writes.put_over, Writes.none_over]
      refine .of_staged (outbox_orders (fun id => ?_) _ _)
        ⟨request.order orderId correlationId, ?_, rfl, rfl, ⟨rfl, rfl⟩, rfl, rfl, rfl, ?_⟩
      · simp [Store.set_other]
      · simp [Store.set_other, Request.order]
      · intro customerId stated
        exact (Option.some.inj stated).symm

theorem terminal_customerId (orderId : Uuid) (order : Order) (status : OrderService.OrderStatus) :
    (OrderService.terminalPayload orderId order status).customerId = some order.customerId := by
  cases status <;> rfl

theorem outcome_rows (traceable : world.Traceable) (delivery : Delivery)
    {writes : Writes (TableKey OrderService.Key) (TableRow OrderService.Row)}
    (effect : OrderService.OutcomeEffect (OrderService.alone (between world.nextUuid next)) delivery
      world.orders writes) :
    world.RowsFrom { world with orders := writes.over world.orders, nextUuid := next }
      fun row => HasOrder
        { world with orders := writes.over world.orders, nextUuid := next } row.TracedTo := by
  cases effect with
  | skipped | recorded =>
      simp only [Writes.put_over, Writes.none_over]
      apply RowsFrom.of_same
      funext other id
      cases other <;> simp [outbox, Store.set_other]
  | settled unmarked order found unsettled status decided eventId rowId drawn rowDrawn free =>
      simp only [Writes.put_over, Writes.none_over]
      have sameId : (delivery.record order).id = delivery.orderId :=
        (OrderService.record_id delivery order).trans (traceable.keyed _ order found)
      refine .of_staged (outbox_orders (fun id => ?_) _ _)
        (.of_key delivery.orderId { delivery.record order with status } ?_ sameId
          ⟨sameId.symm, sameId.symm, ⟨rfl, rfl⟩, sameId.symm, ?_, rfl, ?_⟩)
      · simp [Store.set_other]
      · simp [Store.set_other]
      · exact (Ledger.terminal_orderId ..).trans sameId.symm
      · intro customerId stated
        exact (Option.some.inj ((terminal_customerId ..).symm.trans stated)).symm

theorem charge_rows (traceable : world.Traceable) (job : Charging)
    {writes : Writes (TableKey PaymentService.Key) (TableRow PaymentService.Row)}
    (emitted : job.event ∈ world.ledger.emitted)
    (effect : PaymentService.ChargeEffect config.payments (between world.nextUuid next) job
      world.payments writes) :
    world.RowsFrom { world with payments := writes.over world.payments, nextUuid := next }
      fun row => HasOrder
        { world with payments := writes.over world.payments, nextUuid := next } row.TracedTo := by
  obtain ⟨order, found, traced⟩ := traceable.event emitted
  have about : job.order.orderId = order.id := (Ledger.charging_orderId job).symm.trans traced.orderId
  have customer : job.order.customerId = order.customerId :=
    traced.customerId _ (by rw [job.created]; rfl)
  cases effect with
  | charged unmarked uncharged paymentId eventId rowId eventDrawn rowDrawn free =>
      simp only [Writes.put_over, Writes.none_over]
      refine .of_staged (outbox_payments (fun id => ?_) _ _)
        ⟨order, found, about, about, ⟨rfl, rfl⟩, about, ?_, traced.correlationId, ?_⟩
      · simp [Store.set_other]
      · exact (Ledger.charging_payload_orderId ..).trans about
      · intro customerId stated
        have charged : (job.payload config.payments paymentId).customerId =
            some job.order.customerId := by
          unfold Charging.payload
          split <;> rfl
        exact (Option.some.inj (charged.symm.trans stated)).symm.trans customer

theorem reserve_rows (traceable : world.Traceable) (job : Reserving)
    {writes : Writes (TableKey InventoryService.Key) (TableRow InventoryService.Row)}
    (emitted : job.event ∈ world.ledger.emitted)
    (effect : InventoryService.ReserveEffect config.inventory
      (InventoryService.alone config.inventory (between world.nextUuid next)) job world.inventory
        writes) :
    world.RowsFrom { world with inventory := writes.over world.inventory, nextUuid := next }
      fun row => HasOrder
        { world with inventory := writes.over world.inventory, nextUuid := next } row.TracedTo := by
  obtain ⟨order, found, traced⟩ := traceable.event emitted
  have about : job.order.orderId = order.id := (Ledger.reserving_orderId job).symm.trans traced.orderId
  cases effect with
  | rejected unmarked shortfalls checked short eventId rowId drawn rowDrawn free =>
      simp only [Writes.put_over]
      refine .of_staged (outbox_inventory (fun id => ?_) _ _)
        ⟨order, found, about, about, ⟨rfl, rfl⟩, about, about, traced.correlationId, ?_⟩
      · simp [Store.set_other, stockWrites_over]
      · exact fun _ stated => by cases stated
  | reserved unmarked checked unreserved reservationId eventId rowId drawn rowDrawn free =>
      simp only [Writes.put_over]
      refine .of_staged (outbox_inventory (fun id => ?_) _ _)
        ⟨order, found, about, about, ⟨rfl, rfl⟩, about, about, traced.correlationId, ?_⟩
      · simp [Store.set_other, stockWrites_over]
      · exact fun _ stated => by cases stated

theorem release_rows (event : EventEnvelope) {new : OutboxEvent → Prop}
    {writes : Writes (TableKey InventoryService.Key) (TableRow InventoryService.Row)}
    (effect : InventoryService.ReleaseEffect InventoryService.found event world.inventory writes) :
    world.RowsFrom { world with inventory := writes.over world.inventory, nextUuid := next } new := by
  apply RowsFrom.of_same
  funext other id
  cases effect with
  | skipped => cases other <;> simp [outbox, Store.set_other]
  | released => cases other <;> simp [outbox, Store.set_other, restoreWrites_over]

end Emitters

section Steps

variable {config : Config} {world next : World} {action : Action}

theorem step_rows (sound : world.Sound config) (traceable : world.Traceable)
    (stepped : world.step config action = some next) :
    world.RowsFrom next fun row => next.HasOrder row.TracedTo := by
  have moves := step_moves sound.traced sound.ledger stepped
  generalize world.decision config action = decision at moves
  cases moves with
  | stays => exact .of_same rfl
  | created request _ effect => exact create_rows request effect
  | outcome delivery _ _ _ effect => exact outcome_rows traceable delivery effect
  | charged job _ emitted effect => exact charge_rows traceable job emitted effect
  | reserved job _ emitted effect => exact reserve_rows traceable job emitted effect
  | released event _ _ _ effect => exact release_rows event effect
  | sent | published => exact .of_same rfl
  | marked producer rowId row now present => exact .of_marked (mark_marks present now).1

theorem step_messages (sound : world.Sound config) (stepped : world.step config action = some next) :
    ∀ message ∈ next.messages, message ∈ world.messages ∨
      ∃ producer rowId row, world.outbox producer rowId = some row ∧ message = row.message := by
  intro message member
  have moves := step_moves sound.traced sound.ledger stepped
  generalize world.decision config action = decision at moves
  cases moves with
  | published producer rowId row present =>
      rcases List.mem_append.mp member with earlier | latest
      · exact .inl earlier
      · exact .inr ⟨producer, rowId, row, present, List.mem_singleton.mp latest⟩
  | marked producer rowId row now present =>
      rw [(mark_marks present now).1.messages] at member
      exact .inl member
  | _ => exact .inl member

theorem Traceable.step (traceable : world.Traceable) (sound : world.Sound config)
    (stepped : world.step config action = some next) : next.Traceable where
  keyed := (step_refines sound.traced sound.ledger stepped).step.keyed traceable.keyed
  rows producer rowId row present := by
    have grows := (step_refines sound.traced sound.ledger stepped).step.grows
    rcases step_rows sound traceable stepped producer rowId row present with
      ⟨old, mark, there, rfl⟩ | traced
    · obtain ⟨order, found, traced⟩ := (traceable.rows producer rowId old there).row_grows grows
      exact ⟨order, found, traced.aggregateId, traced.partitionKey, traced.eventType, traced.event⟩
    · exact traced
  messages message member := by
    have grows := (step_refines sound.traced sound.ledger stepped).step.grows
    rcases step_messages sound stepped message member with earlier | ⟨producer, rowId, row, present, rfl⟩
    · exact (traceable.messages message earlier).message_grows grows
    · obtain ⟨order, found, traced⟩ := (traceable.rows producer rowId row present).row_grows grows
      exact ⟨order, found, message_traced traced⟩

theorem initial_traceable (products : Uuid → Option InventoryService.Product) :
    (initial products).Traceable := by
  refine ⟨fun _ _ found => ?_, fun producer _ _ present => ?_, fun _ member => ?_⟩
  · cases found
  · cases producer <;> cases present
  · cases member

theorem run_traceable {products : Uuid → Option InventoryService.Product} {actions : List Action}
    (ran : Machine.run (step config) (initial products) actions = some world) :
    world.Sound config ∧ world.Traceable :=
  Machine.run_invariant (fun world : World => world.Sound config ∧ world.Traceable)
    (fun _ _ _ holds stepped => ⟨holds.1.step stepped, holds.2.step holds.1 stepped⟩)
    ⟨initial_sound config products, initial_traceable products⟩ ran

end Steps

/-- The event with this envelope is staged or published. -/
def Carries (world : World) (event : EventEnvelope) : Prop :=
  (∃ producer rowId row, world.outbox producer rowId = some row ∧ row.payload = event) ∨
    ∃ message ∈ world.messages, message.event = event

theorem events_traceable (config : Config) (products : Uuid → Option InventoryService.Product)
    (actions : List Action) (world : World)
    (ran : Machine.run (step config) (initial products) actions = some world) :
    (∀ producer rowId row, world.outbox producer rowId = some row → world.HasOrder row.TracedTo) ∧
    (∀ message ∈ world.messages, world.HasOrder message.TracedTo) ∧
    ∀ one two, world.Carries one → world.Carries two → one.eventId = two.eventId → one = two := by
  obtain ⟨sound, traceable⟩ := run_traceable ran
  refine ⟨traceable.rows, traceable.messages, fun one two first second same => ?_⟩
  have emitted {event : EventEnvelope} (carried : world.Carries event) :
      event ∈ world.ledger.emitted := by
    rcases carried with staged | ⟨message, member, rfl⟩
    · exact staged
    · exact (sound.traced.messages message member).1
  exact sound.ledger.identified one (emitted first) two (emitted second) same

section Sample

theorem events_traceable_checkout : ∃ world,
    Machine.run (step sampleConfig) (initial fun _ => none) sampleCheckout = some world ∧
      sampleReserved ∈ world.messages ∧ world.HasOrder sampleReserved.TracedTo := by
  have ran : ∃ world,
      Machine.run (step sampleConfig) (initial fun _ => none) sampleCheckout = some world ∧
        world.messages = [sampleCreated, sampleCharged, sampleReserved, sampleConfirmed] :=
    ⟨_, rfl, rfl⟩
  obtain ⟨world, ran, messages⟩ := ran
  have published : sampleReserved ∈ world.messages := by simp [messages]
  exact ⟨world, ran, published,
    (events_traceable sampleConfig _ _ world ran).2.1 sampleReserved published⟩

end Sample

end World

end Ecommerce
