import Ecommerce.Checkout.Effects
import Ecommerce.Checkout.Preservation

set_option autoImplicit false

/-!
# The system keeps its ledger

What an action does to the databases is a step of the ledger.
-/

namespace Ecommerce

open Transaction
open OrderService (Order Leg Outcome Delivery Request)
open PaymentService (Payment Charging)
open InventoryService (Reservation Reserving)
open NotificationService (NotificationKind)

namespace World

/-- Every message was staged, and what is marked as published is. -/
structure Traced (world : World) : Prop where
  rows : ∀ producer rowId row, world.outbox producer rowId = some row →
    rowId < world.nextUuid ∧ row.topic = row.payload.eventType ∧
      (row.publishedAt ≠ none → row.message ∈ world.messages)
  messages : ∀ message ∈ world.messages, message.event ∈ world.ledger.emitted ∧
    message.topic = message.event.eventType

/-- A row that was not there is staged in an outbox. -/
structure Stages (before after : World) (producer : Producer) (rowId : Uuid) (row : OutboxEvent) :
    Prop where
  free : before.outbox producer rowId = none
  outbox : ∀ other id, after.outbox other id =
    if other = producer ∧ id = rowId then some row else before.outbox other id
  messages : after.messages = before.messages
  nextUuid : before.nextUuid ≤ after.nextUuid
  drawn : rowId < after.nextUuid
  typed : row.topic = row.payload.eventType
  unpublished : row.publishedAt = none

structure Quiet (before after : World) : Prop where
  outbox : after.outbox = before.outbox
  messages : after.messages = before.messages
  nextUuid : before.nextUuid ≤ after.nextUuid

variable {before after : World} {producer : Producer} {rowId : Uuid} {row : OutboxEvent}

theorem Stages.emitted (stages : before.Stages after producer rowId row) :
    after.ledger.emitted = insert row.payload before.ledger.emitted := by
  ext event
  constructor
  · rintro ⟨other, id, found, present, about⟩
    rw [stages.outbox] at present
    split at present
    · cases present
      exact .inl about.symm
    · exact .inr ⟨other, id, found, present, about⟩
  · rintro (rfl | ⟨other, id, found, present, about⟩)
    · exact ⟨producer, rowId, row, by simp [stages.outbox], rfl⟩
    · refine ⟨other, id, found, ?_, about⟩
      rw [stages.outbox, if_neg, present]
      rintro ⟨rfl, rfl⟩
      cases stages.free.symm.trans present

theorem Stages.traced (stages : before.Stages after producer rowId row) (traced : before.Traced) :
    after.Traced where
  rows other id found present := by
    rw [stages.outbox] at present
    split at present
    · next same =>
        cases present
        exact ⟨same.2 ▸ stages.drawn, stages.typed, fun published => absurd stages.unpublished published⟩
    · obtain ⟨drawn, typed, published⟩ := traced.rows other id found present
      rw [stages.messages]
      exact ⟨Nat.lt_of_lt_of_le drawn stages.nextUuid, typed, published⟩
  messages message published := by
    rw [stages.messages] at published
    obtain ⟨emitted, typed⟩ := traced.messages message published
    exact ⟨stages.emitted ▸ .inr emitted, typed⟩

theorem Quiet.emitted (quiet : before.Quiet after) :
    after.ledger.emitted = before.ledger.emitted := by
  simp only [ledger, quiet.outbox]

theorem Quiet.traced (quiet : before.Quiet after) (traced : before.Traced) : after.Traced where
  rows other id found present := by
    rw [quiet.outbox] at present
    obtain ⟨drawn, typed, published⟩ := traced.rows other id found present
    rw [quiet.messages]
    exact ⟨Nat.lt_of_lt_of_le drawn quiet.nextUuid, typed, published⟩
  messages message published := by
    rw [quiet.messages] at published
    rw [quiet.emitted]
    exact traced.messages message published

/-- The decision of reserve that an action commits. -/
def decision (config : Config) (world : World) : Action → Ledger.Decision
  | .deliver .inventory message now fault =>
      match message.topic, message.event.payload with
      | .ordersCreated, .orderCreated order =>
          match (InventoryService.onOrderCreated config.inventory now message.event).transaction fault
            world.inventory world.nextUuid with
          | .ok _ =>
              if InventoryService.shortfalls config.inventory world.inventory order.items = [] then
                .reserved order
              else .rejected order
          | .error _ => .none
      | _, _ => .none
  | _ => .none

structure Refines (config : Config) (before : World) (decision : Ledger.Decision) (after : World) :
    Prop where
  traced : after.Traced
  step : before.ledger.Step config decision after.ledger

theorem Refines.of_stages {config : Config} {decision : Ledger.Decision} (producer : Producer)
    (rowId : Uuid) (row : OutboxEvent) (stages : before.Stages after producer rowId row)
    (traced : before.Traced)
    (step : after.ledger.emitted = insert row.payload before.ledger.emitted →
      before.ledger.Step config decision after.ledger) :
    before.Refines config decision after :=
  ⟨stages.traced traced, step stages.emitted⟩

theorem Refines.of_quiet {config : Config} {decision : Ledger.Decision}
    (quiet : before.Quiet after) (traced : before.Traced)
    (step : after.ledger.emitted = before.ledger.emitted →
      before.ledger.Step config decision after.ledger) :
    before.Refines config decision after :=
  ⟨quiet.traced traced, step quiet.emitted⟩

section Transactions

variable {world : World} {fault : Fault TxError} {config : Config}

theorem Refines.idle (traced : world.Traced) : world.Refines config .none world :=
  ⟨traced, .idle world.nextUuid (Nat.le_refl _)⟩

theorem commit_cases {D : Type} (world : World) (store : D → World)
    (result : Except TxError (Unit × D × Nat)) :
    world.commit store result = world ∨ ∃ database next, result = .ok ((), database, next) ∧
      world.commit store result = { store database with nextUuid := next } := by
  cases result with
  | error => exact .inl rfl
  | ok result => exact .inr ⟨result.2.1, result.2.2, rfl, rfl⟩

end Transactions

section Payment

variable {world : World} {config : Config} {next : Uuid}

theorem processed_payments (payments : PaymentService.PaymentDb) {eventId : Uuid}
    (marked : Database.marked payments PaymentService.consumer =
      insert eventId (Database.marked world.payments PaymentService.consumer)) :
    ({ world with payments, nextUuid := next } : World).ledger.processed =
      Function.update world.ledger.processed .payment
        (insert eventId (world.ledger.processed .payment)) := by
  funext service
  cases service <;> first | exact marked | rfl

theorem outbox_payments {payments : PaymentService.PaymentDb}
    (same : ∀ id, payments (PaymentService.outboxKey id) =
      world.payments (PaymentService.outboxKey id))
    (rowId : Uuid) (row : OutboxEvent) (other : Producer) (id : Uuid) :
    ({ world with
      payments := Store.set payments (PaymentService.outboxKey rowId) row
      nextUuid := next } : World).outbox other id =
        if other = .payment ∧ id = rowId then some row else world.outbox other id := by
  cases other <;> simp [outbox]
  by_cases own : id = rowId
  · subst own
    simp
  · simp [Store.set_other, own, same]

theorem charge_refines (traced : world.Traced) (job : Charging)
    {writes : Writes (TableKey PaymentService.Key) (TableRow PaymentService.Row)}
    (later : world.nextUuid ≤ next) (emitted : job.event ∈ world.ledger.emitted)
    (effect : PaymentService.ChargeEffect config.payments (between world.nextUuid next) job
      world.payments writes) :
    world.Refines config .none
      { world with payments := writes.over world.payments, nextUuid := next } := by
  cases effect with
  | charged unmarked uncharged paymentId eventId rowId eventDrawn rowDrawn free =>
      simp only [Writes.put_over, Writes.none_over]
      refine .of_stages .payment rowId (outboxRow "Payment" job.now (job.topic config.payments)
        (job.outcome config.payments paymentId eventId))
        ⟨free, outbox_payments (fun id => ?_) _ _, rfl, later, rowDrawn.2, rfl, rfl⟩ traced
          fun emittedNow => ?_
      · simp [Store.set_other]
      · have step : world.ledger.Step config .none _ := .charged next job
          ⟨emitted, by simp [ledger, processed, unmarked]⟩ uncharged paymentId eventId eventDrawn
        refine step.to { payment := ?_, emitted := emittedNow, processed := ?_ }
        · funext orderId
          by_cases same : orderId = job.order.orderId
          · subst same
            simp [ledger, Store.set_other]
          · simp [ledger, Store.set_other, same]
        · apply processed_payments
          simp only [marked_set_row, marked_set_marker]

end Payment

section Orders

variable {world : World} {config : Config} {next : Uuid}

theorem processed_orders (orders : OrderService.OrderDb) {eventId : Uuid}
    (marked : Database.marked orders OrderService.consumer =
      insert eventId (Database.marked world.orders OrderService.consumer)) :
    ({ world with orders, nextUuid := next } : World).ledger.processed =
      Function.update world.ledger.processed .order
        (insert eventId (world.ledger.processed .order)) := by
  funext service
  cases service <;> first | exact marked | rfl

theorem outbox_orders {orders : OrderService.OrderDb}
    (same : ∀ id, orders (OrderService.outboxKey id) = world.orders (OrderService.outboxKey id))
    (rowId : Uuid) (row : OutboxEvent) (other : Producer) (id : Uuid) :
    ({ world with
      orders := Store.set orders (OrderService.outboxKey rowId) row
      nextUuid := next } : World).outbox other id =
        if other = .order ∧ id = rowId then some row else world.outbox other id := by
  cases other <;> simp [outbox]
  by_cases own : id = rowId
  · subst own
    simp
  · simp [Store.set_other, own, same]

theorem create_refines (traced : world.Traced) (request : Request)
    {writes : Writes (TableKey OrderService.Key) (TableRow OrderService.Row)}
    (later : world.nextUuid ≤ next)
    (effect : OrderService.CreateEffect config.orders (between world.nextUuid next) request
      world.orders writes) :
    world.Refines config .none { world with orders := writes.over world.orders, nextUuid := next } := by
  cases effect with
  | created unclaimed orderId correlationId eventId rowId orderDrawn eventDrawn rowDrawn unknown free =>
      simp only [Writes.put_over, Writes.none_over]
      refine .of_stages .order rowId (request.createdRow orderId correlationId eventId)
        ⟨free, outbox_orders (fun id => ?_) _ _, rfl, later, rowDrawn.2, rfl, rfl⟩ traced
          fun emittedNow => ?_
      · simp [Store.set_other]
      · have step : world.ledger.Step config .none _ :=
          .placed next (request.order orderId correlationId)
            (request.createdRow orderId correlationId eventId).payload unknown ⟨rfl, rfl, rfl⟩
            (OrderService.totalAmountCents_eq request.dto) rfl rfl eventDrawn
        refine step.to { order := ?_, emitted := emittedNow, processed := ?_ }
        · funext id
          by_cases same : id = orderId
          · subst same
            simp [ledger, Store.set_other, Request.order]
          · simp [ledger, Store.set_other, Request.order, same]
        · funext service
          cases service <;> rfl

theorem outcome_refines (traced : world.Traced) (delivery : Delivery)
    {writes : Writes (TableKey OrderService.Key) (TableRow OrderService.Row)}
    (later : world.nextUuid ≤ next) (emitted : delivery.event ∈ world.ledger.emitted)
    (outcome : delivery.event.payload.outcome = some (delivery.leg, delivery.outcome))
    (effect : OrderService.OutcomeEffect (OrderService.alone (between world.nextUuid next)) delivery
      world.orders writes) :
    world.Refines config .none { world with orders := writes.over world.orders, nextUuid := next } := by
  have pending (unmarked : world.orders (OrderService.marker delivery.event.eventId) = none) :
      world.ledger.Pending .order delivery.event := ⟨emitted, by simp [ledger, processed, unmarked]⟩
  cases effect with
  | skipped unmarked settled =>
      simp only [Writes.put_over, Writes.none_over]
      refine .of_quiet ⟨?_, rfl, later⟩ traced fun emittedNow => ?_
      · funext other id
        cases other <;> simp [outbox, Store.set_other]
      · have step : world.ledger.Step config .none _ :=
          .skipped next later delivery.event (pending unmarked) settled
        refine step.to { order := ?_, emitted := emittedNow, processed := ?_ }
        · funext id
          simp [ledger, Store.set_other]
        · exact processed_orders _ (marked_set_marker ..)
  | recorded unmarked order found unsettled undecided =>
      simp only [Writes.put_over, Writes.none_over]
      refine .of_quiet ⟨?_, rfl, later⟩ traced fun emittedNow => ?_
      · funext other id
        cases other <;> simp [outbox, Store.set_other]
      · have step : world.ledger.Step config .none _ :=
          .recorded next later delivery (pending unmarked) outcome order found (unsettled order found)
            undecided
        refine step.to { order := ?_, emitted := emittedNow, processed := ?_ }
        · funext id
          by_cases same : id = delivery.orderId
          · subst same
            simp [ledger]
          · simp [ledger, Store.set_other, same]
        · apply processed_orders
          simp only [marked_set_row, marked_set_marker]
  | settled unmarked order found unsettled status decided eventId rowId drawn rowDrawn free =>
      simp only [Writes.put_over, Writes.none_over]
      refine .of_stages .order rowId (OrderService.terminalRow delivery.now delivery.orderId
        (delivery.record order) status eventId)
        ⟨free, outbox_orders (fun id => ?_) _ _, rfl, later, rowDrawn.2, rfl, rfl⟩ traced
          fun emittedNow => ?_
      · simp [Store.set_other]
      · have step : world.ledger.Step config .none _ :=
          .settled next delivery (pending unmarked) outcome order found (unsettled order found) status
            decided eventId drawn
        refine step.to { order := ?_, emitted := emittedNow, processed := ?_ }
        · funext id
          by_cases same : id = delivery.orderId
          · subst same
            simp [ledger, Store.set_other]
          · simp [ledger, Store.set_other, same]
        · apply processed_orders
          simp only [marked_set_row, marked_set_marker]

end Orders

section Inventory

variable {world : World} {config : Config} {next : Uuid}

theorem processed_inventory (inventory : InventoryService.InventoryDb) {eventId : Uuid}
    (marked : Database.marked inventory InventoryService.consumer =
      insert eventId (Database.marked world.inventory InventoryService.consumer)) :
    ({ world with inventory, nextUuid := next } : World).ledger.processed =
      Function.update world.ledger.processed .inventory
        (insert eventId (world.ledger.processed .inventory)) := by
  funext service
  cases service <;> first | exact marked | rfl

theorem outbox_inventory {inventory : InventoryService.InventoryDb}
    (same : ∀ id, inventory (InventoryService.outboxKey id) =
      world.inventory (InventoryService.outboxKey id))
    (rowId : Uuid) (row : OutboxEvent) (other : Producer) (id : Uuid) :
    ({ world with
      inventory := Store.set inventory (InventoryService.outboxKey rowId) row
      nextUuid := next } : World).outbox other id =
        if other = .inventory ∧ id = rowId then some row else world.outbox other id := by
  cases other <;> simp [outbox]
  by_cases own : id = rowId
  · subst own
    simp
  · simp [Store.set_other, own, same]

theorem stockWrites_over (config : InventoryService.Config)
    (lines taken : List ReservedItem) (inventory : InventoryService.InventoryDb)
    {key : TableKey InventoryService.Key} (other : ∀ productId, key ≠ .row (.product productId)) :
    (InventoryService.stockWrites config lines taken inventory).over inventory key =
      inventory key := by
  rcases key with _ | ⟨productId⟩ | _ | _ <;> first | rfl | exact absurd rfl (other productId)

theorem restoreWrites_over (lines : List ReservedItem) (inventory : InventoryService.InventoryDb)
    {key : TableKey InventoryService.Key} (other : ∀ productId, key ≠ .row (.product productId)) :
    (InventoryService.restoreWrites lines inventory).over inventory key = inventory key := by
  rcases key with _ | ⟨productId⟩ | _ | _ <;> first | rfl | exact absurd rfl (other productId)

theorem marked_of_untouched {inventory : InventoryService.InventoryDb}
    (same : ∀ eventId, inventory (InventoryService.marker eventId) =
      world.inventory (InventoryService.marker eventId)) :
    Database.marked inventory InventoryService.consumer =
      Database.marked world.inventory InventoryService.consumer := by
  ext eventId
  simp only [Database.marked, same]

theorem reserve_refines (traced : world.Traced) (job : Reserving)
    {writes : Writes (TableKey InventoryService.Key) (TableRow InventoryService.Row)}
    (later : world.nextUuid ≤ next) (emitted : job.event ∈ world.ledger.emitted)
    (effect : InventoryService.ReserveEffect config.inventory
      (InventoryService.alone config.inventory (between world.nextUuid next)) job world.inventory
        writes) :
    world.Refines config
      (if InventoryService.shortfalls config.inventory world.inventory job.order.items = [] then
        .reserved job.order else .rejected job.order)
      { world with inventory := writes.over world.inventory, nextUuid := next } := by
  have pending (unmarked : world.inventory (InventoryService.marker job.event.eventId) = none) :
      world.ledger.Pending .inventory job.event := ⟨emitted, by simp [ledger, processed, unmarked]⟩
  cases effect with
  | rejected unmarked shortfalls checked short eventId rowId drawn rowDrawn free =>
      rw [if_neg (fun none => short (checked.trans none))]
      simp only [Writes.put_over]
      refine .of_stages .inventory rowId (job.rejectedRow shortfalls eventId)
        ⟨free, outbox_inventory (fun id => ?_) _ _, rfl, later, rowDrawn.2, rfl, rfl⟩ traced
          fun emittedNow => ?_
      · simp [Store.set_other, stockWrites_over]
      · have step : world.ledger.Step config (.rejected job.order) _ :=
          .rejected next job (pending unmarked) shortfalls eventId drawn
        refine step.to { reservation := ?_, emitted := emittedNow, processed := ?_ }
        · funext id
          simp [ledger, Store.set_other, stockWrites_over]
        · apply processed_inventory
          rw [marked_set_row, marked_set_marker, marked_of_untouched fun _ => ?_]
          simp [stockWrites_over]
  | reserved unmarked checked unreserved reservationId eventId rowId drawn rowDrawn free =>
      rw [if_pos checked.symm]
      simp only [Writes.put_over]
      refine .of_stages .inventory rowId (job.reservedRow reservationId eventId)
        ⟨free, outbox_inventory (fun id => ?_) _ _, rfl, later, rowDrawn.2, rfl, rfl⟩ traced
          fun emittedNow => ?_
      · simp [Store.set_other, stockWrites_over]
      · have step : world.ledger.Step config (.reserved job.order) _ :=
          .reserved next job (pending unmarked) unreserved reservationId eventId drawn
        refine step.to { reservation := ?_, emitted := emittedNow, processed := ?_ }
        · funext id
          by_cases same : id = job.order.orderId
          · subst same
            simp [ledger, Store.set_other]
          · simp [ledger, Store.set_other, stockWrites_over, same]
        · apply processed_inventory
          rw [marked_set_row, marked_set_row, marked_set_marker, marked_of_untouched fun _ => ?_]
          simp [stockWrites_over]

theorem released_of_inactive {reservation : Reservation} (inactive : reservation.status ≠ .reserved) :
    reservation.release = reservation := by
  cases reservation with
  | mk id status items => cases status <;> first | rfl | exact absurd rfl inactive

theorem release_refines (traced : world.Traced) (event : EventEnvelope)
    {writes : Writes (TableKey InventoryService.Key) (TableRow InventoryService.Row)}
    (later : world.nextUuid ≤ next) (emitted : event ∈ world.ledger.emitted)
    (topic : event.eventType = .ordersCancelled)
    (effect : InventoryService.ReleaseEffect InventoryService.found event world.inventory writes) :
    world.Refines config .none
      { world with inventory := writes.over world.inventory, nextUuid := next } := by
  have pending (unmarked : world.inventory (InventoryService.marker event.eventId) = none) :
      world.ledger.Pending .inventory event := ⟨emitted, by simp [ledger, processed, unmarked]⟩
  cases effect with
  | skipped unmarked inactive =>
      simp only [Writes.put_over, Writes.none_over]
      refine .of_quiet ⟨?_, rfl, later⟩ traced fun emittedNow => ?_
      · funext other id
        cases other <;> simp [outbox, Store.set_other]
      · have step : world.ledger.Step config .none _ :=
          .released next later event (pending unmarked) topic
        refine step.to { reservation := ?_, emitted := emittedNow, processed := ?_ }
        · -- There was nothing to release.
          funext id
          by_cases same : id = event.orderId
          · subst same
            cases found : world.inventory (InventoryService.reservationKey event.orderId) with
            | none => simp [ledger, Store.set_other, found]
            | some reservation =>
                have released := released_of_inactive (inactive reservation found)
                simp [ledger, Store.set_other, found, released]
          · simp [ledger, Store.set_other, same]
        · exact processed_inventory _ (marked_set_marker ..)
  | released unmarked reservation active current found =>
      simp only [Writes.put_over]
      refine .of_quiet ⟨?_, rfl, later⟩ traced fun emittedNow => ?_
      · funext other id
        cases other <;> simp [outbox, Store.set_other, restoreWrites_over]
      · have step : world.ledger.Step config .none _ :=
          .released next later event (pending unmarked) topic
        refine step.to { reservation := ?_, emitted := emittedNow, processed := ?_ }
        · funext id
          by_cases same : id = event.orderId
          · subst same
            simp [ledger, EventEnvelope.orderId, found]
          · simp [ledger, Store.set_other, restoreWrites_over, same]
        · apply processed_inventory
          rw [marked_set_row, marked_set_marker, marked_of_untouched fun _ => ?_]
          simp [restoreWrites_over]

end Inventory

section Notifications

variable {world : World} {config : Config} {next : Uuid}

theorem processed_notifications (notifications : NotificationService.NotificationDb)
    {eventId : Uuid}
    (marked : Database.marked notifications NotificationService.consumer =
      insert eventId (Database.marked world.notifications NotificationService.consumer)) :
    ({ world with notifications, nextUuid := next } : World).ledger.processed =
      Function.update world.ledger.processed .notification
        (insert eventId (world.ledger.processed .notification)) := by
  funext service
  cases service <;> first | exact marked | rfl

theorem send_refines (traced : world.Traced) (event : EventEnvelope)
    {writes : Writes (TableKey NotificationService.Key) (TableRow NotificationService.Row)}
    (later : world.nextUuid ≤ next) (emitted : event ∈ world.ledger.emitted)
    (effect : NotificationService.SendEffect config.notifications event world.notifications writes) :
    world.Refines config .none
      { world with notifications := writes.over world.notifications, nextUuid := next } := by
  cases effect with
  | sent unmarked _ written asked unsent =>
      simp only [Writes.put_over, Writes.none_over]
      refine .of_quiet ⟨?_, rfl, later⟩ traced fun emittedNow => ?_
      · funext other id
        cases other <;> rfl
      · have step : world.ledger.Step config .none _ :=
          .notified next later event ⟨emitted, by simp [ledger, processed, unmarked]⟩ written.kind
            (NotificationService.kind_of_letter asked)
        refine step.to { notified := ?_, emitted := emittedNow, processed := ?_ }
        · funext id
          by_cases same : id = event.orderId
          · subst same
            ext other
            by_cases own : other = written.kind
            · subst own
              simp [ledger]
            · simp [ledger, Store.set_other, own]
          · ext other
            simp [ledger, Store.set_other, same]
        · apply processed_notifications
          simp only [marked_set_row, marked_set_marker]

end Notifications

section Relay

variable {world : World} {config : Config}

theorem publish_refines (traced : world.Traced) {producer : Producer} {rowId : Uuid}
    {row : OutboxEvent} (present : world.outbox producer rowId = some row) :
    world.Refines config .none { world with messages := world.messages ++ [row.message] } where
  traced :=
    { rows := fun other id found there =>
        let ⟨drawn, typed, published⟩ := traced.rows other id found there
        ⟨drawn, typed, fun marked => List.mem_append_left _ (published marked)⟩
      messages := fun message published => by
        rcases List.mem_append.mp published with earlier | latest
        · exact traced.messages message earlier
        · rw [List.mem_singleton.mp latest]
          exact ⟨⟨producer, rowId, row, present, rfl⟩, (traced.rows producer rowId row present).2.1⟩ }
  step := .idle world.nextUuid (Nat.le_refl _)

structure Marks (before after : World) (producer : Producer) (rowId : Uuid) (row : OutboxEvent)
    (now : Timestamp) : Prop where
  present : before.outbox producer rowId = some row
  outbox : ∀ other id, after.outbox other id =
    if other = producer ∧ id = rowId then some { row with publishedAt := some now }
    else before.outbox other id
  messages : after.messages = before.messages
  nextUuid : after.nextUuid = before.nextUuid

theorem Marks.emitted {after : World} {producer : Producer} {rowId : Uuid} {row : OutboxEvent}
    {now : Timestamp} (marks : world.Marks after producer rowId row now) :
    after.ledger.emitted = world.ledger.emitted := by
  ext event
  constructor
  · rintro ⟨other, id, found, there, about⟩
    rw [marks.outbox] at there
    split at there
    · cases there
      exact ⟨producer, rowId, row, marks.present, about⟩
    · exact ⟨other, id, found, there, about⟩
  · rintro ⟨other, id, found, there, about⟩
    by_cases same : other = producer ∧ id = rowId
    · obtain ⟨rfl, rfl⟩ := same
      cases marks.present.symm.trans there
      exact ⟨other, id, { row with publishedAt := some now }, by simp [marks.outbox], about⟩
    · exact ⟨other, id, found, by rw [marks.outbox, if_neg same, there], about⟩

theorem Marks.traced {after : World} {producer : Producer} {rowId : Uuid} {row : OutboxEvent}
    {now : Timestamp} (marks : world.Marks after producer rowId row now) (traced : world.Traced)
    (acknowledged : row.message ∈ world.messages) : after.Traced where
  rows other id found there := by
    rw [marks.messages, marks.nextUuid]
    rw [marks.outbox] at there
    split at there
    · next same =>
        cases there
        obtain ⟨drawn, typed, -⟩ := traced.rows producer rowId row marks.present
        exact ⟨same.2 ▸ drawn, typed, fun _ => acknowledged⟩
    · exact traced.rows other id found there
  messages message published := by
    rw [marks.messages] at published
    rw [marks.emitted]
    exact traced.messages message published

theorem Marks.refines {after : World} {producer : Producer} {rowId : Uuid} {row : OutboxEvent}
    {now : Timestamp} (marks : world.Marks after producer rowId row now) (traced : world.Traced)
    (acknowledged : row.message ∈ world.messages)
    (same : after.ledger = { world.ledger with emitted := after.ledger.emitted }) :
    world.Refines config .none after := by
  refine ⟨marks.traced traced acknowledged, ?_⟩
  rw [same, marks.emitted]
  exact .idle world.nextUuid (Nat.le_refl _)

theorem mark_marks {producer : Producer} {rowId : Uuid} {row : OutboxEvent}
    (present : world.outbox producer rowId = some row) (now : Timestamp) :
    world.Marks (world.mark rowId now producer) producer rowId row now ∧
      (world.mark rowId now producer).ledger =
        { world.ledger with emitted := (world.mark rowId now producer).ledger.emitted } := by
  cases producer with
  | order =>
      have ran := update_transaction (V := OrderService.Row) (.outboxEvent rowId)
        (fun (row : OutboxEvent) => { row with publishedAt := some now }) present world.nextUuid
      have marked : world.mark rowId now .order = { world with
          orders := Store.set world.orders (OrderService.outboxKey rowId)
            { row with publishedAt := some now } } := by
        simp only [mark, onOrders, OrderService.markPublished, markPublishedAs]
        rw [ran]
        rfl
      rw [marked]
      exact ⟨⟨present, outbox_orders (fun _ => rfl) _ _, rfl, rfl⟩, rfl⟩
  | payment =>
      have ran := update_transaction (V := PaymentService.Row) (.outboxEvent rowId)
        (fun (row : OutboxEvent) => { row with publishedAt := some now }) present world.nextUuid
      have marked : world.mark rowId now .payment = { world with
          payments := Store.set world.payments (PaymentService.outboxKey rowId)
            { row with publishedAt := some now } } := by
        simp only [mark, onPayments, PaymentService.markPublished, markPublishedAs]
        rw [ran]
        rfl
      rw [marked]
      exact ⟨⟨present, outbox_payments (fun _ => rfl) _ _, rfl, rfl⟩, rfl⟩
  | inventory =>
      have ran := update_transaction (V := InventoryService.Row) (.outboxEvent rowId)
        (fun (row : OutboxEvent) => { row with publishedAt := some now }) present world.nextUuid
      have marked : world.mark rowId now .inventory = { world with
          inventory := Store.set world.inventory (InventoryService.outboxKey rowId)
            { row with publishedAt := some now } } := by
        simp only [mark, onInventory, InventoryService.markPublished, markPublishedAs]
        rw [ran]
        rfl
      rw [marked]
      exact ⟨⟨present, outbox_inventory (fun _ => rfl) _ _, rfl, rfl⟩, rfl⟩

theorem mark_refines (traced : world.Traced) {producer : Producer} {rowId : Uuid}
    {row : OutboxEvent} (present : world.outbox producer rowId = some row)
    (acknowledged : row.message ∈ world.messages) (now : Timestamp) :
    world.Refines config .none (world.mark rowId now producer) := by
  obtain ⟨marks, same⟩ := mark_marks present now
  exact marks.refines traced acknowledged same

end Relay

section Delivery

variable {world : World} {config : Config} {message : Message} {now : Timestamp}
variable {fault : Fault TxError}

theorem orderCreated_of_topic {payload : Payload} (topic : payload.topic = .ordersCreated) :
    ∃ order, payload = .orderCreated order := by
  cases payload <;> first | exact ⟨_, rfl⟩ | cases topic

theorem saga_route {topic : Topic} {payload : Payload}
    {handler : Timestamp → EventEnvelope →
      Prog (TableKey OrderService.Key) (TableRow OrderService.Row) TxError Unit}
    (route : OrderService.routes topic = some handler) (typed : payload.topic = topic) :
    ∃ leg outcome, payload.outcome = some (leg, outcome) ∧
      handler = OrderService.handleOutcome leg outcome := by
  subst typed
  cases payload <;> cases route <;> exact ⟨_, _, rfl, rfl⟩

theorem Traced.message_typed (traced : world.Traced) (sound : world.ledger.Sound config)
    (published : message ∈ world.messages) :
    message.event ∈ world.ledger.emitted ∧ message.event.eventType = message.topic ∧
      message.event.payload.topic = message.topic := by
  obtain ⟨emitted, typed⟩ := traced.messages message published
  exact ⟨emitted, typed.symm, (sound.typed _ emitted).symm.trans typed.symm⟩

/-- What a step can do to a world whose messages come from its outboxes. -/
inductive Moves (config : Config) (world : World) : Ledger.Decision → World → Prop
  | stays : Moves config world .none world
  | created (request : Request) {next : Uuid}
      {writes : Writes (TableKey OrderService.Key) (TableRow OrderService.Row)}
      (later : world.nextUuid ≤ next)
      (effect : OrderService.CreateEffect config.orders (between world.nextUuid next) request
        world.orders writes) :
      Moves config world .none
        { world with orders := writes.over world.orders, nextUuid := next }
  | outcome (delivery : Delivery) {next : Uuid}
      {writes : Writes (TableKey OrderService.Key) (TableRow OrderService.Row)}
      (later : world.nextUuid ≤ next) (emitted : delivery.event ∈ world.ledger.emitted)
      (reports : delivery.event.payload.outcome = some (delivery.leg, delivery.outcome))
      (effect : OrderService.OutcomeEffect (OrderService.alone (between world.nextUuid next)) delivery
        world.orders writes) :
      Moves config world .none
        { world with orders := writes.over world.orders, nextUuid := next }
  | charged (job : Charging) {next : Uuid}
      {writes : Writes (TableKey PaymentService.Key) (TableRow PaymentService.Row)}
      (later : world.nextUuid ≤ next) (emitted : job.event ∈ world.ledger.emitted)
      (effect : PaymentService.ChargeEffect config.payments (between world.nextUuid next) job
        world.payments writes) :
      Moves config world .none
        { world with payments := writes.over world.payments, nextUuid := next }
  | reserved (job : Reserving) {next : Uuid}
      {writes : Writes (TableKey InventoryService.Key) (TableRow InventoryService.Row)}
      (later : world.nextUuid ≤ next) (emitted : job.event ∈ world.ledger.emitted)
      (effect : InventoryService.ReserveEffect config.inventory
        (InventoryService.alone config.inventory (between world.nextUuid next)) job world.inventory
          writes) :
      Moves config world
        (if InventoryService.shortfalls config.inventory world.inventory job.order.items = [] then
          .reserved job.order else .rejected job.order)
        { world with inventory := writes.over world.inventory, nextUuid := next }
  | released (event : EventEnvelope) {next : Uuid}
      {writes : Writes (TableKey InventoryService.Key) (TableRow InventoryService.Row)}
      (later : world.nextUuid ≤ next) (emitted : event ∈ world.ledger.emitted)
      (topic : event.eventType = .ordersCancelled)
      (effect : InventoryService.ReleaseEffect InventoryService.found event world.inventory writes) :
      Moves config world .none
        { world with inventory := writes.over world.inventory, nextUuid := next }
  | sent (event : EventEnvelope) {next : Uuid}
      {writes : Writes (TableKey NotificationService.Key) (TableRow NotificationService.Row)}
      (later : world.nextUuid ≤ next) (emitted : event ∈ world.ledger.emitted)
      (effect : NotificationService.SendEffect config.notifications event world.notifications writes) :
      Moves config world .none
        { world with notifications := writes.over world.notifications, nextUuid := next }
  | published (producer : Producer) (rowId : Uuid) (row : OutboxEvent)
      (present : world.outbox producer rowId = some row) :
      Moves config world .none { world with messages := world.messages ++ [row.message] }
  | marked (producer : Producer) (rowId : Uuid) (row : OutboxEvent) (now : Timestamp)
      (present : world.outbox producer rowId = some row)
      (acknowledged : row.message ∈ world.messages) :
      Moves config world .none (world.mark rowId now producer)

theorem deliver_order_moves (traced : world.Traced) (sound : world.ledger.Sound config)
    (published : message ∈ world.messages)
    {handler : Timestamp → EventEnvelope →
      Prog (TableKey OrderService.Key) (TableRow OrderService.Row) TxError Unit}
    (route : OrderService.routes message.topic = some handler) :
    world.Moves config .none (world.onOrders fault (handler now message.event)) := by
  obtain ⟨emitted, -, typed⟩ := traced.message_typed sound published
  obtain ⟨leg, outcome, reports, rfl⟩ := saga_route route typed
  unfold onOrders
  rcases commit_cases world (fun orders => { world with orders }) ((OrderService.handleOutcome leg
    outcome now message.event).transaction fault world.orders world.nextUuid) with
    same | ⟨orders, next, ran, same⟩
  · rw [same]
    exact .stays
  · rw [same]
    let delivery : Delivery := { event := message.event, leg, outcome, now }
    obtain ⟨writes, effect, rfl⟩ := delivery.transaction_effect ran
    exact .outcome delivery (Prog.transaction_supply ran) emitted reports effect

theorem deliver_payment_moves (traced : world.Traced) (sound : world.ledger.Sound config)
    (published : message ∈ world.messages)
    {handler : Timestamp → EventEnvelope →
      Prog (TableKey PaymentService.Key) (TableRow PaymentService.Row) TxError Unit}
    (route : PaymentService.routes config.payments message.topic = some handler) :
    world.Moves config .none (world.onPayments fault (handler now message.event)) := by
  obtain ⟨emitted, -, typed⟩ := traced.message_typed sound published
  cases topic : message.topic <;> rw [topic] at route <;> cases route
  obtain ⟨order, created⟩ := orderCreated_of_topic (typed.trans topic)
  unfold onPayments
  rcases commit_cases world (fun payments => { world with payments })
    ((PaymentService.onOrderCreated config.payments now message.event).transaction fault
      world.payments world.nextUuid) with same | ⟨payments, next, ran, same⟩
  · rw [same]
    exact .stays
  · rw [same]
    let job : Charging := { event := message.event, order, now, created }
    obtain ⟨writes, effect, rfl⟩ := job.transaction_effect config.payments ran
    exact .charged job (Prog.transaction_supply ran) emitted effect

theorem deliver_notification_moves (traced : world.Traced)
    (published : message ∈ world.messages)
    {handler : Timestamp → EventEnvelope →
      Prog (TableKey NotificationService.Key) (TableRow NotificationService.Row) TxError Unit}
    (route : NotificationService.routes config.notifications message.topic = some handler) :
    world.Moves config .none (world.onNotifications fault (handler now message.event)) := by
  obtain ⟨emitted, -⟩ := traced.messages message published
  unfold onNotifications
  rcases commit_cases world (fun notifications => { world with notifications })
    ((handler now message.event).transaction fault world.notifications world.nextUuid) with
    same | ⟨notifications, next, ran, same⟩
  · rw [same]
    exact .stays
  · rw [same]
    obtain ⟨writes, effect, rfl⟩ := NotificationService.send_transaction_effect route ran
    exact .sent message.event (Prog.transaction_supply ran) emitted effect

theorem deliver_inventory_moves (traced : world.Traced) (sound : world.ledger.Sound config)
    (published : message ∈ world.messages)
    {handler : Timestamp → EventEnvelope →
      Prog (TableKey InventoryService.Key) (TableRow InventoryService.Row) TxError Unit}
    (route : InventoryService.routes config.inventory message.topic = some handler) :
    world.Moves config (world.decision config (.deliver .inventory message now fault))
      (world.onInventory fault (handler now message.event)) := by
  obtain ⟨emitted, eventType, typed⟩ := traced.message_typed sound published
  cases topic : message.topic <;> rw [topic] at route <;> cases route
  case ordersCreated =>
    obtain ⟨order, created⟩ := orderCreated_of_topic (typed.trans topic)
    simp only [decision, topic, created, onInventory]
    cases ran : (InventoryService.onOrderCreated config.inventory now message.event).transaction fault
      world.inventory world.nextUuid with
    | error => exact .stays
    | ok result =>
        let job : Reserving := { event := message.event, order, now, created }
        obtain ⟨writes, effect, same⟩ := job.transaction_effect config.inventory ran
        have moves := Moves.reserved job (Prog.transaction_supply ran) emitted effect
        rw [← same] at moves
        exact moves
  case ordersCancelled =>
    simp only [decision, topic, onInventory]
    cases ran : (InventoryService.onOrderCancelled message.event).transaction fault world.inventory
      world.nextUuid with
    | error => exact .stays
    | ok result =>
        obtain ⟨writes, effect, same⟩ := InventoryService.release_transaction_effect message.event ran
        have moves : world.Moves config .none _ :=
          .released message.event (Prog.transaction_supply ran) emitted (eventType.trans topic) effect
        rw [← same] at moves
        exact moves

end Delivery

theorem step_moves {config : Config} {world next : World} {action : Action} (traced : world.Traced)
    (sound : world.ledger.Sound config) (stepped : world.step config action = some next) :
    world.Moves config (world.decision config action) next := by
  cases action with
  | createOrder request fault =>
      cases stepped
      unfold onOrders
      rcases commit_cases world (fun orders => { world with orders })
        ((request.body config.orders).transaction fault world.orders world.nextUuid) with
        same | ⟨orders, next, ran, same⟩
      · rw [same]
        exact .stays
      · rw [same]
        obtain ⟨writes, effect, rfl⟩ := request.transaction_effect config.orders ran
        exact .created request (Prog.transaction_supply ran) effect
  | publish producer rowId =>
      obtain ⟨row, present, rfl⟩ := Option.map_eq_some_iff.mp stepped
      exact .published producer rowId row present
  | mark producer rowId now =>
      simp only [step] at stepped
      split at stepped
      · next row present =>
          split at stepped
          · next acknowledged =>
              cases stepped
              exact .marked producer rowId row now present acknowledged
          · cases stepped
      · cases stepped
  | deliver service message now fault =>
      simp only [step] at stepped
      split at stepped
      · next published =>
          cases service <;> obtain ⟨handler, route, rfl⟩ := Option.map_eq_some_iff.mp stepped
          · exact deliver_order_moves traced sound published route
          · exact deliver_payment_moves traced sound published route
          · exact deliver_inventory_moves traced sound published route
          · exact deliver_notification_moves traced published route
      · cases stepped

theorem step_refines {config : Config} {world next : World} {action : Action} (traced : world.Traced)
    (sound : world.ledger.Sound config) (stepped : world.step config action = some next) :
    world.Refines config (world.decision config action) next := by
  have moves := step_moves traced sound stepped
  generalize world.decision config action = decision at moves ⊢
  cases moves with
  | stays => exact .idle traced
  | created request later effect => exact create_refines traced request later effect
  | outcome delivery later emitted reports effect =>
      exact outcome_refines traced delivery later emitted reports effect
  | charged job later emitted effect => exact charge_refines traced job later emitted effect
  | reserved job later emitted effect => exact reserve_refines traced job later emitted effect
  | released event later emitted topic effect =>
      exact release_refines traced event later emitted topic effect
  | sent event later emitted effect => exact send_refines traced event later emitted effect
  | published producer rowId row present => exact publish_refines traced present
  | marked producer rowId row now present acknowledged =>
      exact mark_refines traced present acknowledged now

structure Sound (config : Config) (world : World) : Prop where
  traced : world.Traced
  ledger : world.ledger.Sound config

theorem Sound.step {config : Config} {world next : World} {action : Action}
    (sound : world.Sound config) (stepped : world.step config action = some next) :
    next.Sound config :=
  let refines := step_refines sound.traced sound.ledger stepped
  ⟨refines.traced, refines.step.sound sound.ledger⟩

theorem initial_silent (products : Uuid → Option InventoryService.Product) (event : EventEnvelope) :
    event ∉ (initial products).ledger.emitted := by
  rintro ⟨producer, rowId, row, present, -⟩
  cases producer <;> cases present

theorem initial_sound (config : Config) (products : Uuid → Option InventoryService.Product) :
    (initial products).Sound config := by
  have unprocessed (service : Service) (eventId : Uuid) :
      eventId ∉ (initial products).ledger.processed service := by
    cases service <;> exact Bool.false_ne_true
  refine ⟨⟨fun producer _ _ present => ?_, fun _ published => nomatch published⟩, ?_⟩
  · cases producer <;> cases present
  · constructor
    case processed => exact fun service eventId processed => absurd processed (unprocessed _ _)
    case total | announced | legs | decided | terminal | paid | stocked =>
      exact fun _ _ found => nomatch found
    case told => exact fun _ _ told => absurd rfl told
    all_goals exact fun event emitted => absurd emitted (initial_silent products event)

theorem run_sound {config : Config} {products : Uuid → Option InventoryService.Product}
    {actions : List Action} {world : World}
    (ran : Machine.run (step config) (initial products) actions = some world) : world.Sound config :=
  Machine.run_invariant _ (fun _ _ _ sound stepped => sound.step stepped)
    (initial_sound config products) ran

end World

end Ecommerce
