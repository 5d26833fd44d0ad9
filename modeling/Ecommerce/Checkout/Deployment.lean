import Ecommerce.Checkout.Traceability
import Ecommerce.Outbox.AtLeastOnce

set_option autoImplicit false

/-!
# The system with its relay processes

The databases of the system, and relay processes beside each of the three outboxes. What a relay
publishes and marks is what it has read, however old that is by then.
-/

namespace Ecommerce

open OrderService (Request)

structure Deployment where
  world : World
  outboxes : Producer → Outbox.State

namespace Outbox

def Action.stages : Action → Bool
  | .enqueue _ _ _ _ _ => true
  | _ => false

/-- The request that is served in a step. -/
def State.answered (state : State) : Action → Option Outbox.Request
  | .progress relay drain (.acknowledged _) | .progress relay drain .updated =>
      (state.relays relay).drains[drain]?.bind Drain.pending
  | .arrive index => state.adrift[index]?
  | _ => none

def State.answer (state : State) : Option Outbox.Request → State
  | some request => state.serve request
  | none => state

end Outbox

/-- The rows that a transaction has staged. -/
def World.stagedRows (before after : World) (producer : Producer) : List Outbox.StoredEvent :=
  (List.range after.nextUuid).filterMap fun id =>
    match before.outbox producer id, after.outbox producer id with
    | none, some row => some { id, row }
    | _, _ => none

def World.serve (world : World) (producer : Producer) : Outbox.Request → World
  | .publish stored => { world with messages := world.messages ++ [stored.row.message] }
  | .update rowId now => world.mark rowId now producer

def World.answer (world : World) (producer : Producer) : Option Outbox.Request → World
  | some request => world.serve producer request
  | none => world

namespace Deployment

inductive Action where
  | createOrder (request : Request) (fault : Transaction.Fault TxError)
  | deliver (service : Service) (message : Message) (now : Timestamp)
      (fault : Transaction.Fault TxError)
  | relay (producer : Producer) (action : Outbox.Action)

def initial (products : Uuid → Option InventoryService.Product) : Deployment :=
  { world := .initial products, outboxes := fun _ => .initial }

def commit (deployment : Deployment) (world : World) : Deployment :=
  { world
    outboxes := fun producer =>
      { deployment.outboxes producer with
        table := (deployment.outboxes producer).table ++
          deployment.world.stagedRows world producer } }

def step (config : Config) (batchSize : Producer → Nat) (deployment : Deployment) :
    Action → Option Deployment
  | .createOrder request fault =>
      (deployment.world.step config (.createOrder request fault)).map deployment.commit
  | .deliver service message now fault =>
      (deployment.world.step config (.deliver service message now fault)).map deployment.commit
  | .relay producer action =>
      -- Only transactions stage rows.
      if action.stages then none
      else
        let outbox := deployment.outboxes producer
        (outbox.step (batchSize producer) action).map fun next =>
          { world := deployment.world.answer producer (outbox.answered action)
            outboxes := Function.update deployment.outboxes producer next }

end Deployment

namespace World

section Commits

variable {world : World} {config : Config} {next : Uuid}

/-- A transaction stages a row with a new event, or none. -/
inductive Commits (before after : World) : Prop
  | quiet (quiet : before.Quiet after)
  | stages (producer : Producer) (rowId : Uuid) (row : OutboxEvent)
      (stages : before.Stages after producer rowId row)
      (fresh : before.nextUuid ≤ row.payload.eventId)

theorem Commits.refl (world : World) : world.Commits world :=
  .quiet ⟨rfl, rfl, Nat.le_refl _⟩

theorem create_commits (request : Request)
    {writes : Transaction.Writes (TableKey OrderService.Key) (TableRow OrderService.Row)}
    (later : world.nextUuid ≤ next)
    (effect : OrderService.CreateEffect config.orders (between world.nextUuid next) request
      world.orders writes) :
    world.Commits { world with orders := writes.over world.orders, nextUuid := next } := by
  cases effect with
  | created unclaimed orderId correlationId eventId rowId _ eventDrawn rowDrawn unknown free =>
      simp only [Transaction.Writes.put_over, Transaction.Writes.none_over]
      refine .stages .order rowId (request.createdRow orderId correlationId eventId)
        ⟨free, outbox_orders (fun id => ?_) _ _, rfl, later, rowDrawn.2, rfl, rfl⟩ eventDrawn.1
      simp [Transaction.Store.set_other]

theorem outcome_commits (delivery : OrderService.Delivery)
    {writes : Transaction.Writes (TableKey OrderService.Key) (TableRow OrderService.Row)}
    (later : world.nextUuid ≤ next)
    (effect : OrderService.OutcomeEffect (OrderService.alone (between world.nextUuid next)) delivery
      world.orders writes) :
    world.Commits { world with orders := writes.over world.orders, nextUuid := next } := by
  cases effect with
  | skipped | recorded =>
      simp only [Transaction.Writes.put_over, Transaction.Writes.none_over]
      refine .quiet ⟨?_, rfl, later⟩
      funext other id
      cases other <;> simp [outbox, Transaction.Store.set_other]
  | settled unmarked order found unsettled status decided eventId rowId drawn rowDrawn free =>
      simp only [Transaction.Writes.put_over, Transaction.Writes.none_over]
      refine .stages .order rowId (OrderService.terminalRow delivery.now delivery.orderId
        (delivery.record order) status eventId)
        ⟨free, outbox_orders (fun id => ?_) _ _, rfl, later, rowDrawn.2, rfl, rfl⟩ drawn.1
      simp [Transaction.Store.set_other]

theorem charge_commits (job : PaymentService.Charging)
    {writes : Transaction.Writes (TableKey PaymentService.Key) (TableRow PaymentService.Row)}
    (later : world.nextUuid ≤ next)
    (effect : PaymentService.ChargeEffect config.payments (between world.nextUuid next) job
      world.payments writes) :
    world.Commits { world with payments := writes.over world.payments, nextUuid := next } := by
  cases effect with
  | charged unmarked uncharged paymentId eventId rowId eventDrawn rowDrawn free =>
      simp only [Transaction.Writes.put_over, Transaction.Writes.none_over]
      refine .stages .payment rowId (outboxRow "Payment" job.now (job.topic config.payments)
        (job.outcome config.payments paymentId eventId))
        ⟨free, outbox_payments (fun id => ?_) _ _, rfl, later, rowDrawn.2, rfl, rfl⟩ eventDrawn.1
      simp [Transaction.Store.set_other]

theorem reserve_commits (job : InventoryService.Reserving)
    {writes : Transaction.Writes (TableKey InventoryService.Key) (TableRow InventoryService.Row)}
    (later : world.nextUuid ≤ next)
    (effect : InventoryService.ReserveEffect config.inventory
      (InventoryService.alone config.inventory (between world.nextUuid next)) job world.inventory
        writes) :
    world.Commits { world with inventory := writes.over world.inventory, nextUuid := next } := by
  cases effect with
  | rejected unmarked shortfalls checked short eventId rowId drawn rowDrawn free =>
      simp only [Transaction.Writes.put_over]
      refine .stages .inventory rowId (job.rejectedRow shortfalls eventId)
        ⟨free, outbox_inventory (fun id => ?_) _ _, rfl, later, rowDrawn.2, rfl, rfl⟩ drawn.1
      simp [Transaction.Store.set_other, stockWrites_over]
  | reserved unmarked checked unreserved reservationId eventId rowId drawn rowDrawn free =>
      simp only [Transaction.Writes.put_over]
      refine .stages .inventory rowId (job.reservedRow reservationId eventId)
        ⟨free, outbox_inventory (fun id => ?_) _ _, rfl, later, rowDrawn.2, rfl, rfl⟩ drawn.1
      simp [Transaction.Store.set_other, stockWrites_over]

theorem release_commits (event : EventEnvelope)
    {writes : Transaction.Writes (TableKey InventoryService.Key) (TableRow InventoryService.Row)}
    (later : world.nextUuid ≤ next)
    (effect : InventoryService.ReleaseEffect InventoryService.found event world.inventory writes) :
    world.Commits { world with inventory := writes.over world.inventory, nextUuid := next } := by
  refine .quiet ⟨?_, rfl, later⟩
  funext other id
  cases effect with
  | skipped => cases other <;> simp [outbox, Transaction.Store.set_other]
  | released => cases other <;> simp [outbox, Transaction.Store.set_other, restoreWrites_over]

theorem createOrder_commits (request : Request) (fault : Transaction.Fault TxError) :
    world.Commits (world.onOrders fault (request.body config.orders)) := by
  unfold onOrders
  rcases commit_cases world (fun orders => { world with orders })
    ((request.body config.orders).transaction fault world.orders world.nextUuid) with
    same | ⟨orders, next, ran, same⟩
  · rw [same]
    exact .refl world
  · rw [same]
    obtain ⟨writes, effect, rfl⟩ := request.transaction_effect config.orders ran
    exact create_commits request (Transaction.Prog.transaction_supply ran) effect

theorem deliver_commits (sound : world.Sound config) {message : Message} {now : Timestamp}
    {fault : Transaction.Fault TxError} {service : Service} {after : World}
    (published : message ∈ world.messages)
    (delivered : world.deliver config message now fault service = some after) :
    world.Commits after := by
  obtain ⟨emitted, -, typed⟩ := sound.traced.message_typed sound.ledger published
  cases service with
  | order =>
      obtain ⟨handler, route, rfl⟩ := Option.map_eq_some_iff.mp delivered
      obtain ⟨leg, outcome, -, rfl⟩ := saga_route route typed
      unfold onOrders
      rcases commit_cases world (fun orders => { world with orders }) ((OrderService.handleOutcome leg
        outcome now message.event).transaction fault world.orders world.nextUuid) with
        same | ⟨orders, next, ran, same⟩
      · rw [same]
        exact .refl world
      · rw [same]
        let delivery : OrderService.Delivery := { event := message.event, leg, outcome, now }
        obtain ⟨writes, effect, rfl⟩ := delivery.transaction_effect ran
        exact outcome_commits delivery (Transaction.Prog.transaction_supply ran) effect
  | payment =>
      obtain ⟨handler, route, rfl⟩ := Option.map_eq_some_iff.mp delivered
      cases topic : message.topic <;> rw [topic] at route <;> cases route
      obtain ⟨order, created⟩ := orderCreated_of_topic (typed.trans topic)
      unfold onPayments
      rcases commit_cases world (fun payments => { world with payments })
        ((PaymentService.onOrderCreated config.payments now message.event).transaction fault
          world.payments world.nextUuid) with same | ⟨payments, next, ran, same⟩
      · rw [same]
        exact .refl world
      · rw [same]
        let job : PaymentService.Charging := { event := message.event, order, now, created }
        obtain ⟨writes, effect, rfl⟩ := job.transaction_effect config.payments ran
        exact charge_commits job (Transaction.Prog.transaction_supply ran) effect
  | inventory =>
      obtain ⟨handler, route, rfl⟩ := Option.map_eq_some_iff.mp delivered
      unfold onInventory
      rcases commit_cases world (fun inventory => { world with inventory })
        ((handler now message.event).transaction fault world.inventory world.nextUuid) with
        same | ⟨inventory, next, ran, same⟩
      · rw [same]
        exact .refl world
      · rw [same]
        cases topic : message.topic <;> rw [topic] at route <;> cases route
        · obtain ⟨order, created⟩ := orderCreated_of_topic (typed.trans topic)
          let job : InventoryService.Reserving := { event := message.event, order, now, created }
          obtain ⟨writes, effect, rfl⟩ := job.transaction_effect config.inventory ran
          exact reserve_commits job (Transaction.Prog.transaction_supply ran) effect
        · obtain ⟨writes, effect, rfl⟩ :=
            InventoryService.release_transaction_effect message.event ran
          exact release_commits message.event (Transaction.Prog.transaction_supply ran) effect
  | notification =>
      obtain ⟨handler, route, rfl⟩ := Option.map_eq_some_iff.mp delivered
      unfold onNotifications
      rcases commit_cases world (fun notifications => { world with notifications })
        ((handler now message.event).transaction fault world.notifications world.nextUuid) with
        same | ⟨notifications, next, ran, same⟩
      · rw [same]
        exact .refl world
      · rw [same]
        refine .quiet ⟨?_, rfl, Transaction.Prog.transaction_supply ran⟩
        funext other id
        cases other <;> rfl

end Commits

section Staged

variable {before after : World} {producer : Producer} {rowId : Uuid} {row : OutboxEvent}

theorem mem_stagedRows {stored : Outbox.StoredEvent} :
    stored ∈ before.stagedRows after producer ↔ stored.id < after.nextUuid ∧
      before.outbox producer stored.id = none ∧
      after.outbox producer stored.id = some stored.row := by
  unfold stagedRows
  rw [List.mem_filterMap]
  constructor
  · rintro ⟨id, inside, staged⟩
    split at staged
    · next free present =>
        cases staged
        exact ⟨List.mem_range.mp inside, free, present⟩
    · cases staged
  · rintro ⟨inside, free, present⟩
    exact ⟨stored.id, List.mem_range.mpr inside, by simp [free, present]⟩

theorem Quiet.stagedRows (quiet : before.Quiet after) : before.stagedRows after producer = [] := by
  apply List.eq_nil_iff_forall_not_mem.mpr
  intro stored member
  obtain ⟨-, free, present⟩ := mem_stagedRows.mp member
  rw [quiet.outbox, free] at present
  cases present

theorem filterMap_range_single {A : Type} (f : Nat → Option A) (size index : Nat) (value : A)
    (inside : index < size) (only : ∀ other, other ≠ index → f other = none)
    (found : f index = some value) : (List.range size).filterMap f = [value] := by
  induction size with
  | zero => omega
  | succ size ih =>
      rw [List.range_succ, List.filterMap_append]
      by_cases last : index = size
      · subst last
        have earlier : (List.range index).filterMap f = [] := by
          apply List.filterMap_eq_nil_iff.mpr
          intro other member
          exact only other (by have := List.mem_range.mp member; omega)
        simp [earlier, found]
      · rw [ih (by omega)]
        simp [only size (Ne.symm last)]

theorem Stages.stagedRows (stages : before.Stages after producer rowId row) :
    before.stagedRows after producer = [{ id := rowId, row }] ∧
      ∀ other, other ≠ producer → before.stagedRows after other = [] := by
  constructor
  · apply filterMap_range_single _ _ rowId _ stages.drawn
    · intro id apart
      rw [stages.outbox, if_neg (by simp [apart])]
      cases before.outbox producer id <;> rfl
    · simp [stages.free, stages.outbox]
  · intro other apart
    apply List.eq_nil_iff_forall_not_mem.mpr
    intro stored member
    obtain ⟨-, free, present⟩ := mem_stagedRows.mp member
    rw [stages.outbox, if_neg (by simp [apart]), free] at present
    cases present

end Staged

end World

namespace Outbox

section Answers

variable {batchSize : Nat} {state next : State} {action : Action}

/-- A relay changes the table and the broker by the request that is served, and by nothing else. -/
theorem State.step_answered (relays : action.stages = false)
    (taken : state.step batchSize action = some next) :
    next.table = (state.answer (state.answered action)).table ∧
      next.broker = (state.answer (state.answered action)).broker := by
  cases action with
  | enqueue => cases relays
  | tick | stop | crash =>
      cases taken
      exact ⟨rfl, rfl⟩
  | progress relay drain progress =>
      simp only [State.step] at taken
      split at taken
      · next awaited found =>
          unfold State.proceed at taken
          split at taken
          · split at taken
            · cases taken
              exact ⟨rfl, rfl⟩
            · cases taken
          · cases taken
            simp [State.answered, State.answer, found, Drain.pending, State.serve, State.resume]
          · cases taken
            simp [State.answered, State.answer, found, Drain.pending, State.serve, State.resume]
          · cases taken
            exact ⟨rfl, rfl⟩
          · cases taken
      · cases taken
  | arrive index =>
      simp only [State.step] at taken
      split at taken
      · next request found =>
          cases taken
          simp [State.answered, State.answer, found]
      · cases taken

theorem State.answered_sound (consistent : state.Consistent) {request : Request}
    (answered : state.answered action = some request) :
    request.Sound state.table state.broker := by
  unfold State.answered at answered
  split at answered
  · obtain ⟨drain, found, pending⟩ := Option.bind_eq_some_iff.mp answered
    exact (consistent.drains _ drain (List.mem_of_getElem? found)).pending pending
  · obtain ⟨drain, found, pending⟩ := Option.bind_eq_some_iff.mp answered
    exact (consistent.drains _ drain (List.mem_of_getElem? found)).pending pending
  · exact consistent.adrift request (List.mem_of_getElem? answered)
  · cases answered

end Answers

end Outbox

namespace Deployment

open World

/-- The outboxes are those of the databases, and their brokers are one. -/
structure Coupled (deployment : Deployment) : Prop where
  rows : ∀ producer rowId row, deployment.world.outbox producer rowId = some row ↔
    { id := rowId, row } ∈ (deployment.outboxes producer).table
  messages : ∀ message, message ∈ deployment.world.messages ↔
    ∃ producer, ∃ acknowledgement ∈ (deployment.outboxes producer).broker,
      acknowledgement.message = message
  consistent : ∀ producer, (deployment.outboxes producer).Consistent

section Steps

variable {config : Config} {deployment next : Deployment}

theorem outboxRow_of_traced {row : OutboxEvent} {order : OrderService.Order}
    (traced : row.TracedTo order) (unpublished : row.publishedAt = none) :
    row = outboxRow row.aggregateType row.createdAt row.topic row.payload := by
  obtain ⟨aggregateId, partitionKey, ⟨eventType, payloadType⟩, event⟩ := traced
  have about := event.aggregateId
  cases row
  simp_all [outboxRow]

theorem Coupled.commit (coupled : deployment.Coupled) {world : World}
    (commits : deployment.world.Commits world) : (deployment.commit world).Coupled := by
  cases commits with
  | quiet quiet =>
      have same (producer : Producer) : deployment.world.stagedRows world producer = [] :=
        quiet.stagedRows
      refine ⟨fun producer rowId row => ?_, fun message => ?_, fun producer => ?_⟩
      · simp only [Deployment.commit, same, List.append_nil, quiet.outbox]
        exact coupled.rows producer rowId row
      · simp only [Deployment.commit, quiet.messages]
        exact coupled.messages message
      · simp only [Deployment.commit, same, List.append_nil]
        exact coupled.consistent producer
  | stages producer rowId row stages =>
      obtain ⟨own, others⟩ := stages.stagedRows
      refine ⟨fun other id found => ?_, fun message => ?_, fun other => ?_⟩
      · simp only [Deployment.commit, stages.outbox, List.mem_append]
        by_cases same : other = producer
        · subst same
          rw [own, ← coupled.rows]
          by_cases here : id = rowId
          · subst here
            simp [stages.free, eq_comm]
          · simp [here]
        · rw [others other same, ← coupled.rows]
          simp [same]
      · simp only [Deployment.commit, stages.messages]
        exact coupled.messages message
      · by_cases same : other = producer
        · subst same
          simp only [Deployment.commit, own]
          refine (coupled.consistent other).enqueue ?_ stages.unpublished
          intro listed
          obtain ⟨stored, present, sameId⟩ := List.mem_map.mp listed
          have there := (coupled.rows other stored.id stored.row).mpr present
          rw [sameId, stages.free] at there
          cases there
        · simp only [Deployment.commit, others other same, List.append_nil]
          exact coupled.consistent other

theorem serve_publish_outbox (world : World) (producer : Producer) (row : Outbox.StoredEvent) :
    (world.serve producer (.publish row)).outbox = world.outbox := by
  funext other
  cases other <;> rfl

/-- The deployment after a request of a relay has been served. -/
def served (deployment : Deployment) (producer : Producer) (request : Outbox.Request)
    (after : Outbox.State) : Deployment :=
  { world := deployment.world.serve producer request
    outboxes := Function.update deployment.outboxes producer after }

theorem Coupled.consistent_update (coupled : deployment.Coupled) {producer : Producer}
    {after : Outbox.State} (consistent : after.Consistent) (other : Producer) :
    (Function.update deployment.outboxes producer after other).Consistent := by
  by_cases same : other = producer
  · subst same
    simpa using consistent
  · simpa [same] using coupled.consistent other

theorem Coupled.unanswered (coupled : deployment.Coupled) {producer : Producer}
    {after : Outbox.State} (table : after.table = (deployment.outboxes producer).table)
    (broker : after.broker = (deployment.outboxes producer).broker) (consistent : after.Consistent) :
    Coupled { deployment with
      outboxes := Function.update deployment.outboxes producer after } := by
  have same (other : Producer) :
      (Function.update deployment.outboxes producer after other).table =
          (deployment.outboxes other).table ∧
        (Function.update deployment.outboxes producer after other).broker =
          (deployment.outboxes other).broker := by
    by_cases own : other = producer
    · subst own
      rw [Function.update_self]
      exact ⟨table, broker⟩
    · rw [Function.update_of_ne own]
      exact ⟨rfl, rfl⟩
  refine ⟨fun other rowId row => ?_, fun message => ?_, coupled.consistent_update consistent⟩
  · show _ ↔ _ ∈ (Function.update deployment.outboxes producer after other).table
    rw [(same other).1]
    exact coupled.rows other rowId row
  · show _ ↔ ∃ other, ∃ acknowledgement ∈
      (Function.update deployment.outboxes producer after other).broker, _
    simp only [(same _).2]
    exact coupled.messages message

theorem Coupled.publish (coupled : deployment.Coupled) {producer : Producer}
    {row : Outbox.StoredEvent} {after : Outbox.State}
    (table : after.table = (deployment.outboxes producer).table)
    (broker : after.broker = (deployment.outboxes producer).broker ++ [row.acknowledgement])
    (consistent : after.Consistent) : (deployment.served producer (.publish row) after).Coupled := by
  refine ⟨fun other id found => ?_, fun message => ?_, coupled.consistent_update consistent⟩
  · show (deployment.world.serve producer (.publish row)).outbox other id = some found ↔
      _ ∈ (Function.update deployment.outboxes producer after other).table
    rw [serve_publish_outbox, coupled.rows]
    by_cases same : other = producer
    · subst same
      rw [Function.update_self, table]
    · rw [Function.update_of_ne same]
  · show message ∈ deployment.world.messages ++ [row.row.message] ↔ ∃ other, ∃ acknowledgement ∈
      (Function.update deployment.outboxes producer after other).broker, _
    rw [List.mem_append, coupled.messages, List.mem_singleton]
    constructor
    · rintro (⟨other, acknowledgement, member, about⟩ | latest)
      · refine ⟨other, acknowledgement, ?_, about⟩
        by_cases same : other = producer
        · subst same
          rw [Function.update_self, broker]
          exact List.mem_append_left _ member
        · rwa [Function.update_of_ne same]
      · refine ⟨producer, row.acknowledgement, ?_, latest.symm⟩
        simp [broker]
    · rintro ⟨other, acknowledgement, member, about⟩
      by_cases same : other = producer
      · subst same
        rw [Function.update_self, broker, List.mem_append, List.mem_singleton] at member
        rcases member with earlier | latest
        · exact .inl ⟨other, acknowledgement, earlier, about⟩
        · rw [latest] at about
          exact .inr about.symm
      · rw [Function.update_of_ne same] at member
        exact .inl ⟨other, acknowledgement, member, about⟩

theorem Coupled.mark (coupled : deployment.Coupled) {producer : Producer} {rowId : Uuid}
    {now : Timestamp} {row : OutboxEvent} {after : Outbox.State}
    (present : deployment.world.outbox producer rowId = some row)
    (table : after.table = Outbox.markPublished rowId now (deployment.outboxes producer).table)
    (broker : after.broker = (deployment.outboxes producer).broker) (consistent : after.Consistent) :
    (deployment.served producer (.update rowId now) after).Coupled := by
  obtain ⟨marks, -⟩ := mark_marks present now
  refine ⟨fun other id found => ?_, fun message => ?_, coupled.consistent_update consistent⟩
  · show (deployment.world.mark rowId now producer).outbox other id = some found ↔
      _ ∈ (Function.update deployment.outboxes producer after other).table
    rw [marks.outbox]
    by_cases same : other = producer
    · subst same
      rw [Function.update_self, table, Outbox.markPublished, List.mem_map]
      constructor
      · intro there
        split at there
        · next here =>
            cases there
            exact ⟨{ id := rowId, row }, (coupled.rows _ _ _).mp present, by simp [here.2]⟩
        · next apart =>
            have elsewhere : id ≠ rowId := fun here => apart ⟨rfl, here⟩
            exact ⟨{ id, row := found }, (coupled.rows _ _ _).mp there, by simp [elsewhere]⟩
      · rintro ⟨stored, member, marked⟩
        have there := (coupled.rows other stored.id stored.row).mpr member
        by_cases here : stored.id = rowId
        · rw [if_pos here] at marked
          cases marked
          rw [here, present] at there
          cases there
          rw [if_pos ⟨rfl, here⟩]
        · rw [if_neg here] at marked
          subst marked
          rw [if_neg fun both => here both.2]
          exact there
    · rw [if_neg fun both => same both.1, Function.update_of_ne same]
      exact coupled.rows other id found
  · show message ∈ (deployment.world.mark rowId now producer).messages ↔ ∃ other,
      ∃ acknowledgement ∈ (Function.update deployment.outboxes producer after other).broker, _
    have same (other : Producer) : (Function.update deployment.outboxes producer after other).broker =
        (deployment.outboxes other).broker := by
      by_cases own : other = producer
      · subst own
        rw [Function.update_self, broker]
      · rw [Function.update_of_ne own]
    rw [marks.messages, coupled.messages]
    simp only [same]

/-- A served request is a step of the system, however little the relay knows of the system by
then. -/
theorem Coupled.serve (config : Config) (coupled : deployment.Coupled) {producer : Producer}
    {request : Outbox.Request} {after : Outbox.State}
    (sound : request.Sound (deployment.outboxes producer).table (deployment.outboxes producer).broker)
    (table : after.table = ((deployment.outboxes producer).serve request).table)
    (broker : after.broker = ((deployment.outboxes producer).serve request).broker)
    (consistent : after.Consistent) :
    (∃ action, deployment.world.step config action =
        some (deployment.world.serve producer request)) ∧
      (deployment.served producer request after).Coupled := by
  cases request with
  | publish row =>
      obtain ⟨stored, listed, copy⟩ := sound
      have sameMessage : stored.row.message = row.row.message :=
        congrArg Outbox.Acknowledgement.message copy
      have present := (coupled.rows producer stored.id stored.row).mpr listed
      refine ⟨⟨.publish producer stored.id, ?_⟩, coupled.publish table broker consistent⟩
      simp [World.step, present, World.serve, sameMessage]
  | update rowId now =>
      obtain ⟨acknowledgement, acknowledged, rfl⟩ := sound
      obtain ⟨stored, listed, rfl⟩ :=
        (coupled.consistent producer).copies acknowledgement acknowledged
      have present := (coupled.rows producer stored.id stored.row).mpr listed
      have sent : stored.row.message ∈ deployment.world.messages :=
        (coupled.messages _).mpr ⟨producer, _, acknowledged, rfl⟩
      refine ⟨⟨.mark producer stored.id now, ?_⟩, coupled.mark present table broker consistent⟩
      simp [World.step, present, sent, World.serve, Outbox.StoredEvent.acknowledgement]

end Steps

section Runs

variable {config : Config} {batchSize : Producer → Nat} {products : Uuid → Option InventoryService.Product}
variable {deployment next : Deployment}

/-- The deployment is what a run of the system and a run of each outbox have got to. -/
structure Refines (config : Config) (batchSize : Producer → Nat)
    (products : Uuid → Option InventoryService.Product) (deployment : Deployment) : Prop where
  world : ∃ actions, Machine.run (World.step config) (.initial products) actions =
    some deployment.world
  outboxes : ∀ producer, ∃ actions,
    Machine.run (Outbox.State.step (batchSize producer)) .initial actions =
      some (deployment.outboxes producer)
  coupled : deployment.Coupled

theorem Refines.initial : Refines config batchSize products (.initial products) where
  world := ⟨[], rfl⟩
  outboxes _ := ⟨[], rfl⟩
  coupled := by
    refine ⟨fun producer rowId row => ?_, fun message => ?_, fun _ => .initial⟩
    · cases producer <;> simp [Deployment.initial, World.initial, World.outbox, Outbox.State.initial]
    · simp [Deployment.initial, World.initial, Outbox.State.initial]

theorem Refines.commit (refines : Refines config batchSize products deployment) {world : World}
    {action : Ecommerce.Action} (stepped : deployment.world.step config action = some world)
    (commits : deployment.world.Commits world) :
    Refines config batchSize products (deployment.commit world) := by
  obtain ⟨actions, ran⟩ := refines.world
  have reached := Machine.run_snoc ran stepped
  refine ⟨⟨_, reached⟩, fun producer => ?_, refines.coupled.commit commits⟩
  obtain ⟨earlier, ranOutbox⟩ := refines.outboxes producer
  have unchanged (none : deployment.world.stagedRows world producer = []) :
      ∃ actions, Machine.run (Outbox.State.step (batchSize producer)) .initial actions =
        some ((deployment.commit world).outboxes producer) := by
    refine ⟨earlier, ranOutbox.trans ?_⟩
    simp [Deployment.commit, none]
  cases commits with
  | quiet quiet => exact unchanged quiet.stagedRows
  | stages owner rowId row stages =>
      obtain ⟨own, others⟩ := stages.stagedRows
      by_cases same : producer = owner
      · subst same
        have present : world.outbox producer rowId = some row := by simp [stages.outbox]
        obtain ⟨order, -, traced⟩ := (World.run_traceable reached).2.rows producer rowId row present
        have shape := outboxRow_of_traced traced stages.unpublished
        have new : rowId ∉ (deployment.outboxes producer).table.map Outbox.StoredEvent.id := by
          intro listed
          obtain ⟨stored, member, rfl⟩ := List.mem_map.mp listed
          have there := (refines.coupled.rows producer stored.id stored.row).mpr member
          rw [stages.free] at there
          cases there
        refine ⟨earlier ++ [.enqueue rowId row.aggregateType row.createdAt row.topic row.payload],
          Machine.run_snoc ranOutbox ?_⟩
        rw [Outbox.State.step, if_neg new, ← shape]
        simp [Deployment.commit, own]
      · exact unchanged (others producer same)

theorem Refines.step (refines : Refines config batchSize products deployment) {action : Action}
    (stepped : deployment.step config batchSize action = some next) :
    Refines config batchSize products next := by
  obtain ⟨actions, ran⟩ := refines.world
  cases action with
  | createOrder request fault =>
      cases stepped
      have taken : deployment.world.step config (.createOrder request fault) =
          some (deployment.world.onOrders fault (request.body config.orders)) := rfl
      exact refines.commit taken (createOrder_commits request fault)
  | deliver service message now fault =>
      obtain ⟨world, taken, rfl⟩ := Option.map_eq_some_iff.mp stepped
      have delivers := taken
      simp only [World.step] at delivers
      split at delivers
      · next published =>
          exact refines.commit taken
            (deliver_commits (World.run_traceable ran).1 published delivers)
      · cases delivers
  | relay producer action =>
      simp only [Deployment.step] at stepped
      split at stepped
      · cases stepped
      · next relays =>
          obtain ⟨after, taken, rfl⟩ := Option.map_eq_some_iff.mp stepped
          obtain ⟨table, broker⟩ := Outbox.State.step_answered (by simpa using relays) taken
          have consistent := (refines.coupled.consistent producer).step action taken
          have outboxes : ∀ other, ∃ actions,
              Machine.run (Outbox.State.step (batchSize other)) .initial actions =
                some (Function.update deployment.outboxes producer after other) := by
            intro other
            by_cases same : other = producer
            · subst same
              obtain ⟨earlier, ranOutbox⟩ := refines.outboxes other
              rw [Function.update_self]
              exact ⟨_, Machine.run_snoc ranOutbox taken⟩
            · rw [Function.update_of_ne same]
              exact refines.outboxes other
          cases answered : (deployment.outboxes producer).answered action with
          | none =>
              rw [answered] at table broker
              exact ⟨refines.world, outboxes,
                refines.coupled.unanswered table broker consistent⟩
          | some request =>
              rw [answered] at table broker
              have sound := Outbox.State.answered_sound (refines.coupled.consistent producer) answered
              obtain ⟨⟨served, taken⟩, coupled⟩ :=
                refines.coupled.serve config sound table broker consistent
              exact ⟨⟨_, Machine.run_snoc ran taken⟩, outboxes, coupled⟩

end Runs

/-- Whatever its relays do, the system is where a run of the system that publishes and marks rows as
it likes gets to, each outbox is where a run of its relays gets to, and what the runs tell of the
rows and the messages is the same. -/
theorem relays_refine_world (config : Config) (batchSize : Producer → Nat)
    (products : Uuid → Option InventoryService.Product) (actions : List Action)
    (deployment : Deployment)
    (ran : Machine.run (step config batchSize) (initial products) actions = some deployment) :
    (∃ worldActions, Machine.run (World.step config) (.initial products) worldActions =
        some deployment.world) ∧
      (∀ producer, ∃ outboxActions,
        Machine.run (Outbox.State.step (batchSize producer)) .initial outboxActions =
          some (deployment.outboxes producer)) ∧
      (∀ producer rowId row, deployment.world.outbox producer rowId = some row ↔
        { id := rowId, row } ∈ (deployment.outboxes producer).table) ∧
      ∀ message, message ∈ deployment.world.messages ↔
        ∃ producer, ∃ acknowledgement ∈ (deployment.outboxes producer).broker,
          acknowledgement.message = message := by
  have refines : Refines config batchSize products deployment :=
    Machine.run_invariant _ (fun _ _ _ refines stepped => refines.step stepped) .initial ran
  exact ⟨refines.world, refines.outboxes, refines.coupled.rows, refines.coupled.messages⟩

section Sample

def sampleRow : Outbox.StoredEvent := { id := 3, row := sampleRequest.createdRow 0 1 2 }

/-- Two relays have read the row. One of them marks it after the other has, and after a crash. -/
def sampleRelays : List Action :=
  [.createOrder sampleRequest none, .relay .order (.tick 0), .relay .order (.tick 1),
    .relay .order (.progress 0 0 (.read [sampleRow])),
    .relay .order (.progress 1 0 (.read [sampleRow])),
    .relay .order (.progress 0 0 (.acknowledged 5)), .deliver .payment World.sampleCreated 0 none,
    .relay .order (.progress 1 0 (.acknowledged 6)), .relay .order (.crash 0),
    .relay .order (.progress 1 0 .updated), .relay .order (.arrive 0)]

theorem relays_refine_world_sample : ∃ deployment,
    Machine.run (step sampleConfig fun _ => 10) (initial fun _ => none) sampleRelays = some deployment ∧
      deployment.world.messages = [World.sampleCreated, World.sampleCreated] ∧
      ∃ worldActions, Machine.run (World.step sampleConfig) (.initial fun _ => none) worldActions =
        some deployment.world := by
  have ran : ∃ deployment,
      Machine.run (step sampleConfig fun _ => 10) (initial fun _ => none) sampleRelays = some deployment ∧
        deployment.world.messages = [World.sampleCreated, World.sampleCreated] := ⟨_, rfl, rfl⟩
  obtain ⟨deployment, ran, messages⟩ := ran
  exact ⟨deployment, ran, messages,
    (relays_refine_world sampleConfig (fun _ => 10) _ sampleRelays deployment ran).1⟩

end Sample

end Deployment

end Ecommerce
