import Ecommerce.Checkout.Effects
import Ecommerce.Machine.Run
import Ecommerce.OrderService.OrderLedger
import Ecommerce.OrderService.Settlement

set_option autoImplicit false

/-!
# The saga, one transaction at a time

The outcome events are arbitrary: of unknown orders, repeated, or contradicting one another.
-/

namespace Ecommerce.OrderService

open Transaction

structure SagaState where
  database : OrderDb
  -- Every UUID drawn so far is below this one.
  nextUuid : Uuid

inductive SagaAction where
  | createOrder (request : Request) (fault : Fault TxError)
  | applyOutcome (delivery : Delivery) (fault : Fault TxError)

namespace SagaState

def initial : SagaState := { database := fun _ => none, nextUuid := 0 }

def commit (state : SagaState) : Except TxError (Unit × OrderDb × Nat) → SagaState
  | .ok (_, database, nextUuid) => { database, nextUuid }
  | .error _ => state

def step (config : Config) (state : SagaState) : SagaAction → Option SagaState
  | .createOrder request fault =>
      some (state.commit ((request.body config).transaction fault state.database state.nextUuid))
  | .applyOutcome delivery fault =>
      some (state.commit (delivery.body.transaction fault state.database state.nextUuid))

end SagaState

/-- A terminal event of the order is stored in this row. -/
def Announces (database : OrderDb) (orderId rowId : Uuid) (row : OutboxEvent) : Prop :=
  database (outboxKey rowId) = some row ∧
    (row.topic = .ordersConfirmed ∨ row.topic = .ordersCancelled) ∧ row.aggregateId = orderId

def OneLegFailed (order : Order) : Prop :=
  order.paymentStatus = .failed ∧ order.inventoryStatus ≠ .failed ∨
    order.paymentStatus ≠ .failed ∧ order.inventoryStatus = .failed

/-- The event that an order with this status has announced. -/
structure AnnouncedBy (order : Order) (orderId : Uuid) (row : OutboxEvent) : Prop where
  topic : row.topic = terminalTopic order.status
  correlationId : row.payload.correlationId = order.correlationId
  payload : row.payload.payload = terminalPayload orderId order order.status

inductive Standing (database : OrderDb) (orderId : Uuid) : Prop
  | unknown (absent : database (orderKey orderId) = none)
      (silent : ∀ rowId row, ¬ Announces database orderId rowId row)
  | pending (order : Order) (found : database (orderKey orderId) = some order)
      (status : order.status = .pending) (undecided : order.settlement = none)
      (silent : ∀ rowId row, ¬ Announces database orderId rowId row)
  | settled (order : Order) (found : database (orderKey orderId) = some order)
      (decided : order.settlement = some order.status)
      (oneFailed : order.status = .cancelled → OneLegFailed order)
      (rowId : Uuid) (row : OutboxEvent) (announced : AnnouncedBy order orderId row)
      (only : ∀ id other, Announces database orderId id other ↔ id = rowId ∧ other = row)

/-- A settled order and its terminal rows are left alone. -/
def Final (before after : OrderDb) : Prop :=
  ∀ orderId (order : Order), before (orderKey orderId) = some order → order.status ≠ .pending →
    after (orderKey orderId) = some order ∧
      ∀ rowId row, Announces after orderId rowId row ↔ Announces before orderId rowId row

section Lookups

variable (database : OrderDb) (orderId other rowId : Uuid) (row : OutboxEvent)

@[simp] theorem announces_set_marker (eventId : Uuid) :
    Announces (database.set (marker eventId) ()) orderId rowId row ↔
      Announces database orderId rowId row := by
  simp [Announces, Store.set_other]

@[simp] theorem announces_set_order (order : Order) :
    Announces (database.set (orderKey other) order) orderId rowId row ↔
      Announces database orderId rowId row := by
  simp [Announces, Store.set_other]

@[simp] theorem announces_set_key (key : Uuid) (claimed : IdempotencyKey) :
    Announces (database.set (idempotencyKey key) claimed) orderId rowId row ↔
      Announces database orderId rowId row := by
  simp [Announces, Store.set_other]

@[simp] theorem order_set_key (key : Uuid) (claimed : IdempotencyKey) :
    database.set (idempotencyKey key) claimed (orderKey orderId) = database (orderKey orderId) :=
  Store.set_other _ _ (by simp)

theorem announces_set_outbox {inserted : Uuid} (new : OutboxEvent)
    (free : database (outboxKey inserted) = none) :
    Announces (database.set (outboxKey inserted) new) orderId rowId row ↔
      Announces database orderId rowId row ∨ rowId = inserted ∧ row = new ∧
        (new.topic = .ordersConfirmed ∨ new.topic = .ordersCancelled) ∧
        new.aggregateId = orderId := by
  by_cases same : rowId = inserted
  · subst same
    simp only [Announces, Store.set_same, free, Option.some.injEq, reduceCtorEq, false_and, false_or,
      true_and]
    constructor
    · rintro ⟨rfl, announced⟩
      exact ⟨rfl, announced⟩
    · rintro ⟨rfl, announced⟩
      exact ⟨rfl, announced⟩
  · simp [Announces, Store.set_other, same]

end Lookups

section Preservation

variable {before after : OrderDb} {orderId : Uuid}

theorem Standing.frame (standing : Standing before orderId)
    (sameOrder : after (orderKey orderId) = before (orderKey orderId))
    (sameRows : ∀ rowId row, Announces after orderId rowId row ↔ Announces before orderId rowId row) :
    Standing after orderId := by
  cases standing with
  | unknown absent silent =>
      exact .unknown (sameOrder.trans absent) fun rowId row announces =>
        silent rowId row ((sameRows rowId row).mp announces)
  | pending order found status undecided silent =>
      exact .pending order (sameOrder.trans found) status undecided fun rowId row announces =>
        silent rowId row ((sameRows rowId row).mp announces)
  | settled order found decided oneFailed rowId row announced only =>
      exact .settled order (sameOrder.trans found) decided oneFailed rowId row announced
        fun id other => (sameRows id other).trans (only id other)

theorem settled_of_settlement {order : Order} (decided : order.settlement = some order.status) :
    order.status ≠ .pending := by
  rcases settlement_cases decided with status | status <;> simp [status]

theorem Standing.open_order (standing : Standing before orderId) {order : Order}
    (found : before (orderKey orderId) = some order) (status : order.status = .pending) :
    order.settlement = none ∧ ∀ rowId row, ¬ Announces before orderId rowId row := by
  cases standing with
  | unknown absent => cases absent.symm.trans found
  | pending other present _ undecided silent =>
      cases found.symm.trans present
      exact ⟨undecided, silent⟩
  | settled other present decided =>
      cases found.symm.trans present
      exact absurd status (settled_of_settlement decided)

theorem recordLeg_oneFailed {order : Order} (undecided : order.settlement = none) (leg : Leg)
    (outcome : Outcome) (decided : (order.recordLeg leg outcome).settlement = some .cancelled) :
    OneLegFailed (order.recordLeg leg outcome) := by
  -- Before this outcome no leg had failed.
  simp only [Order.settlement] at undecided decided
  cases leg <;> cases outcome <;>
    simp_all [OneLegFailed, Order.recordLeg, Outcome.legStatus] <;> grind

theorem final_of_other (own : Uuid) (sameOrder : ∀ orderId, orderId ≠ own →
      after (orderKey orderId) = before (orderKey orderId))
    (sameRows : ∀ orderId rowId row, orderId ≠ own →
      (Announces after orderId rowId row ↔ Announces before orderId rowId row))
    (open_order : ∀ order : Order, before (orderKey own) = some order → order.status = .pending) :
    Final before after := by
  intro orderId order found moved
  have other : orderId ≠ own := by
    rintro rfl
    exact moved (open_order order found)
  exact ⟨(sameOrder orderId other).trans found, fun rowId row => sameRows orderId rowId row other⟩

theorem terminal_announced (now : Timestamp) (orderId : Uuid) (updated : Order)
    {status : OrderStatus} (decided : updated.settlement = some status) (eventId : Uuid) :
    AnnouncedBy { updated with status } orderId (terminalRow now orderId updated status eventId) where
  topic := rfl
  correlationId := rfl
  payload := by
    rcases settlement_cases decided with rfl | rfl <;> rfl

theorem terminal_topics (now : Timestamp) (orderId : Uuid) (updated : Order) (status : OrderStatus)
    (eventId : Uuid) :
    (terminalRow now orderId updated status eventId).topic = .ordersConfirmed ∨
      (terminalRow now orderId updated status eventId).topic = .ordersCancelled := by
  cases status <;> simp [terminalRow, outboxRow, terminalTopic]

theorem OutcomeEffect.standing {drawn : Uuid → Prop} {delivery : Delivery}
    {writes : Writes (TableKey Key) (TableRow Row)}
    (all : ∀ orderId, Standing before orderId)
    (effect : OutcomeEffect (alone drawn) delivery before writes) :
    (∀ orderId, Standing (writes.over before) orderId) ∧ Final before (writes.over before) := by
  cases effect with
  | skipped unmarked settled =>
      rw [Writes.put_over, Writes.none_over]
      exact ⟨fun orderId => (all orderId).frame (by simp) (by simp),
        fun orderId order found _ => ⟨by simpa using found, by simp⟩⟩
  | recorded unmarked order found pending undecided =>
      have status := pending order found
      obtain ⟨-, silent⟩ := (all delivery.orderId).open_order found status
      rw [Writes.put_over, Writes.put_over, Writes.none_over]
      refine ⟨fun orderId => ?_, final_of_other delivery.orderId ?_ (by simp) pending⟩
      · by_cases own : orderId = delivery.orderId
        · subst own
          exact .pending (delivery.record order) (by simp) ((recordLeg_status ..).trans status)
            undecided (by simpa using silent)
        · exact (all orderId).frame (by simp [order_set_order _ _ own]) (by simp)
      · intro orderId other
        simp [order_set_order _ _ other]
  | settled unmarked order found pending status decided eventId rowId _ _ free =>
      have wasPending := pending order found
      obtain ⟨undecided, silent⟩ := (all delivery.orderId).open_order found wasPending
      have freeNow : ((before.set (marker delivery.event.eventId) ()).set (orderKey delivery.orderId)
          { delivery.record order with status }) (outboxKey rowId) = none := by
        rw [Store.set_other _ _ (by simp), Store.set_other _ _ (by simp), free]
      have rows (orderId id : Uuid) (row : OutboxEvent) := announces_set_outbox _ orderId id row
        (terminalRow delivery.now delivery.orderId (delivery.record order) status eventId) freeNow
      have terminal := terminal_topics delivery.now delivery.orderId (delivery.record order) status
        eventId
      rw [Writes.put_over, Writes.put_over, Writes.put_over, Writes.none_over]
      refine ⟨fun orderId => ?_, final_of_other delivery.orderId ?_ ?_ pending⟩
      · by_cases own : orderId = delivery.orderId
        · subst own
          refine .settled { delivery.record order with status } (by simp)
            ((settlement_status ..).trans decided) (fun cancelled => ?_) rowId
            (terminalRow delivery.now delivery.orderId (delivery.record order) status eventId)
            (terminal_announced _ _ _ decided eventId) fun id other => ?_
          · have failed := recordLeg_oneFailed undecided delivery.leg delivery.outcome
              (decided.trans (congrArg some cancelled))
            exact failed
          · rw [rows]
            simp only [announces_set_order, announces_set_marker, silent, false_or]
            exact ⟨fun new => ⟨new.1, new.2.1⟩, fun new => ⟨new.1, new.2, terminal, rfl⟩⟩
        · refine (all orderId).frame (by simp [order_set_order _ _ own]) fun id row => ?_
          rw [rows]
          simp [terminalRow, terminalEvent, outboxRow, NewEvent.envelope, Ne.symm own]
      · intro orderId other
        simp [order_set_order _ _ other]
      · intro orderId id row other
        rw [rows]
        simp [terminalRow, terminalEvent, outboxRow, NewEvent.envelope, Ne.symm other]

theorem CreateEffect.standing {config : Config} {drawn : Uuid → Prop} {request : Request}
    {writes : Writes (TableKey Key) (TableRow Row)}
    (all : ∀ orderId, Standing before orderId)
    (effect : CreateEffect config drawn request before writes) :
    (∀ orderId, Standing (writes.over before) orderId) ∧ Final before (writes.over before) := by
  cases effect with
  | created unclaimed orderId correlationId eventId rowId _ _ _ unknown free =>
      have freeNow : (((before.set (idempotencyKey request.key)
          (request.completed config orderId correlationId)).set (orderKey orderId)
            (request.order orderId correlationId)) (outboxKey rowId)) = none := by
        rw [Store.set_other _ _ (by simp), Store.set_other _ _ (by simp), free]
      have rows (other id : Uuid) (row : OutboxEvent) :=
        announces_set_outbox _ other id row (request.createdRow orderId correlationId eventId) freeNow
      have quiet (other id : Uuid) (row : OutboxEvent) :
          Announces ((((before.set (idempotencyKey request.key)
            (request.completed config orderId correlationId)).set (orderKey orderId)
              (request.order orderId correlationId)).set (outboxKey rowId)
                (request.createdRow orderId correlationId eventId))) other id row ↔
            Announces before other id row := by
        rw [rows]
        simp [Request.createdRow, outboxRow]
      have silent : ∀ id row, ¬ Announces before orderId id row := by
        cases all orderId with
        | unknown _ silent => exact silent
        | pending _ found | settled _ found => cases unknown.symm.trans found
      rw [Writes.put_over, Writes.put_over, Writes.put_over, Writes.none_over]
      refine ⟨fun other => ?_, final_of_other orderId ?_ (fun other id row _ =>
        quiet other id row) fun order found => by cases unknown.symm.trans found⟩
      · by_cases own : other = orderId
        · subst own
          exact .pending (request.order other correlationId) (by simp) rfl rfl
            fun id row announces => silent id row ((quiet other id row).mp announces)
        · exact (all other).frame (by simp [order_set_order _ _ own]) (quiet other)
      · intro other different
        simp [order_set_order _ _ different]

theorem Final.refl (database : OrderDb) : Final database database :=
  fun _ _ found _ => ⟨found, fun _ _ => Iff.rfl⟩

theorem Final.trans {first second third : OrderDb} (one : Final first second)
    (two : Final second third) : Final first third := by
  intro orderId order found moved
  obtain ⟨middle, firstRows⟩ := one orderId order found moved
  obtain ⟨last, secondRows⟩ := two orderId order middle moved
  exact ⟨last, fun rowId row => (secondRows rowId row).trans (firstRows rowId row)⟩

theorem SagaState.step_standing {config : Config} {state next : SagaState} {action : SagaAction}
    (all : ∀ orderId, Standing state.database orderId)
    (stepped : state.step config action = some next) :
    (∀ orderId, Standing next.database orderId) ∧ Final state.database next.database := by
  cases action with
  | createOrder request fault =>
      cases stepped
      cases ran : (request.body config).transaction fault state.database state.nextUuid with
      | error => exact ⟨all, .refl _⟩
      | ok result =>
          obtain ⟨writes, effect, same⟩ := request.transaction_effect config ran
          simp only [SagaState.commit]
          rw [same]
          exact effect.standing all
  | applyOutcome delivery fault =>
      cases stepped
      cases ran : delivery.body.transaction fault state.database state.nextUuid with
      | error => exact ⟨all, .refl _⟩
      | ok result =>
          obtain ⟨writes, effect, same⟩ := delivery.transaction_effect ran
          simp only [SagaState.commit]
          rw [same]
          exact effect.standing all

theorem SagaState.run_standing {config : Config} {state last : SagaState}
    {actions : List SagaAction} (all : ∀ orderId, Standing state.database orderId)
    (ran : Machine.run (step config) state actions = some last) :
    (∀ orderId, Standing last.database orderId) ∧ Final state.database last.database := by
  refine Machine.run_invariant (fun now : SagaState =>
    (∀ orderId, Standing now.database orderId) ∧ Final state.database now.database)
    (fun _ _ _ holds stepped => ?_) ⟨all, .refl _⟩ ran
  obtain ⟨standing, final⟩ := SagaState.step_standing holds.1 stepped
  exact ⟨standing, holds.2.trans final⟩

end Preservation

/-- What a terminal event says of its order. -/
def Order.Says (order : Order) : Payload → Prop
  | .orderConfirmed payload =>
      payload.customerId = order.customerId ∧ payload.totalAmountCents = order.totalAmountCents
  | .orderCancelled payload =>
      payload.customerId = order.customerId ∧
        (payload.reason = .paymentFailed ↔ order.paymentStatus = .failed)
  | _ => False

structure Agrees (database : OrderDb) (orderId : Uuid) (order : Order) : Prop where
  pending : order.status = .pending ↔ ∀ rowId,
    ¬ RowAbout database orderId .ordersConfirmed rowId ∧
      ¬ RowAbout database orderId .ordersCancelled rowId
  undecided : order.status = .pending →
    (∀ leg, order.leg leg ≠ .failed) ∧ ¬ ∀ leg, order.leg leg = .succeeded
  confirmed : order.status = .confirmed ↔
    (∃! rowId, RowAbout database orderId .ordersConfirmed rowId) ∧
      ∀ rowId, ¬ RowAbout database orderId .ordersCancelled rowId
  succeeded : order.status = .confirmed → ∀ leg, order.leg leg = .succeeded
  cancelled : order.status = .cancelled ↔
    (∃! rowId, RowAbout database orderId .ordersCancelled rowId) ∧
      ∀ rowId, ¬ RowAbout database orderId .ordersConfirmed rowId
  failed : order.status = .cancelled → ∃! leg, order.leg leg = .failed
  event : ∀ rowId row, Announces database orderId rowId row →
    row.payload.correlationId = order.correlationId ∧ order.Says row.payload.payload

section Agreement

variable {database : OrderDb} {orderId : Uuid} {order : Order}

theorem rowAbout_announces {rowId : Uuid} {topic : Topic}
    (terminal : topic = .ordersConfirmed ∨ topic = .ordersCancelled) :
    RowAbout database orderId topic rowId ↔
      ∃ row, Announces database orderId rowId row ∧ row.topic = topic := by
  constructor
  · rintro ⟨row, present, rfl, about⟩
    exact ⟨row, ⟨present, terminal, about⟩, rfl⟩
  · rintro ⟨row, ⟨present, -, about⟩, topic⟩
    exact ⟨row, present, topic, about⟩

theorem oneFailed_leg (failed : OneLegFailed order) : ∃! leg, order.leg leg = .failed := by
  rcases failed with ⟨payment, inventory⟩ | ⟨payment, inventory⟩
  · refine ⟨.payment, payment, fun leg same => ?_⟩
    cases leg with
    | payment => rfl
    | inventory => exact absurd same inventory
  · refine ⟨.inventory, inventory, fun leg same => ?_⟩
    cases leg with
    | payment => exact absurd same payment
    | inventory => rfl

theorem undecided_legs (undecided : order.settlement = none) :
    (∀ leg, order.leg leg ≠ .failed) ∧ ¬ ∀ leg, order.leg leg = .succeeded := by
  simp only [Order.settlement] at undecided
  split at undecided
  · cases undecided
  · next noneFailed =>
      split at undecided
      · cases undecided
      · next open_leg =>
          rw [not_or] at noneFailed
          refine ⟨fun leg => ?_, fun all => open_leg ⟨all .payment, all .inventory⟩⟩
          cases leg
          · exact noneFailed.1
          · exact noneFailed.2

theorem succeeded_legs (decided : order.settlement = some .confirmed) (leg : Leg) :
    order.leg leg = .succeeded := by
  simp only [Order.settlement] at decided
  split at decided
  · cases decided
  · split at decided
    · next succeeded =>
        cases leg
        · exact succeeded.1
        · exact succeeded.2
    · cases decided

theorem AnnouncedBy.decides {row : OutboxEvent} (announced : AnnouncedBy order orderId row)
    (decided : order.settlement = some order.status) :
    order.Says row.payload.payload := by
  rw [announced.payload]
  rcases settlement_cases decided with status | status
  · simp [status, terminalPayload, Order.Says, cancelReason]
  · simp [status, terminalPayload, Order.Says]

theorem agrees_of_silent (status : order.status = .pending) (undecided : order.settlement = none)
    (silent : ∀ rowId row, ¬ Announces database orderId rowId row) :
    Agrees database orderId order := by
  have none (topic : Topic) (terminal : topic = .ordersConfirmed ∨ topic = .ordersCancelled)
      (rowId : Uuid) : ¬ RowAbout database orderId topic rowId := by
    rw [rowAbout_announces terminal]
    rintro ⟨row, announces, -⟩
    exact silent rowId row announces
  have noneConfirmed := none .ordersConfirmed (.inl rfl)
  have noneCancelled := none .ordersCancelled (.inr rfl)
  exact
    { pending := by simp [status, noneConfirmed, noneCancelled]
      undecided := fun _ => undecided_legs undecided
      confirmed := by simp [status, noneConfirmed, ExistsUnique]
      succeeded := by simp [status]
      cancelled := by simp [status, noneCancelled, ExistsUnique]
      failed := by simp [status]
      event := fun rowId row announces => absurd announces (silent rowId row) }

theorem agrees_of_announced (decided : order.settlement = some order.status)
    (oneFailed : order.status = .cancelled → OneLegFailed order) {rowId : Uuid} {row : OutboxEvent}
    (announced : AnnouncedBy order orderId row)
    (only : ∀ id other, Announces database orderId id other ↔ id = rowId ∧ other = row) :
    Agrees database orderId order := by
  have about (topic : Topic) (terminal : topic = .ordersConfirmed ∨ topic = .ordersCancelled)
      (id : Uuid) : RowAbout database orderId topic id ↔
        id = rowId ∧ terminalTopic order.status = topic := by
    rw [rowAbout_announces terminal, ← announced.topic]
    simp [only, and_assoc]
  have confirmedRows := about .ordersConfirmed (.inl rfl)
  have cancelledRows := about .ordersCancelled (.inr rfl)
  refine ⟨?_, ?_, ?_, ?_, ?_, fun cancelled => oneFailed_leg (oneFailed cancelled), ?_⟩
  · rcases settlement_cases decided with status | status <;>
      simp [status, confirmedRows, cancelledRows, terminalTopic]
  · exact fun status => absurd status (settled_of_settlement decided)
  · rcases settlement_cases decided with status | status <;>
      simp [status, confirmedRows, cancelledRows, terminalTopic, ExistsUnique]
  · exact fun confirmed => succeeded_legs (confirmed ▸ decided)
  · rcases settlement_cases decided with status | status <;>
      simp [status, confirmedRows, cancelledRows, terminalTopic, ExistsUnique]
  · intro id other announces
    obtain ⟨rfl, rfl⟩ := (only id other).mp announces
    exact ⟨announced.correlationId, announced.decides decided⟩

theorem Standing.agrees (standing : Standing database orderId)
    (found : database (orderKey orderId) = some order) : Agrees database orderId order := by
  cases standing with
  | unknown absent => cases absent.symm.trans found
  | pending other present status undecided silent =>
      cases found.symm.trans present
      exact agrees_of_silent status undecided silent
  | settled other present decided oneFailed rowId row announced only =>
      cases found.symm.trans present
      exact agrees_of_announced decided oneFailed announced only

end Agreement

theorem order_agrees_and_is_final (config : Config) (actions : List SagaAction) (state : SagaState)
    (ran : Machine.run (SagaState.step config) SagaState.initial actions = some state)
    (orderId : Uuid) (order : Order) (found : state.database (orderKey orderId) = some order) :
    Agrees state.database orderId order ∧
      (order.status ≠ .pending → ∀ more last,
        Machine.run (SagaState.step config) state more = some last →
          last.database (orderKey orderId) = some order ∧
            ∀ rowId row, Announces last.database orderId rowId row ↔
              Announces state.database orderId rowId row) := by
  have start (orderId : Uuid) : Standing SagaState.initial.database orderId :=
    .unknown rfl fun rowId row announces => by cases announces.1
  obtain ⟨standing, -⟩ := SagaState.run_standing start ran
  refine ⟨(standing orderId).agrees found, fun settled more last ranOn => ?_⟩
  exact (SagaState.run_standing standing ranOn).2 orderId order found settled

section Sample

def sampleReport (eventId : Uuid) (outcome : Outcome) : OutcomeEvent :=
  { samplePayment outcome with
    event :=
      { (samplePayment outcome).event with
        eventId
        aggregateId := 0
        payload :=
          match outcome with
          | .succeeded => .paymentCompleted
              { orderId := 0, customerId := 1, paymentId := 20, amountChargedCents := 500 }
          | .failed => .paymentFailed { orderId := 0, customerId := 1, reason := .cardDeclined } } }

/-- The second outcome contradicts the first. -/
def sampleSaga : List SagaAction :=
  [.createOrder sampleRequest none,
    .applyOutcome { sampleReport 100 .succeeded with now := 1 } none,
    .applyOutcome { sampleReport 101 .failed with now := 2 } none,
    .applyOutcome { sampleReport 102 .succeeded with now := 3 } none]

theorem order_agrees_contradiction : ∃ state order,
    Machine.run (SagaState.step sampleConfig) SagaState.initial sampleSaga = some state ∧
      state.database (orderKey 0) = some order ∧ order.status = .cancelled ∧
        Agrees state.database 0 order := by
  have ran : ∃ state,
      Machine.run (SagaState.step sampleConfig) SagaState.initial sampleSaga = some state ∧
        (state.database (orderKey 0)).map Order.status = some .cancelled := ⟨_, rfl, rfl⟩
  obtain ⟨state, ran, status⟩ := ran
  obtain ⟨order, found, cancelled⟩ := Option.map_eq_some_iff.mp status
  exact ⟨state, order, ran, found, cancelled,
    (order_agrees_and_is_final sampleConfig sampleSaga state ran 0 order found).1⟩

end Sample

end Ecommerce.OrderService
