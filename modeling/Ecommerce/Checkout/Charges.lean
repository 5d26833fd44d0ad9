import Ecommerce.Checkout.Compensation

set_option autoImplicit false

/-!
# Money of cancelled orders

Payment subscribes to orders.created only, so a charge stays when inventory rejects the order.
-/

namespace Ecommerce

open OrderService (Order OrderStatus Leg Outcome)
open PaymentService (Payment PaymentStatus)

namespace Ledger

/-- Whatever inventory has rejected is declined by payment as well. -/
def Unpaid (config : Config) (ledger : Ledger) : Prop :=
  ∀ event ∈ ledger.emitted, event.payload.outcome = some (.inventory, .failed) →
    ∀ order, ledger.order event.orderId = some order →
      config.payments.declined order.totalAmountCents = true

def RejectsPaid (config : Config) (decision : Decision) : Prop :=
  ∃ order, decision = .rejected order ∧
    config.payments.declined order.totalAmountCents = false

section Steps

variable {config : Config} {ledger after : Ledger} {decision : Decision}

theorem Step.total_of_emitted (step : ledger.Step config decision after)
    (sound : ledger.Sound config) {event : EventEnvelope} (emitted : event ∈ ledger.emitted) :
    ∃ before later, ledger.order event.orderId = some before ∧
      after.order event.orderId = some later ∧ later.totalAmountCents = before.totalAmountCents := by
  obtain ⟨before, found⟩ := Option.ne_none_iff_exists'.mp (sound.known event emitted)
  obtain ⟨later, foundLater, evolves⟩ := step.grows.order _ _ found
  exact ⟨before, later, found, foundLater,
    congrArg OrderCreatedPayload.totalAmountCents evolves.asked⟩

theorem Step.unpaid_of_old (step : ledger.Step config decision after) (sound : ledger.Sound config) :
    (∀ event ∈ ledger.emitted, event.payload.outcome = some (.inventory, .failed) →
      ∀ order, after.order event.orderId = some order →
        config.payments.declined order.totalAmountCents = true) ↔ ledger.Unpaid config := by
  refine forall_congr' fun event => forall_congr' fun emitted => imp_congr_right fun _ => ?_
  obtain ⟨before, later, found, foundLater, total⟩ := step.total_of_emitted sound emitted
  simp [found, foundLater, total]

theorem Step.unpaid_of_kept (step : ledger.Step config decision after) (sound : ledger.Sound config)
    (kept : ∀ event ∈ after.emitted, event.payload.outcome = some (.inventory, .failed) →
      event ∈ ledger.emitted) : after.Unpaid config ↔ ledger.Unpaid config := by
  rw [← step.unpaid_of_old sound]
  constructor
  · exact fun unpaid event emitted => unpaid event (step.grows.emitted emitted)
  · exact fun unpaid event emitted failed => unpaid event (kept event emitted failed) failed

theorem Step.unpaid_of_other_news (step : ledger.Step config decision after)
    (sound : ledger.Sound config) {event : EventEnvelope}
    (emitted : after.emitted = insert event ledger.emitted)
    (other : event.payload.outcome ≠ some (.inventory, .failed)) :
    after.Unpaid config ↔ ledger.Unpaid config := by
  refine step.unpaid_of_kept sound fun old present failed => ?_
  rcases Set.mem_insert_iff.mp (emitted ▸ present) with rfl | earlier
  · exact absurd failed other
  · exact earlier

theorem terminal_outcome (orderId : Uuid) (order : Order) (status : OrderStatus) :
    (OrderService.terminalPayload orderId order status).outcome = none := by
  cases status <;> rfl

theorem charging_outcome (config : PaymentService.Config) (job : PaymentService.Charging)
    (paymentId : Uuid) : (job.payload config paymentId).outcome ≠ some (.inventory, .failed) := by
  unfold PaymentService.Charging.payload
  split <;> simp [Payload.outcome]

theorem Step.unpaid_iff (step : ledger.Step config decision after) (sound : ledger.Sound config) :
    after.Unpaid config ↔ ledger.Unpaid config ∧ ¬ RejectsPaid config decision := by
  have unrejected (none : ∀ order, decision ≠ .rejected order) : ¬ RejectsPaid config decision := by
    rintro ⟨order, same, -⟩
    exact none order same
  have kept := step.unpaid_of_kept sound
  have old := step.unpaid_of_old sound
  have news := @Step.unpaid_of_other_news config ledger after decision step sound
  cases step with
  | idle | released | skipped | recorded | notified =>
      rw [and_iff_left (unrejected (by simp))]
      exact kept fun _ emitted _ => emitted
  | placed next order event _ _ _ payload =>
      rw [and_iff_left (unrejected (by simp))]
      exact news rfl (by simp [payload, Payload.outcome])
  | charged next job _ _ paymentId =>
      rw [and_iff_left (unrejected (by simp))]
      exact news rfl (charging_outcome _ job paymentId)
  | reserved =>
      rw [and_iff_left (unrejected (by simp))]
      refine news rfl fun failed => ?_
      cases failed
  | settled next delivery _ _ order _ _ status =>
      rw [and_iff_left (unrejected (by simp))]
      refine news rfl fun failed => ?_
      cases (terminal_outcome delivery.orderId (delivery.record order) status).symm.trans failed
  | rejected next job handling shortfalls eventId =>
      have reported := sound.reported job.event handling.emitted
      rw [job.created] at reported
      obtain ⟨order, found, asked⟩ := reported
      have total : order.totalAmountCents = job.order.totalAmountCents :=
        congrArg OrderCreatedPayload.totalAmountCents asked
      rw [← old]
      constructor
      · intro unpaid
        refine ⟨fun event emitted => unpaid event (.inr emitted), ?_⟩
        rintro ⟨other, same, accepted⟩
        cases same
        have declined := unpaid (job.rejectedRow shortfalls eventId).payload (.inl rfl) rfl order found
        rw [total, accepted] at declined
        cases declined
      · rintro ⟨unpaid, declined⟩ event (rfl | emitted) failed other present
        · cases found.symm.trans present
          rw [total]
          by_contra accepted
          exact declined ⟨job.order, rfl, Bool.eq_false_iff.mpr accepted⟩
        · exact unpaid event emitted failed other present

end Steps

end Ledger

namespace World

def Refunded (world : World) : Prop :=
  ∀ orderId (order : Order) (payment : Payment),
    world.orders (OrderService.orderKey orderId) = some order → order.status = .cancelled →
      world.payments (PaymentService.paymentKey orderId) = some payment →
        payment.status ≠ .completed

def RejectsPaid (config : Config) (world : World) (action : Action) : Prop :=
  Ledger.RejectsPaid config (world.decision config action)

section Quiescent

variable {config : Config} {world : World} {orderId : Uuid} {order : Order}

theorem Sound.leg_of_cancelled (sound : world.Sound config)
    (found : world.orders (OrderService.orderKey orderId) = some order)
    (cancelled : order.status = .cancelled) :
    order.paymentStatus = .failed ∨ order.inventoryStatus = .failed := by
  have decided := sound.ledger.decided orderId order found
  rw [cancelled, OrderService.Order.settlement] at decided
  split at decided
  · assumption
  · split at decided <;> cases decided

theorem Sound.cancelled_of_rejected (sound : world.Sound config) {event : EventEnvelope}
    (emitted : event ∈ world.ledger.emitted)
    (rejected : event.payload.outcome = some (.inventory, .failed))
    (processed : event.eventId ∈ world.ledger.processed .order)
    (found : world.orders (OrderService.orderKey event.orderId) = some order) :
    order.status = .cancelled := by
  obtain ⟨other, there, settled⟩ := sound.ledger.recorded event emitted _ _ rejected processed
  cases found.symm.trans there
  have decided := sound.ledger.decided _ _ found
  rcases settled with settled | leg
  · cases status : order.status with
    | pending => exact absurd status settled
    | cancelled => rfl
    | confirmed =>
        -- The reservation of a confirmed order contradicts the rejection.
        have reserved := (sound.legs_agree found).reserved
          (sound.ledger.legs_of_confirmed found status).2
        exact absurd (sound.ledger.unreserved_of_outcome ⟨event, emitted, rfl, rejected⟩) reserved
  · have failed : order.inventoryStatus = .failed := leg
    rw [OrderService.Order.settlement, if_pos (.inr failed)] at decided
    exact decided.symm

theorem Quiescent.charged (quiescent : world.Quiescent config) (sound : world.Sound config)
    (found : world.orders (OrderService.orderKey orderId) = some order) :
    ∃ payment : Payment, world.payments (PaymentService.paymentKey orderId) = some payment ∧
      payment.status =
        if config.payments.declined order.totalAmountCents then .failed else .completed := by
  obtain ⟨created, emitted, about, placed⟩ := sound.ledger.announced orderId order found
  have topic : created.payload.topic = .ordersCreated := by
    cases payload : created.payload <;> rw [payload] at placed <;> first | rfl | cases placed
  have processed := quiescent.processed_of_emitted sound emitted .payment (by rw [topic]; rfl)
  obtain ⟨answer, answered, same, charged⟩ :=
    (sound.ledger.answered created emitted placed .payment .charged rfl).mp processed
  have reports : ∃ outcome, answer.payload.outcome = some (.payment, outcome) := by
    cases payload : answer.payload <;> rw [payload] at charged <;>
      first | exact ⟨_, rfl⟩ | cases charged
  obtain ⟨outcome, reports⟩ := reports
  obtain ⟨payment, present, -⟩ := sound.ledger.payment_of_outcome outcome
    ⟨answer, answered, same.trans about, reports⟩
  obtain ⟨other, there, -, status⟩ := sound.ledger.paid orderId payment present
  cases found.symm.trans there
  exact ⟨payment, present, status⟩

theorem refunded_iff_unpaid (sound : world.Sound config) (quiescent : world.Quiescent config) :
    world.Refunded ↔ world.ledger.Unpaid config := by
  constructor
  · intro refunded event emitted rejected order found
    have topic : event.payload.topic = .inventoryRejected := by
      cases payload : event.payload <;> rw [payload] at rejected <;> first | rfl | cases rejected
    have processed := quiescent.processed_of_emitted sound emitted .order (by rw [topic]; rfl)
    have cancelled := sound.cancelled_of_rejected emitted rejected processed found
    obtain ⟨payment, charged, status⟩ := quiescent.charged sound found
    by_contra accepted
    rw [if_neg accepted] at status
    exact refunded _ order payment found cancelled charged status
  · intro unpaid orderId order payment found cancelled charged completed
    obtain ⟨other, there, -, status⟩ := sound.ledger.paid orderId payment charged
    cases found.symm.trans there
    rcases sound.leg_of_cancelled found cancelled with failed | failed
    · obtain ⟨same, present, declined⟩ := (sound.legs_agree found).declined failed
      cases charged.symm.trans present
      cases completed.symm.trans declined
    · obtain ⟨event, emitted, about, rejected⟩ :=
        sound.ledger.leg_reported found .inventory .failed failed
      have declined := unpaid event emitted rejected order (about ▸ found)
      rw [if_pos declined] at status
      cases completed.symm.trans status

end Quiescent

theorem refunded_iff (config : Config) (products : Uuid → Option InventoryService.Product)
    (actions : List Action) (world : World)
    (ran : Machine.run (step config) (initial products) actions = some world)
    (quiescent : world.Quiescent config) :
    world.Refunded ↔ Machine.Along (step config)
      (fun before action => ¬ before.RejectsPaid config action) (initial products) actions := by
  rw [refunded_iff_unpaid (run_sound ran) quiescent]
  have start : (initial products).ledger.Unpaid config :=
    fun event emitted => absurd emitted (initial_silent products event)
  rw [Machine.run_iff_along (fun world : World => world.ledger.Unpaid config)
    (fun _ _ _ sound stepped => Sound.step sound stepped)
    (fun before action next sound stepped =>
      (step_refines sound.traced sound.ledger stepped).step.unpaid_iff sound.ledger)
    (initial_sound config products) ran]
  exact and_iff_right start

section Sample

def scarceRequest : OrderService.Request := lineRequest 200 5 (by decide) (by decide)

def scarceCreated : Message := (scarceRequest.createdRow 0 1 2).message

def scarceCharging : PaymentService.Charging :=
  { event := scarceCreated.event
    order := (scarceRequest.order 0 1).createdPayload
    now := 0
    created := rfl }

def scarceCharged : Message :=
  { topic := .paymentsCompleted
    key := 0
    event := scarceCharging.outcome sampleConfig.payments 4 5 }

def scarceReserving : InventoryService.Reserving :=
  { event := scarceCreated.event
    order := (scarceRequest.order 0 1).createdPayload
    now := 0
    created := rfl }

def scarceRejected : Message :=
  (scarceReserving.rejectedRow [{ productId := 3, requested := 200, available := 100 }] 7).message

def scarceCancelled : Message :=
  (OrderService.terminalRow 0 0
    { scarceRequest.order 0 1 with paymentStatus := .succeeded, inventoryStatus := .failed }
    .cancelled 9).message

def scarceCheckout : List Action :=
  [.createOrder scarceRequest none, .publish .order 3, .deliver .payment scarceCreated 0 none,
    .deliver .inventory scarceCreated 0 none, .publish .payment 6, .publish .inventory 8,
    .deliver .order scarceCharged 0 none, .deliver .order scarceRejected 0 none,
    .publish .order 10, .deliver .inventory scarceCancelled 0 none, .mark .order 3 0,
    .mark .payment 6 0, .mark .inventory 8 0, .mark .order 10 0]

theorem refunded_iff_reservedFirst : ∃ world,
    Machine.run (step sampleConfig) (initial fun _ => none) reservedFirst = some world ∧
      world.Quiescent sampleConfig ∧ world.Refunded ∧
      Machine.Along (step sampleConfig)
        (fun before action => ¬ before.RejectsPaid sampleConfig action) (initial fun _ => none)
        reservedFirst := by
  obtain ⟨world, ran, quiescent, only, -, declined⟩ := reservedFirst_ends
  have refunded : world.Refunded := by
    intro orderId order payment found _ present
    rw [only orderId order found] at present
    rw [present] at declined
    simp [Option.some.inj declined]
  exact ⟨world, ran, quiescent, refunded,
    (refunded_iff sampleConfig _ _ world ran quiescent).mp refunded⟩

theorem cancelled_order_stays_charged : ∃ world,
    Machine.run (step sampleConfig) (initial fun _ => none) scarceCheckout = some world ∧
      world.Quiescent sampleConfig ∧ ¬ world.Refunded := by
  have ran : ∃ world,
      Machine.run (step sampleConfig) (initial fun _ => none) scarceCheckout = some world ∧
        world.isQuiescent sampleConfig = true ∧
        (world.orders (OrderService.orderKey 0)).map OrderService.Order.status = some .cancelled ∧
        (world.payments (PaymentService.paymentKey 0)).map Payment.status = some .completed :=
    ⟨_, rfl, rfl, rfl, rfl⟩
  obtain ⟨world, ran, quiet, status, charged⟩ := ran
  obtain ⟨order, found, cancelled⟩ := Option.map_eq_some_iff.mp status
  obtain ⟨payment, present, completed⟩ := Option.map_eq_some_iff.mp charged
  refine ⟨world, ran, (run_sound ran).quiescent_iff.mpr quiet, fun refunded => ?_⟩
  exact refunded 0 order payment found cancelled present completed

end Sample

end World

end Ecommerce
