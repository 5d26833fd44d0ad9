import Ecommerce.Checkout.Soundness

set_option autoImplicit false

/-!
# A step keeps the ledger sound
-/

namespace Ecommerce

open OrderService (Order OrderStatus Leg LegStatus Outcome Delivery)
open PaymentService (Payment Charging)
open InventoryService (Reservation Reserving)
open NotificationService (NotificationKind)

namespace Ledger

theorem update_grows {X : Type} {rel : X → X → Prop} (refl : ∀ row, rel row row)
    {rows : Uuid → Option X} {key : Uuid} {row : Option X}
    (kept : ∀ old, rows key = some old → ∃ later, row = some later ∧ rel old later) :
    ∀ id old, rows id = some old →
      ∃ later, Function.update rows key row id = some later ∧ rel old later := by
  intro id old found
  by_cases same : id = key
  · subst same
    simpa using kept old found
  · exact ⟨old, by rw [Function.update_of_ne same, found], refl old⟩

theorem update_found {X : Type} {rows : Uuid → Option X} {key id : Uuid} {row found : X}
    (present : Function.update rows key (some row) id = some found) :
    (id = key ∧ row = found) ∨ rows id = some found := by
  by_cases same : id = key
  · subst same
    rw [Function.update_self] at present
    exact .inl ⟨rfl, Option.some.inj present⟩
  · exact .inr ((Function.update_of_ne same ..).symm.trans present)

theorem recordLeg_evolves (delivery : Delivery) {order : Order} (unsettled : order.status = .pending)
    (status : OrderStatus) : order.Evolves { delivery.record order with status } := by
  refine ⟨?_, ?_, fun settled => absurd unsettled settled⟩ <;>
    simp only [Delivery.record, OrderService.Order.recordLeg] <;> split <;> rfl

theorem Keeps.refl (reservation : Reservation) : reservation.Keeps reservation := rfl

section Steps

variable {config : Config} {ledger after : Ledger} {decision : Decision}

theorem Grows.refl (ledger : Ledger) : ledger.Grows ledger where
  order := fun _ order found => ⟨order, found, Evolves.refl order⟩
  payment := fun _ _ found => found
  reservation := fun _ _ found => ⟨_, found, Keeps.refl _⟩
  emitted := fun _ member => member
  nextUuid := Nat.le_refl _

theorem Step.grows (step : ledger.Step config decision after) : ledger.Grows after := by
  have same := Grows.refl ledger
  cases step with
  | idle next later => exact { same with nextUuid := later }
  | placed next order event unknown _ _ _ _ drawn =>
      refine { same with order := ?_, emitted := Set.subset_insert _ _, nextUuid := ?_ }
      · refine update_grows Evolves.refl fun old found => ?_
        cases unknown.symm.trans found
      · exact drawn.le
  | charged next job _ uncharged _ _ drawn =>
      refine { same with payment := ?_, emitted := Set.subset_insert _ _, nextUuid := ?_ }
      · intro orderId payment found
        have other : orderId ≠ job.order.orderId := by
          rintro rfl
          cases uncharged.symm.trans found
        exact (Function.update_of_ne other ..).trans found
      · exact drawn.le
  | rejected next _ _ _ _ drawn =>
      exact { same with
        emitted := Set.subset_insert _ _
        nextUuid := drawn.le }
  | reserved next _ _ unreserved _ _ drawn =>
      refine { same with reservation := ?_, emitted := Set.subset_insert _ _, nextUuid := ?_ }
      · refine update_grows Keeps.refl fun old found => ?_
        cases unreserved.symm.trans found
      · exact drawn.le
  | released next later event =>
      refine { same with reservation := ?_, nextUuid := later }
      refine update_grows Keeps.refl fun old found => ⟨old.release, ?_, rfl⟩
      rw [found]
      rfl
  | skipped next later => exact { same with nextUuid := later }
  | recorded next later delivery _ _ order found unsettled =>
      refine { same with order := ?_, nextUuid := later }
      refine update_grows Evolves.refl fun old present => ⟨_, rfl, ?_⟩
      cases found.symm.trans present
      exact recordLeg_evolves delivery unsettled _
  | settled next delivery _ _ order found unsettled status _ _ drawn =>
      refine { same with order := ?_, emitted := Set.subset_insert _ _, nextUuid := ?_ }
      · refine update_grows Evolves.refl fun old present => ⟨_, rfl, ?_⟩
        cases found.symm.trans present
        exact recordLeg_evolves delivery unsettled _
      · exact drawn.le
  | notified next later => exact { same with nextUuid := later }

section Terminal

variable (orderId : Uuid) (order : Order) (status : OrderStatus)

theorem terminal_stage : (OrderService.terminalPayload orderId order status).stage = .settled := by
  cases status <;> rfl

theorem terminal_orderId : (OrderService.terminalPayload orderId order status).orderId = orderId := by
  cases status <;> rfl

theorem terminal_topic : OrderService.terminalTopic status =
    (OrderService.terminalPayload orderId order status).topic := by
  cases status <;> rfl

theorem stage_of_cancelled {payload : Payload} (topic : payload.topic = .ordersCancelled) :
    payload.stage = .settled := by
  cases payload <;> first | rfl | cases topic

end Terminal

structure News (before after : Ledger) (event : EventEnvelope) : Prop where
  emitted : after.emitted = insert event before.emitted
  drawn : before.Drawn after.nextUuid event.eventId
  typed : event.eventType = event.payload.topic
  reported : after.Reported event.payload
  known : after.order event.orderId ≠ none
  first : ∀ old ∈ before.emitted, old.orderId = event.orderId → old.stage ≠ event.stage

theorem charging_orderId (job : Charging) : job.event.orderId = job.order.orderId := by
  rw [EventEnvelope.orderId, job.created]
  rfl

theorem charging_stage (job : Charging) : job.event.stage = .placed := by
  rw [EventEnvelope.stage, job.created]
  rfl

theorem reserving_orderId (job : Reserving) : job.event.orderId = job.order.orderId := by
  rw [EventEnvelope.orderId, job.created]
  rfl

theorem reserving_stage (job : Reserving) : job.event.stage = .placed := by
  rw [EventEnvelope.stage, job.created]
  rfl

section Outcome

variable (config : PaymentService.Config) (job : Charging) (paymentId : Uuid)

theorem charging_payload_orderId : (job.payload config paymentId).orderId = job.order.orderId := by
  unfold Charging.payload
  split <;> rfl

theorem charging_payload_stage : (job.payload config paymentId).stage = .charged := by
  unfold Charging.payload
  split <;> rfl

theorem charging_payload_topic : (job.payload config paymentId).topic = job.topic config := by
  unfold Charging.payload Charging.topic
  split <;> rfl

theorem charging_payment_status : (job.payment config paymentId).status =
    if config.declined job.order.totalAmountCents then .failed else .completed := by
  unfold Charging.payment
  split <;> rfl

theorem charging_reported {ledger : Ledger} (found : ledger.payment job.order.orderId =
    some (job.payment config paymentId)) : ledger.Reported (job.payload config paymentId) := by
  have status := charging_payment_status config job paymentId
  unfold Charging.payload
  split at status <;> next declined =>
    simp only [declined, Bool.false_eq_true, if_true, if_false]
    exact ⟨_, found, status⟩

theorem charging_payment_amount :
    (job.payment config paymentId).amountCents = job.order.totalAmountCents := by
  unfold Charging.payment
  split <;> rfl

end Outcome

theorem Pending.unanswered {service : Service} {created : EventEnvelope} {stage : Stage}
    (pending : ledger.Pending service created) (sound : ledger.Sound config)
    (placed : created.stage = .placed) (answer : service.answer = some stage) :
    ∀ old ∈ ledger.emitted, old.orderId = created.orderId → old.stage ≠ stage := by
  intro old emitted same about
  have answered := (sound.answered created pending.emitted placed service stage answer).mpr
    ⟨old, emitted, same, about⟩
  exact pending.unprocessed answered

/-- The order of a job that has not been handled is there, and inventory has not answered. -/
theorem Pending.unreserved {job : Reserving} (pending : ledger.Pending .inventory job.event)
    (sound : ledger.Sound config) : ledger.order job.order.orderId ≠ none ∧
      ∀ old ∈ ledger.emitted, old.orderId = job.order.orderId → old.stage ≠ .stocked := by
  rw [← reserving_orderId job]
  exact ⟨sound.known job.event pending.emitted, pending.unanswered sound (reserving_stage job) rfl⟩

theorem Sound.settled_of_emitted (sound : ledger.Sound config) {event : EventEnvelope}
    (emitted : event ∈ ledger.emitted) (stage : event.stage = .settled) :
    ∃ order, ledger.order event.orderId = some order ∧ order.status ≠ .pending := by
  have reported := sound.reported event emitted
  rw [EventEnvelope.stage] at stage
  rw [EventEnvelope.orderId]
  cases payload : event.payload <;> rw [payload] at stage reported <;> try cases stage
  case orderConfirmed =>
    obtain ⟨order, found, status, _⟩ := reported
    exact ⟨order, found, by simp [status]⟩
  case orderCancelled =>
    obtain ⟨order, found, status⟩ := reported
    exact ⟨order, found, by simp [status]⟩

theorem Step.news (step : ledger.Step config decision after) (sound : ledger.Sound config) :
    after.emitted = ledger.emitted ∨ ∃ event, ledger.News after event := by
  cases step with
  | idle | released | skipped | recorded | notified => exact .inl rfl
  | placed next order event unknown _ _ payload topic drawn =>
      have about : event.orderId = order.id := by rw [EventEnvelope.orderId, payload]; rfl
      refine .inr ⟨event, rfl, drawn, ?_, ?_, ?_, ?_⟩
      · rw [payload, topic]
        rfl
      · rw [payload]
        exact ⟨order, Function.update_self .., rfl⟩
      · rw [about]
        simp [emit]
      · intro old emitted same
        exact absurd unknown (about ▸ same ▸ sound.known old emitted)
  | charged next job pending uncharged paymentId eventId drawn =>
      refine .inr ⟨_, rfl, drawn, (charging_payload_topic ..).symm, ?_, ?_, ?_⟩
      · exact charging_reported _ job paymentId (Function.update_self ..)
      · have known := sound.known job.event pending.emitted
        rw [charging_orderId] at known
        simpa [EventEnvelope.orderId, Charging.outcome, NewEvent.envelope, charging_payload_orderId]
          using known
      · intro old emitted same
        simp only [EventEnvelope.orderId, EventEnvelope.stage, Charging.outcome, NewEvent.envelope,
          charging_payload_orderId, charging_payload_stage] at same ⊢
        exact pending.unanswered sound (charging_stage job) rfl old emitted
          (same.trans (charging_orderId job).symm)
  | rejected next job pending shortfalls eventId drawn =>
      obtain ⟨known, unanswered⟩ := pending.unreserved sound
      exact .inr ⟨_, rfl, drawn, rfl, trivial, known, unanswered⟩
  | reserved next job pending unreserved reservationId eventId drawn =>
      obtain ⟨known, unanswered⟩ := pending.unreserved sound
      exact .inr ⟨_, rfl, drawn, rfl, ⟨_, Function.update_self ..⟩, known, unanswered⟩
  | settled next delivery pending outcome order found unsettled status decided eventId drawn =>
      have present : (Function.update ledger.order delivery.orderId
          (some { delivery.record order with status })) delivery.orderId =
            some { delivery.record order with status } := Function.update_self ..
      -- An order with a terminal event would not be PENDING.
      have first : ∀ old ∈ ledger.emitted, old.orderId = delivery.orderId → old.stage ≠ .settled := by
        intro old emitted same stage
        obtain ⟨other, there, settled⟩ := sound.settled_of_emitted emitted stage
        rw [same, found, Option.some.injEq] at there
        exact settled (there ▸ unsettled)
      have known : Function.update ledger.order delivery.orderId
          (some { delivery.record order with status })
            (OrderService.terminalPayload delivery.orderId (delivery.record order) status).orderId ≠
              none := by
        rw [terminal_orderId, Function.update_self]
        simp
      refine .inr ⟨_, rfl, drawn, terminal_topic .., ?_, known, ?_⟩
      · rcases OrderService.settlement_cases decided with rfl | rfl
        · exact ⟨_, present, rfl⟩
        · exact ⟨_, present, rfl, rfl⟩
      · intro old emitted same stage
        exact first old emitted (same.trans (terminal_orderId ..)) (stage.trans (terminal_stage ..))

theorem Step.events (step : ledger.Step config decision after) (sound : ledger.Sound config)
    {about : EventEnvelope → Prop} (old : ∀ event ∈ ledger.emitted, about event)
    (new : ∀ event, ledger.News after event → about event) :
    ∀ event ∈ after.emitted, about event := by
  intro event emitted
  rcases step.news sound with same | ⟨latest, news⟩
  · exact old event (same ▸ emitted)
  · rcases Set.mem_insert_iff.mp (news.emitted ▸ emitted) with rfl | earlier
    · exact new event news
    · exact old event earlier

theorem Step.identified (step : ledger.Step config decision after) (sound : ledger.Sound config) :
    ∀ one ∈ after.emitted, ∀ two ∈ after.emitted, one.eventId = two.eventId → one = two := by
  rcases step.news sound with same | ⟨latest, news⟩
  · exact same ▸ sound.identified
  · have fresh : ∀ old ∈ ledger.emitted, old.eventId ≠ latest.eventId := fun old emitted =>
      Nat.ne_of_lt (Nat.lt_of_lt_of_le (sound.drawn old emitted) news.drawn.1)
    rw [news.emitted]
    rintro one (rfl | oneOld) two (rfl | twoOld) same
    · rfl
    · exact absurd same.symm (fresh two twoOld)
    · exact absurd same (fresh one oneOld)
    · exact sound.identified one oneOld two twoOld same

theorem Step.once (step : ledger.Step config decision after) (sound : ledger.Sound config) :
    ∀ one ∈ after.emitted, ∀ two ∈ after.emitted, one.orderId = two.orderId →
      one.stage = two.stage → one = two := by
  rcases step.news sound with same | ⟨latest, news⟩
  · exact same ▸ sound.once
  · rw [news.emitted]
    rintro one (rfl | oneOld) two (rfl | twoOld) order stage
    · rfl
    · exact absurd stage.symm (news.first two twoOld order.symm)
    · exact absurd stage (news.first one oneOld order)
    · exact sound.once one oneOld two twoOld order stage

theorem Step.processed (step : ledger.Step config decision after) :
    after.processed = ledger.processed ∨ ∃ service event, ledger.Pending service event ∧
      after.processed = Function.update ledger.processed service
        (insert event.eventId (ledger.processed service)) := by
  cases step with
  | idle | placed => exact .inl rfl
  | charged _ _ pending | rejected _ _ pending | reserved _ _ pending | released _ _ _ pending
  | skipped _ _ _ pending | recorded _ _ _ pending | settled _ _ pending
  | notified _ _ _ pending => exact .inr ⟨_, _, pending, rfl⟩

theorem Step.processed_drawn (step : ledger.Step config decision after)
    (sound : ledger.Sound config) :
    ∀ service, ∀ eventId ∈ after.processed service, eventId < after.nextUuid := by
  intro service eventId processed
  refine Nat.lt_of_lt_of_le ?_ step.grows.nextUuid
  rcases step.processed with same | ⟨other, event, pending, inserted⟩
  · exact sound.processed service eventId (same ▸ processed)
  · rw [inserted] at processed
    by_cases own : service = other
    · subst own
      rw [Function.update_self] at processed
      rcases processed with rfl | old
      · exact sound.drawn event pending.emitted
      · exact sound.processed service eventId old
    · rw [Function.update_of_ne own] at processed
      exact sound.processed service eventId processed

theorem answer_ne_placed {service : Service} {stage : Stage} (answer : service.answer = some stage) :
    stage ≠ .placed ∧ stage ≠ .settled := by
  cases service <;> cases answer <;> simp

theorem answer_injective {one two : Service} {stage : Stage} (first : one.answer = some stage)
    (second : two.answer = some stage) : one = two := by
  cases one <;> cases two <;> cases first <;> first | rfl | cases second

def Answered (ledger : Ledger) (created : EventEnvelope) : Prop :=
  ∀ service stage, service.answer = some stage → (created.eventId ∈ ledger.processed service ↔
    ledger.Emits created.orderId fun payload => payload.stage = stage)

theorem Pending.answered {service : Service} {event answer created : EventEnvelope} {stage : Stage}
    (pending : ledger.Pending service event) (sound : ledger.Sound config)
    (placed : event.stage = .placed) (answers : service.answer = some stage)
    (about : answer.orderId = event.orderId) (stated : answer.stage = stage)
    (processed : after.processed = Function.update ledger.processed service
      (insert event.eventId (ledger.processed service)))
    (emitted : after.emitted = insert answer ledger.emitted)
    (old : created ∈ ledger.emitted) (isPlaced : created.stage = .placed) :
    after.Answered created := by
  intro other otherStage otherAnswers
  have before := sound.answered created old isPlaced other otherStage otherAnswers
  have emits : after.Emits created.orderId (fun payload => payload.stage = otherStage) ↔
      (answer.orderId = created.orderId ∧ stage = otherStage) ∨
        ledger.Emits created.orderId fun payload => payload.stage = otherStage := by
    simp only [Emits, emitted, Set.mem_insert_iff, or_and_right, exists_or, exists_eq_left]
    rw [← stated]
  rw [emits, ← before, processed]
  by_cases own : other = service
  · subst own
    have sameStage : stage = otherStage := Option.some.inj (answers.symm.trans otherAnswers)
    -- The event of the order is the one that is processed.
    have same : created.eventId = event.eventId ↔ answer.orderId = created.orderId := by
      rw [about]
      constructor
      · intro sameId
        rw [sound.identified created old event pending.emitted sameId]
      · intro sameOrder
        rw [sound.once created old event pending.emitted sameOrder.symm (isPlaced.trans placed.symm)]
    rw [Function.update_self, Set.mem_insert_iff, same, and_iff_left sameStage]
  · have otherStages : stage ≠ otherStage := by
      rintro rfl
      exact own (answer_injective otherAnswers answers)
    rw [Function.update_of_ne own]
    simp [otherStages]

theorem Sound.answered_of_unrelated {created : EventEnvelope} (sound : ledger.Sound config)
    (processed : ∀ service, service.answer ≠ none → (created.eventId ∈ after.processed service ↔
      created.eventId ∈ ledger.processed service))
    (emitted : after.emitted = ledger.emitted ∨ ∃ event, after.emitted = insert event ledger.emitted ∧
      (event.stage = .placed ∨ event.stage = .settled))
    (old : created ∈ ledger.emitted) (isPlaced : created.stage = .placed) :
    after.Answered created := by
  intro service stage answers
  rw [processed service (by simp [answers]), sound.answered created old isPlaced service stage answers]
  rcases emitted with same | ⟨event, inserted, unrelated⟩
  · simp only [Emits, same]
  · have different : event.stage ≠ stage := by
      have stages := answer_ne_placed answers
      rcases unrelated with same | same <;> rw [same]
      · exact stages.1.symm
      · exact stages.2.symm
    simp only [Emits, inserted, Set.mem_insert_iff, or_and_right, exists_or, exists_eq_left]
    rw [or_iff_right (fun both => different both.2)]

theorem process_unanswering {service : Service} (silent : service.answer = none)
    (event : EventEnvelope) (next : Uuid) (eventId : Uuid) :
    ∀ other : Service, other.answer ≠ none →
      (eventId ∈ (ledger.process service event next).processed other ↔
        eventId ∈ ledger.processed other) := by
  intro other answers
  have different : other ≠ service := by
    rintro rfl
    exact answers silent
  simp [process, Function.update_of_ne different]

theorem Step.answered (step : ledger.Step config decision after) (sound : ledger.Sound config) :
    ∀ created ∈ after.emitted, created.stage = .placed → after.Answered created := by
  intro created emitted isPlaced
  cases step with
  | idle => exact sound.answered created emitted isPlaced
  | placed next order event unknown _ _ payload _ drawn =>
      have stage : event.stage = .placed := by rw [EventEnvelope.stage, payload]; rfl
      have about : event.orderId = order.id := by rw [EventEnvelope.orderId, payload]; rfl
      rcases Set.mem_insert_iff.mp emitted with rfl | old
      · -- Nobody can have processed or answered the new event.
        intro service answer answers
        refine iff_of_false (fun processed => ?_) ?_
        · exact absurd (sound.processed service _ processed) (Nat.not_lt_of_le drawn.1)
        · rintro ⟨other, rfl | old, same, stated⟩
          · exact (answer_ne_placed answers).1 (stated.symm.trans stage)
          · exact sound.known other old (same.trans about ▸ unknown)
      · exact sound.answered_of_unrelated (fun _ _ => Iff.rfl) (.inr ⟨event, rfl, .inl stage⟩) old
          isPlaced
  | charged next job pending _ paymentId eventId =>
      have stage := charging_payload_stage config.payments job paymentId
      rcases Set.mem_insert_iff.mp emitted with rfl | old
      · cases stage.symm.trans isPlaced
      · exact pending.answered sound (charging_stage job) rfl
          ((charging_payload_orderId ..).trans (charging_orderId job).symm) stage rfl rfl old isPlaced
  | rejected next job pending shortfalls eventId =>
      have about : (job.rejectedRow shortfalls eventId).payload.orderId = job.event.orderId :=
        (reserving_orderId job).symm
      rcases Set.mem_insert_iff.mp emitted with rfl | old
      · cases isPlaced
      · exact pending.answered sound (reserving_stage job) rfl about rfl rfl rfl old isPlaced
  | reserved next job pending _ reservationId eventId =>
      have about : (job.reservedRow reservationId eventId).payload.orderId = job.event.orderId :=
        (reserving_orderId job).symm
      rcases Set.mem_insert_iff.mp emitted with rfl | old
      · cases isPlaced
      · exact pending.answered sound (reserving_stage job) rfl about rfl rfl rfl old isPlaced
  | released next _ event pending topic =>
      refine sound.answered_of_unrelated (fun service _ => ?_) (.inl rfl) emitted isPlaced
      have different : created.eventId ≠ event.eventId := by
        intro same
        rw [sound.identified created emitted event pending.emitted same, EventEnvelope.stage,
          stage_of_cancelled (sound.typed event pending.emitted ▸ topic)] at isPlaced
        cases isPlaced
      by_cases own : service = .inventory
      · subst own
        simp [process, different]
      · simp [process, Function.update_of_ne own]
  | skipped _ _ event | recorded _ _ event =>
      exact sound.answered_of_unrelated (process_unanswering rfl _ _ _) (.inl rfl) emitted isPlaced
  | settled next delivery _ _ order _ _ status _ eventId =>
      have stage := terminal_stage delivery.orderId (delivery.record order) status
      rcases Set.mem_insert_iff.mp emitted with rfl | old
      · cases stage.symm.trans isPlaced
      · exact sound.answered_of_unrelated (process_unanswering rfl _ _ _) (.inr ⟨_, rfl, .inr stage⟩)
          old isPlaced
  | notified =>
      exact sound.answered_of_unrelated (process_unanswering rfl _ _ _) (.inl rfl) emitted isPlaced

inductive OrderRow (ledger after : Ledger) (orderId : Uuid) (order : Order) : Prop
  | kept (found : ledger.order orderId = some order)
  | placed (unknown : ledger.order orderId = none)
      (begins : order.status = .pending ∧ order.paymentStatus = .pending ∧
        order.inventoryStatus = .pending) (total : order.totalAmountCents = OrderService.itemsTotal order.items)
      (announced : after.Emits orderId fun payload => payload.stage = .placed)
  | recorded (delivery : Delivery) (about : delivery.orderId = orderId)
      (pending : ledger.Pending .order delivery.event)
      (outcome : delivery.event.payload.outcome = some (delivery.leg, delivery.outcome))
      (before : Order) (found : ledger.order orderId = some before)
      (unsettled : before.status = .pending) (status : OrderStatus)
      (decided : (delivery.record before).settlement.getD .pending = status)
      (row : order = { delivery.record before with status })
      (terminal : status ≠ .pending → after.Emits orderId fun payload => payload.stage = .settled)

theorem Step.orderRow (step : ledger.Step config decision after) {orderId : Uuid} {order : Order}
    (found : after.order orderId = some order) : OrderRow ledger after orderId order := by
  cases step with
  | idle | charged | rejected | reserved | released | skipped | notified => exact .kept found
  | placed next placed event unknown begins total payload =>
      rcases update_found found with ⟨rfl, rfl⟩ | kept
      · have about : event.orderId = placed.id := by rw [EventEnvelope.orderId, payload]; rfl
        have stage : event.stage = .placed := by rw [EventEnvelope.stage, payload]; rfl
        exact .placed unknown begins total ⟨event, Set.mem_insert _ _, about, stage⟩
      · exact .kept kept
  | recorded next _ delivery pending outcome before there unsettled undecided =>
      rcases update_found found with ⟨rfl, rfl⟩ | kept
      · refine .recorded delivery rfl pending outcome before there unsettled .pending ?_ ?_ ?_
        · rw [undecided]
          rfl
        · rw [← unsettled, ← OrderService.recordLeg_status before delivery.leg delivery.outcome]
        · exact fun settled => absurd rfl settled
      · exact .kept kept
  | settled next delivery pending outcome before there unsettled status decided eventId =>
      rcases update_found found with ⟨rfl, rfl⟩ | kept
      · refine .recorded delivery rfl pending outcome before there unsettled status ?_ rfl ?_
        · rw [decided]
          rfl
        · exact fun _ => ⟨_, Set.mem_insert _ _, terminal_orderId .., terminal_stage ..⟩
      · exact .kept kept

theorem record_asked (delivery : Delivery) (order : Order) (status : OrderStatus) :
    ({ delivery.record order with status } : Order).totalAmountCents = order.totalAmountCents ∧
      ({ delivery.record order with status } : Order).items = order.items := by
  simp only [Delivery.record, OrderService.Order.recordLeg]
  split <;> exact ⟨rfl, rfl⟩

theorem Step.total (step : ledger.Step config decision after) (sound : ledger.Sound config) :
    ∀ orderId order, after.order orderId = some order →
      order.totalAmountCents = OrderService.itemsTotal order.items := by
  intro orderId order found
  cases step.orderRow found with
  | kept found => exact sound.total orderId order found
  | placed _ _ total => exact total
  | recorded delivery _ _ _ before found _ status _ row =>
      have asked := record_asked delivery before status
      rw [row, asked.1, asked.2]
      exact sound.total orderId before found

theorem Step.announced (step : ledger.Step config decision after) (sound : ledger.Sound config) :
    ∀ orderId order, after.order orderId = some order →
      after.Emits orderId fun payload => payload.stage = .placed := by
  intro orderId order found
  cases step.orderRow found with
  | kept found => exact (sound.announced orderId order found).grows step.grows
  | placed _ _ _ announced => exact announced
  | recorded _ _ _ _ before found => exact (sound.announced orderId before found).grows step.grows

theorem record_leg (delivery : Delivery) (order : Order) (status : OrderStatus) (leg : Leg) :
    ({ delivery.record order with status } : Order).leg leg =
      if leg = delivery.leg then delivery.outcome.legStatus else order.leg leg := by
  rw [OrderService.leg_status]
  split
  · next own =>
      rw [own]
      exact OrderService.recordLeg_leg ..
  · next other => exact OrderService.recordLeg_other order delivery.outcome other

theorem Step.legs (step : ledger.Step config decision after) (sound : ledger.Sound config) :
    ∀ orderId order, after.order orderId = some order → ∀ leg,
      order.leg leg = .pending ∨ ∃ outcome : Outcome,
        order.leg leg = outcome.legStatus ∧
          after.Emits orderId fun payload => payload.outcome = some (leg, outcome) := by
  intro orderId order found leg
  have kept {before : Order} (found : ledger.order orderId = some before) :
      before.leg leg = .pending ∨ ∃ outcome : Outcome,
        before.leg leg = outcome.legStatus ∧
          after.Emits orderId fun payload => payload.outcome = some (leg, outcome) := by
    rcases sound.legs orderId before found leg with waiting | ⟨outcome, same, emits⟩
    · exact .inl waiting
    · exact .inr ⟨outcome, same, emits.grows step.grows⟩
  cases step.orderRow found with
  | kept found => exact kept found
  | placed _ begins =>
      left
      cases leg
      · exact begins.2.1
      · exact begins.2.2
  | recorded delivery about pending outcome before found _ status _ row =>
      rw [row, record_leg]
      split
      · next own =>
          refine .inr ⟨delivery.outcome, rfl, delivery.event, step.grows.emitted pending.emitted, about,
            ?_⟩
          rw [own]
          exact outcome
      · exact kept found

theorem Step.decided (step : ledger.Step config decision after) (sound : ledger.Sound config) :
    ∀ orderId order, after.order orderId = some order →
      order.settlement.getD .pending = order.status := by
  intro orderId order found
  cases step.orderRow found with
  | kept found => exact sound.decided orderId order found
  | placed _ begins =>
      rw [begins.1]
      simp [OrderService.Order.settlement, begins]
  | recorded delivery _ _ _ before _ _ status decided row =>
      rw [row, OrderService.settlement_status]
      exact decided

theorem Step.terminal (step : ledger.Step config decision after) (sound : ledger.Sound config) :
    ∀ orderId order, after.order orderId = some order → order.status ≠ .pending →
      after.Emits orderId fun payload => payload.stage = .settled := by
  intro orderId order found settled
  cases step.orderRow found with
  | kept found => exact (sound.terminal orderId order found settled).grows step.grows
  | placed _ begins => exact absurd begins.1 settled
  | recorded _ _ _ _ _ _ _ _ _ row terminal =>
      rw [row] at settled
      exact terminal settled

theorem stage_of_outcome {one two : Payload} {leg : Leg} {first second : Outcome}
    (oneOutcome : one.outcome = some (leg, first)) (twoOutcome : two.outcome = some (leg, second)) :
    one.stage = two.stage := by
  cases one <;> cases oneOutcome <;> cases two <;> first | rfl | cases twoOutcome

theorem Step.processed_order (step : ledger.Step config decision after) {eventId : Uuid}
    (processed : eventId ∈ after.processed .order) :
    eventId ∈ ledger.processed .order ∨ ∃ event, ledger.Pending .order event ∧
      event.eventId = eventId ∧
        ((after.order = ledger.order ∧
            ∀ order, ledger.order event.orderId = some order → order.status ≠ .pending) ∨
          ∃ leg outcome, event.payload.outcome = some (leg, outcome) ∧
            ∃ order, after.order event.orderId = some order ∧
              order.leg leg = outcome.legStatus) := by
  cases step with
  | idle | placed => exact .inl processed
  | charged | rejected | reserved | released | notified =>
      simp [process] at processed
      exact .inl processed
  | skipped _ _ event pending settled =>
      rcases processed with rfl | old
      · exact .inr ⟨event, pending, rfl, .inl ⟨rfl, settled⟩⟩
      · exact .inl old
  | recorded _ _ delivery pending outcome order =>
      rcases processed with rfl | old
      · refine .inr ⟨delivery.event, pending, rfl, .inr ⟨_, _, outcome, _, Function.update_self .., ?_⟩⟩
        exact (record_leg delivery order (delivery.record order).status _).trans (if_pos rfl)
      · exact .inl old
  | settled _ delivery pending outcome order _ _ status =>
      rcases processed with rfl | old
      · refine .inr ⟨delivery.event, pending, rfl, .inr ⟨_, _, outcome, _, Function.update_self .., ?_⟩⟩
        exact (record_leg delivery order status _).trans (if_pos rfl)
      · exact .inl old

theorem Step.reports_recorded (step : ledger.Step config decision after) (sound : ledger.Sound config) :
    ∀ event ∈ after.emitted, ∀ leg outcome, event.payload.outcome = some (leg, outcome) →
      event.eventId ∈ after.processed .order → ∃ order, after.order event.orderId = some order ∧
        (order.status ≠ .pending ∨ order.leg leg = outcome.legStatus) := by
  intro event emitted leg outcome stated processed
  rcases step.processed_order processed with old | ⟨other, pending, sameId, became⟩
  · have emittedBefore : event ∈ ledger.emitted := by
      rcases step.news sound with same | ⟨latest, news⟩
      · exact same ▸ emitted
      · rcases Set.mem_insert_iff.mp (news.emitted ▸ emitted) with rfl | earlier
        · exact absurd (sound.processed _ _ old) (Nat.not_lt_of_le news.drawn.1)
        · exact earlier
    obtain ⟨order, found, holds⟩ := sound.recorded event emittedBefore leg outcome stated old
    obtain ⟨later, foundLater, evolves⟩ := step.grows.order _ _ found
    refine ⟨later, foundLater, ?_⟩
    rcases holds with settled | recorded
    · rw [evolves.settled settled]
      exact .inl settled
    · cases step.orderRow foundLater with
      | kept found' =>
          cases found.symm.trans found'
          exact .inr recorded
      | placed unknown => cases found.symm.trans unknown
      | recorded delivery about pending delivered before found' _ status _ row =>
          cases found.symm.trans found'
          rw [row, record_leg]
          split
          · next own =>
              -- Only one event reports on the leg, and it was processed before.
              subst own
              have same := sound.once delivery.event pending.emitted event emittedBefore about
                (stage_of_outcome delivered stated)
              exact absurd (same ▸ old) pending.unprocessed
          · exact .inr recorded
  · have same : event = other := by
      rcases step.news sound with same | ⟨latest, news⟩
      · exact sound.identified event (same ▸ emitted) other pending.emitted sameId.symm
      · exact step.identified sound event emitted other (step.grows.emitted pending.emitted)
          sameId.symm
    subst same
    rcases became with ⟨sameOrders, settled⟩ | ⟨otherLeg, otherOutcome, otherSays, order, found, leg⟩
    · obtain ⟨order, found⟩ := Option.ne_none_iff_exists'.mp (sound.known event pending.emitted)
      exact ⟨order, sameOrders ▸ found, .inl (settled order found)⟩
    · cases stated.symm.trans otherSays
      exact ⟨order, found, .inr leg⟩

theorem Step.paid (step : ledger.Step config decision after) (sound : ledger.Sound config) :
    ∀ orderId payment, after.payment orderId = some payment →
      ∃ order, after.order orderId = some order ∧
        payment.amountCents = order.totalAmountCents ∧
        payment.status =
          if config.payments.declined order.totalAmountCents then .failed else .completed := by
  intro orderId payment found
  have kept (found : ledger.payment orderId = some payment) :
      ∃ order, after.order orderId = some order ∧
        payment.amountCents = order.totalAmountCents ∧
        payment.status =
          if config.payments.declined order.totalAmountCents then .failed else .completed := by
    obtain ⟨order, there, amount, status⟩ := sound.paid orderId payment found
    obtain ⟨later, thereLater, evolves⟩ := step.grows.order _ _ there
    have total : later.totalAmountCents = order.totalAmountCents :=
      congrArg OrderCreatedPayload.totalAmountCents evolves.asked
    exact ⟨later, thereLater, total ▸ amount, total ▸ status⟩
  cases step with
  | idle | placed | rejected | reserved | released | skipped | recorded | settled | notified =>
      exact kept found
  | charged next job pending uncharged paymentId =>
      rcases update_found found with ⟨rfl, rfl⟩ | old
      · have reported := sound.reported job.event pending.emitted
        rw [job.created] at reported
        obtain ⟨order, there, asked⟩ := reported
        have total : order.totalAmountCents = job.order.totalAmountCents :=
          congrArg OrderCreatedPayload.totalAmountCents asked
        exact ⟨order, there, (charging_payment_amount ..).trans total.symm,
          total ▸ charging_payment_status ..⟩
      · exact kept old

theorem Step.stocked (step : ledger.Step config decision after) (sound : ledger.Sound config) :
    ∀ orderId reservation, after.reservation orderId = some reservation →
      (∃ order, after.order orderId = some order ∧
        reservation.items = order.items.map InventoryService.reservedItem) ∧
      after.Emits orderId (fun payload => payload.outcome = some (.inventory, .succeeded)) ∧
      (reservation.status = .released →
        after.Emits orderId fun payload => payload.topic = .ordersCancelled) := by
  intro orderId reservation found
  have kept {before : Reservation} (found : ledger.reservation orderId = some before) :
      (∃ order, after.order orderId = some order ∧
        before.items = order.items.map InventoryService.reservedItem) ∧
      after.Emits orderId (fun payload => payload.outcome = some (.inventory, .succeeded)) ∧
      (before.status = .released →
        after.Emits orderId fun payload => payload.topic = .ordersCancelled) := by
    obtain ⟨⟨order, there, items⟩, emits, released⟩ := sound.stocked orderId before found
    obtain ⟨later, thereLater, evolves⟩ := step.grows.order _ _ there
    have asked : later.items = order.items := congrArg OrderCreatedPayload.items evolves.asked
    exact ⟨⟨later, thereLater, asked ▸ items⟩, emits.grows step.grows,
      fun status => (released status).grows step.grows⟩
  cases step with
  | idle | placed | charged | rejected | skipped | recorded | settled | notified => exact kept found
  | reserved next job pending unreserved reservationId eventId =>
      rcases update_found found with ⟨rfl, rfl⟩ | old
      · have reported := sound.reported job.event pending.emitted
        rw [job.created] at reported
        obtain ⟨order, there, asked⟩ := reported
        have items : order.items = job.order.items := congrArg OrderCreatedPayload.items asked
        refine ⟨⟨order, there, ?_⟩, ⟨_, Set.mem_insert _ _, rfl, rfl⟩, fun released => nomatch released⟩
        rw [items]
        rfl
      · exact kept old
  | released next later event pending topic =>
      by_cases same : orderId = event.orderId
      · subst same
        simp only [process_reservation, Function.update_self, Option.map_eq_some_iff] at found
        obtain ⟨before, there, rfl⟩ := found
        obtain ⟨order, emits, -⟩ := kept there
        have cancelled := sound.typed event pending.emitted ▸ topic
        exact ⟨order, emits, fun _ => ⟨event, pending.emitted, rfl, cancelled⟩⟩
      · exact kept ((Function.update_of_ne same ..).symm.trans found)

theorem Step.told (step : ledger.Step config decision after) (sound : ledger.Sound config) :
    ∀ orderId, ∀ kind ∈ after.notified orderId, after.Emits orderId fun payload =>
      NotificationService.notificationKind payload = some kind := by
  intro orderId kind told
  have kept (told : kind ∈ ledger.notified orderId) : after.Emits orderId fun payload =>
      NotificationService.notificationKind payload = some kind :=
    (sound.told orderId kind told).grows step.grows
  cases step with
  | idle | placed | charged | rejected | reserved | released | skipped | recorded | settled =>
      exact kept told
  | notified next later event pending newKind asked =>
      by_cases same : orderId = event.orderId
      · subst same
        have inserted : kind ∈ insert newKind (ledger.notified event.orderId) := by
          simpa [process] using told
        rcases inserted with rfl | old
        · exact ⟨event, pending.emitted, rfl, asked⟩
        · exact kept old
      · exact kept (by simpa [process, Function.update_of_ne same] using told)

theorem Step.sound (step : ledger.Step config decision after) (sound : ledger.Sound config) :
    after.Sound config where
  drawn := step.events sound
    (fun event emitted => Nat.lt_of_lt_of_le (sound.drawn event emitted) step.grows.nextUuid)
    fun _ news => news.drawn.2
  identified := step.identified sound
  typed := step.events sound sound.typed fun _ news => news.typed
  reported := step.events sound (fun event emitted => (sound.reported event emitted).grows step.grows)
    fun _ news => news.reported
  known := by
    refine step.events sound (fun event emitted => ?_) fun _ news => news.known
    obtain ⟨order, found⟩ := Option.ne_none_iff_exists'.mp (sound.known event emitted)
    obtain ⟨later, foundLater, _⟩ := step.grows.order _ _ found
    simp [foundLater]
  once := step.once sound
  processed := step.processed_drawn sound
  answered := step.answered sound
  total := step.total sound
  announced := step.announced sound
  legs := step.legs sound
  decided := step.decided sound
  terminal := step.terminal sound
  recorded := step.reports_recorded sound
  paid := step.paid sound
  stocked := step.stocked sound
  told := step.told sound

end Steps

end Ledger

end Ecommerce
