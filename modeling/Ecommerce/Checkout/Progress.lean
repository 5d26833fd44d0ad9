import Ecommerce.Checkout.Deliveries
import Ecommerce.Machine.Progress

set_option autoImplicit false

/-!
# No checkout stalls

Each event of an order has to be published, marked and processed, and whatever else happens does
not undo that.
-/

namespace Ecommerce

open Transaction
open OrderService (Request)

inductive Duty where
  | publish
  | mark
  | process (service : Service)
  deriving DecidableEq

/-- What there can be to do for an order. -/
def duties : List (Stage × Duty) :=
  [(.placed, .publish), (.placed, .mark), (.placed, .process .payment),
    (.placed, .process .inventory), (.charged, .publish), (.charged, .mark),
    (.charged, .process .order), (.charged, .process .notification), (.stocked, .publish),
    (.stocked, .mark), (.stocked, .process .order), (.settled, .publish), (.settled, .mark),
    (.settled, .process .inventory), (.settled, .process .notification)]

def Action.isPost : Action → Bool
  | .createOrder _ _ => true
  | _ => false

/-- What a POST can add. -/
def Action.charge (action : Action) : Nat := if action.isPost then duties.length else 0

namespace World

def Fulfilled (world : World) (row : OutboxEvent) : Duty → Prop
  | .publish => row.message ∈ world.messages
  | .mark => row.publishedAt ≠ none
  | .process service => world.processed service row.payload.eventId = true

def Done (world : World) (orderId : Uuid) (stage : Stage) (duty : Duty) : Prop :=
  ∃ producer rowId row, world.outbox producer rowId = some row ∧ row.payload.orderId = orderId ∧
    row.payload.stage = stage ∧ world.Fulfilled row duty

def Known (world : World) (orderId : Uuid) : Prop :=
  world.orders (OrderService.orderKey orderId) ≠ none

/-- What is still to be done for the orders that there are. -/
def owed (world : World) : Set (Uuid × Stage × Duty) :=
  { task | world.Known task.1 ∧ task.2 ∈ duties ∧ ¬ world.Done task.1 task.2.1 task.2.2 }

/-- Every outbox row is published, and every published message is processed by each service that
subscribes to its topic, but for those that the inventory service refuses. -/
structure AtRest (config : Config) (world : World) : Prop where
  published : ∀ producer rowId row, world.outbox producer rowId = some row →
    row.publishedAt ≠ none
  processed : ∀ message ∈ world.messages, ∀ service, subscribes config service message.topic →
    world.processed service message.event.eventId ∨
      service = .inventory ∧ world.Refused config message

/-- An event is stored in one row. -/
def Distinct (world : World) : Prop :=
  ∀ one oneId oneRow two twoId twoRow, world.outbox one oneId = some oneRow →
    world.outbox two twoId = some twoRow → oneRow.payload = twoRow.payload →
      one = two ∧ oneId = twoId

structure Keeps (before after : World) : Prop where
  rows : ∀ producer rowId row, before.outbox producer rowId = some row →
    ∃ later, after.outbox producer rowId = some later ∧ later.message = row.message ∧
      (row.publishedAt ≠ none → later.publishedAt ≠ none)
  messages : before.messages ⊆ after.messages
  processed : ∀ service eventId, before.processed service eventId = true →
    after.processed service eventId = true

section Steps

variable {config : Config} {world next : World} {action : Action}

/-- What a step does to the outboxes and the topics. -/
inductive Posts (world : World) (next : World) : Prop
  | commits (commits : world.Commits next)
  | published (producer : Producer) (rowId : Uuid) (row : OutboxEvent)
      (present : world.outbox producer rowId = some row) (outbox : next.outbox = world.outbox)
      (messages : next.messages = world.messages ++ [row.message])
  | marked (producer : Producer) (rowId : Uuid) (row : OutboxEvent) (now : Timestamp)
      (marks : world.Marks next producer rowId row now)

theorem step_posts (sound : world.Sound config) (stepped : world.step config action = some next) :
    world.Posts next := by
  cases action with
  | createOrder request fault =>
      cases stepped
      exact .commits (createOrder_commits request fault)
  | publish producer rowId =>
      obtain ⟨row, present, rfl⟩ := Option.map_eq_some_iff.mp stepped
      exact .published producer rowId row present (by funext other id; cases other <;> rfl) rfl
  | mark producer rowId now =>
      simp only [step] at stepped
      split at stepped
      · next row present =>
          split at stepped
          · cases stepped
            exact .marked producer rowId row now (mark_marks present now).1
          · cases stepped
      · cases stepped
  | deliver service message now fault =>
      simp only [step] at stepped
      split at stepped
      · next published => exact .commits (deliver_commits sound published stepped)
      · cases stepped

theorem Distinct.step (distinct : world.Distinct) (sound : world.Sound config)
    (stepped : world.step config action = some next) : next.Distinct := by
  cases step_posts sound stepped with
  | commits commits =>
      cases commits with
      | quiet quiet =>
          intro one oneId oneRow two twoId twoRow first second
          rw [quiet.outbox] at first second
          exact distinct one oneId oneRow two twoId twoRow first second
      | stages producer rowId row stages fresh =>
          -- The new event is of a later draw than all the others.
          have other (producer : Producer) (rowId : Uuid) (stored : OutboxEvent)
              (present : world.outbox producer rowId = some stored) : stored.payload ≠ row.payload := by
            intro same
            have drawn := sound.ledger.drawn stored.payload ⟨producer, rowId, stored, present, rfl⟩
            rw [same] at drawn
            exact absurd fresh (Nat.not_le.mpr drawn)
          intro one oneId oneRow two twoId twoRow first second same
          rw [stages.outbox] at first second
          split at first <;> split at second
          · next own ownToo => exact ⟨own.1.trans ownToo.1.symm, own.2.trans ownToo.2.symm⟩
          · cases first
            exact absurd same.symm (other _ _ _ second)
          · cases second
            exact absurd same (other _ _ _ first)
          · exact distinct one oneId oneRow two twoId twoRow first second same
  | published producer rowId row present outbox messages =>
      intro one oneId oneRow two twoId twoRow first second
      rw [outbox] at first second
      exact distinct one oneId oneRow two twoId twoRow first second
  | marked producer rowId row now marks =>
      have before (other : Producer) (id : Uuid) (stored : OutboxEvent)
          (present : next.outbox other id = some stored) :
          ∃ earlier, world.outbox other id = some earlier ∧ earlier.payload = stored.payload := by
        rw [marks.outbox] at present
        split at present
        · next same =>
            cases present
            obtain ⟨rfl, rfl⟩ := same
            exact ⟨row, marks.present, rfl⟩
        · exact ⟨stored, present, rfl⟩
      intro one oneId oneRow two twoId twoRow first second same
      obtain ⟨oneEarlier, oneThere, oneSame⟩ := before _ _ _ first
      obtain ⟨twoEarlier, twoThere, twoSame⟩ := before _ _ _ second
      exact distinct one oneId oneEarlier two twoId twoEarlier oneThere twoThere
        (oneSame.trans (same.trans twoSame.symm))

theorem Keeps.done (keeps : world.Keeps next) {orderId : Uuid} {stage : Stage} {duty : Duty}
    (done : world.Done orderId stage duty) : next.Done orderId stage duty := by
  obtain ⟨producer, rowId, row, present, about, stageOf, fulfilled⟩ := done
  obtain ⟨later, presentLater, message, marked⟩ := keeps.rows producer rowId row present
  have payload : later.payload = row.payload := congrArg Message.event message
  refine ⟨producer, rowId, later, presentLater, payload ▸ about, payload ▸ stageOf, ?_⟩
  cases duty with
  | publish =>
      change later.message ∈ next.messages
      rw [message]
      exact keeps.messages fulfilled
  | mark => exact marked fulfilled
  | process service =>
      have done := keeps.processed service _ fulfilled
      rw [← payload] at done
      exact done

end Steps

section Tasks

variable {config : Config} {world next : World} {action : Action}
variable {producer : Producer} {rowId : Uuid} {row : OutboxEvent} {duty : Duty}

/-- An order whose pieces fit the counters has been heard by everybody. -/
theorem AtRest.heard (rests : world.AtRest config) (sound : world.Sound config) {orderId : Uuid}
    {order : OrderService.Order}
    (found : world.orders (OrderService.orderKey orderId) = some order)
    (inRange : ¬ InventoryService.OutOfRange config.inventory order.createdPayload world.inventory) :
    world.Heard config orderId := by
  rintro event ⟨producer, rowId, row, present, rfl⟩ about early service subscribed
  have emitted : row.payload ∈ world.ledger.emitted := ⟨producer, rowId, row, present, rfl⟩
  obtain ⟨-, typed, published⟩ := sound.traced.rows producer rowId row present
  have message := published (rests.published producer rowId row present)
  rcases rests.processed row.message message service
    (show subscribes config service row.topic by
      rw [typed, sound.ledger.typed row.payload emitted]; exact subscribed) with done | ⟨-, refused⟩
  · exact done
  · have reported := sound.ledger.reported row.payload emitted
    have refuses : world.Refused config row.message := refused
    simp only [Refused, OutboxEvent.message] at refuses
    cases payload : row.payload.payload <;> rw [payload] at refuses
    case orderCreated created =>
      -- The event carries what the order says.
      rw [payload] at reported
      obtain ⟨stored, there, same⟩ := reported
      have orderId : created.orderId = orderId := by
        rw [← about, EventEnvelope.orderId, payload]
        rfl
      rw [orderId] at there
      cases found.symm.trans there
      exact absurd (same ▸ refuses) inRange
    case orderCancelled => exact absurd (by rw [EventEnvelope.stage, payload]; rfl) early
    all_goals exact refuses.elim

end Tasks

structure Steady (config : Config) (world : World) : Prop where
  sound : world.Sound config
  able : world.Able
  distinct : world.Distinct

theorem Steady.initial (config : Config) (products : Uuid → Option InventoryService.Product) :
    (initial products).Steady config where
  sound := initial_sound config products
  able := .initial products
  distinct one _ _ _ _ _ present := by cases one <;> cases present

section Sample

end Sample

end World

end Ecommerce
