import Ecommerce.NotificationService.NotificationEventsConsumer
import Ecommerce.Shared.Statements

set_option autoImplicit false

/-!
# What a notification transaction does to the notification database
-/

namespace Ecommerce.NotificationService

open Transaction

def notificationKind : Payload → Option NotificationKind
  | .orderConfirmed _ => some .orderConfirmed
  | .paymentFailed _ => some .paymentFailed
  | _ => none

structure Letter where
  kind : NotificationKind
  customerId : Uuid
  body : String

/-- The letter that an event asks for. -/
def letter (config : Config) : Payload → Option Letter
  | .orderConfirmed order => some
      { kind := .orderConfirmed
        customerId := order.customerId
        body := confirmedText config order.orderId order.totalAmountCents }
  | .paymentFailed failure => some
      { kind := .paymentFailed
        customerId := failure.customerId
        body := failedText config failure.orderId failure.reason }
  | _ => none

def Letter.notification (letter : Letter) (id : Uuid) : Notification :=
  { id, customerId := letter.customerId, channel := "email", body := letter.body }

def Letter.work (letter : Letter) (orderId : Uuid) :
    Prog (TableKey Key) (TableRow Row) TxError Unit :=
  onRows (send letter.kind orderId letter.customerId letter.body)

theorem kind_of_letter {config : Config} {payload : Payload} {written : Letter}
    (asked : letter config payload = some written) : notificationKind payload = some written.kind := by
  cases payload <;> cases asked <;> rfl

/-- A handler writes the letter that its event asks for, if the event is one of its topic. -/
theorem handler_cases {config : Config} {topic : Topic}
    {handler : Timestamp → EventEnvelope → Prog (TableKey Key) (TableRow Row) TxError Unit}
    (route : routes config topic = some handler) (now : Timestamp) (event : EventEnvelope) :
    (∃ written, letter config event.payload = some written ∧
      handler now event = processOnceTx consumer event (written.work event.payload.orderId)) ∨
    event.payload.topic ≠ topic ∧
      ∃ message, handler now event = processOnceTx consumer event (.throw (.other message)) := by
  cases topic <;> cases route
  case ordersConfirmed =>
    cases payload : event.payload
    case orderConfirmed => exact .inl ⟨_, rfl, by simp only [onOrderConfirmed, payload]; rfl⟩
    all_goals
      exact .inr ⟨nofun, "not an OrderConfirmedPayload", by simp only [onOrderConfirmed, payload]⟩
  case paymentsFailed =>
    cases payload : event.payload
    case paymentFailed => exact .inl ⟨_, rfl, by simp only [onPaymentFailed, payload]; rfl⟩
    all_goals
      exact .inr ⟨nofun, "not a PaymentFailedPayload", by simp only [onPaymentFailed, payload]⟩

/-- The letter is written, and the event is marked. -/
inductive SendEffect (config : Config) (event : EventEnvelope) (rows : NotificationDb) :
    Writes (TableKey Key) (TableRow Row) → Prop
  | sent (unmarked : rows (marker event.eventId) = none) (id : Uuid) (written : Letter)
      (asked : letter config event.payload = some written)
      (unsent : rows (notificationKey event.payload.orderId written.kind) = none) :
      SendEffect config event rows
        ((Writes.none.put (marker event.eventId) (some ())).put
          (notificationKey event.payload.orderId written.kind) (some (written.notification id)))

section Wp

variable {config : Config} {inv : NotificationDb → Prop}
variable {rely : NotificationDb → NotificationDb → Prop} {draws : Uuid → Prop}

theorem wp_letter {event : EventEnvelope} {written : Letter} {rows : NotificationDb}
    (unmarked : rows (marker event.eventId) = none)
    (asked : letter config event.payload = some written) :
    wp inv rely draws (written.work event.payload.orderId)
      (Commits inv rely (fun event _ => SendEffect config event) event)
      (Writes.none.put (marker event.eventId) (some ())) rows := by
  simp only [Letter.work, send, onRows_bind, onRows_randomUUID, onRows_create, onRows_pure, wp_bind,
    wp_randomUUID, wp_create, wp_pure]
  intro id _ sending one unsent last two
  have unmarkedNow : last (marker event.eventId) = none := by
    rw [two.frame _ (by simp [Writes.put_written]), one.frame _ (by simp [Writes.put_written]),
      unmarked]
  have unsentNow : last (notificationKey event.payload.orderId written.kind) = none := by
    rw [two.frame _ (by simp [Writes.put_written])]
    simpa [Store.set_other] using unsent
  exact .sent unmarkedNow id written asked unsentNow

theorem wp_handler {topic : Topic} {now : Timestamp} {event : EventEnvelope}
    {handler : Timestamp → EventEnvelope → Prog (TableKey Key) (TableRow Row) TxError Unit}
    (route : routes config topic = some handler) (rows : NotificationDb) :
    wp inv rely draws (handler now event)
      (Commits inv rely (fun event _ => SendEffect config event) event) .none rows := by
  rcases handler_cases route now event with ⟨written, asked, same⟩ | ⟨-, message, same⟩
  · simp only [same, processOnceTx, wp_bind, wp_create]
    intro marking one unmarked
    exact wp_letter unmarked asked
  · simp only [same, processOnceTx, wp_bind, wp_create]
    intros
    trivial

end Wp

end Ecommerce.NotificationService
