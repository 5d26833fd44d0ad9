import Ecommerce.Checkout.Traceability
import Ecommerce.NotificationService.Letters

set_option autoImplicit false

/-!
# What the customers are told

A letter goes to the customer of its order, and says what has become of the payment.
-/

namespace Ecommerce

open Transaction
open OrderService (Order)
open PaymentService (Payment PaymentStatus Charging)
open NotificationService (NotificationKind Notification Letter letter)

namespace Ledger

/-- What the letters take from the payments and from their events. -/
structure Candid (ledger : Ledger) : Prop where
  customers : ∀ orderId payment, ledger.payment orderId = some payment →
    ∃ order, ledger.order orderId = some order ∧ payment.customerId = order.customerId
  codes : ∀ orderId payment, ledger.payment orderId = some payment → payment.status = .failed →
    payment.failureCode = some .cardDeclined
  reasons : ∀ event ∈ ledger.emitted, ∀ failure, event.payload = .paymentFailed failure →
    failure.reason = .cardDeclined

variable {config : Config} {ledger after : Ledger} {decision : Decision}

theorem charging_payment_customer (config : PaymentService.Config) (job : Charging)
    (paymentId : Uuid) : (job.payment config paymentId).customerId = job.order.customerId := by
  unfold Charging.payment
  split <;> rfl

theorem charging_payment_code (config : PaymentService.Config) (job : Charging) (paymentId : Uuid)
    (failed : (job.payment config paymentId).status = .failed) :
    (job.payment config paymentId).failureCode = some .cardDeclined := by
  unfold Charging.payment at failed ⊢
  split at failed
  · next declined => rw [if_pos declined]
  · cases failed

theorem Candid.customers_step (candid : ledger.Candid) (sound : ledger.Sound config)
    (step : ledger.Step config decision after) :
    ∀ orderId payment, after.payment orderId = some payment →
      ∃ order, after.order orderId = some order ∧ payment.customerId = order.customerId := by
  intro orderId payment found
  have kept (found : ledger.payment orderId = some payment) :
      ∃ order, after.order orderId = some order ∧ payment.customerId = order.customerId := by
    obtain ⟨order, there, same⟩ := candid.customers orderId payment found
    obtain ⟨later, thereLater, evolves⟩ := step.grows.order _ _ there
    have customer : later.customerId = order.customerId :=
      congrArg OrderCreatedPayload.customerId evolves.asked
    exact ⟨later, thereLater, same.trans customer.symm⟩
  cases step with
  | idle | placed | rejected | reserved | released | skipped | recorded | settled | notified =>
      exact kept found
  | charged next job pending uncharged paymentId =>
      rcases update_found found with ⟨rfl, rfl⟩ | old
      · have reported := sound.reported job.event pending.emitted
        rw [job.created] at reported
        obtain ⟨order, there, asked⟩ := reported
        have customer : order.customerId = job.order.customerId :=
          congrArg OrderCreatedPayload.customerId asked
        exact ⟨order, there, (charging_payment_customer ..).trans customer.symm⟩
      · exact kept old

theorem Candid.codes_step (candid : ledger.Candid) (step : ledger.Step config decision after) :
    ∀ orderId payment, after.payment orderId = some payment → payment.status = .failed →
      payment.failureCode = some .cardDeclined := by
  intro orderId payment found
  cases step with
  | idle | placed | rejected | reserved | released | skipped | recorded | settled | notified =>
      exact candid.codes orderId payment found
  | charged next job pending uncharged paymentId =>
      rcases update_found found with ⟨rfl, rfl⟩ | old
      · exact charging_payment_code config.payments job paymentId
      · exact candid.codes orderId payment old

theorem Candid.reasons_step (candid : ledger.Candid) (step : ledger.Step config decision after) :
    ∀ event ∈ after.emitted, ∀ failure, event.payload = .paymentFailed failure →
      failure.reason = .cardDeclined := by
  intro event emitted failure failed
  cases step with
  | idle | released | skipped | recorded | notified =>
      exact candid.reasons event emitted failure failed
  | placed next order created unknown begins total payload =>
      rcases Set.mem_insert_iff.mp emitted with rfl | earlier
      · cases payload.symm.trans failed
      · exact candid.reasons event earlier failure failed
  | charged next job pending uncharged paymentId eventId =>
      rcases Set.mem_insert_iff.mp emitted with rfl | earlier
      · have said : job.payload config.payments paymentId = .paymentFailed failure := failed
        unfold Charging.payload at said
        split at said <;> cases said
        rfl
      · exact candid.reasons event earlier failure failed
  | rejected | reserved =>
      rcases Set.mem_insert_iff.mp emitted with rfl | earlier
      · cases failed
      · exact candid.reasons event earlier failure failed
  | settled next delivery pending outcome order found unsettled status decided eventId =>
      rcases Set.mem_insert_iff.mp emitted with rfl | earlier
      · have said : OrderService.terminalPayload delivery.orderId (delivery.record order) status =
            .paymentFailed failure := failed
        cases status <;> cases said
      · exact candid.reasons event earlier failure failed

theorem Candid.step (candid : ledger.Candid) (sound : ledger.Sound config)
    (step : ledger.Step config decision after) : after.Candid :=
  ⟨candid.customers_step sound step, candid.codes_step step, candid.reasons_step step⟩

end Ledger

namespace World

section Notifications

variable {config : Config} {world next : World} {action : Action}

@[simp] theorem onOrders_notifications (fault : Fault TxError)
    (body : Prog (TableKey OrderService.Key) (TableRow OrderService.Row) TxError Unit) :
    (world.onOrders fault body).notifications = world.notifications := by
  unfold onOrders commit
  split <;> rfl

@[simp] theorem onPayments_notifications (fault : Fault TxError)
    (body : Prog (TableKey PaymentService.Key) (TableRow PaymentService.Row) TxError Unit) :
    (world.onPayments fault body).notifications = world.notifications := by
  unfold onPayments commit
  split <;> rfl

@[simp] theorem onInventory_notifications (fault : Fault TxError)
    (body : Prog (TableKey InventoryService.Key) (TableRow InventoryService.Row) TxError Unit) :
    (world.onInventory fault body).notifications = world.notifications := by
  unfold onInventory commit
  split <;> rfl

theorem deliver_notifications {message : Message} {now : Timestamp} {fault : Fault TxError}
    (delivered : world.deliver config message now fault .notification = some next) :
    next.notifications = world.notifications ∨
      ∃ writes, NotificationService.SendEffect config.notifications message.event
          world.notifications writes ∧
        next.notifications = writes.over world.notifications := by
  obtain ⟨handler, route, rfl⟩ := Option.map_eq_some_iff.mp delivered
  unfold onNotifications
  rcases commit_cases world (fun notifications => { world with notifications })
    ((handler now message.event).transaction fault world.notifications world.nextUuid) with
    same | ⟨notifications, supply, ran, same⟩
  · rw [same]
    exact .inl rfl
  · rw [same]
    obtain ⟨writes, effect, rfl⟩ := NotificationService.send_transaction_effect route ran
    exact .inr ⟨writes, effect, rfl⟩

theorem step_notifications (stepped : world.step config action = some next) :
    next.notifications = world.notifications ∨ ∃ message ∈ world.messages, ∃ writes,
      NotificationService.SendEffect config.notifications message.event world.notifications writes ∧
        next.notifications = writes.over world.notifications := by
  cases action with
  | createOrder request fault =>
      cases stepped
      exact .inl (onOrders_notifications ..)
  | publish producer rowId =>
      obtain ⟨row, present, rfl⟩ := Option.map_eq_some_iff.mp stepped
      exact .inl rfl
  | mark producer rowId now =>
      simp only [step] at stepped
      split at stepped
      · split at stepped
        · cases stepped
          cases producer <;> simp [mark]
        · cases stepped
      · cases stepped
  | deliver service message now fault =>
      simp only [step] at stepped
      split at stepped
      · next published =>
          cases service with
          | notification =>
              rcases deliver_notifications stepped with same | told
              · exact .inl same
              · exact .inr ⟨message, published, told⟩
          | _ =>
              obtain ⟨handler, route, rfl⟩ := Option.map_eq_some_iff.mp stepped
              simp
      · cases stepped

/-- Each notification is the letter that an event of its order asks for. -/
def Told (config : Config) (world : World) : Prop :=
  ∀ orderId kind notification,
    world.notifications (NotificationService.notificationKey orderId kind) = some notification →
      ∃ event ∈ world.ledger.emitted, event.orderId = orderId ∧ ∃ written id,
        letter config.notifications event.payload = some written ∧ written.kind = kind ∧
          notification = written.notification id

theorem Told.step (told : world.Told config) (sound : world.Sound config)
    (stepped : world.step config action = some next) : next.Told config := by
  have grows := (step_refines sound.traced sound.ledger stepped).step.grows
  intro orderId kind notification found
  have kept (found : world.notifications (NotificationService.notificationKey orderId kind) =
      some notification) :
      ∃ event ∈ next.ledger.emitted, event.orderId = orderId ∧ ∃ written id,
        letter config.notifications event.payload = some written ∧ written.kind = kind ∧
          notification = written.notification id := by
    obtain ⟨event, emitted, said⟩ := told orderId kind notification found
    exact ⟨event, grows.emitted emitted, said⟩
  rcases step_notifications stepped with same | ⟨message, published, writes, effect, same⟩
  · exact kept (same ▸ found)
  · rw [same] at found
    obtain ⟨-, id, written, asked, -⟩ := effect
    simp only [Writes.put_over, Writes.none_over] at found
    by_cases here : NotificationService.notificationKey orderId kind =
        NotificationService.notificationKey message.event.orderId written.kind
    · cases here
      have emitted := grows.emitted (sound.traced.messages message published).1
      refine ⟨message.event, emitted, rfl, written, id, asked, rfl, ?_⟩
      simpa using found.symm
    · rw [Store.set_other _ _ here, Store.set_other _ _ (by simp)] at found
      exact kept found

end Notifications

/-- A letter of an order, with the customer of the order and what has become of its payment. -/
structure TellsOf (config : Config) (order : Order) (payment : Payment) (kind : NotificationKind)
    (notification : Notification) : Prop where
  customerId : notification.customerId = order.customerId ∧ payment.customerId = order.customerId
  amount : payment.amountCents = order.totalAmountCents
  confirmed : kind = .orderConfirmed → order.status = .confirmed ∧ payment.status = .completed ∧
    ∀ cents, notification.body =
      NotificationService.confirmedText config.notifications order.id cents ↔
        cents = payment.amountCents
  failed : kind = .paymentFailed → payment.status = .failed ∧
    ∃ reason, payment.failureCode = some reason ∧
      notification.body = NotificationService.failedText config.notifications order.id reason

theorem initial_candid (products : Uuid → Option InventoryService.Product) :
    (initial products).ledger.Candid where
  customers _ _ found := by cases found
  codes _ _ found := by cases found
  reasons event emitted := absurd emitted (initial_silent products event)

section Tells

variable {config : Config} {world : World} {orderId : Uuid} {kind : NotificationKind}
variable {notification : Notification}

theorem Sound.customer_paid (sound : world.Sound config) (candid : world.ledger.Candid)
    {order : Order} {payment : Payment}
    (found : world.orders (OrderService.orderKey orderId) = some order)
    (charged : world.payments (PaymentService.paymentKey orderId) = some payment) :
    payment.customerId = order.customerId ∧ payment.amountCents = order.totalAmountCents := by
  obtain ⟨one, present, customer⟩ := candid.customers orderId payment charged
  obtain ⟨other, there, amount, -⟩ := sound.ledger.paid orderId payment charged
  cases found.symm.trans present
  cases found.symm.trans there
  exact ⟨customer, amount⟩

theorem tells_confirmed (sound : world.Sound config) (candid : world.ledger.Candid)
    {order : Order} (found : world.orders (OrderService.orderKey orderId) = some order)
    (orderIs : order.id = orderId) {payload : OrderConfirmedPayload}
    (reported : world.ledger.Reported (.orderConfirmed payload)) (here : payload.orderId = orderId)
    (customer : payload.customerId = order.customerId) {written : Letter}
    (asked : letter config.notifications (.orderConfirmed payload) = some written) (id : Uuid) :
    ∃ payment, world.payments (PaymentService.paymentKey orderId) = some payment ∧
      TellsOf config order payment written.kind (written.notification id) := by
  cases asked
  obtain ⟨other, there, status, total⟩ := reported
  rw [here] at there
  cases found.symm.trans there
  obtain ⟨payment, charged, completed, -⟩ := (sound.paid_and_in_stock found status).paid
  obtain ⟨sameCustomer, amount⟩ := sound.customer_paid candid found charged
  refine ⟨payment, charged, ⟨customer, sameCustomer⟩, amount, ?_, fun other => by cases other⟩
  intro _
  refine ⟨status, completed, fun cents => ?_⟩
  have body : NotificationService.confirmedText config.notifications payload.orderId
      payload.totalAmountCents = NotificationService.confirmedText config.notifications order.id
        payment.amountCents := by
    rw [here, orderIs, total, amount]
  constructor
  · intro said
    exact (NotificationService.confirmedText_injective (body.symm.trans said)).symm
  · rintro rfl
    exact body

theorem tells_failed (sound : world.Sound config) (candid : world.ledger.Candid) {order : Order}
    (found : world.orders (OrderService.orderKey orderId) = some order) (orderIs : order.id = orderId)
    {payload : PaymentFailedPayload} (reported : world.ledger.Reported (.paymentFailed payload))
    (declined : payload.reason = .cardDeclined) (here : payload.orderId = orderId)
    (customer : payload.customerId = order.customerId) {written : Letter}
    (asked : letter config.notifications (.paymentFailed payload) = some written) (id : Uuid) :
    ∃ payment, world.payments (PaymentService.paymentKey orderId) = some payment ∧
      TellsOf config order payment written.kind (written.notification id) := by
  cases asked
  obtain ⟨payment, charged, status⟩ := reported
  rw [here] at charged
  obtain ⟨sameCustomer, amount⟩ := sound.customer_paid candid found charged
  refine ⟨payment, charged, ⟨customer, sameCustomer⟩, amount, (fun other => by cases other), ?_⟩
  intro _
  refine ⟨status, .cardDeclined, candid.codes orderId payment charged status, ?_⟩
  rw [orderIs, ← here, ← declined]
  rfl

theorem Told.tells (told : world.Told config) (sound : world.Sound config)
    (candid : world.ledger.Candid) (traceable : world.Traceable)
    (sent : world.notifications (NotificationService.notificationKey orderId kind) =
      some notification) :
    ∃ order, world.orders (OrderService.orderKey orderId) = some order ∧
      ∃ payment, world.payments (PaymentService.paymentKey orderId) = some payment ∧
        TellsOf config order payment kind notification := by
  obtain ⟨event, emitted, about, written, id, asked, rfl, rfl⟩ := told orderId kind notification sent
  obtain ⟨order, found, traced⟩ := traceable.event emitted
  have orderIs : order.id = orderId := traced.orderId.symm.trans about
  rw [orderIs] at found
  have reported := sound.ledger.reported event emitted
  refine ⟨order, found, ?_⟩
  cases payload : event.payload with
  | orderConfirmed confirmed =>
      rw [EventEnvelope.orderId, payload] at about
      rw [payload] at asked reported
      exact tells_confirmed sound candid found orderIs reported about
        (traced.customerId _ (by rw [payload]; rfl)) asked id
  | paymentFailed failure =>
      rw [EventEnvelope.orderId, payload] at about
      rw [payload] at asked reported
      exact tells_failed sound candid found orderIs reported
        (candid.reasons event emitted failure payload) about
        (traced.customerId _ (by rw [payload]; rfl)) asked id
  | _ =>
      rw [payload] at asked
      cases asked

end Tells

/-- In every run each notification goes to the customer of its order. A confirmation is about a
confirmed order and names the amount that has been charged and no other; the other letters name the
reason for which the payment has failed. -/
theorem notifications_are_true (config : Config) (products : Uuid → Option InventoryService.Product)
    (actions : List Action) (world : World)
    (ran : Machine.run (step config) (initial products) actions = some world)
    (orderId : Uuid) (kind : NotificationKind) (notification : Notification)
    (sent : world.notifications (NotificationService.notificationKey orderId kind) =
      some notification) :
    ∃ order, world.orders (OrderService.orderKey orderId) = some order ∧
      ∃ payment, world.payments (PaymentService.paymentKey orderId) = some payment ∧
        TellsOf config order payment kind notification := by
  obtain ⟨sound, traceable, candid, told⟩ := Machine.run_invariant (fun world : World =>
      world.Sound config ∧ world.Traceable ∧ world.ledger.Candid ∧ world.Told config)
    (fun _ _ _ ⟨sound, traceable, candid, told⟩ stepped =>
      ⟨sound.step stepped, traceable.step sound stepped,
        candid.step sound.ledger (step_refines sound.traced sound.ledger stepped).step,
        told.step sound stepped⟩)
    ⟨initial_sound config products, initial_traceable products, initial_candid products,
      fun _ _ _ found => nomatch found⟩ ran
  exact told.tells sound candid traceable sent

section Sample

theorem notifications_are_true_sample : ∃ world,
    Machine.run (step sampleConfig) (initial fun _ => none) sampleCheckout = some world ∧
      ∃ notification,
        world.notifications (NotificationService.notificationKey 0 .orderConfirmed) =
          some notification ∧
        notification.body = "Your order 0 is confirmed. We charged $9.00. Thank you!" ∧
        ∃ order, world.orders (OrderService.orderKey 0) = some order ∧
          ∃ payment, world.payments (PaymentService.paymentKey 0) = some payment ∧
            TellsOf sampleConfig order payment .orderConfirmed notification := by
  have ran : ∃ world,
      Machine.run (step sampleConfig) (initial fun _ => none) sampleCheckout = some world ∧
        world.notifications (NotificationService.notificationKey 0 .orderConfirmed) = some
          { id := 12
            customerId := 5
            channel := "email"
            body := "Your order 0 is confirmed. We charged $9.00. Thank you!" } :=
    ⟨_, rfl, rfl⟩
  obtain ⟨world, ran, sent⟩ := ran
  exact ⟨world, ran, _, sent, rfl,
    notifications_are_true sampleConfig _ _ world ran 0 .orderConfirmed _ sent⟩

end Sample

end World

end Ecommerce
