import Ecommerce.Checkout.Completion
import Ecommerce.Checkout.Deployment
import Ecommerce.Checkout.Drained

set_option autoImplicit false

/-!
# A delivery without a fault is processed

What could make a handler fail is never there: an amount that does not fit its column, a row that
is there already, a product that is missing.
-/

namespace Ecommerce

open Transaction
open OrderService (Order Delivery Request)
open PaymentService (Charging)
open InventoryService (Reservation Reserving)
open NotificationService (NotificationKind)

section Amounts

variable {inv : OrderService.OrderDb → Prop}
variable {rely : OrderService.OrderDb → OrderService.OrderDb → Prop} {drawn : Uuid → Prop}

/-- An order that is created fits the columns of its table. -/
theorem OrderService.Request.wp_fits (config : OrderService.Config) (request : Request)
    (rows : OrderService.OrderDb) :
    wp inv rely drawn (request.body config)
      (Commits inv rely
        (fun request _ _ _ => fitsInteger request.dto.totalAmountCents = true) request)
      .none rows := by
  simp only [OrderService.Request.body, OrderService.createOrderTx, OrderService.executeTx,
    OrderService.createOrderWork, OrderService.createOrderRow, onRows_bind, onRows_create,
    onRows_randomUUID, onRows_ite, onRows_throw, onRows_createEvent, onRows_update, onRows_pure,
    wp_bind, wp_create, wp_randomUUID]
  intro claiming one unclaimed orderId orderDrawn correlationId _
  split
  · next fits =>
      simp only [OrderService.Order.fitsColumns, Bool.and_eq_true] at fits
      rw [wp_create]
      intro ordering two unknown
      simp only [wp_bind, wp_createEvent, OrderService.wp_enqueue, wp_update, wp_pure]
      intros
      exact fun _ _ => fits.1
  · trivial

theorem OrderService.Request.transaction_fits {config : OrderService.Config} {request : Request}
    {fault : Fault TxError} {database after : OrderService.OrderDb} {supply next : Nat}
    (ran : (request.body config).transaction fault database supply = .ok ((), after, next)) :
    fitsInteger request.dto.totalAmountCents = true :=
  have promise : wp (fun _ => True) Eq (fun _ => True) _ _ .none database :=
    request.wp_fits config database
  let ⟨_, fits, _⟩ := Prog.transaction_commits promise ran fun _ _ _ => trivial
  fits

end Amounts

namespace World

section Kept

variable {config : Config} {world next : World}

theorem onPayments_orders (fault : Fault TxError)
    (body : Prog (TableKey PaymentService.Key) (TableRow PaymentService.Row) TxError Unit) :
    (world.onPayments fault body).orders = world.orders := by
  unfold onPayments commit
  split <;> rfl

theorem onInventory_orders (fault : Fault TxError)
    (body : Prog (TableKey InventoryService.Key) (TableRow InventoryService.Row) TxError Unit) :
    (world.onInventory fault body).orders = world.orders := by
  unfold onInventory commit
  split <;> rfl

theorem onNotifications_orders (fault : Fault TxError)
    (body : Prog (TableKey NotificationService.Key) (TableRow NotificationService.Row) TxError Unit) :
    (world.onNotifications fault body).orders = world.orders := by
  unfold onNotifications commit
  split <;> rfl

theorem outcome_known {delivery : Delivery} {drawn : Uuid → Prop} {orders : OrderService.OrderDb}
    {writes : Writes (TableKey OrderService.Key) (TableRow OrderService.Row)} {orderId : Uuid}
    (effect : OrderService.OutcomeEffect (OrderService.alone drawn) delivery orders writes)
    (found : writes.over orders (OrderService.orderKey orderId) ≠ none) :
    orders (OrderService.orderKey orderId) ≠ none := by
  by_cases own : orderId = delivery.orderId
  · subst own
    cases effect with
    | skipped => simpa [Store.set_other] using found
    | recorded _ order present => simp [present]
    | settled _ order present => simp [present]
  · cases effect <;> simpa [Store.set_other, own] using found

/-- Only a POST makes an order known. -/
theorem step_known (sound : world.Sound config) {action : Action}
    (stepped : world.step config action = some next)
    (served : ∀ request fault, action ≠ .createOrder request fault) {orderId : Uuid}
    (found : next.orders (OrderService.orderKey orderId) ≠ none) :
    world.orders (OrderService.orderKey orderId) ≠ none := by
  cases action with
  | createOrder request fault => exact absurd rfl (served request fault)
  | publish producer rowId =>
      obtain ⟨row, present, rfl⟩ := Option.map_eq_some_iff.mp stepped
      exact found
  | mark producer rowId now =>
      simp only [step] at stepped
      split at stepped
      · next row present =>
          split at stepped
          · cases stepped
            have same : (world.mark rowId now producer).orders (OrderService.orderKey orderId) =
                world.orders (OrderService.orderKey orderId) :=
              congrFun (congrArg Ledger.order (mark_marks present now).2) orderId
            rwa [same] at found
          · cases stepped
      · cases stepped
  | deliver service message now fault =>
      simp only [step] at stepped
      split at stepped
      · next published =>
          cases service <;> obtain ⟨handler, route, rfl⟩ := Option.map_eq_some_iff.mp stepped
          case order =>
            obtain ⟨emitted, -, typed⟩ := sound.traced.message_typed sound.ledger published
            obtain ⟨leg, outcome, reports, rfl⟩ := saga_route route typed
            unfold onOrders at found
            rcases commit_cases world (fun orders => { world with orders })
              ((OrderService.handleOutcome leg outcome now message.event).transaction fault
                world.orders world.nextUuid) with same | ⟨orders, supply, ran, same⟩
            · rw [same] at found
              exact found
            · rw [same] at found
              let delivery : Delivery := { event := message.event, leg, outcome, now }
              obtain ⟨writes, effect, rfl⟩ := delivery.transaction_effect ran
              exact outcome_known effect found
          case payment => rwa [onPayments_orders] at found
          case inventory => rwa [onInventory_orders] at found
          case notification => rwa [onNotifications_orders] at found
      · cases stepped

end Kept

/-- What the handlers rely on: amounts that fit, payments that have been reported, notifications that
come from processed events, and products for every line that is reserved. -/
structure Able (world : World) : Prop where
  amounts : ∀ orderId order, world.orders (OrderService.orderKey orderId) = some order →
    fitsInteger order.totalAmountCents = true
  charges : ∀ orderId, world.ledger.payment orderId ≠ none →
    world.ledger.Emits orderId fun payload => payload.stage = .charged
  told : ∀ orderId, ∀ kind ∈ world.ledger.notified orderId,
    ∃ event ∈ world.ledger.emitted, event.orderId = orderId ∧
      NotificationService.notificationKind event.payload = some kind ∧
        event.eventId ∈ world.ledger.processed .notification
  stocked : ∀ orderId reservation,
    world.inventory (InventoryService.reservationKey orderId) = some reservation →
      ∀ item ∈ reservation.items, world.inventory (InventoryService.productKey item.productId) ≠ none

section Able

variable {config : Config} {world next : World} {action : Action}

theorem Able.initial (products : Uuid → Option InventoryService.Product) :
    (initial products).Able where
  amounts _ _ found := by cases found
  charges _ charged := absurd rfl charged
  told _ _ told := absurd rfl told
  stocked _ _ found := by cases found

theorem Able.amounts_step (able : world.Able) (sound : world.Sound config)
    (stepped : world.step config action = some next) {orderId : Uuid} {order : Order}
    (found : next.orders (OrderService.orderKey orderId) = some order) :
    fitsInteger order.totalAmountCents = true := by
  have grows := (step_refines sound.traced sound.ledger stepped).step.grows
  have kept (old : Order) (present : world.orders (OrderService.orderKey orderId) = some old) :
      fitsInteger order.totalAmountCents = true := by
    obtain ⟨later, foundLater, evolves⟩ := grows.order orderId old present
    cases found.symm.trans foundLater
    have total : order.totalAmountCents = old.totalAmountCents :=
      congrArg OrderCreatedPayload.totalAmountCents evolves.asked
    rw [total]
    exact able.amounts orderId old present
  by_cases known : world.orders (OrderService.orderKey orderId) = none
  · cases action with
    | createOrder request fault =>
        cases stepped
        unfold onOrders at found
        rcases commit_cases world (fun orders => { world with orders })
          ((request.body config.orders).transaction fault world.orders world.nextUuid) with
          same | ⟨orders, supply, ran, same⟩
        · rw [same] at found
          cases known.symm.trans found
        · rw [same] at found
          have fits := OrderService.Request.transaction_fits ran
          obtain ⟨writes, effect, rfl⟩ := request.transaction_effect config.orders ran
          cases effect with
          | created unclaimed newId correlationId =>
              by_cases own : orderId = newId
              · subst own
                have created : request.order orderId correlationId = order := by
                  simpa [Store.set_other] using found
                rw [← created]
                exact fits
              · have old : world.orders (OrderService.orderKey orderId) = some order := by
                  simpa [Store.set_other, own] using found
                cases known.symm.trans old
    | _ =>
        apply absurd known
        apply step_known sound stepped (by simp)
        simp [found]
  · obtain ⟨old, present⟩ := Option.ne_none_iff_exists'.mp known
    exact kept old present

theorem Able.charges_step (able : world.Able) (sound : world.Sound config)
    (stepped : world.step config action = some next) :
    ∀ orderId, next.ledger.payment orderId ≠ none →
      next.ledger.Emits orderId fun payload => payload.stage = .charged := by
  have refined := (step_refines sound.traced sound.ledger stepped).step
  have grows := refined.grows
  have charges := able.charges
  intro orderId charged
  generalize next.ledger = after at refined grows charged ⊢
  generalize world.decision config action = decision at refined
  cases refined with
  | charged later job pending uncharged paymentId eventId drawn =>
      by_cases own : orderId = job.order.orderId
      · subst own
        exact ⟨_, .inl rfl, Ledger.charging_payload_orderId .., Ledger.charging_payload_stage ..⟩
      · exact (charges orderId (by simpa [own] using charged)).grows grows
  | _ => exact (charges orderId charged).grows grows

theorem Able.told_step (able : world.Able) (sound : world.Sound config)
    (stepped : world.step config action = some next) :
    ∀ orderId, ∀ kind ∈ next.ledger.notified orderId,
      ∃ event ∈ next.ledger.emitted, event.orderId = orderId ∧
        NotificationService.notificationKind event.payload = some kind ∧
          event.eventId ∈ next.ledger.processed .notification := by
  have refined := (step_refines sound.traced sound.ledger stepped).step
  intro orderId kind told
  rcases refined.notifies with ⟨same, kept⟩ | ⟨event, asked, pending, asks, handled, tells⟩
  · rw [kept] at told
    rw [same]
    obtain ⟨event, emitted, said⟩ := able.told orderId kind told
    exact ⟨event, refined.grows.emitted emitted, said⟩
  · rw [tells] at told
    rw [handled]
    have before (told : kind ∈ world.ledger.notified orderId) :
        ∃ other ∈ next.ledger.emitted, other.orderId = orderId ∧
          NotificationService.notificationKind other.payload = some kind ∧
            other.eventId ∈ insert event.eventId (world.ledger.processed .notification) := by
      obtain ⟨other, emitted, about, asks, processed⟩ := able.told orderId kind told
      exact ⟨other, refined.grows.emitted emitted, about, asks, .inr processed⟩
    by_cases own : orderId = event.orderId
    · subst own
      rw [Function.update_self] at told
      rcases told with rfl | old
      · exact ⟨event, refined.grows.emitted pending.emitted, rfl, asks, .inl rfl⟩
      · exact before old
    · rw [Function.update_of_ne own] at told
      exact before told

theorem reserved_stocked {knowledge : InventoryService.Knowledge} {job : Reserving}
    {rows : InventoryService.InventoryDb}
    {writes : Writes (TableKey InventoryService.Key) (TableRow InventoryService.Row)}
    (effect : InventoryService.ReserveEffect config.inventory knowledge job rows writes)
    (stocked : ∀ orderId reservation, rows (InventoryService.reservationKey orderId) = some reservation →
      ∀ item ∈ reservation.items, rows (InventoryService.productKey item.productId) ≠ none) :
    ∀ orderId reservation,
      writes.over rows (InventoryService.reservationKey orderId) = some reservation →
        ∀ item ∈ reservation.items,
          writes.over rows (InventoryService.productKey item.productId) ≠ none := by
  have lasting (lines taken : List ReservedItem) (productId : Uuid)
      (present : rows (InventoryService.productKey productId) ≠ none) :
      (InventoryService.stockWrites config.inventory lines taken rows).over rows
        (InventoryService.productKey productId) ≠ none := by
    simp only [Writes.over, InventoryService.stockWrites]
    split
    · simp
    · rw [if_neg (by simp [present])]
      exact present
  intro orderId reservation found item member
  cases effect with
  | rejected =>
      have old : rows (InventoryService.reservationKey orderId) = some reservation := found
      rw [Writes.put_over, Writes.put_over, Store.set_other _ _ (by simp),
        Store.set_other _ _ (by simp)]
      exact lasting _ _ _ (stocked orderId reservation old item member)
  | reserved unmarked checked unreserved reservationId =>
      rw [Writes.put_over, Writes.put_over, Writes.put_over, Store.set_other _ _ (by simp),
        Store.set_other _ _ (by simp), Store.set_other _ _ (by simp)]
      by_cases own : orderId = job.order.orderId
      · subst own
        have made : job.reservation reservationId = reservation := by
          simpa [Store.set_other] using found
        subst made
        have named : item.productId ∈ job.lines.map ReservedItem.productId :=
          List.mem_map_of_mem member
        rw [InventoryService.stockWrites_seen _ named]
        simp
      · have old : rows (InventoryService.reservationKey orderId) = some reservation := by
          simpa [Store.set_other, own, stockWrites_over] using found
        exact lasting _ _ _ (stocked orderId reservation old item member)

theorem released_stocked {event : EventEnvelope} {rows : InventoryService.InventoryDb}
    {writes : Writes (TableKey InventoryService.Key) (TableRow InventoryService.Row)}
    (effect : InventoryService.ReleaseEffect InventoryService.found event rows writes)
    (stocked : ∀ orderId reservation, rows (InventoryService.reservationKey orderId) = some reservation →
      ∀ item ∈ reservation.items, rows (InventoryService.productKey item.productId) ≠ none) :
    ∀ orderId reservation,
      writes.over rows (InventoryService.reservationKey orderId) = some reservation →
        ∀ item ∈ reservation.items,
          writes.over rows (InventoryService.productKey item.productId) ≠ none := by
  intro orderId reservation found item member
  cases effect with
  | skipped =>
      have old : rows (InventoryService.reservationKey orderId) = some reservation := found
      exact stocked orderId reservation old item member
  | released unmarked active _ current present =>
      rw [Writes.put_over, Writes.put_over, Store.set_other _ _ (by simp),
        Store.set_other _ _ (by simp), InventoryService.restoreWrites_seen]
      rw [Ne, Option.map_eq_none_iff]
      by_cases own : orderId = event.payload.orderId
      · subst own
        have released : current.release = reservation := by simpa using found
        subst released
        exact stocked _ current present item member
      · have old : rows (InventoryService.reservationKey orderId) = some reservation := by
          simpa [Store.set_other, own, restoreWrites_over] using found
        exact stocked orderId reservation old item member

theorem mark_inventory {producer : Producer} {rowId : Uuid} {row : OutboxEvent}
    (present : world.outbox producer rowId = some row) (now : Timestamp)
    {key : TableKey InventoryService.Key} (other : ∀ id, key ≠ InventoryService.outboxKey id) :
    (world.mark rowId now producer).inventory key = world.inventory key := by
  cases producer with
  | order =>
      simp only [mark, onOrders, commit]
      split <;> rfl
  | payment =>
      simp only [mark, onPayments, commit]
      split <;> rfl
  | inventory =>
      have ran := update_transaction (V := InventoryService.Row) (.outboxEvent rowId)
        (fun (row : OutboxEvent) => { row with publishedAt := some now }) present world.nextUuid
      simp only [mark, onInventory, InventoryService.markPublished, markPublishedAs]
      rw [ran]
      exact Store.set_other _ _ (other rowId)

theorem Able.stocked_step (able : world.Able) (sound : world.Sound config)
    (stepped : world.step config action = some next) :
    ∀ orderId reservation,
      next.inventory (InventoryService.reservationKey orderId) = some reservation →
        ∀ item ∈ reservation.items,
          next.inventory (InventoryService.productKey item.productId) ≠ none := by
  have moves := step_moves sound.traced sound.ledger stepped
  generalize world.decision config action = decision at moves
  cases moves with
  | stays | created | outcome | charged | sent | published => exact able.stocked
  | reserved job later emitted effect => exact reserved_stocked effect able.stocked
  | released event later emitted topic effect => exact released_stocked effect able.stocked
  | marked producer rowId row now present acknowledged =>
      intro orderId reservation found item member
      rw [mark_inventory present now (by simp)] at found ⊢
      exact able.stocked orderId reservation found item member

theorem Able.step (able : world.Able) (sound : world.Sound config)
    (stepped : world.step config action = some next) : next.Able where
  amounts _ _ found := able.amounts_step sound stepped found
  charges := able.charges_step sound stepped
  told := able.told_step sound stepped
  stocked := able.stocked_step sound stepped

end Able

section Delivery

variable {config : Config} {world : World} {message : Message}

theorem Traced.free (traced : world.Traced) (producer : Producer) (rowId : Uuid)
    (drawn : world.nextUuid ≤ rowId) : world.outbox producer rowId = none := by
  cases present : world.outbox producer rowId with
  | none => rfl
  | some row => exact absurd (traced.rows producer rowId row present).1 (Nat.not_lt.mpr drawn)

/-- The inventory service cannot process the message: a counter would leave its column. -/
def Refused (config : Config) (world : World) (message : Message) : Prop :=
  match message.event.payload with
  | .orderCreated order => InventoryService.OutOfRange config.inventory order world.inventory
  | .orderCancelled cancelled =>
      InventoryService.Unrestorable config.inventory world.inventory cancelled.orderId
  | _ => False

end Delivery

end World

end Ecommerce
