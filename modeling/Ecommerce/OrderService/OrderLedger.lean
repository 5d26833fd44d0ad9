import Ecommerce.OrderService.CreateEffect
import Mathlib.Logic.Equiv.Defs

set_option autoImplicit false

/-!
# One key, one order, one event

The idempotency keys, the orders and the rows on `orders.created` are three views of one ledger,
which only grows.
-/

namespace Ecommerce.OrderService

open Transaction

/-- What a key stands for once its request has committed. -/
structure Entry where
  orderId : Uuid
  rowId : Uuid
  customerId : Uuid
  currency : String
  correlationId : Uuid
  items : List OrderLineItem

abbrev Ledger := Uuid → Option Entry

def Entry.response (entry : Entry) (response : OrderResponse) : Prop :=
  response.id = entry.orderId ∧ response.customerId = entry.customerId ∧
    response.currency = entry.currency ∧ response.correlationId = entry.correlationId ∧
    response.items = entry.items ∧ response.totalAmountCents = itemsTotal entry.items

def Entry.key (entry : Entry) (row : IdempotencyKey) : Prop :=
  row.status = .completed ∧ ∃ response, row.response = some response ∧ entry.response response

def Entry.order (entry : Entry) (order : Order) : Prop :=
  order.id = entry.orderId ∧ order.customerId = entry.customerId ∧
    order.currency = entry.currency ∧ order.correlationId = entry.correlationId ∧
    order.items = entry.items ∧ order.totalAmountCents = itemsTotal entry.items

def Entry.event (entry : Entry) (row : OutboxEvent) : Prop :=
  row.aggregateId = entry.orderId ∧ row.partitionKey = entry.orderId ∧
    row.payload.correlationId = entry.correlationId ∧
    row.payload.payload = .orderCreated
      { orderId := entry.orderId
        customerId := entry.customerId
        items := entry.items
        totalAmountCents := itemsTotal entry.items
        currency := entry.currency }

structure Shows (ledger : Ledger) (database : OrderDb) : Prop where
  distinctOrders : ∀ one two left right, ledger one = some left → ledger two = some right →
    left.orderId = right.orderId → one = two
  distinctRows : ∀ one two left right, ledger one = some left → ledger two = some right →
    left.rowId = right.rowId → one = two
  key : ∀ key (row : IdempotencyKey), database (idempotencyKey key) = some row →
    ∃ entry, ledger key = some entry ∧ entry.key row
  order : ∀ orderId (order : Order), database (orderKey orderId) = some order →
    ∃ key entry, ledger key = some entry ∧ entry.orderId = orderId ∧ entry.order order
  event : ∀ rowId (row : OutboxEvent), database (outboxKey rowId) = some row →
    row.topic = .ordersCreated → ∃ key entry, ledger key = some entry ∧ entry.rowId = rowId ∧
      entry.event row
  recorded : ∀ key entry, ledger key = some entry →
    database (idempotencyKey key) ≠ none ∧ database (orderKey entry.orderId) ≠ none ∧
      ∃ row : OutboxEvent, database (outboxKey entry.rowId) = some row ∧ row.topic = .ordersCreated

section Preservation

variable {config : Config} {ledger : Ledger} {before after : OrderDb}
variable {writes : Writes (TableKey Key) (TableRow Row)}

theorem Shows.set_marker (shown : Shows ledger before) (eventId : Uuid) :
    Shows ledger (before.set (marker eventId) ()) := by
  refine ⟨shown.distinctOrders, shown.distinctRows, ?_, ?_, ?_, ?_⟩ <;>
    simp only [ne_eq, reduceCtorEq, not_false_eq_true, Store.set_other]
  · exact shown.key
  · exact shown.order
  · exact shown.event
  · exact shown.recorded

/-- Replacing an order by one with the same facts. -/
theorem Shows.set_order (shown : Shows ledger before) {orderId : Uuid} {earlier order : Order}
    (found : before (orderKey orderId) = some earlier)
    (agrees : ∀ entry : Entry, entry.order earlier → entry.order order) :
    Shows ledger (before.set (orderKey orderId) order) where
  distinctOrders := shown.distinctOrders
  distinctRows := shown.distinctRows
  key := by simpa [Store.set_other] using shown.key
  order other later present := by
    by_cases same : other = orderId
    · subst same
      obtain ⟨key, entry, recorded, about, agreed⟩ := shown.order other earlier found
      rw [Store.set_same, Option.some.injEq] at present
      exact ⟨key, entry, recorded, about, present ▸ agrees entry agreed⟩
    · rw [Store.set_other _ _ (by simpa using same)] at present
      exact shown.order other later present
  event := by simpa [Store.set_other] using shown.event
  recorded key entry recorded := by
    obtain ⟨keyRow, orderRow, event⟩ := shown.recorded key entry recorded
    refine ⟨by simpa [Store.set_other] using keyRow, ?_, by simpa [Store.set_other] using event⟩
    by_cases same : entry.orderId = orderId
    · subst same
      simp
    · rw [Store.set_other _ _ (by simpa using same)]
      exact orderRow

theorem Shows.set_event (shown : Shows ledger before) {rowId : Uuid} {row : OutboxEvent}
    (unrelated : before (outboxKey rowId) = none ∧ row.topic ≠ .ordersCreated ∨
      ∃ earlier : OutboxEvent, before (outboxKey rowId) = some earlier ∧
        row.topic = earlier.topic ∧ ∀ entry : Entry, entry.event earlier → entry.event row) :
    Shows ledger (before.set (outboxKey rowId) row) where
  -- Inserting a row on another topic, or replacing a row by one with the same facts.
  distinctOrders := shown.distinctOrders
  distinctRows := shown.distinctRows
  key := by simpa [Store.set_other] using shown.key
  order := by simpa [Store.set_other] using shown.order
  event other later present topic := by
    by_cases same : other = rowId
    · subst same
      rw [Store.set_same, Option.some.injEq] at present
      subst present
      rcases unrelated with ⟨_, elsewhere⟩ | ⟨earlier, found, sameTopic, agrees⟩
      · exact absurd topic elsewhere
      · obtain ⟨key, entry, recorded, about, agreed⟩ :=
          shown.event other earlier found (sameTopic ▸ topic)
        exact ⟨key, entry, recorded, about, agrees entry agreed⟩
    · rw [Store.set_other _ _ (by simpa using same)] at present
      exact shown.event other later present topic
  recorded key entry recorded := by
    obtain ⟨keyRow, orderRow, event, found, topic⟩ := shown.recorded key entry recorded
    refine ⟨by simpa [Store.set_other] using keyRow, by simpa [Store.set_other] using orderRow, ?_⟩
    by_cases same : entry.rowId = rowId
    · subst same
      rcases unrelated with ⟨free, _⟩ | ⟨earlier, present, sameTopic, _⟩
      · rw [free] at found
        cases found
      · rw [present] at found
        cases found
        exact ⟨row, by simp, sameTopic.trans topic⟩
    · exact ⟨event, by rw [Store.set_other _ _ (by simpa using same), found], topic⟩

theorem ledger_update {key other : Uuid} {entry found : Entry}
    (recorded : Function.update ledger key (some entry) other = some found) :
    other = key ∧ found = entry ∨ other ≠ key ∧ ledger other = some found := by
  by_cases same : other = key
  · subst same
    rw [Function.update_self, Option.some.injEq] at recorded
    exact .inl ⟨rfl, recorded.symm⟩
  · rw [Function.update_of_ne same] at recorded
    exact .inr ⟨same, recorded⟩

/-- A field that tells the entries apart goes on to do so when an entry has a new value there. -/
theorem distinct_update {key : Uuid} {entry : Entry} (field : Entry → Uuid)
    (distinct : ∀ one two left right, ledger one = some left → ledger two = some right →
      field left = field right → one = two)
    (new : ∀ one other, ledger one = some other → field other ≠ field entry) :
    ∀ one two left right, Function.update ledger key (some entry) one = some left →
      Function.update ledger key (some entry) two = some right → field left = field right →
        one = two := by
  intro one two left right first second same
  rcases ledger_update first with ⟨one, rfl⟩ | ⟨_, oneKnown⟩ <;>
    rcases ledger_update second with ⟨two, rfl⟩ | ⟨_, twoKnown⟩
  · rw [one, two]
  · exact absurd same.symm (new two right twoKnown)
  · exact absurd same (new one left oneKnown)
  · exact distinct one two left right oneKnown twoKnown same

theorem Shows.record (shown : Shows ledger before) {key : Uuid} (entry : Entry)
    {keyRow : IdempotencyKey} {order : Order} {row : OutboxEvent}
    (unclaimed : before (idempotencyKey key) = none)
    (unknown : before (orderKey entry.orderId) = none) (free : before (outboxKey entry.rowId) = none)
    (sameKey : entry.key keyRow) (sameOrder : entry.order order) (sameEvent : entry.event row)
    (created : row.topic = .ordersCreated) :
    Shows (Function.update ledger key (some entry))
      (((before.set (idempotencyKey key) keyRow).set (orderKey entry.orderId) order).set
        (outboxKey entry.rowId) row) := by
  have newKey : ledger key = none := by
    by_contra known
    obtain ⟨entry, recorded⟩ := Option.ne_none_iff_exists'.mp known
    exact (shown.recorded _ entry recorded).1 unclaimed
  have newOrder (one : Uuid) (other : Entry) (recorded : ledger one = some other) :
      other.orderId ≠ entry.orderId :=
    fun same => (shown.recorded one other recorded).2.1 (same ▸ unknown)
  have newRow (one : Uuid) (other : Entry) (recorded : ledger one = some other) :
      other.rowId ≠ entry.rowId := by
    intro same
    obtain ⟨row, present, _⟩ := (shown.recorded one other recorded).2.2
    rw [same, free] at present
    cases present
  have old (one : Uuid) (other : Entry) (recorded : ledger one = some other) :
      Function.update ledger key (some entry) one = some other := by
    rw [Function.update_of_ne, recorded]
    exact fun same => absurd (same ▸ recorded) (by simp [newKey])
  refine ⟨distinct_update Entry.orderId shown.distinctOrders newOrder,
    distinct_update Entry.rowId shown.distinctRows newRow, ?_, ?_, ?_, ?_⟩
  · intro one found present
    rw [Store.set_other _ _ (by simp), Store.set_other _ _ (by simp)] at present
    by_cases same : one = key
    · subst same
      rw [Store.set_same, Option.some.injEq] at present
      exact ⟨entry, by simp, present ▸ sameKey⟩
    · rw [Store.set_other _ _ (by simpa using same)] at present
      rw [Function.update_of_ne same]
      exact shown.key one found present
  · intro id found present
    rw [Store.set_other _ _ (by simp)] at present
    by_cases same : id = entry.orderId
    · subst same
      rw [Store.set_same, Option.some.injEq] at present
      exact ⟨key, entry, by simp, rfl, present ▸ sameOrder⟩
    · rw [Store.set_other _ _ (by simpa using same), Store.set_other _ _ (by simp)] at present
      obtain ⟨one, other, recorded, about, agreed⟩ := shown.order id found present
      exact ⟨one, other, old one other recorded, about, agreed⟩
  · intro id found present topic
    by_cases same : id = entry.rowId
    · subst same
      rw [Store.set_same, Option.some.injEq] at present
      exact ⟨key, entry, by simp, rfl, present ▸ sameEvent⟩
    · rw [Store.set_other _ _ (by simpa using same), Store.set_other _ _ (by simp),
        Store.set_other _ _ (by simp)] at present
      obtain ⟨one, other, recorded, about, agreed⟩ := shown.event id found present topic
      exact ⟨one, other, old one other recorded, about, agreed⟩
  · intro one other recorded
    rcases ledger_update recorded with ⟨same, new⟩ | ⟨different, earlier⟩
    · rw [same, new]
      exact ⟨by simp [Store.set_other], by simp [Store.set_other], row, by simp, created⟩
    · obtain ⟨keyRow, orderRow, event, present, topic⟩ := shown.recorded one other earlier
      have elsewhere := newOrder one other earlier
      have elsewhereRow := newRow one other earlier
      refine ⟨?_, ?_, event, ?_, topic⟩
      · simpa [Store.set_other, different] using keyRow
      · simpa [Store.set_other, elsewhere] using orderRow
      · simpa [Store.set_other, elsewhereRow] using present

theorem recordLeg_entry (entry : Entry) (order : Order) (leg : Leg) (outcome : Outcome) :
    entry.order (order.recordLeg leg outcome) ↔ entry.order order := by
  cases leg <;> rfl

theorem OutcomeEffect.shows {knowledge : Knowledge} {delivery : Delivery}
    (shown : Shows ledger before) (effect : OutcomeEffect knowledge delivery before writes) :
    Shows ledger (writes.over before) := by
  cases effect with
  | skipped unmarked settled =>
      rw [Writes.put_over, Writes.none_over]
      exact shown.set_marker _
  | recorded unmarked order found pending undecided =>
      rw [Writes.put_over, Writes.put_over, Writes.none_over]
      refine (shown.set_marker _).set_order (by simpa [Store.set_other] using found) fun entry => ?_
      exact (recordLeg_entry ..).mpr
  | settled unmarked order found pending status decided eventId rowId _ _ free =>
      rw [Writes.put_over, Writes.put_over, Writes.put_over, Writes.none_over]
      refine ((shown.set_marker _).set_order (by simpa [Store.set_other] using found)
        fun entry => ?_).set_event (.inl ⟨?_, ?_⟩)
      · exact (recordLeg_entry entry order delivery.leg delivery.outcome).mpr
      · rw [Store.set_other _ _ (by simp), Store.set_other _ _ (by simp), free]
      · cases status <;> simp [terminalRow, outboxRow, terminalTopic]

theorem CreateEffect.shows {drawn : Uuid → Prop} {request : Request}
    (shown : Shows ledger before) (effect : CreateEffect config drawn request before writes) :
    ∃ grown, Shows grown (writes.over before) := by
  cases effect with
  | created unclaimed orderId correlationId eventId rowId _ _ _ unknown free =>
      let entry : Entry :=
        { orderId
          rowId
          customerId := request.dto.customerId
          currency := request.dto.currency.getD "USD"
          correlationId
          items := request.dto.lineItems }
      have sameResponse : entry.response (toResponse (request.order orderId correlationId)) := by
        simp [Entry.response, toResponse, Request.order, entry, totalAmountCents_eq]
      have sameOrder : entry.order (request.order orderId correlationId) := by
        simp [Entry.order, Request.order, entry, totalAmountCents_eq]
      have sameEvent : entry.event (request.createdRow orderId correlationId eventId) := by
        simp [Entry.event, Request.createdRow, outboxRow, NewEvent.envelope, entry,
          totalAmountCents_eq]
      rw [Writes.put_over, Writes.put_over, Writes.put_over, Writes.none_over]
      exact ⟨_, shown.record entry unclaimed unknown free ⟨rfl, _, rfl, sameResponse⟩
        sameOrder sameEvent rfl⟩

theorem Shows.markPublished (shown : Shows ledger before) {rowId : Uuid} {row : OutboxEvent}
    (found : before (outboxKey rowId) = some row) (now : Timestamp) :
    Shows ledger (before.set (outboxKey rowId) { row with publishedAt := some now }) :=
  shown.set_event (.inr ⟨row, found, rfl, fun _ => id⟩)

end Preservation

inductive OrderJob where
  | createOrder (request : Request)
  | applyOutcome (delivery : Delivery)
  | markPublished (rowId : Uuid) (now : Timestamp)

def OrderJob.body (config : Config) : OrderJob → Prog (TableKey Key) (TableRow Row) TxError Unit
  | .createOrder request => request.body config
  | .applyOutcome delivery => delivery.body
  | .markPublished rowId now => onRows (OrderService.markPublished rowId now)

def unaware : Knowledge :=
  -- Nothing is known of an order when a handler commits.
  { settled := fun _ _ => True
    pending := fun _ _ => True
    drawn := fun _ => True }

inductive OrderJob.Effect (config : Config) : OrderJob → Unit → OrderDb →
    Writes (TableKey Key) (TableRow Row) → Prop
  | createOrder (request : Request) (rows : OrderDb) (writes : Writes (TableKey Key) (TableRow Row))
      (effect : CreateEffect config (fun _ => True) request rows writes) :
      Effect config (.createOrder request) () rows writes
  | applyOutcome (delivery : Delivery) (rows : OrderDb)
      (writes : Writes (TableKey Key) (TableRow Row))
      (effect : OutcomeEffect unaware delivery rows writes) :
      Effect config (.applyOutcome delivery) () rows writes
  | markPublished (rowId : Uuid) (now : Timestamp) (rows : OrderDb) (row : OutboxEvent)
      (found : rows (outboxKey rowId) = some row) :
      Effect config (.markPublished rowId now) () rows
        (Writes.none.put (outboxKey rowId) (some { row with publishedAt := some now }))

theorem ledgerDiscipline (config : Config) :
    Discipline (fun database => ∃ ledger, Shows ledger database) (fun _ _ => True)
      (OrderJob.Effect config) (OrderJob.body config) (fun _ => True) where
  relyRefl _ := trivial
  relyTrans _ _ _ _ _ := trivial
  starts job _ rows _ := by
    cases job with
    | createOrder request =>
        refine wp_mono (fun _ _ _ commits now interference => ?_) _ _ _ (request.wp_body config rows)
        exact .createOrder _ _ _ (commits now interference)
    | applyOutcome delivery =>
        have lasting (inv : OrderDb → Prop) : unaware.Lasting inv fun _ _ => True :=
          ⟨fun _ _ _ => trivial, fun _ _ _ _ _ => trivial, fun _ _ _ _ _ => ⟨id, id⟩⟩
        refine wp_mono (fun _ _ _ commits now interference => ?_) _ _ _
          (delivery.wp_body (lasting _))
        exact .applyOutcome _ _ _ (commits now interference)
    | markPublished rowId now =>
        simp only [OrderJob.body, OrderService.markPublished, markPublishedAs, onRows_bind,
          onRows_update, wp_bind, wp_update, onRows_pure, wp_pure]
        intro marking one row found last two
        have foundNow : last (outboxKey rowId) = some row := by
          rw [two.frame _ (by simp [Writes.put_written])]
          exact found
        exact .markPublished rowId now last row foundNow
  keeps job _ rows writes _ shown effect := by
    obtain ⟨ledger, shown⟩ := shown
    refine ⟨?_, trivial⟩
    cases effect with
    | createOrder request _ _ effect => exact effect.shows shown
    | applyOutcome delivery _ _ effect => exact ⟨ledger, effect.shows shown⟩
    | markPublished rowId now _ row found =>
        rw [Writes.put_over, Writes.none_over]
        exact ⟨ledger, shown.markPublished found now⟩

section Correspondence

variable {ledger : Ledger} {database : OrderDb}

abbrev Keys (database : OrderDb) := { key : Uuid // database (idempotencyKey key) ≠ none }

abbrev Orders (database : OrderDb) := { orderId : Uuid // database (orderKey orderId) ≠ none }

abbrev CreatedRows (database : OrderDb) :=
  { rowId : Uuid // ∃ row : OutboxEvent, database (outboxKey rowId) = some row ∧
    row.topic = .ordersCreated }

abbrev Entries (ledger : Ledger) :=
  { recorded : Uuid × Entry // ledger recorded.1 = some recorded.2 }

noncomputable def Shows.keys (shown : Shows ledger database) : Entries ledger ≃ Keys database :=
  .ofBijective (fun recorded => ⟨recorded.1.1, (shown.recorded _ _ recorded.2).1⟩) <| by
    constructor
    · rintro ⟨⟨one, left⟩, first⟩ ⟨⟨two, right⟩, second⟩ same
      simp only [Subtype.mk.injEq] at same first second
      subst same
      simpa [first] using second
    · rintro ⟨key, present⟩
      obtain ⟨row, found⟩ := Option.ne_none_iff_exists'.mp present
      obtain ⟨entry, recorded, _⟩ := shown.key key row found
      exact ⟨⟨⟨key, entry⟩, recorded⟩, rfl⟩

noncomputable def Shows.orders (shown : Shows ledger database) :
    Entries ledger ≃ Orders database :=
  .ofBijective (fun recorded => ⟨recorded.1.2.orderId, (shown.recorded _ _ recorded.2).2.1⟩) <| by
    constructor
    · rintro ⟨⟨one, left⟩, first⟩ ⟨⟨two, right⟩, second⟩ same
      simp only [Subtype.mk.injEq] at same first second
      have sameKey := shown.distinctOrders one two left right first second same
      subst sameKey
      simpa [first] using second
    · rintro ⟨orderId, present⟩
      obtain ⟨order, found⟩ := Option.ne_none_iff_exists'.mp present
      obtain ⟨key, entry, recorded, about, _⟩ := shown.order orderId order found
      exact ⟨⟨⟨key, entry⟩, recorded⟩, Subtype.ext about⟩

noncomputable def Shows.rows (shown : Shows ledger database) :
    Entries ledger ≃ CreatedRows database :=
  .ofBijective (fun recorded => ⟨recorded.1.2.rowId, (shown.recorded _ _ recorded.2).2.2⟩) <| by
    constructor
    · rintro ⟨⟨one, left⟩, first⟩ ⟨⟨two, right⟩, second⟩ same
      simp only [Subtype.mk.injEq] at same first second
      have sameKey := shown.distinctRows one two left right first second same
      subst sameKey
      simpa [first] using second
    · rintro ⟨rowId, row, found, topic⟩
      obtain ⟨key, entry, recorded, about, _⟩ := shown.event rowId row found topic
      exact ⟨⟨⟨key, entry⟩, recorded⟩, Subtype.ext about⟩

structure Agree (orderId : Uuid) (response : OrderResponse) (order : Order) (row : OutboxEvent)
    (payload : OrderCreatedPayload) : Prop where
  id : response.id = orderId ∧ order.id = orderId
  event : row.aggregateId = orderId ∧ row.partitionKey = orderId ∧ payload.orderId = orderId
  customerId : response.customerId = order.customerId ∧ payload.customerId = order.customerId
  items : response.items = order.items ∧ payload.items = order.items
  currency : response.currency = order.currency ∧ payload.currency = order.currency
  correlationId : response.correlationId = order.correlationId ∧
    row.payload.correlationId = order.correlationId
  totalAmountCents : response.totalAmountCents = itemsTotal order.items ∧
    order.totalAmountCents = itemsTotal order.items ∧
    payload.totalAmountCents = itemsTotal order.items

theorem Shows.agree (shown : Shows ledger database) (recorded : Entries ledger) :
    ∃ keyRow response order row payload,
      database (idempotencyKey (shown.keys recorded)) = some keyRow ∧
      keyRow.status = .completed ∧ keyRow.response = some response ∧
      database (orderKey (shown.orders recorded)) = some order ∧
      database (outboxKey (shown.rows recorded)) = some row ∧
      row.payload.payload = .orderCreated payload ∧
      Agree (shown.orders recorded) response order row payload := by
  obtain ⟨⟨key, entry⟩, known⟩ := recorded
  obtain ⟨keyPresent, orderPresent, row, rowFound, topic⟩ := shown.recorded key entry known
  obtain ⟨keyRow, keyFound⟩ := Option.ne_none_iff_exists'.mp keyPresent
  obtain ⟨order, orderFound⟩ := Option.ne_none_iff_exists'.mp orderPresent
  -- Whatever the three rows stand for is the entry of this key.
  have sameEntry (one : Uuid) (other : Entry) (recorded : ledger one = some other)
      (same : one = key) : other = entry := by
    subst same
    exact Option.some.inj (recorded.symm.trans known)
  obtain ⟨other, recorded, completed, response, responds, sameResponse⟩ :=
    shown.key key keyRow keyFound
  rw [sameEntry key other recorded rfl] at sameResponse
  obtain ⟨one, other, recorded, about, sameOrder⟩ := shown.order entry.orderId order orderFound
  rw [sameEntry one other recorded (shown.distinctOrders _ _ _ _ recorded known about)] at sameOrder
  obtain ⟨one, other, recorded, about, sameEvent⟩ := shown.event entry.rowId row rowFound topic
  rw [sameEntry one other recorded (shown.distinctRows _ _ _ _ recorded known about)] at sameEvent
  obtain ⟨rowId, rowCustomer, rowCurrency, rowCorrelation, rowItems, rowTotal⟩ := sameOrder
  obtain ⟨id, customer, currency, correlation, items, total⟩ := sameResponse
  obtain ⟨aggregate, partition, eventCorrelation, payload⟩ := sameEvent
  refine ⟨keyRow, response, order, row, _, keyFound, completed, responds, orderFound, rowFound,
    payload, ⟨id, rowId⟩, ⟨aggregate, partition, rfl⟩, ?_, ?_, ?_, ?_, ?_⟩
  · exact ⟨customer.trans rowCustomer.symm, rowCustomer.symm⟩
  · exact ⟨items.trans rowItems.symm, rowItems.symm⟩
  · exact ⟨currency.trans rowCurrency.symm, rowCurrency.symm⟩
  · exact ⟨correlation.trans rowCorrelation.symm, eventCorrelation.trans rowCorrelation.symm⟩
  · rw [rowItems]
    exact ⟨total, rowTotal, rfl⟩

end Correspondence

theorem empty_shows : Shows (fun _ => none) fun _ => none := by
  constructor <;> simp

theorem one_key_one_order_one_event (config : Config)
    (system : System (TableKey Key) (TableRow Row) TxError Unit OrderJob)
    (reachable : Reachable (OrderJob.body config) (fun _ _ => True)
      (System.initial fun _ => none) system) :
    ∃ (orders : Keys system.rows ≃ Orders system.rows)
      (events : Orders system.rows ≃ CreatedRows system.rows),
      ∀ key : Keys system.rows, ∃ keyRow response order row payload,
        system.rows (idempotencyKey key) = some keyRow ∧
        keyRow.status = .completed ∧ keyRow.response = some response ∧
        system.rows (orderKey (orders key)) = some order ∧
        system.rows (outboxKey (events (orders key))) = some row ∧
        row.payload.payload = .orderCreated payload ∧
        Agree (orders key) response order row payload := by
  have sound := reachable.sound (ledgerDiscipline config) (fun _ _ _ _ => trivial)
    (.initial _ ⟨_, empty_shows⟩ (ledgerDiscipline config))
  obtain ⟨ledger, shown⟩ := sound.invariant
  refine ⟨shown.keys.symm.trans shown.orders, shown.orders.symm.trans shown.rows, fun key => ?_⟩
  obtain ⟨recorded, same⟩ := shown.keys.surjective key
  subst same
  have sameOrder : (shown.keys.symm.trans shown.orders) (shown.keys recorded) =
      shown.orders recorded := by simp
  have sameRow : (shown.orders.symm.trans shown.rows) (shown.orders recorded) =
      shown.rows recorded := by simp
  rw [sameOrder, sameRow]
  exact shown.agree recorded

section Sample

def sampleDto : CreateOrderDto :=
  { customerId := 1
    items := [
      { productId := 3
        quantity := 1
        unitPriceCents := 500
        quantityPositive := by decide
        unitPriceCentsPositive := by decide }]
    currency := none
    itemsNotEmpty := by simp }

def sampleConfig : Config :=
  { hashBody := fun _ => "18e5cfbe1d667f04ec1403c45887dff7040792b69f2f0bfca7717ddef1f48eb1"
    idempotencyTtlSeconds := 86400 }

def sampleRequest : Request := { key := 5, dto := sampleDto, now := 0 }

def sampleOther : Request :=
  { key := 6, dto := { sampleDto with customerId := 2, currency := some "EUR" }, now := 0 }

def sampleRequested : Option (System (TableKey Key) (TableRow Row) TxError Unit OrderJob) :=
  -- A request is repeated while it is under way, next to one with another key, and its event is
  -- marked after the commit.
  (System.initial fun _ => none).run (OrderJob.body sampleConfig) (fun _ _ => true)
    [.start 0 (.createOrder sampleRequest), .advance 0 0, .start 1 (.createOrder sampleRequest),
      .start 2 (.createOrder sampleOther), .advance 0 7, .advance 0 8, .advance 2 0, .advance 2 11,
      .advance 0 0, .advance 0 9, .advance 2 12, .advance 0 10, .advance 0 0, .advance 2 0,
      .advance 0 0, .advance 0 0, .advance 1 0, .advance 2 13, .advance 2 14, .advance 2 0,
      .start 0 (.markPublished 10 1), .advance 0 0, .advance 2 0, .advance 0 0, .advance 2 0]

theorem sampleRequested_ran : sampleRequested.isSome = true := by decide +kernel

abbrev sampleRows : OrderDb := (sampleRequested.get sampleRequested_ran).rows

/-- What the key answers, its order and its event. -/
def Placed (rows : OrderDb) (key orderId : Uuid) : Prop :=
  ∃ keyRow response order rowId row payload,
    rows (idempotencyKey key) = some keyRow ∧ keyRow.response = some response ∧
      rows (orderKey orderId) = some order ∧ rows (outboxKey rowId) = some row ∧
      row.payload.payload = .orderCreated payload ∧ Agree orderId response order row payload

theorem one_key_one_order_one_event_sample :
    ∃ one other, one ≠ other ∧ Placed sampleRows 5 one ∧ Placed sampleRows 6 other := by
  have reachable := Reachable.of_run (fun _ _ => True) _ (fun _ _ _ _ => trivial)
    (Option.some_get sampleRequested_ran).symm
  obtain ⟨orders, events, agree⟩ := one_key_one_order_one_event sampleConfig _ reachable
  have placed (key : Keys sampleRows) : Placed sampleRows key (orders key) := by
    obtain ⟨keyRow, response, order, row, payload, found, _, responds, ordered, staged, about,
      agrees⟩ := agree key
    exact ⟨keyRow, response, order, _, row, payload, found, responds, ordered, staged, about, agrees⟩
  have five : sampleRows (idempotencyKey 5) ≠ none := by decide +kernel
  have six : sampleRows (idempotencyKey 6) ≠ none := by decide +kernel
  refine ⟨orders ⟨5, five⟩, orders ⟨6, six⟩, fun same => ?_, placed ⟨5, five⟩, placed ⟨6, six⟩⟩
  have keys : (5 : Uuid) = 6 := congrArg Subtype.val (orders.injective (Subtype.ext same))
  exact absurd keys (by decide)

end Sample

end Ecommerce.OrderService
