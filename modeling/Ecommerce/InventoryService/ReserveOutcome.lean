import Ecommerce.InventoryService.StockBalance
import Ecommerce.Shared.Completion

set_option autoImplicit false

/-!
# What reserve leaves behind when it runs alone

The three loops go over the same lines, and a product can be named by several of them.
-/

namespace Ecommerce.InventoryService

open Transaction

section Outcome

variable (config : Config) (now : Timestamp) (order : OrderCreatedPayload) (correlationId : Uuid)

/-- A product of the table, or the one that is added for these lines. -/
def ensured (lines : List OrderLineItem) (rows : InventoryDb) (productId : Uuid) : Option Product :=
  match rows (productKey productId) with
  | some (product : Product) => some product
  | none =>
      if productId ∈ lines.map OrderLineItem.productId then
        some { availableQty := config.defaultStock, reservedQty := 0 }
      else none

def Short (rows : InventoryDb) (item : OrderLineItem) : Prop :=
  (productOf config rows item.productId).availableQty < item.quantity

instance (rows : InventoryDb) (item : OrderLineItem) : Decidable (Short config rows item) :=
  inferInstanceAs (Decidable (_ < _))

/-- Every line can be moved, after those that were moved before it, without a counter that its
column cannot hold. -/
def movesFit (move : Product → Nat → Product) (rows : InventoryDb) (moved : List ReservedItem) :
    List ReservedItem → Bool
  | [] => true
  | line :: rest =>
      (move (productOf config rows line.productId)
          (needed (moved ++ [line]) line.productId)).fitsColumns &&
        movesFit move rows (moved ++ [line]) rest

/-- A product would have to be stored with a counter that its column cannot hold: a missing one, or
one that the order would be taken from. -/
def OutOfRange (rows : InventoryDb) : Prop :=
  (∃ item ∈ order.items, rows (productKey item.productId) = none ∧
    config.newProduct.fitsColumns = false) ∨
  (∀ item ∈ order.items, ¬ Short config rows item) ∧
    movesFit config Product.take rows [] (order.items.map reservedItem) = false

instance (rows : InventoryDb) : Decidable (OutOfRange config order rows) :=
  inferInstanceAs (Decidable (_ ∨ _))

/-- The lines with too little stock, in their order. -/
def lacking (rows : InventoryDb) (lines : List OrderLineItem) : List Shortfall :=
  (lines.filter fun item => Short config rows item).map fun item =>
    { productId := item.productId
      requested := item.quantity
      available := (productOf config rows item.productId).availableQty }

def rejectedEvent (shortfalls : List Shortfall) (eventId : Uuid) : EventEnvelope :=
  NewEvent.envelope
    { eventType := .inventoryRejected
      correlationId
      aggregateId := order.orderId
      producer
      payload := .inventoryRejected { orderId := order.orderId, shortfalls } } now eventId

def reservedEvent (reservationId eventId : Uuid) : EventEnvelope :=
  NewEvent.envelope
    { eventType := .inventoryReserved
      correlationId
      aggregateId := order.orderId
      producer
      payload := .inventoryReserved
        { orderId := order.orderId, reservationId, items := order.items.map reservedItem } }
    now eventId

/-- One row is new in the outbox, and the others are as they were. -/
def Enqueued (topic : Topic) (event : Uuid → EventEnvelope) (rows after : InventoryDb) : Prop :=
  ∃ rowId eventId, rows (outboxKey rowId) = none ∧
    after (outboxKey rowId) = some (outboxRow "Inventory" now topic (event eventId)) ∧
    ∀ other, other ≠ rowId → after (outboxKey other) = rows (outboxKey other)

structure RejectedOutcome (rows after : InventoryDb) : Prop where
  products : ∀ productId, after (productKey productId) = ensured config order.items rows productId
  reservations : ∀ orderId, after (reservationKey orderId) = rows (reservationKey orderId)
  enqueued : Enqueued now .inventoryRejected
    (rejectedEvent now order correlationId (lacking config rows order.items)) rows after
  markers : ∀ eventId consumer, after (.processed eventId consumer) = rows (.processed eventId consumer)

structure ReservedOutcome (rows after : InventoryDb) : Prop where
  products : ∀ productId, after (productKey productId) =
    (ensured config order.items rows productId).map fun product =>
      { availableQty := product.availableQty - needed (order.items.map reservedItem) productId
        reservedQty := product.reservedQty + needed (order.items.map reservedItem) productId }
  untouched : ∀ productId, productId ∉ order.items.map OrderLineItem.productId →
    after (productKey productId) = rows (productKey productId)
  reserved : ∃ reservationId, after (reservationKey order.orderId) =
      some { id := reservationId, status := .reserved, items := order.items.map reservedItem } ∧
    Enqueued now .inventoryReserved (reservedEvent now order correlationId reservationId) rows after
  reservations : ∀ orderId, orderId ≠ order.orderId →
    after (reservationKey orderId) = rows (reservationKey orderId)
  markers : ∀ eventId consumer, after (.processed eventId consumer) = rows (.processed eventId consumer)

def Outcome (rows after : InventoryDb) : Prop :=
  ((∃ item ∈ order.items, Short config rows item) →
    RejectedOutcome config now order correlationId rows after) ∧
  ((∀ item ∈ order.items, ¬ Short config rows item) →
    ReservedOutcome config now order correlationId rows after)

end Outcome

section Loops

variable {config : Config} {order : OrderCreatedPayload} {before view : InventoryDb}
variable {lines taken : List OrderLineItem}

/-- A point of the transaction: these lines have their products, and these were taken. -/
structure Handled (config : Config) (before : InventoryDb) (lines taken : List OrderLineItem)
    (view : InventoryDb) : Prop where
  products : ∀ productId, view (productKey productId) =
    (ensured config lines before productId).map fun product =>
      product.take (needed (taken.map reservedItem) productId)
  others : ∀ key, (∀ productId, key ≠ productKey productId) → view key = before key

theorem ensured_named {productId : Uuid}
    (named : productId ∈ lines.map OrderLineItem.productId) :
    ensured config lines before productId = some (productOf config before productId) := by
  simp only [ensured, productOf]
  cases found : before (productKey productId) with
  | none =>
      rw [if_pos named]
      rfl
  | some => rfl

theorem ensured_unnamed {productId : Uuid}
    (unnamed : productId ∉ lines.map OrderLineItem.productId) :
    ensured config lines before productId = before (productKey productId) := by
  simp only [ensured, if_neg unnamed]
  cases before (productKey productId) <;> rfl

theorem ensured_other (item : OrderLineItem) {productId : Uuid}
    (different : productId ≠ item.productId) :
    ensured config (lines ++ [item]) before productId = ensured config lines before productId := by
  simp [ensured, different]

theorem needed_line (item : OrderLineItem) (productId : Uuid) :
    needed ((taken ++ [item]).map reservedItem) productId =
      needed (taken.map reservedItem) productId +
        if item.productId = productId then item.quantity else 0 := by
  rw [List.map_append, List.map_singleton, needed_append]
  rfl

theorem Handled.start (config : Config) (before : InventoryDb) : Handled config before [] [] before where
  products productId := by
    rw [ensured_unnamed (by simp)]
    cases before (productKey productId) <;> simp [needed, Product.take]
  others _ _ := rfl

theorem Handled.found (handled : Handled config before lines [] view) {item : OrderLineItem}
    {product : Product} (found : view (productKey item.productId) = some product) :
    Handled config before (lines ++ [item]) [] view where
  products productId := by
    rw [handled.products]
    by_cases same : productId = item.productId
    · subst same
      rw [handled.products] at found
      simp only [ensured] at found ⊢
      grind
    · rw [ensured_other item same]
  others := handled.others

/-- A product that is here now but was not at the start was added for an earlier line. -/
theorem Handled.added (handled : Handled config before lines taken view) {productId : Uuid}
    {product : Product} (found : view (productKey productId) = some product)
    (absent : before (productKey productId) = none) :
    ∃ item ∈ lines, item.productId = productId := by
  rw [handled.products, Option.map_eq_some_iff] at found
  obtain ⟨_, present, _⟩ := found
  by_contra unnamed
  rw [ensured_unnamed (by simpa using unnamed), absent] at present
  cases present

theorem Handled.absent (handled : Handled config before lines taken view) {productId : Uuid}
    (missing : view (productKey productId) = none) : before (productKey productId) = none := by
  rw [handled.products, Option.map_eq_none_iff, ensured] at missing
  split at missing
  · cases missing
  · next absent => exact absent

theorem Handled.create (handled : Handled config before lines [] view) {item : OrderLineItem}
    (missing : view (productKey item.productId) = none) :
    Handled config before (lines ++ [item]) []
      (view.set (productKey item.productId) config.newProduct) where
  products productId := by
    by_cases same : productId = item.productId
    · subst same
      rw [handled.products] at missing
      rw [Store.set_same]
      simp only [ensured, Config.newProduct] at missing ⊢
      cases found : before (productKey item.productId) <;> simp_all [needed, Product.take]
    · rw [Store.set_other _ _ (by simpa using same), handled.products, ensured_other item same]
  others key other := by
    rw [Store.set_other _ _ (other _), handled.others key other]

theorem Handled.seen (handled : Handled config before lines taken view) {item : OrderLineItem}
    (member : item ∈ lines) :
    view (productKey item.productId) = some ((productOf config before item.productId).take
      (needed (taken.map reservedItem) item.productId)) := by
  rw [handled.products, ensured_named (List.mem_map_of_mem member)]
  rfl

theorem Handled.take (handled : Handled config before lines taken view) {item : OrderLineItem}
    {product : Product} (found : view (productKey item.productId) = some product) :
    Handled config before lines (taken ++ [item])
      (view.set (productKey item.productId) (product.take item.quantity)) where
  products productId := by
    simp only [needed_line]
    by_cases same : productId = item.productId
    · subst same
      rw [handled.products, Option.map_eq_some_iff] at found
      obtain ⟨stored, present, rfl⟩ := found
      rw [Store.set_same, present]
      simp [take_take]
    · rw [Store.set_other _ _ (by simpa using same), handled.products]
      simp [Ne.symm same]
  others key other := by
    rw [Store.set_other _ _ (other _), handled.others key other]

end Loops

section Ends

variable {config : Config} {now : Timestamp} {order : OrderCreatedPayload} {correlationId : Uuid}
variable {before rows : InventoryDb} {writes : Writes (TableKey Key) (TableRow Row)}
variable {supply drawn : Nat}

/-- The transaction sees these lines handled, and has drawn its values from the supply. -/
def Handles (config : Config) (before rows : InventoryDb) (supply : Nat)
    (lines taken : List OrderLineItem) (writes : Writes (TableKey Key) (TableRow Row))
    (drawn : Nat) : Prop :=
  Handled config before lines taken (writes.over rows) ∧ supply ≤ drawn

/-- The products that were missing could be created. -/
def Creatable (config : Config) (before : InventoryDb) (lines : List OrderLineItem) : Prop :=
  ∀ item ∈ lines, before (productKey item.productId) = none → config.newProduct.fitsColumns = true

/-- A value is refused, and it is one that the order would have needed. -/
def Refused (config : Config) (order : OrderCreatedPayload) (before : InventoryDb)
    (error : TxError) : Prop :=
  error = outOfRange ∧ OutOfRange config order before

theorem results_ensureProducts (handles : Handles config before rows supply [] [] writes drawn) :
    results (onRows (Prog.forEach order.items fun item => do
        let _ ← upsertWithin (V := Row) (.product item.productId) Product.fitsColumns
          config.newProduct))
      (fun _ writes drawn => Handles config before rows supply order.items [] writes drawn ∧
        Creatable config before order.items)
      (Refused config order before) writes rows drawn := by
  rw [onRows_forEach]
  apply results_forEach _ _ (fun done writes drawn =>
    Handles config before rows supply done [] writes drawn ∧ Creatable config before done) ?_
    ⟨handles, by simp [Creatable]⟩
  rintro done item rest split writes drawn ⟨handles, creatable⟩
  have more (created : before (productKey item.productId) = none →
      config.newProduct.fitsColumns = true) : Creatable config before (done ++ [item]) := by
    intro other member
    rcases List.mem_append.mp member with old | new
    · exact creatable other old
    · rw [List.mem_singleton.mp new]
      exact created
  rw [onRows_bind, onRows_upsertWithin, results_bind, results_upsertWithin]
  refine ⟨fun product found => ⟨⟨handles.1.found found, handles.2⟩, ?_⟩,
    fun missing => ⟨fun fits => ⟨⟨?_, handles.2⟩, more fun _ => fits⟩, fun large => ?_⟩⟩
  · apply more
    intro absent
    obtain ⟨other, member, same⟩ := handles.1.added found absent
    exact creatable other member (same ▸ absent)
  · rw [Writes.put_over]
    exact handles.1.create missing
  · exact ⟨rfl, .inl ⟨item, by simp [split], handles.1.absent missing, large⟩⟩

theorem shortfall_lacking (before : InventoryDb) (item : OrderLineItem) :
    (shortfall item (productOf config before item.productId)).toList =
      lacking config before [item] := by
  by_cases short : Short config before item
  · have less := short
    simp only [Short] at less
    simp [lacking, short, shortfall, less]
  · have enough := short
    simp only [Short] at enough
    simp [lacking, short, shortfall, enough]

theorem results_checkAvailability {fails : TxError → Prop}
    (handles : Handles config before rows supply order.items [] writes drawn) :
    results (onRows (Prog.collect order.items [] fun item => do
        let product : Product ← findUniqueOrThrow (V := Row) (.product item.productId)
        return shortfall item product))
      (fun shortfalls writes drawn => Handles config before rows supply order.items [] writes drawn ∧
        shortfalls = lacking config before order.items) fails writes rows drawn := by
  rw [onRows_collect]
  apply results_collect _ _ (fun done shortfalls writes drawn =>
    Handles config before rows supply order.items [] writes drawn ∧
      shortfalls = lacking config before done) ?_ ⟨handles, rfl⟩
  intro done item rest split shortfalls writes drawn reached
  obtain ⟨handles, same⟩ := reached
  have member : item ∈ order.items := by simp [split]
  have seen := handles.1.seen member
  rw [onRows_bind, onRows_findUniqueOrThrow, results_bind, results_findUniqueOrThrow seen]
  refine ⟨handles, ?_⟩
  have untaken : (productOf config before item.productId).take
      (needed (([] : List OrderLineItem).map reservedItem) item.productId) =
        productOf config before item.productId := by
    simp [needed, Product.take]
  rw [untaken, shortfall_lacking, same]
  simp [lacking]

theorem movesFit_append (config : Config) (move : Product → Nat → Product) (before : InventoryDb)
    (moved one two : List ReservedItem) :
    movesFit config move before moved (one ++ two) =
      (movesFit config move before moved one && movesFit config move before (moved ++ one) two) := by
  induction one generalizing moved with
  | nil => simp [movesFit]
  | cons line one ih => simp [movesFit, ih, Bool.and_assoc]

/-- The next line is moved from what the earlier lines have left of its product. -/
theorem movesFit_line (config : Config) {move : Product → Nat → Product}
    (adds : ∀ product one two, move (move product one) two = move product (one + two))
    (before : InventoryDb) (moved : List ReservedItem) (line : ReservedItem) :
    movesFit config move before moved [line] =
      (move (move (productOf config before line.productId) (needed moved line.productId))
        line.quantity).fitsColumns := by
  simp [movesFit, adds, needed_append]

/-- A line that cannot be moved stops the loop. -/
theorem movesFit_stops {config : Config} {move : Product → Nat → Product} {before : InventoryDb}
    {lines moved rest : List ReservedItem} {line : ReservedItem}
    (split : lines = moved ++ line :: rest)
    (large : movesFit config move before moved [line] = false) :
    movesFit config move before [] lines = false := by
  have whole : lines = moved ++ ([line] ++ rest) := split
  rw [whole, movesFit_append, movesFit_append, List.nil_append, large]
  simp

theorem results_takeStock
    (enough : ∀ item ∈ order.items, ¬ Short config before item)
    (handles : Handles config before rows supply order.items [] writes drawn) :
    results (onRows (Prog.forEach order.items fun item => do
        let _ ← updateWithin (V := Row) (.product item.productId) Product.fitsColumns
          fun (product : Product) => product.take item.quantity))
      (fun _ writes drawn => Handles config before rows supply order.items order.items writes drawn ∧
        movesFit config Product.take before [] (order.items.map reservedItem) = true)
      (Refused config order before) writes rows drawn := by
  rw [onRows_forEach]
  apply results_forEach _ _ (fun done writes drawn =>
    Handles config before rows supply order.items done writes drawn ∧
      movesFit config Product.take before [] (done.map reservedItem) = true) ?_ ⟨handles, rfl⟩
  rintro done item rest split writes drawn ⟨handles, fitted⟩
  have member : item ∈ order.items := by simp [split]
  have seen := handles.1.seen member
  have line := movesFit_line config take_take before (done.map reservedItem) (reservedItem item)
  rw [onRows_bind, onRows_updateWithin, results_bind, results_updateWithin seen]
  constructor
  · intro fits
    refine ⟨⟨?_, handles.2⟩, ?_⟩
    · rw [Writes.put_over]
      exact handles.1.take seen
    · rw [List.map_append, movesFit_append, fitted]
      exact line.trans fits
  · intro large
    have lines : order.items.map reservedItem =
        done.map reservedItem ++ reservedItem item :: rest.map reservedItem := by simp [split]
    exact ⟨rfl, .inr ⟨enough, movesFit_stops lines (line.trans large)⟩⟩

theorem movesFit_congr {move : Product → Nat → Product} {one two : InventoryDb}
    (same : ∀ productId, one (productKey productId) = two (productKey productId))
    (moved lines : List ReservedItem) :
    movesFit config move one moved lines = movesFit config move two moved lines := by
  induction lines generalizing moved with
  | nil => rfl
  | cons line rest ih => simp only [movesFit, productOf, same, ih]

/-- Only the products matter. -/
theorem OutOfRange.congr {one two : InventoryDb}
    (same : ∀ productId, one (productKey productId) = two (productKey productId)) :
    OutOfRange config order one ↔ OutOfRange config order two := by
  simp only [OutOfRange, Short, productOf, same, movesFit_congr same]

theorem lacking_eq_nil (rows : InventoryDb) (lines : List OrderLineItem) :
    lacking config rows lines = [] ↔ ∀ item ∈ lines, ¬ Short config rows item := by
  simp [lacking, List.filter_eq_nil_iff]

theorem Handles.rejected (handles : Handles config before rows supply order.items [] writes drawn)
    (free : before (outboxKey (drawn + 1)) = none) :
    RejectedOutcome config now order correlationId before
      ((writes.over rows).set (outboxKey (drawn + 1)) (outboxRow "Inventory" now .inventoryRejected
        (rejectedEvent now order correlationId (lacking config before order.items) drawn))) where
  products productId := by
    rw [Store.set_other _ _ (by simp), handles.1.products]
    cases ensured config order.items before productId <;> simp [needed, Product.take]
  reservations orderId := by
    rw [Store.set_other _ _ (by simp), handles.1.others _ (by simp)]
  enqueued := by
    refine ⟨drawn + 1, drawn, free, Store.set_same .., ?_⟩
    intro other different
    rw [Store.set_other _ _ (by simpa using different), handles.1.others _ (by simp)]
  markers eventId consumer := by
    rw [Store.set_other _ _ (by simp), handles.1.others _ (by simp)]

theorem Handles.reserved
    (handles : Handles config before rows supply order.items order.items writes drawn)
    (free : before (outboxKey (drawn + 2)) = none) :
    ReservedOutcome config now order correlationId before
      (((writes.over rows).set (reservationKey order.orderId)
        { id := drawn, status := .reserved, items := order.items.map reservedItem }).set
          (outboxKey (drawn + 2)) (outboxRow "Inventory" now .inventoryReserved
            (reservedEvent now order correlationId drawn (drawn + 1)))) where
  products productId := by
    rw [Store.set_other _ _ (by simp), Store.set_other _ _ (by simp), handles.1.products]
    rfl
  untouched productId unnamed := by
    have unneeded : needed (order.items.map reservedItem) productId = 0 :=
      needed_unnamed (by simpa [reservedItem] using unnamed)
    rw [Store.set_other _ _ (by simp), Store.set_other _ _ (by simp), handles.1.products,
      ensured_unnamed unnamed, unneeded]
    cases before (productKey productId) <;> simp [Product.take]
  reserved := by
    refine ⟨drawn, ?_, drawn + 2, drawn + 1, free, Store.set_same .., ?_⟩
    · rw [Store.set_other _ _ (by simp), Store.set_same]
    · intro other different
      rw [Store.set_other _ _ (by simpa using different), Store.set_other _ _ (by simp),
        handles.1.others _ (by simp)]
  reservations orderId different := by
    rw [Store.set_other _ _ (by simp), Store.set_other _ _ (by simpa using different),
      handles.1.others _ (by simp)]
  markers eventId consumer := by
    rw [Store.set_other _ _ (by simp), Store.set_other _ _ (by simp), handles.1.others _ (by simp)]

theorem results_reserve (config : Config) (now : Timestamp) (order : OrderCreatedPayload)
    (correlationId : Uuid) (writes : Writes (TableKey Key) (TableRow Row)) (rows : InventoryDb)
    (unreserved : writes.over rows (reservationKey order.orderId) = none)
    (free : ∀ rowId, supply ≤ rowId → writes.over rows (outboxKey rowId) = none) :
    results (onRows (reserve config now order correlationId))
      (fun _ after _ => ¬ OutOfRange config order (writes.over rows) ∧
        Outcome config now order correlationId (writes.over rows) (after.over rows))
      (Refused config order (writes.over rows)) writes rows supply := by
  generalize seen : writes.over rows = before at unreserved free
  have start : Handles config before rows supply [] [] writes supply :=
    ⟨by rw [seen]; exact .start config before, Nat.le_refl supply⟩
  rw [reserve, onRows_bind]
  apply results_seq (results_ensureProducts start)
  rintro _ writes drawn ⟨handles, creatable⟩
  rw [onRows_bind]
  apply results_seq (results_checkAvailability handles)
  rintro shortfalls writes drawn ⟨handles, rfl⟩
  have later := handles.2
  rw [onRows_ite]
  split
  · next short =>
      have freeNow := free (drawn + 1) (by omega)
      have unwritten := handles.1.others (outboxKey (drawn + 1)) (by simp)
      simp only [onRows_bind, results_bind, onRows_createEvent, results_createEvent, enqueue,
        results_enqueueAs, onRows_create]
      rw [results_create (by rw [unwritten, freeNow])]
      rw [Ne, lacking_eq_nil] at short
      refine ⟨?_, fun _ => ?_, fun enough => absurd enough short⟩
      · rintro (⟨item, member, missing, large⟩ | ⟨enough, _⟩)
        · simp [creatable item member missing] at large
        · exact short enough
      · rw [Writes.put_over]
        exact handles.rejected freeNow
  · next enough =>
      rw [not_not, lacking_eq_nil] at enough
      rw [onRows_bind]
      apply results_seq (results_takeStock enough handles)
      rintro _ writes drawn ⟨handles, fitted⟩
      have later := handles.2
      have freeNow := free (drawn + 2) (by omega)
      have vacant := handles.1.others (reservationKey order.orderId) (by simp)
      simp only [onRows_bind, results_bind, onRows_randomUUID, results_randomUUID, onRows_create]
      rw [results_create (by rw [vacant, unreserved])]
      simp only [onRows_createEvent, results_createEvent, enqueue, results_enqueueAs, onRows_create]
      rw [results_create (by
        rw [Writes.put_over, Store.set_other _ _ (by simp), handles.1.others _ (by simp), freeNow])]
      refine ⟨?_, ?_, fun _ => ?_⟩
      · rintro (⟨item, member, missing, large⟩ | ⟨_, large⟩)
        · simp [creatable item member missing] at large
        · simp [fitted] at large
      · rintro ⟨item, member, less⟩
        exact absurd less (enough item member)
      · rw [Writes.put_over, Writes.put_over]
        exact handles.reserved freeNow

end Ends

section Sample

end Sample

end Ecommerce.InventoryService
