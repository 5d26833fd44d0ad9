import Ecommerce.InventoryService.EventsConsumer
import Ecommerce.Shared.Statements

set_option autoImplicit false

/-!
# What a reserve transaction does to the inventory database
-/

namespace Ecommerce.InventoryService

open Transaction

/-- The quantity of a product over all the lines that name it. -/
def needed : List ReservedItem → Uuid → Nat
  | [], _ => 0
  | line :: rest, productId =>
      (if line.productId = productId then line.quantity else 0) + needed rest productId

/-- Missing products of the lines are created, and the quantities of the taken lines moved. -/
def stockWrites (config : Config) (lines taken : List ReservedItem) (rows : InventoryDb) :
    Writes (TableKey Key) (TableRow Row)
  | .row (.product productId) =>
      let base : Product := (rows (productKey productId)).getD config.newProduct
      if productId ∈ taken.map ReservedItem.productId then
        some (some (base.take (needed taken productId)))
      else if productId ∈ lines.map ReservedItem.productId ∧ rows (productKey productId) = none then
        some (some config.newProduct)
      else none
  | _ => none

structure Reserving where
  event : EventEnvelope
  order : OrderCreatedPayload
  now : Timestamp
  created : event.payload = .orderCreated order

abbrev Reserving.lines (job : Reserving) : List ReservedItem := job.order.items.map reservedItem

def Reserving.body (config : Config) (job : Reserving) :
    Prog (TableKey Key) (TableRow Row) TxError Unit :=
  onOrderCreated config job.now job.event

def Reserving.rejectedRow (job : Reserving) (shortfalls : List Shortfall) (eventId : Uuid) :
    OutboxEvent :=
  outboxRow "Inventory" job.now .inventoryRejected <| NewEvent.envelope
    { eventType := .inventoryRejected
      correlationId := job.event.correlationId
      aggregateId := job.order.orderId
      producer
      payload := .inventoryRejected { orderId := job.order.orderId, shortfalls } } job.now eventId

def Reserving.reservation (job : Reserving) (reservationId : Uuid) : Reservation :=
  { id := reservationId, status := .reserved, items := job.lines }

def Reserving.reservedRow (job : Reserving) (reservationId eventId : Uuid) : OutboxEvent :=
  outboxRow "Inventory" job.now .inventoryReserved <| NewEvent.envelope
    { eventType := .inventoryReserved
      correlationId := job.event.correlationId
      aggregateId := job.order.orderId
      producer
      payload := .inventoryReserved
        { orderId := job.order.orderId, reservationId, items := job.lines } } job.now eventId

/-- What is known at its commit of the check that a transaction made, and of the values it drew. -/
structure Knowledge where
  checked : InventoryDb → List OrderLineItem → List Shortfall → Prop
  drawn : Uuid → Prop

structure Knowledge.Lasting (config : Config) (inv : InventoryDb → Prop)
    (rely : InventoryDb → InventoryDb → Prop) (knowledge : Knowledge) : Prop where
  start : ∀ database, knowledge.checked database [] []
  checks : ∀ (database : InventoryDb) done shortfalls (item : OrderLineItem),
    knowledge.checked database done shortfalls →
      knowledge.checked database (done ++ [item]) (shortfalls ++
        (shortfall item ((database (productKey item.productId)).getD config.newProduct)).toList)
  stays : ∀ writes before after items shortfalls, Interferes inv rely writes before after →
    knowledge.checked before items shortfalls → knowledge.checked after items shortfalls
  kept : ∀ before after, rely before after → ∀ productId,
    before (productKey productId) ≠ none → after (productKey productId) ≠ none

inductive ReserveEffect (config : Config) (knowledge : Knowledge) (job : Reserving)
    (rows : InventoryDb) : Writes (TableKey Key) (TableRow Row) → Prop
  | rejected (unmarked : rows (marker job.event.eventId) = none) (shortfalls : List Shortfall)
      (checked : knowledge.checked rows job.order.items shortfalls) (short : shortfalls ≠ [])
      (eventId rowId : Uuid) (drawn : knowledge.drawn eventId) (rowDrawn : knowledge.drawn rowId)
      (free : rows (outboxKey rowId) = none) :
      ReserveEffect config knowledge job rows
        (((stockWrites config job.lines [] rows).put (marker job.event.eventId) (some ())).put
          (outboxKey rowId) (some (job.rejectedRow shortfalls eventId)))
  | reserved (unmarked : rows (marker job.event.eventId) = none)
      (checked : knowledge.checked rows job.order.items [])
      (unreserved : rows (reservationKey job.order.orderId) = none)
      (reservationId eventId rowId : Uuid) (drawn : knowledge.drawn eventId)
      (rowDrawn : knowledge.drawn rowId) (free : rows (outboxKey rowId) = none) :
      ReserveEffect config knowledge job rows
        ((((stockWrites config job.lines job.lines rows).put (marker job.event.eventId)
          (some ())).put (reservationKey job.order.orderId) (some (job.reservation reservationId))).put
            (outboxKey rowId) (some (job.reservedRow reservationId eventId)))

section Stock

variable {config : Config} {lines taken : List ReservedItem} {rows : InventoryDb}

theorem needed_append (line : ReservedItem) (productId : Uuid) :
    needed (taken ++ [line]) productId =
      needed taken productId + if line.productId = productId then line.quantity else 0 := by
  induction taken with
  | nil => simp [needed]
  | cons head rest ih =>
      simp only [List.cons_append, needed, ih]
      omega

theorem take_take (product : Product) (one two : Nat) :
    (product.take one).take two = product.take (one + two) := by
  simp only [Product.take, Product.mk.injEq]
  omega

variable {inv : InventoryDb → Prop} {rely : InventoryDb → InventoryDb → Prop}
variable {writes : Writes (TableKey Key) (TableRow Row)} {before after : InventoryDb}

theorem stockWrites_interfered
    (kept : ∀ before after, rely before after → ∀ productId,
      before (productKey productId) ≠ none → after (productKey productId) ≠ none)
    (same : ∀ productId, writes (productKey productId) =
      stockWrites config lines taken before (productKey productId))
    (interference : Interferes inv rely writes before after) :
    stockWrites config lines taken after = stockWrites config lines taken before := by
  -- Others leave the created and the taken rows alone, and do not delete the rest.
  funext key
  rcases key with _ | ⟨productId⟩ | _ | _
  · rfl
  · by_cases written : writes (productKey productId) = none
    · rw [same] at written
      rw [written]
      simp only [stockWrites] at written ⊢
      have stays := kept _ _ interference.allowed productId
      split at written
      · cases written
      · next untaken =>
          split at written
          · cases written
          · next uncreated =>
              simp only [untaken, if_false]
              grind
    · have frame := interference.frame _ written
      simp only [stockWrites, frame]
  · rfl
  · rfl

theorem needed_unnamed {productId : Uuid}
    (unnamed : productId ∉ taken.map ReservedItem.productId) : needed taken productId = 0 := by
  induction taken with
  | nil => rfl
  | cons line rest ih =>
      simp only [List.map_cons, List.mem_cons, not_or] at unnamed
      simpa [needed, Ne.symm unnamed.1] using ih unnamed.2

theorem stockWrites_seen (productId : Uuid) (named : productId ∈ lines.map ReservedItem.productId) :
    (stockWrites config lines taken rows).over rows (productKey productId) =
      some (((rows (productKey productId)).getD config.newProduct).take (needed taken productId)) := by
  simp only [Writes.over, stockWrites]
  split
  · rfl
  · next untaken =>
      rw [needed_unnamed untaken]
      cases rows (productKey productId) <;> simp [named, Product.take]

theorem stockWrites_found (line : ReservedItem)
    (found : (stockWrites config lines [] rows).over rows (productKey line.productId) ≠ none) :
    stockWrites config (lines ++ [line]) [] rows = stockWrites config lines [] rows := by
  funext key
  rcases key with _ | ⟨productId⟩ | _ | _ <;> try rfl
  simp only [Writes.over, stockWrites, List.map_append, List.mem_append] at found ⊢
  grind

theorem stockWrites_create (line : ReservedItem)
    (missing : (stockWrites config lines [] rows).over rows (productKey line.productId) = none) :
    stockWrites config (lines ++ [line]) [] rows =
      (stockWrites config lines [] rows).put (productKey line.productId)
        (some config.newProduct) := by
  funext key
  by_cases same : key = productKey line.productId
  · subst same
    simp only [Writes.over, stockWrites, List.map_append, List.mem_append] at missing ⊢
    simp only [Writes.put, Function.update_self]
    grind
  · rw [Writes.put, Function.update_of_ne same]
    rcases key with _ | ⟨productId⟩ | _ | _ <;> try rfl
    simp only [productKey, TableKey.row.injEq, Key.product.injEq] at same
    simp [stockWrites, same]

theorem stockWrites_take (line : ReservedItem) :
    stockWrites config lines (taken ++ [line]) rows =
      (stockWrites config lines taken rows).put (productKey line.productId)
        (some ((((rows (productKey line.productId)).getD config.newProduct).take
          (needed taken line.productId)).take line.quantity)) := by
  funext key
  by_cases same : key = productKey line.productId
  · subst same
    simp [stockWrites, Writes.put, needed_append, take_take]
  · rw [Writes.put, Function.update_of_ne same]
    rcases key with _ | ⟨productId⟩ | _ | _ <;> try rfl
    simp only [productKey, TableKey.row.injEq, Key.product.injEq] at same
    simp [stockWrites, same, needed_append, Ne.symm same]

end Stock

section Wp

variable {config : Config} {knowledge : Knowledge} {job : Reserving}
variable {inv : InventoryDb → Prop} {rely : InventoryDb → InventoryDb → Prop}

theorem wp_enqueue {draws : Uuid → Prop} {now : Timestamp} {topic : Topic} {event : EventEnvelope}
    {post : Unit → Writes (TableKey Key) (TableRow Row) → InventoryDb → Prop}
    {writes : Writes (TableKey Key) (TableRow Row)} {rows : InventoryDb} :
    wp inv rely draws (onRows (enqueue now topic event)) post writes rows ↔
      ∀ rowId, draws rowId → ∀ later, Interferes inv rely writes rows later →
        writes.over later (outboxKey rowId) = none →
          post () (writes.put (outboxKey rowId) (some (outboxRow "Inventory" now topic event)))
            later := by
  simp only [enqueue, enqueueAs, onRows_bind, onRows_randomUUID, onRows_create, wp_bind,
    wp_randomUUID, wp_create]
  rfl

/-- A point of the transaction: these lines have their products, and these were taken. -/
structure Stage (config : Config) (job : Reserving) (lines taken : List ReservedItem)
    (writes : Writes (TableKey Key) (TableRow Row)) (rows : InventoryDb) : Prop where
  written : writes = (stockWrites config lines taken rows).put (marker job.event.eventId) (some ())
  unmarked : rows (marker job.event.eventId) = none

theorem Stage.interfered {lines taken : List ReservedItem}
    {writes : Writes (TableKey Key) (TableRow Row)} {before after : InventoryDb}
    (lasting : knowledge.Lasting config inv rely) (stage : Stage config job lines taken writes before)
    (interference : Interferes inv rely writes before after) :
    Stage config job lines taken writes after where
  written := by
    rw [stockWrites_interfered lasting.kept (fun _ => ?_) interference]
    · exact stage.written
    · simp [stage.written, Writes.put]
  unmarked := by
    rw [interference.frame _ (by simp [stage.written, Writes.put_written]), stage.unmarked]

theorem Stage.seen {lines taken : List ReservedItem}
    {writes : Writes (TableKey Key) (TableRow Row)} {rows : InventoryDb}
    (stage : Stage config job lines taken writes rows) (productId : Uuid) :
    writes.over rows (productKey productId) =
      (stockWrites config lines taken rows).over rows (productKey productId) := by
  simp [stage.written, Writes.over, Writes.put]

theorem Stage.start {rows : InventoryDb} (unmarked : rows (marker job.event.eventId) = none) :
    Stage config job [] [] (Writes.none.put (marker job.event.eventId) (some ())) rows := by
  refine ⟨?_, unmarked⟩
  congr 1
  funext key
  rcases key with _ | ⟨_ | _ | _⟩ <;> simp [stockWrites, Writes.none]

section Advance

variable {lines taken : List ReservedItem} {writes : Writes (TableKey Key) (TableRow Row)}
variable {rows : InventoryDb} {line : ReservedItem}

theorem Stage.found (stage : Stage config job lines [] writes rows)
    (found : writes.over rows (productKey line.productId) ≠ none) :
    Stage config job (lines ++ [line]) [] writes rows := by
  rw [stage.seen] at found
  refine ⟨?_, stage.unmarked⟩
  rw [stockWrites_found line found]
  exact stage.written

theorem Stage.create (stage : Stage config job lines [] writes rows) (line : ReservedItem)
    (missing : writes.over rows (productKey line.productId) = none) :
    Stage config job (lines ++ [line]) []
      (writes.put (productKey line.productId) (some config.newProduct)) rows := by
  rw [stage.seen] at missing
  refine ⟨?_, stage.unmarked⟩
  rw [stockWrites_create line missing, stage.written]
  exact Writes.put_comm _ (by simp) ..

theorem Stage.take (stage : Stage config job lines taken writes rows) (line : ReservedItem)
    (named : line.productId ∈ lines.map ReservedItem.productId) {product : Product}
    (found : writes.over rows (productKey line.productId) = some product) :
    Stage config job lines (taken ++ [line])
      (writes.put (productKey line.productId) (some (product.take line.quantity))) rows := by
  rw [stage.seen, stockWrites_seen _ named] at found
  refine ⟨?_, stage.unmarked⟩
  rw [stockWrites_take, stage.written, Writes.put_comm _ (by simp), ← Option.some.inj found]

end Advance

theorem wp_ensureProducts (lasting : knowledge.Lasting config inv rely)
    {writes : Writes (TableKey Key) (TableRow Row)} {rows : InventoryDb}
    (stage : Stage config job [] [] writes rows) :
    wp inv rely knowledge.drawn
      (onRows (Prog.forEach job.order.items fun item => do
        let _ ← upsertWithin (V := Row) (.product item.productId) Product.fitsColumns
          config.newProduct))
      (fun _ => Stage config job job.lines []) writes rows := by
  rw [onRows_forEach]
  refine wp_forEach _ _ (fun done => Stage config job (done.map reservedItem) []) ?_ _ _ stage
  intro done item rest _ writes rows stage
  rw [onRows_bind, onRows_upsertWithin, wp_bind, wp_upsertWithin]
  intro now one
  have stageNow := stage.interfered lasting one
  rw [List.map_append, List.map_singleton]
  refine ⟨fun product found => ?_, fun missing _ later two missingLater => ?_⟩
  · apply stageNow.found
    exact fun missing => absurd (found.symm.trans missing) (by simp)
  · have stageLater := stageNow.interfered lasting two
    exact stageLater.create (reservedItem item) missingLater

theorem wp_checkAvailability (lasting : knowledge.Lasting config inv rely)
    {writes : Writes (TableKey Key) (TableRow Row)} {rows : InventoryDb}
    (stage : Stage config job job.lines [] writes rows) :
    wp inv rely knowledge.drawn
      (onRows (Prog.collect job.order.items [] fun item => do
        let product : Product ← findUniqueOrThrow (V := Row) (.product item.productId)
        return shortfall item product))
      (fun shortfalls writes rows => Stage config job job.lines [] writes rows ∧
        knowledge.checked rows job.order.items shortfalls) writes rows := by
  rw [onRows_collect]
  refine wp_collect _ _ (fun done shortfalls writes rows => Stage config job job.lines [] writes rows ∧
    knowledge.checked rows done shortfalls) ?_ _ _ ⟨stage, lasting.start rows⟩
  rintro done item rest split shortfalls writes rows ⟨stage, checked⟩
  rw [onRows_bind, onRows_findUniqueOrThrow, wp_bind, wp_findUniqueOrThrow]
  intro now one product found
  have stageNow := stage.interfered lasting one
  have named : item.productId ∈ job.lines.map ReservedItem.productId := by
    simp [Reserving.lines, split, reservedItem]
  rw [stageNow.seen, stockWrites_seen _ named, needed_unnamed (by simp)] at found
  have same : (now (productKey item.productId)).getD config.newProduct = product := by
    simpa [Product.take] using found
  refine ⟨stageNow, ?_⟩
  rw [← same]
  exact lasting.checks _ _ _ _ (lasting.stays _ _ _ _ _ one checked)

theorem wp_takeStock (lasting : knowledge.Lasting config inv rely)
    {writes : Writes (TableKey Key) (TableRow Row)} {rows : InventoryDb}
    (stage : Stage config job job.lines [] writes rows)
    (checked : knowledge.checked rows job.order.items []) :
    wp inv rely knowledge.drawn
      (onRows (Prog.forEach job.order.items fun item => do
        let _ ← updateWithin (V := Row) (.product item.productId) Product.fitsColumns
          fun (product : Product) => product.take item.quantity))
      (fun _ writes rows => Stage config job job.lines job.lines writes rows ∧
        knowledge.checked rows job.order.items []) writes rows := by
  rw [onRows_forEach]
  refine wp_forEach _ _ (fun done writes rows =>
    Stage config job job.lines (done.map reservedItem) writes rows ∧
      knowledge.checked rows job.order.items []) ?_ _ _ ⟨stage, checked⟩
  rintro done item rest split writes rows ⟨stage, checked⟩
  rw [onRows_bind, onRows_updateWithin, wp_bind, wp_updateWithin]
  intro now one product found _
  have stageNow := stage.interfered lasting one
  have named : item.productId ∈ job.lines.map ReservedItem.productId := by
    simp [Reserving.lines, split, reservedItem]
  rw [List.map_append, List.map_singleton]
  exact ⟨stageNow.take (reservedItem item) named found,
    lasting.stays _ _ _ _ _ one checked⟩

theorem Reserving.wp_body (lasting : knowledge.Lasting config inv rely) (rows : InventoryDb) :
    wp inv rely knowledge.drawn (job.body config)
      (Commits inv rely (fun job _ => ReserveEffect config knowledge job) job) .none rows := by
  simp only [Reserving.body, onOrderCreated, processOnceTx, job.created, wp_bind, wp_create]
  intro marking one unmarked
  rw [reserve, onRows_bind]
  refine wp_seq (wp_ensureProducts lasting (.start unmarked)) fun _ writes rows stage => ?_
  rw [onRows_bind]
  refine wp_seq (wp_checkAvailability lasting stage) ?_
  rintro shortfalls writes rows ⟨stage, checked⟩
  rw [onRows_ite]
  split
  · next short =>
      simp only [onRows_bind, wp_bind, onRows_createEvent, wp_createEvent, wp_enqueue]
      intro eventId drawn rowId rowDrawn inserting two free last three
      have stageNow := (stage.interfered lasting two).interfered lasting three.unput
      have checkedNow := lasting.stays _ _ _ _ _ three (lasting.stays _ _ _ _ _ two checked)
      have freeNow : last (outboxKey rowId) = none := by
        rw [three.frame _ (by simp [Writes.put_written])]
        simpa [(stage.interfered lasting two).written, Writes.over, Writes.put, stockWrites] using free
      rw [stageNow.written]
      exact .rejected stageNow.unmarked shortfalls checkedNow short eventId rowId drawn rowDrawn
        freeNow
  · next noShortfalls =>
      rw [not_not.mp noShortfalls] at checked
      rw [onRows_bind]
      refine wp_seq (wp_takeStock lasting stage checked) ?_
      rintro _ writes rows ⟨stage, checked⟩
      simp only [onRows_bind, wp_bind, onRows_randomUUID, wp_randomUUID, onRows_create, wp_create,
        onRows_createEvent, wp_createEvent, wp_enqueue]
      intro reservationId _ reserving two unreserved eventId drawn rowId rowDrawn inserting three
        free last four
      have stageTwo := stage.interfered lasting two
      have stageThree := stageTwo.interfered lasting three.unput
      have stageNow := stageThree.interfered lasting four.unput.unput
      have checkedNow := lasting.stays _ _ _ _ _ four
        (lasting.stays _ _ _ _ _ three (lasting.stays _ _ _ _ _ two checked))
      have unreservedNow : last (reservationKey job.order.orderId) = none := by
        rw [four.frame _ (by simp [Writes.put_written]), three.frame _ (by simp [Writes.put_written])]
        simpa [stageTwo.written, Writes.over, Writes.put, stockWrites] using unreserved
      have freeNow : last (outboxKey rowId) = none := by
        rw [four.frame _ (by simp [Writes.put_written])]
        simpa [stageThree.written, Writes.over, Writes.put, stockWrites] using free
      rw [stageNow.written]
      exact .reserved stageNow.unmarked checkedNow unreservedNow reservationId eventId rowId drawn
        rowDrawn freeNow

end Wp

end Ecommerce.InventoryService
