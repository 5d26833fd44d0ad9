import Ecommerce.InventoryService.StockEffect

set_option autoImplicit false

/-!
# Stock under interleaved reserve transactions

The check of the available quantities and the decrements are separate statements. What the
check has read may be taken by another order before the decrements run.
-/

namespace Ecommerce.InventoryService

open Transaction

abbrev InventorySystem := System (TableKey Key) (TableRow Row) TxError Unit Reserving

def NonNegative (database : InventoryDb) : Prop :=
  ∀ productId (product : Product), database (productKey productId) = some product →
    0 ≤ product.availableQty

structure DistinctLines (order : OrderCreatedPayload) : Prop where
  products : (order.items.map OrderLineItem.productId).Nodup
  positive : ∀ item ∈ order.items, 0 < item.quantity

def Reserves (orders : EventEnvelope → Prop) (_ : InventorySystem) : Label Reserving → Prop
  | .start _ job => orders job.event
  | _ => True

/-- The check of one line, on the row that the decrement is applied to. -/
def sufficient (config : Config) (database : InventoryDb) (line : ReservedItem) : Bool :=
  let product : Product := (database (productKey line.productId)).getD config.newProduct
  line.quantity ≤ product.availableQty

/-- A transaction that is about to commit a reservation passes its check again on the committed
rows, and no transaction commits a new product with a negative default stock. -/
def checkStillHolds (config : Config) (system : InventorySystem) (label : Label Reserving) :
    Bool :=
  match system.finishing label with
  | some (job, _, writes) =>
      if (writes (reservationKey job.order.orderId)).isSome then
        job.lines.all (sufficient config system.rows)
      else
        job.lines.all fun line =>
          (system.rows (productKey line.productId)).isSome || 0 ≤ config.defaultStock
  | none => true

def ProductsKept (before after : InventoryDb) : Prop :=
  ∀ productId, before (productKey productId) ≠ none → after (productKey productId) ≠ none

def overlapping : Knowledge :=
  -- A transaction that overlaps others knows nothing of what it has checked.
  { checked := fun _ _ _ => True
    drawn := fun _ => True }

theorem overlapping_lasting (config : Config) (inv : InventoryDb → Prop) :
    overlapping.Lasting config inv ProductsKept where
  start _ := trivial
  checks _ _ _ _ _ := trivial
  stays _ _ _ _ _ _ _ := trivial
  kept _ _ allowed := allowed

section Preservation

variable {config : Config} {job : Reserving} {rows : InventoryDb}
variable {writes : Writes (TableKey Key) (TableRow Row)}

theorem needed_distinct {lines : List ReservedItem}
    (distinct : (lines.map ReservedItem.productId).Nodup) {line : ReservedItem}
    (member : line ∈ lines) : needed lines line.productId = line.quantity := by
  induction lines with
  | nil => cases member
  | cons head rest ih =>
      rw [List.map_cons, List.nodup_cons] at distinct
      rcases List.mem_cons.mp member with same | later
      · subst same
        simp [needed, needed_unnamed distinct.1]
      · have different : head.productId ≠ line.productId :=
          fun same => distinct.1 (same ▸ List.mem_map_of_mem later)
        simp [needed, different, ih distinct.2 later]

theorem ReserveEffect.kept (effect : ReserveEffect config overlapping job rows writes) :
    ProductsKept rows (writes.over rows) := by
  intro productId present
  cases effect <;> simp only [Writes.put_over] <;>
    simp only [Store.set_other, ne_eq, reduceCtorEq, not_false_eq_true, TableKey.row.injEq] <;>
    simp only [Writes.over, stockWrites] <;> grind

theorem reserveDiscipline (config : Config) (orders : EventEnvelope → Prop) :
    Discipline (fun _ => True) ProductsKept
      (fun job _ => ReserveEffect config overlapping job) (Reserving.body config)
      (fun job => orders job.event) where
  relyRefl _ _ present := present
  relyTrans _ _ _ one two productId present := two productId (one productId present)
  starts job _ rows _ := job.wp_body (overlapping_lasting config _) rows
  keeps _ _ _ _ _ _ effect := ⟨trivial, effect.kept⟩

theorem NonNegative.congr {one two : InventoryDb}
    (same : ∀ productId, one (productKey productId) = two (productKey productId)) :
    NonNegative one ↔ NonNegative two := by
  simp only [NonNegative, same]

theorem stock_nonNegative_iff {lines taken : List ReservedItem} (nonNegative : NonNegative rows)
    (named : ∀ productId, productId ∈ taken.map ReservedItem.productId →
      productId ∈ lines.map ReservedItem.productId) :
    NonNegative ((stockWrites config lines taken rows).over rows) ↔
      ∀ line ∈ lines, (needed taken line.productId : Int) ≤
        ((rows (productKey line.productId)).getD config.newProduct : Product).availableQty := by
  constructor
  · intro after line member
    have kept := after line.productId _ (stockWrites_seen _ (List.mem_map_of_mem member))
    simpa [Product.take] using kept
  · intro enough productId product found
    by_cases listed : productId ∈ lines.map ReservedItem.productId
    · obtain ⟨line, member, same⟩ := List.mem_map.mp listed
      rw [stockWrites_seen _ listed, Option.some.injEq] at found
      have left := enough line member
      rw [same] at left
      rw [← found]
      simpa [Product.take] using left
    · have untouched : stockWrites config lines taken rows (productKey productId) = none := by
        simp only [stockWrites, if_neg fun taken => listed (named productId taken), listed,
          false_and, if_false]
      rw [Writes.over, untouched] at found
      exact nonNegative productId product found

theorem rejected_nonNegative_iff (nonNegative : NonNegative rows) :
    NonNegative ((stockWrites config job.lines [] rows).over rows) ↔
      (job.lines.all fun line =>
        (rows (productKey line.productId)).isSome || 0 ≤ config.defaultStock) = true := by
  -- A rejected order leaves the stock alone, but for the products it creates.
  rw [stock_nonNegative_iff nonNegative (by simp), List.all_eq_true]
  refine forall_congr' fun line => imp_congr_right fun _ => ?_
  cases found : rows (productKey line.productId) with
  | none => simp [needed, Config.newProduct]
  | some product => simpa [needed] using nonNegative _ product found

theorem reserved_nonNegative_iff (nonNegative : NonNegative rows)
    (distinct : (job.lines.map ReservedItem.productId).Nodup) :
    NonNegative ((stockWrites config job.lines job.lines rows).over rows) ↔
      job.lines.all (sufficient config rows) = true := by
  rw [stock_nonNegative_iff nonNegative fun _ => id, List.all_eq_true]
  refine forall_congr' fun line => forall_congr' fun member => ?_
  rw [needed_distinct distinct member]
  simp [sufficient]

theorem ReserveEffect.nonNegative_iff (nonNegative : NonNegative rows)
    (distinct : (job.lines.map ReservedItem.productId).Nodup)
    (effect : ReserveEffect config overlapping job rows writes) :
    NonNegative (writes.over rows) ↔
      (if (writes (reservationKey job.order.orderId)).isSome then
        job.lines.all (sufficient config rows)
      else
        job.lines.all fun line =>
          (rows (productKey line.productId)).isSome || 0 ≤ config.defaultStock) = true := by
  cases effect with
  | rejected =>
      rw [if_neg (by simp [Writes.put, stockWrites]), ← rejected_nonNegative_iff nonNegative]
      exact NonNegative.congr fun _ => by simp [Store.set_other]
  | reserved =>
      rw [if_pos (by simp [Writes.put]), ← reserved_nonNegative_iff nonNegative distinct]
      exact NonNegative.congr fun _ => by simp [Store.set_other]

theorem DistinctLines.nodup {order : OrderCreatedPayload} (lines : DistinctLines order) :
    ((order.items.map reservedItem).map ReservedItem.productId).Nodup := by
  simpa [reservedItem, Function.comp_def] using lines.products

theorem NonNegative.step_iff {orders : EventEnvelope → Prop}
    (lines : ∀ job : Reserving, orders job.event → DistinctLines job.order)
    {first : InventoryDb} {system next : InventorySystem}
    (sound : system.Sound (fun _ => True) ProductsKept
      (fun job _ => ReserveEffect config overlapping job) (fun job => orders job.event) first)
    (nonNegative : NonNegative system.rows) (label : Label Reserving)
    (taken : system.step (Reserving.body config) label = some next) :
    NonNegative next.rows ↔ checkStillHolds config system label = true := by
  rcases System.step_rows label taken with ⟨unfinished, same⟩ | ⟨_, _, _, finishing, same⟩
  · simp [same, nonNegative, checkStillHolds, unfinished]
  · obtain ⟨ordered, effect⟩ := sound.finishing (reserveDiscipline config orders) finishing
    rw [same, effect.nonNegative_iff nonNegative (lines _ ordered).nodup]
    simp only [checkStillHolds, finishing]

end Preservation

def ReservesChecked (config : Config) (orders : EventEnvelope → Prop) (system : InventorySystem)
    (label : Label Reserving) : Prop :=
  Reserves orders system label ∧ checkStillHolds config system label = true

theorem no_overselling (config : Config) (orders : EventEnvelope → Prop)
    (lines : ∀ job : Reserving, orders job.event → DistinctLines job.order)
    (first : InventoryDb) (stocked : NonNegative first) (system : InventorySystem)
    (reachable : Reachable (Reserving.body config) (ReservesChecked config orders)
      (System.initial first) system) :
    NonNegative system.rows ∧
      ∀ label next, Reserves orders system label →
        system.step (Reserving.body config) label = some next →
          (NonNegative next.rows ↔ checkStillHolds config system label = true) := by
  have sound {system : InventorySystem} (reachable : Reachable (Reserving.body config)
      (ReservesChecked config orders) (System.initial first) system) :=
    reachable.sound (reserveDiscipline config orders) (fun _ _ _ reserving => reserving.1)
      (.initial first trivial (reserveDiscipline config orders))
  have nonNegative : NonNegative system.rows := by
    induction reachable with
    | initial => exact stocked
    | step label before enabled taken ih =>
        exact (ih.step_iff lines (sound before) label taken).mpr enabled.2
  exact ⟨nonNegative, fun label _ _ taken => nonNegative.step_iff lines (sound reachable) label taken⟩

section Sample

def sampleConfig : Config := { defaultStock := 100 }

def sampleStock : InventoryDb :=
  Store.set (fun _ => none) (productKey 3) { availableQty := 1, reservedQty := 0 }

def sampleOrder (orderId : Uuid) : Reserving :=
  let order : OrderCreatedPayload :=
    { orderId, customerId := 1, items := [{ productId := 3, quantity := 1, unitPriceCents := 500 }]
      totalAmountCents := 500, currency := "USD" }
  { event := NewEvent.envelope
      { eventType := .ordersCreated, correlationId := orderId, aggregateId := orderId
        producer := "order-service", payload := .orderCreated order } 0 orderId
    order
    now := 1
    created := rfl }

def sampleOrders (event : EventEnvelope) : Prop :=
  event = (sampleOrder 7).event ∨ event = (sampleOrder 8).event

theorem sampleOrders_distinctLines (job : Reserving) (ordered : sampleOrders job.event) :
    DistinctLines job.order := by
  have created := job.created
  rcases ordered with same | same <;> rw [same] at created <;>
    rw [← Payload.orderCreated.inj created] <;> exact ⟨by simp, by simp⟩

theorem sampleStock_nonNegative : NonNegative sampleStock := by
  intro productId product found
  by_cases same : productId = 3
  · subst same
    rw [sampleStock, Store.set_same, Option.some.injEq] at found
    simp [← found]
  · simp [sampleStock, Store.set_other, same] at found

def sampleRest (session drawn : Nat) : List (Label Reserving) :=
  [.advance session 0, .advance session drawn, .advance session 0, .advance session (drawn + 1),
    .advance session (drawn + 2), .advance session 0, .advance session 0]

def sampleInTurn : Option InventorySystem :=
  -- The second order starts when the first one has committed.
  (System.initial sampleStock).run (Reserving.body sampleConfig) (checkStillHolds sampleConfig)
    ([.start 0 (sampleOrder 7), .advance 0 0, .advance 0 0, .advance 0 0] ++ sampleRest 0 20 ++
      [.start 1 (sampleOrder 8), .advance 1 0, .advance 1 0, .advance 1 0, .advance 1 30,
        .advance 1 31, .advance 1 0, .advance 1 0])

theorem sampleInTurn_ran : sampleInTurn.isSome = true := by decide +kernel

theorem no_overselling_inTurn : NonNegative (sampleInTurn.get sampleInTurn_ran).rows := by
  have reachable := Reachable.of_run (ReservesChecked sampleConfig sampleOrders) _
    (by simp [ReservesChecked, Reserves, sampleRest, sampleOrders])
    (Option.some_get sampleInTurn_ran).symm
  exact (no_overselling sampleConfig sampleOrders sampleOrders_distinctLines sampleStock
    sampleStock_nonNegative _ reachable).1

def sampleRace : Option InventorySystem :=
  -- Both orders check the stock before either of them takes it.
  (System.initial sampleStock).run (Reserving.body sampleConfig) (fun _ _ => true)
    ([.start 0 (sampleOrder 7), .start 1 (sampleOrder 8), .advance 0 0, .advance 0 0,
      .advance 0 0, .advance 1 0, .advance 1 0, .advance 1 0] ++ sampleRest 0 20 ++ sampleRest 1 30)

theorem sampleRace_ran : sampleRace.isSome = true := by decide +kernel

theorem last_piece_oversold :
    (∀ job : Reserving, sampleOrders job.event → DistinctLines job.order) ∧
      NonNegative sampleStock ∧
      ∃ system, Reachable (Reserving.body sampleConfig) (Reserves sampleOrders)
        (System.initial sampleStock) system ∧ ¬ NonNegative system.rows := by
  refine ⟨sampleOrders_distinctLines, sampleStock_nonNegative, sampleRace.get sampleRace_ran, ?_, ?_⟩
  · exact Reachable.of_run (Reserves sampleOrders) _
      (by simp [Reserves, sampleRest, sampleOrders]) (Option.some_get sampleRace_ran).symm
  · intro nonNegative
    exact absurd (nonNegative 3 { availableQty := -1, reservedQty := 2 } rfl) (by decide)

end Sample

end Ecommerce.InventoryService
