import Ecommerce.InventoryService.Overselling
import Ecommerce.InventoryService.ReleaseEffect
import Mathlib.Algebra.BigOperators.Group.Finset.Basic
import Mathlib.Algebra.Order.BigOperators.Group.Finset

set_option autoImplicit false

/-!
# The stock ledger

Reserve and release transactions of different orders run interleaved, and a counter of a product
always accounts for the reservations that hold it.
-/

namespace Ecommerce.InventoryService

open Transaction

inductive StockJob where
  | reserve (job : Reserving)
  | release (event : EventEnvelope)

def StockJob.body (config : Config) : StockJob → Prog (TableKey Key) (TableRow Row) TxError Unit
  | .reserve job => job.body config
  | .release event => onOrderCancelled event

def StockJob.handles : StockJob → Topic × Uuid
  | .reserve job => (.ordersCreated, job.order.orderId)
  | .release event => (.ordersCancelled, event.payload.orderId)

abbrev StockSystem := System (TableKey Key) (TableRow Row) TxError Unit StockJob

/-- The messages of one topic and order are handled one at a time. -/
def StockJob.beside (one two : StockJob) : Prop := one.handles ≠ two.handles

instance : DecidableRel StockJob.beside :=
  fun one two => inferInstanceAs (Decidable (one.handles ≠ two.handles))

/-- A product, or what a missing one is created as. -/
def productOf (config : Config) (database : InventoryDb) (productId : Uuid) : Product :=
  (database (productKey productId)).getD config.newProduct

def Reserved (database : InventoryDb) (orderId : Uuid) : Prop :=
  ∃ reservation : Reservation, database (reservationKey orderId) = some reservation ∧
    reservation.status = .reserved

/-- The lines that the reservation of an order holds. -/
def held (database : InventoryDb) (orderId : Uuid) : List ReservedItem :=
  match database (reservationKey orderId) with
  | some (reservation : Reservation) =>
      if reservation.status = .reserved then reservation.items else []
  | none => []

structure Balanced (config : Config) (created : Uuid → Int) (database : InventoryDb) : Prop where
  stock : ∀ productId,
    (productOf config database productId).availableQty +
      (productOf config database productId).reservedQty = created productId
  reserved : ∃ orders : Finset Uuid, (∀ orderId, orderId ∈ orders ↔ Reserved database orderId) ∧
    ∀ productId, (productOf config database productId).reservedQty =
      ((∑ orderId ∈ orders, needed (held database orderId) productId : Nat) : Int)

/-- While an order is released, nobody else touches its reservation. -/
def StockJob.rely : StockJob → InventoryDb → InventoryDb → Prop
  | .reserve _ => ProductsKept
  | .release event => fun before after => ∀ reservation : Reservation,
      before (reservationKey event.payload.orderId) = some reservation →
        reservation.status = .reserved →
          after (reservationKey event.payload.orderId) = some reservation

def holding (event : EventEnvelope) : Finding where
  inactive _ _ := True
  active database orderId reservation :=
    orderId = event.payload.orderId →
      database (reservationKey orderId) = some reservation ∧ reservation.status = .reserved

def StockJob.Effect (config : Config) :
    StockJob → Unit → InventoryDb → Writes (TableKey Key) (TableRow Row) → Prop
  | .reserve job, _ => ReserveEffect config overlapping job
  | .release event, _ => ReleaseEffect (holding event) event

section Balance

variable {config : Config} {created : Uuid → Int} {before after rows : InventoryDb}
variable {writes : Writes (TableKey Key) (TableRow Row)}

theorem holding_lasting (inv : InventoryDb → Prop) (event : EventEnvelope) :
    (holding event).Lasting inv (StockJob.release event).rely where
  inactive _ _ _ := trivial
  active _ _ _ found status _ := ⟨found, status⟩
  stays _ before after orderId interference := by
    refine ⟨fun _ => trivial, fun reservation active same => ?_⟩
    obtain ⟨found, status⟩ := active same
    subst same
    exact ⟨interference.allowed reservation found status, status⟩

theorem held_of_reserved {orderId : Uuid} (reservation : Reservation)
    (found : rows (reservationKey orderId) = some reservation)
    (status : reservation.status = .reserved) : held rows orderId = reservation.items := by
  simp [held, found, status]

theorem held_congr {orderId : Uuid}
    (same : after (reservationKey orderId) = before (reservationKey orderId)) :
    held after orderId = held before orderId ∧ (Reserved after orderId ↔ Reserved before orderId) := by
  simp [held, Reserved, same]

/-- Neither counter moves and no reservation changes. -/
theorem Balanced.unmoved (balanced : Balanced config created before)
    (products : ∀ productId, productOf config after productId = productOf config before productId)
    (reservations : ∀ orderId, after (reservationKey orderId) = before (reservationKey orderId)) :
    Balanced config created after := by
  obtain ⟨orders, member, total⟩ := balanced.reserved
  refine ⟨fun productId => by rw [products]; exact balanced.stock productId, orders, ?_, ?_⟩
  · intro orderId
    rw [member, (held_congr (reservations orderId)).2]
  · intro productId
    rw [products, total]
    simp only [(held_congr (reservations _)).1]

/-- An order takes its lines off the available quantities and holds them from now on. -/
theorem Balanced.take (balanced : Balanced config created before) (orderId : Uuid)
    (lines : List ReservedItem)
    (products : ∀ productId, productOf config after productId =
      (productOf config before productId).take (needed lines productId))
    (unreserved : ¬ Reserved before orderId) (reserved : Reserved after orderId)
    (holds : held after orderId = lines)
    (reservations : ∀ other, other ≠ orderId →
      after (reservationKey other) = before (reservationKey other)) :
    Balanced config created after := by
  obtain ⟨orders, member, total⟩ := balanced.reserved
  have absent : orderId ∉ orders := by
    rw [member]
    exact unreserved
  refine ⟨fun productId => ?_, insert orderId orders, fun other => ?_, fun productId => ?_⟩
  · have before := balanced.stock productId
    rw [products, Product.take]
    dsimp only
    omega
  · by_cases same : other = orderId
    · subst same
      simpa using reserved
    · rw [Finset.mem_insert, member, (held_congr (reservations other same)).2]
      simp [same]
  · have others : ∑ other ∈ orders, needed (held after other) productId =
        ∑ other ∈ orders, needed (held before other) productId := by
      apply Finset.sum_congr rfl
      intro other listed
      have different : other ≠ orderId := fun same => absent (same ▸ listed)
      rw [(held_congr (reservations other different)).1]
    have counted := total productId
    rw [Finset.sum_insert absent, others, holds, products, Product.take, Int.natCast_add]
    dsimp only
    omega

theorem Balanced.restore (balanced : Balanced config created before) (orderId : Uuid)
    (lines : List ReservedItem)
    (products : ∀ productId, productOf config after productId =
      (productOf config before productId).restore (needed lines productId))
    (reserved : Reserved before orderId) (released : ¬ Reserved after orderId)
    (holds : held before orderId = lines)
    (reservations : ∀ other, other ≠ orderId →
      after (reservationKey other) = before (reservationKey other)) :
    Balanced config created after := by
  obtain ⟨orders, member, total⟩ := balanced.reserved
  have present : orderId ∈ orders := (member orderId).mpr reserved
  refine ⟨fun productId => ?_, orders.erase orderId, fun other => ?_, fun productId => ?_⟩
  · have before := balanced.stock productId
    rw [products, Product.restore]
    dsimp only
    omega
  · by_cases same : other = orderId
    · subst same
      simpa using released
    · rw [Finset.mem_erase, member, (held_congr (reservations other same)).2]
      simp [same]
  · have others : ∑ other ∈ orders.erase orderId, needed (held after other) productId =
        ∑ other ∈ orders.erase orderId, needed (held before other) productId := by
      apply Finset.sum_congr rfl
      intro other listed
      rw [(held_congr (reservations other (Finset.ne_of_mem_erase listed))).1]
    have split := Finset.sum_erase_add orders (fun other => needed (held before other) productId)
      present
    have counted := total productId
    rw [products, others, Product.restore]
    dsimp only
    rw [holds] at split
    omega

theorem Balanced.empty (config : Config) :
    Balanced config (fun _ => config.defaultStock) fun _ => none where
  stock _ := by simp [productOf, Config.newProduct]
  reserved := ⟨∅, by simp [Reserved], by simp [productOf, Config.newProduct]⟩

theorem Balanced.unlisted (balanced : Balanced config created rows) {orderId productId : Uuid}
    (reserved : Reserved rows orderId) (missing : rows (productKey productId) = none) :
    needed (held rows orderId) productId = 0 := by
  obtain ⟨orders, member, total⟩ := balanced.reserved
  have counted := total productId
  have part := Finset.single_le_sum (f := fun other => needed (held rows other) productId)
    (fun _ _ => Nat.zero_le _) ((member orderId).mpr reserved)
  simp only [productOf, missing, Option.getD_none, Config.newProduct] at counted part
  omega

theorem productOf_stockWrites (config : Config) (rows : InventoryDb) (lines taken : List ReservedItem)
    (named : ∀ productId, productId ∈ taken.map ReservedItem.productId →
      productId ∈ lines.map ReservedItem.productId) (productId : Uuid) :
    productOf config ((stockWrites config lines taken rows).over rows) productId =
      (productOf config rows productId).take (needed taken productId) := by
  by_cases listed : productId ∈ lines.map ReservedItem.productId
  · simp [productOf, stockWrites_seen _ listed]
  · have untaken : productId ∉ taken.map ReservedItem.productId :=
      fun taken => listed (named productId taken)
    simp [productOf, Writes.over, stockWrites, untaken, listed, needed_unnamed untaken, Product.take]

theorem stockWrites_reservation {lines taken : List ReservedItem} (orderId : Uuid) :
    (stockWrites config lines taken rows).over rows (reservationKey orderId) =
      rows (reservationKey orderId) := rfl

theorem restoreWrites_reservation {lines : List ReservedItem} (orderId : Uuid) :
    (restoreWrites lines rows).over rows (reservationKey orderId) =
      rows (reservationKey orderId) := rfl

theorem ReserveEffect.balanced {job : Reserving} (balanced : Balanced config created rows)
    (effect : ReserveEffect config overlapping job rows writes) :
    Balanced config created (writes.over rows) := by
  cases effect with
  | rejected unmarked shortfalls =>
      apply balanced.unmoved
      · intro productId
        have moved := productOf_stockWrites config rows job.lines [] (by simp) productId
        simpa [productOf, Store.set_other, needed, Product.take] using moved
      · intro orderId
        simp [Store.set_other, stockWrites_reservation]
  | reserved unmarked _ unreserved reservationId =>
      apply balanced.take job.order.orderId job.lines
      · intro productId
        have moved := productOf_stockWrites config rows job.lines job.lines (fun _ => id)
          productId
        simpa [productOf, Store.set_other] using moved
      · simp [Reserved, unreserved]
      · exact ⟨job.reservation reservationId, by simp [Store.set_other], rfl⟩
      · rw [held_of_reserved (job.reservation reservationId)
          (by simp [Store.set_other]) rfl]
        rfl
      · intro other different
        simp [Store.set_other, different, stockWrites_reservation]

theorem ReleaseEffect.balanced {event : EventEnvelope} (balanced : Balanced config created rows)
    (effect : ReleaseEffect (holding event) event rows writes) :
    Balanced config created (writes.over rows) := by
  cases effect with
  | skipped =>
      apply balanced.unmoved
      · intro productId
        simp [productOf, Store.set_other]
      · intro orderId
        simp [Store.set_other]
  | released unmarked reservation active current found =>
      obtain ⟨present, status⟩ := active rfl
      cases found.symm.trans present
      have reserved : Reserved rows event.payload.orderId := ⟨reservation, present, status⟩
      have holds := held_of_reserved reservation present status
      apply balanced.restore event.payload.orderId reservation.items
        ?_ reserved ?_ holds
      · intro other different
        simp [Store.set_other, different, restoreWrites_reservation]
      · intro productId
        have seen := restoreWrites_seen rows reservation.items productId
        cases stored : rows (productKey productId) with
        | some product =>
            rw [stored] at seen
            simp [productOf, Store.set_other, seen, stored]
        | none =>
            have unlisted := balanced.unlisted reserved stored
            rw [stored] at seen
            rw [holds] at unlisted
            simp [productOf, Store.set_other, seen, stored, unlisted, Product.restore]
      · rintro ⟨other, after, kept⟩
        simp only [Writes.put_over, Store.set_same, Option.some.injEq] at after
        subst after
        cases kept

theorem ReserveEffect.reservation_kept {job : Reserving} {orderId : Uuid}
    {reservation : Reservation} (found : rows (reservationKey orderId) = some reservation)
    (effect : ReserveEffect config overlapping job rows writes) :
    writes.over rows (reservationKey orderId) = some reservation := by
  cases effect with
  | rejected => simpa [Store.set_other, stockWrites_reservation] using found
  | reserved _ _ unreserved =>
      have different : orderId ≠ job.order.orderId := by
        rintro rfl
        cases unreserved.symm.trans found
      simpa [Store.set_other, different, stockWrites_reservation] using found

theorem ReleaseEffect.reservation_kept {finding : Finding} {event : EventEnvelope} {orderId : Uuid}
    (different : orderId ≠ event.payload.orderId)
    (effect : ReleaseEffect finding event rows writes) :
    writes.over rows (reservationKey orderId) = rows (reservationKey orderId) := by
  cases effect with
  | skipped => simp [Store.set_other]
  | released => simp [Store.set_other, different, restoreWrites_reservation]

theorem ReleaseEffect.kept {finding : Finding} {event : EventEnvelope}
    (effect : ReleaseEffect finding event rows writes) : ProductsKept rows (writes.over rows) := by
  intro productId present
  cases effect with
  | skipped => simpa [Store.set_other] using present
  | released _ reservation =>
      have seen := restoreWrites_seen rows reservation.items productId
      simpa [Store.set_other, seen] using present

theorem StockJob.Effect.allows {job other : StockJob} (beside : job.beside other)
    (effect : job.Effect config () rows writes) : other.rely rows (writes.over rows) := by
  cases job with
  | reserve job =>
      cases other with
      | reserve => exact ReserveEffect.kept effect
      | release event =>
          intro reservation found _
          exact ReserveEffect.reservation_kept found effect
  | release event =>
      cases other with
      | reserve => exact ReleaseEffect.kept effect
      | release later =>
          intro reservation found _
          have different : later.payload.orderId ≠ event.payload.orderId := by
            intro same
            apply beside
            simp [StockJob.handles, same]
          rw [ReleaseEffect.reservation_kept different effect]
          exact found

theorem StockJob.Effect.balanced {job : StockJob} (balanced : Balanced config created rows)
    (effect : job.Effect config () rows writes) : Balanced config created (writes.over rows) := by
  cases job with
  | reserve => exact ReserveEffect.balanced balanced effect
  | release => exact ReleaseEffect.balanced balanced effect

theorem stockCoexistence (config : Config) (created : Uuid → Int) :
    Coexistence (Balanced config created) StockJob.rely (StockJob.Effect config) StockJob.beside
      (StockJob.body config) (fun _ => True) where
  relyRefl job rows := by
    cases job with
    | reserve => exact fun _ => id
    | release => exact fun _ found _ => found
  relyTrans job first second third one two := by
    cases job with
    | reserve => exact fun productId present => two productId (one productId present)
    | release => exact fun reservation found status => two _ (one _ found status) status
  starts job _ rows _ := by
    cases job with
    | reserve job => exact job.wp_body (overlapping_lasting config _) rows
    | release event => exact wp_onOrderCancelled (holding_lasting _ event) rows
  keeps job _ rows writes _ balanced effect :=
    ⟨effect.balanced balanced, fun _ _ beside => effect.allows beside⟩

end Balance

theorem stock_balanced (config : Config) (created : Uuid → Int) (first : InventoryDb)
    (start : Balanced config created first) (system : StockSystem)
    (reachable : Reachable (StockJob.body config) (System.StartsBeside StockJob.beside)
      (System.initial first) system) :
    Balanced config created system.rows := by
  have coexists := reachable.coexists (stockCoexistence config created)
    (fun _ _ _ apart => ⟨trivial, apart⟩) (.initial first start)
  exact coexists.invariant

section Sample

def sampleDoubleOrder : Reserving :=
  let order : OrderCreatedPayload :=
    { orderId := 9, customerId := 1
      items := [{ productId := 3, quantity := 60, unitPriceCents := 500 },
        { productId := 3, quantity := 5, unitPriceCents := 450 }]
      totalAmountCents := 32250, currency := "USD" }
  { event := NewEvent.envelope
      { eventType := .ordersCreated, correlationId := 9, aggregateId := 9
        producer := "order-service", payload := .orderCreated order } 0 9
    order
    now := 1
    created := rfl }

def sampleCancellation (eventId : Uuid) : StockJob :=
  .release <| NewEvent.envelope
    { eventType := .ordersCancelled, correlationId := 9, aggregateId := 9
      producer := "order-service"
      payload := .orderCancelled { orderId := 9, customerId := 1, reason := .paymentFailed } } 2 eventId

def sampleStatements (session statements : Nat) : List (Label StockJob) :=
  (List.range statements).map fun drawn => .advance session (100 * session + drawn)

def sampleCancelled : Option StockSystem :=
  -- Order 7 is reserved while order 9 is reserved and cancelled, and order 9 is cancelled again.
  (System.initial fun _ => none).run (StockJob.body sampleConfig)
    (System.startsBeside StockJob.beside 2)
    ([.start 0 (.reserve sampleDoubleOrder), .start 1 (.reserve (sampleOrder 7)), .advance 1 0] ++
      sampleStatements 0 14 ++ [.start 0 (sampleCancellation 20)] ++ sampleStatements 0 2 ++
      sampleStatements 1 2 ++ sampleStatements 0 4 ++ sampleStatements 1 7 ++
      [.start 0 (sampleCancellation 21)] ++ sampleStatements 0 3)

theorem sampleCancelled_ran : sampleCancelled.isSome = true := by decide +kernel

theorem stock_balanced_cancelled :
    Balanced sampleConfig (fun _ => 100) (sampleCancelled.get sampleCancelled_ran).rows ∧
      productOf sampleConfig (sampleCancelled.get sampleCancelled_ran).rows 3 =
        { availableQty := 99, reservedQty := 1 } := by
  have reachable := Reachable.of_checked_run _ (by simp [System.initial, Slot.job])
    (Option.some_get sampleCancelled_ran).symm
  have start : Balanced sampleConfig (fun _ => 100) fun _ => none := Balanced.empty sampleConfig
  refine ⟨stock_balanced sampleConfig _ _ start _ reachable, by decide +kernel⟩

end Sample

end Ecommerce.InventoryService
