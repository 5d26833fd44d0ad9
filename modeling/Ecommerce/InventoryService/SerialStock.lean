import Ecommerce.Checkout.Effects
import Ecommerce.InventoryService.ReserveOutcome

set_option autoImplicit false

/-!
# Stock under transactions that run one at a time

The check of a reserve transaction compares each line with the whole available quantity, and
the lines are taken one after the other.
-/

namespace Ecommerce.InventoryService

open Transaction

structure Stock where
  database : InventoryDb
  -- Every UUID drawn so far is below this one.
  nextUuid : Uuid

def serve (config : Config) (stock : Stock) (job : StockJob) : Stock :=
  match (job.body config).transaction none stock.database stock.nextUuid with
  | .ok (_, database, nextUuid) => { database, nextUuid }
  -- A transaction that does not commit leaves the stock as it was.
  | .error _ => stock

def serveAll (config : Config) (stock : Stock) (jobs : List StockJob) : Stock :=
  jobs.foldl (serve config) stock

def Stock.Fresh (stock : Stock) : Prop :=
  ∀ rowId, stock.nextUuid ≤ rowId → stock.database (outboxKey rowId) = none

/-- Each line of a new order fits the available quantity of its product, and all the lines of some
product together do not. A counter that its column cannot hold stops the order before that. -/
structure Oversells (config : Config) (database : InventoryDb) (job : Reserving) : Prop where
  unmarked : database (marker job.event.eventId) = none
  unreserved : database (reservationKey job.order.orderId) = none
  columns : ¬ OutOfRange config job.order database
  fits : ∀ line ∈ job.lines,
    (line.quantity : Int) ≤ (productOf config database line.productId).availableQty
  short : ∃ line ∈ job.lines,
    (productOf config database line.productId).availableQty < needed job.lines line.productId

instance (config : Config) (database : InventoryDb) (job : Reserving) :
    Decidable (Oversells config database job) :=
  decidable_of_iff
    (database (marker job.event.eventId) = none ∧
      database (reservationKey job.order.orderId) = none ∧
      ¬ OutOfRange config job.order database ∧
      (∀ line ∈ job.lines,
        (line.quantity : Int) ≤ (productOf config database line.productId).availableQty) ∧
      ∃ line ∈ job.lines,
        (productOf config database line.productId).availableQty < needed job.lines line.productId)
    ⟨fun ⟨unmarked, unreserved, columns, fits, short⟩ => ⟨unmarked, unreserved, columns, fits, short⟩,
      fun ⟨unmarked, unreserved, columns, fits, short⟩ => ⟨unmarked, unreserved, columns, fits, short⟩⟩

/-- The first delivery of an order without a reservation commits, unless a counter would leave its
column. -/
theorem Reserving.commits_iff (config : Config) (job : Reserving) {rows : InventoryDb} {supply : Nat}
    (unmarked : rows (marker job.event.eventId) = none)
    (unreserved : rows (reservationKey job.order.orderId) = none)
    (free : ∀ rowId, supply ≤ rowId → rows (outboxKey rowId) = none) :
    (∃ after next, (job.body config).transaction none rows supply = .ok ((), after, next)) ↔
      ¬ OutOfRange config job.order rows := by
  have promise : results (job.body config) (fun _ _ _ => ¬ OutOfRange config job.order rows)
      (fun _ => OutOfRange config job.order rows) .none rows supply := by
    have marked (productId : Uuid) :
        (rows.set (marker job.event.eventId) ()) (productKey productId) =
          rows (productKey productId) := by
      simp [Store.set_other]
    simp only [Reserving.body, onOrderCreated, processOnceTx, job.created, results_bind]
    rw [results_create (by simpa using unmarked)]
    have reserved := results_reserve config job.now job.order
      job.event.correlationId (Writes.none.put (marker job.event.eventId) (some ())) rows
      (by simpa [Store.set_other] using unreserved)
      (fun rowId (above : supply ≤ rowId) => by simpa [Store.set_other] using free rowId above)
    rw [Writes.put_over, Writes.none_over] at reserved
    exact results_mono (fun _ _ _ reached => mt (OutOfRange.congr marked).mpr reached.1)
      (fun _ refused => (OutOfRange.congr marked).mp refused.2) _ reserved
  rcases transaction_of_results promise with ⟨_, after, next, ran, held⟩ | ⟨_, failed, large⟩
  · exact ⟨fun _ => held, fun _ => ⟨_, next, ran⟩⟩
  · refine ⟨?_, fun held => absurd large held⟩
    rintro ⟨_, _, ran⟩
    cases failed.symm.trans ran

section Serial

variable {config : Config} {stock : Stock} {job : StockJob}

theorem shortfalls_eq_nil_iff {database : InventoryDb} {job : Reserving} :
    shortfalls config database job.order.items = [] ↔ ∀ line ∈ job.lines,
      (line.quantity : Int) ≤ (productOf config database line.productId).availableQty := by
  simp only [shortfalls, List.filterMap_eq_nil_iff, Reserving.lines, List.forall_mem_map]
  refine forall_congr' fun item => imp_congr_right fun _ => ?_
  simp [shortfall, reservedItem, productOf]

/-- What a step of the stock is: a transaction that commits nothing, or the effect of its job. -/
theorem serve_cases (config : Config) (stock : Stock) (job : StockJob) :
    (∃ error, (job.body config).transaction none stock.database stock.nextUuid = .error error ∧
      serve config stock job = stock) ∨
      ∃ after next, (job.body config).transaction none stock.database stock.nextUuid =
        .ok ((), after, next) ∧ serve config stock job = { database := after, nextUuid := next } := by
  unfold serve
  cases ran : (job.body config).transaction none stock.database stock.nextUuid with
  | error error => exact .inl ⟨error, rfl, rfl⟩
  | ok result => exact .inr ⟨result.2.1, result.2.2, rfl, rfl⟩

theorem restoreWrites_outbox {lines : List ReservedItem} {rows : InventoryDb} (rowId : Uuid) :
    (restoreWrites lines rows).over rows (outboxKey rowId) = rows (outboxKey rowId) := rfl

theorem ReserveEffect.outbox_kept {knowledge : Knowledge} {job : Reserving} {rows : InventoryDb}
    {writes : Writes (TableKey Key) (TableRow Row)} {rowId : Uuid}
    (undrawn : ¬ knowledge.drawn rowId) (effect : ReserveEffect config knowledge job rows writes) :
    writes.over rows (outboxKey rowId) = rows (outboxKey rowId) := by
  have unwritten (taken : List ReservedItem) :
      (stockWrites config job.lines taken rows).over rows (outboxKey rowId) =
        rows (outboxKey rowId) := rfl
  cases effect with
  | rejected _ _ _ _ _ ownId _ drawn =>
      have different : rowId ≠ ownId := fun same => undrawn (same ▸ drawn)
      simp [Store.set_other, different, unwritten]
  | reserved _ _ _ _ _ ownId _ drawn =>
      have different : rowId ≠ ownId := fun same => undrawn (same ▸ drawn)
      simp [Store.set_other, different, unwritten]

theorem Stock.Fresh.serve (fresh : stock.Fresh) (job : StockJob) :
    (serve config stock job).Fresh := by
  rcases serve_cases config stock job with ⟨_, _, same⟩ | ⟨after, next, ran, same⟩
  · rw [same]
    exact fresh
  · have later := Prog.transaction_supply ran
    rw [same]
    intro rowId above
    dsimp only at above ⊢
    have before := fresh rowId (Nat.le_trans later above)
    cases job with
    | reserve job =>
        obtain ⟨writes, effect, rfl⟩ := Reserving.transaction_effect config job ran
        rw [effect.outbox_kept, before]
        exact fun drawn => absurd drawn.2 (Nat.not_lt.mpr above)
    | release event =>
        obtain ⟨writes, effect, rfl⟩ := release_transaction_effect event ran
        cases effect with
        | skipped => simpa [Store.set_other] using before
        | released => simpa [Store.set_other, restoreWrites_outbox] using before

theorem ReserveEffect.serial_nonNegative_iff {rows : InventoryDb} {drawn : Uuid → Prop}
    {job : Reserving} {writes : Writes (TableKey Key) (TableRow Row)}
    (stocked : 0 ≤ config.defaultStock) (nonNegative : NonNegative rows)
    (columns : rows (marker job.event.eventId) = none →
      rows (reservationKey job.order.orderId) = none → ¬ OutOfRange config job.order rows)
    (effect : ReserveEffect config (alone config drawn) job rows writes) :
    NonNegative (writes.over rows) ↔ ¬ Oversells config rows job := by
  cases effect with
  | rejected unmarked found checked short =>
      have unfit : ¬ Oversells config rows job := by
        intro oversells
        apply short
        rw [checked]
        exact shortfalls_eq_nil_iff.mpr oversells.fits
      simp only [unfit, not_false_eq_true, iff_true]
      rw [NonNegative.congr fun _ => by simp [Store.set_other]; rfl]
      apply (rejected_nonNegative_iff nonNegative).mpr
      simp [stocked]
  | reserved unmarked checked unreserved =>
      have fits := shortfalls_eq_nil_iff.mp checked.symm
      rw [NonNegative.congr fun _ => by simp [Store.set_other]; rfl,
        stock_nonNegative_iff nonNegative fun _ => id]
      constructor
      · intro enough oversells
        obtain ⟨line, member, short⟩ := oversells.short
        exact absurd (enough line member) (Int.not_le.mpr short)
      · intro sells line member
        by_contra short
        exact sells ⟨unmarked, unreserved, columns unmarked unreserved, fits, line, member,
          Int.not_le.mp short⟩

theorem NonNegative.released {rows : InventoryDb} {finding : Finding} {event : EventEnvelope}
    {writes : Writes (TableKey Key) (TableRow Row)} (nonNegative : NonNegative rows)
    (effect : ReleaseEffect finding event rows writes) : NonNegative (writes.over rows) := by
  cases effect with
  | skipped => exact (NonNegative.congr fun _ => by simp [Store.set_other]).mpr nonNegative
  | released _ reservation =>
      intro productId product found
      have seen := restoreWrites_seen rows reservation.items productId
      simp only [Writes.put_over, Store.set_other, ne_eq, reduceCtorEq, not_false_eq_true,
        TableKey.row.injEq, seen, Option.map_eq_some_iff] at found
      obtain ⟨stored, present, rfl⟩ := found
      have before := nonNegative productId stored present
      simp only [Product.restore]
      omega

theorem serve_nonNegative_iff (stocked : 0 ≤ config.defaultStock) (fresh : stock.Fresh)
    (nonNegative : NonNegative stock.database) :
    NonNegative (serve config stock job).database ↔
      ∀ reserving, job = .reserve reserving → ¬ Oversells config stock.database reserving := by
  rcases serve_cases config stock job with ⟨error, failed, same⟩ | ⟨after, next, ran, same⟩
  · rw [same]
    simp only [nonNegative, true_iff]
    rintro reserving rfl oversells
    obtain ⟨_, _, committed⟩ :=
      (reserving.commits_iff config oversells.unmarked oversells.unreserved fresh).mpr
        oversells.columns
    cases failed.symm.trans committed
  · rw [same]
    cases job with
    | reserve job =>
        have columns (unmarked : stock.database (marker job.event.eventId) = none)
            (unreserved : stock.database (reservationKey job.order.orderId) = none) :
            ¬ OutOfRange config job.order stock.database :=
          (job.commits_iff config unmarked unreserved fresh).mp ⟨after, next, ran⟩
        obtain ⟨writes, effect, rfl⟩ := Reserving.transaction_effect config job ran
        rw [effect.serial_nonNegative_iff stocked nonNegative columns]
        simp
    | release event =>
        obtain ⟨writes, effect, rfl⟩ := release_transaction_effect event ran
        simpa using nonNegative.released effect

theorem serveAll_concat (config : Config) (stock : Stock) (jobs : List StockJob) (job : StockJob) :
    serveAll config stock (jobs ++ [job]) = serve config (serveAll config stock jobs) job := by
  simp [serveAll]

theorem Stock.Fresh.serveAll (fresh : stock.Fresh) (jobs : List StockJob) :
    (serveAll config stock jobs).Fresh := by
  induction jobs using List.reverseRecOn with
  | nil => exact fresh
  | append_singleton jobs job ih =>
      rw [serveAll_concat]
      exact ih.serve job

end Serial

/-- Serially, no product is ever oversold exactly when no order comes whose lines fit one by one
but not together. -/
theorem never_oversold_iff (config : Config) (stocked : 0 ≤ config.defaultStock) (stock : Stock)
    (fresh : stock.Fresh) (nonNegative : NonNegative stock.database) (jobs : List StockJob) :
    (∀ earlier, earlier <+: jobs → NonNegative (serveAll config stock earlier).database) ↔
      ∀ earlier job, earlier ++ [.reserve job] <+: jobs →
        ¬ Oversells config (serveAll config stock earlier).database job := by
  constructor
  · intro always earlier job before
    have later := always _ before
    rw [serveAll_concat] at later
    have kept := always earlier ((List.prefix_append ..).trans before)
    exact (serve_nonNegative_iff stocked (fresh.serveAll earlier) kept).mp later job rfl
  · intro sells earlier before
    induction earlier using List.reverseRecOn with
    | nil => exact nonNegative
    | append_singleton earlier job ih =>
        have kept := ih ((List.prefix_append ..).trans before)
        rw [serveAll_concat, serve_nonNegative_iff stocked (fresh.serveAll earlier) kept]
        rintro reserving rfl
        exact sells earlier reserving before

section Sample

def sampleEmpty : Stock where
  database _ := none
  nextUuid := 10

theorem sampleEmpty_stocked :
    0 ≤ sampleConfig.defaultStock ∧ sampleEmpty.Fresh ∧ NonNegative sampleEmpty.database := by
  refine ⟨by decide, fun _ _ => rfl, ?_⟩
  intro productId product found
  cases found

/-- Order 9 has two lines of the product that orders 7 and 8 ask for, and is cancelled. -/
def sampleJobs : List StockJob :=
  [.reserve sampleDoubleOrder, .reserve (sampleOrder 7), .reserve (sampleOrder 8),
    sampleCancellation 20]

theorem sampleJobs_fit {earlier : List StockJob} {job : Reserving}
    (before : earlier ++ [.reserve job] <+: sampleJobs) :
    ¬ Oversells sampleConfig (serveAll sampleConfig sampleEmpty earlier).database job := by
  match earlier, before with
  | [], before =>
      simp [sampleJobs] at before
      subst before
      decide +kernel
  | [one], before =>
      simp [sampleJobs] at before
      obtain ⟨rfl, rfl⟩ := before
      decide +kernel
  | [one, two], before =>
      simp [sampleJobs] at before
      obtain ⟨rfl, rfl, rfl⟩ := before
      decide +kernel
  | [one, two, three], before => simp [sampleJobs, sampleCancellation] at before
  | one :: two :: three :: four :: rest, before => simp [sampleJobs] at before

/-- While order 9 is reserved, and after its release. -/
theorem never_oversold_iff_sample :
    NonNegative (serveAll sampleConfig sampleEmpty (sampleJobs.take 3)).database ∧
      NonNegative (serveAll sampleConfig sampleEmpty sampleJobs).database := by
  have safe := (never_oversold_iff sampleConfig sampleEmpty_stocked.1 sampleEmpty
    sampleEmpty_stocked.2.1 sampleEmpty_stocked.2.2 sampleJobs).mpr
      fun _ _ before => sampleJobs_fit before
  exact ⟨safe _ (List.take_prefix 3 sampleJobs), safe _ List.prefix_rfl⟩

/-- Two lines of 60 pieces each, of a product that comes with 100. -/
def sampleSplitOrder : Reserving :=
  let order : OrderCreatedPayload :=
    { orderId := 9, customerId := 1
      items := [{ productId := 3, quantity := 60, unitPriceCents := 500 },
        { productId := 3, quantity := 60, unitPriceCents := 500 }]
      totalAmountCents := 60000, currency := "USD" }
  { event := NewEvent.envelope
      { eventType := .ordersCreated, correlationId := 9, aggregateId := 9
        producer := "order-service", payload := .orderCreated order } 0 9
    order
    now := 1
    created := rfl }

theorem split_order_oversold :
    0 ≤ sampleConfig.defaultStock ∧ NonNegative sampleEmpty.database ∧
      (∀ item ∈ sampleSplitOrder.order.items, 0 < item.quantity) ∧
      (serveAll sampleConfig sampleEmpty [.reserve sampleSplitOrder]).database (productKey 3) =
        some { availableQty := -20, reservedQty := 120 } :=
  ⟨by decide, sampleEmpty_stocked.2.2, by decide, by decide +kernel⟩

end Sample

end Ecommerce.InventoryService
