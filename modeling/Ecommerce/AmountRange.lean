import Ecommerce.OrderService.CreateEffect
import Ecommerce.PaymentService.Payments
import Ecommerce.Shared.Double
import Ecommerce.Transaction.Never

set_option autoImplicit false

/-!
# Amounts and the INTEGER columns

The decorators of the DTO ask for positive integers, and the columns end at 2 ^ 31 - 1.
-/

namespace Ecommerce

open Transaction

/-- The `reduce` of `createOrder` in the numbers of JavaScript. -/
def OrderService.CreateOrderDto.reducedTotal (dto : OrderService.CreateOrderDto) : Double :=
  dto.items.foldl
    (fun sum item =>
      sum.add ((Double.ofNat item.quantity).mul (Double.ofNat item.unitPriceCents)))
    (.finite 0)

/-- What is stored of an order and of its payment is within the range of the columns. -/
structure InRange (dto : OrderService.CreateOrderDto) : Prop where
  lines : ∀ item ∈ dto.items,
    fitsInteger item.quantity = true ∧ fitsInteger item.unitPriceCents = true
  total : ∃ total, dto.reducedTotal = .finite total ∧ fitsInteger total = true
  created : ∀ now database supply,
    (onRows (OrderService.createOrderWork now dto)).transaction none database supply ≠
      .error outOfRange
  charged : ∀ config now correlationId (order : OrderCreatedPayload) database supply,
    dto.reducedTotal = .finite order.totalAmountCents →
      (onRows (PaymentService.charge config now order correlationId)).transaction none database
        supply ≠ .error outOfRange

section Statements

variable {K : Type} {V : K → Type} {A : Type}

theorem onRows_never {bad : TxError} {body : Prog K V TxError A} (never : body.Never bad) :
    (onRows body).Never bad := by
  induction body with
  | pure => trivial
  | throw => exact never
  | fresh next ih => exact fun value => ih value (never value)
  | select next ih => exact fun database => ih _ (never _)
  | write key change next ih => exact ⟨never.1, fun row => ih row (never.2 row)⟩

theorem never_randomUUID : (randomUUID : Prog K V TxError Uuid).Never outOfRange :=
  fun _ => trivial

theorem never_createEvent (now : Timestamp) (input : NewEvent) :
    (createEvent now input : Prog K V TxError EventEnvelope).Never outOfRange :=
  fun _ => trivial

theorem never_create (key : K) (row : V key) : (create key row).Never outOfRange := by
  constructor
  · intro found error failed
    cases found with
    | none => cases failed
    | some =>
        cases failed
        decide
  · exact fun _ => trivial

theorem never_enqueueAs {insert : Uuid → OutboxEvent → Prog K V TxError OutboxEvent}
    (inserts : ∀ id row, (insert id row).Never outOfRange) (aggregateType : String)
    (now : Timestamp) (topic : Topic) (event : EventEnvelope) :
    (enqueueAs insert aggregateType now topic event).Never outOfRange :=
  never_randomUUID.bind fun id => (inserts id _).bind fun _ => trivial

end Statements

theorem fitsInteger_iff (value : Nat) : fitsInteger value = true ↔ value ≤ 2147483647 := by
  simp [fitsInteger]

theorem createOrderWork_never (now : Timestamp) (dto : OrderService.CreateOrderDto)
    (lines : ∀ item ∈ dto.items,
      fitsInteger item.quantity = true ∧ fitsInteger item.unitPriceCents = true)
    (total : fitsInteger dto.totalAmountCents = true) :
    (OrderService.createOrderWork now dto).Never outOfRange := by
  unfold OrderService.createOrderWork
  apply never_randomUUID.bind
  intro orderId
  apply never_randomUUID.bind
  intro correlationId
  apply Prog.Never.bind
  · unfold OrderService.createOrderRow
    rw [if_pos]
    · exact never_create _ _
    · simpa [OrderService.Order.fitsColumns, total, OrderService.CreateOrderDto.lineItems,
        OrderService.CreateOrderItemDto.lineItem] using lines
  · intro order
    apply (never_createEvent _ _).bind
    intro event
    apply (never_enqueueAs (fun _ _ => never_create _ _) _ _ _ _).bind
    exact fun _ => trivial

theorem charge_never (config : PaymentService.Config) (now : Timestamp)
    (order : OrderCreatedPayload) (correlationId : Uuid)
    (total : fitsInteger order.totalAmountCents = true) :
    (PaymentService.charge config now order correlationId).Never outOfRange := by
  have created (orderId : Uuid) (payment : PaymentService.Payment)
      (amount : payment.amountCents = order.totalAmountCents) :
      (PaymentService.createPayment orderId payment).Never outOfRange := by
    unfold PaymentService.createPayment
    rw [amount, if_pos total]
    exact never_create _ _
  have enqueued (topic : Topic) (event : EventEnvelope) :
      (PaymentService.enqueue now topic event).Never outOfRange :=
    never_enqueueAs (fun _ _ => never_create _ _) _ _ _ _
  unfold PaymentService.charge
  split
  all_goals
    apply never_randomUUID.bind
    intro id
    apply (created _ _ rfl).bind
    intro payment
    apply (never_createEvent _ _).bind
    intro event
  · exact (enqueued _ _).bind fun _ => trivial
  · exact enqueued _ _

section Total

open OrderService

theorem capped_foldl (items : List CreateOrderItemDto) (sum : Double) :
    (items.foldl (fun sum item => sum.add
      ((Double.ofNat item.quantity).mul (Double.ofNat item.unitPriceCents))) sum).capped =
        min (sum.capped + itemsTotal (items.map CreateOrderItemDto.lineItem)) (2 ^ 53) := by
  induction items generalizing sum with
  | nil => cases sum <;> simp [itemsTotal, Double.capped]
  | cons item rest ih =>
      have quantity := item.quantityPositive
      have price := item.unitPriceCentsPositive
      have product : ((Double.ofNat item.quantity).mul (Double.ofNat item.unitPriceCents)).capped =
          min (item.quantity * item.unitPriceCents) (2 ^ 53) := by
        rw [Double.capped_mul, Double.capped_ofNat, Double.capped_ofNat]
        · exact Double.min_mul_min (by omega) quantity price
        all_goals
          rw [Double.capped_ofNat]
          omega
      rw [List.foldl_cons, ih, Double.capped_add, product]
      simp only [List.map_cons, itemsTotal, CreateOrderItemDto.lineItem]
      omega

theorem capped_reducedTotal (dto : CreateOrderDto) :
    dto.reducedTotal.capped = min (itemsTotal dto.lineItems) (2 ^ 53) := by
  have total := capped_foldl dto.items (.finite 0)
  rw [Double.capped, Nat.zero_min, Nat.zero_add] at total
  exact total

/-- A total that fits a column is the exact one. -/
theorem reducedTotal_exact {dto : CreateOrderDto} (small : itemsTotal dto.lineItems ≤ 2147483647) :
    dto.reducedTotal = .finite dto.totalAmountCents := by
  have capped := capped_reducedTotal dto
  have below : dto.reducedTotal.capped < 2 ^ 53 := by omega
  rw [Double.finite_of_capped below, capped, totalAmountCents_eq]
  congr 1
  omega

theorem line_le_itemsTotal {items : List OrderLineItem} {item : OrderLineItem}
    (member : item ∈ items) : item.quantity * item.unitPriceCents ≤ itemsTotal items := by
  induction member with
  | head => simp [itemsTotal]
  | tail _ _ ih =>
      rw [itemsTotal]
      omega

end Total

/-- The amounts of an order are within the range of their columns exactly when the sum of its
lines is. -/
theorem inRange_iff (dto : OrderService.CreateOrderDto) :
    InRange dto ↔ OrderService.itemsTotal dto.lineItems ≤ 2147483647 := by
  constructor
  · intro inRange
    obtain ⟨total, reduced, fits⟩ := inRange.total
    have capped := capped_reducedTotal dto
    rw [reduced, Double.capped] at capped
    rw [fitsInteger_iff] at fits
    omega
  · intro small
    have reduced := reducedTotal_exact small
    have fits : fitsInteger dto.totalAmountCents = true := by
      rw [fitsInteger_iff, OrderService.totalAmountCents_eq]
      exact small
    have lines : ∀ item ∈ dto.items,
        fitsInteger item.quantity = true ∧ fitsInteger item.unitPriceCents = true := by
      intro item member
      have listed : item.lineItem ∈ dto.lineItems := List.mem_map_of_mem member
      have least : item.quantity * item.unitPriceCents ≤ OrderService.itemsTotal dto.lineItems :=
        line_le_itemsTotal listed
      have quantity := Nat.le_mul_of_pos_right item.quantity item.unitPriceCentsPositive
      have price := Nat.le_mul_of_pos_left item.unitPriceCents item.quantityPositive
      rw [fitsInteger_iff, fitsInteger_iff]
      omega
    refine ⟨lines, ⟨_, reduced, fits⟩, ?_, ?_⟩
    · intro now database supply
      exact Prog.Never.transaction (onRows_never (createOrderWork_never now dto lines fits))
    · intro config now correlationId order database supply same
      rw [reduced, Double.finite.injEq] at same
      rw [same] at fits
      exact Prog.Never.transaction (onRows_never (charge_never config now order correlationId fits))

section Sample

/-- One piece for thirty million dollars. -/
def sampleExpensive : OrderService.CreateOrderDto :=
  { customerId := 1
    items := [{ productId := 3, quantity := 1, unitPriceCents := 3000000000
                quantityPositive := Nat.one_pos, unitPriceCentsPositive := by decide }]
    currency := none
    itemsNotEmpty := List.cons_ne_nil _ _ }

theorem expensive_order_out_of_range :
    ¬ InRange sampleExpensive ∧
      (onRows (OrderService.createOrderWork 1 sampleExpensive)).transaction none (fun _ => none) 0 =
        .error outOfRange := by
  have failed : (onRows (OrderService.createOrderWork 1 sampleExpensive)).transaction none
      (fun _ => none) 0 = .error outOfRange := rfl
  constructor
  · intro inRange
    exact inRange.created _ _ _ failed
  · exact failed

end Sample

end Ecommerce
