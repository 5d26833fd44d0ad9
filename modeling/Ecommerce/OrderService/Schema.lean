import Ecommerce.Shared.Prisma

set_option autoImplicit false

namespace Ecommerce.OrderService

open Transaction

inductive OrderStatus where
  | pending
  | confirmed
  | cancelled
  deriving DecidableEq

inductive LegStatus where
  | pending
  | succeeded
  | failed
  deriving DecidableEq

/-- A row of `orders` with its rows of `order_items`, which are written with it and only once. -/
structure Order where
  id : Uuid
  customerId : Uuid
  status : OrderStatus
  paymentStatus : LegStatus
  inventoryStatus : LegStatus
  totalAmountCents : Nat
  currency : String
  correlationId : Uuid
  createdAt : Timestamp
  items : List OrderLineItem
  deriving DecidableEq

structure OrderResponse where
  id : Uuid
  customerId : Uuid
  status : OrderStatus
  paymentStatus : LegStatus
  inventoryStatus : LegStatus
  totalAmountCents : Nat
  currency : String
  correlationId : Uuid
  createdAt : Timestamp
  items : List OrderLineItem
  deriving DecidableEq

inductive KeyStatus where
  | inProgress
  | completed
  deriving DecidableEq

structure IdempotencyKey where
  requestHash : String
  status : KeyStatus
  response : Option OrderResponse
  statusCode : Option Nat
  expiresAt : Option Timestamp
  deriving DecidableEq

inductive Key where
  | idempotencyKey (key : Uuid)
  | order (id : Uuid)
  | outboxEvent (id : Uuid)
  deriving DecidableEq

abbrev Row : Key → Type
  | .idempotencyKey _ => IdempotencyKey
  | .order _ => Order
  | .outboxEvent _ => OutboxEvent

abbrev Tx (A : Type) := Prog Key Row TxError A

abbrev OrderDb := Database Key Row

structure CreateOrderItemDto where
  productId : Uuid
  quantity : Nat
  unitPriceCents : Nat
  quantityPositive : 0 < quantity
  unitPriceCentsPositive : 0 < unitPriceCents

structure CreateOrderDto where
  customerId : Uuid
  items : List CreateOrderItemDto
  currency : Option String
  itemsNotEmpty : items ≠ []

end Ecommerce.OrderService
