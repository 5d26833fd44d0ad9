import Ecommerce.Shared.Prisma

set_option autoImplicit false

namespace Ecommerce.InventoryService

open Transaction

structure Product where
  availableQty : Int
  reservedQty : Int
  deriving DecidableEq

inductive ReservationStatus where
  | reserved
  | released
  deriving DecidableEq

structure Reservation where
  id : Uuid
  status : ReservationStatus
  items : List ReservedItem
  deriving DecidableEq

-- A reservation is stored under the unique key of its order.
inductive Key where
  | product (id : Uuid)
  | reservation (orderId : Uuid)
  | outboxEvent (id : Uuid)
  deriving DecidableEq

abbrev Row : Key → Type
  | .product _ => Product
  | .reservation _ => Reservation
  | .outboxEvent _ => OutboxEvent

abbrev Tx (A : Type) := Prog Key Row TxError A

abbrev InventoryDb := Database Key Row

structure Config where
  defaultStock : Int

end Ecommerce.InventoryService
