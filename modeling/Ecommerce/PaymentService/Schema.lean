import Ecommerce.Shared.Number
import Ecommerce.Shared.Prisma

set_option autoImplicit false

namespace Ecommerce.PaymentService

open Transaction

inductive PaymentStatus where
  | completed
  | failed
  deriving DecidableEq

structure Payment where
  id : Uuid
  customerId : Uuid
  amountCents : Nat
  status : PaymentStatus
  failureCode : Option DeclineReason
  deriving DecidableEq

-- A payment is stored under the unique key of its order.
inductive Key where
  | payment (orderId : Uuid)
  | outboxEvent (id : Uuid)
  deriving DecidableEq

abbrev Row : Key → Type
  | .payment _ => Payment
  | .outboxEvent _ => OutboxEvent

abbrev Tx (A : Type) := Prog Key Row TxError A

abbrev PaymentDb := Database Key Row

structure Config where
  declineEndsIn : Number

end Ecommerce.PaymentService
