import Ecommerce.Shared.Prisma

set_option autoImplicit false

namespace Ecommerce.NotificationService

open Transaction

inductive NotificationKind where
  | orderConfirmed
  | paymentFailed
  deriving DecidableEq

structure Notification where
  id : Uuid
  customerId : Uuid
  channel : String
  body : String
  deriving DecidableEq

-- A notification is stored under the unique key of its order and kind.
inductive Key where
  | notification (orderId : Uuid) (kind : NotificationKind)
  deriving DecidableEq

abbrev Row : Key → Type
  | .notification _ _ => Notification

abbrev Tx (A : Type) := Prog Key Row TxError A

abbrev NotificationDb := Database Key Row

structure Config where
  uuidText : Uuid → String

end Ecommerce.NotificationService
