import Ecommerce.InventoryService.Inventory
import Ecommerce.Shared.ProcessOnce

set_option autoImplicit false

namespace Ecommerce.InventoryService

open Transaction

def consumer : String := "inventory-service.orders"

def onOrderCreated (config : Config) (now : Timestamp) (event : EventEnvelope) :
    Prog (TableKey Key) (TableRow Row) TxError Unit :=
  processOnceTx consumer event <|
    match event.payload with
    | .orderCreated order => onRows (reserve config now order event.correlationId)
    -- Any other payload has no items to iterate over.
    | _ => .throw (.other "order.items is not iterable")

def onOrderCancelled (event : EventEnvelope) : Prog (TableKey Key) (TableRow Row) TxError Unit :=
  processOnceTx consumer event (onRows (release event.payload.orderId))

def routes (config : Config) : Topic → Option (Timestamp → EventEnvelope →
    Prog (TableKey Key) (TableRow Row) TxError Unit)
  | .ordersCreated => some (onOrderCreated config)
  | .ordersCancelled => some fun _ => onOrderCancelled
  | .ordersConfirmed | .paymentsCompleted | .paymentsFailed | .inventoryReserved
  | .inventoryRejected => none

abbrev marker (eventId : Uuid) : TableKey Key := .processed eventId consumer

abbrev productKey (productId : Uuid) : TableKey Key := .row (.product productId)

abbrev reservationKey (orderId : Uuid) : TableKey Key := .row (.reservation orderId)

abbrev outboxKey (id : Uuid) : TableKey Key := .row (.outboxEvent id)

end Ecommerce.InventoryService
