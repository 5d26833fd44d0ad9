import Ecommerce.PaymentService.Payments

set_option autoImplicit false

namespace Ecommerce.PaymentService

open Transaction

def consumer : String := "payment-service.orders"

def onOrderCreated (config : Config) (now : Timestamp) (event : EventEnvelope) :
    Prog (TableKey Key) (TableRow Row) TxError Unit :=
  processOnceTx consumer event <|
    match event.payload with
    | .orderCreated order => onRows (charge config now order event.correlationId)
    -- Any other payload has no total, and the payment's amount would be missing.
    | _ => .throw (.other "Argument amountCents is missing")

def routes (config : Config) : Topic → Option (Timestamp → EventEnvelope →
    Prog (TableKey Key) (TableRow Row) TxError Unit)
  | .ordersCreated => some (onOrderCreated config)
  | .ordersConfirmed | .ordersCancelled | .paymentsCompleted | .paymentsFailed
  | .inventoryReserved | .inventoryRejected => none

abbrev marker (eventId : Uuid) : TableKey Key := .processed eventId consumer

abbrev paymentKey (orderId : Uuid) : TableKey Key := .row (.payment orderId)

abbrev outboxKey (id : Uuid) : TableKey Key := .row (.outboxEvent id)

end Ecommerce.PaymentService
