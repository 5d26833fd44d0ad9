import Ecommerce.NotificationService.Notifications

set_option autoImplicit false

namespace Ecommerce.NotificationService

open Transaction

def consumer : String := "notification-service.notifications"

def onOrderConfirmed (config : Config) (event : EventEnvelope) :
    Prog (TableKey Key) (TableRow Row) TxError Unit :=
  processOnceTx consumer event <|
    match event.payload with
    | .orderConfirmed order => onRows (sendOrderConfirmed config order)
    -- The cast assumes the payload of the topic.
    | _ => .throw (.other "not an OrderConfirmedPayload")

def onPaymentFailed (config : Config) (event : EventEnvelope) :
    Prog (TableKey Key) (TableRow Row) TxError Unit :=
  processOnceTx consumer event <|
    match event.payload with
    | .paymentFailed failure => onRows (sendPaymentFailed config failure)
    | _ => .throw (.other "not a PaymentFailedPayload")

def routes (config : Config) : Topic → Option (Timestamp → EventEnvelope →
    Prog (TableKey Key) (TableRow Row) TxError Unit)
  | .ordersConfirmed => some fun _ => onOrderConfirmed config
  | .paymentsFailed => some fun _ => onPaymentFailed config
  | .ordersCreated | .ordersCancelled | .paymentsCompleted | .inventoryReserved
  | .inventoryRejected => none

abbrev marker (eventId : Uuid) : TableKey Key := .processed eventId consumer

abbrev notificationKey (orderId : Uuid) (kind : NotificationKind) : TableKey Key :=
  .row (.notification orderId kind)

end Ecommerce.NotificationService
