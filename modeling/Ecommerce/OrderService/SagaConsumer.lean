import Ecommerce.OrderService.Orders
import Ecommerce.Shared.ProcessOnce

set_option autoImplicit false

namespace Ecommerce.OrderService

open Transaction

def consumer : String := "order-service.saga"

def handleOutcome (leg : Leg) (outcome : Outcome) (now : Timestamp) (event : EventEnvelope) :
    Prog (TableKey Key) (TableRow Row) TxError Unit :=
  processOnceTx consumer event (onRows (applyLegOutcome now event.payload.orderId leg outcome))

def onPaymentCompleted (now : Timestamp) (event : EventEnvelope) :
    Prog (TableKey Key) (TableRow Row) TxError Unit :=
  handleOutcome .payment .succeeded now event

def onPaymentFailed (now : Timestamp) (event : EventEnvelope) :
    Prog (TableKey Key) (TableRow Row) TxError Unit :=
  handleOutcome .payment .failed now event

def onInventoryReserved (now : Timestamp) (event : EventEnvelope) :
    Prog (TableKey Key) (TableRow Row) TxError Unit :=
  handleOutcome .inventory .succeeded now event

def onInventoryRejected (now : Timestamp) (event : EventEnvelope) :
    Prog (TableKey Key) (TableRow Row) TxError Unit :=
  handleOutcome .inventory .failed now event

def routes : Topic → Option (Timestamp → EventEnvelope →
    Prog (TableKey Key) (TableRow Row) TxError Unit)
  | .paymentsCompleted => some onPaymentCompleted
  | .paymentsFailed => some onPaymentFailed
  | .inventoryReserved => some onInventoryReserved
  | .inventoryRejected => some onInventoryRejected
  | .ordersCreated | .ordersConfirmed | .ordersCancelled => none

abbrev marker (eventId : Uuid) : TableKey Key := .processed eventId consumer

abbrev orderKey (orderId : Uuid) : TableKey Key := .row (.order orderId)

abbrev outboxKey (id : Uuid) : TableKey Key := .row (.outboxEvent id)

end Ecommerce.OrderService
