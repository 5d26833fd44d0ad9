import Ecommerce.PaymentService.Schema
import Ecommerce.Shared.ProcessOnce

set_option autoImplicit false

namespace Ecommerce.PaymentService

open Transaction

def producer : String := "payment-service"

def enqueue (now : Timestamp) (topic : Topic) (event : EventEnvelope) : Tx Unit :=
  enqueueAs (fun id row => create (V := Row) (.outboxEvent id) row) "Payment" now topic event

def markPublished (rowId : Uuid) (now : Timestamp) : Tx Unit :=
  markPublishedAs (fun id data => update (V := Row) (.outboxEvent id) data) rowId now

def Config.declined (config : Config) (totalAmountCents : Nat) : Bool :=
  config.declineEndsIn.equals (totalAmountCents % 100)

def createPayment (orderId : Uuid) (payment : Payment) : Tx Payment :=
  if fitsInteger payment.amountCents then create (V := Row) (.payment orderId) payment
  else .throw (.other "value out of range for INTEGER")

def charge (config : Config) (now : Timestamp) (order : OrderCreatedPayload)
    (correlationId : Uuid) : Tx Unit := do
  if config.declined order.totalAmountCents then
    let id ← randomUUID
    let _ ← createPayment order.orderId
      { id
        customerId := order.customerId
        amountCents := order.totalAmountCents
        status := .failed
        failureCode := some .cardDeclined }
    let event ← createEvent now
      { eventType := .paymentsFailed
        correlationId
        aggregateId := order.orderId
        producer
        payload := .paymentFailed
          { orderId := order.orderId
            customerId := order.customerId
            reason := .cardDeclined } }
    enqueue now .paymentsFailed event
    return
  let id ← randomUUID
  let payment ← createPayment order.orderId
    { id
      customerId := order.customerId
      amountCents := order.totalAmountCents
      status := .completed
      failureCode := none }
  let event ← createEvent now
    { eventType := .paymentsCompleted
      correlationId
      aggregateId := order.orderId
      producer
      payload := .paymentCompleted
        { orderId := order.orderId
          customerId := order.customerId
          paymentId := payment.id
          amountChargedCents := order.totalAmountCents } }
  enqueue now .paymentsCompleted event

end Ecommerce.PaymentService
