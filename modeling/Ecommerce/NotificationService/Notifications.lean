import Ecommerce.NotificationService.Schema
import Ecommerce.Shared.ProcessOnce

set_option autoImplicit false

namespace Ecommerce.NotificationService

open Transaction

def fmt (cents : Nat) : String :=
  let decimals := toString (cents % 100)
  let padded := if cents % 100 < 10 then "0" ++ decimals else decimals
  "$" ++ toString (cents / 100) ++ "." ++ padded

example : fmt 1205 = "$12.05" := by decide

def reasonText : DeclineReason → String
  | .cardDeclined => "CARD_DECLINED"
  | .insufficientFunds => "INSUFFICIENT_FUNDS"
  | .gatewayError => "GATEWAY_ERROR"

def confirmedText (config : Config) (orderId : Uuid) (cents : Nat) : String :=
  "Your order " ++ config.uuidText orderId ++ " is confirmed. We charged " ++ fmt cents ++
    ". Thank you!"

def failedText (config : Config) (orderId : Uuid) (reason : DeclineReason) : String :=
  "We couldn't process payment for order " ++ config.uuidText orderId ++ " (" ++
    reasonText reason ++ "). Please update your payment method."

/-- `sendOrderConfirmed` and `sendPaymentFailed` but for the kind and the body. -/
def send (kind : NotificationKind) (orderId customerId : Uuid) (body : String) : Tx Unit := do
  let id ← randomUUID
  let _ ← create (V := Row) (.notification orderId kind)
    { id, customerId, channel := "email", body }

def sendOrderConfirmed (config : Config) (order : OrderConfirmedPayload) : Tx Unit :=
  send .orderConfirmed order.orderId order.customerId
    (confirmedText config order.orderId order.totalAmountCents)

def sendPaymentFailed (config : Config) (failure : PaymentFailedPayload) : Tx Unit :=
  send .paymentFailed failure.orderId failure.customerId
    (failedText config failure.orderId failure.reason)

end Ecommerce.NotificationService
