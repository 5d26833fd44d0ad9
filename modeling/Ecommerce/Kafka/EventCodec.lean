import Ecommerce.Kafka.Codec
import Ecommerce.NotificationService.Notifications

set_option autoImplicit false

/-!
# Events as JSON

The members of each object stand in the order in which the services write them.
-/

namespace Ecommerce

open Kafka

/-- The largest time value of a `Date`. -/
def maxTime : Timestamp := 8640000000000000

/-- UUIDs and dates as texts, which can be read back. -/
structure Texts where
  uuidText : Uuid → String
  readUuid : String → Option Uuid
  toISOString : Timestamp → String
  readDate : String → Option Timestamp
  uuids : ∀ id, readUuid (uuidText id) = some id
  dates : ∀ time, time ≤ maxTime → readDate (toISOString time) = some time

def Texts.uuid (texts : Texts) : Codec Uuid :=
  Codec.text.via (fun _ => True) texts.uuidText texts.readUuid fun id _ => texts.uuids id

def Texts.date (texts : Texts) : Codec Timestamp :=
  Codec.text.via (fun time => time ≤ maxTime) texts.toISOString texts.readDate texts.dates

@[simp] theorem Texts.uuid_fits (texts : Texts) (id : Uuid) : texts.uuid.Fits id :=
  ⟨trivial, trivial⟩

@[simp] theorem Texts.date_fits (texts : Texts) (time : Timestamp) :
    texts.date.Fits time ↔ time ≤ maxTime := by
  simp [Texts.date]

def Topic.codec : Codec Topic :=
  .named [.ordersCreated, .ordersConfirmed, .ordersCancelled, .paymentsCompleted, .paymentsFailed,
    .inventoryReserved, .inventoryRejected] Topic.name fun topic => by cases topic <;> decide

def CancelReason.text : CancelReason → String
  | .paymentFailed => "PAYMENT_FAILED"
  | .outOfStock => "OUT_OF_STOCK"
  | .customerCancelled => "CUSTOMER_CANCELLED"

def CancelReason.codec : Codec CancelReason :=
  .named [.paymentFailed, .outOfStock, .customerCancelled] CancelReason.text fun reason => by
    cases reason <;> decide

def DeclineReason.codec : Codec DeclineReason :=
  .named [.cardDeclined, .insufficientFunds, .gatewayError] NotificationService.reasonText
    fun reason => by cases reason <;> decide

section Payloads

variable (texts : Texts)

def OrderLineItem.codec : Codec OrderLineItem :=
  (((Fields.one "productId" texts.uuid).and <| (Fields.one "quantity" .natural).and <|
      .one "unitPriceCents" .natural).object (by decide) (by decide)).via (fun _ => True)
    (fun item => (item.productId, item.quantity, item.unitPriceCents))
    (fun (productId, quantity, unitPriceCents) => some { productId, quantity, unitPriceCents })
    fun _ _ => rfl

def ReservedItem.codec : Codec ReservedItem :=
  (((Fields.one "productId" texts.uuid).and <| .one "quantity" .natural).object (by decide)
      (by decide)).via (fun _ => True) (fun item => (item.productId, item.quantity))
    (fun (productId, quantity) => some { productId, quantity }) fun _ _ => rfl

def Shortfall.codec : Codec Shortfall :=
  (((Fields.one "productId" texts.uuid).and <| (Fields.one "requested" .natural).and <|
      .one "available" .integer).object (by decide) (by decide)).via (fun _ => True)
    (fun shortfall => (shortfall.productId, shortfall.requested, shortfall.available))
    (fun (productId, requested, available) => some { productId, requested, available })
    fun _ _ => rfl

def OrderCreatedPayload.codec : Codec OrderCreatedPayload :=
  (((Fields.one "orderId" texts.uuid).and <| (Fields.one "customerId" texts.uuid).and <|
      (Fields.one "items" (OrderLineItem.codec texts).list).and <|
        (Fields.one "totalAmountCents" .natural).and <| .one "currency" .text).object (by decide)
      (by decide)).via (fun _ => True)
    (fun payload => (payload.orderId, payload.customerId, payload.items, payload.totalAmountCents,
      payload.currency))
    (fun (orderId, customerId, items, totalAmountCents, currency) =>
      some { orderId, customerId, items, totalAmountCents, currency })
    fun _ _ => rfl

def OrderConfirmedPayload.codec : Codec OrderConfirmedPayload :=
  (((Fields.one "orderId" texts.uuid).and <| (Fields.one "customerId" texts.uuid).and <|
      .one "totalAmountCents" .natural).object (by decide) (by decide)).via (fun _ => True)
    (fun payload => (payload.orderId, payload.customerId, payload.totalAmountCents))
    (fun (orderId, customerId, totalAmountCents) =>
      some { orderId, customerId, totalAmountCents })
    fun _ _ => rfl

def OrderCancelledPayload.codec : Codec OrderCancelledPayload :=
  (((Fields.one "orderId" texts.uuid).and <| (Fields.one "customerId" texts.uuid).and <|
      .one "reason" CancelReason.codec).object (by decide) (by decide)).via (fun _ => True)
    (fun payload => (payload.orderId, payload.customerId, payload.reason))
    (fun (orderId, customerId, reason) => some { orderId, customerId, reason })
    fun _ _ => rfl

def PaymentCompletedPayload.codec : Codec PaymentCompletedPayload :=
  (((Fields.one "orderId" texts.uuid).and <| (Fields.one "customerId" texts.uuid).and <|
      (Fields.one "paymentId" texts.uuid).and <| .one "amountChargedCents" .natural).object
      (by decide) (by decide)).via (fun _ => True)
    (fun payload => (payload.orderId, payload.customerId, payload.paymentId,
      payload.amountChargedCents))
    (fun (orderId, customerId, paymentId, amountChargedCents) =>
      some { orderId, customerId, paymentId, amountChargedCents })
    fun _ _ => rfl

def PaymentFailedPayload.codec : Codec PaymentFailedPayload :=
  (((Fields.one "orderId" texts.uuid).and <| (Fields.one "customerId" texts.uuid).and <|
      .one "reason" DeclineReason.codec).object (by decide) (by decide)).via (fun _ => True)
    (fun payload => (payload.orderId, payload.customerId, payload.reason))
    (fun (orderId, customerId, reason) => some { orderId, customerId, reason })
    fun _ _ => rfl

def InventoryReservedPayload.codec : Codec InventoryReservedPayload :=
  (((Fields.one "orderId" texts.uuid).and <| (Fields.one "reservationId" texts.uuid).and <|
      .one "items" (ReservedItem.codec texts).list).object (by decide) (by decide)).via
    (fun _ => True) (fun payload => (payload.orderId, payload.reservationId, payload.items))
    (fun (orderId, reservationId, items) => some { orderId, reservationId, items })
    fun _ _ => rfl

def InventoryRejectedPayload.codec : Codec InventoryRejectedPayload :=
  (((Fields.one "orderId" texts.uuid).and <|
      (Fields.one "reason" (.named [()] (fun _ => "OUT_OF_STOCK") fun _ => rfl)).and <|
        .one "shortfalls" (Shortfall.codec texts).list).object (by decide) (by decide)).via
    (fun _ => True) (fun payload => (payload.orderId, (), payload.shortfalls))
    (fun (orderId, _, shortfalls) => some { orderId, shortfalls })
    fun _ _ => rfl

/-- A consumer takes the payload for that of the topic that it has subscribed to. -/
def Payload.codec : Topic → Codec Payload
  | .ordersCreated => (OrderCreatedPayload.codec texts).summand .orderCreated
      (fun | .orderCreated payload => some payload | _ => none)
      fun payload _ same => by cases payload <;> cases same; rfl
  | .ordersConfirmed => (OrderConfirmedPayload.codec texts).summand .orderConfirmed
      (fun | .orderConfirmed payload => some payload | _ => none)
      fun payload _ same => by cases payload <;> cases same; rfl
  | .ordersCancelled => (OrderCancelledPayload.codec texts).summand .orderCancelled
      (fun | .orderCancelled payload => some payload | _ => none)
      fun payload _ same => by cases payload <;> cases same; rfl
  | .paymentsCompleted => (PaymentCompletedPayload.codec texts).summand .paymentCompleted
      (fun | .paymentCompleted payload => some payload | _ => none)
      fun payload _ same => by cases payload <;> cases same; rfl
  | .paymentsFailed => (PaymentFailedPayload.codec texts).summand .paymentFailed
      (fun | .paymentFailed payload => some payload | _ => none)
      fun payload _ same => by cases payload <;> cases same; rfl
  | .inventoryReserved => (InventoryReservedPayload.codec texts).summand .inventoryReserved
      (fun | .inventoryReserved payload => some payload | _ => none)
      fun payload _ same => by cases payload <;> cases same; rfl
  | .inventoryRejected => (InventoryRejectedPayload.codec texts).summand .inventoryRejected
      (fun | .inventoryRejected payload => some payload | _ => none)
      fun payload _ same => by cases payload <;> cases same; rfl

/-- An event with a payload of this topic. -/
def EventEnvelope.codec (topic : Topic) : Codec EventEnvelope :=
  (((Fields.one "eventId" texts.uuid).and <| (Fields.one "eventType" Topic.codec).and <|
      (Fields.one "version" .natural).and <| (Fields.one "occurredAt" texts.date).and <|
        (Fields.one "correlationId" texts.uuid).and <| (Fields.one "aggregateId" texts.uuid).and <|
          (Fields.one "producer" .text).and <| .one "payload" (Payload.codec texts topic)).object
      (by decide) (by decide)).via (fun _ => True)
    (fun event => (event.eventId, event.eventType, event.version, event.occurredAt,
      event.correlationId, event.aggregateId, event.producer, event.payload))
    (fun (eventId, eventType, version, occurredAt, correlationId, aggregateId, producer, payload) =>
      some { eventId, eventType, version, occurredAt, correlationId, aggregateId, producer,
             payload })
    fun _ _ => rfl

def EventEnvelope.toJson (event : EventEnvelope) : Json :=
  (EventEnvelope.codec texts event.eventType).write event

end Payloads

section Fits

variable {texts : Texts}

theorem lineItem_fits {item : OrderLineItem} (quantity : item.quantity ≤ maxExact)
    (price : item.unitPriceCents ≤ maxExact) : (OrderLineItem.codec texts).Fits item := by
  simp [OrderLineItem.codec, quantity, price]

theorem reservedItem_fits {item : ReservedItem} (quantity : item.quantity ≤ maxExact) :
    (ReservedItem.codec texts).Fits item := by
  simp [ReservedItem.codec, quantity]

theorem shortfall_fits {shortfall : Shortfall} (requested : shortfall.requested ≤ maxExact)
    (available : shortfall.available.natAbs ≤ maxExact) :
    (Shortfall.codec texts).Fits shortfall := by
  simp [Shortfall.codec, requested, available]

end Fits

section Sample

def paddedDigits (width value : Nat) : List Char :=
  List.replicate (width - (Nat.toDigits 10 value).length) '0' ++ Nat.toDigits 10 value

theorem ofDigitChars_paddedDigits (width value : Nat) :
    Nat.ofDigitChars 10 (paddedDigits width value) 0 = value := by
  rw [paddedDigits, Nat.ofDigitChars_append, Nat.ofDigitChars_replicate_zero, Nat.mul_zero,
    Nat.ofDigitChars_ten_toDigits]

def sampleTexts : Texts where
  uuidText id := String.ofList ("00000000-0000-0000-0000-".toList ++ paddedDigits 12 id)
  readUuid text := some (Nat.ofDigitChars 10 (text.toList.drop 24) 0)
  toISOString time :=
    String.ofList ("1970-01-01T00:00:00.".toList ++ (paddedDigits 3 time ++ ['Z']))
  readDate text := some (Nat.ofDigitChars 10 (text.toList.drop 20).dropLast 0)
  uuids id := by
    rw [String.toList_ofList, List.drop_left' (by decide), ofDigitChars_paddedDigits]
  dates time _ := by
    rw [String.toList_ofList, List.drop_left' (by decide), List.dropLast_concat,
      ofDigitChars_paddedDigits]

end Sample

end Ecommerce
