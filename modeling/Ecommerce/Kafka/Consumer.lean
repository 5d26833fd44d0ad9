import Ecommerce.Kafka.Json
import Ecommerce.Shared.Events
import Ecommerce.Shared.Number

set_option autoImplicit false

/-!
# KafkaConsumerService

The same code runs in all four services.
-/

namespace Ecommerce.Kafka

def maxExact : Nat := 9007199254740992

def increment (attempt : Nat) : Nat :=
  -- A double no longer changes by adding 1 at 2 ^ 53.
  if attempt < maxExact then attempt + 1 else attempt

structure ErrorSummary where
  name : Option String
  message : String

/-- What a handler throws, as the consumer reads it. -/
structure Thrown where
  -- The warning can hold its `message`; null and undefined have none to be read.
  warnable : Bool
  -- Its `name`, and its `message` or what `String` makes of it; `none` where one of them throws.
  summary : Option ErrorSummary

/-- A handler, by the value it is called with and the number of calls before. -/
abbrev Handler := Json → Nat → Option Thrown

structure Message where
  key : Option (List UInt8)
  value : Option (List UInt8)

structure DeadLetterEnvelope where
  originalTopic : String
  consumerGroup : String
  failedAt : Timestamp
  attempts : Nat
  error : ErrorSummary
  key : Option JsString
  original : Json

structure DlqRecord where
  topic : String
  key : Option (List UInt8)
  value : DeadLetterEnvelope

/-- What the engine can do before its stack or its longest text is used up. -/
structure Engine where
  -- The log line with `event.eventId`, which an array is joined for.
  prints : Json → Bool
  stringifies : DeadLetterEnvelope → Bool

structure Service where
  routes : String → Option Handler
  groupId : String
  maxRetries : Number
  -- The engine's words for a SyntaxError.
  syntaxError : JsString → String
  engine : Engine

/-- What `JSON.parse` throws. -/
def Service.unparseable (service : Service) (text : JsString) : Thrown :=
  { warnable := true
    summary := some { name := some "SyntaxError", message := service.syntaxError text } }

def startsWith (topic start : String) : Bool := start.toList.isPrefixOf topic.toList

def dlqForTopic (topic : String) : String :=
  if startsWith topic "orders." then "orders.DLQ"
  else if startsWith topic "payments." then "payments.DLQ"
  else if startsWith topic "inventory." then "inventory.DLQ"
  -- Unknown source: the default bucket.
  else "orders.DLQ"

/-- The message to the DLQ, `none` where building it throws. -/
def toDlq (service : Service) (failedAt : Timestamp) (originalTopic : String) (message : Message)
    (err : Thrown) (attempts : Nat) (original : Json) : Option DlqRecord := do
  let error ← err.summary
  let deadLetter : DeadLetterEnvelope :=
    { originalTopic
      consumerGroup := service.groupId
      failedAt
      attempts
      error
      key := message.key.map bufferToString
      original }
  if service.engine.stringifies deadLetter then
    some { topic := dlqForTopic originalTopic, key := message.key, value := deadLetter }
  else none

mutual

/-- A template literal can hold the value: an object is turned into text by its `toString`, and a
member of that name, which is never callable, leaves no way to do so. -/
def Json.printable : Json → Bool
  | .null | .boolean _ | .number _ | .text _ => true
  | .array items => allPrintable items
  | .object members => (members.lookup (units "toString")).isNone

def allPrintable : List Json → Bool
  | [] => true
  | item :: rest => item.printable && allPrintable rest

end

/-- The log line with `event.eventId` can be built; reading a property of null throws. -/
def Json.loggable : Json → Bool
  | .null => false
  | .object members =>
      match members.lookup (units "eventId") with
      | some eventId => eventId.printable
      | none => true
  | _ => true

/-- How a dispatch ends: whether it returns, the number of handler calls, and what was handed to
the DLQ producer. -/
structure Dispatched where
  returned : Bool
  calls : Nat
  sent : List DlqRecord

/-- A dispatch that ends with `toDlq`. -/
def Dispatched.parking (sendSucceeds : Bool) (calls : Nat) : Option DlqRecord → Dispatched
  | some record => { returned := sendSucceeds, calls, sent := [record] }
  | none => { returned := false, calls, sent := [] }

/-- The retry loop, after so many failures and calls; `none` while it is still running. -/
def handleWithRetry (service : Service) (sendSucceeds : Bool) (failedAt : Timestamp)
    (topic : String) (event : Json) (message : Message) (handler : Handler) :
    (fuel attempt calls : Nat) → Option Dispatched
  | 0, _, _ => none
  | fuel + 1, attempt, calls =>
      match handler event calls with
      | none => some { returned := true, calls := calls + 1, sent := [] }
      | some err =>
          let attempt := increment attempt
          if service.maxRetries.exceededBy attempt then
            if event.loggable && service.engine.prints event then
              some (.parking sendSucceeds (calls + 1)
                (toDlq service failedAt topic message err attempt event))
            else some { returned := false, calls := calls + 1, sent := [] }
          else if err.warnable then
            handleWithRetry service sendSucceeds failedAt topic event message handler fuel attempt
              (calls + 1)
          else some { returned := false, calls := calls + 1, sent := [] }

def dispatch (service : Service) (sendSucceeds : Bool) (failedAt : Timestamp) (topic : String)
    (message : Message) (fuel : Nat) : Option Dispatched :=
  match service.routes topic, message.value with
  | some handler, some bytes =>
      let text := bufferToString bytes
      match jsonParse text with
      | none =>
          some (.parking sendSucceeds 0
            (toDlq service failedAt topic message (service.unparseable text) 0 (.text text)))
      | some event =>
          handleWithRetry service sendSucceeds failedAt topic event message handler fuel 0 0
  | _, _ => some { returned := true, calls := 0, sent := [] }

end Ecommerce.Kafka
