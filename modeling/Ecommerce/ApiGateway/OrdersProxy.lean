import Ecommerce.OrderService.OrdersController

set_option autoImplicit false

/-!
# POST /orders through the gateway

The gateway puts the customer of the token into the body and hands the body on, and relays what
the order service answers.
-/

namespace Ecommerce.ApiGateway

open OrderService

/-- `{ ...members, [name]: value }` -/
def withMember (name : String) (value : JsonValue) : JsonObject → JsonObject
  | [] => [(name, value)]
  | (other, old) :: rest =>
      if other = name then (other, value) :: rest else (other, old) :: withMember name value rest

mutual

/-- What the order service is sent of a value: `JSON.stringify` writes an infinity as null. -/
def sent : JsonValue → JsonValue
  | .null => .null
  | .boolean value => .boolean value
  | .number value => .number value
  | .infinite _ => .null
  | .text value => .text value
  | .array items => .array (sentItems items)
  | .object members => .object (sentMembers members)

def sentItems : List JsonValue → List JsonValue
  | [] => []
  | item :: rest => sent item :: sentItems rest

def sentMembers : JsonObject → JsonObject
  | [] => []
  | (name, value) :: rest => (name, sent value) :: sentMembers rest

end

/-- A POST /orders that has passed the guards of the gateway. -/
structure Post where
  -- The subject of the token.
  customerId : String
  body : JsonObject
  idempotencyKey : Option String

def Post.forwardedBody (post : Post) : JsonObject :=
  withMember "customerId" (.text post.customerId) post.body

def Post.sentBody (post : Post) : JsonObject :=
  sentMembers post.forwardedBody

/-- The call that a request leads to, or the message of a 400. -/
def Post.admit (platform : Platform) (post : Post) (now : Timestamp) : Except String Call := do
  -- The gateway checks that there is a key, and the order service does so again.
  let key ← idempotencyKeyHeader post.idempotencyKey
  match platform.validate post.sentBody with
  | some order => return createOrder platform key order now
  | none => throw "Bad Request Exception"

structure Gateway where
  service : OrderService.Service
  -- The requests that were made, by the number of their call.
  posts : Nat → Option Post

inductive Action where
  | post (number : Nat) (post : Post) (now : Timestamp)
  | progress (event : Event)

def Gateway.step (config : OrderService.Config) (platform : Platform) (redisOn : Bool)
    (gateway : Gateway) : Action → Gateway
  | .post number post now =>
      match gateway.posts number with
      | some _ => gateway
      | none =>
          let gateway := { gateway with
            posts := Function.update gateway.posts number (some post) }
          match post.admit platform now with
          | .ok call =>
              { gateway with
                service := gateway.service.step config platform.uuid redisOn (.execute number call) }
          | .error _ => gateway
  -- Calls only come in through the gateway.
  | .progress (.execute _ _) => gateway
  | .progress event =>
      { gateway with service := gateway.service.step config platform.uuid redisOn event }

def Gateway.run (config : OrderService.Config) (platform : Platform) (redisOn : Bool)
    (gateway : Gateway) (actions : List Action) : Gateway :=
  actions.foldl (Gateway.step config platform redisOn) gateway

def Gateway.initial (rows : OrderDb) : Gateway :=
  { service := .initial rows, posts := fun _ => none }

/-- What the gateway relays of an answer of the order service. -/
structure Reply where
  status : Nat
  replayed : Option Bool
  order : Option OrderResponse
  deriving DecidableEq

def reply : Answer → Reply
  | .returned result =>
      { status := result.statusCode, replayed := some result.replayed, order := result.response }
  | .unprocessable => { status := 422, replayed := none, order := none }
  | .conflict => { status := 409, replayed := none, order := none }
  | .failed _ => { status := 500, replayed := none, order := none }

end Ecommerce.ApiGateway
