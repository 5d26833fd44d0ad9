import Ecommerce.ApiGateway.FairLimit
import Ecommerce.ApiGateway.OrdersProxy
import Ecommerce.Kafka.RetryLimit

set_option autoImplicit false

/-!
# The way of a request through the gateway

The middleware, the two guards in their order, the controller and the proxy.
-/

namespace Ecommerce.ApiGateway

open OrderService

inductive Route where
  | create (body : JsonObject)
  | findOne (id : String)

/-- A request for one of the routes of `OrdersProxyController`, with the headers that are read. -/
structure Arrival where
  gateway : Nat
  time : Timestamp
  connection : Connection
  route : Route
  authorization : Option String
  xRequestId : Option String
  idempotencyKey : Option String
  ip : Option String
  -- What `randomUUID` gives if the request is without an id.
  drawn : String

structure JwtPayload where
  sub : Option String

/-- `JwtService.verify` at a time; `none` when it throws. -/
abbrev Verify := Timestamp → String → Option JwtPayload

def isBlank (text : String) : Bool :=
  text.toList.all fun character => Kafka.isStrWhiteSpace character.toNat

/-- `RequestIdMiddleware` -/
def Arrival.requestId (arrival : Arrival) : String :=
  match arrival.xRequestId with
  | some incoming => if isBlank incoming then arrival.drawn else incoming
  | none => arrival.drawn

def bearer : List Char := "Bearer ".toList

/-- `JwtAuthGuard`: the customer of the token. -/
def authenticate (verify : Verify) (arrival : Arrival) : Except String String :=
  match arrival.authorization with
  | some header =>
      if bearer.isPrefixOf header.toList then
        let token := String.ofList (header.toList.drop bearer.length)
        match (verify arrival.time token).bind JwtPayload.sub with
        | some sub => if sub = "" then .error "Invalid or expired token" else .ok sub
        | none => .error "Invalid or expired token"
      else .error "Missing Bearer token"
  | none => .error "Missing Bearer token"

inductive Method where
  | GET
  | POST
  deriving DecidableEq

/-- What `fetch` is called with. -/
structure Fetch where
  method : Method
  url : String
  headers : List (String × String)
  -- Sent as JSON.
  body : Option JsonObject

def optionalHeader (name : String) : Option String → List (String × String)
  | some value => if value = "" then [] else [(name, value)]
  | none => []

/-- `ProxyService.toOrderService` -/
def toOrderService (orderBaseUrl : String) (method : Method) (path : String)
    (body : Option JsonObject) (idempotencyKey requestId : Option String) : Fetch :=
  { method
    url := orderBaseUrl ++ path
    headers := [("Content-Type", "application/json")] ++
      optionalHeader "Idempotency-Key" idempotencyKey ++ optionalHeader "X-Request-Id" requestId
    body }

def Arrival.post (arrival : Arrival) (customerId : String) (body : JsonObject) : Post :=
  { customerId, body, idempotencyKey := arrival.idempotencyKey }

/-- `OrdersProxyController`: the request to the order service, or the message of a 400. -/
def Arrival.proxied (orderBaseUrl : String) (arrival : Arrival) (customerId : String) :
    Except String Fetch :=
  match arrival.route with
  | .create body =>
      if arrival.idempotencyKey.getD "" = "" then .error "Idempotency-Key header is required."
      else
        .ok (toOrderService orderBaseUrl .POST "/orders"
          (some (arrival.post customerId body).forwardedBody) arrival.idempotencyKey
          (some arrival.requestId))
  | .findOne id =>
      .ok (toOrderService orderBaseUrl .GET ("/orders/" ++ id) none none (some arrival.requestId))

inductive Outcome where
  | refused (exception : HttpException)
  -- What the order service answers is relayed.
  | forwarded (request : Fetch)

/-- The headers that are set before the order service answers, and how it goes on. -/
structure Handled where
  xRequestId : String
  rateLimit : Option RateLimitHeaders
  outcome : Outcome

structure Settings where
  rateLimit : RateLimit
  orderBaseUrl : String

def Arrival.attempt (arrival : Arrival) (customerId : String) : Attempt :=
  { request :=
      { gateway := arrival.gateway
        time := arrival.time
        caller := { customerId := some customerId, ip := arrival.ip } }
    connection := arrival.connection }

def Activation.headers : Activation → Option RateLimitHeaders
  | .activated headers => headers
  | .rejected headers _ => some headers

/-- Behind the authentication. -/
def Arrival.conclude (settings : Settings) (arrival : Arrival) (customerId : String)
    (activation : Activation) : Handled :=
  { xRequestId := arrival.requestId
    rateLimit := activation.headers
    outcome :=
      match activation with
      | .rejected _ exception => .refused exception
      | .activated _ =>
          match arrival.proxied settings.orderBaseUrl customerId with
          | .ok request => .forwarded request
          | .error message => .refused { statusCode := 400, message } }

def handle (settings : Settings) (expiry : Expiry) (verify : Verify) (keys : Keys)
    (arrival : Arrival) : Keys × Handled :=
  match authenticate verify arrival with
  | .error message =>
      (keys,
        { xRequestId := arrival.requestId
          rateLimit := none
          outcome := .refused { statusCode := 401, message } })
  | .ok customerId =>
      let attempt := arrival.attempt customerId
      let (after, activation) := canActivate settings.rateLimit expiry attempt.connection keys
        attempt.time attempt.request.caller
      (after, arrival.conclude settings customerId activation)

/-- The Redis of the gateways and what they have handled. -/
structure Edge where
  keys : Keys
  handled : List (Arrival × Handled)

def Edge.initial : Edge := { keys := fun _ => none, handled := [] }

def Edge.step (settings : Settings) (expiry : Expiry) (verify : Verify) (edge : Edge)
    (arrival : Arrival) : Edge :=
  let (keys, handled) := handle settings expiry verify edge.keys arrival
  { keys, handled := edge.handled ++ [(arrival, handled)] }

def Edge.run (settings : Settings) (expiry : Expiry) (verify : Verify) (edge : Edge)
    (arrivals : List Arrival) : Edge :=
  arrivals.foldl (Edge.step settings expiry verify) edge

end Ecommerce.ApiGateway
