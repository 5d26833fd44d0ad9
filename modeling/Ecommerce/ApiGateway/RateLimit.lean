import Ecommerce.Shared.Events

set_option autoImplicit false

/-!
# RateLimitGuard

All instances of the gateway count in one Redis, which runs a MULTI as one step.
-/

namespace Ecommerce.ApiGateway

structure RateLimit where
  max : Nat
  windowSeconds : Nat

/-- A counter, and when its key expires if it has a TTL. -/
structure Counter where
  value : Nat
  deadline : Option Timestamp
  deriving DecidableEq

/-- Keys that have expired are gone when they are asked for. -/
abbrev Keys := String → Option Counter

/-- Whether a key is still there in the very millisecond in which its TTL elapses is left open. -/
structure Expiry where
  expired : (deadline now : Timestamp) → Bool
  kept : ∀ deadline now, now < deadline → expired deadline now = false
  gone : ∀ deadline now, deadline < now → expired deadline now = true

def Keys.get (expiry : Expiry) (keys : Keys) (now : Timestamp) (key : String) : Option Counter :=
  match keys key with
  | some counter =>
      match counter.deadline with
      | some deadline => if expiry.expired deadline now then none else some counter
      | none => some counter
  | none => none

def incr : Option Counter → Counter
  | some counter => { counter with value := counter.value + 1 }
  | none => { value := 1, deadline := none }

/-- `EXPIRE` with `NX`; a TTL of 0 deletes the key. -/
def expireNX (now : Timestamp) (seconds : Nat) (counter : Counter) : Option Counter :=
  match counter.deadline with
  | some _ => some counter
  | none =>
      if seconds = 0 then none
      else some { counter with deadline := some (now + seconds * 1000) }

/-- `TTL`, to the nearest second. -/
def ttl (now : Timestamp) : Option Counter → Int
  | none => -2
  | some counter =>
      match counter.deadline with
      | none => -1
      | some deadline => ((deadline - now + 500) / 1000 : Nat)

structure WindowHit where
  count : Nat
  ttl : Int
  deriving DecidableEq

def incrementWindow (expiry : Expiry) (keys : Keys) (now : Timestamp) (key : String)
    (windowSeconds : Nat) : Keys × WindowHit :=
  let counter := incr (keys.get expiry now key)
  let expiring := expireNX now windowSeconds counter
  let left := ttl now expiring
  (Function.update keys key expiring,
    { count := counter.value, ttl := if left < 0 then windowSeconds else left })

structure Caller where
  -- The customer of the token, if the request has one.
  customerId : Option String
  ip : Option String

def Caller.identity (caller : Caller) : String :=
  caller.customerId.getD (caller.ip.getD "anonymous")

def counterKey (identity : String) : String := "rl:" ++ identity

/-- What a gateway has of Redis. A MULTI can have run although its answer never comes. -/
inductive Connection where
  | healthy
  | unhealthy
  | failing (executed : Bool)

structure RateLimitHeaders where
  limit : Nat
  remaining : Nat
  reset : Int
  retryAfter : Option Int
  deriving DecidableEq

structure HttpException where
  statusCode : Nat
  message : String
  deriving DecidableEq

inductive Activation where
  | activated (headers : Option RateLimitHeaders)
  | rejected (headers : RateLimitHeaders) (exception : HttpException)
  deriving DecidableEq

def RateLimit.check (config : RateLimit) (hit : WindowHit) : Activation :=
  let headers : RateLimitHeaders :=
    { limit := config.max, remaining := config.max - hit.count, reset := hit.ttl
      retryAfter := none }
  if config.max < hit.count then
    .rejected { headers with retryAfter := some hit.ttl }
      { statusCode := 429, message := "Rate limit exceeded" }
  else .activated (some headers)

def canActivate (config : RateLimit) (expiry : Expiry) (connection : Connection) (keys : Keys)
    (now : Timestamp) (caller : Caller) : Keys × Activation :=
  let (after, hit) :=
    incrementWindow expiry keys now (counterKey caller.identity) config.windowSeconds
  match connection with
  | .healthy => (after, config.check hit)
  -- The guard fails open.
  | .unhealthy => (keys, .activated none)
  | .failing executed => (if executed then after else keys, .activated none)

def Activation.admitted : Activation → Bool
  | .activated _ => true
  | .rejected _ _ => false

structure GuardedRequest where
  -- The instance of the gateway that the request comes through.
  gateway : Nat
  time : Timestamp
  caller : Caller

/-- A request that the guard has let through or turned away, with the counter that it found and
the one that it left. -/
structure Served where
  request : GuardedRequest
  found : Option Counter
  left : Option Counter
  activation : Activation

structure Traffic where
  keys : Keys
  clock : Timestamp
  served : List Served

def Traffic.initial : Traffic :=
  { keys := fun _ => none, clock := 0, served := [] }

/-- The next request, which comes no earlier than the one before. -/
def Traffic.step (config : RateLimit) (expiry : Expiry) (traffic : Traffic)
    (request : GuardedRequest) : Option Traffic :=
  if traffic.clock ≤ request.time then
    let key := counterKey request.caller.identity
    let (keys, activation) :=
      canActivate config expiry .healthy traffic.keys request.time request.caller
    some
      { keys
        clock := request.time
        served := traffic.served ++
          [{ request
             found := traffic.keys.get expiry request.time key
             left := keys key
             activation }] }
  else none

end Ecommerce.ApiGateway
