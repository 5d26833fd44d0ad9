import Ecommerce.OrderService.Idempotency
import Ecommerce.Transaction.Leaves
import Ecommerce.Transaction.ReadCommitted

set_option autoImplicit false

/-!
# Calls of `IdempotencyService.execute`

A call asks Redis, then Postgres, and only then runs its transaction. Any number of calls are
under way, each of them at one of its awaits.
-/

namespace Ecommerce.OrderService

open Transaction

def isIdempotencyKey : Key → Prop
  | .idempotencyKey _ => True
  | _ => False

theorem leaves_create {key : Key} {row : Row key} (other : ¬ isIdempotencyKey key) :
    (create key row : Tx (Row key)).Leaves isIdempotencyKey := by
  refine ⟨other, fun found => ?_⟩
  cases found <;> trivial

theorem leaves_randomUUID {keys : Key → Prop} : (randomUUID : Tx Uuid).Leaves keys :=
  fun _ => trivial

theorem leaves_createEvent {keys : Key → Prop} (now : Timestamp) (event : NewEvent) :
    (createEvent now event : Tx EventEnvelope).Leaves keys :=
  fun _ => trivial

theorem leaves_enqueue (now : Timestamp) (topic : Topic) (event : EventEnvelope) :
    (enqueue now topic event).Leaves isIdempotencyKey := by
  apply Prog.Leaves.bind leaves_randomUUID
  intro rowId
  apply Prog.Leaves.bind
  · exact leaves_create id
  · exact fun _ => trivial

theorem leaves_createOrderRow (order : Order) :
    (createOrderRow order).Leaves isIdempotencyKey := by
  unfold createOrderRow
  split
  · exact leaves_create id
  · trivial

/-- The work of `createOrder` writes no idempotency key. -/
theorem createOrderWork_leaves (now : Timestamp) (dto : CreateOrderDto) :
    (createOrderWork now dto).Leaves isIdempotencyKey := by
  apply Prog.Leaves.bind leaves_randomUUID
  intro orderId
  apply Prog.Leaves.bind leaves_randomUUID
  intro correlationId
  apply Prog.Leaves.bind (leaves_createOrderRow _)
  intro order
  apply Prog.Leaves.bind (leaves_createEvent _ _)
  intro event
  apply Prog.Leaves.bind (leaves_enqueue _ _ _)
  exact fun _ => trivial

structure Call where
  key : String
  requestHash : String
  now : Timestamp
  work : Tx (OrderResponse × Nat)
  -- Only `execute` itself writes idempotency keys.
  leaves : work.Leaves isIdempotencyKey

structure IdempotentResult where
  response : Option OrderResponse
  statusCode : Nat
  replayed : Bool
  deriving DecidableEq

inductive Answer where
  | returned (result : IdempotentResult)
  | unprocessable
  | conflict
  | failed (error : Option TxError)
  deriving DecidableEq

/-- What `setEx` stores as JSON under the Redis key. -/
structure Cached where
  hash : String
  response : OrderResponse
  statusCode : Nat
  deriving DecidableEq

def redisKey (key : String) : String := "idem:" ++ key

def assertSameBody (storedHash requestHash : String) (otherwise : Answer) : Answer :=
  if storedHash ≠ requestHash then .unprocessable else otherwise

def handleExisting (row : IdempotencyKey) (requestHash : String) : Answer :=
  assertSameBody row.requestHash requestHash <|
    if row.status = .completed then
      .returned
        { response := row.response
          statusCode := row.statusCode.getD 200
          replayed := true }
    else .conflict

def replayCached (cached : Cached) (requestHash : String) : Answer :=
  assertSameBody cached.hash requestHash <|
    .returned
      { response := some cached.response
        statusCode := cached.statusCode
        replayed := true }

/-- What a call awaits. -/
inductive Phase where
  | idle
  | fetching (call : Call)
  | looking (call : Call)
  | transacting (call : Call)
  | caching (call : Call) (response : OrderResponse) (statusCode : Nat)
  | recovering (call : Call) (error : TxError)
  | answered (call : Call) (answer : Answer)
  | crashed (call : Call)

abbrev CallSystem := System (TableKey Key) (TableRow Row) TxError (OrderResponse × Nat) Call

structure Service where
  -- The transaction of a call runs in the session of its number.
  system : CallSystem
  phases : Nat → Phase
  -- Every entry that was ever set in Redis; some of them are gone.
  redis : List (String × Cached)

inductive Event where
  | execute (number : Nat) (call : Call)
  -- The entry that Redis answers with, if it answers.
  | get (number : Nat) (hit : Option Nat)
  | find (number : Nat)
  | statement (number drawn : Nat)
  | abort (number : Nat)
  | settle (number : Nat)
  -- The connection is lost, and with it the answer to the COMMIT.
  | lose (number : Nat)
  | set (number : Nat)
  | recover (number : Nat)
  | crash (number : Nat)

/-- How the keys of the requests are read as values of the `uuid` column, which may be the same for
two texts. -/
abbrev ToUuid := String → Uuid

section Step

variable (config : Config) (uuid : ToUuid)

def Call.body (call : Call) : Prog (TableKey Key) (TableRow Row) TxError (OrderResponse × Nat) :=
  onRows (executeTx config (uuid call.key) call.requestHash call.now call.work)

def Service.row (service : Service) (call : Call) : Option IdempotencyKey :=
  service.system.rows (.row (.idempotencyKey (uuid call.key)))

def Service.put (service : Service) (number : Nat) (phase : Phase) : Service :=
  { service with phases := Function.update service.phases number phase }

def Service.answer (service : Service) (number : Nat) (call : Call) (answer : Answer) : Service :=
  service.put number (.answered call answer)

/-- A step of the database; a statement that waits for a row lock does not move. -/
def Service.database (service : Service) (label : Label Call) : Service :=
  match service.system.step (Call.body config uuid) label with
  | some system => { service with system }
  | none => service

/-- `findUnique` on the key of a call, and what the call does when there is no row. -/
def Service.handleRow (service : Service) (number : Nat) (call : Call) (otherwise : Service) :
    Service :=
  match service.row uuid call with
  | some row => service.answer number call (handleExisting row call.requestHash)
  | none => otherwise

/-- The Redis entry of a call, when Redis is there and has it. -/
def Service.cached (redisOn : Bool) (service : Service) (call : Call) (hit : Option Nat) :
    Option Cached :=
  if redisOn then
    match hit.bind (service.redis[·]?) with
    | some (key, cached) => if key = redisKey call.key then some cached else none
    | none => none
  else none

/-- How `$transaction` resolves or rejects, and what the call goes on to. -/
def settled (call : Call) :
    Slot (TableKey Key) (TableRow Row) TxError (OrderResponse × Nat) Call → Option Phase
  | .committed _ (response, statusCode) => some (.caching call response statusCode)
  | .failed _ (some (.known .P2002)) => some (.recovering call (.known .P2002))
  | .failed _ error => some (.answered call (.failed error))
  | .idle | .running _ _ _ => none

def lost (call : Call) :
    Slot (TableKey Key) (TableRow Row) TxError (OrderResponse × Nat) Call → Option Phase
  | .committed _ _ => some (.answered call (.failed none))
  | .idle | .running _ _ _ | .failed _ _ => none

def Service.goOn (service : Service) (number : Nat) (phase : Option Phase) : Service :=
  match phase with
  | some phase => service.put number phase
  | none => service

def Service.set (service : Service) (number : Nat) (call : Call) (response : OrderResponse)
    (statusCode : Nat) : Service :=
  let cached : Cached := { hash := call.requestHash, response, statusCode }
  { service with redis := service.redis ++ [(redisKey call.key, cached)] }.answer number call <|
    .returned { response := some response, statusCode, replayed := false }

/-- An event that a call is not waiting for changes nothing. -/
def Service.step (redisOn : Bool) (service : Service) : Event → Service
  | .execute number call =>
      match service.phases number with
      | .idle => service.put number (.fetching call)
      | _ => service
  | .get number hit =>
      match service.phases number with
      | .fetching call =>
          match service.cached redisOn call hit with
          | some cached => service.answer number call (replayCached cached call.requestHash)
          | none => service.put number (.looking call)
      | _ => service
  | .find number =>
      match service.phases number with
      | .looking call =>
          service.handleRow uuid number call <|
            (service.database config uuid (.start number call)).put number (.transacting call)
      | _ => service
  | .statement number drawn => service.database config uuid (.advance number drawn)
  | .abort number => service.database config uuid (.rollback number)
  | .settle number =>
      match service.phases number with
      | .transacting call => service.goOn number (settled call (service.system.slots number))
      | _ => service
  | .lose number =>
      match service.phases number with
      | .transacting call => service.goOn number (lost call (service.system.slots number))
      | _ => service
  | .set number =>
      match service.phases number with
      | .caching call response statusCode => service.set number call response statusCode
      | _ => service
  | .recover number =>
      match service.phases number with
      | .recovering call error =>
          service.handleRow uuid number call (service.answer number call (.failed (some error)))
      | _ => service
  | .crash number =>
      match service.phases number with
      -- A call that dies before its transaction takes no further step.
      | .transacting call | .caching call _ _ | .recovering call _ =>
          service.put number (.crashed call)
      | _ => service

def Service.run (redisOn : Bool) (service : Service) (events : List Event) : Service :=
  events.foldl (Service.step config uuid redisOn) service

/-- What a step can do to a service. -/
inductive Service.Moves (redisOn : Bool) (service : Service) : Event → Service → Prop
  | stays {event : Event} : Moves redisOn service event service
  | statement (number drawn : Nat) : Moves redisOn service (.statement number drawn)
      (service.database config uuid (.advance number drawn))
  | abort (number : Nat) : Moves redisOn service (.abort number)
      (service.database config uuid (.rollback number))
  | execute (number : Nat) (call : Call) (idle : service.phases number = .idle) :
      Moves redisOn service (.execute number call) (service.put number (.fetching call))
  | hit {event : Event} (number : Nat) (hit : Option Nat) (call : Call) (cached : Cached)
      (fetching : service.phases number = .fetching call)
      (found : service.cached redisOn call hit = some cached) :
      Moves redisOn service event
        (service.answer number call (replayCached cached call.requestHash))
  | miss {event : Event} (number : Nat) (call : Call)
      (fetching : service.phases number = .fetching call) :
      Moves redisOn service event (service.put number (.looking call))
  | replay {event : Event} (number : Nat) (call : Call) (row : IdempotencyKey)
      (awaits : service.phases number = .looking call ∨
        ∃ error, service.phases number = .recovering call error)
      (found : service.row uuid call = some row) :
      Moves redisOn service event
        (service.answer number call (handleExisting row call.requestHash))
  | start {event : Event} (number : Nat) (call : Call)
      (looking : service.phases number = .looking call) (missing : service.row uuid call = none) :
      Moves redisOn service event
        ((service.database config uuid (.start number call)).put number (.transacting call))
  | goOn {event : Event} (number : Nat) (call : Call) (phase : Phase)
      (transacting : service.phases number = .transacting call)
      (going : settled call (service.system.slots number) = some phase ∨
        lost call (service.system.slots number) = some phase) :
      Moves redisOn service event (service.put number phase)
  | set {event : Event} (number : Nat) (call : Call) (response : OrderResponse) (statusCode : Nat)
      (caching : service.phases number = .caching call response statusCode) :
      Moves redisOn service event (service.set number call response statusCode)
  | fail {event : Event} (number : Nat) (call : Call) (error : TxError)
      (recovering : service.phases number = .recovering call error) :
      Moves redisOn service event (service.answer number call (.failed (some error)))
  | crash {event : Event} (number : Nat) (call : Call)
      (awaits : service.phases number = .transacting call ∨
        (∃ response statusCode, service.phases number = .caching call response statusCode) ∨
          ∃ error, service.phases number = .recovering call error) :
      Moves redisOn service event (service.put number (.crashed call))

theorem Service.step_moves (redisOn : Bool) (service : Service) (event : Event) :
    service.Moves config uuid redisOn event (service.step config uuid redisOn event) := by
  cases event with
  | statement number drawn => exact .statement number drawn
  | abort number => exact .abort number
  | execute number call =>
      simp only [Service.step]
      split
      · next idle => exact .execute number call idle
      · exact .stays
  | get number hit =>
      simp only [Service.step]
      split
      · next call fetching =>
          split
          · next cached found => exact .hit number hit call cached fetching found
          · exact .miss number call fetching
      · exact .stays
  | find number =>
      simp only [Service.step]
      split
      · next call looking =>
          unfold Service.handleRow
          split
          · next row found => exact .replay number call row (.inl looking) found
          · next missing => exact .start number call looking missing
      · exact .stays
  | settle number =>
      simp only [Service.step]
      split
      · next call transacting =>
          unfold Service.goOn
          split
          · next phase going => exact .goOn number call phase transacting (.inl going)
          · exact .stays
      · exact .stays
  | lose number =>
      simp only [Service.step]
      split
      · next call transacting =>
          unfold Service.goOn
          split
          · next phase going => exact .goOn number call phase transacting (.inr going)
          · exact .stays
      · exact .stays
  | set number =>
      simp only [Service.step]
      split
      · next call response statusCode caching => exact .set number call response statusCode caching
      · exact .stays
  | recover number =>
      simp only [Service.step]
      split
      · next call error recovering =>
          unfold Service.handleRow
          split
          · next row found => exact .replay number call row (.inr ⟨error, recovering⟩) found
          · exact .fail number call error recovering
      · exact .stays
  | crash number =>
      simp only [Service.step]
      split
      · next call transacting => exact .crash number call (.inl transacting)
      · next call response statusCode caching =>
          exact .crash number call (.inr (.inl ⟨response, statusCode, caching⟩))
      · next call error recovering => exact .crash number call (.inr (.inr ⟨error, recovering⟩))
      · exact .stays

end Step

def Service.initial (rows : OrderDb) : Service :=
  { system := .initial rows, phases := fun _ => .idle, redis := [] }

end Ecommerce.OrderService
