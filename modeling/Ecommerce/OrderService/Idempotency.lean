import Ecommerce.OrderService.Orders

set_option autoImplicit false

namespace Ecommerce.OrderService

open Transaction

structure Config where
  -- SHA-256 of the body's JSON text.
  hashBody : CreateOrderDto → String
  idempotencyTtlSeconds : Nat

/-- The transaction of `IdempotencyService.execute` for a new key: claim, work, completion. -/
def executeTx (config : Config) (key : Uuid) (requestHash : String) (now : Timestamp)
    (work : Tx (OrderResponse × Nat)) : Tx (OrderResponse × Nat) := do
  -- A concurrent request that has claimed the key makes this insert fail with P2002.
  let _ ← create (V := Row) (.idempotencyKey key)
    { requestHash
      status := .inProgress
      response := none
      statusCode := none
      expiresAt := none }
  let (response, statusCode) ← work
  let _ ← update (V := Row) (.idempotencyKey key) fun (claimed : IdempotencyKey) =>
    { claimed with
      status := .completed
      response := some response
      statusCode := some statusCode
      expiresAt := some (now + config.idempotencyTtlSeconds * 1000) }
  return (response, statusCode)

/-- The transaction of `createOrder` for a key that is not completed yet. -/
def createOrderTx (config : Config) (key : Uuid) (now : Timestamp) (dto : CreateOrderDto) :
    Tx (OrderResponse × Nat) :=
  executeTx config key (config.hashBody dto) now (createOrderWork now dto)

def markPublished (rowId : Uuid) (now : Timestamp) : Tx Unit :=
  markPublishedAs (fun id data => update (V := Row) (.outboxEvent id) data) rowId now

end Ecommerce.OrderService
