import Ecommerce.OrderService.Execute
import Mathlib.Data.List.Forall2

set_option autoImplicit false

/-!
# POST /orders at the order service

What the `ValidationPipe` lets through, and the call of `execute` it leads to.
-/

namespace Ecommerce.OrderService

open Transaction

/-- A parsed JSON value. -/
inductive JsonValue where
  | null
  | boolean (value : Bool)
  -- A finite double.
  | number (value : Rat)
  -- What JavaScript makes of a number beyond the doubles.
  | infinite (negative : Bool)
  | text (value : String)
  | array (items : List JsonValue)
  | object (members : List (String × JsonValue))

abbrev JsonObject := List (String × JsonValue)

abbrev Positive := { value : Nat // 0 < value }

structure ItemBody where
  productId : String
  quantity : Positive
  unitPriceCents : Positive
  deriving DecidableEq

inductive ItemElement where
  | item (body : ItemBody)
  -- `ValidateNested` lets null and lists through, of which no order can be made.
  | other
  deriving DecidableEq

/-- A validated `CreateOrderDto` with its texts as they were sent. An absent currency and a null
one are different bodies. -/
structure OrderBody where
  customerId : String
  items : List ItemElement
  currency : Option (Option String)
  -- What `JSON.stringify` makes of it.
  json : String
  itemsNotEmpty : items ≠ []
  deriving DecidableEq

/-- Behaviour that comes with the platform and its packages. -/
structure Platform where
  -- How PostgreSQL reads the text of a UUID.
  uuid : ToUuid
  -- The `ValidationPipe` on a `CreateOrderDto`.
  validate : JsonObject → Option OrderBody
  -- SHA-256 of a text.
  sha256 : String → String
  -- What is thrown for an element of `items` that is null or a list.
  malformed : String

section Validation

inductive ItemRead : JsonValue → ItemElement → Prop
  | item (members : JsonObject) (body : ItemBody)
      (productId : members.lookup "productId" = some (.text body.productId))
      (quantity : members.lookup "quantity" = some (.number body.quantity.val))
      (unitPriceCents : members.lookup "unitPriceCents" = some (.number body.unitPriceCents.val)) :
      ItemRead (.object members) (.item body)
  | null : ItemRead .null .other
  | array (items : List JsonValue) : ItemRead (.array items) .other

/-- What the decorators of `CreateOrderDto` promise of a body that is let through: its members have
the declared types, and are handed on as they were sent. -/
structure Accepted (body : JsonObject) (order : OrderBody) : Prop where
  customerId : body.lookup "customerId" = some (.text order.customerId)
  items : ∃ elements, body.lookup "items" = some (.array elements) ∧
    List.Forall₂ ItemRead elements order.items
  currency : body.lookup "currency" = order.currency.map fun
    | none => .null
    | some code => .text code

def Platform.Validates (platform : Platform) : Prop :=
  ∀ body order, platform.validate body = some order → Accepted body order

end Validation

section Work

theorem mapM_ne_nil {A B : Type} {f : A → Option B} {items : List A} {results : List B}
    (read : items.mapM f = some results) (nonEmpty : items ≠ []) : results ≠ [] := by
  rintro rfl
  cases items with
  | nil => exact nonEmpty rfl
  | cons => simp [List.mapM_cons, Option.bind_eq_some_iff] at read

variable (platform : Platform)

def ItemElement.dto : ItemElement → Option CreateOrderItemDto
  | .item body =>
      some
        { productId := platform.uuid body.productId
          quantity := body.quantity
          unitPriceCents := body.unitPriceCents
          quantityPositive := body.quantity.property
          unitPriceCentsPositive := body.unitPriceCents.property }
  | .other => none

/-- What `createOrder` reads of the body, if each element of `items` is an object. -/
def OrderBody.dto (order : OrderBody) : Option CreateOrderDto :=
  match read : order.items.mapM (ItemElement.dto platform) with
  | some items =>
      some
        { customerId := platform.uuid order.customerId
          items
          currency := order.currency.join
          itemsNotEmpty := mapM_ne_nil read order.itemsNotEmpty }
  | none => none

/-- The reduce over `items` fails on null, and on a list it makes a total that Prisma refuses. -/
def OrderBody.work (order : OrderBody) (now : Timestamp) : Tx (OrderResponse × Nat) :=
  match order.dto platform with
  | some dto => createOrderWork now dto
  | none => .throw (.other platform.malformed)

theorem OrderBody.work_leaves (order : OrderBody) (now : Timestamp) :
    (order.work platform now).Leaves isIdempotencyKey := by
  unfold OrderBody.work
  split
  · next dto _ => exact createOrderWork_leaves now dto
  · trivial

end Work

section Uuid

def isHex (character : Char) : Bool :=
  character.isDigit || ('a' ≤ character && character ≤ 'f') || ('A' ≤ character && character ≤ 'F')

def isVersion (character : Char) : Bool := '1' ≤ character && character ≤ '5'

def isVariant (character : Char) : Bool :=
  character ∈ ['8', '9', 'a', 'b', 'A', 'B']

/-- What `UUID_RE` accepts at each place. -/
def uuidPattern : List (Char → Bool) :=
  List.replicate 8 isHex ++ [(· == '-')] ++ List.replicate 4 isHex ++ [(· == '-')] ++
    [isVersion] ++ List.replicate 3 isHex ++ [(· == '-')] ++ [isVariant] ++
    List.replicate 3 isHex ++ [(· == '-')] ++ List.replicate 12 isHex

def matchesUuid (raw : String) : Bool :=
  raw.toList.length = uuidPattern.length &&
    (raw.toList.zip uuidPattern).all fun (character, accepts) => accepts character

/-- The `IdempotencyKey` decorator. -/
def idempotencyKeyHeader : Option String → Except String String
  | none => .error "Idempotency-Key header is required."
  | some raw =>
      if raw = "" then .error "Idempotency-Key header is required."
      else if matchesUuid raw then .ok raw
      else .error "Idempotency-Key must be a UUID."

end Uuid

def Platform.hashBody (platform : Platform) (order : OrderBody) : String :=
  platform.sha256 order.json

def createOrder (platform : Platform) (key : String) (order : OrderBody) (now : Timestamp) : Call :=
  { key
    requestHash := platform.hashBody order
    now
    work := order.work platform now
    leaves := order.work_leaves platform now }

end Ecommerce.OrderService
