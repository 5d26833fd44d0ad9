import Ecommerce.InventoryService.Schema

set_option autoImplicit false

namespace Ecommerce.InventoryService

open Transaction

def producer : String := "inventory-service"

def enqueue (now : Timestamp) (topic : Topic) (event : EventEnvelope) : Tx Unit :=
  enqueueAs (fun id row => create (V := Row) (.outboxEvent id) row) "Inventory" now topic event

def markPublished (rowId : Uuid) (now : Timestamp) : Tx Unit :=
  markPublishedAs (fun id data => update (V := Row) (.outboxEvent id) data) rowId now

def Config.newProduct (config : Config) : Product :=
  { availableQty := config.defaultStock, reservedQty := 0 }

def Product.take (product : Product) (quantity : Nat) : Product :=
  { availableQty := product.availableQty - quantity
    reservedQty := product.reservedQty + quantity }

def Product.restore (product : Product) (quantity : Nat) : Product :=
  { availableQty := product.availableQty + quantity
    reservedQty := product.reservedQty - quantity }

/-- The columns of both counters are INTEGER. -/
def Product.fitsColumns (product : Product) : Bool :=
  inInteger product.availableQty && inInteger product.reservedQty

def shortfall (item : OrderLineItem) (product : Product) : Option Shortfall :=
  if product.availableQty < item.quantity then
    some
      { productId := item.productId
        requested := item.quantity
        available := product.availableQty }
  else none

def reservedItem (item : OrderLineItem) : ReservedItem :=
  { productId := item.productId, quantity := item.quantity }

def reserve (config : Config) (now : Timestamp) (order : OrderCreatedPayload)
    (correlationId : Uuid) : Tx Unit := do
  Prog.forEach order.items fun item => do
    let _ ← upsertWithin (V := Row) (.product item.productId) Product.fitsColumns config.newProduct
  -- Check availability for all items before mutating anything.
  let shortfalls ← Prog.collect order.items [] fun item => do
    let product : Product ← findUniqueOrThrow (V := Row) (.product item.productId)
    return shortfall item product
  if shortfalls ≠ [] then
    let event ← createEvent now
      { eventType := .inventoryRejected
        correlationId
        aggregateId := order.orderId
        producer
        payload := .inventoryRejected { orderId := order.orderId, shortfalls } }
    enqueue now .inventoryRejected event
  else
    Prog.forEach order.items fun item => do
      let _ ← updateWithin (V := Row) (.product item.productId) Product.fitsColumns
        fun (product : Product) => product.take item.quantity
    let reservedItems := order.items.map reservedItem
    let reservationId ← randomUUID
    let reservation : Reservation ← create (V := Row) (.reservation order.orderId)
      { id := reservationId, status := .reserved, items := reservedItems }
    let event ← createEvent now
      { eventType := .inventoryReserved
        correlationId
        aggregateId := order.orderId
        producer
        payload := .inventoryReserved
          { orderId := order.orderId
            reservationId := reservation.id
            items := reservedItems } }
    enqueue now .inventoryReserved event

def release (orderId : Uuid) : Tx Unit := do
  let found : Option Reservation ← findUnique (V := Row) (.reservation orderId)
  match found with
  | none => return
  | some reservation =>
    if reservation.status ≠ .reserved then return
    Prog.forEach reservation.items fun item => do
      let _ ← updateWithin (V := Row) (.product item.productId) Product.fitsColumns
        fun (product : Product) => product.restore item.quantity
    let _ ← update (V := Row) (.reservation orderId) fun (reservation : Reservation) =>
      { reservation with status := .released }

end Ecommerce.InventoryService
