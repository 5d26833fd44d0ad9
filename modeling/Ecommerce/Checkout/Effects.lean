import Ecommerce.InventoryService.ReleaseEffect
import Ecommerce.NotificationService.SendEffect
import Ecommerce.OrderService.CreateEffect
import Ecommerce.PaymentService.ChargeEffect
import Mathlib.Data.Set.Insert

set_option autoImplicit false

/-!
# The effects of transactions that run one at a time
-/

namespace Ecommerce

open Transaction

/-- What a transaction draws between two values of the supply. -/
def between (supply next value : Uuid) : Prop := supply ≤ value ∧ value < next

variable {supply next : Uuid} {fault : Fault TxError}

section Shared

variable {K : Type} [DecidableEq K] {V : K → Type}

def Database.marked (database : Database K V) (consumer : String) : Set Uuid :=
  { eventId | (database (.processed eventId consumer)).isSome = true }

theorem marked_set_marker (database : Database K V) (consumer : String) (eventId : Uuid) :
    Database.marked (Store.set database (.processed eventId consumer) ()) consumer =
      insert eventId (Database.marked database consumer) := by
  ext other
  by_cases same : other = eventId
  · subst same
    simp [Database.marked]
  · simp [Database.marked, Store.set_other, same]

theorem marked_set_row (database : Database K V) (consumer : String) (key : K) (row : V key) :
    Database.marked (Store.set database (.row key) row) consumer = Database.marked database consumer := by
  ext other
  simp [Database.marked, Store.set_other]

theorem update_transaction (key : K) {row : V key} (data : V key → V key)
    {database : Database K V} (found : database (.row key) = some row) (supply : Nat) :
    (onRows (do let _ ← update key data)).transaction none database supply =
      .ok ((), Store.set database (.row key) (data row), supply) := by
  rw [onRows_bind, onRows_update]
  unfold update
  simp only [Prog.bind_write, Prog.transaction, Prog.exec, Writes.none_over, found]
  rw [← Writes.none_over database, ← Writes.put_over]
  rfl

end Shared

namespace OrderService

variable {database after : OrderDb}

def alone (drawn : Uuid → Prop) : Knowledge :=
  -- Nobody else is there, so an order is as it was found.
  { settled := fun database orderId => ∀ order : Order,
      database (orderKey orderId) = some order → order.status ≠ .pending
    pending := fun database orderId => ∀ order : Order,
      database (orderKey orderId) = some order → order.status = .pending
    drawn }

theorem alone_lasting (drawn : Uuid → Prop) : (alone drawn).Lasting (fun _ => True) Eq where
  settled _ _ settled := settled
  pending database orderId order found pending := by
    intro other present
    cases found.symm.trans present
    exact pending
  stays writes before after orderId interference := by
    cases interference.allowed
    exact ⟨id, id⟩

theorem Delivery.transaction_effect (delivery : Delivery)
    (ran : delivery.body.transaction fault database supply = .ok ((), after, next)) :
    ∃ writes, OutcomeEffect (alone (between supply next)) delivery database writes ∧
      after = writes.over database :=
  have promise : wp _ Eq _ _ _ .none database := delivery.wp_body (alone_lasting (between supply next))
  let ⟨writes, effect, same⟩ := Prog.transaction_commits promise ran fun _ above below =>
    ⟨above, below⟩
  ⟨writes, effect, same⟩

theorem Request.transaction_effect (config : Config) (request : Request)
    (ran : (request.body config).transaction fault database supply = .ok ((), after, next)) :
    ∃ writes, CreateEffect config (between supply next) request database writes ∧
      after = writes.over database :=
  have promise : wp (fun _ => True) Eq (between supply next) _ _ .none database :=
    request.wp_body config database
  let ⟨writes, effect, same⟩ := Prog.transaction_commits promise ran fun _ above below =>
    ⟨above, below⟩
  ⟨writes, effect, same⟩

end OrderService

namespace PaymentService

variable {database after : PaymentDb}

theorem Charging.transaction_effect (config : Config) (job : Charging)
    (ran : (job.body config).transaction fault database supply = .ok ((), after, next)) :
    ∃ writes, ChargeEffect config (between supply next) job database writes ∧
      after = writes.over database :=
  have promise : wp (fun _ => True) Eq (between supply next) _ _ .none database :=
    job.wp_body config database
  let ⟨writes, effect, same⟩ := Prog.transaction_commits promise ran fun _ above below =>
    ⟨above, below⟩
  ⟨writes, effect, same⟩

end PaymentService

namespace InventoryService

variable {database after : InventoryDb}

/-- The check of an order's lines against the products as they are. -/
def shortfalls (config : Config) (database : InventoryDb) (items : List OrderLineItem) :
    List Shortfall :=
  items.filterMap fun item =>
    shortfall item ((database (productKey item.productId)).getD config.newProduct)

def alone (config : Config) (drawn : Uuid → Prop) : Knowledge :=
  -- Nobody else is there, so the check is right about the products.
  { checked := fun database items found => found = shortfalls config database items
    drawn }

theorem alone_lasting (config : Config) (drawn : Uuid → Prop) :
    (alone config drawn).Lasting config (fun _ => True) Eq where
  start _ := rfl
  checks database done found item checked := by
    simp only [alone, shortfalls] at checked ⊢
    rw [checked, List.filterMap_append]
    cases short : shortfall item ((database (productKey item.productId)).getD config.newProduct) <;>
      simp [short]
  stays writes before after items found interference checked := by
    cases interference.allowed
    exact checked
  kept before after same := by
    cases same
    exact fun _ present => present

theorem Reserving.transaction_effect (config : Config) (job : Reserving)
    (ran : (job.body config).transaction fault database supply = .ok ((), after, next)) :
    ∃ writes, ReserveEffect config (alone config (between supply next)) job database writes ∧
      after = writes.over database :=
  have promise : wp _ Eq _ _ _ .none database :=
    Reserving.wp_body (alone_lasting config (between supply next)) database
  let ⟨writes, effect, same⟩ := Prog.transaction_commits promise ran fun _ above below =>
    ⟨above, below⟩
  ⟨writes, effect, same⟩

def found : Finding :=
  -- Nobody else is there, so a reservation is as it was found.
  { inactive := fun database orderId => ∀ reservation : Reservation,
      database (reservationKey orderId) = some reservation → reservation.status ≠ .reserved
    active := fun database orderId reservation =>
      database (reservationKey orderId) = some reservation ∧ reservation.status = .reserved }

theorem found_lasting : found.Lasting (fun _ => True) Eq where
  inactive _ _ inactive := inactive
  active _ _ _ present reserved := ⟨present, reserved⟩
  stays writes before after orderId interference := by
    cases interference.allowed
    exact ⟨id, fun _ => id⟩

theorem release_transaction_effect (event : EventEnvelope)
    (ran : (onOrderCancelled event).transaction fault database supply = .ok ((), after, next)) :
    ∃ writes, ReleaseEffect found event database writes ∧ after = writes.over database :=
  have promise : wp _ Eq (fun _ => True) _ _ .none database :=
    wp_onOrderCancelled found_lasting database
  let ⟨writes, effect, same⟩ := Prog.transaction_commits promise ran fun _ _ _ => trivial
  ⟨writes, effect, same⟩

end InventoryService

namespace NotificationService

variable {database after : NotificationDb}

theorem send_transaction_effect {config : Config} {topic : Topic} {now : Timestamp}
    {event : EventEnvelope}
    {handler : Timestamp → EventEnvelope → Prog (TableKey Key) (TableRow Row) TxError Unit}
    (route : routes config topic = some handler)
    (ran : (handler now event).transaction fault database supply = .ok ((), after, next)) :
    ∃ writes, SendEffect config event database writes ∧ after = writes.over database :=
  have promise : wp (fun _ => True) Eq (fun _ => True) _ _ .none database := wp_handler route database
  let ⟨writes, effect, same⟩ := Prog.transaction_commits promise ran fun _ _ _ => trivial
  ⟨writes, effect, same⟩

end NotificationService

end Ecommerce
