import Ecommerce.Shared.Events

set_option autoImplicit false

/-!
# The Prisma client of a service

The statements a service issues inside `$transaction`, and the two tables every service's
schema repeats: `outbox_events` and `processed_events`.
-/

namespace Ecommerce

open Transaction

inductive PrismaCode where
  | P2002
  | P2025
  | other (code : String)
  deriving DecidableEq

inductive TxError where
  | known (code : PrismaCode)
  | other (message : String)
  deriving DecidableEq

abbrev outOfRange : TxError := .other "value out of range for INTEGER"

section Statements

variable {K : Type} {V : K → Type}

def findUnique (key : K) : Prog K V TxError (Option (V key)) :=
  .select fun rows => .pure (rows key)

def findUniqueOrThrow (key : K) : Prog K V TxError (V key) := do
  match ← findUnique key with
  | some row => return row
  | none => .throw (.known .P2025)

def create (key : K) (row : V key) : Prog K V TxError (V key) :=
  .write key
    (fun
      | none => .ok (some row)
      | some _ => .error (.known .P2002))
    fun _ => .pure row

def update (key : K) (data : V key → V key) : Prog K V TxError (V key) :=
  .write key
    (fun
      | some row => .ok (some (data row))
      | none => .error (.known .P2025))
    fun
      | some row => .pure row
      | none => .throw (.known .P2025)

/-- An update of a row whose columns do not hold every value. -/
def updateWithin (key : K) (fits : V key → Bool) (data : V key → V key) :
    Prog K V TxError (V key) :=
  .write key
    (fun
      | some row => if fits (data row) then .ok (some (data row)) else .error outOfRange
      | none => .error (.known .P2025))
    fun
      | some row => .pure row
      | none => .throw (.known .P2025)

def upsertWithin (key : K) (fits : V key → Bool) (row : V key) : Prog K V TxError (V key) := do
  -- With an empty `update` Prisma reads, and inserts a missing row.
  match ← findUnique key with
  | some found => return found
  | none => if fits row then create key row else .throw outOfRange

end Statements

def fitsInteger (value : Nat) : Bool :=
  -- The largest value of a PostgreSQL INTEGER column.
  value ≤ 2147483647

def inInteger (value : Int) : Bool := -2147483648 ≤ value && value ≤ 2147483647

structure OutboxEvent where
  aggregateType : String
  aggregateId : Uuid
  topic : Topic
  partitionKey : Uuid
  eventType : Topic
  payload : EventEnvelope
  createdAt : Timestamp
  publishedAt : Option Timestamp
  deriving DecidableEq

section Outbox

variable {K : Type} {V : K → Type}

def outboxRow (aggregateType : String) (now : Timestamp) (topic : Topic) (event : EventEnvelope) :
    OutboxEvent :=
  { aggregateType
    aggregateId := event.aggregateId
    topic
    partitionKey := event.aggregateId
    eventType := event.eventType
    payload := event
    createdAt := now
    publishedAt := none }

/-- `OutboxService.enqueue`, the same in three services but for the aggregate type. -/
def enqueueAs (insert : Uuid → OutboxEvent → Prog K V TxError OutboxEvent) (aggregateType : String)
    (now : Timestamp) (topic : Topic) (event : EventEnvelope) : Prog K V TxError Unit := do
  let id ← randomUUID
  let _ ← insert id (outboxRow aggregateType now topic event)

/-- The relay's update of a row that the broker has acknowledged, the same in three services. -/
def markPublishedAs (update : Uuid → (OutboxEvent → OutboxEvent) → Prog K V TxError OutboxEvent)
    (rowId : Uuid) (now : Timestamp) : Prog K V TxError Unit := do
  let _ ← update rowId fun row => { row with publishedAt := some now }

end Outbox

/-- A service's own tables together with its `processed_events`. -/
inductive TableKey (K : Type) where
  | processed (eventId : Uuid) (consumer : String)
  | row (key : K)
  deriving DecidableEq

abbrev TableRow {K : Type} (V : K → Type) : TableKey K → Type
  | .processed _ _ => Unit
  | .row key => V key

abbrev Database (K : Type) (V : K → Type) := Store (TableKey K) (TableRow V)

section OnRows

variable {K : Type} {V : K → Type} {E A : Type}

def Database.ownRows (database : Database K V) : Store K V :=
  fun key => database (.row key)

/-- A body over a service's own tables, run on its whole database. -/
def onRows : Prog K V E A → Prog (TableKey K) (TableRow V) E A
  | .pure value => .pure value
  | .throw error => .throw error
  | .fresh next => .fresh fun value => onRows (next value)
  | .select next => .select fun database => onRows (next (Database.ownRows database))
  | .write key change next => .write (.row key) change fun row => onRows (next row)

end OnRows

end Ecommerce
