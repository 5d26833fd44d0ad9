import Ecommerce.Shared.Prisma
import Ecommerce.Transaction.Catching

set_option autoImplicit false

namespace Ecommerce

open Transaction

variable {K : Type} {V : K → Type}

/-- The transaction of `processOnce`: the marker first, then the work. -/
def processOnceTx (consumer : String) (event : EventEnvelope)
    (work : Prog (TableKey K) (TableRow V) TxError Unit) :
    Prog (TableKey K) (TableRow V) TxError Unit := do
  let _ ← create (V := TableRow V) (.processed event.eventId consumer) ()
  work

def processOnce [DecidableEq K] (consumer : String) (event : EventEnvelope)
    (work : Prog (TableKey K) (TableRow V) TxError Unit) (fault : Fault TxError)
    (database : Database K V) (supply : Nat) : Except TxError Unit × Database K V :=
  match (processOnceTx consumer event work).transaction fault database supply with
  | .ok (_, after, _) => (.ok (), after)
  -- Any P2002 counts as a duplicate marker, wherever it comes from.
  | .error (.known .P2002) => (.ok (), database)
  | .error error => (.error error, database)

/-- What aborts a transaction: every error of the database, but not a row that Prisma misses. -/
def txFailures : Failures TxError where
  aborts
    | .known .P2025 => false
    | _ => true
  refused :=
    .other "current transaction is aborted, commands ignored until end of transaction block"

-- The handlers of the services catch nothing; `processOnce` itself takes any work.
namespace AnyWork

variable (consumer : String) (event : EventEnvelope)
variable (work : Work (TableKey K) (TableRow V) TxError Unit)

def processOnceTx : Work (TableKey K) (TableRow V) TxError Unit :=
  .write (.processed event.eventId consumer)
    (fun
      | none => .ok (some ())
      | some _ => .error (.known .P2002))
    (Work.orThrow fun _ => work)

/-- The catch clause. -/
def caught {R : Type} : Except TxError Unit × R → Except TxError Unit × R
  | (.error (.known .P2002), rows) => (.ok (), rows)
  | ended => ended

def processOnce [DecidableEq K] (around : Surroundings (TableKey K) (TableRow V) TxError) :
    Except TxError Unit × Database K V :=
  caught ((processOnceTx consumer event work).transaction txFailures around)

theorem caught_error {R : Type} {error : TxError} (different : error ≠ .known .P2002) (rows : R) :
    caught (.error error, rows) = (.error error, rows) := by
  unfold caught
  split
  · next same => exact absurd (Except.error.inj (Prod.mk.inj same).1) different
  · rfl

end AnyWork

theorem processOnceTx_ofProg (consumer : String) (event : EventEnvelope)
    (work : Prog (TableKey K) (TableRow V) TxError Unit) (supply : Nat) :
    AnyWork.processOnceTx consumer event (.ofProg work supply) =
      .ofProg (processOnceTx consumer event work) supply := by
  unfold AnyWork.processOnceTx processOnceTx create
  simp only [Prog.bind_write, Prog.bind_pure, Work.ofProg]
  congr 1
  funext row
  cases row <;> rfl

theorem processOnce_ofProg [DecidableEq K] (consumer : String) (event : EventEnvelope)
    (work : Prog (TableKey K) (TableRow V) TxError Unit) (fault : Fault TxError)
    (database : Database K V) (supply : Nat) :
    AnyWork.processOnce consumer event (.ofProg work supply) (.still database fault) =
      processOnce consumer event work fault database supply := by
  unfold AnyWork.processOnce processOnce AnyWork.caught
  rw [processOnceTx_ofProg, transaction_ofProg]
  cases (processOnceTx consumer event work).transaction fault database supply with
  | ok => rfl
  | error error =>
      dsimp only
      split <;> simp_all

end Ecommerce
