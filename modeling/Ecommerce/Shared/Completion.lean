import Ecommerce.Shared.Statements
import Ecommerce.Transaction.Total

set_option autoImplicit false

/-!
# What comes of the statements of the Prisma client
-/

namespace Ecommerce

open Transaction

variable {K : Type} [DecidableEq K] {V : K → Type} {A E : Type}
variable {writes : Writes K V} {rows : Store K V} {supply : Nat}

section Results

@[simp] theorem results_pure {post : A → Writes K V → Nat → Prop} {fails : E → Prop} (value : A) :
    results (Pure.pure value : Prog K V E A) post fails writes rows supply ↔
      post value writes supply :=
  Iff.rfl

@[simp] theorem results_randomUUID {post : Uuid → Writes K V → Nat → Prop} {fails : E → Prop} :
    results (randomUUID : Prog K V E Uuid) post fails writes rows supply ↔
      post supply writes (supply + 1) :=
  Iff.rfl

@[simp] theorem results_createEvent {post : EventEnvelope → Writes K V → Nat → Prop}
    {fails : E → Prop} (now : Timestamp) (input : NewEvent) :
    results (createEvent now input : Prog K V E EventEnvelope) post fails writes rows supply ↔
      post (input.envelope now supply) writes (supply + 1) :=
  Iff.rfl

variable {key : K} {fails : TxError → Prop}

theorem results_findUnique {post : Option (V key) → Writes K V → Nat → Prop} :
    results (findUnique key) post fails writes rows supply ↔
      post (writes.over rows key) writes supply :=
  Iff.rfl

theorem results_findUniqueOrThrow {post : V key → Writes K V → Nat → Prop} {row : V key}
    (found : writes.over rows key = some row) :
    results (findUniqueOrThrow key) post fails writes rows supply ↔ post row writes supply := by
  rw [findUniqueOrThrow, results_bind, results_findUnique, found]
  exact Iff.rfl

theorem results_create {row : V key} {post : V key → Writes K V → Nat → Prop}
    (free : writes.over rows key = none) :
    results (create key row) post fails writes rows supply ↔
      post row (writes.put key (some row)) supply := by
  simp [create, results, free]

theorem results_updateWithin {fits : V key → Bool} {data : V key → V key}
    {post : V key → Writes K V → Nat → Prop} {row : V key}
    (found : writes.over rows key = some row) :
    results (updateWithin key fits data) post fails writes rows supply ↔
      (fits (data row) = true → post (data row) (writes.put key (some (data row))) supply) ∧
        (fits (data row) = false → fails outOfRange) := by
  cases held : fits (data row) <;> simp [updateWithin, results, found, held]

theorem results_upsertWithin {fits : V key → Bool} {row : V key}
    {post : V key → Writes K V → Nat → Prop} :
    results (upsertWithin key fits row) post fails writes rows supply ↔
      (∀ found, writes.over rows key = some found → post found writes supply) ∧
        (writes.over rows key = none →
          (fits row = true → post row (writes.put key (some row)) supply) ∧
            (fits row = false → fails outOfRange)) := by
  rw [upsertWithin, results_bind, results_findUnique]
  cases found : writes.over rows key with
  | some => simp
  | none => cases held : fits row <;> simp [results_create found, results]

theorem results_enqueueAs
    {insert : Uuid → OutboxEvent → Prog K V TxError OutboxEvent} {aggregateType : String}
    {now : Timestamp} {topic : Topic} {event : EventEnvelope}
    {post : Unit → Writes (TableKey K) (TableRow V) → Nat → Prop}
    {writes : Writes (TableKey K) (TableRow V)} {rows : Database K V} :
    results (onRows (enqueueAs insert aggregateType now topic event)) post fails writes rows supply ↔
      results (onRows (insert supply (outboxRow aggregateType now topic event)))
        (fun _ => post ()) fails writes rows (supply + 1) := by
  simp only [enqueueAs, onRows_bind, onRows_randomUUID, results_bind, results_randomUUID]
  exact Iff.rfl

end Results

section Ends

variable {key : K}

theorem ends_create {row : V key} {post : V key → Writes K V → Nat → Prop} :
    results (create key row) post (fun _ => False) writes rows supply ↔
      writes.over rows key = none ∧ post row (writes.put key (some row)) supply := by
  cases found : writes.over rows key <;> simp [create, results, found]

theorem ends_update {data : V key → V key} {post : V key → Writes K V → Nat → Prop} :
    results (update key data) post (fun _ => False) writes rows supply ↔
      ∃ row, writes.over rows key = some row ∧
        post (data row) (writes.put key (some (data row))) supply := by
  cases found : writes.over rows key <;> simp [update, results, found]

end Ends

end Ecommerce
