import Ecommerce.InventoryService.StockEffect

set_option autoImplicit false

/-!
# What a release transaction does to the inventory database
-/

namespace Ecommerce.InventoryService

open Transaction

/-- The quantities of the lines go back to their products. -/
def restoreWrites (lines : List ReservedItem) (rows : InventoryDb) :
    Writes (TableKey Key) (TableRow Row)
  | .row (.product productId) =>
      if productId ∈ lines.map ReservedItem.productId then
        some ((rows (productKey productId)).map fun product =>
          Product.restore product (needed lines productId))
      else none
  | _ => none

/-- What is known at its commit of the reservation that a transaction has found. -/
structure Finding where
  inactive : InventoryDb → Uuid → Prop
  active : InventoryDb → Uuid → Reservation → Prop

structure Finding.Lasting (inv : InventoryDb → Prop) (rely : InventoryDb → InventoryDb → Prop)
    (finding : Finding) : Prop where
  inactive : ∀ database orderId, (∀ reservation : Reservation,
    database (reservationKey orderId) = some reservation → reservation.status ≠ .reserved) →
      finding.inactive database orderId
  active : ∀ (database : InventoryDb) orderId (reservation : Reservation),
    database (reservationKey orderId) = some reservation → reservation.status = .reserved →
      finding.active database orderId reservation
  stays : ∀ writes before after orderId, Interferes inv rely writes before after →
    (finding.inactive before orderId → finding.inactive after orderId) ∧
      ∀ reservation, finding.active before orderId reservation →
        finding.active after orderId reservation

def Reservation.release (reservation : Reservation) : Reservation :=
  { reservation with status := .released }

inductive ReleaseEffect (finding : Finding) (event : EventEnvelope) (rows : InventoryDb) :
    Writes (TableKey Key) (TableRow Row) → Prop
  | skipped (unmarked : rows (marker event.eventId) = none)
      (inactive : finding.inactive rows event.payload.orderId) :
      ReleaseEffect finding event rows (Writes.none.put (marker event.eventId) (some ()))
  | released (unmarked : rows (marker event.eventId) = none) (reservation : Reservation)
      (active : finding.active rows event.payload.orderId reservation) (current : Reservation)
      (found : rows (reservationKey event.payload.orderId) = some current) :
      ReleaseEffect finding event rows
        (((restoreWrites reservation.items rows).put (marker event.eventId) (some ())).put
          (reservationKey event.payload.orderId) (some current.release))

section Restore

variable {lines : List ReservedItem} {rows : InventoryDb}

theorem restoreWrites_seen (rows : InventoryDb) (lines : List ReservedItem) (productId : Uuid) :
    (restoreWrites lines rows).over rows (productKey productId) =
      (rows (productKey productId)).map fun product =>
        Product.restore product (needed lines productId) := by
  simp only [Writes.over, restoreWrites]
  split
  · rfl
  · next unnamed =>
      rw [needed_unnamed unnamed]
      cases rows (productKey productId) <;> simp [Product.restore]

theorem restore_restore (product : Product) (one two : Nat) :
    (product.restore one).restore two = product.restore (one + two) := by
  simp only [Product.restore, Product.mk.injEq]
  omega

theorem restoreWrites_restore (line : ReservedItem) {product : Product}
    (found : rows (productKey line.productId) = some product) :
    restoreWrites (lines ++ [line]) rows =
      (restoreWrites lines rows).put (productKey line.productId)
        (some ((product.restore (needed lines line.productId)).restore line.quantity)) := by
  funext key
  by_cases same : key = productKey line.productId
  · subst same
    simp [restoreWrites, Writes.put, found, needed_append, restore_restore]
  · rw [Writes.put, Function.update_of_ne same]
    rcases key with _ | ⟨productId⟩ | _ | _ <;> try rfl
    simp only [productKey, TableKey.row.injEq, Key.product.injEq] at same
    simp [restoreWrites, same, needed_append, Ne.symm same]

/-- A point of the loop: the quantities of these lines are back. -/
structure Restored (event : EventEnvelope) (lines : List ReservedItem)
    (writes : Writes (TableKey Key) (TableRow Row)) (rows : InventoryDb) : Prop where
  written : writes = (restoreWrites lines rows).put (marker event.eventId) (some ())
  unmarked : rows (marker event.eventId) = none

variable {inv : InventoryDb → Prop} {rely : InventoryDb → InventoryDb → Prop}
variable {event : EventEnvelope} {writes : Writes (TableKey Key) (TableRow Row)}

theorem Restored.interfered {before after : InventoryDb}
    (restored : Restored event lines writes before)
    (interference : Interferes inv rely writes before after) :
    Restored event lines writes after where
  written := by
    rw [restored.written]
    congr 1
    funext key
    rcases key with _ | ⟨productId⟩ | _ | _ <;> try rfl
    simp only [restoreWrites]
    split
    · next named =>
        rw [interference.frame _ (by simp [restored.written, Writes.put, restoreWrites, named])]
    · rfl
  unmarked := by
    rw [interference.frame _ (by simp [restored.written, Writes.put_written]), restored.unmarked]

theorem Restored.seen (restored : Restored event lines writes rows) (productId : Uuid) :
    writes.over rows (productKey productId) =
      (rows (productKey productId)).map fun product =>
        Product.restore product (needed lines productId) := by
  rw [← restoreWrites_seen, restored.written]
  simp [Writes.over, Writes.put]

end Restore

section Wp

variable {finding : Finding} {event : EventEnvelope} {draws : Uuid → Prop}
variable {inv : InventoryDb → Prop} {rely : InventoryDb → InventoryDb → Prop}

theorem wp_restoreStock (items : List ReservedItem)
    {writes : Writes (TableKey Key) (TableRow Row)} {rows : InventoryDb}
    (invariant : InventoryDb → Prop)
    (stays : ∀ writes before after, Interferes inv rely writes before after → invariant before →
      invariant after)
    (restored : Restored event [] writes rows) (holds : invariant rows) :
    wp inv rely draws
      (onRows (Prog.forEach items fun item => do
        let _ ← updateWithin (V := Row) (.product item.productId) Product.fitsColumns
          fun (product : Product) => product.restore item.quantity))
      (fun _ writes rows => Restored event items writes rows ∧ invariant rows) writes rows := by
  rw [onRows_forEach]
  refine wp_forEach _ _ (fun done writes rows => Restored event done writes rows ∧ invariant rows)
    ?_ _ _ ⟨restored, holds⟩
  rintro done item rest - writes rows ⟨restored, holds⟩
  rw [onRows_bind, onRows_updateWithin, wp_bind, wp_updateWithin]
  intro now one product seen _
  have restoredNow := restored.interfered one
  rw [restoredNow.seen, Option.map_eq_some_iff] at seen
  obtain ⟨stored, found, rfl⟩ := seen
  refine ⟨⟨?_, restoredNow.unmarked⟩, stays _ _ _ one holds⟩
  rw [restoreWrites_restore item found, restoredNow.written]
  exact Writes.put_comm _ (by simp) ..

theorem wp_onOrderCancelled (lasting : finding.Lasting inv rely) (rows : InventoryDb) :
    wp inv rely draws (onOrderCancelled event)
      (Commits inv rely (fun event _ => ReleaseEffect finding event) event) .none rows := by
  simp only [onOrderCancelled, processOnceTx, release, onRows_bind, wp_bind, wp_create,
    onRows_findUnique, wp_findUnique]
  intro marking one unmarked reading two
  have unmarkedThen : reading (marker event.eventId) = none := by
    rw [two.frame _ (by simp [Writes.put_written])]
    exact unmarked
  have skipped (inactive : finding.inactive reading event.payload.orderId) :
      Commits inv rely (fun event _ => ReleaseEffect finding event) event ()
        (Writes.none.put (marker event.eventId) (some ())) reading := by
    intro last three
    have unmarkedNow : last (marker event.eventId) = none := by
      rw [three.frame _ (by simp [Writes.put_written]), unmarkedThen]
    exact .skipped unmarkedNow ((lasting.stays _ _ _ _ three).1 inactive)
  have same : (Writes.none.put (marker event.eventId) (some ())).over reading
      (reservationKey event.payload.orderId) = reading (reservationKey event.payload.orderId) := by
    simp [Writes.over, Writes.put, Writes.none]
  rw [same]
  cases found : reading (reservationKey event.payload.orderId) with
  | none =>
      apply skipped (lasting.inactive _ _ _)
      intro reservation present
      cases found.symm.trans present
  | some reservation =>
      simp only [onRows_ite, onRows_pure, onRows_bind, onRows_update]
      split
      · next released =>
          apply skipped (lasting.inactive _ _ _)
          intro other present
          cases found.symm.trans present
          exact released
      · next reserved =>
          have active := lasting.active _ _ reservation found (not_not.mp reserved)
          have start : Restored event [] (Writes.none.put (marker event.eventId) (some ())) reading := by
            refine ⟨?_, unmarkedThen⟩
            congr 1
            funext key
            rcases key with _ | _ | _ | _ <;> rfl
          have stays : ∀ writes before after, Interferes inv rely writes before after →
              finding.active before event.payload.orderId reservation →
                finding.active after event.payload.orderId reservation :=
            fun _ _ _ interference => (lasting.stays _ _ _ _ interference).2 reservation
          refine wp_seq (wp_restoreStock reservation.items _ stays start active) ?_
          rintro _ writes rows ⟨restored, active⟩
          simp only [wp_bind, wp_update, wp_pure]
          intro releasing three current seen last four
          have restoredThen := restored.interfered three
          have restoredNow := restoredThen.interfered four.unput
          have foundNow : last (reservationKey event.payload.orderId) = some current := by
            rw [four.frame _ (by simp [Writes.put_written])]
            simpa [restoredThen.written, Writes.over, Writes.put, restoreWrites] using seen
          rw [restoredNow.written]
          exact .released restoredNow.unmarked reservation
            (stays _ _ _ four (stays _ _ _ three active)) current foundNow

end Wp

end Ecommerce.InventoryService
