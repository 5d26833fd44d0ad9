import Ecommerce.Checkout.Ledger
import Ecommerce.InventoryService.SerialStock
import Ecommerce.OrderService.Verdict

set_option autoImplicit false

/-!
# When the handlers of the services commit
-/

namespace Ecommerce

open Transaction

namespace PaymentService

/-- The first delivery of an order without a payment commits. -/
theorem Charging.commits (config : Config) (job : Charging) {rows : PaymentDb} {supply : Nat}
    (unmarked : rows (marker job.event.eventId) = none)
    (uncharged : rows (paymentKey job.order.orderId) = none)
    (fits : fitsInteger job.order.totalAmountCents = true)
    (free : ∀ rowId, supply ≤ rowId → rows (outboxKey rowId) = none) :
    ∃ after next, (job.body config).transaction none rows supply = .ok ((), after, next) := by
  have promise : ends (job.body config) (fun _ _ _ => True) .none rows supply := by
    simp only [Charging.body, onOrderCreated, processOnceTx, job.created, charge, createPayment,
      fits, if_true, results_bind, ends_create, onRows_ite, onRows_bind, onRows_randomUUID,
      onRows_create, onRows_createEvent, onRows_pure]
    refine ⟨unmarked, ?_⟩
    split <;>
      simp only [results_bind, results_randomUUID, ends_create, results_createEvent, enqueue,
        results_enqueueAs, onRows_create] <;>
      exact ⟨by simpa [Store.set_other] using uncharged,
        by simpa [Store.set_other] using free _ (by omega), trivial⟩
  obtain ⟨_, after, next, ran, -⟩ := transaction_of_ends promise
  exact ⟨_, next, ran⟩

end PaymentService

namespace InventoryService

/-- The lines of an active reservation cannot go back without a counter that its column cannot
hold. -/
def Unrestorable (config : Config) (rows : InventoryDb) (orderId : Uuid) : Prop :=
  ∃ reservation : Reservation, rows (reservationKey orderId) = some reservation ∧
    reservation.status = .reserved ∧
    movesFit config Product.restore rows [] reservation.items = false

end InventoryService

namespace NotificationService

end NotificationService

end Ecommerce
