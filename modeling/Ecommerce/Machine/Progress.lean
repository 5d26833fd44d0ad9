import Ecommerce.Machine.Run
import Mathlib.Data.Set.Card

set_option autoImplicit false

/-!
# Machines that come to rest

A machine owes a finite set of things. A useful step pays one of them, and only the actions that are
charged for it add new ones.
-/

namespace Machine

variable {S A T : Type}

namespace Pays

variable {step : S → A → Option S} {inv : S → Prop} {useful : S → A → Prop}
variable {owed : S → Set T} {charge : A → Nat} {state next : S} {action : A}

end Pays

end Machine
