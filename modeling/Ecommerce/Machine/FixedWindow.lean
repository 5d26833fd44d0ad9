set_option autoImplicit false

/-!
# Fixed windows

A window counts the hits since it was opened and admits the first of them. Another one is opened
by the first hit after its end.
-/

namespace FixedWindow

/-- What one more hit of a window adds to what an interval of the same length has admitted. -/
def admits (length max since time count : Nat) : Nat :=
  if count ≤ max ∧ since ≤ time ∧ time < since + length then 1 else 0

/-- What an interval has admitted when the last window has this start and this count. -/
structure Bounded (length max since start count admitted : Nat) : Prop where
  past : start + length < since → admitted = 0
  before : start < since → admitted ≤ min count max
  inside : start < since + length → admitted ≤ max + min count max
  total : admitted ≤ 2 * max

variable {length max since start count time admitted : Nat}

theorem Bounded.opened (length max since time : Nat) :
    Bounded length max since time 1 (admits length max since time 1) := by
  unfold admits
  constructor <;> split <;> omega

theorem Bounded.counted (bounded : Bounded length max since start count admitted)
    (started : start ≤ time) (lasting : time ≤ start + length) :
    Bounded length max since start (count + 1)
      (admitted + admits length max since time (count + 1)) := by
  obtain ⟨past, before, inside, total⟩ := bounded
  unfold admits
  constructor <;> split <;> omega

theorem Bounded.reopened (bounded : Bounded length max since start count admitted)
    (ended : start + length ≤ time) :
    Bounded length max since time 1 (admitted + admits length max since time 1) := by
  obtain ⟨past, before, inside, total⟩ := bounded
  -- A third window would start behind the interval, or the first one ends ahead of it.
  unfold admits
  constructor <;> split <;> omega

end FixedWindow
