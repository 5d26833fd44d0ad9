import Mathlib.Data.List.Basic

set_option autoImplicit false

/-!
# Lists with causes first

A list of items that are handled one after the other, none before the items that cause it.
-/

namespace Machine

variable {A : Type} {causes : A → A → Prop} {known more queue : List A}

/-- The causes of each item of the queue are known before, or come earlier in the queue. -/
def CausesFirst (causes : A → A → Prop) : (known queue : List A) → Prop
  | _, [] => True
  | known, next :: rest =>
      (∀ cause, causes cause next → cause ∈ known) ∧ CausesFirst causes (known ++ [next]) rest

@[simp] theorem causesFirst_nil : CausesFirst causes known [] := trivial

theorem causesFirst_append {rest : List A} :
    CausesFirst causes known (queue ++ rest) ↔
      CausesFirst causes known queue ∧ CausesFirst causes (known ++ queue) rest := by
  induction queue generalizing known with
  | nil => simp
  | cons next tail ih =>
      simp only [List.cons_append, CausesFirst, ih, and_assoc, List.append_assoc, List.nil_append]

theorem CausesFirst.learn (first : CausesFirst causes known queue) (grown : known ⊆ more) :
    CausesFirst causes more queue := by
  induction queue generalizing known more with
  | nil => trivial
  | cons next rest ih =>
      obtain ⟨earlier, later⟩ := first
      constructor
      · exact fun cause caused => grown (earlier cause caused)
      · apply ih later
        intro cause member
        rcases List.mem_append.mp member with before | now
        · exact List.mem_append_left _ (grown before)
        · exact List.mem_append_right _ now

theorem CausesFirst.fewer {less : A → A → Prop} (first : CausesFirst causes known queue)
    (weaker : ∀ cause, ∀ next ∈ queue, less cause next → causes cause next) :
    CausesFirst less known queue := by
  induction queue generalizing known with
  | nil => trivial
  | cons next rest ih =>
      obtain ⟨earlier, later⟩ := first
      constructor
      · exact fun cause caused => earlier cause (weaker cause next (by simp) caused)
      · exact ih later fun cause other member => weaker cause other (List.mem_cons_of_mem _ member)

theorem CausesFirst.take (first : CausesFirst causes known queue) (size : Nat) :
    CausesFirst causes known (queue.take size) := by
  rw [← List.take_append_drop size queue, causesFirst_append] at first
  exact first.1

theorem causesFirst_iff_split :
    CausesFirst causes known queue ↔ ∀ earlier next later, queue = earlier ++ next :: later →
      ∀ cause, causes cause next → cause ∈ known ++ earlier := by
  constructor
  · intro first earlier next later split cause caused
    rw [split, causesFirst_append] at first
    exact first.2.1 cause caused
  · intro all
    induction queue generalizing known with
    | nil => trivial
    | cons next rest ih =>
        constructor
        · intro cause caused
          simpa using all [] next rest rfl cause caused
        · apply ih
          intro earlier other later split cause caused
          simpa using all (next :: earlier) other later (by rw [split]; rfl) cause caused

end Machine
