import Mathlib.Algebra.Ring.Nat

set_option autoImplicit false

/-!
# Doubles that are non-negative integers

A double has 53 significant bits. What two integers give is rounded to the nearest of them, and to
the even one of two that are as near.
-/

inductive Double where
  | finite (value : Nat)
  | infinity
  deriving DecidableEq

namespace Double

def roundToEven (exact : Nat) : Nat :=
  let unit := 2 ^ (Nat.log2 exact + 1 - 53)
  let lower := exact / unit
  let rest := exact % unit
  if unit < 2 * rest ∨ (2 * rest = unit ∧ lower % 2 = 1) then (lower + 1) * unit else lower * unit

def ofNat (exact : Nat) : Double :=
  -- The finite doubles end before 2 ^ 1024.
  if Nat.log2 (roundToEven exact) < 1024 then .finite (roundToEven exact) else .infinity

def add : Double → Double → Double
  | .finite one, .finite two => ofNat (one + two)
  | _, _ => .infinity

/-- The product of two positive doubles. -/
def mul : Double → Double → Double
  | .finite one, .finite two => ofNat (one * two)
  | _, _ => .infinity

/-- The value up to 2 ^ 53, below which every integer is a double. -/
def capped : Double → Nat
  | .finite value => min value (2 ^ 53)
  | .infinity => 2 ^ 53

theorem log2_small {exact : Nat} (small : exact < 2 ^ 53) : Nat.log2 exact < 53 := by
  by_cases zero : exact = 0
  · subst zero
    decide
  · exact (Nat.log2_lt zero).mpr small

theorem roundToEven_small {exact : Nat} (small : exact < 2 ^ 53) : roundToEven exact = exact := by
  have short := log2_small small
  have bits : Nat.log2 exact + 1 - 53 = 0 := by omega
  simp [roundToEven, bits, Nat.mod_one]

theorem roundToEven_large {exact : Nat} (large : 2 ^ 53 ≤ exact) : 2 ^ 53 ≤ roundToEven exact := by
  have nonzero : exact ≠ 0 := by omega
  have bits : 53 ≤ Nat.log2 exact := (Nat.le_log2 nonzero).mpr large
  have unit : Nat.log2 exact + 1 - 53 = (Nat.log2 exact - 53) + 1 := by omega
  have split : 2 ^ 52 * 2 ^ (Nat.log2 exact + 1 - 53) ≤ exact := by
    rw [← Nat.pow_add]
    have whole : 52 + (Nat.log2 exact + 1 - 53) = Nat.log2 exact := by omega
    rw [whole]
    exact Nat.log2_self_le nonzero
  have lower : 2 ^ 52 ≤ exact / 2 ^ (Nat.log2 exact + 1 - 53) :=
    (Nat.le_div_iff_mul_le (Nat.two_pow_pos _)).mpr split
  have double : 2 ≤ 2 ^ (Nat.log2 exact + 1 - 53) := by
    rw [unit, Nat.pow_succ]
    have positive := Nat.two_pow_pos (Nat.log2 exact - 53)
    omega
  have least : 2 ^ 53 ≤
      exact / 2 ^ (Nat.log2 exact + 1 - 53) * 2 ^ (Nat.log2 exact + 1 - 53) :=
    Nat.mul_le_mul lower double
  unfold roundToEven
  dsimp only
  split
  · exact Nat.le_trans least (Nat.mul_le_mul_right _ (Nat.le_succ _))
  · exact least

theorem capped_ofNat (exact : Nat) : (ofNat exact).capped = min exact (2 ^ 53) := by
  by_cases small : exact < 2 ^ 53
  · have short := log2_small small
    have finite : Nat.log2 exact < 1024 := by omega
    simp [ofNat, roundToEven_small small, finite, capped]
  · have large := roundToEven_large (Nat.not_lt.mp small)
    unfold ofNat
    split <;> simp only [capped] <;> omega

theorem capped_add (one two : Double) :
    (one.add two).capped = min (one.capped + two.capped) (2 ^ 53) := by
  cases one with
  | finite first =>
      cases two with
      | finite second =>
          rw [add, capped_ofNat, capped, capped]
          omega
      | infinity =>
          simp only [add, capped]
          omega
  | infinity =>
      simp only [add, capped]
      omega

theorem min_mul_min {one two cap : Nat} (capPositive : 0 < cap) (onePositive : 0 < one)
    (twoPositive : 0 < two) : min (min one cap * min two cap) cap = min (one * two) cap := by
  rcases Nat.le_total one cap with oneSmall | oneLarge
  · rcases Nat.le_total two cap with twoSmall | twoLarge
    · rw [Nat.min_eq_left oneSmall, Nat.min_eq_left twoSmall]
    · have exact := Nat.le_mul_of_pos_left two onePositive
      have capped := Nat.le_mul_of_pos_left cap onePositive
      rw [Nat.min_eq_left oneSmall, Nat.min_eq_right twoLarge]
      omega
  · have exact := Nat.le_mul_of_pos_right one twoPositive
    have capped := Nat.le_mul_of_pos_right cap (Nat.lt_min.mpr ⟨twoPositive, capPositive⟩)
    rw [Nat.min_eq_right oneLarge]
    omega

theorem capped_mul {one two : Double} (onePositive : 0 < one.capped) (twoPositive : 0 < two.capped) :
    (one.mul two).capped = min (one.capped * two.capped) (2 ^ 53) := by
  cases one with
  | finite first =>
      cases two with
      | finite second =>
          simp only [capped] at onePositive twoPositive
          rw [mul, capped_ofNat, capped, capped]
          exact (min_mul_min (by omega) (by omega) (by omega)).symm
      | infinity =>
          have more := Nat.le_mul_of_pos_left (2 ^ 53) onePositive
          simp only [mul, capped] at more ⊢
          omega
  | infinity =>
      have more := Nat.le_mul_of_pos_right (2 ^ 53) twoPositive
      simp only [mul, capped] at more ⊢
      omega

theorem finite_of_capped {double : Double} (small : double.capped < 2 ^ 53) :
    double = .finite double.capped := by
  cases double with
  | finite value =>
      simp only [capped] at small ⊢
      congr 1
      omega
  | infinity => exact absurd small (Nat.lt_irrefl _)

end Double
