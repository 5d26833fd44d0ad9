import Ecommerce.NotificationService.Notifications

set_option autoImplicit false

/-!
# What the notifications say

A text is for one amount.
-/

namespace Ecommerce.NotificationService

section Amounts

/-- The amount that a text names, in cents. -/
def readCents (text : String) : Nat := Nat.ofDigitChars 10 (text.toList.filter Char.isDigit) 0

theorem filter_toDigits (value : Nat) :
    (Nat.toDigits 10 value).filter Char.isDigit = Nat.toDigits 10 value :=
  List.filter_eq_self.mpr fun _ member =>
    Nat.isDigit_of_mem_toDigits (by decide) (Nat.le_refl 10) member

theorem readCents_fmt (cents : Nat) : readCents (fmt cents) = cents := by
  have dollars := Nat.div_add_mod cents 100
  have letters : (fmt cents).toList.filter Char.isDigit = Nat.toDigits 10 (cents / 100) ++
      if cents % 100 < 10 then '0' :: Nat.toDigits 10 (cents % 100)
      else Nat.toDigits 10 (cents % 100) := by
    unfold fmt
    split <;> simp [filter_toDigits]
  rw [readCents, letters, Nat.ofDigitChars_append, Nat.ofDigitChars_ten_toDigits]
  split
  · next small =>
      rw [Nat.toDigits_of_lt_base small, Nat.ofDigitChars_cons,
        Nat.ofDigitChars_cons_digitChar_of_lt_ten small, Nat.ofDigitChars_nil]
      have zero : '0'.toNat - '0'.toNat = 0 := rfl
      omega
  · next large =>
      have tens : cents % 100 / 10 < 10 := by omega
      have ones : cents % 100 % 10 < 10 := by omega
      rw [Nat.toDigits_of_base_le (by decide) (Nat.not_lt.mp large), Nat.toDigits_of_lt_base tens,
        Nat.ofDigitChars_append, Nat.ofDigitChars_cons_digitChar_of_lt_ten tens,
        Nat.ofDigitChars_nil, Nat.ofDigitChars_cons_digitChar_of_lt_ten ones, Nat.ofDigitChars_nil]
      omega

theorem fmt_injective {one other : Nat} (same : fmt one = fmt other) : one = other := by
  rw [← readCents_fmt one, same, readCents_fmt]

theorem confirmedText_injective {config : Config} {orderId : Uuid} {one other : Nat}
    (same : confirmedText config orderId one = confirmedText config orderId other) : one = other := by
  have letters := congrArg String.toList same
  simp only [confirmedText, String.toList_append, List.append_assoc, List.append_cancel_left_eq] at letters
  exact fmt_injective (String.toList_inj.mp (List.append_cancel_right letters))

end Amounts

end Ecommerce.NotificationService
