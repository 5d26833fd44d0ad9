import Ecommerce.Kafka.Stringify
import Mathlib.Data.Nat.Notation

set_option autoImplicit false

/-!
# UTF-8 keeps every string whose surrogates are paired
-/

namespace Ecommerce.Kafka

/-- No surrogate stands alone. -/
inductive Paired : JsString → Prop where
  | nil : Paired []
  | unit {unit : Nat} {rest : JsString} (small : unit < 0x10000) (alone : isSurrogate unit = false)
      (paired : Paired rest) : Paired (unit :: rest)
  | pair {high low : Nat} {rest : JsString} (first : isHighSurrogate high = true)
      (second : isLowSurrogate low = true) (paired : Paired rest) : Paired (high :: low :: rest)

section Encoding

variable {one two : JsString} {point unit high low : Nat}

theorem Paired.append (first : Paired one) (second : Paired two) : Paired (one ++ two) := by
  induction first with
  | nil => exact second
  | unit small alone _ ih => exact .unit small alone ih
  | pair first second _ ih => exact .pair first second ih

theorem isHighSurrogate_iff : isHighSurrogate unit = true ↔ 0xD800 ≤ unit ∧ unit ≤ 0xDBFF := by
  simp [isHighSurrogate]

theorem isLowSurrogate_iff : isLowSurrogate unit = true ↔ 0xDC00 ≤ unit ∧ unit ≤ 0xDFFF := by
  simp [isLowSurrogate]

theorem isSurrogate_false : isSurrogate unit = false ↔ unit < 0xD800 ∨ 0xDFFF < unit := by
  simp only [isSurrogate, isHighSurrogate, isLowSurrogate, Bool.or_eq_false_iff,
    Bool.and_eq_false_iff, decide_eq_false_iff_not]
  omega

@[simp] theorem toNat_ofByte {value : Nat} (fits : value < 256) : (UInt8.ofNat value).toNat = value := by
  simp [Nat.mod_eq_of_lt fits]

theorem decodeUtf8_lead {value : Nat} (fits : value < 256) (rest : List UInt8)
    {sequence : Partial8} (leads : leadByte value = .more sequence) :
    decodeUtf8 none (.ofNat value :: rest) = decodeUtf8 (some sequence) rest := by
  simp only [decodeUtf8, toNat_ofByte fits, leads]

theorem decodeUtf8_next {missing bits lower upper value : Nat} (fits : value < 256)
    (above : lower ≤ value) (below : value ≤ upper) (rest : List UInt8) :
    decodeUtf8 (some ⟨missing + 2, bits, lower, upper⟩) (.ofNat value :: rest) =
      decodeUtf8 (some ⟨missing + 1, bits * 0x40 + (value - 0x80), 0x80, 0xBF⟩) rest := by
  simp only [decodeUtf8, toNat_ofByte fits, above, below, and_self, if_true]

theorem decodeUtf8_last {bits lower upper value : Nat} (fits : value < 256)
    (above : lower ≤ value) (below : value ≤ upper) (rest : List UInt8) :
    decodeUtf8 (some ⟨1, bits, lower, upper⟩) (.ofNat value :: rest) =
      encodeCodePoint (bits * 0x40 + (value - 0x80)) ++ decodeUtf8 none rest := by
  simp only [decodeUtf8, toNat_ofByte fits, above, below, and_self, if_true]

theorem leadByte_two {bits : Nat} (above : 2 ≤ bits) (below : bits < 0x20) :
    leadByte (0xC0 + bits) = .more ⟨1, bits, 0x80, 0xBF⟩ := by
  have lead : ¬ 0xC0 + bits < 0x80 ∧ 0xC2 ≤ 0xC0 + bits ∧ 0xC0 + bits ≤ 0xDF := by omega
  simp [leadByte, lead]

/-- The second of three bytes is in the range that the first one gives for it. -/
theorem leadByte_three (small : point < 0x10000) (large : 0x800 ≤ point)
    (scalar : isSurrogate point = false) : ∃ lower upper,
      leadByte (0xE0 + point / 0x1000) = .more ⟨2, point / 0x1000, lower, upper⟩ ∧
        lower ≤ 0x80 + point / 0x40 % 0x40 ∧ 0x80 + point / 0x40 % 0x40 ≤ upper := by
  rw [isSurrogate_false] at scalar
  by_cases first : point / 0x1000 = 0
  · exact ⟨0xA0, 0xBF, by simp [first, leadByte], by omega, by omega⟩
  · by_cases last : point / 0x1000 = 0xD
    · exact ⟨0x80, 0x9F, by simp [last, leadByte], by omega, by omega⟩
    · refine ⟨0x80, 0xBF, ?_, by omega, by omega⟩
      unfold leadByte
      rw [if_neg (by omega), if_neg (by omega), if_neg (by omega), if_neg (by omega),
        if_pos (by omega), Nat.add_sub_cancel_left]

theorem leadByte_four (small : point < 0x110000) (large : 0x10000 ≤ point) : ∃ lower upper,
    leadByte (0xF0 + point / 0x40000) = .more ⟨3, point / 0x40000, lower, upper⟩ ∧
      lower ≤ 0x80 + point / 0x1000 % 0x40 ∧ 0x80 + point / 0x1000 % 0x40 ≤ upper := by
  by_cases first : point / 0x40000 = 0
  · exact ⟨0x90, 0xBF, by simp [first, leadByte], by omega, by omega⟩
  · by_cases last : point / 0x40000 = 4
    · exact ⟨0x80, 0x8F, by simp [last, leadByte], by omega, by omega⟩
    · refine ⟨0x80, 0xBF, ?_, by omega, by omega⟩
      unfold leadByte
      rw [if_neg (by omega), if_neg (by omega), if_neg (by omega), if_neg (by omega),
        if_neg (by omega), if_neg (by omega), if_pos (by omega), Nat.add_sub_cancel_left]

/-- A code point that is no surrogate is decoded as it was encoded. -/
theorem decodeUtf8_utf8 (small : point < 0x110000) (scalar : isSurrogate point = false)
    (rest : List UInt8) :
    decodeUtf8 none (utf8 point ++ rest) = encodeCodePoint point ++ decodeUtf8 none rest := by
  unfold utf8
  split
  · next ascii =>
      have lead : leadByte point = .unit point := by simp [leadByte, ascii]
      simp [decodeUtf8, toNat_ofByte (by omega : point < 256), lead, encodeCodePoint,
        (by omega : point < 0x10000)]
  · split
    · next large two =>
        have whole : point / 0x40 * 0x40 + (0x80 + point % 0x40 - 0x80) = point := by omega
        rw [List.cons_append, List.cons_append, List.nil_append,
          decodeUtf8_lead (by omega) _ (leadByte_two (by omega) (by omega)),
          decodeUtf8_last (by omega) (by omega) (by omega), whole]
    · split
      · next large three =>
          obtain ⟨lower, upper, lead, above, below⟩ := leadByte_three three (by omega) scalar
          have whole : (point / 0x1000 * 0x40 + (0x80 + point / 0x40 % 0x40 - 0x80)) * 0x40 +
              (0x80 + point % 0x40 - 0x80) = point := by omega
          simp only [List.cons_append, List.nil_append]
          rw [decodeUtf8_lead (by omega) _ lead, decodeUtf8_next (by omega) above below,
            decodeUtf8_last (by omega) (by omega) (by omega), whole]
      · next large =>
          obtain ⟨lower, upper, lead, above, below⟩ := leadByte_four small (by omega)
          have whole : ((point / 0x40000 * 0x40 + (0x80 + point / 0x1000 % 0x40 - 0x80)) * 0x40 +
              (0x80 + point / 0x40 % 0x40 - 0x80)) * 0x40 + (0x80 + point % 0x40 - 0x80) =
                point := by omega
          simp only [List.cons_append, List.nil_append]
          rw [decodeUtf8_lead (by omega) _ lead, decodeUtf8_next (by omega) above below,
            decodeUtf8_next (by omega) (by omega) (by omega),
            decodeUtf8_last (by omega) (by omega) (by omega), whole]

theorem bufferFrom_unit (alone : isSurrogate unit = false) (rest : JsString) :
    bufferFrom (unit :: rest) = utf8 unit ++ bufferFrom rest := by
  have high : isHighSurrogate unit = false := by
    rw [isSurrogate, Bool.or_eq_false_iff] at alone
    exact alone.1
  cases rest <;> simp [bufferFrom, loneUnit, alone, high]

theorem bufferFrom_pair (first : isHighSurrogate high = true) (second : isLowSurrogate low = true)
    (rest : JsString) : bufferFrom (high :: low :: rest) =
      utf8 (0x10000 + (high - 0xD800) * 0x400 + (low - 0xDC00)) ++ bufferFrom rest := by
  simp [bufferFrom, first, second]

/-- What `Buffer.from` encodes, `toString` decodes. -/
theorem bufferToString_bufferFrom (paired : Paired one) : bufferToString (bufferFrom one) = one := by
  unfold bufferToString
  induction paired with
  | nil => rfl
  | unit small alone _ ih =>
      rw [bufferFrom_unit alone, decodeUtf8_utf8 (by omega) alone, ih, encodeCodePoint,
        if_pos small, List.singleton_append]
  | pair first second _ ih =>
      rw [bufferFrom_pair first second]
      rw [isHighSurrogate_iff] at first
      rw [isLowSurrogate_iff] at second
      rw [decodeUtf8_utf8 (by omega) (isSurrogate_false.mpr (by omega)), ih, encodeCodePoint,
        if_neg (by omega)]
      have halves : ∀ high low : Nat, 0xD800 ≤ high → 0xDC00 ≤ low → low ≤ 0xDFFF →
          0xD800 + (0x10000 + (high - 0xD800) * 0x400 + (low - 0xDC00) - 0x10000) / 0x400 = high ∧
          0xDC00 + (0x10000 + (high - 0xD800) * 0x400 + (low - 0xDC00) - 0x10000) % 0x400 =
            low := by omega
      obtain ⟨sameHigh, sameLow⟩ := halves _ _ first.1 second.1 second.2
      rw [sameHigh, sameLow]
      rfl

end Encoding

section Decoding

def IsScalar (point : Nat) : Prop := point < 0x110000 ∧ (point < 0xD800 ∨ 0xDFFF < point)

/-- However the sequence goes on, it does not end in a surrogate. -/
def Scalars : (missing point lower upper : Nat) → Prop
  | 0, point, lower, upper | 1, point, lower, upper =>
      ∀ bits, lower ≤ bits → bits ≤ upper → IsScalar (point * 0x40 + (bits - 0x80))
  | missing + 2, point, lower, upper =>
      ∀ bits, lower ≤ bits → bits ≤ upper →
        Scalars (missing + 1) (point * 0x40 + (bits - 0x80)) 0x80 0xBF

def Partial8.Sound (sequence : Partial8) : Prop :=
  Scalars sequence.missing sequence.point sequence.lower sequence.upper

theorem paired_encodeCodePoint {point : Nat} (scalar : IsScalar point) {rest : JsString}
    (paired : Paired rest) : Paired (encodeCodePoint point ++ rest) := by
  obtain ⟨small, apart⟩ := scalar
  unfold encodeCodePoint
  split
  · next basic => exact .unit basic (isSurrogate_false.mpr apart) paired
  · refine .pair (isHighSurrogate_iff.mpr ?_) (isLowSurrogate_iff.mpr ?_) paired <;> omega

theorem leadByte_unit {byte point : Nat} (leads : leadByte byte = .unit point) : point < 0x80 := by
  unfold leadByte at leads
  grind

theorem leadByte_sound {byte : Nat} {sequence : Partial8} (leads : leadByte byte = .more sequence) :
    sequence.Sound := by
  unfold leadByte at leads
  repeat' split at leads
  all_goals cases leads
  all_goals
    simp only [Partial8.Sound, Scalars, IsScalar]
    omega

theorem paired_replacement {rest : JsString} (paired : Paired rest) :
    Paired (replacement :: rest) := .unit (by decide) (by decide) paired

/-- A byte in the range of a sequence ends it in a scalar, or leaves it sound. -/
theorem Partial8.Sound.next {sequence : Partial8} (sound : sequence.Sound) {bits : Nat}
    (above : sequence.lower ≤ bits) (below : bits ≤ sequence.upper) :
    (sequence.missing ≤ 1 → IsScalar (sequence.point * 0x40 + (bits - 0x80))) ∧
      ∀ missing, sequence.missing = missing + 1 → missing ≠ 0 → Partial8.Sound
        ⟨missing, sequence.point * 0x40 + (bits - 0x80), 0x80, 0xBF⟩ := by
  obtain ⟨missing, point, lower, upper⟩ := sequence
  match missing with
  | 0 | 1 =>
      refine ⟨fun _ => sound bits above below, ?_⟩
      intro left same some
      dsimp only at same
      omega
  | missing + 2 =>
      refine ⟨by simp, ?_⟩
      intro left same _
      cases same
      exact sound bits above below

theorem decodeUtf8_paired (state : Option Partial8) (bytes : List UInt8)
    (sound : ∀ sequence, state = some sequence → sequence.Sound) :
    Paired (decodeUtf8 state bytes) := by
  have ascii {point byte : Nat} {rest : JsString} (leads : leadByte byte = .unit point)
      (paired : Paired rest) : Paired (point :: rest) := by
    have small := leadByte_unit leads
    exact .unit (by omega) (isSurrogate_false.mpr (by omega)) paired
  have leading {byte : Nat} {next : Partial8} (leads : leadByte byte = .more next) :
      ∀ sequence, some next = some sequence → sequence.Sound := by
    intro sequence same
    exact Option.some.inj same ▸ leadByte_sound leads
  fun_induction decodeUtf8 state bytes with
  | case1 => exact .nil
  | case2 => exact paired_replacement .nil
  | case3 _ _ _ leads ih => exact ascii leads (ih (by simp))
  | case4 _ _ _ leads ih => exact ih (leading leads)
  | case5 _ _ _ ih => exact paired_replacement (ih (by simp))
  | case6 sequence _ _ _ inside _ missing ih | case7 sequence _ _ _ inside _ missing ih =>
      have ends := ((sound _ rfl).next inside.1 inside.2).1 (by omega)
      exact paired_encodeCodePoint ends (ih (by simp))
  | case8 sequence _ _ _ inside _ left some missing ih =>
      apply ih
      intro other same
      cases same
      exact ((sound _ rfl).next inside.1 inside.2).2 left missing some
  | case9 _ _ _ _ _ _ leads ih => exact paired_replacement (ascii leads (ih (by simp)))
  | case10 _ _ _ _ _ _ leads ih => exact paired_replacement (ih (leading leads))
  | case11 _ _ _ _ _ _ ih => exact paired_replacement (paired_replacement (ih (by simp)))

theorem bufferToString_paired (bytes : List UInt8) : Paired (bufferToString bytes) :=
  decodeUtf8_paired none bytes (by simp)

/-- The bytes can be told from the text exactly when they are UTF-8. -/
theorem bufferFrom_bufferToString_iff (bytes : List UInt8) :
    bufferFrom (bufferToString bytes) = bytes ↔ ∃ text, Paired text ∧ bufferFrom text = bytes := by
  constructor
  · exact fun same => ⟨_, bufferToString_paired bytes, same⟩
  · rintro ⟨text, paired, rfl⟩
    rw [bufferToString_bufferFrom paired]

end Decoding

end Ecommerce.Kafka
