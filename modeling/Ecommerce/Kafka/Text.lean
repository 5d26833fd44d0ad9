set_option autoImplicit false

/-!
# Strings as JavaScript has them

A string is a list of UTF-16 code units. `Buffer.toString()` decodes UTF-8 and puts U+FFFD in
the place of every maximal ill-formed part.
-/

namespace Ecommerce.Kafka

abbrev JsString := List Nat

/-- The code units of a text of the program, all of which is ASCII. -/
def units (text : String) : JsString := text.toList.map Char.toNat

def encodeCodePoint (point : Nat) : JsString :=
  if point < 0x10000 then [point]
  else [0xD800 + (point - 0x10000) / 0x400, 0xDC00 + (point - 0x10000) % 0x400]

def replacement : Nat := 0xFFFD

/-- A sequence that is not complete yet: the bytes that are missing, the bits so far, and the range
of the next byte. -/
structure Partial8 where
  missing : Nat
  point : Nat
  lower : Nat
  upper : Nat

inductive Decoded where
  | unit (point : Nat)
  | more (sequence : Partial8)
  | illFormed

def leadByte (byte : Nat) : Decoded :=
  if byte < 0x80 then .unit byte
  else if 0xC2 ≤ byte ∧ byte ≤ 0xDF then .more ⟨1, byte - 0xC0, 0x80, 0xBF⟩
  else if byte = 0xE0 then .more ⟨2, 0, 0xA0, 0xBF⟩
  else if byte = 0xED then .more ⟨2, 0xD, 0x80, 0x9F⟩
  else if 0xE1 ≤ byte ∧ byte ≤ 0xEF then .more ⟨2, byte - 0xE0, 0x80, 0xBF⟩
  else if byte = 0xF0 then .more ⟨3, 0, 0x90, 0xBF⟩
  else if 0xF1 ≤ byte ∧ byte ≤ 0xF3 then .more ⟨3, byte - 0xF0, 0x80, 0xBF⟩
  else if byte = 0xF4 then .more ⟨3, 4, 0x80, 0x8F⟩
  else .illFormed

def decodeUtf8 : Option Partial8 → List UInt8 → JsString
  | none, [] => []
  -- The end of the buffer cuts a sequence short.
  | some _, [] => [replacement]
  | none, byte :: rest =>
      match leadByte byte.toNat with
      | .unit point => point :: decodeUtf8 none rest
      | .more sequence => decodeUtf8 (some sequence) rest
      | .illFormed => replacement :: decodeUtf8 none rest
  | some sequence, byte :: rest =>
      let bits := byte.toNat
      if sequence.lower ≤ bits ∧ bits ≤ sequence.upper then
        let point := sequence.point * 0x40 + (bits - 0x80)
        match sequence.missing with
        | 0 | 1 => encodeCodePoint point ++ decodeUtf8 none rest
        | missing + 1 => decodeUtf8 (some ⟨missing, point, 0x80, 0xBF⟩) rest
      else
        -- The byte that does not fit starts anew.
        match leadByte bits with
        | .unit point => replacement :: point :: decodeUtf8 none rest
        | .more next => replacement :: decodeUtf8 (some next) rest
        | .illFormed => replacement :: replacement :: decodeUtf8 none rest

def bufferToString (bytes : List UInt8) : JsString := decodeUtf8 none bytes

example : bufferToString [0x22, 0xE2, 0x82, 0xAC, 0x22] = [0x22, 0x20AC, 0x22] := by decide

example : bufferToString [0xE2, 0x82, 0x41, 0xFF, 0xF0, 0x9F, 0x98, 0x80] =
    [0xFFFD, 0x41, 0xFFFD, 0xD83D, 0xDE00] := by decide

end Ecommerce.Kafka
