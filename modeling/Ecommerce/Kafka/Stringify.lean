import Ecommerce.Kafka.Json
import Mathlib.Data.List.Sort

set_option autoImplicit false

/-!
# JSON.stringify and what a producer sends

`publish` turns the value into text, and the client turns the text into UTF-8.
-/

namespace Ecommerce.Kafka

def isHighSurrogate (unit : Nat) : Bool := 0xD800 ≤ unit && unit ≤ 0xDBFF

def isLowSurrogate (unit : Nat) : Bool := 0xDC00 ≤ unit && unit ≤ 0xDFFF

def isSurrogate (unit : Nat) : Bool := isHighSurrogate unit || isLowSurrogate unit

def hexUnit (digit : Nat) : Nat :=
  if digit < 10 then 0x30 + digit else 0x61 + (digit - 10)

def unicodeEscape (unit : Nat) : JsString :=
  [0x5C, 0x75, hexUnit (unit / 0x1000), hexUnit (unit / 0x100 % 0x10),
    hexUnit (unit / 0x10 % 0x10), hexUnit (unit % 0x10)]

def quoteUnit (unit : Nat) : JsString :=
  match unit with
  | 0x08 => units "\\b"
  | 0x09 => units "\\t"
  | 0x0A => units "\\n"
  | 0x0C => units "\\f"
  | 0x0D => units "\\r"
  | 0x22 => units "\\\""
  | 0x5C => units "\\\\"
  | _ => if unit < 0x20 || isSurrogate unit then unicodeEscape unit else [unit]

def quoteUnits : JsString → JsString
  | [] => []
  | [unit] => quoteUnit unit
  | unit :: next :: rest =>
      -- Only a surrogate that is not one of a pair is escaped.
      if isHighSurrogate unit && isLowSurrogate next then unit :: next :: quoteUnits rest
      else quoteUnit unit ++ quoteUnits (next :: rest)

def quote (text : JsString) : JsString := 0x22 :: quoteUnits text ++ [0x22]

/-- The name of an element of an array, which an object keeps before its other members. -/
def arrayIndex (name : JsString) : Option Nat :=
  let value := name.foldl (fun value unit => value * 10 + (unit - 0x30)) 0
  let canonical := name ≠ [] && name.all isDigit && (name.head? ≠ some 0x30 || name.length = 1)
  if canonical && value < 0xFFFFFFFF then some value else none

def indexOrder {A : Type} (one two : JsString × A) : Bool :=
  (arrayIndex one.1).getD 0 ≤ (arrayIndex two.1).getD 0

/-- The members in the order of `Object.keys`. -/
def enumerate {A : Type} (members : List (JsString × A)) : List (JsString × A) :=
  (members.filter fun member => (arrayIndex member.1).isSome).insertionSort
      (fun one two => indexOrder one two = true) ++
    members.filter fun member => (arrayIndex member.1).isNone

section Stringify

-- The decimal form of the double that a number stands for, `none` if it is infinite.
variable (decimal : JsString → Option JsString)

mutual

/-- `JSON.stringify` -/
def stringify : Json → JsString
  | .null => units "null"
  | .boolean true => units "true"
  | .boolean false => units "false"
  | .number literal => (decimal literal).getD (units "null")
  | .text value => quote value
  | .array items => 0x5B :: List.intercalate [0x2C] (stringifyItems items) ++ [0x5D]
  | .object members =>
      let texts := (enumerate (stringifyMembers members)).map fun member =>
        quote member.1 ++ 0x3A :: member.2
      0x7B :: List.intercalate [0x2C] texts ++ [0x7D]

def stringifyItems : List Json → List JsString
  | [] => []
  | item :: rest => stringify item :: stringifyItems rest

def stringifyMembers : List (JsString × Json) → List (JsString × JsString)
  | [] => []
  | (name, value) :: rest => (name, stringify value) :: stringifyMembers rest

end

end Stringify

def utf8 (point : Nat) : List UInt8 :=
  if point < 0x80 then [.ofNat point]
  else if point < 0x800 then [.ofNat (0xC0 + point / 0x40), .ofNat (0x80 + point % 0x40)]
  else if point < 0x10000 then
    [.ofNat (0xE0 + point / 0x1000), .ofNat (0x80 + point / 0x40 % 0x40),
      .ofNat (0x80 + point % 0x40)]
  else
    [.ofNat (0xF0 + point / 0x40000), .ofNat (0x80 + point / 0x1000 % 0x40),
      .ofNat (0x80 + point / 0x40 % 0x40), .ofNat (0x80 + point % 0x40)]

def loneUnit (unit : Nat) : List UInt8 :=
  utf8 (if isSurrogate unit then replacement else unit)

/-- `Buffer.from` -/
def bufferFrom : JsString → List UInt8
  | [] => []
  | [unit] => loneUnit unit
  | unit :: next :: rest =>
      if isHighSurrogate unit && isLowSurrogate next then
        utf8 (0x10000 + (unit - 0xD800) * 0x400 + (next - 0xDC00)) ++ bufferFrom rest
      else loneUnit unit ++ bufferFrom (next :: rest)

/-- The value of the message that a producer sends. -/
def publishedValue (decimal : JsString → Option JsString) (value : Json) : List UInt8 :=
  bufferFrom (stringify decimal value)

example : stringify some (.object [(units "b", .text [0x41, 0x0A, 0xD83D, 0xDE00, 0xD800]),
    (units "10", .null), (units "9", .array [.number (units "1"), .boolean true])]) =
    units "\x7b\"9\":[1,true],\"10\":null,\"b\":\"A\\n" ++ [0xD83D, 0xDE00] ++
      units "\\ud800\"\x7d" := by decide +kernel

end Ecommerce.Kafka
