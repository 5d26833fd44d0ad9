import Ecommerce.Kafka.Text

set_option autoImplicit false

/-!
# JSON.parse
-/

namespace Ecommerce.Kafka

inductive Json where
  | null
  | boolean (value : Bool)
  -- The digits as written; which double they stand for is not modelled.
  | number (literal : JsString)
  | text (value : JsString)
  | array (items : List Json)
  | object (members : List (JsString × Json))

inductive Token where
  | openArray
  | closeArray
  | openObject
  | closeObject
  | comma
  | colon
  | text (value : JsString)
  -- A literal or a number.
  | bare (value : JsString)
  deriving DecidableEq

def isDigit (unit : Nat) : Bool := 0x30 ≤ unit && unit ≤ 0x39

def isWhitespace (unit : Nat) : Bool :=
  unit == 0x20 || unit == 0x09 || unit == 0x0A || unit == 0x0D

def isBare (unit : Nat) : Bool :=
  -- Letters, digits, the signs and the point.
  isDigit unit || unit == 0x2B || unit == 0x2D || unit == 0x2E ||
    (0x41 ≤ unit && unit ≤ 0x5A) || (0x61 ≤ unit && unit ≤ 0x7A)

def hexDigit (unit : Nat) : Option Nat :=
  if isDigit unit then some (unit - 0x30)
  else if 0x41 ≤ unit ∧ unit ≤ 0x46 then some (unit - 0x41 + 10)
  else if 0x61 ≤ unit ∧ unit ≤ 0x66 then some (unit - 0x61 + 10)
  else none

def escaped (unit : Nat) : Option Nat :=
  match Char.ofNat unit with
  | '"' => some 0x22
  | '\\' => some 0x5C
  | '/' => some 0x2F
  | 'b' => some 0x08
  | 'f' => some 0x0C
  | 'n' => some 0x0A
  | 'r' => some 0x0D
  | 't' => some 0x09
  | _ => none

def punctuation (unit : Nat) : Option Token :=
  match Char.ofNat unit with
  | '[' => some .openArray
  | ']' => some .closeArray
  | '\x7b' => some .openObject
  | '\x7d' => some .closeObject
  | ',' => some .comma
  | ':' => some .colon
  | _ => none

inductive LexState where
  | between
  | bare (read : JsString)
  | text (read : JsString)
  | escape (read : JsString)
  | unicode (read : JsString) (digits : Nat) (value : Nat)

/-- The tokens of a text, `none` if some part of it is no token. -/
def tokens : LexState → JsString → Option (List Token)
  | .between, [] => some []
  | .bare read, [] => some [.bare read]
  | .text _, [] | .escape _, [] | .unicode _ _ _, [] => none
  | .between, unit :: rest =>
      if isWhitespace unit then tokens .between rest
      else if unit = 0x22 then tokens (.text []) rest
      else if isBare unit then tokens (.bare [unit]) rest
      else
        match punctuation unit with
        | some token => (tokens .between rest).map (token :: ·)
        | none => none
  | .bare read, unit :: rest =>
      if isBare unit then tokens (.bare (read ++ [unit])) rest
      else if isWhitespace unit then (tokens .between rest).map (.bare read :: ·)
      else if unit = 0x22 then (tokens (.text []) rest).map (.bare read :: ·)
      else
        match punctuation unit with
        | some token => (tokens .between rest).map (.bare read :: token :: ·)
        | none => none
  | .text read, unit :: rest =>
      if unit = 0x22 then (tokens .between rest).map (.text read :: ·)
      else if unit = 0x5C then tokens (.escape read) rest
      else if unit < 0x20 then none
      else tokens (.text (read ++ [unit])) rest
  | .escape read, unit :: rest =>
      if unit = 0x75 then tokens (.unicode read 4 0) rest
      else
        match escaped unit with
        | some plain => tokens (.text (read ++ [plain])) rest
        | none => none
  | .unicode read digits value, unit :: rest =>
      match hexDigit unit with
      | none => none
      | some digit =>
          if digits ≤ 1 then tokens (.text (read ++ [value * 16 + digit])) rest
          else tokens (.unicode read (digits - 1) (value * 16 + digit)) rest

/-- Where a number is being read; the argument says whether it may end here. -/
inductive NumberState where
  | start
  | minus
  | zero
  | integer
  | point
  | fraction
  | exponent
  | exponentSign
  | exponentDigits
  | wrong
  deriving DecidableEq

def NumberState.next (state : NumberState) (unit : Nat) : NumberState :=
  let exponentMark : Bool := unit == 0x65 || unit == 0x45
  match state with
  | .start => if unit = 0x2D then .minus else if unit = 0x30 then .zero
      else if isDigit unit then .integer else .wrong
  | .minus => if unit = 0x30 then .zero else if isDigit unit then .integer else .wrong
  | .zero => if unit = 0x2E then .point else if exponentMark then .exponent else .wrong
  | .integer => if isDigit unit then .integer else if unit = 0x2E then .point
      else if exponentMark then .exponent else .wrong
  | .point => if isDigit unit then .fraction else .wrong
  | .fraction => if isDigit unit then .fraction else if exponentMark then .exponent else .wrong
  | .exponent => if unit = 0x2B ∨ unit = 0x2D then .exponentSign
      else if isDigit unit then .exponentDigits else .wrong
  | .exponentSign | .exponentDigits => if isDigit unit then .exponentDigits else .wrong
  | .wrong => .wrong

def isNumber (literal : JsString) : Bool :=
  match literal.foldl NumberState.next .start with
  | .zero | .integer | .fraction | .exponentDigits => true
  | _ => false

def literalValue (literal : JsString) : Option Json :=
  if literal = units "null" then some .null
  else if literal = units "true" then some (.boolean true)
  else if literal = units "false" then some (.boolean false)
  else if isNumber literal then some (.number literal)
  else none

def setMember (members : List (JsString × Json)) (name : JsString) (value : Json) :
    List (JsString × Json) :=
  -- A later member of the same name replaces the value of the earlier one.
  match members with
  | [] => [(name, value)]
  | (other, old) :: rest =>
      if other = name then (other, value) :: rest else (other, old) :: setMember rest name value

inductive Frame where
  | array (items : List Json)
  | object (members : List (JsString × Json))
  | member (members : List (JsString × Json)) (name : JsString)

inductive Expecting where
  | value
  | valueOrClose
  | name
  | nameOrClose
  | colon
  | commaOrClose
  | finished (value : Json)

structure ParseState where
  stack : List Frame
  expecting : Expecting

/-- A complete value goes to the innermost open array or object. -/
def ParseState.place (stack : List Frame) (value : Json) : ParseState :=
  match stack with
  | [] => { stack := [], expecting := .finished value }
  | .array items :: rest => { stack := .array (items ++ [value]) :: rest, expecting := .commaOrClose }
  | .member members name :: rest =>
      { stack := .object (setMember members name value) :: rest, expecting := .commaOrClose }
  | .object members :: rest => { stack := .object members :: rest, expecting := .commaOrClose }

def ParseState.startValue (stack : List Frame) : Token → Option ParseState
  | .openArray => some { stack := .array [] :: stack, expecting := .valueOrClose }
  | .openObject => some { stack := .object [] :: stack, expecting := .nameOrClose }
  | .text value => some (.place stack (.text value))
  | .bare literal => (literalValue literal).map (.place stack)
  | _ => none

def ParseState.step (state : ParseState) (token : Token) : Option ParseState :=
  match state.expecting, token, state.stack with
  | .valueOrClose, .closeArray, .array items :: rest => some (.place rest (.array items))
  | .value, token, stack | .valueOrClose, token, stack => ParseState.startValue stack token
  | .nameOrClose, .closeObject, .object members :: rest => some (.place rest (.object members))
  | .name, .text name, .object members :: rest
  | .nameOrClose, .text name, .object members :: rest =>
      some { stack := .member members name :: rest, expecting := .colon }
  | .colon, .colon, stack => some { stack, expecting := .value }
  | .commaOrClose, .comma, .array items :: rest =>
      some { stack := .array items :: rest, expecting := .value }
  | .commaOrClose, .comma, .object members :: rest =>
      some { stack := .object members :: rest, expecting := .name }
  | .commaOrClose, .closeArray, .array items :: rest => some (.place rest (.array items))
  | .commaOrClose, .closeObject, .object members :: rest => some (.place rest (.object members))
  | _, _, _ => none

/-- `JSON.parse`, `none` where it throws a SyntaxError. -/
def jsonParse (text : JsString) : Option Json := do
  let read ← tokens .between text
  let state ← read.foldlM ParseState.step { stack := [], expecting := .value }
  match state.expecting with
  | .finished value => some value
  | _ => none

end Ecommerce.Kafka
