import Ecommerce.Kafka.ReadBack

set_option autoImplicit false

/-!
# Values that are read back

On its way from a writer to a reader a JSON value may lose the order of its members. What a codec
reads does not depend on it.
-/

namespace Ecommerce.Kafka

def integerDigits : Int → JsString
  | .ofNat value => decimalDigits value
  | .negSucc value => 0x2D :: decimalDigits (value + 1)

/-- An integer that a double can hold is written with all its digits. -/
def KeepsIntegers (decimal : JsString → Option JsString) : Prop :=
  ∀ value : Int, value.natAbs ≤ maxExact →
    decimal (integerDigits value) = some (integerDigits value)

/-- What comes out has the members, the elements, the texts and the integers of what goes in. -/
structure Faithful (transport : Json → Json) : Prop where
  valid : ∀ value, value.Valid → (transport value).Valid
  property : ∀ value, value.Valid → ∀ name,
    (transport value).property name = (value.property name).map transport
  array : ∀ items, transport (.array items) = .array (items.map transport)
  text : ∀ text, transport (.text text) = .text text
  integer : ∀ value : Int, value.natAbs ≤ maxExact →
    transport (.number (integerDigits value)) = .number (integerDigits value)

section Transports

variable {one two : Json → Json}

theorem Faithful.refl : Faithful id where
  valid _ valid := valid
  property _ _ _ := by simp
  array items := by simp
  text _ := rfl
  integer _ _ := rfl

theorem Faithful.comp (first : Faithful one) (second : Faithful two) :
    Faithful fun value => two (one value) where
  valid value valid := second.valid _ (first.valid value valid)
  property value valid name := by
    rw [second.property _ (first.valid value valid), first.property value valid, Option.map_map]
    rfl
  array items := by
    rw [first.array, second.array, List.map_map]
    rfl
  text text := by rw [first.text, second.text]
  integer value small := by rw [first.integer value small, second.integer value small]

/-- Written with `JSON.stringify` and parsed. -/
theorem normal_faithful {decimal : JsString → Option JsString} (numeric : Numeric decimal)
    (exact : KeepsIntegers decimal) : Faithful (Json.normal decimal) where
  valid _ valid := normal_valid numeric valid
  property _ valid := property_normal decimal valid
  array items := by rw [Json.normal, normalItems_eq]
  text text := by rw [Json.normal]
  integer value small := by
    rw [Json.normal, exact value small]
    rfl

variable (arrange : List (JsString × Json) → List (JsString × Json))

mutual

/-- A value as a JSONB column keeps it, with the members of each object in an order of its own. -/
def Json.arranged : Json → Json
  | .null => .null
  | .boolean value => .boolean value
  | .number literal => .number literal
  | .text value => .text value
  | .array items => .array (arrangedItems items)
  | .object members => .object (arrange (arrangedMembers members))

def arrangedItems : List Json → List Json
  | [] => []
  | item :: rest => item.arranged :: arrangedItems rest

def arrangedMembers : List (JsString × Json) → List (JsString × Json)
  | [] => []
  | (name, value) :: rest => (name, value.arranged) :: arrangedMembers rest

end

variable {arrange}

theorem arrangedItems_eq (items : List Json) :
    arrangedItems arrange items = items.map (Json.arranged arrange) := by
  induction items with
  | nil => rfl
  | cons item rest ih => rw [arrangedItems, ih, List.map_cons]

theorem arrangedMembers_eq (members : List (JsString × Json)) :
    arrangedMembers arrange members = members.map (Prod.map id (Json.arranged arrange)) := by
  induction members with
  | nil => rfl
  | cons member rest ih =>
      obtain ⟨name, value⟩ := member
      rw [arrangedMembers, ih, List.map_cons]
      rfl

theorem names_arranged (keeps : ∀ members, (arrange members).Perm members)
    (members : List (JsString × Json)) :
    ((arrange (members.map (Prod.map id (Json.arranged arrange)))).map Prod.fst).Perm
      (members.map Prod.fst) := by
  have perm := (keeps (members.map (Prod.map id (Json.arranged arrange)))).map Prod.fst
  simpa [List.map_map, Function.comp_def] using perm

theorem arranged_valid (keeps : ∀ members, (arrange members).Perm members) {value : Json}
    (valid : value.Valid) : (value.arranged arrange).Valid := by
  induction valid with
  | null => exact .null
  | boolean value => exact .boolean value
  | number numeric => exact .number numeric
  | text small => exact .text small
  | array each ih =>
      rw [Json.arranged, arrangedItems_eq]
      exact .array (by simpa using ih)
  | @object members distinct names each ih =>
      rw [Json.arranged, arrangedMembers_eq]
      have order := keeps (members.map (Prod.map id (Json.arranged arrange)))
      refine .object ((names_arranged keeps members).nodup_iff.mpr distinct) ?_ ?_
      · intro member listed
        obtain ⟨origin, present, rfl⟩ := List.mem_map.mp (order.subset listed)
        exact names origin present
      · intro member listed
        obtain ⟨origin, present, rfl⟩ := List.mem_map.mp (order.subset listed)
        exact ih origin present

theorem arranged_faithful (keeps : ∀ members, (arrange members).Perm members) :
    Faithful (Json.arranged arrange) where
  valid _ valid := arranged_valid keeps valid
  property value valid name := by
    cases valid with
    | @object members distinct names each =>
        rw [Json.arranged, arrangedMembers_eq, Json.property, Json.property, ← lookup_map]
        exact lookup_perm (keeps _) ((names_arranged keeps members).nodup_iff.mpr distinct) name
    | _ => rfl
  array items := by rw [Json.arranged, arrangedItems_eq]
  text text := by rw [Json.arranged]
  integer value _ := by rw [Json.arranged]

end Transports

section Digits

/-- The value of a text of digits. -/
def readDigits (literal : JsString) : Option Nat :=
  if literal ≠ [] && literal.all isDigit then
    some (literal.foldl (fun value unit => value * 10 + (unit - 0x30)) 0)
  else none

def readInteger : JsString → Option Int
  | 0x2D :: digits => (readDigits digits).map fun value => -(value : Int)
  | digits => (readDigits digits).map Int.ofNat

theorem decimalDigits_spec (value : Nat) : decimalDigits value ≠ [] ∧
    (decimalDigits value).all isDigit = true ∧
      (decimalDigits value).foldl (fun value unit => value * 10 + (unit - 0x30)) 0 = value := by
  induction value using Nat.strongRecOn with
  | ind value ih =>
      rw [decimalDigits]
      split
      · next small => simp [isDigit]; omega
      · obtain ⟨-, digits, read⟩ := ih (value / 10) (by omega)
        have last : isDigit (0x30 + value % 10) = true := by simp [isDigit]; omega
        refine ⟨by simp, by rw [List.all_append, digits]; simp [last], ?_⟩
        rw [List.foldl_append, read]
        simp only [List.foldl_cons, List.foldl_nil]
        omega

theorem readDigits_decimalDigits (value : Nat) : readDigits (decimalDigits value) = some value := by
  obtain ⟨some, digits, read⟩ := decimalDigits_spec value
  simp [readDigits, some, digits, read]

theorem readInteger_integerDigits (value : Int) :
    readInteger (integerDigits value) = some value := by
  cases value with
  | ofNat value =>
      have read := readDigits_decimalDigits value
      have digits := (decimalDigits_spec value).2.1
      rw [integerDigits]
      unfold readInteger
      split
      · next rest same =>
          rw [same] at digits
          simp [isDigit] at digits
      · rw [read]
        rfl
  | negSucc value =>
      rw [integerDigits, readInteger, readDigits_decimalDigits]
      rfl

theorem isNumber_integerDigits (value : Int) : isNumber (integerDigits value) = true := by
  cases value with
  | ofNat value => exact isNumber_decimalDigits value
  | negSucc value =>
      rw [integerDigits, isNumber, List.foldl_cons,
        foldl_decimalDigits (by decide) (value + 1) (by omega)]

end Digits

section Texts

/-- The characters of a text without a lone surrogate. -/
def readChars : JsString → Option (List Char)
  | [] => some []
  | [unit] => if isSurrogate unit then none else some [Char.ofNat unit]
  | unit :: next :: rest =>
      if isHighSurrogate unit && isLowSurrogate next then
        (readChars rest).map
          (Char.ofNat (0x10000 + (unit - 0xD800) * 0x400 + (next - 0xDC00)) :: ·)
      else if isSurrogate unit then none
      else (readChars (next :: rest)).map (Char.ofNat unit :: ·)

theorem readChars_single {unit : Nat} (alone : isSurrogate unit = false) (rest : JsString) :
    readChars (unit :: rest) = (readChars rest).map (Char.ofNat unit :: ·) := by
  have high : isHighSurrogate unit = false := by
    simp only [isSurrogate, Bool.or_eq_false_iff] at alone
    exact alone.1
  cases rest with
  | nil => simp [readChars, alone]
  | cons next rest => simp [readChars, alone, high]

theorem readChars_encode (chars : List Char) :
    readChars (chars.flatMap fun char => encodeCodePoint char.toNat) = some chars := by
  induction chars with
  | nil => rfl
  | cons char rest ih =>
      have valid : char.toNat < 0xD800 ∨ 0xDFFF < char.toNat ∧ char.toNat < 0x110000 := char.valid
      rw [List.flatMap_cons, encodeCodePoint]
      split
      · next small =>
          have alone : isSurrogate char.toNat = false := by
            simp [isSurrogate, isHighSurrogate, isLowSurrogate]
            omega
          rw [List.singleton_append, readChars_single alone, ih, Option.map_some, Char.ofNat_toNat]
      · next large =>
          have high : isHighSurrogate (0xD800 + (char.toNat - 0x10000) / 0x400) = true := by
            simp [isHighSurrogate]
            omega
          have low : isLowSurrogate (0xDC00 + (char.toNat - 0x10000) % 0x400) = true := by
            simp [isLowSurrogate]
            omega
          have point : 0x10000 + (0xD800 + (char.toNat - 0x10000) / 0x400 - 0xD800) * 0x400 +
              (0xDC00 + (char.toNat - 0x10000) % 0x400 - 0xDC00) = char.toNat := by omega
          rw [List.cons_append, List.cons_append, List.nil_append, readChars, high, low, ih, point]
          simp

def readString (text : JsString) : Option String := (readChars text).map String.ofList

theorem readString_utf16 (text : String) : readString (utf16 text) = some text := by
  rw [readString, utf16, readChars_encode, Option.map_some, String.ofList_toList]

end Texts

/-- How a value is written, and how it is read from what a faithful transport makes of it. -/
structure Codec (A : Type) where
  Fits : A → Prop
  write : A → Json
  read : Json → Option A
  valid : ∀ value, Fits value → (write value).Valid
  reads : ∀ value transport, Fits value → Faithful transport →
    read (transport (write value)) = some value

namespace Codec

variable {A B : Type}

def text : Codec String where
  Fits _ := True
  write value := .text (utf16 value)
  read
    | .text units => readString units
    | _ => none
  valid value _ := .text (units_utf16 value)
  reads value transport _ faithful := by
    rw [faithful.text]
    exact readString_utf16 value

def integer : Codec Int where
  Fits value := value.natAbs ≤ maxExact
  write value := .number (integerDigits value)
  read
    | .number literal => readInteger literal
    | _ => none
  valid value _ := .number (isNumber_integerDigits value)
  reads value transport small faithful := by
    rw [faithful.integer value small]
    exact readInteger_integerDigits value

/-- The values of another codec that stand for something. -/
def via (codec : Codec A) (Fits : B → Prop) (into : B → A) (outOf : A → Option B)
    (back : ∀ value, Fits value → outOf (into value) = some value) : Codec B where
  Fits value := Fits value ∧ codec.Fits (into value)
  write value := codec.write (into value)
  read json := (codec.read json).bind outOf
  valid value fits := codec.valid (into value) fits.2
  reads value transport fits faithful := by
    rw [codec.reads (into value) transport fits.2 faithful, Option.bind_some, back value fits.1]

/-- The values of a sum that are of one kind. -/
def summand (codec : Codec A) (wrap : A → B) (unwrap : B → Option A)
    (back : ∀ value kind, unwrap value = some kind → wrap kind = value) : Codec B where
  Fits value := ∃ kind, unwrap value = some kind ∧ codec.Fits kind
  write value := ((unwrap value).map codec.write).getD .null
  read json := (codec.read json).map wrap
  valid value := by
    rintro ⟨kind, same, fits⟩
    rw [same]
    exact codec.valid kind fits
  reads value transport := by
    rintro ⟨kind, same, fits⟩ faithful
    rw [same, Option.map_some, Option.getD_some, codec.reads kind transport fits faithful,
      Option.map_some, back value kind same]

/-- The values of an enumeration by their names. -/
def named (values : List A) (name : A → String)
    (all : ∀ value, values.find? (fun other => name other = name value) = some value) : Codec A :=
  text.via (fun _ => True) name (fun found => values.find? fun other => name other = found)
    fun value _ => all value

def natural : Codec Nat :=
  integer.via (fun _ => True) Int.ofNat (fun value => if 0 ≤ value then some value.toNat else none)
    fun value _ => by simp

def list (codec : Codec A) : Codec (List A) where
  Fits values := ∀ value ∈ values, codec.Fits value
  write values := .array (values.map codec.write)
  read
    | .array items => items.mapM codec.read
    | _ => none
  valid values fits := .array fun item member => by
    obtain ⟨value, present, rfl⟩ := List.mem_map.mp member
    exact codec.valid value (fits value present)
  reads values transport fits faithful := by
    rw [faithful.array]
    induction values with
    | nil => rfl
    | cons value rest ih =>
        have first := codec.reads value transport (fits value (by simp)) faithful
        have others := ih fun other member => fits other (List.mem_cons_of_mem _ member)
        simp only [List.map_cons, List.mapM_cons, first] at others ⊢
        rw [others]
        rfl

end Codec

/-- Some members of an object, which make a value together. -/
structure Fields (names : List String) (A : Type) where
  Fits : A → Prop
  write : A → List (JsString × Json)
  read : Json → Option A
  named : ∀ value, (write value).map Prod.fst = names.map units
  valid : ∀ value, Fits value → ∀ member ∈ write value, member.2.Valid
  reads : ∀ value transport json, Fits value → Faithful transport → json.Valid →
    (∀ member ∈ write value, json.property member.1 = some member.2) →
      read (transport json) = some value

namespace Fields

variable {names others : List String} {A B : Type}

def one (name : String) (codec : Codec A) : Fields [name] A where
  Fits := codec.Fits
  write value := [(units name, codec.write value)]
  read json := (json.property (units name)).bind codec.read
  named _ := rfl
  valid value fits := by simpa using codec.valid value fits
  reads value transport json fits faithful valid present := by
    have here := present _ (List.mem_singleton_self _)
    rw [faithful.property json valid, here]
    exact codec.reads value transport fits faithful

def and (first : Fields names A) (second : Fields others B) : Fields (names ++ others) (A × B) where
  Fits value := first.Fits value.1 ∧ second.Fits value.2
  write value := first.write value.1 ++ second.write value.2
  read json := do return (← first.read json, ← second.read json)
  named value := by rw [List.map_append, first.named, second.named, List.map_append]
  valid value fits member listed := by
    rcases List.mem_append.mp listed with left | right
    · exact first.valid value.1 fits.1 member left
    · exact second.valid value.2 fits.2 member right
  reads value transport json fits faithful valid present := by
    rw [first.reads value.1 transport json fits.1 faithful valid fun member listed =>
        present member (List.mem_append_left _ listed),
      second.reads value.2 transport json fits.2 faithful valid fun member listed =>
        present member (List.mem_append_right _ listed)]
    rfl

theorem lookup_of_nodup {X : Type} {members : List (JsString × X)}
    (distinct : (members.map Prod.fst).Nodup) {member : JsString × X} (listed : member ∈ members) :
    members.lookup member.1 = some member.2 := by
  induction members with
  | nil => cases listed
  | cons other rest ih =>
      rw [List.map_cons, List.nodup_cons] at distinct
      rcases List.mem_cons.mp listed with rfl | later
      · rw [List.lookup_cons, beq_self_eq_true]
      · have apart : member.1 ≠ other.1 := by
          intro same
          exact distinct.1 (same ▸ List.mem_map_of_mem later)
        rw [List.lookup_cons, beq_false_of_ne apart]
        exact ih distinct.2 later

/-- An object with these members and no others. -/
def object (fields : Fields names A) (distinct : (names.map units).Nodup)
    (small : ∀ name ∈ names.map units, ∀ unit ∈ name, unit < 0x10000) : Codec A where
  Fits := fields.Fits
  write value := .object (fields.write value)
  read := fields.read
  valid value fits := valid_object _ (fields.named value) distinct small (fields.valid value fits)
  reads value transport fits faithful := by
    have valid := valid_object _ (fields.named value) distinct small (fields.valid value fits)
    apply fields.reads value transport _ fits faithful valid
    intro member listed
    exact lookup_of_nodup (by rwa [fields.named value]) listed

end Fields

section Fits

variable {names others : List String} {A B : Type}

@[simp] theorem Codec.text_fits (value : String) : Codec.text.Fits value := trivial

@[simp] theorem Codec.integer_fits (value : Int) :
    Codec.integer.Fits value ↔ value.natAbs ≤ maxExact := Iff.rfl

@[simp] theorem Codec.via_fits (codec : Codec A) (fits : B → Prop) (into : B → A)
    (outOf : A → Option B) (back : ∀ value, fits value → outOf (into value) = some value)
    (value : B) : (codec.via fits into outOf back).Fits value ↔
      fits value ∧ codec.Fits (into value) := Iff.rfl

@[simp] theorem Codec.named_fits (values : List A) (name : A → String)
    (all : ∀ value, values.find? (fun other => name other = name value) = some value)
    (value : A) : (Codec.named values name all).Fits value := ⟨trivial, trivial⟩

@[simp] theorem Codec.natural_fits (value : Nat) :
    Codec.natural.Fits value ↔ value ≤ maxExact := by
  simp [Codec.natural]

@[simp] theorem Codec.list_fits (codec : Codec A) (values : List A) :
    codec.list.Fits values ↔ ∀ value ∈ values, codec.Fits value := Iff.rfl

@[simp] theorem Fields.one_fits (name : String) (codec : Codec A) (value : A) :
    (Fields.one name codec).Fits value ↔ codec.Fits value := Iff.rfl

@[simp] theorem Fields.and_fits (first : Fields names A) (second : Fields others B)
    (value : A × B) :
    (first.and second).Fits value ↔ first.Fits value.1 ∧ second.Fits value.2 := Iff.rfl

@[simp] theorem Fields.object_fits (fields : Fields names A) (distinct : (names.map units).Nodup)
    (small : ∀ name ∈ names.map units, ∀ unit ∈ name, unit < 0x10000) (value : A) :
    (fields.object distinct small).Fits value ↔ fields.Fits value := Iff.rfl

end Fits

end Ecommerce.Kafka
