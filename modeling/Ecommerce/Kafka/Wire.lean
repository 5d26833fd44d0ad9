import Ecommerce.Kafka.Utf8

set_option autoImplicit false

/-!
# What is published is what is parsed
-/

namespace Ecommerce.Kafka

def Units (text : JsString) : Prop := ∀ unit ∈ text, unit < 0x10000

/-- A value as a program has it: no name twice in an object, and numbers that are numbers. -/
inductive Json.Valid : Json → Prop where
  | null : Valid .null
  | boolean (value : Bool) : Valid (.boolean value)
  | number {literal : JsString} (numeric : isNumber literal = true) : Valid (.number literal)
  | text {value : JsString} (small : Units value) : Valid (.text value)
  | array {items : List Json} (each : ∀ item ∈ items, item.Valid) : Valid (.array items)
  | object {members : List (JsString × Json)} (distinct : (members.map Prod.fst).Nodup)
      (names : ∀ member ∈ members, Units member.1)
      (each : ∀ member ∈ members, member.2.Valid) : Valid (.object members)

/-- The decimal form of a number is a number. -/
def Numeric (decimal : JsString → Option JsString) : Prop :=
  ∀ literal text, isNumber literal = true → decimal literal = some text → isNumber text = true

section Normal

variable (decimal : JsString → Option JsString)

mutual

/-- What is left of a value when it is written and read again. -/
def Json.normal : Json → Json
  | .null => .null
  | .boolean value => .boolean value
  | .number literal => (decimal literal).elim .null .number
  | .text value => .text value
  | .array items => .array (normalItems items)
  | .object members => .object (enumerate (normalMembers members))

def normalItems : List Json → List Json
  | [] => []
  | item :: rest => item.normal :: normalItems rest

def normalMembers : List (JsString × Json) → List (JsString × Json)
  | [] => []
  | (name, value) :: rest => (name, value.normal) :: normalMembers rest

end

mutual

def jsonTokens : Json → List Token
  | .null => [.bare (units "null")]
  | .boolean true => [.bare (units "true")]
  | .boolean false => [.bare (units "false")]
  | .number literal => [.bare ((decimal literal).getD (units "null"))]
  | .text value => [.text value]
  | .array items => .openArray :: List.intercalate [.comma] (itemTokens items) ++ [.closeArray]
  | .object members =>
      let read := (enumerate (memberTokens members)).map fun member =>
        .text member.1 :: .colon :: member.2
      .openObject :: List.intercalate [.comma] read ++ [.closeObject]

def itemTokens : List Json → List (List Token)
  | [] => []
  | item :: rest => jsonTokens item :: itemTokens rest

def memberTokens : List (JsString × Json) → List (JsString × List Token)
  | [] => []
  | (name, value) :: rest => (name, jsonTokens value) :: memberTokens rest

end

theorem normalItems_eq (items : List Json) :
    normalItems decimal items = items.map (Json.normal decimal) := by
  induction items with
  | nil => rfl
  | cons item rest ih => rw [normalItems, ih, List.map_cons]

theorem normalMembers_eq (members : List (JsString × Json)) :
    normalMembers decimal members = members.map (Prod.map id (Json.normal decimal)) := by
  induction members with
  | nil => rfl
  | cons member rest ih => rw [normalMembers, ih, List.map_cons, Prod.map, id]

theorem itemTokens_eq (items : List Json) :
    itemTokens decimal items = items.map (jsonTokens decimal) := by
  induction items with
  | nil => rfl
  | cons item rest ih => rw [itemTokens, ih, List.map_cons]

theorem memberTokens_eq (members : List (JsString × Json)) :
    memberTokens decimal members = members.map (Prod.map id (jsonTokens decimal)) := by
  induction members with
  | nil => rfl
  | cons member rest ih => rw [memberTokens, ih, List.map_cons, Prod.map, id]

theorem stringifyItems_eq (items : List Json) :
    stringifyItems decimal items = items.map (stringify decimal) := by
  induction items with
  | nil => rfl
  | cons item rest ih => rw [stringifyItems, ih, List.map_cons]

theorem stringifyMembers_eq (members : List (JsString × Json)) :
    stringifyMembers decimal members = members.map (Prod.map id (stringify decimal)) := by
  induction members with
  | nil => rfl
  | cons member rest ih => rw [stringifyMembers, ih, List.map_cons, Prod.map, id]

end Normal

section Enumerate

variable {A B : Type}

theorem enumerate_map (f : A → B) (members : List (JsString × A)) :
    enumerate (members.map (Prod.map id f)) = (enumerate members).map (Prod.map id f) := by
  unfold enumerate
  rw [List.map_append, List.filter_map, List.filter_map]
  congr 1
  exact (List.map_insertionSort (fun one two => indexOrder one two = true)
    (fun one two => indexOrder one two = true) (Prod.map id f) _ fun one _ two _ => Iff.rfl).symm

theorem enumerate_perm (members : List (JsString × A)) : (enumerate members).Perm members := by
  unfold enumerate
  refine ((List.perm_insertionSort _ _).append_right _).trans ?_
  have same : (fun member : JsString × A => (arrayIndex member.1).isNone) =
      fun member => !(arrayIndex member.1).isSome := by
    funext member
    simp
  rw [same]
  exact List.filter_append_perm _ members

end Enumerate

section Lexing

variable {unit : Nat} {text rest read : JsString}

/-- A literal or a number does not go on in the text. -/
def Delimited : JsString → Prop
  | [] => True
  | unit :: _ => isBare unit = false

/-- The text is read as these tokens, whatever comes after it. -/
def Reads (text : JsString) (read : List Token) : Prop :=
  ∀ rest, Delimited rest → tokens .between (text ++ rest) = (tokens .between rest).map (read ++ ·)

theorem hexDigit_hexUnit {digit : Nat} (small : digit < 16) : hexDigit (hexUnit digit) = some digit := by
  have all : ∀ digit < 16, hexDigit (hexUnit digit) = some digit := by decide
  exact all digit small

theorem tokens_unicodeEscape (small : unit < 0x10000) :
    tokens (.text read) (unicodeEscape unit ++ rest) = tokens (.text (read ++ [unit])) rest := by
  have value : (((0 * 16 + unit / 0x1000) * 16 + unit / 0x100 % 0x10) * 16 +
      unit / 0x10 % 0x10) * 16 + unit % 0x10 = unit := by omega
  simp [unicodeEscape, tokens, hexDigit_hexUnit (by omega : unit / 0x1000 < 16),
    hexDigit_hexUnit (by omega : unit / 0x100 % 0x10 < 16),
    hexDigit_hexUnit (by omega : unit / 0x10 % 0x10 < 16),
    hexDigit_hexUnit (by omega : unit % 0x10 < 16)]
  simp at value
  rw [value]

theorem tokens_plain (quotes : unit ≠ 0x22) (escapes : unit ≠ 0x5C) (control : ¬ unit < 0x20) :
    tokens (.text read) (unit :: rest) = tokens (.text (read ++ [unit])) rest := by
  simp [tokens, quotes, escapes, control]

theorem tokens_quoteUnit (small : unit < 0x10000) :
    tokens (.text read) (quoteUnit unit ++ rest) = tokens (.text (read ++ [unit])) rest := by
  unfold quoteUnit
  split
  · rfl
  · rfl
  · rfl
  · rfl
  · rfl
  · rfl
  · rfl
  · split
    · exact tokens_unicodeEscape small
    · next quotes escapes shown =>
        simp only [Bool.or_eq_true, decide_eq_true_eq, not_or] at shown
        exact tokens_plain quotes escapes shown.1

theorem tokens_quoteUnits (small : Units text) :
    tokens (.text read) (quoteUnits text ++ rest) = tokens (.text (read ++ text)) rest := by
  fun_induction quoteUnits text generalizing read with
  | case1 => simp
  | case2 unit => exact tokens_quoteUnit (small unit (by simp))
  | case3 high low later pair ih =>
      simp only [Bool.and_eq_true, isHighSurrogate_iff, isLowSurrogate_iff] at pair
      rw [List.cons_append, List.cons_append,
        tokens_plain (by omega) (by omega) (by omega),
        tokens_plain (by omega) (by omega) (by omega), ih (fun unit member => small unit (by simp [member]))]
      simp
  | case4 unit next later alone ih =>
      rw [List.append_assoc, tokens_quoteUnit (small unit (by simp)),
        ih (fun unit member => small unit (List.mem_cons_of_mem _ member))]
      simp

theorem tokens_bare (literal : JsString) (bare : ∀ unit ∈ literal, isBare unit = true)
    (delimited : Delimited rest) : tokens (.bare read) (literal ++ rest) =
      (tokens .between rest).map (.bare (read ++ literal) :: ·) := by
  induction literal generalizing read with
  | nil =>
      cases rest with
      | nil => simp [tokens]
      | cons unit later =>
          have ending : isBare unit = false := delimited
          simp only [List.nil_append, List.append_nil, tokens, ending, Bool.false_eq_true, if_false]
          split
          · rfl
          · split
            · rfl
            · cases punctuation unit <;> simp [Function.comp_def]
  | cons unit later ih =>
      have first : isBare unit = true := bare unit (by simp)
      rw [List.cons_append, tokens, if_pos first,
        ih (fun other member => bare other (List.mem_cons_of_mem _ member))]
      simp

theorem not_whitespace_of_isBare (bare : isBare unit = true) :
    isWhitespace unit = false ∧ unit ≠ 0x22 := by
  constructor
  · by_contra blank
    simp only [isWhitespace, Bool.not_eq_false, Bool.or_eq_true, beq_iff_eq] at blank
    rcases blank with ((rfl | rfl) | rfl) | rfl <;> cases bare
  · rintro rfl
    cases bare

theorem reads_bare {literal : JsString} (some : literal ≠ [])
    (bare : ∀ unit ∈ literal, isBare unit = true) : Reads literal [.bare literal] := by
  intro rest delimited
  cases literal with
  | nil => exact absurd rfl some
  | cons unit later =>
      have first : isBare unit = true := bare unit (by simp)
      obtain ⟨blank, quotes⟩ := not_whitespace_of_isBare first
      rw [List.cons_append, tokens, if_neg (by simp [blank]), if_neg quotes, if_pos first,
        tokens_bare later (fun other member => bare other (List.mem_cons_of_mem _ member)) delimited]
      rfl

theorem reads_quote (small : Units text) : Reads (quote text) [.text text] := by
  intro rest _
  have opened : tokens .between (quote text ++ rest) =
      tokens (.text []) (quoteUnits text ++ 0x22 :: rest) := by
    simp [quote, tokens, isWhitespace]
  rw [opened, tokens_quoteUnits small]
  simp [tokens]

theorem unit_of_char {char : Char} (same : Char.ofNat unit = char) (some : char ≠ '\x00') :
    unit = char.toNat := by
  unfold Char.ofNat at same
  by_cases valid : unit.isValidChar
  · rw [dif_pos valid] at same
    rw [← same]
    rfl
  · rw [dif_neg valid] at same
    exact absurd same.symm some

theorem delimited_punctuation {token : Token} (mark : punctuation unit = some token) :
    isWhitespace unit = false ∧ unit ≠ 0x22 ∧ isBare unit = false := by
  have marks : unit ∈ units "[]\x7b\x7d,:" := by
    unfold punctuation at mark
    split at mark
    case h_7 => cases mark
    all_goals
      next char =>
        rw [unit_of_char char (by decide)]
        decide
  have all : ∀ unit ∈ units "[]\x7b\x7d,:",
      isWhitespace unit = false ∧ unit ≠ 0x22 ∧ isBare unit = false := by decide
  exact all unit marks

theorem reads_punctuation {token : Token} {later : JsString} {read : List Token}
    (mark : punctuation unit = some token) (reads : Reads later read) :
    Reads (unit :: later) (token :: read) := by
  intro rest delimited
  obtain ⟨blank, quotes, bare⟩ := delimited_punctuation mark
  rw [List.cons_append, tokens, if_neg (by simp [blank]), if_neg quotes, if_neg (by simp [bare]),
    mark]
  simp [reads rest delimited, Function.comp_def]

theorem Reads.append {one two : JsString} {first second : List Token} (reads : Reads one first)
    (later : Reads two second) (delimits : ∀ rest, Delimited rest → Delimited (two ++ rest)) :
    Reads (one ++ two) (first ++ second) := by
  intro rest delimited
  rw [List.append_assoc, reads _ (delimits rest delimited), later rest delimited]
  simp [Function.comp_def]

theorem reads_nil : Reads [] [] := by
  intro rest _
  simp

/-- Texts that are read one by one are read with commas between them. -/
theorem reads_intercalate {A : Type} (write : A → JsString) (read : A → List Token) (items : List A)
    (each : ∀ item ∈ items, Reads (write item) (read item)) :
    Reads (List.intercalate [0x2C] (items.map write)) (List.intercalate [.comma] (items.map read)) := by
  induction items with
  | nil => exact reads_nil
  | cons item rest ih =>
      have first := each item (by simp)
      cases rest with
      | nil => simpa using first
      | cons next later =>
          have others := ih fun other member => each other (List.mem_cons_of_mem _ member)
          have comma := reads_punctuation (by decide : punctuation 0x2C = some .comma) others
          have both := first.append comma (fun rest _ => (by decide : isBare 0x2C = false))
          simpa [List.intercalate_cons_cons] using both

theorem next_bare {state : NumberState} (right : state.next unit ≠ .wrong) : isBare unit = true := by
  unfold NumberState.next at right
  unfold isBare
  cases state <;> grind [isDigit]

theorem number_bare (literal : JsString) (state : NumberState)
    (right : literal.foldl NumberState.next state ≠ .wrong) : ∀ unit ∈ literal, isBare unit = true := by
  induction literal generalizing state with
  | nil => simp
  | cons unit later ih =>
      have onward : state.next unit ≠ .wrong := by
        intro wrong
        rw [List.foldl_cons, wrong] at right
        have stays : ∀ later : JsString, later.foldl NumberState.next .wrong = .wrong := by
          intro later
          induction later with
          | nil => rfl
          | cons unit later ih => exact ih
        exact right (stays later)
      intro other member
      rcases List.mem_cons.mp member with rfl | member
      · exact next_bare onward
      · exact ih _ right other member

theorem isNumber_bare {literal : JsString} (numeric : isNumber literal = true) :
    literal ≠ [] ∧ ∀ unit ∈ literal, isBare unit = true := by
  constructor
  · rintro rfl
    cases numeric
  · apply number_bare literal .start
    intro wrong
    rw [isNumber, wrong] at numeric
    cases numeric

end Lexing

section Reading

variable {decimal : JsString → Option JsString} {value : Json}

theorem reads_decimal (numeric : Numeric decimal) {literal : JsString}
    (number : isNumber literal = true) :
    Reads ((decimal literal).getD (units "null")) [.bare ((decimal literal).getD (units "null"))] := by
  cases written : decimal literal with
  | none => exact reads_bare (by decide) (by decide)
  | some text =>
      obtain ⟨some, bare⟩ := isNumber_bare (numeric literal text number written)
      exact reads_bare some bare

/-- A text and its tokens in brackets. -/
theorem Reads.enclosed {text : JsString} {read : List Token} (reads : Reads text read)
    {first last : Nat} {opening closing : Token} (opens : punctuation first = some opening)
    (closes : punctuation last = some closing) :
    Reads (first :: text ++ [last]) (opening :: read ++ [closing]) := by
  have ending : Reads [last] [closing] := reads_punctuation closes reads_nil
  have inner := reads.append ending fun rest _ => (delimited_punctuation closes).2.2
  exact reads_punctuation opens inner

theorem reads_stringify (numeric : Numeric decimal) (valid : value.Valid) :
    Reads (stringify decimal value) (jsonTokens decimal value) := by
  have keyword (text : String) (some : units text ≠ [])
      (bare : ∀ unit ∈ units text, isBare unit = true) : Reads (units text) [.bare (units text)] :=
    reads_bare some bare
  induction valid with
  | null => exact keyword "null" (by decide) (by decide)
  | boolean value =>
      cases value with
      | true => exact keyword "true" (by decide) (by decide)
      | false => exact keyword "false" (by decide) (by decide)
  | number number => exact reads_decimal numeric number
  | text small => exact reads_quote small
  | array each ih =>
      rw [stringify, jsonTokens, stringifyItems_eq, itemTokens_eq]
      exact (reads_intercalate _ _ _ ih).enclosed (by decide) (by decide)
  | @object members distinct names each ih =>
      simp only [stringify, jsonTokens, stringifyMembers_eq, memberTokens_eq, enumerate_map,
        List.map_map]
      refine (reads_intercalate _ _ _ ?_).enclosed (by decide) (by decide)
      intro member listed
      have present : member ∈ members := (enumerate_perm members).subset listed
      have colon := reads_punctuation (by decide : punctuation 0x3A = some .colon) (ih member present)
      exact (reads_quote (names member present)).append colon
        fun rest _ => (by decide : isBare 0x3A = false)

end Reading

section Parsing

variable {decimal : JsString → Option JsString} {value : Json} {stack : List Frame}

/-- The tokens are parsed to the value, wherever a value may stand. -/
def Parses (read : List Token) (value : Json) : Prop :=
  ∀ stack expecting rest, expecting = .value ∨ expecting = .valueOrClose →
    (read ++ rest).foldlM ParseState.step { stack, expecting } =
      rest.foldlM ParseState.step (.place stack value)

theorem step_startValue (stack : List Frame) {expecting : Expecting}
    (ready : expecting = .value ∨ expecting = .valueOrClose) {token : Token} (opens : token ≠ .closeArray) :
    ParseState.step { stack, expecting } token = ParseState.startValue stack token := by
  rcases ready with rfl | rfl
  · cases token <;> simp [ParseState.step]
  · cases token <;> simp_all [ParseState.step]

theorem parses_single {token : Token} (opens : token ≠ .closeArray)
    (starts : ∀ stack, ParseState.startValue stack token = some (.place stack value)) :
    Parses [token] value := by
  intro stack expecting rest ready
  rw [List.singleton_append, List.foldlM_cons, step_startValue stack ready opens, starts stack]
  rfl

theorem parse_items {A : Type} (read : A → List Token) (parsed : A → Json) (items : List A)
    (some : items ≠ []) (each : ∀ item ∈ items, Parses (read item) (parsed item)) (done : List Json)
    {expecting : Expecting} (ready : expecting = .value ∨ expecting = .valueOrClose)
    (rest : List Token) :
    (List.intercalate [.comma] (items.map read) ++ .closeArray :: rest).foldlM ParseState.step
        { stack := .array done :: stack, expecting } =
      rest.foldlM ParseState.step (.place stack (.array (done ++ items.map parsed))) := by
  induction items generalizing done expecting with
  | nil => exact absurd rfl some
  | cons item later ih =>
      have first := each item (by simp)
      cases later with
      | nil =>
          simp only [List.map_cons, List.map_nil, List.intercalate_singleton]
          rw [first _ _ _ ready]
          rfl
      | cons next others =>
          have onward := ih (by simp) (fun other member => each other (List.mem_cons_of_mem _ member))
            (done ++ [parsed item]) (Or.inl rfl)
          simp only [List.map_cons, List.intercalate_cons_cons, List.append_assoc] at onward ⊢
          rw [first _ _ _ ready]
          exact onward

theorem setMember_new {members : List (JsString × Json)} {name : JsString}
    (new : name ∉ members.map Prod.fst) :
    setMember members name value = members ++ [(name, value)] := by
  induction members with
  | nil => rfl
  | cons member rest ih =>
      simp only [List.map_cons, List.mem_cons, not_or] at new
      rw [setMember, if_neg (Ne.symm new.1), ih new.2]
      rfl

theorem parse_members {A : Type} (read : A → List Token) (parsed : A → Json)
    (members : List (JsString × A)) (some : members ≠ [])
    (each : ∀ member ∈ members, Parses (read member.2) (parsed member.2))
    (done : List (JsString × Json))
    (distinct : (done.map Prod.fst ++ members.map Prod.fst).Nodup) {expecting : Expecting}
    (ready : expecting = .name ∨ expecting = .nameOrClose) (rest : List Token) :
    (List.intercalate [.comma] (members.map fun member =>
        .text member.1 :: .colon :: read member.2) ++ .closeObject :: rest).foldlM ParseState.step
          { stack := .object done :: stack, expecting } =
      rest.foldlM ParseState.step
        (.place stack (.object (done ++ members.map (Prod.map id parsed)))) := by
  induction members generalizing done expecting with
  | nil => exact absurd rfl some
  | cons member later ih =>
      obtain ⟨name, value⟩ := member
      have first : Parses (read value) (parsed value) := each (name, value) (by simp)
      have new : name ∉ done.map Prod.fst := by
        intro present
        exact List.disjoint_of_nodup_append distinct present (by simp)
      have opened : ParseState.step { stack := .object done :: stack, expecting } (.text name) =
          Option.some { stack := .member done name :: stack, expecting := .colon } := by
        rcases ready with rfl | rfl <;> rfl
      have named (tokens : List Token) : (.text name :: .colon :: read value ++ tokens).foldlM
          ParseState.step { stack := .object done :: stack, expecting } = tokens.foldlM
            ParseState.step
              { stack := .object (done ++ [(name, parsed value)]) :: stack
                expecting := .commaOrClose } := by
        have placed := first (.member done name :: stack) .value tokens (Or.inl rfl)
        rw [ParseState.place, setMember_new new] at placed
        rw [List.cons_append, List.foldlM_cons, opened]
        exact placed
      cases later with
      | nil =>
          simp only [List.map_cons, List.map_nil, List.intercalate_singleton]
          rw [named]
          rfl
      | cons next others =>
          have onward := ih (by simp) (fun other member => each other (List.mem_cons_of_mem _ member))
            (done ++ [(name, parsed value)]) (by simpa using distinct) (Or.inl rfl)
          simp only [List.map_cons, List.intercalate_cons_cons, List.append_assoc] at onward ⊢
          rw [named]
          exact onward

theorem parses_decimal (numeric : Numeric decimal) {literal : JsString}
    (number : isNumber literal = true) :
    Parses [.bare ((decimal literal).getD (units "null"))]
      ((decimal literal).elim .null .number) := by
  cases written : decimal literal with
  | none => exact parses_single (by simp) fun stack => rfl
  | some text =>
      have other (keyword : String) (named : isNumber (units keyword) = false) :
          text ≠ units keyword := by
        rintro rfl
        rw [numeric literal _ number written] at named
        cases named
      have read : literalValue text = some (.number text) := by
        rw [literalValue, if_neg (other "null" (by decide)), if_neg (other "true" (by decide)),
          if_neg (other "false" (by decide)), if_pos (numeric literal text number written)]
      refine parses_single (by simp) fun stack => ?_
      simp [ParseState.startValue, read]

theorem parses_jsonTokens (numeric : Numeric decimal) (valid : value.Valid) :
    Parses (jsonTokens decimal value) (value.normal decimal) := by
  induction valid with
  | null => exact parses_single (by simp) fun stack => rfl
  | boolean value => cases value <;> exact parses_single (by simp) fun stack => rfl
  | number number => exact parses_decimal numeric number
  | text => exact parses_single (by simp) fun stack => rfl
  | @array items each ih =>
      intro stack expecting rest ready
      have opened := step_startValue stack ready (by simp : Token.openArray ≠ .closeArray)
      rw [jsonTokens, itemTokens_eq, Json.normal, normalItems_eq, List.append_assoc, List.cons_append,
        List.foldlM_cons, opened]
      by_cases empty : items = []
      · subst empty
        rfl
      · exact parse_items _ _ items empty ih [] (Or.inr rfl) rest
  | @object members distinct names each ih =>
      intro stack expecting rest ready
      have opened := step_startValue stack ready (by simp : Token.openObject ≠ .closeArray)
      simp only [jsonTokens, memberTokens_eq, enumerate_map, Json.normal, normalMembers_eq,
        List.map_map]
      rw [List.append_assoc, List.cons_append, List.foldlM_cons, opened]
      have order := enumerate_perm members
      by_cases empty : enumerate members = []
      · rw [empty]
        rfl
      · have inOrder := fun member listed => ih member (order.subset listed)
        have sameNames : ((enumerate members).map Prod.fst).Perm (members.map Prod.fst) :=
          order.map _
        exact parse_members _ _ _ empty inOrder [] (sameNames.nodup_iff.mpr distinct) (Or.inr rfl)
          rest

end Parsing

section Text

variable {decimal : JsString → Option JsString} {value : Json}

theorem paired_ascii {text : JsString} (ascii : ∀ unit ∈ text, unit < 0x80) : Paired text := by
  induction text with
  | nil => exact .nil
  | cons unit rest ih =>
      have small := ascii unit (by simp)
      exact .unit (by omega) (isSurrogate_false.mpr (by omega))
        (ih fun other member => ascii other (List.mem_cons_of_mem _ member))

theorem isBare_ascii {unit : Nat} (bare : isBare unit = true) : unit < 0x80 := by
  simp only [isBare, isDigit, Bool.or_eq_true, Bool.and_eq_true, decide_eq_true_eq,
    beq_iff_eq] at bare
  omega

theorem paired_quoteUnit {unit : Nat} (small : unit < 0x10000) : Paired (quoteUnit unit) := by
  unfold quoteUnit
  split
  all_goals try exact paired_ascii (by decide)
  split
  · have hex (digit : Nat) (fits : digit < 16) : hexUnit digit < 0x80 := by
      unfold hexUnit
      split <;> omega
    apply paired_ascii
    simp only [unicodeEscape, List.forall_mem_cons]
    refine ⟨by decide, by decide, hex _ ?_, hex _ ?_, hex _ ?_, hex _ ?_, by simp⟩ <;> omega
  · next shown =>
      simp only [Bool.or_eq_true, not_or, Bool.not_eq_true] at shown
      exact .unit small shown.2 .nil

theorem paired_quoteUnits {text : JsString} (small : Units text) : Paired (quoteUnits text) := by
  fun_induction quoteUnits text with
  | case1 => exact .nil
  | case2 unit => exact paired_quoteUnit (small unit (by simp))
  | case3 high low later pair ih =>
      simp only [Bool.and_eq_true] at pair
      exact .pair pair.1 pair.2 (ih fun unit member => small unit (by simp [member]))
  | case4 unit next later alone ih =>
      exact (paired_quoteUnit (small unit (by simp))).append
        (ih fun unit member => small unit (List.mem_cons_of_mem _ member))

theorem paired_quote {text : JsString} (small : Units text) : Paired (quote text) := by
  have closing : Paired [0x22] := paired_ascii (by decide)
  exact .unit (by decide) (by decide) ((paired_quoteUnits small).append closing)

theorem paired_enclosed {first last : Nat} {text : JsString} (opening : first < 0x80)
    (closing : last < 0x80) (paired : Paired text) : Paired (first :: text ++ [last]) := by
  have ending : Paired [last] := paired_ascii (by simpa using closing)
  exact .unit (by omega) (isSurrogate_false.mpr (by omega)) (paired.append ending)

theorem paired_intercalate (texts : List JsString) (each : ∀ text ∈ texts, Paired text) :
    Paired (List.intercalate [0x2C] texts) := by
  induction texts with
  | nil => exact .nil
  | cons text rest ih =>
      have first := each text (by simp)
      cases rest with
      | nil => simpa using first
      | cons next later =>
          have others := ih fun other member => each other (List.mem_cons_of_mem _ member)
          have comma : Paired [0x2C] := paired_ascii (by decide)
          rw [List.intercalate_cons_cons]
          exact (first.append comma).append others

theorem paired_stringify (numeric : Numeric decimal) (valid : value.Valid) :
    Paired (stringify decimal value) := by
  have keyword (text : String) (ascii : ∀ unit ∈ units text, unit < 0x80) : Paired (units text) :=
    paired_ascii ascii
  induction valid with
  | null => exact keyword "null" (by decide)
  | boolean value =>
      cases value with
      | true => exact keyword "true" (by decide)
      | false => exact keyword "false" (by decide)
  | @number literal number =>
      rw [stringify]
      cases written : decimal literal with
      | none => exact paired_ascii (by decide)
      | some text =>
          have bare := (isNumber_bare (numeric literal text number written)).2
          exact paired_ascii fun unit member => isBare_ascii (bare unit member)
  | text small => exact paired_quote small
  | array each ih =>
      rw [stringify, stringifyItems_eq]
      refine paired_enclosed (by decide) (by decide) (paired_intercalate _ ?_)
      simpa using ih
  | @object members distinct names each ih =>
      simp only [stringify, stringifyMembers_eq, enumerate_map, List.map_map]
      refine paired_enclosed (by decide) (by decide) (paired_intercalate _ ?_)
      intro text listed
      obtain ⟨member, present, rfl⟩ := List.mem_map.mp listed
      have origin : member ∈ members := (enumerate_perm members).subset present
      have colon : Paired (0x3A :: stringify decimal member.2) :=
        .unit (by decide) (by decide) (ih member origin)
      exact (paired_quote (names member origin)).append colon

/-- A consumer parses what a producer has published. -/
theorem jsonParse_publishedValue (numeric : Numeric decimal) (valid : value.Valid) :
    jsonParse (bufferToString (publishedValue decimal value)) = some (value.normal decimal) := by
  rw [publishedValue, bufferToString_bufferFrom (paired_stringify numeric valid)]
  have lexed := reads_stringify numeric valid [] trivial
  have parsed := parses_jsonTokens numeric valid [] .value [] (Or.inl rfl)
  simp only [List.append_nil] at lexed parsed
  rw [jsonParse, lexed]
  simp [tokens, parsed, ParseState.place]

end Text

end Ecommerce.Kafka
