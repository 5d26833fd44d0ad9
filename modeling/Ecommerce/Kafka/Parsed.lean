import Ecommerce.Kafka.Wire
import Mathlib.Algebra.Ring.Nat

set_option autoImplicit false

/-!
# What JSON.parse answers with

Whatever bytes a message has, the value that is parsed from them can be published again.
-/

namespace Ecommerce.Kafka

section Tokens

variable {text : JsString}

def Token.Small : Token → Prop
  | .text value => Units value
  | _ => True

def LexState.Small : LexState → Prop
  | .between | .bare _ => True
  | .text read | .escape read => Units read
  | .unicode read digits value => Units read ∧ 1 ≤ digits ∧ value * 16 ^ digits + 16 ^ digits ≤ 0x10000

theorem Units.snoc {unit : Nat} (small : Units text) (fits : unit < 0x10000) :
    Units (text ++ [unit]) := by
  simpa [Units, or_imp, forall_and] using And.intro small fits

theorem hexDigit_lt {unit digit : Nat} (read : hexDigit unit = some digit) : digit < 16 := by
  unfold hexDigit isDigit at read
  grind

theorem escaped_lt {unit plain : Nat} (read : escaped unit = some plain) : plain < 0x10000 := by
  unfold escaped at read
  split at read <;> cases read <;> decide

theorem tokens_small (state : LexState) (text : JsString) (small : Units text)
    (sound : state.Small) {read : List Token} (lexed : tokens state text = some read) :
    ∀ token ∈ read, token.Small := by
  have later {unit : Nat} {rest : JsString} (small : Units (unit :: rest)) : Units rest :=
    fun other member => small other (List.mem_cons_of_mem _ member)
  have mark {unit : Nat} {token : Token} (marks : punctuation unit = some token) : token.Small := by
    unfold punctuation at marks
    split at marks <;> cases marks <;> trivial
  have joined {token : Token} {found : Option (List Token)} {read : List Token} (own : token.Small)
      (others : ∀ read, found = some read → ∀ token ∈ read, token.Small)
      (mapped : found.map (token :: ·) = some read) : ∀ token ∈ read, token.Small := by
    obtain ⟨rest, same, rfl⟩ := Option.map_eq_some_iff.mp mapped
    exact List.forall_mem_cons.mpr ⟨own, others rest same⟩
  have empty : Units [] := by simp [Units]
  have bare (read : JsString) : (Token.bare read).Small := trivial
  have quoted {read : JsString} (small : Units read) : (Token.text read).Small := small
  fun_induction tokens state text generalizing read with
  | case1 | case2 => cases lexed; simp [Token.Small]
  | case3 | case4 | case5 | case10 | case15 | case18 | case22 | case23 => cases lexed
  | case6 _ _ _ ih => exact ih (later small) trivial lexed
  | case7 _ _ ih => exact ih (later small) empty lexed
  | case8 _ _ _ _ _ ih => exact ih (later small) trivial lexed
  | case9 _ _ _ _ _ _ marks ih =>
      exact joined (mark marks) (fun read => ih (later small) trivial) lexed
  | case11 _ _ _ _ ih => exact ih (later small) trivial lexed
  | case12 _ _ _ _ _ ih => exact joined (bare _) (fun read => ih (later small) trivial) lexed
  | case13 _ _ _ _ ih => exact joined (bare _) (fun read => ih (later small) empty) lexed
  | case14 _ _ _ _ _ _ _ marks ih =>
      rw [← Function.comp_def, ← Option.map_map] at lexed
      exact joined (bare _)
        (fun read => joined (mark marks) fun read => ih (later small) trivial) lexed
  | case16 _ _ ih => exact joined (quoted sound) (fun read => ih (later small) trivial) lexed
  | case17 _ _ _ ih => exact ih (later small) sound lexed
  | case19 _ unit _ _ _ _ ih => exact ih (later small) (sound.snoc (small unit (by simp))) lexed
  | case20 _ _ ih => exact ih (later small) ⟨sound, by decide, by decide⟩ lexed
  | case21 _ _ _ _ _ plain ih => exact ih (later small) (sound.snoc (escaped_lt plain)) lexed
  | case24 read digits value _ _ digit hex last ih =>
      obtain ⟨before, some, bound⟩ := sound
      have one : digits = 1 := by omega
      subst one
      have fits := hexDigit_lt hex
      exact ih (later small) (before.snoc (by omega)) lexed
  | case25 read digits value _ _ digit hex more ih =>
      obtain ⟨before, some, bound⟩ := sound
      obtain ⟨left, rfl⟩ : ∃ left, digits = left + 2 := ⟨digits - 2, by omega⟩
      have fits := hexDigit_lt hex
      refine ih (later small) ⟨before, by omega, ?_⟩ lexed
      have scaled : (value * 16 + digit + 1) * 16 ^ (left + 1) ≤ (value + 1) * 16 ^ (left + 2) := by
        rw [Nat.pow_succ _ (left + 1), Nat.mul_comm (16 ^ (left + 1)), ← Nat.mul_assoc]
        exact Nat.mul_le_mul_right _ (by omega)
      simp only [Nat.add_mul, Nat.one_mul] at scaled bound ⊢
      rw [show left + 2 - 1 = left + 1 from rfl]
      omega

end Tokens

section Frames

variable {members : List (JsString × Json)} {name : JsString} {value : Json} {stack : List Frame}

/-- The members of an object that can be written again. -/
structure Members (members : List (JsString × Json)) : Prop where
  distinct : (members.map Prod.fst).Nodup
  names : ∀ member ∈ members, Units member.1
  each : ∀ member ∈ members, member.2.Valid

def Frame.Valid : Frame → Prop
  | .array items => ∀ item ∈ items, item.Valid
  | .object members => Members members
  | .member members name => Members members ∧ Units name

structure ParseState.Valid (state : ParseState) : Prop where
  frames : ∀ frame ∈ state.stack, frame.Valid
  finished : ∀ value, state.expecting = .finished value → value.Valid

theorem setMember_names (members : List (JsString × Json)) (name : JsString) (value : Json) :
    (setMember members name value).map Prod.fst =
      if name ∈ members.map Prod.fst then members.map Prod.fst
      else members.map Prod.fst ++ [name] := by
  induction members with
  | nil => rfl
  | cons member rest ih =>
      rw [setMember]
      by_cases same : member.1 = name
      · simp [same]
      · rw [if_neg same, List.map_cons, ih]
        by_cases later : name ∈ rest.map Prod.fst
        · rw [if_pos later, if_pos (by simp_all)]
          rfl
        · rw [if_neg later, if_neg (by simp_all [Ne.symm same])]
          rfl

theorem mem_setMember {member : JsString × Json}
    (present : member ∈ setMember members name value) :
    member = (name, value) ∨ member ∈ members := by
  induction members with
  | nil => exact .inl (List.mem_singleton.mp present)
  | cons other rest ih =>
      rw [setMember] at present
      split at present
      · next same =>
          rcases List.mem_cons.mp present with here | there
          · exact .inl (here.trans (by rw [same]))
          · exact .inr (List.mem_cons_of_mem _ there)
      · rcases List.mem_cons.mp present with here | there
        · exact .inr (here ▸ List.mem_cons_self ..)
        · exact (ih there).imp id (List.mem_cons_of_mem _)

theorem Members.setMember (sound : Members members) (small : Units name) (valid : value.Valid) :
    Members (setMember members name value) := by
  refine ⟨?_, ?_, ?_⟩
  · rw [setMember_names]
    split
    · exact sound.distinct
    · next new =>
        have apart : ∀ other ∈ members.map Prod.fst, ∀ last ∈ [name], other ≠ last := by
          intro other listed last member same
          exact new (List.mem_singleton.mp member ▸ same ▸ listed)
        exact List.nodup_append.mpr ⟨sound.distinct, List.nodup_singleton _, apart⟩
  · intro member present
    rcases mem_setMember present with rfl | before
    · exact small
    · exact sound.names member before
  · intro member present
    rcases mem_setMember present with rfl | before
    · exact valid
    · exact sound.each member before

theorem literalValue_valid {literal : JsString} (read : literalValue literal = some value) :
    value.Valid := by
  unfold literalValue at read
  repeat' split at read
  all_goals cases read
  · exact .null
  · exact .boolean true
  · exact .boolean false
  · next numeric => exact .number numeric

theorem ParseState.Valid.place (frames : ∀ frame ∈ stack, frame.Valid) (valid : value.Valid) :
    (ParseState.place stack value).Valid := by
  cases stack with
  | nil =>
      refine ⟨by simp [ParseState.place], ?_⟩
      intro other same
      cases same
      exact valid
  | cons frame rest =>
      obtain ⟨own, others⟩ := List.forall_mem_cons.mp frames
      cases frame with
      | array items =>
          have more : Frame.Valid (.array (items ++ [value])) :=
            List.forall_mem_append.mpr ⟨own, by simpa using valid⟩
          exact ⟨List.forall_mem_cons.mpr ⟨more, others⟩, by simp [ParseState.place]⟩
      | object members => exact ⟨frames, by simp [ParseState.place]⟩
      | member members name =>
          have more : Frame.Valid (.object (setMember members name value)) :=
            own.1.setMember own.2 valid
          exact ⟨List.forall_mem_cons.mpr ⟨more, others⟩, by simp [ParseState.place]⟩

theorem ParseState.Valid.startValue (frames : ∀ frame ∈ stack, frame.Valid) {token : Token}
    (small : token.Small) {next : ParseState}
    (started : ParseState.startValue stack token = some next) : next.Valid := by
  cases token with
  | openArray =>
      cases started
      refine ⟨List.forall_mem_cons.mpr ⟨?_, frames⟩, by simp⟩
      simp [Frame.Valid]
  | openObject =>
      cases started
      refine ⟨List.forall_mem_cons.mpr ⟨?_, frames⟩, by simp⟩
      constructor <;> simp
  | text value =>
      cases started
      exact .place frames (.text small)
  | bare literal =>
      obtain ⟨value, read, rfl⟩ := Option.map_eq_some_iff.mp started
      exact .place frames (literalValue_valid read)
  | _ => cases started

theorem ParseState.Valid.step {state next : ParseState} (valid : state.Valid) {token : Token}
    (small : token.Small) (taken : state.step token = some next) : next.Valid := by
  have opened {frame : Frame} {rest : List Frame} (same : state.stack = frame :: rest) :
      frame.Valid ∧ ∀ other ∈ rest, other.Valid :=
    List.forall_mem_cons.mp (same ▸ valid.frames)
  unfold ParseState.step at taken
  split at taken
  case h_2 | h_3 => exact .startValue valid.frames small taken
  case h_12 => cases taken
  all_goals cases taken
  case h_1 same | h_10 same => exact .place (opened same).2 (.array (opened same).1)
  case h_4 same | h_11 same =>
      obtain ⟨own, others⟩ := opened same
      exact .place others (.object own.distinct own.names own.each)
  case h_5 same | h_6 same =>
      obtain ⟨own, others⟩ := opened same
      exact ⟨List.forall_mem_cons.mpr ⟨⟨own, small⟩, others⟩, by simp⟩
  case h_7 => exact ⟨valid.frames, by simp⟩
  case h_8 same | h_9 same => exact ⟨List.forall_mem_cons.mpr (opened same), by simp⟩

theorem ParseState.Valid.steps {state last : ParseState} (valid : state.Valid) {read : List Token}
    (small : ∀ token ∈ read, token.Small)
    (ran : read.foldlM ParseState.step state = some last) : last.Valid := by
  induction read generalizing state with
  | nil =>
      cases ran
      exact valid
  | cons token rest ih =>
      rw [List.foldlM_cons] at ran
      obtain ⟨next, taken, ran⟩ := Option.bind_eq_some_iff.mp ran
      obtain ⟨own, others⟩ := List.forall_mem_cons.mp small
      exact ih (valid.step own taken) others ran

theorem Paired.units {text : JsString} (paired : Paired text) : Units text := by
  induction paired with
  | nil => simp [Units]
  | unit small _ _ ih => exact List.forall_mem_cons.mpr ⟨small, ih⟩
  | pair first second _ ih =>
      rw [isHighSurrogate_iff] at first
      rw [isLowSurrogate_iff] at second
      exact List.forall_mem_cons.mpr ⟨by omega, List.forall_mem_cons.mpr ⟨by omega, ih⟩⟩

theorem jsonParse_valid {text : JsString} (small : Units text) (parsed : jsonParse text = some value) :
    value.Valid := by
  unfold jsonParse at parsed
  obtain ⟨read, lexed, parsed⟩ := Option.bind_eq_some_iff.mp parsed
  obtain ⟨state, ran, parsed⟩ := Option.bind_eq_some_iff.mp parsed
  have start : ParseState.Valid { stack := [], expecting := .value } := ⟨by simp, by simp⟩
  have last := start.steps (tokens_small .between text small trivial lexed) ran
  split at parsed
  · next finished =>
      cases parsed
      exact last.finished _ finished
  · cases parsed

end Frames

end Ecommerce.Kafka
