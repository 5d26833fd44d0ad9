import Ecommerce.Kafka.Parsed
import Ecommerce.Kafka.DeadLetters

set_option autoImplicit false

/-!
# What can be read back from a topic

A consumer is called with the value that was published, and a dead letter holds what the message
held that it stands for.
-/

namespace Ecommerce.Kafka

/-- A property of an object. -/
def Json.property (name : JsString) : Json → Option Json
  | .object members => members.lookup name
  | _ => none

def decimalDigits (value : Nat) : JsString :=
  if value < 10 then [0x30 + value] else decimalDigits (value / 10) ++ [0x30 + value % 10]

def utf16 (text : String) : JsString := text.toList.flatMap fun char => encodeCodePoint char.toNat

def ErrorSummary.toJson (error : ErrorSummary) : Json :=
  let named := error.name.toList.map fun name => (units "name", Json.text (utf16 name))
  .object (named ++ [(units "message", .text (utf16 error.message))])

def DeadLetterEnvelope.toJson (toISOString : Timestamp → String) (letter : DeadLetterEnvelope) :
    Json :=
  .object
    [(units "originalTopic", .text (utf16 letter.originalTopic)),
      (units "consumerGroup", .text (utf16 letter.consumerGroup)),
      (units "failedAt", .text (utf16 (toISOString letter.failedAt))),
      (units "attempts", .number (decimalDigits letter.attempts)),
      (units "error", letter.error.toJson),
      (units "key", letter.key.elim .null .text),
      (units "original", letter.original)]

section Normal

variable {decimal : JsString → Option JsString} {value : Json}

/-- Writing the decimal form of a number again changes nothing. -/
def Settled (decimal : JsString → Option JsString) : Prop :=
  ∀ literal text, decimal literal = some text → decimal text = some text

theorem lookup_perm {A : Type} {one two : List (JsString × A)} (perm : one.Perm two)
    (distinct : (one.map Prod.fst).Nodup) (name : JsString) : one.lookup name = two.lookup name := by
  induction perm with
  | nil => rfl
  | cons member _ ih =>
      rw [List.map_cons, List.nodup_cons] at distinct
      rw [List.lookup_cons, List.lookup_cons, ih distinct.2]
  | swap first second rest =>
      obtain ⟨one, value⟩ := first
      obtain ⟨two, other⟩ := second
      have apart : two ≠ one := by
        intro same
        simp [same] at distinct
      simp only [List.lookup_cons]
      by_cases here : name = one
      · rw [here, beq_false_of_ne (Ne.symm apart), beq_self_eq_true]
      · rw [beq_false_of_ne here]
  | trans first _ ihFirst ihSecond =>
      rw [ihFirst distinct, ihSecond ((first.map Prod.fst).nodup_iff.mp distinct)]

theorem lookup_map {A B : Type} (f : A → B) (members : List (JsString × A)) (name : JsString) :
    (members.map (Prod.map id f)).lookup name = (members.lookup name).map f := by
  induction members with
  | nil => rfl
  | cons member rest ih =>
      rw [List.map_cons, List.lookup_cons, List.lookup_cons, ih]
      simp only [Prod.map, id]
      split <;> rfl

theorem names_enumerate {A B : Type} (f : A → B) (members : List (JsString × A)) :
    ((enumerate (members.map (Prod.map id f))).map Prod.fst).Perm (members.map Prod.fst) := by
  have perm := (enumerate_perm (members.map (Prod.map id f))).map Prod.fst
  simpa [List.map_map, Function.comp_def] using perm

/-- Each property is read as it was written. -/
theorem property_normal (decimal : JsString → Option JsString) (valid : value.Valid) (name : JsString) :
    (value.normal decimal).property name = (value.property name).map (Json.normal decimal) := by
  cases valid with
  | object distinct names each =>
      have order := names_enumerate (Json.normal decimal)
      rw [Json.normal, normalMembers_eq, Json.property, Json.property, ← lookup_map]
      exact lookup_perm (enumerate_perm _) ((order _).nodup_iff.mpr distinct) name
  | @number literal =>
      rw [Json.normal]
      cases decimal literal <;> rfl
  | _ => rfl

theorem normal_valid (numeric : Numeric decimal) (valid : value.Valid) :
    (value.normal decimal).Valid := by
  induction valid with
  | null => exact .null
  | boolean value => exact .boolean value
  | @number literal number =>
      rw [Json.normal]
      cases written : decimal literal with
      | none => exact .null
      | some text => exact .number (numeric literal text number written)
  | text small => exact .text small
  | array each ih =>
      rw [Json.normal, normalItems_eq]
      exact .array (by simpa using ih)
  | @object members distinct names each ih =>
      rw [Json.normal, normalMembers_eq]
      have order := enumerate_perm (members.map (Prod.map id (Json.normal decimal)))
      refine .object ((names_enumerate _ members).nodup_iff.mpr distinct) ?_ ?_
      · intro member listed
        obtain ⟨origin, present, rfl⟩ := List.mem_map.mp (order.subset listed)
        exact names origin present
      · intro member listed
        obtain ⟨origin, present, rfl⟩ := List.mem_map.mp (order.subset listed)
        exact ih origin present

theorem enumerate_enumerate {A : Type} (members : List (JsString × A)) :
    enumerate (enumerate members) = enumerate members := by
  let before (one two : JsString × A) : Prop := indexOrder one two = true
  have total : Std.Total before := ⟨by grind [indexOrder]⟩
  have order : IsTrans (JsString × A) before := ⟨by grind [indexOrder]⟩
  let indices := (members.filter fun member => (arrayIndex member.1).isSome).insertionSort before
  let others := members.filter fun member => (arrayIndex member.1).isNone
  have sorted : indices.insertionSort before = indices :=
    (List.pairwise_insertionSort before _).insertionSort_eq
  have isIndex : ∀ member ∈ indices, (arrayIndex member.1).isSome = true := by
    intro member listed
    exact (List.mem_filter.mp ((List.mem_insertionSort before).mp listed)).2
  have isOther : ∀ member ∈ others, (arrayIndex member.1).isNone = true :=
    fun member listed => (List.mem_filter.mp listed).2
  have first : (indices ++ others).filter (fun member => (arrayIndex member.1).isSome) = indices := by
    rw [List.filter_append, List.filter_eq_self.mpr isIndex, List.filter_eq_nil_iff.mpr,
      List.append_nil]
    intro member listed
    simpa using isOther member listed
  have second : (indices ++ others).filter (fun member => (arrayIndex member.1).isNone) = others := by
    rw [List.filter_append, List.filter_eq_self.mpr isOther, List.filter_eq_nil_iff.mpr,
      List.nil_append]
    intro member listed
    simpa [Option.isSome_iff_ne_none] using isIndex member listed
  have whole : enumerate members = indices ++ others := rfl
  rw [whole, enumerate, first, second]
  exact congrArg (· ++ others) sorted

theorem normal_normal (settled : Settled decimal) (valid : value.Valid) :
    (value.normal decimal).normal decimal = value.normal decimal := by
  induction valid with
  | @number literal =>
      rw [Json.normal]
      cases written : decimal literal with
      | none => rfl
      | some text => simp [Json.normal, settled literal text written]
  | array each ih =>
      rw [Json.normal, normalItems_eq, Json.normal, normalItems_eq, List.map_map]
      congr 1
      exact List.map_congr_left ih
  | @object members distinct names each ih =>
      rw [Json.normal, normalMembers_eq, Json.normal, normalMembers_eq, ← enumerate_map,
        enumerate_enumerate, List.map_map]
      congr 2
      apply List.map_congr_left
      intro member present
      exact Prod.ext rfl (ih member present)
  | _ => rfl

/-- A value that was parsed is written as before. -/
theorem stringify_normal (settled : Settled decimal) (valid : value.Valid) :
    stringify decimal (value.normal decimal) = stringify decimal value := by
  induction valid with
  | @number literal =>
      rw [Json.normal, stringify]
      cases written : decimal literal with
      | none => simp [stringify]
      | some text => simp [stringify, settled literal text written]
  | @array items each ih =>
      rw [Json.normal, normalItems_eq, stringify, stringify, stringifyItems_eq, stringifyItems_eq,
        List.map_map]
      have same : items.map (stringify decimal ∘ Json.normal decimal) = items.map (stringify decimal) :=
        List.map_congr_left ih
      rw [same]
  | @object members distinct names each ih =>
      simp only [Json.normal, normalMembers_eq, stringify, stringifyMembers_eq, ← enumerate_map,
        enumerate_enumerate, List.map_map]
      have same : members.map
          (Prod.map id (stringify decimal) ∘ Prod.map id (Json.normal decimal)) =
            members.map (Prod.map id (stringify decimal)) :=
        List.map_congr_left fun member present => Prod.ext rfl (ih member present)
      rw [same]
  | _ => rfl

end Normal

section DeadLetters

variable {decimal : JsString → Option JsString} {service : Service} {sendSucceeds : Bool}
variable {failedAt : Timestamp} {topic : String} {message : Message} {event : Json}

theorem foldl_decimalDigits {state : NumberState}
    (starts : ∀ digit < 10, 0 < digit → state.next (0x30 + digit) = .integer) (value : Nat)
    (positive : 0 < value) : (decimalDigits value).foldl NumberState.next state = .integer := by
  induction value using Nat.strongRecOn with
  | ind value ih =>
      rw [decimalDigits]
      split
      · next small => exact starts value small positive
      · have digits : ∀ digit < 10, NumberState.next .integer (0x30 + digit) = .integer := by decide
        rw [List.foldl_append, ih (value / 10) (by omega) (by omega)]
        exact digits (value % 10) (by omega)

theorem isNumber_decimalDigits (value : Nat) : isNumber (decimalDigits value) = true := by
  cases value with
  | zero => rw [decimalDigits]; decide
  | succ value => rw [isNumber, foldl_decimalDigits (by decide) (value + 1) (by omega)]

theorem units_utf16 (text : String) : Units (utf16 text) := by
  intro unit listed
  obtain ⟨char, _, member⟩ := List.mem_flatMap.mp listed
  have bound : char.toNat < 0x110000 := by
    rcases char.valid with small | ⟨_, large⟩ <;> simp only [Char.toNat] <;> omega
  unfold encodeCodePoint at member
  split at member
  · rw [List.mem_singleton.mp member]
    assumption
  · simp only [List.mem_cons, List.not_mem_nil, or_false] at member
    omega

theorem valid_object (names : List JsString) {members : List (JsString × Json)}
    (same : members.map Prod.fst = names) (distinct : names.Nodup)
    (small : ∀ name ∈ names, ∀ unit ∈ name, unit < 0x10000)
    (each : ∀ member ∈ members, member.2.Valid) : (Json.object members).Valid := by
  subst same
  exact .object distinct (fun member listed => small _ (List.mem_map_of_mem listed)) each

theorem ErrorSummary.toJson_valid (error : ErrorSummary) : error.toJson.Valid := by
  have message : Json.Valid (.text (utf16 error.message)) := .text (units_utf16 _)
  cases given : error.name with
  | none =>
      rw [ErrorSummary.toJson, given]
      exact valid_object [units "message"] rfl (by decide) (by decide)
        (by simpa using message)
  | some name =>
      have named : Json.Valid (.text (utf16 name)) := .text (units_utf16 _)
      rw [ErrorSummary.toJson, given]
      exact valid_object [units "name", units "message"] rfl (by decide) (by decide)
        (by simpa using And.intro named message)

theorem DeadLetterEnvelope.toJson_valid (toISOString : Timestamp → String)
    (letter : DeadLetterEnvelope) (key : ∀ key, letter.key = some key → Units key)
    (original : letter.original.Valid) : (letter.toJson toISOString).Valid := by
  have keyValid : (letter.key.elim Json.null Json.text).Valid := by
    cases given : letter.key with
    | none => exact .null
    | some text => exact .text (key text given)
  refine valid_object [units "originalTopic", units "consumerGroup", units "failedAt",
    units "attempts", units "error", units "key", units "original"] rfl (by decide) (by decide) ?_
  simp only [List.forall_mem_cons]
  exact ⟨.text (units_utf16 _), .text (units_utf16 _), .text (units_utf16 _),
    .number (isNumber_decimalDigits _), letter.error.toJson_valid, keyValid, original, by simp⟩

/-- Everything that the retry loop parks is a dead letter of the event. -/
theorem loop_sent {handler : Handler} {fuel attempt calls : Nat} {outcome : Dispatched}
    (counted : attempt ≤ maxExact)
    (ran : handleWithRetry service sendSucceeds failedAt topic event message handler fuel attempt
      calls = some outcome) :
    ∀ record ∈ outcome.sent, ∃ err attempts, attempts ≤ maxExact ∧
      toDlq service failedAt topic message err attempts event = some record := by
  induction fuel generalizing attempt calls with
  | zero => cases ran
  | succ fuel ih =>
      have more : increment attempt ≤ maxExact := by
        unfold increment
        split <;> omega
      simp only [handleWithRetry] at ran
      cases called : handler event calls with
      | none =>
          simp only [called, Option.some.injEq] at ran
          subst ran
          simp
      | some err =>
          simp only [called] at ran
          split at ran
          · split at ran <;> cases ran
            · exact fun record sent => ⟨err, _, more, Dispatched.parking_sent sent⟩
            · simp
          · split at ran
            · exact ih more ran
            · cases ran
              simp

/-- An envelope is parsed with everything that was put into it. -/
theorem letter_reads_back (numeric : Numeric decimal)
    (exact : ∀ value ≤ maxExact, decimal (decimalDigits value) = some (decimalDigits value))
    (toISOString : Timestamp → String) {deadLetter : DeadLetterEnvelope} {original : Json}
    (sameTopic : deadLetter.originalTopic = topic)
    (sameKey : deadLetter.key = message.key.map bufferToString)
    (sameOriginal : deadLetter.original = original) (bounded : deadLetter.attempts ≤ maxExact)
    (valid : original.Valid) :
    ∃ letter, jsonParse (bufferToString (publishedValue decimal (deadLetter.toJson toISOString))) =
        some letter ∧
      letter.property (units "originalTopic") = some (.text (utf16 topic)) ∧
      letter.property (units "attempts") = some (.number (decimalDigits deadLetter.attempts)) ∧
      letter.property (units "key") =
        some (message.key.elim .null fun key => .text (bufferToString key)) ∧
      letter.property (units "original") = some (original.normal decimal) := by
  subst sameTopic sameOriginal
  have keyUnits : ∀ text, deadLetter.key = some text → Units text := by
    intro text same
    obtain ⟨bytes, _, rfl⟩ := Option.map_eq_some_iff.mp (sameKey.symm.trans same)
    exact (bufferToString_paired bytes).units
  have written := DeadLetterEnvelope.toJson_valid toISOString deadLetter keyUnits valid
  have property := property_normal decimal written
  have key : Option.map (Json.normal decimal) (some (deadLetter.key.elim .null .text)) =
      some (message.key.elim .null fun key => .text (bufferToString key)) := by
    rw [sameKey]
    cases message.key <;> rfl
  have counted : Option.map (Json.normal decimal)
      (some (.number (decimalDigits deadLetter.attempts))) =
        some (.number (decimalDigits deadLetter.attempts)) := by
    rw [Option.map_some, Json.normal, exact _ bounded]
    rfl
  exact ⟨_, jsonParse_publishedValue numeric written, property _, (property _).trans counted,
    (property _).trans key, property _⟩

theorem dispatch_sent {bytes : List UInt8} (given : message.value = some bytes) {fuel : Nat}
    {outcome : Dispatched}
    (ran : dispatch service sendSucceeds failedAt topic message fuel = some outcome) :
    ∀ record ∈ outcome.sent, ∃ err attempts, attempts ≤ maxExact ∧
      toDlq service failedAt topic message err attempts
        ((jsonParse (bufferToString bytes)).getD (.text (bufferToString bytes))) = some record := by
  unfold dispatch at ran
  rw [given] at ran
  cases routed : service.routes topic with
  | none =>
      simp only [routed, Option.some.injEq] at ran
      subst ran
      simp
  | some handler =>
      simp only [routed] at ran
      cases parsed : jsonParse (bufferToString bytes) with
      | none =>
          simp only [parsed, Option.some.injEq] at ran
          subst ran
          exact fun record sent => ⟨_, 0, Nat.zero_le _, Dispatched.parking_sent sent⟩
      | some event =>
          simp only [parsed] at ran
          exact loop_sent (Nat.zero_le _) ran

end DeadLetters

/-- A handler is called with the event that was published, property by property, and the event is
no other when it is published again. -/
theorem published_events_arrive (decimal : JsString → Option JsString) (numeric : Numeric decimal)
    (settled : Settled decimal) (event : Json) (valid : event.Valid) (service : Service)
    (topic : String) (handler : Handler) (routed : service.routes topic = some handler)
    (key : Option (List UInt8)) (sendSucceeds : Bool) (failedAt : Timestamp) (fuel : Nat) :
    let message : Message := { key, value := some (publishedValue decimal event) }
    ∃ arrived, dispatch service sendSucceeds failedAt topic message fuel =
        handleWithRetry service sendSucceeds failedAt topic arrived message handler fuel 0 0 ∧
      (∀ name, arrived.property name = (event.property name).map (Json.normal decimal)) ∧
      arrived.Valid ∧ arrived.normal decimal = arrived := by
  intro message
  refine ⟨event.normal decimal, ?_, property_normal decimal valid, normal_valid numeric valid,
    normal_normal settled valid⟩
  simp only [dispatch, routed, message, jsonParse_publishedValue numeric valid]

section Sample

theorem numeric_some : Numeric some := by
  intro literal text number same
  cases same
  exact number

theorem settled_some : Settled some := by
  intro literal text same
  cases same
  rfl

def samplePublished : Json :=
  .object [(units "eventId", .text (units "7")), (units "1", .array [.number (units "3"), .null])]

theorem samplePublished_valid : samplePublished.Valid := by
  have number : Json.Valid (.number (units "3")) := .number (by decide)
  have items : Json.Valid (.array [.number (units "3"), .null]) :=
    .array (by simpa using And.intro number .null)
  have eventId : Json.Valid (.text (units "7")) := .text (by decide : ∀ unit ∈ units "7", _)
  exact valid_object [units "eventId", units "1"] rfl (by decide) (by decide)
    (by simpa using And.intro eventId items)

theorem published_events_arrive_sample :
    let message : Message := { key := none, value := some (publishedValue some samplePublished) }
    ∃ arrived, dispatch paymentService true 0 Topic.ordersCreated.name message 5 =
        handleWithRetry paymentService true 0 Topic.ordersCreated.name arrived message noEnvelope
          5 0 0 ∧
      arrived.property (units "eventId") = some (.text (units "7")) := by
  obtain ⟨arrived, dispatched, property, _⟩ := published_events_arrive some numeric_some
    settled_some samplePublished samplePublished_valid paymentService Topic.ordersCreated.name
    noEnvelope rfl none true 0 5
  exact ⟨arrived, dispatched, (property _).trans rfl⟩

end Sample

/-- Whatever bytes a message has, what is parked of it can be read back. A parsed event can be
published again from its dead letter; the bytes of a message that is no JSON can be restored from
it exactly when they are UTF-8. -/
theorem dead_letters_read_back (decimal : JsString → Option JsString) (numeric : Numeric decimal)
    (settled : Settled decimal)
    (exact : ∀ value ≤ maxExact, decimal (decimalDigits value) = some (decimalDigits value))
    (toISOString : Timestamp → String) (service : Service) (sendSucceeds : Bool)
    (failedAt : Timestamp) (topic : String) (message : Message) (bytes : List UInt8)
    (given : message.value = some bytes) (fuel : Nat) (outcome : Dispatched)
    (ran : dispatch service sendSucceeds failedAt topic message fuel = some outcome)
    (record : DlqRecord) (sent : record ∈ outcome.sent) :
    record.topic = dlqForTopic topic ∧ record.key = message.key ∧
      ∃ letter, jsonParse (bufferToString
          (publishedValue decimal (record.value.toJson toISOString))) = some letter ∧
        letter.property (units "originalTopic") = some (.text (utf16 topic)) ∧
        letter.property (units "attempts") =
          some (.number (decimalDigits record.value.attempts)) ∧
        letter.property (units "key") =
          some (message.key.elim .null fun key => .text (bufferToString key)) ∧
        match jsonParse (bufferToString bytes) with
        | some event =>
            letter.property (units "original") = some (event.normal decimal) ∧
              jsonParse (bufferToString (publishedValue decimal (event.normal decimal))) =
                some (event.normal decimal)
        | none =>
            letter.property (units "original") = some (.text (bufferToString bytes)) ∧
              (bufferFrom (bufferToString bytes) = bytes ↔
                ∃ text, Paired text ∧ bufferFrom text = bytes) := by
  obtain ⟨err, attempts, bounded, built⟩ := dispatch_sent given ran record sent
  obtain ⟨error, -, same⟩ := toDlq_eq_some built
  have counts : record.value.attempts ≤ maxExact := by rw [same]; exact bounded
  have back {original : Json} (holds : record.value.original = original) :=
    letter_reads_back numeric exact toISOString (show record.value.originalTopic = topic by rw [same])
      (show record.value.key = message.key.map bufferToString by rw [same]) holds counts
  refine ⟨by rw [same], by rw [same], ?_⟩
  have small := (bufferToString_paired bytes).units
  cases parsed : jsonParse (bufferToString bytes) with
  | none =>
      obtain ⟨letter, read, sameTopic, counted, key, original⟩ :=
        back (by rw [same, parsed]; rfl) (.text small)
      exact ⟨letter, read, sameTopic, counted, key, original, bufferFrom_bufferToString_iff bytes⟩
  | some event =>
      have valid := jsonParse_valid small parsed
      obtain ⟨letter, read, sameTopic, counted, key, original⟩ :=
        back (by rw [same, parsed]; rfl) valid
      refine ⟨letter, read, sameTopic, counted, key, original, ?_⟩
      rw [jsonParse_publishedValue numeric (normal_valid numeric valid), normal_normal settled valid]

section Sample

/-- The message was cut within a string and within a character. -/
def sampleTorn : Message := { key := some [0x39], value := some [0x22, 0xE2] }

theorem sampleTorn_dispatched :
    (dispatch paymentService true 0 Topic.ordersCreated.name sampleTorn 0).isSome = true := rfl

def sampleOutcome : Dispatched :=
  (dispatch paymentService true 0 Topic.ordersCreated.name sampleTorn 0).get sampleTorn_dispatched

theorem dead_letters_read_back_torn : ∃ record ∈ sampleOutcome.sent, ∃ letter,
    jsonParse (bufferToString (publishedValue some
        (record.value.toJson fun _ => "1970-01-01T00:00:00.000Z"))) = some letter ∧
      letter.property (units "original") = some (.text [0x22, 0xFFFD]) := by
  have sent : ∃ record, record ∈ sampleOutcome.sent := ⟨_, List.mem_singleton.mpr rfl⟩
  obtain ⟨record, sent⟩ := sent
  obtain ⟨_, _, letter, parsed, _, _, _, original⟩ := dead_letters_read_back some numeric_some
    settled_some (fun _ _ => rfl) (fun _ => "1970-01-01T00:00:00.000Z") paymentService true 0
    Topic.ordersCreated.name sampleTorn [0x22, 0xE2] rfl 0 sampleOutcome
    (Option.some_get sampleTorn_dispatched).symm record sent
  exact ⟨record, sent, letter, parsed, original.1⟩

end Sample

end Ecommerce.Kafka
