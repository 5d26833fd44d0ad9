import Ecommerce.Kafka.DeadLetters
import Ecommerce.Shared.Double

set_option autoImplicit false

/-!
# The limit of the retries

The limit is what `parseInt` makes of an environment variable, and `??` only replaces null and
undefined.
-/

namespace Ecommerce.Kafka

/-- White space and line terminators, all of which `parseInt` skips. -/
def isStrWhiteSpace (unit : Nat) : Bool :=
  unit ∈ [0x09, 0x0A, 0x0B, 0x0C, 0x0D, 0x20, 0xA0, 0x1680, 0x2028, 0x2029, 0x202F, 0x205F, 0x3000,
    0xFEFF] || (0x2000 ≤ unit && unit ≤ 0x200A)

def decimalValue (digits : JsString) : Nat :=
  digits.foldl (fun value unit => 10 * value + (unit - 0x30)) 0

def signed (negative : Bool) : Double → Number
  | .finite value => .integer (if negative then -value else value)
  | .infinity => if negative then .negativeInfinity else .infinity

/-- `parseInt(text, 10)` -/
def parseInt (text : JsString) : Number :=
  let trimmed := text.dropWhile isStrWhiteSpace
  let unsigned :=
    match trimmed with
    | 0x2B :: rest | 0x2D :: rest => rest
    | _ => trimmed
  let digits := unsigned.takeWhile isDigit
  if digits = [] then .nan
  else signed (trimmed.head? = some 0x2D) (.ofNat (decimalValue digits))

example : parseInt (units " -12px") = .integer (-12) := by decide

/-- `consumer.maxRetries` of the configuration; the variable is `none` when it is not set. -/
def configuredRetries (setting : Option JsString) : Number :=
  parseInt (setting.getD (units "3"))

/-- `maxRetries` as the constructor sets it. -/
def maxRetriesOf (setting : Option JsString) : Number :=
  -- Every number, NaN too, is a value to `??`.
  (some (configuredRetries setting)).getD (.integer 3)

/-- The number of failed calls that are retried, unless all of them are. -/
def retriesOf : Number → Option Nat
  | .integer limit => if limit < maxExact then some limit.toNat else none
  | .negativeInfinity => some 0
  | .infinity | .nan => none

/-- The loop ends, with one message handed to the DLQ producer, and that is the event. -/
def EndsInDlq (service : Service) (sendSucceeds : Bool) (failedAt : Timestamp) (topic : String)
    (event : Json) (message : Message) (handler : Handler) : Prop :=
  ∃ fuel outcome, handleWithRetry service sendSucceeds failedAt topic event message handler fuel 0 0 =
      some outcome ∧
    ∃ deadLetter : DlqRecord, outcome.sent = [deadLetter] ∧ deadLetter.value.original = event

section Loop

variable {service : Service} {sendSucceeds : Bool} {failedAt : Timestamp} {topic : String}
variable {event : Json} {message : Message} {handler : Handler} {retries : Nat}

theorem exceeded_of_retries {limit : Number} (counted : retriesOf limit = some retries) :
    retries < maxExact ∧ limit.exceededBy (retries + 1) = true ∧
      ∀ earlier < retries, limit.exceededBy (min (earlier + 1) maxExact) = false := by
  cases limit with
  | integer value =>
      simp only [retriesOf, Option.ite_none_right_eq_some, Option.some.injEq] at counted
      simp only [Number.exceededBy, decide_eq_true_eq, decide_eq_false_iff_not]
      unfold maxExact at *
      refine ⟨by omega, by omega, ?_⟩
      intro earlier before
      omega
  | negativeInfinity =>
      cases counted
      simp [Number.exceededBy, maxExact]
  | infinity => cases counted
  | nan => cases counted

theorem never_exceeded {limit : Number} (endless : retriesOf limit = none) {attempt : Nat}
    (counted : attempt ≤ maxExact) : limit.exceededBy attempt = false := by
  cases limit with
  | integer value =>
      simp only [retriesOf, ite_eq_right_iff, reduceCtorEq, imp_false] at endless
      simp only [Number.exceededBy, decide_eq_false_iff_not]
      omega
  | negativeInfinity => cases endless
  | infinity => rfl
  | nan => rfl

theorem increment_le {attempt : Nat} (counted : attempt ≤ maxExact) :
    increment attempt ≤ maxExact := by
  unfold increment
  split <;> omega

/-- A limit that is never exceeded sends nothing. -/
theorem loop_unsent (endless : retriesOf service.maxRetries = none) {fuel attempt calls : Nat}
    {outcome : Dispatched} (counted : attempt ≤ maxExact)
    (ran : handleWithRetry service sendSucceeds failedAt topic event message handler fuel attempt
      calls = some outcome) : outcome.sent = [] := by
  induction fuel generalizing attempt calls with
  | zero => cases ran
  | succ fuel ih =>
      have under := never_exceeded endless (increment_le counted)
      simp only [handleWithRetry] at ran
      cases called : handler event calls with
      | none =>
          simp only [called, Option.some.injEq] at ran
          subst ran
          rfl
      | some err =>
          simp only [called, under, Bool.false_eq_true, if_false] at ran
          split at ran
          · exact ih (increment_le counted) ran
          · cases ran
            rfl

theorem not_endsInDlq_of_unsent (unsent : ∀ fuel outcome,
    handleWithRetry service sendSucceeds failedAt topic event message handler fuel 0 0 =
      some outcome → outcome.sent = []) :
    ¬ EndsInDlq service sendSucceeds failedAt topic event message handler := by
  intro ends
  obtain ⟨fuel, outcome, ran, deadLetter, sent, _⟩ := ends
  rw [unsent fuel outcome ran] at sent
  cases sent

/-- When every call fails, the first ones are retried as long as the warning can be built. -/
theorem endsInDlq_iff_of_retries (counted : retriesOf service.maxRetries = some retries)
    (fails : ∀ call, handler event call ≠ none) :
    EndsInDlq service sendSucceeds failedAt topic event message handler ↔
      (∀ call < retries, ∀ err, handler event call = some err → err.warnable = true) ∧
        (event.loggable && service.engine.prints event) = true ∧
        ∀ err, handler event retries = some err →
          Parkable service failedAt topic message err (retries + 1) event := by
  obtain ⟨exact, past, under⟩ := exceeded_of_retries counted
  obtain ⟨call, within, retried, stops⟩ := exists_stop handler event retries
  have reaches (fuel : Nat) :
      handleWithRetry service sendSucceeds failedAt topic event message handler (fuel + call) 0 0 =
        handleWithRetry service sendSucceeds failedAt topic event message handler fuel
          (min call maxExact) call :=
    loop_reaches (fun earlier before => under earlier (by omega)) retried fuel
  cases stops with
  | succeeded found => exact absurd found (fails call)
  | unwarnable err found silent left =>
      have ended := reaches 1
      simp only [handleWithRetry, found, increment_min, under call left, silent] at ended
      apply iff_of_false
      · apply not_endsInDlq_of_unsent
        intro fuel outcome ran
        rw [loop_unique ran ended]
      · intro holds
        cases silent.symm.trans (holds.1 call left err found)
  | exhausted err found last =>
      subst last
      have attempts : min (call + 1) maxExact = call + 1 := by omega
      have warned : ∀ earlier < call, ∀ other, handler event earlier = some other →
          other.warnable = true := by
        intro earlier before other thrown
        obtain ⟨same, failed, warns⟩ := retried earlier before
        cases failed.symm.trans thrown
        exact warns
      have one : ∀ other, handler event call = some other ↔ other = err := by
        intro other
        rw [found, Option.some.injEq]
        exact eq_comm
      have ended := reaches 1
      simp only [handleWithRetry, found, increment_min, attempts, past, if_true] at ended
      simp only [iff_true_intro warned, true_and, one, forall_eq]
      have unsent {outcome : Dispatched} (silent : outcome.sent = [])
          (ended : handleWithRetry service sendSucceeds failedAt topic event message handler
            (1 + call) 0 0 = some outcome) :
          ¬ EndsInDlq service sendSucceeds failedAt topic event message handler := by
        apply not_endsInDlq_of_unsent
        intro fuel other ran
        rw [loop_unique ran ended, silent]
      cases logged : event.loggable && service.engine.prints event with
      | false =>
          simp only [logged, Bool.false_eq_true, if_false] at ended
          exact iff_of_false (unsent rfl ended) (by simp)
      | true =>
          simp only [logged, if_true] at ended
          rw [parkable_iff]
          cases built : toDlq service failedAt topic message err (call + 1) event with
          | none =>
              rw [built] at ended
              exact iff_of_false (unsent rfl ended) (by simp)
          | some record =>
              rw [built] at ended
              obtain ⟨error, -, same⟩ := toDlq_eq_some built
              exact iff_of_true ⟨_, _, ended, record, rfl, by rw [same]⟩ ⟨rfl, record, rfl⟩

end Loop

/-- A message whose handler always fails gets to the DLQ exactly when the variable sets a limit that
the counter can exceed, and nothing that the loop reads or writes on its way throws. -/
theorem ends_in_dlq_iff (setting : Option JsString) (service : Service) (sendSucceeds : Bool)
    (failedAt : Timestamp) (topic : String) (event : Json) (message : Message) (handler : Handler)
    (fails : ∀ call, handler event call ≠ none) :
    EndsInDlq { service with maxRetries := maxRetriesOf setting } sendSucceeds failedAt topic event
        message handler ↔
      ∃ retries, retriesOf (parseInt (setting.getD (units "3"))) = some retries ∧
        (∀ call < retries, ∀ err, handler event call = some err → err.warnable = true) ∧
        (event.loggable && service.engine.prints event) = true ∧
        ∀ err, handler event retries = some err →
          Parkable service failedAt topic message err (retries + 1) event := by
  cases counted : retriesOf (parseInt (setting.getD (units "3"))) with
  | none =>
      apply iff_of_false
      · apply not_endsInDlq_of_unsent
        intro fuel outcome ran
        exact loop_unsent counted (Nat.zero_le _) ran
      · simp
  | some retries =>
      have limited : retriesOf ({ service with maxRetries := maxRetriesOf setting } : Service).maxRetries =
          some retries := counted
      rw [endsInDlq_iff_of_retries limited fails]
      simp only [Option.some.injEq, exists_eq_left']
      rfl

section Sample

def sampleEnvelope : Json := .object [(units "eventId", .text (units "7"))]

theorem noEnvelope_fails (event : Json) (call : Nat) : noEnvelope event call ≠ none := by
  cases event <;> simp [noEnvelope]

theorem ends_in_dlq_unset :
    EndsInDlq { paymentService with maxRetries := maxRetriesOf none } true 0
      Topic.ordersCreated.name sampleEnvelope { key := none, value := none } noEnvelope := by
  apply (ends_in_dlq_iff none paymentService true 0 Topic.ordersCreated.name sampleEnvelope _ _
    (noEnvelope_fails sampleEnvelope)).mpr
  exact ⟨3, by decide, fun _ _ _ => noEnvelope_warnable, by decide, fun _ => noEnvelope_parkable⟩

/-- With the variable set to the empty text the loop never ends. -/
theorem empty_setting_retries_forever :
    (∀ call, noEnvelope sampleEnvelope call ≠ none) ∧
      (∀ fuel, handleWithRetry { paymentService with maxRetries := maxRetriesOf (some []) } true 0
        Topic.ordersCreated.name sampleEnvelope { key := none, value := none } noEnvelope fuel 0 0 =
          none) ∧
      ¬ EndsInDlq { paymentService with maxRetries := maxRetriesOf (some []) } true 0
        Topic.ordersCreated.name sampleEnvelope { key := none, value := none } noEnvelope := by
  have limit : maxRetriesOf (some []) = .nan := by decide
  have forever (fuel attempt calls : Nat) : handleWithRetry
      { paymentService with maxRetries := maxRetriesOf (some []) } true 0 Topic.ordersCreated.name
      sampleEnvelope { key := none, value := none } noEnvelope fuel attempt calls = none := by
    rw [limit]
    induction fuel generalizing attempt calls with
    | zero => rfl
    | succ fuel ih => exact ih _ _
  refine ⟨noEnvelope_fails sampleEnvelope, fun fuel => forever fuel 0 0, ?_⟩
  apply not_endsInDlq_of_unsent
  intro fuel outcome ran
  cases (forever fuel 0 0).symm.trans ran

end Sample

end Ecommerce.Kafka
