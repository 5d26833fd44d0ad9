import Ecommerce.Kafka.Consumer
import Mathlib.Logic.Basic

set_option autoImplicit false

/-!
# Every message is handled or parked

The catch block of the retry loop reads `event.eventId` and `err.message`. Both can throw, and
then the message is neither handled nor parked.
-/

namespace Ecommerce.Kafka

def Handler.succeeds (handler : Handler) (event : Json) (call : Nat) : Prop :=
  handler event call = none

/-- The last call succeeded and nothing was sent. -/
def Handled (handler : Handler) (parsed : Option Json) (outcome : Dispatched) : Prop :=
  outcome.sent = [] ∧ ∃ event last, parsed = some event ∧ outcome.calls = last + 1 ∧
    handler.succeeds event last

/-- One envelope was sent, with the key, the attempt count and the original. -/
def Parked (topic : String) (message : Message) (bytes : List UInt8) (maxRetries : Nat)
    (outcome : Dispatched) : Prop :=
  let parsed := jsonParse (bufferToString bytes)
  ∃ deadLetter : DeadLetterEnvelope,
    outcome.sent = [{ topic := dlqForTopic topic, key := message.key, value := deadLetter }] ∧
    deadLetter.key = message.key.map bufferToString ∧
    deadLetter.attempts = (if parsed.isNone then 0 else maxRetries + 1) ∧
    deadLetter.original = parsed.getD (.text (bufferToString bytes))

/-- With a working DLQ producer dispatch returns after at most `maxRetries + 1` calls, and the
message is either handled or parked; with a failing one it comes to an end as well, and does not
return once it has tried to park the message. -/
structure HandledOrParked (service : Service) (failedAt : Timestamp) (topic : String)
    (message : Message) (handler : Handler) (bytes : List UInt8) (maxRetries : Nat) : Prop where
  returns : ∃ fuel outcome, dispatch service true failedAt topic message fuel = some outcome ∧
    outcome.returned = true ∧ outcome.calls ≤ maxRetries + 1 ∧
    Xor (Handled handler (jsonParse (bufferToString bytes)) outcome)
      (Parked topic message bytes maxRetries outcome)
  rejects : ∃ fuel outcome, dispatch service false failedAt topic message fuel = some outcome ∧
    outcome.calls ≤ maxRetries + 1 ∧
    (Handled handler (jsonParse (bufferToString bytes)) outcome ∧ outcome.returned = true ∨
      Parked topic message bytes maxRetries outcome ∧ outcome.returned = false)

section Condition

variable (service : Service) (failedAt : Timestamp) (topic : String) (message : Message)

/-- What was thrown can be read, and the letter that holds it can be turned into JSON. -/
def Parkable (err : Thrown) (attempts : Nat) (original : Json) : Prop :=
  ∃ error, err.summary = some error ∧
    service.engine.stringifies
      { originalTopic := topic
        consumerGroup := service.groupId
        failedAt
        attempts
        error
        key := message.key.map bufferToString
        original } = true

/-- The warning can be built after every call that is retried; and one of the calls succeeds, or
the retries can be counted up, the event can be named in the log, and what the last call throws can
be parked with it. -/
def Retriable (handler : Handler) (event : Json) (maxRetries : Nat) : Prop :=
  (∀ call < maxRetries, (∀ earlier < call, ¬ handler.succeeds event earlier) →
    ∀ err, handler event call = some err → err.warnable = true) ∧
  ((∃ call ≤ maxRetries, handler.succeeds event call) ∨
    maxRetries < maxExact ∧ (event.loggable && service.engine.prints event) = true ∧
      ∀ err, handler event maxRetries = some err →
        Parkable service failedAt topic message err (maxRetries + 1) event)

/-- A value that is no JSON can be parked as it is, and one that is JSON can be retried. -/
def Dispatchable (handler : Handler) (bytes : List UInt8) (maxRetries : Nat) : Prop :=
  match jsonParse (bufferToString bytes) with
  | none =>
      Parkable service failedAt topic message (service.unparseable (bufferToString bytes)) 0
        (.text (bufferToString bytes))
  | some event => Retriable service failedAt topic message handler event maxRetries

end Condition

section Loop

variable {service : Service} {sendSucceeds : Bool} {failedAt : Timestamp} {topic : String}
variable {event : Json} {message : Message} {handler : Handler} {maxRetries : Nat}

def Handler.retries (handler : Handler) (event : Json) (call : Nat) : Prop :=
  ∃ err, handler event call = some err ∧ err.warnable = true

theorem parkable_iff {err : Thrown} {attempts : Nat} {original : Json} :
    Parkable service failedAt topic message err attempts original ↔
      ∃ record, toDlq service failedAt topic message err attempts original = some record := by
  cases given : err.summary with
  | none => simp [Parkable, toDlq, given]
  | some error => simp [Parkable, toDlq, given]

theorem toDlq_eq_some {err : Thrown} {attempts : Nat} {original : Json} {record : DlqRecord}
    (built : toDlq service failedAt topic message err attempts original = some record) :
    ∃ error, err.summary = some error ∧ record =
      { topic := dlqForTopic topic
        key := message.key
        value :=
          { originalTopic := topic
            consumerGroup := service.groupId
            failedAt
            attempts
            error
            key := message.key.map bufferToString
            original } } := by
  simp only [toDlq, Option.bind_eq_bind, Option.bind_eq_some_iff] at built
  obtain ⟨error, given, built⟩ := built
  split at built <;> cases built
  exact ⟨error, given, rfl⟩

@[simp] theorem Dispatched.parking_calls (sendSucceeds : Bool) (calls : Nat)
    (record : Option DlqRecord) : (Dispatched.parking sendSucceeds calls record).calls = calls := by
  cases record <;> rfl

theorem Dispatched.parking_sent {calls : Nat} {built : Option DlqRecord} {record : DlqRecord}
    (sent : record ∈ (Dispatched.parking sendSucceeds calls built).sent) : built = some record := by
  cases built with
  | none => cases sent
  | some other => exact congrArg some (List.mem_singleton.mp sent).symm

theorem Dispatched.parking_returned {calls : Nat} {built : Option DlqRecord}
    (returned : (Dispatched.parking sendSucceeds calls built).returned = true) :
    sendSucceeds = true ∧ ∃ record, built = some record ∧
      (Dispatched.parking sendSucceeds calls built).sent = [record] := by
  cases built with
  | none => cases returned
  | some record => exact ⟨returned, record, rfl, rfl⟩

theorem loop_mono {fuel attempt calls : Nat} {outcome : Dispatched} (more : Nat)
    (ran : handleWithRetry service sendSucceeds failedAt topic event message handler fuel attempt
      calls = some outcome) :
    handleWithRetry service sendSucceeds failedAt topic event message handler (fuel + more) attempt
      calls = some outcome := by
  induction fuel generalizing attempt calls with
  | zero => cases ran
  | succ fuel ih =>
      rw [Nat.succ_add]
      simp only [handleWithRetry] at ran ⊢
      cases called : handler event calls with
      | none => simpa [called] using ran
      | some err =>
          simp only [called] at ran ⊢
          split at ran
          · next past => simpa [past] using ran
          · next under =>
              simp only [under, Bool.false_eq_true, if_false] at ran ⊢
              split at ran
              · next warned => simpa [warned] using ih ran
              · next silent => simpa [silent] using ran

theorem loop_unique {one two attempt calls : Nat} {first second : Dispatched}
    (left : handleWithRetry service sendSucceeds failedAt topic event message handler one attempt
      calls = some first)
    (right : handleWithRetry service sendSucceeds failedAt topic event message handler two attempt
      calls = some second) : first = second := by
  have leftMore := loop_mono two left
  have rightMore := loop_mono one right
  rw [Nat.add_comm] at rightMore
  exact Option.some.inj (leftMore.symm.trans rightMore)

theorem loop_calls {fuel attempt calls : Nat} {outcome : Dispatched}
    (ran : handleWithRetry service sendSucceeds failedAt topic event message handler fuel attempt
      calls = some outcome) : calls < outcome.calls := by
  induction fuel generalizing attempt calls with
  | zero => cases ran
  | succ fuel ih =>
      simp only [handleWithRetry] at ran
      cases called : handler event calls with
      | none =>
          simp only [called, Option.some.injEq] at ran
          subst ran
          exact Nat.lt_succ_self calls
      | some err =>
          simp only [called] at ran
          split at ran
          · split at ran <;> cases ran
            · rw [Dispatched.parking_calls]
              exact Nat.lt_succ_self calls
            · exact Nat.lt_succ_self calls
          · split at ran
            · exact Nat.lt_of_succ_lt (ih ran)
            · cases ran
              exact Nat.lt_succ_self calls

theorem increment_min (call : Nat) :
    increment (min call maxExact) = min (call + 1) maxExact := by
  unfold increment
  split <;> omega

theorem loop_reaches {call : Nat}
    (under : ∀ earlier < call, service.maxRetries.exceededBy (min (earlier + 1) maxExact) = false)
    (retried : ∀ earlier < call, handler.retries event earlier) (fuel : Nat) :
    handleWithRetry service sendSucceeds failedAt topic event message handler (fuel + call) 0 0 =
      handleWithRetry service sendSucceeds failedAt topic event message handler fuel
        (min call maxExact) call := by
  -- After so many retried calls the loop goes on with the next one.
  induction call generalizing fuel with
  | zero => simp
  | succ call ih =>
      have step := ih (fun earlier before => under earlier (by omega))
        (fun earlier before => retried earlier (by omega)) (fuel + 1)
      rw [show fuel + (call + 1) = fuel + 1 + call by omega, step]
      obtain ⟨err, failed, warned⟩ := retried call (Nat.lt_succ_self call)
      simp only [handleWithRetry, failed, increment_min, under call (Nat.lt_succ_self call), warned]
      rfl

theorem under_limit (limit : service.maxRetries = .integer maxRetries) {attempt : Nat}
    (within : attempt ≤ maxRetries) : service.maxRetries.exceededBy attempt = false := by
  rw [limit]
  simp only [Number.exceededBy, decide_eq_false_iff_not]
  omega

/-- The call at which the retries stop. -/
inductive Stops (handler : Handler) (event : Json) (maxRetries call : Nat) : Prop where
  | succeeded (found : handler.succeeds event call)
  | unwarnable (err : Thrown) (found : handler event call = some err)
      (silent : err.warnable = false) (left : call < maxRetries)
  | exhausted (err : Thrown) (found : handler event call = some err) (last : call = maxRetries)

theorem exists_stop (handler : Handler) (event : Json) (maxRetries : Nat) :
    ∃ call ≤ maxRetries, (∀ earlier < call, handler.retries event earlier) ∧
      Stops handler event maxRetries call := by
  have scan : ∀ upTo ≤ maxRetries, (∀ earlier < upTo, handler.retries event earlier) ∨
      ∃ call < upTo, (∀ earlier < call, handler.retries event earlier) ∧
        Stops handler event maxRetries call := by
    intro upTo within
    induction upTo with
    | zero => exact .inl fun earlier before => absurd before (Nat.not_lt_zero earlier)
    | succ upTo ih =>
        rcases ih (by omega) with retried | ⟨call, before, rest⟩
        · cases found : handler event upTo with
          | none => exact .inr ⟨upTo, Nat.lt_succ_self upTo, retried, .succeeded found⟩
          | some err =>
              cases warned : err.warnable with
              | false =>
                  exact .inr ⟨upTo, Nat.lt_succ_self upTo, retried,
                    .unwarnable err found warned (by omega)⟩
              | true =>
                  refine .inl fun earlier before => ?_
                  rcases Nat.lt_succ_iff_lt_or_eq.mp before with before | rfl
                  · exact retried earlier before
                  · exact ⟨err, found, warned⟩
        · exact .inr ⟨call, by omega, rest⟩
  rcases scan maxRetries (Nat.le_refl maxRetries) with retried | ⟨call, before, rest⟩
  · refine ⟨maxRetries, Nat.le_refl maxRetries, retried, ?_⟩
    cases found : handler event maxRetries with
    | none => exact .succeeded found
    | some err => exact .exhausted err found rfl
  · exact ⟨call, by omega, rest⟩

section Stop

variable {call : Nat} (limit : service.maxRetries = .integer maxRetries)
  (within : call ≤ maxRetries) (retried : ∀ earlier < call, handler.retries event earlier)

include limit within retried

theorem loop_reaches_within (fuel : Nat) :
    handleWithRetry service sendSucceeds failedAt topic event message handler (fuel + call) 0 0 =
      handleWithRetry service sendSucceeds failedAt topic event message handler fuel
        (min call maxExact) call := by
  apply loop_reaches _ retried
  intro earlier before
  apply under_limit limit
  omega

theorem loop_succeeds (found : handler.succeeds event call) :
    handleWithRetry service sendSucceeds failedAt topic event message handler (1 + call) 0 0 =
      some { returned := true, calls := call + 1, sent := [] } := by
  rw [loop_reaches_within limit within retried]
  simp only [Handler.succeeds] at found
  simp only [handleWithRetry, found]

theorem loop_unwarnable {err : Thrown} (found : handler event call = some err)
    (silent : err.warnable = false) (left : min (call + 1) maxExact ≤ maxRetries) :
    handleWithRetry service sendSucceeds failedAt topic event message handler (1 + call) 0 0 =
      some { returned := false, calls := call + 1, sent := [] } := by
  -- Building the warning throws out of the loop.
  have under := under_limit limit left
  rw [loop_reaches_within limit within retried]
  simp only [handleWithRetry, found, increment_min, under, silent]
  rfl

theorem loop_exhausted {err : Thrown} (found : handler event call = some err)
    (last : call = maxRetries) (exact : maxRetries < maxExact) :
    handleWithRetry service sendSucceeds failedAt topic event message handler (1 + call) 0 0 =
      some
        (if event.loggable && service.engine.prints event then
          .parking sendSucceeds (maxRetries + 1)
            (toDlq service failedAt topic message err (maxRetries + 1) event)
        else { returned := false, calls := maxRetries + 1, sent := [] }) := by
  -- With no retry left the message is sent, unless the log line throws before.
  subst last
  have attempts : min (call + 1) maxExact = call + 1 := by omega
  have past : (Number.integer call).exceededBy (call + 1) = true := by
    simp only [Number.exceededBy, decide_eq_true_eq]
    omega
  rw [loop_reaches_within limit within retried]
  simp only [handleWithRetry, found, increment_min, attempts, limit, past, if_true]
  split <;> rfl

theorem loop_endless {err : Thrown} (found : handler event call = some err)
    (last : call = maxRetries) (endless : maxExact ≤ maxRetries) {fuel : Nat}
    {outcome : Dispatched}
    (ran : handleWithRetry service sendSucceeds failedAt topic event message handler fuel 0 0 =
      some outcome) : outcome.returned = false ∨ maxRetries + 1 < outcome.calls := by
  -- From 2 ^ 53 retries on the counter never gets past the limit.
  cases warned : err.warnable with
  | false =>
      have ended := loop_unique ran (loop_unwarnable limit within retried found warned (by omega))
      exact .inl (ended ▸ rfl)
  | true =>
      have under : service.maxRetries.exceededBy (min (call + 1) maxExact) = false :=
        under_limit limit (by omega)
      have later := loop_mono (1 + call) ran
      rw [← Nat.add_assoc, loop_reaches_within limit within retried] at later
      simp only [handleWithRetry, found, increment_min, under, Bool.false_eq_true,
        if_false, warned, if_true] at later
      exact .inr (last ▸ loop_calls later)

end Stop

/-- However the send turns out, the run goes the same way up to it. -/
theorem handled_or_parked_of_runs {bytes : List UInt8}
    (ran : ∀ sendSucceeds, ∃ fuel outcome,
      dispatch service sendSucceeds failedAt topic message fuel = some outcome ∧
      outcome.calls ≤ maxRetries + 1 ∧
      (Handled handler (jsonParse (bufferToString bytes)) outcome ∧ outcome.returned = true ∨
        Parked topic message bytes maxRetries outcome ∧ outcome.returned = sendSucceeds)) :
    HandledOrParked service failedAt topic message handler bytes maxRetries where
  returns := by
    obtain ⟨fuel, outcome, ended, calls, either⟩ := ran true
    refine ⟨fuel, outcome, ended, either.elim And.right And.right, calls, ?_⟩
    -- What is handled was not sent.
    rcases either with ⟨handled, -⟩ | ⟨parked, -⟩
    · refine .inl ⟨handled, fun ⟨deadLetter, one, _⟩ => ?_⟩
      rw [handled.1] at one
      cases one
    · refine .inr ⟨parked, fun handled => ?_⟩
      obtain ⟨deadLetter, one, -⟩ := parked
      rw [handled.1] at one
      cases one
  rejects := ran false

theorem not_handled_or_parked {bytes : List UInt8}
    (fails : ∀ fuel outcome, dispatch service true failedAt topic message fuel = some outcome →
      outcome.returned = false ∨ maxRetries + 1 < outcome.calls) :
    ¬ HandledOrParked service failedAt topic message handler bytes maxRetries := by
  rintro ⟨⟨fuel, outcome, ran, returned, calls, -⟩, -⟩
  rcases fails fuel outcome ran with rejected | overlong
  · rw [returned] at rejected
    cases rejected
  · omega

theorem parked_of_record {bytes : List UInt8} {outcome : Dispatched} {err : Thrown} {attempts : Nat}
    {original : Json} {record : DlqRecord}
    (built : toDlq service failedAt topic message err attempts original = some record)
    (sent : outcome.sent = [record])
    (count : attempts = if (jsonParse (bufferToString bytes)).isNone then 0 else maxRetries + 1)
    (same : original = (jsonParse (bufferToString bytes)).getD (.text (bufferToString bytes))) :
    Parked topic message bytes maxRetries outcome := by
  obtain ⟨error, -, rfl⟩ := toDlq_eq_some built
  exact ⟨_, sent, rfl, count, same⟩

theorem not_succeeds_of_retries {call : Nat} (retried : handler.retries event call) :
    ¬ handler.succeeds event call := by
  obtain ⟨err, failed, -⟩ := retried
  simp [Handler.succeeds, failed]

theorem warnable_of_retried {call : Nat} (within : call ≤ maxRetries)
    (retried : ∀ earlier < call, handler.retries event earlier)
    (stopped : handler.succeeds event call ∨ call = maxRetries) :
    ∀ other < maxRetries, (∀ earlier < other, ¬ handler.succeeds event earlier) →
      ∀ err, handler event other = some err → err.warnable = true := by
  -- When the retries stop with a success or at the limit, every call before was warned of.
  intro other before none err thrown
  by_cases earlier : other < call
  · obtain ⟨same, failed, warned⟩ := retried other earlier
    cases failed.symm.trans thrown
    exact warned
  · rcases stopped with found | rfl
    · rcases Nat.lt_or_eq_of_le (Nat.le_of_not_lt earlier) with later | rfl
      · exact absurd found (none call later)
      · cases found.symm.trans thrown
    · exact absurd before earlier

section Message

variable {bytes : List UInt8} (route : service.routes topic = some handler)
  (value : message.value = some bytes)

include route value

theorem parked_iff_of_unparseable (parsed : jsonParse (bufferToString bytes) = none) :
    HandledOrParked service failedAt topic message handler bytes maxRetries ↔
      Parkable service failedAt topic message (service.unparseable (bufferToString bytes)) 0
        (.text (bufferToString bytes)) := by
  have ran (sendSucceeds : Bool) (fuel : Nat) :
      dispatch service sendSucceeds failedAt topic message fuel = some (.parking sendSucceeds 0
        (toDlq service failedAt topic message (service.unparseable (bufferToString bytes)) 0
          (.text (bufferToString bytes)))) := by
    simp only [dispatch, route, value, parsed]
  rw [parkable_iff]
  cases built : toDlq service failedAt topic message
      (service.unparseable (bufferToString bytes)) 0 (.text (bufferToString bytes)) with
  | none =>
      refine iff_of_false (not_handled_or_parked fun fuel outcome ended => ?_) (by simp)
      cases (ran true fuel).symm.trans ended
      rw [built]
      exact .inl rfl
  | some record =>
      refine iff_of_true (handled_or_parked_of_runs fun sendSucceeds => ?_) ⟨record, rfl⟩
      refine ⟨0, _, ran sendSucceeds 0, ?_, .inr ⟨?_, ?_⟩⟩ <;> rw [built]
      · exact Nat.zero_le _
      · exact parked_of_record built rfl (by simp [parsed]) (by simp [parsed])
      · rfl

theorem dispatch_parsed (parsed : jsonParse (bufferToString bytes) = some event) (fuel : Nat) :
    dispatch service sendSucceeds failedAt topic message fuel =
      handleWithRetry service sendSucceeds failedAt topic event message handler fuel 0 0 := by
  simp only [dispatch, route, value, parsed]

/-- Once every call has failed, the counter, the log line and the letter are left to decide. -/
theorem parked_iff_of_exhausted (limit : service.maxRetries = .integer maxRetries)
    (parsed : jsonParse (bufferToString bytes) = some event) {call : Nat}
    (within : call ≤ maxRetries) (retried : ∀ earlier < call, handler.retries event earlier)
    {err : Thrown} (found : handler event call = some err) (last : call = maxRetries) :
    HandledOrParked service failedAt topic message handler bytes maxRetries ↔
      maxRetries < maxExact ∧ (event.loggable && service.engine.prints event) = true ∧
        Parkable service failedAt topic message err (maxRetries + 1) event := by
  by_cases exact : maxRetries < maxExact
  · have ended (sendSucceeds : Bool) :
        dispatch service sendSucceeds failedAt topic message (1 + call) = _ :=
      (dispatch_parsed route value parsed _).trans
        (loop_exhausted limit within retried found last exact)
    have unreturned (outcome : Dispatched) (silent : outcome.returned = false)
        (ended : dispatch service true failedAt topic message (1 + call) = some outcome) :
        ¬ HandledOrParked service failedAt topic message handler bytes maxRetries := by
      refine not_handled_or_parked fun fuel other ran => ?_
      rw [dispatch_parsed route value parsed] at ran ended
      exact .inl (loop_unique ran ended ▸ silent)
    cases logged : event.loggable && service.engine.prints event with
    | false =>
        simp only [logged, Bool.false_eq_true, if_false] at ended
        exact iff_of_false (unreturned _ rfl (ended true)) (by simp)
    | true =>
        simp only [logged, if_true] at ended
        rw [parkable_iff]
        cases built : toDlq service failedAt topic message err (maxRetries + 1) event with
        | none =>
            rw [built] at ended
            exact iff_of_false (unreturned _ rfl (ended true)) (by simp)
        | some record =>
            rw [built] at ended
            refine iff_of_true (handled_or_parked_of_runs fun sendSucceeds => ?_)
              ⟨exact, rfl, record, rfl⟩
            exact ⟨_, _, ended sendSucceeds, Nat.le_refl _,
              .inr ⟨parked_of_record built rfl (by simp [parsed]) (by simp [parsed]), rfl⟩⟩
  · refine iff_of_false (not_handled_or_parked ?_) (by simp [exact])
    intro fuel outcome ran
    rw [dispatch_parsed route value parsed] at ran
    exact loop_endless limit within retried found last (Nat.le_of_not_lt exact) ran

end Message

end Loop

theorem handled_or_parked_iff (service : Service) (failedAt : Timestamp) (topic : String)
    (message : Message) (handler : Handler) (bytes : List UInt8) (maxRetries : Nat)
    (route : service.routes topic = some handler) (value : message.value = some bytes)
    (limit : service.maxRetries = .integer maxRetries) :
    HandledOrParked service failedAt topic message handler bytes maxRetries ↔
      Dispatchable service failedAt topic message handler bytes maxRetries := by
  unfold Dispatchable
  cases parsed : jsonParse (bufferToString bytes) with
  | none => exact parked_iff_of_unparseable route value parsed
  | some event =>
      have runs (sendSucceeds : Bool) (fuel : Nat) :
          dispatch service sendSucceeds failedAt topic message fuel = _ :=
        dispatch_parsed route value parsed fuel
      obtain ⟨call, within, retried, stops⟩ := exists_stop handler event maxRetries
      dsimp only
      cases stops with
      | succeeded found =>
          refine iff_of_true (handled_or_parked_of_runs fun sendSucceeds => ?_)
            ⟨warnable_of_retried within retried (.inl found), .inl ⟨call, within, found⟩⟩
          exact ⟨_, _, (runs sendSucceeds _).trans (loop_succeeds limit within retried found),
            by simpa using within, .inl ⟨⟨rfl, event, call, parsed, rfl, found⟩, rfl⟩⟩
      | unwarnable err found silent left =>
          refine iff_of_false (not_handled_or_parked ?_) ?_
          · intro fuel outcome ran
            rw [runs] at ran
            have ended :=
              loop_unique ran (loop_unwarnable limit within retried found silent (by omega))
            exact .inl (ended ▸ rfl)
          · rintro ⟨warned, -⟩
            have warns := warned call left
              (fun _ before => not_succeeds_of_retries (retried _ before)) err found
            cases silent.symm.trans warns
      | exhausted err found last =>
          have fails : ¬ ∃ call ≤ maxRetries, handler.succeeds event call := by
            rintro ⟨other, within, success⟩
            rcases Nat.lt_or_eq_of_le within with before | rfl
            · exact not_succeeds_of_retries (retried other (last ▸ before)) success
            · rw [Handler.succeeds, ← last, found] at success
              cases success
          have one : ∀ other, handler event maxRetries = some other ↔ other = err := by
            intro other
            rw [← last, found, Option.some.injEq]
            exact eq_comm
          simp only [Retriable, fails, false_or, one, forall_eq]
          rw [iff_true_intro (warnable_of_retried within retried (.inr last)), true_and]
          exact parked_iff_of_exhausted route value limit parsed within retried found last

section Sample

/-- What the order handler of a service does with a message that is no envelope. -/
def noEnvelope (event : Json) (_ : Nat) : Option Thrown :=
  some
    { warnable := true
      summary := some <|
        match event with
        -- It reads `event.payload` first.
        | .null =>
            { name := some "TypeError"
              message := "Cannot read properties of null (reading 'payload')" }
        -- The marker has no `eventId` to be stored under.
        | _ => { name := some "PrismaClientValidationError", message := "Argument eventId is missing." } }

/-- An engine with a stack and texts that are long enough for small messages. -/
def sampleEngine : Engine :=
  { prints := fun _ => true
    stringifies := fun _ => true }

def paymentService : Service :=
  { routes := fun topic => if topic = Topic.ordersCreated.name then some noEnvelope else none
    groupId := "payment-service"
    maxRetries := .integer 3
    syntaxError := fun _ => "Unexpected end of JSON input"
    engine := sampleEngine }

def nullBytes : List UInt8 := [0x6E, 0x75, 0x6C, 0x6C]

def objectBytes : List UInt8 := [0x7B, 0x7D]

theorem noEnvelope_warnable {event : Json} {call : Nat} {err : Thrown}
    (thrown : noEnvelope event call = some err) : err.warnable = true := by
  cases thrown
  rfl

theorem noEnvelope_parkable {event : Json} {call attempts : Nat} {err : Thrown} {message : Message}
    {topic : String} (thrown : noEnvelope event call = some err) :
    Parkable paymentService 0 topic message err attempts event := by
  cases thrown
  exact ⟨_, rfl, rfl⟩

theorem handled_or_parked_iff_object :
    HandledOrParked paymentService 0 Topic.ordersCreated.name
      { key := none, value := some objectBytes } noEnvelope objectBytes 3 := by
  refine (handled_or_parked_iff paymentService 0 Topic.ordersCreated.name _ noEnvelope objectBytes 3
    rfl rfl rfl).mpr ?_
  have same : jsonParse (bufferToString objectBytes) = some (.object []) := by rfl
  simp only [Dispatchable, same]
  exact ⟨fun _ _ _ _ => noEnvelope_warnable, .inr ⟨by decide, rfl, fun _ => noEnvelope_parkable⟩⟩

theorem null_not_parked :
    ¬ HandledOrParked paymentService 0 Topic.ordersCreated.name
      { key := none, value := some nullBytes } noEnvelope nullBytes 3 := by
  refine not_handled_or_parked fun fuel outcome ran => ?_
  have parsed : jsonParse (bufferToString nullBytes) = some .null := by rfl
  have ended : handleWithRetry paymentService true 0 Topic.ordersCreated.name .null
      { key := none, value := some nullBytes } noEnvelope 4 0 0 =
        some { returned := false, calls := 4, sent := [] } := by rfl
  have looped : handleWithRetry paymentService true 0 Topic.ordersCreated.name .null
      { key := none, value := some nullBytes } noEnvelope fuel 0 0 = some outcome := by
    simpa only [dispatch, paymentService, if_true, parsed] using ran
  exact .inl (loop_unique looped ended ▸ rfl)

end Sample

end Ecommerce.Kafka
