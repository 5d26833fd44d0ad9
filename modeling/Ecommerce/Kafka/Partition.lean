import Ecommerce.Kafka.DeadLetters
import Ecommerce.Machine.Run
import Mathlib.Logic.Function.Basic

set_option autoImplicit false

/-!
# A consumer group on a partition

The broker keeps the offset that the group has committed. A consumer that gets the partition, after
a crash, a rebalance or an error, goes on from there, or from the end of the log while nothing has
been committed: what came in between is lost to the group.
-/

namespace Ecommerce.Kafka

/-- What there is to one call of `dispatch` besides its message. -/
structure Delivery where
  handler : Handler
  sendSucceeds : Bool
  failedAt : Timestamp
  fuel : Nat

def Service.calling (service : Service) (handler : Handler) : Service :=
  { service with routes := fun topic => (service.routes topic).map fun _ => handler }

def Delivery.dispatch (delivery : Delivery) (service : Service) (topic : String)
    (message : Message) : Option Dispatched :=
  Kafka.dispatch (service.calling delivery.handler) delivery.sendSucceeds delivery.failedAt topic
    message delivery.fuel

/-- A call of `dispatch` that has ended. -/
structure Consumed where
  member : Nat
  offset : Nat
  delivery : Delivery
  outcome : Dispatched

structure Group where
  log : List Message
  committed : Option Nat
  -- Where the consumers are that have been given the partition.
  positions : Nat → Option Nat
  consumed : List Consumed
  -- Where a consumer has begun that did not go on from what the group committed.
  starts : List Nat

inductive Group.Action where
  | append (message : Message)
  | assign (member : Nat)
  | eachMessage (member : Nat) (delivery : Delivery)
  | commit (member : Nat)

namespace Group

def initial (log : List Message) (committed : Option Nat) : Group :=
  { log, committed, positions := fun _ => none, consumed := [], starts := committed.toList }

def step (service : Service) (topic : String) (group : Group) : Action → Option Group
  | .append message => some { group with log := group.log ++ [message] }
  | .assign member =>
      let place (group : Group) (offset : Nat) : Group :=
        { group with positions := Function.update group.positions member (some offset) }
      match group.committed with
      | some offset => some (place group offset)
      -- It subscribes with `fromBeginning: false`.
      | none =>
          some (place { group with starts := group.starts ++ [group.log.length] } group.log.length)
  | .eachMessage member delivery => do
      let offset ← group.positions member
      let message ← group.log[offset]?
      let outcome ← delivery.dispatch service topic message
      -- Only a message whose dispatch has returned is behind the consumer.
      let position := if outcome.returned then offset + 1 else offset
      some
        { group with
          positions := Function.update group.positions member (some position)
          consumed := group.consumed ++ [{ member, offset, delivery, outcome }] }
  | .commit member => do
      let position ← group.positions member
      some { group with committed := some position }

end Group

section Dispatch

variable {service : Service} {sendSucceeds : Bool} {failedAt : Timestamp} {topic : String}
variable {event : Json} {message : Message} {handler : Handler} {outcome : Dispatched}

/-- What has become of a message whose dispatch has returned. -/
inductive Settles (service : Service) (topic : String) (message : Message) (delivery : Delivery)
    (outcome : Dispatched) : Prop
  | ignored (unread : service.routes topic = none ∨ message.value = none)
  | handled (bytes : List UInt8) (event : Json) (last : Nat) (value : message.value = some bytes)
      (parsed : jsonParse (bufferToString bytes) = some event)
      (calls : outcome.calls = last + 1) (succeeded : delivery.handler event last = none)
  | parked (bytes : List UInt8) (deadLetter : DeadLetterEnvelope)
      (value : message.value = some bytes) (acknowledged : delivery.sendSucceeds = true)
      (sent : outcome.sent =
        [{ topic := dlqForTopic topic, key := message.key, value := deadLetter }])
      (original : deadLetter.original =
        (jsonParse (bufferToString bytes)).getD (.text (bufferToString bytes)))

theorem handleWithRetry_returned {fuel attempt calls : Nat}
    (ended : handleWithRetry service sendSucceeds failedAt topic event message handler fuel attempt
      calls = some outcome) (returned : outcome.returned = true) :
    (∃ last, outcome.calls = last + 1 ∧ handler event last = none) ∨
      sendSucceeds = true ∧ ∃ err attempts record,
        toDlq service failedAt topic message err attempts event = some record ∧
          outcome.sent = [record] := by
  induction fuel generalizing attempt calls with
  | zero => cases ended
  | succ fuel ih =>
      simp only [handleWithRetry] at ended
      cases called : handler event calls with
      | none =>
          simp only [called] at ended
          cases ended
          exact .inl ⟨calls, rfl, called⟩
      | some err =>
          simp only [called] at ended
          split at ended
          · split at ended <;> cases ended
            · obtain ⟨acknowledged, record, built, sent⟩ := Dispatched.parking_returned returned
              exact .inr ⟨acknowledged, err, _, record, built, sent⟩
            · cases returned
          · split at ended
            · exact ih ended
            · cases ended
              cases returned

theorem Delivery.dispatch_settles {delivery : Delivery}
    (ended : delivery.dispatch service topic message = some outcome)
    (returned : outcome.returned = true) : Settles service topic message delivery outcome := by
  unfold Delivery.dispatch Kafka.dispatch Service.calling at ended
  cases routed : service.routes topic with
  | none => exact .ignored (.inl routed)
  | some route =>
      cases value : message.value with
      | none => exact .ignored (.inr value)
      | some bytes =>
          simp only [routed, value, Option.map_some] at ended
          cases parsed : jsonParse (bufferToString bytes) with
          | none =>
              rw [parsed] at ended
              cases ended
              obtain ⟨acknowledged, record, built, sent⟩ := Dispatched.parking_returned returned
              obtain ⟨error, -, rfl⟩ := toDlq_eq_some built
              exact .parked bytes _ value acknowledged sent (by rw [parsed]; rfl)
          | some event =>
              rw [parsed] at ended
              rcases handleWithRetry_returned ended returned with
                ⟨last, calls, succeeded⟩ | ⟨acknowledged, err, attempts, record, built, sent⟩
              · exact .handled bytes event last value parsed calls succeeded
              · obtain ⟨error, -, rfl⟩ := toDlq_eq_some built
                exact .parked bytes _ value acknowledged sent (by rw [parsed]; rfl)

end Dispatch

/-- A dispatch of the message at this offset has returned. -/
def Passed (consumed : List Consumed) (offset : Nat) : Prop :=
  ∃ one ∈ consumed, one.offset = offset ∧ one.outcome.returned = true

def Consumed.passedBy (member offset : Nat) (one : Consumed) : Bool :=
  one.member = member && one.offset = offset && one.outcome.returned

def Group.Action.assigns (member : Nat) : Group.Action → Bool
  | .assign other => other = member
  | .append _ | .eachMessage _ _ | .commit _ => false

/-- From one of the starts on, everything before this offset has been passed. -/
def Reached (starts : List Nat) (consumed : List Consumed) (upTo : Nat) : Prop :=
  ∃ start ∈ starts, start ≤ upTo ∧ ∀ offset, start ≤ offset → offset < upTo → Passed consumed offset

/-- What is behind the group, or behind one of its consumers, has been passed in its order. -/
structure Group.Sound (service : Service) (topic : String) (group : Group) : Prop where
  committed : ∀ upTo, group.committed = some upTo → Reached group.starts group.consumed upTo
  positions : ∀ member position, group.positions member = some position →
    Reached group.starts group.consumed position
  ended : ∀ one ∈ group.consumed, ∃ message, group.log[one.offset]? = some message ∧
    one.delivery.dispatch service topic message = some one.outcome
  ordered : ∀ before one after, group.consumed = before ++ one :: after →
    Reached group.starts before one.offset

section Steps

variable {service : Service} {topic : String} {group next last : Group} {action : Group.Action}
variable {member offset : Nat} {starts : List Nat} {consumed : List Consumed} {upTo : Nat}

theorem Passed.grows (passed : Passed consumed offset) (more : List Consumed) :
    Passed (consumed ++ more) offset := by
  obtain ⟨one, member, holds⟩ := passed
  exact ⟨one, List.mem_append_left _ member, holds⟩

theorem Reached.grows (reached : Reached starts consumed upTo) (more : List Consumed) :
    Reached starts (consumed ++ more) upTo := by
  obtain ⟨start, member, behind, passed⟩ := reached
  exact ⟨start, member, behind, fun offset since before => (passed offset since before).grows more⟩

theorem Reached.more_starts (reached : Reached starts consumed upTo) (more : List Nat) :
    Reached (starts ++ more) consumed upTo := by
  obtain ⟨start, member, behind, passed⟩ := reached
  exact ⟨start, List.mem_append_left _ member, behind, passed⟩

theorem Reached.succ (reached : Reached starts consumed upTo) (passed : Passed consumed upTo) :
    Reached starts consumed (upTo + 1) := by
  obtain ⟨start, member, behind, earlier⟩ := reached
  refine ⟨start, member, Nat.le_succ_of_le behind, fun offset since before => ?_⟩
  rcases Nat.lt_succ_iff_lt_or_eq.mp before with before | rfl
  · exact earlier offset since before
  · exact passed

/-- A consumer that begins has passed nothing yet. -/
theorem Reached.here (starts : List Nat) (consumed : List Consumed) (start : Nat) :
    Reached (starts ++ [start]) consumed start :=
  ⟨start, by simp, Nat.le_refl start, fun _ since before => absurd before (Nat.not_lt.mpr since)⟩

theorem Group.step_consumes {delivery : Delivery}
    (taken : group.step service topic (.eachMessage member delivery) = some next) :
    ∃ offset message outcome, group.positions member = some offset ∧
      group.log[offset]? = some message ∧ delivery.dispatch service topic message = some outcome ∧
        next =
          { group with
            positions := Function.update group.positions member
              (some (if outcome.returned then offset + 1 else offset))
            consumed := group.consumed ++ [{ member, offset, delivery, outcome }] } := by
  simp only [Group.step, Option.bind_eq_bind, Option.bind_eq_some_iff, Option.some.injEq] at taken
  obtain ⟨offset, positioned, message, read, outcome, ended, rfl⟩ := taken
  exact ⟨offset, message, outcome, positioned, read, ended, rfl⟩

theorem Group.step_assigns (taken : group.step service topic (.assign member) = some next) :
    ∃ position starts, next =
      { group with positions := Function.update group.positions member (some position), starts } := by
  simp only [Group.step] at taken
  split at taken <;> cases taken <;> exact ⟨_, _, rfl⟩

theorem Group.Sound.consumes (sound : group.Sound service topic) {message : Message}
    {delivery : Delivery} {outcome : Dispatched} (positioned : group.positions member = some offset)
    (read : group.log[offset]? = some message)
    (ended : delivery.dispatch service topic message = some outcome) :
    Group.Sound service topic
      { group with
        positions := Function.update group.positions member
          (some (if outcome.returned then offset + 1 else offset))
        consumed := group.consumed ++ [{ member, offset, delivery, outcome }] } where
  committed upTo kept := (sound.committed upTo kept).grows _
  positions other position held := by
    dsimp only at held
    by_cases same : other = member
    · subst same
      rw [Function.update_self, Option.some.injEq] at held
      have before := (sound.positions other offset positioned).grows
        [{ member := other, offset, delivery, outcome }]
      cases returned : outcome.returned with
      | true =>
          rw [← held, returned, if_pos rfl]
          exact before.succ ⟨_, List.mem_append_right _ (List.mem_singleton_self _), rfl, returned⟩
      | false =>
          rw [← held, returned, if_neg Bool.false_ne_true]
          exact before
    · rw [Function.update_of_ne same] at held
      exact (sound.positions other position held).grows _
  ended one present := by
    rcases List.mem_append.mp present with old | new
    · exact sound.ended one old
    · rw [List.mem_singleton] at new
      subst new
      exact ⟨message, read, ended⟩
  ordered before one after split := by
    rcases List.eq_nil_or_concat after with rfl | ⟨others, final, rfl⟩
    · obtain ⟨rfl, same⟩ := List.append_inj' split rfl
      cases same
      exact sound.positions member offset positioned
    · rw [List.concat_eq_append, ← List.cons_append, ← List.append_assoc] at split
      obtain ⟨old, -⟩ := List.append_inj' split rfl
      exact sound.ordered before one others old

theorem Group.Sound.assigned (sound : group.Sound service topic)
    (reached : Reached group.starts group.consumed offset) :
    Group.Sound service topic
      { group with positions := Function.update group.positions member (some offset) } := by
  refine { sound with positions := fun other position held => ?_ }
  dsimp only at held
  by_cases same : other = member
  · subst same
    rw [Function.update_self, Option.some.injEq] at held
    exact held ▸ reached
  · rw [Function.update_of_ne same] at held
    exact sound.positions other position held

theorem Group.Sound.begins (sound : group.Sound service topic) (start : Nat) :
    Group.Sound service topic { group with starts := group.starts ++ [start] } where
  committed upTo kept := (sound.committed upTo kept).more_starts _
  positions member position held := (sound.positions member position held).more_starts _
  ended := sound.ended
  ordered before one after split := (sound.ordered before one after split).more_starts _

theorem Group.Sound.step (sound : group.Sound service topic)
    (taken : group.step service topic action = some next) : next.Sound service topic := by
  cases action with
  | append message =>
      cases taken
      refine { sound with ended := fun one present => ?_ }
      obtain ⟨read, there, ended⟩ := sound.ended one present
      have within := (List.getElem?_eq_some_iff.mp there).1
      exact ⟨read, by rw [List.getElem?_append_left within, there], ended⟩
  | assign member =>
      simp only [Group.step] at taken
      split at taken <;> cases taken
      · next offset committed => exact sound.assigned (sound.committed offset committed)
      · exact (sound.begins group.log.length).assigned (.here ..)
  | eachMessage member delivery =>
      obtain ⟨offset, message, outcome, positioned, read, ended, rfl⟩ := Group.step_consumes taken
      exact sound.consumes positioned read ended
  | commit member =>
      simp only [Group.step, Option.bind_eq_bind, Option.bind_eq_some_iff, Option.some.injEq] at taken
      obtain ⟨position, held, rfl⟩ := taken
      refine { sound with committed := fun upTo kept => ?_ }
      cases kept
      exact sound.positions member position held

theorem Group.Sound.initial (service : Service) (topic : String) (log : List Message)
    (committed : Option Nat) : (Group.initial log committed).Sound service topic where
  committed upTo kept := by
    have known : committed = some upTo := kept
    subst known
    exact .here [] [] upTo
  positions := by simp [Group.initial]
  ended := by simp [Group.initial]
  ordered := by simp [Group.initial]

/-- Once the group has committed, every consumer goes on from there. -/
theorem Group.step_starts (committed : group.committed ≠ none)
    (taken : group.step service topic action = some next) :
    next.committed ≠ none ∧ next.starts = group.starts := by
  cases action with
  | append message =>
      cases taken
      exact ⟨committed, rfl⟩
  | assign member =>
      simp only [Group.step] at taken
      split at taken
      · cases taken
        exact ⟨committed, rfl⟩
      · next missing => exact absurd missing committed
  | eachMessage member delivery =>
      obtain ⟨offset, message, outcome, -, -, -, rfl⟩ := Group.step_consumes taken
      exact ⟨committed, rfl⟩
  | commit member =>
      simp only [Group.step, Option.bind_eq_bind, Option.bind_eq_some_iff, Option.some.injEq] at taken
      obtain ⟨position, held, rfl⟩ := taken
      exact ⟨by simp, rfl⟩

/-- A consumer passes a message once for each time that it has been given the partition. -/
structure Group.Charged (member offset given : Nat) (group : Group) : Prop where
  passes : group.consumed.countP (Consumed.passedBy member offset) ≤ given
  ahead : ∀ position, group.positions member = some position → position ≤ offset →
    group.consumed.countP (Consumed.passedBy member offset) + 1 ≤ given

theorem Group.Charged.step {given : Nat} (charged : group.Charged member offset given)
    (taken : group.step service topic action = some next) :
    next.Charged member offset (given + (action.assigns member).toNat) := by
  cases action with
  | append message =>
      cases taken
      exact ⟨charged.passes, charged.ahead⟩
  | assign other =>
      obtain ⟨position, starts, rfl⟩ := Group.step_assigns taken
      by_cases same : member = other
      · subst same
        have mine : (Group.Action.assign member).assigns member = true := by
          simp [Group.Action.assigns]
        rw [mine]
        exact ⟨Nat.le_succ_of_le charged.passes, fun _ _ _ => Nat.succ_le_succ charged.passes⟩
      · have others : (Group.Action.assign other).assigns member = false := by
          simp [Group.Action.assigns, Ne.symm same]
        rw [others]
        refine ⟨charged.passes, fun position held behind => charged.ahead position ?_ behind⟩
        simpa [same] using held
  | commit other =>
      simp only [Group.step, Option.bind_eq_bind, Option.bind_eq_some_iff, Option.some.injEq] at taken
      obtain ⟨position, held, rfl⟩ := taken
      exact ⟨charged.passes, charged.ahead⟩
  | eachMessage other delivery =>
      obtain ⟨here, message, outcome, positioned, read, ended, rfl⟩ := Group.step_consumes taken
      have counted : ∀ one : Consumed, (group.consumed ++ [one]).countP
          (Consumed.passedBy member offset) =
            group.consumed.countP (Consumed.passedBy member offset) +
              (one.passedBy member offset).toNat := by
        intro one
        rw [List.countP_append, List.countP_singleton]
        cases one.passedBy member offset <;> rfl
      have onward (position : Nat) (held : Function.update group.positions other
          (some (if outcome.returned then here + 1 else here)) member = some position)
          (behind : position ≤ offset) :
          group.consumed.countP (Consumed.passedBy member offset) + 1 ≤ given := by
        by_cases same : member = other
        · subst same
          rw [Function.update_self, Option.some.injEq] at held
          apply charged.ahead here positioned
          split at held <;> omega
        · rw [Function.update_of_ne same] at held
          exact charged.ahead position held behind
      have none : (Group.Action.eachMessage other delivery).assigns member = false := rfl
      rw [none]
      let one : Consumed := { member := other, offset := here, delivery, outcome }
      cases passed : one.passedBy member offset with
      | false =>
          constructor
          · rw [counted, passed]
            exact charged.passes
          · rw [counted, passed]
            exact onward
      | true =>
          have mine := passed
          simp only [one, Consumed.passedBy, Bool.and_eq_true, decide_eq_true_eq] at mine
          obtain ⟨⟨rfl, rfl⟩, returned⟩ := mine
          constructor
          · rw [counted, passed]
            exact charged.ahead here positioned (Nat.le_refl here)
          · intro position held behind
            dsimp only at held
            rw [Function.update_self, returned, if_pos rfl, Option.some.injEq] at held
            exact absurd behind (by omega)

theorem Group.Charged.run {given : Nat} {actions : List Group.Action}
    (charged : group.Charged member offset given)
    (ran : Machine.run (Group.step service topic) group actions = some last) :
    last.Charged member offset (given + actions.countP (Group.Action.assigns member)) := by
  induction actions generalizing group given with
  | nil =>
      rw [← Machine.run_nil ran]
      exact charged
  | cons action rest ih =>
      obtain ⟨next, taken, ran⟩ := Machine.run_cons ran
      have split : given + (action :: rest).countP (Group.Action.assigns member) =
          given + (action.assigns member).toNat + rest.countP (Group.Action.assigns member) := by
        rw [List.countP_cons]
        cases action.assigns member <;> simp +arith
      rw [split]
      exact ih (charged.step taken) ran

end Steps

/-- However the consumers of a group come and go: from where one of them began, what lies behind the
committed offset has been handled, or parked in the DLQ, or is of no concern to the service; the
messages are passed in their order from there; a consumer passes one at most as often as it has been
given the partition; and a group that has committed has nowhere else to begin. -/
theorem partition_is_consumed_in_order (service : Service) (topic : String) (log : List Message)
    (committed : Option Nat) (actions : List Group.Action) (group : Group)
    (ran : Machine.run (Group.step service topic) (.initial log committed) actions = some group) :
    (∀ upTo, group.committed = some upTo → ∃ start ∈ group.starts, start ≤ upTo ∧
      ∀ offset, start ≤ offset → offset < upTo →
        ∃ one ∈ group.consumed, ∃ message, one.offset = offset ∧ group.log[offset]? = some message ∧
          Settles service topic message one.delivery one.outcome) ∧
    (∀ before one after, group.consumed = before ++ one :: after →
      Reached group.starts before one.offset) ∧
    (∀ member offset, group.consumed.countP (Consumed.passedBy member offset) ≤
      actions.countP (Group.Action.assigns member)) ∧
    ∀ earlier later between, actions = earlier ++ later →
      Machine.run (Group.step service topic) (.initial log committed) earlier = some between →
        between.committed ≠ none → group.starts = between.starts := by
  have sound := Machine.run_invariant (fun group : Group => group.Sound service topic)
    (fun _ _ _ sound taken => sound.step taken) (.initial service topic log committed) ran
  refine ⟨?_, sound.ordered, ?_, ?_⟩
  · intro upTo kept
    obtain ⟨start, member, behind, passed⟩ := sound.committed upTo kept
    refine ⟨start, member, behind, fun offset since before => ?_⟩
    obtain ⟨one, present, here, returned⟩ := passed offset since before
    obtain ⟨message, read, ended⟩ := sound.ended one present
    exact ⟨one, present, message, here, here ▸ read, Delivery.dispatch_settles ended returned⟩
  · intro member offset
    have charged : (Group.initial log committed).Charged member offset 0 :=
      ⟨Nat.le_refl 0, by simp [Group.initial]⟩
    have passes := (charged.run ran).passes
    rwa [Nat.zero_add] at passes
  · rintro earlier later between rfl ranEarlier known
    have ranLater := Machine.run_after ranEarlier ran
    exact (Machine.run_invariant
      (fun group : Group => group.committed ≠ none ∧ group.starts = between.starts)
      (fun _ _ _ kept taken =>
        ⟨(Group.step_starts kept.1 taken).1, (Group.step_starts kept.1 taken).2.trans kept.2⟩)
      ⟨known, rfl⟩ ranLater).2

section Sample

def sampleService : Service :=
  { routes := fun topic => if topic = "orders.created" then some fun _ _ => none else none
    groupId := "payment-service"
    maxRetries := .integer 3
    syntaxError := fun _ => "Unexpected token"
    engine := sampleEngine }

def sampleMessage : Message := { key := none, value := some [0x7B, 0x7D] }

/-- It cannot be parsed. -/
def sampleCut : Message := { key := none, value := some [0x7B] }

/-- The handler succeeds, and so does the DLQ producer if it is asked. -/
def sampleDelivery (sendSucceeds : Bool) : Delivery :=
  { handler := fun _ _ => none, sendSucceeds, failedAt := 0, fuel := 1 }

def sampleGroupActions : List Group.Action :=
  -- Parking the second message fails first.
  [.assign 0, .append sampleMessage, .append sampleCut, .eachMessage 0 (sampleDelivery true),
    .commit 0, .eachMessage 0 (sampleDelivery false), .assign 1,
    .eachMessage 1 (sampleDelivery true), .commit 1]

theorem sampleGroup_run : (Machine.run (Group.step sampleService "orders.created")
    (.initial [] none) sampleGroupActions).isSome = true := by
  decide +kernel

def sampleGroup : Group :=
  (Machine.run (Group.step sampleService "orders.created") (.initial [] none)
    sampleGroupActions).get sampleGroup_run

theorem partition_is_consumed_in_order_sample :
    sampleGroup.committed = some 2 ∧ sampleGroup.starts = [0] ∧
      (∃ one ∈ sampleGroup.consumed, ∃ message, one.offset = 1 ∧
        sampleGroup.log[1]? = some message ∧
        Settles sampleService "orders.created" message one.delivery one.outcome) ∧
      sampleGroup.consumed.countP (Consumed.passedBy 1 1) ≤ 1 := by
  have consumed := partition_is_consumed_in_order sampleService "orders.created" [] none
    sampleGroupActions sampleGroup (Option.some_get sampleGroup_run).symm
  have committed : sampleGroup.committed = some 2 := by decide +kernel
  have starts : sampleGroup.starts = [0] := by decide +kernel
  obtain ⟨start, member, -, settled⟩ := consumed.1 2 committed
  rw [starts, List.mem_singleton] at member
  exact ⟨committed, starts, settled 1 (by omega) (by decide), consumed.2.2.1 1 1⟩

-- The first consumer is gone before it has committed, and the message before the second is lost.
example : (Machine.run (Group.step sampleService "orders.created") (.initial [] none)
    [.assign 0, .append sampleMessage, .assign 1, .append sampleMessage,
      .eachMessage 1 (sampleDelivery true), .commit 1]).map
        (fun group => (group.committed, group.consumed.map Consumed.offset)) = some (some 2, [1]) := by
  decide +kernel

end Sample

end Ecommerce.Kafka
