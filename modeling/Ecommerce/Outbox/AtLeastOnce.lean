import Ecommerce.Outbox.Relay
import Mathlib.Data.List.Nodup

set_option autoImplicit false

/-!
# What the relays publish and mark

Whatever a relay awaits, and whatever of it is still adrift, is about a committed row, and a row
is only marked after the broker has acknowledged it.
-/

namespace Ecommerce.Outbox

/-- The table has the row, whether it is marked or not. -/
def Copied (table : List StoredEvent) (acknowledgement : Acknowledgement) : Prop :=
  ∃ stored ∈ table, stored.acknowledgement = acknowledgement

def Drain.Sound (table : List StoredEvent) (broker : List Acknowledgement) : Drain → Prop
  | .reading => True
  | .publishing row rest => ∀ other ∈ row :: rest, Copied table other.acknowledgement
  | .marking row _ rest =>
      row.acknowledgement ∈ broker ∧ ∀ other ∈ rest, Copied table other.acknowledgement

def Request.Sound (table : List StoredEvent) (broker : List Acknowledgement) : Request → Prop
  | .publish row => Copied table row.acknowledgement
  | .update rowId _ => ∃ acknowledgement ∈ broker, acknowledgement.rowId = rowId

/-- `running` is set while the one drain of the process is under way. -/
structure Relay.Single (relay : Relay) : Prop where
  idle : relay.running = false → relay.drains.length = 0
  busy : relay.running = true → relay.drains.length = 1

structure State.Consistent (state : State) : Prop where
  ids : (state.table.map StoredEvent.id).Nodup
  marked : ∀ stored ∈ state.table, stored.row.publishedAt ≠ none →
    stored.acknowledgement ∈ state.broker
  copies : ∀ acknowledgement ∈ state.broker, Copied state.table acknowledgement
  drains : ∀ relay, ∀ drain ∈ (state.relays relay).drains, drain.Sound state.table state.broker
  adrift : ∀ request ∈ state.adrift, request.Sound state.table state.broker

/-- No row and no acknowledgement is gone. -/
structure Later (table after : List StoredEvent) (broker later : List Acknowledgement) : Prop where
  rows : ∀ acknowledgement, Copied table acknowledgement → Copied after acknowledgement
  acknowledged : ∀ acknowledgement ∈ broker, acknowledgement ∈ later

section Drains

variable {holds : Drain → Prop}

theorem drains_update {relays : Nat → Relay} {relay : Nat} {after : Relay}
    (every : ∀ relay, ∀ drain ∈ (relays relay).drains, holds drain)
    (changed : ∀ drain ∈ after.drains, holds drain) (other : Nat) :
    ∀ drain ∈ (Function.update relays relay after other).drains, holds drain := by
  by_cases same : other = relay
  · subst same
    simpa using changed
  · simpa [Function.update_of_ne same] using every other

theorem Relay.resume_drains {relay : Relay} (every : ∀ drain ∈ relay.drains, holds drain)
    (index : Nat) {next : Option Drain} (going : ∀ drain, next = some drain → holds drain) :
    ∀ drain ∈ (relay.resume index next).drains, holds drain := by
  intro drain member
  cases next with
  | none => exact every drain (List.mem_of_mem_eraseIdx member)
  | some next =>
      rcases List.mem_or_eq_of_mem_set member with before | same
      · exact every drain before
      · rw [same]
        exact going next rfl

theorem Relay.tick_drains {relay : Relay} (every : ∀ drain ∈ relay.drains, holds drain)
    (reading : holds .reading) : ∀ drain ∈ relay.tick.drains, holds drain := by
  unfold Relay.tick
  split
  · exact every
  · exact List.forall_mem_append.mpr ⟨every, by simpa using reading⟩

end Drains

section Consistency

variable {batchSize : Nat} {state next : State} {table after : List StoredEvent}
variable {broker more : List Acknowledgement}

theorem Drain.Sound.later {drain : Drain} (sound : drain.Sound table broker)
    (grown : Later table after broker more) : drain.Sound after more := by
  cases drain with
  | reading => trivial
  | publishing row rest => exact fun other member => grown.rows _ (sound other member)
  | marking row now rest =>
      obtain ⟨member, copied⟩ := sound
      exact ⟨grown.acknowledged _ member, fun other listed => grown.rows _ (copied other listed)⟩

theorem Request.Sound.later {request : Request} (sound : request.Sound table broker)
    (grown : Later table after broker more) : request.Sound after more := by
  cases request with
  | publish row => exact grown.rows _ sound
  | update rowId now =>
      obtain ⟨acknowledgement, member, same⟩ := sound
      exact ⟨acknowledgement, grown.acknowledged _ member, same⟩

theorem Drain.Sound.pending {drain : Drain} {request : Request}
    (sound : drain.Sound table broker) (awaits : drain.pending = some request) :
    request.Sound table broker := by
  cases drain with
  | reading => cases awaits
  | publishing row rest =>
      cases awaits
      exact sound row (by simp)
  | marking row now rest =>
      cases awaits
      exact ⟨row.acknowledgement, sound.1, rfl⟩

theorem publishAll_sound {rows : List StoredEvent} {drain : Drain}
    (copied : ∀ row ∈ rows, Copied table row.acknowledgement) (going : publishAll rows = some drain) :
    drain.Sound table broker := by
  cases rows with
  | nil => cases going
  | cons row rest =>
      cases going
      exact copied

theorem mem_markPublished {rowId : Uuid} {now : Timestamp} {stored : StoredEvent}
    (member : stored ∈ markPublished rowId now table) :
    ∃ before ∈ table, stored.acknowledgement = before.acknowledgement ∧
      (stored = before ∨ before.id = rowId) := by
  obtain ⟨before, present, rfl⟩ := List.mem_map.mp member
  refine ⟨before, present, ?_⟩
  split
  · next same => exact ⟨rfl, .inr same⟩
  · exact ⟨rfl, .inl rfl⟩

theorem markPublished_ids (rowId : Uuid) (now : Timestamp) (table : List StoredEvent) :
    (markPublished rowId now table).map StoredEvent.id = table.map StoredEvent.id := by
  rw [markPublished, List.map_map]
  apply List.map_congr_left
  intro stored _
  simp only [Function.comp_apply]
  split <;> rfl

theorem later_markPublished (rowId : Uuid) (now : Timestamp) (table : List StoredEvent)
    (broker : List Acknowledgement) : Later table (markPublished rowId now table) broker broker where
  rows acknowledgement copied := by
    obtain ⟨stored, member, same⟩ := copied
    refine ⟨_, List.mem_map_of_mem member, ?_⟩
    rw [← same]
    split <;> rfl
  acknowledged _ := id

theorem later_acknowledged (table : List StoredEvent) (broker more : List Acknowledgement) :
    Later table table broker (broker ++ more) where
  rows _ := id
  acknowledged _ member := List.mem_append_left _ member

theorem later_enqueued (table rows : List StoredEvent) (broker : List Acknowledgement) :
    Later table (table ++ rows) broker broker where
  rows _ copied := by
    obtain ⟨stored, member, same⟩ := copied
    exact ⟨stored, List.mem_append_left _ member, same⟩
  acknowledged _ := id

theorem State.Consistent.initial : State.initial.Consistent where
  ids := List.nodup_nil
  marked := by simp [State.initial]
  copies := by simp [State.initial]
  drains := by simp [State.initial, Relay.started]
  adrift := by simp [State.initial]

theorem State.Consistent.acknowledgement_mem (consistent : state.Consistent) {rowId : Uuid}
    (known : ∃ acknowledgement ∈ state.broker, acknowledgement.rowId = rowId)
    {stored : StoredEvent} (member : stored ∈ state.table) (same : stored.id = rowId) :
    stored.acknowledgement ∈ state.broker := by
  obtain ⟨acknowledgement, acknowledged, rfl⟩ := known
  obtain ⟨other, present, copy⟩ := consistent.copies acknowledgement acknowledged
  -- The row that was acknowledged is the only one with its id.
  have sameId : stored.id = other.id := by rw [same, ← copy]; rfl
  rw [List.inj_on_of_nodup_map consistent.ids member present sameId, copy]
  exact acknowledged

theorem State.Consistent.serve (consistent : state.Consistent) (request : Request)
    (sound : request.Sound state.table state.broker) : (state.serve request).Consistent := by
  cases request with
  | publish row =>
      have grown := later_acknowledged state.table state.broker [row.acknowledgement]
      refine ⟨consistent.ids, ?_, ?_, ?_, ?_⟩
      · exact fun stored member marked =>
          grown.acknowledged _ (consistent.marked stored member marked)
      · intro acknowledgement member
        rcases List.mem_append.mp member with before | sent
        · exact consistent.copies acknowledgement before
        · rw [List.mem_singleton.mp sent]
          exact sound
      · exact fun relay drain member => (consistent.drains relay drain member).later grown
      · exact fun request member => (consistent.adrift request member).later grown
  | update rowId now =>
      have grown := later_markPublished rowId now state.table state.broker
      refine ⟨?_, ?_, ?_, ?_, ?_⟩
      · rw [State.serve, State.mark, markPublished_ids]
        exact consistent.ids
      · intro stored member marked
        obtain ⟨before, present, same, origin⟩ := mem_markPublished member
        rw [same]
        rcases origin with unchanged | updated
        · exact consistent.marked before present (unchanged ▸ marked)
        · exact consistent.acknowledgement_mem sound present updated
      · exact fun acknowledgement member =>
          grown.rows _ (consistent.copies acknowledgement member)
      · exact fun relay drain member => (consistent.drains relay drain member).later grown
      · exact fun request member => (consistent.adrift request member).later grown

/-- Only what a relay awaits has changed. -/
theorem State.Consistent.relay (consistent : state.Consistent) {relay : Nat} {after : Relay}
    (sound : ∀ drain ∈ after.drains, drain.Sound state.table state.broker) :
    ({ state with relays := Function.update state.relays relay after } : State).Consistent :=
  { consistent with drains := drains_update consistent.drains sound }

theorem State.Consistent.resume (consistent : state.Consistent) (relay drain : Nat)
    {next : Option Drain}
    (sound : ∀ drain, next = some drain → drain.Sound state.table state.broker) :
    (state.resume relay drain next).Consistent :=
  consistent.relay (Relay.resume_drains (consistent.drains relay) drain sound)

theorem State.Consistent.drift (consistent : state.Consistent) {requests : List Request}
    (sound : ∀ request ∈ requests, request.Sound state.table state.broker) :
    ({ state with adrift := state.adrift ++ requests } : State).Consistent :=
  { consistent with adrift := List.forall_mem_append.mpr ⟨consistent.adrift, sound⟩ }

theorem State.Consistent.enqueue (consistent : state.Consistent) {rowId : Uuid} {row : OutboxEvent}
    (new : rowId ∉ state.table.map StoredEvent.id) (unmarked : row.publishedAt = none) :
    ({ state with table := state.table ++ [{ id := rowId, row }] } : State).Consistent := by
  have grown := later_enqueued state.table [{ id := rowId, row }] state.broker
  refine ⟨?_, ?_, ?_, ?_, ?_⟩
  · rw [List.map_append, List.nodup_append]
    refine ⟨consistent.ids, List.nodup_singleton _, ?_⟩
    rintro id present _ (_ | ⟨_, ⟨⟩⟩) rfl
    exact new present
  · intro stored member marked
    rcases List.mem_append.mp member with before | added
    · exact consistent.marked stored before marked
    · rw [List.mem_singleton.mp added] at marked
      exact absurd unmarked marked
  · exact fun acknowledgement member => grown.rows _ (consistent.copies acknowledgement member)
  · exact fun relay drain member => (consistent.drains relay drain member).later grown
  · exact fun request member => (consistent.adrift request member).later grown

theorem State.Consistent.proceed (consistent : state.Consistent) {relay drain : Nat}
    {awaited : Drain} {progress : Progress}
    (sound : awaited.Sound state.table state.broker)
    (taken : state.proceed batchSize relay drain awaited progress = some next) :
    next.Consistent := by
  unfold State.proceed at taken
  split at taken
  · next sorted =>
      split at taken
      · next legal =>
          cases taken
          apply consistent.resume
          intro drain going
          apply publishAll_sound _ going
          intro row member
          have present : row ∈ state.table :=
            (List.mem_filter.mp (legal.1.subset (List.mem_of_mem_take member))).1
          exact ⟨row, present, rfl⟩
      · cases taken
  · next row rest now =>
      cases taken
      apply (consistent.serve (.publish row) (sound row (by simp))).resume
      rintro drain ⟨⟩
      refine ⟨by simp [State.serve, State.acknowledge], fun other member => ?_⟩
      exact sound other (List.mem_cons_of_mem _ member)
  · next row now rest =>
      cases taken
      have marked := consistent.serve (.update row.id now) ⟨_, sound.1, rfl⟩
      apply marked.resume
      intro drain going
      apply publishAll_sound _ going
      have grown := later_markPublished row.id now state.table state.broker
      exact fun other member => grown.rows _ (sound.2 other member)
  · cases taken
    apply (consistent.drift _).resume
    · exact fun drain going => absurd going (by simp)
    · intro request awaits
      exact sound.pending (Option.mem_toList.mp awaits)
  · cases taken

theorem State.Consistent.step (consistent : state.Consistent) (action : Action)
    (taken : state.step batchSize action = some next) : next.Consistent := by
  cases action with
  | enqueue rowId aggregateType now topic event =>
      simp only [State.step] at taken
      split at taken
      · cases taken
      · next new =>
          cases taken
          exact consistent.enqueue new (by rfl)
  | tick relay =>
      cases taken
      exact consistent.relay (Relay.tick_drains (consistent.drains relay) trivial)
  | progress relay drain progress =>
      simp only [State.step] at taken
      split at taken
      · next awaited found =>
          exact consistent.proceed (consistent.drains relay _ (List.mem_of_getElem? found)) taken
      · cases taken
  | stop relay =>
      cases taken
      exact consistent.relay (consistent.drains relay)
  | crash relay =>
      cases taken
      have dead : ∀ drain ∈ Relay.started.drains, drain.Sound state.table state.broker := by
        simp [Relay.started]
      apply (consistent.relay dead).drift
      intro request lost
      obtain ⟨drain, member, awaits⟩ := List.mem_filterMap.mp lost
      exact (consistent.drains relay drain member).pending awaits
  | arrive index =>
      simp only [State.step] at taken
      split at taken
      · next request found =>
          cases taken
          have served :=
            consistent.serve request (consistent.adrift request (List.mem_of_getElem? found))
          refine ⟨served.ids, served.marked, served.copies, served.drains, ?_⟩
          intro other member
          have same : (state.serve request).adrift = state.adrift := by cases request <;> rfl
          apply served.adrift other
          rw [same]
          exact List.mem_of_mem_eraseIdx member
      · cases taken

theorem Relay.Single.started : Relay.started.Single :=
  { idle := fun _ => rfl, busy := by simp [Relay.started] }

theorem Relay.Single.tick {relay : Relay} (single : relay.Single) : relay.tick.Single := by
  unfold Relay.tick
  split
  · exact single
  · next free =>
      simp only [Bool.or_eq_true, not_or, Bool.not_eq_true] at free
      constructor <;> simp [single.idle free.1]

theorem Relay.Single.resume {relay : Relay} (single : relay.Single) {drain : Nat}
    (going : drain < relay.drains.length) (next : Option Drain) : (relay.resume drain next).Single := by
  cases next with
  | some => exact ⟨by simpa [Relay.resume] using single.idle, by simpa [Relay.resume] using single.busy⟩
  | none =>
      have running : relay.running = true := by
        by_contra idle
        have none := single.idle (by simpa using idle)
        omega
      have one := single.busy running
      have first : drain = 0 := by omega
      constructor <;> simp [Relay.resume, first, one]

theorem Relay.Single.stop {relay : Relay} (single : relay.Single) :
    ({ relay with stopped := true } : Relay).Single :=
  { idle := single.idle, busy := single.busy }

theorem State.proceed_relays {relay drain : Nat} {awaited : Drain} {progress : Progress}
    (taken : state.proceed batchSize relay drain awaited progress = some next) :
    ∃ going, next.relays =
      Function.update state.relays relay ((state.relays relay).resume drain going) := by
  unfold State.proceed at taken
  split at taken
  · split at taken
    · cases taken
      exact ⟨_, rfl⟩
    · cases taken
  all_goals
    cases taken
    try exact ⟨_, rfl⟩

theorem single_update {relays : Nat → Relay} (single : ∀ relay, (relays relay).Single) {relay : Nat}
    {after : Relay} (stays : after.Single) (other : Nat) :
    (Function.update relays relay after other).Single := by
  by_cases same : other = relay
  · subst same
    simpa using stays
  · simpa [Function.update_of_ne same] using single other

theorem State.single_step (single : ∀ relay, (state.relays relay).Single) (action : Action)
    (taken : state.step batchSize action = some next) (relay : Nat) : (next.relays relay).Single := by
  cases action with
  | enqueue =>
      simp only [State.step] at taken
      split at taken
      · cases taken
      · cases taken
        exact single relay
  | tick relay =>
      cases taken
      exact single_update single (single relay).tick _
  | progress relay drain progress =>
      simp only [State.step] at taken
      split at taken
      · next awaited found =>
          obtain ⟨going, same⟩ := State.proceed_relays taken
          have inside := (List.getElem?_eq_some_iff.mp found).1
          rw [same]
          exact single_update single ((single relay).resume inside going) _
      · cases taken
  | stop relay =>
      cases taken
      exact single_update single (single relay).stop _
  | crash relay =>
      cases taken
      exact single_update single .started _
  | arrive index =>
      simp only [State.step] at taken
      split at taken
      · next request _ =>
          cases taken
          cases request <;> exact single relay
      · cases taken

end Consistency

/-- Nothing is lost, nothing is invented, and a process drains once at a time. -/
theorem relays_lose_and_invent_nothing (batchSize : Nat) (actions : List Action) (state : State)
    (ran : Machine.run (State.step batchSize) .initial actions = some state) :
    (∀ stored ∈ state.table, stored.row.publishedAt ≠ none →
        { rowId := stored.id, message := stored.row.message } ∈ state.broker) ∧
      (∀ acknowledgement ∈ state.broker, ∃ stored ∈ state.table,
        stored.id = acknowledgement.rowId ∧ stored.row.message = acknowledgement.message) ∧
      (∀ stored ∈ state.table,
        (∀ acknowledgement ∈ state.broker, acknowledgement.rowId ≠ stored.id) →
          stored ∈ unpublished state.table) ∧
      ∀ relay, (state.relays relay).drains.length ≤ 1 := by
  have consistent : state.Consistent :=
    Machine.run_invariant _ (fun _ action _ consistent taken => consistent.step action taken)
      .initial ran
  have single : ∀ relay, (state.relays relay).Single :=
    Machine.run_invariant _ (fun _ action _ single taken => State.single_step single action taken)
      (fun _ => .started) ran
  refine ⟨consistent.marked, ?_, ?_, ?_⟩
  · intro acknowledgement member
    obtain ⟨stored, present, rfl⟩ := consistent.copies acknowledgement member
    exact ⟨stored, present, rfl, rfl⟩
  · intro stored member unsent
    apply List.mem_filter.mpr
    refine ⟨member, ?_⟩
    by_contra published
    simp only [decide_eq_true_eq] at published
    exact unsent _ (consistent.marked stored member published) rfl
  · intro relay
    cases running : (state.relays relay).running with
    | true => exact Nat.le_of_eq ((single relay).busy running)
    | false =>
        rw [(single relay).idle running]
        exact Nat.zero_le 1

section Sample

def sampleEvent (eventId : Uuid) : EventEnvelope :=
  NewEvent.envelope
    { eventType := .ordersCancelled, correlationId := 9, aggregateId := 9
      producer := "order-service"
      payload := .orderCancelled { orderId := 9, customerId := 1, reason := .paymentFailed } } 2 eventId

def sampleStored (rowId : Uuid) (createdAt : Timestamp) : StoredEvent :=
  { id := rowId, row := outboxRow "Order" createdAt .ordersCancelled (sampleEvent rowId) }

def sampleActions : List Action :=
  -- Two relays hold the same batch. One dies between the acknowledgement and the mark.
  [.enqueue 1 "Order" 5 .ordersCancelled (sampleEvent 1),
    .enqueue 2 "Order" 3 .ordersCancelled (sampleEvent 2), .tick 0, .tick 0, .tick 1,
    .progress 0 0 (.read [sampleStored 2 3, sampleStored 1 5]),
    .progress 1 0 (.read [sampleStored 2 3, sampleStored 1 5]),
    .progress 0 0 (.acknowledged 10), .crash 0, .progress 1 0 (.acknowledged 11),
    .progress 1 0 .updated, .arrive 0, .progress 1 0 .failed, .tick 0]

theorem sampleActions_run :
    (Machine.run (State.step 10) .initial sampleActions).isSome = true := by decide

def sampleState : State := (Machine.run (State.step 10) .initial sampleActions).get sampleActions_run

theorem relays_lose_and_invent_nothing_sample :
    sampleState.broker.length = 2 ∧
      (∀ stored ∈ sampleState.table, stored.row.publishedAt ≠ none →
        { rowId := stored.id, message := stored.row.message } ∈ sampleState.broker) ∧
      ∀ relay, (sampleState.relays relay).drains.length ≤ 1 := by
  have ran : Machine.run (State.step 10) .initial sampleActions = some sampleState :=
    (Option.some_get sampleActions_run).symm
  obtain ⟨marked, _, _, single⟩ := relays_lose_and_invent_nothing 10 sampleActions sampleState ran
  exact ⟨by decide, marked, single⟩

end Sample

end Ecommerce.Outbox
