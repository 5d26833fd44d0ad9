import Ecommerce.Machine.Causal
import Ecommerce.Outbox.AtLeastOnce

set_option autoImplicit false

/-!
# The order of the publications

A batch is sorted and cut at its end, and a drain gives up at the first failure. So a row is
only sent once every older row that was there before it has been acknowledged.
-/

namespace Ecommerce.Outbox

open Machine

abbrev StoredEvent.stamp (stored : StoredEvent) : Uuid × Timestamp :=
  (stored.id, stored.row.createdAt)

/-- The first row was committed before the second, and its `createdAt` is smaller. -/
def Older (table : List StoredEvent) (one two : Uuid) : Prop :=
  ∃ early late, early < late ∧ [(one, early), (two, late)].Sublist (table.map StoredEvent.stamp)

/-- The rows that a drain has yet to publish. -/
def Drain.queue : Drain → List Uuid
  | .reading => []
  | .publishing row rest => row.id :: rest.map StoredEvent.id
  | .marking _ _ rest => rest.map StoredEvent.id

def Request.queue : Request → List Uuid
  | .publish row => [row.id]
  | .update _ _ => []

abbrev State.sent (state : State) : List Uuid := state.broker.map Acknowledgement.rowId

structure State.InOrder (state : State) : Prop where
  broker : CausesFirst (Older state.table) [] state.sent
  drains : ∀ relay, ∀ drain ∈ (state.relays relay).drains,
    CausesFirst (Older state.table) state.sent drain.queue
  adrift : ∀ request ∈ state.adrift, CausesFirst (Older state.table) state.sent request.queue

section Steps

variable {batchSize : Nat} {state next : State} {table : List StoredEvent}
variable {broker : List Acknowledgement}

theorem sent_acknowledge (state : State) (row : StoredEvent) :
    (state.acknowledge row).sent = state.sent ++ [row.id] := by
  simp [State.acknowledge, State.sent, StoredEvent.acknowledgement]

theorem older_markPublished (rowId : Uuid) (now : Timestamp) (table : List StoredEvent) :
    Older (markPublished rowId now table) = Older table := by
  have stamps : (markPublished rowId now table).map StoredEvent.stamp =
      table.map StoredEvent.stamp := by
    rw [markPublished, List.map_map]
    apply List.map_congr_left
    intro stored _
    simp only [Function.comp_apply]
    split <;> rfl
  unfold Older
  rw [stamps]

theorem Older.enqueued {one two : Uuid} {added : StoredEvent}
    (older : Older (table ++ [added]) one two) (known : two ∈ table.map StoredEvent.id)
    (new : added.id ∉ table.map StoredEvent.id) : Older table one two := by
  obtain ⟨early, late, less, committed⟩ := older
  refine ⟨early, late, less, ?_⟩
  have backwards := List.reverse_sublist.mpr committed
  rw [List.map_append, List.reverse_append] at backwards
  -- The new row is the last one, and it is not the second of the two.
  cases backwards with
  | cons _ before => exact List.reverse_sublist.mp before
  | cons_cons _ before => exact absurd known new

/-- The rows of a batch come after the older ones that are not published yet. -/
theorem batch_inOrder (consistent : state.Consistent) {sorted : List StoredEvent}
    (rows : sorted.Perm (unpublished state.table))
    (ascending : sorted.Pairwise fun one two => one.row.createdAt ≤ two.row.createdAt) :
    CausesFirst (Older state.table) state.sent (sorted.map StoredEvent.id) := by
  apply causesFirst_iff_split.mpr
  intro earlier two later split one older
  obtain ⟨early, late, less, committed⟩ := older
  obtain ⟨before, rest, rfl, rfl, tail⟩ := List.map_eq_append_iff.mp split
  obtain ⟨second, after, rfl, rfl, rfl⟩ := List.map_eq_cons_iff.mp tail
  obtain ⟨first, present, isFirst⟩ := List.mem_map.mp (committed.subset (List.mem_cons_self ..))
  obtain ⟨other, there, isSecond⟩ :=
    List.mem_map.mp (committed.subset (List.mem_cons_of_mem _ (List.mem_singleton_self _)))
  simp only [Prod.mk.injEq] at isFirst isSecond
  have stored {row : StoredEvent} (member : row ∈ before ++ second :: after) : row ∈ state.table :=
    (List.mem_filter.mp (rows.subset member)).1
  have same : other = second :=
    List.inj_on_of_nodup_map consistent.ids there (stored (by simp)) isSecond.1
  have sooner : first.row.createdAt < second.row.createdAt := by
    rw [isFirst.2, ← same, isSecond.2]
    exact less
  apply List.mem_append.mpr
  by_cases marked : first.row.publishedAt = none
  · right
    have waiting : first ∈ before ++ second :: after :=
      rows.symm.subset (List.mem_filter.mpr ⟨present, by simpa using marked⟩)
    rw [← isFirst.1]
    apply List.mem_map_of_mem
    rcases List.mem_append.mp waiting with ahead | notAhead
    · exact ahead
    · -- Behind the second row there is none with a smaller `createdAt`.
      have behind := (List.pairwise_append.mp ascending).2.1
      rcases List.mem_cons.mp notAhead with equal | afterwards
      · rw [equal] at sooner
        exact absurd sooner (Nat.lt_irrefl _)
      · have later := (List.pairwise_cons.mp behind).1 first afterwards
        exact absurd sooner (Nat.not_lt.mpr later)
  · left
    have acknowledged := consistent.marked first present marked
    rw [← isFirst.1]
    exact List.mem_map_of_mem acknowledged

theorem publishAll_queue {rows : List StoredEvent} {drain : Drain}
    (going : publishAll rows = some drain) : drain.queue = rows.map StoredEvent.id := by
  cases rows with
  | nil => cases going
  | cons row rest =>
      cases going
      rfl

theorem State.InOrder.initial : State.initial.InOrder where
  broker := causesFirst_nil
  drains := by simp [State.initial, Relay.started]
  adrift := by simp [State.initial]

theorem State.InOrder.relay (inOrder : state.InOrder) {relay : Nat} {after : Relay}
    (queues : ∀ drain ∈ after.drains, CausesFirst (Older state.table) state.sent drain.queue) :
    ({ state with relays := Function.update state.relays relay after } : State).InOrder :=
  { inOrder with drains := drains_update inOrder.drains queues }

theorem State.InOrder.resume (inOrder : state.InOrder) (relay drain : Nat) {next : Option Drain}
    (queue : ∀ drain, next = some drain → CausesFirst (Older state.table) state.sent drain.queue) :
    (state.resume relay drain next).InOrder :=
  inOrder.relay (Relay.resume_drains (inOrder.drains relay) drain queue)

theorem State.InOrder.drift (inOrder : state.InOrder) {requests : List Request}
    (queues : ∀ request ∈ requests, CausesFirst (Older state.table) state.sent request.queue) :
    ({ state with adrift := state.adrift ++ requests } : State).InOrder :=
  { inOrder with adrift := List.forall_mem_append.mpr ⟨inOrder.adrift, queues⟩ }

theorem State.InOrder.serve (inOrder : state.InOrder) (request : Request)
    (first : CausesFirst (Older state.table) state.sent request.queue) :
    (state.serve request).InOrder := by
  cases request with
  | publish row =>
      have grown : (state.serve (.publish row)).sent = state.sent ++ [row.id] :=
        sent_acknowledge state row
      have more := List.subset_append_left state.sent [row.id]
      refine ⟨?_, ?_, ?_⟩
      · rw [grown]
        apply causesFirst_append.mpr
        exact ⟨inOrder.broker, first⟩
      · intro relay drain member
        rw [grown]
        exact (inOrder.drains relay drain member).learn more
      · intro request member
        rw [grown]
        exact (inOrder.adrift request member).learn more
  | update rowId now =>
      have same : Older (state.serve (.update rowId now)).table = Older state.table :=
        older_markPublished rowId now state.table
      refine ⟨?_, ?_, ?_⟩
      · rw [same]
        exact inOrder.broker
      · rw [same]
        exact inOrder.drains
      · rw [same]
        exact inOrder.adrift

theorem Drain.pending_queue {drain : Drain} {request : Request} {known : List Uuid}
    (awaits : drain.pending = some request) (first : CausesFirst (Older table) known drain.queue) :
    CausesFirst (Older table) known request.queue := by
  cases drain with
  | reading => cases awaits
  | publishing row rest =>
      cases awaits
      exact first.take 1
  | marking row now rest =>
      cases awaits
      trivial

theorem Drain.Sound.queue {drain : Drain} (sound : drain.Sound table broker) :
    ∀ rowId ∈ drain.queue, rowId ∈ table.map StoredEvent.id := by
  have known {rows : List StoredEvent} (copied : ∀ row ∈ rows, Copied table row.acknowledgement) :
      ∀ rowId ∈ rows.map StoredEvent.id, rowId ∈ table.map StoredEvent.id := by
    intro rowId member
    obtain ⟨row, listed, rfl⟩ := List.mem_map.mp member
    obtain ⟨stored, present, same⟩ := copied row listed
    have sameId : stored.id = row.id := congrArg Acknowledgement.rowId same
    exact sameId ▸ List.mem_map_of_mem present
  cases drain with
  | reading => simp [Drain.queue]
  | publishing row rest => exact known sound
  | marking row now rest => exact known sound.2

theorem State.InOrder.enqueue (inOrder : state.InOrder) (consistent : state.Consistent)
    {added : StoredEvent} (new : added.id ∉ state.table.map StoredEvent.id) :
    ({ state with table := state.table ++ [added] } : State).InOrder := by
  have copied (acknowledgement : Acknowledgement) (copy : Copied state.table acknowledgement) :
      acknowledgement.rowId ∈ state.table.map StoredEvent.id := by
    obtain ⟨stored, present, rfl⟩ := copy
    exact List.mem_map_of_mem present
  refine ⟨?_, ?_, ?_⟩
  · apply inOrder.broker.fewer
    intro cause next member older
    obtain ⟨acknowledgement, sent, rfl⟩ := List.mem_map.mp member
    exact older.enqueued (copied _ (consistent.copies acknowledgement sent)) new
  · intro relay drain member
    apply (inOrder.drains relay drain member).fewer
    intro cause next queued older
    exact older.enqueued ((consistent.drains relay drain member).queue next queued) new
  · intro request member
    apply (inOrder.adrift request member).fewer
    intro cause next queued older
    cases request with
    | publish row =>
        rw [List.mem_singleton.mp queued] at older ⊢
        exact older.enqueued (copied _ (consistent.adrift _ member)) new
    | update rowId now => cases queued

theorem State.InOrder.proceed (inOrder : state.InOrder) (consistent : state.Consistent)
    {relay drain : Nat} {awaited : Drain} {progress : Progress}
    (queue : CausesFirst (Older state.table) state.sent awaited.queue)
    (taken : state.proceed batchSize relay drain awaited progress = some next) : next.InOrder := by
  unfold State.proceed at taken
  split at taken
  · next sorted =>
      split at taken
      · next legal =>
          cases taken
          apply inOrder.resume
          intro drain going
          rw [publishAll_queue going, List.map_take]
          exact (batch_inOrder consistent legal.1 legal.2).take batchSize
      · cases taken
  · next row rest now =>
      cases taken
      have served := inOrder.serve (.publish row) (queue.take 1)
      apply served.resume
      intro drain going
      cases going
      rw [State.serve, sent_acknowledge]
      exact queue.2
  · next row now rest =>
      cases taken
      have served := inOrder.serve (.update row.id now) causesFirst_nil
      apply served.resume
      intro drain going
      rw [publishAll_queue going, State.serve, State.mark, older_markPublished]
      exact queue
  · cases taken
    apply (inOrder.drift _).resume
    · exact fun drain going => absurd going (by simp)
    · intro request awaits
      exact Drain.pending_queue (Option.mem_toList.mp awaits) queue
  · cases taken

theorem State.InOrder.step (inOrder : state.InOrder) (consistent : state.Consistent)
    (action : Action) (taken : state.step batchSize action = some next) : next.InOrder := by
  cases action with
  | enqueue rowId aggregateType now topic event =>
      simp only [State.step] at taken
      split at taken
      · cases taken
      · next new =>
          cases taken
          exact inOrder.enqueue consistent new
  | tick relay =>
      cases taken
      exact inOrder.relay (Relay.tick_drains (inOrder.drains relay) causesFirst_nil)
  | progress relay drain progress =>
      simp only [State.step] at taken
      split at taken
      · next awaited found =>
          have queue := inOrder.drains relay _ (List.mem_of_getElem? found)
          exact inOrder.proceed consistent queue taken
      · cases taken
  | stop relay =>
      cases taken
      exact inOrder.relay (inOrder.drains relay)
  | crash relay =>
      cases taken
      have dead : ∀ drain ∈ Relay.started.drains,
          CausesFirst (Older state.table) state.sent drain.queue := by
        simp [Relay.started]
      apply (inOrder.relay dead).drift
      intro request lost
      obtain ⟨drain, member, awaits⟩ := List.mem_filterMap.mp lost
      exact Drain.pending_queue awaits (inOrder.drains relay drain member)
  | arrive index =>
      simp only [State.step] at taken
      split at taken
      · next request found =>
          cases taken
          have served := inOrder.serve request (inOrder.adrift request (List.mem_of_getElem? found))
          refine ⟨served.broker, served.drains, ?_⟩
          intro other member
          have same : (state.serve request).adrift = state.adrift := by cases request <;> rfl
          apply served.adrift other
          rw [same]
          exact List.mem_of_mem_eraseIdx member
      · cases taken

end Steps

/-- A row is published for the first time after every older row that was committed before it. -/
theorem published_in_commit_order (batchSize : Nat) (actions : List Action) (state : State)
    (ran : Machine.run (State.step batchSize) .initial actions = some state)
    (first second : StoredEvent) (committed : [first, second].Sublist state.table)
    (older : first.row.createdAt < second.row.createdAt)
    (earlier later : List Acknowledgement) (acknowledgement : Acknowledgement)
    (published : state.broker = earlier ++ acknowledgement :: later)
    (same : acknowledgement.rowId = second.id) :
    { rowId := first.id, message := first.row.message } ∈ earlier := by
  have holds : state.Consistent ∧ state.InOrder :=
    Machine.run_invariant (fun state => state.Consistent ∧ state.InOrder)
      (fun _ action _ inv taken => ⟨inv.1.step action taken, inv.2.step inv.1 action taken⟩)
      ⟨.initial, .initial⟩ ran
  obtain ⟨consistent, inOrder⟩ := holds
  have split : state.sent = earlier.map Acknowledgement.rowId ++
      acknowledgement.rowId :: later.map Acknowledgement.rowId := by
    simp [State.sent, published]
  have stamps : Older state.table first.id second.id :=
    ⟨_, _, older, committed.map StoredEvent.stamp⟩
  have sent := causesFirst_iff_split.mp inOrder.broker _ _ _ split first.id (same ▸ stamps)
  obtain ⟨before, member, sameId⟩ := List.mem_map.mp sent
  -- What was acknowledged for the id of a row is a copy of that row.
  obtain ⟨stored, present, copy⟩ := consistent.copies before (by simp [published, member])
  have storedId : stored.id = before.rowId := congrArg Acknowledgement.rowId copy
  have row : stored = first :=
    List.inj_on_of_nodup_map consistent.ids present (committed.subset (List.mem_cons_self ..))
      (storedId.trans sameId)
  rw [row] at copy
  have acknowledged : first.acknowledgement ∈ earlier := copy ▸ member
  exact acknowledged

section Sample

def sampleRestart : List Action :=
  -- The process dies between the acknowledgement of the older row and its mark.
  [.enqueue 1 "Order" 3 .ordersCancelled (sampleEvent 1), .tick 0,
    .enqueue 2 "Order" 5 .ordersCancelled (sampleEvent 2),
    .progress 0 0 (.read [sampleStored 1 3, sampleStored 2 5]), .tick 0,
    .progress 0 0 (.acknowledged 10), .crash 0, .tick 0,
    .progress 0 0 (.read [sampleStored 1 3, sampleStored 2 5]), .progress 0 0 (.acknowledged 11),
    .progress 0 0 .updated, .progress 0 0 (.acknowledged 12)]

theorem sampleRestart_run :
    (Machine.run (State.step 10) .initial sampleRestart).isSome = true := by decide

def sampleRestarted : State :=
  (Machine.run (State.step 10) .initial sampleRestart).get sampleRestart_run

def sampleOlder : StoredEvent :=
  { sampleStored 1 3 with row := { (sampleStored 1 3).row with publishedAt := some 11 } }

theorem published_in_commit_order_restarted :
    ∃ earlier, sampleRestarted.broker = earlier ++ [(sampleStored 2 5).acknowledgement] ∧
      { rowId := sampleOlder.id, message := sampleOlder.row.message } ∈ earlier := by
  refine ⟨[(sampleStored 1 3).acknowledgement, (sampleStored 1 3).acknowledgement], by decide, ?_⟩
  exact published_in_commit_order 10 sampleRestart sampleRestarted
    (Option.some_get sampleRestart_run).symm sampleOlder (sampleStored 2 5) (by decide) (by decide)
    _ [] (sampleStored 2 5).acknowledgement (by decide) rfl

end Sample

end Ecommerce.Outbox
