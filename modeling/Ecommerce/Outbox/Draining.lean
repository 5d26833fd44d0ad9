import Ecommerce.Outbox.Duplicates
import Mathlib.Data.List.Perm.Basic

set_option autoImplicit false

/-!
# A relay that is left alone

Each batch takes as many rows off the outbox as it has read, and publishes each of them once.
-/

namespace Ecommerce.Outbox

open Machine

/-- The relay works on its own, and its calls succeed. -/
def Action.alone (relay : Nat) : Action → Bool
  | .tick other => other = relay
  | .progress _ _ .failed => false
  | .progress other _ _ => other = relay
  | _ => false

def Action.isRead : Action → Bool
  | .progress _ _ (.read _) => true
  | _ => false

def State.waiting (state : State) : List Uuid :=
  (unpublished state.table).map StoredEvent.id

/-- The rows of the batch that are not marked yet. -/
def Drain.holds : Drain → List Uuid
  | .reading => []
  | .publishing row rest | .marking row _ rest => row.id :: rest.map StoredEvent.id

/-- The row that is acknowledged and not marked yet. -/
def Drain.acknowledged : Drain → List Uuid
  | .marking row _ _ => [row.id]
  | _ => []

def Relay.holds (relay : Relay) : List Uuid :=
  relay.drains.flatMap Drain.holds

def Relay.acknowledged (relay : Relay) : List Uuid :=
  relay.drains.flatMap Drain.acknowledged

/-- What a relay has done since it was started beside nobody else. -/
structure Emptying (batchSize relay : Nat) (first : State) (reads : Nat) (state : State) : Prop where
  going : (state.relays relay).stopped = false
  sent : ∃ sent, state.broker = first.broker ++ sent ∧
    (sent.map Acknowledgement.rowId ++ state.waiting).Perm
      (first.waiting ++ (state.relays relay).acknowledged)
  distinct : (state.relays relay).holds.Nodup
  held : (state.relays relay).holds ⊆ state.waiting
  count : state.waiting.length =
    first.waiting.length - reads * batchSize + (state.relays relay).holds.length

section Steps

variable {batchSize relay reads : Nat} {first state next : State}

theorem State.Consistent.waiting_nodup (consistent : state.Consistent) : state.waiting.Nodup :=
  consistent.ids.sublist (List.filter_sublist.map _)

theorem waiting_markPublished (rowId : Uuid) (now : Timestamp) (table : List StoredEvent) :
    (unpublished (markPublished rowId now table)).map StoredEvent.id =
      ((unpublished table).map StoredEvent.id).filter (· != rowId) := by
  induction table with
  | nil => rfl
  | cons stored rest ih =>
      simp only [unpublished, markPublished, List.map_cons] at ih ⊢
      by_cases same : stored.id = rowId
      · by_cases unmarked : stored.row.publishedAt = none <;> simp [same, unmarked, ih]
      · by_cases unmarked : stored.row.publishedAt = none <;> simp [same, unmarked, ih]

/-- A mark takes the row off the waiting ones, and no other. -/
theorem State.Consistent.waiting_mark (consistent : state.Consistent) (rowId : Uuid)
    (now : Timestamp) : (state.mark rowId now).waiting = state.waiting.erase rowId := by
  rw [consistent.waiting_nodup.erase_eq_filter]
  exact waiting_markPublished rowId now state.table

@[simp] theorem State.waiting_resume (index : Nat) (going : Option Drain) :
    (state.resume relay index going).waiting = state.waiting := rfl

@[simp] theorem State.waiting_acknowledge (row : StoredEvent) :
    (state.acknowledge row).waiting = state.waiting := rfl

@[simp] theorem State.resume_relay (index : Nat) (going : Option Drain) :
    (state.resume relay index going).relays relay = (state.relays relay).resume index going :=
  Function.update_self ..

@[simp] theorem Relay.resume_stopped {relay : Relay} (index : Nat) (going : Option Drain) :
    (relay.resume index going).stopped = relay.stopped := by
  cases going <;> rfl

theorem Relay.resume_batch {relay : Relay} {before : Drain} (one : relay.drains = [before])
    (rows : List StoredEvent) :
    (relay.resume 0 (publishAll rows)).holds = rows.map StoredEvent.id ∧
      (relay.resume 0 (publishAll rows)).acknowledged = [] := by
  cases rows with
  | nil => simp [Relay.holds, Relay.acknowledged, publishAll, Relay.resume_none one]
  | cons row rest =>
      simp [Relay.holds, Relay.acknowledged, publishAll, Relay.resume_some one, Drain.holds,
        Drain.acknowledged]

theorem Emptying.read (emptying : Emptying batchSize relay first reads state)
    (consistent : state.Consistent) (one : (state.relays relay).drains = [.reading])
    {sorted : List StoredEvent} (legal : sorted.Perm (unpublished state.table)) :
    Emptying batchSize relay first (reads + 1)
      (state.resume relay 0 (publishAll (sorted.take batchSize))) := by
  obtain ⟨sent, appended, kept⟩ := emptying.sent
  obtain ⟨holds, acknowledged⟩ := Relay.resume_batch one (sorted.take batchSize)
  have all : (sorted.map StoredEvent.id).Perm state.waiting := legal.map _
  have sublist : ((sorted.take batchSize).map StoredEvent.id).Sublist (sorted.map StoredEvent.id) :=
    (List.take_sublist _ _).map _
  have count := emptying.count
  have size : sorted.length = state.waiting.length := by
    rw [← all.length_eq, List.length_map]
  refine ⟨?_, ⟨sent, appended, ?_⟩, ?_, ?_, ?_⟩
  · simpa using emptying.going
  · rw [State.resume_relay, acknowledged, State.waiting_resume]
    simpa [one, Relay.acknowledged, Drain.acknowledged] using kept
  · rw [State.resume_relay, holds]
    exact (all.nodup_iff.mpr consistent.waiting_nodup).sublist sublist
  · rw [State.resume_relay, holds]
    exact fun rowId member => all.subset (sublist.subset member)
  · rw [State.resume_relay, holds, State.waiting_resume, List.length_map, List.length_take,
      Nat.succ_mul]
    simp only [one, Relay.holds, Drain.holds, List.flatMap_singleton, List.length_nil] at count
    omega

theorem Emptying.acknowledge (emptying : Emptying batchSize relay first reads state)
    {row : StoredEvent} {rest : List StoredEvent} (now : Timestamp)
    (one : (state.relays relay).drains = [.publishing row rest]) :
    Emptying batchSize relay first reads
      ((state.acknowledge row).resume relay 0 (some (.marking row now rest))) := by
  obtain ⟨sent, appended, kept⟩ := emptying.sent
  have resumed : (((state.acknowledge row).relays relay).resume 0
      (some (.marking row now rest))).drains = [.marking row now rest] := Relay.resume_some one
  have holds : (((state.acknowledge row).relays relay).resume 0
      (some (.marking row now rest))).holds = (state.relays relay).holds := by
    simp [Relay.holds, resumed, one, Drain.holds]
  refine ⟨?_, ⟨sent ++ [row.acknowledgement], ?_, ?_⟩, ?_, ?_, ?_⟩
  · simpa [State.acknowledge] using emptying.going
  · simp [State.resume, State.acknowledge, appended]
  · rw [State.resume_relay, Relay.acknowledged, State.waiting_resume, State.waiting_acknowledge,
      List.map_append, List.append_assoc]
    simp only [Relay.acknowledged, one, List.flatMap_singleton, Drain.acknowledged,
      List.append_nil] at kept
    have moved : (sent.map Acknowledgement.rowId ++ ([row.id] ++ state.waiting)).Perm
        (sent.map Acknowledgement.rowId ++ state.waiting ++ [row.id]) := by
      rw [List.append_assoc]
      exact List.perm_append_comm.append_left _
    rw [resumed]
    exact moved.trans (kept.append_right _)
  all_goals simp only [State.resume_relay, State.waiting_resume, State.waiting_acknowledge]
  · exact holds ▸ emptying.distinct
  · exact holds ▸ emptying.held
  · exact holds ▸ emptying.count

theorem Emptying.mark (emptying : Emptying batchSize relay first reads state)
    (consistent : state.Consistent) {row : StoredEvent} {rest : List StoredEvent} {now : Timestamp}
    (one : (state.relays relay).drains = [.marking row now rest]) :
    Emptying batchSize relay first reads
      ((state.mark row.id now).resume relay 0 (publishAll rest)) := by
  obtain ⟨sent, appended, kept⟩ := emptying.sent
  obtain ⟨holds, acknowledged⟩ := Relay.resume_batch one rest
  have before : (state.relays relay).holds = row.id :: rest.map StoredEvent.id := by
    simp [Relay.holds, one, Drain.holds]
  have distinct := emptying.distinct
  have held := emptying.held
  have count := emptying.count
  rw [before] at distinct held count
  have member : row.id ∈ state.waiting := held (List.mem_cons_self ..)
  have waiting : ((state.mark row.id now).resume relay 0 (publishAll rest)).waiting =
      state.waiting.erase row.id := consistent.waiting_mark row.id now
  have split := List.perm_cons_erase member
  refine ⟨?_, ⟨sent, appended, ?_⟩, ?_, ?_, ?_⟩
  · simpa [State.resume, State.mark] using emptying.going
  · rw [waiting]
    simp only [State.resume, State.mark, Function.update_self, acknowledged, List.append_nil]
    simp only [Relay.acknowledged, one, Drain.acknowledged, List.flatMap_singleton] at kept
    -- The row is on both sides: acknowledged and not marked.
    have both : (row.id :: (sent.map Acknowledgement.rowId ++ state.waiting.erase row.id)).Perm
        (row.id :: first.waiting) :=
      (List.perm_middle.symm.trans (split.symm.append_left _)).trans
        (kept.trans (List.perm_append_singleton ..))
    exact both.cons_inv
  · simp only [State.resume, State.mark, Function.update_self, holds]
    exact (List.nodup_cons.mp distinct).2
  · rw [waiting]
    simp only [State.resume, State.mark, Function.update_self, holds]
    intro rowId listed
    have other : rowId ≠ row.id := fun same => (List.nodup_cons.mp distinct).1 (same ▸ listed)
    exact (List.mem_erase_of_ne other).mpr (held (List.mem_cons_of_mem _ listed))
  · rw [waiting, List.length_erase_of_mem member]
    simp only [State.resume, State.mark, Function.update_self, holds]
    have some := List.length_pos_of_mem member
    simp only [List.length_cons] at count
    omega

theorem Emptying.step (emptying : Emptying batchSize relay first reads state)
    (consistent : state.Consistent) (single : (state.relays relay).Single) (action : Action)
    (alone : action.alone relay = true) (taken : state.step batchSize action = some next) :
    Emptying batchSize relay first (reads + action.isRead.toNat) next := by
  cases action with
  | tick other =>
      have same : other = relay := by simpa [Action.alone] using alone
      subst same
      cases taken
      have kept : (state.relays other).tick.stopped = (state.relays other).stopped ∧
          (state.relays other).tick.holds = (state.relays other).holds ∧
          (state.relays other).tick.acknowledged = (state.relays other).acknowledged := by
        unfold Relay.tick
        split
        · exact ⟨rfl, rfl, rfl⟩
        · simp [Relay.holds, Relay.acknowledged, Drain.holds, Drain.acknowledged]
      obtain ⟨going, holds, acknowledged⟩ := kept
      constructor <;> simp only [Function.update_self, going, holds, acknowledged]
      · exact emptying.going
      · exact emptying.sent
      · exact emptying.distinct
      · exact emptying.held
      · exact emptying.count
  | progress other drain progress =>
      simp only [State.step] at taken
      split at taken
      · next awaited found =>
          have named : other = relay := by
            cases progress <;> simp_all [Action.alone]
          subst named
          obtain ⟨rfl, one⟩ := single.only found
          unfold State.proceed at taken
          split at taken
          · split at taken
            · next legal =>
                cases taken
                exact emptying.read consistent one legal.1
            · cases taken
          · cases taken
            exact emptying.acknowledge _ one
          · cases taken
            exact emptying.mark consistent one
          · cases alone
          · cases taken
      · cases taken
  | _ => cases alone

theorem Emptying.run {actions : List Action} (emptying : Emptying batchSize relay first reads state)
    (consistent : state.Consistent) (single : ∀ relay, (state.relays relay).Single)
    (alone : ∀ action ∈ actions, action.alone relay = true)
    (ran : Machine.run (State.step batchSize) state actions = some next) :
    Emptying batchSize relay first (reads + actions.countP Action.isRead) next := by
  induction actions generalizing state reads with
  | nil =>
      rw [run_nil ran] at emptying
      exact emptying
  | cons action rest ih =>
      obtain ⟨middle, taken, ran⟩ := run_cons ran
      have stepped := emptying.step consistent (single relay) action (alone action (by simp)) taken
      have later := ih stepped (consistent.step action taken)
        (State.single_step single action taken)
        (fun other member => alone other (List.mem_cons_of_mem _ member)) ran
      have counts : (action :: rest).countP Action.isRead =
          action.isRead.toNat + rest.countP Action.isRead := by
        rw [List.countP_cons]
        cases action.isRead <;> simp [Nat.add_comm]
      rw [counts, ← Nat.add_assoc]
      exact later

/-- A relay that is not stopped has something to do, and nothing else has to happen first. -/
theorem State.alone_moves (single : (state.relays relay).Single)
    (going : (state.relays relay).stopped = false) :
    ∃ action next, action.alone relay = true ∧ state.step batchSize action = some next ∧
      next.relays relay ≠ state.relays relay := by
  cases running : (state.relays relay).running with
  | false =>
      have tick : (state.relays relay).tick =
          { state.relays relay with
            running := true, drains := (state.relays relay).drains ++ [.reading] } := by
        simp [Relay.tick, running, going]
      refine ⟨.tick relay, _, by simp [Action.alone], rfl, ?_⟩
      intro same
      simp only [Function.update_self, tick] at same
      simpa [running] using congrArg Relay.running same
  | true =>
      obtain ⟨drain, one⟩ := List.length_eq_one_iff.mp (single.busy running)
      have progresses (progress : Progress) (alone : (Action.progress relay 0 progress).alone relay)
          {after : State} {later : Option Drain}
          (proceeds : state.proceed batchSize relay 0 drain progress = some after)
          (relays : after.relays =
            Function.update state.relays relay ((state.relays relay).resume 0 later))
          (moves : later ≠ some drain) :
          ∃ action next, action.alone relay = true ∧ state.step batchSize action = some next ∧
            next.relays relay ≠ state.relays relay := by
        refine ⟨.progress relay 0 progress, after, alone, ?_, ?_⟩
        · simp [State.step, one, proceeds]
        · rw [relays, Function.update_self]
          intro same
          cases later with
          | none => simpa [one, Relay.resume_none one] using congrArg Relay.drains same
          | some later =>
              have drains := congrArg Relay.drains same
              rw [Relay.resume_some one, one] at drains
              exact moves (congrArg some (List.singleton_inj.mp drains))
      cases drain with
      | reading =>
          let older (one two : StoredEvent) : Bool := one.row.createdAt ≤ two.row.createdAt
          have sorted : ((unpublished state.table).mergeSort older).Pairwise
              (fun one two => one.row.createdAt ≤ two.row.createdAt) := by
            have pairs : ((unpublished state.table).mergeSort older).Pairwise
                (fun one two => older one two = true) :=
              List.pairwise_mergeSort (by grind) (by grind) _
            exact pairs.imp (by simp [older])
          have legal := And.intro (List.mergeSort_perm (unpublished state.table) older) sorted
          refine progresses (.read ((unpublished state.table).mergeSort older))
            (by simp [Action.alone]) (if_pos legal) rfl ?_
          cases (List.take batchSize ((unpublished state.table).mergeSort older)) <;>
            simp [publishAll]
      | publishing row rest =>
          exact progresses (.acknowledged 0) (by simp [Action.alone]) rfl rfl (by simp)
      | marking row now rest =>
          refine progresses .updated (by simp [Action.alone]) rfl rfl ?_
          cases rest <;> simp [publishAll]

end Steps

/-- A relay that is restarted, and is then the only one to work, is never stuck. Whenever it is
between two batches, each read has taken a batch off the outbox, and each row that is gone was
published once. -/
theorem relay_alone_drains (batchSize relay : Nat) (actions solo : List Action)
    (middle state : State)
    (ran : Machine.run (State.step batchSize) .initial actions = some middle)
    (continued : Machine.run (State.step batchSize) middle (.crash relay :: solo) = some state)
    (alone : ∀ action ∈ solo, action.alone relay = true) :
    (∃ action next, action.alone relay = true ∧ state.step batchSize action = some next ∧
      next.relays relay ≠ state.relays relay) ∧
      ((state.relays relay).drains = [] →
        (unpublished state.table).length =
            (unpublished middle.table).length - solo.countP Action.isRead * batchSize ∧
          ∃ sent, state.broker = middle.broker ++ sent ∧
            (sent.map Acknowledgement.rowId ++ (unpublished state.table).map StoredEvent.id).Perm
              ((unpublished middle.table).map StoredEvent.id)) := by
  have holds : middle.Consistent ∧ ∀ relay, (middle.relays relay).Single :=
    Machine.run_invariant (fun state => state.Consistent ∧ ∀ relay, (state.relays relay).Single)
      (fun _ action _ inv taken =>
        ⟨inv.1.step action taken, State.single_step inv.2 action taken⟩)
      ⟨.initial, fun _ => .started⟩ ran
  obtain ⟨consistent, single⟩ := holds
  obtain ⟨restarted, crashed, continued⟩ := run_cons continued
  have consistentAfter := consistent.step _ crashed
  have singleAfter := State.single_step single _ crashed
  have start : Emptying batchSize relay middle 0 restarted := by
    cases crashed
    constructor <;> simp [Relay.started, Relay.holds, Relay.acknowledged, State.waiting]
  have emptied := start.run consistentAfter singleAfter alone continued
  have singleLast : ∀ relay, (state.relays relay).Single :=
    Machine.run_invariant _ (fun _ action _ single taken => State.single_step single action taken)
      singleAfter continued
  refine ⟨State.alone_moves (singleLast relay) emptied.going, ?_⟩
  intro idle
  have count := emptied.count
  obtain ⟨sent, appended, kept⟩ := emptied.sent
  simp only [State.waiting, Relay.holds, Relay.acknowledged, idle, List.flatMap_nil,
    List.length_nil, List.length_map, List.append_nil, Nat.zero_add, Nat.add_zero] at count kept
  exact ⟨count, sent, appended, kept⟩

section Sample

def sampleEarlier : List Action :=
  [.enqueue 1 "Order" 3 .ordersCancelled (sampleEvent 1),
    .enqueue 2 "Order" 5 .ordersCancelled (sampleEvent 2), .tick 0, .tick 1,
    .progress 0 0 (.read [sampleStored 1 3, sampleStored 2 5]), .progress 0 0 (.acknowledged 10)]

def sampleSolo : List Action :=
  [.tick 0, .progress 0 0 (.read [sampleStored 1 3, sampleStored 2 5]),
    .progress 0 0 (.acknowledged 11), .tick 0, .progress 0 0 .updated,
    .progress 0 0 (.acknowledged 12), .progress 0 0 .updated]

theorem sampleEarlier_run :
    (Machine.run (State.step 2) .initial sampleEarlier).isSome = true := by decide

def sampleMiddle : State := (Machine.run (State.step 2) .initial sampleEarlier).get sampleEarlier_run

theorem sampleSolo_run :
    (Machine.run (State.step 2) sampleMiddle (.crash 0 :: sampleSolo)).isSome = true := by decide

def sampleDrained : State :=
  (Machine.run (State.step 2) sampleMiddle (.crash 0 :: sampleSolo)).get sampleSolo_run

theorem relay_alone_drains_sample :
    (unpublished sampleDrained.table).length = 2 - 1 * 2 ∧ sampleDrained.broker.length = 3 := by
  have drains := relay_alone_drains 2 0 sampleEarlier sampleSolo sampleMiddle sampleDrained
    (Option.some_get sampleEarlier_run).symm (Option.some_get sampleSolo_run).symm (by decide)
  exact ⟨(drains.2 (by decide)).1, by decide⟩

end Sample

end Ecommerce.Outbox
