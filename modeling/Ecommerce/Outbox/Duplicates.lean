import Ecommerce.Outbox.CommitOrder
import Mathlib.Data.List.Perm.Basic

set_option autoImplicit false

/-!
# How often a row is published

A relay that has a row in its batch, or can still read it, is going to publish it. Only a fault
makes it publish the row again.
-/

namespace Ecommerce.Outbox

open Machine

def Action.relay : Action → Option Nat
  | .tick relay | .progress relay _ _ | .stop relay | .crash relay => some relay
  | .enqueue _ _ _ _ _ | .arrive _ => none

/-- A crash, or a call to the broker or the database that fails. -/
def Action.isFault : Action → Bool
  | .crash _ | .progress _ _ .failed => true
  | _ => false

def isPublished (rowId : Uuid) (table : List StoredEvent) : Bool :=
  table.any fun stored => stored.id = rowId && stored.row.publishedAt.isSome

def Drain.marks (rowId : Uuid) : Drain → Bool
  | .marking row _ _ => row.id = rowId
  | _ => false

/-- The relay has yet to publish the row, as far as it can tell. -/
def Relay.owes (rowId : Uuid) (published : Bool) (relay : Relay) : Bool :=
  relay.drains.any (fun drain => rowId ∈ drain.queue) ||
    !published && !relay.drains.any (Drain.marks rowId)

def Request.publishes (rowId : Uuid) : Request → Bool
  | .publish row => row.id = rowId
  | .update _ _ => false

def State.acknowledged (rowId : Uuid) (state : State) : Nat :=
  state.broker.countP fun acknowledgement => acknowledgement.rowId = rowId

def State.drifting (rowId : Uuid) (state : State) : Nat :=
  state.adrift.countP (Request.publishes rowId)

abbrev State.owes (rowId : Uuid) (state : State) (relay : Nat) : Bool :=
  (state.relays relay).owes rowId (isPublished rowId state.table)

/-- What has been published of a row, or may still be. -/
def State.account (relays : Nat) (rowId : Uuid) (state : State) : Nat :=
  state.acknowledged rowId + state.drifting rowId + (List.range relays).countP (state.owes rowId)

section Accounts

variable {batchSize relays : Nat} {rowId : Uuid} {state next : State} {table : List StoredEvent}

theorem countP_update {A : Type} (later earlier : A → Bool) (values : Nat → A) {index : Nat}
    (after : A) (size : Nat) (inside : index < size)
    (less : ∀ value, later value = true → earlier value = true) :
    (List.range size).countP (fun other => later (Function.update values index after other)) +
        (earlier (values index)).toNat ≤
      (List.range size).countP (fun other => earlier (values other)) + (later after).toNat := by
  have kept (value : A) : (later value).toNat ≤ (earlier value).toNat := by
    cases held : later value with
    | false => exact Nat.zero_le _
    | true => exact (less value held ▸ Nat.le_refl _)
  have below (bound : Nat) (outside : bound ≤ index) :
      (List.range bound).countP (fun other => later (Function.update values index after other)) ≤
        (List.range bound).countP (fun other => earlier (values other)) := by
    apply List.countP_mono_left
    intro other member held
    have different : other ≠ index := by
      have small := List.mem_range.mp member
      omega
    rw [Function.update_of_ne different] at held
    exact less _ held
  have counts (held : Bool) : (if held = true then 1 else 0) = held.toNat := by cases held <;> rfl
  induction size with
  | zero => omega
  | succ size ih =>
      simp only [List.range_succ, List.countP_append, List.countP_singleton, counts]
      by_cases last : index = size
      · subst last
        have others := below index (Nat.le_refl _)
        rw [Function.update_self]
        omega
      · have others := ih (by omega)
        have own := kept (values size)
        rw [Function.update_of_ne (Ne.symm last)]
        omega

theorem Relay.owes_less {relay : Relay} {published later : Bool}
    (kept : published = true → later = true) (owes : relay.owes rowId later = true) :
    relay.owes rowId published = true := by
  cases published with
  | false => cases later <;> simp_all [Relay.owes]
  | true =>
      rw [kept rfl] at owes
      exact owes

/-- A step that concerns one relay adds to the account of a row what it adds on that relay's side. -/
theorem State.account_relay {relay faults : Nat} {after : Relay} (named : relay < relays)
    (only : next.relays = Function.update state.relays relay after)
    (kept : isPublished rowId state.table = true → isPublished rowId next.table = true)
    (spent : next.acknowledged rowId + next.drifting rowId +
        (after.owes rowId (isPublished rowId next.table)).toNat ≤
      state.acknowledged rowId + state.drifting rowId + (state.owes rowId relay).toNat + faults) :
    next.account relays rowId ≤ state.account relays rowId + faults := by
  have counted := countP_update (Relay.owes rowId (isPublished rowId next.table))
    (Relay.owes rowId (isPublished rowId state.table)) state.relays after relays named
    fun value owes => value.owes_less kept owes
  unfold State.account State.owes at *
  rw [only]
  omega

theorem State.account_others (same : next.relays = state.relays)
    (kept : isPublished rowId state.table = true → isPublished rowId next.table = true)
    (spent : next.acknowledged rowId + next.drifting rowId ≤
      state.acknowledged rowId + state.drifting rowId) :
    next.account relays rowId ≤ state.account relays rowId := by
  have counted : (List.range relays).countP (next.owes rowId) ≤
      (List.range relays).countP (state.owes rowId) := by
    apply List.countP_mono_left
    intro relay _ owes
    rw [State.owes, same] at owes
    exact Relay.owes_less kept owes
  unfold State.account
  omega

theorem isPublished_markPublished (marked : Uuid) (now : Timestamp) (table : List StoredEvent) :
    isPublished rowId (markPublished marked now table) =
      (isPublished rowId table || (marked = rowId && rowId ∈ table.map StoredEvent.id)) := by
  induction table with
  | nil => simp [isPublished, markPublished]
  | cons stored rest ih =>
      simp only [isPublished, markPublished, List.map_cons, List.any_cons] at ih ⊢
      rw [ih]
      grind

theorem isPublished_enqueued (added : StoredEvent) (unmarked : added.row.publishedAt = none) :
    isPublished rowId (table ++ [added]) = isPublished rowId table := by
  simp [isPublished, unmarked]

/-- The rows that a drain reads are not published. -/
theorem unpublished_of_mem (ids : (table.map StoredEvent.id).Nodup) {stored : StoredEvent}
    (member : stored ∈ unpublished table) : isPublished stored.id table = false := by
  obtain ⟨present, unmarked⟩ := List.mem_filter.mp member
  rw [isPublished, List.any_eq_false]
  intro other there
  by_cases same : other.id = stored.id
  · rw [List.inj_on_of_nodup_map ids there present same]
    simp [of_decide_eq_true unmarked]
  · simp [same]

end Accounts

section Steps

variable {batchSize relays : Nat} {rowId : Uuid} {state next : State}

/-- No drain has a row twice. -/
def State.Distinct (state : State) : Prop :=
  ∀ relay, ∀ drain ∈ (state.relays relay).drains, drain.queue.Nodup

theorem State.Distinct.proceed (distinct : state.Distinct) (consistent : state.Consistent)
    {relay drain : Nat} {awaited : Drain} {progress : Progress} (queue : awaited.queue.Nodup)
    (taken : state.proceed batchSize relay drain awaited progress = some next) : next.Distinct := by
  unfold State.proceed at taken
  split at taken
  · next sorted =>
      split at taken
      · next legal =>
          cases taken
          apply drains_update distinct
          apply Relay.resume_drains (distinct relay)
          intro going resumed
          rw [publishAll_queue resumed, List.map_take]
          have ids : (sorted.map StoredEvent.id).Nodup := by
            rw [(legal.1.map StoredEvent.id).nodup_iff]
            exact consistent.ids.sublist (List.filter_sublist.map _)
          exact ids.sublist (List.take_sublist _ _)
      · cases taken
  · next row rest now =>
      cases taken
      apply drains_update distinct
      apply Relay.resume_drains (distinct relay)
      intro going resumed
      cases resumed
      exact (List.nodup_cons.mp queue).2
  · next row now rest =>
      cases taken
      apply drains_update distinct
      apply Relay.resume_drains (distinct relay)
      intro going resumed
      rw [publishAll_queue resumed]
      exact queue
  · cases taken
    apply drains_update distinct
    apply Relay.resume_drains (distinct relay)
    exact fun going resumed => absurd resumed (by simp)
  · cases taken

theorem State.Distinct.step (distinct : state.Distinct) (consistent : state.Consistent)
    (action : Action) (taken : state.step batchSize action = some next) : next.Distinct := by
  cases action with
  | enqueue =>
      simp only [State.step] at taken
      split at taken
      · cases taken
      · cases taken
        exact distinct
  | tick relay =>
      cases taken
      exact drains_update distinct (Relay.tick_drains (distinct relay) List.nodup_nil)
  | progress relay drain progress =>
      simp only [State.step] at taken
      split at taken
      · next awaited found =>
          exact distinct.proceed consistent (distinct relay _ (List.mem_of_getElem? found)) taken
      · cases taken
  | stop relay =>
      cases taken
      exact drains_update distinct (distinct relay)
  | crash relay =>
      cases taken
      exact drains_update distinct (by simp [Relay.started])
  | arrive index =>
      simp only [State.step] at taken
      split at taken
      · next request _ =>
          cases taken
          cases request <;> exact distinct
      · cases taken

theorem Relay.Single.only {relay : Relay} (single : relay.Single) {index : Nat} {awaited : Drain}
    (found : relay.drains[index]? = some awaited) : index = 0 ∧ relay.drains = [awaited] := by
  obtain ⟨inside, same⟩ := List.getElem?_eq_some_iff.mp found
  have running : relay.running = true := by
    by_contra idle
    have none := single.idle (by simpa using idle)
    omega
  have one := single.busy running
  obtain ⟨drain, alone⟩ := List.length_eq_one_iff.mp one
  have first : index = 0 := by omega
  subst first
  simp only [alone, List.getElem_cons_zero] at same
  exact ⟨rfl, by rw [alone, same]⟩

theorem Relay.owes_idle {relay : Relay} {published : Bool} (idle : relay.drains = []) :
    relay.owes rowId published = !published := by
  simp [Relay.owes, idle]

theorem Relay.owes_one {relay : Relay} {published : Bool} {drain : Drain}
    (one : relay.drains = [drain]) : relay.owes rowId published =
      (decide (rowId ∈ drain.queue) || !published && !drain.marks rowId) := by
  simp [Relay.owes, one]

@[simp] theorem Relay.resume_some {relay : Relay} {before after : Drain}
    (one : relay.drains = [before]) : (relay.resume 0 (some after)).drains = [after] := by
  simp [Relay.resume, one]

@[simp] theorem Relay.resume_none {relay : Relay} {before : Drain} (one : relay.drains = [before]) :
    (relay.resume 0 none).drains = [] := by
  simp [Relay.resume, one]

/-- A drain that goes on with these rows owes them, and what is not published. -/
theorem Relay.owes_publishAll {relay : Relay} {before : Drain} {published : Bool}
    (one : relay.drains = [before]) (rows : List StoredEvent) :
    (relay.resume 0 (publishAll rows)).owes rowId published =
      (decide (rowId ∈ rows.map StoredEvent.id) || !published) := by
  cases rows with
  | nil =>
      rw [publishAll, Relay.owes_idle (Relay.resume_none one)]
      simp
  | cons row rest =>
      rw [publishAll, Relay.owes_one (Relay.resume_some one)]
      simp [Drain.queue, Drain.marks]

theorem pending_publishes (rowId : Uuid) (drain : Drain) (published : Bool) :
    drain.pending.toList.countP (Request.publishes rowId) + (!published).toNat ≤
      (decide (rowId ∈ drain.queue) || !published && !drain.marks rowId).toNat + 1 := by
  cases drain with
  | reading => cases published <;> simp [Drain.pending, Drain.queue, Drain.marks]
  | publishing row rest =>
      by_cases same : row.id = rowId
      · cases published <;> simp [Drain.pending, Drain.queue, Request.publishes, same]
      · cases published <;> simp [Drain.pending, Drain.queue, Drain.marks, Request.publishes, same]
  | marking row now rest => cases published <;> simp [Drain.pending, Request.publishes]

theorem State.account_proceed (consistent : state.Consistent) {relay : Nat} {awaited : Drain}
    {progress : Progress} (sound : awaited.Sound state.table state.broker)
    (queue : awaited.queue.Nodup) (one : (state.relays relay).drains = [awaited])
    (named : relay < relays)
    (taken : state.proceed batchSize relay 0 awaited progress = some next) :
    next.account relays rowId ≤
      state.account relays rowId + (Action.progress relay 0 progress).isFault.toNat := by
  have owed : state.owes rowId relay = _ := Relay.owes_one one
  unfold State.proceed at taken
  split at taken
  · next sorted =>
      split at taken
      · next legal =>
          cases taken
          refine State.account_relay named rfl id ?_
          have after : Relay.owes rowId (isPublished rowId state.table) _ = _ :=
            Relay.owes_publishAll one (sorted.take batchSize)
          have unread : rowId ∈ (sorted.take batchSize).map StoredEvent.id →
              isPublished rowId state.table = false := by
            intro listed
            obtain ⟨stored, member, same⟩ := List.mem_map.mp listed
            rw [← same]
            exact unpublished_of_mem consistent.ids (legal.1.subset (List.mem_of_mem_take member))
          rw [owed]
          simp only [State.resume, State.acknowledged, State.drifting, after]
          cases published : isPublished rowId state.table <;> simp_all [Drain.queue, Drain.marks]
      · cases taken
  · next row rest now =>
      cases taken
      refine State.account_relay named rfl id ?_
      have after : Relay.owes rowId (isPublished rowId state.table)
          ((state.relays relay).resume 0 (some (.marking row now rest))) = _ :=
        Relay.owes_one (Relay.resume_some one)
      rw [owed]
      simp only [State.resume, State.acknowledge, State.acknowledged, State.drifting, after]
      simp only [Drain.queue, Drain.marks, List.countP_append, List.countP_singleton]
      by_cases same : row.id = rowId
      · subst same
        have left := (List.nodup_cons.mp queue).1
        simp [StoredEvent.acknowledgement, left]
        omega
      · simp [StoredEvent.acknowledgement, same, Ne.symm same]
  · next row now rest =>
      cases taken
      refine State.account_relay named rfl ?_ ?_
      · intro published
        rw [State.resume, State.mark, isPublished_markPublished, published, Bool.true_or]
      · have after : Relay.owes rowId (isPublished rowId (markPublished row.id now state.table)) _ = _ :=
          Relay.owes_publishAll one rest
        have known : row.id ∈ state.table.map StoredEvent.id := by
          obtain ⟨stored, present, copy⟩ := consistent.copies _ sound.1
          have sameId : stored.id = row.id := congrArg Acknowledgement.rowId copy
          exact sameId ▸ List.mem_map_of_mem present
        rw [owed]
        simp only [State.resume, State.mark, State.acknowledged, State.drifting, after]
        rw [isPublished_markPublished]
        simp only [Drain.queue, Drain.marks]
        by_cases same : row.id = rowId
        · subst same
          simp [known]
        · simp [same]
  · cases taken
    refine State.account_relay named rfl id ?_
    have after : Relay.owes rowId (isPublished rowId state.table) _ = _ :=
      Relay.owes_idle (Relay.resume_none one)
    have spent := pending_publishes rowId awaited (isPublished rowId state.table)
    rw [owed]
    simp only [State.resume, State.acknowledged, State.drifting, after, List.countP_append,
      Action.isFault, Bool.toNat_true]
    omega
  · cases taken

theorem Request.publishes_served (request : Request) :
    (state.serve request).acknowledged rowId =
      state.acknowledged rowId + (request.publishes rowId).toNat := by
  cases request with
  | publish row =>
      simp only [State.serve, State.acknowledge, State.acknowledged, List.countP_append,
        List.countP_singleton, Request.publishes, StoredEvent.acknowledgement]
      by_cases same : row.id = rowId <;> simp [same]
  | update => rfl

theorem State.serve_published (request : Request)
    (published : isPublished rowId state.table = true) :
    isPublished rowId (state.serve request).table = true := by
  cases request with
  | publish => exact published
  | update marked now =>
      rw [State.serve, State.mark, isPublished_markPublished, published, Bool.true_or]

theorem State.account_arrive {index : Nat} {request : Request}
    (found : state.adrift[index]? = some request) :
    ({ state.serve request with adrift := state.adrift.eraseIdx index } : State).account relays
      rowId ≤ state.account relays rowId := by
  have sameRelays : (state.serve request).relays = state.relays := by cases request <;> rfl
  refine State.account_others sameRelays (State.serve_published request) ?_
  obtain ⟨inside, same⟩ := List.getElem?_eq_some_iff.mp found
  -- What is acknowledged now was adrift before.
  have erased : state.adrift.countP (Request.publishes rowId) =
      (state.adrift.eraseIdx index).countP (Request.publishes rowId) +
        (request.publishes rowId).toNat := by
    have split : (state.adrift[index] :: state.adrift.eraseIdx index).Perm state.adrift :=
      List.getElem_cons_eraseIdx_perm inside
    rw [← split.countP_eq, List.countP_cons, same]
    cases request.publishes rowId <;> rfl
  have served : (state.serve request).acknowledged rowId = _ := request.publishes_served
  unfold State.acknowledged State.drifting at *
  simp only [erased]
  omega

theorem State.account_step (rowId : Uuid) (consistent : state.Consistent)
    (single : ∀ relay, (state.relays relay).Single) (distinct : state.Distinct) (action : Action)
    (named : ∀ relay, action.relay = some relay → relay < relays)
    (taken : state.step batchSize action = some next) :
    next.account relays rowId ≤ state.account relays rowId + action.isFault.toNat := by
  cases action with
  | enqueue id aggregateType now topic event =>
      simp only [State.step] at taken
      split at taken
      · cases taken
      · cases taken
        refine State.account_others rfl ?_ (Nat.le_refl _)
        exact fun published => (isPublished_enqueued _ (by rfl)).trans published
  | tick relay =>
      cases taken
      refine State.account_relay (named relay rfl) rfl id (Nat.le_of_eq ?_)
      have same (published : Bool) : (state.relays relay).tick.owes rowId published =
          (state.relays relay).owes rowId published := by
        unfold Relay.tick
        split
        · rfl
        · simp [Relay.owes, Drain.queue, Drain.marks]
      rw [same]
      rfl
  | progress relay drain progress =>
      simp only [State.step] at taken
      split at taken
      · next awaited found =>
          obtain ⟨rfl, one⟩ := (single relay).only found
          have member := List.mem_of_getElem? found
          exact State.account_proceed consistent (consistent.drains relay _ member)
            (distinct relay _ member) one (named relay rfl) taken
      · cases taken
  | stop relay =>
      cases taken
      exact State.account_relay (named relay rfl) rfl id (Nat.le_refl _)
  | crash relay =>
      cases taken
      refine State.account_relay (named relay rfl) rfl id ?_
      have restarted : Relay.started.owes rowId (isPublished rowId state.table) = _ :=
        Relay.owes_idle rfl
      simp only [State.acknowledged, State.drifting, List.countP_append, restarted, Action.isFault,
        Bool.toNat_true]
      cases drains : (state.relays relay).drains with
      | nil =>
          have owed : state.owes rowId relay = _ := Relay.owes_idle drains
          rw [owed]
          simp
      | cons drain rest =>
          have found : (state.relays relay).drains[0]? = some drain := by rw [drains]; rfl
          have one := ((single relay).only found).2
          have owed : state.owes rowId relay = _ := Relay.owes_one one
          have spent := pending_publishes rowId drain (isPublished rowId state.table)
          have lost : [drain].filterMap Drain.pending = drain.pending.toList := by
            cases drain <;> rfl
          rw [← drains, one, owed, lost]
          omega
  | arrive index =>
      simp only [State.step] at taken
      split at taken
      · next request found =>
          cases taken
          exact State.account_arrive found
      · cases taken

theorem State.account_run (rowId : Uuid) {actions : List Action} (consistent : state.Consistent)
    (single : ∀ relay, (state.relays relay).Single) (distinct : state.Distinct)
    (named : ∀ action ∈ actions, ∀ relay, action.relay = some relay → relay < relays)
    (ran : Machine.run (State.step batchSize) state actions = some next) :
    next.account relays rowId ≤ state.account relays rowId + actions.countP Action.isFault := by
  induction actions generalizing state with
  | nil =>
      rw [run_nil ran]
      exact Nat.le_add_right _ _
  | cons action rest ih =>
      obtain ⟨middle, taken, ran⟩ := run_cons ran
      have first := State.account_step rowId consistent single distinct action
        (named action (by simp)) taken
      have later := ih (consistent.step action taken) (State.single_step single action taken)
        (distinct.step consistent action taken)
        (fun other member => named other (List.mem_cons_of_mem _ member)) ran
      have counts : (action :: rest).countP Action.isFault =
          rest.countP Action.isFault + action.isFault.toNat := by
        rw [List.countP_cons]
        cases action.isFault <;> rfl
      omega

end Steps

/-- A row is published no more often than there are relays, and once more for each fault. -/
theorem publications_bounded (batchSize relays : Nat) (actions : List Action) (state : State)
    (named : ∀ action ∈ actions, ∀ relay, action.relay = some relay → relay < relays)
    (ran : Machine.run (State.step batchSize) .initial actions = some state) (rowId : Uuid) :
    state.broker.countP (fun acknowledgement => acknowledgement.rowId = rowId) ≤
      relays + actions.countP Action.isFault := by
  have start : State.initial.account relays rowId = relays := by
    have all : (List.range relays).countP (State.initial.owes rowId) = (List.range relays).length :=
      List.countP_eq_length.mpr fun _ _ => rfl
    rw [State.account, all, List.length_range]
    exact Nat.zero_add relays
  have bounded := State.account_run rowId .initial (fun _ => .started)
    (by simp [State.Distinct, State.initial, Relay.started]) named ran
  rw [start] at bounded
  unfold State.account State.acknowledged at bounded
  omega

section Sample

theorem sampleActions_relays : ∀ action ∈ sampleActions, ∀ relay,
    action.relay = some relay → relay < 2 := by decide

/-- Two relays share a batch, one of them crashes and a call of the other fails. -/
theorem publications_bounded_sample :
    sampleState.broker.countP (fun acknowledgement => acknowledgement.rowId = 2) = 2 ∧
      sampleState.broker.countP (fun acknowledgement => acknowledgement.rowId = 2) ≤ 2 + 2 := by
  have ran : Machine.run (State.step 10) .initial sampleActions = some sampleState :=
    (Option.some_get sampleActions_run).symm
  exact ⟨by decide, publications_bounded 10 2 sampleActions sampleState sampleActions_relays ran 2⟩

end Sample

end Ecommerce.Outbox
