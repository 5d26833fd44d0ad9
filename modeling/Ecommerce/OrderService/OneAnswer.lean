import Ecommerce.OrderService.ExecuteEffect
import Ecommerce.OrderService.OrderLedger

set_option autoImplicit false

/-!
# One answer for each key

Whatever a call finds, in Redis or in Postgres, is the completed key of the one call whose work
has committed under it.
-/

namespace Ecommerce.OrderService

open Transaction

def Worked (system : CallSystem) (number : Nat) (call : Call)
    (value : OrderResponse × Nat) : Prop :=
  system.slots number = .committed call value

def SlotOf (call : Call) :
    Slot (TableKey Key) (TableRow Row) TxError (OrderResponse × Nat) Call → Prop
  | .idle => False
  | .running other _ _ => other = call
  | .committed other _ => other = call
  | .failed other _ => other = call

/-- The work that an answer is about. -/
def Explains (uuid : ToUuid) (system : CallSystem) (number : Nat) (call : Call) : Answer → Prop
  | .returned result => ∃ worker work value, Worked system worker work value ∧
      uuid work.key = uuid call.key ∧ work.requestHash = call.requestHash ∧
        result.response = some value.1 ∧ result.statusCode = value.2 ∧
          (result.replayed = false → worker = number)
  | .unprocessable => ∃ worker work value, Worked system worker work value ∧
      uuid work.key = uuid call.key ∧ work.requestHash ≠ call.requestHash
  | .conflict => False
  | .failed _ => True

def Fits (uuid : ToUuid) (promised : Call → OrderResponse × Nat → Prop) (system : CallSystem)
    (number : Nat) : Phase → Prop
  | .idle => system.slots number = .idle
  | .fetching call => system.slots number = .idle ∧ call.Promises promised
  | .looking call => system.slots number = .idle ∧ call.Promises promised
  | .transacting call => SlotOf call (system.slots number)
  | .caching call response statusCode => Worked system number call (response, statusCode)
  | .recovering _ _ => True
  | .answered call answer => Explains uuid system number call answer
  | .crashed _ => True

def cachedEntry (call : Call) (value : OrderResponse × Nat) : String × Cached :=
  (redisKey call.key,
    { hash := call.requestHash, response := value.1, statusCode := value.2 })

section Accounting

variable (config : Config) (uuid : ToUuid) (promised : Call → OrderResponse × Nat → Prop)
variable (first : OrderDb)

/-- The idempotency keys are those of the calls whose work has committed, one for each. -/
structure Accounted (system : CallSystem) : Prop where
  sound : system.Sound Completed KeysKept (ExecuteEffect config uuid promised)
    (Call.Promises promised) first
  rows : ∀ key (row : IdempotencyKey), system.rows (idempotencyKey key) = some row →
    ∃ worker work value, Worked system worker work value ∧ uuid work.key = key ∧
      row = work.completed config value
  worked : ∀ worker work value, Worked system worker work value →
    system.rows (idempotencyKey (uuid work.key)) = some (work.completed config value) ∧
      promised work value
  once : ∀ one two work other value result, Worked system one work value →
    Worked system two other result → uuid work.key = uuid other.key → one = two

structure Consistent (service : Service) : Prop where
  accounted : Accounted config uuid promised first service.system
  redis : ∀ entry ∈ service.redis, ∃ worker work value, Worked service.system worker work value ∧
    entry = cachedEntry work value
  phases : ∀ number, Fits uuid promised service.system number (service.phases number)

/-- A step of one session: what has committed stays, and nobody else moves. -/
structure Advances (system next : CallSystem) (session : Nat) : Prop where
  worked : ∀ number work value, Worked system number work value → Worked next number work value
  others : ∀ other, other ≠ session → next.slots other = system.slots other
  job : ∀ call, SlotOf call (system.slots session) → SlotOf call (next.slots session)

variable {config uuid promised first} {system next : CallSystem} {session : Nat}

theorem Explains.later {number : Nat} {call : Call} {answer : Answer}
    (grown : ∀ number work value, Worked system number work value → Worked next number work value)
    (explains : Explains uuid system number call answer) :
    Explains uuid next number call answer := by
  cases answer with
  | returned result =>
      obtain ⟨worker, work, value, worked, rest⟩ := explains
      exact ⟨worker, work, value, grown _ _ _ worked, rest⟩
  | unprocessable =>
      obtain ⟨worker, work, value, worked, rest⟩ := explains
      exact ⟨worker, work, value, grown _ _ _ worked, rest⟩
  | conflict => exact explains
  | failed => trivial

theorem Fits.other {number : Nat} {phase : Phase} (advances : Advances system next session)
    (different : number ≠ session) (fits : Fits uuid promised system number phase) :
    Fits uuid promised next number phase := by
  have same := advances.others number different
  cases phase with
  | idle => exact same.trans fits
  | fetching => exact ⟨same.trans fits.1, fits.2⟩
  | looking => exact ⟨same.trans fits.1, fits.2⟩
  | transacting call =>
      simp only [Fits, same]
      exact fits
  | caching => exact same.trans fits
  | recovering | crashed => trivial
  | answered => exact Explains.later advances.worked fits

/-- The session of a call that has started. -/
theorem Fits.started {phase : Phase} (advances : Advances system next session)
    (started : system.slots session ≠ .idle) (fits : Fits uuid promised system session phase) :
    Fits uuid promised next session phase := by
  cases phase with
  | idle => exact absurd fits started
  | fetching => exact absurd fits.1 started
  | looking => exact absurd fits.1 started
  | transacting call => exact advances.job call fits
  | caching => exact advances.worked _ _ _ fits
  | recovering | crashed => trivial
  | answered => exact Explains.later advances.worked fits

/-- A session that has not committed changes its slot without committing. -/
theorem Accounted.unfinished (accounted : Accounted config uuid promised first system)
    {slot : Slot (TableKey Key) (TableRow Row) TxError (OrderResponse × Nat) Call}
    (sound : next.Sound Completed KeysKept (ExecuteEffect config uuid promised)
      (Call.Promises promised) first)
    (sameRows : next.rows = system.rows)
    (slots : next.slots = Function.update system.slots session slot)
    (before : ∀ call value, system.slots session ≠ .committed call value)
    (after : ∀ call value, slot ≠ .committed call value)
    (job : ∀ call, SlotOf call (system.slots session) → SlotOf call slot) :
    Accounted config uuid promised first next ∧ Advances system next session := by
  have worked (number : Nat) (call : Call) (value : OrderResponse × Nat) :
      Worked next number call value ↔ Worked system number call value := by
    simp only [Worked, slots]
    by_cases same : number = session
    · subst same
      simp [after, before]
    · rw [Function.update_of_ne same]
  constructor
  · constructor
    · exact sound
    · simpa only [worked, sameRows] using accounted.rows
    · simpa only [worked, sameRows] using accounted.worked
    · simpa only [worked] using accounted.once
  · constructor
    · exact fun number call value => (worked number call value).mpr
    · intro other different
      rw [slots, Function.update_of_ne different]
    · simpa [slots] using job

theorem Accounted.commit (accounted : Accounted config uuid promised first system)
    {call : Call} {value : OrderResponse × Nat} {writes : Writes (TableKey Key) (TableRow Row)}
    (running : system.slots session = .running call (.pure value) writes)
    (sound : (system.commit session call value writes).Sound Completed KeysKept
      (ExecuteEffect config uuid promised) (Call.Promises promised) first)
    (effect : ExecuteEffect config uuid promised call value system.rows writes) :
    Accounted config uuid promised first (system.commit session call value writes) ∧
      Advances system (system.commit session call value writes) session := by
  have grown (number : Nat) (work : Call) (result : OrderResponse × Nat)
      (worked : Worked system number work result) :
      Worked (system.commit session call value writes) number work result := by
    have different : number ≠ session := by
      rintro rfl
      cases running.symm.trans worked
    simpa [Worked, System.commit, different] using worked
  have cases (number : Nat) (work : Call) (result : OrderResponse × Nat)
      (worked : Worked (system.commit session call value writes) number work result) :
      number = session ∧ work = call ∧ result = value ∨ Worked system number work result := by
    by_cases same : number = session
    · subst same
      simp only [Worked, System.commit, Function.update_self, Slot.committed.injEq]
        at worked
      exact .inl ⟨rfl, worked.1.symm, worked.2.symm⟩
    · exact .inr (by simpa [Worked, System.commit, same] using worked)
  have mine : Worked (system.commit session call value writes) session call value := by
    simp [Worked, System.commit]
  -- Nobody has worked under the key of a session that commits.
  have unworked (number : Nat) (work : Call) (result : OrderResponse × Nat)
      (worked : Worked system number work result) : uuid work.key ≠ uuid call.key := by
    intro same
    have present := (accounted.worked number work result worked).1
    rw [same, effect.unclaimed] at present
    cases present
  constructor
  · refine ⟨sound, ?_, ?_, ?_⟩
    · intro key row found
      by_cases same : key = uuid call.key
      · subst same
        simp only [System.commit, Writes.over, effect.claimed, Option.getD_some,
          Option.some.injEq] at found
        exact ⟨session, call, value, mine, rfl, found.symm⟩
      · simp only [System.commit, Writes.over, effect.others key same, Option.getD_none] at found
        obtain ⟨worker, work, result, worked, rest⟩ := accounted.rows key row found
        exact ⟨worker, work, result, grown _ _ _ worked, rest⟩
    · intro worker work result worked
      rcases cases worker work result worked with ⟨_, rfl, rfl⟩ | before
      · refine ⟨?_, effect.answer⟩
        simp [System.commit, Writes.over, effect.claimed]
      · obtain ⟨present, answer⟩ := accounted.worked worker work result before
        refine ⟨?_, answer⟩
        simpa [System.commit, Writes.over, effect.others _ (unworked _ _ _ before)] using present
    · intro one two work other result later first second same
      rcases cases one work result first with ⟨rfl, rfl, rfl⟩ | before <;>
        rcases cases two other later second with ⟨rfl, rfl, rfl⟩ | earlier
      · rfl
      · exact absurd same.symm (unworked _ _ _ earlier)
      · exact absurd same (unworked _ _ _ before)
      · exact accounted.once one two work other result later before earlier same
  · refine ⟨grown, ?_, ?_⟩
    · intro other different
      simp [System.commit, different]
    · intro other of
      rw [running] at of
      simpa [System.commit, SlotOf] using of

theorem Accounted.advance (accounted : Accounted config uuid promised first system) {drawn : Nat}
    (taken : system.step (Call.body config uuid) (.advance session drawn) = some next) :
    Accounted config uuid promised first next ∧ Advances system next session ∧
      system.slots session ≠ .idle := by
  have discipline := executeDiscipline config uuid promised
  have sound := accounted.sound.step discipline _ (by simp) taken
  obtain ⟨call, rest, writes, running, outcome⟩ := System.advance_cases taken
  have before (job : Call) (value : OrderResponse × Nat) :
      system.slots session ≠ .committed job value := by simp [running]
  have started : system.slots session ≠ .idle := by simp [running]
  rcases outcome with ⟨value, rfl, rfl⟩ | ⟨error, _, rfl⟩ | ⟨later, more, _, sameRows, slots⟩
  · have finishing : system.finishing (.advance session drawn) = some (call, value, writes) := by
      simp [System.finishing, running]
    obtain ⟨kept, advances⟩ :=
      accounted.commit running sound (accounted.sound.finishing discipline finishing).2
    exact ⟨kept, advances, started⟩
  · obtain ⟨kept, advances⟩ := accounted.unfinished sound rfl rfl before (by simp)
      (by simp [running, SlotOf])
    exact ⟨kept, advances, started⟩
  · obtain ⟨kept, advances⟩ := accounted.unfinished sound sameRows slots before (by simp)
      (by simp [running, SlotOf])
    exact ⟨kept, advances, started⟩

theorem Accounted.rollback (accounted : Accounted config uuid promised first system)
    (taken : system.step (Call.body config uuid) (.rollback session) = some next) :
    Accounted config uuid promised first next ∧ Advances system next session ∧
      system.slots session ≠ .idle := by
  have sound := accounted.sound.step (executeDiscipline config uuid promised) _ (by simp) taken
  obtain ⟨call, rest, writes, running, rfl⟩ := System.rollback_cases taken
  obtain ⟨kept, advances⟩ := accounted.unfinished sound rfl rfl (by simp [running]) (by simp)
    (by simp [running, SlotOf])
  exact ⟨kept, advances, by simp [running]⟩

theorem Accounted.start (accounted : Accounted config uuid promised first system) {call : Call}
    (promises : call.Promises promised) (idle : system.slots session = .idle)
    (taken : system.step (Call.body config uuid) (.start session call) = some next) :
    Accounted config uuid promised first next ∧ Advances system next session ∧
      SlotOf call (next.slots session) := by
  have sound := accounted.sound.step (executeDiscipline config uuid promised) _
    (by rintro _ _ ⟨⟩; exact promises) taken
  obtain ⟨_, rfl⟩ := System.start_cases taken
  obtain ⟨kept, advances⟩ := accounted.unfinished sound rfl rfl (by simp [idle]) (by simp)
    (by simp [idle, SlotOf])
  exact ⟨kept, advances, by simp [System.resume, SlotOf]⟩

end Accounting

section Steps

variable {config : Config} {uuid : ToUuid} {promised : Call → OrderResponse × Nat → Prop}
variable {first : OrderDb} {service : Service} {next : CallSystem} {number : Nat} {call : Call}

theorem assertSameBody_cases (storedHash requestHash : String) (otherwise : Answer) :
    storedHash ≠ requestHash ∧ assertSameBody storedHash requestHash otherwise = .unprocessable ∨
      storedHash = requestHash ∧ assertSameBody storedHash requestHash otherwise = otherwise := by
  by_cases same : storedHash = requestHash
  · exact .inr ⟨same, by simp [assertSameBody, same]⟩
  · exact .inl ⟨same, by simp [assertSameBody, same]⟩

/-- A row and a cached entry of the same work answer alike, and as the work has. -/
theorem explains_replay {worker : Nat} {work : Call} {value : OrderResponse × Nat}
    (worked : Worked next worker work value) (sameKey : uuid work.key = uuid call.key) :
    Explains uuid next number call (replayCached (cachedEntry work value).2 call.requestHash) := by
  simp only [replayCached, cachedEntry]
  rcases assertSameBody_cases work.requestHash call.requestHash (.returned
    { response := some value.1, statusCode := value.2, replayed := true }) with
    ⟨different, answer⟩ | ⟨same, answer⟩
  · rw [answer]
    exact ⟨worker, work, value, worked, sameKey, different⟩
  · rw [answer]
    exact ⟨worker, work, value, worked, sameKey, same, rfl, rfl, by simp⟩

theorem handleExisting_completed (config : Config) (work : Call) (value : OrderResponse × Nat)
    (requestHash : String) :
    handleExisting (work.completed config value) requestHash =
      replayCached (cachedEntry work value).2 requestHash := rfl

theorem Consistent.put (consistent : Consistent config uuid promised first service) {phase : Phase}
    (fits : Fits uuid promised service.system number phase) :
    Consistent config uuid promised first (service.put number phase) where
  accounted := consistent.accounted
  redis := consistent.redis
  phases other := by
    by_cases same : other = number
    · subst same
      simpa [Service.put] using fits
    · simpa [Service.put, same] using consistent.phases other

theorem Consistent.moved (consistent : Consistent config uuid promised first service)
    (accounted : Accounted config uuid promised first next)
    (advances : Advances service.system next number) {phase : Phase}
    (fits : Fits uuid promised next number phase) :
    Consistent config uuid promised first (Service.put { service with system := next } number phase)
    where
  accounted := accounted
  redis entry member := by
    obtain ⟨worker, work, value, worked, same⟩ := consistent.redis entry member
    exact ⟨worker, work, value, advances.worked _ _ _ worked, same⟩
  phases other := by
    by_cases same : other = number
    · subst same
      simpa [Service.put] using fits
    · simpa [Service.put, same] using (consistent.phases other).other advances same

theorem Service.put_phase (service : Service) (number : Nat) :
    service.put number (service.phases number) = service := by
  simp [Service.put]

theorem Consistent.database (consistent : Consistent config uuid promised first service)
    {label : Label Call}
    (goes : ∀ next, service.system.step (Call.body config uuid) label = some next →
      Accounted config uuid promised first next ∧ Advances service.system next number ∧
        service.system.slots number ≠ .idle) :
    Consistent config uuid promised first (service.database config uuid label) := by
  unfold Service.database
  split
  · next next taken =>
      obtain ⟨accounted, advances, started⟩ := goes next taken
      have fits := (consistent.phases number).started advances started
      have moved := consistent.moved accounted advances fits
      rwa [← Service.put_phase { service with system := next } number]
  · exact consistent

theorem Consistent.replay (consistent : Consistent config uuid promised first service)
    {row : IdempotencyKey} (found : service.row uuid call = some row) :
    Consistent config uuid promised first
      (service.answer number call (handleExisting row call.requestHash)) := by
  obtain ⟨worker, work, value, worked, sameKey, rfl⟩ := consistent.accounted.rows _ row found
  apply consistent.put
  rw [handleExisting_completed]
  exact explains_replay worked sameKey

theorem redisKey_injective {one two : String} (same : redisKey one = redisKey two) : one = two := by
  simpa [redisKey] using same

theorem Consistent.cached (consistent : Consistent config uuid promised first service)
    {redisOn : Bool} {hit : Option Nat} {cached : Cached}
    (found : service.cached redisOn call hit = some cached) :
    ∃ worker work value, Worked service.system worker work value ∧ work.key = call.key ∧
      cached = (cachedEntry work value).2 := by
  unfold Service.cached at found
  split at found
  · split at found
    · next key entry present =>
        split at found
        · next sameKey =>
            cases found
            obtain ⟨index, _, member⟩ := Option.bind_eq_some_iff.mp present
            obtain ⟨worker, work, value, worked, same⟩ :=
              consistent.redis _ (List.mem_of_getElem? member)
            obtain ⟨rfl, rfl⟩ := Prod.mk.inj same
            exact ⟨worker, work, value, worked, redisKey_injective sameKey, rfl⟩
        · cases found
    · cases found
  · cases found

theorem Consistent.start (consistent : Consistent config uuid promised first service)
    (looking : service.phases number = .looking call) :
    Consistent config uuid promised first
      ((service.database config uuid (.start number call)).put number (.transacting call)) := by
  have fits := consistent.phases number
  rw [looking] at fits
  obtain ⟨idle, promises⟩ := fits
  unfold Service.database
  split
  · next next taken =>
      obtain ⟨accounted, advances, job⟩ := consistent.accounted.start promises idle taken
      exact consistent.moved accounted advances job
  · next stuck => simp [System.step, idle] at stuck

theorem settled_fits {phase : Phase} (of : SlotOf call (next.slots number))
    (going : settled call (next.slots number) = some phase) :
    Fits uuid promised next number phase := by
  unfold settled at going
  split at going
  · next job response statusCode committed =>
      cases going
      rw [committed] at of
      exact committed.trans (by rw [show job = call from of])
  all_goals
    cases going
    try trivial

theorem lost_fits {phase : Phase} (going : lost call (next.slots number) = some phase) :
    Fits uuid promised next number phase := by
  unfold lost at going
  split at going <;> cases going
  trivial

theorem Consistent.set (consistent : Consistent config uuid promised first service)
    {response : OrderResponse} {statusCode : Nat}
    (caching : service.phases number = .caching call response statusCode) :
    Consistent config uuid promised first (service.set number call response statusCode) := by
  have worked := consistent.phases number
  rw [caching] at worked
  have stored : Consistent config uuid promised first
      { service with redis := service.redis ++ [cachedEntry call (response, statusCode)] } := by
    refine ⟨consistent.accounted, fun entry member => ?_, consistent.phases⟩
    rcases List.mem_append.mp member with before | added
    · exact consistent.redis entry before
    · exact ⟨number, call, (response, statusCode), worked, List.mem_singleton.mp added⟩
  exact stored.put ⟨number, call, (response, statusCode), worked, rfl, rfl, rfl, rfl, fun _ => rfl⟩

theorem Consistent.step (consistent : Consistent config uuid promised first service)
    (redisOn : Bool) (event : Event)
    (promises : ∀ number call, event = .execute number call → call.Promises promised) :
    Consistent config uuid promised first (service.step config uuid redisOn event) := by
  have moves := service.step_moves config uuid redisOn event
  generalize service.step config uuid redisOn event = next at moves ⊢
  cases moves with
  | stays => exact consistent
  | statement number drawn =>
      exact consistent.database fun next taken => consistent.accounted.advance taken
  | abort number => exact consistent.database fun next taken => consistent.accounted.rollback taken
  | execute number call idle =>
      have fits := consistent.phases number
      rw [idle] at fits
      exact consistent.put ⟨fits, promises number call rfl⟩
  | hit number _ call cached fetching found =>
      obtain ⟨worker, work, value, worked, sameKey, rfl⟩ := consistent.cached found
      exact consistent.put (explains_replay worked (congrArg uuid sameKey))
  | miss number call fetching =>
      have fits := consistent.phases number
      rw [fetching] at fits
      exact consistent.put fits
  | replay number call row awaits found => exact consistent.replay found
  | start number call looking missing => exact consistent.start looking
  | goOn number call phase transacting going =>
      have fits := consistent.phases number
      rw [transacting] at fits
      rcases going with settles | loses
      · exact consistent.put (settled_fits fits settles)
      · exact consistent.put (lost_fits loses)
  | set number call response statusCode caching => exact consistent.set caching
  | fail | crash => exact consistent.put trivial

theorem Consistent.initial {rows : OrderDb} (empty : ∀ key, rows (idempotencyKey key) = none) :
    Consistent config uuid promised rows (.initial rows) where
  accounted :=
    { sound := .initial rows (by simp [Completed, empty]) (executeDiscipline config uuid promised)
      rows := by simp [Service.initial, System.initial, empty]
      worked := by simp [Service.initial, System.initial, Worked]
      once := by simp [Service.initial, System.initial, Worked] }
  redis := by simp [Service.initial]
  phases _ := rfl

theorem Consistent.run (consistent : Consistent config uuid promised first service)
    (redisOn : Bool) (events : List Event)
    (promises : ∀ number call, .execute number call ∈ events → call.Promises promised) :
    Consistent config uuid promised first (service.run config uuid redisOn events) := by
  induction events generalizing service with
  | nil => exact consistent
  | cons event rest ih =>
      apply ih
      · apply consistent.step
        exact fun number call same => promises number call (by simp [same])
      · exact fun number call member => promises number call (List.mem_cons_of_mem _ member)

theorem Call.promises_nothing (call : Call) : call.Promises fun _ _ => True := by
  intro inv rely writes rows
  have leaving : wp inv rely (fun _ => True)
      (onRows call.work : Prog (TableKey Key) (TableRow Row) TxError _) _ writes rows :=
    wp_leaves (onRows_leaves call.leaves) writes writes rows (fun _ _ => rfl)
      (fun _ _ _ _ _ _ => trivial) trivial
  exact wp_mono (fun _ _ _ _ => trivial) _ _ _ leaving

theorem Consistent.hash_iff (consistent : Consistent config uuid promised first service)
    {worker : Nat} {work : Call} {value : OrderResponse × Nat} {answer : Answer}
    (worked : Worked service.system worker work value)
    (answered : service.phases number = .answered call answer)
    (sameKey : uuid work.key = uuid call.key) :
    (work.requestHash ≠ call.requestHash →
        answer = .unprocessable ∨ ∃ error, answer = .failed error) ∧
      (work.requestHash = call.requestHash → answer ≠ .unprocessable) := by
  have fits := consistent.phases number
  rw [answered] at fits
  -- The work that an answer is about is the only one under its key.
  have only {other : Nat} {job : Call} {result : OrderResponse × Nat}
      (theirs : Worked service.system other job result) (key : uuid job.key = uuid call.key) :
      job = work := by
    have same := consistent.accounted.once other worker job work result value theirs worked
      (key.trans sameKey.symm)
    subst same
    cases theirs.symm.trans worked
    rfl
  cases answer with
  | returned result =>
      obtain ⟨other, job, value, theirs, key, same, _⟩ := fits
      exact ⟨fun different => absurd (only theirs key ▸ same) different, by simp⟩
  | unprocessable =>
      obtain ⟨other, job, value, theirs, key, different⟩ := fits
      exact ⟨fun _ => .inl rfl, fun same => absurd same (only theirs key ▸ different)⟩
  | conflict => exact fits.elim
  | failed error => exact ⟨fun _ => .inr ⟨error, rfl⟩, by simp⟩

end Steps

/-- However the calls interleave, every answer under a key is about the one work that has committed
there. -/
theorem one_key_one_answer (config : Config) (uuid : ToUuid) (redisOn : Bool) (first : OrderDb)
    (empty : ∀ key, first (idempotencyKey key) = none) (events : List Event) (service : Service)
    (ran : (Service.initial first).run config uuid redisOn events = service) :
    (∀ one two work other value result, Worked service.system one work value →
        Worked service.system two other result → uuid work.key = uuid other.key → one = two) ∧
      (∀ number call result, service.phases number = .answered call (.returned result) →
        ∃ worker work value, Worked service.system worker work value ∧
          uuid work.key = uuid call.key ∧ result.response = some value.1 ∧
            result.statusCode = value.2 ∧ (result.replayed = false → worker = number)) ∧
      (∀ worker work value number call answer, Worked service.system worker work value →
        service.phases number = .answered call answer → uuid work.key = uuid call.key →
          (work.requestHash ≠ call.requestHash →
            answer = .unprocessable ∨ ∃ error, answer = .failed error) ∧
          (work.requestHash = call.requestHash → answer ≠ .unprocessable)) ∧
      (∀ number call, service.phases number = .answered call .unprocessable →
        ∃ worker work value, Worked service.system worker work value ∧
          uuid work.key = uuid call.key ∧ work.requestHash ≠ call.requestHash) ∧
      (∀ number call, service.phases number ≠ .answered call .conflict) ∧
      ∀ key (row : IdempotencyKey), service.system.rows (idempotencyKey key) = some row →
        row.status = .completed ∧ row.response ≠ none ∧ row.statusCode ≠ none := by
  have consistent : Consistent config uuid (fun _ _ => True) first service :=
    ran ▸ (Consistent.initial empty).run redisOn events fun _ call _ => call.promises_nothing
  have explained {number : Nat} {call : Call} {answer : Answer}
      (answered : service.phases number = .answered call answer) :
      Explains uuid service.system number call answer := by
    have fits := consistent.phases number
    rwa [answered] at fits
  refine ⟨consistent.accounted.once, ?_, ?_, ?_, ?_, consistent.accounted.sound.invariant⟩
  · intro number call result answered
    obtain ⟨worker, work, value, worked, key, _, response, statusCode, own⟩ := explained answered
    exact ⟨worker, work, value, worked, key, response, statusCode, own⟩
  · intro worker work value number call answer worked answered sameKey
    exact consistent.hash_iff worked answered sameKey
  · exact fun number call answered => explained answered
  · exact fun number call answered => explained answered

section Sample

/-- Some work that only answers. -/
def sampleCall (key requestHash : String) : Call :=
  { key
    requestHash
    now := 0
    work := .pure (toResponse (sampleRequest.order 7 8), 201)
    leaves := trivial }

def sampleUuid : ToUuid := fun key =>
  -- Two spellings of one UUID.
  if key = "c9a4a0de-7f3b-4c52-9e56-0d1f0b6f2a11" ∨ key = "C9A4A0DE-7F3B-4C52-9E56-0D1F0B6F2A11"
  then 5 else 0

def sampleLower : String := "c9a4a0de-7f3b-4c52-9e56-0d1f0b6f2a11"

def sampleUpper : String := "C9A4A0DE-7F3B-4C52-9E56-0D1F0B6F2A11"

def sampleBurst : List Event :=
  -- Two calls race for one key, a third has another body, and Redis answers only the third.
  [.execute 0 (sampleCall sampleLower "one"), .execute 1 (sampleCall sampleUpper "one"),
    .execute 2 (sampleCall sampleLower "two"), .get 0 none, .get 1 none, .find 0, .find 1,
    .statement 0 0, .statement 1 0, .statement 0 0, .statement 0 0, .statement 1 0, .settle 0,
    .settle 1, .set 0, .recover 1, .get 2 (some 0)]

def sampleAnswers (service : Service) : List (Option Answer) :=
  (List.range 3).map fun number =>
    match service.phases number with
    | .answered _ answer => some answer
    | _ => none

def sampleBurstService : Service :=
  (Service.initial fun _ => none).run sampleConfig sampleUuid true sampleBurst

theorem one_key_one_answer_burst :
    sampleAnswers sampleBurstService =
        [some (.returned
            { response := some (toResponse (sampleRequest.order 7 8))
              statusCode := 201
              replayed := false }),
          some (.returned
            { response := some (toResponse (sampleRequest.order 7 8))
              statusCode := 201
              replayed := true }),
          some .unprocessable] ∧
      ∀ number call, sampleBurstService.phases number ≠ .answered call .conflict := by
  refine ⟨by decide +kernel, ?_⟩
  exact (one_key_one_answer sampleConfig sampleUuid true _ (fun _ => rfl) sampleBurst
    sampleBurstService rfl).2.2.2.2.1

end Sample

end Ecommerce.OrderService
