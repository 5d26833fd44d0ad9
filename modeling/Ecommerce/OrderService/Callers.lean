import Ecommerce.OrderService.OneAnswer

set_option autoImplicit false

/-!
# Where the calls come from

Every call under way came in under its number, and a call that comes late under a used key
with another body is turned away.
-/

namespace Ecommerce.OrderService

open Transaction

def Phase.call : Phase → Option Call
  | .idle => none
  | .fetching call | .looking call | .transacting call | .caching call _ _ | .recovering call _
  | .answered call _ | .crashed call => some call

/-- The calls that the service works on came in under their numbers. -/
structure Service.From (came : Nat → Call → Prop) (service : Service) : Prop where
  phases : ∀ number call, (service.phases number).call = some call → came number call
  slots : ∀ number call, SlotOf call (service.system.slots number) → came number call

section From

variable {config : Config} {uuid : ToUuid} {came : Nat → Call → Prop} {service : Service}
variable {number : Nat} {call : Call}

theorem Service.From.put (holds : service.From came) {phase : Phase}
    (known : ∀ call, phase.call = some call → came number call) :
    (service.put number phase).From came where
  phases other call held := by
    by_cases same : other = number
    · subst same
      exact known call (by simpa [Service.put] using held)
    · exact holds.phases other call (by simpa [Service.put, same] using held)
  slots := holds.slots

theorem Service.From.keeps (holds : service.From came) {phase : Phase}
    (awaited : (service.phases number).call = some call) (same : phase.call = some call) :
    (service.put number phase).From came := by
  apply holds.put
  intro other held
  rw [same, Option.some.injEq] at held
  exact held ▸ holds.phases number call awaited

theorem Service.From.slot (holds : service.From came) {next : CallSystem}
    {slot : Slot (TableKey Key) (TableRow Row) TxError (OrderResponse × Nat) Call}
    (slots : next.slots = Function.update service.system.slots number slot)
    (known : ∀ call, SlotOf call slot → came number call) :
    Service.From came { service with system := next } where
  phases := holds.phases
  slots other call held := by
    rw [slots] at held
    by_cases same : other = number
    · subst same
      exact known call (by simpa using held)
    · exact holds.slots other call (by simpa [same] using held)

theorem Service.From.database (holds : service.From came) {label : Label Call}
    (starts : ∀ number call, label = .start number call → came number call) :
    (service.database config uuid label).From came := by
  unfold Service.database
  split
  · next next taken =>
      cases label with
      | start number call =>
          obtain ⟨_, rfl⟩ := System.start_cases taken
          apply holds.slot rfl
          intro other of
          exact (show call = other from of) ▸ starts number call rfl
      | rollback number =>
          obtain ⟨call, _, _, running, rfl⟩ := System.rollback_cases taken
          apply holds.slot rfl
          intro other of
          exact holds.slots number other (by rw [running]; exact of)
      | advance number drawn =>
          obtain ⟨call, rest, writes, running, outcome⟩ := System.advance_cases taken
          have known (other : Call) (of : call = other) : came number other :=
            holds.slots number other (by rw [running]; exact of)
          rcases outcome with ⟨value, _, rfl⟩ | ⟨error, _, rfl⟩ | ⟨later, more, _, _, slots⟩
          · exact holds.slot rfl known
          · exact holds.slot rfl known
          · exact holds.slot slots known
  · exact holds

theorem settled_call {phase : Phase}
    {slot : Slot (TableKey Key) (TableRow Row) TxError (OrderResponse × Nat) Call}
    (going : settled call slot = some phase) : phase.call = some call := by
  unfold settled at going
  split at going <;> cases going <;> rfl

theorem lost_call {phase : Phase}
    {slot : Slot (TableKey Key) (TableRow Row) TxError (OrderResponse × Nat) Call}
    (going : lost call slot = some phase) : phase.call = some call := by
  unfold lost at going
  split at going <;> cases going
  rfl

theorem Service.From.set (holds : service.From came) {response : OrderResponse} {statusCode : Nat}
    (caching : service.phases number = .caching call response statusCode) :
    (service.set number call response statusCode).From came := by
  have stored (redis : List (String × Cached)) : Service.From came { service with redis } :=
    ⟨holds.phases, holds.slots⟩
  unfold Service.set Service.answer
  apply (stored _).keeps
  · exact congrArg Phase.call caching
  · rfl

theorem Service.From.step (holds : service.From came) (redisOn : Bool) (event : Event)
    (comes : ∀ number call, event = .execute number call → came number call) :
    (service.step config uuid redisOn event).From came := by
  have moves := service.step_moves config uuid redisOn event
  generalize service.step config uuid redisOn event = next at moves ⊢
  cases moves with
  | stays => exact holds
  | statement number drawn => exact holds.database (by simp)
  | abort number => exact holds.database (by simp)
  | execute number call idle =>
      apply holds.put
      rintro _ ⟨⟩
      exact comes number call rfl
  | hit number _ call cached fetching => exact holds.keeps (congrArg Phase.call fetching) rfl
  | miss number call fetching => exact holds.keeps (congrArg Phase.call fetching) rfl
  | replay number call row awaits =>
      rcases awaits with looking | ⟨error, recovering⟩
      · exact holds.keeps (congrArg Phase.call looking) rfl
      · exact holds.keeps (congrArg Phase.call recovering) rfl
  | start number call looking =>
      have known := holds.phases number call (congrArg Phase.call looking)
      have started : (service.database config uuid (.start number call)).From came :=
        holds.database (by rintro _ _ ⟨⟩; exact known)
      apply started.put
      rintro _ ⟨⟩
      exact known
  | goOn number call phase transacting going =>
      apply holds.keeps (congrArg Phase.call transacting)
      rcases going with settles | loses
      · exact settled_call settles
      · exact lost_call loses
  | set number call response statusCode caching => exact holds.set caching
  | fail number call error recovering => exact holds.keeps (congrArg Phase.call recovering) rfl
  | crash number call awaits =>
      rcases awaits with transacting | ⟨response, statusCode, caching⟩ | ⟨error, recovering⟩
      · exact holds.keeps (congrArg Phase.call transacting) rfl
      · exact holds.keeps (congrArg Phase.call caching) rfl
      · exact holds.keeps (congrArg Phase.call recovering) rfl

theorem Service.From.initial (rows : OrderDb) : (Service.initial rows).From came where
  phases number call held := by cases held
  slots number call held := held.elim

theorem Service.From.weaken {more : Nat → Call → Prop} (holds : service.From came)
    (grown : ∀ number call, came number call → more number call) : service.From more where
  phases number call held := grown _ _ (holds.phases number call held)
  slots number call held := grown _ _ (holds.slots number call held)

end From

section Late

variable {config : Config} {uuid : ToUuid} {promised : Call → OrderResponse × Nat → Prop}
variable {first : OrderDb} {service : Service} {worker number : Nat} {work : Call}
variable {value : OrderResponse × Nat}

/-- What a call under a used key comes to when it has another body. -/
def TurnedAway : Phase → Prop
  | .idle | .fetching _ | .looking _ => True
  | .answered _ answer => answer = .unprocessable
  | .transacting _ | .caching _ _ _ | .recovering _ _ | .crashed _ => False

/-- A call with the key of the work and another body. -/
structure Misuses (uuid : ToUuid) (work call : Call) : Prop where
  key : uuid work.key = uuid call.key
  hash : work.requestHash ≠ call.requestHash

/-- The work is done when the call looks for it. -/
structure Late (uuid : ToUuid) (work : Call) (number : Nat) (service : Service) : Prop where
  turnedAway : TurnedAway (service.phases number)
  misuses : ∀ call, (service.phases number).call = some call → Misuses uuid work call

theorem replayCached_misuse {call : Call} (misuses : Misuses uuid work call) :
    replayCached (cachedEntry work value).2 call.requestHash = .unprocessable := by
  simp [replayCached, cachedEntry, assertSameBody, misuses.hash]

theorem Late.put (late : Late uuid work number service) {other : Nat} {phase : Phase}
    (own : other = number → TurnedAway phase)
    (calls : other = number → ∀ call, phase.call = some call → Misuses uuid work call) :
    Late uuid work number (service.put other phase) := by
  by_cases same : number = other
  · subst same
    exact ⟨by simpa [Service.put] using own rfl, by simpa [Service.put] using calls rfl⟩
  · exact ⟨by simpa [Service.put, same] using late.turnedAway,
      by simpa [Service.put, same] using late.misuses⟩

theorem Late.keeps (late : Late uuid work number service) {other : Nat} {phase : Phase} {call : Call}
    (awaited : (service.phases other).call = some call) (same : phase.call = some call)
    (own : other = number → Misuses uuid work call → TurnedAway phase) :
    Late uuid work number (service.put other phase) := by
  have misuses (mine : other = number) : Misuses uuid work call :=
    late.misuses call (mine ▸ awaited)
  apply late.put
  · exact fun mine => own mine (misuses mine)
  · intro mine held of
    rw [same, Option.some.injEq] at of
    exact of ▸ misuses mine

/-- A call that is turned away is at none of these awaits. -/
theorem Late.elsewhere (late : Late uuid work number service) {other : Nat} {call : Call}
    {phase : Phase} (awaited : (service.phases other).call = some call) (same : phase.call = some call)
    (past : ¬ TurnedAway (service.phases other)) : Late uuid work number (service.put other phase) :=
  late.keeps awaited same fun mine _ => absurd (mine ▸ late.turnedAway) past

theorem Late.system (late : Late uuid work number service) (system : CallSystem)
    (redis : List (String × Cached)) : Late uuid work number { service with system, redis } :=
  ⟨late.turnedAway, late.misuses⟩

theorem Late.database (late : Late uuid work number service) (label : Label Call) :
    Late uuid work number (service.database config uuid label) := by
  unfold Service.database
  split
  · exact late.system _ _
  · exact late

theorem Late.get (late : Late uuid work number service)
    (consistent : Consistent config uuid promised first service)
    (worked : Worked service.system worker work value) {other : Nat} {call : Call} {cached : Cached}
    {redisOn : Bool} {hit : Option Nat} (fetching : service.phases other = .fetching call)
    (found : service.cached redisOn call hit = some cached) :
    Late uuid work number (service.answer other call (replayCached cached call.requestHash)) := by
  obtain ⟨entry, job, result, theirs, sameKey, rfl⟩ := consistent.cached found
  apply late.keeps (congrArg Phase.call fetching) rfl
  intro _ misuses
  -- What Redis has kept under the key is the work that is done there.
  have same := consistent.accounted.once entry worker job work result value theirs worked
    (by rw [sameKey, misuses.key])
  subst same
  cases theirs.symm.trans worked
  exact replayCached_misuse misuses

theorem Late.replay (late : Late uuid work number service)
    (consistent : Consistent config uuid promised first service)
    (worked : Worked service.system worker work value) {other : Nat} {call : Call}
    {row : IdempotencyKey} (awaited : (service.phases other).call = some call)
    (found : service.row uuid call = some row) :
    Late uuid work number (service.answer other call (handleExisting row call.requestHash)) := by
  apply late.keeps awaited rfl
  intro _ misuses
  rw [Service.row, ← misuses.key, (consistent.accounted.worked worker work value worked).1] at found
  cases found
  exact replayCached_misuse misuses

theorem Late.start (late : Late uuid work number service)
    (consistent : Consistent config uuid promised first service)
    (worked : Worked service.system worker work value) {other : Nat} {call : Call}
    (looking : service.phases other = .looking call) (missing : service.row uuid call = none) :
    Late uuid work number
      ((service.database config uuid (.start other call)).put other (.transacting call)) := by
  -- A call that misuses the key finds the row of the work.
  have different : other ≠ number := by
    rintro rfl
    have misuses := late.misuses call (congrArg Phase.call looking)
    rw [Service.row, ← misuses.key, (consistent.accounted.worked worker work value worked).1]
      at missing
    cases missing
  exact (late.database _).put (fun same => absurd same different) fun same => absurd same different

theorem Late.step (late : Late uuid work number service)
    (consistent : Consistent config uuid promised first service)
    (worked : Worked service.system worker work value) (redisOn : Bool) (event : Event)
    (comes : ∀ call, event = .execute number call → Misuses uuid work call) :
    Late uuid work number (service.step config uuid redisOn event) := by
  have moves := service.step_moves config uuid redisOn event
  generalize service.step config uuid redisOn event = next at moves ⊢
  cases moves with
  | stays => exact late
  | statement other drawn => exact late.database _
  | abort other => exact late.database _
  | execute other call idle =>
      apply late.put
      · exact fun _ => trivial
      · rintro rfl _ ⟨⟩
        exact comes call rfl
  | hit other _ call cached fetching found => exact late.get consistent worked fetching found
  | miss other call fetching =>
      exact late.keeps (congrArg Phase.call fetching) rfl fun _ _ => trivial
  | replay other call row awaits found =>
      rcases awaits with looking | ⟨error, recovering⟩
      · exact late.replay consistent worked (congrArg Phase.call looking) found
      · exact late.replay consistent worked (congrArg Phase.call recovering) found
  | start other call looking missing => exact late.start consistent worked looking missing
  | goOn other call phase transacting going =>
      apply late.elsewhere (congrArg Phase.call transacting) _ (by simp [transacting, TurnedAway])
      rcases going with settles | loses
      · exact settled_call settles
      · exact lost_call loses
  | set other call response statusCode caching =>
      exact (late.system _ _).elsewhere (congrArg Phase.call caching) rfl
        (by simp [caching, TurnedAway])
  | fail other call error recovering =>
      exact late.elsewhere (congrArg Phase.call recovering) rfl (by simp [recovering, TurnedAway])
  | crash other call awaits =>
      rcases awaits with transacting | ⟨response, statusCode, caching⟩ | ⟨error, recovering⟩
      · exact late.elsewhere (congrArg Phase.call transacting) rfl
          (by simp [transacting, TurnedAway])
      · exact late.elsewhere (congrArg Phase.call caching) rfl (by simp [caching, TurnedAway])
      · exact late.elsewhere (congrArg Phase.call recovering) rfl (by simp [recovering, TurnedAway])

theorem Service.database_worked {label : Label Call}
    (worked : Worked service.system worker work value)
    (goes : ∀ next, service.system.step (Call.body config uuid) label = some next →
      Worked next worker work value) :
    Worked (service.database config uuid label).system worker work value := by
  unfold Service.database
  split
  · next next taken => exact goes next taken
  · exact worked

/-- Work that is done stays done. -/
theorem Consistent.worked_step (consistent : Consistent config uuid promised first service)
    (worked : Worked service.system worker work value) (redisOn : Bool) (event : Event) :
    Worked (service.step config uuid redisOn event).system worker work value := by
  have moves := service.step_moves config uuid redisOn event
  generalize service.step config uuid redisOn event = next at moves ⊢
  cases moves with
  | statement other drawn =>
      exact Service.database_worked worked fun next taken =>
        (consistent.accounted.advance taken).2.1.worked _ _ _ worked
  | abort other =>
      exact Service.database_worked worked fun next taken =>
        (consistent.accounted.rollback taken).2.1.worked _ _ _ worked
  | start other call looking =>
      have fits := consistent.phases other
      rw [looking] at fits
      exact Service.database_worked worked fun next taken =>
        (consistent.accounted.start fits.2 fits.1 taken).2.1.worked _ _ _ worked
  | _ => exact worked

end Late

end Ecommerce.OrderService
