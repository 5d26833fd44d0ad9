import Ecommerce.OrderService.OneAnswer

set_option autoImplicit false

/-!
# The Redis fast path

The same events, with Redis and without it, take two services through the same databases. A call
that Redis answers is one that Postgres is about to answer in the same way.
-/

namespace Ecommerce.OrderService

open Transaction

variable {config : Config} {uuid : ToUuid} {first : OrderDb} {cached : Service}
variable {phases : Nat → Phase} {number : Nat}

/-- Redis has answered the call, and without Redis its lookup finds the row that gives the same
answer. -/
structure Ahead (uuid : ToUuid) (cached : Service) (call : Call) (answer : Answer)
    (one two : Phase) : Prop where
  answered : one = .answered call answer
  looking : two = .looking call
  row : ∃ row, cached.row uuid call = some row ∧ handleExisting row call.requestHash = answer

/-- What the calls await without Redis. -/
def Mirrors (uuid : ToUuid) (cached : Service) (phases : Nat → Phase) : Prop :=
  ∀ number, phases number = cached.phases number ∨
    ∃ call answer, Ahead uuid cached call answer (cached.phases number) (phases number)

theorem Mirrors.update (mirrors : Mirrors uuid cached phases) {one two : Phase}
    (related : two = one ∨ ∃ call answer, Ahead uuid cached call answer one two) :
    Mirrors uuid (cached.put number one) (Function.update phases number two) := by
  intro other
  by_cases same : other = number
  · subst same
    rcases related with equal | ⟨call, answer, ahead⟩
    · simp [Service.put, equal]
    · refine .inr ⟨call, answer, ?_, ?_, ahead.row⟩
      · simpa [Service.put] using ahead.answered
      · simpa using ahead.looking
  · rcases mirrors other with equal | ⟨call, answer, ahead⟩
    · exact .inl (by simpa [Service.put, same] using equal)
    · refine .inr ⟨call, answer, ?_, ?_, ahead.row⟩
      · simpa [Service.put, same] using ahead.answered
      · simpa [same] using ahead.looking

/-- The rows that the calls ahead have found stay. -/
theorem Mirrors.moved {next : CallSystem} (mirrors : Mirrors uuid cached phases)
    (kept : KeysKept cached.system.rows next.rows) :
    Mirrors uuid { cached with system := next } phases := by
  intro other
  rcases mirrors other with equal | ⟨call, answer, ahead⟩
  · exact .inl equal
  · obtain ⟨row, found, same⟩ := ahead.row
    exact .inr ⟨call, answer, ahead.answered, ahead.looking, row, kept _ row found, same⟩

/-- The service without Redis steps to what its calls await without Redis. -/
def Follows (config : Config) (uuid : ToUuid) (cached : Service) (phases : Nat → Phase)
    (event : Event) : Prop :=
  ∃ later, ({ cached with phases } : Service).step config uuid false event =
      { cached.step config uuid true event with phases := later } ∧
    Mirrors uuid (cached.step config uuid true event) later

theorem Mirrors.database (mirrors : Mirrors uuid cached phases)
    (consistent : Consistent config uuid (fun _ _ => True) first cached) (label : Label Call) :
    ({ cached with phases } : Service).database config uuid label =
        { cached.database config uuid label with phases } ∧
      Mirrors uuid (cached.database config uuid label) phases := by
  unfold Service.database
  cases taken : cached.system.step (Call.body config uuid) label with
  | none => exact ⟨by simp, mirrors⟩
  | some next =>
      have kept := consistent.accounted.sound.step_related (executeDiscipline config uuid _) label
        (fun _ call _ => call.promises_nothing) taken
      exact ⟨by simp, mirrors.moved kept⟩

section Follow

variable {event : Event}

theorem Mirrors.waits (mirrors : Mirrors uuid cached phases)
    (one : cached.step config uuid true event = cached)
    (two : ({ cached with phases } : Service).step config uuid false event = { cached with phases }) :
    Follows config uuid cached phases event := by
  refine ⟨phases, ?_, ?_⟩
  · rw [one, two]
  · rw [one]
    exact mirrors

theorem Mirrors.goes (mirrors : Mirrors uuid cached phases) (number : Nat) (phase : Phase)
    (one : cached.step config uuid true event = cached.put number phase)
    (two : ({ cached with phases } : Service).step config uuid false event =
      ({ cached with phases } : Service).put number phase) :
    Follows config uuid cached phases event := by
  refine ⟨Function.update phases number phase, ?_, ?_⟩
  · rw [one, two]
    rfl
  · rw [one]
    exact mirrors.update (.inl rfl)

theorem Mirrors.goesOn (mirrors : Mirrors uuid cached phases) (number : Nat) (going : Option Phase)
    (one : cached.step config uuid true event = cached.goOn number going)
    (two : ({ cached with phases } : Service).step config uuid false event =
      ({ cached with phases } : Service).goOn number going) :
    Follows config uuid cached phases event := by
  cases going with
  | none => exact mirrors.waits one two
  | some phase => exact mirrors.goes number phase one two

/-- What Redis holds does not matter to the calls that it has answered. -/
theorem Mirrors.stored (mirrors : Mirrors uuid cached phases) (redis : List (String × Cached)) :
    Mirrors uuid { cached with redis } phases := by
  intro other
  rcases mirrors other with equal | ⟨call, answer, ahead⟩
  · exact .inl equal
  · exact .inr ⟨call, answer, ahead.answered, ahead.looking, ahead.row⟩

theorem Mirrors.get (mirrors : Mirrors uuid cached phases)
    (consistent : Consistent config uuid (fun _ _ => True) first cached) {call : Call}
    (awaited : cached.phases number = .fetching call) (same : phases number = .fetching call)
    (hit : Option Nat) : Follows config uuid cached phases (.get number hit) := by
  have plain : ({ cached with phases } : Service).step config uuid false (.get number hit) =
      ({ cached with phases } : Service).put number (.looking call) := by
    simp [Service.step, same, Service.cached]
  cases found : cached.cached true call hit with
  | none => exact mirrors.goes number _ (by simp [Service.step, awaited, found]) plain
  | some entry =>
      obtain ⟨worker, work, value, worked, sameKey, rfl⟩ := consistent.cached found
      have present := (consistent.accounted.worked worker work value worked).1
      refine ⟨Function.update phases number (.looking call), ?_, ?_⟩
      · rw [plain]
        simp only [Service.step, awaited, found]
        rfl
      · simp only [Service.step, awaited, found]
        rw [sameKey] at present
        exact mirrors.update (.inr ⟨call, _, rfl, rfl, _, present, rfl⟩)

theorem Mirrors.find (mirrors : Mirrors uuid cached phases)
    (consistent : Consistent config uuid (fun _ _ => True) first cached) {call : Call}
    (awaited : cached.phases number = .looking call) (same : phases number = .looking call) :
    Follows config uuid cached phases (.find number) := by
  cases found : cached.row uuid call with
  | some row =>
      have plain : ({ cached with phases } : Service).row uuid call = some row := found
      apply mirrors.goes number (.answered call (handleExisting row call.requestHash))
      · simp [Service.step, awaited, Service.handleRow, found, Service.answer]
      · simp [Service.step, same, Service.handleRow, plain, Service.answer]
  | none =>
      have plain : ({ cached with phases } : Service).row uuid call = none := found
      obtain ⟨database, moved⟩ := mirrors.database consistent (.start number call)
      refine ⟨Function.update phases number (.transacting call), ?_, ?_⟩
      · simp only [Service.step, awaited, same, Service.handleRow, found, plain, database]
        rfl
      · simp only [Service.step, awaited, Service.handleRow, found]
        exact moved.update (.inl rfl)

/-- The lookup that Redis has spared a call finds what Redis has answered. -/
theorem Mirrors.caughtUp (mirrors : Mirrors uuid cached phases) {call : Call} {answer : Answer}
    (ahead : Ahead uuid cached call answer (cached.phases number) (phases number)) :
    Follows config uuid cached phases (.find number) := by
  obtain ⟨row, found, rfl⟩ := ahead.row
  have plain : ({ cached with phases } : Service).row uuid call = some row := found
  apply mirrors.goes number (.answered call (handleExisting row call.requestHash))
  · simp only [Service.step, ahead.answered]
    rw [← ahead.answered, Service.put_phase]
  · simp [Service.step, ahead.looking, Service.handleRow, plain, Service.answer]

theorem Mirrors.recover (mirrors : Mirrors uuid cached phases) {call : Call} {error : TxError}
    (awaited : cached.phases number = .recovering call error)
    (same : phases number = .recovering call error) :
    Follows config uuid cached phases (.recover number) := by
  cases found : cached.row uuid call with
  | some row =>
      have plain : ({ cached with phases } : Service).row uuid call = some row := found
      apply mirrors.goes number (.answered call (handleExisting row call.requestHash))
      · simp [Service.step, awaited, Service.handleRow, found, Service.answer]
      · simp [Service.step, same, Service.handleRow, plain, Service.answer]
  | none =>
      have plain : ({ cached with phases } : Service).row uuid call = none := found
      apply mirrors.goes number (.answered call (.failed (some error)))
      · simp [Service.step, awaited, Service.handleRow, found, Service.answer]
      · simp [Service.step, same, Service.handleRow, plain, Service.answer]

end Follow

theorem Mirrors.follows (mirrors : Mirrors uuid cached phases)
    (consistent : Consistent config uuid (fun _ _ => True) first cached) (event : Event) :
    Follows config uuid cached phases event := by
  cases event with
  | statement number drawn => exact ⟨phases, mirrors.database consistent _⟩
  | abort number => exact ⟨phases, mirrors.database consistent _⟩
  | execute number call =>
      rcases mirrors number with same | ⟨_, _, ahead⟩
      · cases awaited : cached.phases number with
        | idle =>
            rw [awaited] at same
            apply mirrors.goes number (.fetching call) <;>
              simp [Service.step, awaited, same]
        | _ =>
            rw [awaited] at same
            apply mirrors.waits <;> simp [Service.step, awaited, same]
      · apply mirrors.waits <;> simp [Service.step, ahead.answered, ahead.looking]
  | get number hit =>
      rcases mirrors number with same | ⟨_, _, ahead⟩
      · cases awaited : cached.phases number with
        | fetching call =>
            rw [awaited] at same
            exact mirrors.get consistent awaited same hit
        | _ =>
            rw [awaited] at same
            apply mirrors.waits <;> simp [Service.step, awaited, same]
      · apply mirrors.waits <;> simp [Service.step, ahead.answered, ahead.looking]
  | find number =>
      rcases mirrors number with same | ⟨_, _, ahead⟩
      · cases awaited : cached.phases number with
        | looking call =>
            rw [awaited] at same
            exact mirrors.find consistent awaited same
        | _ =>
            rw [awaited] at same
            apply mirrors.waits <;> simp [Service.step, awaited, same]
      · exact mirrors.caughtUp ahead
  | settle number =>
      rcases mirrors number with same | ⟨_, _, ahead⟩
      · cases awaited : cached.phases number with
        | transacting call =>
            rw [awaited] at same
            exact mirrors.goesOn number (settled call (cached.system.slots number))
              (by simp [Service.step, awaited]) (by simp [Service.step, same])
        | _ =>
            rw [awaited] at same
            apply mirrors.waits <;> simp [Service.step, awaited, same]
      · apply mirrors.waits <;> simp [Service.step, ahead.answered, ahead.looking]
  | lose number =>
      rcases mirrors number with same | ⟨_, _, ahead⟩
      · cases awaited : cached.phases number with
        | transacting call =>
            rw [awaited] at same
            exact mirrors.goesOn number (lost call (cached.system.slots number))
              (by simp [Service.step, awaited]) (by simp [Service.step, same])
        | _ =>
            rw [awaited] at same
            apply mirrors.waits <;> simp [Service.step, awaited, same]
      · apply mirrors.waits <;> simp [Service.step, ahead.answered, ahead.looking]
  | set number =>
      rcases mirrors number with same | ⟨_, _, ahead⟩
      · cases awaited : cached.phases number with
        | caching call response statusCode =>
            rw [awaited] at same
            refine ⟨_, by simp only [Service.step, same, awaited]; rfl, ?_⟩
            simp only [Service.step, awaited, Service.set]
            exact (mirrors.stored _).update (.inl rfl)
        | _ =>
            rw [awaited] at same
            apply mirrors.waits <;> simp [Service.step, awaited, same]
      · apply mirrors.waits <;> simp [Service.step, ahead.answered, ahead.looking]
  | recover number =>
      rcases mirrors number with same | ⟨_, _, ahead⟩
      · cases awaited : cached.phases number with
        | recovering call error =>
            rw [awaited] at same
            exact mirrors.recover awaited same
        | _ =>
            rw [awaited] at same
            apply mirrors.waits <;> simp [Service.step, awaited, same]
      · apply mirrors.waits <;> simp [Service.step, ahead.answered, ahead.looking]
  | crash number =>
      rcases mirrors number with same | ⟨_, _, ahead⟩
      · cases awaited : cached.phases number with
        | transacting call | caching call _ _ | recovering call _ =>
            rw [awaited] at same
            apply mirrors.goes number (.crashed call) <;>
              simp [Service.step, awaited, same]
        | _ =>
            rw [awaited] at same
            apply mirrors.waits <;> simp [Service.step, awaited, same]
      · apply mirrors.waits <;> simp [Service.step, ahead.answered, ahead.looking]

theorem Mirrors.run (mirrors : Mirrors uuid cached phases)
    (consistent : Consistent config uuid (fun _ _ => True) first cached) (events : List Event) :
    ∃ later, ({ cached with phases } : Service).run config uuid false events =
        { cached.run config uuid true events with phases := later } ∧
      Mirrors uuid (cached.run config uuid true events) later := by
  induction events generalizing cached phases with
  | nil => exact ⟨phases, rfl, mirrors⟩
  | cons event rest ih =>
      obtain ⟨later, stepped, mirrored⟩ := mirrors.follows consistent event
      have kept := consistent.step true event fun _ call _ => call.promises_nothing
      obtain ⟨last, ran, same⟩ := ih mirrored kept
      refine ⟨last, ?_, same⟩
      have first : ({ cached with phases } : Service).run config uuid false (event :: rest) =
        (({ cached with phases } : Service).step config uuid false event).run config uuid false
          rest := rfl
      rw [first, stepped]
      exact ran

/-- Redis never changes an answer: what a call answers without Redis it answers with Redis, and what
Redis has answered early is what the lookup gives. -/
theorem fast_path_changes_no_answer (config : Config) (uuid : ToUuid) (first : OrderDb)
    (empty : ∀ key, first (idempotencyKey key) = none) (events : List Event)
    (cached plain : Service)
    (withRedis : (Service.initial first).run config uuid true events = cached)
    (withoutRedis : (Service.initial first).run config uuid false events = plain) :
    (∀ number call answer, plain.phases number = .answered call answer →
        cached.phases number = .answered call answer) ∧
      (∀ number call answer, cached.phases number = .answered call answer →
        plain.phases number = .answered call answer ∨
          plain.phases number = .looking call ∧
            (plain.step config uuid false (.find number)).phases number = .answered call answer) ∧
      ((∀ number call, plain.phases number ≠ .looking call) → plain.phases = cached.phases) ∧
      plain.system = cached.system := by
  have start : Mirrors uuid (.initial first) (Service.initial first).phases := fun _ => .inl rfl
  have consistent : Consistent config uuid (fun _ _ => True) first (.initial first) := .initial empty
  obtain ⟨phases, ran, mirrors⟩ := start.run consistent events
  have same : plain = { cached with phases } := by
    rw [← withoutRedis, ← withRedis]
    exact ran
  rw [withRedis] at mirrors
  subst same
  refine ⟨?_, ?_, ?_, rfl⟩
  · intro number call answer answered
    rcases mirrors number with equal | ⟨_, _, ahead⟩
    · rw [← equal]
      exact answered
    · cases ahead.looking.symm.trans answered
  · intro number call answer answered
    rcases mirrors number with equal | ⟨other, early, ahead⟩
    · exact .inl (equal.trans answered)
    · cases ahead.answered.symm.trans answered
      obtain ⟨row, found, rfl⟩ := ahead.row
      have plain : ({ cached with phases } : Service).row uuid call = some row := found
      refine .inr ⟨ahead.looking, ?_⟩
      simp [Service.step, ahead.looking, Service.handleRow, plain, Service.answer, Service.put]
  · intro finished
    funext number
    rcases mirrors number with equal | ⟨call, _, ahead⟩
    · exact equal
    · exact absurd ahead.looking (finished number call)

section Sample

def sampleRetry (redisOn : Bool) : Service :=
  -- Redis answers the third call of the burst; without Redis it looks its key up.
  (Service.initial fun _ => none).run sampleConfig sampleUuid redisOn (sampleBurst ++ [.find 2])

theorem fast_path_changes_no_answer_burst :
    sampleAnswers (sampleRetry false) = sampleAnswers (sampleRetry true) ∧
      ∀ number call answer, (sampleRetry false).phases number = .answered call answer →
        (sampleRetry true).phases number = .answered call answer := by
  have ran (redisOn : Bool) : (Service.initial fun _ => none).run sampleConfig sampleUuid redisOn
      (sampleBurst ++ [.find 2]) = sampleRetry redisOn := by rw [sampleRetry]
  have empty : ∀ key, (fun _ => none : OrderDb) (idempotencyKey key) = none := fun _ => rfl
  have same := fast_path_changes_no_answer sampleConfig sampleUuid _ empty _ _ _ (ran true) (ran false)
  exact ⟨by decide +kernel, same.1⟩

end Sample

end Ecommerce.OrderService
