import Ecommerce.ApiGateway.WindowBound

set_option autoImplicit false

/-!
# Whom the rate limit turns away

The connection to Redis can be down for some requests and not for others. A caller is turned away
only for requests of its own that Redis has counted, and what the headers promise is kept.
-/

namespace Ecommerce.ApiGateway

/-- Whether a request has been counted, whatever the gateway knows of it. -/
def Connection.counts : Connection → Bool
  | .healthy => true
  | .unhealthy => false
  | .failing executed => executed

structure Attempt where
  request : GuardedRequest
  connection : Connection

abbrev Attempt.identity (attempt : Attempt) : String := attempt.request.caller.identity

abbrev Attempt.time (attempt : Attempt) : Timestamp := attempt.request.time

def Attempt.countsFor (identity : String) (attempt : Attempt) : Bool :=
  attempt.connection.counts && attempt.identity = identity

/-- The guards of all gateways, and the Redis that they share. -/
structure Guards where
  keys : Keys
  clock : Timestamp

namespace Guards

def initial : Guards := { keys := fun _ => none, clock := 0 }

def serve (config : RateLimit) (expiry : Expiry) (guards : Guards) (attempt : Attempt) :
    Keys × Activation :=
  canActivate config expiry attempt.connection guards.keys attempt.time attempt.request.caller

def step (config : RateLimit) (expiry : Expiry) (guards : Guards) (attempt : Attempt) :
    Option Guards :=
  if guards.clock ≤ attempt.time then
    some { keys := (guards.serve config expiry attempt).1, clock := attempt.time }
  else none

end Guards

section Counting

variable {config : RateLimit} {expiry : Expiry} {guards next last : Guards} {attempt : Attempt}
variable {identity : String} {earlier : List Attempt}

theorem serve_uncounted (uncounted : attempt.connection.counts = false) :
    (guards.serve config expiry attempt).1 = guards.keys := by
  unfold Guards.serve canActivate
  cases connection : attempt.connection with
  | healthy => simp [connection, Connection.counts] at uncounted
  | unhealthy => rfl
  | failing executed =>
      rw [connection, Connection.counts] at uncounted
      simp [uncounted]

theorem serve_counted (counted : attempt.connection.counts = true) :
    (guards.serve config expiry attempt).1 =
      Function.update guards.keys (counterKey attempt.identity)
        (expireNX attempt.time config.windowSeconds
          (incr (guards.keys.get expiry attempt.time (counterKey attempt.identity)))) := by
  unfold Guards.serve canActivate
  cases connection : attempt.connection with
  | healthy => rfl
  | unhealthy => simp [connection, Connection.counts] at counted
  | failing executed =>
      rw [connection, Connection.counts] at counted
      simp [counted, incrementWindow]

/-- What one request does to the counter of a caller. -/
inductive Touches (config : RateLimit) (guards : Guards) (attempt : Attempt) (identity : String) :
    Option Counter → Prop
  | other (apart : attempt.countsFor identity = false) :
      Touches config guards attempt identity (guards.keys (counterKey identity))
  | counted (own : attempt.countsFor identity = true) (counter : Counter) (deadline : Timestamp)
      (stored : guards.keys (counterKey identity) = some counter)
      (ending : counter.deadline = some deadline) (alive : attempt.time ≤ deadline) :
      Touches config guards attempt identity
        (some { value := counter.value + 1, deadline := some deadline })
  | opened (own : attempt.countsFor identity = true) : Touches config guards attempt identity
      (some { value := 1, deadline := some (attempt.time + config.window) })
  | vanished : Touches config guards attempt identity none

theorem serve_touches (config : RateLimit) (expiry : Expiry) (attempt : Attempt)
    (lasting : ∀ counter, guards.keys (counterKey identity) = some counter → counter.deadline ≠ none) :
    Touches config guards attempt identity
      ((guards.serve config expiry attempt).1 (counterKey identity)) := by
  cases counted : attempt.connection.counts with
  | false =>
      rw [serve_uncounted counted]
      exact .other (by simp [Attempt.countsFor, counted])
  | true =>
      rw [serve_counted counted]
      by_cases same : attempt.identity = identity
      · subst same
        have own : attempt.countsFor attempt.identity = true := by
          simp [Attempt.countsFor, counted]
        rw [Function.update_self]
        cases found : guards.keys.get expiry attempt.time (counterKey attempt.identity) with
        | none =>
            by_cases zero : config.windowSeconds = 0
            · simpa [incr, expireNX, zero] using Touches.vanished
            · simpa [incr, expireNX, zero] using Touches.opened own
        | some counter =>
            obtain ⟨stored, alive⟩ := Keys.get_some found
            obtain ⟨deadline, ending⟩ := Option.ne_none_iff_exists'.mp (lasting counter stored)
            have hit : expireNX attempt.time config.windowSeconds (incr (some counter)) =
                some { value := counter.value + 1, deadline := some deadline } := by
              simp [incr, expireNX, ending]
            rw [hit]
            exact .counted own counter deadline stored ending (alive deadline ending)
      · rw [Function.update_of_ne fun key => same (counterKey_injective key).symm]
        exact .other (by simp [Attempt.countsFor, same])

/-- The requests of the caller that count in a window with this end. -/
def Attempt.within (window : Nat) (identity : String) (deadline : Timestamp) (attempt : Attempt) :
    Bool :=
  attempt.countsFor identity && deadline ≤ attempt.time + window

/-- A counter has only counted requests of its window. -/
def Guards.Counted (config : RateLimit) (identity : String) (earlier : List Attempt)
    (guards : Guards) : Prop :=
  ∀ counter, guards.keys (counterKey identity) = some counter → ∃ deadline,
    counter.deadline = some deadline ∧ deadline ≤ guards.clock + config.window ∧
      counter.value ≤ earlier.countP (Attempt.within config.window identity deadline)

theorem Guards.Counted.lasting (counted : guards.Counted config identity earlier) (counter : Counter)
    (stored : guards.keys (counterKey identity) = some counter) : counter.deadline ≠ none := by
  obtain ⟨deadline, ending, -⟩ := counted counter stored
  simp [ending]

theorem Guards.step_serves (taken : guards.step config expiry attempt = some next) :
    guards.clock ≤ attempt.time ∧
      next = { keys := (guards.serve config expiry attempt).1, clock := attempt.time } := by
  unfold Guards.step at taken
  split at taken
  · next later =>
      cases taken
      exact ⟨later, rfl⟩
  · cases taken

theorem Guards.Counted.step (counted : guards.Counted config identity earlier)
    (taken : guards.step config expiry attempt = some next) :
    next.Counted config identity (earlier ++ [attempt]) := by
  obtain ⟨later, rfl⟩ := Guards.step_serves taken
  have touched := serve_touches config expiry attempt counted.lasting
  intro counter stored
  dsimp only at stored ⊢
  rw [stored] at touched
  simp only [List.countP_append, List.countP_singleton]
  generalize same : some counter = left at touched
  cases touched with
  | other apart =>
      obtain ⟨deadline, ending, bounded, value⟩ := counted counter same.symm
      have onward := Nat.le_trans bounded (Nat.add_le_add_right later config.window)
      exact ⟨deadline, ending, onward, Nat.le_add_right_of_le value⟩
  | counted own before deadline present ending alive =>
      cases same
      obtain ⟨other, sameEnding, bounded, value⟩ := counted before present
      cases ending.symm.trans sameEnding
      have onward := Nat.le_trans bounded (Nat.add_le_add_right later config.window)
      have within : attempt.within config.window identity deadline = true := by
        simp only [Attempt.within, own, Bool.true_and, decide_eq_true_eq]
        exact onward
      refine ⟨deadline, rfl, onward, ?_⟩
      rw [within, if_pos rfl]
      exact Nat.add_le_add_right value 1
  | opened own =>
      cases same
      have within : attempt.within config.window identity (attempt.time + config.window) = true := by
        simp [Attempt.within, own]
      exact ⟨_, rfl, Nat.le_refl _, by rw [within, if_pos rfl]; exact Nat.le_add_left 1 _⟩
  | vanished => cases same

theorem Guards.Counted.run {attempts : List Attempt}
    (counted : guards.Counted config identity earlier)
    (ran : Machine.run (Guards.step config expiry) guards attempts = some last) :
    last.Counted config identity (earlier ++ attempts) := by
  induction attempts generalizing guards earlier with
  | nil =>
      rw [← Machine.run_nil ran, List.append_nil]
      exact counted
  | cons attempt rest ih =>
      obtain ⟨next, taken, ran⟩ := Machine.run_cons ran
      have onward := ih (counted.step taken) ran
      rwa [List.append_assoc, List.singleton_append] at onward

theorem Guards.Counted.initial (config : RateLimit) (identity : String) :
    Guards.initial.Counted config identity [] := by
  intro counter stored
  cases stored

/-- A request is turned away by a hit above the limit, and only when Redis has answered. -/
theorem serve_rejected {headers : RateLimitHeaders} {exception : HttpException}
    (rejected : (guards.serve config expiry attempt).2 = .rejected headers exception) :
    attempt.connection = .healthy ∧ config.max < (incr
      (guards.keys.get expiry attempt.time (counterKey attempt.identity))).value := by
  unfold Guards.serve canActivate at rejected
  cases connection : attempt.connection with
  | healthy =>
      rw [connection] at rejected
      refine ⟨rfl, ?_⟩
      simp only [RateLimit.check] at rejected
      split at rejected
      · assumption
      · cases rejected
  | unhealthy => simp [connection] at rejected
  | failing => simp [connection] at rejected

/-- A promise: this many more requests of the caller are within its limit. -/
def Guards.Promises (config : RateLimit) (identity : String) (remaining : Nat) (guards : Guards) :
    Prop :=
  ∀ counter, guards.keys (counterKey identity) = some counter →
    counter.deadline ≠ none ∧ counter.value + remaining ≤ config.max

theorem Guards.Promises.step {remaining : Nat}
    (promises : guards.Promises config identity (remaining + (attempt.countsFor identity).toNat))
    (within : remaining < config.max)
    (taken : guards.step config expiry attempt = some next) :
    next.Promises config identity remaining := by
  obtain ⟨later, rfl⟩ := Guards.step_serves taken
  have touched := serve_touches config expiry attempt fun counter stored =>
    (promises counter stored).1
  intro counter stored
  dsimp only at stored
  rw [stored] at touched
  generalize same : some counter = left at touched
  cases touched with
  | other apart =>
      obtain ⟨ending, bounded⟩ := promises counter same.symm
      rw [apart] at bounded
      exact ⟨ending, bounded⟩
  | counted own before deadline present ending alive =>
      cases same
      obtain ⟨-, bounded⟩ := promises before present
      rw [own, Bool.toNat_true] at bounded
      exact ⟨by simp, by dsimp only; omega⟩
  | opened own =>
      cases same
      exact ⟨by simp, by dsimp only; omega⟩
  | vanished => cases same

theorem Guards.Promises.run {attempts : List Attempt} {remaining : Nat}
    (promises : guards.Promises config identity
      (remaining + attempts.countP (Attempt.countsFor identity)))
    (within : remaining + attempts.countP (Attempt.countsFor identity) < config.max)
    (ran : Machine.run (Guards.step config expiry) guards attempts = some last) :
    last.Promises config identity remaining := by
  induction attempts generalizing guards with
  | nil =>
      rw [← Machine.run_nil ran]
      exact promises
  | cons attempt rest ih =>
      obtain ⟨next, taken, ran⟩ := Machine.run_cons ran
      have split : (attempt :: rest).countP (Attempt.countsFor identity) =
          rest.countP (Attempt.countsFor identity) + (attempt.countsFor identity).toNat := by
        rw [List.countP_cons]
        cases attempt.countsFor identity <;> rfl
      rw [split, ← Nat.add_assoc] at promises within
      have fewer := Nat.lt_of_le_of_lt (Nat.le_add_right _ _) within
      exact ih (promises.step fewer taken) fewer ran

theorem serve_activated {headers : RateLimitHeaders}
    (activated : (guards.serve config expiry attempt).2 = .activated (some headers)) :
    attempt.connection = .healthy ∧
      (incr (guards.keys.get expiry attempt.time (counterKey attempt.identity))).value +
        headers.remaining = config.max := by
  unfold Guards.serve canActivate at activated
  cases connection : attempt.connection with
  | healthy =>
      rw [connection] at activated
      refine ⟨rfl, ?_⟩
      simp only [RateLimit.check] at activated
      split at activated
      · cases activated
      · next within =>
          cases activated
          exact Nat.add_sub_cancel' (Nat.not_lt.mp within)
  | unhealthy => simp [connection] at activated
  | failing => simp [connection] at activated

theorem incr_positive (found : Option Counter) : 1 ≤ (incr found).value := by
  cases found with
  | none => exact Nat.le_refl 1
  | some counter => exact Nat.le_add_left 1 counter.value

theorem expireNX_some {now : Timestamp} {seconds : Nat} {counter left : Counter}
    (expiring : expireNX now seconds counter = some left) :
    left.deadline ≠ none ∧ left.value = counter.value := by
  unfold expireNX at expiring
  split at expiring
  · next deadline ending =>
      cases expiring
      exact ⟨by simp [ending], rfl⟩
  · split at expiring
    · cases expiring
    · cases expiring
      exact ⟨by simp, rfl⟩

theorem Guards.Promises.made {headers : RateLimitHeaders}
    (activated : (guards.serve config expiry attempt).2 = .activated (some headers))
    (taken : guards.step config expiry attempt = some next) :
    next.Promises config attempt.identity headers.remaining := by
  obtain ⟨-, rfl⟩ := Guards.step_serves taken
  obtain ⟨connection, limit⟩ := serve_activated activated
  have counted : attempt.connection.counts = true := by rw [connection, Connection.counts]
  intro counter stored
  dsimp only at stored
  rw [serve_counted counted, Function.update_self] at stored
  obtain ⟨ending, value⟩ := expireNX_some stored
  rw [value, limit]
  exact ⟨ending, Nat.le_refl _⟩

theorem Guards.Promises.fewer {remaining fewer : Nat}
    (promises : guards.Promises config identity remaining) (less : fewer ≤ remaining) :
    guards.Promises config identity fewer := by
  intro counter stored
  obtain ⟨ending, bounded⟩ := promises counter stored
  exact ⟨ending, Nat.le_trans (Nat.add_le_add_left less _) bounded⟩

theorem Guards.Promises.kept (promises : guards.Promises config attempt.identity 1)
    (admitting : 1 ≤ config.max) :
    (guards.serve config expiry attempt).2.admitted = true := by
  cases admitted : (guards.serve config expiry attempt).2 with
  | activated headers => rfl
  | rejected headers exception =>
      obtain ⟨-, many⟩ := serve_rejected admitted
      cases found : guards.keys.get expiry attempt.time (counterKey attempt.identity) with
      | none =>
          rw [found] at many
          exact absurd many (Nat.not_lt.mpr admitting)
      | some counter =>
          rw [found] at many
          obtain ⟨-, bounded⟩ := promises counter (Keys.get_some found).1
          exact absurd many (Nat.not_lt.mpr bounded)

end Counting

/-- Whenever Redis answers and whenever not, and through whatever gateways: a caller who is turned
away has had its limit of requests counted in the length of a window, and as many requests of a
caller as its headers have said remain are not turned away. -/
theorem rate_limit_keeps_its_word (config : RateLimit) (expiry : Expiry)
    (earlier : List Attempt) (guards : Guards)
    (ran : Machine.run (Guards.step config expiry) .initial earlier = some guards)
    (attempt : Attempt) (next : Guards) (taken : guards.step config expiry attempt = some next) :
    ((guards.serve config expiry attempt).2.admitted = false →
      config.max ≤ earlier.countP fun one => one.connection.counts ∧
        one.identity = attempt.identity ∧ attempt.time ≤ one.time + config.window) ∧
      ∀ headers, (guards.serve config expiry attempt).2 = .activated (some headers) →
        ∀ (between : List Attempt) (last : Guards),
          Machine.run (Guards.step config expiry) next between = some last →
          between.countP (Attempt.countsFor attempt.identity) < headers.remaining →
          ∀ later, later.identity = attempt.identity →
            (last.serve config expiry later).2.admitted = true := by
  constructor
  · intro turned
    cases rejected : (guards.serve config expiry attempt).2 with
    | activated headers =>
        rw [rejected] at turned
        cases turned
    | rejected headers exception =>
        obtain ⟨-, many⟩ := serve_rejected rejected
        cases found : guards.keys.get expiry attempt.time (counterKey attempt.identity) with
        | none =>
            rw [found] at many
            exact Nat.le_trans (Nat.lt_succ_iff.mp many) (Nat.zero_le _)
        | some counter =>
            rw [found] at many
            obtain ⟨stored, alive⟩ := Keys.get_some found
            have counted := (Guards.Counted.initial config attempt.identity).run ran
            obtain ⟨deadline, ending, -, value⟩ := counted counter stored
            have started := alive deadline ending
            have recent : earlier.countP (Attempt.within config.window attempt.identity deadline) ≤
                earlier.countP fun one => one.connection.counts ∧
                  one.identity = attempt.identity ∧ attempt.time ≤ one.time + config.window := by
              apply List.countP_mono_left
              intro one _ within
              simp only [Attempt.within, Attempt.countsFor, Bool.and_eq_true,
                decide_eq_true_eq] at within ⊢
              exact ⟨within.1.1, within.1.2, Nat.le_trans started within.2⟩
            exact Nat.le_trans (Nat.lt_succ_iff.mp many) (Nat.le_trans value recent)
  · intro headers activated between last onward few later same
    obtain ⟨-, limit⟩ := serve_activated activated
    have positive := incr_positive
      (guards.keys.get expiry attempt.time (counterKey attempt.identity))
    have below : 1 + between.countP (Attempt.countsFor attempt.identity) < config.max := by
      omega
    have promises := (Guards.Promises.made activated taken).fewer few
    rw [Nat.succ_eq_one_add] at promises
    have kept := promises.run below onward
    rw [← same] at kept
    exact kept.kept (by omega)

section Sample

def sampleAttempt (time : Timestamp) (customerId : String) (connection : Connection) : Attempt :=
  { request := sampleRequest 0 time customerId, connection }

def sampleAttempts : List Attempt :=
  -- Redis has counted the last of these although its answer has not come.
  [sampleAttempt 0 "ada" .healthy, sampleAttempt 100 "ada" .unhealthy,
    sampleAttempt 200 "ada" (.failing true)]

theorem sampleAttempts_run :
    (Machine.run (Guards.step sampleLimit sampleExpiry) .initial sampleAttempts).isSome = true := by
  decide +kernel

def sampleGuards : Guards :=
  (Machine.run (Guards.step sampleLimit sampleExpiry) .initial sampleAttempts).get
    sampleAttempts_run

theorem sampleGuards_step :
    (sampleGuards.step sampleLimit sampleExpiry (sampleAttempt 900 "ada" .healthy)).isSome = true := by
  decide +kernel

def sampleFirst : Attempt := sampleAttempt 0 "ada" .healthy

def sampleOpened : Guards :=
  { keys := (Guards.initial.serve sampleLimit sampleExpiry sampleFirst).1, clock := 0 }

theorem sampleBetween_run :
    (Machine.run (Guards.step sampleLimit sampleExpiry) sampleOpened
      [sampleAttempt 300 "bob" .healthy, sampleAttempt 400 "ada" .unhealthy]).isSome = true := by
  decide +kernel

def sampleBusy : Guards :=
  (Machine.run (Guards.step sampleLimit sampleExpiry) sampleOpened
    [sampleAttempt 300 "bob" .healthy, sampleAttempt 400 "ada" .unhealthy]).get sampleBetween_run

theorem rate_limit_keeps_its_word_sample :
    (2 ≤ sampleAttempts.countP fun one => one.connection.counts ∧ one.identity = "ada" ∧
      900 ≤ one.time + 1000) ∧
    (sampleBusy.serve sampleLimit sampleExpiry
      (sampleAttempt 500 "ada" .healthy)).2.admitted = true :=
  ⟨(rate_limit_keeps_its_word sampleLimit sampleExpiry sampleAttempts sampleGuards
      (Option.some_get sampleAttempts_run).symm (sampleAttempt 900 "ada" .healthy) _
      (Option.some_get sampleGuards_step).symm).1 (by decide +kernel),
    (rate_limit_keeps_its_word sampleLimit sampleExpiry [] .initial rfl sampleFirst sampleOpened
      rfl).2 { limit := 2, remaining := 1, reset := 1, retryAfter := none } (by decide +kernel)
      [sampleAttempt 300 "bob" .healthy, sampleAttempt 400 "ada" .unhealthy] sampleBusy
      (Option.some_get sampleBetween_run).symm (by decide +kernel)
      (sampleAttempt 500 "ada" .healthy) rfl⟩

end Sample

end Ecommerce.ApiGateway
