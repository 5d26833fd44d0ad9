import Ecommerce.ApiGateway.RateLimit
import Ecommerce.Machine.FixedWindow
import Ecommerce.Machine.Run

set_option autoImplicit false

/-!
# How much traffic the rate limit lets through
-/

namespace Ecommerce.ApiGateway

open FixedWindow

abbrev RateLimit.window (config : RateLimit) : Nat := config.windowSeconds * 1000

def Traffic.of (traffic : Traffic) (identity : String) : List Served :=
  traffic.served.filter fun one => one.request.caller.identity = identity

/-- The number of the last request in the lifetime of the key; a request that found no key has
begun another one. -/
def number (last : Nat) : List Served → Nat
  | [] => last
  | one :: rest => number (if one.found = none then 1 else last + 1) rest

def numbered (last : Nat) : List Served → List (Nat × Served)
  | [] => []
  | one :: rest =>
      let next := if one.found = none then 1 else last + 1
      (next, one) :: numbered next rest

def admittedIn (length since : Nat) (served : List Served) : Nat :=
  served.countP fun one => one.activation.admitted ∧
    since ≤ one.request.time ∧ one.request.time < since + length

/-- The counter that a request leaves when it has found this one. -/
def RateLimit.hit (config : RateLimit) (now : Timestamp) (found : Option Counter) : Counter :=
  { value := (incr found).value
    deadline := some ((found.bind Counter.deadline).getD (now + config.window)) }

section Request

variable {config : RateLimit} {expiry : Expiry} {traffic next : Traffic} {request : GuardedRequest}

theorem expireNX_incr (positive : 1 ≤ config.windowSeconds) (now : Timestamp)
    (found : Option Counter) :
    expireNX now config.windowSeconds (incr found) = some (config.hit now found) := by
  have unended : config.windowSeconds ≠ 0 := by omega
  cases found with
  | none => simp [expireNX, incr, RateLimit.hit, unended]
  | some counter =>
      cases ending : counter.deadline <;> simp [expireNX, incr, RateLimit.hit, ending, unended]

theorem check_admitted (config : RateLimit) (hit : WindowHit) :
    (config.check hit).admitted = true ↔ hit.count ≤ config.max := by
  unfold RateLimit.check
  split <;> simp only [Activation.admitted] <;> grind

theorem check_rejected (config : RateLimit) (hit : WindowHit) (many : config.max < hit.count) :
    ∃ headers, config.check hit =
      .rejected headers { statusCode := 429, message := "Rate limit exceeded" } := by
  unfold RateLimit.check
  rw [if_pos many]
  exact ⟨_, rfl⟩

/-- A request has counted in the key that it found, or in a new one. -/
structure RateLimit.Serves (config : RateLimit) (expiry : Expiry) (keys : Keys) (one : Served) :
    Prop where
  found : one.found = keys.get expiry one.request.time (counterKey one.request.caller.identity)
  left : one.left = some (config.hit one.request.time one.found)
  admitted : one.activation.admitted = true ↔
    (config.hit one.request.time one.found).value ≤ config.max
  rejected : config.max < (config.hit one.request.time one.found).value →
    ∃ headers, one.activation =
      .rejected headers { statusCode := 429, message := "Rate limit exceeded" }

theorem Traffic.step_cases (positive : 1 ≤ config.windowSeconds)
    (taken : traffic.step config expiry request = some next) :
    traffic.clock ≤ request.time ∧ ∃ one : Served, one.request = request ∧
      config.Serves expiry traffic.keys one ∧
      next =
        { keys := Function.update traffic.keys (counterKey request.caller.identity) one.left
          clock := request.time
          served := traffic.served ++ [one] } := by
  unfold Traffic.step at taken
  split at taken
  · next later =>
      cases taken
      let key := counterKey request.caller.identity
      let counted := incrementWindow expiry traffic.keys request.time key config.windowSeconds
      let one : Served :=
        { request
          found := traffic.keys.get expiry request.time key
          left := counted.1 key
          activation := config.check counted.2 }
      have left : one.left = some (config.hit one.request.time one.found) := by
        simp only [one, counted, incrementWindow, expireNX_incr positive, Function.update_self]
      refine ⟨later, one, rfl, ?_, ?_⟩
      · exact ⟨rfl, left, check_admitted config counted.2,
          check_rejected config counted.2⟩
      · rw [left]
        simp only [incrementWindow, expireNX_incr positive, one, counted, key]
  · cases taken

theorem counterKey_injective {one two : String} (same : counterKey one = counterKey two) :
    one = two := by
  unfold counterKey at same
  have letters := congrArg String.toList same
  rw [String.toList_append, String.toList_append, List.append_cancel_left_eq] at letters
  exact String.toList_inj.mp letters

theorem number_append (last : Nat) (served : List Served) (one : Served) :
    number last (served ++ [one]) = if one.found = none then 1 else number last served + 1 := by
  induction served generalizing last with
  | nil => rfl
  | cons first rest ih => exact ih _

theorem numbered_append (last : Nat) (served : List Served) (one : Served) :
    numbered last (served ++ [one]) =
      numbered last served ++ [(number last (served ++ [one]), one)] := by
  induction served generalizing last with
  | nil => rfl
  | cons first rest ih => simp only [List.cons_append, numbered, number, ih]

theorem admittedIn_append (length since : Nat) (served : List Served) (one : Served) {count : Nat}
    (counts : one.activation.admitted = true ↔ count ≤ config.max) :
    admittedIn length since (served ++ [one]) =
      admittedIn length since served + admits length config.max since one.request.time count := by
  simp only [admittedIn, List.countP_append, List.countP_singleton, counts, admits,
    decide_eq_true_eq]

end Request

/-- A request left the key with a TTL, and has not moved the TTL if it was rejected. -/
structure Served.Lasting (one : Served) : Prop where
  expires : ∃ counter deadline, one.left = some counter ∧ counter.deadline = some deadline ∧
    one.request.time ≤ deadline
  unprolonged : one.activation.admitted = false →
    ∃ found left, one.found = some found ∧ one.left = some left ∧ left.deadline = found.deadline

/-- The first requests of a lifetime are admitted, and the others are answered with 429. -/
def RateLimit.Admits (config : RateLimit) (number : Nat) (one : Served) : Prop :=
  (number ≤ config.max → one.activation.admitted = true) ∧
  (config.max < number → ∃ headers, one.activation =
    .rejected headers { statusCode := 429, message := "Rate limit exceeded" })

/-- The counter is the window that was opened last. -/
structure RateLimit.Counts (config : RateLimit) (clock : Timestamp) (served : List Served)
    (counter : Counter) (start : Timestamp) : Prop where
  started : start ≤ clock
  deadline : counter.deadline = some (start + config.window)
  value : counter.value = number 0 served
  bounded : ∀ since, Bounded config.window config.max since start counter.value
    (admittedIn config.window since served)

structure Traffic.Limited (config : RateLimit) (identity : String) (traffic : Traffic) : Prop where
  unseen : traffic.keys (counterKey identity) = none → traffic.of identity = []
  counts : ∀ counter, traffic.keys (counterKey identity) = some counter →
    ∃ start, config.Counts traffic.clock (traffic.of identity) counter start
  lasting : ∀ one ∈ traffic.of identity, one.Lasting
  admits : ∀ entry ∈ numbered 0 (traffic.of identity), config.Admits entry.1 entry.2

section Steps

variable {config : RateLimit} {expiry : Expiry} {traffic next : Traffic} {request : GuardedRequest}
variable {identity : String} {served : List Served} {clock now start : Timestamp}

theorem Traffic.Limited.initial (config : RateLimit) (identity : String) :
    Traffic.initial.Limited config identity where
  unseen _ := rfl
  counts := by simp [Traffic.initial]
  lasting := by simp [Traffic.initial, Traffic.of]
  admits := by simp [Traffic.initial, Traffic.of, numbered]

theorem Keys.get_some {keys : Keys} {key : String} {counter : Counter}
    (found : keys.get expiry now key = some counter) :
    keys key = some counter ∧ ∀ deadline, counter.deadline = some deadline → now ≤ deadline := by
  unfold Keys.get at found
  split at found
  · next stored _ =>
      split at found
      · next deadline ending =>
          split at found
          · cases found
          · next kept =>
              cases found
              refine ⟨by assumption, fun other same => ?_⟩
              cases ending.symm.trans same
              by_contra late
              exact kept (expiry.gone deadline now (Nat.not_le.mp late))
      · next ending =>
          cases found
          exact ⟨by assumption, fun other same => by cases ending.symm.trans same⟩
  · cases found

theorem Keys.get_none {keys : Keys} {key : String} (missing : keys.get expiry now key = none) :
    keys key = none ∨ ∃ counter deadline, keys key = some counter ∧
      counter.deadline = some deadline ∧ deadline ≤ now := by
  unfold Keys.get at missing
  split at missing
  · next counter stored =>
      right
      split at missing
      · next deadline ending =>
          refine ⟨counter, deadline, stored, ending, ?_⟩
          by_contra early
          simp [expiry.kept deadline now (Nat.not_le.mp early)] at missing
      · cases missing
  · next unknown => exact .inl unknown

/-- A request that finds no key opens a window, behind the one before if there was one. -/
theorem RateLimit.Counts.reopened {one : Served} {counter : Counter}
    (counts : config.Counts clock served counter start) (unfound : one.found = none)
    (ended : start + config.window ≤ one.request.time)
    (answered : one.activation.admitted = true ↔ 1 ≤ config.max) :
    config.Counts one.request.time (served ++ [one]) (config.hit one.request.time none)
      one.request.time where
  started := Nat.le_refl _
  deadline := rfl
  value := by simp [number_append, unfound, RateLimit.hit, incr]
  bounded since := by
    rw [admittedIn_append config.window since served one answered]
    exact (counts.bounded since).reopened ended

theorem RateLimit.Counts.opened {one : Served} (unfound : one.found = none)
    (answered : one.activation.admitted = true ↔ 1 ≤ config.max) :
    config.Counts one.request.time [one] (config.hit one.request.time none)
      one.request.time where
  started := Nat.le_refl _
  deadline := rfl
  value := by simp [number, unfound, RateLimit.hit, incr]
  bounded since := by
    have alone := admittedIn_append config.window since [] one answered
    have none : admittedIn config.window since [] = 0 := rfl
    rw [List.nil_append, none, Nat.zero_add] at alone
    rw [alone]
    exact Bounded.opened config.window config.max since one.request.time

theorem RateLimit.Counts.counted {one : Served} {counter : Counter}
    (counts : config.Counts clock served counter start) (later : clock ≤ one.request.time)
    (found : one.found = some counter) (lasting : one.request.time ≤ start + config.window)
    (answered : one.activation.admitted = true ↔ counter.value + 1 ≤ config.max) :
    config.Counts one.request.time (served ++ [one])
      (config.hit one.request.time (some counter)) start where
  started := Nat.le_trans counts.started later
  deadline := by simp [RateLimit.hit, counts.deadline]
  value := by simp [number_append, found, RateLimit.hit, incr, counts.value]
  bounded since := by
    rw [admittedIn_append config.window since served one answered]
    exact (counts.bounded since).counted (Nat.le_trans counts.started later) lasting

theorem Traffic.Limited.counts_next {one : Served}
    (limited : traffic.Limited config one.request.caller.identity)
    (later : traffic.clock ≤ one.request.time) (serves : config.Serves expiry traffic.keys one) :
    ∃ start, config.Counts one.request.time (traffic.of one.request.caller.identity ++ [one])
      (config.hit one.request.time one.found) start := by
  have answered := serves.admitted
  cases found : one.found with
  | none =>
      rw [found] at answered
      rcases Keys.get_none (serves.found.symm.trans found) with
        unknown | ⟨counter, deadline, stored, ending, late⟩
      · rw [limited.unseen unknown, List.nil_append]
        exact ⟨_, .opened found answered⟩
      · obtain ⟨start, counts⟩ := limited.counts counter stored
        have same := counts.deadline.symm.trans ending
        rw [← Option.some.inj same] at late
        exact ⟨_, counts.reopened found late answered⟩
  | some counter =>
      rw [found] at answered
      obtain ⟨stored, lasting⟩ := Keys.get_some (serves.found.symm.trans found)
      obtain ⟨start, counts⟩ := limited.counts counter stored
      exact ⟨start, counts.counted later found (lasting _ counts.deadline) answered⟩

theorem Traffic.Limited.lasting_next {one : Served}
    (limited : traffic.Limited config one.request.caller.identity) (admitting : 1 ≤ config.max)
    (serves : config.Serves expiry traffic.keys one) : one.Lasting := by
  cases found : one.found with
  | none =>
      have left := serves.left
      have admitted := serves.admitted
      rw [found] at left admitted
      constructor
      · exact ⟨_, _, left, rfl, Nat.le_add_right ..⟩
      · intro rejected
        rw [admitted.mpr admitting] at rejected
        cases rejected
  | some counter =>
      have left := serves.left
      rw [found] at left
      obtain ⟨stored, lasting⟩ := Keys.get_some (serves.found.symm.trans found)
      obtain ⟨start, counts⟩ := limited.counts counter stored
      have same : (config.hit one.request.time (some counter)).deadline = counter.deadline := by
        simp [RateLimit.hit, counts.deadline]
      constructor
      · exact ⟨_, _, left, same.trans counts.deadline, lasting _ counts.deadline⟩
      · exact fun _ => ⟨counter, _, found, left, same⟩

theorem Traffic.Limited.own {one : Served}
    (limited : traffic.Limited config one.request.caller.identity) (admitting : 1 ≤ config.max)
    (later : traffic.clock ≤ one.request.time) (serves : config.Serves expiry traffic.keys one) :
    ({ keys := Function.update traffic.keys (counterKey one.request.caller.identity) one.left
       clock := one.request.time
       served := traffic.served ++ [one] } : Traffic).Limited config one.request.caller.identity := by
  obtain ⟨start, counts⟩ := limited.counts_next later serves
  have mine : (traffic.served ++ [one]).filter (fun other =>
      other.request.caller.identity = one.request.caller.identity) =
        traffic.of one.request.caller.identity ++ [one] := by
    simp [Traffic.of]
  constructor
  · intro unknown
    simp [serves.left] at unknown
  · intro counter stored
    simp only [Function.update_self, serves.left, Option.some.injEq] at stored
    rw [Traffic.of, mine, ← stored]
    exact ⟨start, counts⟩
  · rw [Traffic.of, mine]
    have lasting := limited.lasting_next admitting serves
    exact List.forall_mem_append.mpr ⟨limited.lasting, by simpa using lasting⟩
  · rw [Traffic.of, mine, numbered_append]
    have admits : config.Admits (number 0 (traffic.of one.request.caller.identity ++ [one])) one := by
      rw [← counts.value]
      exact ⟨serves.admitted.mpr, serves.rejected⟩
    exact List.forall_mem_append.mpr ⟨limited.admits, by simpa using admits⟩

theorem Traffic.Limited.other {one : Served} (limited : traffic.Limited config identity)
    (different : one.request.caller.identity ≠ identity) (later : traffic.clock ≤ one.request.time) :
    ({ keys := Function.update traffic.keys (counterKey one.request.caller.identity) one.left
       clock := one.request.time
       served := traffic.served ++ [one] } : Traffic).Limited config identity := by
  have mine : (traffic.served ++ [one]).filter (fun other =>
      other.request.caller.identity = identity) = traffic.of identity := by
    simp [Traffic.of, different]
  have elsewhere : counterKey identity ≠ counterKey one.request.caller.identity :=
    fun same => different (counterKey_injective same).symm
  constructor
  · intro unknown
    rw [Traffic.of, mine]
    exact limited.unseen (by simpa [Function.update_of_ne elsewhere] using unknown)
  · intro counter stored
    simp only [Function.update_of_ne elsewhere] at stored
    obtain ⟨start, counts⟩ := limited.counts counter stored
    rw [Traffic.of, mine]
    exact ⟨start, { counts with started := Nat.le_trans counts.started later }⟩
  · rw [Traffic.of, mine]
    exact limited.lasting
  · rw [Traffic.of, mine]
    exact limited.admits

theorem Traffic.Limited.step (limited : traffic.Limited config identity)
    (positive : 1 ≤ config.windowSeconds) (admitting : 1 ≤ config.max)
    (taken : traffic.step config expiry request = some next) : next.Limited config identity := by
  obtain ⟨later, one, rfl, serves, rfl⟩ := Traffic.step_cases positive taken
  by_cases same : one.request.caller.identity = identity
  · subst same
    exact limited.own admitting later serves
  · exact limited.other same later

end Steps

/-- Whatever instances the requests of a caller come through, the first ones of each window are
admitted and no others, and no interval of a window's length admits more than twice as many. -/
theorem rate_limit_bounds_traffic (config : RateLimit) (admitting : 1 ≤ config.max)
    (positive : 1 ≤ config.windowSeconds) (expiry : Expiry) (requests : List GuardedRequest)
    (traffic : Traffic)
    (ran : Machine.run (Traffic.step config expiry) .initial requests = some traffic)
    (identity : String) :
    (∀ one ∈ traffic.of identity, ∃ counter deadline, one.left = some counter ∧
        counter.deadline = some deadline ∧ one.request.time ≤ deadline) ∧
      (∀ entry ∈ numbered 0 (traffic.of identity),
        (entry.1 ≤ config.max → entry.2.activation.admitted = true) ∧
        (config.max < entry.1 → ∃ headers, entry.2.activation =
          .rejected headers { statusCode := 429, message := "Rate limit exceeded" })) ∧
      (∀ one ∈ traffic.of identity, one.activation.admitted = false →
        ∃ found left, one.found = some found ∧ one.left = some left ∧
          left.deadline = found.deadline) ∧
      ∀ since, ((traffic.of identity).filter fun one => one.activation.admitted ∧
        since ≤ one.request.time ∧
          one.request.time < since + config.windowSeconds * 1000).length ≤ 2 * config.max := by
  have limited : traffic.Limited config identity :=
    Machine.run_invariant (Traffic.Limited config identity)
      (fun _ _ _ limited taken => limited.step positive admitting taken) (.initial config identity) ran
  refine ⟨fun one member => (limited.lasting one member).expires, limited.admits,
    fun one member => (limited.lasting one member).unprolonged, ?_⟩
  intro since
  rw [← List.countP_eq_length_filter]
  cases stored : traffic.keys (counterKey identity) with
  | none => simp [limited.unseen stored]
  | some counter =>
      obtain ⟨start, counts⟩ := limited.counts counter stored
      exact (counts.bounded since).total

section Sample

def sampleLimit : RateLimit := { max := 2, windowSeconds := 1 }

def sampleExpiry : Expiry where
  expired deadline now := deadline ≤ now
  kept _ _ early := decide_eq_false (Nat.not_le.mpr early)
  gone _ _ late := decide_eq_true (Nat.le_of_lt late)

def sampleRequest (gateway : Nat) (time : Timestamp) (customerId : String) : GuardedRequest :=
  { gateway, time, caller := { customerId := some customerId, ip := none } }

def sampleRequests : List GuardedRequest :=
  -- The third request of the window is rejected, and the next one comes when the window has ended.
  [sampleRequest 0 0 "ada", sampleRequest 1 800 "ada", sampleRequest 1 850 "bob",
    sampleRequest 0 900 "ada", sampleRequest 0 1000 "ada", sampleRequest 1 1100 "ada"]

theorem sampleRequests_run :
    (Machine.run (Traffic.step sampleLimit sampleExpiry) .initial sampleRequests).isSome = true := by
  decide +kernel

def sampleTraffic : Traffic :=
  (Machine.run (Traffic.step sampleLimit sampleExpiry) .initial sampleRequests).get
    sampleRequests_run

theorem rate_limit_bounds_traffic_sample :
    (numbered 0 (sampleTraffic.of "ada")).map (fun entry => (entry.1, entry.2.activation.admitted)) =
        [(1, true), (2, true), (3, false), (1, true), (2, true)] ∧
      ((sampleTraffic.of "ada").filter fun one => one.activation.admitted ∧
        800 ≤ one.request.time ∧ one.request.time < 800 + 1 * 1000).length ≤ 2 * 2 :=
  ⟨by decide +kernel, (rate_limit_bounds_traffic sampleLimit (by decide) (by decide) sampleExpiry
    sampleRequests sampleTraffic (Option.some_get sampleRequests_run).symm "ada").2.2.2 800⟩

end Sample

end Ecommerce.ApiGateway
