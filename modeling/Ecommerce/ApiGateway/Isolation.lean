import Ecommerce.ApiGateway.OwnOrder
import Ecommerce.ApiGateway.Pipeline
import Ecommerce.Machine.Views
import Mathlib.Data.List.Forall2

set_option autoImplicit false

/-!
# Customers do not disturb one another at the gateway
-/

namespace Ecommerce.ApiGateway

open OrderService

def Outcome.isForwarded : Outcome → Bool
  | .refused _ => false
  | .forwarded _ => true

def Arrival.isFrom (verify : Verify) (customer : String) (arrival : Arrival) : Bool :=
  match authenticate verify arrival with
  | .ok subject => subject = customer
  | .error _ => false

/-- What has been done with the requests of a customer. -/
def Edge.handledFor (verify : Verify) (customer : String) (edge : Edge) :
    List (Arrival × Handled) :=
  edge.handled.filter fun entry => entry.1.isFrom verify customer

/-- What a customer has of the gateways. -/
def Edge.view (verify : Verify) (customer : String) (edge : Edge) :
    Option Counter × List (Arrival × Handled) :=
  (edge.keys (counterKey customer), edge.handledFor verify customer)

section Guard

variable (config : RateLimit) (expiry : Expiry) (connection : Connection) {keys others : Keys}
variable (now : Timestamp) {caller : Caller}

theorem canActivate_own (same : keys (counterKey caller.identity) =
    others (counterKey caller.identity)) :
    (canActivate config expiry connection keys now caller).2 =
        (canActivate config expiry connection others now caller).2 ∧
      (canActivate config expiry connection keys now caller).1 (counterKey caller.identity) =
        (canActivate config expiry connection others now caller).1 (counterKey caller.identity) := by
  have got : keys.get expiry now (counterKey caller.identity) =
      others.get expiry now (counterKey caller.identity) := by
    unfold Keys.get
    rw [same]
  cases connection with
  | healthy => simp [canActivate, incrementWindow, got]
  | unhealthy => exact ⟨rfl, same⟩
  | failing executed => cases executed <;> simp [canActivate, incrementWindow, got, same]

theorem canActivate_other {key : String} (elsewhere : key ≠ counterKey caller.identity) :
    (canActivate config expiry connection keys now caller).1 key = keys key := by
  cases connection with
  | healthy => simp [canActivate, incrementWindow, elsewhere]
  | unhealthy => rfl
  | failing executed => cases executed <;> simp [canActivate, incrementWindow, elsewhere]

end Guard

section Views

variable {settings : Settings} {expiry : Expiry} {verify : Verify} {customer : String}
variable {arrival : Arrival} {edge : Edge}

theorem isFrom_authenticated (own : arrival.isFrom verify customer = true) :
    authenticate verify arrival = .ok customer := by
  unfold Arrival.isFrom at own
  cases authenticated : authenticate verify arrival with
  | error message => simp [authenticated] at own
  | ok subject => simpa [authenticated] using own

theorem handle_other (other : arrival.isFrom verify customer = false) (keys : Keys) :
    (handle settings expiry verify keys arrival).1 (counterKey customer) =
      keys (counterKey customer) := by
  unfold Arrival.isFrom at other
  unfold handle
  cases authenticated : authenticate verify arrival with
  | error message => rfl
  | ok subject =>
      have different : subject ≠ customer := by simpa [authenticated] using other
      apply canActivate_other
      intro same
      exact different (counterKey_injective same).symm

theorem handle_own (settings : Settings) (expiry : Expiry)
    (own : arrival.isFrom verify customer = true) {keys others : Keys}
    (same : keys (counterKey customer) = others (counterKey customer)) :
    (handle settings expiry verify keys arrival).2 =
        (handle settings expiry verify others arrival).2 ∧
      (handle settings expiry verify keys arrival).1 (counterKey customer) =
        (handle settings expiry verify others arrival).1 (counterKey customer) := by
  unfold handle
  rw [isFrom_authenticated own]
  let attempt := arrival.attempt customer
  have counted : keys (counterKey attempt.identity) = others (counterKey attempt.identity) := same
  obtain ⟨activation, counter⟩ :=
    canActivate_own settings.rateLimit expiry attempt.connection attempt.time counted
  exact ⟨congrArg (arrival.conclude settings customer) activation, counter⟩

theorem handledFor_step :
    (edge.step settings expiry verify arrival).handledFor verify customer =
      edge.handledFor verify customer ++
        if arrival.isFrom verify customer = true then
          [(arrival, (handle settings expiry verify edge.keys arrival).2)]
        else [] := by
  unfold Edge.handledFor Edge.step
  rw [List.filter_append, List.filter_cons, List.filter_nil]

theorem view_closed (settings : Settings) (expiry : Expiry) (verify : Verify) (customer : String) :
    Machine.Closed (Edge.step settings expiry verify) (Edge.view verify customer)
      (Arrival.isFrom verify customer) := by
  constructor
  · intro edge arrival other
    unfold Edge.view
    rw [handledFor_step, other, if_neg Bool.false_ne_true, List.append_nil]
    exact Prod.ext (handle_other other edge.keys) rfl
  · intro edge others arrival own same
    unfold Edge.view at same ⊢
    rw [Prod.mk.injEq] at same
    obtain ⟨handled, counter⟩ := handle_own settings expiry own same.1
    rw [handledFor_step, handledFor_step, own, if_pos rfl, if_pos rfl, same.2, handled]
    exact Prod.ext counter rfl

end Views

/-- Whatever the others send, with a token or without one, and whenever: what the gateways do with
the requests of a customer is determined by these requests. -/
theorem customers_are_isolated (settings : Settings) (expiry : Expiry) (verify : Verify)
    (customer : String) (one other : List Arrival)
    (same : one.filter (Arrival.isFrom verify customer) =
      other.filter (Arrival.isFrom verify customer)) :
    (Edge.initial.run settings expiry verify one).handledFor verify customer =
      (Edge.initial.run settings expiry verify other).handledFor verify customer :=
  congrArg Prod.snd ((view_closed settings expiry verify customer).determined rfl same)

section Sample

def sampleSettings : Settings := { rateLimit := sampleLimit, orderBaseUrl := "http://order-service" }

def sampleVerify : Verify := fun _ token =>
  if token = "ada.signed" then some { sub := some "ada" }
  else if token = "bob.signed" then some { sub := some "bob" }
  else none

def sampleArrival (time : Timestamp) (authorization : Option String) : Arrival :=
  { gateway := 0
    time
    connection := .healthy
    route := .create [("customerId", .text "eve"), ("currency", .text "EUR")]
    authorization
    xRequestId := some " "
    idempotencyKey := some "5ef7b3f0-1c8e-4a35-9d07-f1a2b3c4d5e6"
    ip := some "10.0.0.7"
    drawn := "b2c9a7de-7f10-4e1b-8d53-0a9b8c7d6e5f" }

def sampleAlone : List Arrival :=
  [sampleArrival 0 (some "Bearer ada.signed"), sampleArrival 500 (some "Bearer ada.signed"),
    sampleArrival 900 (some "Bearer ada.signed")]

def sampleCrowd : List Arrival :=
  [sampleArrival 0 (some "Bearer ada.signed"), sampleArrival 100 (some "Bearer ada.forged"),
    sampleArrival 200 (some "Bearer bob.signed"), sampleArrival 300 none,
    sampleArrival 500 (some "Bearer ada.signed"), sampleArrival 700 (some "Bearer bob.signed"),
    sampleArrival 900 (some "Bearer ada.signed")]

theorem customers_are_isolated_sample :
    ((Edge.initial.run sampleSettings sampleExpiry sampleVerify sampleCrowd).handledFor sampleVerify
        "ada").map (fun entry => entry.2.outcome.isForwarded) = [true, true, false] ∧
      (Edge.initial.run sampleSettings sampleExpiry sampleVerify sampleCrowd).handledFor sampleVerify
          "ada" =
        (Edge.initial.run sampleSettings sampleExpiry sampleVerify sampleAlone).handledFor
          sampleVerify "ada" :=
  ⟨by decide +kernel, customers_are_isolated sampleSettings sampleExpiry sampleVerify "ada"
    sampleCrowd sampleAlone rfl⟩

end Sample

/-- What is forwarded has been let through by the guard. -/
structure Matches (entry : Arrival × Handled) (one : Served) : Prop where
  time : entry.1.time = one.request.time
  admitted : entry.2.outcome.isForwarded = true → one.activation.admitted = true

/-- With Redis at hand, what comes behind the authentication is traffic of the rate limit. -/
structure Guarded (settings : Settings) (verify : Verify) (edge : Edge) (traffic : Traffic) :
    Prop where
  keys : edge.keys = traffic.keys
  limited : ∀ customer, traffic.Limited settings.rateLimit customer
  handled : ∀ customer, List.Forall₂ Matches (edge.handledFor verify customer) (traffic.of customer)

section Traffic

variable {settings : Settings} {expiry : Expiry} {verify : Verify} {customer : String}
variable {arrival : Arrival} {edge : Edge} {traffic : Traffic}

theorem conclude_forwarded {activation : Activation}
    (forwarded : (arrival.conclude settings customer activation).outcome.isForwarded = true) :
    activation.admitted = true := by
  cases activation with
  | activated headers => rfl
  | rejected headers exception => cases forwarded

theorem Guarded.step (expiry : Expiry) (guarded : Guarded settings verify edge traffic)
    (admitting : 1 ≤ settings.rateLimit.max) (positive : 1 ≤ settings.rateLimit.windowSeconds)
    (redis : arrival.connection = .healthy) (later : traffic.clock ≤ arrival.time) :
    ∃ next, Guarded settings verify (edge.step settings expiry verify arrival) next ∧
      next.clock ≤ arrival.time := by
  cases authenticated : authenticate verify arrival with
  | error message =>
      refine ⟨traffic, ⟨?_, guarded.limited, ?_⟩, later⟩
      · simpa [Edge.step, handle, authenticated] using guarded.keys
      · intro customer
        have stranger : arrival.isFrom verify customer = false := by
          simp [Arrival.isFrom, authenticated]
        rw [handledFor_step, stranger, if_neg Bool.false_ne_true, List.append_nil]
        exact guarded.handled customer
  | ok subject =>
      let guard := canActivate settings.rateLimit expiry .healthy traffic.keys arrival.time
        (arrival.attempt subject).request.caller
      let one : Served :=
        { request := (arrival.attempt subject).request
          found := traffic.keys.get expiry arrival.time (counterKey subject)
          left := guard.1 (counterKey subject)
          activation := guard.2 }
      let next : Traffic :=
        { keys := guard.1, clock := arrival.time, served := traffic.served ++ [one] }
      have taken : traffic.step settings.rateLimit expiry (arrival.attempt subject).request =
          some next := by
        unfold Traffic.step
        exact if_pos later
      have handled : handle settings expiry verify edge.keys arrival =
          (guard.1, arrival.conclude settings subject guard.2) := by
        simp only [handle, authenticated, guarded.keys, Arrival.attempt, redis, guard]
      refine ⟨next, ⟨?_, fun customer => (guarded.limited customer).step positive admitting taken,
        ?_⟩, Nat.le_refl _⟩
      · unfold Edge.step
        rw [handled]
      · intro customer
        have split : next.of customer = traffic.of customer ++
            if arrival.isFrom verify customer = true then [one] else [] := by
          simp only [Traffic.of, next, List.filter_append, List.filter_cons, List.filter_nil,
            Arrival.isFrom, authenticated]
          rfl
        rw [handledFor_step, handled, split]
        apply List.rel_append (guarded.handled customer)
        split
        · exact .cons ⟨rfl, conclude_forwarded⟩ .nil
        · exact .nil

theorem Guarded.run {arrivals : List Arrival} (expiry : Expiry)
    (guarded : Guarded settings verify edge traffic)
    (admitting : 1 ≤ settings.rateLimit.max) (positive : 1 ≤ settings.rateLimit.windowSeconds)
    (redis : ∀ arrival ∈ arrivals, arrival.connection = .healthy)
    (later : ∀ arrival ∈ arrivals, traffic.clock ≤ arrival.time)
    (ordered : arrivals.Pairwise fun one other => one.time ≤ other.time) :
    ∃ last, Guarded settings verify (edge.run settings expiry verify arrivals) last := by
  induction arrivals generalizing edge traffic with
  | nil => exact ⟨traffic, guarded⟩
  | cons arrival rest ih =>
      rw [List.forall_mem_cons] at redis later
      rw [List.pairwise_cons] at ordered
      obtain ⟨next, onward, passed⟩ := guarded.step expiry admitting positive redis.1 later.1
      apply ih onward redis.2
      · intro arrival member
        exact Nat.le_trans passed (ordered.1 arrival member)
      · exact ordered.2

theorem countP_of_forall₂ {A B : Type} {R : A → B → Prop} {left : List A} {right : List B}
    {p : A → Bool} {q : B → Bool} (related : List.Forall₂ R left right)
    (carries : ∀ one other, R one other → p one = true → q other = true) :
    left.countP p ≤ right.countP q := by
  induction related with
  | nil => exact Nat.le_refl 0
  | @cons one other _ _ head _ ih =>
      rw [List.countP_cons, List.countP_cons]
      have carried := carries one other head
      cases held : p one with
      | false => simpa using Nat.le_add_right_of_le ih
      | true => simpa [carried held] using ih

theorem Traffic.Limited.total {config : RateLimit} (limited : traffic.Limited config customer)
    (since : Timestamp) :
    admittedIn config.window since (traffic.of customer) ≤ 2 * config.max := by
  cases stored : traffic.keys (counterKey customer) with
  | none => simp [limited.unseen stored, admittedIn]
  | some counter =>
      obtain ⟨start, counts⟩ := limited.counts counter stored
      exact (counts.bounded since).total

end Traffic

section Requests

variable {settings : Settings} {expiry : Expiry} {verify : Verify} {customer : String}
variable {arrival : Arrival} {request : Fetch}

/-- A request to the order service is made for the customer of a token, and is traced. -/
structure ForwardedFor (verify : Verify) (entry : Arrival × Handled) (request : Fetch)
    (customer : String) : Prop where
  authenticated : authenticate verify entry.1 = .ok customer
  allowed : ∀ header ∈ request.headers,
    header.1 ∈ ["Content-Type", "Idempotency-Key", "X-Request-Id"]
  traced : request.headers.lookup "X-Request-Id" = some entry.2.xRequestId
  posted : request.method = .POST → ∃ body, request.body = some body
  created : ∀ body, request.body = some body → body.lookup "customerId" = some (.text customer) ∧
    request.headers.lookup "Idempotency-Key" = entry.1.idempotencyKey ∧
      ∃ sent, entry.1.route = .create sent ∧
        ∀ name, name ≠ "customerId" → body.lookup name = sent.lookup name

theorem requestId_nonempty (drawn : arrival.drawn ≠ "") : arrival.requestId ≠ "" := by
  unfold Arrival.requestId
  cases arrival.xRequestId with
  | none => exact drawn
  | some incoming =>
      simp only
      split
      · exact drawn
      · next spoken =>
          rintro rfl
          exact spoken rfl

theorem proxied_for {base : String}
    (proxied : arrival.proxied base customer = .ok request) (handled : Handled)
    (authenticated : authenticate verify arrival = .ok customer)
    (same : handled.xRequestId = arrival.requestId) (drawn : arrival.drawn ≠ "") :
    ForwardedFor verify (arrival, handled) request customer := by
  have spoken := requestId_nonempty drawn
  unfold Arrival.proxied at proxied
  cases route : arrival.route with
  | create sent =>
      rw [route] at proxied
      simp only at proxied
      split at proxied
      · cases proxied
      · next given =>
          cases proxied
          cases key : arrival.idempotencyKey with
          | none => simp [key] at given
          | some raw =>
              have named : raw ≠ "" := by simpa [key] using given
              constructor
              · exact authenticated
              · simp [toOrderService, optionalHeader, named, spoken]
              · simp only [toOrderService, optionalHeader, if_neg named, if_neg spoken, same]
                rfl
              · exact fun _ => ⟨_, rfl⟩
              · intro body forwarded
                cases forwarded
                refine ⟨lookup_withMember sent, ?_, sent, route, ?_⟩
                · simp only [toOrderService, optionalHeader, if_neg named, key]
                  rfl
                · intro name different
                  exact lookup_withMember_other different sent
  | findOne id =>
      rw [route] at proxied
      cases proxied
      constructor
      · exact authenticated
      · simp [toOrderService, optionalHeader, spoken]
      · simp only [toOrderService, optionalHeader, if_neg spoken, same]
        rfl
      · intro posted
        cases posted
      · intro body forwarded
        cases forwarded

theorem handle_for {keys : Keys} (drawn : arrival.drawn ≠ "")
    (forwarded : (handle settings expiry verify keys arrival).2.outcome = .forwarded request) :
    ∃ customer, ForwardedFor verify (arrival, (handle settings expiry verify keys arrival).2) request
      customer := by
  unfold handle at forwarded ⊢
  cases authenticated : authenticate verify arrival with
  | error message =>
      rw [authenticated] at forwarded
      cases forwarded
  | ok customer =>
      rw [authenticated] at forwarded
      refine ⟨customer, ?_⟩
      simp only [Arrival.conclude] at forwarded
      split at forwarded
      · cases forwarded
      · split at forwarded
        · next onward =>
            cases forwarded
            exact proxied_for onward _ authenticated rfl drawn
        · cases forwarded

theorem run_handled {arrivals : List Arrival} {edge : Edge} {entry : Arrival × Handled}
    (member : entry ∈ (edge.run settings expiry verify arrivals).handled) :
    entry ∈ edge.handled ∨
      entry.1 ∈ arrivals ∧ ∃ keys, entry.2 = (handle settings expiry verify keys entry.1).2 := by
  induction arrivals generalizing edge with
  | nil => exact .inl member
  | cons arrival rest ih =>
      rcases ih member with before | ⟨later, handled⟩
      · simp only [Edge.step, List.mem_append, List.mem_singleton] at before
        rcases before with before | rfl
        · exact .inl before
        · exact .inr ⟨List.mem_cons_self, edge.keys, rfl⟩
      · exact .inr ⟨List.mem_cons_of_mem _ later, handled⟩

end Requests

/-- What the gateways send to the order service in any run: requests for the customers of valid
tokens with no headers but the allowed ones, and as long as Redis answers no more of a customer in
the length of a window than twice the limit, however many come in and through whatever gateways. -/
theorem gateway_shields_order_service (settings : Settings) (expiry : Expiry) (verify : Verify)
    (arrivals : List Arrival) (drawn : ∀ arrival ∈ arrivals, arrival.drawn ≠ "") :
    (∀ entry ∈ (Edge.initial.run settings expiry verify arrivals).handled, ∀ request,
      entry.2.outcome = .forwarded request →
        ∃ customer, ForwardedFor verify entry request customer) ∧
    (1 ≤ settings.rateLimit.max → 1 ≤ settings.rateLimit.windowSeconds →
      (∀ arrival ∈ arrivals, arrival.connection = .healthy) →
      (arrivals.Pairwise fun one other => one.time ≤ other.time) →
      ∀ customer since,
        ((Edge.initial.run settings expiry verify arrivals).handledFor verify customer).countP
            (fun entry => entry.2.outcome.isForwarded ∧ since ≤ entry.1.time ∧
              entry.1.time < since + settings.rateLimit.windowSeconds * 1000) ≤
          2 * settings.rateLimit.max) := by
  constructor
  · intro entry member request forwarded
    rcases run_handled member with before | ⟨arrived, keys, handled⟩
    · cases before
    · rw [handled] at forwarded
      obtain ⟨customer, serves⟩ := handle_for (drawn _ arrived) forwarded
      rw [← handled] at serves
      exact ⟨customer, serves⟩
  · intro admitting positive redis ordered customer since
    have start : Guarded settings verify .initial .initial :=
      ⟨rfl, fun customer => .initial settings.rateLimit customer, fun _ => .nil⟩
    obtain ⟨traffic, guarded⟩ := start.run expiry admitting positive redis
      (fun _ _ => Nat.zero_le _) ordered
    refine Nat.le_trans (countP_of_forall₂ (guarded.handled customer) ?_)
      ((guarded.limited customer).total since)
    intro entry one same
    simp only [decide_eq_true_eq]
    rintro ⟨forwarded, within⟩
    exact ⟨same.admitted forwarded, same.time ▸ within⟩

section Sample

theorem sampleCrowd_drawn : ∀ arrival ∈ sampleCrowd, arrival.drawn ≠ "" := by
  decide +kernel

theorem sampleCrowd_healthy : ∀ arrival ∈ sampleCrowd, arrival.connection = .healthy := by
  simp [sampleCrowd, sampleArrival]

theorem gateway_shields_order_service_sample :
    ((Edge.initial.run sampleSettings sampleExpiry sampleVerify sampleCrowd).handled.map fun entry =>
        entry.2.outcome.isForwarded) = [true, false, true, false, true, true, false] ∧
      ((Edge.initial.run sampleSettings sampleExpiry sampleVerify sampleCrowd).handledFor sampleVerify
          "ada").countP (fun entry => entry.2.outcome.isForwarded ∧ 0 ≤ entry.1.time ∧
            entry.1.time < 0 + 1 * 1000) ≤ 2 * 2 ∧
        ∀ entry ∈ (Edge.initial.run sampleSettings sampleExpiry sampleVerify sampleCrowd).handled,
          ∀ request, entry.2.outcome = .forwarded request →
            ∃ customer, ForwardedFor sampleVerify entry request customer :=
  have shields := gateway_shields_order_service sampleSettings sampleExpiry sampleVerify sampleCrowd
    sampleCrowd_drawn
  ⟨by decide +kernel,
    shields.2 (by decide) (by decide) sampleCrowd_healthy (by decide +kernel) "ada" 0, shields.1⟩

end Sample

end Ecommerce.ApiGateway
