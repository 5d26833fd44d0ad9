import Ecommerce.ApiGateway.OrdersProxy
import Ecommerce.OrderService.Callers

set_option autoImplicit false

/-!
# A caller gets its own order

The hash of a body covers the customer that the gateway has put into it, and a key answers only
the bodies of its own hash.
-/

namespace Ecommerce.ApiGateway

open Transaction OrderService

section Members

variable {name other : String} {value : JsonValue}

theorem lookup_withMember (members : JsonObject) :
    (withMember name value members).lookup name = some value := by
  induction members with
  | nil => simp [withMember]
  | cons member rest ih =>
      obtain ⟨key, old⟩ := member
      simp only [withMember]
      split
      · next same => simp [same]
      · next different =>
          have unequal : (name == key) = false := by simp [Ne.symm different]
          rw [List.lookup_cons, unequal]
          exact ih

theorem lookup_withMember_other (different : other ≠ name) (members : JsonObject) :
    (withMember name value members).lookup other = members.lookup other := by
  induction members with
  | nil => simp [withMember, different]
  | cons member rest ih =>
      obtain ⟨key, old⟩ := member
      simp only [withMember]
      split
      · next same =>
          have unequal : (other == key) = false := by simp [same, different]
          simp [List.lookup_cons, unequal]
      · simp only [List.lookup_cons, ih]

end Members

section Sent

theorem sentItems_eq_map (items : List JsonValue) : sentItems items = items.map sent := by
  induction items with
  | nil => rfl
  | cons item rest ih => rw [sentItems, ih, List.map_cons]

theorem lookup_sentMembers (name : String) (members : JsonObject) :
    (sentMembers members).lookup name = (members.lookup name).map sent := by
  induction members with
  | nil => rfl
  | cons member rest ih =>
      obtain ⟨other, value⟩ := member
      simp only [sentMembers, List.lookup_cons]
      split
      · rfl
      · exact ih

variable {value : JsonValue}

theorem sent_text {text : String} (read : sent value = .text text) : value = .text text := by
  cases value <;> simp_all [sent]

theorem sent_number {number : Rat} (read : sent value = .number number) :
    value = .number number := by
  cases value <;> simp_all [sent]

theorem sent_array {items : List JsonValue} (read : sent value = .array items) :
    ∃ elements, value = .array elements ∧ items = elements.map sent := by
  cases value <;> simp_all [sent, sentItems_eq_map]

theorem sent_object {members : JsonObject} (read : sent value = .object members) :
    ∃ before, value = .object before ∧ members = sentMembers before := by
  cases value <;> simp_all [sent]

end Sent

/-- A line of an order, and the element of `items` that asks for it. -/
inductive LineOf (platform : Platform) : JsonValue → OrderLineItem → Prop
  | line (members : JsonObject) (productId : String) (line : OrderLineItem)
      (product : members.lookup "productId" = some (.text productId))
      (productIdRead : line.productId = platform.uuid productId)
      (quantity : members.lookup "quantity" = some (.number line.quantity))
      (unitPriceCents : members.lookup "unitPriceCents" = some (.number line.unitPriceCents)) :
      LineOf platform (.object members) line

def askedCurrency (body : JsonObject) : String :=
  match body.lookup "currency" with
  | some (.text code) => code
  | _ => "USD"

/-- The order that a response describes is the one that the caller has asked for. -/
structure OwnOrder (platform : Platform) (post : Post) (response : OrderResponse) : Prop where
  customerId : response.customerId = platform.uuid post.customerId
  items : ∃ elements, post.body.lookup "items" = some (.array elements) ∧
    List.Forall₂ (LineOf platform) elements response.items
  currency : response.currency = askedCurrency post.body

/-- Another customer, or another body for the order service. -/
def Differs (platform : Platform) (one other : Post) : Prop :=
  one.customerId ≠ other.customerId ∨
    platform.validate one.sentBody ≠ platform.validate other.sentBody

def Action.order (platform : Platform) : Action → Option OrderBody
  | .post _ sent _ => platform.validate sent.sentBody
  | .progress _ => none

/-- The bodies that the order service reads in a run. -/
def orders (platform : Platform) (actions : List Action) : List OrderBody :=
  actions.filterMap (Action.order platform)

inductive Post.Calls (platform : Platform) (bodies : List OrderBody) (post : Post) : Call → Prop
  | made (raw : String) (order : OrderBody) (now : Timestamp)
      (key : post.idempotencyKey = some raw)
      (read : platform.validate post.sentBody = some order) (known : order ∈ bodies) :
      post.Calls platform bodies (createOrder platform raw order now)

/-- What work has answered is about a body with the hash of its call. -/
def Describes (platform : Platform) (bodies : List OrderBody) (call : Call)
    (value : OrderResponse × Nat) : Prop :=
  ∃ order ∈ bodies, platform.hashBody order = call.requestHash ∧
    ∃ dto, order.dto platform = some dto ∧ value.1.customerId = dto.customerId ∧
      value.1.items = dto.lineItems ∧ value.1.currency = dto.currency.getD "USD" ∧ value.2 = 201

section Calls

variable {platform : Platform} {bodies : List OrderBody} {post : Post} {call : Call}

theorem header_given {header : Option String} {raw : String}
    (read : idempotencyKeyHeader header = .ok raw) : header = some raw := by
  unfold idempotencyKeyHeader at read
  cases header with
  | none => cases read
  | some text =>
      simp only at read
      split at read
      · cases read
      · split at read
        · cases read
          rfl
        · cases read

theorem admit_calls {now : Timestamp} (admitted : post.admit platform now = .ok call)
    (known : ∀ order, platform.validate post.sentBody = some order → order ∈ bodies) :
    post.Calls platform bodies call := by
  unfold Post.admit at admitted
  cases header : idempotencyKeyHeader post.idempotencyKey with
  | error message =>
      rw [header] at admitted
      cases admitted
  | ok raw =>
      rw [header] at admitted
      split at admitted
      · next order read =>
          cases admitted
          exact .made raw order now (header_given header) read (known order read)
      · cases admitted

theorem createOrder_promises {order : OrderBody} (known : order ∈ bodies) (raw : String)
    (now : Timestamp) :
    (createOrder platform raw order now).Promises (Describes platform bodies) := by
  intro inv rely writes rows
  change wp inv rely _ (onRows (order.work platform now)) _ writes rows
  unfold OrderBody.work
  split
  · next dto read =>
      simp only [createOrderWork, createOrderRow, onRows_bind, onRows_randomUUID, onRows_ite,
        onRows_throw, onRows_create, onRows_createEvent, onRows_pure, wp_bind, wp_randomUUID]
      intro orderId _ correlationId _
      split
      · simp only [wp_create, wp_bind, wp_createEvent, wp_enqueue, wp_pure]
        intros
        exact ⟨order, known, rfl, dto, read, rfl, rfl, rfl, rfl⟩
      · trivial
  · trivial

theorem Post.Calls.promises (calls : post.Calls platform bodies call) :
    call.Promises (Describes platform bodies) := by
  cases calls with
  | made raw order now key read known => exact createOrder_promises known raw now

/-- Of the calls of one post only the times differ. -/
theorem Post.Calls.same {other : Call} (calls : post.Calls platform bodies call)
    (again : post.Calls platform bodies other) :
    call.key = other.key ∧ call.requestHash = other.requestHash := by
  obtain ⟨raw, order, now, key, read, known⟩ := calls
  obtain ⟨again, body, later, sameKey, sameBody, _⟩ := again
  rw [key] at sameKey
  rw [read] at sameBody
  cases sameKey
  cases sameBody
  exact ⟨rfl, rfl⟩

end Calls

section Steps

variable {config : OrderService.Config} {platform : Platform} {redisOn : Bool}
variable {bodies : List OrderBody} {first : OrderDb} {gateway : Gateway} {action : Action}
variable {number : Nat} {post : Post}

/-- The call comes from the request that was made under its number. -/
def Gateway.Made (platform : Platform) (bodies : List OrderBody) (gateway : Gateway) (number : Nat)
    (call : Call) : Prop :=
  ∃ post, gateway.posts number = some post ∧ post.Calls platform bodies call

structure Gateway.Sound (config : OrderService.Config) (platform : Platform) (bodies : List OrderBody)
    (first : OrderDb) (gateway : Gateway) : Prop where
  consistent : Consistent config platform.uuid (Describes platform bodies) first gateway.service
  came : gateway.service.From (gateway.Made platform bodies)

theorem Gateway.step_posts (action : Action) (made : gateway.posts number = some post) :
    (gateway.step config platform redisOn action).posts number = some post := by
  cases action with
  | post other request now =>
      simp only [Gateway.step]
      split
      · exact made
      · next unmade =>
          have different : number ≠ other := by
            rintro rfl
            cases made.symm.trans unmade
          split <;> simpa [different] using made
  | progress event => cases event <;> exact made

/-- A step of the gateway is one of the order service, and only a new request is a new call. -/
theorem Gateway.step_cases (config : OrderService.Config) (redisOn : Bool) (gateway : Gateway)
    (known : ∀ order, action.order platform = some order → order ∈ bodies) :
    (gateway.step config platform redisOn action).service = gateway.service ∨
      ∃ event, (gateway.step config platform redisOn action).service =
          gateway.service.step config platform.uuid redisOn event ∧
        ∀ number call, event = .execute number call → gateway.posts number = none ∧
          (gateway.step config platform redisOn action).Made platform bodies number call := by
  cases action with
  | post number post now =>
      simp only [Gateway.step]
      cases unmade : gateway.posts number with
      | some => exact .inl rfl
      | none =>
          cases admitted : post.admit platform now with
          | error message => exact .inl rfl
          | ok call =>
              refine .inr ⟨.execute number call, rfl, ?_⟩
              rintro _ _ ⟨⟩
              exact ⟨unmade, post, by simp, admit_calls admitted known⟩
  | progress event =>
      by_cases entering : ∃ number call, event = .execute number call
      · obtain ⟨_, _, rfl⟩ := entering
        exact .inl rfl
      · refine .inr ⟨event, ?_, fun number call execute => absurd ⟨number, call, execute⟩ entering⟩
        cases event with
        | execute number call => exact absurd ⟨number, call, rfl⟩ entering
        | _ => rfl

theorem Gateway.Sound.step (sound : gateway.Sound config platform bodies first)
    (known : ∀ order, action.order platform = some order → order ∈ bodies) :
    (gateway.step config platform redisOn action).Sound config platform bodies first := by
  have grown (number : Nat) (call : Call) (made : gateway.Made platform bodies number call) :
      (gateway.step config platform redisOn action).Made platform bodies number call := by
    obtain ⟨post, made, calls⟩ := made
    exact ⟨post, Gateway.step_posts action made, calls⟩
  have came := sound.came.weaken grown
  rcases Gateway.step_cases config redisOn gateway known with same | ⟨event, stepped, comes⟩
  · exact ⟨same ▸ sound.consistent, same ▸ came⟩
  · constructor
    · rw [stepped]
      apply sound.consistent.step
      intro number call execute
      obtain ⟨_, post, _, calls⟩ := comes number call execute
      exact calls.promises
    · rw [stepped]
      exact came.step redisOn event fun number call execute => (comes number call execute).2

theorem Gateway.Sound.worked (sound : gateway.Sound config platform bodies first) {worker : Nat}
    {work : Call} {value : OrderResponse × Nat}
    (worked : Worked gateway.service.system worker work value)
    (known : ∀ order, action.order platform = some order → order ∈ bodies) :
    Worked (gateway.step config platform redisOn action).service.system worker work value := by
  rcases Gateway.step_cases config redisOn gateway known with same | ⟨event, stepped, _⟩
  · rw [same]
    exact worked
  · rw [stepped]
    exact sound.consistent.worked_step worked redisOn event

theorem Gateway.Sound.late (sound : gateway.Sound config platform bodies first) {worker : Nat}
    {work : Call} {value : OrderResponse × Nat}
    (worked : Worked gateway.service.system worker work value)
    (late : Late platform.uuid work number gateway.service)
    (known : ∀ order, action.order platform = some order → order ∈ bodies)
    (misuses : ∀ call, (gateway.step config platform redisOn action).Made platform bodies number call →
      Misuses platform.uuid work call) :
    Late platform.uuid work number (gateway.step config platform redisOn action).service := by
  rcases Gateway.step_cases config redisOn gateway known with same | ⟨event, stepped, comes⟩
  · rw [same]
    exact late
  · rw [stepped]
    apply late.step sound.consistent worked
    exact fun call execute => misuses call (comes number call execute).2

end Steps

section Runs

variable {config : OrderService.Config} {platform : Platform} {redisOn : Bool}
variable {bodies : List OrderBody} {first : OrderDb} {gateway : Gateway} {number : Nat} {post : Post}

theorem Gateway.Sound.initial (empty : ∀ key, first (idempotencyKey key) = none) :
    (Gateway.initial first).Sound config platform bodies first where
  consistent := .initial empty
  came := .initial first

theorem Gateway.run_posts (actions : List Action) (made : gateway.posts number = some post) :
    (gateway.run config platform redisOn actions).posts number = some post := by
  induction actions generalizing gateway with
  | nil => exact made
  | cons action rest ih => exact ih (Gateway.step_posts action made)

theorem orders_cons (action : Action) (rest : List Action)
    (known : orders platform (action :: rest) ⊆ bodies) :
    (∀ order, action.order platform = some order → order ∈ bodies) ∧
      orders platform rest ⊆ bodies := by
  constructor
  · intro order read
    exact known (by simp [orders, read])
  · intro order member
    obtain ⟨other, later, read⟩ := List.mem_filterMap.mp member
    exact known (List.mem_filterMap.mpr ⟨other, List.mem_cons_of_mem _ later, read⟩)

theorem orders_append (platform : Platform) (before later : List Action) :
    orders platform before ⊆ orders platform (before ++ later) ∧
      orders platform later ⊆ orders platform (before ++ later) := by
  rw [orders, orders, orders, List.filterMap_append]
  exact ⟨List.subset_append_left _ _, List.subset_append_right _ _⟩

theorem Gateway.run_append (before later : List Action) :
    gateway.run config platform redisOn (before ++ later) =
      (gateway.run config platform redisOn before).run config platform redisOn later :=
  List.foldl_append

theorem Gateway.Sound.run (sound : gateway.Sound config platform bodies first) (redisOn : Bool)
    (actions : List Action) (known : orders platform actions ⊆ bodies) :
    (gateway.run config platform redisOn actions).Sound config platform bodies first := by
  induction actions generalizing gateway with
  | nil => exact sound
  | cons action rest ih =>
      obtain ⟨now, later⟩ := orders_cons action rest known
      exact ih (sound.step now) later

theorem Gateway.Sound.unmade (sound : gateway.Sound config platform bodies first)
    (unmade : gateway.posts number = none) (work : Call) :
    Late platform.uuid work number gateway.service := by
  have uncalled (call : Call) : (gateway.service.phases number).call ≠ some call := by
    intro held
    obtain ⟨post, made, _⟩ := sound.came.phases number call held
    cases made.symm.trans unmade
  constructor
  · cases phase : gateway.service.phases number with
    | idle | fetching | looking => trivial
    | transacting call | caching call | recovering call | answered call | crashed call =>
        exact absurd (by rw [phase]; rfl) (uncalled call)
  · exact fun call held => absurd held (uncalled call)

/-- A request that is made after the work is done, and misuses its key. -/
theorem Gateway.Sound.late_run (sound : gateway.Sound config platform bodies first)
    (redisOn : Bool) {worker : Nat}
    {work : Call} {value : OrderResponse × Nat} (actions : List Action)
    (worked : Worked gateway.service.system worker work value)
    (late : Late platform.uuid work number gateway.service)
    (known : orders platform actions ⊆ bodies)
    (misuses : ∀ call, (gateway.run config platform redisOn actions).Made platform bodies number call →
      Misuses platform.uuid work call) :
    Late platform.uuid work number (gateway.run config platform redisOn actions).service := by
  induction actions generalizing gateway with
  | nil => exact late
  | cons action rest ih =>
      obtain ⟨now, later⟩ := orders_cons action rest known
      apply ih (sound.step now) (sound.worked worked now) _ later misuses
      apply sound.late worked late now
      intro call made
      obtain ⟨post, made, calls⟩ := made
      exact misuses call ⟨post, Gateway.run_posts rest made, calls⟩

end Runs

/-- No two of the bodies have one hash. -/
def CollisionFree (platform : Platform) (bodies : List OrderBody) : Prop :=
  ∀ one ∈ bodies, ∀ other ∈ bodies, platform.hashBody one = platform.hashBody other → one = other

section Answers

variable {platform : Platform} {bodies : List OrderBody} {post : Post} {call : Call}

theorem sent_customer {order : OrderBody} (accepted : Accepted post.sentBody order) :
    order.customerId = post.customerId := by
  have customer := accepted.customerId
  rw [Post.sentBody, lookup_sentMembers, Post.forwardedBody, lookup_withMember] at customer
  simpa [sent] using customer.symm

theorem lookup_sentBody {name : String} (different : name ≠ "customerId") :
    post.sentBody.lookup name = (post.body.lookup name).map sent := by
  rw [Post.sentBody, lookup_sentMembers, Post.forwardedBody, lookup_withMember_other different]

theorem sent_currency {order : OrderBody} (accepted : Accepted post.sentBody order) :
    order.currency.join.getD "USD" = askedCurrency post.body := by
  have currency := accepted.currency
  rw [lookup_sentBody (by decide)] at currency
  unfold askedCurrency
  cases asked : post.body.lookup "currency" with
  | none =>
      rw [asked] at currency
      cases given : order.currency with
      | none => rfl
      | some => simp [given] at currency
  | some value =>
      rw [asked] at currency
      cases given : order.currency with
      | none => simp [given] at currency
      | some code =>
          rw [given] at currency
          cases code with
          | none =>
              -- An infinity arrives as null.
              cases value <;> simp_all [sent]
          | some code =>
              have text : value = .text code := sent_text (Option.some.inj currency)
              rw [text]
              rfl

/-- An element that the pipe has read as an item asks for the line made of it. -/
theorem lineOf_read {element : JsonValue} {read : ItemElement} {item : CreateOrderItemDto}
    (accepted : ItemRead (sent element) read) (made : read.dto platform = some item) :
    LineOf platform element item.lineItem := by
  generalize arrived : sent element = value at accepted
  cases accepted with
  | item members body productId quantity unitPriceCents =>
      obtain ⟨before, rfl, rfl⟩ := sent_object arrived
      cases made
      rw [lookup_sentMembers, Option.map_eq_some_iff] at productId quantity unitPriceCents
      obtain ⟨_, product, text⟩ := productId
      obtain ⟨_, pieces, number⟩ := quantity
      obtain ⟨_, price, cents⟩ := unitPriceCents
      rw [sent_text text] at product
      rw [sent_number number] at pieces
      rw [sent_number cents] at price
      exact .line before body.productId _ product rfl pieces price
  | null => cases made
  | array => cases made

theorem linesOf_read {elements : List JsonValue} {read : List ItemElement}
    {items : List CreateOrderItemDto} (accepted : List.Forall₂ ItemRead (elements.map sent) read)
    (made : read.mapM (ItemElement.dto platform) = some items) :
    List.Forall₂ (LineOf platform) elements (items.map CreateOrderItemDto.lineItem) := by
  induction elements generalizing read items with
  | nil =>
      cases accepted
      cases made
      exact .nil
  | cons element rest ih =>
      cases accepted with
      | cons first others =>
          simp only [List.mapM_cons, Option.bind_eq_bind, Option.bind_eq_some_iff] at made
          obtain ⟨item, itemMade, later, laterMade, same⟩ := made
          cases same
          exact .cons (lineOf_read first itemMade) (ih others laterMade)

theorem dto_read {order : OrderBody} {dto : CreateOrderDto} (made : order.dto platform = some dto) :
    dto.customerId = platform.uuid order.customerId ∧ dto.currency = order.currency.join ∧
      order.items.mapM (ItemElement.dto platform) = some dto.items := by
  unfold OrderBody.dto at made
  split at made
  · next items read =>
      cases made
      exact ⟨rfl, rfl, read⟩
  · cases made

/-- What work has answered for a body is the order that its caller has asked for. -/
theorem ownOrder_read {order : OrderBody} {dto : CreateOrderDto} {response : OrderResponse}
    (accepted : Accepted post.sentBody order) (made : order.dto platform = some dto)
    (customerId : response.customerId = dto.customerId) (items : response.items = dto.lineItems)
    (currency : response.currency = dto.currency.getD "USD") : OwnOrder platform post response := by
  obtain ⟨customer, code, lines⟩ := dto_read made
  obtain ⟨arrived, member, read⟩ := accepted.items
  rw [lookup_sentBody (by decide), Option.map_eq_some_iff] at member
  obtain ⟨value, asked, array⟩ := member
  obtain ⟨elements, rfl, rfl⟩ := sent_array array
  constructor
  · rw [customerId, customer, sent_customer accepted]
  · exact ⟨elements, asked, items ▸ linesOf_read read lines⟩
  · rw [currency, code, sent_currency accepted]

theorem Post.Calls.ownOrder (validates : platform.Validates)
    (collisionFree : CollisionFree platform bodies) (calls : post.Calls platform bodies call)
    {work : Call} {value : OrderResponse × Nat} (describes : Describes platform bodies work value)
    (same : work.requestHash = call.requestHash) :
    OwnOrder platform post value.1 ∧ value.2 = 201 := by
  obtain ⟨raw, order, now, _, read, known⟩ := calls
  obtain ⟨body, member, hash, dto, made, customerId, items, currency, statusCode⟩ := describes
  have equal : body = order := collisionFree body member order known (hash.trans same)
  subst equal
  exact ⟨ownOrder_read (validates _ _ read) made customerId items currency, statusCode⟩

theorem Post.Calls.differs (validates : platform.Validates)
    (collisionFree : CollisionFree platform bodies)
    (calls : post.Calls platform bodies call) {other : Post} {work : Call}
    (worker : other.Calls platform bodies work) (differs : Differs platform other post) :
    work.requestHash ≠ call.requestHash := by
  obtain ⟨raw, order, now, _, read, known⟩ := calls
  obtain ⟨_, body, _, _, bodyRead, member⟩ := worker
  intro hash
  have equal : body = order := collisionFree body member order known hash
  subst equal
  rcases differs with customers | bodies
  · apply customers
    rw [← sent_customer (validates _ _ bodyRead), sent_customer (validates _ _ read)]
  · exact bodies (by rw [bodyRead, read])

end Answers

/-- What a caller gets back is its own order, and a key that another customer or another body has
used gives nothing away. -/
theorem caller_gets_own_order (config : OrderService.Config) (platform : Platform) (redisOn : Bool)
    (validates : platform.Validates) (first : OrderDb)
    (empty : ∀ key, first (idempotencyKey key) = none) (actions : List Action)
    (collisionFree : CollisionFree platform (orders platform actions)) (gateway : Gateway)
    (ran : (Gateway.initial first).run config platform redisOn actions = gateway) :
    (∀ number post call result, gateway.posts number = some post →
        gateway.service.phases number = .answered call (.returned result) →
          ∃ response, (reply (.returned result)).order = some response ∧
            (reply (.returned result)).status = 201 ∧ OwnOrder platform post response) ∧
      ∀ worker work value other number post call answer,
        Worked gateway.service.system worker work value → gateway.posts worker = some other →
          gateway.posts number = some post → gateway.service.phases number = .answered call answer →
            platform.uuid work.key = platform.uuid call.key → Differs platform other post →
              (reply answer).order = none ∧
                (answer = .unprocessable ∨ ∃ error, answer = .failed error) ∧
                  ∀ before later, actions = before ++ later →
                    Worked ((Gateway.initial first).run config platform redisOn before).service.system
                        worker work value →
                      ((Gateway.initial first).run config platform redisOn before).posts number = none →
                        (reply answer).status = 422 := by
  have started : (Gateway.initial first).Sound config platform (orders platform actions) first :=
    .initial empty
  have sound : gateway.Sound config platform (orders platform actions) first :=
    ran ▸ started.run redisOn actions fun _ => id
  have calls {number : Nat} {post : Post} {call : Call} {answer : Answer}
      (made : gateway.posts number = some post)
      (answered : gateway.service.phases number = .answered call answer) :
      post.Calls platform (orders platform actions) call := by
    obtain ⟨request, same, calls⟩ := sound.came.phases number call (by rw [answered]; rfl)
    cases made.symm.trans same
    exact calls
  constructor
  · intro number post call result made answered
    have fits := sound.consistent.phases number
    rw [answered] at fits
    obtain ⟨worker, work, value, worked, _, hash, response, statusCode, _⟩ := fits
    have describes := (sound.consistent.accounted.worked worker work value worked).2
    obtain ⟨own, created⟩ := (calls made answered).ownOrder validates collisionFree describes hash
    exact ⟨value.1, response, statusCode.trans created, own⟩
  · intro worker work value other number post call answer worked workerMade made answered sameKey
      differs
    have mine := calls made answered
    have theirs : other.Calls platform (orders platform actions) work := by
      obtain ⟨request, same, calls⟩ := sound.came.slots worker work (by rw [worked]; rfl)
      cases workerMade.symm.trans same
      exact calls
    have hash := mine.differs validates collisionFree theirs differs
    have turnedAway := (sound.consistent.hash_iff worked answered sameKey).1 hash
    refine ⟨?_, turnedAway, ?_⟩
    · rcases turnedAway with rfl | ⟨error, rfl⟩ <;> rfl
    · rintro before later rfl workedBefore unmade
      obtain ⟨knownBefore, knownLater⟩ := orders_append platform before later
      have earlier := started.run redisOn before knownBefore
      have misuses (entered : Call)
          (enters : gateway.Made platform (orders platform (before ++ later)) number entered) :
          Misuses platform.uuid work entered := by
        obtain ⟨request, same, entering⟩ := enters
        cases made.symm.trans same
        obtain ⟨key, body⟩ := mine.same entering
        exact ⟨key ▸ sameKey, body ▸ hash⟩
      rw [← ran, Gateway.run_append] at misuses
      have late := earlier.late_run redisOn later workedBefore (earlier.unmade unmade work) knownLater
        misuses
      rw [← Gateway.run_append, ran] at late
      have refused := late.turnedAway
      rw [answered] at refused
      rw [show answer = .unprocessable from refused]
      rfl

section Sample

def sampleCustomer : String := "3f0c8a52-6b1e-4d7a-9c34-5e2a7b81d001"

def sampleStranger : String := "3f0c8a52-6b1e-4d7a-9c34-5e2a7b81d002"

/-- Accepts two pieces at 50 cents each. -/
def sampleValidate (body : JsonObject) : Option OrderBody :=
  match body.lookup "customerId", body.lookup "items", body.lookup "currency" with
  | some (.text customerId), some (.array [.object item]), none =>
      match item.lookup "productId", item.lookup "quantity", item.lookup "unitPriceCents" with
      | some (.text productId), some (.number quantity), some (.number unitPriceCents) =>
          if quantity = 2 ∧ unitPriceCents = 50 then
            some
              { customerId
                items := [.item
                  { productId, quantity := ⟨2, by decide⟩, unitPriceCents := ⟨50, by decide⟩ }]
                currency := none
                json := "\x7b\"customerId\":\"" ++ customerId ++
                  "\",\"items\":[\x7b\"productId\":\"" ++ productId ++
                  "\",\"quantity\":2,\"unitPriceCents\":50\x7d]\x7d"
                itemsNotEmpty := List.cons_ne_nil _ _ }
          else none
      | _, _, _ => none
  | _, _, _ => none

def samplePlatform : Platform :=
  { uuid := fun text => if text = sampleCustomer then 11 else if text = sampleStranger then 12 else 0
    validate := sampleValidate
    sha256 := id
    malformed := "Cannot read properties of null (reading 'quantity')" }

theorem samplePlatform_validates : samplePlatform.Validates := by
  intro body order read
  simp only [samplePlatform, sampleValidate] at read
  split at read
  · next customerId item customer items currency =>
      split at read
      · next productId quantity unitPriceCents product pieces price =>
          split at read
          · next same =>
              cases read
              constructor
              · exact customer
              · refine ⟨_, items, .cons (.item item _ product ?_ ?_) .nil⟩
                · simpa [same.1] using pieces
                · simpa [same.2] using price
              · exact currency
          · cases read
      · cases read
  · cases read

def sampleBody (claimed : String) : JsonObject :=
  [("customerId", .text claimed),
    ("items", .array [.object [("productId", .text "7d2f4c10-91ab-4e55-8f60-2b9c3d4e5f60"),
      ("quantity", .number 2), ("unitPriceCents", .number 50)]])]

def samplePost (customerId : String) : Post :=
  -- Both requests name the same customer.
  { customerId, body := sampleBody sampleCustomer, idempotencyKey := some sampleLower }

def sampleProgress : List Event :=
  [.get 0 none, .find 0, .statement 0 0, .statement 0 21, .statement 0 22, .statement 0 0,
    .statement 0 23, .statement 0 24, .statement 0 0, .statement 0 0, .statement 0 0, .settle 0,
    .set 0]

def sampleActions : List Action :=
  .post 0 (samplePost sampleCustomer) 0 :: sampleProgress.map .progress ++
    [.post 1 (samplePost sampleStranger) 0, .progress (.get 1 (some 0))]

def sampleGateway : Gateway :=
  (Gateway.initial fun _ => none).run OrderService.sampleConfig samplePlatform true sampleActions

def sampleReply (number : Nat) : Option Reply :=
  match sampleGateway.service.phases number with
  | .answered _ answer => some (reply answer)
  | _ => none

theorem caller_gets_own_order_sample :
    sampleReply 0 = some
        { status := 201
          replayed := some false
          order := some
            { id := 21
              customerId := 11
              status := .pending
              paymentStatus := .pending
              inventoryStatus := .pending
              totalAmountCents := 100
              currency := "USD"
              correlationId := 22
              createdAt := 0
              items := [{ productId := 0, quantity := 2, unitPriceCents := 50 }] } } ∧
      sampleReply 1 = some { status := 422, replayed := none, order := none } ∧
        ∀ call result, sampleGateway.service.phases 0 = .answered call (.returned result) →
          ∃ response, (reply (.returned result)).order = some response ∧
            (reply (.returned result)).status = 201 ∧
              OwnOrder samplePlatform (samplePost sampleCustomer) response := by
  refine ⟨by decide +kernel, by decide +kernel, ?_⟩
  intro call result answered
  have collisionFree : CollisionFree samplePlatform (orders samplePlatform sampleActions) := by
    unfold CollisionFree
    decide +kernel
  have own := (caller_gets_own_order OrderService.sampleConfig samplePlatform true
    samplePlatform_validates _ (fun _ => rfl) sampleActions collisionFree sampleGateway rfl).1
  exact own 0 (samplePost sampleCustomer) call result rfl answered

end Sample

end Ecommerce.ApiGateway
