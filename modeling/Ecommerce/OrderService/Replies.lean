import Ecommerce.Kafka.EventCodec
import Ecommerce.OrderService.OneAnswer

set_option autoImplicit false

/-!
# What a caller reads

The reply to a repeated request comes from the text that Redis keeps, or else from a JSONB column.
-/

namespace Ecommerce.OrderService

open Kafka

def OrderStatus.text : OrderStatus → String
  | .pending => "PENDING"
  | .confirmed => "CONFIRMED"
  | .cancelled => "CANCELLED"

def LegStatus.text : LegStatus → String
  | .pending => "PENDING"
  | .succeeded => "SUCCEEDED"
  | .failed => "FAILED"

def OrderStatus.codec : Codec OrderStatus :=
  .named [.pending, .confirmed, .cancelled] OrderStatus.text fun status => by
    cases status <;> decide

def LegStatus.codec : Codec LegStatus :=
  .named [.pending, .succeeded, .failed] LegStatus.text fun status => by cases status <;> decide

section Codecs

variable (texts : Texts)

def OrderResponse.codec : Codec OrderResponse :=
  (((Fields.one "id" texts.uuid).and <| (Fields.one "customerId" texts.uuid).and <|
      (Fields.one "status" OrderStatus.codec).and <|
        (Fields.one "paymentStatus" LegStatus.codec).and <|
          (Fields.one "inventoryStatus" LegStatus.codec).and <|
            (Fields.one "totalAmountCents" .natural).and <| (Fields.one "currency" .text).and <|
              (Fields.one "correlationId" texts.uuid).and <|
                (Fields.one "createdAt" texts.date).and <|
                  .one "items" (OrderLineItem.codec texts).list).object (by decide)
      (by decide)).via (fun _ => True)
    (fun order => (order.id, order.customerId, order.status, order.paymentStatus,
      order.inventoryStatus, order.totalAmountCents, order.currency, order.correlationId,
      order.createdAt, order.items))
    (fun (id, customerId, status, paymentStatus, inventoryStatus, totalAmountCents, currency,
        correlationId, createdAt, items) =>
      some { id, customerId, status, paymentStatus, inventoryStatus, totalAmountCents, currency,
             correlationId, createdAt, items })
    fun _ _ => rfl

def Cached.codec : Codec Cached :=
  (((Fields.one "hash" .text).and <| (Fields.one "response" (OrderResponse.codec texts)).and <|
      .one "statusCode" .natural).object (by decide) (by decide)).via (fun _ => True)
    (fun cached => (cached.hash, cached.response, cached.statusCode))
    (fun (hash, response, statusCode) => some { hash, response, statusCode })
    fun _ _ => rfl

end Codecs

/-- The integers and the date of a response are those of JavaScript. -/
structure OrderResponse.Exact (response : OrderResponse) : Prop where
  dated : response.createdAt ≤ maxTime
  total : response.totalAmountCents ≤ maxExact
  items : ∀ item ∈ response.items, item.quantity ≤ maxExact ∧ item.unitPriceCents ≤ maxExact

section Fits

variable {texts : Texts}

theorem response_fits {response : OrderResponse} (exact : response.Exact) :
    (OrderResponse.codec texts).Fits response := by
  have items (item : OrderLineItem) (member : item ∈ response.items) :
      (OrderLineItem.codec texts).Fits item := by
    have both := exact.items item member
    exact lineItem_fits both.1 both.2
  simpa [OrderResponse.codec, OrderStatus.codec, LegStatus.codec, exact.dated, exact.total]
    using items

theorem cached_fits {cached : Cached} (exact : cached.response.Exact)
    (code : cached.statusCode ≤ maxExact) : (Cached.codec texts).Fits cached := by
  simp [Cached.codec, response_fits exact, code]

end Fits

section Bodies

variable (texts : Texts) (decimal : JsString → Option JsString)

/-- The body that `res.json` sends. -/
def OrderResponse.body (response : OrderResponse) : List UInt8 :=
  publishedValue decimal ((OrderResponse.codec texts).write response)

/-- What `setEx` stores. -/
def Cached.stored (cached : Cached) : List UInt8 :=
  publishedValue decimal ((Cached.codec texts).write cached)

/-- The body of the reply to a call for which Redis has an entry. -/
def cachedBody (stored : List UInt8) : Option (List UInt8) :=
  (jsonParse (bufferToString stored)).bind fun parsed =>
    (parsed.property (units "response")).map (publishedValue decimal)

/-- The body of the reply to a call for which Postgres has a row. -/
def rowBody (arrange : List (JsString × Json) → List (JsString × Json))
    (response : OrderResponse) : List UInt8 :=
  publishedValue decimal (((OrderResponse.codec texts).write response).arranged arrange)

/-- The caller parses a body and finds this response. -/
def ReadsAs (body : List UInt8) (response : OrderResponse) : Prop :=
  ∃ parsed, jsonParse (bufferToString body) = some parsed ∧
    (OrderResponse.codec texts).read parsed = some response

end Bodies

section Replies

variable {texts : Texts} {decimal : JsString → Option JsString}

theorem cachedBody_stored (numeric : Numeric decimal) (settled : Settled decimal) {cached : Cached}
    (fits : (Cached.codec texts).Fits cached) :
    cachedBody decimal (cached.stored texts decimal) =
      some (cached.response.body texts decimal) := by
  have valid := (Cached.codec texts).valid cached fits
  have inner := (OrderResponse.codec texts).valid cached.response fits.2.2.1
  have member : ((Cached.codec texts).write cached).property (units "response") =
      some ((OrderResponse.codec texts).write cached.response) := rfl
  rw [cachedBody, Cached.stored, jsonParse_publishedValue numeric valid, Option.bind_some,
    property_normal decimal valid, member, Option.map_some, Option.map_some, publishedValue,
    stringify_normal settled inner]
  rfl

theorem readsAs_publishedValue (numeric : Numeric decimal) (exact : KeepsIntegers decimal)
    {transport : Json → Json} (faithful : Faithful transport) {response : OrderResponse}
    (fits : (OrderResponse.codec texts).Fits response) :
    ReadsAs texts
      (publishedValue decimal (transport ((OrderResponse.codec texts).write response)))
      response := by
  have valid := faithful.valid _ ((OrderResponse.codec texts).valid response fits)
  have reads := (OrderResponse.codec texts).reads response _ fits
    (faithful.comp (normal_faithful numeric exact))
  exact ⟨_, jsonParse_publishedValue numeric valid, reads⟩

end Replies

/-- However the calls interleave: a caller reads the response of the work that has committed under a
key, also from a JSONB column, and what Redis keeps of it is answered with byte for byte. -/
theorem replays_read_as_the_first (config : Config) (uuid : ToUuid) (redisOn : Bool)
    (first : OrderDb) (empty : ∀ key, first (idempotencyKey key) = none) (events : List Event)
    (service : Service) (ran : (Service.initial first).run config uuid redisOn events = service)
    (texts : Texts) (decimal : JsString → Option JsString) (numeric : Numeric decimal)
    (settled : Settled decimal) (exact : KeepsIntegers decimal)
    (arrange : List (JsString × Json) → List (JsString × Json))
    (keeps : ∀ members, (arrange members).Perm members) :
    ∀ worker work value, Worked service.system worker work value → value.1.Exact →
      value.2 ≤ maxExact →
        ReadsAs texts (value.1.body texts decimal) value.1 ∧
        (∀ key cached, (redisKey key, cached) ∈ service.redis → uuid key = uuid work.key →
          (∃ parsed, jsonParse (bufferToString (cached.stored texts decimal)) = some parsed ∧
            (Cached.codec texts).read parsed = some cached) ∧
          cached.statusCode = value.2 ∧
            cachedBody decimal (cached.stored texts decimal) = some (value.1.body texts decimal)) ∧
        (∀ row : IdempotencyKey,
          service.system.rows (idempotencyKey (uuid work.key)) = some row →
            ∃ response, row.response = some response ∧ row.statusCode = some value.2 ∧
              ReadsAs texts (rowBody texts decimal arrange response) value.1) ∧
        ∀ number call result, service.phases number = .answered call (.returned result) →
          uuid call.key = uuid work.key →
            result.response = some value.1 ∧ result.statusCode = value.2 := by
  have consistent : Consistent config uuid (fun _ _ => True) first service :=
    ran ▸ (Consistent.initial empty).run redisOn events fun _ call _ => call.promises_nothing
  intro worker work value worked small code
  have fits : (OrderResponse.codec texts).Fits value.1 := response_fits small
  have same {other : Nat} {job : Call} {found : OrderResponse × Nat}
      (theirs : Worked service.system other job found) (key : uuid job.key = uuid work.key) :
      found = value := by
    have one := consistent.accounted.once other worker job work found value theirs worked key
    subst one
    cases theirs.symm.trans worked
    rfl
  refine ⟨readsAs_publishedValue numeric exact .refl fits, ?_, ?_, ?_⟩
  · intro key cached entry sameKey
    obtain ⟨other, job, found, theirs, cachedAs⟩ := consistent.redis _ entry
    obtain ⟨named, rfl⟩ := Prod.mk.inj cachedAs
    have spelled : key = job.key := redisKey_injective named
    cases same theirs (spelled ▸ sameKey)
    have entryFits : (Cached.codec texts).Fits (cachedEntry job value).2 := cached_fits small code
    have valid := (Cached.codec texts).valid _ entryFits
    exact ⟨⟨_, jsonParse_publishedValue numeric valid, (Cached.codec texts).reads _ _ entryFits
      (normal_faithful numeric exact)⟩, rfl, cachedBody_stored numeric settled entryFits⟩
  · intro row present
    obtain ⟨other, job, found, theirs, key, rfl⟩ := consistent.accounted.rows _ row present
    cases same theirs key
    exact ⟨value.1, rfl, rfl, readsAs_publishedValue numeric exact (arranged_faithful keeps) fits⟩
  · intro number call result answered sameKey
    have explained := consistent.phases number
    rw [answered] at explained
    obtain ⟨other, job, found, theirs, key, -, response, statusCode, -⟩ := explained
    cases same theirs (key.trans sameKey)
    exact ⟨response, statusCode⟩

section Sample

def sampleResponse : OrderResponse := toResponse (sampleRequest.order 7 8)

theorem sampleBurst_worked : Worked sampleBurstService.system 0 (sampleCall sampleLower "one")
    (sampleResponse, 201) := rfl

theorem sampleResponse_exact : sampleResponse.Exact where
  dated := by decide
  total := by decide
  items := by decide

def sampleEntry : Cached :=
  { hash := "one", response := sampleResponse, statusCode := 201 }

theorem replays_read_as_the_first_burst :
    (redisKey sampleLower, sampleEntry) ∈ sampleBurstService.redis ∧
      cachedBody some (sampleEntry.stored sampleTexts some) =
        some (sampleResponse.body sampleTexts some) ∧
      ReadsAs sampleTexts (sampleResponse.body sampleTexts some) sampleResponse := by
  have entry : (redisKey sampleLower, sampleEntry) ∈ sampleBurstService.redis := by
    decide +kernel
  obtain ⟨fresh, cached, -, -⟩ := replays_read_as_the_first sampleConfig sampleUuid true _
    (fun _ => rfl) sampleBurst sampleBurstService rfl sampleTexts some numeric_some settled_some
    (fun _ _ => rfl) List.reverse List.reverse_perm 0 _ _ sampleBurst_worked sampleResponse_exact
    (by decide)
  exact ⟨entry, (cached sampleLower sampleEntry entry rfl).2.2, fresh⟩

end Sample

end Ecommerce.OrderService
