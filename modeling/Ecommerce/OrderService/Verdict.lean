import Ecommerce.OrderService.SagaRun
import Ecommerce.Shared.Completion

set_option autoImplicit false

/-!
# The saga's verdict and the order of arrival

Outcomes that arrive after an order was settled are dropped, so that its legs and the reason of a
cancellation depend on the order of arrival. Its status does not.
-/

namespace Ecommerce.OrderService

open Transaction

def SagaState.handle (state : SagaState) (delivery : Delivery) : SagaState :=
  state.commit (delivery.body.transaction none state.database state.nextUuid)

def SagaState.handleAll (state : SagaState) (deliveries : List Delivery) : SagaState :=
  deliveries.foldl SagaState.handle state

/-- A drawn UUID is not the id of a row that is there. -/
def SagaState.Fresh (state : SagaState) : Prop :=
  ∀ rowId, state.nextUuid ≤ rowId → state.database (outboxKey rowId) = none

def outcomes (deliveries : List Delivery) : List OutcomeEvent :=
  deliveries.map Delivery.toOutcomeEvent

def reported (events : List OutcomeEvent) (orderId : Uuid) (leg : Leg) (outcome : Outcome) : Bool :=
  events.any fun event =>
    event.orderId == orderId && event.leg == leg && event.outcome == outcome

/-- What a set of outcome events makes of an order. -/
def verdict (events : List OutcomeEvent) (orderId : Uuid) (order : Order) : OrderStatus :=
  if order.status ≠ .pending then order.status
  else if reported events orderId .payment .failed || reported events orderId .inventory .failed then
    .cancelled
  else if (order.leg .payment = .succeeded ∨ reported events orderId .payment .succeeded) ∧
      (order.leg .inventory = .succeeded ∨ reported events orderId .inventory .succeeded) then
    .confirmed
  else .pending

/-- A PENDING order as the handlers leave it, with no leg recorded that an event contradicts. -/
structure Undecided (events : OutcomeEvent → Prop) (orderId : Uuid) (order : Order) : Prop where
  settlement : order.settlement = none
  recorded : ∀ event, events event → event.orderId = orderId →
    order.leg event.leg = .pending ∨ order.leg event.leg = event.outcome.legStatus

section Reported

variable {events one two : List OutcomeEvent} {orderId : Uuid} {leg : Leg} {outcome : Outcome}

theorem reported_iff : reported events orderId leg outcome = true ↔
    ∃ event ∈ events, event.orderId = orderId ∧ event.leg = leg ∧ event.outcome = outcome := by
  simp [reported, and_assoc]

theorem reported_congr (same : ∀ event, event ∈ one ↔ event ∈ two) :
    reported one orderId leg outcome = reported two orderId leg outcome := by
  rw [Bool.eq_iff_iff, reported_iff, reported_iff]
  simp only [same]

theorem verdict_congr (same : ∀ event, event ∈ one ↔ event ∈ two) (order : Order) :
    verdict one orderId order = verdict two orderId order := by
  simp only [verdict, reported_congr same]

theorem reported_append (event : OutcomeEvent) :
    reported (events ++ [event]) orderId leg outcome =
      (reported events orderId leg outcome ||
        (event.orderId == orderId && event.leg == leg && event.outcome == outcome)) := by
  simp [reported]

end Reported

/-- What handling an outcome makes of the order that it is about. -/
def Delivery.apply (delivery : Delivery) (order : Order) : Order :=
  if order.status = .pending then
    { delivery.record order with status := (delivery.record order).settlement.getD .pending }
  else order

/-- How far an order has come when these events have been handled. -/
structure Stands (events : List OutcomeEvent) (orderId : Uuid) (order current : Order) : Prop where
  status : current.status = verdict events orderId order
  legs : current.status = .pending → ∀ leg, current.leg leg =
    if reported events orderId leg .succeeded then .succeeded else order.leg leg

section Orders

variable {events : OutcomeEvent → Prop} {done : List OutcomeEvent} {event : OutcomeEvent}
variable {orderId : Uuid} {order current : Order}

theorem Stands.congr {other : List OutcomeEvent} (stands : Stands done orderId order current)
    (same : ∀ event, event ∈ other ↔ event ∈ done) : Stands other orderId order current where
  status := stands.status.trans (verdict_congr same order).symm
  legs pending leg := by rw [stands.legs pending leg, reported_congr same]

theorem Stands.other (stands : Stands done orderId order current)
    (elsewhere : event.orderId ≠ orderId) : Stands (done ++ [event]) orderId order current := by
  have same (leg : Leg) (outcome : Outcome) :
      reported (done ++ [event]) orderId leg outcome = reported done orderId leg outcome := by
    simp [reported_append, elsewhere]
  exact
    { status := by simpa only [verdict, same] using stands.status
      legs := by simpa only [same] using stands.legs }

theorem unreported (distinct : Distinct events) (known : ∀ event ∈ done, events event)
    (new : events event) (unhandled : event ∉ done) (outcome : Outcome) :
    reported done event.orderId event.leg outcome = false := by
  rw [Bool.eq_false_iff, ne_eq, reported_iff]
  rintro ⟨other, member, about, leg, -⟩
  exact unhandled (distinct.legs other event (known other member) new about leg ▸ member)

theorem Stands.dropped (stands : Stands done event.orderId order current)
    (undecided : order.status = .pending → Undecided events event.orderId order)
    (known : events event) (first : ∀ outcome, reported done event.orderId event.leg outcome = false)
    (settled : current.status ≠ .pending) :
    Stands (done ++ [event]) event.orderId order current := by
  refine ⟨?_, fun pending => absurd pending settled⟩
  -- An order that its legs confirmed without this event has the event's leg recorded.
  rw [stands.status] at settled ⊢
  unfold verdict at settled ⊢
  by_cases open_order : order.status = .pending
  · have recorded := (undecided open_order).recorded event known rfl
    cases leg : event.leg <;> cases outcome : event.outcome <;>
      simp_all [reported_append, Outcome.legStatus] <;> grind
  · simp [open_order]

/-- The legs of an order that is still PENDING: none has failed, and not both have succeeded. -/
theorem Stands.open_legs (stands : Stands done orderId order current)
    (undecided : order.status = .pending → Undecided events orderId order)
    (pending : current.status = .pending) :
    order.status = .pending ∧ current.settlement = none ∧
      (∀ leg, reported done orderId leg .failed = false) ∧
      ∀ leg, current.leg leg = .succeeded ↔
        (order.leg leg = .succeeded ∨ reported done orderId leg .succeeded = true) := by
  have legs := stands.legs pending
  have decided := stands.status
  rw [pending] at decided
  unfold verdict at decided
  split at decided
  · next moved => exact absurd decided.symm moved
  · next open_order =>
      rw [not_not] at open_order
      split at decided
      · cases decided
      · next noneFailed =>
          split at decided
          · cases decided
          · next notBoth =>
              rw [Bool.or_eq_true, not_or, Bool.not_eq_true, Bool.not_eq_true] at noneFailed
              have succeeded (leg : Leg) : current.leg leg = .succeeded ↔
                  (order.leg leg = .succeeded ∨ reported done orderId leg .succeeded = true) := by
                rw [legs leg]
                split <;> simp_all
              have first := (undecided open_order).settlement
              have payment := legs .payment
              have inventory := legs .inventory
              refine ⟨open_order, ?_, fun leg => ?_, succeeded⟩
              · rw [← succeeded, ← succeeded] at notBoth
                simp only [Order.leg, Order.settlement] at first payment inventory notBoth ⊢
                grind
              · cases leg
                · exact noneFailed.1
                · exact noneFailed.2

theorem Stands.recorded (stands : Stands done event.orderId order current)
    (undecided : order.status = .pending → Undecided events event.orderId order)
    (first : ∀ outcome, reported done event.orderId event.leg outcome = false)
    (pending : current.status = .pending) :
    Stands (done ++ [event]) event.orderId order
      { current.recordLeg event.leg event.outcome with
        status := (current.recordLeg event.leg event.outcome).settlement.getD .pending } := by
  obtain ⟨open_order, undecidedNow, noneFailed, succeeded⟩ := stands.open_legs undecided pending
  have legs := stands.legs pending
  have payment := succeeded .payment
  have inventory := succeeded .inventory
  have paymentFailed := noneFailed .payment
  have inventoryFailed := noneFailed .inventory
  constructor
  · simp only [Order.leg] at payment inventory
    simp only [Order.settlement] at undecidedNow
    cases leg : event.leg <;> cases outcome : event.outcome <;>
      simp_all [verdict, reported_append, Order.settlement, Order.recordLeg, Outcome.legStatus,
        Order.leg] <;> grind
  · intro stillPending other
    rw [leg_status]
    by_cases own : other = event.leg
    · subst own
      rw [recordLeg_leg]
      cases outcome : event.outcome with
      | failed =>
          -- A failed leg settles the order.
          have settles : (current.recordLeg event.leg event.outcome).settlement = some .cancelled := by
            cases leg : event.leg <;> simp [Order.settlement, Order.recordLeg, outcome,
              Outcome.legStatus]
          simp [settles] at stillPending
      | succeeded => simp [reported_append, outcome, Outcome.legStatus]
    · rw [recordLeg_other _ _ own, legs other, reported_append]
      simp [Ne.symm own]

end Orders

section Handling

variable {state : SagaState} {delivery : Delivery}

theorem SagaState.handle_marked (marked : Marked state.database delivery.toOutcomeEvent) :
    state.handle delivery = state := by
  obtain ⟨row, present⟩ := Option.ne_none_iff_exists'.mp marked
  have refused : delivery.body.transaction none state.database state.nextUuid =
      .error (.known .P2002) := by
    simp only [Prog.transaction, Delivery.body, handleOutcome, processOnceTx, create,
      Prog.bind_write, Prog.exec, Fault.tick, Writes.none_over]
    rw [show state.database (.processed delivery.event.eventId consumer) = some row from present]
    rfl
  rw [SagaState.handle, refused]
  rfl

theorem ends_settle {status : OrderStatus} {topic : Topic} {payload : Order → Payload}
    {now : Timestamp} {orderId : Uuid} {order : Order}
    {writes : Writes (TableKey Key) (TableRow Row)} {rows : OrderDb} {supply : Nat}
    (found : writes.over rows (orderKey orderId) = some order)
    (free : ∀ rowId, supply ≤ rowId → writes.over rows (outboxKey rowId) = none) :
    ends (onRows (settle status topic payload now orderId)) (fun _ _ _ => True) writes rows
      supply := by
  simp only [settle, onRows_bind, onRows_update, onRows_createEvent, results_bind, ends_update,
    results_createEvent, enqueue, results_enqueueAs, onRows_create, ends_create]
  refine ⟨order, found, ?_, trivial⟩
  rw [Writes.put_over, Store.set_other _ _ (by simp), free _ (Nat.le_succ supply)]

theorem Delivery.ends_body (fresh : state.Fresh)
    (unmarked : ¬ Marked state.database delivery.toOutcomeEvent) :
    ends delivery.body (fun _ _ _ => True) .none state.database state.nextUuid := by
  have unmarkedRow : state.database (marker delivery.event.eventId) = none := not_not.mp unmarked
  simp only [Delivery.body, handleOutcome, processOnceTx, applyLegOutcome, onRows_bind, results_bind,
    ends_create, onRows_findUnique, results_findUnique]
  refine ⟨unmarkedRow, ?_⟩
  cases found : (Writes.none.put (marker delivery.event.eventId) (some ())).over state.database
      (orderKey delivery.event.payload.orderId) with
  | none => trivial
  | some order =>
      simp only [onRows_ite, onRows_pure, onRows_bind, onRows_update]
      split
      · trivial
      · rw [results_bind, ends_update]
        refine ⟨order, found, ?_⟩
        have free (rowId : Uuid) (drawn : state.nextUuid ≤ rowId) :
            ((Writes.none.put (marker delivery.event.eventId) (some ())).put
              (orderKey delivery.event.payload.orderId) (some (delivery.record order))).over
                state.database (outboxKey rowId) = none := by
          simp [Store.set_other, fresh rowId drawn]
        have updated : ((Writes.none.put (marker delivery.event.eventId) (some ())).put
            (orderKey delivery.event.payload.orderId) (some (delivery.record order))).over
              state.database (orderKey delivery.event.payload.orderId) =
                some (delivery.record order) := by simp
        split
        · exact ends_settle updated free
        · split
          · exact ends_settle updated free
          · trivial

theorem SagaState.handle_unmarked (fresh : state.Fresh)
    (unmarked : ¬ Marked state.database delivery.toOutcomeEvent) :
    ∃ writes next, state.handle delivery =
        { database := writes.over state.database, nextUuid := next } ∧ state.nextUuid ≤ next ∧
      OutcomeEffect (alone (between state.nextUuid next)) delivery state.database writes := by
  obtain ⟨⟨⟩, after, next, ran, -⟩ := transaction_of_ends (delivery.ends_body fresh unmarked)
  obtain ⟨writes, effect, same⟩ := delivery.transaction_effect ran
  refine ⟨writes, next, ?_, Prog.transaction_supply ran, effect⟩
  rw [SagaState.handle, ran, SagaState.commit, same]

end Handling

/-- The first events of a sequence have been handled. -/
structure Progress (events : OutcomeEvent → Prop) (start : SagaState) (done : List OutcomeEvent)
    (now : SagaState) : Prop where
  fresh : now.Fresh
  handled : ∀ event, events event → (Marked now.database event ↔ event ∈ done)
  known : ∀ event ∈ done, events event
  orders : ∀ orderId order, start.database (orderKey orderId) = some order →
    ∃ current, now.database (orderKey orderId) = some current ∧ Stands done orderId order current

section Runs

variable {events : OutcomeEvent → Prop} {start now : SagaState} {done : List OutcomeEvent}
variable {delivery : Delivery}

theorem mem_append_of_mem {event : OutcomeEvent} (member : event ∈ done) (other : OutcomeEvent) :
    other ∈ done ++ [event] ↔ other ∈ done := by
  rw [List.mem_append, List.mem_singleton]
  exact or_iff_left_of_imp fun same => same ▸ member

theorem Progress.repeated (progress : Progress events start done now)
    (member : delivery.toOutcomeEvent ∈ done) :
    Progress events start (done ++ [delivery.toOutcomeEvent]) (now.handle delivery) := by
  have known := progress.known _ member
  rw [SagaState.handle_marked ((progress.handled _ known).mpr member)]
  exact
    { fresh := progress.fresh
      handled := fun event known =>
        (progress.handled event known).trans (mem_append_of_mem member event).symm
      known := fun event listed =>
        progress.known event ((mem_append_of_mem member event).mp listed)
      orders := fun orderId order found =>
        let ⟨current, present, stands⟩ := progress.orders orderId order found
        ⟨current, present, stands.congr (mem_append_of_mem member)⟩ }

theorem OutcomeEffect.applied {drawn : Uuid → Prop} {before : OrderDb}
    {writes : Writes (TableKey Key) (TableRow Row)}
    (effect : OutcomeEffect (alone drawn) delivery before writes) {orderId : Uuid} {order : Order}
    (found : before (orderKey orderId) = some order) :
    writes.over before (orderKey orderId) =
      some (if delivery.orderId = orderId then delivery.apply order else order) := by
  by_cases own : delivery.orderId = orderId
  · subst own
    rw [if_pos rfl, Delivery.apply]
    cases effect with
    | skipped unmarked settled =>
        rw [if_neg (settled order found)]
        simpa using found
    | recorded unmarked other present pending undecided =>
        cases found.symm.trans present
        have status := pending order found
        rw [if_pos status, undecided]
        have kept : (delivery.record order).status = .pending := (recordLeg_status ..).trans status
        have same : { delivery.record order with status := .pending } = delivery.record order := by
          rw [← kept]
        rw [Option.getD_none, same]
        simp
    | settled unmarked other present pending status decided =>
        cases found.symm.trans present
        rw [if_pos (pending order found), decided]
        simp
  · rw [if_neg own]
    cases effect <;> simp [order_set_order _ _ (Ne.symm own), found]

theorem OutcomeEffect.marks {drawn : Uuid → Prop} {before : OrderDb}
    {writes : Writes (TableKey Key) (TableRow Row)}
    (effect : OutcomeEffect (alone drawn) delivery before writes) (event : OutcomeEvent) :
    Marked (writes.over before) event ↔
      event.event.eventId = delivery.event.eventId ∨ Marked before event := by
  cases effect <;> simp [marked_set_marker]

theorem OutcomeEffect.fresh {before : OrderDb} {supply next : Uuid}
    {writes : Writes (TableKey Key) (TableRow Row)}
    (effect : OutcomeEffect (alone (between supply next)) delivery before writes)
    (later : supply ≤ next)
    (fresh : ∀ rowId, supply ≤ rowId → before (outboxKey rowId) = none) (rowId : Uuid)
    (drawn : next ≤ rowId) : writes.over before (outboxKey rowId) = none := by
  have free := fresh rowId (Nat.le_trans later drawn)
  cases effect with
  | skipped | recorded => simp [Store.set_other, free]
  | settled unmarked order found pending status decided eventId inserted eventDrawn rowDrawn =>
      have other : rowId ≠ inserted := Nat.ne_of_gt (Nat.lt_of_lt_of_le rowDrawn.2 drawn)
      simp [Store.set_other, free, other]

theorem Stands.handled {orderId : Uuid} {order current : Order}
    (stands : Stands done orderId order current) (distinct : Distinct events)
    (undecided : order.status = .pending → Undecided events orderId order)
    (listed : ∀ event ∈ done, events event) (known : events delivery.toOutcomeEvent)
    (new : delivery.toOutcomeEvent ∉ done) :
    Stands (done ++ [delivery.toOutcomeEvent]) orderId order
      (if delivery.orderId = orderId then delivery.apply current else current) := by
  by_cases own : delivery.orderId = orderId
  · subst own
    have first := unreported distinct listed known new
    rw [if_pos rfl, Delivery.apply]
    by_cases pending : current.status = .pending
    · rw [if_pos pending]
      exact stands.recorded undecided first pending
    · rw [if_neg pending]
      exact stands.dropped undecided known first pending
  · rw [if_neg own]
    exact stands.other own

theorem Progress.first (progress : Progress events start done now) (distinct : Distinct events)
    (undecided : ∀ orderId order, start.database (orderKey orderId) = some order →
      order.status = .pending → Undecided events orderId order)
    (known : events delivery.toOutcomeEvent) (new : delivery.toOutcomeEvent ∉ done) :
    Progress events start (done ++ [delivery.toOutcomeEvent]) (now.handle delivery) := by
  have unmarked : ¬ Marked now.database delivery.toOutcomeEvent :=
    fun marked => new ((progress.handled _ known).mp marked)
  obtain ⟨writes, next, same, later, effect⟩ := SagaState.handle_unmarked progress.fresh unmarked
  rw [same]
  refine ⟨effect.fresh later progress.fresh, fun event listed => ?_, ?_, ?_⟩
  · rw [effect.marks, progress.handled event listed, List.mem_append, List.mem_singleton, or_comm]
    exact or_congr_right ⟨distinct.ids event _ listed known, fun same => same ▸ rfl⟩
  · intro event member
    rcases List.mem_append.mp member with earlier | latest
    · exact progress.known event earlier
    · exact List.mem_singleton.mp latest ▸ known
  · intro orderId order found
    obtain ⟨current, present, stands⟩ := progress.orders orderId order found
    exact ⟨_, effect.applied present,
      stands.handled distinct (undecided orderId order found) progress.known known new⟩

theorem Progress.handle (progress : Progress events start done now) (distinct : Distinct events)
    (undecided : ∀ orderId order, start.database (orderKey orderId) = some order →
      order.status = .pending → Undecided events orderId order)
    (known : events delivery.toOutcomeEvent) :
    Progress events start (done ++ [delivery.toOutcomeEvent]) (now.handle delivery) := by
  by_cases member : delivery.toOutcomeEvent ∈ done
  · exact progress.repeated member
  · exact progress.first distinct undecided known member

theorem Progress.handleAll (distinct : Distinct events)
    (undecided : ∀ orderId order, start.database (orderKey orderId) = some order →
      order.status = .pending → Undecided events orderId order)
    (deliveries : List Delivery) (known : ∀ event ∈ outcomes deliveries, events event)
    (progress : Progress events start done now) :
    Progress events start (done ++ outcomes deliveries) (now.handleAll deliveries) := by
  induction deliveries generalizing done now with
  | nil => simpa [outcomes, SagaState.handleAll] using progress
  | cons delivery rest ih =>
      have later := progress.handle distinct undecided (known delivery.toOutcomeEvent (by simp [outcomes]))
      have all := ih (fun event member => known event (List.mem_cons_of_mem _ member)) later
      simpa [outcomes, SagaState.handleAll] using all

theorem Progress.begin (fresh : start.Fresh)
    (undecided : ∀ orderId order, start.database (orderKey orderId) = some order →
      order.status = .pending → Undecided events orderId order)
    (unhandled : ∀ event, events event → ¬ Marked start.database event) :
    Progress events start [] start where
  fresh := fresh
  handled event known := by simp [unhandled event known]
  known := by simp
  orders orderId order found := by
    refine ⟨order, found, ?_, by simp [reported]⟩
    by_cases pending : order.status = .pending
    · have legs := (undecided_legs (undecided orderId order found pending).settlement).2
      have open_leg : ¬ (order.leg .payment = .succeeded ∧ order.leg .inventory = .succeeded) := by
        rintro ⟨payment, inventory⟩
        exact legs fun leg => by cases leg <;> assumption
      simp [verdict, reported, pending, open_leg]
    · simp [verdict, pending]

end Runs

theorem verdict_in_any_order (start : SagaState) (fresh : start.Fresh) (left right : List Delivery)
    (same : ∀ event, event ∈ outcomes left ↔ event ∈ outcomes right)
    (distinct : Distinct (· ∈ outcomes left))
    (unhandled : ∀ event ∈ outcomes left, ¬ Marked start.database event)
    (undecided : ∀ orderId order, start.database (orderKey orderId) = some order →
      order.status = .pending → Undecided (· ∈ outcomes left) orderId order)
    (orderId : Uuid) (order : Order) (found : start.database (orderKey orderId) = some order) :
    ∃ one two, (start.handleAll left).database (orderKey orderId) = some one ∧
      (start.handleAll right).database (orderKey orderId) = some two ∧
      one.status = two.status ∧ one.status = verdict (outcomes left) orderId order := by
  have begins := Progress.begin fresh undecided unhandled
  have leftDone := begins.handleAll distinct undecided left fun _ member => member
  have rightDone := begins.handleAll distinct undecided right fun event => (same event).mpr
  obtain ⟨one, oneFound, oneStands⟩ := leftDone.orders orderId order found
  obtain ⟨two, twoFound, twoStands⟩ := rightDone.orders orderId order found
  have equal : verdict (outcomes left) orderId order = verdict (outcomes right) orderId order :=
    verdict_congr same order
  exact ⟨one, two, oneFound, twoFound,
    oneStands.status.trans (equal.trans twoStands.status.symm), oneStands.status⟩

section Sample

def sampleStart (order : Order) : SagaState :=
  { database := Store.set (fun _ => none) (orderKey 7) order, nextUuid := 100 }

def samplePaid (outcome : Outcome) : Delivery := { samplePayment outcome with now := 1 }

def sampleStocked : Delivery := { sampleInventory with now := 2 }

theorem sample_distinct (outcome : Outcome) :
    Distinct (· ∈ outcomes [samplePaid outcome, sampleStocked]) := by
  have same : (· ∈ outcomes [samplePaid outcome, sampleStocked]) = sampleEvents outcome := by
    funext event
    simp [outcomes, sampleEvents, samplePaid, sampleStocked]
  rw [same]
  exact sampleEvents_distinct outcome

theorem verdict_in_any_order_sample : ∃ one two,
    ((sampleStart sampleOrder).handleAll [samplePaid .succeeded, sampleStocked]).database
        (orderKey 7) = some one ∧
      ((sampleStart sampleOrder).handleAll [sampleStocked, samplePaid .succeeded,
        sampleStocked]).database (orderKey 7) = some two ∧
      one.status = two.status ∧ one.status = .confirmed := by
  refine verdict_in_any_order (sampleStart sampleOrder) (fun rowId _ => ?_) _ _ (fun event => ?_)
    (sample_distinct .succeeded) (fun event _ => ?_) (fun orderId order found _ => ?_) 7 sampleOrder
    (by simp [sampleStart])
  · simp [sampleStart, Store.set_other]
  · simp only [outcomes, List.map_cons, List.map_nil, List.mem_cons, List.not_mem_nil]
    grind
  · simp [sampleStart, Marked, Store.set_other]
  · by_cases same : orderId = 7
    · subst same
      obtain rfl : sampleOrder = order := by simpa [sampleStart] using found
      exact ⟨rfl, fun event _ _ => .inl (by cases event.leg <;> rfl)⟩
    · simp [sampleStart, order_set_order _ _ same] at found

/-- A leg that the order table records already decides against a late contradiction, and an order
that was settled before stays settled without any event. -/
theorem recorded_orders_have_their_own_verdict :
    Distinct (· ∈ outcomes [samplePaid .failed, sampleStocked]) ∧
      (((sampleStart { sampleOrder with paymentStatus := .succeeded }).handleAll
        [samplePaid .failed, sampleStocked]).database (orderKey 7)).map Order.status =
          some .cancelled ∧
      (((sampleStart { sampleOrder with paymentStatus := .succeeded }).handleAll
        [sampleStocked, samplePaid .failed]).database (orderKey 7)).map Order.status =
          some .confirmed ∧
      (((sampleStart { sampleOrder with status := .confirmed }).handleAll []).database
        (orderKey 7)).map Order.status = some .confirmed :=
  ⟨sample_distinct .failed, rfl, rfl, rfl⟩

end Sample

end Ecommerce.OrderService
