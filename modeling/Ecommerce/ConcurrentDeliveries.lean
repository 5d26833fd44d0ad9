import Ecommerce.ExactlyOnce
import Ecommerce.NotificationService.NotificationEventsConsumer
import Ecommerce.PaymentService.OrderEventsConsumer
import Ecommerce.Transaction.TwoPhase

set_option autoImplicit false

/-!
# Exactly-once effects under concurrent deliveries

The transactions of a service run beside each other, several of them for one event at once.
-/

namespace Ecommerce

open Transaction

/-- The transactions of a service: deliveries of events through `processOnce`, and others that leave
`processed_events` alone. -/
structure Jobs (J K : Type) (V : K → Type) where
  consumer : String
  body : J → Prog (TableKey K) (TableRow V) TxError Unit
  -- The event that a job delivers.
  event : J → Option EventEnvelope
  work : J → Prog K V TxError Unit
  delivers : ∀ job, body job =
    match event job with
    | some event => processOnceTx consumer event (onRows (work job))
    | none => onRows (work job)

namespace PaymentService

inductive Job where
  | deliver (now : Timestamp) (event : EventEnvelope)
  | mark (rowId : Uuid) (now : Timestamp)

def Job.body (config : Config) : Job → Prog (TableKey Key) (TableRow Row) TxError Unit
  | .deliver now event => onOrderCreated config now event
  | .mark rowId now => onRows (markPublished rowId now)

def Job.event : Job → Option EventEnvelope
  | .deliver _ event => some event
  | .mark _ _ => none

def Job.work (config : Config) : Job → Tx Unit
  | .deliver now event =>
      match event.payload with
      | .orderCreated order => charge config now order event.correlationId
      | _ => .throw (.other "Argument amountCents is missing")
  | .mark rowId now => markPublished rowId now

theorem Job.delivers (config : Config) (job : Job) : job.body config =
    match job.event with
    | some event => processOnceTx consumer event (onRows (job.work config))
    | none => onRows (job.work config) := by
  cases job with
  | deliver now event =>
      simp only [Job.body, Job.event, Job.work, onOrderCreated]
      cases event.payload <;> rfl
  | mark rowId now => rfl

def jobs (config : Config) : Jobs Job Key Row where
  consumer := consumer
  body := Job.body config
  event := Job.event
  work := Job.work config
  delivers := Job.delivers config

end PaymentService

namespace NotificationService

inductive Job where
  | orderConfirmed (event : EventEnvelope)
  | paymentFailed (event : EventEnvelope)

def Job.body (config : Config) : Job → Prog (TableKey Key) (TableRow Row) TxError Unit
  | .orderConfirmed event => onOrderConfirmed config event
  | .paymentFailed event => onPaymentFailed config event

def Job.event : Job → EventEnvelope
  | .orderConfirmed event | .paymentFailed event => event

def Job.work (config : Config) : Job → Tx Unit
  | .orderConfirmed event =>
      match event.payload with
      | .orderConfirmed order => sendOrderConfirmed config order
      | _ => .throw (.other "not an OrderConfirmedPayload")
  | .paymentFailed event =>
      match event.payload with
      | .paymentFailed failure => sendPaymentFailed config failure
      | _ => .throw (.other "not a PaymentFailedPayload")

theorem Job.delivers (config : Config) (job : Job) :
    job.body config = processOnceTx consumer job.event (onRows (job.work config)) := by
  cases job with
  | orderConfirmed event =>
      simp only [Job.body, Job.event, Job.work, onOrderConfirmed]
      cases event.payload <;> rfl
  | paymentFailed event =>
      simp only [Job.body, Job.event, Job.work, onPaymentFailed]
      cases event.payload <;> rfl

def jobs (config : Config) : Jobs Job Key Row where
  consumer := consumer
  body := Job.body config
  event job := some job.event
  work := Job.work config
  delivers := Job.delivers config

end NotificationService

section Statements

variable {K : Type} {V : K → Type} {A : Type}

theorem locking_create (key : K) (row : V key) : (create key row).Locking :=
  fun _ => trivial

theorem locking_update (key : K) (data : V key → V key) : (update key data).Locking := by
  intro row
  cases row <;> trivial

theorem locking_randomUUID : (randomUUID : Prog K V TxError Uuid).Locking :=
  fun _ => trivial

theorem locking_createEvent (now : Timestamp) (input : NewEvent) :
    (createEvent now input : Prog K V TxError EventEnvelope).Locking :=
  fun _ => trivial

theorem locking_enqueueAs {insert : Uuid → OutboxEvent → Prog K V TxError OutboxEvent}
    (inserts : ∀ id row, (insert id row).Locking) (aggregateType : String) (now : Timestamp)
    (topic : Topic) (event : EventEnvelope) :
    (enqueueAs insert aggregateType now topic event).Locking :=
  locking_randomUUID.bind fun id => (inserts id _).bind fun _ => trivial

theorem locking_onRows {body : Prog K V TxError A} (locking : body.Locking) :
    (onRows body).Locking := by
  induction body with
  | pure => trivial
  | throw => trivial
  | fresh next ih => exact fun value => ih value (locking value)
  | select => exact locking.elim
  | write key change next ih => exact fun row => ih row (locking row)

theorem Jobs.locking {J : Type} (jobs : Jobs J K V) (works : ∀ job, (jobs.work job).Locking)
    (job : J) : (jobs.body job).Locking := by
  rw [jobs.delivers]
  split
  · exact (locking_create _ _).bind fun _ => locking_onRows (works job)
  · exact locking_onRows (works job)

end Statements

theorem PaymentService.locking_charge (config : Config) (now : Timestamp)
    (order : OrderCreatedPayload) (correlationId : Uuid) :
    (charge config now order correlationId).Locking := by
  have created (orderId : Uuid) (payment : Payment) : (createPayment orderId payment).Locking := by
    unfold createPayment
    split
    · exact locking_create _ _
    · trivial
  have enqueued (topic : Topic) (event : EventEnvelope) : (enqueue now topic event).Locking :=
    locking_enqueueAs (fun _ _ => locking_create _ _) _ _ _ _
  unfold charge
  split
  all_goals
    apply locking_randomUUID.bind
    intro id
    apply (created _ _).bind
    intro payment
    apply (locking_createEvent _ _).bind
    intro event
  · exact (enqueued _ _).bind fun _ => trivial
  · exact enqueued _ _

theorem PaymentService.Job.locking (config : Config) (job : Job) : (job.work config).Locking := by
  cases job with
  | deliver now event =>
      simp only [Job.work]
      split
      · exact locking_charge config now _ _
      · trivial
  | mark rowId now => exact (locking_update _ _).bind fun _ => trivial

theorem NotificationService.locking_send (kind : NotificationKind) (orderId customerId : Uuid)
    (body : String) : (send kind orderId customerId body).Locking :=
  locking_randomUUID.bind fun _ => (locking_create _ _).bind fun _ => trivial

theorem NotificationService.Job.locking (config : Config) (job : Job) :
    (job.work config).Locking := by
  cases job with
  | orderConfirmed event | paymentFailed event =>
      simp only [Job.work]
      split
      · exact locking_send _ _ _ _
      · trivial

section Once

variable {J K : Type} [DecidableEq K] {V : K → Type} {A : Type}

/-- In the order of their commits, the jobs have done what their works do one after the other, and
an event was delivered once at most, though several sessions may have run its work. -/
structure Jobs.Once (jobs : Jobs J K V) (database after : Database K V) (log : List (J × Unit)) :
    Prop where
  effects : Serially jobs.work database.ownRows log after.ownRows
  once : (log.filterMap fun done => (jobs.event done.1).map (·.eventId)).Nodup
  new : ∀ done ∈ log, ∀ event, jobs.event done.1 = some event →
    database (processedKey event jobs.consumer) = none
  markers : ∀ eventId name, after (.processed eventId name) ≠ none ↔
    database (.processed eventId name) ≠ none ∨ name = jobs.consumer ∧
      eventId ∈ log.filterMap fun done => (jobs.event done.1).map (·.eventId)

variable {jobs : Jobs J K V} {database rows : Database K V} {log : List (J × Unit)}
variable {writes after : Writes (TableKey K) (TableRow V)}

theorem runs_create {key : TableKey K} {row value : TableRow V key} :
    (create key row).Runs rows writes value after ↔
      writes.over rows key = none ∧ value = row ∧ after = writes.put key (some row) := by
  cases found : writes.over rows key <;> simp [create, Prog.Runs, found, eq_comm]

theorem own_put (writes : Writes (TableKey K) (TableRow V)) (key : K) (row : Option (V key)) :
    (fun other => (writes.put (.row key) row) (.row other)) =
      Writes.put (fun other => writes (.row other)) key row := by
  funext other
  by_cases same : other = key
  · subst same
    simp [Writes.put]
  · simp [Writes.put, same]

/-- A work does on the whole database what it does on the own tables of its service. -/
theorem runs_onRows {E : Type} {body : Prog K V E A} {value : A}
    (ran : (onRows body).Runs rows writes value after) :
    body.Runs rows.ownRows (fun key => writes (.row key)) value (fun key => after (.row key)) ∧
      ∀ eventId name, after (.processed eventId name) = writes (.processed eventId name) := by
  induction body generalizing writes with
  | pure =>
      obtain ⟨same, rfl⟩ := ran
      exact ⟨⟨same, rfl⟩, fun _ _ => rfl⟩
  | throw => exact ran.elim
  | fresh next ih =>
      obtain ⟨drawn, ran⟩ := ran
      obtain ⟨own, untouched⟩ := ih drawn ran
      exact ⟨⟨drawn, own⟩, untouched⟩
  | select next ih => exact ih _ ran
  | write key change next ih =>
      obtain ⟨row, changed, ran⟩ := ran
      obtain ⟨own, untouched⟩ := ih row ran
      rw [own_put] at own
      refine ⟨⟨row, changed, own⟩, fun eventId name => ?_⟩
      rw [untouched]
      simp [Writes.put]

/-- A committed job has done its work on the own tables, and has marked its event if it has one. -/
theorem Jobs.runs_cases {job : J} (ran : (jobs.body job).Runs rows .none () writes) :
    (∃ own, (jobs.work job).Runs rows.ownRows .none () own ∧
      Database.ownRows (writes.over rows) = own.over rows.ownRows) ∧
    match jobs.event job with
    | some event => rows (processedKey event jobs.consumer) = none ∧
        ∀ eventId name, writes.over rows (.processed eventId name) =
          marked jobs.consumer event rows (.processed eventId name)
    | none => ∀ eventId name, writes.over rows (.processed eventId name) =
        rows (.processed eventId name) := by
  have delivers := jobs.delivers job
  cases delivered : jobs.event job with
  | none =>
      rw [delivered] at delivers
      dsimp only at delivers
      rw [delivers] at ran
      obtain ⟨own, untouched⟩ := runs_onRows ran
      refine ⟨⟨_, own, rfl⟩, fun eventId name => ?_⟩
      simp [Writes.over, untouched, Writes.none]
  | some event =>
      rw [delivered] at delivers
      dsimp only at delivers
      rw [delivers, processOnceTx, Prog.runs_bind] at ran
      obtain ⟨_, marking, created, worked⟩ := ran
      obtain ⟨absent, _, rfl⟩ := runs_create.mp created
      obtain ⟨own, untouched⟩ := runs_onRows worked
      have unwritten : (fun key => (Writes.none.put (processedKey event jobs.consumer) (some ()) :
          Writes (TableKey K) (TableRow V)) (.row key)) = (Writes.none : Writes K V) := by
        funext key
        simp [Writes.put, Writes.none]
      rw [unwritten] at own
      refine ⟨⟨_, own, rfl⟩, absent, fun eventId name => ?_⟩
      have sees : marked jobs.consumer event rows =
          (Writes.none.put (processedKey event jobs.consumer) (some ())).over rows := by
        rw [Writes.put_over, Writes.none_over]
        rfl
      rw [sees, Writes.over, Writes.over, untouched]

theorem Jobs.Once.start (jobs : Jobs J K V) (database : Database K V) :
    jobs.Once database database [] where
  effects := .none
  once := List.nodup_nil
  new := by simp
  markers := by simp

theorem Jobs.Once.commit (before : jobs.Once database rows log) {job : J}
    (ran : (jobs.body job).Runs rows .none () writes) :
    jobs.Once database (writes.over rows) (log ++ [(job, ())]) := by
  obtain ⟨⟨own, worked, ownRows⟩, marks⟩ := jobs.runs_cases ran
  have effects : Serially jobs.work database.ownRows (log ++ [(job, ())])
      (Database.ownRows (writes.over rows)) := by
    rw [ownRows]
    exact before.effects.commit worked
  cases delivered : jobs.event job with
  | none =>
      rw [delivered] at marks
      refine ⟨effects, ?_, ?_, fun eventId name => ?_⟩
      · simpa [delivered] using before.once
      · intro done member event delivers
        rcases List.mem_append.mp member with earlier | last
        · exact before.new done earlier event delivers
        · rw [List.mem_singleton.mp last, delivered] at delivers
          cases delivers
      · rw [marks, before.markers]
        simp [delivered]
  | some event =>
      rw [delivered] at marks
      obtain ⟨absent, marked⟩ := marks
      -- The event has no marker yet, so that no earlier job has delivered it.
      have unmarked : ¬ rows (processedKey event jobs.consumer) ≠ none := not_not.mpr absent
      rw [before.markers, not_or] at unmarked
      refine ⟨effects, ?_, ?_, fun eventId name => ?_⟩
      · rw [List.filterMap_append, List.nodup_append]
        refine ⟨before.once, by simp [delivered], ?_⟩
        intro eventId earlier other last same
        subst same
        simp only [List.filterMap_cons, delivered, List.filterMap_nil, Option.map_some,
          List.mem_singleton] at last
        exact unmarked.2 ⟨rfl, last ▸ earlier⟩
      · intro done member other delivers
        rcases List.mem_append.mp member with earlier | last
        · exact before.new done earlier other delivers
        · rw [List.mem_singleton.mp last, delivered] at delivers
          cases delivers
          exact not_not.mp unmarked.1
      · rw [marked, processed_marked, before.markers, List.filterMap_append, List.mem_append]
        simp only [List.filterMap_cons, delivered, List.filterMap_nil, Option.map_some,
          List.mem_singleton]
        grind

theorem Jobs.once_of_history (locking : ∀ job, (jobs.work job).Locking)
    {system : System (TableKey K) (TableRow V) TxError Unit J}
    (history : History jobs.body (.initial database) log system) :
    jobs.Once database system.rows log := by
  have serial := history.serially (jobs.locking locking)
  clear history
  generalize system.rows = rows at serial
  induction serial with
  | none => exact .start jobs database
  | commit _ alone ih => exact ih.commit alone

end Once

/-- Charges and notifications are made exactly once, however the statements of their transactions
interleave, and as if one transaction had run after the other. -/
theorem concurrent_deliveries_exactly_once :
    (∀ config database log system,
      History (PaymentService.jobs config).body (.initial database) log system →
        (PaymentService.jobs config).Once database system.rows log) ∧
    ∀ config database log system,
      History (NotificationService.jobs config).body (.initial database) log system →
        (NotificationService.jobs config).Once database system.rows log := by
  constructor
  · intro config database log system history
    exact Jobs.once_of_history (PaymentService.Job.locking config) history
  · intro config database log system history
    exact Jobs.once_of_history (NotificationService.Job.locking config) history

section Sample

def samplePlaced : EventEnvelope :=
  NewEvent.envelope
    { eventType := .ordersCreated, correlationId := 8, aggregateId := 7, producer := "order-service"
      payload := .orderCreated
        { orderId := 7, customerId := 1, items := [], totalAmountCents := 0, currency := "USD" } } 0 9

def samplePaid : EventEnvelope :=
  NewEvent.envelope
    { eventType := .ordersConfirmed, correlationId := 8, aggregateId := 7, producer := "order-service"
      payload := .orderConfirmed { orderId := 7, customerId := 1, totalAmountCents := 0 } } 0 10

def samplePayments : Jobs PaymentService.Job PaymentService.Key PaymentService.Row :=
  PaymentService.jobs { declineEndsIn := .integer 13 }

def sampleNotifications :
    Jobs NotificationService.Job NotificationService.Key NotificationService.Row :=
  NotificationService.jobs { uuidText := toString }

/-- Both sessions have started on the event before either has inserted the marker. -/
def sampleCharges : List (Label PaymentService.Job) :=
  [.start 0 (.deliver 1 samplePlaced), .start 1 (.deliver 2 samplePlaced), .advance 1 0,
    .advance 1 20, .advance 1 0, .advance 1 21, .advance 1 22, .advance 1 0, .advance 1 0,
    .advance 0 0]

def sampleMails : List (Label NotificationService.Job) :=
  [.start 0 (.orderConfirmed samplePaid), .start 1 (.orderConfirmed samplePaid), .advance 0 0,
    .advance 0 20, .rollback 0, .advance 1 0, .advance 1 21, .advance 1 0, .advance 1 0]

theorem concurrent_deliveries_exactly_once_race :
    (∃ system log, log.length = 1 ∧
      History samplePayments.body (.initial fun _ => none) log system ∧
      samplePayments.Once (fun _ => none) system.rows log) ∧
    ∃ system log, log.length = 1 ∧
      History sampleNotifications.body (.initial fun _ => none) log system ∧
      sampleNotifications.Once (fun _ => none) system.rows log := by
  have charged : ∃ system,
      System.run samplePayments.body (fun _ _ => true) (.initial fun _ => none) sampleCharges =
        some system := ⟨_, rfl⟩
  have mailed : ∃ system,
      System.run sampleNotifications.body (fun _ _ => true) (.initial fun _ => none) sampleMails =
        some system := ⟨_, rfl⟩
  constructor
  · obtain ⟨system, ran⟩ := charged
    have history := History.start.of_run ran
    exact ⟨system, _, rfl, history, concurrent_deliveries_exactly_once.1 _ _ _ system history⟩
  · obtain ⟨system, ran⟩ := mailed
    have history := History.start.of_run ran
    exact ⟨system, _, rfl, history, concurrent_deliveries_exactly_once.2 _ _ _ system history⟩

end Sample

end Ecommerce
