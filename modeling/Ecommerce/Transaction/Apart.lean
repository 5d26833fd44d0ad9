import Ecommerce.Transaction.WeakestPrecondition

set_option autoImplicit false

/-!
# Interleaved transactions that run beside each other

Each job relies on what the others leave alone while it runs. If whatever a job commits keeps
the invariant and what the jobs that may run beside it rely on, then every session that commits
does what its job promises.
-/

namespace Transaction

variable {K : Type} {V : K → Type} {E A J : Type} [DecidableEq K]

section Coexistence

variable (inv : Store K V → Prop) (rely : J → Store K V → Store K V → Prop)
variable (effect : J → A → Store K V → Writes K V → Prop) (beside : J → J → Prop)

/-- Whenever the session commits, its writes are what its job may write over the rows of that
moment. -/
def Commits (inv : Store K V → Prop) (rely : Store K V → Store K V → Prop)
    (effect : J → A → Store K V → Writes K V → Prop) (job : J) (value : A) (writes : Writes K V)
    (rows : Store K V) : Prop :=
  ∀ now, Interferes inv rely writes rows now → effect job value now writes

structure Coexistence (body : J → Prog K V E A) (jobs : J → Prop) : Prop where
  relyRefl : ∀ job rows, rely job rows rows
  relyTrans : ∀ job first second third, rely job first second → rely job second third →
    rely job first third
  starts : ∀ job, jobs job → ∀ rows, inv rows →
    wp inv (rely job) (fun _ => True) (body job) (Commits inv (rely job) effect job) .none rows
  keeps : ∀ job value rows writes, jobs job → inv rows → effect job value rows writes →
    inv (writes.over rows) ∧
      ∀ other, jobs other → beside job other → rely other rows (writes.over rows)

def Slot.job : Slot K V E A J → Option J
  | .running job _ _ => some job
  | _ => none

def Slot.Promises (jobs : J → Prop) (rows : Store K V) (holds : K → Prop) :
    Slot K V E A J → Prop
  | .running job rest writes =>
      jobs job ∧
        wp inv (rely job) (fun _ => True) rest (Commits inv (rely job) effect job) writes rows ∧
          ∀ key, writes key ≠ none ↔ holds key
  | _ => ∀ key, ¬ holds key

structure System.Coexists (jobs : J → Prop) (system : System K V E A J) : Prop where
  invariant : inv system.rows
  sessions : ∀ session, (system.slots session).Promises inv rely effect jobs system.rows
    fun key => system.locks key = some session
  besides : ∀ one two, one ≠ two → ∀ job other, (system.slots one).job = some job →
    (system.slots two).job = some other → beside job other

/-- A job that may run beside every running one. -/
def System.Admits (system : System K V E A J) (job : J) : Prop :=
  ∀ session other, (system.slots session).job = some other → beside job other ∧ beside other job

/-- A job is started only beside jobs that it may run beside. -/
def System.StartsBeside (system : System K V E A J) : Label J → Prop
  | .start _ job => system.Admits beside job
  | _ => True

/-- The same, checked on the sessions below a bound. -/
def System.startsBeside [DecidableRel beside] (sessions : Nat) (system : System K V E A J) :
    Label J → Bool
  | .start session job =>
      session < sessions && (List.range sessions).all fun running =>
        match (system.slots running).job with
        | some other => decide (beside job other ∧ beside other job)
        | none => true
  | .advance session _ => session < sessions
  | .rollback session => session < sessions

variable {inv rely effect beside} {body : J → Prog K V E A} {jobs : J → Prop}
variable {system next : System K V E A J}

omit [DecidableEq K] in
theorem commits_stable {rely : Store K V → Store K V → Prop}
    (relyTrans : ∀ first second third, rely first second → rely second third → rely first third)
    (job : J) : Stable inv rely (Commits inv rely effect job) :=
  fun _ _ _ _ commits interference now later =>
    commits now (interference.trans relyTrans later)

theorem Slot.Promises.interfered (coexistence : Coexistence inv rely effect beside body jobs)
    {slot : Slot K V E A J} {before after : Store K V} {holds : K → Prop}
    (promises : slot.Promises inv rely effect jobs before holds) (invariant : inv after)
    (allowed : ∀ job, slot.job = some job → jobs job → rely job before after)
    (frame : ∀ key, holds key → after key = before key) :
    slot.Promises inv rely effect jobs after holds := by
  cases slot with
  | running job rest writes =>
      obtain ⟨known, promise, locked⟩ := promises
      have relyTrans := coexistence.relyTrans job
      refine ⟨known, ?_, locked⟩
      apply wp_stable relyTrans (commits_stable relyTrans job) rest writes before after promise
      exact ⟨invariant, allowed job rfl known, fun key written => frame key ((locked key).mp written)⟩
  | idle | committed | failed => exact promises

theorem System.Coexists.initial (rows : Store K V) (holds : inv rows) :
    (System.initial rows : System K V E A J).Coexists inv rely effect beside jobs where
  invariant := holds
  sessions _ _ := by simp [System.initial]
  besides _ _ _ _ _ running := by simp [System.initial, Slot.job] at running

omit [DecidableEq K] in
theorem System.release_other {session other : Nat} (different : other ≠ session) (key : K) :
    system.release session key = some other ↔ system.locks key = some other := by
  simp only [System.release]
  split
  · next mine =>
      rw [mine]
      simpa using different.symm
  · rfl

section Sessions

variable (coexists : system.Coexists inv rely effect beside jobs)
include coexists

/-- What holds of the sessions when only one of them has changed its slot. -/
theorem System.Coexists.besides_update {session : Nat} {slot : Slot K V E A J}
    (alone : ∀ other, other ≠ session → ∀ job running, slot.job = some job →
      (system.slots other).job = some running → beside job running ∧ beside running job) :
    ∀ one two, one ≠ two → ∀ job other,
      (Function.update system.slots session slot one).job = some job →
        (Function.update system.slots session slot two).job = some other → beside job other := by
  intro one two different job other first second
  by_cases sameOne : one = session
  · subst sameOne
    rw [Function.update_self] at first
    rw [Function.update_of_ne different.symm] at second
    exact (alone two different.symm job other first second).1
  · rw [Function.update_of_ne sameOne] at first
    by_cases sameTwo : two = session
    · subst sameTwo
      rw [Function.update_self] at second
      exact (alone one different other job second first).2
    · rw [Function.update_of_ne sameTwo] at second
      exact coexists.besides one two different job other first second

theorem System.Coexists.fail (session : Nat) (job : J) (error : Option E) :
    (system.fail session job error).Coexists inv rely effect beside jobs := by
  refine ⟨coexists.invariant, fun other => ?_, coexists.besides_update ?_⟩
  · by_cases same : other = session
    · subst same
      simp [System.fail, Slot.Promises, System.release]
    · have kept := coexists.sessions other
      simpa [System.fail, Function.update_of_ne same, System.release_other same] using kept
  · simp [Slot.job]

theorem System.Coexists.resume {session : Nat} {job : J} {rest : Prog K V E A}
    {writes : Writes K V}
    (resumed : (Slot.running job rest writes).Promises inv rely effect jobs system.rows
      fun key => system.locks key = some session)
    (alone : ∀ other, other ≠ session → ∀ running, (system.slots other).job = some running →
      beside job running ∧ beside running job) :
    (system.resume session job rest writes).Coexists inv rely effect beside jobs := by
  refine ⟨coexists.invariant, fun other => ?_, coexists.besides_update ?_⟩
  · by_cases same : other = session
    · subst same
      simpa [System.resume] using resumed
    · simpa [System.resume, Function.update_of_ne same] using coexists.sessions other
  · intro other different started running same
    cases same
    exact alone other different running

theorem System.Coexists.alone (session : Nat) (job : J)
    (mine : (system.slots session).job = some job) :
    ∀ other, other ≠ session → ∀ running, (system.slots other).job = some running →
      beside job running ∧ beside running job := by
  intro other different running theirs
  have before := coexists.besides session other different.symm job running mine theirs
  exact ⟨before, coexists.besides other session different running job theirs mine⟩

theorem System.Coexists.write (coexistence : Coexistence inv rely effect beside body jobs)
    {session : Nat} {job : J} {key : K} {change : Option (V key) → Except E (Option (V key))}
    {rest : Option (V key) → Prog K V E A} {writes : Writes K V} {row : Option (V key)}
    (running : system.slots session = .running job (.write key change rest) writes)
    (free : system.locks key = none ∨ system.locks key = some session)
    (changed : change (writes.over system.rows key) = .ok row) :
    ({ system.resume session job (rest row) (writes.put key row) with
        locks := Function.update system.locks key (some session) } :
      System K V E A J).Coexists inv rely effect beside jobs := by
  have mine := coexists.sessions session
  have alone := coexists.alone session job (by rw [running]; rfl)
  rw [running] at mine
  obtain ⟨known, promise, locked⟩ := mine
  refine ⟨coexists.invariant, fun other => ?_, coexists.besides_update ?_⟩
  · by_cases same : other = session
    · subst same
      simp only [System.resume, Function.update_self]
      refine ⟨known, ?_, fun touched => ?_⟩
      · apply promise _ (.refl (coexistence.relyRefl job) writes coexists.invariant) row changed
      · by_cases written : touched = key
        · subst written
          simp [Writes.put]
        · simpa [Writes.put, Function.update_of_ne written] using locked touched
    · have kept := coexists.sessions other
      have holds : ∀ touched,
          Function.update system.locks key (some session) touched = some other ↔
            system.locks touched = some other := by
        intro touched
        by_cases written : touched = key
        · subst written
          rcases free with free | free <;> simp [free, Ne.symm same]
        · simp [Function.update_of_ne written]
      simpa [System.resume, Function.update_of_ne same, holds] using kept
  · intro other different started found same
    cases same
    exact alone other different found

theorem System.Coexists.commit (coexistence : Coexistence inv rely effect beside body jobs)
    {session : Nat} {job : J} {value : A} {writes : Writes K V}
    (running : system.slots session = .running job (.pure value) writes) :
    (system.commit session job value writes).Coexists inv rely effect beside jobs ∧
      jobs job ∧ effect job value system.rows writes := by
  have mine := coexists.sessions session
  have alone := coexists.alone session job (by rw [running]; rfl)
  rw [running] at mine
  obtain ⟨known, promise, locked⟩ := mine
  have done : effect job value system.rows writes :=
    promise _ (.refl (coexistence.relyRefl job) writes coexists.invariant)
  obtain ⟨invariant, allowed⟩ := coexistence.keeps job value _ _ known coexists.invariant done
  refine ⟨⟨invariant, fun other => ?_, coexists.besides_update ?_⟩, known, done⟩
  · by_cases same : other = session
    · subst same
      simp [System.commit, Slot.Promises, System.release]
    · have kept := coexists.sessions other
      simp only [System.commit, Function.update_of_ne same, System.release_other same]
      apply kept.interfered coexistence invariant
      · intro running theirs listed
        exact allowed running listed (alone other same running theirs).1
      · intro key held
        have untouched : writes key = none := by
          by_contra written
          have owner := (locked key).mp written
          rw [owner] at held
          exact same (Option.some.inj held).symm
        simp [Writes.over, untouched]
  · simp [Slot.job]

theorem System.Coexists.step (coexistence : Coexistence inv rely effect beside body jobs)
    (label : Label J)
    (admitted : ∀ session job, label = .start session job → jobs job ∧ system.Admits beside job)
    (taken : system.step body label = some next) :
    next.Coexists inv rely effect beside jobs := by
  cases label with
  | start session job =>
      have mine := coexists.sessions session
      obtain ⟨known, admits⟩ := admitted session job rfl
      cases slot : system.slots session with
      | running => simp [System.step, slot] at taken
      | idle | committed | failed =>
          simp only [System.step, slot, Option.some.injEq] at taken
          rw [slot] at mine
          have promise := coexistence.starts job known _ coexists.invariant
          subst taken
          apply coexists.resume ⟨known, promise, fun key => by simpa [Writes.none] using mine key⟩
          exact fun other _ => admits other
  | advance session drawn =>
      cases slot : system.slots session with
      | idle | committed | failed => simp [System.step, slot] at taken
      | running job rest writes =>
          have mine := coexists.sessions session
          have alone := coexists.alone session job (by rw [slot]; rfl)
          rw [slot] at mine
          obtain ⟨listed, promise, locked⟩ := mine
          simp only [System.step, slot] at taken
          cases rest with
          | pure value =>
              simp only [System.advance, Option.some.injEq] at taken
              exact taken ▸ (coexists.commit coexistence slot).1
          | throw error =>
              simp only [System.advance, Option.some.injEq] at taken
              exact taken ▸ coexists.fail session job (some error)
          | fresh rest =>
              simp only [System.advance, Option.some.injEq] at taken
              exact taken ▸ coexists.resume ⟨listed, promise drawn trivial, locked⟩ alone
          | select rest =>
              simp only [System.advance, Option.some.injEq] at taken
              have read := promise _ (.refl (coexistence.relyRefl job) writes coexists.invariant)
              exact taken ▸ coexists.resume ⟨listed, read, locked⟩ alone
          | write key change rest =>
              simp only [System.advance] at taken
              split at taken
              · next free =>
                  cases changed : change (writes.over system.rows key) with
                  | error error =>
                      simp only [changed, Option.some.injEq] at taken
                      exact taken ▸ coexists.fail session job (some error)
                  | ok row =>
                      simp only [changed, Option.some.injEq] at taken
                      exact taken ▸ coexists.write coexistence slot free changed
              · simp at taken
  | rollback session =>
      obtain ⟨job, _, _, _, rfl⟩ := System.rollback_cases taken
      exact coexists.fail session job none

theorem System.Coexists.finishing (coexistence : Coexistence inv rely effect beside body jobs)
    {label : Label J} {job : J} {value : A} {writes : Writes K V}
    (finishing : system.finishing label = some (job, value, writes)) :
    jobs job ∧ effect job value system.rows writes := by
  cases label with
  | start | rollback => simp [System.finishing] at finishing
  | advance session drawn =>
      simp only [System.finishing] at finishing
      split at finishing
      · next other answer written slot =>
          cases finishing
          exact (coexists.commit coexistence slot).2
      · cases finishing

end Sessions

theorem Reachable.coexists (coexistence : Coexistence inv rely effect beside body jobs)
    {allowed : System K V E A J → Label J → Prop}
    (admitted : ∀ system session job, allowed system (.start session job) →
      jobs job ∧ system.Admits beside job)
    (start : system.Coexists inv rely effect beside jobs)
    (reachable : Reachable body allowed system next) :
    next.Coexists inv rely effect beside jobs := by
  induction reachable with
  | initial => exact start
  | step label _ enabled taken ih =>
      apply ih.step coexistence label _ taken
      intro session job same
      exact admitted _ session job (same ▸ enabled)

section Runs

variable {sessions : Nat}

theorem System.step_outside [DecidableRel beside] {label : Label J}
    (accepted : system.startsBeside beside sessions label = true)
    (taken : system.step body label = some next) {other : Nat} (outside : sessions ≤ other) :
    next.slots other = system.slots other := by
  have different {session : Nat} (inside : session < sessions) : other ≠ session := by omega
  cases label with
  | start session job =>
      simp only [System.startsBeside, Bool.and_eq_true, decide_eq_true_eq] at accepted
      obtain ⟨_, rfl⟩ := System.start_cases taken
      simp [System.resume, different accepted.1]
  | rollback session =>
      simp only [System.startsBeside, decide_eq_true_eq] at accepted
      obtain ⟨_, _, _, _, rfl⟩ := System.rollback_cases taken
      simp [System.fail, different accepted]
  | advance session drawn =>
      simp only [System.startsBeside, decide_eq_true_eq] at accepted
      obtain ⟨_, _, _, _, ⟨_, _, rfl⟩ | ⟨_, _, rfl⟩ | ⟨_, _, _, _, same⟩⟩ := System.advance_cases taken
      · simp [System.commit, different accepted]
      · simp [System.fail, different accepted]
      · simp [same, different accepted]

omit [DecidableEq K] in
theorem System.startsBeside_of_checked [DecidableRel beside] {label : Label J}
    (outside : ∀ session, sessions ≤ session → (system.slots session).job = none)
    (accepted : system.startsBeside beside sessions label = true) :
    system.StartsBeside beside label := by
  cases label with
  | advance | rollback => trivial
  | start session job =>
      intro running other found
      simp only [System.startsBeside, Bool.and_eq_true, List.all_eq_true, List.mem_range] at accepted
      have inside : running < sessions := by
        by_contra beyond
        rw [outside running (by omega)] at found
        cases found
      have checked := accepted.2 running inside
      rw [found] at checked
      simpa using checked

theorem Reachable.of_checked_run [DecidableRel beside] {last : System K V E A J}
    (labels : List (Label J))
    (outside : ∀ session, sessions ≤ session → (system.slots session).job = none)
    (ran : system.run body (System.startsBeside beside sessions) labels = some last) :
    Reachable body (System.StartsBeside beside) system last := by
  induction labels generalizing system with
  | nil =>
      simp only [System.run, Option.some.injEq] at ran
      exact ran ▸ .initial
  | cons label rest ih =>
      simp only [System.run] at ran
      split at ran
      · next accepted =>
          obtain ⟨next, taken, ran⟩ := Option.bind_eq_some_iff.mp ran
          have enabled := System.startsBeside_of_checked outside accepted
          apply Reachable.trans (.step label .initial enabled taken)
          apply ih _ ran
          intro session beyond
          rw [System.step_outside accepted taken beyond]
          exact outside session beyond
      · cases ran

end Runs

end Coexistence

end Transaction
