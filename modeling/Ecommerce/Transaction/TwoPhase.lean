import Ecommerce.Transaction.RelyGuarantee

set_option autoImplicit false

/-!
# Bodies that lock what they read

A body that reads a row only by writing it keeps what it has seen until it commits. Whatever runs
beside it, it commits as if it had run alone at that moment.
-/

namespace Transaction

variable {K : Type} {V : K → Type} {E A B J : Type}

/-- The body has no plain read. -/
def Prog.Locking : Prog K V E A → Prop
  | .pure _ => True
  | .throw _ => True
  | .fresh next => ∀ value, (next value).Locking
  | .select _ => False
  | .write _ _ next => ∀ row, (next row).Locking

theorem Prog.Locking.bind {body : Prog K V E A} {rest : A → Prog K V E B} (first : body.Locking)
    (second : ∀ value, (rest value).Locking) : (body >>= rest).Locking := by
  induction body with
  | pure value => exact second value
  | throw => trivial
  | fresh next ih => exact fun value => ih value (first value)
  | select => exact first.elim
  | write key change next ih => exact fun row => ih row (first row)

/-- The body, run alone on these rows after these writes, ends with the value and has then written
this; its fresh values are any. -/
def Prog.Runs [DecidableEq K] (rows : Store K V) :
    Prog K V E A → Writes K V → A → Writes K V → Prop
  | .pure result, writes, value, after => result = value ∧ writes = after
  | .throw _, _, _, _ => False
  | .fresh next, writes, value, after => ∃ drawn, (next drawn).Runs rows writes value after
  | .select next, writes, value, after => (next (writes.over rows)).Runs rows writes value after
  | .write key change next, writes, value, after =>
      ∃ row, change (writes.over rows key) = .ok row ∧
        (next row).Runs rows (writes.put key row) value after

/-- The jobs, each run alone on what the one before has left, lead from the first rows to these. -/
inductive Serially [DecidableEq K] (body : J → Prog K V E A) (first : Store K V) :
    List (J × A) → Store K V → Prop
  | none : Serially body first [] first
  | commit {log : List (J × A)} {rows : Store K V} {job : J} {value : A} {writes : Writes K V}
      (before : Serially body first log rows) (alone : (body job).Runs rows .none value writes) :
      Serially body first (log ++ [(job, value)]) (writes.over rows)

/-- A system that was reached, with the jobs that have committed on the way, in this order. -/
inductive History [DecidableEq K] (body : J → Prog K V E A) (first : System K V E A J) :
    List (J × A) → System K V E A J → Prop
  | start : History body first [] first
  | step {log : List (J × A)} {system next : System K V E A J} (label : Label J)
      (before : History body first log system) (taken : system.step body label = some next) :
      History body first
        (log ++ ((system.finishing label).map fun done => (done.1, done.2.1)).toList) next

section Commits

variable [DecidableEq K] {rows now : Store K V} {writes after : Writes K V} {value : A}

theorem Prog.runs_bind {body : Prog K V E A} {rest : A → Prog K V E B} {result : B} :
    (body >>= rest).Runs rows writes result after ↔
      ∃ value middle, body.Runs rows writes value middle ∧
        (rest value).Runs rows middle result after := by
  induction body generalizing writes with
  | pure value =>
      constructor
      · exact fun ran => ⟨value, writes, ⟨rfl, rfl⟩, ran⟩
      · rintro ⟨_, _, ⟨rfl, rfl⟩, ran⟩
        exact ran
  | throw =>
      constructor
      · exact fun ran => ran.elim
      · exact fun ⟨_, _, ran, _⟩ => ran.elim
  | fresh next ih =>
      constructor
      · rintro ⟨drawn, ran⟩
        obtain ⟨value, middle, first, second⟩ := (ih drawn).mp ran
        exact ⟨value, middle, ⟨drawn, first⟩, second⟩
      · rintro ⟨value, middle, ⟨drawn, first⟩, second⟩
        exact ⟨drawn, (ih drawn).mpr ⟨value, middle, first, second⟩⟩
  | select next ih => exact ih _
  | write key change next ih =>
      constructor
      · rintro ⟨row, changed, ran⟩
        obtain ⟨value, middle, first, second⟩ := (ih row).mp ran
        exact ⟨value, middle, ⟨row, changed, first⟩, second⟩
      · rintro ⟨value, middle, ⟨row, changed, first⟩, second⟩
        exact ⟨row, changed, (ih row).mpr ⟨value, middle, first, second⟩⟩

/-- What a locking job does at its commit is what it does alone on the rows of that moment. -/
def CommitsAlone (body : J → Prog K V E A) (job : J) (value : A) (rows : Store K V)
    (writes : Writes K V) : Prop :=
  (body job).Locking → (body job).Runs rows .none value writes

omit [DecidableEq K] in
theorem over_agrees {key : K} (agree : now key = rows key) (writes : Writes K V) :
    writes.over now key = writes.over rows key := by
  rw [Writes.over, Writes.over, agree]

/-- What is left of a locking body ends the way that the body does on all rows that agree where it
has written. -/
theorem wp_commitsAlone {inv : Store K V → Prop} {rely : Store K V → Store K V → Prop}
    {draws : Nat → Prop} {body : J → Prog K V E A} {job : J} (rest : Prog K V E A)
    (writes : Writes K V) (rows : Store K V)
    (continues : (body job).Locking → rest.Locking ∧
      ∀ now, (∀ key, writes key ≠ none → now key = rows key) → ∀ value after,
        rest.Runs now writes value after → (body job).Runs now .none value after) :
    wp inv rely draws rest (Commits inv rely (CommitsAlone body) job) writes rows := by
  induction rest generalizing writes rows with
  | pure value =>
      intro now interference locking
      exact (continues locking).2 now interference.frame value writes ⟨rfl, rfl⟩
  | throw => trivial
  | fresh next ih =>
      intro drawn _
      apply ih
      intro locking
      obtain ⟨locks, ends⟩ := continues locking
      exact ⟨locks drawn, fun now agree value after ran => ends now agree value after ⟨drawn, ran⟩⟩
  | select next ih =>
      intro now _
      apply ih
      exact fun locking => (continues locking).1.elim
  | write key change next ih =>
      intro later interference row changed
      apply ih
      intro locking
      obtain ⟨locks, ends⟩ := continues locking
      refine ⟨locks row, fun now agree value after ran => ?_⟩
      have sameRow : now key = later key := agree key ((Writes.put_written ..).mpr (.inl rfl))
      apply ends now
      · intro other written
        rw [agree other ((Writes.put_written ..).mpr (.inr written))]
        exact interference.frame other written
      · exact ⟨row, by rw [over_agrees sameRow]; exact changed, ran⟩

theorem commitsAlone_discipline (body : J → Prog K V E A) :
    Discipline (fun _ => True) (fun _ _ => True) (CommitsAlone body) body (fun _ => True) where
  relyRefl _ := trivial
  relyTrans _ _ _ _ _ := trivial
  starts job _ rows _ :=
    wp_commitsAlone (body job) .none rows fun locking => ⟨locking, fun _ _ _ _ ran => ran⟩
  keeps _ _ _ _ _ _ _ := ⟨trivial, trivial⟩

theorem History.sound {inv : Store K V → Prop} {rely : Store K V → Store K V → Prop}
    {effect : J → A → Store K V → Writes K V → Prop} {body : J → Prog K V E A}
    (discipline : Discipline inv rely effect body fun _ => True) {log : List (J × A)}
    {system : System K V E A J} (holds : inv rows)
    (history : History body (.initial rows) log system) :
    system.Sound inv rely effect (fun _ => True) rows := by
  induction history with
  | start => exact .initial rows holds discipline
  | step label _ taken ih => exact ih.step discipline label (fun _ _ _ => trivial) taken

/-- What every commit does to the rows, when it does what its job promises, a history has done to
them. -/
theorem History.commits {inv : Store K V → Prop} {rely : Store K V → Store K V → Prop}
    {effect : J → A → Store K V → Writes K V → Prop} {body : J → Prog K V E A}
    (discipline : Discipline inv rely effect body fun _ => True) (holds : inv rows)
    (reaches : List (J × A) → Store K V → Prop) (start : reaches [] rows)
    (commit : ∀ log rows job value writes, reaches log rows → effect job value rows writes →
      reaches (log ++ [(job, value)]) (writes.over rows))
    {log : List (J × A)} {system : System K V E A J}
    (history : History body (.initial rows) log system) : reaches log system.rows := by
  induction history with
  | start => exact start
  | @step log system next label before taken ih =>
      have sound := before.sound discipline holds
      rcases System.step_rows label taken with ⟨unfinished, same⟩ | ⟨job, value, writes, done, same⟩
      · rw [unfinished, same]
        simpa using ih
      · rw [done, same]
        exact commit log _ job value writes ih (sound.finishing discipline done).2

/-- If all jobs are locking, every interleaving is a serial run of the jobs that have committed, in
the order of their commits. -/
theorem History.serially {body : J → Prog K V E A} (locking : ∀ job, (body job).Locking)
    {log : List (J × A)} {system : System K V E A J}
    (history : History body (.initial rows) log system) :
    Serially body rows log system.rows := by
  apply history.commits (commitsAlone_discipline body) trivial (Serially body rows) .none
  intro log rows job value writes before alone
  exact before.commit (alone (locking job))

/-- The jobs that commit on the way of a run. -/
def System.commitLog (body : J → Prog K V E A) (system : System K V E A J) :
    List (Label J) → List (J × A)
  | [] => []
  | label :: rest =>
      ((system.finishing label).map fun done => (done.1, done.2.1)).toList ++
        match system.step body label with
        | some next => next.commitLog body rest
        | none => []

theorem History.of_run {body : J → Prog K V E A} {first system last : System K V E A J}
    {log : List (J × A)} {labels : List (Label J)} (before : History body first log system)
    (ran : system.run body (fun _ _ => true) labels = some last) :
    History body first (log ++ system.commitLog body labels) last := by
  induction labels generalizing log system with
  | nil =>
      simp only [System.run, Option.some.injEq] at ran
      simpa [System.commitLog, ← ran] using before
  | cons label rest ih =>
      simp only [System.run, if_true] at ran
      obtain ⟨next, taken, ran⟩ := Option.bind_eq_some_iff.mp ran
      have later := ih (before.step label taken) ran
      simpa [System.commitLog, taken] using later

end Commits

end Transaction
