import Ecommerce.Transaction.Apart

set_option autoImplicit false

/-!
# Rely and guarantee for interleaved transactions

If what each committed job does to the rows keeps the invariant and is itself allowed by `rely`,
then every reachable system commits its jobs one after the other.
-/

namespace Transaction

variable {K : Type} {V : K → Type} {E A J : Type}

section Refinement

variable [DecidableEq K] (inv : Store K V → Prop) (rely : Store K V → Store K V → Prop)
variable (effect : J → A → Store K V → Writes K V → Prop)

structure Discipline (body : J → Prog K V E A) (jobs : J → Prop) : Prop where
  relyRefl : ∀ rows, rely rows rows
  relyTrans : ∀ first second third, rely first second → rely second third → rely first third
  starts : ∀ job, jobs job → ∀ rows, inv rows →
    wp inv rely (fun _ => True) (body job) (Commits inv rely effect job) .none rows
  keeps : ∀ job value rows writes, jobs job → inv rows → effect job value rows writes →
    inv (writes.over rows) ∧ rely rows (writes.over rows)

def Slot.Sound (jobs : J → Prop) (rows : Store K V) (holds : K → Prop) :
    Slot K V E A J → Prop
  | .running job rest writes =>
      jobs job ∧ wp inv rely (fun _ => True) rest (Commits inv rely effect job) writes rows ∧
        ∀ key, writes key ≠ none ↔ holds key
  | _ => ∀ key, ¬ holds key

structure System.Sound (jobs : J → Prop) (first : Store K V) (system : System K V E A J) :
    Prop where
  invariant : inv system.rows
  since : rely first system.rows
  sessions : ∀ session, (system.slots session).Sound inv rely effect jobs system.rows
    fun key => system.locks key = some session

variable {inv rely effect} {body : J → Prog K V E A} {jobs : J → Prop}
variable {first : Store K V} {system next : System K V E A J}

theorem Discipline.coexistence (discipline : Discipline inv rely effect body jobs) :
    Coexistence inv (fun _ => rely) effect (fun _ _ => True) body jobs where
  relyRefl _ := discipline.relyRefl
  relyTrans _ := discipline.relyTrans
  starts := discipline.starts
  keeps job value rows writes known holds done := by
    obtain ⟨invariant, allowed⟩ := discipline.keeps job value rows writes known holds done
    exact ⟨invariant, fun _ _ _ => allowed⟩

theorem Slot.sound_iff_promises (slot : Slot K V E A J) (rows : Store K V) (holds : K → Prop) :
    slot.Sound inv rely effect jobs rows holds ↔
      slot.Promises inv (fun _ => rely) effect jobs rows holds := by
  cases slot <;> rfl

theorem System.Sound.coexists (sound : system.Sound inv rely effect jobs first) :
    system.Coexists inv (fun _ => rely) effect (fun _ _ => True) jobs where
  invariant := sound.invariant
  sessions session := (Slot.sound_iff_promises ..).mp (sound.sessions session)
  besides _ _ _ _ _ _ _ := trivial

theorem System.Coexists.sound
    (coexists : system.Coexists inv (fun _ => rely) effect (fun _ _ => True) jobs)
    (since : rely first system.rows) : system.Sound inv rely effect jobs first where
  invariant := coexists.invariant
  since := since
  sessions session := (Slot.sound_iff_promises ..).mpr (coexists.sessions session)

theorem System.Sound.initial (rows : Store K V) (holds : inv rows)
    (discipline : Discipline inv rely effect body jobs) :
    (System.initial rows : System K V E A J).Sound inv rely effect jobs rows :=
  (System.Coexists.initial rows holds).sound (discipline.relyRefl rows)

theorem System.Sound.finishing (sound : system.Sound inv rely effect jobs first)
    (discipline : Discipline inv rely effect body jobs) {label : Label J} {job : J} {value : A}
    {writes : Writes K V} (finishing : system.finishing label = some (job, value, writes)) :
    jobs job ∧ effect job value system.rows writes :=
  sound.coexists.finishing discipline.coexistence finishing

theorem System.Sound.step (sound : system.Sound inv rely effect jobs first)
    (discipline : Discipline inv rely effect body jobs) (label : Label J)
    (known : ∀ session job, label = .start session job → jobs job)
    (taken : system.step body label = some next) :
    next.Sound inv rely effect jobs first := by
  have later := sound.coexists.step discipline.coexistence label
    (fun session job same => ⟨known session job same, fun _ _ _ => ⟨trivial, trivial⟩⟩) taken
  apply later.sound
  rcases System.step_rows label taken with ⟨_, same⟩ | ⟨job, value, writes, finishing, same⟩
  · rw [same]
    exact sound.since
  · obtain ⟨listed, done⟩ := sound.finishing discipline finishing
    have allowed := (discipline.keeps job value _ _ listed sound.invariant done).2
    rw [same]
    exact discipline.relyTrans _ _ _ sound.since allowed

theorem System.Sound.step_related (sound : system.Sound inv rely effect jobs first)
    (discipline : Discipline inv rely effect body jobs) (label : Label J)
    (known : ∀ session job, label = .start session job → jobs job)
    (taken : system.step body label = some next) : rely system.rows next.rows := by
  have fromHere : system.Sound inv rely effect jobs system.rows :=
    { sound with since := discipline.relyRefl _ }
  exact (fromHere.step discipline label known taken).since

theorem Reachable.sound (discipline : Discipline inv rely effect body jobs)
    {allowed : System K V E A J → Label J → Prop}
    (known : ∀ system session job, allowed system (.start session job) → jobs job)
    (start : system.Sound inv rely effect jobs first)
    (reachable : Reachable body allowed system next) :
    next.Sound inv rely effect jobs first := by
  induction reachable with
  | initial => exact start
  | step label _ enabled taken ih =>
      exact ih.step discipline label (fun session job same => known _ session job (same ▸ enabled))
        taken

theorem Reachable.related (discipline : Discipline inv rely effect body jobs)
    {allowed : System K V E A J → Label J → Prop}
    (known : ∀ system session job, allowed system (.start session job) → jobs job)
    (start : system.Sound inv rely effect jobs first)
    (reachable : Reachable body allowed system next) : rely system.rows next.rows := by
  have fromHere : system.Sound inv rely effect jobs system.rows :=
    { start with since := discipline.relyRefl _ }
  exact (reachable.sound discipline known fromHere).since

end Refinement

end Transaction
