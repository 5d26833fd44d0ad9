import Ecommerce.Transaction.RelyGuarantee

set_option autoImplicit false

/-!
# One transaction alone

A fault makes one statement of a transaction fail; the COMMIT is its last statement. A
transaction that fails leaves the rows as they were.
-/

namespace Transaction

variable {K : Type} {V : K → Type} {E A B : Type}

/-- The statement that fails, and its error. -/
abbrev Fault (E : Type) := Option (Nat × E)

def Fault.tick : Fault E → Except E (Fault E)
  | some (0, error) => .error error
  | some (later + 1, error) => .ok (some (later, error))
  | none => .ok none

/-- The statements of a body, run with nothing in between; fresh values are counted up. -/
def Prog.exec [DecidableEq K] : Prog K V E A → Fault E → Writes K V → Store K V → Nat →
    Except E (A × Writes K V × Nat)
  | .pure value, fault, writes, _, supply => do
      let _ ← fault.tick
      return (value, writes, supply)
  | .throw error, _, _, _, _ => .error error
  | .fresh next, fault, writes, rows, supply =>
      (next supply).exec fault writes rows (supply + 1)
  | .select next, fault, writes, rows, supply => do
      let fault ← fault.tick
      (next (writes.over rows)).exec fault writes rows supply
  | .write key change next, fault, writes, rows, supply => do
      let fault ← fault.tick
      let row ← change (writes.over rows key)
      (next row).exec fault (writes.put key row) rows supply

def Prog.transaction [DecidableEq K] (body : Prog K V E A) (fault : Fault E) (rows : Store K V)
    (supply : Nat) : Except E (A × Store K V × Nat) :=
  (body.exec fault .none rows supply).map fun result => (result.1, result.2.1.over rows, result.2.2)

section Exec

variable [DecidableEq K] {body : Prog K V E A} {fault : Fault E} {writes after : Writes K V}
variable {rows : Store K V} {supply next : Nat} {value : A}

theorem bind_ok {X Y : Type} {first : Except E X} {rest : X → Except E Y} {result : Y}
    (ran : (first >>= rest) = .ok result) : ∃ middle, first = .ok middle ∧ rest middle = .ok result := by
  cases first with
  | error error => cases ran
  | ok middle => exact ⟨middle, rfl, ran⟩

theorem Prog.exec_supply (body : Prog K V E A) {fault : Fault E} {writes after : Writes K V}
    {supply next : Nat} {value : A}
    (ran : body.exec fault writes rows supply = .ok (value, after, next)) :
    supply ≤ next := by
  induction body generalizing fault writes supply with
  | pure =>
      obtain ⟨_, _, done⟩ := bind_ok ran
      cases done
      exact Nat.le_refl _
  | throw => cases ran
  | fresh _ ih => exact Nat.le_of_succ_le (ih _ ran)
  | select _ ih =>
      obtain ⟨_, _, rest⟩ := bind_ok ran
      exact ih _ rest
  | write key change _ ih =>
      obtain ⟨_, _, ran⟩ := bind_ok ran
      obtain ⟨row, _, rest⟩ := bind_ok ran
      exact ih row rest

theorem Prog.exec_faultless (ran : body.exec fault writes rows supply = .ok (value, after, next)) :
    body.exec none writes rows supply = .ok (value, after, next) := by
  induction body generalizing fault writes supply with
  | pure =>
      obtain ⟨_, _, done⟩ := bind_ok ran
      cases done
      rfl
  | throw => cases ran
  | fresh _ ih => exact ih _ ran
  | select _ ih =>
      obtain ⟨_, _, rest⟩ := bind_ok ran
      exact ih _ rest
  | write key change _ ih =>
      obtain ⟨_, _, ran⟩ := bind_ok ran
      obtain ⟨row, changed, rest⟩ := bind_ok ran
      simp only [Prog.exec, changed]
      exact ih row rest

theorem Prog.exec_wp {inv : Store K V → Prop} {rely : Store K V → Store K V → Prop}
    {draws : Nat → Prop} {post : A → Writes K V → Store K V → Prop} (holds : inv rows)
    (relyRefl : ∀ rows, rely rows rows)
    (promise : wp inv rely draws body post writes rows)
    (ran : body.exec fault writes rows supply = .ok (value, after, next))
    (fresh : ∀ drawn, supply ≤ drawn → drawn < next → draws drawn) : post value after rows := by
  induction body generalizing fault writes supply with
  | pure =>
      obtain ⟨_, _, done⟩ := bind_ok ran
      cases done
      exact promise
  | throw => cases ran
  | fresh rest ih =>
      have later := Prog.exec_supply (rest supply) ran
      exact ih supply (promise supply (fresh supply (Nat.le_refl supply) later)) ran
        fun drawn above => fresh drawn (Nat.le_of_succ_le above)
  | select _ ih =>
      obtain ⟨_, _, ran⟩ := bind_ok ran
      exact ih _ (promise rows (.refl relyRefl writes holds)) ran fresh
  | write key change _ ih =>
      obtain ⟨_, _, ran⟩ := bind_ok ran
      obtain ⟨row, changed, ran⟩ := bind_ok ran
      exact ih row (promise rows (.refl relyRefl writes holds) row changed) ran fresh

theorem Writes.put_over_update (writes : Writes K V) (key : K) (row : Option (V key))
    (rows : Store K V) :
    (writes.put key row).over rows = Function.update (writes.over rows) key row := by
  funext other
  by_cases same : other = key
  · subst same
    simp [Writes.over, Writes.put]
  · simp [Writes.over, Writes.put, Function.update_of_ne same]

theorem Prog.exec_seen {one two : Writes K V} {left right : Store K V}
    (same : one.over left = two.over right) :
    (body.exec fault one left supply).map (fun result => (result.1, result.2.1.over left, result.2.2)) =
      (body.exec fault two right supply).map
        fun result => (result.1, result.2.1.over right, result.2.2) := by
  induction body generalizing fault one two supply with
  | pure =>
      cases ticked : fault.tick with
      | error => simp only [Prog.exec, ticked]; rfl
      | ok =>
          simp only [Prog.exec, ticked]
          exact congrArg (fun seen => Except.ok (_, seen, _)) same
  | throw => rfl
  | fresh _ ih => exact ih _ same
  | select _ ih =>
      cases ticked : fault.tick with
      | error => simp only [Prog.exec, ticked]; rfl
      | ok later =>
          simp only [Prog.exec, ticked, same]
          exact ih _ same
  | write key change _ ih =>
      cases ticked : fault.tick with
      | error => simp only [Prog.exec, ticked]; rfl
      | ok later =>
          simp only [Prog.exec, ticked, same]
          cases changed : change (two.over right key) with
          | error => rfl
          | ok row =>
              refine ih row ?_
              rw [Writes.put_over_update, Writes.put_over_update, same]

theorem Prog.transaction_seen (writes : Writes K V) :
    (body.exec fault writes rows supply).map
        (fun result => (result.1, result.2.1.over rows, result.2.2)) =
      body.transaction fault (writes.over rows) supply :=
  Prog.exec_seen rfl

theorem Prog.transaction_ok {last : Store K V}
    (ran : body.transaction fault rows supply = .ok (value, last, next)) :
    ∃ writes, body.exec fault .none rows supply = .ok (value, writes, next) ∧
      last = writes.over rows := by
  unfold Prog.transaction at ran
  cases finished : body.exec fault .none rows supply with
  | error => simp [finished, Except.map] at ran
  | ok result =>
      simp only [finished, Except.map, Except.ok.injEq, Prod.mk.injEq] at ran
      obtain ⟨same, layered, drawn⟩ := ran
      exact ⟨result.2.1, by rw [← same, ← drawn], layered.symm⟩

theorem Prog.transaction_faultless {last : Store K V}
    (ran : body.transaction fault rows supply = .ok (value, last, next)) :
    body.transaction none rows supply = .ok (value, last, next) := by
  obtain ⟨writes, finished, same⟩ := Prog.transaction_ok ran
  simp [Prog.transaction, Prog.exec_faultless finished, Except.map, same]

theorem Prog.transaction_commits {J : Type} {effect : J → A → Store K V → Writes K V → Prop}
    {job : J} {draws : Nat → Prop} {last : Store K V}
    (promise : wp (fun _ => True) Eq draws body (Commits (fun _ => True) Eq effect job) .none rows)
    (ran : body.transaction fault rows supply = .ok (value, last, next))
    (fresh : ∀ drawn, supply ≤ drawn → drawn < next → draws drawn) :
    ∃ writes, effect job value rows writes ∧ last = writes.over rows := by
  obtain ⟨writes, finished, same⟩ := Prog.transaction_ok ran
  have commits := Prog.exec_wp trivial (fun _ => rfl) promise finished fresh
  exact ⟨writes, commits rows (.refl (fun _ => rfl) writes trivial), same⟩

theorem Prog.transaction_supply {last : Store K V}
    (ran : body.transaction fault rows supply = .ok (value, last, next)) : supply ≤ next := by
  obtain ⟨writes, finished, -⟩ := Prog.transaction_ok ran
  exact Prog.exec_supply body finished

end Exec

end Transaction
