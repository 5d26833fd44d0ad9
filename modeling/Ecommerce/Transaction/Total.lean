import Ecommerce.Transaction.Serial

set_option autoImplicit false

/-!
# What comes of a transaction

`wp` speaks of the runs that reach their end. Alone and without a fault a body has one run:
`results` says how it ends or fails, and `ends` that it does not fail.
-/

namespace Transaction

variable {K : Type} [DecidableEq K] {V : K → Type} {E A B : Type}

/-- The run of the body from these writes and this supply reaches its end in `post`, or fails with
one of the errors that are given. -/
def results : Prog K V E A → (A → Writes K V → Nat → Prop) → (E → Prop) → Writes K V → Store K V →
    Nat → Prop
  | .pure value, post, _, writes, _, supply => post value writes supply
  | .throw error, _, fails, _, _, _ => fails error
  | .fresh next, post, fails, writes, rows, supply =>
      results (next supply) post fails writes rows (supply + 1)
  | .select next, post, fails, writes, rows, supply =>
      results (next (writes.over rows)) post fails writes rows supply
  | .write key change next, post, fails, writes, rows, supply =>
      match change (writes.over rows key) with
      | .ok row => results (next row) post fails (writes.put key row) rows supply
      | .error error => fails error

abbrev ends (body : Prog K V E A) (post : A → Writes K V → Nat → Prop) (writes : Writes K V)
    (rows : Store K V) (supply : Nat) : Prop :=
  results body post (fun _ => False) writes rows supply

variable {rows : Store K V} {writes : Writes K V} {supply : Nat} {fails : E → Prop}

theorem results_bind {post : B → Writes K V → Nat → Prop} (body : Prog K V E A)
    (rest : A → Prog K V E B) :
    results (body >>= rest) post fails writes rows supply ↔
      results body (fun value writes supply => results (rest value) post fails writes rows supply)
        fails writes rows supply := by
  induction body generalizing writes supply with
  | pure | throw => rfl
  | fresh next ih => exact ih supply
  | select next ih => exact ih _
  | write key change next ih =>
      simp only [Prog.bind_write, results]
      split
      · next row _ => exact ih row
      · rfl

theorem results_mono {post weaker : A → Writes K V → Nat → Prop} {failsToo : E → Prop}
    (weaken : ∀ value writes supply, post value writes supply → weaker value writes supply)
    (excuse : ∀ error, fails error → failsToo error)
    (body : Prog K V E A) (holds : results body post fails writes rows supply) :
    results body weaker failsToo writes rows supply := by
  induction body generalizing writes supply with
  | pure value => exact weaken value writes supply holds
  | throw error => exact excuse error holds
  | fresh next ih => exact ih supply holds
  | select next ih => exact ih _ holds
  | write key change next ih =>
      simp only [results] at holds ⊢
      split at holds
      · next row _ => exact ih row holds
      · next error _ => exact excuse error holds

theorem results_seq {between : A → Writes K V → Nat → Prop} {post : B → Writes K V → Nat → Prop}
    {body : Prog K V E A} {rest : A → Prog K V E B}
    (first : results body between fails writes rows supply)
    (second : ∀ value writes supply, between value writes supply →
      results (rest value) post fails writes rows supply) :
    results (body >>= rest) post fails writes rows supply :=
  (results_bind ..).mpr (results_mono second (fun _ => id) _ first)

theorem results_forEach {I : Type} (items : List I) (body : I → Prog K V E Unit)
    (invariant : List I → Writes K V → Nat → Prop)
    (each : ∀ done item rest, items = done ++ item :: rest → ∀ writes supply,
      invariant done writes supply →
        results (body item) (fun _ => invariant (done ++ [item])) fails writes rows supply)
    (start : invariant [] writes supply) :
    results (Prog.forEach items body) (fun _ => invariant items) fails writes rows supply := by
  have loop (done rest : List I) (split : items = done ++ rest) (writes : Writes K V) (supply : Nat)
      (holds : invariant done writes supply) :
      results (Prog.forEach rest body) (fun _ => invariant items) fails writes rows supply := by
    induction rest generalizing done writes supply with
    | nil => simpa [Prog.forEach, results, split] using holds
    | cons item rest ih =>
        apply results_seq (each done item rest split _ _ holds)
        exact fun _ writes supply holds => ih (done ++ [item]) (by simp [split]) writes supply holds
  exact loop [] items rfl writes supply start

theorem results_collect {I : Type} (items : List I) (body : I → Prog K V E (Option A))
    (invariant : List I → List A → Writes K V → Nat → Prop)
    (each : ∀ done item rest, items = done ++ item :: rest → ∀ found writes supply,
      invariant done found writes supply →
        results (body item) (fun answer => invariant (done ++ [item]) (found ++ answer.toList)) fails
          writes rows supply)
    (start : invariant [] [] writes supply) :
    results (Prog.collect items [] body) (invariant items) fails writes rows supply := by
  have loop (done rest : List I) (split : items = done ++ rest) (found : List A)
      (writes : Writes K V) (supply : Nat) (holds : invariant done found writes supply) :
      results (Prog.collect rest found body) (invariant items) fails writes rows supply := by
    induction rest generalizing done found writes supply with
    | nil => simpa [Prog.collect, results, split] using holds
    | cons item rest ih =>
        apply results_seq (each done item rest split found _ _ holds)
        exact fun _ writes supply holds =>
          ih (done ++ [item]) (by simp [split]) _ writes supply holds
  exact loop [] items rfl [] writes supply start

theorem exec_of_results {post : A → Writes K V → Nat → Prop} (body : Prog K V E A)
    (holds : results body post fails writes rows supply) :
    (∃ value after next, body.exec none writes rows supply = .ok (value, after, next) ∧
      post value after next) ∨
      ∃ error, body.exec none writes rows supply = .error error ∧ fails error := by
  induction body generalizing writes supply with
  | pure value => exact .inl ⟨value, writes, supply, rfl, holds⟩
  | throw error => exact .inr ⟨error, rfl, holds⟩
  | fresh next ih => exact ih supply holds
  | select next ih => exact ih _ holds
  | write key change next ih =>
      simp only [results] at holds
      cases changed : change (writes.over rows key) with
      | error error =>
          rw [changed] at holds
          exact .inr ⟨error, by simp only [Prog.exec, changed]; rfl, holds⟩
      | ok row =>
          rw [changed] at holds
          simp only [Prog.exec, changed]
          exact ih row holds

theorem transaction_of_results {post : A → Writes K V → Nat → Prop} {body : Prog K V E A}
    (holds : results body post fails .none rows supply) :
    (∃ value after next, body.transaction none rows supply = .ok (value, after.over rows, next) ∧
      post value after next) ∨
      ∃ error, body.transaction none rows supply = .error error ∧ fails error := by
  rcases exec_of_results body holds with ⟨value, after, next, ran, reached⟩ | ⟨error, failed, bad⟩
  · exact .inl ⟨value, after, next, by rw [Prog.transaction, ran]; rfl, reached⟩
  · exact .inr ⟨error, by rw [Prog.transaction, failed]; rfl, bad⟩

theorem transaction_of_ends {post : A → Writes K V → Nat → Prop} {body : Prog K V E A}
    (holds : ends body post .none rows supply) :
    ∃ value after next, body.transaction none rows supply = .ok (value, after.over rows, next) ∧
      post value after next := by
  rcases transaction_of_results holds with committed | ⟨_, _, bad⟩
  · exact committed
  · exact bad.elim

end Transaction
