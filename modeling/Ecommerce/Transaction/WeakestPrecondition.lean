import Ecommerce.Transaction.ReadCommitted

set_option autoImplicit false

/-!
# Weakest preconditions of interleaved transactions

A body is checked against a database that other sessions may change between any two of its
statements, but only as `rely` allows, and never in a row that the body has written.
-/

namespace Transaction

variable {K : Type} {V : K → Type} {E A B J : Type}

/-- What other sessions may have committed since the rows were last looked at. -/
structure Interferes (inv : Store K V → Prop) (rely : Store K V → Store K V → Prop)
    (writes : Writes K V) (before after : Store K V) : Prop where
  invariant : inv after
  allowed : rely before after
  frame : ∀ key, writes key ≠ none → after key = before key

section WeakestPrecondition

variable (inv : Store K V → Prop) (rely : Store K V → Store K V → Prop) (draws : Nat → Prop)

/-- Every run of the body from these writes and rows that reaches its end does so in `post`, when
its fresh values are among `draws`. -/
def wp [DecidableEq K] :
    Prog K V E A → (A → Writes K V → Store K V → Prop) → Writes K V → Store K V → Prop
  | .pure value, post, writes, rows => post value writes rows
  | .throw _, _, _, _ => True
  | .fresh next, post, writes, rows => ∀ value, draws value → wp (next value) post writes rows
  | .select next, post, writes, rows =>
      ∀ now, Interferes inv rely writes rows now →
        wp (next (writes.over now)) post writes now
  | .write key change next, post, writes, rows =>
      ∀ now, Interferes inv rely writes rows now →
        ∀ row, change (writes.over now key) = .ok row →
          wp (next row) post (writes.put key row) now

def Stable (post : A → Writes K V → Store K V → Prop) : Prop :=
  ∀ value writes before after, post value writes before →
    Interferes inv rely writes before after → post value writes after

variable {inv rely draws}

theorem Interferes.refl (relyRefl : ∀ rows, rely rows rows) (writes : Writes K V)
    {rows : Store K V} (holds : inv rows) : Interferes inv rely writes rows rows :=
  { invariant := holds
    allowed := relyRefl rows
    frame := fun _ _ => rfl }

theorem Interferes.trans
    (relyTrans : ∀ first second third, rely first second → rely second third → rely first third)
    {writes : Writes K V} {first second third : Store K V}
    (one : Interferes inv rely writes first second)
    (two : Interferes inv rely writes second third) :
    Interferes inv rely writes first third :=
  { invariant := two.invariant
    allowed := relyTrans _ _ _ one.allowed two.allowed
    frame := fun key written => (two.frame key written).trans (one.frame key written) }

theorem Interferes.unput [DecidableEq K] {writes : Writes K V} {key : K} {row : Option (V key)}
    {before after : Store K V} (interference : Interferes inv rely (writes.put key row) before after) :
    Interferes inv rely writes before after :=
  -- Less is promised to a session that has written less.
  { interference with
    frame := fun other written =>
      interference.frame other ((Writes.put_written ..).mpr (.inr written)) }

section Rules

variable [DecidableEq K]

theorem wp_mono {post weaker : A → Writes K V → Store K V → Prop}
    (weaken : ∀ value writes rows, post value writes rows → weaker value writes rows)
    (body : Prog K V E A) (writes : Writes K V) (rows : Store K V)
    (holds : wp inv rely draws body post writes rows) : wp inv rely draws body weaker writes rows := by
  induction body generalizing writes rows with
  | pure value => exact weaken value writes rows holds
  | throw => trivial
  | fresh next ih => exact fun value drawn => ih value writes rows (holds value drawn)
  | select next ih => exact fun now interference => ih _ writes now (holds now interference)
  | write key change next ih =>
      exact fun now interference row changed =>
        ih row _ now (holds now interference row changed)

theorem wp_bind {post : B → Writes K V → Store K V → Prop} (body : Prog K V E A)
    (rest : A → Prog K V E B) (writes : Writes K V) (rows : Store K V) :
    wp inv rely draws (body >>= rest) post writes rows ↔
      wp inv rely draws body (fun value => wp inv rely draws (rest value) post) writes rows := by
  induction body generalizing writes rows with
  | pure | throw => rfl
  | fresh next ih =>
      exact forall_congr' fun value => imp_congr_right fun _ => ih value writes rows
  | select next ih =>
      exact forall_congr' fun now => imp_congr_right fun _ => ih _ writes now
  | write key change next ih =>
      exact forall_congr' fun now => imp_congr_right fun _ =>
        forall_congr' fun row => imp_congr_right fun _ => ih row _ now

theorem wp_seq {between : A → Writes K V → Store K V → Prop}
    {post : B → Writes K V → Store K V → Prop} {body : Prog K V E A} {rest : A → Prog K V E B}
    {writes : Writes K V} {rows : Store K V} (first : wp inv rely draws body between writes rows)
    (second : ∀ value writes rows, between value writes rows →
      wp inv rely draws (rest value) post writes rows) :
    wp inv rely draws (body >>= rest) post writes rows :=
  (wp_bind ..).mpr (wp_mono second _ _ _ first)

theorem wp_stable
    (relyTrans : ∀ first second third, rely first second → rely second third → rely first third)
    {post : A → Writes K V → Store K V → Prop} (stable : Stable inv rely post)
    (body : Prog K V E A) (writes : Writes K V) (before after : Store K V)
    (holds : wp inv rely draws body post writes before)
    (interference : Interferes inv rely writes before after) :
    wp inv rely draws body post writes after := by
  induction body generalizing writes before after with
  | pure value => exact stable value writes before after holds interference
  | throw => trivial
  | fresh next ih =>
      exact fun value drawn => ih value writes before after (holds value drawn) interference
  | select next _ => exact fun now later => holds now (interference.trans relyTrans later)
  | write key change next _ => exact fun now later => holds now (interference.trans relyTrans later)

theorem wp_forEach {I : Type} (items : List I) (body : I → Prog K V E Unit)
    (invariant : List I → Writes K V → Store K V → Prop)
    (each : ∀ done item rest, items = done ++ item :: rest → ∀ writes rows,
      invariant done writes rows →
        wp inv rely draws (body item) (fun _ => invariant (done ++ [item])) writes rows)
    (writes : Writes K V) (rows : Store K V) (start : invariant [] writes rows) :
    wp inv rely draws (Prog.forEach items body) (fun _ => invariant items) writes rows := by
  have loop (done rest : List I) (split : items = done ++ rest) (writes : Writes K V)
      (rows : Store K V) (holds : invariant done writes rows) :
      wp inv rely draws (Prog.forEach rest body) (fun _ => invariant items) writes rows := by
    induction rest generalizing done writes rows with
    | nil => simpa [Prog.forEach, wp, split] using holds
    | cons item rest ih =>
        exact wp_seq (each done item rest split _ _ holds) fun _ writes rows holds =>
          ih (done ++ [item]) (by simp [split]) writes rows holds
  exact loop [] items rfl writes rows start

theorem wp_collect {I : Type} (items : List I) (body : I → Prog K V E (Option A))
    (invariant : List I → List A → Writes K V → Store K V → Prop)
    (each : ∀ done item rest, items = done ++ item :: rest → ∀ found writes rows,
      invariant done found writes rows →
        wp inv rely draws (body item)
          (fun answer => invariant (done ++ [item]) (found ++ answer.toList)) writes rows)
    (writes : Writes K V) (rows : Store K V) (start : invariant [] [] writes rows) :
    wp inv rely draws (Prog.collect items [] body) (invariant items) writes rows := by
  have loop (done rest : List I) (split : items = done ++ rest) (found : List A)
      (writes : Writes K V) (rows : Store K V) (holds : invariant done found writes rows) :
      wp inv rely draws (Prog.collect rest found body) (invariant items) writes rows := by
    induction rest generalizing done found writes rows with
    | nil => simpa [Prog.collect, wp, split] using holds
    | cons item rest ih =>
        exact wp_seq (each done item rest split found _ _ holds) fun _ writes rows holds =>
          ih (done ++ [item]) (by simp [split]) _ writes rows holds
  exact loop [] items rfl [] writes rows start

end Rules

end WeakestPrecondition

end Transaction
