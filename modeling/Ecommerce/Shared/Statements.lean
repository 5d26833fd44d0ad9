import Ecommerce.Shared.ProcessOnce
import Ecommerce.Transaction.RelyGuarantee

set_option autoImplicit false

/-!
# Rules for the statements of the Prisma client
-/

namespace Ecommerce

open Transaction

section OnRows

variable {K : Type} {V : K → Type} {A B E : Type}

theorem onRows_bind (body : Prog K V E A) (rest : A → Prog K V E B) :
    onRows (body >>= rest) = onRows body >>= fun value => onRows (rest value) := by
  induction body with
  | pure | throw => rfl
  | fresh next ih => exact congrArg Prog.fresh (funext ih)
  | select next ih => exact congrArg Prog.select (funext fun rows => ih _)
  | write key change next ih =>
      simp only [Prog.bind_write, onRows, ih]

@[simp] theorem onRows_pure (value : A) :
    onRows (Pure.pure value : Prog K V E A) = Pure.pure value := rfl

@[simp] theorem onRows_throw (error : E) :
    onRows (Prog.throw error : Prog K V E A) = .throw error := rfl

@[simp] theorem onRows_randomUUID :
    onRows (randomUUID : Prog K V E Uuid) = randomUUID := rfl

@[simp] theorem onRows_createEvent (now : Timestamp) (input : NewEvent) :
    onRows (createEvent now input : Prog K V E EventEnvelope) = createEvent now input := rfl

@[simp] theorem onRows_findUnique (key : K) :
    onRows (findUnique key : Prog K V TxError _) = findUnique (V := TableRow V) (.row key) := rfl

@[simp] theorem onRows_create (key : K) (row : V key) :
    onRows (create key row) = create (V := TableRow V) (.row key) row := by
  unfold create onRows
  congr 1
  funext found
  cases found <;> rfl

@[simp] theorem onRows_ite (c : Prop) [Decidable c] (yes no : Prog K V E A) :
    onRows (if c then yes else no) = if c then onRows yes else onRows no := by
  split <;> rfl

@[simp] theorem onRows_update (key : K) (data : V key → V key) :
    onRows (update key data) = update (V := TableRow V) (.row key) data := by
  unfold update onRows
  congr 1 <;> funext found <;> cases found <;> rfl

@[simp] theorem onRows_findUniqueOrThrow (key : K) :
    onRows (findUniqueOrThrow key : Prog K V TxError _) =
      findUniqueOrThrow (V := TableRow V) (.row key) := by
  unfold findUniqueOrThrow
  rw [onRows_bind]
  congr 1
  funext found
  cases found <;> rfl

@[simp] theorem onRows_updateWithin (key : K) (fits : V key → Bool) (data : V key → V key) :
    onRows (updateWithin key fits data) =
      updateWithin (V := TableRow V) (.row key) fits data := by
  unfold updateWithin onRows
  congr 1 <;> funext found <;> cases found <;> rfl

@[simp] theorem onRows_upsertWithin (key : K) (fits : V key → Bool) (row : V key) :
    onRows (upsertWithin key fits row) = upsertWithin (V := TableRow V) (.row key) fits row := by
  unfold upsertWithin
  rw [onRows_bind]
  congr 1
  funext found
  cases found with
  | none =>
      dsimp only
      rw [onRows_ite, onRows_create, onRows_throw]
  | some => rfl

@[simp] theorem onRows_forEach {I : Type} (items : List I) (body : I → Prog K V E Unit) :
    onRows (Prog.forEach items body) = Prog.forEach items fun item => onRows (body item) := by
  induction items with
  | nil => rfl
  | cons item rest ih => simp only [Prog.forEach, onRows_bind, ih]

@[simp] theorem onRows_collect {I : Type} (items : List I) (found : List A)
    (body : I → Prog K V E (Option A)) :
    onRows (Prog.collect items found body) =
      Prog.collect items found fun item => onRows (body item) := by
  induction items generalizing found with
  | nil => rfl
  | cons item rest ih => simp only [Prog.collect, onRows_bind, ih]

end OnRows

section Wp

variable {K : Type} [DecidableEq K] {V : K → Type} {A E : Type}
variable {inv : Store K V → Prop} {rely : Store K V → Store K V → Prop}
variable {draws : Nat → Prop} {writes : Writes K V} {rows : Store K V}

@[simp] theorem wp_pure {post : A → Writes K V → Store K V → Prop} (value : A) :
    wp inv rely draws (Pure.pure value : Prog K V E A) post writes rows ↔ post value writes rows :=
  Iff.rfl

@[simp] theorem wp_randomUUID {post : Uuid → Writes K V → Store K V → Prop} :
    wp inv rely draws (randomUUID : Prog K V E Uuid) post writes rows ↔
      ∀ value, draws value → post value writes rows :=
  Iff.rfl

@[simp] theorem wp_createEvent {post : EventEnvelope → Writes K V → Store K V → Prop}
    (now : Timestamp) (input : NewEvent) :
    wp inv rely draws (createEvent now input : Prog K V E EventEnvelope) post writes rows ↔
      ∀ eventId, draws eventId → post (input.envelope now eventId) writes rows :=
  Iff.rfl

theorem wp_findUnique {key : K} {post : Option (V key) → Writes K V → Store K V → Prop} :
    wp inv rely draws (findUnique key) post writes rows ↔
      ∀ now, Interferes inv rely writes rows now → post (writes.over now key) writes now :=
  Iff.rfl

theorem wp_create {key : K} {row : V key} {post : V key → Writes K V → Store K V → Prop} :
    wp inv rely draws (create key row) post writes rows ↔
      ∀ now, Interferes inv rely writes rows now → writes.over now key = none →
        post row (writes.put key (some row)) now := by
  refine forall_congr' fun now => imp_congr_right fun _ => ?_
  cases found : writes.over now key <;> simp [wp]

theorem wp_update {key : K} {data : V key → V key}
    {post : V key → Writes K V → Store K V → Prop} :
    wp inv rely draws (update key data) post writes rows ↔
      ∀ now, Interferes inv rely writes rows now → ∀ row, writes.over now key = some row →
        post (data row) (writes.put key (some (data row))) now := by
  refine forall_congr' fun now => imp_congr_right fun _ => ?_
  cases found : writes.over now key <;> simp [wp]

theorem wp_findUniqueOrThrow {key : K} {post : V key → Writes K V → Store K V → Prop} :
    wp inv rely draws (findUniqueOrThrow key) post writes rows ↔
      ∀ now, Interferes inv rely writes rows now → ∀ row, writes.over now key = some row →
        post row writes now := by
  rw [findUniqueOrThrow, wp_bind, wp_findUnique]
  refine forall_congr' fun now => imp_congr_right fun _ => ?_
  cases found : writes.over now key <;> simp [wp]

theorem wp_updateWithin {key : K} {fits : V key → Bool} {data : V key → V key}
    {post : V key → Writes K V → Store K V → Prop} :
    wp inv rely draws (updateWithin key fits data) post writes rows ↔
      ∀ now, Interferes inv rely writes rows now → ∀ row, writes.over now key = some row →
        fits (data row) = true → post (data row) (writes.put key (some (data row))) now := by
  refine forall_congr' fun now => imp_congr_right fun _ => ?_
  cases found : writes.over now key with
  | none => simp
  | some row => cases held : fits (data row) <;> simp [held, wp]

theorem wp_upsertWithin {key : K} {fits : V key → Bool} {row : V key}
    {post : V key → Writes K V → Store K V → Prop} :
    wp inv rely draws (upsertWithin key fits row) post writes rows ↔
      ∀ now, Interferes inv rely writes rows now →
        (∀ found, writes.over now key = some found → post found writes now) ∧
        (writes.over now key = none → fits row = true → ∀ later,
          Interferes inv rely writes now later → writes.over later key = none →
            post row (writes.put key (some row)) later) := by
  rw [upsertWithin, wp_bind, wp_findUnique]
  refine forall_congr' fun now => imp_congr_right fun _ => ?_
  cases found : writes.over now key with
  | none =>
      cases held : fits row with
      | true => simpa using wp_create
      | false => simp [wp]
  | some present =>
      simp

end Wp

end Ecommerce
