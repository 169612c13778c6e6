import FormulaArt.Expr.Builder
import FormulaArt.Proofs.Random.Draw
import FormulaArt.Proofs.Runs
import FormulaArt.Random.SplitMix

/-!
# Dialogues with a source of randomness

A builder asks its source for operators and coins, and what it asks next depends on the answers alone.
A `Dialogue` is such a computation written down without the source: the questions form a tree, and a
sequence of answers leads to a leaf with the result.  Whatever holds of all leaves then holds whatever
the source answers, and a result is within reach if some answers lead to it.

## Main definitions

* `Answer`, `Dialogue` — answers, and the computations that ask for them
* `Dialogue.Returns` — the answers that lead to a result
* `Dialogue.perform` — the computation with a source
* `RandomSource.InTable` — the sources that never answer an operator index outside the table

## Main statements

* `SplitMix.inTable`, `Tape.inTable` — sources that derive their indices from raw words
* `Dialogue.returns_bind_iff`, `Dialogue.perform_bind` — one dialogue after another
* `Dialogue.exists_perform_eq` — a performance in the table returns what some answers lead to

## Design notes

`RandomSource.InTable` looks only at the states that the questions of a dialogue can reach.  A source
that strays from the table in a state where no question leads may be used all the same.
-/

namespace FormulaArt

/-- The answer of a source to a question of a builder. -/
inductive Answer where
  | operator (op : Operator)
  | coin (heads : Bool)
deriving Repr, DecidableEq

/-- A computation that asks for operators and coins. -/
inductive Dialogue (β : Type) where
  | done (result : β)
  | operator (next : Operator → Dialogue β)
  | coin (next : Bool → Dialogue β)

namespace RandomSource

variable {σ : Type} [RandomSource σ]

/-- The states to which drawing operators and coins leads. -/
inductive Reaches (s : σ) : σ → Prop
  | refl : Reaches s s
  | index {t : σ} (h : Reaches s t) :
      Reaches s ((RandomSource.index Operator.count : StateM σ Nat) t).2
  | coin {t : σ} (h : Reaches s t) : Reaches s ((RandomSource.coin : StateM σ Bool) t).2

/-- Whatever is drawn from here on, the indices for the table of operators lie inside it. -/
def InTable (s : σ) : Prop :=
  ∀ t, Reaches s t →
    ((RandomSource.index Operator.count : StateM σ Nat) t).1 < Operator.count

theorem Reaches.trans {s t u : σ} (h : Reaches s t) (h' : Reaches t u) : Reaches s u := by
  induction h' with
  | refl => exact h
  | index _ ih => exact .index ih
  | coin _ ih => exact .coin ih

theorem InTable.of_reaches {s t : σ} (h : InTable s) (reached : Reaches s t) : InTable t :=
  fun u h' => h u (reached.trans h')

/-- A source whose index draws always lie in the table, in whatever state. -/
theorem inTable_of_forall
    (h : ∀ t : σ, ((RandomSource.index Operator.count : StateM σ Nat) t).1 < Operator.count)
    (s : σ) : InTable s :=
  fun t _ => h t

end RandomSource

/-! ### Sources in the table -/

/-- The default generator derives its indices from raw words. -/
theorem SplitMix.inTable (g : SplitMix) : RandomSource.InTable g :=
  RandomSource.inTable_of_forall (fun _ => Draw.index_lt (by decide) _) g

/-- Whatever the raw words on a tape, the indices derived from them lie in the table. -/
theorem Tape.inTable (tape : Tape) : RandomSource.InTable tape :=
  RandomSource.inTable_of_forall (fun _ => Draw.index_lt (by decide) _) tape

namespace Expr

variable {σ : Type} [RandomSource σ]

/-- The draw of an operator, with the answer of the source inside the table. -/
theorem drawOperator_of_lt {s : σ}
    (h : ((RandomSource.index Operator.count : StateM σ Nat) s).1 < Operator.count) :
    (drawOperator : ExceptT StrayIndex (StateM σ) Operator) s
      = (.ok (Operator.ofIndex ⟨_, h⟩),
          ((RandomSource.index Operator.count : StateM σ Nat) s).2) := by
  refine run_map_of_ok Operator.ofIndex ?_
  rw [RandomSource.pick, run_lift_bind, dif_pos h]
  rfl

end Expr

namespace Dialogue

variable {β γ : Type}

/-- One dialogue after another, which may depend on the result of the first. -/
def bind (d : Dialogue β) (k : β → Dialogue γ) : Dialogue γ :=
  match d with
  | done result => k result
  | operator next => operator fun op => (next op).bind k
  | coin next => coin fun heads => (next heads).bind k

/-- The answers lead to a result, and there are no more of them than questions. -/
inductive Returns {β : Type} : Dialogue β → List Answer → β → Prop
  | done (result : β) : Returns (done result) [] result
  | operator {next : Operator → Dialogue β} {op : Operator} {answers : List Answer} {result : β}
      (h : Returns (next op) answers result) :
      Returns (operator next) (.operator op :: answers) result
  | coin {next : Bool → Dialogue β} {heads : Bool} {answers : List Answer} {result : β}
      (h : Returns (next heads) answers result) :
      Returns (coin next) (.coin heads :: answers) result

@[simp] theorem returns_done_iff {r b : β} {answers : List Answer} :
    (done r).Returns answers b ↔ answers = [] ∧ b = r := by
  constructor
  · rintro ⟨⟩
    exact ⟨rfl, rfl⟩
  · rintro ⟨rfl, rfl⟩
    exact .done b

@[simp] theorem returns_operator_iff {next : Operator → Dialogue β} {b : β}
    {answers : List Answer} :
    (operator next).Returns answers b ↔
      ∃ op rest, answers = .operator op :: rest ∧ (next op).Returns rest b := by
  constructor
  · intro h
    cases h with
    | operator h => exact ⟨_, _, rfl, h⟩
  · rintro ⟨op, rest, rfl, h⟩
    exact .operator h

@[simp] theorem returns_coin_iff {next : Bool → Dialogue β} {b : β} {answers : List Answer} :
    (coin next).Returns answers b ↔
      ∃ heads rest, answers = .coin heads :: rest ∧ (next heads).Returns rest b := by
  constructor
  · intro h
    cases h with
    | coin h => exact ⟨_, _, rfl, h⟩
  · rintro ⟨heads, rest, rfl, h⟩
    exact .coin h

/-- The answers to one dialogue after another are those to the first and then those to the other. -/
theorem returns_bind_iff {d : Dialogue β} {k : β → Dialogue γ} {answers : List Answer} {c : γ} :
    (d.bind k).Returns answers c ↔
      ∃ first rest b, answers = first ++ rest ∧ d.Returns first b ∧ (k b).Returns rest c := by
  induction d generalizing answers with
  | done result =>
      constructor
      · intro h
        exact ⟨[], answers, result, rfl, .done result, h⟩
      · rintro ⟨_, rest, _, rfl, ⟨⟩, h⟩
        exact h
  | operator next ih =>
      rw [bind, returns_operator_iff]
      constructor
      · rintro ⟨op, _, rfl, h⟩
        obtain ⟨first, rest, b, rfl, hd, hk⟩ := (ih op).mp h
        exact ⟨_ :: first, rest, b, rfl, .operator hd, hk⟩
      · rintro ⟨_, rest, b, rfl, hd, hk⟩
        obtain ⟨op, first, rfl, h⟩ := returns_operator_iff.mp hd
        exact ⟨op, first ++ rest, rfl, (ih op).mpr ⟨first, rest, b, rfl, h, hk⟩⟩
  | coin next ih =>
      rw [bind, returns_coin_iff]
      constructor
      · rintro ⟨heads, _, rfl, h⟩
        obtain ⟨first, rest, b, rfl, hd, hk⟩ := (ih heads).mp h
        exact ⟨_ :: first, rest, b, rfl, .coin hd, hk⟩
      · rintro ⟨_, rest, b, rfl, hd, hk⟩
        obtain ⟨heads, first, rfl, h⟩ := returns_coin_iff.mp hd
        exact ⟨heads, first ++ rest, rfl, (ih heads).mpr ⟨first, rest, b, rfl, h, hk⟩⟩

variable {σ : Type} [RandomSource σ]

/-- Hold a dialogue with a source. -/
def perform (d : Dialogue β) : ExceptT StrayIndex (StateM σ) β :=
  match d with
  | done result => pure result
  | operator next => Expr.drawOperator >>= fun op => (next op).perform
  | coin next => (liftM (RandomSource.coin : StateM σ Bool) : ExceptT StrayIndex (StateM σ) Bool)
      >>= fun heads => (next heads).perform

/-- One dialogue after another is held as one after another. -/
theorem perform_bind (d : Dialogue β) (k : β → Dialogue γ) :
    ((d.bind k).perform : ExceptT StrayIndex (StateM σ) γ) =
      d.perform >>= fun b => (k b).perform := by
  induction d with
  | done result => exact (pure_bind _ _).symm
  | operator next ih =>
      rw [bind, perform, perform, bind_assoc]
      simp only [ih]
  | coin next ih =>
      rw [bind, perform, perform, bind_assoc]
      simp only [ih]

/-- A dialogue with a source in the table returns what some answers lead to, and leaves the source in
the table. -/
theorem exists_perform_eq (d : Dialogue β) {s : σ} (inTable : RandomSource.InTable s) :
    ∃ answers b s', d.Returns answers b ∧
      (d.perform : ExceptT StrayIndex (StateM σ) β) s = (.ok b, s') ∧
      RandomSource.InTable s' := by
  induction d generalizing s with
  | done result => exact ⟨[], result, s, .done result, rfl, inTable⟩
  | operator next ih =>
      obtain ⟨answers, b, s', h, run, inTable'⟩ := ih _ (inTable.of_reaches (.index .refl))
      refine ⟨_, b, s', .operator h, ?_, inTable'⟩
      -- the question is answered from the table, since nothing has been drawn since `s`
      rw [perform, run_bind_of_ok _ (Expr.drawOperator_of_lt (inTable s .refl))]
      exact run
  | coin next ih =>
      obtain ⟨answers, b, s', h, run, inTable'⟩ := ih _ (inTable.of_reaches (.coin .refl))
      refine ⟨_, b, s', .coin h, ?_, inTable'⟩
      rw [perform, run_lift_bind]
      exact run

end Dialogue

end FormulaArt
