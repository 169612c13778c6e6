import FormulaArt.Proofs.Builder.Growth

/-!
# Sources that answer alike

A builder sees nothing of its source but the answers.  Two sources whose answers agree, as long as their
states stay related in some way, can therefore not be told apart by it.  This module says what it means
for two computations to keep in step along such a relation, and shows it for the parts that builders are
made of.  A source behind any number of layers is one that answers as the source does by itself.

## Main definitions

* `Lockstep` — from related states, equal results and related states
* `RandomSource.Alike` — two sources give equal answers to the questions of a builder
* `Layered` — a source behind a number of layers

## Main statements

* `Lockstep.bind`, `Lockstep.run_bind` — one computation after another
* `Dialogue.lockstep_perform` — a dialogue with either of two sources that answer alike
* `Layered.alike_wrap` — layers change no answer

## Design notes

The relation is arbitrary.  It need not be a function in either direction, so that the states of one
source may carry what the other one does not have, such as a count of draws.  Nothing is asked of the
answers but that they are equal: an index outside the table of operators ends both computations alike.
-/

namespace FormulaArt

/-- From related states two computations come to equal results, and leave related states behind. -/
def Lockstep {σ τ β : Type} (R : σ → τ → Prop) (a : StateM σ β) (b : StateM τ β) : Prop :=
  ∀ s t, R s t → (a s).1 = (b t).1 ∧ R (a s).2 (b t).2

namespace Lockstep

variable {σ τ ε β γ : Type} {R : σ → τ → Prop}

/-- A result that is there already. -/
theorem pure (b : β) : Lockstep R (Pure.pure b) (Pure.pure b) :=
  fun _ _ related => ⟨rfl, related⟩

theorem bind {a : StateM σ β} {b : StateM τ β} {k : β → StateM σ γ} {l : β → StateM τ γ}
    (first : Lockstep R a b) (others : ∀ r, Lockstep R (k r) (l r)) :
    Lockstep R (a >>= k) (b >>= l) := by
  intro s t related
  obtain ⟨same, related'⟩ := first s t related
  show (k (a s).1 (a s).2).1 = (l (b t).1 (b t).2).1 ∧ R (k (a s).1 (a s).2).2 (l (b t).1 (b t).2).2
  rw [← same]
  exact others _ _ _ related'

theorem map {a : StateM σ β} {b : StateM τ β} (f : β → γ) (h : Lockstep R a b) :
    Lockstep R (f <$> a) (f <$> b) := by
  intro s t related
  obtain ⟨same, related'⟩ := h s t related
  exact ⟨congrArg f same, related'⟩

section Stops

variable {m : ExceptT ε (StateM σ) β} {n : ExceptT ε (StateM τ) β}

/-- Computations that stop, stop alike, and then nothing follows either of them. -/
theorem run_bind {k : β → ExceptT ε (StateM σ) γ} {l : β → ExceptT ε (StateM τ) γ}
    (first : Lockstep R m.run n.run) (others : ∀ r, Lockstep R (k r).run (l r).run) :
    Lockstep R (m >>= k).run (n >>= l).run := by
  intro s t related
  obtain ⟨same, related'⟩ := first s t related
  have right : n t = ((m.run s).1, (n.run t).2) := Prod.ext same.symm rfl
  show ((m >>= k) s).1 = ((n >>= l) t).1 ∧ R ((m >>= k) s).2 ((n >>= l) t).2
  cases result : (m.run s).1 with
  | error e =>
      have left : m s = (.error e, (m.run s).2) := Prod.ext result rfl
      rw [result] at right
      rw [run_bind_of_error k left, run_bind_of_error l right]
      exact ⟨rfl, related'⟩
  | ok r =>
      have left : m s = (.ok r, (m.run s).2) := Prod.ext result rfl
      rw [result] at right
      rw [run_bind_of_ok k left, run_bind_of_ok l right]
      exact others r _ _ related'

/-- What both computations may stop with can be renamed. -/
theorem run_adapt {ε' : Type} (f : ε → ε') (h : Lockstep R m.run n.run) :
    Lockstep R (m.adapt f).run (n.adapt f).run := by
  intro s t related
  obtain ⟨same, related'⟩ := h s t related
  exact ⟨congrArg (Except.mapError f) same, related'⟩

/-- Computations that cannot stop keep in step also where they could. -/
theorem run_lift {a : StateM σ β} {b : StateM τ β} (h : Lockstep R a b) :
    Lockstep R (liftM a : ExceptT ε (StateM σ) β).run (liftM b : ExceptT ε (StateM τ) β).run := by
  intro s t related
  obtain ⟨same, related'⟩ := h s t related
  exact ⟨congrArg Except.ok same, related'⟩

/-- What is decided without a look at the state. -/
theorem run_mk (result : Except ε β) :
    Lockstep R (ExceptT.mk (Pure.pure result) : ExceptT ε (StateM σ) β).run
      (ExceptT.mk (Pure.pure result) : ExceptT ε (StateM τ) β).run :=
  Lockstep.pure result

end Stops

end Lockstep

/-! ### Sources -/

section Sources

variable {σ τ : Type} [RandomSource σ] [RandomSource τ]

/-- Two sources answer the questions of a builder alike as long as their states are related, and stay
related when they answer. -/
structure RandomSource.Alike (R : σ → τ → Prop) : Prop where
  index : Lockstep R (RandomSource.index Operator.count : StateM σ Nat)
    (RandomSource.index Operator.count)
  coin : Lockstep R (RandomSource.coin : StateM σ Bool) RandomSource.coin

variable {R : σ → τ → Prop}

/-- An operator is drawn alike, and so is an index where the table has no operator. -/
theorem Expr.lockstep_drawOperator (alike : RandomSource.Alike R) :
    Lockstep R (drawOperator : ExceptT StrayIndex (StateM σ) Operator).run
      (drawOperator : ExceptT StrayIndex (StateM τ) Operator).run := by
  simp only [drawOperator, RandomSource.pick, map_eq_pure_bind]
  refine Lockstep.run_bind (alike.index.run_lift.run_bind fun i => ?_) fun _ => .run_mk _
  split
  · exact .run_mk _
  · exact .run_mk _

/-- A dialogue depends on its source only through the answers. -/
theorem Dialogue.lockstep_perform (alike : RandomSource.Alike R) {β : Type} (d : Dialogue β) :
    Lockstep R (d.perform : ExceptT StrayIndex (StateM σ) β).run
      (d.perform : ExceptT StrayIndex (StateM τ) β).run := by
  induction d with
  | done result => exact .run_mk _
  | operator next ih => exact (Expr.lockstep_drawOperator alike).run_bind ih
  | coin next ih => exact alike.coin.run_lift.run_bind ih

end Sources

/-! ### Layers -/

/-- A source behind a number of layers, each of which passes every draw on. -/
def Layered (σ : Type) : Nat → Type
  | 0 => σ
  | layers + 1 => Forwarded (Layered σ layers)

namespace Layered

variable {σ : Type}

instance source [RandomSource σ] : (layers : Nat) → RandomSource (Layered σ layers)
  | 0 => inferInstanceAs (RandomSource σ)
  | layers + 1 =>
    letI := source layers
    inferInstanceAs (RandomSource (Forwarded (Layered σ layers)))

/-- Put a source behind layers. -/
def wrap : (layers : Nat) → σ → Layered σ layers
  | 0, s => s
  | layers + 1, s => ⟨wrap layers s⟩

/-- A draw that is in step behind some layers is in step behind one more. -/
theorem lockstep_through {β : Type} {layers : Nat} {draw : StateM σ β}
    {behind : StateM (Layered σ layers) β}
    (h : Lockstep (fun s t => t = wrap layers s) draw behind) :
    Lockstep (fun s t => t = wrap (layers + 1) s) draw (Forwarded.through behind) := by
  rintro s _ rfl
  obtain ⟨same, state⟩ := h s (wrap layers s) rfl
  exact ⟨same, congrArg Forwarded.mk state⟩

/-- A source gives the same answers whatever the number of layers, its own answers included. -/
theorem alike_wrap [RandomSource σ] (layers : Nat) :
    RandomSource.Alike fun (s : σ) (t : Layered σ layers) => t = wrap layers s := by
  induction layers with
  | zero => exact ⟨by rintro s _ rfl; exact ⟨rfl, rfl⟩, by rintro s _ rfl; exact ⟨rfl, rfl⟩⟩
  | succ layers ih => exact ⟨lockstep_through ih.index, lockstep_through ih.coin⟩

end Layered

end FormulaArt
