/-!
# Runs of a computation that may stop

A computation over a state that may stop with an error (`ExceptT ε (StateM σ)`) is a function of the
state.  The lemmas here follow such a function from one part of the computation to the next, so that
nothing else has to look at how the two effects are put together.

## Main statements

* `run_bind_of_ok`, `run_bind_of_error`, `run_bind_of_eq` — one computation after another
* `run_bind_cases` — how one computation after another can go
* `of_run_bind_eq_ok`, `of_run_bind_eq_error` — what a result is made of, and where a failure comes from
* `run_map_of_ok`, `of_run_map_eq_ok` — a result that is mapped
* `run_adapt_of_ok`, `of_run_adapt_eq_error` — errors that are renamed
* `of_bind_eq_ok` — what a result is made of, without a state
* `run_lift_bind`, `lift_bind` — computations that cannot stop
* `adapt_map` — errors are renamed before or after the result is mapped
-/

namespace FormulaArt

/-- Nothing is made of an error. -/
theorem of_bind_eq_ok {ε β γ : Type} {r : Except ε β} {k : β → Except ε γ} {c : γ}
    (h : (r >>= k) = .ok c) : ∃ b, r = .ok b ∧ k b = .ok c := by
  cases r with
  | error e => cases h
  | ok b => exact ⟨b, rfl, h⟩

section Runs

variable {σ ε β γ : Type} {m : ExceptT ε (StateM σ) β} {s t : σ} {b : β}

/-- A computation goes on with the result and the state that the one before it left. -/
theorem run_bind_of_ok (k : β → ExceptT ε (StateM σ) γ) (h : m s = (.ok b, t)) :
    (m >>= k) s = k b t := by
  show (ExceptT.bindCont k (m s).1) (m s).2 = k b t
  rw [h]
  rfl

/-- Nothing follows a computation that has stopped. -/
theorem run_bind_of_error {e : ε} (k : β → ExceptT ε (StateM σ) γ) (h : m s = (.error e, t)) :
    (m >>= k) s = (.error e, t) := by
  show (ExceptT.bindCont k (m s).1) (m s).2 = (.error e, t)
  rw [h]
  rfl

/-- A computation that cannot stop is followed in the same way. -/
theorem run_bind_of_eq {draw : StateM σ β} (k : β → StateM σ γ) (h : draw s = (b, t)) :
    (draw >>= k) s = k b t := by
  show k (draw s).1 (draw s).2 = k b t
  rw [h]

/-- The result of a computation is mapped, and its state is left. -/
theorem run_map_of_ok (f : β → γ) (h : m s = (.ok b, t)) : (f <$> m) s = (.ok (f b), t) := by
  rw [map_eq_pure_bind]
  exact run_bind_of_ok _ h

/-- A computation followed by another one stops where it stops by itself, or goes on from what it returns. -/
theorem run_bind_cases (m : ExceptT ε (StateM σ) β) (k : β → ExceptT ε (StateM σ) γ) (s : σ) :
    (∃ e t, m s = (.error e, t) ∧ (m >>= k) s = (.error e, t)) ∨
      ∃ b t, m s = (.ok b, t) ∧ (m >>= k) s = k b t := by
  cases run : m s with
  | mk result t =>
      cases result with
      | error e => exact .inl ⟨e, t, rfl, run_bind_of_error k run⟩
      | ok b => exact .inr ⟨b, t, rfl, run_bind_of_ok k run⟩

/-- What returns after another computation returns from the result and the state that the other left. -/
theorem of_run_bind_eq_ok {k : β → ExceptT ε (StateM σ) γ} {c : γ}
    (h : (m >>= k) s = (.ok c, t)) : ∃ b u, m s = (.ok b, u) ∧ k b u = (.ok c, t) := by
  rcases run_bind_cases m k s with ⟨e, u, -, stopped⟩ | ⟨b, u, run, rest⟩
  · rw [stopped] at h
    cases h
  · exact ⟨b, u, run, rest.symm.trans h⟩

/-- What stops after another computation has stopped there, unless the other has stopped before. -/
theorem of_run_bind_eq_error {k : β → ExceptT ε (StateM σ) γ} {e : ε}
    (h : ((m >>= k) s).1 = .error e) : (m s).1 = .error e ∨ ∃ b u, (k b u).1 = .error e := by
  rcases run_bind_cases m k s with ⟨e', u, run, stopped⟩ | ⟨b, u, -, rest⟩
  · rw [stopped] at h
    cases h
    rw [run]
    exact .inl rfl
  · rw [rest] at h
    exact .inr ⟨b, u, h⟩

/-- A mapped result is that of a computation which has returned, and left the same state. -/
theorem of_run_map_eq_ok {f : β → γ} {c : γ} (h : (f <$> m) s = (.ok c, t)) :
    ∃ b, m s = (.ok b, t) ∧ f b = c := by
  rw [map_eq_pure_bind] at h
  obtain ⟨b, u, run, mapped⟩ := of_run_bind_eq_ok h
  cases mapped
  exact ⟨b, run, rfl⟩

/-- What a computation may stop with does not matter to one that returns. -/
theorem run_adapt_of_ok {ε' : Type} (f : ε → ε') (h : m s = (.ok b, t)) :
    (m.adapt f) s = (.ok b, t) := by
  show (Except.mapError f (m s).1, (m s).2) = _
  rw [h]
  rfl

/-- What a computation stops with, under its new name. -/
theorem of_run_adapt_eq_error {ε' : Type} {f : ε → ε'} {e' : ε'}
    (h : ((m.adapt f) s).1 = .error e') : ∃ e, (m s).1 = .error e ∧ f e = e' := by
  change Except.mapError f (m s).1 = .error e' at h
  cases result : (m s).1 with
  | error e =>
      rw [result] at h
      cases h
      exact ⟨e, rfl, rfl⟩
  | ok b =>
      rw [result] at h
      cases h

/-- What a computation may stop with is renamed before or after its result is mapped. -/
theorem adapt_map {ε' : Type} (m : ExceptT ε (StateM σ) β) (f : ε → ε') (g : β → γ) :
    (g <$> m).adapt f = g <$> m.adapt f := by
  refine ExceptT.ext ?_
  rw [ExceptT.run_map, ExceptT.run_adapt, ExceptT.run_adapt, ExceptT.run_map, Functor.map_map,
    Functor.map_map]
  refine map_congr fun result => ?_
  cases result with
  | ok b => rfl
  | error e => rfl

/-- A computation that cannot stop goes on with its result. -/
theorem run_lift_bind (draw : StateM σ β) (k : β → ExceptT ε (StateM σ) γ) (s : σ) :
    ((liftM draw : ExceptT ε (StateM σ) β) >>= k) s = k (draw s).1 (draw s).2 :=
  run_bind_of_ok k rfl

/-- A computation that cannot stop returns what it returns by itself. -/
theorem run_lift_of_eq {draw : StateM σ β} (h : draw s = (b, t)) :
    (ExceptT.lift draw : ExceptT ε (StateM σ) β) s = (.ok b, t) := by
  show (Except.ok (draw s).1, (draw s).2) = (.ok b, t)
  rw [h]

end Runs

/-- Computations that cannot stop may be put one after the other before or after they are lifted. -/
theorem lift_bind {ε β γ : Type} {m : Type → Type} [Monad m] [LawfulMonad m] (a : m β)
    (k : β → m γ) :
    (ExceptT.lift (a >>= k) : ExceptT ε m γ) = ExceptT.lift a >>= fun b => ExceptT.lift (k b) := by
  refine ExceptT.ext ?_
  simp only [ExceptT.run_bind, ExceptT.run_lift, map_eq_pure_bind, bind_assoc, pure_bind]

theorem lift_pure {ε β : Type} {m : Type → Type} [Monad m] [LawfulMonad m] (b : β) :
    (ExceptT.lift (pure b) : ExceptT ε m β) = pure b := by
  refine ExceptT.ext ?_
  simp only [ExceptT.run_pure, ExceptT.run_lift, map_pure]

end FormulaArt
