import FormulaArt.Proofs.Render.Random

/-!
# The checks of settings and of renders

Settings can be checked before anything is rendered.  A render repeats the checks where it needs them: the
size before anything is drawn and again for the grid, the range of depths in each build, the threads once
the formulas are there, and the number of bytes when the frame is made.  This module shows that the two
agree.  What passes the check of the settings is rendered, what does not pass is refused for the same
cause, and none of the later checks of a render ever finds anything.

## Main definitions

* `Fault.inOptions` — a fault of settings as a fault of what a render takes from them

## Main statements

* `Settings.of_validate_eq_error` — what the check of settings can find
* `map_fst_renderRandom` — a render finds what the check finds
* `validate_eq_ok_iff_renderRandom` — settings pass if and only if their render returns a frame

## Design notes

The check of the settings blames a missing thread on the settings and a render blames it on its options.
`Fault.inOptions` translates the one fault into the other and keeps the rest, so that the agreement is one
equation between results, from which the order of the checks follows for several faults at once.
-/

namespace FormulaArt

/-! ### Faults of settings and of options -/

namespace Fault

variable {α : Type}

/-- The fault that a render reports for a fault of its settings.  It knows them as options. -/
def inOptions : Fault α → Fault α
  | validation .settingsThreads => validation .optionThreads
  | fault => fault

@[simp] theorem kind_inOptions (fault : Fault α) : fault.inOptions.kind = fault.kind := by
  unfold inOptions
  split
  · rfl
  · rfl

/-- A fault that is not one of validation is the same for settings and for options. -/
theorem inOptions_of_kind_ne {fault : Fault α} (h : fault.kind ≠ .validation) :
    fault.inOptions = fault := by
  unfold inOptions
  split
  · exact absurd rfl h
  · rfl

end Fault

/-- The check of settings finds an empty side, a range that is upside down, or that there are no threads;
the first two with the values given. -/
theorem Settings.of_validate_eq_error {α : Type} {c : Settings} {fault : Fault α}
    (h : c.validate = .error fault) :
    fault = .dimensions c.width c.height ∨ fault = .depthRange c.minDepth c.maxDepth ∨
      fault = .validation .settingsThreads := by
  rw [validate] at h
  split at h
  · cases h
    exact .inl rfl
  · split at h
    · cases h
      exact .inr (.inl rfl)
    · split at h
      · cases h
        exact .inr (.inr rfl)
      · cases h

/-! ### The agreement -/

section Agreement

variable {σ : Type} [RandomSource σ] {s : σ}

/-- If its pool starts, what a render over doubles comes to, apart from the frame, is what the check of the
settings comes to. -/
theorem map_fst_renderRandom (machine : Machine) (c : Settings) (starts : c.PoolStarts machine)
    (inTable : RandomSource.InTable s) :
    ((renderRandom machine c.width c.height c.range c.options
        : ExceptT (Fault Float) (StateM σ) (Frame × RenderStats)) s).1.map (fun _ => ())
      = c.validate.mapError Fault.inOptions := by
  rw [Settings.validate]
  by_cases empty : c.width = 0 ∨ c.height = 0
  · rw [if_pos empty, renderRandom_of_empty machine c.options empty]
    rfl
  have nonempty := not_or.mp empty
  rw [if_neg empty]
  by_cases upsideDown : c.maxDepth < c.minDepth
  · have upsideDown' : c.range.max < c.range.min := upsideDown
    rw [if_pos upsideDown, renderRandom_of_lt machine c.options nonempty upsideDown']
    rfl
  have ordered : c.range.min ≤ c.range.max := Int32.not_lt.mp upsideDown
  -- from here on three formulas are built and a grid is created, whatever the options
  obtain ⟨trees, t, built⟩ := Channels.exists_build (α := Float) ordered inTable
  obtain ⟨g, created⟩ := Grid.exists_create_double nonempty.1 nonempty.2
  rw [if_neg upsideDown, renderRandom_of_build machine nonempty c.options built]
  by_cases none : c.threads = some 0
  · have none' : c.options.threads = some 0 := none
    rw [if_pos none, renderChannels_of_noThreads machine trees none' created]
    rfl
  · have accepted : c.options.threads ≠ some 0 := none
    rw [if_neg none, renderChannels_of_create machine trees accepted starts created]
    rfl

/-- **The check of settings is the precondition of their render.**  Settings pass if and only if a render
with what it takes from them returns a frame.  If they do not pass, both fail for a cause of the same kind,
and an empty size or a range that is upside down is reported with the same values, also when several
settings are wrong at once.  A render fails for no other causes than those that the check looks at; so
neither the grid nor the number of bytes is ever at fault. -/
theorem validate_eq_ok_iff_renderRandom (machine : Machine) (c : Settings) (starts : c.PoolStarts machine)
    (inTable : RandomSource.InTable s) :
    ∃ outcome t,
      (renderRandom machine c.width c.height c.range c.options
        : ExceptT (Fault Float) (StateM σ) (Frame × RenderStats)) s = (outcome, t) ∧
      ((c.validate : Except (Fault Float) Unit) = .ok () ↔
        ∃ frame stats, outcome = .ok (frame, stats)) ∧
      (∀ fault, c.validate = .error fault →
        ∃ fault', outcome = .error fault' ∧ fault'.kind = fault.kind ∧
          (fault.kind = .dimensions ∨ fault.kind = .depthRange → fault' = fault)) ∧
      ∀ fault', outcome = .error fault' →
        fault' = .dimensions c.width c.height ∨ fault' = .depthRange c.minDepth c.maxDepth ∨
          fault' = .validation .optionThreads := by
  have agree := map_fst_renderRandom machine c starts inTable
  obtain ⟨outcome, t, run⟩ : ∃ outcome t,
      (renderRandom machine c.width c.height c.range c.options
        : ExceptT (Fault Float) (StateM σ) (Frame × RenderStats)) s = (outcome, t) := ⟨_, _, rfl⟩
  rw [run] at agree
  refine ⟨outcome, t, run, ?_⟩
  cases checked : (c.validate : Except (Fault Float) Unit) with
  | ok passed =>
      rw [checked] at agree
      cases outcome with
      | error fault' => cases agree
      | ok result => exact ⟨iff_of_true rfl ⟨result.1, result.2, rfl⟩, nofun, nofun⟩
  | error fault =>
      rw [checked] at agree
      cases outcome with
      | ok result => cases agree
      | error fault' =>
          obtain rfl : fault' = fault.inOptions := Except.error.inj agree
          refine ⟨iff_of_false nofun nofun, ?_, ?_⟩
          · rintro _ ⟨⟩
            refine ⟨_, rfl, fault.kind_inOptions, ?_⟩
            rintro (same | same)
            · exact Fault.inOptions_of_kind_ne (by rw [same]; decide)
            · exact Fault.inOptions_of_kind_ne (by rw [same]; decide)
          · rintro _ ⟨⟩
            obtain rfl | rfl | rfl := Settings.of_validate_eq_error checked
            · exact .inl rfl
            · exact .inr (.inl rfl)
            · exact .inr (.inr rfl)

end Agreement

/-- Settings with all three faults at once, and the first of them reported by both. -/
theorem validate_eq_ok_iff_renderRandom_three_faults :
    RandomSource.InTable (SplitMix.ofSeed 1) ∧
    ∃ outcome t,
      (renderRandom { workers := 2, schedule := [] } 0 5 ⟨4, -4⟩ { threads := some 0 }
        : ExceptT (Fault Float) (StateM SplitMix) (Frame × RenderStats)) (SplitMix.ofSeed 1)
          = (outcome, t) ∧
      (∃ fault', outcome = .error fault' ∧ fault' = .dimensions 0 5) := by
  have inTable := SplitMix.inTable (SplitMix.ofSeed 1)
  obtain ⟨outcome, t, run, -, refused, -⟩ := validate_eq_ok_iff_renderRandom
    { workers := 2, schedule := [] }
    { width := 0, height := 5, minDepth := 4, maxDepth := -4, threads := some 0 }
    (RenderOptions.poolStarts_of_all fun _ => rfl) inTable
  obtain ⟨fault', failed, -, same⟩ := refused (.dimensions 0 5) rfl
  exact ⟨inTable, outcome, t, run, fault', failed, same (.inl rfl)⟩

end FormulaArt
