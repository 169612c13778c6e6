import FormulaArt.Proofs.Render.Random

/-!
# What a render draws

A render from a source draws the formulas of all three channels, or it draws nothing.  The size and the
range of depths are looked at before the first draw.  Once the first formula is built, the range is known
to be in order, and the other two formulas are built as well.  Whatever is refused after that is refused
without a further draw, and so the state in which a source is left depends on the range alone.

## Main statements

* `renderRandom_of_refused` — a refused size or range leaves the source where it was
* `snd_renderRandom_of_build` — every other render leaves it behind the third formula
* `exists_builds_snd_renderRandom_eq` — both, with any machine, size and options

## Design notes

The statements are over any `Scalar`.  Whether the grid of a size exists is decided after the last draw,
and so it does not matter here that a law would be needed to show that it does.
-/

namespace FormulaArt

variable {α σ : Type} [Scalar α] [RandomSource σ]

/-- A size with an empty side and a range that is upside down are refused alike: the source is left where
it was. -/
theorem renderRandom_of_refused (machine : Machine) {width height : UInt32} {range : DepthRange}
    (options : RenderOptions) (refused : width = 0 ∨ height = 0 ∨ range.max < range.min) (s : σ) :
    ∃ fault, (renderRandom machine width height range options : ExceptT (Fault α) (StateM σ) _) s
      = (.error fault, s) := by
  by_cases empty : width = 0 ∨ height = 0
  · exact ⟨_, renderRandom_of_empty machine options empty s⟩
  · rw [← or_assoc] at refused
    have upsideDown := refused.resolve_left empty
    exact ⟨_, renderRandom_of_lt machine options (not_or.mp empty) upsideDown s⟩

/-- A render leaves the source behind the formulas that it builds, whether it returns them as a picture or
refuses its options. -/
theorem snd_renderRandom_of_build (machine : Machine) {width height : UInt32}
    (nonempty : width ≠ 0 ∧ height ≠ 0) {range : DepthRange} (options : RenderOptions) {s t : σ}
    {trees : Channels Expr}
    (built : (Channels.build range : ExceptT (Fault α) (StateM σ) _) s = (.ok trees, t)) :
    ((renderRandom machine width height range options : ExceptT (Fault α) (StateM σ) _) s).2 = t := by
  rw [renderRandom_of_build machine nonempty options built]

/-- Options that ask for no threads at all are refused, at any size. -/
theorem exists_renderChannels_eq_error (machine : Machine) (trees : Channels Expr)
    (width height : UInt32) {options : RenderOptions} (none : options.threads = some 0) :
    ∃ fault, (renderChannels machine trees width height options : Except (Fault α) _)
      = .error fault := by
  cases created : (Grid.create width height : Except (Fault α) (Grid α)) with
  | error fault =>
      rw [renderChannels, created]
      exact ⟨fault, rfl⟩
  | ok g => exact ⟨_, renderChannels_of_noThreads machine trees none created⟩

/-- **A render draws three formulas or nothing.**  If a side of the picture is empty or the range of depths
is upside down, a render fails and leaves the source exactly where it was; so does a build of the three
channels within a range that is upside down.  Within any other range three builds in a row succeed, red,
then green, then blue, and both the build of the channels and every render of a picture that is not empty
leave the source where the third of them leaves it, whatever the machine, the size and the options, even if
the render fails for want of threads. -/
theorem exists_builds_snd_renderRandom_eq (range : DepthRange) {s : σ}
    (inTable : RandomSource.InTable s) :
    (∀ (machine : Machine) (width height : UInt32) (options : RenderOptions),
      width = 0 ∨ height = 0 ∨ range.max < range.min →
        ∃ fault, (renderRandom machine width height range options
          : ExceptT (Fault α) (StateM σ) _) s = (.error fault, s)) ∧
    (range.max < range.min →
      ∃ fault, (Channels.build range : ExceptT (Fault α) (StateM σ) _) s = (.error fault, s)) ∧
    (range.min ≤ range.max →
      ∃ red green blue s₁ s₂ s₃,
        (Expr.build range : ExceptT (Fault α) (StateM σ) Expr) s = (.ok red, s₁) ∧
        (Expr.build range : ExceptT (Fault α) (StateM σ) Expr) s₁ = (.ok green, s₂) ∧
        (Expr.build range : ExceptT (Fault α) (StateM σ) Expr) s₂ = (.ok blue, s₃) ∧
        (Channels.build range : ExceptT (Fault α) (StateM σ) _) s
          = (.ok ⟨red, green, blue⟩, s₃) ∧
        ∀ (machine : Machine) (width height : UInt32) (options : RenderOptions),
          width ≠ 0 → height ≠ 0 →
            ((renderRandom machine width height range options
              : ExceptT (Fault α) (StateM σ) _) s).2 = s₃ ∧
            (options.threads = some 0 →
              ∃ fault, ((renderRandom machine width height range options
                : ExceptT (Fault α) (StateM σ) _) s).1 = .error fault)) := by
  refine ⟨?_, ?_, ?_⟩
  · intro machine width height options refused
    exact renderRandom_of_refused machine options refused s
  · intro upsideDown
    exact ⟨_, Channels.build_of_lt upsideDown s⟩
  · intro ordered
    obtain ⟨red, green, blue, s₁, s₂, s₃, first, second, third, built⟩ :=
      Channels.exists_builds (α := α) ordered inTable
    refine ⟨red, green, blue, s₁, s₂, s₃, first, second, third, built, ?_⟩
    intro machine width height options hw hh
    refine ⟨snd_renderRandom_of_build machine ⟨hw, hh⟩ options built, fun none => ?_⟩
    rw [renderRandom_of_build machine ⟨hw, hh⟩ options built]
    exact exists_renderChannels_eq_error machine _ width height none

/-- One range and one seed: a picture without rows draws nothing, while a picture that fails for want of
threads and one that does not leave the generator in the same state. -/
theorem exists_builds_snd_renderRandom_eq_of_seed :
    RandomSource.InTable (SplitMix.ofSeed 7) ∧
    (∃ fault, (renderRandom { workers := 8, schedule := [] } 2 0 ⟨-1, 3⟩ {}
      : ExceptT (Fault Float) (StateM SplitMix) _) (SplitMix.ofSeed 7) = (.error fault, SplitMix.ofSeed 7)) ∧
    ∃ red green blue s₁ s₂ s₃,
      (Expr.build ⟨-1, 3⟩ : ExceptT (Fault Float) (StateM SplitMix) Expr) (SplitMix.ofSeed 7)
        = (.ok red, s₁) ∧
      (Expr.build ⟨-1, 3⟩ : ExceptT (Fault Float) (StateM SplitMix) Expr) s₁ = (.ok green, s₂) ∧
      (Expr.build ⟨-1, 3⟩ : ExceptT (Fault Float) (StateM SplitMix) Expr) s₂ = (.ok blue, s₃) ∧
      ((renderRandom { workers := 8, schedule := [] } 2 1 ⟨-1, 3⟩ { threads := some 0 }
        : ExceptT (Fault Float) (StateM SplitMix) _) (SplitMix.ofSeed 7)).2 = s₃ ∧
      ((renderRandom { workers := 1, schedule := [.blue] } 64 64 ⟨-1, 3⟩ { strategy := some .parallel }
        : ExceptT (Fault Float) (StateM SplitMix) _) (SplitMix.ofSeed 7)).2 = s₃ := by
  have inTable := SplitMix.inTable (SplitMix.ofSeed 7)
  obtain ⟨refused, -, ordered⟩ := exists_builds_snd_renderRandom_eq (α := Float) ⟨-1, 3⟩ inTable
  obtain ⟨red, green, blue, s₁, s₂, s₃, first, second, third, -, final⟩ := ordered (by decide)
  exact ⟨inTable, refused _ _ _ _ (by decide), red, green, blue, s₁, s₂, s₃, first, second, third,
    (final _ _ _ _ (by decide) (by decide)).1, (final _ _ _ _ (by decide) (by decide)).1⟩

end FormulaArt
