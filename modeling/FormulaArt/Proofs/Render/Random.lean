import FormulaArt.Proofs.Builder.Growth
import FormulaArt.Proofs.Render.Picture
import FormulaArt.Settings

/-!
# Renders from a source

A render from a source builds three formulas and then renders them, so it returns what the render of
these formulas returns.  From a source whose draws lie in the table, a range that is not upside down
always gives three formulas.  Settings that pass their checks ask for nothing that a render refuses.

## Main definitions

* `Settings.PoolStarts` — the machine starts the pool that settings ask for

## Main statements

* `Channels.exists_builds` — three formulas are built, one after the other
* `renderRandom_of_empty`, `renderRandom_of_lt` — what is refused before anything is drawn
* `renderRandom_of_build` — three formulas are rendered
* `Settings.validate_eq_ok_iff` — which settings pass
-/

namespace FormulaArt

variable {α σ : Type} [RandomSource σ]

/-- A range that is upside down is refused by the first of the three builds. -/
theorem Channels.build_of_lt {range : DepthRange} (upsideDown : range.max < range.min) (s : σ) :
    (Channels.build range : ExceptT (Fault α) (StateM σ) (Channels Expr)) s
      = (.error (.depthRange range.min range.max), s) :=
  run_bind_of_error _ (Expr.build_of_lt upsideDown s)

/-- A range that is not upside down gives three formulas, each built where the one before it left the
source. -/
theorem Channels.exists_builds {range : DepthRange} (ordered : range.min ≤ range.max) {s : σ}
    (inTable : RandomSource.InTable s) :
    ∃ red green blue s₁ s₂ s₃,
      (Expr.build range : ExceptT (Fault α) (StateM σ) Expr) s = (.ok red, s₁) ∧
      (Expr.build range : ExceptT (Fault α) (StateM σ) Expr) s₁ = (.ok green, s₂) ∧
      (Expr.build range : ExceptT (Fault α) (StateM σ) Expr) s₂ = (.ok blue, s₃) ∧
      (Channels.build range : ExceptT (Fault α) (StateM σ) (Channels Expr)) s
        = (.ok ⟨red, green, blue⟩, s₃) := by
  obtain ⟨red, s₁, first, inTable⟩ := Expr.exists_build (α := α) ordered inTable
  obtain ⟨green, s₂, second, inTable⟩ := Expr.exists_build (α := α) ordered inTable
  obtain ⟨blue, s₃, third, -⟩ := Expr.exists_build (α := α) ordered inTable
  refine ⟨red, green, blue, s₁, s₂, s₃, first, second, third, ?_⟩
  rw [Channels.build, run_bind_of_ok _ first, run_bind_of_ok _ second, run_bind_of_ok _ third]
  rfl

/-- A range that is not upside down gives the formulas of a picture. -/
theorem Channels.exists_build {range : DepthRange} (ordered : range.min ≤ range.max) {s : σ}
    (inTable : RandomSource.InTable s) :
    ∃ trees t, (Channels.build range : ExceptT (Fault α) (StateM σ) (Channels Expr)) s
      = (.ok trees, t) := by
  obtain ⟨red, green, blue, -, -, s₃, -, -, -, built⟩ :=
    Channels.exists_builds (α := α) ordered inTable
  exact ⟨⟨red, green, blue⟩, s₃, built⟩

section Render

variable [Scalar α] (machine : Machine) {width height : UInt32} {range : DepthRange}
  (options : RenderOptions)

/-- A picture with an empty side is refused before anything is drawn. -/
theorem renderRandom_of_empty (empty : width = 0 ∨ height = 0) (s : σ) :
    (renderRandom machine width height range options : ExceptT (Fault α) (StateM σ) _) s
      = (.error (.dimensions width height), s) := by
  rw [renderRandom, if_pos empty]
  rfl

/-- A range that is upside down is refused before anything is drawn, once the size is accepted. -/
theorem renderRandom_of_lt (nonempty : width ≠ 0 ∧ height ≠ 0)
    (upsideDown : range.max < range.min) (s : σ) :
    (renderRandom machine width height range options : ExceptT (Fault α) (StateM σ) _) s
      = (.error (.depthRange range.min range.max), s) := by
  rw [renderRandom, if_neg (not_or.mpr nonempty)]
  exact run_bind_of_error _ (Channels.build_of_lt upsideDown s)

end Render

/-- A render from a source is the render of the formulas that are built. -/
theorem renderRandom_of_build [Scalar α] (machine : Machine) {width height : UInt32}
    (nonempty : width ≠ 0 ∧ height ≠ 0) {range : DepthRange} (options : RenderOptions) {s t : σ}
    {trees : Channels Expr}
    (built : (Channels.build range : ExceptT (Fault α) (StateM σ) _) s = (.ok trees, t)) :
    (renderRandom machine width height range options : ExceptT (Fault α) (StateM σ) _) s
      = (renderChannels machine trees width height options, t) := by
  rw [renderRandom, if_neg (not_or.mpr nonempty)]
  exact run_bind_of_ok _ built

/-- The frame of a render has all the bytes of an image. -/
theorem toImage_of_renderChannels [Scalar α] {machine : Machine} {trees : Channels Expr}
    {width height : UInt32} {options : RenderOptions} {frame : Frame} {stats : RenderStats}
    (rendered : (renderChannels machine trees width height options : Except (Fault α) _)
      = .ok (frame, stats)) :
    (frame.toImage : Except (Fault α) Image) = .ok ⟨frame.width, frame.height, frame.data⟩ := by
  rw [renderChannels] at rendered
  obtain ⟨g, -, rendered⟩ := of_bind_eq_ok rendered
  split at rendered
  · cases rendered
  · obtain ⟨-, -, rendered⟩ := of_bind_eq_ok rendered
    obtain ⟨made, frameOf, rendered⟩ := of_bind_eq_ok rendered
    cases rendered
    obtain ⟨-, size, rfl⟩ := Frame.ofBytes_eq_ok_iff.mp frameOf
    rw [Frame.toImage, if_neg (by rw [size]; exact Nat.lt_irrefl _)]

namespace Settings

/-- The machine starts the pool of threads that a render with these settings asks for. -/
def PoolStarts (c : Settings) (machine : Machine) : Prop :=
  c.options.PoolStarts machine (c.width.toNat * c.height.toNat)

/-- Settings pass if the picture is not empty, the range of depths is not upside down, and there are
threads, if they are counted. -/
theorem validate_eq_ok_iff {s : Settings} :
    (s.validate : Except (Fault α) Unit) = .ok () ↔
      (s.width ≠ 0 ∧ s.height ≠ 0) ∧ s.minDepth ≤ s.maxDepth ∧ s.threads ≠ some 0 := by
  have size : s.width = 0 ∨ s.height = 0 ↔ ¬ (s.width ≠ 0 ∧ s.height ≠ 0) := by
    rw [not_and_or, not_ne_iff, not_ne_iff]
  rw [validate]
  split
  · rename_i empty
    exact iff_of_false nofun fun h => size.mp empty h.1
  · rename_i some
    split
    · rename_i upsideDown
      exact iff_of_false nofun fun h => Int32.not_le.mpr upsideDown h.2.1
    · rename_i upright
      split
      · rename_i none
        exact iff_of_false nofun fun h => h.2.2 none
      · rename_i threads
        refine iff_of_true rfl ⟨?_, Int32.not_lt.mp upright, threads⟩
        rwa [size, not_not] at some

end Settings

end FormulaArt
