import FormulaArt.Proofs.Random.Lockstep
import FormulaArt.Proofs.Render.Picture

/-!
# What a picture takes from its source

Formulas, the formulas of the three channels and whole pictures depend on their source only through the
answers to the questions of the builder.  Two sources that answer alike give equal formulas, equal
pictures and equal faults, and are left in related states.  In particular it makes no difference behind
how many layers a source stands.

## Main statements

* `Expr.lockstep_build`, `Channels.lockstep_build`, `lockstep_renderRandom` — the three kinds of request
* `lockstep_of_alike` — all of them, and sources behind layers

## Design notes

Two renders of the same request need not run on machines that let tasks take turns in the same order.
The schedules of the two machines are therefore arbitrary.  What has to be the same is the number of
workers, since the statistics of a render report it, and which pools of threads can be started.
-/

namespace FormulaArt

/-- Two machines with the same number of workers that can start the same pools render alike, in whatever
order their tasks make their steps. -/
theorem renderChannels_eq_of_workers {α : Type} [Scalar α] {machine machine' : Machine}
    (workers : machine.workers = machine'.workers) (pools : machine.poolError? = machine'.poolError?)
    (trees : Channels Expr) (width height : UInt32) (options : RenderOptions) :
    (renderChannels machine trees width height options : Except (Fault α) _)
      = renderChannels machine' trees width height options := by
  obtain ⟨n, schedule, poolError?⟩ := machine
  obtain ⟨n', schedule', poolError?'⟩ := machine'
  obtain rfl : n = n' := workers
  obtain rfl : poolError? = poolError?' := pools
  simp only [renderChannels, pictureBytes_eq_sequentialBytes]
  rfl

section Requests

variable {α σ τ : Type} [RandomSource σ] [RandomSource τ] {R : σ → τ → Prop}

/-- A build asks no other questions than those of the growth within its range. -/
theorem Expr.lockstep_build (alike : RandomSource.Alike R) (range : DepthRange) :
    Lockstep R (build range : ExceptT (Fault α) (StateM σ) Expr).run
      (build range : ExceptT (Fault α) (StateM τ) Expr).run := by
  rw [build, build, ← perform_growth, ← perform_growth]
  split
  · exact .run_mk _
  · exact ((growth range.least range.greatest).lockstep_perform alike).run_adapt Fault.strayIndex

theorem Channels.lockstep_build (alike : RandomSource.Alike R) (range : DepthRange) :
    Lockstep R (build range : ExceptT (Fault α) (StateM σ) (Channels Expr)).run
      (build range : ExceptT (Fault α) (StateM τ) (Channels Expr)).run := by
  have formula := Expr.lockstep_build (α := α) alike range
  exact formula.run_bind fun _ => formula.run_bind fun _ => formula.run_bind fun _ => .run_mk _

theorem lockstep_renderRandom [Scalar α] (alike : RandomSource.Alike R) {machine machine' : Machine}
    (workers : machine.workers = machine'.workers) (pools : machine.poolError? = machine'.poolError?)
    (width height : UInt32) (range : DepthRange) (options : RenderOptions) :
    Lockstep R
      (renderRandom machine width height range options : ExceptT (Fault α) (StateM σ) _).run
      (renderRandom machine' width height range options : ExceptT (Fault α) (StateM τ) _).run := by
  rw [renderRandom, renderRandom]
  split
  · exact .run_mk _
  · refine (Channels.lockstep_build alike range).run_bind fun trees => ?_
    rw [renderChannels_eq_of_workers workers pools]
    exact .run_mk _

end Requests

/-- **A picture depends on its source only through the answers.**  Let two sources answer alike as long as
their states are in some relation.  From related states a build, a build of the channels and a render from
the source come to equal results, be it a formula, a picture or a fault, and leave related states, whatever
the range, the size and the options, and however the machines of the two renders order their steps, which
have equally many workers and start the same pools of threads.  In particular a source behind any number of
layers gives the results that it gives by itself, and is itself left, behind the layers, in the state in
which it would have been left without them. -/
theorem lockstep_of_alike {α σ τ : Type} [Scalar α] [RandomSource σ] [RandomSource τ]
    {R : σ → τ → Prop} (alike : RandomSource.Alike R) :
    (∀ range : DepthRange,
      Lockstep R (Expr.build range : ExceptT (Fault α) (StateM σ) Expr).run
        (Expr.build range : ExceptT (Fault α) (StateM τ) Expr).run ∧
      Lockstep R (Channels.build range : ExceptT (Fault α) (StateM σ) (Channels Expr)).run
        (Channels.build range : ExceptT (Fault α) (StateM τ) (Channels Expr)).run ∧
      ∀ (machine machine' : Machine) (width height : UInt32) (options : RenderOptions),
        machine.workers = machine'.workers → machine.poolError? = machine'.poolError? →
          Lockstep R
            (renderRandom machine width height range options : ExceptT (Fault α) (StateM σ) _).run
            (renderRandom machine' width height range options : ExceptT (Fault α) (StateM τ) _).run) ∧
    ∀ (layers : Nat) (s : σ) (range : DepthRange),
      (Expr.build range : ExceptT (Fault α) (StateM (Layered σ layers)) Expr) (Layered.wrap layers s)
        = (((Expr.build range : ExceptT (Fault α) (StateM σ) Expr) s).1,
            Layered.wrap layers ((Expr.build range : ExceptT (Fault α) (StateM σ) Expr) s).2) ∧
      (Channels.build range : ExceptT (Fault α) (StateM (Layered σ layers)) _) (Layered.wrap layers s)
        = (((Channels.build range : ExceptT (Fault α) (StateM σ) _) s).1,
            Layered.wrap layers ((Channels.build range : ExceptT (Fault α) (StateM σ) _) s).2) ∧
      ∀ (machine : Machine) (width height : UInt32) (options : RenderOptions),
        (renderRandom machine width height range options
            : ExceptT (Fault α) (StateM (Layered σ layers)) _) (Layered.wrap layers s)
          = (((renderRandom machine width height range options
                : ExceptT (Fault α) (StateM σ) _) s).1,
              Layered.wrap layers ((renderRandom machine width height range options
                : ExceptT (Fault α) (StateM σ) _) s).2) := by
  constructor
  · intro range
    exact ⟨Expr.lockstep_build alike range, Channels.lockstep_build alike range,
      fun _ _ width height options workers pools =>
        lockstep_renderRandom alike workers pools width height range options⟩
  · intro layers s range
    -- the relation that holds between a source and the same source behind the layers
    have passed := Layered.alike_wrap (σ := σ) layers
    obtain ⟨tree, treeState⟩ := Expr.lockstep_build (α := α) passed range s _ rfl
    obtain ⟨trees, treesState⟩ := Channels.lockstep_build (α := α) passed range s _ rfl
    refine ⟨Prod.ext tree.symm treeState, Prod.ext trees.symm treesState, ?_⟩
    intro machine width height options
    obtain ⟨frame, frameState⟩ :=
      lockstep_renderRandom (α := α) passed rfl rfl width height range options s _ rfl
    exact Prod.ext frame.symm frameState

/-- Two sources that have neither a raw word nor a unit draw in common, but the same operators and coins; on
machines that order the steps of their tasks differently, and behind two layers. -/
theorem lockstep_of_alike_steady :
    RandomSource.Alike (fun s t : Steady => s.index = t.index ∧ s.coin = t.coin) ∧
    ((Expr.build ⟨0, 3⟩ : ExceptT (Fault Float) (StateM Steady) Expr) ⟨.ofSeed 1, 0, 3, true⟩).1
      = ((Expr.build ⟨0, 3⟩ : ExceptT (Fault Float) (StateM Steady) Expr)
          ⟨.ofSeed 2, 0.75, 3, true⟩).1 ∧
    ((renderRandom { workers := 8, schedule := [.blue] } 2 1 ⟨0, 3⟩ { strategy := some .parallel }
        : ExceptT (Fault Float) (StateM Steady) _) ⟨.ofSeed 1, 0, 3, true⟩).1
      = ((renderRandom { workers := 8, schedule := [] } 2 1 ⟨0, 3⟩ { strategy := some .parallel }
        : ExceptT (Fault Float) (StateM Steady) _) ⟨.ofSeed 2, 0.75, 3, true⟩).1 ∧
    (Expr.build ⟨0, 3⟩ : ExceptT (Fault Float) (StateM (Layered Steady 2)) Expr)
        (Layered.wrap 2 ⟨.ofSeed 1, 0, 3, true⟩)
      = (((Expr.build ⟨0, 3⟩ : ExceptT (Fault Float) (StateM Steady) Expr)
            ⟨.ofSeed 1, 0, 3, true⟩).1,
          Layered.wrap 2 ((Expr.build ⟨0, 3⟩ : ExceptT (Fault Float) (StateM Steady) Expr)
            ⟨.ofSeed 1, 0, 3, true⟩).2) := by
  have alike : RandomSource.Alike fun s t : Steady => s.index = t.index ∧ s.coin = t.coin :=
    ⟨fun _ _ same => ⟨same.1, same⟩, fun _ _ same => ⟨same.2, same⟩⟩
  obtain ⟨steps, layered⟩ := lockstep_of_alike (α := Float) alike
  obtain ⟨trees, -, frames⟩ := steps ⟨0, 3⟩
  have related : (3 : Nat) = 3 ∧ true = true := ⟨rfl, rfl⟩
  exact ⟨alike, (trees ⟨.ofSeed 1, 0, 3, true⟩ ⟨.ofSeed 2, 0.75, 3, true⟩ related).1,
    (frames { workers := 8, schedule := [.blue] } { workers := 8, schedule := [] } 2 1
      { strategy := some .parallel } rfl rfl ⟨.ofSeed 1, 0, 3, true⟩ ⟨.ofSeed 2, 0.75, 3, true⟩ related).1,
    (layered 2 ⟨.ofSeed 1, 0, 3, true⟩ ⟨0, 3⟩).1⟩

end FormulaArt
