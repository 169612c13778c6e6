import FormulaArt.Proofs.Command.Stages

/-!
# How a command that renders can fail

Settings that cannot be loaded or do not pass leave no trace but the report.  Settings that pass make sure that
the formulas are built and, on a machine that starts the pool of threads that they ask for, rendered, so that
after the formulas are printed nothing but the writing of the picture is left to fail: a directory cannot be
made, or the file cannot be saved.

## Main definitions

* `CommandError.OfWriting` — what goes wrong when a picture is written
* `FailsBy` — a computation that prints nothing and fails for certain causes only

## Main statements

* `failsBy_savePicture` — why writing can fail
* `of_conclude_refused`, `of_conclude_accepted` — how a command can end
* `exists_conclude_of_not_poolStarts` — how it ends if its pool does not start
* `exists_run_of_parse_render` — how a command line that renders can end

## Design notes

Nothing is assumed of the file system: it may fail wherever it pleases, and leave behind what it pleases when it
does.  All that matters is that the command stops at the first failure, and what it has done before.
-/

namespace FormulaArt

namespace Command

variable {δ : Type} [Workspace (StateM δ)]

/-! ### Writing -/

/-- What goes wrong when a picture is written to a path: its directory cannot be made, or its file cannot be
saved. -/
def CommandError.OfWriting (path : String) (e : CommandError) : Prop :=
  (∃ directory cause, Path.parent? path = some directory ∧ e = .makeDirectory directory cause) ∨
    ∃ cause, e = .write path cause

section Writing

variable [Observed δ] {β γ : Type} {C : CommandError → Prop}

/-- A computation that prints nothing, and fails for causes of a certain kind only. -/
def FailsBy (C : CommandError → Prop) (action : ExceptT CommandError (StateM δ) β) : Prop :=
  ∀ s, Observed.printed (action s).2 = Observed.printed s ∧ ∀ e, (action s).1 = .error e → C e

theorem failsBy_pure (b : β) : FailsBy C (pure b : ExceptT CommandError (StateM δ) β) :=
  fun _ => ⟨rfl, nofun⟩

theorem failsBy_throw {e : CommandError} (h : C e) :
    FailsBy C (throw e : ExceptT CommandError (StateM δ) β) := by
  refine fun _ => ⟨rfl, ?_⟩
  rintro _ ⟨⟩
  exact h

theorem failsBy_lift {action : StateM δ β} (quiet : Quiet action) :
    FailsBy C (ExceptT.lift action : ExceptT CommandError (StateM δ) β) :=
  fun s => ⟨quiet s, nofun⟩

theorem FailsBy.bind {action : ExceptT CommandError (StateM δ) β}
    {next : β → ExceptT CommandError (StateM δ) γ} (first : FailsBy C action)
    (others : ∀ b, FailsBy C (next b)) : FailsBy C (action >>= next) := by
  intro s
  obtain ⟨quiet, causes⟩ := first s
  rcases run_bind_cases action next s with ⟨e, t, run, stopped⟩ | ⟨b, t, run, rest⟩
  · rw [run] at quiet causes
    rw [stopped]
    refine ⟨quiet, ?_⟩
    rintro _ ⟨⟩
    exact causes e rfl
  · rw [run] at quiet
    obtain ⟨quiet', causes'⟩ := others b t
    rw [rest]
    exact ⟨quiet'.trans quiet, causes'⟩

/-- Once its directory is there, a frame with all the bytes of an image can only fail to be saved. -/
theorem failsBy_save {path : String} {frame : Frame} {image : Image}
    (complete : (frame.toImage : Except (Fault Float) Image) = .ok image) :
    FailsBy (CommandError.OfWriting path)
      (do
        let image ← orFail frame.toImage
        match ← Workspace.save path image with
        | .ok () => pure ()
        | .error cause => throw (.write path cause) : ExceptT CommandError (StateM δ) Unit) := by
  rw [complete]
  refine (failsBy_pure image).bind fun image => ?_
  refine (failsBy_lift (Observed.printed_save path image)).bind fun outcome => ?_
  split
  · exact failsBy_pure _
  · exact failsBy_throw (.inr ⟨_, rfl⟩)

/-- A frame with all the bytes of an image can only fail to be written, and nothing is printed meanwhile. -/
theorem failsBy_savePicture {path : String} {frame : Frame} {image : Image}
    (complete : (frame.toImage : Except (Fault Float) Image) = .ok image) :
    FailsBy (CommandError.OfWriting path)
      (savePicture path frame : ExceptT CommandError (StateM δ) Unit) := by
  rw [savePicture]
  dsimp only
  cases parent : Path.parent? path with
  | none => exact failsBy_save complete
  | some directory =>
      split
      · exact failsBy_save complete
      · exact failsBy_save complete
      · rename_i named
        cases named
        rw [makeDirectories_eq_lift]
        refine (failsBy_lift (quiet_makeDirectories directory)).bind fun outcome => ?_
        split
        · exact failsBy_save complete
        · exact (failsBy_throw (.inl ⟨_, _, parent, rfl⟩)).bind fun _ => failsBy_save complete

end Writing

/-! ### The whole command -/

section Render

variable [Observed δ]

/-- Writing a picture and reporting it ends with exit code 0, or with exit code 1 if writing fails.  Nothing is
printed. -/
theorem exists_conclude_savePicture {path : String} {frame : Frame} {image : Image}
    (complete : (frame.toImage : Except (Fault Float) Image) = .ok image) {s t : δ}
    {command : ExceptT CommandError (StateM δ) Unit} (text : String)
    (rest : command s = (do
      savePicture path frame
      Workspace.report text : ExceptT CommandError (StateM δ) Unit) t) :
    ∃ code u, (conclude command : StateM δ UInt32) s = (code, u) ∧
      Observed.printed u = Observed.printed t ∧
      (code = 0 ∧ ((savePicture path frame : ExceptT CommandError (StateM δ) Unit) t).1 = .ok () ∨
        code = 1 ∧ ∃ e : CommandError, e.OfWriting path ∧
          ((savePicture path frame : ExceptT CommandError (StateM δ) Unit) t).1 = .error e) := by
  obtain ⟨quiet, causes⟩ := failsBy_savePicture complete t
  cases saved : (savePicture path frame : ExceptT CommandError (StateM δ) Unit) t with
  | mk result u =>
      rw [saved] at quiet causes
      cases result with
      | error e =>
          rw [run_bind_of_error _ saved] at rest
          exact ⟨_, _, run_conclude rest, (Observed.printed_report _ u).trans quiet,
            .inr ⟨rfl, e, causes e rfl, rfl⟩⟩
      | ok _ =>
          rw [run_bind_of_ok _ saved] at rest
          exact ⟨_, _, run_conclude rest, (Observed.printed_report _ u).trans quiet, .inl ⟨rfl, rfl⟩⟩

/-- A refused command ends with exit code 1, and nothing that others can see has changed. -/
theorem of_conclude_refused {machine : Machine} {arguments : RenderArguments} {s t : δ} {code : UInt32}
    (ran : (conclude (runRender machine arguments) : StateM δ UInt32) s = (code, t))
    (refused : arguments.Refused s) :
    code = 1 ∧ Observed.printed t = Observed.printed s ∧ Observed.files t = Observed.files s := by
  obtain ⟨e, failed⟩ := run_runRender_of_refused machine refused
  cases ran.symm.trans (run_conclude failed)
  exact ⟨rfl, Observed.printed_report _ s, Observed.files_report _ s⟩

/-- A command that is not refused renders and prints, and then writes, which is all that can fail. -/
theorem of_conclude_accepted {machine : Machine} {arguments : RenderArguments} {s t : δ} {code : UInt32}
    (ran : (conclude (runRender machine arguments) : StateM δ UInt32) s = (code, t))
    {settings : Settings} (accepted : arguments.Accepted s settings)
    (starts : settings.PoolStarts machine) :
    ∃ (trees : Channels Expr) (frame : Frame) (stats : RenderStats) (u : δ),
      formulas settings.range (settings.seed.getD ((Workspace.now : StateM δ UInt64) s).1)
        = .ok trees ∧
      (renderChannels machine trees settings.width settings.height settings.options
        : Except (Fault Float) _) = .ok (frame, stats) ∧
      Observed.files u = Observed.files s ∧
      Observed.printed u
        = Observed.printed s ++ (if arguments.printTrees then formulaLines trees else "") ∧
      Observed.printed t = Observed.printed u ∧
      (code = 0 ∧
          ((savePicture arguments.out frame : ExceptT CommandError (StateM δ) Unit) u).1 = .ok () ∨
        code = 1 ∧ ∃ e : CommandError, e.OfWriting arguments.out ∧
          ((savePicture arguments.out frame : ExceptT CommandError (StateM δ) Unit) u).1
            = .error e) := by
  obtain ⟨trees, u, built, files, printed, rest⟩ := exists_run_runRender machine accepted
  obtain ⟨-, -, -, passed⟩ := accepted
  obtain ⟨trees', frame, stats, built', rendered⟩ := exists_formulas_renderChannels passed starts _
  cases built.symm.trans built'
  rw [rendered, orFail_ok, pure_bind] at rest
  obtain ⟨code', t', ran', quiet, outcome⟩ :=
    exists_conclude_savePicture (toImage_of_renderChannels rendered) _ rest
  cases ran.symm.trans ran'
  exact ⟨trees, frame, stats, u, built, rendered, files, printed, quiet, outcome⟩

/-- A command whose settings pass and whose pool does not start ends with exit code 1 before it touches a file.
If it is asked to, it has printed its formulas by then. -/
theorem exists_conclude_of_not_poolStarts {machine : Machine} {arguments : RenderArguments} {s : δ}
    {settings : Settings} (accepted : arguments.Accepted s settings) (fails : ¬ settings.PoolStarts machine) :
    ∃ (trees : Channels Expr) (t : δ),
      formulas settings.range (settings.seed.getD ((Workspace.now : StateM δ UInt64) s).1)
        = .ok trees ∧
      (conclude (runRender machine arguments) : StateM δ UInt32) s = (1, t) ∧
      Observed.printed t
        = Observed.printed s ++ (if arguments.printTrees then formulaLines trees else "") ∧
      Observed.files t = Observed.files s := by
  obtain ⟨trees, u, built, files, printed, rest⟩ := exists_run_runRender machine accepted
  obtain ⟨-, -, -, passed⟩ := accepted
  obtain ⟨-, grid, -, created, threads⟩ := exists_formulas_create passed 0
  have threads : settings.options.threads ≠ some 0 := threads
  obtain ⟨-, words, -, -, failed⟩ :=
    exists_renderChannels_eq_error_of_not_poolStarts machine trees threads fails created
  rw [failed] at rest
  exact ⟨trees, _, built, run_conclude rest, (Observed.printed_report _ u).trans printed,
    (Observed.files_report _ u).trans files⟩

/-- **A command that renders and fails leaves nothing behind.**  Let a command line ask for a render, on a
machine that starts the pool of threads that the settings ask for.  If its settings cannot be loaded or do not
pass, the run ends with exit code 1, has printed nothing, and no file and no directory has changed.  If they
pass, the formulas are built and rendered, and then, if the flags say so, are printed, one a line, while no file
has been touched.  Nothing is printed afterwards, and the exit code is 0 unless the directory of the picture
cannot be made or the picture cannot be saved.  So a run that has printed something and ends with exit code 1 has
failed to write the picture. -/
theorem exists_run_of_parse_render (machine : Machine) {words : List String}
    {arguments : RenderArguments} (parsed : Invocation.parse words = .ok (.render arguments)) (s : δ)
    (starts : ∀ settings, arguments.Accepted s settings → settings.PoolStarts machine) :
    ∃ (code : UInt32) (t : δ), (run machine words : StateM δ UInt32) s = (code, t) ∧
      (arguments.Refused s →
        code = 1 ∧ Observed.printed t = Observed.printed s ∧ Observed.files t = Observed.files s) ∧
      (∀ settings, arguments.Accepted s settings →
        ∃ (trees : Channels Expr) (frame : Frame) (stats : RenderStats) (u : δ),
          formulas settings.range (settings.seed.getD ((Workspace.now : StateM δ UInt64) s).1)
            = .ok trees ∧
          (renderChannels machine trees settings.width settings.height settings.options
            : Except (Fault Float) _) = .ok (frame, stats) ∧
          Observed.files u = Observed.files s ∧
          Observed.printed u = Observed.printed s ++
            (if arguments.printTrees then
              "red   = " ++ trees.red.formula ++ "\n" ++
              "green = " ++ trees.green.formula ++ "\n" ++
              "blue  = " ++ trees.blue.formula ++ "\n"
            else "") ∧
          Observed.printed t = Observed.printed u ∧
          (code = 0 ∧
              ((savePicture arguments.out frame : ExceptT CommandError (StateM δ) Unit) u).1 = .ok () ∨
            code = 1 ∧ ∃ e : CommandError, e.OfWriting arguments.out ∧
              ((savePicture arguments.out frame : ExceptT CommandError (StateM δ) Unit) u).1
                = .error e)) ∧
      (code = 1 → Observed.printed t ≠ Observed.printed s →
        ∃ (frame : Frame) (u : δ) (e : CommandError), e.OfWriting arguments.out ∧
          Observed.files u = Observed.files s ∧ Observed.printed u = Observed.printed t ∧
          ((savePicture arguments.out frame : ExceptT CommandError (StateM δ) Unit) u).1 = .error e) := by
  obtain ⟨code, t, ran⟩ : ∃ code t, (run machine words : StateM δ UInt32) s = (code, t) := ⟨_, _, rfl⟩
  have concluded : (conclude (runRender machine arguments) : StateM δ UInt32) s = (code, t) := by
    rw [← ran, run, parsed]
  refine ⟨code, t, ran, of_conclude_refused concluded,
    fun settings accepted => of_conclude_accepted concluded accepted (starts settings accepted),
    fun failed some => ?_⟩
  -- a run that was refused would have printed nothing
  obtain refused | ⟨settings, accepted⟩ := arguments.refused_or_accepted s
  · exact absurd (of_conclude_refused concluded refused).2.1 some
  · obtain ⟨trees, frame, stats, u, -, -, files, -, quiet, outcome⟩ :=
      of_conclude_accepted concluded accepted (starts settings accepted)
    obtain ⟨ended, -⟩ | ⟨-, e, cause, unsaved⟩ := outcome
    · rw [failed] at ended
      exact absurd ended (by decide)
    · exact ⟨frame, u, e, cause, files, quiet.symm, unsaved⟩

/-- Two command lines on a desk: depths that are upside down, and a file where the directory of the picture would
have to be, which is found out when the formulas have been printed. -/
theorem exists_run_of_parse_render_file_in_the_way :
    (∃ t : Desk,
      (run { workers := 8, schedule := [] }
        ["render", "--out=art/a.png", "--print-trees", "--min-depth", "5", "--max-depth=-2"]
        : StateM Desk UInt32) {} = (1, t) ∧ t.printed = "" ∧ t.folder = {}) ∧
    ∃ (trees : Channels Expr) (t : Desk), formulas ⟨-5, 2⟩ 7 = .ok trees ∧
      (run { workers := 8, schedule := [] }
          ["render", "--out=art/a.png", "--print-trees", "--width=1", "--height", "1",
          "--min-depth", "-5", "--max-depth=2", "--seed=7"] : StateM Desk UInt32)
        { folder := { entries := [(["art"], .bytes [])] } } = (1, t) ∧
      t.printed =
        "red   = " ++ trees.red.formula ++ "\n" ++
        "green = " ++ trees.green.formula ++ "\n" ++
        "blue  = " ++ trees.blue.formula ++ "\n" := by
  constructor
  · have parsed : Invocation.parse
        ["render", "--out=art/a.png", "--print-trees", "--min-depth", "5", "--max-depth=-2"]
        = .ok (.render
            { out := "art/a.png", picture := { minDepth := some 5, maxDepth := some (-2) },
              printTrees := true }) := by decide +kernel
    obtain ⟨code, t, ran, refused, -⟩ := exists_run_of_parse_render { workers := 8, schedule := [] }
      parsed ({} : Desk) fun _ _ => RenderOptions.poolStarts_of_all fun _ => rfl
    obtain ⟨rfl, printed, files⟩ := refused (.inr ⟨Settings.default, _, rfl, rfl⟩)
    exact ⟨t, ran, printed, files⟩
  · have parsed : Invocation.parse ["render", "--out=art/a.png", "--print-trees", "--width=1",
          "--height", "1", "--min-depth", "-5", "--max-depth=2", "--seed=7"]
        = .ok (.render
            { out := "art/a.png",
              picture :=
                { width := some 1, height := some 1, minDepth := some (-5), maxDepth := some 2,
                  seed := some 7 },
              printTrees := true }) := by decide +kernel
    obtain ⟨code, t, ran, -, success, -⟩ := exists_run_of_parse_render { workers := 8, schedule := [] }
      parsed ({ folder := { entries := [(["art"], .bytes [])] } } : Desk)
      fun _ _ => RenderOptions.poolStarts_of_all fun _ => rfl
    obtain ⟨trees, frame, stats, u, built, rendered, files, printed, quiet, outcome⟩ :=
      success { width := 1, height := 1, minDepth := -5, maxDepth := 2, seed := some 7 }
        ⟨Settings.default, rfl, rfl, rfl⟩
    obtain ⟨folder, text, report, clock, looks⟩ := u
    obtain rfl : folder = { entries := [(["art"], .bytes [])] } := files
    obtain ⟨-, saved⟩ | ⟨rfl, -⟩ := outcome
    · cases saved
    · refine ⟨trees, t, built, ran, (quiet.trans printed).trans ?_⟩
      exact String.empty_append

end Render

end Command

end FormulaArt
