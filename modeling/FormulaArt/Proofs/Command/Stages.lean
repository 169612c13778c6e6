import FormulaArt.Command.Run
import FormulaArt.Proofs.Command.Workspace
import FormulaArt.Proofs.Render.Random

/-!
# The stages of a command that renders

A command that renders loads its settings and checks them, finds a seed, builds and prints its formulas,
renders them, and at last writes the picture.  Settings that cannot be loaded or do not pass stop it before it
does anything that others can see.  Settings that pass bring it to its formulas, and from there to the point where
the picture is written, unless the machine does not start the pool of threads that they ask for.

## Main definitions

* `loadedSettings`, `RenderArguments.settingsFrom` — the settings in a file, and those of a command
* `RenderArguments.Refused`, `RenderArguments.Accepted` — whether the settings of a command pass

## Main statements

* `run_conclude` — the exit code of a command
* `exists_run_settings_eq_error` — settings that are refused
* `exists_formulas_create` — what settings that pass have
* `run_runRender_of_refused` — a command whose settings are refused
* `exists_formulas_renderChannels` — settings that pass, and their frame
* `exists_run_runRender` — a command whose settings pass, up to its formulas

## Design notes

The statements are over any model of the world in which files and printed text can be seen (`Observed`).  What
a command prints and when it touches a file does not depend on how the file system answers.
-/

namespace FormulaArt

namespace Command

/-- There is nothing to fail with. -/
theorem orFail_ok {δ β : Type} (v : β) :
    (orFail (.ok v) : ExceptT CommandError (StateM δ) β) = pure v := rfl

variable {δ : Type} [Workspace (StateM δ)]

/-- How a command ends decides its exit code, and a failure is reported. -/
theorem run_conclude {s : δ} {command : ExceptT CommandError (StateM δ) Unit} {result : Except CommandError Unit}
    {t : δ} (h : command s = (result, t)) :
    (conclude command : StateM δ UInt32) s =
      match result with
      | .ok () => (0, t)
      | .error e => (1, ((Workspace.report (e.report ++ "\n") : StateM δ Unit) t).2) := by
  rw [conclude]
  refine (run_bind_of_eq _ h).trans ?_
  cases result with
  | ok _ => rfl
  | error e => rfl

/-! ### Settings -/

/-- The settings that a command starts from: what comes of reading the file of a path, or the defaults if no
path is given. -/
def loadedSettings (s : δ) : Option String → Except (Fault Float) Settings
  | none => .ok Settings.default
  | some path => settingsOf path ((Workspace.read path : StateM δ ReadOutcome) s).1

/-- The settings of a command that renders, with its flags in place of what they override. -/
def RenderArguments.settingsFrom (arguments : RenderArguments) (file : Settings) : Settings :=
  overrideStrategy arguments.strategy (arguments.picture.override file)

/-- The settings of a command that renders cannot be loaded, or do not pass. -/
def RenderArguments.Refused (arguments : RenderArguments) (s : δ) : Prop :=
  (∃ fault, loadedSettings s arguments.picture.config = .error fault) ∨
    ∃ (file : Settings) (fault : Fault Float),
      loadedSettings s arguments.picture.config = .ok file ∧
      (arguments.settingsFrom file).validate = .error fault

/-- A command that renders has settings that are loaded and pass. -/
def RenderArguments.Accepted (arguments : RenderArguments) (s : δ) (settings : Settings) : Prop :=
  ∃ file, loadedSettings s arguments.picture.config = .ok file ∧
    arguments.settingsFrom file = settings ∧
    (settings.validate : Except (Fault Float) Unit) = .ok ()

theorem RenderArguments.refused_or_accepted (arguments : RenderArguments) (s : δ) :
    arguments.Refused s ∨ ∃ settings, arguments.Accepted s settings := by
  cases loaded : loadedSettings s arguments.picture.config with
  | error fault => exact .inl (.inl ⟨fault, loaded⟩)
  | ok file =>
      cases checked : ((arguments.settingsFrom file).validate : Except (Fault Float) Unit) with
      | error fault => exact .inl (.inr ⟨file, fault, loaded, checked⟩)
      | ok _ => exact .inr ⟨_, file, loaded, rfl, checked⟩

section Settings

variable [Observed δ] {s : δ} {flags : PictureFlags}

theorem run_loadSettings (path : String) (s : δ) :
    (loadSettings path : ExceptT CommandError (StateM δ) _) s
      = (.ok (loadedSettings s (some path)), s) := by
  refine run_map_of_ok (settingsOf path) (run_lift_of_eq (Prod.ext rfl ?_))
  exact Observed.read path s

/-- Settings are loaded without a trace. -/
theorem run_effectiveSettings_of_ok {file : Settings} (loaded : loadedSettings s flags.config = .ok file) :
    (effectiveSettings flags : ExceptT CommandError (StateM δ) Settings) s
      = (.ok (flags.override file), s) := by
  rw [effectiveSettings]
  generalize flags.config = config at loaded
  cases config with
  | none =>
      cases loaded
      rfl
  | some path =>
      have load := run_loadSettings path s
      rw [loaded] at load
      exact run_bind_of_ok _ load

/-- Settings that cannot be loaded stop a command without a trace. -/
theorem run_effectiveSettings_of_error {fault : Fault Float}
    (failed : loadedSettings s flags.config = .error fault) :
    ∃ path, (effectiveSettings flags : ExceptT CommandError (StateM δ) Settings) s
      = (.error (.load path fault), s) := by
  rw [effectiveSettings]
  generalize flags.config = config at failed
  cases config with
  | none => cases failed
  | some path =>
      have load := run_loadSettings path s
      rw [failed] at load
      exact ⟨path, run_bind_of_ok _ load⟩

/-- Settings that cannot be loaded, or do not pass when they are adjusted, stop whatever needs them, and leave
the world as it was. -/
theorem exists_run_settings_eq_error {adjust : Settings → Settings}
    (refused : (∃ fault, loadedSettings s flags.config = .error fault) ∨
      ∃ (file : Settings) (fault : Fault Float), loadedSettings s flags.config = .ok file ∧
        (adjust (flags.override file)).validate = .error fault)
    (rest : Settings → ExceptT CommandError (StateM δ) Unit) :
    ∃ e, (do
      let settings ← effectiveSettings flags
      orFail (adjust settings).validate
      rest settings : ExceptT CommandError (StateM δ) Unit) s = (.error e, s) := by
  obtain ⟨fault, failed⟩ | ⟨file, fault, loaded, rejected⟩ := refused
  · obtain ⟨path, load⟩ := run_effectiveSettings_of_error failed
    exact ⟨_, run_bind_of_error _ load⟩
  · have check : (orFail (adjust (flags.override file)).validate
        : ExceptT CommandError (StateM δ) Unit) s = (.error (.fault fault), s) := by
      rw [rejected]
      rfl
    exact ⟨_, (run_bind_of_ok _ (run_effectiveSettings_of_ok loaded)).trans (run_bind_of_error _ check)⟩

/-- A command whose settings cannot be loaded or do not pass leaves the world as it was. -/
theorem run_runRender_of_refused (machine : Machine) {arguments : RenderArguments}
    (refused : arguments.Refused s) :
    ∃ e, (runRender machine arguments : ExceptT CommandError (StateM δ) Unit) s = (.error e, s) :=
  exists_run_settings_eq_error refused _

end Settings

/-! ### Formulas and pictures -/

section Render

variable [Observed δ] {s : δ}

/-- The seed of settings, and what has become of the world when it is known. -/
theorem exists_run_seedOf (settings : Settings) (s : δ) :
    ∃ t, Observed.files t = Observed.files s ∧ Observed.printed t = Observed.printed s ∧
      (seedOf settings : ExceptT CommandError (StateM δ) UInt64) s
        = (.ok (settings.seed.getD ((Workspace.now : StateM δ UInt64) s).1), t) := by
  rw [seedOf]
  cases settings.seed with
  | some seed => exact ⟨s, rfl, rfl, rfl⟩
  | none => exact ⟨_, Observed.files_now s, Observed.printed_now s, run_lift_of_eq rfl⟩

/-- Settings that pass have formulas and a grid, whatever the seed, and do not ask for no threads. -/
theorem exists_formulas_create {settings : Settings}
    (accepted : (settings.validate : Except (Fault Float) Unit) = .ok ()) (seed : UInt64) :
    ∃ (trees : Channels Expr) (grid : Grid Float), formulas settings.range seed = .ok trees ∧
      Grid.create settings.width settings.height = .ok grid ∧ settings.threads ≠ some 0 := by
  obtain ⟨nonempty, ordered, threads⟩ := Settings.validate_eq_ok_iff.mp accepted
  have ordered : settings.range.min ≤ settings.range.max := ordered
  obtain ⟨trees, g, built⟩ := Channels.exists_build (α := Float) ordered
    (SplitMix.inTable (SplitMix.ofSeed seed))
  obtain ⟨grid, created⟩ := Grid.exists_create_double nonempty.1 nonempty.2
  exact ⟨trees, grid, congrArg Prod.fst built, created, threads⟩

/-- Settings that pass leave nothing to fail until there is a frame, whatever the seed, as long as the machine
starts the pool of threads that they ask for. -/
theorem exists_formulas_renderChannels {machine : Machine} {settings : Settings}
    (accepted : (settings.validate : Except (Fault Float) Unit) = .ok ())
    (starts : settings.PoolStarts machine) (seed : UInt64) :
    ∃ (trees : Channels Expr) (frame : Frame) (stats : RenderStats),
      formulas settings.range seed = .ok trees ∧
      (renderChannels machine trees settings.width settings.height settings.options
        : Except (Fault Float) _) = .ok (frame, stats) := by
  obtain ⟨trees, grid, built, created, threads⟩ := exists_formulas_create accepted seed
  have threads : settings.options.threads ≠ some 0 := threads
  exact ⟨trees, _, _, built, renderChannels_of_create machine trees threads starts created⟩

/-- A command whose settings pass builds its formulas, and prints them if it is asked to.  What is left of it is
to render them, to write the picture and to report. -/
theorem exists_run_runRender (machine : Machine) {arguments : RenderArguments} {settings : Settings}
    (accepted : arguments.Accepted s settings) :
    ∃ (trees : Channels Expr) (t : δ),
      formulas settings.range (settings.seed.getD ((Workspace.now : StateM δ UInt64) s).1)
        = .ok trees ∧
      Observed.files t = Observed.files s ∧
      Observed.printed t
        = Observed.printed s ++ (if arguments.printTrees then formulaLines trees else "") ∧
      (runRender machine arguments : ExceptT CommandError (StateM δ) Unit) s
        = (do
            let (frame, _) ← orFail (renderChannels machine trees settings.width settings.height
              settings.options)
            savePicture arguments.out frame
            Workspace.report s!"wrote {arguments.out}\n" : ExceptT CommandError (StateM δ) Unit) t := by
  obtain ⟨file, loaded, effective, passed⟩ := accepted
  obtain ⟨u, files, printed, seedRun⟩ := exists_run_seedOf settings s
  generalize settings.seed.getD ((Workspace.now : StateM δ UInt64) s).1 = seed at *
  obtain ⟨trees, -, built, -, -⟩ := exists_formulas_create passed seed
  rw [RenderArguments.settingsFrom] at effective
  rw [runRender, run_bind_of_ok _ (run_effectiveSettings_of_ok loaded)]
  dsimp only
  rw [effective, passed, orFail_ok, pure_bind, run_bind_of_ok _ seedRun, built, orFail_ok, pure_bind]
  split
  · refine ⟨trees, _, rfl, (Observed.files_print _ u).trans files, ?_, run_bind_of_ok _ (run_lift_of_eq rfl)⟩
    rw [Observed.printed_print, printed]
  · exact ⟨trees, u, rfl, files, printed.trans String.append_empty.symm, rfl⟩

end Render

end Command

end FormulaArt
