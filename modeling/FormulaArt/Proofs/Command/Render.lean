import FormulaArt.Proofs.Command.Directories
import FormulaArt.Proofs.Command.Flags
import FormulaArt.Proofs.Command.Stages
import FormulaArt.Proofs.Settings.Object

/-!
# The command that renders

The command takes a render from a source apart: it builds the formulas, prints them if it is asked to,
renders them, and saves the frame.  What it saves is still the frame of the render from the source with
the same settings.  These are taken from the flags, the settings file and the defaults, field by field.

## Main definitions

* `FileSettings` — the settings that a command starts from
* `settingsFor` — the settings of a command line, field by field

## Main statements

* `FileSettings.loadedSettings_eq` — the settings of a file are loaded
* `run_savePicture` — a frame is saved at a writable path
* `run_runRender` — the command for given arguments
* `exists_run_render` — a whole command line
-/

namespace FormulaArt

namespace Command

/-! ### Settings -/

/-- The settings that a command starts from: those of the file of the given path, or the defaults if no
path is given. -/
inductive FileSettings (folder : Folder) : Option String → Settings → Prop
  | default : FileSettings folder none Settings.default
  | file {path : String} {bytes : Settings.Bytes} {settings : Settings}
      (read : folder.read path = .content bytes)
      (parsed : (Settings.parse bytes : Except (Fault Float) Settings) = .ok settings) :
      FileSettings folder (some path) settings

/-- The settings of a command line.  A flag that is given overrides the file, and the choice `auto`
overrides a strategy by none. -/
def settingsFor (text : Flag → Option String) (file : Settings) : Settings where
  width := ((text .width).bind readUnsigned32?).getD file.width
  height := ((text .height).bind readUnsigned32?).getD file.height
  minDepth := ((text .minDepth).bind readSigned32?).getD file.minDepth
  maxDepth := ((text .maxDepth).bind readSigned32?).getD file.maxDepth
  seed := ((text .seed).bind readUnsigned64?).or file.seed
  strategy :=
    match (text .strategy).bind readChoice? with
    | some .auto => none
    | some (.forced strategy) => some strategy
    | none => file.strategy
  threads := ((text .threads).bind readUnsigned64?).or file.threads

/-- The command overrides the settings in two places, and so that nothing is lost in between. -/
theorem overrideStrategy_override (out : String) (text : Flag → Option String) (file : Settings) :
    overrideStrategy (RenderArguments.ofTexts out text).strategy
        ((RenderArguments.ofTexts out text).picture.override file)
      = settingsFor text file := by
  show overrideStrategy ((text .strategy).bind readChoice?) _ = _
  rw [settingsFor]
  cases (text .strategy).bind readChoice? with
  | none => rfl
  | some choice => cases choice <;> rfl

section Runs

variable {desk : Desk}

/-- What a command loads is what its file says. -/
theorem FileSettings.loadedSettings_eq {config : Option String} {file : Settings}
    (loaded : FileSettings desk.folder config file) : loadedSettings desk config = .ok file := by
  cases loaded with
  | default => rfl
  | @file path bytes settings read parsed =>
      show settingsOf path (desk.folder.read path) = .ok file
      rw [read]
      exact parsed

/-- Once its directory is there, a frame is saved as its image. -/
theorem run_save {path : String} {frame : Frame} {image : Image} {saved : Folder}
    (complete : (frame.toImage : Except (Fault Float) Image) = .ok image)
    (put : desk.folder.save path image = .ok saved) :
    (do
      let image ← orFail frame.toImage
      match ← Workspace.save path image with
      | .ok () => pure ()
      | .error cause => throw (.write path cause) : ExceptT CommandError (StateM Desk) Unit) desk
      = (.ok (), { desk with folder := saved }) := by
  have save : (Workspace.save path image : ExceptT CommandError (StateM Desk) _) desk
      = (.ok (.ok ()), { desk with folder := saved }) := by
    refine run_lift_of_eq ?_
    show Desk.change (fun folder => folder.save path image) desk = _
    rw [Desk.change, put]
  rw [complete, orFail_ok, pure_bind, run_bind_of_ok _ save]
  rfl

/-- A frame is saved at a writable path, and nothing else happens. -/
theorem run_savePicture {path : String} {frame : Frame} {image : Image}
    (complete : (frame.toImage : Except (Fault Float) Image) = .ok image)
    (writable : desk.folder.Writable path) :
    ∃ saved : Folder, saved.picture? path = some image ∧
      (savePicture path frame : ExceptT CommandError (StateM Desk) Unit) desk
        = (.ok (), { desk with folder := saved }) := by
  obtain ⟨made, above, free⟩ := writable
  obtain ⟨saved, put⟩ := free image
  refine ⟨saved, Folder.picture?_of_save put, ?_⟩
  rw [savePicture]
  dsimp only
  generalize Path.parent? path = parent at above
  split
  · obtain rfl : made = desk.folder := above
    exact run_save complete put
  · obtain rfl : made = desk.folder := above
    exact run_save complete put
  · rename_i directory named
    split at above
    · rename_i absent
      cases absent
    · rename_i empty
      cases empty
      exact absurd rfl named
    · rename_i same
      cases same
      have run : (makeDirectories directory : ExceptT CommandError (StateM Desk) _) desk
          = (.ok (.ok ()), { desk with folder := made }) := by
        rw [makeDirectories_eq_lift]
        exact run_lift_of_eq ((actsOnFolder_makeDirectories directory).eq_of_eq above)
      exact (run_bind_of_ok _ run).trans (run_save complete put)

/-- The command for given arguments.  Whatever the machine, what it saves and prints is decided by the
formulas of its settings. -/
theorem run_runRender (machine : Machine) {arguments : RenderArguments} {file settings : Settings}
    (loaded : FileSettings desk.folder arguments.picture.config file)
    (effective : overrideStrategy arguments.strategy (arguments.picture.override file) = settings)
    (accepted : (settings.validate : Except (Fault Float) Unit) = .ok ()) {seed : UInt64}
    (seeded : settings.seed = some seed) (writable : desk.folder.Writable arguments.out)
    {trees : Channels Expr} (built : formulas settings.range seed = .ok trees) {frame : Frame}
    {stats : RenderStats} (rendered : (renderChannels machine trees settings.width settings.height
      settings.options : Except (Fault Float) _) = .ok (frame, stats)) {image : Image}
    (complete : (frame.toImage : Except (Fault Float) Image) = .ok image) :
    ∃ desk' : Desk, desk'.folder.picture? arguments.out = some image ∧
      desk'.printed = desk.printed ++ (if arguments.printTrees then formulaLines trees else "") ∧
      (runRender machine arguments : ExceptT CommandError (StateM Desk) Unit) desk
        = (.ok (), desk') := by
  obtain ⟨trees', t, built', files, printed, run⟩ :=
    exists_run_runRender machine ⟨file, loaded.loadedSettings_eq, effective, accepted⟩
  rw [seeded] at built'
  cases built.symm.trans built'
  rw [rendered, orFail_ok, pure_bind] at run
  have files : t.folder = desk.folder := files
  rw [← files] at writable
  obtain ⟨saved, found, save⟩ := run_savePicture complete writable
  exact ⟨{ t with folder := saved, reported := t.reported ++ s!"wrote {arguments.out}\n" }, found,
    printed, run.trans (run_bind_of_ok _ save)⟩

end Runs

/-- A command that returns has exit code 0. -/
theorem conclude_of_ok {command : ExceptT CommandError (StateM Desk) Unit} {desk desk' : Desk}
    (h : command desk = (.ok (), desk')) : conclude command desk = (0, desk') :=
  run_conclude h

/-- **The command agrees with the library.**  The flags may stand in any order and write their values
in one word or in two.  If their settings have a seed and pass, the path is writable, and the pool of
threads starts where the settings ask for one, the run ends with exit code 0; the picture at the path is
the frame of the render from that seed with the same settings, whatever else the two machines do; and the
formulas are printed if the flags say so, and nothing else is. -/
theorem exists_run_render (machine machine' : Machine) (os : List Occurrence) (desk : Desk)
    (settings : Settings) (known : ∀ o ∈ os, o.flag ∈ Flag.ofRender) (valid : ∀ o ∈ os, o.Valid)
    (distinct : (os.map Occurrence.flag).Nodup) {out : String} (given : textOf os .out = some out)
    {file : Settings} (loaded : FileSettings desk.folder (textOf os .config) file)
    (effective : settings = settingsFor (textOf os) file)
    (accepted : (settings.validate : Except (Fault Float) Unit) = .ok ()) {seed : UInt64}
    (seeded : settings.seed = some seed) (writable : desk.folder.Writable out)
    (starts : settings.PoolStarts machine) (starts' : settings.PoolStarts machine') :
    ∃ (trees : Channels Expr) (frame : Frame) (stats : RenderStats) (g g' : SplitMix) (desk' : Desk),
      (Channels.build settings.range : ExceptT (Fault Float) (StateM SplitMix) _)
          (SplitMix.ofSeed seed) = (.ok trees, g) ∧
      (renderRandom machine' settings.width settings.height settings.range settings.options
          : ExceptT (Fault Float) (StateM SplitMix) _) (SplitMix.ofSeed seed)
        = (.ok (frame, stats), g') ∧
      (run machine ("render" :: os.flatMap Occurrence.words) : StateM Desk UInt32) desk
        = (0, desk') ∧
      desk'.folder.picture? out = some ⟨frame.width, frame.height, frame.data⟩ ∧
      desk'.printed = desk.printed ++
        if (textOf os .printTrees).isSome then
          "red   = " ++ trees.red.formula ++ "\n" ++
          "green = " ++ trees.green.formula ++ "\n" ++
          "blue  = " ++ trees.blue.formula ++ "\n"
        else "" := by
  obtain ⟨nonempty, ordered, threads⟩ := Settings.validate_eq_ok_iff.mp accepted
  have ordered : settings.range.min ≤ settings.range.max := ordered
  obtain ⟨trees, g, built⟩ := Channels.exists_build (α := Float) ordered
    (SplitMix.inTable (SplitMix.ofSeed seed))
  obtain ⟨grid, created⟩ := Grid.exists_create_double nonempty.1 nonempty.2
  have threads : settings.options.threads ≠ some 0 := threads
  have rendered := renderChannels_of_create machine trees threads starts created
  have config : FileSettings desk.folder (RenderArguments.ofTexts out (textOf os)).picture.config file
      := by
    show FileSettings desk.folder ((textOf os .config).bind readPath?) file
    rwa [bind_readPath? valid (Or.inr rfl)]
  obtain ⟨desk', found, printed, ran⟩ := run_runRender machine config
    ((overrideStrategy_override out (textOf os) file).trans effective.symm) accepted seeded writable
    (congrArg Prod.fst built) rendered (toImage_of_renderChannels rendered)
  have drawn := renderRandom_of_build machine' nonempty settings.options built
  rw [renderChannels_of_create machine' trees threads starts' created] at drawn
  refine ⟨trees, _, _, g, g, desk', built, drawn, ?_, found, printed⟩
  rw [run, parse_render known valid distinct given]
  exact conclude_of_ok ran

/-- A file that forces a strategy, and flags that take it back, with a negative depth and a directory
that is still missing. -/
theorem exists_run_render_auto :
    ∃ (trees : Channels Expr) (frame : Frame) (stats : RenderStats) (g g' : SplitMix) (desk' : Desk),
      (Channels.build ⟨-1, 2⟩ : ExceptT (Fault Float) (StateM SplitMix) _) (SplitMix.ofSeed 7)
        = (.ok trees, g) ∧
      (renderRandom { workers := 1, schedule := [] } 2 1 ⟨-1, 2⟩ {}
          : ExceptT (Fault Float) (StateM SplitMix) _) (SplitMix.ofSeed 7) = (.ok (frame, stats), g') ∧
      (run { workers := 8, schedule := [.blue] }
          ["render", "--height=1", "--strategy", "auto", "--print-trees", "--config", "a.json",
            "--max-depth", "2", "--out=art/a.png", "--min-depth", "-1"] : StateM Desk UInt32)
        { folder := { entries := [(["a.json"],
            .bytes (Settings.bytesOf
              "\x7b\"seed\":7,\"strategy\":\"parallel\",\"width\":2\x7d".toList))] } }
        = (0, desk') ∧
      desk'.folder.picture? "art/a.png" = some ⟨frame.width, frame.height, frame.data⟩ ∧
      desk'.printed =
        "red   = " ++ trees.red.formula ++ "\n" ++
        "green = " ++ trees.green.formula ++ "\n" ++
        "blue  = " ++ trees.blue.formula ++ "\n" := by
  have line : Settings.bytesOf "\x7b\"seed\":7,\"strategy\":\"parallel\",\"width\":2\x7d".toList
      = (Settings.objectTokens ([.seed, .strategy, .width].map (Settings.member
        { seed := some 7, strategy := some .parallel, width := 2 }))).flatten := by decide
  have words : "render" :: List.flatMap Occurrence.words
      [⟨.height, "1", true⟩, ⟨.strategy, "auto", false⟩, ⟨.printTrees, "", false⟩,
        ⟨.config, "a.json", false⟩, ⟨.maxDepth, "2", false⟩, ⟨.out, "art/a.png", true⟩,
        ⟨.minDepth, "-1", false⟩]
      = ["render", "--height=1", "--strategy", "auto", "--print-trees", "--config", "a.json",
          "--max-depth", "2", "--out=art/a.png", "--min-depth", "-1"] := by decide
  have writable (entry : Entry) : Folder.Writable { entries := [(["a.json"], entry)] } "art/a.png" := by
    have path : "art/a.png" = Path.join .plain (["art"] ++ ["a.png"]) := by decide
    rw [path]
    refine Folder.writable_join (by decide) (by decide) (by decide) ⟨Or.inl rfl, trivial⟩ ?_
    show (none : Option Entry) ≠ _
    exact Option.some_ne_none _ ∘ Eq.symm
  have loaded {bytes : Settings.Bytes} {settings : Settings}
      (parsed : (Settings.parse bytes : Except (Fault Float) Settings) = .ok settings) :
      FileSettings { entries := [(["a.json"], .bytes bytes)] } (some "a.json") settings :=
    .file rfl parsed
  rw [← words, line]
  exact exists_run_render _ _ _ _
    { width := 2, height := 1, minDepth := -1, maxDepth := 2, seed := some 7 }
    (by decide) (by decide +kernel) (by decide) (show textOf _ .out = some "art/a.png" by decide)
    (loaded (Settings.parse_object _ (by decide) (Settings.spaced_flatten _))) (by decide) rfl rfl
    (writable _) (RenderOptions.poolStarts_of_all fun _ => rfl)
    (RenderOptions.poolStarts_of_all fun _ => rfl)

end Command

end FormulaArt
