import FormulaArt.Proofs.Command.Stages
import FormulaArt.Proofs.Decimal

/-!
# A command that times never finds a difference

A command that times renders the same picture again and again, with one strategy after the other, and holds
every frame against the very first one.  If all frames are equal, it prints a line for each strategy.  A frame
that is not like the first one stops it.  Settings that pass have one frame, whatever the strategy and the
machine, so that there is no such frame, and nothing else is left to stop the command.

## Main definitions

* `Timing.of` — the best and the total of some times
* `BenchTask.ofFrames` — renders that return given frames
* `BenchTask.Agrees` — all renders with a strategy return the same given frame
* `BenchTask.PoolsStart` — the machine starts the pools of threads that the renders ask for
* `IsTimingLine` — a line that reports so many times
* `BenchArguments.Refused`, `BenchArguments.Accepted` — whether there is something to be timed

## Main statements

* `exists_milliseconds_eq` — how a time is printed
* `IsTimingLine.exists_text` — what stands in such a line
* `BenchTask.exists_run_timed_succ`, `BenchTask.exists_run_timed` — one render, and all with a strategy
* `BenchTask.compare_none` — the first frame is the reference
* `BenchTask.exists_run_compare_cons`, `BenchTask.exists_run_compare` — one strategy, and all in their order
* `BenchTask.ofPicture_eq` — all renders of a picture return the same frame
* `exists_conclude_runBench` — how a command that times ends

## Design notes

What a comparison does is stated for renders that return any frames at all, equal or not.  This is what says
that every frame is compared: frames of a picture alone could not show it, since they never differ.
-/

namespace FormulaArt

namespace Command

/-! ### Times -/

/-- The times of renders, the latest first. -/
def Timing.of (times : List Nat) : Timing where
  best := times.min?
  total := times.sum

/-- One more time. -/
theorem Timing.add_of (times : List Nat) (time : Nat) :
    (Timing.of times).add time = Timing.of (time :: times) := by
  rw [Timing.add, Timing.of, Timing.of, List.min?_cons, List.sum_cons, Nat.add_comm]
  cases times.min? with
  | none => rfl
  | some best => rfl

/-- A time is printed as a decimal with three places.  It is the one nearest to the double that the milliseconds
come to, and its last digit is even if another one is as near. -/
theorem exists_milliseconds_eq (nanoseconds : Nat) :
    ∃ d : Decimal, d.exponent = -3 ∧
      milliseconds nanoseconds = timeLayout.withPoint (Nat.toDigits 10 d.digits) (-3) ∧
      ∀ n : Nat, let x := Binary.ofBits (seconds nanoseconds * 1000).toBits
        |x.value - d.value| ≤ |x.value - (⟨n, -3⟩ : Decimal).value| ∧
          (|x.value - d.value| = |x.value - (⟨n, -3⟩ : Decimal).value| → n ≠ d.digits →
            d.digits % 2 = 0) := by
  refine ⟨_, rfl, rfl, fun n => ?_⟩
  obtain ⟨nearest, tied⟩ :=
    (Binary.ofBits (seconds nanoseconds * 1000).toBits).toPlaces_nearest .toEven 3 n
  exact ⟨nearest, fun same other => (tied same other).1 rfl⟩

-- a sixteenth of a millisecond lies in the middle between two decimals
example : milliseconds 62500 = "0.062" := by decide +kernel

/-- A line that reports the best and the mean of so many times of a strategy. -/
def IsTimingLine (repeats : Nat) (strategy : Strategy) (line : String) : Prop :=
  ∃ times : List Nat, times.length = repeats ∧
    line = timingLine strategy (Timing.of times) (times.sum / repeats)

/-- What stands in the line of a strategy, whose name is filled up to ten letters. -/
theorem IsTimingLine.exists_text {repeats : Nat} (positive : repeats ≠ 0) {strategy : Strategy}
    {line : String} (isLine : IsTimingLine repeats strategy line) :
    ∃ (times : List Nat) (best : Nat), times.length = repeats ∧ times.min? = some best ∧
      line = padRight 10 strategy.name ++
        " best " ++ padLeft 9 (milliseconds best) ++ " ms   mean " ++
        padLeft 9 (milliseconds (times.sum / repeats)) ++ " ms\n" := by
  obtain ⟨times, length, rfl⟩ := isLine
  have some : times ≠ [] := by
    rintro rfl
    exact positive length.symm
  obtain ⟨best, least⟩ := Option.ne_none_iff_exists'.mp (mt List.min?_eq_none_iff.mp some)
  have unit : " ms" ++ "   mean " = " ms   mean " := by decide
  refine ⟨times, best, length, least, ?_⟩
  simp only [timingLine, Timing.of, least, Option.getD_some, String.append_assoc, ← unit]

variable {δ : Type} [Workspace (StateM δ)]

/-- A look at the clock. -/
theorem exists_run_now [Observed δ] (s : δ) :
    ∃ (time : UInt64) (t : δ), Observed.printed t = Observed.printed s ∧
      (Workspace.now : ExceptT CommandError (StateM δ) UInt64) s = (.ok time, t) :=
  ⟨_, _, Observed.printed_now s, run_lift_of_eq rfl⟩

/-- A text that is printed. -/
theorem exists_run_print [Observed δ] (text : String) (s : δ) :
    ∃ t : δ, Observed.printed t = Observed.printed s ++ text ∧
      (Workspace.print text : ExceptT CommandError (StateM δ) Unit) s = (.ok (), t) :=
  ⟨_, Observed.printed_print text s, run_lift_of_eq rfl⟩

/-! ### Frames that are held against a reference -/

namespace BenchTask

/-- Renders that return given frames. -/
def ofFrames (frames : Strategy → Nat → Frame) : BenchTask where
  render strategy due := .ok (frames strategy due)

@[simp]
theorem render_ofFrames (frames : Strategy → Nat → Frame) (strategy : Strategy) (due : Nat) :
    (ofFrames frames).render strategy due = .ok (frames strategy due) := rfl

/-- The last renders with a strategy, so many of them, all return a given frame. -/
def Agrees (frames : Strategy → Nat → Frame) (first : Frame) (repeats : Nat) (strategy : Strategy) : Prop :=
  ∀ due < repeats, first = frames strategy due

instance (frames : Strategy → Nat → Frame) (first : Frame) (repeats : Nat) :
    DecidablePred (Agrees frames first repeats) :=
  fun strategy => inferInstanceAs (Decidable (∀ due < repeats, first = frames strategy due))

variable {repeats : Nat} {strategy : Strategy}

theorem agrees_succ_iff {frames : Strategy → Nat → Frame} {first : Frame} {due : Nat} :
    Agrees frames first (due + 1) strategy ↔
      first = frames strategy due ∧ Agrees frames first due strategy := by
  rw [Agrees, Nat.forall_lt_succ_right, and_comm, Agrees]

/-- The first frame is as good as a reference, to which it is equal. -/
theorem timed_none {task : BenchTask} {due : Nat} {frame : Frame}
    (rendered : task.render strategy due = .ok frame) (timing : Timing) :
    (task.timed strategy (due + 1) none timing : ExceptT CommandError (StateM δ) _)
      = task.timed strategy (due + 1) (some frame) timing := by
  rw [timed, timed, rendered, orFail_ok]
  simp only [pure_bind, if_true]

/-- The first frame of all is the reference. -/
theorem compare_none (frames : Strategy → Nat → Frame) (positive : repeats ≠ 0) (strategy : Strategy)
    (strategies : List Strategy) :
    ((ofFrames frames).compare repeats (strategy :: strategies) none
        : ExceptT CommandError (StateM δ) Unit)
      = (ofFrames frames).compare repeats (strategy :: strategies) (some (frames strategy (repeats - 1))) := by
  obtain ⟨due, rfl⟩ := Nat.exists_eq_succ_of_ne_zero positive
  rw [compare, compare, timed_none rfl]
  rfl

section Compare

variable [Observed δ] (frames : Strategy → Nat → Frame) (first : Frame) (strategy : Strategy) (s : δ)

/-- A render is timed, and its frame is held against the reference.  If they differ, it was the last one. -/
theorem exists_run_timed_succ (due : Nat) (times : List Nat) :
    ∃ (time : Nat) (t : δ), Observed.printed t = Observed.printed s ∧
      ((ofFrames frames).timed strategy (due + 1) (some first) (Timing.of times)
        : ExceptT CommandError (StateM δ) _) s
      = if first = frames strategy due then
          ((ofFrames frames).timed strategy due (some first) (Timing.of (time :: times))
            : ExceptT CommandError (StateM δ) _) t
        else (.error (.differs strategy), t) := by
  obtain ⟨started, u, quiet, look⟩ := exists_run_now s
  obtain ⟨ended, t, quiet', look'⟩ := exists_run_now u
  refine ⟨(ended - started).toNat, t, quiet'.trans quiet, ?_⟩
  rw [timed, run_bind_of_ok _ look, render_ofFrames, orFail_ok, pure_bind, run_bind_of_ok _ look']
  dsimp only
  rw [Timing.add_of]
  split
  · rfl
  · rfl

/-- All renders with a strategy are timed if their frames are like the reference, and one that is not like it
is found. -/
theorem exists_run_timed (due : Nat) (times : List Nat) :
    ∃ (all : List Nat) (t : δ), Observed.printed t = Observed.printed s ∧ all.length = due + times.length ∧
      ((ofFrames frames).timed strategy due (some first) (Timing.of times)
        : ExceptT CommandError (StateM δ) _) s
      = (if Agrees frames first due strategy then .ok (some first, Timing.of all)
          else .error (.differs strategy), t) := by
  induction due generalizing times s with
  | zero =>
      have agree : Agrees frames first 0 strategy := fun due none => absurd none (Nat.not_lt_zero due)
      refine ⟨times, s, rfl, (Nat.zero_add _).symm, ?_⟩
      rw [if_pos agree]
      rfl
  | succ due ih =>
      obtain ⟨time, u, quiet, step⟩ := exists_run_timed_succ frames first strategy s due times
      obtain ⟨all, t, quiet', length, rest⟩ := ih u (time :: times)
      have total : all.length = due + 1 + times.length := by
        rw [length, List.length_cons, Nat.add_right_comm, Nat.add_assoc]
      rw [step]
      by_cases same : first = frames strategy due
      · refine ⟨all, t, quiet'.trans quiet, total, ?_⟩
        rw [if_pos same, rest]
        simp only [agrees_succ_iff, same, true_and]
      · refine ⟨all, u, quiet, total, ?_⟩
        rw [if_neg same, if_neg fun agree => same (agrees_succ_iff.mp agree).1]

/-- A strategy that agrees with the reference gets its line, and any other one stops the comparison. -/
theorem exists_run_compare_cons (positive : repeats ≠ 0) (strategies : List Strategy) :
    ∃ (line : String) (t u : δ), IsTimingLine repeats strategy line ∧
      Observed.printed t = Observed.printed s ++ line ∧ Observed.printed u = Observed.printed s ∧
      ((ofFrames frames).compare repeats (strategy :: strategies) (some first)
        : ExceptT CommandError (StateM δ) Unit) s
      = if Agrees frames first repeats strategy then
          ((ofFrames frames).compare repeats strategies (some first)
            : ExceptT CommandError (StateM δ) Unit) t
        else (.error (.differs strategy), u) := by
  obtain ⟨times, u, quiet, length, run⟩ := exists_run_timed frames first strategy s repeats []
  obtain ⟨t, printed, print⟩ :=
    exists_run_print (timingLine strategy (Timing.of times) (times.sum / repeats)) u
  refine ⟨_, t, u, ⟨times, length, rfl⟩, ?_, quiet, ?_⟩
  · rw [printed, quiet]
  · rw [compare]
    split at run
    · rw [if_pos ‹_›]
      refine (run_bind_of_ok _ run).trans ?_
      dsimp only
      rw [Timing.mean?, if_neg positive]
      exact run_bind_of_ok _ print
    · rw [if_neg ‹_›]
      exact run_bind_of_error _ run

/-- Strategies are held against a reference in their order.  Each gets its line, up to the first that does not
agree with it. -/
theorem exists_run_compare (positive : repeats ≠ 0) (strategies : List Strategy) :
    ∃ (lines : List String) (t : δ),
      List.Forall₂ (IsTimingLine repeats)
        (strategies.takeWhile fun strategy => Agrees frames first repeats strategy) lines ∧
      Observed.printed t = Observed.printed s ++ String.join lines ∧
      ((ofFrames frames).compare repeats strategies (some first)
        : ExceptT CommandError (StateM δ) Unit) s
      = (match strategies.find? fun strategy => ¬ Agrees frames first repeats strategy with
          | none => .ok ()
          | some strategy => .error (.differs strategy), t) := by
  induction strategies generalizing s with
  | nil => exact ⟨[], s, .nil, String.append_empty.symm, rfl⟩
  | cons strategy strategies ih =>
      obtain ⟨line, t, u, isLine, printed, quiet, run⟩ :=
        exists_run_compare_cons frames first strategy s positive strategies
      rw [run, List.takeWhile_cons, List.find?_cons]
      by_cases agree : Agrees frames first repeats strategy
      · obtain ⟨lines, v, areLines, printed', rest⟩ := ih t
        refine ⟨line :: lines, v, ?_, ?_, ?_⟩
        · rw [if_pos (decide_eq_true agree)]
          exact .cons isLine areLines
        · rw [printed', printed, String.join_cons, String.append_assoc]
        · rw [if_pos agree, rest]
          simp only [agree, not_true_eq_false, decide_false]
      · refine ⟨[], u, ?_, quiet.trans String.append_empty.symm, ?_⟩
        · rw [if_neg (by simpa using agree)]
          exact .nil
        · rw [if_neg agree]
          simp only [agree, not_false_eq_true, decide_true]

/-- If all renders return the same frame, both strategies get their lines. -/
theorem exists_run_compare_same (frame : Frame) (positive : repeats ≠ 0) :
    ∃ (line line' : String) (t : δ),
      IsTimingLine repeats .sequential line ∧ IsTimingLine repeats .parallel line' ∧
      Observed.printed t = Observed.printed s ++ line ++ line' ∧
      ((ofFrames fun _ _ => frame).compare repeats [.sequential, .parallel] none
        : ExceptT CommandError (StateM δ) Unit) s = (.ok (), t) := by
  have agree (strategy : Strategy) : Agrees (fun _ _ => frame) frame repeats strategy := fun _ _ => rfl
  obtain ⟨lines, t, areLines, printed, run⟩ :=
    exists_run_compare (fun _ _ => frame) frame s positive [.sequential, .parallel]
  simp only [agree, decide_true, List.takeWhile_cons, if_true, List.takeWhile_nil] at areLines
  simp only [agree, not_true_eq_false, decide_false, List.find?_cons, List.find?_nil] at run
  obtain ⟨line, _, isLine, others, rfl⟩ := List.forall₂_cons_left_iff.mp areLines
  obtain ⟨line', _, isLine', none, rfl⟩ := List.forall₂_cons_left_iff.mp others
  cases none
  refine ⟨line, line', t, isLine, isLine', ?_, ?_⟩
  · rw [printed]
    simp only [String.join_cons, String.join_nil, String.append_empty, String.append_assoc]
  · rw [compare_none _ positive, run]

end Compare

/-- The machine starts the pool of threads that each render asks for. -/
def PoolsStart (machines : Strategy → Nat → Machine) (settings : Settings) : Prop :=
  ∀ strategy due, (options settings strategy).PoolStarts (machines strategy due)
    (settings.width.toNat * settings.height.toNat)

/-- Settings that pass have one frame: all renders of their picture return it, whichever strategy is forced and
whatever the machine does meanwhile, as long as it starts the pools. -/
theorem ofPicture_eq {settings : Settings} {grid : Grid Float}
    (created : Grid.create settings.width settings.height = .ok grid) (threads : settings.threads ≠ some 0)
    {machines : Strategy → Nat → Machine} (start : PoolsStart machines settings) (trees : Channels Expr) :
    ofPicture machines trees settings
      = ofFrames fun _ _ => ⟨settings.width, settings.height, sequentialBytes grid trees⟩ := by
  refine congrArg BenchTask.mk (funext₂ fun strategy due => ?_)
  rw [fst_renderChannels _ trees threads (start strategy due), created]
  rfl

end BenchTask

/-! ### The whole command -/

/-- A command that times has nothing to do, or its settings cannot be loaded, or they do not pass. -/
def BenchArguments.Refused (arguments : BenchArguments) (s : δ) : Prop :=
  arguments.repeats = 0 ∨
    (∃ fault, loadedSettings s arguments.picture.config = .error fault) ∨
    ∃ (file : Settings) (fault : Fault Float),
      loadedSettings s arguments.picture.config = .ok file ∧
      (arguments.picture.override file).validate = .error fault

/-- A command that times has something to do, and its settings are loaded and pass. -/
def BenchArguments.Accepted (arguments : BenchArguments) (s : δ) (settings : Settings) : Prop :=
  arguments.repeats ≠ 0 ∧ ∃ file, loadedSettings s arguments.picture.config = .ok file ∧
    arguments.picture.override file = settings ∧
    (settings.validate : Except (Fault Float) Unit) = .ok ()

theorem BenchArguments.refused_or_accepted (arguments : BenchArguments) (s : δ) :
    arguments.Refused s ∨ ∃ settings, arguments.Accepted s settings := by
  by_cases none : arguments.repeats = 0
  · exact .inl (.inl none)
  cases loaded : loadedSettings s arguments.picture.config with
  | error fault => exact .inl (.inr (.inl ⟨fault, loaded⟩))
  | ok file =>
      cases checked : ((arguments.picture.override file).validate : Except (Fault Float) Unit) with
      | error fault => exact .inl (.inr (.inr ⟨file, fault, loaded, checked⟩))
      | ok _ => exact .inr ⟨_, none, file, loaded, rfl, checked⟩

section Bench

variable [Observed δ] {arguments : BenchArguments} {s : δ}

/-- A refused command stops and leaves the world as it was. -/
theorem run_runBench_of_refused (machines : Strategy → Nat → Machine) (refused : arguments.Refused s) :
    ∃ e, (runBench machines arguments : ExceptT CommandError (StateM δ) Unit) s = (.error e, s) := by
  rw [runBench]
  by_cases none : arguments.repeats = 0
  · rw [if_pos none]
    exact ⟨_, run_bind_of_error _ rfl⟩
  · rw [if_neg none]
    exact exists_run_settings_eq_error (refused.resolve_left none) _

/-- A command whose settings pass builds its formulas and prints what is timed.  What is left of it is the
comparison of its strategies. -/
theorem exists_run_runBench {settings : Settings} (accepted : arguments.Accepted s settings) :
    ∃ (trees : Channels Expr) (frame : Frame) (t : δ),
      formulas settings.range (settings.seed.getD ((Workspace.now : StateM δ UInt64) s).1) = .ok trees ∧
      Observed.printed t = Observed.printed s ++ benchHeader settings
        (settings.seed.getD ((Workspace.now : StateM δ UInt64) s).1) arguments.repeats ∧
      ∀ machines : Strategy → Nat → Machine, BenchTask.PoolsStart machines settings →
        BenchTask.ofPicture machines trees settings = BenchTask.ofFrames (fun _ _ => frame) ∧
        (runBench machines arguments : ExceptT CommandError (StateM δ) Unit) s
          = ((BenchTask.ofPicture machines trees settings).compare arguments.repeats.toNat
              [.sequential, .parallel] none : ExceptT CommandError (StateM δ) Unit) t := by
  obtain ⟨some, file, loaded, effective, passed⟩ := accepted
  obtain ⟨u, -, quiet, seedRun⟩ := exists_run_seedOf settings s
  generalize settings.seed.getD ((Workspace.now : StateM δ UInt64) s).1 = seed at *
  obtain ⟨trees, grid, built, created, threads⟩ := exists_formulas_create passed seed
  obtain ⟨t, printed, print⟩ := exists_run_print (benchHeader settings seed arguments.repeats) u
  rw [quiet] at printed
  refine ⟨trees, ⟨settings.width, settings.height, sequentialBytes grid trees⟩, t, built, printed,
    fun machines start => ⟨BenchTask.ofPicture_eq created threads start trees, ?_⟩⟩
  rw [runBench, if_neg some]
  dsimp only
  rw [run_bind_of_ok _ (run_effectiveSettings_of_ok loaded), effective, passed,
    orFail_ok, pure_bind, run_bind_of_ok _ seedRun, built, orFail_ok, pure_bind, run_bind_of_ok _ print]

/-- **No difference is ever reported.**  If a command that times has nothing to do, or its settings cannot be
loaded or do not pass, it ends with exit code 1 and has printed nothing.  If they pass, and the machine starts
the pools of threads that they ask for, all renders return one and the same frame, whatever the machine does at
each of them, and the command ends with exit code 0 and has printed the header and one line for each strategy, in
this order, with the best and the mean of all its times.  The comparison misses no frame: whichever frames the
renders return, they are held against the first of all, and the first strategy with a frame that differs from it
stops the command. -/
theorem exists_conclude_runBench (arguments : BenchArguments) (s : δ) :
    (∀ (machine : Machine) (words : List String), Invocation.parse words = .ok (.bench arguments) →
      (run machine words : StateM δ UInt32) s
        = (conclude (runBench (fun _ _ => machine) arguments) : StateM δ UInt32) s) ∧
    (arguments.Refused s ∨ ∃ settings, arguments.Accepted s settings) ∧
    (arguments.Refused s → ∀ machines : Strategy → Nat → Machine,
      ∃ t, (conclude (runBench machines arguments) : StateM δ UInt32) s = (1, t) ∧
        Observed.printed t = Observed.printed s) ∧
    (∀ settings, arguments.Accepted s settings →
      ∃ (trees : Channels Expr) (frame : Frame) (seed : UInt64) (u : δ),
        seed = settings.seed.getD ((Workspace.now : StateM δ UInt64) s).1 ∧
        formulas settings.range seed = .ok trees ∧
        Observed.printed u = Observed.printed s ++
          (s!"{settings.width}x{settings.height} px, depth {settings.minDepth}..{settings.maxDepth}, " ++
            s!"seed {seed}, {arguments.repeats} repeats\n") ∧
        ∀ machines : Strategy → Nat → Machine, BenchTask.PoolsStart machines settings →
          (∀ strategy due, (BenchTask.ofPicture machines trees settings).render strategy due = .ok frame) ∧
          (runBench machines arguments : ExceptT CommandError (StateM δ) Unit) s
            = ((BenchTask.ofPicture machines trees settings).compare arguments.repeats.toNat
                [.sequential, .parallel] none : ExceptT CommandError (StateM δ) Unit) u ∧
          ∃ (times times' : List Nat) (best best' : Nat) (t : δ),
            times.length = arguments.repeats.toNat ∧ times.min? = some best ∧
            times'.length = arguments.repeats.toNat ∧ times'.min? = some best' ∧
            (conclude (runBench machines arguments) : StateM δ UInt32) s = (0, t) ∧
            Observed.printed t = Observed.printed u ++
              ("sequential best " ++ padLeft 9 (milliseconds best) ++ " ms   mean " ++
                padLeft 9 (milliseconds (times.sum / arguments.repeats.toNat)) ++ " ms\n") ++
              ("parallel   best " ++ padLeft 9 (milliseconds best') ++ " ms   mean " ++
                padLeft 9 (milliseconds (times'.sum / arguments.repeats.toNat)) ++ " ms\n")) ∧
    ∀ (frames : Strategy → Nat → Frame) (repeats : Nat), repeats ≠ 0 → ∀ u : δ,
      (((BenchTask.ofFrames frames).compare repeats [.sequential, .parallel] none
        : ExceptT CommandError (StateM δ) Unit) u).1
      = match [Strategy.sequential, .parallel].find? fun strategy =>
            ¬ BenchTask.Agrees frames (frames .sequential (repeats - 1)) repeats strategy with
        | none => .ok ()
        | some strategy => .error (.differs strategy) := by
  refine ⟨?_, arguments.refused_or_accepted s, ?_, ?_, ?_⟩
  · intro machine words parsed
    rw [run, parsed]
  · intro refused machines
    obtain ⟨e, stopped⟩ := run_runBench_of_refused machines refused
    exact ⟨_, run_conclude stopped, Observed.printed_report _ s⟩
  · intro settings accepted
    have positive : arguments.repeats.toNat ≠ 0 := fun none => accepted.1 (UInt32.toNat_inj.mp none)
    obtain ⟨trees, frame, u, built, header, rest⟩ := exists_run_runBench accepted
    refine ⟨trees, frame, _, u, rfl, built, header, fun machines start => ?_⟩
    obtain ⟨same, ran⟩ := rest machines start
    obtain ⟨line, line', t, isLine, isLine', printed, compared⟩ :=
      BenchTask.exists_run_compare_same u frame positive
    rw [← same, ← ran] at compared
    obtain ⟨times, best, length, least, text⟩ := isLine.exists_text positive
    obtain ⟨times', best', length', least', text'⟩ := isLine'.exists_text positive
    refine ⟨fun strategy due => ?_, ran, times, times', best, best', t, length, least, length', least',
      run_conclude compared, ?_⟩
    · rw [same]
      rfl
    · rw [printed, text, text']
      rfl
  · intro frames repeats positive u
    obtain ⟨lines, t, -, -, ran⟩ := BenchTask.exists_run_compare frames
      (frames .sequential (repeats - 1)) u positive [.sequential, .parallel]
    rw [BenchTask.compare_none frames positive, ran]

/-- Two command lines on a desk: one that asks for no renders, and one that asks for two renders with each
strategy on three threads.  How a time stands in their lines.  And frames that are not all equal: the last one of
the parallel strategy is another one. -/
theorem exists_conclude_runBench_two_by_one :
    (∃ t : Desk, (run { workers := 8, schedule := [] } ["bench", "--repeats=0"] : StateM Desk UInt32) {}
      = (1, t) ∧ t.printed = "") ∧
    (∃ (times times' : List Nat) (best best' : Nat) (t : Desk),
      times.length = 2 ∧ times.min? = some best ∧ times'.length = 2 ∧ times'.min? = some best' ∧
      (run
          { workers := 8, schedule := [.blue, .red],
            poolError? := fun n => if n ≤ 8 then none else some "no threads" }
          ["bench", "--width=2", "--height", "1", "--min-depth", "-5", "--max-depth=2", "--seed=7",
            "--repeats", "2", "--threads=3"] : StateM Desk UInt32) {} = (0, t) ∧
      t.printed = "2x1 px, depth -5..2, seed 7, 2 repeats\n" ++
        ("sequential best " ++ padLeft 9 (milliseconds best) ++ " ms   mean " ++
          padLeft 9 (milliseconds (times.sum / 2)) ++ " ms\n") ++
        ("parallel   best " ++ padLeft 9 (milliseconds best') ++ " ms   mean " ++
          padLeft 9 (milliseconds (times'.sum / 2)) ++ " ms\n")) ∧
    padLeft 9 (milliseconds 1062500) = "    1.062" ∧
    (((BenchTask.ofFrames fun strategy due =>
        if strategy = .parallel ∧ due = 0 then ⟨1, 1, #[0, 0, 1]⟩ else ⟨1, 1, #[0, 0, 0]⟩).compare 2
          [.sequential, .parallel] none : ExceptT CommandError (StateM Desk) Unit) {}).1
      = .error (.differs .parallel) := by
  refine ⟨?_, ?_⟩
  · obtain ⟨ran, -, refused, -⟩ := exists_conclude_runBench { repeats := 0 } ({} : Desk)
    obtain ⟨t, ended, quiet⟩ := refused (.inl rfl) _
    exact ⟨t, (ran _ _ (by decide +kernel)).trans ended, quiet⟩
  · obtain ⟨ran, -, -, success, compared⟩ := exists_conclude_runBench
      { picture :=
          { width := some 2, height := some 1, minDepth := some (-5), maxDepth := some 2, seed := some 7,
            threads := some 3 },
        repeats := 2 } ({} : Desk)
    obtain ⟨trees, frame, seed, u, named, -, header, all⟩ :=
      success { width := 2, height := 1, minDepth := -5, maxDepth := 2, seed := some 7, threads := some 3 }
        ⟨by decide, Settings.default, rfl, rfl, rfl⟩
    obtain rfl : seed = 7 := named
    obtain ⟨-, -, times, times', best, best', t, length, least, length', least', ended, printed⟩ :=
      all (fun _ _ =>
        { workers := 8, schedule := [.blue, .red],
          poolError? := fun n => if n ≤ 8 then none else some "no threads" }) (by
        rintro strategy due - _ ⟨⟩ -
        rfl)
    refine ⟨⟨times, times', best, best', t, length, least, length', least',
      (ran _ _ (by decide +kernel)).trans ended, ?_⟩, by decide +kernel, ?_⟩
    · refine printed.trans ?_
      rw [header]
      rfl
    · exact compared _ 2 (by decide) {}

end Bench

end Command

end FormulaArt
