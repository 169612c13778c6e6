import FormulaArt.Proofs.Frame
import FormulaArt.Proofs.Grid
import FormulaArt.Proofs.Render.Interleaving

/-!
# What a render returns

A render of accepted options is a function of the formulas and of the size: neither the strategy, nor
the number of workers, nor the order in which parallel tasks make their steps shows in the frame.
The frame has the levels of the three formulas at the place of each pixel.  What the machine can still
spoil is the pool of threads: a parallel render whose threads are counted starts one for itself.

## Main definitions

* `RenderOptions.PoolStarts` — the machine starts the pool that a render asks for

## Main statements

* `Machine.startPool_eq_error_iff` — when a pool cannot be started, and with which fault
* `renderChannels_of_accepted`, `renderChannels_of_create` — the result of a render, in closed form
* `exists_renderChannels_eq_error_of_not_poolStarts` — a render without its pool
* `fst_renderChannels_eq` — any two accepted renders return the same frame
* `pixel_renderChannels` — the pixels of the frame

## Design notes

The statements are over any `Scalar`, without a law.  All that a law could decide is whether the grid
exists, that is, whether the integers on an axis compare as different; over doubles they do
(`Grid.exists_create_double`), so there the render is shown to return a frame.  Sizes are natural
numbers throughout, and no bound on them is needed.  Memory is idealised with them: the arrays of a
picture grow as long as its size asks for, where a program that runs in an address space would stop once
it needs more bytes than half of that space.
-/

namespace FormulaArt

/-! ### The pool of a render -/

section Pool

variable {α : Type}

/-- A pool is not started if a strategy asks for one that the machine has no threads for. -/
theorem Machine.startPool_eq_error_iff {machine : Machine} {strategy : Strategy}
    {threads : Option UInt64} {fault : Fault α} :
    machine.startPool strategy threads = .error fault ↔
      strategy = .parallel ∧ ∃ n words, threads = some n ∧ machine.poolError? n = some words ∧
        fault = .other ("failed to build rayon thread pool: " ++ words) := by
  constructor
  · intro failed
    unfold startPool at failed
    split at failed
    · split at failed
      · cases failed
      · rename_i n _ words refused
        cases failed
        exact ⟨rfl, n, words, rfl, refused, rfl⟩
    · cases failed
  · rintro ⟨rfl, n, words, rfl, refused, rfl⟩
    simp only [startPool, refused]
    rfl

namespace RenderOptions

/-- The machine starts the pool of threads that a render of so many pixels asks for.  A render asks for
a pool of its own if it is parallel and its threads are counted. -/
def PoolStarts (options : RenderOptions) (machine : Machine) (pixels : Nat) : Prop :=
  options.strategyFor machine pixels = .parallel →
    ∀ n, options.threads = some n → n ≠ 0 → machine.poolError? n = none

variable {options : RenderOptions} {machine : Machine} {pixels : Nat}

theorem PoolStarts.startPool (starts : options.PoolStarts machine pixels)
    (accepted : options.threads ≠ some 0) :
    (machine.startPool (options.strategyFor machine pixels) options.threads : Except (Fault α) Unit)
      = .ok () := by
  cases started : (machine.startPool (options.strategyFor machine pixels) options.threads
      : Except (Fault α) Unit) with
  | ok _ => rfl
  | error fault =>
      obtain ⟨parallel, n, words, counted, refused, -⟩ := Machine.startPool_eq_error_iff.mp started
      have positive : n ≠ 0 := by
        rintro rfl
        exact accepted counted
      rw [starts parallel n counted positive] at refused
      cases refused

/-- A machine that starts every pool starts the one that a render asks for. -/
theorem poolStarts_of_all (all : ∀ n, machine.poolError? n = none) : options.PoolStarts machine pixels :=
  fun _ n _ _ => all n

end RenderOptions

end Pool

variable {α : Type} [Scalar α]

/-- The pixel of three formulas at a place. -/
def Channels.color (trees : Channels Expr) (p : Point α) : Rgb where
  red := level (trees.red.eval p)
  green := level (trees.green.eval p)
  blue := level (trees.blue.eval p)

/-! ### The bytes of a picture -/

/-- The bytes of a picture are those of its pixels, one after the other. -/
theorem toList_sequentialBytes (g : Grid α) (trees : Channels Expr) :
    (sequentialBytes g trees).toList = (g.coords.map trees.color).flatMap Rgb.toBytes := by
  -- the loop starts from no bytes; the induction has to start from any
  have loop : ∀ (places : List (Point α)) (data : Array UInt8),
      (places.foldl (fun data p =>
          pushLevels data (trees.red.eval p) (trees.green.eval p) (trees.blue.eval p)) data).toList
        = data.toList ++ (places.map trees.color).flatMap Rgb.toBytes := by
    intro places
    induction places with
    | nil => intro data; simp
    | cons p places ih =>
        intro data
        rw [List.foldl_cons, ih, List.map_cons, List.flatMap_cons, ← List.append_assoc]
        congr 1
        simp [pushLevels, Channels.color, Rgb.toBytes]
  exact loop g.coords #[]

theorem size_sequentialBytes (g : Grid α) (trees : Channels Expr) :
    (sequentialBytes g trees).size = g.size * 3 := by
  rw [← Array.length_toList, toList_sequentialBytes, Rgb.length_flatMap_toBytes, List.length_map,
    Grid.length_coords]

/-! ### The result of a render -/

/-- A render of accepted options starts the pool that it asks for, and then returns the bytes of the
loop over the pixels, and reports the strategy that was forced or chosen. -/
theorem renderChannels_of_accepted (machine : Machine) (trees : Channels Expr)
    {width height : UInt32} {options : RenderOptions} (accepted : options.threads ≠ some 0)
    {g : Grid α} (created : Grid.create width height = .ok g) :
    (renderChannels machine trees width height options : Except (Fault α) _)
      = (machine.startPool (options.strategyFor machine g.size) options.threads).map fun _ =>
          (⟨width, height, sequentialBytes g trees⟩,
            ⟨options.strategyFor machine g.size, g.size, options.workers machine⟩) := by
  obtain ⟨nonempty, -, -, hw, hh⟩ := Grid.create_eq_ok_iff.mp created
  -- the bytes are as many as the size asks for, so the frame accepts them
  have size : (sequentialBytes g trees).size = bytesFor width height := by
    rw [size_sequentialBytes, Grid.size, hw, hh, bytesFor]
  have frame : (Frame.ofBytes width height (sequentialBytes g trees) : Except (Fault α) Frame)
      = .ok ⟨width, height, sequentialBytes g trees⟩ :=
    Frame.ofBytes_eq_ok_iff.mpr ⟨nonempty, size, rfl⟩
  rw [renderChannels, created]
  simp only [bind, Except.bind, if_neg accepted, pictureBytes_eq_sequentialBytes, pure, Except.pure,
    frame]
  rfl

/-- The result of a render of accepted options whose pool starts. -/
theorem renderChannels_of_create (machine : Machine) (trees : Channels Expr)
    {width height : UInt32} {options : RenderOptions} (accepted : options.threads ≠ some 0)
    (starts : options.PoolStarts machine (width.toNat * height.toNat)) {g : Grid α}
    (created : Grid.create width height = .ok g) :
    (renderChannels machine trees width height options : Except (Fault α) _)
      = .ok (⟨width, height, sequentialBytes g trees⟩,
          ⟨options.strategyFor machine g.size, g.size, options.workers machine⟩) := by
  obtain ⟨-, -, -, hw, hh⟩ := Grid.create_eq_ok_iff.mp created
  have starts : options.PoolStarts machine g.size := by
    rwa [Grid.size, hw, hh]
  rw [renderChannels_of_accepted machine trees accepted created, starts.startPool accepted]
  rfl

/-- A render of accepted options fails for want of the pool that it asks for, and says why. -/
theorem exists_renderChannels_eq_error_of_not_poolStarts (machine : Machine) (trees : Channels Expr)
    {width height : UInt32} {options : RenderOptions} (accepted : options.threads ≠ some 0)
    (fails : ¬ options.PoolStarts machine (width.toNat * height.toNat)) {g : Grid α}
    (created : Grid.create width height = .ok g) :
    ∃ n words, options.threads = some n ∧ machine.poolError? n = some words ∧
      (renderChannels machine trees width height options : Except (Fault α) _)
        = .error (.other ("failed to build rayon thread pool: " ++ words)) := by
  obtain ⟨-, -, -, hw, hh⟩ := Grid.create_eq_ok_iff.mp created
  simp only [RenderOptions.PoolStarts, Classical.not_imp, not_forall] at fails
  obtain ⟨parallel, n, counted, -, refused⟩ := fails
  obtain ⟨words, refused⟩ := Option.ne_none_iff_exists'.mp refused
  have failed : (machine.startPool (options.strategyFor machine g.size) options.threads
      : Except (Fault α) Unit) = .error (.other ("failed to build rayon thread pool: " ++ words)) := by
    rw [Grid.size, hw, hh]
    exact Machine.startPool_eq_error_iff.mpr ⟨parallel, n, words, counted, refused, rfl⟩
  refine ⟨n, words, counted, refused, ?_⟩
  rw [renderChannels_of_accepted machine trees accepted created, failed]
  rfl

/-- Options that ask for no threads at all are refused, once the grid is there. -/
theorem renderChannels_of_noThreads (machine : Machine) (trees : Channels Expr)
    {width height : UInt32} {options : RenderOptions} (none : options.threads = some 0)
    {g : Grid α} (created : Grid.create width height = .ok g) :
    (renderChannels machine trees width height options : Except (Fault α) _)
      = .error (.validation .optionThreads) := by
  rw [renderChannels, created]
  simp only [bind, Except.bind, if_pos none]
  rfl

/-- The frame of a render of accepted options whose pool starts, with nothing left of the options and
the machine. -/
theorem fst_renderChannels (machine : Machine) (trees : Channels Expr) {width height : UInt32}
    {options : RenderOptions} (accepted : options.threads ≠ some 0)
    (starts : options.PoolStarts machine (width.toNat * height.toNat)) :
    (renderChannels machine trees width height options : Except (Fault α) _).map Prod.fst
      = (Grid.create width height).map fun g => ⟨width, height, sequentialBytes g trees⟩ := by
  cases created : (Grid.create width height : Except (Fault α) (Grid α)) with
  | error e =>
      rw [renderChannels, created]
      rfl
  | ok g =>
      rw [renderChannels_of_create machine trees accepted starts created]
      rfl

/-! ### Strategies -/

/-- **The strategy does not show in the frame.**  Two renders of the same formulas at the same size
return the same frame, whichever strategies are forced or chosen, whatever the numbers of workers and
threads, and however the parallel tasks are interleaved, as long as the pools of threads that they ask
for start; over doubles they do return one.  The last clause is the parallel strategy by itself: once a
schedule has given each task all its steps, the vectors hold the bytes of the loop over the pixels. -/
theorem fst_renderChannels_eq (trees : Channels Expr) {width height : UInt32} (hw : width ≠ 0)
    (hh : height ≠ 0) (machine₁ machine₂ : Machine) {options₁ options₂ : RenderOptions}
    (accepted₁ : options₁.threads ≠ some 0) (accepted₂ : options₂.threads ≠ some 0)
    (starts₁ : options₁.PoolStarts machine₁ (width.toNat * height.toNat))
    (starts₂ : options₂.PoolStarts machine₂ (width.toNat * height.toNat)) :
    (renderChannels machine₁ trees width height options₁ : Except (Fault α) _).map Prod.fst
        = (renderChannels machine₂ trees width height options₂).map Prod.fst ∧
      (∃ frame,
        (renderChannels machine₁ trees width height options₁ : Except (Fault Float) _).map Prod.fst
          = .ok frame) ∧
      ∀ (g : Grid α) (schedule : Schedule), (∀ c, g.size ≤ schedule.count c) →
        Tasks.Done (Tasks.run schedule (Tasks.start g.coords trees)) ∧
        interleave ((Tasks.run schedule (Tasks.start g.coords trees)).map Task.values)
          = sequentialBytes g trees := by
  refine ⟨?_, ?_, ?_⟩
  · rw [fst_renderChannels machine₁ trees accepted₁ starts₁,
      fst_renderChannels machine₂ trees accepted₂ starts₂]
  · obtain ⟨g, created⟩ := Grid.exists_create_double hw hh
    rw [fst_renderChannels machine₁ trees accepted₁ starts₁, created]
    exact ⟨_, rfl⟩
  · intro g schedule complete
    have done : Tasks.Done (Tasks.run schedule (Tasks.start g.coords trees)) := by
      rw [Tasks.done_run_iff, Grid.length_coords]
      exact complete
    refine ⟨done, ?_⟩
    rw [← Tasks.join_of_done done]
    exact parallelBytes_eq_sequentialBytes schedule g trees

/-- A parallel render, whose tasks start in the order blue, green, red, against an automatic one.  The
machine of the first starts pools of up to eight threads, and that of the second starts none. -/
theorem fst_renderChannels_eq_two_by_one :
    ((2 : UInt32) ≠ 0 ∧ (1 : UInt32) ≠ 0 ∧ (some 3 : Option UInt64) ≠ some 0 ∧
      (none : Option UInt64) ≠ some 0) ∧
    (renderChannels
        { workers := 8, schedule := [.blue, .green, .red, .red],
          poolError? := fun n => if n ≤ 8 then none else some "no threads" }
        ⟨.coordinate .x, .coordinate .y, .unary .tanh (.coordinate .x)⟩ 2 1
        { strategy := some .parallel, threads := some 3 } : Except (Fault Float) _).map Prod.fst
      = (renderChannels { workers := 1, schedule := [], poolError? := fun _ => some "no threads" }
        ⟨.coordinate .x, .coordinate .y, .unary .tanh (.coordinate .x)⟩ 2 1 {}).map Prod.fst := by
  refine ⟨⟨by decide, by decide, by decide, by decide⟩,
    (fst_renderChannels_eq _ (by decide) (by decide) _ _ (by decide) (by decide) ?_ ?_).1⟩
  · rintro - _ ⟨⟩ -
    rfl
  · intro _ n counted
    cases counted

/-! ### Pixels -/

/-- **The pixels of a render.**  A render of accepted options whose pool starts returns a frame of the
asked size, and the pixel in column `x` and row `y` has the levels of the three formulas at the place
whose components are the coordinates of `x` and of `y`.  That place stands at position `y * width + x` of
the grid, and so does its value among the values of any formula. -/
theorem pixel_renderChannels (machine : Machine) (trees : Channels Expr) {width height : UInt32}
    (hw : width ≠ 0) (hh : height ≠ 0) {options : RenderOptions}
    (accepted : options.threads ≠ some 0)
    (starts : options.PoolStarts machine (width.toNat * height.toNat)) :
    (∃ g : Grid Float, Grid.create width height = .ok g) ∧
    ∀ g : Grid α, Grid.create width height = .ok g →
      ∃ frame stats,
        (renderChannels machine trees width height options : Except (Fault α) _)
          = .ok (frame, stats) ∧
        frame.width = width ∧ frame.height = height ∧
        frame.data.size = 3 * width.toNat * height.toNat ∧
        g.coords.length = width.toNat * height.toNat ∧
        (∀ e, ∃ values : Array α, evaluateGrid e width height = .ok values ∧
          values.size = width.toNat * height.toNat) ∧
        ∀ x y, x < width → y < height → ∃ c : Point α,
          pixelCoordinate x width = .ok c.x ∧ pixelCoordinate y height = .ok c.y ∧
          frame.pixel x y = .found
            ⟨level (trees.red.eval c), level (trees.green.eval c), level (trees.blue.eval c)⟩ ∧
          g.coords[y.toNat * width.toNat + x.toNat]? = some c ∧
          ∀ (e : Expr) (values : Array α), evaluateGrid e width height = .ok values →
            values[y.toNat * width.toNat + x.toNat]? = some (e.eval c) := by
  refine ⟨Grid.exists_create_double hw hh, ?_⟩
  intro g created
  obtain ⟨-, -, -, rfl, rfl⟩ := Grid.create_eq_ok_iff.mp created
  refine ⟨_, _, renderChannels_of_create machine trees accepted starts created, rfl, rfl, ?_,
    g.length_coords, ?_, ?_⟩
  · show (sequentialBytes g trees).size = _
    rw [size_sequentialBytes, Grid.size, Nat.mul_comm, Nat.mul_assoc]
  · intro e
    exact ⟨_, evaluateGrid_of_create e created, g.size_evaluate e⟩
  · intro x y hx hy
    obtain ⟨column, row⟩ := Grid.pixelCoordinate_coord created x y
    refine ⟨g.coord x y, column, row, ?_, g.getElem?_coords hx hy, ?_⟩
    · refine Frame.pixel_eq_found hx hy ?_
      rw [Frame.pixels, toList_sequentialBytes, Rgb.ofBytes_flatMap_toBytes, List.getElem?_map,
        g.getElem?_coords hx hy]
      rfl
    · intro e values evaluated
      rw [evaluateGrid_of_create e created, Except.ok.injEq] at evaluated
      rw [← evaluated]
      exact g.getElem?_evaluate e hx hy

/-- The pixel in the second column and third row of a picture of two columns and three rows. -/
theorem pixel_renderChannels_two_by_three :
    ((2 : UInt32) ≠ 0 ∧ (3 : UInt32) ≠ 0 ∧ (some 1 : Option UInt64) ≠ some 0) ∧
    ∃ (frame : Frame) (stats : RenderStats) (c : Point Float),
      (renderChannels { workers := 4, schedule := [.green] }
          ⟨.coordinate .x, .coordinate .y, .unary .cosPi (.coordinate .y)⟩ 2 3
          { strategy := some .parallel, threads := some 1 } : Except (Fault Float) _)
        = .ok (frame, stats) ∧
      pixelCoordinate 1 2 = .ok c.x ∧ pixelCoordinate 2 3 = .ok c.y ∧
      frame.pixel 1 2 = .found ⟨level c.x, level c.y, level (UnaryKind.cosPi.apply c.y)⟩ := by
  refine ⟨⟨by decide, by decide, by decide⟩, ?_⟩
  obtain ⟨⟨g, created⟩, all⟩ := @pixel_renderChannels Float _ { workers := 4, schedule := [.green] }
    ⟨.coordinate .x, .coordinate .y, .unary .cosPi (.coordinate .y)⟩ 2 3 (by decide) (by decide)
    { strategy := some .parallel, threads := some 1 } (by decide)
    (RenderOptions.poolStarts_of_all fun _ => rfl)
  obtain ⟨frame, stats, returned, -, -, -, -, -, pixels⟩ := all g created
  obtain ⟨c, column, row, color, -, -⟩ := pixels 1 2 (by decide) (by decide)
  exact ⟨frame, stats, c, returned, column, row, color⟩

end FormulaArt
