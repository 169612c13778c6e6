import FormulaArt.Proofs.Render.Random

/-!
# Which ranges of depths are refused

A range of depths is looked at twice.  It is refused if it is upside down as it was given, and only then are
its bounds raised to at least one.  The order matters: a range that is upside down below one would be in order
after the bounds are raised, and the bounds that are reported would be others.  The builder of a formula looks
at the range in this order, and this module shows that nothing changes that on the way up, through the build of
the channels, which looks at it three times, to the render, which looks at other things before and after.

## Main definitions

* `AcceptsOrdered` — a request that blames no range in order, and sees only its raised bounds
* `JudgesAsGiven` — a request that, moreover, refuses a range that is upside down

## Main statements

* `AcceptsOrdered.bind`, `JudgesAsGiven.bind` — one request after another
* `Expr.judgesAsGiven_build`, `Channels.judgesAsGiven_build`, `judgesAsGiven_renderRandom` — the three requests
* `judgesAsGiven_and_eq_of_raised` — all of them, and ranges that cannot be told apart

## Design notes

What a request makes of a range in order is an equation between computations and not between results.  It
therefore covers all states of the source at once, those from which the source strays from the table of
operators included.
-/

namespace FormulaArt

variable {α σ β γ : Type}

/-- A request for something within a range of depths has no objection to a range that is in order, and makes no
difference between its bounds and the same bounds raised to at least one. -/
structure AcceptsOrdered (request : DepthRange → ExceptT (Fault α) (StateM σ) β) : Prop where
  /-- A failure has another cause than the range. -/
  blameless {range : DepthRange} (ordered : range.min ≤ range.max) {s : σ} {fault : Fault α}
    (failed : (request range s).1 = .error fault) : fault.kind ≠ .depthRange
  /-- Nothing but the raised bounds counts. -/
  raises {range : DepthRange} (ordered : range.min ≤ range.max) : request range = request range.raised

/-- A request for something within a range of depths judges the range as it is given: it refuses one that is
upside down, and no other. -/
structure JudgesAsGiven (request : DepthRange → ExceptT (Fault α) (StateM σ) β) : Prop
    extends AcceptsOrdered request where
  /-- A range that is upside down is reported with the bounds as given, before anything is drawn. -/
  refuses {range : DepthRange} (upsideDown : range.max < range.min) (s : σ) :
    request range s = (.error (.depthRange range.min range.max), s)

namespace AcceptsOrdered

variable {request : DepthRange → ExceptT (Fault α) (StateM σ) β}

/-- Two ranges in order with the same raised bounds cannot be told apart. -/
theorem eq_of_raised_eq (accepts : AcceptsOrdered request) {range range' : DepthRange}
    (ordered : range.min ≤ range.max) (ordered' : range'.min ≤ range'.max)
    (same : range.raised = range'.raised) : request range = request range' := by
  rw [accepts.raises ordered, same, ← accepts.raises ordered']

/-- A computation that does not look at the range, and fails for other causes. -/
theorem const {m : ExceptT (Fault α) (StateM σ) β}
    (causes : ∀ s fault, (m s).1 = .error fault → fault.kind ≠ .depthRange) :
    AcceptsOrdered fun _ => m where
  blameless _ := causes _ _
  raises _ := rfl

theorem bind {next : β → DepthRange → ExceptT (Fault α) (StateM σ) γ}
    (first : AcceptsOrdered request) (others : ∀ b, AcceptsOrdered (next b)) :
    AcceptsOrdered fun range => request range >>= fun b => next b range where
  blameless := by
    intro range ordered s fault failed
    rcases of_run_bind_eq_error failed with failed | ⟨b, t, failed⟩
    · exact first.blameless ordered failed
    · exact (others b).blameless ordered failed
  raises := by
    intro range ordered
    show (request range >>= fun b => next b range) = request range.raised >>= fun b => next b range.raised
    rw [first.raises ordered]
    exact bind_congr fun b => (others b).raises ordered

end AcceptsOrdered

/-- Whatever follows a request, the range is judged when the request is made. -/
theorem JudgesAsGiven.bind {request : DepthRange → ExceptT (Fault α) (StateM σ) β}
    {next : β → DepthRange → ExceptT (Fault α) (StateM σ) γ} (first : JudgesAsGiven request)
    (others : ∀ b, AcceptsOrdered (next b)) :
    JudgesAsGiven fun range => request range >>= fun b => next b range where
  toAcceptsOrdered := first.toAcceptsOrdered.bind others
  refuses upsideDown s := run_bind_of_error _ (first.refuses upsideDown s)

/-! ### The three requests -/

section Requests

variable [RandomSource σ]

/-- What ends a growth is never the range. -/
theorem Expr.judgesAsGiven_build :
    JudgesAsGiven (build : DepthRange → ExceptT (Fault α) (StateM σ) Expr) where
  blameless := by
    intro range ordered s fault failed
    rw [build, if_neg (Int32.not_lt.mpr ordered)] at failed
    obtain ⟨stray, -, rfl⟩ := of_run_adapt_eq_error failed
    intro blamed
    cases blamed
  raises := by
    intro range ordered
    have ordered' := DepthRange.min_raised_le_max_raised ordered
    rw [build, build, if_neg (Int32.not_lt.mpr ordered), if_neg (Int32.not_lt.mpr ordered'),
      range.least_raised, range.greatest_raised]
  refuses := build_of_lt

theorem Channels.judgesAsGiven_build :
    JudgesAsGiven (build : DepthRange → ExceptT (Fault α) (StateM σ) (Channels Expr)) := by
  have formula := Expr.judgesAsGiven_build (α := α) (σ := σ)
  refine formula.bind fun red => ?_
  -- the two further builds look at a range that the first has accepted
  refine formula.toAcceptsOrdered.bind fun green => formula.toAcceptsOrdered.bind fun blue => ?_
  refine .const ?_
  intro s fault failed
  cases failed

variable [Scalar α]

/-- Neither the size nor the options nor the machine are a reason to blame the range, whatever the
scalars. -/
theorem kind_of_renderChannels_eq_error {machine : Machine} {trees : Channels Expr}
    {width height : UInt32} {options : RenderOptions} {fault : Fault α}
    (failed : renderChannels machine trees width height options = .error fault) :
    fault.kind ≠ .depthRange := by
  cases created : (Grid.create width height : Except (Fault α) (Grid α)) with
  | error cause =>
      rw [renderChannels, created] at failed
      cases failed
      rcases Grid.kind_of_create_eq_error created with kind | kind
      · rw [kind]
        decide
      · rw [kind]
        decide
  | ok g =>
      by_cases none : options.threads = some 0
      · rw [renderChannels_of_noThreads machine trees none created] at failed
        cases failed
        intro blamed
        cases blamed
      · rw [renderChannels_of_accepted machine trees none created] at failed
        cases started : (machine.startPool (options.strategyFor machine g.size) options.threads
            : Except (Fault α) Unit) with
        | ok _ =>
            rw [started] at failed
            cases failed
        | error cause =>
            rw [started] at failed
            cases failed
            obtain ⟨-, -, words, -, -, rfl⟩ := Machine.startPool_eq_error_iff.mp started
            intro blamed
            cases blamed

/-- A render of any size accepts the ranges in order, though it may fail for another cause. -/
theorem acceptsOrdered_renderRandom (machine : Machine) (width height : UInt32)
    (options : RenderOptions) :
    AcceptsOrdered fun range =>
      (renderRandom machine width height range options : ExceptT (Fault α) (StateM σ) _) := by
  have formulas := (Channels.judgesAsGiven_build (α := α) (σ := σ)).toAcceptsOrdered
  have rendered : AcceptsOrdered fun range =>
      ((Channels.build range >>= fun trees =>
        ExceptT.mk (pure (renderChannels machine trees width height options)))
          : ExceptT (Fault α) (StateM σ) (Frame × RenderStats)) :=
    formulas.bind fun trees => .const fun _ _ => kind_of_renderChannels_eq_error
  unfold renderRandom
  by_cases empty : width = 0 ∨ height = 0
  · simp only [if_pos empty]
    -- an empty side is reported first, and stands before all of the rest
    refine (AcceptsOrdered.const ?_).bind fun _ => rendered
    intro s fault failed
    cases failed
    intro blamed
    cases blamed
  · simp only [if_neg empty]
    exact rendered

/-- A render of a picture that is not empty judges the range as it is given. -/
theorem judgesAsGiven_renderRandom (machine : Machine) {width height : UInt32}
    (nonempty : width ≠ 0 ∧ height ≠ 0) (options : RenderOptions) :
    JudgesAsGiven fun range =>
      (renderRandom machine width height range options : ExceptT (Fault α) (StateM σ) _) where
  toAcceptsOrdered := acceptsOrdered_renderRandom machine width height options
  refuses := renderRandom_of_lt machine options nonempty

/-- **A range of depths is judged as it is given, and then counts as raised.**  The build of a formula, the
build of the channels and the render of a picture that is not empty all refuse a range whose least depth is
above its greatest, report it with the bounds as given, and draw nothing; also if both bounds are below one and
would be equal when raised.  They blame no other range, and come to the same result and leave the same source
for it as for the range of its raised bounds.  From a source in the table, two ranges in order with the same
raised bounds therefore give the same formula, the same three formulas and the same picture or failure, and
leave the source in the same state. -/
theorem judgesAsGiven_and_eq_of_raised {s : σ} (inTable : RandomSource.InTable s) :
    JudgesAsGiven (Expr.build : DepthRange → ExceptT (Fault α) (StateM σ) Expr) ∧
    JudgesAsGiven (Channels.build : DepthRange → ExceptT (Fault α) (StateM σ) (Channels Expr)) ∧
    (∀ (machine : Machine) (width height : UInt32) (options : RenderOptions),
      width ≠ 0 → height ≠ 0 →
        JudgesAsGiven fun range =>
          (renderRandom machine width height range options : ExceptT (Fault α) (StateM σ) _)) ∧
    ∀ range range' : DepthRange, range.min ≤ range.max → range'.min ≤ range'.max →
      range.raised = range'.raised →
        (∃ e t, (Expr.build range : ExceptT (Fault α) (StateM σ) Expr) s = (.ok e, t) ∧
          (Expr.build range' : ExceptT (Fault α) (StateM σ) Expr) s = (.ok e, t)) ∧
        (∃ trees t, (Channels.build range : ExceptT (Fault α) (StateM σ) _) s = (.ok trees, t) ∧
          (Channels.build range' : ExceptT (Fault α) (StateM σ) _) s = (.ok trees, t)) ∧
        ∀ (machine : Machine) (width height : UInt32) (options : RenderOptions),
          (renderRandom machine width height range options : ExceptT (Fault α) (StateM σ) _) s
            = (renderRandom machine width height range' options : ExceptT (Fault α) (StateM σ) _) s := by
  have formula := Expr.judgesAsGiven_build (α := α) (σ := σ)
  have formulas := Channels.judgesAsGiven_build (α := α) (σ := σ)
  refine ⟨formula, formulas, ?_, ?_⟩
  · intro machine width height options hw hh
    exact judgesAsGiven_renderRandom machine ⟨hw, hh⟩ options
  · intro range range' ordered ordered' same
    obtain ⟨e, t, built, -⟩ := Expr.exists_build (α := α) ordered inTable
    obtain ⟨trees, u, builts⟩ := Channels.exists_build (α := α) ordered inTable
    refine ⟨⟨e, t, built, ?_⟩, ⟨trees, u, builts, ?_⟩, ?_⟩
    · rw [← formula.eq_of_raised_eq ordered ordered' same]
      exact built
    · rw [← formulas.eq_of_raised_eq ordered ordered' same]
      exact builts
    · intro machine width height options
      have accepts := acceptsOrdered_renderRandom (α := α) (σ := σ) machine width height options
      exact congrFun (accepts.eq_of_raised_eq ordered ordered' same) s

/-- A range below one that is upside down, though it would not be when raised, and two ranges that differ only
below one. -/
theorem judgesAsGiven_and_eq_of_raised_below_one :
    RandomSource.InTable (SplitMix.ofSeed 7) ∧
    (⟨-1, -5⟩ : DepthRange).raised.min ≤ (⟨-1, -5⟩ : DepthRange).raised.max ∧
    (Expr.build ⟨-1, -5⟩ : ExceptT (Fault Float) (StateM SplitMix) Expr) (SplitMix.ofSeed 7)
      = (.error (.depthRange (-1) (-5)), SplitMix.ofSeed 7) ∧
    (renderRandom { workers := 8, schedule := [] } 2 1 ⟨-1, -5⟩ {} : ExceptT (Fault Float) (StateM SplitMix) _)
      (SplitMix.ofSeed 7) = (.error (.depthRange (-1) (-5)), SplitMix.ofSeed 7) ∧
    (∃ e t, (Expr.build ⟨-3, 9⟩ : ExceptT (Fault Float) (StateM SplitMix) Expr) (SplitMix.ofSeed 7)
        = (.ok e, t) ∧
      (Expr.build ⟨1, 9⟩ : ExceptT (Fault Float) (StateM SplitMix) Expr) (SplitMix.ofSeed 7)
        = (.ok e, t)) ∧
    (renderRandom { workers := 8, schedule := [] } 2 1 ⟨-3, 9⟩ {} : ExceptT (Fault Float) (StateM SplitMix) _)
        (SplitMix.ofSeed 7)
      = (renderRandom { workers := 8, schedule := [] } 2 1 ⟨1, 9⟩ {} : ExceptT (Fault Float) (StateM SplitMix) _)
        (SplitMix.ofSeed 7) := by
  have inTable := SplitMix.inTable (SplitMix.ofSeed 7)
  obtain ⟨formula, -, picture, alike⟩ :=
    judgesAsGiven_and_eq_of_raised (α := Float) inTable
  obtain ⟨formulas, -, pictures⟩ :=
    alike ⟨-3, 9⟩ ⟨1, 9⟩ (by decide) (by decide) (by decide)
  exact ⟨inTable, by decide, formula.refuses (by decide) _,
    (picture { workers := 8, schedule := [] } 2 1 {} (by decide) (by decide)).refuses (by decide) _, formulas,
    pictures { workers := 8, schedule := [] } 2 1 {}⟩

end Requests

end FormulaArt
