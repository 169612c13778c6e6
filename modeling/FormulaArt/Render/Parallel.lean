import FormulaArt.Channels
import FormulaArt.Grid
import FormulaArt.Level

/-!
# Evaluating the channels side by side

Three tasks, one per channel. A task walks over the places of all pixels and appends one value per
step to a vector of its own. The steps of the tasks interleave as the machine pleases; the vectors
are read when all three tasks are done, and only then.

## Main definitions

* `Task` — a formula, the places still ahead and the values so far
* `Schedule` — the order in which the tasks get to make a step
* `Tasks.run` — the steps of a schedule
* `Tasks.join` — wait until all tasks are done
* `interleave` — the bytes of the picture from the values of the three channels

## Design notes

A schedule may name a task that is done already, which then does nothing, and it may stop early: what
is left is done while waiting. So every list of channels is a schedule.
-/

namespace FormulaArt

variable {α : Type}

/-- The evaluation of one channel, somewhere on its way. -/
structure Task (α : Type) where
  /-- The formula of the channel. -/
  tree : Expr
  /-- The places still to be evaluated. -/
  ahead : List (Point α)
  /-- The values found so far. -/
  values : Array α

namespace Task

/-- The task at its start. -/
def start (places : List (Point α)) (tree : Expr) : Task α where
  tree
  ahead := places
  values := #[]

variable [Scalar α]

/-- Append the value at the next place, if there is one. -/
@[specialize] def step (t : Task α) : Task α :=
  match t with
  | ⟨tree, [], values⟩ => ⟨tree, [], values⟩
  | ⟨tree, p :: ahead, values⟩ => ⟨tree, ahead, values.push (tree.eval p)⟩

/-- Append the values at all places that are left. -/
@[specialize] def finish (t : Task α) : Task α where
  tree := t.tree
  ahead := []
  values := t.ahead.foldl (fun values p => values.push (t.tree.eval p)) t.values

end Task

/-- The order in which the tasks of the channels get to make a step. -/
abbrev Schedule := List Channel

namespace Tasks

/-- The tasks of the three channels at their start. -/
def start (places : List (Point α)) (trees : Channels Expr) : Channels (Task α) :=
  trees.map (Task.start places)

variable [Scalar α]

/-- Let the tasks make the steps of a schedule. -/
@[specialize] def run (schedule : Schedule) (tasks : Channels (Task α)) : Channels (Task α) :=
  schedule.foldl (fun tasks c => tasks.modify c Task.step) tasks

/-- Wait until every task is done, and take the values. -/
@[specialize] def join (tasks : Channels (Task α)) : Channels (Array α) :=
  tasks.map fun t => t.finish.values

end Tasks

variable [Scalar α]

/-- The bytes of a picture with those of one more pixel. -/
@[specialize] def pushLevels (data : Array UInt8) (red green blue : α) : Array UInt8 :=
  ((data.push (level red)).push (level green)).push (level blue)

/-- The bytes of a picture from the values of its channels, as far as all three have a value. -/
@[specialize] def interleave (values : Channels (Array α)) : Array UInt8 :=
  ((values.red.zip values.green).zip values.blue).foldl
    (fun data ((red, green), blue) => pushLevels data red green blue) #[]

/-- The bytes of a picture, evaluated channel by channel. -/
@[specialize] def parallelBytes (schedule : Schedule) (g : Grid α) (trees : Channels Expr) :
    Array UInt8 :=
  interleave (Tasks.join (Tasks.run schedule (Tasks.start g.coords trees)))

end FormulaArt
