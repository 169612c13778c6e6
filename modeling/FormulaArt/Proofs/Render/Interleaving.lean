import FormulaArt.Render

/-!
# The order of the tasks does not matter

A task touches no vector but its own, so what it will have appended in the end is settled from the
start: a step moves one value from what is ahead to what is there.  `Task.finish` is therefore an
invariant of every schedule, and the bytes that are put together after the join are those of the
loop over the pixels.

## Main statements

* `Task.finish_step` — a step does not change what a task comes to
* `Tasks.join_run` — nor does any schedule
* `Tasks.done_run_iff` — the schedules after which every task is done
* `parallelBytes_eq_sequentialBytes` — channel by channel is pixel by pixel
-/

namespace FormulaArt

namespace Channels

variable {β γ : Type}

@[simp] theorem get_map (f : β → γ) (t : Channels β) (c : Channel) :
    (t.map f).get c = f (t.get c) := by
  cases c <;> rfl

@[simp] theorem get_modify_self (t : Channels β) (c : Channel) (f : β → β) :
    (t.modify c f).get c = f (t.get c) := by
  cases c <;> rfl

/-- Changing one channel leaves the others alone. -/
theorem get_modify_of_ne (t : Channels β) {c d : Channel} (ne : d ≠ c) (f : β → β) :
    (t.modify c f).get d = t.get d := by
  cases c <;> cases d <;> first | rfl | exact absurd rfl ne

/-- Two triples with the same value for every channel are equal. -/
theorem ext_get {t u : Channels β} (h : ∀ c, t.get c = u.get c) : t = u := by
  obtain ⟨red, green, blue⟩ := t
  obtain ⟨red', green', blue'⟩ := u
  have hr : red = red' := h .red
  have hg : green = green' := h .green
  have hb : blue = blue' := h .blue
  rw [hr, hg, hb]

end Channels

variable {α : Type} [Scalar α]

namespace Task

/-! ### One task -/

/-- What a task comes to: the values that it has, and behind them those at the places ahead. -/
theorem values_finish (t : Task α) :
    t.finish.values = t.values ++ (t.ahead.map t.tree.eval).toArray :=
  List.foldl_push_eq_append

/-- A step does not change what the task comes to. -/
@[simp] theorem finish_step (t : Task α) : t.step.finish = t.finish := by
  obtain ⟨tree, ahead, values⟩ := t
  cases ahead with
  | nil => rfl
  | cons p ahead => rfl

/-- A task that is done has all its values already. -/
theorem values_finish_of_done {t : Task α} (done : t.ahead = []) : t.finish.values = t.values := by
  rw [values_finish, done, List.map_nil, Array.append_empty]

@[simp] theorem ahead_step (t : Task α) : t.step.ahead = t.ahead.drop 1 := by
  obtain ⟨tree, ahead, values⟩ := t
  cases ahead with
  | nil => rfl
  | cons p ahead => rfl

end Task

namespace Tasks

/-! ### Three tasks -/

/-- Every task has appended all its values. -/
def Done (tasks : Channels (Task α)) : Prop :=
  ∀ c, (tasks.get c).ahead = []

@[simp] theorem run_nil (tasks : Channels (Task α)) : run [] tasks = tasks := rfl

@[simp] theorem run_cons (c : Channel) (schedule : Schedule) (tasks : Channels (Task α)) :
    run (c :: schedule) tasks = run schedule (tasks.modify c Task.step) := rfl

/-- A step of one task does not change what the tasks come to. -/
theorem join_modify_step (tasks : Channels (Task α)) (c : Channel) :
    join (tasks.modify c Task.step) = join tasks := by
  refine Channels.ext_get fun d => ?_
  rw [join, join, Channels.get_map, Channels.get_map]
  -- the task that made the step comes to the same, and the others were not touched
  by_cases same : d = c
  · rw [same, Channels.get_modify_self, Task.finish_step]
  · rw [Channels.get_modify_of_ne tasks same]

/-- No schedule changes what the tasks come to. -/
theorem join_run (schedule : Schedule) (tasks : Channels (Task α)) :
    join (run schedule tasks) = join tasks := by
  induction schedule generalizing tasks with
  | nil => rfl
  | cons c schedule ih => rw [run_cons, ih, join_modify_step]

/-- When all tasks are done, the join only reads the vectors. -/
theorem join_of_done {tasks : Channels (Task α)} (done : Done tasks) :
    join tasks = tasks.map Task.values := by
  refine Channels.ext_get fun c => ?_
  rw [join, Channels.get_map, Channels.get_map, Task.values_finish_of_done (done c)]

/-- A task gets on by one place each time that the schedule names it. -/
theorem ahead_run (schedule : Schedule) (tasks : Channels (Task α)) (c : Channel) :
    ((run schedule tasks).get c).ahead = (tasks.get c).ahead.drop (schedule.count c) := by
  induction schedule generalizing tasks with
  | nil => rfl
  | cons d schedule ih =>
      rw [run_cons, ih]
      by_cases same : c = d
      · rw [same, Channels.get_modify_self, Task.ahead_step, List.drop_drop,
          List.count_cons_self, Nat.add_comm]
      · rw [Channels.get_modify_of_ne tasks same, List.count_cons_of_ne (Ne.symm same)]

/-- The tasks are done when each of them has made as many steps as there are places. -/
theorem done_run_iff (schedule : Schedule) (places : List (Point α)) (trees : Channels Expr) :
    Done (run schedule (start places trees)) ↔ ∀ c, places.length ≤ schedule.count c := by
  refine forall_congr' fun c => ?_
  rw [ahead_run, start, Channels.get_map, List.drop_eq_nil_iff]
  rfl

/-- What the tasks come to from their start: each the values of its formula, in order. -/
theorem join_start (places : List (Point α)) (trees : Channels Expr) :
    join (start places trees) = trees.map fun e => (places.map e.eval).toArray := by
  refine Channels.ext_get fun c => ?_
  rw [join, start, Channels.get_map, Channels.get_map, Channels.get_map, Task.values_finish]
  exact Array.empty_append

end Tasks

/-! ### The bytes -/

/-- The values of the channels, put together pixel by pixel, are the values found pixel by pixel. -/
theorem interleave_map_eval (places : List (Point α)) (trees : Channels Expr) :
    interleave (trees.map fun e => (places.map e.eval).toArray)
      = places.foldl (fun data p =>
          pushLevels data (trees.red.eval p) (trees.green.eval p) (trees.blue.eval p)) #[] := by
  rw [interleave, Channels.map, List.zip_toArray, List.zip_toArray, List.zip_map', List.zip_map',
    List.foldl_toArray, List.foldl_map]

/-- Whatever the schedule, channel by channel gives the bytes of pixel by pixel. -/
theorem parallelBytes_eq_sequentialBytes (schedule : Schedule) (g : Grid α)
    (trees : Channels Expr) : parallelBytes schedule g trees = sequentialBytes g trees := by
  rw [parallelBytes, Tasks.join_run, Tasks.join_start, interleave_map_eval, sequentialBytes]

theorem pictureBytes_eq_sequentialBytes (machine : Machine) (strategy : Strategy) (g : Grid α)
    (trees : Channels Expr) : pictureBytes machine strategy g trees = sequentialBytes g trees := by
  cases strategy with
  | sequential => rfl
  | parallel => exact parallelBytes_eq_sequentialBytes machine.schedule g trees

end FormulaArt
