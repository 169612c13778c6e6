import FormulaArt.Command.Folder
import FormulaArt.Proofs.Runs

/-!
# What operations of a workspace leave alone

Reading, printing and saving are operations of the world that a command runs in, and each has its own part
of this world to act on.  A model of the world says so by showing its files and what has been printed, and
how the operations act on the two.  How files and directories themselves answer is left open, and so any
of their operations may fail at any time and for any reason.

## Main definitions

* `Composes` — a property of computations that passes from parts to the whole
* `Observed` — a model of the world in which files and printed text can be seen
* `Quiet` — a computation that prints nothing

## Main statements

* `Composes.makeDirectories` — making directories has every property that its parts have
* `makeDirectories_eq_lift` — making directories cannot stop a computation
* `quiet_makeDirectories` — nor does it print
-/

namespace FormulaArt

namespace Command

/-! ### Making directories, part by part -/

section Parts

variable {m : Type → Type} [Monad m] [Workspace m]

/-- A property that the operations on directories have, and that a computation has if its parts have it. -/
structure Composes (P : {β : Type} → m β → Prop) : Prop where
  pure {β : Type} (b : β) : P (Pure.pure b)
  bind {β γ : Type} {action : m β} {next : β → m γ} (first : P action) (others : ∀ b, P (next b)) :
    P (action >>= next)
  makeDirectory (path : String) : P (Workspace.makeDirectory path)
  isDirectory (path : String) : P (Workspace.isDirectory path)

namespace Composes

variable {P : {β : Type} → m β → Prop}

theorem ensureDirectory (h : Composes (m := m) P) (path : String) : P (Command.ensureDirectory path) := by
  refine h.bind (h.makeDirectory path) fun outcome => ?_
  split
  · refine h.bind (h.isDirectory path) fun directory => ?_
    split <;> exact h.pure _
  · exact h.pure _

theorem makeFirst (h : Composes (m := m) P) (paths missing : List String) :
    P (Command.makeFirst paths missing) := by
  induction paths generalizing missing with
  | nil => exact h.pure _
  | cons path paths ih =>
      refine h.bind (h.ensureDirectory path) fun outcome => ?_
      split
      · exact h.pure _
      · exact ih _
      · exact h.pure _

theorem makeEach (h : Composes (m := m) P) (paths : List String) : P (Command.makeEach paths) := by
  induction paths with
  | nil => exact h.pure _
  | cons path paths ih =>
      refine h.bind (h.ensureDirectory path) fun outcome => ?_
      split
      · exact ih
      · exact h.pure _

/-- Making directories has every property that passes from its parts to the whole. -/
theorem makeDirectories (h : Composes (m := m) P) (path : String) : P (Command.makeDirectories path) := by
  refine h.bind (h.makeFirst _ []) fun outcome => ?_
  split
  · exact h.makeEach _
  · exact h.pure _

end Composes

end Parts

section Lift

variable {ε : Type} {m : Type → Type} [Monad m] [LawfulMonad m] [Workspace m]

theorem ensureDirectory_eq_lift (path : String) :
    (ensureDirectory path : ExceptT ε m _) = ExceptT.lift (ensureDirectory path) := by
  show ExceptT.lift (Workspace.makeDirectory path) >>= _ = _
  rw [ensureDirectory, lift_bind]
  refine bind_congr fun outcome => ?_
  split
  · rw [lift_bind]
    refine bind_congr fun directory => ?_
    split <;> exact (lift_pure _).symm
  · exact (lift_pure _).symm

theorem makeFirst_eq_lift (paths missing : List String) :
    (makeFirst paths missing : ExceptT ε m _) = ExceptT.lift (makeFirst paths missing) := by
  induction paths generalizing missing with
  | nil => exact (lift_pure _).symm
  | cons path paths ih =>
      rw [makeFirst, makeFirst, ensureDirectory_eq_lift, lift_bind]
      refine bind_congr fun outcome => ?_
      split
      · exact (lift_pure _).symm
      · exact ih _
      · exact (lift_pure _).symm

theorem makeEach_eq_lift (paths : List String) :
    (makeEach paths : ExceptT ε m _) = ExceptT.lift (makeEach paths) := by
  induction paths with
  | nil => exact (lift_pure _).symm
  | cons path paths ih =>
      rw [makeEach, makeEach, ensureDirectory_eq_lift, lift_bind]
      refine bind_congr fun outcome => ?_
      split
      · exact ih
      · exact (lift_pure _).symm

/-- Making directories cannot stop a computation. -/
theorem makeDirectories_eq_lift (path : String) :
    (makeDirectories path : ExceptT ε m _) = ExceptT.lift (makeDirectories path) := by
  rw [makeDirectories, makeDirectories, makeFirst_eq_lift, lift_bind]
  refine bind_congr fun outcome => ?_
  split
  · exact makeEach_eq_lift _
  · exact (lift_pure _).symm

end Lift

/-! ### Files and printed text -/

/-- A model of the world in which the files and the printed text can be seen.  Reading changes nothing,
printing and reporting change no file, printing appends to what has been printed, and no other operation
prints.  Nothing is said about how the operations on files and directories answer, nor about what they make
of the files. -/
class Observed (δ : Type) [Workspace (StateM δ)] where
  /-- What the files and directories may be like. -/
  Files : Type
  files : δ → Files
  printed : δ → String
  read (path : String) (s : δ) : ((Workspace.read path : StateM δ ReadOutcome) s).2 = s
  files_now (s : δ) : files ((Workspace.now : StateM δ UInt64) s).2 = files s
  printed_now (s : δ) : printed ((Workspace.now : StateM δ UInt64) s).2 = printed s
  files_print (text : String) (s : δ) :
    files ((Workspace.print text : StateM δ Unit) s).2 = files s
  printed_print (text : String) (s : δ) :
    printed ((Workspace.print text : StateM δ Unit) s).2 = printed s ++ text
  files_report (text : String) (s : δ) :
    files ((Workspace.report text : StateM δ Unit) s).2 = files s
  printed_report (text : String) (s : δ) :
    printed ((Workspace.report text : StateM δ Unit) s).2 = printed s
  printed_makeDirectory (path : String) (s : δ) :
    printed ((Workspace.makeDirectory path : StateM δ (Except FileError Unit)) s).2 = printed s
  printed_isDirectory (path : String) (s : δ) :
    printed ((Workspace.isDirectory path : StateM δ Bool) s).2 = printed s
  printed_save (path : String) (image : Image) (s : δ) :
    printed ((Workspace.save path image : StateM δ (Except FileError Unit)) s).2 = printed s

/-- On a desk the files are those of its folder. -/
instance : Observed Desk where
  Files := Folder
  files := Desk.folder
  printed := Desk.printed
  read _ _ := rfl
  files_now _ := rfl
  printed_now _ := rfl
  files_print _ _ := rfl
  printed_print _ _ := rfl
  files_report _ _ := rfl
  printed_report _ _ := rfl
  printed_makeDirectory path desk := by
    show (Desk.change _ desk).2.printed = _
    rw [Desk.change]
    split <;> rfl
  printed_isDirectory _ _ := rfl
  printed_save path image desk := by
    show (Desk.change _ desk).2.printed = _
    rw [Desk.change]
    split <;> rfl

section Quiet

variable {δ : Type} [Workspace (StateM δ)] [Observed δ]

/-- A computation that prints nothing. -/
def Quiet {β : Type} (action : StateM δ β) : Prop :=
  ∀ s, Observed.printed (action s).2 = Observed.printed s

theorem Quiet.bind {β γ : Type} {action : StateM δ β} {next : β → StateM δ γ} (first : Quiet action)
    (others : ∀ b, Quiet (next b)) : Quiet (action >>= next) :=
  fun s => (others (action s).1 (action s).2).trans (first s)

theorem quiet_makeDirectories (path : String) :
    Quiet (makeDirectories path : StateM δ (Except FileError Unit)) :=
  Composes.makeDirectories
    { pure := fun _ _ => rfl
      bind := Quiet.bind
      makeDirectory := Observed.printed_makeDirectory
      isDirectory := Observed.printed_isDirectory } path

end Quiet

end Command

end FormulaArt
