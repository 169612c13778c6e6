import FormulaArt.Proofs.Command.Workspace
import Mathlib.Tactic.Choose

/-!
# What a folder holds after it has been written to

A picture that is saved at a path is found at that path again.  Making directories looks at the folder
alone and changes nothing else.  A path is writable if the directories above it can be made and then
nothing keeps a picture from being saved there.

## Main definitions

* `Folder.IsStep` — names that lead one step down
* `Folder.Target.freePlace?` — where a file can be put, if one can
* `ActsOnFolder` — what a computation does depends on the folder alone, and changes nothing else
* `Folder.Writable` — a picture can be saved at a path

## Main statements

* `Folder.follow_directory`, `Folder.follow_file`, `Folder.follow_none` — one step
* `Folder.follow_put` — an entry that is put where a path leads is found there
* `Folder.picture?_of_save` — a saved picture is found again
* `actsOnFolder_makeDirectories` — making directories
-/

namespace FormulaArt

namespace Command

namespace Folder

/-! ### Entries -/

/-- Other places keep their entries. -/
theorem lookup_filter_of_ne {place other : Place} (different : other ≠ place)
    (entries : List (Place × Entry)) :
    (entries.filter fun e => e.1 != place).lookup other = entries.lookup other := by
  induction entries with
  | nil => rfl
  | cons e entries ih =>
      obtain ⟨p, entry⟩ := e
      by_cases same : p = place
      · have miss : (other == p) = false := beq_eq_false_iff_ne.mpr (same ▸ different)
        rw [List.filter_cons_of_neg (by simp [same]), List.lookup_cons, miss, ih]
      · rw [List.filter_cons_of_pos (by simp [same]), List.lookup_cons, List.lookup_cons, ih]

theorem entryAt?_put_self (folder : Folder) {place : Place} (below : place ≠ []) (entry : Entry) :
    (folder.put place entry).entryAt? place = some entry := by
  obtain ⟨name, rest, rfl⟩ := List.exists_cons_of_ne_nil below
  show List.lookup (name :: rest) ((name :: rest, entry) :: _) = some entry
  rw [List.lookup_cons_self]

theorem entryAt?_put_of_ne (folder : Folder) {place other : Place} (different : other ≠ place)
    (entry : Entry) : (folder.put place entry).entryAt? other = folder.entryAt? other := by
  cases other with
  | nil => rfl
  | cons name rest =>
      show List.lookup (name :: rest) ((place, entry) :: _) = _
      rw [List.lookup_cons, beq_eq_false_iff_ne.mpr different]
      exact lookup_filter_of_ne different folder.entries

/-! ### Paths -/

/-- A name that leads one step down, if it leads anywhere. -/
structure IsStep (name : String) : Prop where
  kept : ¬ Path.isSkipped name = true
  down : ¬ name = ".."
  short : ¬ Path.nameLimit < name.utf8ByteSize

section Follow

variable {folder : Folder} {place : Place} {name : String} {names : List String}

theorem follow_skipped (skipped : Path.isSkipped name = true) :
    folder.follow place (name :: names) = folder.follow place names := by
  rw [follow, if_pos skipped]

theorem follow_up : folder.follow place (".." :: names) = folder.follow place.tail names := by
  rw [follow, if_neg (by decide), if_pos rfl]

theorem follow_long (kept : ¬ Path.isSkipped name = true) (down : ¬ name = "..")
    (long : Path.nameLimit < name.utf8ByteSize) :
    folder.follow place (name :: names) = .error .nameTooLong := by
  rw [follow, if_neg kept, if_neg down, if_pos long]

theorem follow_directory (step : IsStep name)
    (directory : folder.entryAt? (name :: place) = some .directory) :
    folder.follow place (name :: names) = folder.follow (name :: place) names := by
  rw [follow, if_neg step.kept, if_neg step.down, if_neg step.short, directory]

theorem follow_file (step : IsStep name) {entry : Entry} (file : entry ≠ .directory)
    (there : folder.entryAt? (name :: place) = some entry) :
    folder.follow place (name :: names)
      = if names.isEmpty then .ok (.present (name :: place) entry) else .error .notDirectory := by
  rw [follow, if_neg step.kept, if_neg step.down, if_neg step.short, there]
  cases entry with
  | directory => exact absurd rfl file
  | bytes content => rfl
  | picture image => rfl

theorem follow_none (step : IsStep name) (nothing : folder.entryAt? (name :: place) = none) :
    folder.follow place (name :: names)
      = if names.isEmpty then .ok (.absent (name :: place)) else .error .notFound := by
  rw [follow, if_neg step.kept, if_neg step.down, if_neg step.short, nothing]

end Follow

/-- The place where a file can be put: nothing stands there, or a file. -/
def Target.freePlace? : Target → Option Place
  | present _ .directory => none
  | present place _ | absent place => some place

theorem Target.freePlace?_present {place : Place} {entry : Entry} (file : entry ≠ .directory) :
    (present place entry).freePlace? = some place := by
  cases entry with
  | directory => exact absurd rfl file
  | bytes content => rfl
  | picture image => rfl

/-- What is put where a path leads is what the path leads to, and no directory has stood there. -/
theorem follow_put {folder : Folder} {place p : Place} {names : List String} {t : Target}
    (found : folder.follow place names = .ok t) (free : t.freePlace? = some p) {entry : Entry}
    (file : entry ≠ .directory) :
    p ≠ [] ∧ folder.entryAt? p ≠ some .directory ∧
      (folder.put p entry).follow place names = .ok (.present p entry) := by
  -- the way to the end is along directories, none of which is where the entry is put
  induction place, names using follow.induct folder with
  | case1 place =>
      cases found
      cases free
  | case2 place name names skipped ih =>
      rw [follow_skipped skipped] at found ⊢
      exact ih found
  | case3 place names _ ih =>
      rw [follow_up] at found ⊢
      exact ih found
  | case4 place name names kept down long =>
      rw [follow_long kept down long] at found
      cases found
  | case5 place name names kept down short directory ih =>
      have step : IsStep name := ⟨kept, down, short⟩
      rw [follow_directory step directory] at found
      obtain ⟨below, noDirectory, again⟩ := ih found
      have other : name :: place ≠ p := by
        rintro rfl
        exact noDirectory directory
      refine ⟨below, noDirectory, ?_⟩
      rw [follow_directory step ((entryAt?_put_of_ne folder other entry).trans directory)]
      exact again
  | case6 place name names kept down short old other there last =>
      have step : IsStep name := ⟨kept, down, short⟩
      rw [follow_file step other there, if_pos last] at found
      cases found
      rw [Target.freePlace?_present other] at free
      cases free
      refine ⟨List.cons_ne_nil _ _, ?_, ?_⟩
      · rw [there]
        exact fun same => other (Option.some.inj same)
      · rw [follow_file step file (folder.entryAt?_put_self (List.cons_ne_nil _ _) entry),
          if_pos last]
  | case7 place name names kept down short old other there more =>
      rw [follow_file ⟨kept, down, short⟩ other there, if_neg more] at found
      cases found
  | case8 place name names kept down short nothing last =>
      have step : IsStep name := ⟨kept, down, short⟩
      rw [follow_none step nothing, if_pos last] at found
      cases found
      cases free
      refine ⟨List.cons_ne_nil _ _, ?_, ?_⟩
      · rw [nothing]
        exact Option.some_ne_none _ ∘ Eq.symm
      · rw [follow_file step file (folder.entryAt?_put_self (List.cons_ne_nil _ _) entry),
          if_pos last]
  | case9 place name names kept down short nothing more =>
      rw [follow_none ⟨kept, down, short⟩ nothing, if_neg more] at found
      cases found

/-! ### Pictures -/

/-- Saving puts the picture at the free place to which the path leads. -/
theorem of_save_eq_ok {folder saved : Folder} {path : String} {image : Image}
    (h : folder.save path image = .ok saved) :
    ∃ place names t p, folder.start path = .ok (place, names) ∧ folder.follow place names = .ok t ∧
      t.freePlace? = some p ∧ saved = folder.put p (.picture image) := by
  rw [save] at h
  obtain ⟨⟨place, names⟩, started, h⟩ := of_bind_eq_ok h
  dsimp only at h
  split at h
  · -- the path of a directory
    obtain ⟨_, -, h⟩ := of_bind_eq_ok h
    cases h
  · obtain ⟨t, found, h⟩ := of_bind_eq_ok h
    refine ⟨place, names, t, ?_⟩
    cases t with
    | absent p =>
        cases h
        exact ⟨p, started, found, rfl, rfl⟩
    | present p entry =>
        cases entry with
        | directory => cases h
        | bytes content =>
            cases h
            exact ⟨p, started, found, rfl, rfl⟩
        | picture old =>
            cases h
            exact ⟨p, started, found, rfl, rfl⟩

/-- A picture that has been saved at a path is the one that the path leads to. -/
theorem picture?_of_save {folder saved : Folder} {path : String} {image : Image}
    (h : folder.save path image = .ok saved) : saved.picture? path = some image := by
  obtain ⟨place, names, t, p, started, found, free, rfl⟩ := of_save_eq_ok h
  have again : (folder.put p (.picture image)).start path = .ok (place, names) := started
  have way : (folder.put p (.picture image)).locate path = .ok (.present p (.picture image)) := by
    rw [locate, again]
    exact (follow_put found free Entry.noConfusion).2.2
  rw [picture?, way]

end Folder

/-! ### Directories -/

/-- What is done depends on the folder alone, and nothing but the folder is changed. -/
def ActsOnFolder {β : Type} (action : StateM Desk β) : Prop :=
  ∃ f : Folder → β × Folder,
    ∀ desk : Desk, action desk = ((f desk.folder).1, { desk with folder := (f desk.folder).2 })

section Acts

variable {β γ : Type}

theorem actsOnFolder_pure (b : β) : ActsOnFolder (pure b) :=
  ⟨fun folder => (b, folder), fun _ => rfl⟩

theorem ActsOnFolder.bind {action : StateM Desk β} {next : β → StateM Desk γ}
    (first : ActsOnFolder action) (others : ∀ b, ActsOnFolder (next b)) :
    ActsOnFolder (action >>= next) := by
  obtain ⟨f, eq⟩ := first
  choose g eqs using others
  refine ⟨fun folder => g (f folder).1 (f folder).2, fun desk => ?_⟩
  rw [run_bind_of_eq next (eq desk), eqs]

theorem actsOnFolder_change (f : Folder → Except FileError Folder) :
    ActsOnFolder (Desk.change f) := by
  refine ⟨fun folder => ((Desk.change f { folder }).1, (Desk.change f { folder }).2.folder),
    fun desk => ?_⟩
  dsimp only [Desk.change]
  cases f desk.folder <;> rfl

/-- Making directories neither prints anything nor looks at the clock. -/
theorem actsOnFolder_makeDirectories (path : String) :
    ActsOnFolder (makeDirectories path : StateM Desk _) :=
  Composes.makeDirectories
    { pure := actsOnFolder_pure
      bind := ActsOnFolder.bind
      makeDirectory := fun _ => actsOnFolder_change _
      isDirectory := fun path => ⟨fun folder => (folder.isDirectory path, folder), fun _ => rfl⟩ } path

/-- What is done to a folder by itself is done to it on any desk. -/
theorem ActsOnFolder.eq_of_eq {action : StateM Desk β} (acts : ActsOnFolder action) {b : β}
    {desk : Desk} {changed : Folder}
    (alone : action { folder := desk.folder } = (b, { folder := changed })) :
    action desk = (b, { desk with folder := changed }) := by
  obtain ⟨f, eq⟩ := acts
  rw [eq, Prod.mk.injEq, Desk.mk.injEq] at alone
  obtain ⟨rfl, rfl, -⟩ := alone
  exact eq desk

end Acts

/-- A picture can be saved at a path: the directories above the path can be made, if there are any,
and then nothing keeps a picture from being put there. -/
def Folder.Writable (folder : Folder) (path : String) : Prop :=
  ∃ made : Folder,
    (match Path.parent? path with
      | none | some "" => made = folder
      | some directory =>
        (makeDirectories directory : StateM Desk (Except FileError Unit)) { folder }
          = (.ok (), { folder := made })) ∧
    ∀ image, ∃ saved, made.save path image = .ok saved

end Command

end FormulaArt
