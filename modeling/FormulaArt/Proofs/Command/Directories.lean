import FormulaArt.Proofs.Command.Folder
import FormulaArt.Proofs.Command.Path
import Mathlib.Data.List.Induction

/-!
# Making directories

A path of names can be written to if all that stands on the way are directories, as far as there is
anything, and no directory stands at its end.  The directories are made from the first that is missing
downwards: the search for it goes up from the end, and every directory on the way up that cannot be
made yet is kept for the way down.

## Main definitions

* `Folder.Along` — what stands on the way along some names
* `Folder.Grows` — a folder with more directories
* `Folder.Passable` — names that lead from one directory to the next, as far as there is anything

## Main statements

* `ensureDirectory_join` — one directory
* `exists_makeFirst_climb`, `exists_makeEach_descend` — the way up and the way down
* `Folder.writable_join` — paths that can be written to

## Design notes

What is done to a folder is described by what can be found in it afterwards.  `Folder.Grows` bounds the
length of the ways to the directories that are made, which keeps them apart from the picture, whose way
is longer.
-/

namespace FormulaArt

namespace Command

open FormulaArt.Path (Anchor IsName join)

namespace Folder

/-- The directory at which a path starts. -/
def base (folder : Folder) : Anchor → Place
  | .root => []
  | .plain | .dot => folder.here

/-- What stands on the way from a place along some names, step by step. -/
def Along (P : Option Entry → Prop) (folder : Folder) : Place → List String → Prop
  | _, [] => True
  | place, name :: names => P (folder.entryAt? (name :: place)) ∧ folder.Along P (name :: place) names

/-- A directory. -/
def IsDirectory (entry : Option Entry) : Prop :=
  entry = some .directory

/-- Nothing, or a directory. -/
def IsClear (entry : Option Entry) : Prop :=
  entry = none ∨ entry = some .directory

section Ways

variable {folder : Folder} {anchor : Anchor} {place : Place} {names : List String}

theorem start_join (folder : Folder) (dot : anchor ≠ .dot) (some : names ≠ [])
    (all : ∀ n ∈ names, IsName n) (short : (join anchor names).utf8ByteSize ≤ Path.limit) :
    folder.start (join anchor names) = .ok (folder.base anchor, names) := by
  have apart := Path.split_join dot some all
  have noNull : '\x00' ∉ (join anchor names).toList := by
    intro mem
    obtain slash | ⟨n, listed, inside⟩ := Path.mem_toList_join dot mem
    · cases slash
    · exact (all n listed).null inside
  have nonempty : (join anchor names).isEmpty = false := by
    refine Bool.eq_false_iff.mpr fun empty => ?_
    rw [String.isEmpty_iff.mp empty] at apart
    exact some (Prod.mk.inj apart).2.symm
  rw [start, if_neg noNull, nonempty, if_neg Bool.false_ne_true, if_neg (Nat.not_lt.mpr short)]
  cases anchor with
  | dot => exact absurd rfl dot
  | root => rw [Path.pieces_join_root some all]; rfl
  | plain =>
      rw [Path.pieces_join_plain some all]
      split
      · exact absurd rfl (all "" (List.mem_cons_self ..)).some
      · rfl

theorem along_append {P : Option Entry → Prop} {more : List String} :
    folder.Along P place (names ++ more) ↔
      folder.Along P place names ∧ folder.Along P (names.reverse ++ place) more := by
  induction names generalizing place with
  | nil => exact (and_iff_right trivial).symm
  | cons name names ih =>
      rw [List.cons_append, Along, Along, ih, and_assoc, List.reverse_cons, List.append_assoc,
        List.singleton_append]

theorem IsStep.of_isName {name : String} (h : IsName name) : IsStep name where
  kept := by
    rw [h.isSkipped]
    exact Bool.false_ne_true
  down := h.dots
  short := Nat.not_lt.mpr h.short

/-- A way along directories leads to the last of them. -/
theorem follow_append (all : ∀ n ∈ names, IsName n) (there : folder.Along IsDirectory place names)
    (more : List String) :
    folder.follow place (names ++ more) = folder.follow (names.reverse ++ place) more := by
  induction names generalizing place with
  | nil => rfl
  | cons name names ih =>
      obtain ⟨first, there⟩ := there
      have step : IsStep name := .of_isName (all name (List.mem_cons_self ..))
      rw [List.cons_append, follow_directory step first, List.reverse_cons, List.append_assoc,
        List.singleton_append]
      exact ih (fun n mem => all n (List.mem_cons_of_mem _ mem)) there

/-- Nothing is found behind a directory that is missing. -/
theorem follow_notFound (all : ∀ n ∈ names, IsName n) (clear : folder.Along IsClear place names)
    (gap : ¬ folder.Along IsDirectory place names) {more : List String} (some : more ≠ []) :
    folder.follow place (names ++ more) = .error .notFound := by
  induction names generalizing place with
  | nil => exact absurd trivial gap
  | cons name names ih =>
      obtain ⟨first, clear⟩ := clear
      have step : IsStep name := .of_isName (all name (List.mem_cons_self ..))
      rw [List.cons_append]
      obtain missing | directory := first
      · have notLast : ¬ (names ++ more).isEmpty = true := fun last =>
          List.append_ne_nil_of_right_ne_nil _ some (List.isEmpty_iff.mp last)
        rw [follow_none step missing, if_neg notLast]
      · rw [follow_directory step directory]
        exact ih (fun n mem => all n (List.mem_cons_of_mem _ mem)) clear
          fun there => gap ⟨directory, there⟩

end Ways

/-! ### Folders with more directories -/

/-- A folder has become another one with more directories, all of them shorter ways than some length. -/
structure Grows (length : Nat) (folder folder' : Folder) : Prop where
  here : folder'.here = folder.here
  entryAt? : ∀ place, folder'.entryAt? place = folder.entryAt? place ∨
    place.length < length ∧ folder'.entryAt? place = some .directory

namespace Grows

variable {length : Nat} {folder folder' folder'' : Folder}

theorem refl (folder : Folder) : Grows length folder folder :=
  ⟨rfl, fun _ => Or.inl rfl⟩

theorem trans (first : Grows length folder folder') (second : Grows length folder' folder'') :
    Grows length folder folder'' := by
  refine ⟨second.here.trans first.here, fun place => ?_⟩
  obtain same | made := second.entryAt? place
  · rw [same]
    exact first.entryAt? place
  · exact Or.inr made

theorem put_directory {place : Place} (below : place ≠ []) (short : place.length < length) :
    Grows length folder (folder.put place .directory) := by
  refine ⟨rfl, fun other => ?_⟩
  by_cases same : other = place
  · rw [same]
    exact Or.inr ⟨short, folder.entryAt?_put_self below _⟩
  · exact Or.inl (folder.entryAt?_put_of_ne same _)

theorem base (h : Grows length folder folder') (anchor : Anchor) :
    folder'.base anchor = folder.base anchor := by
  cases anchor with
  | root => rfl
  | plain | dot => exact h.here

theorem along (h : Grows length folder folder') {P : Option Entry → Prop}
    (directory : P (some .directory)) {place : Place} {names : List String}
    (before : folder.Along P place names) : folder'.Along P place names := by
  induction names generalizing place with
  | nil => trivial
  | cons name names ih =>
      obtain ⟨first, before⟩ := before
      refine ⟨?_, ih before⟩
      obtain same | ⟨-, made⟩ := h.entryAt? (name :: place)
      · rwa [same]
      · rwa [made]

end Grows

/-- Names that lead from one directory to the next, as far as there is anything. -/
structure Passable (folder : Folder) (anchor : Anchor) (names : List String) : Prop where
  all : ∀ n ∈ names, IsName n
  short : (join anchor names).utf8ByteSize ≤ Path.limit
  clear : folder.Along IsClear (folder.base anchor) names

namespace Passable

variable {folder folder' : Folder} {anchor : Anchor} {names more : List String}

theorem of_append (h : folder.Passable anchor (names ++ more)) : folder.Passable anchor names where
  all n mem := h.all n (List.mem_append_left _ mem)
  short := Nat.le_trans (Path.utf8ByteSize_join_le anchor names more) h.short
  clear := (along_append.mp h.clear).1

theorem grows (h : folder.Passable anchor names) {length : Nat} (g : Grows length folder folder') :
    folder'.Passable anchor names where
  all := h.all
  short := h.short
  clear := by
    rw [g.base]
    exact g.along (Or.inr rfl) h.clear

end Passable

end Folder

/-! ### One directory -/

section Directories

open Folder

variable {desk : Desk} {path : String}

theorem ensureDirectory_of_notFound (missing : desk.folder.locate path = .error .notFound) :
    (ensureDirectory path : StateM Desk (Except FileError Unit)) desk = (.error .notFound, desk) := by
  have make : (Workspace.makeDirectory path : StateM Desk _) desk = (.error .notFound, desk) := by
    show Desk.change (fun folder => folder.makeDirectory path) desk = _
    rw [Desk.change, makeDirectory, missing]
  rw [ensureDirectory, run_bind_of_eq _ make]
  rfl

theorem ensureDirectory_of_absent {place : Place}
    (absent : desk.folder.locate path = .ok (.absent place)) :
    (ensureDirectory path : StateM Desk (Except FileError Unit)) desk
      = (.ok (), { desk with folder := desk.folder.put place .directory }) := by
  have make : (Workspace.makeDirectory path : StateM Desk _) desk
      = (.ok (), { desk with folder := desk.folder.put place .directory }) := by
    show Desk.change (fun folder => folder.makeDirectory path) desk = _
    rw [Desk.change, makeDirectory, absent]
  rw [ensureDirectory, run_bind_of_eq _ make]
  rfl

theorem ensureDirectory_of_present {place : Place}
    (present : desk.folder.locate path = .ok (.present place .directory)) :
    (ensureDirectory path : StateM Desk (Except FileError Unit)) desk = (.ok (), desk) := by
  have make : (Workspace.makeDirectory path : StateM Desk _) desk = (.error .alreadyExists, desk) := by
    show Desk.change (fun folder => folder.makeDirectory path) desk = _
    rw [Desk.change, makeDirectory, present]
  have is : (Workspace.isDirectory path : StateM Desk _) desk = (true, desk) := by
    show (desk.folder.isDirectory path, desk) = _
    rw [isDirectory, present]
  rw [ensureDirectory, run_bind_of_eq _ make]
  exact run_bind_of_eq _ is

variable {anchor : Anchor} {names : List String} {name : String} {length : Nat}

/-- The last of some directories can be made if the others are there, and is missing otherwise. -/
theorem ensureDirectory_join (dot : anchor ≠ .dot)
    (passable : desk.folder.Passable anchor (names ++ [name]))
    (short : (names ++ [name]).length + (desk.folder.base anchor).length < length) :
    (¬ desk.folder.Along IsDirectory (desk.folder.base anchor) names ∧
      (ensureDirectory (join anchor (names ++ [name])) : StateM Desk (Except FileError Unit)) desk
        = (.error .notFound, desk)) ∨
    ∃ folder', Grows length desk.folder folder' ∧
      folder'.Along IsDirectory (folder'.base anchor) (names ++ [name]) ∧
      (ensureDirectory (join anchor (names ++ [name])) : StateM Desk (Except FileError Unit)) desk
        = (.ok (), { desk with folder := folder' }) := by
  have some : names ++ [name] ≠ [] := List.append_ne_nil_of_right_ne_nil _ (List.cons_ne_nil _ _)
  have started := desk.folder.start_join dot some passable.all passable.short
  have others := passable.of_append.all
  by_cases there : desk.folder.Along IsDirectory (desk.folder.base anchor) names
  · right
    have located : desk.folder.locate (join anchor (names ++ [name]))
        = desk.folder.follow (names.reverse ++ desk.folder.base anchor) [name] := by
      rw [locate, started]
      exact follow_append others there [name]
    have step : IsStep name :=
      .of_isName (passable.all name (List.mem_append_right _ (List.mem_singleton_self _)))
    obtain ⟨-, last, -⟩ := along_append.mp passable.clear
    obtain missing | directory := last
    · rw [follow_none step missing] at located
      have grows : Grows length desk.folder
          (desk.folder.put (name :: (names.reverse ++ desk.folder.base anchor)) .directory) :=
        .put_directory (List.cons_ne_nil _ _) (by
          simpa [Nat.add_right_comm] using short)
      refine ⟨_, grows, ?_, ensureDirectory_of_absent located⟩
      rw [grows.base]
      exact along_append.mpr ⟨grows.along (P := IsDirectory) rfl there,
        desk.folder.entryAt?_put_self (List.cons_ne_nil _ _) _, trivial⟩
    · rw [follow_directory step directory] at located
      exact ⟨desk.folder, .refl _, along_append.mpr ⟨there, directory, trivial⟩,
        ensureDirectory_of_present located⟩
  · left
    refine ⟨there, ensureDirectory_of_notFound ?_⟩
    rw [locate, started]
    exact follow_notFound others passable.of_append.clear there (List.cons_ne_nil _ _)

/-- The paths of some names below others, the shortest first. -/
def descend (anchor : Anchor) : List String → List String → List String
  | _, [] => []
  | front, name :: names => join anchor (front ++ [name]) :: descend anchor (front ++ [name]) names

theorem descend_concat (anchor : Anchor) (front back : List String) (name : String) :
    descend anchor front (back ++ [name])
      = descend anchor front back ++ [join anchor (front ++ (back ++ [name]))] := by
  induction back generalizing front with
  | nil => rfl
  | cons next back ih =>
      rw [List.cons_append, descend, descend, ih, List.cons_append, List.append_assoc,
        List.singleton_append]

/-- The first directory that can be made is one above which all directories are there.  What is
missing are the directories below it. -/
theorem exists_makeFirst_climb (dot : anchor ≠ .dot) (passable : desk.folder.Passable anchor names)
    (short : names.length + (desk.folder.base anchor).length < length) (missing : List String) :
    ∃ front back folder', names = front ++ back ∧ Grows length desk.folder folder' ∧
      folder'.Along IsDirectory (folder'.base anchor) front ∧
      (makeFirst (Path.climb anchor names) missing
          : StateM Desk (Except FileError (List String))) desk
        = (.ok (descend anchor front back ++ missing), { desk with folder := folder' }) := by
  induction names using List.reverseRecOn generalizing missing with
  | nil => exact ⟨[], [], desk.folder, rfl, .refl _, trivial, rfl⟩
  | append_singleton names name ih =>
      rw [Path.climb_concat, makeFirst]
      obtain ⟨-, above⟩ | ⟨folder', grows, there, made⟩ := ensureDirectory_join dot passable short
      · rw [run_bind_of_eq _ above]
        have shorter : names.length + (desk.folder.base anchor).length < length := by
          rw [List.length_append] at short
          omega
        obtain ⟨front, back, folder', rfl, grows, there, run⟩ := ih passable.of_append shorter
          (join anchor (names ++ [name]) :: missing)
        refine ⟨front, back ++ [name], folder', List.append_assoc .., grows, there, ?_⟩
        rw [descend_concat, ← List.append_cons, ← List.append_assoc front]
        exact run
      · rw [run_bind_of_eq _ made]
        exact ⟨names ++ [name], [], folder', (List.append_nil _).symm, grows, there, rfl⟩

/-- Below a directory, all the others can be made. -/
theorem exists_makeEach_descend (desk : Desk) (dot : anchor ≠ .dot) {front back : List String}
    (passable : desk.folder.Passable anchor (front ++ back))
    (short : (front ++ back).length + (desk.folder.base anchor).length < length)
    (there : desk.folder.Along IsDirectory (desk.folder.base anchor) front) :
    ∃ folder', Grows length desk.folder folder' ∧
      folder'.Along IsDirectory (folder'.base anchor) (front ++ back) ∧
      (makeEach (descend anchor front back) : StateM Desk (Except FileError Unit)) desk
        = (.ok (), { desk with folder := folder' }) := by
  induction back generalizing front desk with
  | nil =>
      rw [List.append_nil]
      exact ⟨desk.folder, .refl _, there, rfl⟩
  | cons name back ih =>
      rw [List.append_cons] at passable short ⊢
      have shorter : (front ++ [name]).length + (desk.folder.base anchor).length < length := by
        rw [List.length_append] at short
        omega
      obtain ⟨gap, -⟩ | ⟨folder', grows, there', made⟩ :=
        ensureDirectory_join dot passable.of_append shorter
      · exact absurd there gap
      · obtain ⟨folder'', grows', all, run⟩ := ih { desk with folder := folder' }
          (passable.grows grows) (by rw [grows.base]; exact short) there'
        refine ⟨folder'', grows.trans grows', all, ?_⟩
        rw [descend, makeEach, run_bind_of_eq _ made]
        exact run

/-- Directories can be made if each of them is there or nothing is there. -/
theorem exists_makeDirectories_join (desk : Desk) (dot : anchor ≠ .dot)
    (passable : desk.folder.Passable anchor names)
    (short : names.length + (desk.folder.base anchor).length < length) :
    ∃ folder', Grows length desk.folder folder' ∧
      folder'.Along IsDirectory (folder'.base anchor) names ∧
      (makeDirectories (join anchor names) : StateM Desk (Except FileError Unit)) desk
        = (.ok (), { desk with folder := folder' }) := by
  obtain ⟨front, back, folder', rfl, grows, there, first⟩ :=
    exists_makeFirst_climb dot passable short []
  obtain ⟨folder'', grows', all, others⟩ := exists_makeEach_descend
    { desk with folder := folder' } dot (passable.grows grows)
    (by rw [grows.base]; exact short) there
  refine ⟨folder'', grows.trans grows', all, ?_⟩
  rw [makeDirectories, Path.ancestors_join dot passable.all, run_bind_of_eq _ first, List.append_nil]
  exact others

end Directories

/-! ### Writable paths -/

section Writable

variable {folder : Folder} {anchor : Anchor} {names : List String} {name : String}

theorem Folder.exists_save_join (dot : anchor ≠ .dot) (all : ∀ n ∈ names ++ [name], IsName n)
    (short : (join anchor (names ++ [name])).utf8ByteSize ≤ Path.limit)
    (there : folder.Along IsDirectory (folder.base anchor) names)
    (free : folder.entryAt? (name :: (names.reverse ++ folder.base anchor)) ≠ some .directory)
    (image : Image) : ∃ saved, folder.save (join anchor (names ++ [name])) image = .ok saved := by
  have isName := all name (List.mem_append_right _ (List.mem_singleton_self _))
  have step : IsStep name := .of_isName isName
  have some : names ++ [name] ≠ [] := List.append_ne_nil_of_right_ne_nil _ (List.cons_ne_nil _ _)
  have kept : ((names ++ [name]).reverse.dropWhile (· == "")).reverse = names ++ [name] := by
    rw [List.reverse_append, List.reverse_singleton, List.singleton_append,
      List.dropWhile_cons_of_neg (by rw [beq_iff_eq]; exact isName.some), List.reverse_cons,
      List.reverse_reverse]
  have way : folder.follow (folder.base anchor) (names ++ [name])
      = folder.follow (names.reverse ++ folder.base anchor) [name] :=
    follow_append (fun n mem => all n (List.mem_append_left _ mem)) there [name]
  rw [save, folder.start_join dot some all short]
  simp only [bind, Except.bind, kept, Nat.lt_irrefl, if_false, way]
  cases found : folder.entryAt? (name :: (names.reverse ++ folder.base anchor)) with
  | none =>
      rw [follow_none step found]
      exact ⟨_, rfl⟩
  | some entry =>
      have file : entry ≠ .directory := by
        rintro rfl
        exact free found
      rw [follow_file step file found]
      cases entry with
      | directory => exact absurd rfl file
      | bytes content => exact ⟨_, rfl⟩
      | picture old => exact ⟨_, rfl⟩

/-- A picture can be saved at a path of names if all that stands on the way are directories, as far as
there is anything, and no directory stands at its end. -/
theorem Folder.writable_join (dot : anchor ≠ .dot) (all : ∀ n ∈ names ++ [name], IsName n)
    (short : (join anchor (names ++ [name])).utf8ByteSize ≤ Path.limit)
    (clear : folder.Along IsClear (folder.base anchor) names)
    (free : folder.entryAt? (name :: (names.reverse ++ folder.base anchor)) ≠ some .directory) :
    folder.Writable (join anchor (names ++ [name])) := by
  have above : ∀ n ∈ names, IsName n := fun n mem => all n (List.mem_append_left _ mem)
  have passable : folder.Passable anchor names :=
    ⟨above, Nat.le_trans (Path.utf8ByteSize_join_le anchor names [name]) short, clear⟩
  by_cases empty : join anchor names = ""
  · have none : names = [] := by
      by_contra some
      have apart := Path.split_join dot some above
      rw [empty] at apart
      exact some (Prod.mk.inj apart).2.symm
    subst none
    refine ⟨folder, ?_, exists_save_join dot all short trivial free⟩
    rw [Path.parent?_join dot all, empty]
    rfl
  · obtain ⟨made, grows, there, run⟩ := exists_makeDirectories_join { folder } dot passable
      (Nat.lt_succ_self _)
    refine ⟨made, ?_, exists_save_join dot all short there ?_⟩
    · rw [Path.parent?_join dot all]
      split
      · rename_i h
        cases h
      · rename_i h
        exact absurd (Option.some.inj h) empty
      · rename_i h
        cases h
        exact run
    · rw [grows.base]
      obtain same | ⟨shorter, -⟩ :=
        grows.entryAt? (name :: (names.reverse ++ folder.base anchor))
      · rw [same]
        exact free
      · -- the directories that were made are above the picture
        simp at shorter

end Writable

end Command

end FormulaArt
