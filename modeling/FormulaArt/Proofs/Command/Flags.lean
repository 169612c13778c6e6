import FormulaArt.Command.Arguments
import Mathlib.Logic.Function.Basic

/-!
# Flags in any order

A command line gives some flags their values, each in one word or in two.  Reading it word by word,
what has been read is a function of the texts that the flags have got so far, so the order of distinct
flags does not matter.

## Main definitions

* `Occurrence` — a flag on a command line, and its words
* `textOf` — the text that a command line gives a flag
* `Given.ofTexts` — what is given by the texts of the flags

## Main statements

* `readFlags_words` — one flag is read
* `set_ofTexts` — and gets its text
* `parse_render` — a whole command line

## Design notes

Texts stand for themselves until the end: `Given.ofTexts` reads them with the readers of the command
line.  Which value a decimal number denotes is the business of these readers alone.
-/

namespace FormulaArt

namespace Command

/-! ### Flags and their words -/

/-- Whether a text is a value of a flag.  A flag without a value has the empty text. -/
def Flag.accepts : Flag → String → Bool
  | .config, s | .out, s => (readPath? s).isSome
  | .width, s | .height, s | .repeats, s => (readUnsigned32? s).isSome
  | .minDepth, s | .maxDepth, s => (readSigned32? s).isSome
  | .seed, s | .threads, s => (readUnsigned64? s).isSome
  | .strategy, s => (readChoice? s).isSome
  | .printTrees, s => s == ""

/-- A flag on a command line. -/
structure Occurrence where
  flag : Flag
  /-- The text of its value, empty for a flag without one. -/
  text : String := ""
  /-- Whether the value stands in the same word, behind an equals sign. -/
  attached : Bool := false
deriving Repr, DecidableEq

namespace Occurrence

/-- The words of a flag. -/
def words (o : Occurrence) : List String :=
  if o.flag.takesValue then
    if o.attached then ["--" ++ (o.flag.name ++ "=" ++ o.text)] else ["--" ++ o.flag.name, o.text]
  else ["--" ++ o.flag.name]

/-- A flag with a value that it accepts.  A value that stands as a word of its own may not look like a
flag. -/
def Valid (o : Occurrence) : Prop :=
  o.flag.accepts o.text = true ∧
    (o.flag.takesValue = false ∨ o.attached = true ∨ isValueFor o.flag o.text = true)

instance (o : Occurrence) : Decidable o.Valid :=
  inferInstanceAs (Decidable (_ ∧ (_ ∨ _ ∨ _)))

end Occurrence

/-- The text that a command line gives a flag, if it gives one. -/
def textOf (os : List Occurrence) (flag : Flag) : Option String :=
  (os.find? fun o => o.flag == flag).map Occurrence.text

/-- What is given by the texts of flags. -/
def Given.ofTexts (text : Flag → Option String) : Given where
  picture := {
    config := (text .config).bind readPath?
    width := (text .width).bind readUnsigned32?
    height := (text .height).bind readUnsigned32?
    minDepth := (text .minDepth).bind readSigned32?
    maxDepth := (text .maxDepth).bind readSigned32?
    seed := (text .seed).bind readUnsigned64?
    threads := (text .threads).bind readUnsigned64? }
  out := (text .out).bind readPath?
  strategy := (text .strategy).bind readChoice?
  printTrees := (text .printTrees).isSome
  repeats := (text .repeats).bind readUnsigned32?

/-! ### Words -/

theorem isLong_append (name : String) : isLong ("--" ++ name) = true := by
  rw [isLong, String.startsWith_string_iff, String.toList_append]
  exact List.prefix_append _ _

theorem append_ne_dashes {name : String} (some : name ≠ "") : "--" ++ name ≠ "--" := by
  intro h
  have chars := congrArg String.toList h
  rw [String.toList_append] at chars
  exact some (String.toList_eq_nil_iff.mp (List.append_right_eq_self.mp chars))

theorem bne_of_plain {name : String} (plain : '=' ∉ name.toList) :
    ∀ c ∈ name.toList, (c != '=') = true := by
  intro c mem
  rw [bne_iff_ne]
  rintro rfl
  exact plain mem

/-- A word without an equals sign is a name. -/
theorem splitLong_append {name : String} (plain : '=' ∉ name.toList) :
    splitLong ("--" ++ name) = (name, none) := by
  have body : ("--" ++ name).toList.drop 2 = name.toList ++ [] := by
    rw [String.toList_append, List.append_nil]
    rfl
  rw [splitLong, body, List.dropWhile_append_of_pos (bne_of_plain plain)]
  simp only [List.dropWhile_nil, List.append_nil, String.ofList_toList]

/-- Behind the first equals sign of a word is the value. -/
theorem splitLong_append_value {name : String} (plain : '=' ∉ name.toList) (text : String) :
    splitLong ("--" ++ (name ++ "=" ++ text)) = (name, some text) := by
  have body : ("--" ++ (name ++ "=" ++ text)).toList.drop 2 = name.toList ++ '=' :: text.toList := by
    simp only [String.toList_append, List.append_assoc]
    rfl
  rw [splitLong, body, List.dropWhile_append_of_pos (bne_of_plain plain),
    List.takeWhile_append_of_pos (bne_of_plain plain)]
  simp [String.ofList_toList]

theorem Flag.name_plain (f : Flag) : '=' ∉ f.name.toList := by
  cases f <;> decide

theorem Flag.name_ne (f : Flag) : f.name ≠ "" ∧ f.name ≠ "help" := by
  cases f <;> decide

/-! ### One flag -/

/-- The words of a flag are read as the flag and its text. -/
theorem readFlags_words {allowed : List Flag} {o : Occurrence}
    (known : (allowed.find? fun f => f.name == o.flag.name) = some o.flag) (valid : o.Valid)
    (g : Given) (rest : List String) :
    readFlags allowed g (o.words ++ rest)
      = (g.set o.flag o.text).bind fun g => readFlags allowed g rest := by
  obtain ⟨accepted, looks⟩ := valid
  obtain ⟨nonempty, notHelp⟩ := o.flag.name_ne
  have name := splitLong_append o.flag.name_plain
  cases takes : o.flag.takesValue with
  | false =>
      have empty : o.text = "" := by
        revert takes accepted
        cases o.flag <;> simp [Flag.takesValue, Flag.accepts]
      rw [Occurrence.words, takes, empty]
      show readFlags allowed g (("--" ++ o.flag.name) :: rest) = _
      rw [readFlags.eq_def]
      simp only [if_neg (append_ne_dashes nonempty), isLong_append, if_true, name, if_neg notHelp,
        known, takes]
      rfl
  | true =>
      cases attached : o.attached with
      | true =>
          have nonempty : o.flag.name ++ "=" ++ o.text ≠ "" := by
            intro h
            have chars := congrArg String.toList h
            simp [String.toList_append] at chars
          rw [Occurrence.words, takes, attached]
          show readFlags allowed g (("--" ++ (o.flag.name ++ "=" ++ o.text)) :: rest) = _
          rw [readFlags.eq_def]
          simp only [if_neg (append_ne_dashes nonempty), isLong_append, if_true,
            splitLong_append_value o.flag.name_plain, if_neg notHelp, known, takes]
          rfl
      | false =>
          rw [Occurrence.words, takes, attached]
          show readFlags allowed g (("--" ++ o.flag.name) :: o.text :: rest) = _
          rw [readFlags.eq_def]
          have isValue : isValueFor o.flag o.text = true := by
            simpa only [takes, attached, Bool.true_eq_false, Bool.false_eq_true, false_or] using looks
          simp only [if_neg (append_ne_dashes nonempty), isLong_append, if_true, name,
            if_neg notHelp, known, takes, isValue]
          rfl

/-- A value that is given for the first time is read. -/
theorem once_none {β : Type} (flag : Flag) {read : String → Option β} {value : String}
    (accepted : (read value).isSome = true) :
    Given.once flag none read value = .ok (read value) := by
  obtain ⟨v, eq⟩ := Option.isSome_iff_exists.mp accepted
  rw [Given.once, eq]
  rfl

/-- A flag that has not been given gets its text, and nothing else changes. -/
theorem set_ofTexts {text : Flag → Option String} {flag : Flag} (fresh : text flag = none)
    {value : String} (accepted : flag.accepts value = true) :
    (Given.ofTexts text).set flag value
      = .ok (Given.ofTexts (Function.update text flag (some value))) := by
  cases flag with
  | printTrees => simp [Given.set, Given.ofTexts, fresh, Function.update, pure, Except.pure]
  | _ =>
      simp [Given.set, Given.ofTexts, fresh, Function.update, pure, Except.pure, bind, Except.bind,
        once_none _ accepted]

/-! ### Whole command lines -/

/-- Behind its first flag, a command line gives the other flags their texts. -/
theorem textOf_cons (o : Occurrence) (os : List Occurrence) (flag : Flag) :
    textOf (o :: os) flag = if o.flag = flag then some o.text else textOf os flag := by
  rw [textOf, List.find?_cons]
  by_cases same : o.flag = flag
  · rw [beq_iff_eq.mpr same, if_pos same]
    rfl
  · rw [beq_eq_false_iff_ne.mpr same, if_neg same]
    rfl

/-- A text that a flag gets is one that it accepts. -/
theorem accepts_of_textOf {os : List Occurrence} (valid : ∀ o ∈ os, o.Valid) {flag : Flag}
    {text : String} (given : textOf os flag = some text) : flag.accepts text = true := by
  obtain ⟨o, found, rfl⟩ := Option.map_eq_some_iff.mp given
  have same := List.find?_some found
  simp only [beq_iff_eq] at same
  obtain rfl := same
  exact (valid o (List.mem_of_find?_eq_some found)).1

/-- A path that is given is the text of its flag. -/
theorem bind_readPath? {os : List Occurrence} (valid : ∀ o ∈ os, o.Valid) {flag : Flag}
    (path : flag = .out ∨ flag = .config) : (textOf os flag).bind readPath? = textOf os flag := by
  cases given : textOf os flag with
  | none => rfl
  | some text =>
      have accepted : (readPath? text).isSome = true := by
        obtain rfl | rfl := path <;> exact accepts_of_textOf valid given
      rw [Option.bind_some, readPath?]
      split
      · rename_i empty
        rw [readPath?, if_pos empty] at accepted
        cases accepted
      · rfl

theorem textOf_eq_none {os : List Occurrence} {flag : Flag}
    (absent : flag ∉ os.map Occurrence.flag) : textOf os flag = none := by
  rw [textOf, Option.map_eq_none_iff, List.find?_eq_none]
  intro o mem same
  exact absent (beq_iff_eq.mp same ▸ List.mem_map_of_mem mem)

/-- The flags of a command line that have not been given before get their texts. -/
theorem readFlags_flatMap_words {allowed : List Flag} {os : List Occurrence}
    (known : ∀ o ∈ os, (allowed.find? fun f => f.name == o.flag.name) = some o.flag)
    (valid : ∀ o ∈ os, o.Valid) (distinct : (os.map Occurrence.flag).Nodup)
    (text : Flag → Option String) (fresh : ∀ o ∈ os, text o.flag = none) :
    readFlags allowed (Given.ofTexts text) (os.flatMap Occurrence.words)
      = .ok (some (Given.ofTexts fun flag => (textOf os flag).or (text flag))) := by
  -- one flag after the other; what has been given so far is in the texts
  induction os generalizing text with
  | nil => rfl
  | cons o os ih =>
      obtain ⟨once, distinct⟩ := List.nodup_cons.mp distinct
      have still : ∀ p ∈ os, Function.update text o.flag (some o.text) p.flag = none := by
        intro p mem
        have other : p.flag ≠ o.flag := fun same =>
          once (same ▸ List.mem_map_of_mem mem)
        rw [Function.update_of_ne other]
        exact fresh p (List.mem_cons_of_mem _ mem)
      have given : (fun flag => (textOf os flag).or (Function.update text o.flag (some o.text) flag))
          = fun flag => (textOf (o :: os) flag).or (text flag) := by
        funext flag
        rw [textOf_cons]
        by_cases same : o.flag = flag
        · rw [if_pos same, ← same, Function.update_self, textOf_eq_none once]
          rfl
        · rw [if_neg same, Function.update_of_ne (Ne.symm same)]
      rw [List.flatMap_cons, readFlags_words (known o (List.mem_cons_self ..))
        (valid o (List.mem_cons_self ..)), set_ofTexts (fresh o (List.mem_cons_self ..))
        (valid o (List.mem_cons_self ..)).1]
      rw [Except.bind, ih (fun p mem => known p (List.mem_cons_of_mem _ mem))
        (fun p mem => valid p (List.mem_cons_of_mem _ mem)) distinct _ still, given]

theorem Flag.find?_ofRender {flag : Flag} (mem : flag ∈ ofRender) :
    (ofRender.find? fun f => f.name == flag.name) = some flag := by
  revert flag
  decide

/-- What the command that renders is given by the texts of its flags. -/
def RenderArguments.ofTexts (out : String) (text : Flag → Option String) : RenderArguments where
  out := out
  picture := (Given.ofTexts text).picture
  strategy := (Given.ofTexts text).strategy
  printTrees := (Given.ofTexts text).printTrees

/-- The order of the flags of a command line does not matter, nor the way in which their values are
attached: what is asked for is a function of the texts of the flags. -/
theorem parse_render {os : List Occurrence} (known : ∀ o ∈ os, o.flag ∈ Flag.ofRender)
    (valid : ∀ o ∈ os, o.Valid) (distinct : (os.map Occurrence.flag).Nodup) {out : String}
    (given : textOf os .out = some out) :
    Invocation.parse ("render" :: os.flatMap Occurrence.words)
      = .ok (.render (.ofTexts out (textOf os))) := by
  have read : readFlags Flag.ofRender {} (os.flatMap Occurrence.words)
      = .ok (some (Given.ofTexts (textOf os))) := by
    refine (readFlags_flatMap_words (fun o mem => Flag.find?_ofRender (known o mem)) valid distinct
      (fun _ => none) fun _ _ => rfl).trans ?_
    simp only [Option.or_none]
  have path : (Given.ofTexts (textOf os)).out = some out := by
    show (textOf os .out).bind readPath? = some out
    rw [bind_readPath? valid (Or.inl rfl), given]
  show readRender (os.flatMap Occurrence.words) = _
  rw [readRender, read]
  simp only [bind, Except.bind, path]
  rfl

end Command

end FormulaArt
