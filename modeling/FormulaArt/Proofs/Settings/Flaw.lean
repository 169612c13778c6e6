import FormulaArt.Proofs.Settings.Value

/-!
# Objects with one flaw

An object of distinct fields is accepted in any order and with any blanks between its tokens.  One
member too many, or one integer out of range, is enough to have it refused: the members in front of
the flaw are read as they stand, and then the flaw is found.

## Main definitions

* `Flawed` — the members of an object that is flawed in one place

## Main statements

* `ofBytes_unknownName`, `ofBytes_repeatedName`, `ofBytes_outOfRange` — the three flaws, each with its
  fault
* `parseText_objectTokens` — what is read of an object, and of a flawed one

## Design notes

A name that is given twice is refused at its second place.  If the member that was added is the first
of the two, its value is read as the value of the field, whatever it is; only where it ends matters.
-/

namespace FormulaArt

namespace Settings

section Members

variable {absent : List Field} {first : Bool} {settings : Settings} {key : Bytes}
  {value : List Bytes} {members : List (List Bytes)} {ts : List Bytes} {s : Bytes}

theorem ofName?_eq_none {name : String} (unknown : ∀ f : Field, f.name ≠ name) :
    Field.ofName? name = none := by
  rw [Field.ofName?, List.find?_eq_none]
  intro f _
  rw [beq_iff_eq]
  exact unknown f

/-- A member with an unknown name is refused before its value is read. -/
theorem readMembers_unknownName {name : String} (spelled : Spells key (bytesOf name.toList))
    (unknown : ∀ f : Field, f.name ≠ name)
    (h : Spaced (separated first (memberTokens key value :: members) ++ ts) s) :
    readMembers absent first settings s = .error (.unknownField name) := by
  obtain ⟨rest, -, eq⟩ := exists_readMembers_eq absent settings spelled h
  rw [eq, ofName?_eq_none unknown]

/-- A member whose field has been given is refused before its value is read. -/
theorem readMembers_repeatedName {f : Field} (given : f ∉ absent)
    (spelled : Spells key (bytesOf f.name.toList))
    (h : Spaced (separated first (memberTokens key value :: members) ++ ts) s) :
    readMembers absent first settings s = .error (.duplicateField f) := by
  obtain ⟨rest, -, eq⟩ := exists_readMembers_eq absent settings spelled h
  rw [eq, ofName?_name]
  simp only [if_neg given]

/-- A field that has been given is found behind members with distinct other fields. -/
theorem readMembers_repeatedName_behind (values : Settings) {between behind : List Field}
    (distinct : between.Nodup) (others : between ⊆ absent) {f : Field} (given : f ∉ absent)
    (h : Spaced (separated first ((between ++ f :: behind).map values.member) ++ ts) s)
    (ends : Delimits ts) :
    readMembers absent first settings s = .error (.duplicateField f) := by
  rw [List.map_append] at h
  obtain ⟨first', rest, eq, more⟩ :=
    exists_readMembers_members_eq settings distinct others (forall₂_isMemberOf_member values between) h
      ends
  rw [eq]
  exact readMembers_repeatedName (fun mem => given (List.diff_subset _ _ mem))
    (spells_fieldName f) more

end Members

/-- Whatever is wrong behind some members with distinct fields is wrong with the object. -/
theorem exists_ofBytes_error_eq (values : Settings) {before : List Field} (distinct : before.Nodup)
    {members : List (List Bytes)} {s : Bytes}
    (h : Spaced (objectTokens (before.map values.member ++ members)) s) :
    ∃ first rest, Spaced (separated first members ++ [[Byte.closeBrace]]) rest ∧
      ∀ e, readMembers (Field.all.diff before) first (default.withFields before values) rest
          = .error e →
        ofBytes s = .error e := by
  obtain ⟨inside, more, eq⟩ := exists_ofBytes_eq h
  obtain ⟨first, rest, read, more⟩ := exists_readMembers_members_eq default distinct
    (fun f _ => f.mem_all) (forall₂_isMemberOf_member values before) more (delimits_closeBrace [])
  refine ⟨first, rest, more, fun e wrong => ?_⟩
  rw [eq, read, wrong]
  rfl

/-- The fields that are absent are those that have not been given. -/
theorem mem_all_diff_iff {f : Field} {before : List Field} :
    f ∈ Field.all.diff before ↔ f ∉ before := by
  rw [List.Nodup.mem_sdiff_iff (by decide)]
  exact and_iff_right f.mem_all

section Objects

variable (values : Settings) {before after : List Field} {s : Bytes}

theorem ofBytes_unknownName (distinct : (before ++ after).Nodup) {key : Bytes} {name : String}
    (spelled : Spells key (bytesOf name.toList)) (unknown : ∀ f : Field, f.name ≠ name)
    {value : List Bytes}
    (h : Spaced (objectTokens
      (before.map values.member ++ memberTokens key value :: after.map values.member)) s) :
    ofBytes s = .error (.unknownField name) := by
  obtain ⟨first, rest, more, wrong⟩ :=
    exists_ofBytes_error_eq values (List.Nodup.of_append_left distinct) h
  exact wrong _ (readMembers_unknownName spelled unknown more)

/-- A name that is given twice is refused, even if the value in front is any other. -/
theorem ofBytes_repeatedName (distinct : (before ++ after).Nodup) {f : Field}
    (given : f ∈ before ++ after) {key : Bytes} (spelled : Spells key (bytesOf f.name.toList))
    {value : List Bytes} (isValue : IsValue value)
    (h : Spaced (objectTokens
      (before.map values.member ++ memberTokens key value :: after.map values.member)) s) :
    ∃ e, ofBytes s = .error e := by
  obtain ⟨left, right, apart⟩ := List.nodup_append.mp distinct
  obtain ⟨first, rest, more, wrong⟩ := exists_ofBytes_error_eq values left h
  by_cases early : f ∈ before
  · exact ⟨_, wrong _ (readMembers_repeatedName (fun h => mem_all_diff_iff.mp h early) spelled more)⟩
  · -- the added member comes first, and the field is found again behind it
    have late : f ∈ after := (List.mem_append.mp given).resolve_left early
    obtain ⟨between, behind, rfl⟩ := List.append_of_mem late
    obtain ⟨inside, more, eq⟩ := exists_readMembers_eq (Field.all.diff before)
      (default.withFields before values) spelled more
    rw [ofName?_name] at eq
    simp only [if_pos (mem_all_diff_iff.mpr early)] at eq
    have ends : Delimits (separated false ((between ++ f :: behind).map values.member)
        ++ [[Byte.closeBrace]]) := delimits_separated (delimits_closeBrace []) _
    cases read : readField f (default.withFields before values) inside with
    | error e => exact ⟨e, wrong e (by rw [eq, read]; rfl)⟩
    | ok p =>
        obtain ⟨settings, rest⟩ := p
        have more := isValue.leaves_readField f _ more ends settings rest read
        -- the fields in between are distinct, and none of them has been given
        have others : between ⊆ (Field.all.diff before).erase f := by
          intro g mem
          refine (List.mem_erase_of_ne ?_).mpr (mem_all_diff_iff.mpr fun h => ?_)
          · rintro rfl
            exact (List.nodup_middle.mp right).notMem (List.mem_append_left _ mem)
          · exact apart g h g (List.mem_append_left _ mem) rfl
        have given : f ∉ (Field.all.diff before).erase f :=
          (List.Nodup.diff (by decide)).not_mem_erase
        refine ⟨.duplicateField f, wrong _ ?_⟩
        rw [eq, read]
        exact readMembers_repeatedName_behind values (List.Nodup.of_append_left right) others given
          more (delimits_closeBrace [])

theorem ofBytes_outOfRange {f : Field} (distinct : (before ++ f :: after).Nodup)
    {expected : Expected} {low high n : Int} (bounds : f.integers? = some (expected, low, high))
    (outside : ¬ (low ≤ n ∧ n ≤ high))
    (h : Spaced (objectTokens (before.map values.member ++
      memberTokens (bytesOf f.name.toList) [bytesOf (writeInt n)] :: after.map values.member)) s) :
    ∃ e, ofBytes s = .error e ∧ OutOfRange expected n e := by
  obtain ⟨left, -, apart⟩ := List.nodup_append.mp distinct
  obtain ⟨first, rest, more, wrong⟩ := exists_ofBytes_error_eq values left h
  have absent : f ∈ Field.all.diff before :=
    mem_all_diff_iff.mpr fun early => apart f early f (List.mem_cons_self ..) rfl
  obtain ⟨behind, more, eq⟩ := exists_readMembers_eq (Field.all.diff before)
    (default.withFields before values) (spells_fieldName f) more
  obtain ⟨e, refused, reason⟩ := readField_writeInt_of_not_mem bounds outside
    (default.withFields before values) more (delimits_separated (delimits_closeBrace []) _)
  refine ⟨e, wrong e ?_, reason⟩
  rw [eq, ofName?_name]
  simp only [if_pos absent, refused, Except.bind]

end Objects

/-! ### Objects and flawed objects -/

/-- The members of an object of some fields, flawed in one place: a member that was added, with a name
that is unknown or given already, or an integer that its field does not hold. -/
inductive Flawed (values : Settings) : List Field → List (List Bytes) → Prop
  | unknownName (before after : List Field) {key : Bytes} (name : String)
      (spelled : Spells key (bytesOf name.toList)) (unknown : ∀ f : Field, f.name ≠ name)
      (value : List Bytes) :
      Flawed values (before ++ after)
        (before.map values.member ++ memberTokens key value :: after.map values.member)
  | repeatedName (before after : List Field) (f : Field) (given : f ∈ before ++ after) {key : Bytes}
      (spelled : Spells key (bytesOf f.name.toList)) {value : List Bytes} (isValue : IsValue value) :
      Flawed values (before ++ after)
        (before.map values.member ++ memberTokens key value :: after.map values.member)
  | outOfRange (before after : List Field) (f : Field) {expected : Expected} {low high : Int} (n : Int)
      (bounds : f.integers? = some (expected, low, high)) (outside : ¬ (low ≤ n ∧ n ≤ high)) :
      Flawed values (before ++ f :: after)
        (before.map values.member ++
          memberTokens (bytesOf f.name.toList) [bytesOf (writeInt n)] :: after.map values.member)

theorem parse_of_error {α : Type} {s : Bytes} {e : ReadError} (h : ofBytes s = .error e) :
    (parse s : Except (Fault α) Settings) = .error (.serialization (.malformed e)) := by
  rw [parse, h]
  rfl

/-- An object of distinct fields, in any order and with any blanks between its tokens, is read as the
defaults with exactly these fields replaced.  With one flaw, nothing is read. -/
theorem parseText_objectTokens {α : Type} (values : Settings) {fields : List Field}
    (distinct : fields.Nodup) :
    (∀ text : String, Spaced (objectTokens (fields.map values.member)) text.toUTF8.data.toList →
      (parseText text : Except (Fault α) Settings) = .ok (default.withFields fields values)) ∧
    ∀ members, Flawed values fields members →
      ∀ text : String, Spaced (objectTokens members) text.toUTF8.data.toList →
        ∃ e, (parseText text : Except (Fault α) Settings) = .error (.serialization (.malformed e)) := by
  refine ⟨fun text h => parse_object values distinct h, ?_⟩
  intro members flawed text h
  cases flawed with
  | unknownName before after name spelled unknown value =>
      exact ⟨_, parse_of_error (ofBytes_unknownName values distinct spelled unknown h)⟩
  | repeatedName before after f given spelled isValue =>
      obtain ⟨e, refused⟩ := ofBytes_repeatedName values distinct given spelled isValue h
      exact ⟨e, parse_of_error refused⟩
  | outOfRange before after f n bounds outside =>
      obtain ⟨e, refused, -⟩ := ofBytes_outOfRange values distinct bounds outside h
      exact ⟨e, parse_of_error refused⟩

/-- A seed and a width: as an object with blanks in it, with an unknown name in front, with the width
given twice, and with a width that has no room in 32 bits. -/
theorem parseText_objectTokens_seed_width :
    (parseText "\x7b \"seed\": 7,\"width\":640\x7d" : Except (Fault Float) Settings)
      = .ok { seed := some 7, width := 640 } ∧
    (∃ e, (parseText "\x7b\"size\":1,\"seed\":7,\"width\":640\x7d" : Except (Fault Float) Settings)
      = .error (.serialization (.malformed e))) ∧
    (∃ e, (parseText "\x7b\"width\":null,\"seed\":7,\"width\":640\x7d"
        : Except (Fault Float) Settings)
      = .error (.serialization (.malformed e))) ∧
    ∃ e, (parseText "\x7b\"seed\":7,\"width\":4294967296\x7d" : Except (Fault Float) Settings)
      = .error (.serialization (.malformed e)) := by
  have read := parseText_objectTokens (α := Float) { seed := some 7, width := 640 }
    (by decide : [Field.seed, Field.width].Nodup)
  have compact {ts : List Bytes} {text : String} (h : bytesOf text.toList = ts.flatten) :
      Spaced ts text.toUTF8.data.toList := by
    rw [toList_toUTF8, h]
    exact spaced_flatten ts
  refine ⟨?_, ?_, ?_, ?_⟩
  · have blank : Blank [0x20] := by decide
    refine read.1 _ ?_
    rw [toList_toUTF8]
    exact .token blank_nil _ (.token blank _ (.token blank_nil _ (.token blank _ (spaced_flatten _))))
  · exact read.2 _ (.unknownName [] [.seed, .width] "size" (spells_self (by decide))
      (by intro f; cases f <;> decide) [bytesOf (writeInt 1)]) _ (compact (by decide))
  · exact read.2 _ (.repeatedName [] [.seed, .width] .width (by decide)
      (spells_self (by decide)) .null) _ (compact (by decide))
  · exact read.2 _ (.outOfRange [.seed] [] .width 4294967296 rfl (by decide)) _
      (compact (by decide))

end Settings

end FormulaArt
