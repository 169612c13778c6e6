import FormulaArt.Proofs.Settings.Value

/-!
# Settings by position

A list gives values to the first fields without naming them.  It is read element by element, and after each
element what has been read is the same as in an object: the fields that are still due, and the defaults with
the values of the other fields in their places.  So a list says what an object with the same fields says.  Once
all fields have a value, nothing but the end of the list may follow.

## Main statements

* `exists_readElements_elements_eq` — some elements, for the fields that are due
* `ofBytes_list` — a whole list
* `exists_ofBytes_list_error_eq` — a list with too many elements
* `parseText_listTokens` — lists and objects

## Design notes

An end may come wherever an element may come, so the reader has to tell the two apart by their first byte.  No
value of a field starts like the end of a list.
-/

namespace FormulaArt

namespace Settings

section Elements

variable {values settings : Settings} {first : Bool} {ts : List Bytes} {s : Bytes}

/-- A value starts neither with a blank nor like the end of a list. -/
theorem IsValueOf.exists_head {f : Field} {v : List Bytes} (isValue : IsValueOf values f v) :
    ∃ b t us, v = (b :: t) :: us ∧ Byte.isSpace b = false ∧ b ≠ Byte.closeBracket := by
  cases isValue with
  | written f =>
      obtain ⟨b, t, eq, solid, open'⟩ := exists_bytesOf_writeField_eq values f
      exact ⟨b, t, [], by rw [eq], solid, open'⟩
  | spelled => exact ⟨Byte.quote, _, [], rfl, by decide, by decide⟩
  | wrapped => exact ⟨Byte.openBrace, _, _, rfl, by decide, by decide⟩

/-! ### One element -/

/-- In front of an element, the element is due. -/
theorem exists_readNextElement_eq {f : Field} {v : List Bytes} (isValue : IsValueOf values f v)
    {items : List (List Bytes)} (h : Spaced (separated first (v :: items) ++ ts) s) :
    ∃ rest, readNextElement first s = .ok (.more rest) ∧
      Spaced (v ++ (separated false items ++ ts)) rest := by
  obtain ⟨b, t, us, rfl, solid, notEnd⟩ := isValue.exists_head
  cases first with
  | true =>
      rw [separated, List.append_assoc] at h
      obtain ⟨rest, found, more⟩ := h.exists_skipSpace_eq solid
      refine ⟨b :: (t ++ rest), ?_, .token blank_nil (b :: t) more⟩
      simp only [readNextElement, found, if_neg notEnd, if_pos]
  | false =>
      rw [separated, List.cons_append, List.append_assoc] at h
      obtain ⟨behind, comma, more⟩ := h.exists_skipSpace_eq (by decide)
      obtain ⟨rest, found, more⟩ := more.exists_skipSpace_eq solid
      refine ⟨b :: (t ++ rest), ?_, .token blank_nil (b :: t) more⟩
      have next : readElementAfterComma behind = .ok (.more (b :: (t ++ rest))) := by
        simp only [readElementAfterComma, found, if_neg notEnd]
      rw [readNextElement, comma]
      exact next

/-- The element of a field that is due sets the field. -/
theorem exists_readElements_element_eq {f : Field} {v : List Bytes} (isValue : IsValueOf values f v)
    (due : List Field) {items : List (List Bytes)}
    (h : Spaced (separated first (v :: items) ++ ts) s) (ends : Delimits ts) :
    ∃ rest, readElements (f :: due) first settings s
        = readElements due false (settings.withFields [f] values) rest ∧
      Spaced (separated false items ++ ts) rest := by
  obtain ⟨inside, next, more⟩ := exists_readNextElement_eq isValue h
  obtain ⟨rest, read, more⟩ := isValue.readField_eq settings more (delimits_separated ends items)
  refine ⟨rest, ?_, more⟩
  rw [readElements, next]
  simp only [bind, Except.bind, read]

/-- At the end of a list, the settings are those that have been read. -/
theorem exists_readElements_closeBracket_eq (due : List Field) (first : Bool) (settings : Settings)
    (h : Spaced ([Byte.closeBracket] :: ts) s) :
    ∃ rest, readElements due first settings s = .ok (settings, rest) ∧ Spaced ts rest := by
  obtain ⟨rest, found, more⟩ := h.exists_skipSpace_eq (by decide)
  refine ⟨rest, ?_, more⟩
  cases due with
  | nil =>
      rw [readElements, readListEnd, found]
      rfl
  | cons f due =>
      rw [readElements, readNextElement, found]
      rfl

/-- When no field is due any more, the list may not go on. -/
theorem exists_readElements_comma_error_eq (first : Bool) (settings : Settings)
    (h : Spaced ([Byte.comma] :: ts) s) : ∃ e, readElements [] first settings s = .error e := by
  obtain ⟨rest, found, -⟩ := h.exists_skipSpace_eq (by decide)
  have comma : Byte.comma ≠ Byte.closeBracket := by decide
  simp only [readElements, readListEnd, List.nil_append, found, if_neg comma]
  split
  · exact ⟨_, rfl⟩
  · exact ⟨_, rfl⟩

/-! ### Some elements -/

/-- The elements of the fields that are due first set these fields, whatever elements follow. -/
theorem exists_readElements_elements_eq (settings : Settings) {fields : List Field}
    {elements : List (List Bytes)} (areValues : List.Forall₂ (IsValueOf values) fields elements)
    (due : List Field) (items : List (List Bytes))
    (h : Spaced (separated first (elements ++ items) ++ ts) s) (ends : Delimits ts) :
    ∃ rest, readElements (fields ++ due) first settings s
        = readElements due (first && fields.isEmpty) (settings.withFields fields values) rest ∧
      Spaced (separated (first && fields.isEmpty) items ++ ts) rest := by
  -- one element at a time, each in front of the others
  induction areValues generalizing first settings s with
  | nil =>
      rw [List.isEmpty_nil, Bool.and_true]
      exact ⟨s, rfl, h⟩
  | @cons f v fields elements isValue areValues ih =>
      obtain ⟨rest, eq, more⟩ := exists_readElements_element_eq isValue (fields ++ due) h ends
      obtain ⟨rest', eq', more'⟩ := ih (settings.withFields [f] values) more
      rw [List.isEmpty_cons, Bool.and_false]
      refine ⟨rest', ?_, more'⟩
      rw [List.cons_append, eq, eq', ← withFields_cons]
      rfl

end Elements

/-! ### Whole lists -/

/-- Reading a list is reading its elements with all fields due. -/
theorem exists_ofBytes_list_eq {items : List (List Bytes)} {s : Bytes} (h : Spaced (listTokens items) s) :
    ∃ rest, Spaced (separated true items ++ [[Byte.closeBracket]]) rest ∧
      ofBytes s = (readElements Field.all true default rest).bind fun (settings, rest) =>
        match skipSpace rest with
        | [] => .ok settings
        | _ => .error .trailingCharacters := by
  obtain ⟨rest, found, more⟩ := h.exists_skipSpace_eq (by decide)
  refine ⟨rest, more, ?_⟩
  rw [ofBytes, readSettings, found]
  rfl

theorem delimits_closeBracket (ts : List Bytes) : Delimits ([Byte.closeBracket] :: ts) :=
  Or.inr (Or.inr rfl)

section Lists

variable {values : Settings} {fields : List Field} {elements : List (List Bytes)} {s : Bytes}

/-- A list of the values of the first fields is read as the defaults with these fields replaced. -/
theorem ofBytes_list {due : List Field} (all : Field.all = fields ++ due)
    (areValues : List.Forall₂ (IsValueOf values) fields elements) (h : Spaced (listTokens elements) s) :
    ofBytes s = .ok (default.withFields fields values) := by
  obtain ⟨inside, more, eq⟩ := exists_ofBytes_list_eq h
  rw [← List.append_nil elements] at more
  obtain ⟨rest, read, more⟩ := exists_readElements_elements_eq default areValues due [] more
    (delimits_closeBracket [])
  obtain ⟨behind, finished, more⟩ := exists_readElements_closeBracket_eq due _ _ more
  rw [eq, all, read, finished]
  simp only [Except.bind, more.skipSpace_eq_nil]

/-- A list that goes on when all fields have a value is refused, whatever it goes on with. -/
theorem exists_ofBytes_list_error_eq (areValues : List.Forall₂ (IsValueOf values) Field.all elements)
    {extra : List Bytes} {others : List (List Bytes)}
    (h : Spaced (listTokens (elements ++ extra :: others)) s) : ∃ e, ofBytes s = .error e := by
  obtain ⟨inside, more, eq⟩ := exists_ofBytes_list_eq h
  obtain ⟨rest, read, more⟩ := exists_readElements_elements_eq default areValues [] (extra :: others) more
    (delimits_closeBracket [])
  obtain ⟨e, refused⟩ := exists_readElements_comma_error_eq false (default.withFields Field.all values) more
  refine ⟨e, ?_⟩
  rw [List.append_nil] at read
  rw [eq, read]
  exact congrArg (Except.bind · _) refused

end Lists

/-! ### Lists and objects -/

/-- The order of the fields that are replaced does not matter. -/
theorem withFields_of_perm {fields fields' : List Field} (same : fields.Perm fields')
    (s values : Settings) : s.withFields fields values = s.withFields fields' values := by
  simp only [withFields, same.mem_iff]

/-- **Lists and objects of settings agree.**  A list of the values of the first fields, in the order of their
declaration, is read like an object that gives these fields the same values, in any order: as the defaults with
these fields replaced.  Values and names may be written in any way, and there may be any blanks between tokens.
A list that goes on behind the values of all fields is refused, whatever it goes on with. -/
theorem parseText_listTokens {α : Type} (values : Settings) :
    (∀ (k : Nat) (elements : List (List Bytes)),
      List.Forall₂ (IsValueOf values) (Field.all.take k) elements →
      ∀ (fields : List Field) (members : List (List Bytes)), fields.Perm (Field.all.take k) →
      List.Forall₂ (IsMemberOf values) fields members →
      ∀ list object : String, Spaced (listTokens elements) list.toUTF8.data.toList →
      Spaced (objectTokens members) object.toUTF8.data.toList →
        (parseText list : Except (Fault α) Settings)
          = .ok (default.withFields (Field.all.take k) values) ∧
        (parseText object : Except (Fault α) Settings) = parseText list) ∧
    ∀ (elements : List (List Bytes)) (extra : List Bytes) (others : List (List Bytes)),
      List.Forall₂ (IsValueOf values) Field.all elements →
      ∀ list : String, Spaced (listTokens (elements ++ extra :: others)) list.toUTF8.data.toList →
        ∃ e, (parseText list : Except (Fault α) Settings) = .error (.serialization (.malformed e)) := by
  constructor
  · intro k elements areValues fields members perm areMembers list object hlist hobject
    have distinct : fields.Nodup := perm.nodup_iff.mpr ((List.take_sublist _ _).nodup (by decide))
    have split : Field.all = Field.all.take k ++ Field.all.drop k := (List.take_append_drop _ _).symm
    have byPosition : (parseText list : Except (Fault α) Settings)
        = .ok (default.withFields (Field.all.take k) values) := by
      rw [parseText, parse, ofBytes_list split areValues hlist]
      rfl
    refine ⟨byPosition, ?_⟩
    rw [byPosition, parseText, parse, ofBytes_object distinct areMembers hobject,
      withFields_of_perm perm]
    rfl
  · intro elements extra others areValues list h
    obtain ⟨e, refused⟩ := exists_ofBytes_list_error_eq areValues h
    refine ⟨e, ?_⟩
    rw [parseText, parse, refused]
    rfl

/-- Six fields: as a list in which the strategy is the key of an object, and as an object in another order in
which the name of the strategy starts with an escape; and a list with eight elements. -/
theorem parseText_listTokens_six :
    (parseText "[640,480,-3,7,null,\x7b\"parallel\":null\x7d]" : Except (Fault Float) Settings)
      = .ok { width := 640, height := 480, minDepth := -3, maxDepth := 7, strategy := some .parallel } ∧
    (parseText ("\x7b\"seed\":null,\"strategy\":\"\\u0070arallel\",\"height\":480," ++
        "\"max_depth\":7,\"min_depth\":-3,\"width\":640\x7d") : Except (Fault Float) Settings)
      = parseText "[640,480,-3,7,null,\x7b\"parallel\":null\x7d]" ∧
    ∃ e, (parseText "[640,480,-3,7,null,\"parallel\",null,[]]" : Except (Fault Float) Settings)
      = .error (.serialization (.malformed e)) := by
  have compact {ts : List Bytes} (text : String) (h : bytesOf text.toList = ts.flatten) :
      Spaced ts text.toUTF8.data.toList := by
    rw [toList_toUTF8, h]
    exact spaced_flatten ts
  have escaped : Spells (bytesOf "\\u0070arallel".toList) (bytesOf Strategy.parallel.name.toList) :=
    .point (n := 0x70) rfl rfl rfl (spells_self (s := bytesOf "arallel".toList) (by decide))
  let values : Settings :=
    { width := 640, height := 480, minDepth := -3, maxDepth := 7, strategy := some .parallel }
  obtain ⟨agree, overlong⟩ := parseText_listTokens (α := Float) values
  obtain ⟨byPosition, byName⟩ := agree 6 _
    (.cons (.written .width) (.cons (.written .height) (.cons (.written .minDepth)
      (.cons (.written .maxDepth) (.cons (.written .seed)
        (.cons (.wrapped rfl (spells_strategy .parallel)) .nil))))))
    [.seed, .strategy, .height, .maxDepth, .minDepth, .width] _ (by decide)
    (.cons (isMemberOf_member _ .seed)
      (.cons ⟨_, _, spells_fieldName .strategy, .spelled rfl escaped, rfl⟩
        (forall₂_isMemberOf_member _ [.height, .maxDepth, .minDepth, .width])))
    "[640,480,-3,7,null,\x7b\"parallel\":null\x7d]"
    ("\x7b\"seed\":null,\"strategy\":\"\\u0070arallel\",\"height\":480," ++
      "\"max_depth\":7,\"min_depth\":-3,\"width\":640\x7d")
    (compact _ (by decide)) (compact _ (by decide))
  refine ⟨byPosition, byName, overlong (Field.all.map fun f => [bytesOf (values.writeField f)])
    [bytesOf "[]".toList] [] ?_ _ (compact _ (by decide))⟩
  exact List.forall₂_map_right_iff.mpr (List.forall₂_same.mpr fun f _ => .written f)

end Settings

end FormulaArt
