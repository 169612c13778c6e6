import FormulaArt.Proofs.Settings.Field
import FormulaArt.Proofs.Settings.StringLiteral
import FormulaArt.Settings.Printer
import Mathlib.Data.List.Forall2
import Mathlib.Data.List.Nodup

/-!
# Objects with fields

An object names some fields in any order and gives a value to each.  Reading it member by member, what
has been read is always the same for the rest of the bytes: the fields that are still absent, and the
defaults with the values of the other fields in their places.  Settings that are written down as one
line are such an object, so they are read back.

## Main definitions

* `separated`, `memberTokens`, `objectTokens` — the tokens of an object
* `IsValueOf`, `IsMemberOf` — the ways of writing the value of a field, and of giving it in an object
* `Settings.member` — the tokens of a field with its value

## Main statements

* `exists_readMembers_eq` — what happens to one member, whatever its name
* `IsValueOf.readField_eq` — the value of a field is read back, however it is written
* `exists_readMembers_members_eq` — some members with distinct fields
* `ofBytes_object`, `parse_object` — a whole object
* `parse_toJson` — settings are read back

## Design notes

The run over members stops in front of any other members.  That is what an object needs that has a
flaw somewhere behind them.
-/

namespace FormulaArt

namespace Settings

/-! ### Tokens -/

/-- Bytes in quotes. -/
def quoted (s : Bytes) : Bytes :=
  Byte.quote :: (s ++ [Byte.quote])

/-- The tokens of items with commas between them, and with one in front if these are not the first. -/
def separated : Bool → List (List Bytes) → List Bytes
  | _, [] => []
  | true, item :: items => item ++ separated false items
  | false, item :: items => [Byte.comma] :: (item ++ separated false items)

/-- The tokens of a member. -/
def memberTokens (key : Bytes) (value : List Bytes) : List Bytes :=
  quoted key :: [Byte.colon] :: value

/-- The tokens of an object. -/
def objectTokens (members : List (List Bytes)) : List Bytes :=
  [Byte.openBrace] :: (separated true members ++ [[Byte.closeBrace]])

/-- The tokens of a field with its value. -/
def member (values : Settings) (f : Field) : List Bytes :=
  memberTokens (bytesOf f.name.toList) [bytesOf (values.writeField f)]

theorem bytesOf_writeName_eq_quoted (name : String) :
    bytesOf (writeName name) = quoted (bytesOf name.toList) :=
  bytesOf_writeName name

/-- What follows a value in an object or a list starts with no more of the value. -/
theorem delimits_separated {ts : List Bytes} (ends : Delimits ts) (items : List (List Bytes)) :
    Delimits (separated false items ++ ts) := by
  cases items with
  | nil => exact ends
  | cons item items => exact Or.inl rfl

theorem delimits_closeBrace (ts : List Bytes) : Delimits ([Byte.closeBrace] :: ts) :=
  Or.inr (Or.inl rfl)

/-! ### Names of fields -/

theorem Field.mem_all (f : Field) : f ∈ Field.all := by
  cases f <;> decide

theorem ofName?_name (f : Field) : Field.ofName? f.name = some f := by
  cases f <;> decide

/-- No name of a field has to be escaped. -/
theorem spells_fieldName (f : Field) :
    Spells (bytesOf f.name.toList) (bytesOf f.name.toList) := by
  refine spells_self ?_
  cases f <;> decide

/-! ### One member -/

section Members

variable {absent : List Field} {first : Bool} {settings : Settings} {ts : List Bytes} {s : Bytes}

/-- In front of a member, its key is due. -/
theorem exists_readNextKey_eq {key : Bytes} {item : List Bytes} {items : List (List Bytes)}
    (h : Spaced (separated first ((quoted key :: item) :: items) ++ ts) s) :
    ∃ rest, readNextKey first s = .ok (.more (key ++ Byte.quote :: rest)) ∧
      Spaced (item ++ (separated false items ++ ts)) rest := by
  cases first with
  | true =>
      rw [separated, List.append_assoc, List.cons_append, quoted] at h
      obtain ⟨rest, found, more⟩ := h.exists_skipSpace_eq (by decide)
      refine ⟨rest, ?_, more⟩
      rw [List.append_assoc, List.singleton_append] at found
      rw [readNextKey, found]
      rfl
  | false =>
      rw [separated, List.cons_append, List.append_assoc, List.cons_append, quoted] at h
      obtain ⟨behind, comma, more⟩ := h.exists_skipSpace_eq (by decide)
      obtain ⟨rest, found, more⟩ := more.exists_skipSpace_eq (by decide)
      refine ⟨rest, ?_, more⟩
      rw [List.append_assoc, List.singleton_append] at found
      rw [readNextKey, comma]
      simp only [List.nil_append, readKeyAfterComma, found]
      rfl

/-- In front of a closing brace, no key is due. -/
theorem exists_readNextKey_eq_finished (first : Bool) (h : Spaced ([Byte.closeBrace] :: ts) s) :
    ∃ rest, readNextKey first s = .ok (.finished rest) ∧ Spaced ts rest := by
  obtain ⟨rest, found, more⟩ := h.exists_skipSpace_eq (by decide)
  exact ⟨rest, by rw [readNextKey, found]; rfl, more⟩

theorem exists_readColon_eq (h : Spaced ([Byte.colon] :: ts) s) :
    ∃ rest, readColon s = .ok rest ∧ Spaced ts rest := by
  obtain ⟨rest, found, more⟩ := h.exists_skipSpace_eq (by decide)
  exact ⟨rest, by rw [readColon, found]; rfl, more⟩

/-- The name of a member decides what is done with its value. -/
theorem exists_readMembers_eq (absent : List Field) (settings : Settings) {key : Bytes}
    {name : String} (spelled : Spells key (bytesOf name.toList)) {value : List Bytes}
    {members : List (List Bytes)}
    (h : Spaced (separated first (memberTokens key value :: members) ++ ts) s) :
    ∃ rest, Spaced (value ++ (separated false members ++ ts)) rest ∧
      readMembers absent first settings s =
        match Field.ofName? name with
        | none => .error (.unknownField name)
        | some f =>
          if f ∈ absent then
            (readField f settings rest).bind fun (settings, rest) =>
              readMembers (absent.erase f) false settings rest
          else
            .error (.duplicateField f) := by
  obtain ⟨behind, key, more⟩ := exists_readNextKey_eq h
  obtain ⟨rest, colon, more⟩ := exists_readColon_eq more
  refine ⟨rest, more, ?_⟩
  rw [readMembers, key]
  simp only [bind, Except.bind, readString_of_spells_text spelled]
  cases Field.ofName? name with
  | none => rfl
  | some f =>
      by_cases mem : f ∈ absent
      · simp only [dif_pos mem, if_pos mem, colon]
      · simp only [dif_neg mem, if_neg mem]
        rfl

/-- At the closing brace, the settings are those that have been read. -/
theorem exists_readMembers_closeBrace_eq (h : Spaced ([Byte.closeBrace] :: ts) s) :
    ∃ rest, readMembers absent first settings s = .ok (settings, rest) ∧ Spaced ts rest := by
  obtain ⟨rest, finished, more⟩ := exists_readNextKey_eq_finished first h
  refine ⟨rest, ?_, more⟩
  rw [readMembers, finished]
  rfl

end Members

/-! ### Values written in any way -/

/-- The ways of writing the value that a field has.  There is more than one only for strategies: a name may be
spelled with escapes, and it may be the only key of an object instead of a string. -/
inductive IsValueOf (values : Settings) : Field → List Bytes → Prop
  | written (f : Field) : IsValueOf values f [bytesOf (values.writeField f)]
  | spelled {strategy : Strategy} (chosen : values.strategy = some strategy) {key : Bytes}
      (spells : Spells key (bytesOf strategy.name.toList)) : IsValueOf values .strategy [quoted key]
  | wrapped {strategy : Strategy} (chosen : values.strategy = some strategy) {key : Bytes}
      (spells : Spells key (bytesOf strategy.name.toList)) :
      IsValueOf values .strategy (objectTokens [memberTokens key [bytesOf "null".toList]])

/-- The ways of giving a field its value in an object. -/
def IsMemberOf (values : Settings) (f : Field) (item : List Bytes) : Prop :=
  ∃ key value, Spells key (bytesOf f.name.toList) ∧ IsValueOf values f value ∧
    item = memberTokens key value

theorem isMemberOf_member (values : Settings) (f : Field) : IsMemberOf values f (values.member f) :=
  ⟨_, _, spells_fieldName f, .written f, rfl⟩

theorem forall₂_isMemberOf_member (values : Settings) (fields : List Field) :
    List.Forall₂ (IsMemberOf values) fields (fields.map values.member) :=
  List.forall₂_map_right_iff.mpr (List.forall₂_same.mpr fun f _ => isMemberOf_member values f)

section Values

variable {ts : List Bytes} {s : Bytes}

/-- A strategy is read from an object with its name as the only key. -/
theorem readStrategy_objectTokens {strategy : Strategy} {key : Bytes}
    (spells : Spells key (bytesOf strategy.name.toList))
    (h : Spaced (objectTokens [memberTokens key [bytesOf "null".toList]] ++ ts) s) :
    ∃ rest, readStrategy s = .ok (strategy, rest) ∧ Spaced ts rest := by
  rw [objectTokens, List.cons_append, List.append_assoc] at h
  obtain ⟨inside, opened, more⟩ := h.exists_skipSpace_eq (by decide)
  obtain ⟨behindKey, key, more⟩ := exists_readNextKey_eq more
  obtain ⟨behindColon, colon, more⟩ := exists_readColon_eq more
  obtain ⟨behindNull, null, more⟩ := more.exists_skipSpace_eq (b := Byte.lowerN) (by decide)
  obtain ⟨rest, closed, more⟩ := more.exists_skipSpace_eq (b := Byte.closeBrace) (by decide)
  have unit : readUnit behindColon = .ok behindNull := by
    rw [readUnit, null]
    rfl
  have single : readSingleEnd behindNull = .ok rest := by
    rw [readSingleEnd, closed]
    rfl
  have object : readStrategyObject inside = .ok (strategy, rest) := by
    rw [readStrategyObject, key]
    simp only [bind, Except.bind, readVariant, readString_of_spells_text spells,
      strategyNamed_name strategy, pure, Except.pure, colon, unit, single]
  refine ⟨rest, ?_, more⟩
  rw [readStrategy, opened]
  exact object

/-- A value that is read as a strategy is read as one that is present. -/
theorem readField_strategy_of_present {values : Settings} {strategy : Strategy}
    (chosen : values.strategy = some strategy) (settings : Settings) {b : UInt8} {t : Bytes}
    {us : List Bytes} (solid : Byte.isSpace b = false) (notNull : b ≠ Byte.lowerN)
    (present : ∀ s, Spaced ((b :: t) :: us) s →
      ∃ rest, readStrategy s = .ok (strategy, rest) ∧ Spaced ts rest)
    (h : Spaced ((b :: t) :: us) s) :
    ∃ rest, readField .strategy settings s = .ok (settings.withFields [.strategy] values, rest) ∧
      Spaced ts rest := by
  obtain ⟨s', h, asPresent⟩ := exists_readOptional_eq readStrategy solid notNull h
  obtain ⟨rest, value, more⟩ := present s' h
  have replaced : settings.withFields [.strategy] values = { settings with strategy := some strategy } := by
    rw [← chosen]
    rfl
  refine ⟨rest, ?_, more⟩
  rw [readField, asPresent, readPresent, value, replaced]
  rfl

/-- The value of a field is read back, however it is written, and no other field is changed. -/
theorem IsValueOf.readField_eq {values : Settings} {f : Field} {v : List Bytes}
    (isValue : IsValueOf values f v) (settings : Settings) (h : Spaced (v ++ ts) s)
    (ends : Delimits ts) :
    ∃ rest, readField f settings s = .ok (settings.withFields [f] values, rest) ∧ Spaced ts rest := by
  cases isValue with
  | written f => exact readField_writeField f settings values h ends
  | spelled chosen spells =>
      exact readField_strategy_of_present chosen settings (by decide) (by decide)
        (fun _ h => readStrategy_of_spells spells h) h
  | wrapped chosen spells =>
      exact readField_strategy_of_present chosen settings (by decide) (by decide)
        (fun _ h => readStrategy_objectTokens spells h) h

end Values

/-! ### Members with distinct fields -/

/-- The member of an absent field sets the field. -/
theorem exists_readMembers_member_eq {values : Settings} {absent : List Field} {first : Bool}
    (settings : Settings) {f : Field} (mem : f ∈ absent) {item : List Bytes}
    (isMember : IsMemberOf values f item) {members : List (List Bytes)} {ts : List Bytes} {s : Bytes}
    (h : Spaced (separated first (item :: members) ++ ts) s) (ends : Delimits ts) :
    ∃ rest, readMembers absent first settings s
        = readMembers (absent.erase f) false (settings.withFields [f] values) rest ∧
      Spaced (separated false members ++ ts) rest := by
  obtain ⟨key, value, spells, isValue, rfl⟩ := isMember
  obtain ⟨behind, more, eq⟩ := exists_readMembers_eq absent settings spells h
  obtain ⟨rest, read, more⟩ := isValue.readField_eq settings more (delimits_separated ends members)
  refine ⟨rest, ?_, more⟩
  rw [eq, ofName?_name]
  simp only [if_pos mem, read, Except.bind]

/-- The members of distinct absent fields set these fields, whatever members follow. -/
theorem exists_readMembers_members_eq (settings : Settings) {values : Settings}
    {fields absent : List Field} (distinct : fields.Nodup) (given : fields ⊆ absent) {first : Bool}
    {items members : List (List Bytes)} (areMembers : List.Forall₂ (IsMemberOf values) fields items)
    {ts : List Bytes} {s : Bytes} (h : Spaced (separated first (items ++ members) ++ ts) s)
    (ends : Delimits ts) :
    ∃ first' rest, readMembers absent first settings s
        = readMembers (absent.diff fields) first' (settings.withFields fields values) rest ∧
      Spaced (separated first' members ++ ts) rest := by
  -- one member at a time: the other fields are distinct, and still absent without the first
  induction areMembers generalizing absent first settings s with
  | nil => exact ⟨first, s, rfl, h⟩
  | @cons f item fields items isMember areMembers ih =>
      obtain ⟨fresh, distinct⟩ := List.nodup_cons.mp distinct
      obtain ⟨mem, given⟩ := List.cons_subset.mp given
      obtain ⟨rest, eq, more⟩ := exists_readMembers_member_eq settings mem isMember h ends
      have still : fields ⊆ absent.erase f := by
        intro g listed
        refine (List.mem_erase_of_ne ?_).mpr (given listed)
        rintro rfl
        exact fresh listed
      obtain ⟨first', rest', eq', more'⟩ := ih (settings.withFields [f] values) distinct still more
      refine ⟨first', rest', ?_, more'⟩
      rw [eq, eq', List.diff_cons, ← withFields_cons]

/-! ### Whole objects -/

/-- Reading an object is reading its members with all fields absent. -/
theorem exists_ofBytes_eq {members : List (List Bytes)} {s : Bytes}
    (h : Spaced (objectTokens members) s) :
    ∃ rest, Spaced (separated true members ++ [[Byte.closeBrace]]) rest ∧
      ofBytes s = (readMembers Field.all true default rest).bind fun (settings, rest) =>
        match skipSpace rest with
        | [] => .ok settings
        | _ => .error .trailingCharacters := by
  obtain ⟨rest, found, more⟩ := h.exists_skipSpace_eq (by decide)
  refine ⟨rest, more, ?_⟩
  rw [ofBytes, readSettings, found]
  rfl

/-- An object of distinct fields in any order is read as the defaults with these fields replaced. -/
theorem ofBytes_object {values : Settings} {fields : List Field} (distinct : fields.Nodup)
    {items : List (List Bytes)} (areMembers : List.Forall₂ (IsMemberOf values) fields items) {s : Bytes}
    (h : Spaced (objectTokens items) s) : ofBytes s = .ok (default.withFields fields values) := by
  obtain ⟨inside, more, eq⟩ := exists_ofBytes_eq h
  rw [← List.append_nil items] at more
  obtain ⟨first, rest, members, more⟩ := exists_readMembers_members_eq default distinct
    (fun f _ => f.mem_all) areMembers more (delimits_closeBrace [])
  obtain ⟨behind, finished, more⟩ := exists_readMembers_closeBrace_eq more
  rw [eq, members, finished]
  simp only [Except.bind, more.skipSpace_eq_nil]

theorem parse_object {α : Type} (values : Settings) {fields : List Field} (distinct : fields.Nodup)
    {s : Bytes} (h : Spaced (objectTokens (fields.map values.member)) s) :
    (parse s : Except (Fault α) Settings) = .ok (default.withFields fields values) := by
  rw [parse, ofBytes_object distinct (forall₂_isMemberOf_member values fields) h]
  rfl

/-! ### Settings as one line -/

/-- A member as it is written down has no blanks. -/
theorem bytesOf_writeMember (s : Settings) (f : Field) :
    bytesOf (s.writeMember f) = (s.member f).flatten := by
  rw [writeMember, bytesOf_append, bytesOf_writeName_eq_quoted, bytesOf_cons, member, memberTokens]
  simp only [List.flatten_cons, List.flatten_nil, List.append_nil]
  rfl

theorem bytesOf_flatten_intersperse (s : Settings) (fields : List Field) :
    bytesOf ((fields.map s.writeMember).intersperse [',']).flatten
      = (separated true (fields.map s.member)).flatten := by
  induction fields with
  | nil => rfl
  | cons f fields ih =>
      cases fields with
      | nil => simp [separated, bytesOf_writeMember]
      | cons g fields =>
          have behind : separated true ((f :: g :: fields).map s.member)
              = s.member f ++ [Byte.comma] :: separated true ((g :: fields).map s.member) := rfl
          rw [behind, List.flatten_append, List.flatten_cons, ← ih, List.map_cons, List.map_cons,
            List.intersperse_cons_cons, List.flatten_cons, List.flatten_cons, bytesOf_append,
            bytesOf_append, bytesOf_writeMember]
          rfl

/-- The line that is written down is an object with all fields. -/
theorem bytesOf_write (s : Settings) :
    bytesOf s.write = (objectTokens (Field.all.map s.member)).flatten := by
  rw [write, List.cons_append, bytesOf_cons, bytesOf_append, bytesOf_flatten_intersperse, objectTokens,
    List.flatten_cons, List.flatten_append]
  rfl

/-- Settings that are written down as one line are read back, from the line and from its bytes. -/
theorem parse_toJson {α : Type} (s : Settings) :
    (parseText s.toJson : Except (Fault α) Settings) = .ok s ∧
      (parse s.toJson.toUTF8.data.toList : Except (Fault α) Settings) = .ok s := by
  have line : s.toJson.toUTF8.data.toList = (objectTokens (Field.all.map s.member)).flatten := by
    rw [toList_toUTF8, toJson, String.toList_ofList, bytesOf_write]
  have read : (parse s.toJson.toUTF8.data.toList : Except (Fault α) Settings) = .ok s := by
    rw [line, parse_object s (by decide) (spaced_flatten _), withFields_all]
  exact ⟨read, read⟩

end Settings

end FormulaArt
