import Mathlib
import Provision.Json.Printer
import Provision.Json.Reader
import Provision.Json.Record

/-!
# Values and their texts

The reader of values on what the printer writes. Neither knows how numbers and strings are written:
that they are read back is what is asked of a codec.

- `Codec.read?_text`: a value reads back from its text, whatever white space is in it, if the codec
  reads back its numbers and all strings.
-/

namespace Provision.Json

/-! ## White space -/

theorem skipSpace_eq {c : Char} {r : List Char} (h : isSpace c = false) :
    skipSpace (c :: r) = c :: r := List.dropWhile_cons_of_neg (by simp [h])

theorem skipSpace_append {blank : List Char} (h : ∀ c ∈ blank, isSpace c = true) (s : List Char) :
    skipSpace (blank ++ s) = skipSpace s := by
  rw [skipSpace, List.dropWhile_append_of_pos h, skipSpace]

theorem skipSpace_skipSpace (s : List Char) : skipSpace (skipSpace s) = skipSpace s :=
  List.dropWhile_idempotent ..

/-- Nothing but white space is put between the entries. -/
structure Spacing.IsBlank (spacing : Spacing) : Prop where
  line (depth : Nat) : ∀ c ∈ (spacing.line depth).toList, isSpace c = true
  gap : ∀ c ∈ spacing.gap.toList, isSpace c = true

theorem Spacing.compact_isBlank : compact.IsBlank := ⟨fun _ => nofun, nofun⟩

theorem Spacing.pretty_isBlank : pretty.IsBlank where
  line depth c hc := by
    rw [pretty, String.toList_ofList, List.mem_cons, List.mem_replicate] at hc
    rcases hc with rfl | ⟨-, rfl⟩ <;> rfl
  gap c hc := by
    rw [List.mem_singleton.mp hc]
    rfl

/-! ## What a codec reads back -/

/-- What may follow a value in a text. -/
def Closes (rest : List Char) : Prop :=
  ∀ c ∈ rest.head?, isSpace c = true ∨ c = ',' ∨ c = ']' ∨ c = '\x7d'

theorem closes_append {blank : List Char} (h : ∀ c ∈ blank, isSpace c = true) {rest : List Char}
    (closes : Closes rest) : Closes (blank ++ rest) := by
  cases blank with
  | nil => exact closes
  | cons c blank =>
    rintro _ ⟨⟩
    exact Or.inl (h c (List.mem_cons_self ..))

namespace Codec

/-- The text of a number begins as a number, and reads back whatever closes behind it. -/
structure KeepsNumber (codec : Codec) (n : Number) : Prop where
  opens : ∃ c r, (codec.numberText n).toList = c :: r ∧ opensNumber c = true
  back (rest : List Char) (closes : Closes rest) :
    codec.number? ((codec.numberText n).toList ++ rest) = some (n, rest)

/-- The text of a string reads back behind its opening quote. -/
def KeepsString (codec : Codec) (s : String) : Prop :=
  ∃ quoted, (codec.stringText s).toList = '"' :: quoted ∧
    ∀ rest, codec.string? (quoted ++ rest) = some (some s, rest)

/-- Nothing in the value is lost in its text: names and strings have all their characters, and
every number reads back. -/
inductive Keeps (codec : Codec) : Value → Prop where
  | null : codec.Keeps .null
  | bool (b : Bool) : codec.Keeps (.bool b)
  | number {n : Number} (h : codec.KeepsNumber n) : codec.Keeps (.number n)
  | text (s : String) : codec.Keeps (.text s)
  | array {items : List Value} (h : ∀ item ∈ items, codec.Keeps item) : codec.Keeps (.array items)
  | record {fields : Record} (h : ∀ field ∈ fields, codec.Keeps field.2) :
    codec.Keeps (.record fields)

end Codec

/-- The entries of an object with given names. -/
def Record.entries (r : Record) : List (Text × Value) :=
  r.map fun (name, value) => (some name, value)

/-! ## Reading what is written -/

namespace Codec

variable {codec : Codec} {spacing : Spacing}

theorem value?_skipSpace (fuel : Nat) (s : List Char) :
    codec.value? fuel (skipSpace s) = codec.value? fuel s := by
  cases fuel with
  | zero => rfl
  | succ fuel => rw [value?, value?, skipSpace_skipSpace]

theorem items?_skipSpace (fuel : Nat) (s : List Char) :
    codec.items? fuel (skipSpace s) = codec.items? fuel s := by
  cases fuel with
  | zero => rfl
  | succ fuel => rw [items?, items?, value?_skipSpace]

theorem fields?_skipSpace (fuel : Nat) (s : List Char) :
    codec.fields? fuel (skipSpace s) = codec.fields? fuel s := by
  cases fuel with
  | zero => rfl
  | succ fuel => rw [fields?, fields?, skipSpace_skipSpace]

theorem value?_append {blank : List Char} (h : ∀ c ∈ blank, isSpace c = true) (fuel : Nat)
    (s : List Char) : codec.value? fuel (blank ++ s) = codec.value? fuel s := by
  rw [← value?_skipSpace, skipSpace_append h, value?_skipSpace]

section
variable (codec spacing) (depth : Nat)

theorem toList_null : (codec.text spacing depth .null).toList = ['n', 'u', 'l', 'l'] := by
  rw [text]
  rfl

theorem toList_bool (b : Bool) : (codec.text spacing depth (.bool b)).toList =
    if b then ['t', 'r', 'u', 'e'] else ['f', 'a', 'l', 's', 'e'] := by
  rw [text]
  cases b <;> rfl

theorem toList_array_nil : (codec.text spacing depth (.array [])).toList = ['[', ']'] := by
  rw [text]
  rfl

theorem toList_array_cons (item : Value) (more : List Value) :
    (codec.text spacing depth (.array (item :: more))).toList =
      '[' :: ((codec.itemsText spacing (depth + 1) (item :: more)).toList ++
        ((spacing.line depth).toList ++ [']'])) := by
  simp [text]

theorem toList_record_nil : (codec.text spacing depth (.record [])).toList = ['\x7b', '\x7d'] := by
  rw [Value.record, List.map_nil, text]
  rfl

theorem toList_record_cons (field : String × Value) (more : Record) :
    (codec.text spacing depth (.record (field :: more))).toList =
      '\x7b' :: ((codec.fieldsText spacing (depth + 1) (Record.entries (field :: more))).toList ++
        ((spacing.line depth).toList ++ ['\x7d'])) := by
  simp [text, Value.record, Record.entries]

theorem toList_items_cons (item next : Value) (more : List Value) :
    (codec.itemsText spacing depth (item :: next :: more)).toList =
      (spacing.line depth).toList ++ ((codec.text spacing depth item).toList ++
        ',' :: (codec.itemsText spacing depth (next :: more)).toList) := by
  simp [itemsText]

variable {name : String} {quoted : List Char}
  (front : (codec.stringText name).toList = '"' :: quoted) (value : Value)
include front

theorem toList_fields_singleton :
    (codec.fieldsText spacing depth (Record.entries [(name, value)])).toList =
      (spacing.line depth).toList ++ '"' :: (quoted ++ ':' :: (spacing.gap.toList ++
        (codec.text spacing depth value).toList)) := by
  simp [Record.entries, fieldsText, front]

theorem toList_fields_cons (next : String × Value) (more : Record) :
    (codec.fieldsText spacing depth (Record.entries ((name, value) :: next :: more))).toList =
      (spacing.line depth).toList ++ '"' :: (quoted ++ ':' :: (spacing.gap.toList ++
        ((codec.text spacing depth value).toList ++ ',' ::
          (codec.fieldsText spacing depth (Record.entries (next :: more))).toList))) := by
  simp [Record.entries, fieldsText, front]

end

/-- A value is read from its text, whatever closes behind it. -/
def Reads (codec : Codec) (spacing : Spacing) (v : Value) : Prop :=
  ∀ depth fuel rest, Closes rest → 2 * (codec.text spacing depth v).toList.length ≤ fuel →
    codec.value? fuel ((codec.text spacing depth v).toList ++ rest) = some (v, rest)

theorem closes_bracket (rest : List Char) : Closes (']' :: rest) := by
  rintro c ⟨⟩
  simp

theorem closes_brace (rest : List Char) : Closes ('\x7d' :: rest) := by
  rintro c ⟨⟩
  simp

theorem closes_comma (rest : List Char) : Closes (',' :: rest) := by
  rintro c ⟨⟩
  simp

section
variable {blank : List Char} (isBlank : ∀ c ∈ blank, isSpace c = true)
  (blankSpacing : spacing.IsBlank)
include isBlank blankSpacing

theorem items?_itemsText {items : List Value} (reads : ∀ item ∈ items, codec.Reads spacing item)
    (given : items ≠ []) (depth fuel : Nat) (rest : List Char)
    (enough : 2 * (codec.itemsText spacing depth items).toList.length + 1 ≤ fuel) :
    codec.items? fuel ((codec.itemsText spacing depth items).toList ++ (blank ++ ']' :: rest)) =
      some (items, rest) := by
  induction items generalizing fuel with
  | nil => exact absurd rfl given
  | cons item more ih =>
    obtain ⟨fuel, rfl⟩ : ∃ f, fuel = f + 1 := ⟨fuel - 1, by omega⟩
    have first := reads item (List.mem_cons_self ..)
    have line := blankSpacing.line depth
    cases more with
    | nil =>
      simp only [itemsText, String.toList_append, List.length_append] at enough ⊢
      have read := first depth fuel (blank ++ ']' :: rest)
        (closes_append isBlank (closes_bracket rest)) (by omega)
      rw [items?, List.append_assoc, value?_append line, read]
      simp only [Option.bind_eq_bind, Option.bind_some]
      rw [skipSpace_append isBlank, skipSpace_eq (by decide)]
      rfl
    | cons next more =>
      rw [toList_items_cons] at enough ⊢
      simp only [List.length_append, List.length_cons] at enough
      have read := first depth fuel (',' :: ((codec.itemsText spacing depth (next :: more)).toList ++
        (blank ++ ']' :: rest))) (closes_comma _) (by omega)
      have others := ih (fun item hi => reads item (List.mem_cons_of_mem _ hi)) (by simp) fuel
        (by omega)
      rw [items?, List.append_assoc, value?_append line, List.append_assoc, List.cons_append, read]
      simp only [Option.bind_eq_bind, Option.bind_some]
      rw [skipSpace_eq (by decide)]
      simp only [others, Option.bind_some]

theorem fields?_fieldsText (strings : ∀ s, codec.KeepsString s) {fields : Record}
    (reads : ∀ field ∈ fields, codec.Reads spacing field.2) (given : fields ≠ [])
    (depth fuel : Nat) (rest : List Char)
    (enough : 2 * (codec.fieldsText spacing depth fields.entries).toList.length + 1 ≤ fuel) :
    codec.fields? fuel
        ((codec.fieldsText spacing depth fields.entries).toList ++ (blank ++ '\x7d' :: rest)) =
      some (fields.entries, rest) := by
  induction fields generalizing fuel with
  | nil => exact absurd rfl given
  | cons field more ih =>
    obtain ⟨fuel, rfl⟩ : ∃ f, fuel = f + 1 := ⟨fuel - 1, by omega⟩
    obtain ⟨name, value⟩ := field
    have first : codec.Reads spacing value := reads (name, value) (List.mem_cons_self ..)
    have line := blankSpacing.line depth
    have gap := blankSpacing.gap
    obtain ⟨quoted, front, string⟩ := strings name
    cases more with
    | nil =>
      rw [toList_fields_singleton codec spacing depth front] at enough ⊢
      simp only [List.length_cons, List.length_append] at enough
      have read := first depth fuel (blank ++ '\x7d' :: rest)
        (closes_append isBlank (closes_brace rest)) (by omega)
      rw [List.append_assoc, fields?, skipSpace_append line, List.cons_append, List.append_assoc,
        List.cons_append, List.append_assoc, skipSpace_eq (by decide)]
      simp only [string, Option.bind_eq_bind, Option.bind_some]
      rw [skipSpace_eq (by decide)]
      simp only [value?_append gap, read, Option.bind_some]
      rw [skipSpace_append isBlank, skipSpace_eq (by decide)]
      rfl
    | cons next more =>
      rw [toList_fields_cons codec spacing depth front] at enough ⊢
      simp only [List.length_cons, List.length_append] at enough
      have read := first depth fuel
        (',' :: ((codec.fieldsText spacing depth (Record.entries (next :: more))).toList ++
          (blank ++ '\x7d' :: rest))) (closes_comma _) (by omega)
      have others := ih (fun field hf => reads field (List.mem_cons_of_mem _ hf)) (by simp) fuel
        (by omega)
      rw [List.append_assoc, fields?, skipSpace_append line, List.cons_append, List.append_assoc,
        List.cons_append, List.append_assoc, List.append_assoc, List.cons_append,
        skipSpace_eq (by decide)]
      simp only [string, Option.bind_eq_bind, Option.bind_some]
      rw [skipSpace_eq (by decide)]
      simp only [value?_append gap, read, Option.bind_some]
      rw [skipSpace_eq (by decide)]
      simp only [others, Option.bind_some]
      rfl

end

theorem solid_of_opensNumber {c : Char} (h : opensNumber c = true) :
    isSpace c = false ∧ c ≠ ']' ∧ c ≠ '\x7d' := by
  simp only [opensNumber, Bool.or_eq_true, decide_eq_true_eq] at h
  refine ⟨?_, ?_, ?_⟩
  · rw [Bool.eq_false_iff]
    intro blank
    simp only [isSpace, Bool.or_eq_true, decide_eq_true_eq] at blank
    rcases blank with ((rfl | rfl) | rfl) | rfl <;> rcases h with h | h <;> cases h
  · rintro rfl
    rcases h with h | h <;> cases h
  · rintro rfl
    rcases h with h | h <;> cases h

/-- A value does not begin with white space, nor with what closes a list or an object. -/
theorem Keeps.opens (strings : ∀ s, codec.KeepsString s) {v : Value} (h : codec.Keeps v)
    (spacing : Spacing) (depth : Nat) : ∃ c r, (codec.text spacing depth v).toList = c :: r ∧
      isSpace c = false ∧ c ≠ ']' ∧ c ≠ '\x7d' := by
  cases h with
  | null => exact ⟨'n', _, toList_null .., by decide⟩
  | bool b =>
    cases b
    · exact ⟨'f', _, toList_bool .., by decide⟩
    · exact ⟨'t', _, toList_bool .., by decide⟩
  | number h =>
    obtain ⟨c, r, front, first⟩ := h.opens
    refine ⟨c, r, ?_, solid_of_opensNumber first⟩
    rw [Codec.text, front]
  | text s =>
    obtain ⟨quoted, front, -⟩ := strings s
    refine ⟨'"', quoted, ?_, by decide⟩
    rw [Value.text, Codec.text, Option.getD_some, front]
  | @array items _ =>
    cases items with
    | nil => exact ⟨'[', _, toList_array_nil .., by decide⟩
    | cons item more => exact ⟨'[', _, toList_array_cons .., by decide⟩
  | @record fields _ =>
    cases fields with
    | nil => exact ⟨'\x7b', _, toList_record_nil .., by decide⟩
    | cons field more => exact ⟨'\x7b', _, toList_record_cons .., by decide⟩

/-- So does a list of values, behind white space. -/
theorem skipSpace_itemsText (strings : ∀ s, codec.KeepsString s) (blank : spacing.IsBlank)
    {item : Value} (h : codec.Keeps item) (more : List Value) (depth : Nat) (rest : List Char) :
    ∃ c r, skipSpace ((codec.itemsText spacing depth (item :: more)).toList ++ rest) = c :: r ∧
      c ≠ ']' := by
  obtain ⟨c, r, front, solid, inner, -⟩ := h.opens strings spacing depth
  have line := blank.line depth
  cases more with
  | nil =>
    refine ⟨c, r ++ rest, ?_, inner⟩
    rw [itemsText, String.toList_append, front, List.append_assoc, skipSpace_append line,
      List.cons_append, skipSpace_eq solid]
  | cons next more =>
    refine ⟨c, r ++ ',' :: ((codec.itemsText spacing depth (next :: more)).toList ++ rest), ?_, inner⟩
    rw [toList_items_cons, front, List.append_assoc, skipSpace_append line, List.cons_append,
      List.cons_append, skipSpace_eq solid, List.append_assoc, List.cons_append]

theorem skipSpace_fieldsText (strings : ∀ s, codec.KeepsString s) (blank : spacing.IsBlank)
    (field : String × Value) (more : Record) (depth : Nat) (rest : List Char) :
    ∃ r, skipSpace ((codec.fieldsText spacing depth (Record.entries (field :: more))).toList ++
      rest) = '"' :: r := by
  obtain ⟨quoted, front, -⟩ := strings field.1
  have line := blank.line depth
  have quote {r : List Char} : skipSpace ('"' :: r) = '"' :: r := skipSpace_eq (by decide)
  cases more with
  | nil =>
    rw [toList_fields_singleton codec spacing depth front, List.append_assoc, skipSpace_append line]
    exact ⟨_, quote⟩
  | cons next more =>
    rw [toList_fields_cons codec spacing depth front, List.append_assoc, skipSpace_append line]
    exact ⟨_, quote⟩

theorem value?_number {n : Number} (keeps : codec.KeepsNumber n) {rest : List Char}
    (closes : Closes rest) (fuel : Nat) :
    codec.value? (fuel + 1) ((codec.numberText n).toList ++ rest) = some (.number n, rest) := by
  obtain ⟨c, r, front, first⟩ := keeps.opens
  have back := keeps.back rest closes
  rw [front, List.cons_append] at back ⊢
  rw [value?, skipSpace_eq (solid_of_opensNumber first).1]
  split
  case h_7 =>
    rw [List.head?_cons, Option.any_some, if_pos first, back]
    rfl
  -- Nothing else that a value can begin with is a minus or a digit.
  all_goals
    rename_i start
    obtain ⟨rfl, -⟩ := List.cons.inj start
    cases first

theorem Keeps.fuel_pos (strings : ∀ s, codec.KeepsString s) {v : Value} (h : codec.Keeps v)
    {depth fuel : Nat} (enough : 2 * (codec.text spacing depth v).toList.length ≤ fuel) :
    ∃ f, fuel = f + 1 := by
  obtain ⟨c, r, front, -⟩ := h.opens strings spacing depth
  rw [front, List.length_cons] at enough
  exact ⟨fuel - 1, by omega⟩

theorem Keeps.reads (strings : ∀ s, codec.KeepsString s) (blank : spacing.IsBlank) {v : Value}
    (keeps : codec.Keeps v) : codec.Reads spacing v := by
  induction keeps with
  | null =>
    intro depth fuel rest _ enough
    obtain ⟨fuel, rfl⟩ := Keeps.null.fuel_pos strings enough
    rw [toList_null]
    rfl
  | bool b =>
    intro depth fuel rest _ enough
    obtain ⟨fuel, rfl⟩ := (Keeps.bool b).fuel_pos strings enough
    rw [toList_bool]
    cases b <;> rfl
  | @number n keeps =>
    intro depth fuel rest closes enough
    obtain ⟨fuel, rfl⟩ := (Keeps.number keeps).fuel_pos strings enough
    rw [Codec.text]
    exact value?_number keeps closes fuel
  | text s =>
    intro depth fuel rest _ enough
    obtain ⟨fuel, rfl⟩ := (Keeps.text s).fuel_pos strings enough
    obtain ⟨quoted, front, string⟩ := strings s
    rw [Value.text, Codec.text, Option.getD_some, front, List.cons_append, value?,
      skipSpace_eq (by decide)]
    simp only [string, Option.map_some]
  | @array items keeps reads =>
    intro depth fuel rest _ enough
    obtain ⟨fuel, rfl⟩ := (Keeps.array keeps).fuel_pos strings enough
    cases items with
    | nil =>
      rw [toList_array_nil]
      rfl
    | cons item more =>
      rw [toList_array_cons] at enough ⊢
      simp only [List.length_cons, List.length_append, List.length_nil] at enough
      have read := items?_itemsText (blank.line depth) blank reads (by simp) (depth + 1) fuel rest
        (by omega)
      obtain ⟨c, r, front, inner⟩ := skipSpace_itemsText strings blank (keeps item (by simp)) more
        (depth + 1) ((spacing.line depth).toList ++ ']' :: rest)
      rw [List.cons_append, List.append_assoc, List.append_assoc, List.singleton_append, value?,
        skipSpace_eq (by decide)]
      simp only
      rw [← items?_skipSpace, front] at read
      rw [front]
      split
      · rename_i bracket
        cases bracket
        exact absurd rfl inner
      · rw [read]
        rfl
  | @record fields keeps reads =>
    intro depth fuel rest _ enough
    obtain ⟨fuel, rfl⟩ := (Keeps.record keeps).fuel_pos strings enough
    cases fields with
    | nil =>
      rw [toList_record_nil]
      rfl
    | cons field more =>
      rw [toList_record_cons] at enough ⊢
      simp only [List.length_cons, List.length_append, List.length_nil] at enough
      have read := fields?_fieldsText (blank.line depth) blank strings reads (by simp) (depth + 1)
        fuel rest (by omega)
      obtain ⟨r, front⟩ := skipSpace_fieldsText strings blank field more (depth + 1)
        ((spacing.line depth).toList ++ '\x7d' :: rest)
      rw [List.cons_append, List.append_assoc, List.append_assoc, List.singleton_append, value?,
        skipSpace_eq (by decide)]
      simp only
      rw [← fields?_skipSpace, front] at read
      rw [front]
      split
      · rename_i brace
        cases brace
      · rw [read]
        rfl

/-- **Texts of values.** A value that its text keeps whole is read from it again. -/
theorem read?_text (strings : ∀ s, codec.KeepsString s) (blank : spacing.IsBlank) {v : Value}
    (keeps : codec.Keeps v) (depth : Nat) : codec.read? (codec.text spacing depth v) = some v := by
  have closes : Closes [] := by
    rintro c ⟨⟩
  have read := keeps.reads strings blank depth
    (2 * (codec.text spacing depth v).toList.length + 2) [] closes (by omega)
  rw [List.append_nil] at read
  simp only [read?, read]
  rfl

end Codec

end Provision.Json
