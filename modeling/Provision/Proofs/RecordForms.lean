import Mathlib
import Provision.Json.Record

/-!
# Records and the ways of writing them

A record may have its fields in any order, under any of their names, or as a list, and say that
there is no value by leaving the field out.

- `fields?_written`: a record that is written gives back its fields.
- `fields?_of_values`: what a record gives is one value at most for each field.
- `required_same`, `defaulted_same`, `optional_same`: two records that say the same in a field are
  read alike in it, be it required, defaulted or optional.
- `ReadAlike.list?`: lists are read alike that say the same item by item.
-/

namespace Provision.Json

/-! ## Fields of a record -/

theorem Field.answers_iff {f : Field} {key : String} :
    f.answers key = true ↔ key ∈ f.name :: f.others := by
  simp [Field.answers]

/-- No two fields of a record are read under one name. -/
def Apart (fields : List Field) : Prop := (fields.flatMap fun f => f.name :: f.others).Nodup

instance (fields : List Field) : Decidable (Apart fields) := by unfold Apart; infer_instance

theorem Apart.eq {fields : List Field} (apart : Apart fields) {f g : Field} (hf : f ∈ fields)
    (hg : g ∈ fields) {key : String} (ha : f.answers key = true) (hb : g.answers key = true) :
    f = g := by
  rw [Field.answers_iff] at ha hb
  unfold Apart at apart
  rw [List.nodup_flatMap] at apart
  by_contra different
  have : Std.Symm (Function.onFun List.Disjoint fun f : Field => f.name :: f.others) :=
    ⟨fun _ _ h => h.symm⟩
  exact apart.2.forall hf hg different ha hb

theorem Apart.find? {fields : List Field} (apart : Apart fields) {f : Field} (hf : f ∈ fields)
    {key : String} (h : f.answers key = true) : fields.find? (·.answers key) = some f := by
  cases found : fields.find? (·.answers key) with
  | none =>
    have := List.find?_eq_none.mp found f hf
    exact absurd h this
  | some g =>
    have answers := List.find?_some found
    rw [apart.eq hf (List.mem_of_find?_eq_some found) h answers]

/-- The values that an object, or a list in the order of the fields, has for each field. -/
def Value.values? (fields : List Field) : Value → Option (Field → List Value)
  | .object entries => (named? entries).map fun record f =>
    (record.filter (f.answers ·.1)).map Prod.snd
  | .array items =>
    if items.length ≤ fields.length then
      some fun f => ((fields.zip items).filter (·.1 = f)).map Prod.snd
    else none
  | _ => none

section
variable {fields : List Field} (apart : Apart fields) {f : Field} (hf : f ∈ fields)
include apart hf

theorem Apart.name_eq_iff {g : Field} (hg : g ∈ fields) : g.name = f.name ↔ g = f := by
  constructor
  · intro same
    have own : g.answers g.name = true := Field.answers_iff.mpr (List.mem_cons_self ..)
    have other : f.answers g.name = true := by
      rw [same]
      exact Field.answers_iff.mpr (List.mem_cons_self ..)
    exact apart.eq hg hf own other
  · rintro rfl
    rfl

theorem filter_given (record : Record) :
    (given fields record).filter (·.1 = f.name) =
      (record.filter (f.answers ·.1)).map fun entry => (f.name, entry.2) := by
  induction record with
  | nil => rfl
  | cons entry rest ih =>
    obtain ⟨key, value⟩ := entry
    unfold given at ih ⊢
    by_cases own : f.answers key = true
    · simp [apart.find? hf own, own, ih]
    · cases found : fields.find? (·.answers key) with
      | none => simp [found, own, ih]
      | some g =>
        have answers := List.find?_some found
        have other : g.name ≠ f.name := by
          intro same
          rw [(apart.name_eq_iff hf (List.mem_of_find?_eq_some found)).mp same] at answers
          exact own answers
        simp [found, own, ih, other]

end

/-- Fields that are given at most once make a record. -/
theorem nodup_given {fields : List Field} (apart : Apart fields) {record : Record}
    (once : ∀ f ∈ fields, (record.filter (f.answers ·.1)).length ≤ 1) :
    ((given fields record).map Prod.fst).Nodup := by
  rw [List.nodup_iff_count_le_one]
  intro name
  by_cases known : ∃ f ∈ fields, f.name = name
  · obtain ⟨f, hf, rfl⟩ := known
    have count : ((given fields record).map Prod.fst).count f.name =
        ((given fields record).filter (·.1 = f.name)).length := by
      rw [List.count_eq_countP, List.countP_map, List.countP_eq_length_filter]
      rfl
    rw [count, filter_given apart hf, List.length_map]
    exact once f hf
  · have absent : name ∉ (given fields record).map Prod.fst := by
      intro member
      obtain ⟨entry, there, rfl⟩ := List.mem_map.mp member
      obtain ⟨⟨key, value⟩, -, found⟩ := List.mem_filterMap.mp there
      obtain ⟨f, hf, rfl⟩ := Option.map_eq_some_iff.mp found
      exact known ⟨f, List.mem_of_find?_eq_some hf, rfl⟩
    rw [List.count_eq_zero_of_not_mem absent]
    exact Nat.zero_le 1

theorem Record.get?_eq_head? (r : Record) (name : String) :
    r.get? name = ((r.filter (·.1 = name)).map Prod.snd).head? := by
  rw [List.head?_map, List.head?_filter]
  rfl

/-- What a record gives, read once for each field. -/
theorem fields?_of_values {fields : List Field} (apart : Apart fields) {v : Value}
    {values : Field → List Value} (h : v.values? fields = some values)
    (once : ∀ f ∈ fields, (values f).length ≤ 1) :
    ∃ r, v.fields? fields = some r ∧ ∀ f ∈ fields, r.get? f.name = (values f).head? := by
  cases v with
  | object entries =>
    obtain ⟨record, named, rfl⟩ := Option.map_eq_some_iff.mp h
    have distinct : ((given fields record).map Prod.fst).Nodup := by
      apply nodup_given apart
      intro f hf
      simpa using once f hf
    refine ⟨given fields record, ?_, ?_⟩
    · simp [Value.fields?, named, distinct]
    · intro f hf
      rw [Record.get?_eq_head?, filter_given apart hf, List.map_map]
      rfl
  | array items =>
    simp only [Value.values?] at h
    split at h
    · rename_i short
      cases h
      refine ⟨(fields.map (·.name)).zip items, by simp [Value.fields?, short], ?_⟩
      intro f hf
      rw [Record.get?_eq_head?, List.zip_map_left, List.filter_map, List.map_map]
      congr 2
      apply List.filter_congr
      intro pair member
      have hg : pair.1 ∈ fields := (List.of_mem_zip member).1
      simp [apart.name_eq_iff hf hg]
    · cases h
  | null => cases h
  | bool b => cases h
  | number n => cases h
  | string s => cases h

/-! ## Records that are written -/

/-- Fields that are written in their order, each at most once, are given back. -/
theorem fields?_written {fields : List Field} (apart : Apart fields) {record : Record}
    (names : (record.map Prod.fst).Sublist (fields.map (·.name))) :
    (Value.record record).fields? fields = some record := by
  have distinct : (fields.map (·.name)).Nodup := by
    apply List.Nodup.sublist _ apart
    clear apart names
    induction fields with
    | nil => exact List.Sublist.slnil
    | cons f rest ih => exact (ih.trans (List.sublist_append_right ..)).cons_cons f.name
  have known : ∀ entry ∈ record,
      (fields.find? (·.answers entry.1)).map (fun f => (f.name, entry.2)) = some entry := by
    intro entry member
    obtain ⟨f, hf, name⟩ := List.mem_map.mp (names.subset (List.mem_map_of_mem member))
    have own : f.answers entry.1 = true := by
      rw [← name]
      exact Field.answers_iff.mpr (List.mem_cons_self ..)
    rw [apart.find? hf own, Option.map_some, name]
  apply fields?_record
  · rw [given, List.filterMap_congr known, List.filterMap_some]
  · exact distinct.sublist names

theorem get?_cons (name key : String) (value : Value) (r : Record) :
    Record.get? ((key, value) :: r) name = if key = name then some value else r.get? name := by
  unfold Record.get?
  rw [List.find?_cons]
  split <;> simp_all

theorem get?_append (r r' : Record) (name : String) :
    Record.get? (r ++ r') name = (r.get? name).or (r'.get? name) := by
  unfold Record.get?
  rw [List.find?_append]
  cases List.find? (fun entry => decide (entry.1 = name)) r <;> rfl

/-- A list reads back whose items do. -/
theorem list?_list {α : Type} {read : Value → Option α} {write : α → Value} {items : List α}
    (back : ∀ item ∈ items, read (write item) = some item) :
    (Value.list write items).list? read = some items := by
  simp only [Value.list, Value.list?, Value.items?, Option.bind_eq_bind, Option.bind_some]
  induction items with
  | nil => rfl
  | cons item more ih =>
    rw [List.map_cons, List.mapM_cons, back item (List.mem_cons_self ..),
      ih fun item hi => back item (List.mem_cons_of_mem _ hi)]
    rfl

/-! ## Other ways of writing a record -/

/-- What a record makes of a field that is not there. -/
inductive Presence where
  | required
  | defaulted (absent : Value)
  /-- Null says that it is not there, too. -/
  | optional

/-- The values that are stated for a field, be it by leaving it out. -/
def Presence.stated : Presence → List Value → List Value
  | .optional, [.null] => []
  | .defaulted absent, [] => [absent]
  | _, values => values

/-- A field of a record, and which of its values say the same. -/
structure Slot where
  field : Field
  presence : Presence
  alike : Value → Value → Prop := Eq

/-- Two records say the same in a field, which neither of them gives twice. -/
structure Slot.Same (slot : Slot) (a b : List Value) : Prop where
  once : a.length ≤ 1
  once' : b.length ≤ 1
  alike : List.Forall₂ (fun v w => v = w ∨ slot.alike v w) (slot.presence.stated a)
    (slot.presence.stated b)

/-- Two records say the same in every field, under any of its names and in any order; what else
they say makes no difference. -/
def SameRecord (slots : List Slot) (v w : Value) : Prop :=
  ∃ a b, v.values? (slots.map (·.field)) = some a ∧ w.values? (slots.map (·.field)) = some b ∧
    ∀ slot ∈ slots, slot.Same (a slot.field) (b slot.field)

/-- Two lists say the same, item by item. -/
def SameList (alike : Value → Value → Prop) (v w : Value) : Prop :=
  ∃ items items', v = .array items ∧ w = .array items' ∧
    List.Forall₂ (fun v w => v = w ∨ alike v w) items items'

theorem SameRecord.fields? {slots : List Slot} (apart : Apart (slots.map (·.field))) {v w : Value}
    (same : SameRecord slots v w) :
    ∃ r r', v.fields? (slots.map (·.field)) = some r ∧ w.fields? (slots.map (·.field)) = some r' ∧
      ∀ slot ∈ slots,
        slot.Same (r.get? slot.field.name).toList (r'.get? slot.field.name).toList := by
  obtain ⟨a, b, ha, hb, same⟩ := same
  have oncea : ∀ f ∈ slots.map (·.field), (a f).length ≤ 1 := by
    intro f hf
    obtain ⟨slot, hs, rfl⟩ := List.mem_map.mp hf
    exact (same slot hs).once
  have onceb : ∀ f ∈ slots.map (·.field), (b f).length ≤ 1 := by
    intro f hf
    obtain ⟨slot, hs, rfl⟩ := List.mem_map.mp hf
    exact (same slot hs).once'
  obtain ⟨r, hr, given⟩ := fields?_of_values apart ha oncea
  obtain ⟨r', hr', given'⟩ := fields?_of_values apart hb onceb
  have whole : ∀ values : List Value, values.length ≤ 1 → values.head?.toList = values := by
    intro values short
    match values with
    | [] => rfl
    | [v] => rfl
  refine ⟨r, r', hr, hr', fun slot hs => ?_⟩
  have hf : slot.field ∈ slots.map (·.field) := List.mem_map_of_mem hs
  rw [given _ hf, given' _ hf, whole _ (oncea _ hf), whole _ (onceb _ hf)]
  exact same slot hs

/-- Values that say the same are read alike. -/
def ReadAlike {β : Type} (alike : Value → Value → Prop) (read : Value → β) : Prop :=
  ∀ v w, alike v w → read v = read w

theorem ReadAlike.equal {β : Type} {read : Value → β} : ReadAlike Eq read :=
  fun _ _ => congrArg read

/-- Values that are both read, or both not. -/
def BothRead {α : Type} (read : Value → Option α) (v w : Value) : Prop :=
  (read v).isSome = (read w).isSome

/-- What is stated for a field of a record. -/
def Record.stated (r : Record) (slot : Slot) : Option Value :=
  (slot.presence.stated (r.get? slot.field.name).toList).head?

section
variable {slot : Slot} {r r' : Record} {α : Type} {read : Value → Option α}

theorem required_eq (presence : slot.presence = .required) :
    r.required slot.field.name read = ((r.stated slot).map read).join := by
  unfold Record.required Record.stated
  rw [presence]
  cases r.get? slot.field.name <;> rfl

theorem defaulted_eq {absent : Value} (presence : slot.presence = .defaulted absent) {a : α}
    (default : read absent = some a) :
    r.defaulted slot.field.name read a = ((r.stated slot).map read).join := by
  unfold Record.defaulted Record.stated
  rw [presence]
  cases r.get? slot.field.name with
  | none => exact default.symm
  | some v => rfl

theorem optional_eq (presence : slot.presence = .optional) :
    r.optional slot.field.name read =
      ((r.stated slot).map read).elim (some none) (Option.map some) := by
  unfold Record.optional Record.stated
  rw [presence]
  cases r.get? slot.field.name with
  | none => rfl
  | some v => cases v <;> rfl

variable (same : slot.Same (r.get? slot.field.name).toList (r'.get? slot.field.name).toList)
include same

theorem stated_same {β : Type} {read : Value → β} (reads : ReadAlike slot.alike read) :
    (r.stated slot).map read = (r'.stated slot).map read := by
  have alike := same.alike
  unfold Record.stated
  generalize slot.presence.stated (r.get? slot.field.name).toList = a at alike
  generalize slot.presence.stated (r'.get? slot.field.name).toList = b at alike
  cases alike with
  | nil => rfl
  | cons first =>
    rcases first with rfl | different
    · rfl
    · simp [reads _ _ different]

section
variable (reads : ReadAlike slot.alike read)
include reads

theorem required_same (presence : slot.presence = .required) :
    r.required slot.field.name read = r'.required slot.field.name read := by
  rw [required_eq presence, required_eq presence, stated_same same reads]

theorem defaulted_same {absent : Value} (presence : slot.presence = .defaulted absent) {a : α}
    (default : read absent = some a) :
    r.defaulted slot.field.name read a = r'.defaulted slot.field.name read a := by
  rw [defaulted_eq presence default, defaulted_eq presence default, stated_same same reads]

theorem optional_same (presence : slot.presence = .optional) :
    r.optional slot.field.name read = r'.optional slot.field.name read := by
  rw [optional_eq presence, optional_eq presence, stated_same same reads]

end

section
variable (alike : slot.alike = BothRead read)
include alike

theorem stated_bothRead :
    (r.stated slot).map (fun v => (read v).isSome) =
      (r'.stated slot).map fun v => (read v).isSome := by
  apply stated_same same
  rw [alike]
  exact fun _ _ => id

theorem defaulted_bothRead {absent : Value} (presence : slot.presence = .defaulted absent) {a : α}
    (default : read absent = some a) :
    (r.defaulted slot.field.name read a).isSome =
      (r'.defaulted slot.field.name read a).isSome := by
  have stated := stated_bothRead same alike
  rw [defaulted_eq presence default, defaulted_eq presence default]
  cases h : r.stated slot <;> cases h' : r'.stated slot <;> simp_all

theorem optional_bothRead (presence : slot.presence = .optional) :
    (r.optional slot.field.name read).isSome = (r'.optional slot.field.name read).isSome := by
  have stated := stated_bothRead same alike
  rw [optional_eq presence, optional_eq presence]
  cases h : r.stated slot <;> cases h' : r'.stated slot <;> simp_all

end

end

theorem ReadAlike.list? {α : Type} {alike : Value → Value → Prop} {read : Value → Option α}
    (reads : ReadAlike alike read) : ReadAlike (SameList alike) (Value.list? read) := by
  rintro _ _ ⟨items, items', rfl, rfl, pairs⟩
  simp only [Value.list?, Value.items?, Option.bind_eq_bind, Option.bind_some]
  induction pairs with
  | nil => rfl
  | cons first _ ih =>
    rw [List.mapM_cons, List.mapM_cons, ih]
    rcases first with rfl | different
    · rfl
    · rw [reads _ _ different]

end Provision.Json
