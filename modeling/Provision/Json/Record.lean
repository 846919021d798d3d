import Provision.Json.Value

/-!
# Records written as JSON

A record is an object, or a list of its fields in the order of their declaration, where the last
ones may be missing. Fields that the record does not have are skipped; a field that is given twice,
also under another of its names, is refused.

- `fields?_record`: an object with the record's own names gives back its fields.
-/

namespace Provision.Json

/-- A field of a record, by its name and other names that it is read under. -/
structure Field where
  name : String
  others : List String
  deriving DecidableEq, Repr

def Field.answers (f : Field) (key : String) : Bool := key = f.name || f.others.contains key

/-- The fields that a value gives. -/
abbrev Record := List (String × Value)

/-- Objects whose names all have text. -/
def named? (entries : List (Text × Value)) : Option Record :=
  entries.mapM fun (name, value) => name.map (·, value)

/-- The entries that are fields of the record, under the fields' own names. -/
def given (fields : List Field) (entries : Record) : Record :=
  entries.filterMap fun (key, value) =>
    (fields.find? (·.answers key)).map fun field => (field.name, value)

def Value.fields? (fields : List Field) : Value → Option Record
  | .object entries => do
    let record := given fields (← named? entries)
    if (record.map Prod.fst).Nodup then some record else none
  | .array items =>
    if items.length ≤ fields.length then some ((fields.map (·.name)).zip items) else none
  | _ => none

namespace Record

def get? (r : Record) (name : String) : Option Value :=
  (r.find? fun entry => entry.1 = name).map Prod.snd

variable {α : Type}

/-- A field that has to be there. -/
def required (r : Record) (name : String) (read : Value → Option α) : Option α :=
  (r.get? name).bind read

/-- A field that has a value where it is missing. -/
def defaulted (r : Record) (name : String) (read : Value → Option α) (absent : α) : Option α :=
  match r.get? name with
  | some value => read value
  | none => some absent

/-- A field that may be missing or null. -/
def optional (r : Record) (name : String) (read : Value → Option α) : Option (Option α) :=
  match r.get? name with
  | some .null => some none
  | some value => (read value).map some
  | none => some none

end Record

namespace Value

def text? : Value → Option String
  | .string s => s
  | _ => none

def natural? : Value → Option Nat
  | .number (.natural n) => some n
  | _ => none

/-- A count of 64 bits. -/
def count? (v : Value) : Option UInt64 :=
  (v.natural?.filter (· < UInt64.size)).map UInt64.ofNat

/-- A count of 32 bits. -/
def smallCount? (v : Value) : Option UInt32 :=
  (v.natural?.filter (· < UInt32.size)).map UInt32.ofNat

/-- A double that is in range; whole numbers are doubles as well. -/
def float? : Value → Option Float
  | .number n => if n.toFloat.isFinite then some n.toFloat else none
  | _ => none

def items? : Value → Option (List Value)
  | .array items => some items
  | _ => none

/-- A list, read item by item. -/
def list? (read : Value → Option α) (v : Value) : Option (List α) := do (← v.items?).mapM read

/-- One of a fixed set of names; it may stand as the only field of an object, with nothing in it. -/
def choice? (ofName? : String → Option α) : Value → Option α
  | .string s => s.bind ofName?
  | .object [(name, .null)] => name.bind ofName?
  | _ => none

end Value

theorem named?_record (record : Record) :
    named? (record.map fun (name, value) => (some name, value)) = some record := by
  induction record with
  | nil => rfl
  | cons entry rest ih =>
    simp only [named?, List.map_cons, List.mapM_cons] at ih ⊢
    simp [ih]

theorem fields?_record {fields : List Field} {record : Record}
    (known : given fields record = record) (once : (record.map Prod.fst).Nodup) :
    (Value.record record).fields? fields = some record := by
  simp [Value.record, Value.fields?, named?_record, known, once]

end Provision.Json
