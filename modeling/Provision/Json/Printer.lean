import Provision.Json.Codec

/-!
# JSON text

A compact text without white space, and one with a line for each entry, indented by two spaces.
-/

namespace Provision.Json

/-- The white space in a text. -/
structure Spacing where
  /-- What stands in front of an entry inside so many lists and objects, and in front of what
  closes them. -/
  line : Nat → String
  /-- What stands between a name's colon and its value. -/
  gap : String

namespace Spacing

def compact : Spacing := ⟨fun _ => "", ""⟩

def pretty : Spacing where
  line depth := String.ofList ('\n' :: List.replicate (2 * depth) ' ')
  gap := " "

end Spacing

namespace Codec

variable (codec : Codec) (spacing : Spacing)

mutual

/-- The text of a value inside `depth` lists and objects. -/
def text (depth : Nat) : Value → String
  | .null => "null"
  | .bool b => if b then "true" else "false"
  | .number n => codec.numberText n
  | .string s => codec.stringText (s.getD "")
  | .array [] => "[]"
  | .array items => "[" ++ itemsText (depth + 1) items ++ spacing.line depth ++ "]"
  | .object [] => "\x7b\x7d"
  | .object fields => "\x7b" ++ fieldsText (depth + 1) fields ++ spacing.line depth ++ "\x7d"

def itemsText (depth : Nat) : List Value → String
  | [] => ""
  | [item] => spacing.line depth ++ text depth item
  | item :: rest => spacing.line depth ++ text depth item ++ "," ++ itemsText depth rest

def fieldsText (depth : Nat) : List (Text × Value) → String
  | [] => ""
  | [(name, value)] =>
    spacing.line depth ++ codec.stringText (name.getD "") ++ ":" ++ spacing.gap ++ text depth value
  | (name, value) :: rest =>
    spacing.line depth ++ codec.stringText (name.getD "") ++ ":" ++ spacing.gap ++
      text depth value ++ "," ++ fieldsText depth rest

end

end Codec

namespace Value

def compact (v : Value) : String := Codec.standard.text .compact 0 v

def pretty (v : Value) : String := Codec.standard.text .pretty 0 v

end Value

end Provision.Json
