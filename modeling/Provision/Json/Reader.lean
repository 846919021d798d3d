import Provision.Json.Codec

/-!
# Reading JSON

The grammar is strict: no comments, no trailing commas, no marks in front of the text, no raw
control characters in strings. Lists and objects nest to any depth.
-/

namespace Provision.Json

def isSpace (c : Char) : Bool := c = ' ' || c = '\n' || c = '\t' || c = '\r'

def skipSpace (s : List Char) : List Char := s.dropWhile isSpace

/-- A number begins with a minus or a digit. -/
def opensNumber (c : Char) : Bool := c = '-' || c.isDigit

namespace Codec

variable (codec : Codec)

mutual

/-- A value and the rest. Each step of reading takes fuel. -/
def value? : Nat → List Char → Option (Value × List Char)
  | 0, _ => none
  | fuel + 1, s =>
    match skipSpace s with
    | 'n' :: 'u' :: 'l' :: 'l' :: r => some (.null, r)
    | 't' :: 'r' :: 'u' :: 'e' :: r => some (.bool true, r)
    | 'f' :: 'a' :: 'l' :: 's' :: 'e' :: r => some (.bool false, r)
    | '"' :: r => (codec.string? r).map fun (text, r) => (.string text, r)
    | '[' :: r =>
      match skipSpace r with
      | ']' :: r => some (.array [], r)
      | r => (items? fuel r).map fun (items, r) => (.array items, r)
    | '{' :: r =>
      match skipSpace r with
      | '}' :: r => some (.object [], r)
      | r => (fields? fuel r).map fun (fields, r) => (.object fields, r)
    | r =>
      if r.head?.any opensNumber then (codec.number? r).map fun (n, r) => (.number n, r)
      else none

/-- One or more values between commas, up to the bracket that closes them. -/
def items? : Nat → List Char → Option (List Value × List Char)
  | 0, _ => none
  | fuel + 1, s => do
    let (item, r) ← value? fuel s
    match skipSpace r with
    | ']' :: r => some ([item], r)
    | ',' :: r =>
      let (items, r) ← items? fuel r
      some (item :: items, r)
    | _ => none

/-- One or more named values between commas, up to the brace that closes them. -/
def fields? : Nat → List Char → Option (List (Text × Value) × List Char)
  | 0, _ => none
  | fuel + 1, s =>
    match skipSpace s with
    | '"' :: r => do
      let (name, r) ← codec.string? r
      match skipSpace r with
      | ':' :: r =>
        let (value, r) ← value? fuel r
        match skipSpace r with
        | '}' :: r => some ([(name, value)], r)
        | ',' :: r =>
          let (fields, r) ← fields? fuel r
          some ((name, value) :: fields, r)
        | _ => none
      | _ => none
    | _ => none

end

/-- The value that a whole text writes. Each character needs at most two steps. -/
def read? (text : String) : Option Value :=
  let s := text.toList
  match codec.value? (2 * s.length + 2) s with
  | some (value, rest) => if (skipSpace rest).isEmpty then some value else none
  | none => none

end Codec

def read? (text : String) : Option Value := Codec.standard.read? text

end Provision.Json
