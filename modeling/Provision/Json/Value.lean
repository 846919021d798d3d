/-!
# JSON values

A value keeps what its text says: the order of fields, repeated fields, and whether a number is
whole. A reader of one kind of record decides what of it to accept.
-/

namespace Provision.Json

/-- The characters of a string; none where an escape names half of a surrogate pair, which only a
reader that skips the string accepts. -/
abbrev Text := Option String

/-- A number without fraction and exponent that fits into a word is whole. All others, and a
negative zero, are doubles; an infinite one is too large to be read. -/
inductive Number where
  | natural (n : Nat)
  /-- The number below zero. -/
  | negative (magnitude : Nat)
  | real (x : Float)
  deriving DecidableEq

def Number.toFloat : Number → Float
  | .natural n => Float.ofNat n
  | .negative n => -Float.ofNat n
  | .real x => x

inductive Value where
  | null
  | bool (b : Bool)
  | number (n : Number)
  | string (s : Text)
  | array (items : List Value)
  | object (fields : List (Text × Value))

namespace Value

def text (s : String) : Value := .string (some s)

def natural (n : Nat) : Value := .number (.natural n)

def real (x : Float) : Value := .number (.real x)

/-- An object whose names are given. -/
def record (fields : List (String × Value)) : Value :=
  .object (fields.map fun (name, value) => (some name, value))

/-- A list, item by item. -/
def list (write : α → Value) (items : List α) : Value := .array (items.map write)

end Value

end Provision.Json
