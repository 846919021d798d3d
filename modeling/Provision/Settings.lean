import Provision.Headroom
import Provision.Toml.Document

/-!
# Settings

Settings come from a file and from the environment, which overrides the file. Names count in any
case. A value is read as what its setting needs, so that a floor may be written as a text.
-/

namespace Provision

structure Settings where
  /-- Where the snapshot is, if no place is named. -/
  snapshotUrl : Option String
  policy : Policy
  deriving DecidableEq

namespace Settings

inductive Problem where
  | unreadable
  | unsuitable
  deriving DecidableEq, Repr

def Problem.message : Problem → String
  | .unreadable => "Failed to read configuration"
  | .unsuitable => "Failed to parse configuration"

/-- A value as it was given; lists and tables suit no setting. -/
inductive Given where
  | text (s : String)
  | integer (n : Int)
  | float (x : Float)
  | bool (b : Bool)
  | composite
  /-- A table without entries. -/
  | vacant
  deriving DecidableEq

namespace Given

def ofValue : Toml.Value → Given
  | .text s => .text s
  | .moment s => .text s
  | .integer n => .integer n
  | .float x => .float x
  | .bool b => .bool b
  | .array _ => .composite
  | .table _ entries => if entries.isEmpty then .vacant else .composite
  | .tables _ => .composite

/-! ## What a value is read as -/

/-- One and zero by their names, in any case. -/
def switch? (s : String) : Option Bool :=
  let word := String.ofList (s.toList.map Char.toLower)
  if ["true", "on", "yes"].contains word then some true
  else if ["false", "off", "no"].contains word then some false
  else none

/-- A floor in cores; texts are read as numerals. -/
def cpuFloor? : Given → Option Float
  | text s => match switch? s with
    | some on => some (if on then 1 else 0)
    | none => Number.readFloat? s.toList
  | integer n => some (if n < 0 then -Float.ofNat n.natAbs else Float.ofNat n.natAbs)
  | float x => some x
  | bool b => some (if b then 1 else 0)
  | composite => none
  | vacant => none

/-- A floor in megabytes; a double goes to the nearest count. -/
def memoryFloor? : Given → Option UInt64
  | text s => match switch? s with
    | some on => some (if on then 1 else 0)
    | none => (Number.readBelow? UInt64.size s.toList).map UInt64.ofNat
  | integer n => if 0 ≤ n ∧ n < UInt64.size then some (UInt64.ofNat n.toNat) else none
  | float x => some (Number.roundAway x).toUInt64
  | bool b => some (if b then 1 else 0)
  | composite => none
  | vacant => none

/-- A text; numbers and answers are written out. -/
def text? : Given → Option String
  | text s => some s
  | integer n => some (toString n)
  | float x => some (Number.plainText x)
  | bool b => some (if b then "true" else "false")
  | composite => none
  | vacant => none

end Given

/-! ## Layers -/

/-- Names and values, later ones before earlier ones. -/
abbrev Layer := List (String × Given)

/-- The value of a name. A table without entries adds nothing to another value. -/
def get? (layer : Layer) (name : String) : Option Given :=
  let values := (layer.filter fun entry => entry.1 = name).map Prod.snd
  (values.findRev? (· ≠ .vacant)).or values.getLast?

/-- Lower case as far as Latin letters go; the Kelvin sign is a capital letter as well. -/
def lowered (s : List Char) : List Char :=
  s.map fun c => if c = '\u212a' then 'k' else c.toLower

def isNameChar (c : Char) : Bool := c.isAlphanum || c = '_' || c = '-' || c = ' '

def isIndexBlank (c : Char) : Bool := c = ' ' || c = '\t'

/-- What is left behind an index and its closing bracket. The index is a whole number of 64 bits
with a sign, and blanks may stand around it. -/
def behindIndex? (s : List Char) : Option (List Char) :=
  let s := s.dropWhile isIndexBlank
  let (negative, s) := match s with
    | '-' :: r => (true, r)
    | s => (false, s)
  let bound : Nat := if negative then (1 <<< 63) + 1 else 1 <<< 63
  match Number.readBelow? bound (s.takeWhile Char.isDigit),
      (s.dropWhile Char.isDigit).dropWhile isIndexBlank with
  | some _, ']' :: rest => some rest
  | _, _ => none

/-- What is left behind a field or an index, if one of them stands in front. -/
def step? : List Char → Option (List Char)
  | '.' :: r => if (r.takeWhile isNameChar).isEmpty then none else some (r.dropWhile isNameChar)
  | '[' :: r => behindIndex? r
  | _ => none

/-- One or more fields and indices; each takes a character at least. -/
def isSteps : Nat → List Char → Bool
  | 0, _ => false
  | fuel + 1, s =>
    match step? s with
    | some [] => true
    | some rest => isSteps fuel rest
    | none => false

/-- A setting by its name in lower case. A name that goes on into a field or an index of the setting
makes the setting a composite one. -/
def entry (name : List Char) (value : Given) : String × Given :=
  let rest := name.dropWhile isNameChar
  if isSteps rest.length rest then
    (String.ofList (lowered (name.takeWhile isNameChar)), .composite)
  else (String.ofList (lowered name), value)

/-- The file's part; no file, no part. -/
def ofFile : Option String → Except Problem Layer
  | none => .ok []
  | some text => match Toml.read? text with
    | some entries => .ok (entries.map fun (name, value) => entry name.toList (.ofValue value))
    | none => .error .unreadable

/-- What the names of variables start with, in lower case. -/
def variableMark : List Char := ['k', 'r', 'e', 's', '_']

def ofEnvironment (environment : List (String × String)) : Layer :=
  environment.filterMap fun (name, value) =>
    let name := lowered name.toList
    if variableMark.isPrefixOf name then
      some (entry (name.drop variableMark.length) (.text value))
    else none

/-- A setting as it was given, or its value where it was not. -/
def read (layer : Layer) (name : String) (as? : Given → Option α) (absent : α) : Except Problem α :=
  match get? layer name with
  | none => .ok absent
  | some given => match as? given with
    | some value => .ok value
    | none => .error .unsuitable

def load (file : Option String) (environment : List (String × String)) :
    Except Problem Settings := do
  let layer := (← ofFile file) ++ ofEnvironment environment
  let standard := Policy.standard
  return {
    snapshotUrl := ← read layer "snapshot_url" (fun given => given.text?.map some) none
    policy := {
      cpuFloor := ← read layer "cpu_floor" Given.cpuFloor? standard.cpuFloor
      memoryFloor := ← read layer "memory_floor_mb" Given.memoryFloor? standard.memoryFloor } }

end Settings

end Provision
