import Provision.Json.Value
import Provision.Timestamp

/-!
# Shapes of Kubernetes documents

A field of an object may be missing, null or repeated, and fields that the shape does not name are
skipped. Items of a list and values of a map are never null. Lists and objects that are not skipped
nest only so deep.
-/

namespace Provision.Kubernetes

inductive Shape where
  | text
  /-- One text, which is not null either. -/
  | constant (text : String)
  | flag
  /-- A signed whole number of this many bits. -/
  | whole (bits : Nat)
  | moment
  | wholeOrText
  | anything
  | list (item : Shape)
  | map (value : Shape)
  | record (fields : List (String × Shape))

namespace Shape

/-- A record of texts. -/
def texts (names : List String) : Shape := .record (names.map fun name => (name, .text))

def isConstant : Shape → Bool
  | .constant _ => true
  | _ => false

/-- The shape that a record has under a name. -/
def field? (fields : List (String × Shape)) (name : String) : Option Shape :=
  (fields.find? fun field => field.1 = name).map Prod.snd

def acceptsNumber : Shape → Json.Number → Bool
  | .whole bits, .natural n => n < 1 <<< (bits - 1)
  | .whole bits, .negative n => n ≤ 1 <<< (bits - 1)
  | .wholeOrText, .natural n => n < 1 <<< 31
  | .wholeOrText, .negative n => n ≤ 1 <<< 31
  | .anything, .real x => x.isFinite
  | .anything, _ => true
  | _, _ => false

def acceptsText : Shape → String → Bool
  | .text, _ => true
  | .constant expected, s => s = expected
  | .moment, s => (Timestamp.read? s).isSome
  | .wholeOrText, _ => true
  | .anything, _ => true
  | _, _ => false

mutual

/-- Whether a value has the shape, in at most `room` levels of lists and objects. -/
def accepts : Nat → Shape → Json.Value → Bool
  | _, .anything, .null => true
  | _, _, .null => false
  | _, .anything, .bool _ => true
  | _, .flag, .bool _ => true
  | _, _, .bool _ => false
  | _, shape, .number n => shape.acceptsNumber n
  | _, _, .string none => false
  | _, shape, .string (some s) => shape.acceptsText s
  | room + 1, .list item, .array items => acceptsItems room item items
  | room + 1, .anything, .array items => acceptsItems room .anything items
  | _, _, .array _ => false
  | room + 1, .record fields, .object entries => acceptsFields room fields entries
  | room + 1, .map value, .object entries => acceptsValues room value entries
  | room + 1, .anything, .object entries => acceptsValues room .anything entries
  | _, _, .object _ => false

def acceptsItems (room : Nat) (item : Shape) : List Json.Value → Bool
  | [] => true
  | v :: rest => accepts room item v && acceptsItems room item rest

def acceptsValues (room : Nat) (value : Shape) : List (Json.Text × Json.Value) → Bool
  | [] => true
  | (name, v) :: rest => name.isSome && accepts room value v && acceptsValues room value rest

def acceptsFields (room : Nat) (fields : List (String × Shape)) :
    List (Json.Text × Json.Value) → Bool
  | [] => true
  | (none, _) :: _ => false
  | (some name, v) :: rest =>
    (match field? fields name with
      | some shape => accepts room shape v || (v matches .null && !shape.isConstant)
      | none => true) && acceptsFields room fields rest

end

end Shape

end Provision.Kubernetes
