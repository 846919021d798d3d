import Provision.Json.Numbers
import Provision.Json.Strings

/-!
# The leaves of a document

How numbers and strings are written is apart from how lists and objects are. Whoever reads and
writes documents may have his own ways with numbers and strings; the grammar around them is one.
-/

namespace Provision.Json

/-- How numbers and strings are read and written. A reader gives what stands behind what it has
read; the one of strings starts behind the opening quote. -/
structure Codec where
  number? : List Char → Option (Number × List Char)
  numberText : Number → String
  string? : List Char → Option (Text × List Char)
  stringText : String → String

def Codec.standard : Codec where
  number? := Json.number?
  numberText := Number.text
  string? := Json.string?
  stringText := Json.stringText

end Provision.Json
