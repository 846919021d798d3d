/-!
# Duplicate keys among the rows of a form

Keys are compared exactly. An empty key belongs to a row that is not filled in yet and is never a
duplicate.
-/

namespace Provision.Duplicates

/-- One more of a key, among counts that are in the order of their keys. -/
def tally : List (String × Nat) → String → List (String × Nat)
  | [], key => [(key, 1)]
  | (other, n) :: rest, key =>
    if key = other then (other, n + 1) :: rest
    else if key < other then (key, 1) :: (other, n) :: rest
    else (other, n) :: tally rest key

/-- Keys that occur more than once and how often, in the order of their characters. Rows that are
not filled in are not counted. -/
def counts (keys : List String) : List (String × Nat) :=
  let found := keys.foldl (fun counts key => if key = "" then counts else tally counts key) []
  found.filter fun (_, n) => 1 < n

/-- Whether two rows have one key. -/
def any (keys : List String) : Bool := !(counts keys).isEmpty

/-- Rows from zero on whose key occurs in another row, in their order. All rows are counted, and
those that are not filled in are left out afterwards. -/
def positions (keys : List String) : List (Nat × String) :=
  let found := keys.foldl tally []
  let isRepeated (key : String) : Bool := key != "" && 1 < (found.lookup key).getD 0
  (keys.zipIdx.filter fun (key, _) => isRepeated key).map fun (key, row) => (row, key)

end Provision.Duplicates
