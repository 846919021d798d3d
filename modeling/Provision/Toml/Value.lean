/-!
# Values and tables of a settings file

A document is a table that its statements build. A table knows how it came to be, which decides what
may still be added to it: nothing to one written in braces, nothing by dotted keys to one that has a
header, and no key has two values.
-/

namespace Provision.Toml

/-- How a table came to be. -/
inductive Origin where
  | header
  /-- On the way to a table with a header. -/
  | path
  | dotted
  /-- Written in braces. -/
  | inline
  deriving DecidableEq, Repr

inductive Value where
  | text (s : String)
  | integer (n : Int)
  | float (x : Float)
  | bool (b : Bool)
  /-- A date, a time of day or both, in its normal form. -/
  | moment (text : String)
  | array (items : List Value)
  | table (origin : Origin) (entries : List (String × Value))
  /-- Tables that share one header. -/
  | tables (items : List (List (String × Value)))

abbrev Entries := List (String × Value)

/-- A dotted key: its last part, and the parts in front of it. -/
structure Key where
  path : List String
  last : String
  deriving DecidableEq, Repr

namespace Key

def parts (k : Key) : List String := k.path ++ [k.last]

/-- The key of one or more parts. -/
def ofParts : String → List String → Key
  | part, [] => ⟨[], part⟩
  | part, next :: rest => let k := ofParts next rest; ⟨part :: k.path, k.last⟩

end Key

namespace Entries

/-- The entries with one of them changed in its place, or added at the end. -/
def alter (key : String) (change : Option Value → Option Value) : Entries → Option Entries
  | [] => (change none).map fun value => [(key, value)]
  | (name, value) :: rest =>
    if name = key then (change (some value)).map fun changed => (name, changed) :: rest
    else (alter key change rest).map ((name, value) :: ·)

def changeLast (change : Entries → Option Entries) : List Entries → Option (List Entries)
  | [] => none
  | [entries] => (change entries).map ([·])
  | entries :: rest => (changeLast change rest).map (entries :: ·)

/-- Whether a path that makes tables of one origin leads through a table of another. -/
def leadsThrough (way origin : Origin) : Bool :=
  match way, origin with
  | _, .inline => false
  | .dotted, .header => false
  | _, _ => true

/-- Changes the table that a path leads to, and makes the tables that are missing on its way. Of
tables that share a header, the path leads through the last. -/
def within (way : Origin) (change : Origin → Entries → Option Entries) :
    List String → Origin → Entries → Option Entries
  | [], origin, entries => change origin entries
  | key :: path, _, entries => alter key (fun
    | none => (within way change path way []).map (.table way)
    | some (.table origin inner) =>
      if leadsThrough way origin then (within way change path origin inner).map (.table origin)
      else none
    | some (.tables items) => (changeLast (within way change path .header) items).map .tables
    | some _ => none) entries

/-- A value for a key that has none; dotted keys add to a table that they made only. -/
def addPair (key : Key) (value : Value) (entries : Entries) : Option Entries :=
  let add (origin : Origin) (entries : Entries) : Option Entries :=
    if !key.path.isEmpty && origin != .dotted then none
    else alter key.last (fun found => if found.isSome then none else some value) entries
  within .dotted add key.path .header entries

/-- A table for a header. -/
def addTable (key : Key) (entries : Entries) : Option Entries :=
  let opened : Option Value → Option Value
    | none => some (.table .header [])
    | some (.table .path inner) => some (.table .header inner)
    | some _ => none
  within .path (fun _ => alter key.last opened) key.path .header entries

/-- One more table for a header that several tables share. -/
def addItem (key : Key) (entries : Entries) : Option Entries :=
  let append : Option Value → Option Value
    | none => some (.tables [[]])
    | some (.tables items) => some (.tables (items ++ [[]]))
    | some _ => none
  within .path (fun _ => alter key.last append) key.path .header entries

end Entries

/-! ## Statements -/

inductive Statement where
  | pair (key : Key) (value : Value)
  | header (key : Key)
  /-- A header in double brackets. -/
  | item (key : Key)

/-- The root table, and the path of the table that pairs go to. -/
structure Document where
  root : Entries
  current : List String

namespace Document

def empty : Document := ⟨[], []⟩

def add (d : Document) : Statement → Option Document
  | .pair key value =>
    (Entries.within .path (fun _ => Entries.addPair key value) d.current .header d.root).map
      (⟨·, d.current⟩)
  | .header key => (Entries.addTable key d.root).map (⟨·, key.parts⟩)
  | .item key => (Entries.addItem key d.root).map (⟨·, key.parts⟩)

def ofStatements (statements : List Statement) : Option Document := statements.foldlM add empty

end Document

end Provision.Toml
