import Provision.Toml.Scalar
import Provision.Toml.Text

/-!
# Reading a settings file

Lines with a key and a value, headers in brackets, blank lines and comments. Lists may spread over
lines, tables in braces may not.
-/

namespace Provision.Toml

/-- Lists and tables in braces nest less deep than this, and keys have fewer parts. -/
def nestingLimit : Nat := 80

/-- What stands behind white space, line ends and comments; none where a comment holds a control
character. -/
def skipLines? : Bool → List Char → Option (List Char)
  | _, [] => some []
  | _, '\n' :: r => skipLines? false r
  | _, '\r' :: '\n' :: r => skipLines? false r
  | true, c :: r => if isPlain c then skipLines? true r else none
  | false, c :: r =>
    if isSpace c then skipLines? false r
    else if c = '#' then skipLines? true r
    else some (c :: r)

/-- What stands behind a value or a header: nothing, a comment or a line end. -/
def lineEnd? (s : List Char) : Option (List Char) :=
  match skipSpace s with
  | [] => some []
  | '#' :: r => some ('#' :: r)
  | '\n' :: r => some r
  | '\r' :: '\n' :: r => some r
  | _ => none

/-- What stands behind one character. -/
def behind? (c : Char) : List Char → Option (List Char)
  | d :: r => if d = c then some r else none
  | [] => none

/-- One or more parts between points, and the rest. -/
def keyParts? : Nat → List Char → Option (List String × List Char)
  | 0, _ => none
  | fuel + 1, s => do
    let (part, r) ← keyPart? (skipSpace s)
    let part := String.ofList part
    match skipSpace r with
    | '.' :: r =>
      let (parts, r) ← keyParts? fuel r
      some (part :: parts, r)
    | r => some ([part], r)

def key? (s : List Char) : Option (Key × List Char) :=
  match keyParts? (nestingLimit - 1) s with
  | some (part :: parts, r) => some (.ofParts part parts, r)
  | _ => none

/-- A table in braces. -/
def inlineTable? (pairs : List (Key × Value)) : Option Value :=
  (pairs.foldlM (fun entries pair => Entries.addPair pair.1 pair.2 entries) []).map (.table .inline)

mutual

/-- A value and the rest, inside `depth` lists and tables. Each step of reading takes fuel. -/
def value? (depth : Nat) : Nat → List Char → Option (Value × List Char)
  | 0, _ => none
  | fuel + 1, s =>
    match s with
    | '"' :: _ => (string? s).map fun (text, r) => (.text (String.ofList text), r)
    | '\'' :: _ => (string? s).map fun (text, r) => (.text (String.ofList text), r)
    | '[' :: r =>
      if depth + 1 < nestingLimit then
        (items? (depth + 1) fuel r).map fun (items, r) => (.array items, r)
      else none
    | '{' :: r =>
      if depth + 1 < nestingLimit then do
        let (pairs, r) ← match skipSpace r with
          | '}' :: r => some ([], r)
          | r => pairs? (depth + 1) fuel r
        (inlineTable? pairs).map (·, r)
      else none
    | _ =>
      let (run, r) := token s
      (scalar? run).map (·, r)

/-- Values between commas up to the closing bracket; a comma may stand in front of it. -/
def items? (depth : Nat) : Nat → List Char → Option (List Value × List Char)
  | 0, _ => none
  | fuel + 1, s => do
    match ← skipLines? false s with
    | ']' :: r => some ([], r)
    | s =>
      let (item, r) ← value? depth fuel s
      match ← skipLines? false r with
      | ']' :: r => some ([item], r)
      | ',' :: r =>
        let (items, r) ← items? depth fuel r
        some (item :: items, r)
      | _ => none

/-- One or more pairs between commas up to the closing brace. -/
def pairs? (depth : Nat) : Nat → List Char → Option (List (Key × Value) × List Char)
  | 0, _ => none
  | fuel + 1, s => do
    let (key, r) ← key? s
    let (value, r) ← value? depth fuel (skipSpace (← behind? '=' r))
    match skipSpace r with
    | '}' :: r => some ([(key, value)], r)
    | ',' :: r =>
      let (pairs, r) ← pairs? depth fuel r
      some ((key, value) :: pairs, r)
    | _ => none

end

/-- The statement that starts here, and what stands behind its line. -/
def statement? (fuel : Nat) (s : List Char) : Option (Statement × List Char) := do
  let (statement, r) ← match s with
    | '[' :: '[' :: r => do
      let (key, r) ← key? r
      some (.item key, ← behind? ']' (← behind? ']' r))
    | '[' :: r => do
      let (key, r) ← key? r
      some (.header key, ← behind? ']' r)
    | s => do
      let (key, r) ← key? s
      let (value, r) ← value? 0 fuel (skipSpace (← behind? '=' r))
      some (.pair key value, r)
  some (statement, ← lineEnd? r)

def statements? : Nat → List Char → Option (List Statement)
  | 0, _ => none
  | fuel + 1, s => do
    match ← skipLines? false s with
    | [] => some []
    | s =>
      let (statement, r) ← statement? (fuel + 1) s
      some (statement :: (← statements? fuel r))

/-- The text without a byte order mark. -/
def withoutMark : List Char → List Char
  | '\ufeff' :: r => r
  | s => s

/-- The entries of the root table that a document writes. Each step of reading takes a character or
more, and two steps at most. -/
def read? (text : String) : Option Entries := do
  let s := withoutMark text.toList
  let document ← Document.ofStatements (← statements? (2 * s.length + 2) s)
  match ← (Value.table .header document.root).settle? with
  | .table _ entries => some entries
  | _ => none

end Provision.Toml
