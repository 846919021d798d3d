import Provision.Number.Natural

/-!
# Locators

A locator names a scheme and, for most schemes, a host and a number behind a colon. Blanks and
controls at its ends do not count, and neither do line ends and tabs anywhere in it.
-/

namespace Provision

inductive Host where
  | domain (name : String)
  | v4 (address : Nat)
  /-- Eight groups of sixteen bits. -/
  | v6 (groups : List Nat)
  deriving DecidableEq, Repr

structure Url where
  scheme : String
  host : Option Host
  portNumber : Option Nat
  /-- Path and query, as they were given. -/
  target : String
  deriving DecidableEq, Repr

namespace Url

/-- The parts between separators. -/
def parts (separator : Char) : List Char → List (List Char)
  | [] => [[]]
  | c :: r =>
    if c = separator then [] :: parts separator r
    else match parts separator r with
      | part :: rest => (c :: part) :: rest
      | [] => [[c]]

/-! ## Addresses of four bytes -/

/-- A number in decimal, or behind `0` in octal, or behind `0x` in hexadecimal. -/
def v4Number? : List Char → Option Nat
  | ['0'] => some 0
  | '0' :: x :: r =>
    if x = 'x' ∨ x = 'X' then if r.isEmpty then some 0 else Number.readBase? 16 r
    else Number.readBase? 8 (x :: r)
  | s => Number.readNatural? s

/-- The parts of a domain, without the empty one behind a point at its end. -/
def labels (s : List Char) : List (List Char) :=
  match parts '.' s with
  | [part] => [part]
  | all => if all.getLast? = some [] then all.dropLast else all

/-- A domain whose last label is a number has to be an address. -/
def endsInNumber (s : List Char) : Bool :=
  match (labels s).getLast? with
  | some label => (!label.isEmpty && label.all Char.isDigit) || (v4Number? label).isSome
  | none => false

/-- One to four numbers; each but the last is a byte, the last fills what is left. -/
def v4? (s : List Char) : Option Nat := do
  let numbers ← (labels s).mapM v4Number?
  let last ← numbers.getLast?
  let bytes := numbers.dropLast
  if bytes.length ≤ 3 ∧ bytes.all (· < 256) ∧ last < Nat.pow 256 (4 - bytes.length) then
    some (bytes.foldl (fun n byte => n * 256 + byte) 0 * Nat.pow 256 (4 - bytes.length) + last)
  else none

/-! ## Addresses of eight groups -/

/-- A byte in decimal without leading zeros. -/
def byte? (s : List Char) : Option Nat :=
  (Number.readNatural? s).filter fun n => n < 256 && (s.length = 1 || s.head? != some '0')

/-- Four bytes between points, as two groups. -/
def dotted? (s : List Char) : Option (List Nat) := do
  match ← (parts '.' s).mapM byte? with
  | [a, b, c, d] => some [a * 256 + b, c * 256 + d]
  | _ => none

def group? (s : List Char) : Option Nat :=
  if s.length ≤ 4 then Number.readBase? 16 s else none

/-- Groups between colons; the last two may be four bytes. -/
def groups? : List (List Char) → Option (List Nat)
  | [] => some []
  | [last] => (dotted? last).or ((group? last).map ([·]))
  | part :: rest => do return (← group? part) :: (← groups? rest)

/-- The groups of a text that may be empty. -/
def side? (s : List Char) : Option (List Nat) :=
  if s.isEmpty then some [] else groups? (parts ':' s)

/-- What stands on both sides of the first two colons in a row. -/
def splitGap? : List Char → Option (List Char × List Char)
  | ':' :: ':' :: r => some ([], r)
  | c :: r => (splitGap? r).map fun (before, after) => (c :: before, after)
  | [] => none

/-- Eight groups, or fewer around two colons that stand for groups of zero. -/
def v6? (s : List Char) : Option (List Nat) :=
  match splitGap? s with
  | none => (side? s).filter (·.length = 8)
  | some (before, after) => do
    let front ← if (dotted? ((parts ':' before).getLastD [])).isSome then none else side? before
    let back ← side? after
    let known := front.length + back.length
    if known < 8 then some (front ++ List.replicate (8 - known) 0 ++ back) else none

/-! ## Hosts -/

/-- Characters that no host has. -/
def isForbidden (c : Char) : Bool :=
  c.toNat ≤ 0x20 || c.toNat = 0x7f ||
    ['#', '/', '<', '>', '?', '@', '[', '\\', ']', '^', '|', ':'].contains c

/-- The text without percent escapes of characters that one byte writes. -/
def unescape : List Char → List Char
  | '%' :: a :: b :: r =>
    match (Number.readBase? 16 [a, b]).filter (· < 0x80) with
    | some n => Char.ofNat n :: unescape r
    | none => '%' :: unescape (a :: b :: r)
  | c :: r => c :: unescape r
  | [] => []

/-- A domain, or an address of four bytes. -/
def domain? (s : List Char) : Option Host :=
  let s := (unescape s).map Char.toLower
  if s.isEmpty || s.any isForbidden || s.contains '%' then none
  else if endsInNumber s then (v4? s).map .v4
  else some (.domain (String.ofList s))

/-- A host in brackets has eight groups. -/
def host? (known : Bool) (s : List Char) : Option Host :=
  match s with
  | '[' :: r => if r.getLast? = some ']' then (v6? r.dropLast).map .v6 else none
  | s =>
    if known then domain? s
    else if s.any isForbidden then none else some (.domain (String.ofList s))

/-! ## Authorities -/

/-- A number of sixteen bits, or nothing. -/
def portNumber? (s : List Char) : Option (Option Nat) :=
  if s.isEmpty then some none
  else (Number.readNatural? s).bind fun n => if n < UInt16.size then some (some n) else none

/-- The host and what stands behind the colon after it. -/
def splitPortNumber (s : List Char) : List Char × List Char :=
  let inBrackets := if s.head? = some '[' then s.takeWhile (· != ']') else []
  let rest := s.drop inBrackets.length
  (inBrackets ++ rest.takeWhile (· != ':'), (rest.dropWhile (· != ':')).drop 1)

/-- What stands behind the last mark that ends the name of a user. -/
def withoutUser (s : List Char) : List Char := (parts '@' s).getLastD []

/-- Host and number of an authority. Only a scheme that is not known may go without a host. -/
def authority? (known : Bool) (s : List Char) : Option (Option Host × Option Nat) := do
  let (host, portNumber) := splitPortNumber (withoutUser s)
  if host.isEmpty then
    if known || !portNumber.isEmpty || s.contains '@' then none else some (none, none)
  else return (some (← host? known host), ← portNumber? portNumber)

/-! ## Reading -/

def isSchemeChar (c : Char) : Bool := c.isAlphanum || c = '+' || c = '-' || c = '.'

/-- A scheme in lower case, and what stands behind its colon. -/
def scheme? (s : List Char) : Option (String × List Char) :=
  let name := s.takeWhile isSchemeChar
  match name, s.dropWhile isSchemeChar with
  | c :: _, ':' :: r => if c.isAlpha then some (String.ofList (name.map Char.toLower), r) else none
  | _, _ => none

/-- The schemes whose host is a domain or an address. -/
def knownSchemes : List String := ["http", "https", "ws", "wss", "ftp"]

def isEndChar (c : Char) : Bool := c.toNat ≤ 0x20

/-- Without blanks and controls at the ends, and without line ends and tabs. -/
def cleaned (s : List Char) : List Char :=
  let trimmed := ((s.dropWhile isEndChar).reverse.dropWhile isEndChar).reverse
  trimmed.filter fun c => c != '\t' && c != '\n' && c != '\r'

/-- Where the authority of a known scheme ends. -/
def endsAuthority (c : Char) : Bool := c = '/' || c = '\\' || c = '?' || c = '#'

/-- Path and query behind an authority; a fragment is not sent. -/
def targetOf (s : List Char) : String :=
  let target := s.takeWhile (· != '#')
  String.ofList (if target.head? = some '/' ∨ target.head? = some '\\' then '/' :: target.drop 1
    else '/' :: target)

def read? (text : String) : Option Url := do
  let (scheme, s) ← scheme? (cleaned text.toList)
  if knownSchemes.contains scheme then
    let s := s.dropWhile fun c => c = '/' || c = '\\'
    let (host, portNumber) ← authority? true (s.takeWhile (!endsAuthority ·))
    some { scheme, host, portNumber, target := targetOf (s.dropWhile (!endsAuthority ·)) }
  else match s with
    | '/' :: '/' :: s =>
      let ends (c : Char) : Bool := c = '/' || c = '?' || c = '#'
      let (host, portNumber) ← authority? false (s.takeWhile (!ends ·))
      some { scheme, host, portNumber, target := targetOf (s.dropWhile (!ends ·)) }
    | s => some { scheme, host := none, portNumber := none, target := String.ofList s }

end Url

end Provision
