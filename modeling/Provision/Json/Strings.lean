import Provision.Json.Value
import Provision.Number.Natural

/-!
# Strings in JSON

No raw control character stands in a string. What is written has escapes for those, for the quote
and for the backslash only.
-/

namespace Provision.Json

/-! ## Reading -/

/-- What stands between the quotes: characters, and code units that escapes name. -/
inductive Piece where
  | char (c : Char)
  | unit (n : Nat)
  deriving DecidableEq, Repr

/-- The character that a letter behind a backslash stands for. -/
def letterMeaning? : Char → Option Char
  | '"' => some '"'
  | '\\' => some '\\'
  | '/' => some '/'
  | 'b' => some '\x08'
  | 'f' => some '\x0c'
  | 'n' => some '\n'
  | 'r' => some '\r'
  | 't' => some '\t'
  | _ => none

/-- The pieces up to the closing quote, and the rest behind it. -/
def pieces? : List Char → Option (List Piece × List Char)
  | [] => none
  | '"' :: r => some ([], r)
  | '\\' :: 'u' :: a :: b :: c :: d :: r => do
    let n ← Number.readBase? 16 [a, b, c, d]
    let (pieces, rest) ← pieces? r
    some (.unit n :: pieces, rest)
  | '\\' :: c :: r => do
    let meaning ← letterMeaning? c
    let (pieces, rest) ← pieces? r
    some (.char meaning :: pieces, rest)
  | c :: r =>
    if c.toNat < 0x20 then none
    else do
      let (pieces, rest) ← pieces? r
      some (.char c :: pieces, rest)

def isHighSurrogate (n : Nat) : Bool := 0xd800 ≤ n && n < 0xdc00

def isLowSurrogate (n : Nat) : Bool := 0xdc00 ≤ n && n < 0xe000

/-- The characters; two units make one, if they are a pair of surrogates. -/
def assemble : List Piece → Option (List Char)
  | [] => some []
  | .char c :: r => (assemble r).map (c :: ·)
  | .unit n :: r =>
    if isHighSurrogate n then
      match r with
      | .unit m :: r =>
        if isLowSurrogate m then
          (assemble r).map (Char.ofNat (0x10000 + (n - 0xd800) * 0x400 + (m - 0xdc00)) :: ·)
        else none
      | _ => none
    else if isLowSurrogate n then none
    else (assemble r).map (Char.ofNat n :: ·)

/-- A string behind its opening quote. -/
def string? (s : List Char) : Option (Text × List Char) :=
  (pieces? s).map fun (pieces, rest) => ((assemble pieces).map String.ofList, rest)

/-! ## Writing -/

/-- The letter behind the backslash, for the characters that have one. -/
def letterEscape? (c : Char) : Option Char :=
  if c = '"' ∨ c = '\\' then some c
  else if c = '\x08' then some 'b'
  else if c = '\x0c' then some 'f'
  else if c = '\n' then some 'n'
  else if c = '\r' then some 'r'
  else if c = '\t' then some 't'
  else none

def escapeChar (c : Char) : List Char :=
  match letterEscape? c with
  | some letter => ['\\', letter]
  | none =>
    if c.toNat < 0x20 then
      ['\\', 'u', '0', '0', Nat.digitChar (c.toNat / 16), Nat.digitChar (c.toNat % 16)]
    else [c]

def stringText (s : String) : String :=
  String.ofList ('"' :: s.toList.flatMap escapeChar ++ ['"'])

end Provision.Json
