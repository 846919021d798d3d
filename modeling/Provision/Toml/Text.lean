import Provision.Number.Natural

/-!
# Strings and keys of a settings file

Strings stand between quotes or apostrophes, one of each or three. Between quotes a backslash
escapes the next character; between apostrophes nothing is escaped. Three open a string of several
lines, whose line ends are all read as one character, and a line end right behind the opening is
dropped.
-/

namespace Provision.Toml

def isSpace (c : Char) : Bool := c = ' ' || c = '\t'

def skipSpace (s : List Char) : List Char := s.dropWhile isSpace

/-- Characters that may stand in strings and comments as they are. -/
def isPlain (c : Char) : Bool := c = '\t' || (0x20 ≤ c.toNat && c.toNat != 0x7f)

/-- The character that a letter behind a backslash stands for. -/
def letterMeaning? : Char → Option Char
  | 'b' => some '\x08'
  | 't' => some '\t'
  | 'n' => some '\n'
  | 'f' => some '\x0c'
  | 'r' => some '\r'
  | '"' => some '"'
  | '\\' => some '\\'
  | _ => none

/-- The character with this code point in hexadecimal. -/
def character? (digits : List Char) : Option Char := do
  let n ← Number.readBase? 16 digits
  if n.isValidChar then some (Char.ofNat n) else none

/-- A text and the rest behind it. -/
abbrev Reading := Option (List Char × List Char)

/-- The reading with a character in front. -/
def Reading.cons (c : Char) (r : Reading) : Reading := r.map fun (text, rest) => (c :: text, rest)

/-- A reading behind a character that may not be there. -/
def Reading.consIf (c : Option Char) (r : Reading) : Reading := c.bind (Reading.cons · r)

/-- Up to the closing quote. -/
def basic? : List Char → Reading
  | [] => none
  | '"' :: r => some ([], r)
  | '\\' :: 'u' :: a :: b :: c :: d :: r => .consIf (character? [a, b, c, d]) (basic? r)
  | '\\' :: 'U' :: a :: b :: c :: d :: e :: f :: g :: h :: r =>
    .consIf (character? [a, b, c, d, e, f, g, h]) (basic? r)
  | '\\' :: c :: r => .consIf (letterMeaning? c) (basic? r)
  | c :: r => if isPlain c then .cons c (basic? r) else none

/-- Up to the closing apostrophe. -/
def literal? : List Char → Reading
  | [] => none
  | '\'' :: r => some ([], r)
  | c :: r => if isPlain c then .cons c (literal? r) else none

/-- Three marks close a string; up to two more of them, in front, still belong to it. -/
def closing (mark : Char) : List Char → List Char × List Char
  | a :: b :: r =>
    if a = mark then if b = mark then ([a, b], r) else ([a], b :: r) else ([], a :: b :: r)
  | [a] => if a = mark then ([a], []) else ([], [a])
  | [] => ([], [])

/-- Nothing but white space stands in front of the next line end. -/
def endsLine (s : List Char) : Bool :=
  match skipSpace s with
  | '\n' :: _ => true
  | '\r' :: '\n' :: _ => true
  | _ => false

/-- Up to three closing quotes. A backslash at the end of a line drops the white space and line ends
behind it; the flag says that they are being dropped. -/
def lines? : Bool → List Char → Reading
  | _, [] => none
  | true, ' ' :: r => lines? true r
  | true, '\t' :: r => lines? true r
  | true, '\n' :: r => lines? true r
  | true, '\r' :: '\n' :: r => lines? true r
  | _, '"' :: '"' :: '"' :: r => some (closing '"' r)
  | _, '\n' :: r => .cons '\n' (lines? false r)
  | _, '\r' :: '\n' :: r => .cons '\n' (lines? false r)
  | _, '\\' :: 'u' :: a :: b :: c :: d :: r => .consIf (character? [a, b, c, d]) (lines? false r)
  | _, '\\' :: 'U' :: a :: b :: c :: d :: e :: f :: g :: h :: r =>
    .consIf (character? [a, b, c, d, e, f, g, h]) (lines? false r)
  | _, '\\' :: c :: r =>
    if endsLine (c :: r) then lines? true (c :: r)
    else .consIf (letterMeaning? c) (lines? false r)
  | _, c :: r => if isPlain c then .cons c (lines? false r) else none

/-- Up to three closing apostrophes. -/
def literalLines? : List Char → Reading
  | [] => none
  | '\'' :: '\'' :: '\'' :: r => some (closing '\'' r)
  | '\n' :: r => .cons '\n' (literalLines? r)
  | '\r' :: '\n' :: r => .cons '\n' (literalLines? r)
  | c :: r => if isPlain c then .cons c (literalLines? r) else none

def dropLineEnd : List Char → List Char
  | '\n' :: r => r
  | '\r' :: '\n' :: r => r
  | s => s

/-- A string of any of the four kinds; none if no string starts here. -/
def string? : List Char → Reading
  | '"' :: '"' :: '"' :: r => lines? false (dropLineEnd r)
  | '\'' :: '\'' :: '\'' :: r => literalLines? (dropLineEnd r)
  | '"' :: r => basic? r
  | '\'' :: r => literal? r
  | _ => none

/-! ## Keys -/

def isBare (c : Char) : Bool := c.isAlphanum || c = '_' || c = '-'

/-- A part of a key: bare, or a string on one line. -/
def keyPart? : List Char → Reading
  | '"' :: r => basic? r
  | '\'' :: r => literal? r
  | s =>
    let part := s.takeWhile isBare
    if part.isEmpty then none else some (part, s.dropWhile isBare)

end Provision.Toml
