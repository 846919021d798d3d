import Provision.Text.Combining
import Provision.Text.Unprintable

/-!
# Quoted text

A text between double quotes in which every character can be told from every other: the common
controls have letters of their own, what has no picture or joins its neighbour is written by its
code point.
-/

namespace Provision.Text

/-- `\u`, and the code point in braces and hexadecimal. -/
def codePoint (c : Char) : List Char :=
  ['\\', 'u', '\x7b'] ++ Nat.toDigits 16 c.toNat ++ ['\x7d']

def escapeChar (c : Char) : List Char :=
  if c = '\x00' then ['\\', '0']
  else if c = '\t' then ['\\', 't']
  else if c = '\r' then ['\\', 'r']
  else if c = '\n' then ['\\', 'n']
  else if c = '\\' ∨ c = '"' then ['\\', c]
  else if isCombining c ∨ ¬ isPrintable c then codePoint c
  else [c]

def quoted (s : String) : String :=
  String.ofList ('"' :: s.toList.flatMap escapeChar ++ ['"'])

end Provision.Text
