import Provision.Text.Emoji
import Provision.Text.Width

/-!
# Columns a text takes on a terminal

A character takes the columns of its own width unless it is drawn together with what follows:
letters that melt into one, an emoji with the signs that dress it. A text is therefore read from
its end, each character in the light of its follower.
-/

namespace Provision.Text

/-- The right part of a ligature. -/
inductive Ligand where
  /-- Arabic alef, for a lam before it. -/
  | alef
  /-- Hebrew lamed, for an alef before it. -/
  | lamed
  /-- Buginese ya, for the vowel sign i. -/
  | ya
  /-- Buginese vowel sign i and ya, for the letter a. -/
  | vowelYa
  /-- A Tifinagh consonant, for another. -/
  | consonant
  /-- The Tifinagh consonant joiner and a consonant. -/
  | boundConsonant
  /-- One of two Lisu tone letters, for one of the other four. -/
  | tone
  /-- Old Turkic i, for the letter es. -/
  | turkicI
  /-- A Khmer letter, which the sign coeng before it puts below the line. -/
  | subjoinable
  deriving DecidableEq, Repr

/-- What a character finds behind it. -/
inductive Follower where
  | plain
  /-- The right part of a ligature, perhaps behind a joiner. -/
  | ligand (part : Ligand) (joined : Bool)
  | skinTone
  | flagLetter
  /-- Two flag letters or more. -/
  | flagLetters
  | picture
  /-- A joiner and a picture. -/
  | joinedPicture
  /-- A keycap, a joiner and a picture. -/
  | joinedKeycap
  /-- One flag letter, a joiner and a picture. -/
  | joinedFlagLetter
  /-- Whole flags, a joiner and a picture. -/
  | joinedFlags
  /-- A flag letter, whole flags, a joiner and a picture. -/
  | joinedLetterFlags
  /-- The tags of a region, a joiner and a picture: after the digits come the letters. -/
  | joinedTags (digits letters : Nat)
  deriving DecidableEq, Repr

/-- What a variation selector asks for. -/
inductive Style where
  | text
  | picture
  deriving DecidableEq, Repr

structure Context where
  style : Option Style
  follower : Follower
  deriving DecidableEq, Repr

namespace Follower

def isTifinaghConsonant (c : Char) : Bool := inRanges [(0x2d31, 0x2d65), (0x2d6f, 0x2d6f)] c

def isArabicAlef (c : Char) : Bool :=
  inRanges [(0x622, 0x623), (0x625, 0x625), (0x627, 0x627), (0x671, 0x673), (0x675, 0x675),
    (0x773, 0x774), (0x870, 0x882)] c

def isArabicLam (c : Char) : Bool :=
  inRanges [(0x644, 0x644), (0x6b5, 0x6b8), (0x76a, 0x76a), (0x8a6, 0x8a6), (0x8c7, 0x8c7)] c

def isKhmerSubjoinable (c : Char) : Bool :=
  inRanges [(0x1780, 0x1782), (0x1784, 0x1787), (0x1789, 0x178c), (0x178e, 0x1793),
    (0x1795, 0x1798), (0x179b, 0x179d), (0x17a0, 0x17a0), (0x17a2, 0x17a2), (0x17a7, 0x17a7),
    (0x17ab, 0x17ac), (0x17af, 0x17af)] c

/-- Invisible characters that break the joining of Arabic letters. -/
def opaqueRanges : List (Nat × Nat) := [
  (0x605, 0x605), (0x890, 0x891), (0x8e2, 0x8e2), (0x9be, 0x9be), (0x9d7, 0x9d7), (0xb3e, 0xb3e),
  (0xb57, 0xb57), (0xbbe, 0xbbe), (0xbd7, 0xbd7), (0xcc0, 0xcc0), (0xcc2, 0xcc2), (0xcc7, 0xcc8),
  (0xcca, 0xccb), (0xcd5, 0xcd6), (0xd3e, 0xd3e), (0xd4e, 0xd4e), (0xd57, 0xd57), (0xdcf, 0xdcf),
  (0xddf, 0xddf), (0x1160, 0x11ff), (0x180e, 0x180e), (0x1b35, 0x1b35), (0x1b3b, 0x1b3b),
  (0x1b3d, 0x1b3d), (0x1b43, 0x1b43), (0x200c, 0x200d), (0x2065, 0x2069), (0x302e, 0x302f),
  (0x3164, 0x3164), (0xa8fa, 0xa8fa), (0xd7b0, 0xd7c6), (0xd7cb, 0xd7fb), (0xff9e, 0xffa0),
  (0xfff0, 0xfff8), (0x111c2, 0x111c3), (0x1133e, 0x1133e), (0x11357, 0x11357), (0x114b0, 0x114b0),
  (0x114bd, 0x114bd), (0x115af, 0x115af), (0x11930, 0x11930), (0x1193f, 0x1193f),
  (0x11941, 0x11941), (0x11a3a, 0x11a3a), (0x11a84, 0x11a89), (0x11d46, 0x11d46),
  (0x11f02, 0x11f02), (0x1d165, 0x1d165), (0x1d16e, 0x1d172), (0xe0000, 0xe0000),
  (0xe0002, 0xe001f), (0xe0080, 0xe00ff), (0xe01f0, 0xe0fff)]

/-- Invisible characters of Joining_Type T: Arabic letters join across them. -/
def isTransparent (c : Char) : Bool := charWidth c = 0 && !inRanges opaqueRanges c

/-- Default-ignorable marks, across which all other ligatures hold. -/
def isIgnorableMark (c : Char) : Bool :=
  inRanges [(0x34f, 0x34f), (0x17b4, 0x17b5), (0x180b, 0x180d), (0x180f, 0x180f),
    (0xfe00, 0xfe0f), (0xe0100, 0xe01ef)] c

def ofChar (c : Char) : Follower :=
  if isArabicAlef c then .ligand .alef false
  else if c = '\u05dc' then .ligand .lamed false
  else if c = '\u1a10' then .ligand .ya false
  else if isTifinaghConsonant c then .ligand .consonant false
  else if c = '\ua4fc' ∨ c = '\ua4fd' then .ligand .tone false
  else if c = '𐰃' then .ligand .turkicI false
  else if isKhmerSubjoinable c then .ligand .subjoinable false
  else if isSkinTone c then .skinTone
  else if isFlagLetter c then .flagLetter
  else if isPicture c then .picture
  else .plain

/-- The columns of a ligature, given those of its right part, and what the ligature is for the
characters before it. -/
def melt? (part : Ligand) (joined : Bool) (c : Char) (columns : Nat) : Option (Nat × Follower) :=
  match part, joined with
  | .lamed, true => if c = '\u05d0' then some (columns, .plain) else none
  | .ya, true => if c = '\u1a17' then some (columns, .ligand .vowelYa true) else none
  | .vowelYa, _ => if c = '\u1a15' then some (columns, .plain) else none
  | .consonant, _ =>
    if c = '\u2d7f' then some (columns + 1, .ligand .boundConsonant true)
    else if joined ∧ isTifinaghConsonant c then some (columns, .plain)
    else none
  | .boundConsonant, _ => if isTifinaghConsonant c then some (columns - 1, .plain) else none
  | .tone, _ => if inRanges [(0xa4f8, 0xa4fb)] c then some (columns, .plain) else none
  | .turkicI, true => if c = '𐰲' then some (columns, .plain) else none
  | .subjoinable, _ => if c = '\u17d2' then some (columns - 1, .plain) else none
  | _, _ => none

/-- The tags of a region are letters and before them, read from the end, no more than three
digits. -/
def tag? (digits letters : Nat) (c : Char) : Option Follower :=
  if inRanges [(0xe0061, 0xe007a)] c ∧ digits = 0 ∧ letters < 6 then
    some (.joinedTags 0 (letters + 1))
  else if inRanges [(0xe0030, 0xe0039)] c ∧ digits < 3 ∧ letters ≤ 4 then
    some (.joinedTags (digits + 1) letters)
  else if c = '🏴' ∧ (digits = 3 ∨ digits = 0 ∧ 3 ≤ letters) then some .picture
  else none

/-- The columns of a character with its follower, given those of the follower, and what both are
for the character before; nothing if they are drawn apart. -/
def share? (f : Follower) (c : Char) (columns : Nat) : Option (Nat × Follower) :=
  match f with
  | .plain => none
  | .ligand .alef joined =>
    if isArabicLam c then some (columns, .plain)
    else if isTransparent c then some (columns, .ligand .alef joined)
    else none
  | .ligand part joined =>
    if c = '\u200d' then some (columns, .ligand part true)
    else if isIgnorableMark c then some (columns, .ligand part joined)
    else melt? part joined c columns
  | .skinTone =>
    if isPerson c then some (columns, .picture)
    else if c = '\u200d' then some (columns, .joinedPicture)
    else none
  | .flagLetter => if isFlagLetter c then some (columns + 1, .flagLetters) else none
  | .flagLetters =>
    if isFlagLetter c then some (columns + 1, .flagLetters)
    else if c = '\u200d' then some (columns, .joinedPicture)
    else none
  | .picture => if c = '\u200d' then some (columns, .joinedPicture) else none
  | .joinedPicture =>
    if c = '\u20e3' then some (columns, .joinedKeycap)
    else if isFlagLetter c then some (columns + 1, .joinedFlagLetter)
    else if isSkinTone c then some (columns, .skinTone)
    else if c.toNat = 0xe007f then some (columns, .joinedTags 0 0)
    else if isPicture c then some (columns, .picture)
    else none
  | .joinedKeycap => none
  | .joinedFlagLetter => if isFlagLetter c then some (columns - 1, .joinedFlags) else none
  | .joinedFlags =>
    if isFlagLetter c then some (columns + 3, .joinedLetterFlags)
    else if c = '\u200d' then some (columns, .joinedPicture)
    else none
  | .joinedLetterFlags =>
    if isFlagLetter c then some (columns - 1, .joinedFlags)
    else if c = '\u200d' then some (columns, .joinedPicture)
    else none
  | .joinedTags digits letters => (tag? digits letters c).map (columns, ·)

/-- Whether a picture before a selector joins what follows. -/
def isJoined : Follower → Bool
  | .joinedPicture | .joinedKeycap => true
  | _ => false

/-- A ligature holds across a variation selector. -/
def ligature : Follower → Follower
  | .ligand part joined => .ligand part joined
  | _ => .plain

end Follower

def Context.plain : Context := ⟨none, .plain⟩

/-- The columns of a text and its first character, seen from before, when it gets one character
more in front. -/
def widen (c : Char) : Nat × Context → Nat × Context
  | (columns, ⟨style, follower⟩) =>
    if style = some .picture ∧ hasPictureStyle c then
      (if follower.isJoined then columns else columns + 2, ⟨none, .picture⟩)
    else if c.toNat ≤ 0xa0 then (columns + 1, .plain)
    else
      let follower := if style = some .picture then follower.ligature else follower
      if c = '\ufe0f' then
        (columns, ⟨some .picture, if follower.isJoined then follower else follower.ligature⟩)
      else if c = '\ufe0e' then (columns, ⟨some .text, follower.ligature⟩)
      else if style = some .text ∧ hasTextStyle c then (columns + 1, .plain)
      else match follower.share? c columns with
        | some (shared, whole) => (shared, ⟨none, whole⟩)
        | none => (columns + charWidth c, ⟨none, .ofChar c⟩)

def textWidth (s : String) : Nat := (s.toList.foldr widen (0, .plain)).1

end Provision.Text
