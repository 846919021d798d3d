import Provision.Number.Natural
import Provision.Text.Blank

/-!
# Points in time

A point in time is a date and a time of day in universal time. It is read from a date, a time and an
offset; a minute may have a leap second. White space may stand between the parts.
-/

namespace Provision

structure Date where
  year : Int
  month : Nat
  day : Nat
  deriving DecidableEq, Repr

namespace Date

def isLeap (year : Int) : Bool := year % 4 = 0 && (year % 100 != 0 || year % 400 = 0)

def daysIn (year : Int) (month : Nat) : Nat :=
  if month = 2 then if isLeap year then 29 else 28
  else if month = 4 ∨ month = 6 ∨ month = 9 ∨ month = 11 then 30
  else 31

def Valid (d : Date) : Prop :=
  -262143 ≤ d.year ∧ d.year ≤ 262142 ∧ 1 ≤ d.month ∧ d.month ≤ 12 ∧ 1 ≤ d.day ∧
    d.day ≤ daysIn d.year d.month

instance (d : Date) : Decidable d.Valid := by unfold Valid; infer_instance

def next (d : Date) : Date :=
  if d.day < daysIn d.year d.month then { d with day := d.day + 1 }
  else if d.month < 12 then ⟨d.year, d.month + 1, 1⟩
  else ⟨d.year + 1, 1, 1⟩

def previous (d : Date) : Date :=
  if 1 < d.day then { d with day := d.day - 1 }
  else if 1 < d.month then ⟨d.year, d.month - 1, daysIn d.year (d.month - 1)⟩
  else ⟨d.year - 1, 12, daysIn (d.year - 1) 12⟩

/-- Four digits, or a sign and at least four. -/
def yearText (year : Int) : List Char :=
  if 0 ≤ year ∧ year ≤ 9999 then Number.padded 4 year.natAbs
  else (if year < 0 then '-' else '+') :: Number.padded 4 year.natAbs

def text (d : Date) : List Char :=
  yearText d.year ++ '-' :: Number.padded 2 d.month ++ '-' :: Number.padded 2 d.day

end Date

/-- A point in time; the second is 60 in a leap second. -/
structure Timestamp where
  date : Date
  hour : Nat
  minute : Nat
  second : Nat
  nanosecond : Nat
  deriving DecidableEq, Repr

namespace Timestamp

/-! ## Reading -/

/-- One to `most` digits after white space, and the rest. -/
def digits? (most : Nat) (s : List Char) : Option (Nat × List Char) :=
  let s := Text.trimStart s
  let digits := (s.takeWhile Char.isDigit).take most
  (Number.readNatural? digits).map (·, s.drop digits.length)

/-- The text behind a mark, which white space may precede. -/
def behind? (mark : Char) (s : List Char) : Option (List Char) :=
  match Text.trimStart s with
  | c :: r => if c = mark then some r else none
  | [] => none

/-- A signed year has any number of digits, one without a sign at most four. -/
def year? (s : List Char) : Option (Int × List Char) :=
  let any (s : List Char) : Option (Nat × List Char) :=
    (Number.readNatural? (s.takeWhile Char.isDigit)).map (·, s.dropWhile Char.isDigit)
  match Text.trimStart s with
  | '-' :: r => (any r).map fun (n, r) => (-Int.ofNat n, r)
  | '+' :: r => (any r).map fun (n, r) => (Int.ofNat n, r)
  | s => (digits? 4 s).map fun (n, r) => (Int.ofNat n, r)

def date? (s : List Char) : Option (Date × List Char) := do
  let (year, s) ← year? s
  let (month, s) ← digits? 2 (← behind? '-' s)
  let (day, s) ← digits? 2 (← behind? '-' s)
  let date := Date.mk year month day
  if date.Valid then some (date, s) else none

/-- Digits after a point as nanoseconds; those from the tenth on are dropped. -/
def fraction? : List Char → Option (Nat × List Char)
  | '.' :: r =>
    let digits := (r.takeWhile Char.isDigit).take 9
    (Number.readNatural? digits).map fun n =>
      (n * Nat.pow 10 (9 - digits.length), r.dropWhile Char.isDigit)
  | s => some (0, s)

/-- Hours, minutes, seconds and nanoseconds. -/
def clock? (s : List Char) : Option ((Nat × Nat × Nat × Nat) × List Char) := do
  let (hour, s) ← digits? 2 s
  let (minute, s) ← digits? 2 (← behind? ':' s)
  let (second, s) ← digits? 2 (← behind? ':' s)
  let (nanosecond, s) ← fraction? s
  if hour < 24 ∧ minute < 60 ∧ second ≤ 60 then some ((hour, minute, second, nanosecond), s)
  else none

def twoDigits? : List Char → Option (Nat × List Char)
  | a :: b :: r => (Number.readNatural? [a, b]).map (·, r)
  | _ => none

/-- Hours and minutes of an offset, below a day, as minutes. -/
def offsetMinutes? (s : List Char) : Option (Nat × List Char) := do
  let (hours, s) ← twoDigits? s
  let (minutes, s) ← twoDigits? (s.dropWhile fun c => c = ':' || Text.isBlank c)
  if hours < 24 ∧ minutes < 60 then some (60 * hours + minutes, s) else none

/-- Minutes that local time is ahead of universal time. -/
def offset? (s : List Char) : Option (Int × List Char) :=
  match Text.trimStart s with
  | 'Z' :: r => some (0, r)
  | 'z' :: r => some (0, r)
  | '+' :: r => (offsetMinutes? r).map fun (n, r) => (Int.ofNat n, r)
  | '-' :: r => (offsetMinutes? r).map fun (n, r) => (-Int.ofNat n, r)
  | '\u2212' :: r => (offsetMinutes? r).map fun (n, r) => (-Int.ofNat n, r)
  | a :: b :: c :: r =>
    if [a, b, c].map Char.toUpper = ['U', 'T', 'C'] then some (0, r) else none
  | _ => none

/-- Universal time of a local time that is `offset` minutes ahead, less than a day. -/
def universal (t : Timestamp) (offset : Int) : Timestamp :=
  let minutes := Int.ofNat (60 * t.hour + t.minute) - offset
  let date :=
    if minutes < 0 then t.date.previous else if minutes < 1440 then t.date else t.date.next
  let minutes := (minutes % 1440).toNat
  { t with date, hour := minutes / 60, minute := minutes % 60 }

def read? (text : String) : Option Timestamp := do
  let (date, s) ← date? text.toList
  let s ← match s with
    | 'T' :: r => some r
    | 't' :: r => some r
    | ' ' :: r => some r
    | _ => none
  let ((hour, minute, second, nanosecond), s) ← clock? s
  let (offset, s) ← offset? s
  let t := universal { date, hour, minute, second, nanosecond } offset
  if (Text.trimStart s).isEmpty ∧ t.date.Valid then some t else none

/-! ## Writing -/

def clockText (t : Timestamp) : List Char :=
  Number.padded 2 t.hour ++ ':' :: Number.padded 2 t.minute ++ ':' :: Number.padded 2 t.second

/-- No digits, or as many as a multiple of three needs. -/
def fractionText (nanosecond : Nat) : List Char :=
  if nanosecond = 0 then []
  else if nanosecond % 1000000 = 0 then '.' :: Number.padded 3 (nanosecond / 1000000)
  else if nanosecond % 1000 = 0 then '.' :: Number.padded 6 (nanosecond / 1000)
  else '.' :: Number.padded 9 nanosecond

/-- The form in documents. -/
def text (t : Timestamp) : String :=
  String.ofList (t.date.text ++ 'T' :: clockText t ++ fractionText t.nanosecond ++ ['Z'])

/-- The form on a terminal, to the second. -/
def display (t : Timestamp) : String :=
  String.ofList (t.date.text ++ ' ' :: clockText t) ++ " UTC"

end Timestamp

end Provision
