import Provision.Timestamp
import Provision.Toml.Value

/-!
# Dates and times of a settings file

A date, a time of day, or both; only both together may have an offset. They stand in the file as
they are, or as a text in a table whose first key says so. Such a text may say a little more: the
hour 24, and an offset of up to a whole day whose minutes may exceed an hour.
-/

namespace Provision.Toml

open Number (readNatural?)

/-- Two digits that write a number up to a limit, and the rest. -/
def pair? (limit : Nat) : List Char → Option (List Char × List Char)
  | a :: b :: r =>
    match readNatural? [a, b] with
    | some n => if n ≤ limit then some ([a, b], r) else none
    | none => none
  | _ => none

/-- A date of four, two and two digits, and the rest. -/
def date? : List Char → Option (List Char × List Char)
  | a :: b :: c :: d :: '-' :: e :: f :: '-' :: g :: h :: r => do
    let year ← readNatural? [a, b, c, d]
    let date := Date.mk year (← readNatural? [e, f]) (← readNatural? [g, h])
    if date.Valid then some (date.text, r) else none
  | _ => none

/-- A fraction of a second without zeros at its end, of at most nine digits. -/
def second? : List Char → Option (List Char × List Char)
  | '.' :: r =>
    let digits := r.takeWhile Char.isDigit
    let kept := ((digits.take 9).reverse.dropWhile (· = '0')).reverse
    if digits.isEmpty then none
    else some (if kept.isEmpty then [] else '.' :: kept, r.dropWhile Char.isDigit)
  | r => some ([], r)

/-- What stands behind a colon. -/
def behindColon? : List Char → Option (List Char)
  | ':' :: r => some r
  | _ => none

/-- The last hour of a day, and the limits of the hours, the minutes and all minutes of an offset.
-/
structure Clock where
  lastHour : Nat
  offsetHours : Nat
  offsetMinutes : Nat
  offset : Nat
  deriving DecidableEq, Repr

namespace Clock

/-- Dates and times that stand in the file as they are. -/
def plain : Clock := ⟨23, 23, 59, 1439⟩

/-- Dates and times in a table. -/
def tabled : Clock := ⟨24, 99, 99, 1440⟩

variable (clock : Clock)

/-- A time of day to the second or a fraction of it, and the rest. -/
def time? (s : List Char) : Option (List Char × List Char) := do
  let (hour, s) ← pair? clock.lastHour s
  let (minute, s) ← pair? 59 (← behindColon? s)
  let (second, s) ← pair? 60 (← behindColon? s)
  let (fraction, s) ← second? s
  some (hour ++ ':' :: minute ++ ':' :: second ++ fraction, s)

/-- Minutes as a sign, hours and minutes; no offset is a negative one. -/
def offsetText (sign : Char) (minutes : Nat) : List Char :=
  (if minutes = 0 then '+' else sign) :: Number.padded 2 (minutes / 60) ++
    ':' :: Number.padded 2 (minutes % 60)

/-- An offset from universal time, if there is one. -/
def offset? : List Char → Option (List Char)
  | [] => some []
  | ['Z'] => some ['Z']
  | ['z'] => some ['Z']
  | sign :: r => do
    let (hours, r) ← pair? clock.offsetHours r
    let (minutes, r) ← pair? clock.offsetMinutes (← behindColon? r)
    let offset := 60 * (← readNatural? hours) + (← readNatural? minutes)
    if (sign = '+' ∨ sign = '-') ∧ r.isEmpty ∧ offset ≤ clock.offset then
      some (offsetText sign offset)
    else none

/-- What may follow a date: nothing, or a time and an offset behind a mark. -/
def behindDate? : List Char → Option (List Char)
  | [] => some []
  | mark :: r => do
    let (time, r) ← clock.time? r
    let offset ← clock.offset? r
    if mark = 'T' ∨ mark = 't' ∨ mark = ' ' then some ('T' :: time ++ offset) else none

/-- A date, a time of day, or both, in the form in which it is written out. -/
def moment? (s : List Char) : Option (List Char) :=
  match date? s with
  | some (date, r) => (clock.behindDate? r).map (date ++ ·)
  | none => match clock.time? s with
    | some (time, []) => some time
    | _ => none

end Clock

/-! ## Tables that stand for dates and times -/

/-- The key that a table has first if it stands for a date or a time. -/
def momentKey : String := "$__toml_private_datetime"

namespace Value

/-- The date or time that a text writes. -/
def tabledMoment? : Value → Option Value
  | .text s => (Clock.tabled.moment? s.toList).map (.moment ∘ String.ofList)
  | _ => none

mutual

/-- The value with dates and times for the tables that stand for them; what else stands in such a
table does not count. -/
def settle? : Value → Option Value
  | .array items => (settleItems? items).map .array
  | .table origin [] => some (.table origin [])
  | .table origin ((key, v) :: rest) =>
    if key = momentKey then v.tabledMoment?
    else do some (.table origin ((key, ← settle? v) :: (← settleEntries? rest)))
  | .tables items => (settleTables? items).map .array
  | v => some v

def settleItems? : List Value → Option (List Value)
  | [] => some []
  | v :: rest => do some ((← settle? v) :: (← settleItems? rest))

def settleEntries? : List (String × Value) → Option (List (String × Value))
  | [] => some []
  | (key, v) :: rest => do some ((key, ← settle? v) :: (← settleEntries? rest))

def settleTables? : List (List (String × Value)) → Option (List Value)
  | [] => some []
  | [] :: rest => do some (.table .header [] :: (← settleTables? rest))
  | ((key, v) :: inner) :: rest => do
    let item ←
      if key = momentKey then v.tabledMoment?
      else do some (.table .header ((key, ← settle? v) :: (← settleEntries? inner)))
    some (item :: (← settleTables? rest))

end

end Value

end Provision.Toml
