import Provision.Quantity.Reason
import Provision.Quantity.Scale
import Provision.Saturating
import Provision.Text.Blank

/-!
# Quantities of memory

A number, white space and a unit, read to a count of bytes. A whole number is scaled exactly; one
with a point, or of more than 64 bits, goes through a double. Fractions of a byte are dropped.
-/

namespace Provision.Quantity

/-- Bytes in the megabyte that limits are given in. -/
def bytesPerMegabyte : Nat := 1000000

/-- Characters of the number in front of the unit. -/
def isNumeric (c : Char) : Bool := c.isDigit || c = '.'

/-- The bytes that `number` units make, by way of a double. -/
def scaleFloat (number : List Char) (scale : Scale) : Except Reason UInt64 :=
  match Number.readFloat? number with
  | none => .error .notANumber
  | some x =>
    if !x.isFinite || x < 0 then .error .negative
    else
      let bytes := x * scale.toFloat
      if !bytes.isFinite || 18446744073709551616.0 < bytes then .error .overflow
      else .ok bytes.toUInt64

/-- The bytes that `number` units make. -/
def scaleNumber (number : List Char) (scale : Scale) : Except Reason UInt64 :=
  match Number.readBelow? UInt64.size number with
  | some n => match scale.whole n with
    | some bytes => .ok bytes
    | none => .error .overflow
  | none => scaleFloat number scale

/-- The bytes that a text means. -/
def readMemory (s : List Char) : Except Reason UInt64 :=
  let s := Text.trim s
  let number := s.takeWhile isNumeric
  let unit := Text.trim (s.dropWhile isNumeric)
  if s.isEmpty then .error .empty
  else if number.isEmpty then .error .noNumber
  else match Scale.ofUnit? unit with
    | none => .error (.unknownUnit (String.ofList unit))
    | some scale => scaleNumber number scale

/-- Whole megabytes in a number of bytes. -/
def megabytes (bytes : UInt64) : UInt64 := UInt64.ofNat (bytes.toNat / bytesPerMegabyte)

/-- Bytes in a number of megabytes, at most the largest count. -/
def bytesOfMegabytes (mb : UInt64) : UInt64 :=
  Saturating.mul mb (UInt64.ofNat bytesPerMegabyte)

theorem toNat_megabytes (bytes : UInt64) :
    (megabytes bytes).toNat = bytes.toNat / bytesPerMegabyte := by
  have := bytes.toNat_lt
  simp only [megabytes, bytesPerMegabyte, UInt64.toNat_ofNat']
  omega

theorem toNat_bytesOfMegabytes (mb : UInt64) :
    (bytesOfMegabytes mb).toNat = min (mb.toNat * bytesPerMegabyte) (UInt64.size - 1) := by
  rw [bytesOfMegabytes, Saturating.toNat_mul]
  rfl

end Provision.Quantity
