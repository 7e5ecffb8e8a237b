import BucketVolume.Decimal.Integer
import BucketVolume.Decimal.Shortest

/-!
# BucketVolume.Decimal.Layout — the text of a double

A double is written with the digits of its shortest decimal. A `Layout` holds what a place that
writes doubles decides for itself: where ties go, whether a whole number keeps its point, and from
which magnitudes on an exponent takes the place of the zeros.
-/

namespace BucketVolume.Decimal

/-- How doubles are written in one place. -/
structure Layout where
  /-- Which of two equally near shortest decimals is written. -/
  tie : Tie
  /-- Whether `.0` follows a whole number. -/
  keepsPoint : Bool
  /-- The first and last place of the point, counted from the first digit, at which no exponent is
  written; without them none ever is. -/
  positional : Option (Int × Int)
deriving DecidableEq, Repr

namespace Scaled

/-- All digits without an exponent, with zeros where the point needs them. -/
def positional (d : Scaled) : List Char :=
  let digits := Nat.toDigits 10 d.digits
  if 0 ≤ d.exponent then digits ++ List.replicate d.exponent.toNat '0'
  else
    let places := (-d.exponent).toNat
    let padded := List.replicate (places + 1 - digits.length) '0' ++ digits
    padded.take (padded.length - places) ++ '.' :: padded.drop (padded.length - places)

/-- One digit before the point and an exponent with its sign behind an `e`. -/
def scientific (d : Scaled) : List Char :=
  match Nat.toDigits 10 d.digits with
  | [] => []
  | first :: rest =>
    let exponent := d.exponent + rest.length
    first :: ((if rest.isEmpty then [] else '.' :: rest) ++
      'e' :: ((if exponent < 0 then [] else ['+']) ++ integerChars exponent))

/-- The place of the point, counted from the first digit. -/
def point (d : Scaled) : Int :=
  (Nat.toDigits 10 d.digits).length + d.exponent

end Scaled

namespace Layout

/-- The text of a decimal. -/
def chars (layout : Layout) (d : Scaled) : List Char :=
  let inside := match layout.positional with
    | none => true
    | some (first, last) => first ≤ d.point && d.point ≤ last
  if !inside then d.scientific
  else if layout.keepsPoint && 0 ≤ d.exponent then d.positional ++ ['.', '0']
  else d.positional

/-- The text of a zero. -/
def zeroChars (layout : Layout) : List Char :=
  if layout.keepsPoint then ['0', '.', '0'] else ['0']

/-- The text of a double. -/
def render (layout : Layout) (f : Float) : String :=
  let sign := if f.toBits >>> 63 == 1 then ['-'] else []
  if f.isNaN then "NaN"
  else if f.isInf then String.ofList (sign ++ "inf".toList)
  else
    let b := Binary.ofFloat f
    if b.mantissa = 0 then String.ofList (sign ++ layout.zeroChars)
    else String.ofList (sign ++ layout.chars (shortest layout.tie b))

end Layout

end BucketVolume.Decimal
