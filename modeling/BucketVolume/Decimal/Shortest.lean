/-!
# BucketVolume.Decimal.Shortest — the shortest decimal that reads back as a binary fraction

A finite double is `m · 2^e` exactly, and the reals that round to it form an interval around it,
which holds its ends iff `m` is even. Of the decimals in that interval those with the fewest digits
are the shortest, and of these the nearest to the double is chosen; which of two equally near ones
is a `Tie` to be named. All comparisons are made in natural numbers, over a common denominator.
-/

namespace BucketVolume.Decimal

/-- The exact value `mantissa · 2^exponent` of a positive finite double, and whether the next
smaller double is only half as far away as the next larger one. -/
structure Binary where
  mantissa : Nat
  exponent : Int
  closeBelow : Bool
deriving Repr

/-- The mantissa of one, `2^52`; the bits below it are the fraction. -/
def unitMantissa : Nat := 0x10000000000000

/-- The exact value of a finite double's magnitude. -/
def Binary.ofFloat (f : Float) : Binary :=
  let bits := f.toBits.toNat
  let fraction : Nat := bits % unitMantissa
  let biased : Nat := bits / unitMantissa % 0x800
  if biased = 0 then ⟨fraction, -1074, false⟩
  else ⟨unitMantissa + fraction, (biased : Int) - 1075, fraction == 0 && biased != 1⟩

/-- Which of two neighbours a value halfway between them goes to. -/
inductive Tie where
  | up
  | even
deriving DecidableEq, Repr

/-- Whether a value halfway above `n` goes to `n`. -/
def Tie.goesDown (tie : Tie) (n : Nat) : Bool :=
  match tie with
  | .up => false
  | .even => n % 2 == 0

/-- A decimal `digits · 10^exponent`. -/
structure Scaled where
  digits : Nat
  exponent : Int
deriving Repr, DecidableEq

/-- An interval around a value, as numerators over one denominator. -/
structure Interval where
  low : Nat
  value : Nat
  high : Nat
  denominator : Nat
  closed : Bool

namespace Interval

/-- The reals that round to a double. -/
def ofBinary (b : Binary) : Interval :=
  -- in units of a quarter of the mantissa's last place
  let up := Nat.pow 2 (b.exponent - 2).toNat
  { low := (4 * b.mantissa - if b.closeBelow then 1 else 2) * up
    value := 4 * b.mantissa * up
    high := (4 * b.mantissa + 2) * up
    denominator := Nat.pow 2 (2 - b.exponent).toNat
    closed := b.mantissa % 2 == 0 }

/-- Whether `n / denominator` lies in the interval. -/
def holds (i : Interval) (n : Nat) : Bool :=
  if i.closed then i.low ≤ n && n ≤ i.high else i.low < n && n < i.high

/-- The interval in units of `10^k`. -/
def inUnits (i : Interval) (k : Int) : Interval :=
  let times := Nat.pow 10 (-k).toNat
  { i with
    low := i.low * times
    value := i.value * times
    high := i.high * times
    denominator := i.denominator * Nat.pow 10 k.toNat }

/-- The count of digits before the point, or minus the count of zeros after it. -/
def magnitude (i : Interval) : Int :=
  if i.denominator ≤ i.value then ((Nat.toDigits 10 (i.value / i.denominator)).length : Int)
  else
    let zeros := (Nat.toDigits 10 (i.denominator / i.value)).length - 1
    if i.denominator ≤ i.value * Nat.pow 10 zeros then 1 - (zeros : Int) else -(zeros : Int)

/-- The nearest of the value's two neighbours on the grid of `10^k`, among those in the interval. -/
def nearestOnGrid? (tie : Tie) (i : Interval) (k : Int) : Option Scaled :=
  let j := i.inUnits k
  let below := j.value / j.denominator
  let above := below + 1
  match j.holds (below * j.denominator), j.holds (above * j.denominator) with
  | true, true =>
    let middle := (below + above) * j.denominator
    if 2 * j.value < middle || (2 * j.value == middle && tie.goesDown below) then some ⟨below, k⟩
    else some ⟨above, k⟩
  | true, false => some ⟨below, k⟩
  | false, true => some ⟨above, k⟩
  | false, false => none

/-- The grid on which the value has one digit before the point. -/
def firstGrid (i : Interval) : Int :=
  i.magnitude - 1

/-- Tries ever finer grids; seventeen digits always suffice. -/
def search (tie : Tie) (i : Interval) : Nat → Int → Scaled
  | 0, k => ⟨(i.inUnits k).value / (i.inUnits k).denominator, k⟩
  | tries + 1, k =>
    match nearestOnGrid? tie i k with
    | some d => d
    | none => search tie i tries (k - 1)

end Interval

/-- The shortest decimal of a positive finite double. Digits that fill up to the next power of ten
shed the zero. -/
def shortest (tie : Tie) (b : Binary) : Scaled :=
  let i := Interval.ofBinary b
  let d := Interval.search tie i 17 i.firstGrid
  if d.digits = 10 then ⟨1, d.exponent + 1⟩ else d

end BucketVolume.Decimal
