import BucketVolume.Decimal.Integer

/-!
# BucketVolume.Json.Number — numbers

A number is a text of digits with an optional sign, fraction and exponent. Its value is an integer
if it has neither fraction nor exponent and fits in 64 bits, with or without a sign; else it is a
double, computed from as many leading digits as fit in 64 bits, times or over a power of ten. A
double beyond the largest one is no value.
-/

namespace BucketVolume.Json

/-- A number as it is written. -/
structure NumberText where
  negative : Bool
  digits : List Char
  fraction : Option (List Char)
  /-- The sign of the exponent, as written, and its digits. -/
  exponent : Option (Option Char × List Char)
  /-- The letter before the exponent. -/
  exponentMark : Char := 'e'
deriving DecidableEq, Repr

/-- A number's own text. -/
def NumberText.chars (n : NumberText) : List Char :=
  (if n.negative then ['-'] else []) ++ n.digits ++
  (match n.fraction with
    | none => []
    | some digits => '.' :: digits) ++
  (match n.exponent with
    | none => []
    | some (sign, digits) => n.exponentMark :: (sign.toList ++ digits))

/-! ## Reading -/

/-- The digits in front of a text, and the rest of it. -/
def spanDigits (cs : List Char) : List Char × List Char :=
  cs.span Char.isDigit

/-- Reads at least one digit. -/
def readDigits1? (cs : List Char) : Option (List Char × List Char) :=
  match spanDigits cs with
  | ([], _) => none
  | digits => some digits

/-- Reads the digits before the point: a zero alone, or digits that do not start with one. -/
def readWhole? (cs : List Char) : Option (List Char × List Char) :=
  match readDigits1? cs with
  | some ('0' :: _ :: _, _) => none
  | other => other

/-- Reads a fraction, if there is a point. -/
def readFraction? : List Char → Option (Option (List Char) × List Char)
  | '.' :: rest => (readDigits1? rest).map fun (digits, rest) => (some digits, rest)
  | cs => some (none, cs)

/-- Reads the sign and the digits of an exponent. -/
def readExponentBody? : List Char → Option ((Option Char × List Char) × List Char)
  | '+' :: rest => (readDigits1? rest).map fun (digits, rest) => ((some '+', digits), rest)
  | '-' :: rest => (readDigits1? rest).map fun (digits, rest) => ((some '-', digits), rest)
  | cs => (readDigits1? cs).map fun (digits, rest) => ((none, digits), rest)

/-- Reads a number; what follows it is not looked at. -/
def readNumber? (cs : List Char) : Option (NumberText × List Char) := do
  let (negative, cs) := match cs with
    | '-' :: rest => (true, rest)
    | cs => (false, cs)
  let (digits, cs) ← readWhole? cs
  let (fraction, cs) ← readFraction? cs
  match cs with
  | 'e' :: rest => do
    let (exponent, rest) ← readExponentBody? rest
    return (⟨negative, digits, fraction, some exponent, 'e'⟩, rest)
  | 'E' :: rest => do
    let (exponent, rest) ← readExponentBody? rest
    return (⟨negative, digits, fraction, some exponent, 'E'⟩, rest)
  | cs => return (⟨negative, digits, fraction, none, 'e'⟩, cs)

/-! ## Values -/

/-- The value of a number. -/
inductive NumberValue where
  | integer (n : Int)
  | floating (f : Float)

/-- The value of a text of digits. -/
def digitsValue (digits : List Char) : Nat :=
  digits.foldl (fun n c => n * 10 + (c.toNat - '0'.toNat)) 0

/-- Adds digits to a value as long as it fits in 64 bits, and counts those that were added. -/
def accumulate (value used : Nat) : List Char → Nat × Nat
  | [] => (value, used)
  | c :: rest =>
    let next := value * 10 + (c.toNat - '0'.toNat)
    if next < UInt64.size then accumulate next (used + 1) rest else (value, used)

/-- The double nearest to a power of ten. -/
def powerOfTen (n : Nat) : Float :=
  Float.ofScientific 1 false n

/-- Scales a double by a power of ten, in steps that stay in the table of powers; `none` if the
result is too large. A zero stays a zero, and so small a result becomes one. -/
def scale : (steps : Nat) → Float → Int → Option Float
  | 0, f, _ => some f
  | steps + 1, f, exponent =>
    if exponent.natAbs ≤ 308 then
      if 0 ≤ exponent then
        let g := f * powerOfTen exponent.natAbs
        if g.isInf then none else some g
      else some (f / powerOfTen exponent.natAbs)
    else if f == 0 then some f
    else if 0 ≤ exponent then none
    else scale steps (f / powerOfTen 308) (exponent + 308)

namespace NumberText

/-- The exponent's own value. -/
def exponentValue (n : NumberText) : Int :=
  match n.exponent with
  | none => 0
  | some (some '-', digits) => -(digitsValue digits : Int)
  | some (_, digits) => digitsValue digits

/-- The magnitude as a double: digits that do not fit before the point still count as places, those
behind it are left out. -/
def magnitude? (n : NumberText) : Option Float :=
  let (whole, used) := accumulate 0 0 n.digits
  let dropped := n.digits.length - used
  let (significand, places) := accumulate whole 0 (n.fraction.getD [])
  let exponent := n.exponentValue
  -- an exponent that fits in no 32-bit integer settles the value at once
  if 0x80000000 ≤ exponent.natAbs then
    if significand ≠ 0 ∧ 0 < exponent then none else some 0
  else
    -- three steps take any 64-bit value to zero
    scale 4 significand.toUInt64.toFloat ((dropped : Int) - places + exponent)

/-- The integer that a number without fraction and exponent denotes, if 64 bits hold it. A minus sign
before zero makes it a double. -/
def integer? (n : NumberText) : Option Int :=
  if n.fraction.isSome ∨ n.exponent.isSome then none
  else
    let value := digitsValue n.digits
    if n.negative then
      if 0 < value ∧ Decimal.least ≤ -(value : Int) then some (-(value : Int)) else none
    else if value < UInt64.size then some value else none

/-- The value of a number. -/
def value? (n : NumberText) : Option NumberValue :=
  match n.integer? with
  | some value => some (.integer value)
  | none => n.magnitude?.map fun f => .floating (if n.negative then -f else f)

end NumberText

end BucketVolume.Json
