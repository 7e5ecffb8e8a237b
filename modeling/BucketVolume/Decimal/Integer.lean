/-!
# BucketVolume.Decimal.Integer — decimal texts of 64-bit integers

Reading takes one optional sign and decimal digits, from left to right, and stops at the first
trouble: a character that is no digit, or a digit that carries the value out of range. Writing gives
the digits without leading zeros, after a minus sign if the number is negative.
-/

namespace BucketVolume.Decimal

/-- Why a text is no 64-bit integer. -/
inductive IntegerProblem where
  | empty
  | invalidDigit
  | tooLarge
  | tooSmall
deriving DecidableEq, Repr

/-- The wording of the problem. -/
def IntegerProblem.message : IntegerProblem → String
  | .empty => "cannot parse integer from empty string"
  | .invalidDigit => "invalid digit found in string"
  | .tooLarge => "number too large to fit in target type"
  | .tooSmall => "number too small to fit in target type"

/-- The least signed 64-bit integer. -/
def least : Int := -9223372036854775808

/-- The greatest signed 64-bit integer. -/
def greatest : Int := 9223372036854775807

/-- The value of an ASCII digit. -/
def digit? (c : Char) : Option Nat :=
  if '0' ≤ c ∧ c ≤ '9' then some (c.toNat - '0'.toNat) else none

/-- Reads digits below or above the value read so far, while it stays in the range of a signed
64-bit integer. -/
def readDigits (negative : Bool) (value : Int) : List Char → Except IntegerProblem Int
  | [] => .ok value
  | c :: rest =>
    match digit? c with
    | none => .error .invalidDigit
    | some d =>
      let next := if negative then value * 10 - d else value * 10 + d
      if next < least then .error .tooSmall
      else if greatest < next then .error .tooLarge
      else readDigits negative next rest

/-- Reads an optional sign and at least one digit. -/
def readInteger : List Char → Except IntegerProblem Int
  | [] => .error .empty
  | ['+'] | ['-'] => .error .invalidDigit
  | '+' :: digits => readDigits false 0 digits
  | '-' :: digits => readDigits true 0 digits
  | digits => readDigits false 0 digits

/-- The 64-bit integer that a text denotes. -/
def parseInt64 (s : String) : Except IntegerProblem Int64 :=
  (readInteger s.toList).map Int64.ofInt

/-- The decimal digits of an integer. -/
def integerChars (n : Int) : List Char :=
  if n < 0 then '-' :: Nat.toDigits 10 n.natAbs else Nat.toDigits 10 n.natAbs

/-- The decimal text of a 64-bit integer. -/
def renderInt64 (n : Int64) : String :=
  String.ofList (integerChars n.toInt)

end BucketVolume.Decimal
