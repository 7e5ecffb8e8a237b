import BucketVolume.Text.Printable

/-!
# BucketVolume.Text.Quoted — texts in double quotes

The form in which messages show a text they were given: double quotes around it, a backslash before
a quote or a backslash, short names for the commonest controls, and the code point in braces for
every other character that a reader could not see or that would merge with its neighbour.
-/

namespace BucketVolume.Text

/-- One character inside double quotes. -/
def quotedChar (c : Char) : List Char :=
  match c with
  | '\x00' => ['\\', '0']
  | '\t' => ['\\', 't']
  | '\n' => ['\\', 'n']
  | '\r' => ['\\', 'r']
  | '\"' => ['\\', '\"']
  | '\\' => ['\\', '\\']
  | c =>
    if isPrintable c && !isCombining c then [c]
    else ['\\', 'u', '\x7b'] ++ Nat.toDigits 16 c.toNat ++ ['\x7d']

/-- A text inside double quotes. -/
def quotedChars (cs : List Char) : List Char :=
  '\"' :: (cs.flatMap quotedChar ++ ['\"'])

/-- A text as messages show it. -/
def quoted (s : String) : String :=
  String.ofList (quotedChars s.toList)

end BucketVolume.Text
