import BucketVolume.Decimal.Integer
import BucketVolume.Decimal.Layout
import BucketVolume.Settings.Quoted
import BucketVolume.Text.Blank

/-!
# BucketVolume.Settings.EnvValue — what the text of an environment variable stands for

A variable's text may be written as a truth value, a number, a sequence, a map, or a text in quotes.
Anything that is not wholly one of these is the text itself, and so is anything with something left
over behind it. Of sequences and maps only their being well formed matters here.
-/

namespace BucketVolume.Settings

open BucketVolume.Text (trim)

/-- The value that a variable's text stands for. -/
inductive EnvValue where
  | text (s : String)
  | unsigned (n : Nat)
  | signed (n : Int)
  | float (f : Float)
  | bool (b : Bool)
  | sequence
  | map

/-- Doubles are shown without an exponent, and of two equally near decimals by the upper one. -/
def shownDouble : Decimal.Layout where
  tie := .up
  keepsPoint := false
  positional := none

/-- The kind of the value, in a message. -/
def EnvValue.label : EnvValue → String
  | .text s => "string \"" ++ s ++ "\""
  | .unsigned n => "unsigned int `" ++ String.ofList (Nat.toDigits 10 n) ++ "`"
  | .signed n => "signed int `" ++ String.ofList (Decimal.integerChars n) ++ "`"
  | .float f => "float `" ++ shownDouble.render f ++ "`"
  | .bool b => "bool " ++ (if b then "true" else "false")
  | .sequence => "sequence"
  | .map => "map"

/-! ## Numbers -/

/-- The decimal digits in front of a text, and the rest of it. -/
private def spanDecimals (cs : List Char) : List Char × List Char :=
  cs.span Char.isDigit

/-- The value of a text of decimal digits. -/
private def decimalsValue (digits : List Char) : Nat :=
  digits.foldl (fun n c => n * 10 + (c.toNat - '0'.toNat)) 0

/-- The double nearest to `digits · 10^exponent`. Exponents far outside the range of doubles are
settled without computing their powers. -/
def floatOf (digits : List Char) (exponent : Int) : Float :=
  let value := decimalsValue digits
  let magnitude := (Nat.toDigits 10 value).length + exponent
  if value = 0 then 0
  else if 400 < magnitude then 1.0 / 0.0
  else if magnitude < -400 then 0
  else Float.ofScientific value (exponent < 0) exponent.natAbs

/-- Reads an exponent, if there is one, up to the end of the text. -/
private def readExponentEnd? : List Char → Option Int
  | [] => some 0
  | mark :: rest =>
    if mark ≠ 'e' ∧ mark ≠ 'E' then none
    else
      let (negative, digits) := match rest with
        | '+' :: digits => (false, digits)
        | '-' :: digits => (true, digits)
        | digits => (false, digits)
      match spanDecimals digits with
      | ([], _) | (_, _ :: _) => none
      | (digits, []) =>
        some (if negative then -(decimalsValue digits : Int) else decimalsValue digits)

/-- The double that a text with a point denotes: digits on at least one side of the point. -/
def parseFloat? (cs : List Char) : Option Float :=
  let (negative, unsigned) := match cs with
    | '+' :: rest => (false, rest)
    | '-' :: rest => (true, rest)
    | rest => (false, rest)
  match spanDecimals unsigned with
  | (whole, '.' :: rest) =>
    let (fraction, rest) := spanDecimals rest
    if whole.isEmpty && fraction.isEmpty then none
    else (readExponentEnd? rest).map fun exponent =>
      let f := floatOf (whole ++ fraction) (exponent - fraction.length)
      if negative then -f else f
  | _ => none

/-- The natural number that a text denotes, if it fits in 64 bits. -/
def parseUnsigned? (cs : List Char) : Option Nat :=
  let digits := match cs with
    | '+' :: rest => rest
    | rest => rest
  match spanDecimals digits with
  | (_ :: _, []) =>
    let n := decimalsValue digits
    if n < UInt64.size then some n else none
  | _ => none

/-- The value of a word that nothing marks as a text. -/
def ofWord (cs : List Char) : EnvValue :=
  match (if cs.contains '.' then parseFloat? cs else none) with
  | some f => .float f
  | none =>
    match parseUnsigned? cs with
    | some n => .unsigned n
    | none =>
      match Decimal.readInteger cs with
      | .ok n => .signed n
      | .error _ => .text (String.ofList cs)

/-! ## Texts in quotes -/

/-- As many characters as fit into so many bytes. -/
def takeBytes : Nat → List Char → List Char
  | _, [] => []
  | n, c :: rest => if c.utf8Size ≤ n then c :: takeBytes (n - c.utf8Size) rest else []

/-- The characters that stand for themselves, up to the first backslash or the closing quote. -/
def plainStart (cs : List Char) : List Char :=
  cs.takeWhile fun c => c != '\\' && c != '\"'

/-- Reads a text of a variable behind its opening quote. If anything in it is escaped, what stands
before the first escape is held to one byte for each of its characters, and the excess is lost. -/
def readVariableText? (cs : List Char) : Option (List Char × List Char) :=
  (readQuoted? cs).map fun (text, rest) =>
    let start := plainStart cs
    match cs.drop start.length with
    | '\\' :: _ => (takeBytes start.length start ++ text.drop start.length, rest)
    | _ => (text, rest)

/-! ## Values -/

/-- The blanks that values may be set off by. -/
private def isSpace (c : Char) : Bool :=
  c == ' ' || c == '\t' || c == '\n' || c == '\x0c' || c == '\r'

/-- The text without the blanks in front of it. -/
private def skipSpace (cs : List Char) : List Char :=
  cs.dropWhile isSpace

/-- The characters that end a word. -/
private def isSeparator (c : Char) : Bool :=
  c == ',' || c == '\x7b' || c == '\x7d' || c == '[' || c == ']'

/-- The characters of a map's keys. -/
private def isKeyChar (c : Char) : Bool :=
  c.isAlphanum || c == '_' || c == '-'

/-- Passes over a key of a map. -/
private def skipKey? (cs : List Char) : Option (List Char) :=
  match cs with
  | '\"' :: rest => (readVariableText? rest).map Prod.snd
  | cs =>
    match cs.span isKeyChar with
    | ([], _) => none
    | (_, rest) => some rest

/-- What follows a word, if the text starts with it. -/
private def afterWord? (word : String) (cs : List Char) : Option (List Char) :=
  if word.toList.isPrefixOf cs then some (cs.drop word.length) else none

mutual

/-- Reads a value and the blanks around it. The first argument bounds the count of tokens. -/
def readValue? : Nat → List Char → Option (EnvValue × List Char)
  | 0, _ => none
  | n + 1, cs =>
    let cs := skipSpace cs
    match afterWord? "true" cs, afterWord? "false" cs with
    | some rest, _ => some (.bool true, skipSpace rest)
    | none, some rest => some (.bool false, skipSpace rest)
    | none, none =>
      match cs with
      | '\x7b' :: rest => (skipEntries? n rest).map fun rest => (.map, skipSpace rest)
      | '[' :: rest => (skipItems? n rest).map fun rest => (.sequence, skipSpace rest)
      | '\"' :: rest => (readVariableText? rest).map fun (text, rest) =>
        (.text (String.ofList text), skipSpace rest)
      | '\'' :: c :: '\'' :: rest => some (.text (String.singleton c), skipSpace rest)
      | '\'' :: _ => none
      | cs =>
        let (word, rest) := cs.span (!isSeparator ·)
        some (ofWord (trim word), rest)

/-- Passes over the items of a sequence and its closing bracket; a comma may stand before it. -/
def skipItems? : Nat → List Char → Option (List Char)
  | 0, _ => none
  | _ + 1, ']' :: rest => some rest
  | n + 1, cs =>
    match readValue? n cs with
    | some (_, ',' :: rest) => skipItems? n rest
    | some (_, ']' :: rest) => some rest
    | _ => none

/-- Passes over the entries of a map and its closing brace; a comma may stand before it. -/
def skipEntries? : Nat → List Char → Option (List Char)
  | 0, _ => none
  | _ + 1, '\x7d' :: rest => some rest
  | n + 1, cs =>
    match (skipKey? (skipSpace cs)).map skipSpace with
    | some ('=' :: rest) =>
      match readValue? n (skipSpace rest) with
      | some (_, rest) =>
        match skipSpace rest with
        | ',' :: rest => skipEntries? n rest
        | '\x7d' :: rest => some rest
        | _ => none
      | none => none
    | _ => none

end

/-- The value of a variable. A text with commas that no bracket or quote opens lists the items of a
sequence. -/
def EnvValue.parse (s : String) : EnvValue :=
  let cs := trim s.toList
  let opened := match cs with
    | c :: _ => c == '[' || c == '\x7b' || c == '\"' || c == '\''
    | [] => false
  if cs.isEmpty then .text ""
  else if cs.contains ',' && !opened then .sequence
  else
    match readValue? (2 * cs.length + 2) cs with
    | some (value, []) => value
    | _ => .text (String.ofList cs)

end BucketVolume.Settings
