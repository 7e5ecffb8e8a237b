import BucketVolume.Settings.EnvValue

/-!
# BucketVolume.Settings.File — the settings file

Each entry, `key = value`, starts on a line of its own. Its value is a text in quotes or an integer,
in decimal digits or, behind `0x`, `0o` or `0b`, in those of another base. A key is a path of names
with points between them, and no key may stand twice or lead through another. Blank lines and
comments are allowed, and so is a byte order mark at the start.
-/

namespace BucketVolume.Settings

/-- An entry of the settings file: the path of its key and its value. -/
structure FileEntry where
  path : List String
  value : EnvValue

/-- The text without the spaces and tabs in front of it. -/
private def skipIndent (cs : List Char) : List Char :=
  cs.dropWhile fun c => c == ' ' || c == '\t'

/-- What follows a line of which nothing but spaces and a comment is left. -/
private def endLine? (cs : List Char) : Option (List Char) :=
  let rest := match skipIndent cs with
    | '#' :: rest => rest.dropWhile isQuotable
    | rest => rest
  match rest with
  | [] => some []
  | '\n' :: rest => some rest
  | '\r' :: '\n' :: rest => some rest
  | _ => none

/-! ## Keys -/

/-- The characters of names that need no quotes. -/
private def isNameChar (c : Char) : Bool :=
  c.isAlphanum || c == '_' || c == '-'

/-- Reads one name of a key. -/
private def readName? (cs : List Char) : Option (List Char × List Char) :=
  match cs with
  | '\"' :: rest => readQuoted? rest
  | '\'' :: rest => readLiteral? rest
  | cs =>
    match cs.span isNameChar with
    | ([], _) => none
    | name => some name

/-- Reads a key and the spaces around it. The first argument bounds the count of its names. -/
private def readPath? : Nat → List Char → Option (List String × List Char)
  | 0, _ => none
  | n + 1, cs => do
    let (name, rest) ← readName? (skipIndent cs)
    match skipIndent rest with
    | '.' :: rest => do
      let (path, rest) ← readPath? n rest
      return (String.ofList name :: path, rest)
    | rest => return ([String.ofList name], rest)

/-! ## Values -/

/-- The digits of a numeral in which single underscores may stand between digits. -/
def ungroup? : List Char → Option (List Char)
  | [] | ['_'] => none
  | [c] => some [c]
  | '_' :: _ => none
  | c :: '_' :: rest => (ungroup? rest).map (c :: ·)
  | c :: rest => (ungroup? rest).map (c :: ·)

/-- The integer of digits in a base other than ten. -/
private def based? (base : Nat) (digits : List Char) : Option Int := do
  let n ← Text.numeral? base (← ungroup? digits)
  if (n : Int) ≤ Decimal.greatest then some n else none

/-- The integer of decimal digits and an optional sign; a zero may only stand alone. -/
private def decimal? (sign digits : List Char) : Option Int := do
  let digits ← ungroup? digits
  if digits.length > 1 ∧ digits.head? = some '0' then none
  else (Decimal.readInteger (sign ++ digits)).toOption

/-- The integer of a word. -/
def wordInteger? : List Char → Option Int
  | '0' :: 'x' :: digits => based? 16 digits
  | '0' :: 'o' :: digits => based? 8 digits
  | '0' :: 'b' :: digits => based? 2 digits
  | '+' :: digits => decimal? ['+'] digits
  | '-' :: digits => decimal? ['-'] digits
  | digits => decimal? [] digits

/-- Reads a text and what encloses it. -/
private def readAnyQuoted? : List Char → Option (List Char × List Char)
  | '\"' :: '\"' :: '\"' :: rest => readLong? '\"' (rest.length + 1) (dropLineEnd rest)
  | '\'' :: '\'' :: '\'' :: rest => readLong? '\'' (rest.length + 1) (dropLineEnd rest)
  | '\"' :: rest => readQuoted? rest
  | '\'' :: rest => readLiteral? rest
  | _ => none

/-- Reads a value. -/
private def readFileValue? (cs : List Char) : Option (EnvValue × List Char) :=
  match cs with
  | '\"' :: _ | '\'' :: _ =>
    (readAnyQuoted? cs).map fun (text, rest) => (.text (String.ofList text), rest)
  | cs =>
    let (word, rest) := cs.span fun c => isNameChar c || c == '+'
    (wordInteger? word).map fun n => (.signed n, rest)

/-! ## Entries -/

/-- Reads an entry. -/
private def readEntry? (cs : List Char) : Option (FileEntry × List Char) := do
  let (path, rest) ← readPath? (cs.length + 1) cs
  match rest with
  | '=' :: rest => do
    let (value, rest) ← readFileValue? (skipIndent rest)
    return (⟨path, value⟩, rest)
  | _ => none

/-- Whether one of two keys stands for the other or leads through it. -/
def clashes (a b : List String) : Bool :=
  a.isPrefixOf b || b.isPrefixOf a

/-- Reads entries behind those that were read before. The first argument bounds the count of lines. -/
private def readEntries? : Nat → List FileEntry → List Char → Option (List FileEntry)
  | _, entries, [] => some entries
  | 0, _, _ :: _ => none
  | n + 1, entries, cs =>
    match endLine? cs with
    | some rest => readEntries? n entries rest
    | none => do
      let (entry, rest) ← readEntry? cs
      if entries.any (clashes entry.path ·.path) then none
      else readEntries? n (entries ++ [entry]) (← endLine? rest)

/-- The text without a byte order mark at its start. -/
private def unmarked : List Char → List Char
  | '\uFEFF' :: rest => rest
  | cs => cs

/-- The entries of a settings file. -/
def readFile? (text : String) : Option (List FileEntry) :=
  let cs := unmarked text.toList
  readEntries? (cs.length + 1) [] cs

/-- The value that the entries give to a setting: a map if its name only starts longer keys. -/
def fromFile? (entries : List FileEntry) (key : String) : Option EnvValue :=
  match entries.find? (·.path.head? == some key) with
  | none => none
  | some ⟨[_], value⟩ => some value
  | some _ => some .map

end BucketVolume.Settings
