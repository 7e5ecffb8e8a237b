import BucketVolume.Json.Number
import BucketVolume.Json.Text

/-!
# BucketVolume.Json.Value — JSON values and their texts

The compact text has no white space. The pretty text puts each item and member on a line of its own,
two spaces further in than what holds it; an empty array or object stays on its line.
-/

namespace BucketVolume

/-- A JSON value. Members keep the order in which they are listed. -/
inductive Json where
  | null
  | bool (b : Bool)
  | number (n : Json.NumberText)
  | text (s : String)
  | array (items : List Json)
  | object (members : List (String × Json))

namespace Json

/-- The text of a truth value. -/
def boolChars (b : Bool) : List Char :=
  if b then "true".toList else "false".toList

mutual

/-- The compact text of a value. -/
def compactChars : Json → List Char
  | .null => "null".toList
  | .bool b => boolChars b
  | .number n => n.chars
  | .text s => stringChars s
  | .array items => '[' :: (compactItems items ++ [']'])
  | .object members => '\x7b' :: (compactMembers members ++ ['\x7d'])

/-- Items with commas between them. -/
def compactItems : List Json → List Char
  | [] => []
  | [item] => compactChars item
  | item :: next :: rest => compactChars item ++ ',' :: compactItems (next :: rest)

/-- Members with commas between them. -/
def compactMembers : List (String × Json) → List Char
  | [] => []
  | [(name, value)] => stringChars name ++ ':' :: compactChars value
  | (name, value) :: next :: rest =>
    stringChars name ++ ':' :: (compactChars value ++ ',' :: compactMembers (next :: rest))

end

/-- A line end and the space before the next line's text. -/
def newLine (depth : Nat) : List Char :=
  '\n' :: List.replicate (2 * depth) ' '

mutual

/-- The pretty text of a value whose own line starts at a depth. -/
def prettyChars (depth : Nat) : Json → List Char
  | .null => "null".toList
  | .bool b => boolChars b
  | .number n => n.chars
  | .text s => stringChars s
  | .array [] => ['[', ']']
  | .array (item :: rest) =>
    '[' :: (prettyItems (depth + 1) (item :: rest) ++ newLine depth ++ [']'])
  | .object [] => ['\x7b', '\x7d']
  | .object (member :: rest) =>
    '\x7b' :: (prettyMembers (depth + 1) (member :: rest) ++ newLine depth ++ ['\x7d'])

/-- Items on lines of their own. -/
def prettyItems (depth : Nat) : List Json → List Char
  | [] => []
  | [item] => newLine depth ++ prettyChars depth item
  | item :: next :: rest =>
    newLine depth ++ (prettyChars depth item ++ ',' :: prettyItems depth (next :: rest))

/-- Members on lines of their own. -/
def prettyMembers (depth : Nat) : List (String × Json) → List Char
  | [] => []
  | [(name, value)] =>
    newLine depth ++ (stringChars name ++ ':' :: ' ' :: prettyChars depth value)
  | (name, value) :: next :: rest =>
    newLine depth ++ (stringChars name ++
      ':' :: ' ' :: (prettyChars depth value ++ ',' :: prettyMembers depth (next :: rest)))

end

/-- The compact text of a value. -/
def compact (json : Json) : String :=
  String.ofList (compactChars json)

/-- The pretty text of a value. -/
def pretty (json : Json) : String :=
  String.ofList (prettyChars 0 json)

end Json

end BucketVolume
