import BucketVolume.Annotations
import BucketVolume.Decimal.Layout
import BucketVolume.Json.Number
import BucketVolume.Json.Text
import BucketVolume.Text.Quoted

/-!
# BucketVolume.Json.Reader — reading typed values

Reading goes from left to right and ends at the first problem. The text is malformed, or it is well
formed so far but a value is not what its place asks for. A record is an object with its fields as
members, or an array with its fields in order; members under other names are passed over, whatever
they hold.
-/

namespace BucketVolume.Json

/-! ## Problems -/

/-- What stands where something else was asked for. -/
inductive Found where
  | null
  | bool (b : Bool)
  | integer (n : Int)
  | floating (text : String)
  | text (s : String)
  | sequence
  | map
deriving DecidableEq, Repr

/-- Doubles are shown with a point, with a signed exponent from `10^16` on and below `10^-5`, and of two
equally near decimals with the even one. -/
def shownDouble : Decimal.Layout where
  tie := .even
  keepsPoint := true
  positional := some (-4, 16)

/-- What was found, in a message. -/
def Found.label : Found → String
  | .null => "null"
  | .bool b => "boolean `" ++ (if b then "true" else "false") ++ "`"
  | .integer n => "integer `" ++ String.ofList (Decimal.integerChars n) ++ "`"
  | .floating shown => "floating point `" ++ shown ++ "`"
  | .text s => "string " ++ Text.quoted s
  | .sequence => "sequence"
  | .map => "map"

/-- A well-formed text that does not fit the type asked for. -/
inductive DataProblem where
  | wrongType (found : Found) (expected : String)
  | duplicateField (name : String)
  | missingField (name : String)
  | wrongLength (count : Nat) (typeName : String) (fields : Nat)
deriving DecidableEq, Repr

/-- The wording of the problem. -/
def DataProblem.message : DataProblem → String
  | .wrongType found expected => "invalid type: " ++ found.label ++ ", expected " ++ expected
  | .duplicateField name => "duplicate field `" ++ name ++ "`"
  | .missingField name => "missing field `" ++ name ++ "`"
  | .wrongLength count typeName fields =>
    "invalid length " ++ toString count ++ ", expected struct " ++ typeName ++ " with " ++
      toString fields ++ (if fields = 1 then " element" else " elements")

/-- Why a text is not read. -/
inductive ReadProblem where
  | malformed
  | data (problem : DataProblem)
deriving DecidableEq, Repr

/-- Reads a value from the front of a text and gives what follows it. -/
abbrev Reader (α : Type) := List Char → Except ReadProblem (α × List Char)

/-! ## Tokens -/

/-- The four characters that may stand around values. -/
def isBlank (c : Char) : Bool :=
  c == ' ' || c == '\t' || c == '\n' || c == '\r'

/-- The text without the blanks in front of it. -/
def skipBlank (cs : List Char) : List Char :=
  cs.dropWhile isBlank

/-- What follows a word, if the text starts with it. -/
def afterWord? (word : String) (cs : List Char) : Option (List Char) :=
  if word.toList.isPrefixOf cs then some (cs.drop word.length) else none

/-- What a value is, judged by its start; an array or object is not read further. -/
def found? : List Char → Option Found
  | '\"' :: rest => (readStringBody? rest).map fun (s, _) => .text s
  | '[' :: _ => some .sequence
  | '\x7b' :: _ => some .map
  | 'n' :: rest => (afterWord? "ull" rest).map fun _ => .null
  | 't' :: rest => (afterWord? "rue" rest).map fun _ => .bool true
  | 'f' :: rest => (afterWord? "alse" rest).map fun _ => .bool false
  | cs =>
    match readNumber? cs with
    | none => none
    | some (written, _) => written.value?.map fun
      | .integer n => .integer n
      | .floating f => .floating (shownDouble.render f)

/-- The problem of a text that does not start as its place asks for. -/
def mismatch (expected : String) (cs : List Char) : ReadProblem :=
  match found? cs with
  | none => .malformed
  | some found => .data (.wrongType found expected)

/-! ## Values that are passed over -/

/-- What is open around a place. -/
inductive Bracket where
  | array
  | object
deriving DecidableEq, Repr

/-- Passes over a value that holds no others. -/
def skipScalar? : List Char → Option (List Char)
  | '\"' :: rest => skipStringBody? rest
  | 'n' :: rest => afterWord? "ull" rest
  | 't' :: rest => afterWord? "rue" rest
  | 'f' :: rest => afterWord? "alse" rest
  | cs => (readNumber? cs).map Prod.snd

/-- Passes over a colon and the blanks before it. -/
def skipColon? (cs : List Char) : Option (List Char) :=
  match skipBlank cs with
  | ':' :: rest => some rest
  | _ => none

/-- Passes over a member's name and its colon. -/
def skipName? (cs : List Char) : Option (List Char) :=
  match skipBlank cs with
  | '\"' :: rest => (skipStringBody? rest).bind skipColon?
  | _ => none

mutual

/-- Passes over a value and all that closes the brackets open around it. The first argument bounds
the count of tokens. -/
def skipFrom? : Nat → List Bracket → List Char → Option (List Char)
  | 0, _, _ => none
  | n + 1, brackets, cs =>
    match skipBlank cs with
    | '[' :: rest =>
      match skipBlank rest with
      | ']' :: rest => skipAfter? n brackets rest
      | rest => skipFrom? n (.array :: brackets) rest
    | '\x7b' :: rest =>
      match skipBlank rest with
      | '\x7d' :: rest => skipAfter? n brackets rest
      | rest => (skipName? rest).bind (skipFrom? n (.object :: brackets))
    | rest => (skipScalar? rest).bind (skipAfter? n brackets)

/-- Goes on behind a value. -/
def skipAfter? : Nat → List Bracket → List Char → Option (List Char)
  | _, [], cs => some cs
  | 0, _ :: _, _ => none
  | n + 1, .array :: brackets, cs =>
    match skipBlank cs with
    | ',' :: rest => skipFrom? n (.array :: brackets) rest
    | ']' :: rest => skipAfter? n brackets rest
    | _ => none
  | n + 1, .object :: brackets, cs =>
    match skipBlank cs with
    | ',' :: rest => (skipName? rest).bind (skipFrom? n (.object :: brackets))
    | '\x7d' :: rest => skipAfter? n brackets rest
    | _ => none

end

/-- Passes over any value. -/
def skipValue? (cs : List Char) : Option (List Char) :=
  skipFrom? (2 * cs.length + 2) [] cs

/-! ## Arrays and objects -/

/-- What comes next inside brackets. -/
inductive Turn where
  | closed (rest : List Char)
  | item (start : List Char)
  | malformed
deriving DecidableEq, Repr

/-- Looks for the closing bracket, or for the comma and the item after it. A comma may neither come
first nor stand before the closing bracket. -/
def turn (close : Char) (first : Bool) (cs : List Char) : Turn :=
  match skipBlank cs with
  | [] => .malformed
  | c :: rest =>
    if c = close then .closed rest
    else if first then .item (c :: rest)
    else if c = ',' then
      match skipBlank rest with
      | [] => .malformed
      | d :: rest => if d = close then .malformed else .item (d :: rest)
    else .malformed

variable {σ α : Type}

/-- Reads the items of an array behind its opening bracket, one step for each. The first argument
bounds their count. -/
def foldItems (step : σ → Reader σ) : Nat → Bool → σ → Reader σ
  | 0, _, _, _ => .error .malformed
  | n + 1, first, state, cs =>
    match turn ']' first cs with
    | .malformed => .error .malformed
    | .closed rest => .ok (state, rest)
    | .item start =>
      match step state start with
      | .error problem => .error problem
      | .ok (state, rest) => foldItems step n false state rest

/-- Reads the members of an object behind its opening brace, one step for each name. A step starts
right behind the name. -/
def foldMembers (step : σ → String → Reader σ) : Nat → Bool → σ → Reader σ
  | 0, _, _, _ => .error .malformed
  | n + 1, first, state, cs =>
    match turn '\x7d' first cs with
    | .malformed => .error .malformed
    | .closed rest => .ok (state, rest)
    | .item ('\"' :: start) =>
      match readStringBody? start with
      | none => .error .malformed
      | some (name, rest) =>
        match step state name rest with
        | .error problem => .error problem
        | .ok (state, rest) => foldMembers step n false state rest
    | .item _ => .error .malformed

/-- Reads the items of an array behind its opening bracket. -/
def readItems (step : σ → Reader σ) (state : σ) : Reader σ :=
  fun cs => foldItems step (cs.length + 1) true state cs

/-- Reads the members of an object behind its opening brace. -/
def readMembers (step : σ → String → Reader σ) (state : σ) : Reader σ :=
  fun cs => foldMembers step (cs.length + 1) true state cs

/-! ## Typed values -/

/-- Reads a string. -/
def readText : Reader String := fun cs =>
  match skipBlank cs with
  | '\"' :: rest =>
    match readStringBody? rest with
    | none => .error .malformed
    | some result => .ok result
  | rest => .error (mismatch "a string" rest)

/-- Reads a truth value. -/
def readBool : Reader Bool := fun cs =>
  match skipBlank cs with
  | 't' :: rest =>
    match afterWord? "rue" rest with
    | none => .error .malformed
    | some rest => .ok (true, rest)
  | 'f' :: rest =>
    match afterWord? "alse" rest with
    | none => .error .malformed
    | some rest => .ok (false, rest)
  | rest => .error (mismatch "a boolean" rest)

/-- Reads an array of strings. -/
def readTexts : Reader (List String) := fun cs =>
  match skipBlank cs with
  | '[' :: rest =>
    readItems (fun texts cs =>
      match readText cs with
      | .error problem => .error problem
      | .ok (value, rest) => .ok (texts ++ [value], rest)) [] rest
  | rest => .error (mismatch "a sequence" rest)

/-- Reads what a member holds, behind its name. -/
def readMemberValue (reader : Reader α) : Reader α := fun cs =>
  match skipColon? cs with
  | none => .error .malformed
  | some rest => reader rest

/-- Reads an object of strings; a repeated name keeps its last string. -/
def readAnnotations : Reader Annotations := fun cs =>
  match skipBlank cs with
  | '\x7b' :: rest =>
    readMembers (fun m name cs =>
      match readMemberValue readText cs with
      | .error problem => .error problem
      | .ok (value, rest) => .ok (m.insert name value, rest)) ∅ rest
  | rest => .error (mismatch "a map" rest)

/-! ## Records -/

/-- A field of a record: its name, and how its value is read into the record. -/
structure Field (α : Type) where
  name : String
  read : α → Reader α

/-- A field that a reader and an update describe. -/
def Field.of {β : Type} (name : String) (reader : Reader β) (update : α → β → α) : Field α where
  name := name
  read record cs :=
    match reader cs with
    | .error problem => .error problem
    | .ok (value, rest) => .ok (update record value, rest)

/-- Reads one item into a record and the fields still to come. An item too many is malformed. -/
def Field.readItem (state : α × List (Field α)) : Reader (α × List (Field α)) := fun cs =>
  match state.2 with
  | [] => .error .malformed
  | field :: fields =>
    match field.read state.1 cs with
    | .error problem => .error problem
    | .ok (record, rest) => .ok ((record, fields), rest)

/-- How a record is read: its type's name, the record without any field given, its fields in order,
and the names of those that must be given if the record is. -/
structure RecordType (α : Type) where
  name : String
  empty : α
  fields : List (Field α)
  required : List String := []

namespace RecordType

variable (type : RecordType α)

/-- Reads one member, behind its name, into the record and the names seen before it. A name that was
seen before is a problem even before its value is read. -/
def readMember (state : α × List String) (name : String) : Reader (α × List String) := fun cs =>
  match type.fields.find? (·.name == name) with
  | some field =>
    if name ∈ state.2 then .error (.data (.duplicateField name))
    else match readMemberValue (field.read state.1) cs with
      | .error problem => .error problem
      | .ok (record, rest) => .ok ((record, name :: state.2), rest)
  | none =>
    match (skipColon? cs).bind skipValue? with
    | none => .error .malformed
    | some rest => .ok (state, rest)

/-- The record of the members of an object. -/
def readObject : Reader α := fun cs =>
  match readMembers type.readMember (type.empty, []) cs with
  | .error problem => .error problem
  | .ok ((record, seen), rest) =>
    match type.required.find? (fun name => !seen.contains name) with
    | some name => .error (.data (.missingField name))
    | none => .ok (record, rest)

/-- The record of the items of an array. -/
def readArray : Reader α := fun cs =>
  match readItems Field.readItem (type.empty, type.fields) cs with
  | .error problem => .error problem
  | .ok ((record, left), rest) =>
    if left.any (fun field => type.required.contains field.name) then
      .error (.data
        (.wrongLength (type.fields.length - left.length) type.name type.fields.length))
    else .ok (record, rest)

/-- Reads a record. -/
def read : Reader α := fun cs =>
  match skipBlank cs with
  | '\x7b' :: rest => type.readObject rest
  | '[' :: rest => type.readArray rest
  | rest => .error (mismatch ("struct " ++ type.name) rest)

end RecordType

/-! ## Whole texts -/

/-- Reads a text that holds one value and blanks around it. -/
def readWholeText (reader : Reader α) (text : String) : Except ReadProblem α :=
  match reader text.toList with
  | .error problem => .error problem
  | .ok (value, rest) =>
    match skipBlank rest with
    | [] => .ok value
    | _ :: _ => .error .malformed

end BucketVolume.Json
