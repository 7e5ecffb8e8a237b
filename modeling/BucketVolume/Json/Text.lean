import BucketVolume.Text.Numeral

/-!
# BucketVolume.Json.Text — strings between quotation marks

Writing escapes a quotation mark, a backslash and the controls below the space, the commonest of them
by a letter. Reading goes in two steps: first the body is cut into pieces, each a character or a
16-bit unit from a numbered escape, then pairs of surrogate units are joined. A string that is only
passed over takes the first step alone, so its surrogates need no partners.
-/

namespace BucketVolume.Json

/-! ## Writing -/

/-- One character of a string body. -/
def escapedChar (c : Char) : List Char :=
  match c with
  | '\"' => ['\\', '\"']
  | '\\' => ['\\', '\\']
  | '\x08' => ['\\', 'b']
  | '\x0c' => ['\\', 'f']
  | '\n' => ['\\', 'n']
  | '\r' => ['\\', 'r']
  | '\t' => ['\\', 't']
  | c =>
    if c.toNat < 0x20 then
      ['\\', 'u', '0', '0', Nat.digitChar (c.toNat / 16), Nat.digitChar (c.toNat % 16)]
    else [c]

/-- A string with its quotation marks. -/
def stringChars (s : String) : List Char :=
  '\"' :: (s.toList.flatMap escapedChar ++ ['\"'])

/-! ## Reading -/

/-- A part of a string body: a character, or a 16-bit unit that was written by its number. -/
inductive Piece where
  | char (c : Char)
  | unit (n : Nat)
deriving DecidableEq, Repr

/-- The value of four hexadecimal digits. -/
def hexUnit? (a b c d : Char) : Option Nat :=
  Text.numeral? 16 [a, b, c, d]

/-- The character that a backslash and a letter stand for. -/
def shortEscape? (c : Char) : Option Char :=
  match c with
  | '\"' => some '\"'
  | '\\' => some '\\'
  | '/' => some '/'
  | 'b' => some '\x08'
  | 'f' => some '\x0c'
  | 'n' => some '\n'
  | 'r' => some '\r'
  | 't' => some '\t'
  | _ => none

/-- Cuts a string body into pieces, up to the closing quotation mark, and gives what follows it. -/
def readPieces : List Char → Option (List Piece × List Char)
  | [] => none
  | '\"' :: rest => some ([], rest)
  | '\\' :: 'u' :: a :: b :: c :: d :: rest => do
    let n ← hexUnit? a b c d
    let (pieces, rest) ← readPieces rest
    return (.unit n :: pieces, rest)
  | '\\' :: e :: rest => do
    let c ← shortEscape? e
    let (pieces, rest) ← readPieces rest
    return (.char c :: pieces, rest)
  | c :: rest =>
    if c = '\\' ∨ c.toNat < 0x20 then none
    else do
      let (pieces, rest) ← readPieces rest
      return (.char c :: pieces, rest)

/-- Joins pieces to characters. A high surrogate needs a low one right behind it, and a low one
cannot stand alone. -/
def joinPieces : List Piece → Option (List Char)
  | [] => some []
  | .char c :: rest => do return c :: (← joinPieces rest)
  | [.unit n] =>
    if 0xd800 ≤ n ∧ n < 0xe000 then none else some [Char.ofNat n]
  | .unit n :: .unit m :: rest =>
    if 0xd800 ≤ n ∧ n < 0xdc00 then
      if 0xdc00 ≤ m ∧ m < 0xe000 then do
        return Char.ofNat (0x10000 + (n - 0xd800) * 0x400 + (m - 0xdc00)) :: (← joinPieces rest)
      else none
    else if 0xdc00 ≤ n ∧ n < 0xe000 then none
    else do return Char.ofNat n :: (← joinPieces (.unit m :: rest))
  | .unit n :: .char c :: rest =>
    if 0xd800 ≤ n ∧ n < 0xe000 then none
    else do return Char.ofNat n :: (← joinPieces (.char c :: rest))

/-- Reads a string whose opening quotation mark has been read. -/
def readStringBody? (cs : List Char) : Option (String × List Char) := do
  let (pieces, rest) ← readPieces cs
  let text ← joinPieces pieces
  return (String.ofList text, rest)

/-- Passes over a string whose opening quotation mark has been read. -/
def skipStringBody? (cs : List Char) : Option (List Char) :=
  (readPieces cs).map Prod.snd

end BucketVolume.Json
