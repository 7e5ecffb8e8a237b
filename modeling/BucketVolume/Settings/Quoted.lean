import BucketVolume.Text.Numeral

/-!
# BucketVolume.Settings.Quoted — texts in quotes, as settings write them

Between double quotes a backslash starts an escape: a letter for the commonest controls, or the
number of a character in four or eight hexadecimal digits. Between single quotes nothing is escaped.
Between three quotes of either kind a text may run over several lines, and one or two quotes may
stand inside it, at its end too.
-/

namespace BucketVolume.Settings

/-- Whether a character may stand for itself on a line: any but the controls other than the tab. -/
def isQuotable (c : Char) : Bool :=
  c == '\t' || (0x20 ≤ c.toNat && c.toNat != 0x7f)

/-! ## Escapes -/

/-- The character that a numbered escape stands for. -/
private def numberedEscape? (digits : List Char) : Option Char :=
  (Text.numeral? 16 digits).bind fun n =>
    if n.isValidChar then some (Char.ofNat n) else none

/-- The character that a backslash and a letter stand for. -/
private def letterEscape? (c : Char) : Option Char :=
  match c with
  | '\"' => some '\"'
  | '\\' => some '\\'
  | 'b' => some '\x08'
  | 'f' => some '\x0c'
  | 'n' => some '\n'
  | 'r' => some '\r'
  | 't' => some '\t'
  | _ => none

/-- Reads an escape behind its backslash. -/
def readEscape? : List Char → Option (Char × List Char)
  | 'u' :: a :: b :: c :: d :: rest => (numberedEscape? [a, b, c, d]).map (·, rest)
  | 'U' :: a :: b :: c :: d :: e :: f :: g :: h :: rest =>
    (numberedEscape? [a, b, c, d, e, f, g, h]).map (·, rest)
  | letter :: rest => (letterEscape? letter).map (·, rest)
  | [] => none

private theorem eq_of_map_pair {x : Option Char} {c : Char} {cs rest : List Char}
    (h : x.map (·, cs) = some (c, rest)) : rest = cs := by
  obtain ⟨_, _, hp⟩ := Option.map_eq_some_iff.1 h
  exact (congrArg Prod.snd hp).symm

theorem length_of_readEscape? {cs rest : List Char} {c : Char}
    (h : readEscape? cs = some (c, rest)) : rest.length < cs.length := by
  unfold readEscape? at h
  split at h
  · rw [eq_of_map_pair h]
    simp only [List.length_cons]
    omega
  · rw [eq_of_map_pair h]
    simp only [List.length_cons]
    omega
  · rw [eq_of_map_pair h]
    simp
  · simp at h

/-! ## Texts on one line -/

/-- Reads a text behind its opening double quote: its characters, and what follows the closing
quote. -/
def readQuoted? : List Char → Option (List Char × List Char)
  | [] => none
  | '\"' :: rest => some ([], rest)
  | '\\' :: rest =>
    match h : readEscape? rest with
    | none => none
    | some (c, rest') =>
      have := length_of_readEscape? h
      (readQuoted? rest').map fun (text, rest) => (c :: text, rest)
  | c :: rest =>
    if isQuotable c then (readQuoted? rest).map fun (text, rest) => (c :: text, rest) else none
termination_by cs => cs.length

/-- Reads a text behind its opening single quote. -/
def readLiteral? (cs : List Char) : Option (List Char × List Char) :=
  match cs.span (· != '\'') with
  | (text, _ :: rest) => if text.all isQuotable then some (text, rest) else none
  | (_, []) => none

/-! ## Texts on several lines -/

/-- The text without a line end at its start. -/
def dropLineEnd : List Char → List Char
  | '\n' :: rest => rest
  | '\r' :: '\n' :: rest => rest
  | cs => cs

/-- What follows the line end and all blanks, if nothing but spaces stands before the line end. -/
def joinedLine? (cs : List Char) : Option (List Char) :=
  let isSpace := fun c : Char => c == ' ' || c == '\t'
  match cs.dropWhile isSpace with
  | '\n' :: rest => some (rest.dropWhile fun c => isSpace c || c == '\n' || c == '\r')
  | '\r' :: '\n' :: rest => some (rest.dropWhile fun c => isSpace c || c == '\n' || c == '\r')
  | _ => none

/-- Reads a text behind its three opening quotes. Where the quotes are double, a backslash starts an
escape or, at the end of a line, joins the next line that is not blank. The first argument bounds the
count of characters. -/
def readLong? (quote : Char) : Nat → List Char → Option (List Char × List Char)
  | 0, _ => none
  | _ + 1, [] => none
  | n + 1, c :: rest =>
    let keep := fun (kept : Char) (rest : List Char) =>
      (readLong? quote n rest).map fun (text, rest) => (kept :: text, rest)
    if c = quote then
      match rest with
      | d :: e :: after =>
        if d = quote ∧ e = quote ∧ after.head? ≠ some quote then some ([], after) else keep c rest
      | _ => none
    else if c = '\\' ∧ quote = '\"' then
      match joinedLine? rest, readEscape? rest with
      | some rest, _ => readLong? quote n rest
      | none, some (escaped, rest) => keep escaped rest
      | none, none => none
    else
      match c, rest with
      | '\r', '\n' :: rest => keep '\n' rest
      | c, rest => if isQuotable c || c == '\n' then keep c rest else none

end BucketVolume.Settings
