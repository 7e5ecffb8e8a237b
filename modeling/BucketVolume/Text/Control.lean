/-!
# BucketVolume.Text.Control — text without its controls

Control characters, and the sequences that an escape character opens, steer a terminal and show
nothing. A message that quotes a word of the command line leaves them out. The white space controls
stay, outside sequences and inside those that carry no text of their own; from one inside on, all is
shown up to the next control that is left out, and there the sequence goes on.
-/

namespace BucketVolume.Text

/-- The kind of sequence that a text has reached the inside of, if any. -/
inductive Place where
  /-- Outside every sequence. -/
  | outside
  /-- Behind the escape character, where the kind of sequence is still open. -/
  | escape
  /-- Inside an escape sequence of more than one character. -/
  | escapeSequence
  /-- Inside a control sequence, which its first letter ends. -/
  | controlSequence
  /-- Inside a command to the system, which the bell ends. -/
  | systemCommand
  /-- At the start of a device control string. -/
  | deviceStart
  /-- Among the parameters of a device control string. -/
  | deviceParameters
  /-- Behind the parameters of a device control string. -/
  | deviceIntermediate
  /-- Inside the text of a string, which the byte for the end of a string ends. -/
  | string
deriving DecidableEq, Repr

/-- White space that is a control character: the tab and the ends of lines and of pages. -/
def isLayoutControl (c : Char) : Bool :=
  c == '\t' || c == '\n' || c == '\x0c' || c == '\r'

/-- A character that shows outside sequences: a white space control, or no control. -/
def isShown (c : Char) : Bool :=
  isLayoutControl c || (' ' ≤ c && c != '\x7f')

/-- Whether the bytes of the character hold the end of a string. -/
def endsString (c : Char) : Bool :=
  (String.utf8EncodeChar c).contains 0x9c

namespace Place

/-- A character that shows at this place. -/
def shows (c : Char) : Place → Bool
  | outside => isShown c
  | escape | escapeSequence | controlSequence => isLayoutControl c
  | systemCommand | deviceStart | deviceParameters | deviceIntermediate | string => false

/-- The kind of sequence that the character behind an escape character opens. -/
def opened (c : Char) : Place :=
  if c = '[' then controlSequence
  else if c = ']' then systemCommand
  else if c = 'P' then deviceStart
  else if c = 'X' ∨ c = '^' ∨ c = '_' then string
  else if ' ' ≤ c ∧ c ≤ '/' then escapeSequence
  else if '0' ≤ c ∧ c ≤ '~' then outside
  else escape

/-- The place behind a character. Whatever the sequence, the two characters for cancelling leave it
and an escape character leaves it for a new one. -/
def next (c : Char) (place : Place) : Place :=
  if c = '\x18' ∨ c = '\x1a' then outside
  else if c = '\x1b' then escape
  else match place with
    | outside => outside
    | escape => opened c
    | escapeSequence => if '0' ≤ c ∧ c ≤ '~' then outside else escapeSequence
    | controlSequence => if '@' ≤ c ∧ c ≤ '~' then outside else controlSequence
    | systemCommand => if c = '\x07' then outside else systemCommand
    | deviceStart =>
      if ' ' ≤ c ∧ c ≤ '/' then deviceIntermediate
      else if '0' ≤ c ∧ c ≤ '?' then deviceParameters
      else if '@' ≤ c ∧ c ≤ '~' then string
      else deviceStart
    | deviceParameters =>
      if ' ' ≤ c ∧ c ≤ '/' then deviceIntermediate
      else if '<' ≤ c ∧ c ≤ '~' then string
      else deviceParameters
    | deviceIntermediate => if '0' ≤ c ∧ c ≤ '~' then string else deviceIntermediate
    | string => if endsString c then outside else string

end Place

/-- What shows of the rest of a text. While `showing`, the place does not count and is kept for
later, but a character beyond ASCII ends the sequence. -/
def shownFrom (place : Place) (showing : Bool) : List Char → List Char
  | [] => []
  | c :: rest =>
    if (if showing then Place.outside else place).shows c then
      c :: shownFrom (if c.toNat < 0x80 then place else .outside) true rest
    else shownFrom (place.next c) false rest

/-- What shows of a text. -/
def shown (s : String) : String :=
  String.ofList (shownFrom .outside false s.toList)

theorem Place.shows_outside (c : Char) : Place.outside.shows c = isShown c := rfl

theorem isShown_of_shows {c : Char} {place : Place} (h : place.shows c = true) :
    isShown c = true := by
  cases place <;> simp_all [Place.shows, isShown]

/-- Nothing is left that steers a terminal. -/
theorem isShown_of_mem_shownFrom {c : Char} {place : Place} {showing : Bool} {cs : List Char}
    (h : c ∈ shownFrom place showing cs) : isShown c = true := by
  induction cs generalizing place showing with
  | nil => simp [shownFrom] at h
  | cons d rest ih =>
    by_cases hd : (if showing then Place.outside else place).shows d
    · rw [shownFrom, if_pos hd] at h
      rcases List.mem_cons.1 h with rfl | h
      · exact isShown_of_shows hd
      · exact ih h
    · rw [shownFrom, if_neg hd] at h
      exact ih h

/-- A text in which everything shows is shown as it is. -/
theorem shownFrom_eq_self {showing : Bool} {cs : List Char} (h : ∀ c ∈ cs, isShown c = true) :
    shownFrom .outside showing cs = cs := by
  induction cs generalizing showing with
  | nil => rfl
  | cons c rest ih =>
    have hc : isShown c = true := h c (List.mem_cons_self ..)
    have hrest : ∀ d ∈ rest, isShown d = true := fun d hd => h d (List.mem_cons_of_mem _ hd)
    simp [shownFrom, Place.shows_outside, hc, ih hrest]

end BucketVolume.Text
