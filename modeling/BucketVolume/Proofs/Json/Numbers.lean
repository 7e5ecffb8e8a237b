import Mathlib.Data.List.TakeDrop
import BucketVolume.Json.Number

/-!
# BucketVolume.Proofs.Json.Numbers — a written number is read back

A number is read part by part, and each part takes all the digits that it finds; so a number is read
back whenever what follows it could not be a part of it.
-/

namespace BucketVolume.Json

/-! ## Digits -/

/-- At least one digit, and nothing else. -/
structure Digits (ds : List Char) : Prop where
  nonempty : ds ≠ []
  digit : ∀ d ∈ ds, d.isDigit = true

/-- A text that does not start with a digit. -/
def NoDigit (rest : List Char) : Prop :=
  ∀ c, rest.head? = some c → c.isDigit = false

theorem spanDigits_append {ds rest : List Char} (hds : ∀ d ∈ ds, d.isDigit = true)
    (hrest : NoDigit rest) : spanDigits (ds ++ rest) = (ds, rest) := by
  rw [spanDigits, List.span_eq_takeWhile_dropWhile]
  induction ds with
  | nil =>
    cases rest with
    | nil => rfl
    | cons c rest =>
      have hc : c.isDigit = false := hrest c rfl
      simp [hc]
  | cons d ds ih =>
    have hd : d.isDigit = true := hds d List.mem_cons_self
    have htail := Prod.mk.inj (ih fun e he => hds e (List.mem_cons_of_mem _ he))
    simp [hd, htail]

theorem readDigits1?_append {ds rest : List Char} (hds : Digits ds) (hrest : NoDigit rest) :
    readDigits1? (ds ++ rest) = some (ds, rest) := by
  rw [readDigits1?, spanDigits_append hds.digit hrest]
  cases ds with
  | nil => exact absurd rfl hds.nonempty
  | cons d ds => rfl

/-! ## Parts of a number -/

/-- A number as JSON has it: digits in each part that is there, and no zero in front of others. -/
structure NumberText.WellFormed (n : NumberText) : Prop where
  whole : Digits n.digits
  leadingZero : ∀ rest, n.digits = '0' :: rest → rest = []
  fraction : ∀ ds, n.fraction = some ds → Digits ds
  exponent : ∀ sign ds, n.exponent = some (sign, ds) →
    (sign = none ∨ sign = some '+' ∨ sign = some '-') ∧ Digits ds
  mark : n.exponentMark = 'e' ∨ n.exponentMark = 'E' ∧ n.exponent.isSome

/-- A text that cannot go on with a number. -/
def NoNumber (rest : List Char) : Prop :=
  ∀ c, rest.head? = some c → c.isDigit = false ∧ c ≠ '.' ∧ c ≠ 'e' ∧ c ≠ 'E'

theorem NoNumber.noDigit {rest : List Char} (h : NoNumber rest) : NoDigit rest :=
  fun c hc => (h c hc).1

theorem readWhole?_append {ds rest : List Char} (hds : Digits ds)
    (hzero : ∀ tail, ds = '0' :: tail → tail = []) (hrest : NoDigit rest) :
    readWhole? (ds ++ rest) = some (ds, rest) := by
  rw [readWhole?, readDigits1?_append hds hrest]
  split
  next c tail rest' h =>
    -- a zero in front of another digit
    obtain ⟨rfl, -⟩ := Prod.mk.inj (Option.some.inj h)
    exact absurd (hzero _ rfl) (List.cons_ne_nil _ _)
  next => rfl

/-- The text of a fraction. -/
def fractionChars : Option (List Char) → List Char
  | none => []
  | some ds => '.' :: ds

theorem readFraction?_append {fraction : Option (List Char)} {rest : List Char}
    (hds : ∀ ds, fraction = some ds → Digits ds) (hrest : NoDigit rest)
    (hpoint : rest.head? ≠ some '.') :
    readFraction? (fractionChars fraction ++ rest) = some (fraction, rest) := by
  cases fraction with
  | none =>
    rw [fractionChars, List.nil_append, readFraction?]
    rintro tail rfl
    exact hpoint rfl
  | some ds =>
    rw [fractionChars, List.cons_append, readFraction?, readDigits1?_append (hds ds rfl) hrest]
    rfl

theorem readExponentBody?_append {sign : Option Char} {ds rest : List Char}
    (hsign : sign = none ∨ sign = some '+' ∨ sign = some '-') (hds : Digits ds)
    (hrest : NoDigit rest) :
    readExponentBody? (sign.toList ++ ds ++ rest) = some ((sign, ds), rest) := by
  rcases hsign with rfl | rfl | rfl
  · have hread := readDigits1?_append hds hrest
    rw [Option.toList_none, List.nil_append, readExponentBody?, hread]
    · rfl
    all_goals
      -- digits do not start with a sign
      intro tail htail
      cases ds with
      | nil => exact hds.nonempty rfl
      | cons d ds =>
        have hd := hds.digit d List.mem_cons_self
        rw [(List.cons.inj htail).1] at hd
        exact absurd hd (by decide)
  · simp [readExponentBody?, readDigits1?_append hds hrest]
  · simp [readExponentBody?, readDigits1?_append hds hrest]

/-- The text of an exponent. -/
def exponentChars (mark : Char) : Option (Option Char × List Char) → List Char
  | none => []
  | some (sign, ds) => mark :: (sign.toList ++ ds)

namespace NumberText

variable {n : NumberText}

theorem chars_eq (n : NumberText) :
    n.chars = (if n.negative then ['-'] else []) ++ (n.digits ++
      (fractionChars n.fraction ++ exponentChars n.exponentMark n.exponent)) := by
  simp only [chars, List.append_assoc]
  rfl

/-- What follows the digits of a part is no digit. -/
theorem noDigit_exponentChars (h : n.WellFormed) {rest : List Char} (hrest : NoNumber rest) :
    NoDigit (exponentChars n.exponentMark n.exponent ++ rest) ∧
      (exponentChars n.exponentMark n.exponent ++ rest).head? ≠ some '.' := by
  cases hexponent : n.exponent with
  | none => exact ⟨hrest.noDigit, fun hpoint => (hrest '.' hpoint).2.1 rfl⟩
  | some exponent =>
    have hmark : n.exponentMark = 'e' ∨ n.exponentMark = 'E' := h.mark.imp_right And.left
    constructor
    · intro c hc
      obtain rfl : n.exponentMark = c := by simpa [exponentChars] using hc
      rcases hmark with hmark | hmark
      · rw [hmark]
        rfl
      · rw [hmark]
        rfl
    · rcases hmark with hmark | hmark
      · simp [exponentChars, hmark]
      · simp [exponentChars, hmark]

end NumberText

/-! ## Whole numbers -/

/-- The sign in front of a number is told from its digits. -/
theorem signed_eq (negative : Bool) {ds : List Char} (hds : Digits ds) (rest : List Char) :
    (match (if negative then ['-'] else []) ++ (ds ++ rest) with
      | '-' :: tail => (true, tail)
      | cs => (false, cs)) = (negative, ds ++ rest) := by
  cases negative with
  | true => rfl
  | false =>
    cases ds with
    | nil => exact absurd rfl hds.nonempty
    | cons d ds =>
      have hd : d ≠ '-' := by
        rintro rfl
        exact absurd (hds.digit '-' List.mem_cons_self) (by decide)
      simp [hd]

/-- A written number is read back, and what follows it is left. -/
theorem readNumber?_written {n : NumberText} (h : n.WellFormed) {rest : List Char}
    (hrest : NoNumber rest) : readNumber? (n.chars ++ rest) = some (n, rest) := by
  rcases NumberText.noDigit_exponentChars h hrest with ⟨hexponent, hpoint⟩
  have hfraction := readFraction?_append h.fraction hexponent hpoint
  have hbehind : NoDigit (fractionChars n.fraction ++
      (exponentChars n.exponentMark n.exponent ++ rest)) := by
    cases n.fraction with
    | none => exact hexponent
    | some ds =>
      intro c hc
      obtain rfl : '.' = c := by simpa [fractionChars] using hc
      rfl
  have hwhole := readWhole?_append h.whole h.leadingZero hbehind
  rw [NumberText.chars_eq, List.append_assoc, List.append_assoc, List.append_assoc]
  unfold readNumber?
  split
  next negative cs hsign =>
  obtain ⟨rfl, rfl⟩ := Prod.mk.inj (hsign.symm.trans (signed_eq n.negative h.whole _))
  simp only [hwhole, hfraction, Option.bind_eq_bind, Option.bind_some]
  rcases n with ⟨negative, digits, fraction, exponent, mark⟩
  rcases exponent with _ | ⟨sign, ds⟩
  · -- what follows would be an exponent if it started with a mark
    obtain rfl : mark = 'e' := by simpa using h.mark
    simp only [exponentChars, List.nil_append]
    split
    next => exact absurd rfl (hrest 'e' rfl).2.2.1
    next => exact absurd rfl (hrest 'E' rfl).2.2.2
    next => rfl
  · rcases h.exponent sign ds rfl with ⟨hsign, hds⟩
    have hbody := readExponentBody?_append hsign hds hrest.noDigit
    rcases h.mark with hmark | ⟨hmark, -⟩
    · obtain rfl : mark = 'e' := hmark
      simp only [exponentChars, List.cons_append, hbody, Option.bind_some]
      rfl
    · obtain rfl : mark = 'E' := hmark
      simp only [exponentChars, List.cons_append, hbody, Option.bind_some]
      rfl

end BucketVolume.Json
