import BucketVolume.Proofs.Json.Spelling

/-!
# BucketVolume.Proofs.Json.Skipping — values are passed over, whatever they hold

Passing over a value is a loop over its tokens with the open brackets on a stack. What the loop does is
settled token by token; a spelled value then takes it from before the value to behind it, with the
brackets as they were and in no more steps than the value has characters (`Spells.passes`, by induction
on the spelling). So the loop's bound is never met, and any value is passed over
(`skipValue?_spelled`).
-/

namespace BucketVolume.Json

/-! ## Tokens -/

theorem afterWord?_append (word : String) (r : List Char) :
    afterWord? word (word.toList ++ r) = some r := by
  rw [afterWord?, if_pos (by simp), ← String.length_toList, List.drop_left]

theorem skipColon?_gap {t u : List Char} (h : Gap t (':' :: u)) : skipColon? t = some u := by
  rw [skipColon?, h.skipBlank_cons rfl]
  rfl

theorem skipName?_spelled {name : String} {t t₁ t₂ t₃ : List Char} (h : Gap t t₁)
    (hname : SpellsString name t₁ t₂) (hcolon : Gap t₂ (':' :: t₃)) : skipName? t = some t₃ := by
  cases hname with
  | quoted hbody =>
    rw [skipName?, h.skipBlank_cons rfl]
    show (skipStringBody? _).bind skipColon? = _
    rw [skipStringBody?_spelled hbody, Option.bind_some, skipColon?_gap hcolon]

theorem skipScalar?_bool (b : Bool) (r : List Char) :
    skipScalar? (boolChars b ++ r) = some r := by
  cases b with
  | true => exact afterWord?_append "rue" r
  | false => exact afterWord?_append "alse" r

theorem skipScalar?_null (r : List Char) : skipScalar? ("null".toList ++ r) = some r :=
  afterWord?_append "ull" r

theorem skipScalar?_number {n : NumberText} (h : n.WellFormed) {r : List Char} (hr : NoNumber r) :
    skipScalar? (n.chars ++ r) = some r := by
  have hread := readNumber?_written h hr
  rcases h.start with ⟨c, u, hchars, hc⟩
  rw [hchars, List.cons_append] at hread ⊢
  rw [skipScalar?, hread]
  · rfl
  all_goals
    -- a number does not start as another scalar does
    intro rest heq
    exact absurd (List.cons.inj heq).1 (hc.ne (by decide) (by decide))

/-! ## Steps of the loop -/

/-- The character that opens a bracket. -/
def Bracket.opening : Bracket → Char
  | .array => '['
  | .object => '\x7b'

/-- The character that closes a bracket. -/
def Bracket.closing : Bracket → Char
  | .array => ']'
  | .object => '\x7d'

section

variable {n : Nat} {brackets : List Bracket} {bracket : Bracket} {c : Char} {name : String}
  {t t₁ t₂ t₃ u r : List Char}

theorem skipFrom?_gap (h : Gap t u) : skipFrom? n brackets t = skipFrom? n brackets u := by
  cases n with
  | zero => rw [skipFrom?, skipFrom?]
  | succ n => rw [skipFrom?, skipFrom?, h.skipBlank_eq]

theorem skipFrom?_scalar (hblank : isBlank c = false) (hopen : c ≠ '[' ∧ c ≠ '\x7b')
    (hscalar : skipScalar? (c :: u) = some r) :
    skipFrom? (n + 1) brackets (c :: u) = skipAfter? n brackets r := by
  rw [skipFrom?, skipBlank_cons hblank]
  split
  next heq => exact absurd (List.cons.inj heq).1 hopen.1
  next heq => exact absurd (List.cons.inj heq).1 hopen.2
  next => rw [hscalar]; rfl

theorem skipFrom?_empty (h : Gap t (bracket.closing :: r)) :
    skipFrom? (n + 1) brackets (bracket.opening :: t) = skipAfter? n brackets r := by
  cases bracket with
  | array =>
    have hclose : skipBlank t = ']' :: r := h.skipBlank_cons rfl
    rw [Bracket.opening, skipFrom?, skipBlank_cons rfl]
    simp only [hclose]
  | object =>
    have hclose : skipBlank t = '\x7d' :: r := h.skipBlank_cons rfl
    rw [Bracket.opening, skipFrom?, skipBlank_cons rfl]
    simp only [hclose]

/-- An array is opened at its first item. -/
theorem skipFrom?_array (hitem : Gap t (c :: u)) (hblank : isBlank c = false) (hclose : c ≠ ']') :
    skipFrom? (n + 1) brackets ('[' :: t) = skipFrom? n (.array :: brackets) (c :: u) := by
  rw [skipFrom?, skipBlank_cons rfl]
  simp only [hitem.skipBlank_cons hblank]
  split
  next heq => exact absurd (List.cons.inj heq).1 hclose
  next => rfl

/-- An object is opened at its first value. -/
theorem skipFrom?_object (hlead : Gap t t₁) (hname : SpellsString name t₁ t₂)
    (hcolon : Gap t₂ (':' :: t₃)) :
    skipFrom? (n + 1) brackets ('\x7b' :: t) = skipFrom? n (.object :: brackets) t₃ := by
  have hskip : skipName? t₁ = some t₃ := skipName?_spelled .refl hname hcolon
  cases hname with
  | @quoted body _ _ =>
    rw [skipFrom?, skipBlank_cons rfl]
    simp only [hlead.skipBlank_cons rfl]
    show (skipName? ('\"' :: body)).bind _ = _
    rw [hskip]
    rfl

theorem skipAfter?_close (h : Gap t (bracket.closing :: r)) :
    skipAfter? (n + 1) (bracket :: brackets) t = skipAfter? n brackets r := by
  cases bracket with
  | array =>
    have hclose : skipBlank t = ']' :: r := h.skipBlank_cons rfl
    simp only [skipAfter?, hclose]
  | object =>
    have hclose : skipBlank t = '\x7d' :: r := h.skipBlank_cons rfl
    simp only [skipAfter?, hclose]

theorem skipAfter?_item (h : Gap t (',' :: u)) :
    skipAfter? (n + 1) (.array :: brackets) t = skipFrom? n (.array :: brackets) u := by
  rw [skipAfter?, h.skipBlank_cons rfl]
  rfl

theorem skipAfter?_member (h : Gap t (',' :: u)) (hlead : Gap u t₁)
    (hname : SpellsString name t₁ t₂) (hcolon : Gap t₂ (':' :: t₃)) :
    skipAfter? (n + 1) (.object :: brackets) t = skipFrom? n (.object :: brackets) t₃ := by
  rw [skipAfter?, h.skipBlank_cons rfl]
  show (skipName? u).bind _ = _
  rw [skipName?_spelled hlead hname hcolon]
  rfl

end

/-! ## Whole values -/

/-- From some place the loop gets to behind a value, with the same brackets open and in a bounded
number of steps. -/
def Passes (start : Nat → List Bracket → Option (List Char)) (bound : Nat) (r : List Char) : Prop :=
  ∃ k, k + r.length ≤ bound ∧ ∀ n brackets, start (n + k) brackets = skipAfter? n brackets r

/-- The loop passes over a value in no more steps than the value has characters. -/
abbrev PassesValue (t r : List Char) : Prop :=
  Passes (fun n brackets => skipFrom? n brackets t) t.length r

/-- The loop passes over the rest of what a bracket holds, in no more steps than that has
characters. -/
abbrev PassesTail (bracket : Bracket) (t r : List Char) : Prop :=
  Passes (fun n brackets => skipAfter? n (bracket :: brackets) t) t.length r

section

variable {start : Nat → List Bracket → Option (List Char)} {bound : Nat} {bracket : Bracket}
  {name : String} {u t t₁ t₂ t₃ t₄ r : List Char}

theorem Passes.one (hlength : r.length < bound)
    (hstart : ∀ n brackets, start (n + 1) brackets = skipAfter? n brackets r) :
    Passes start bound r :=
  ⟨1, by omega, hstart⟩

/-- A step to a value is followed by the value's steps and by those of what comes behind it. -/
theorem Passes.value (hgap : Gap u t₁) (hlength : t₁.length < bound)
    (hstart : ∀ n brackets, start (n + 1) brackets = skipFrom? n (bracket :: brackets) u)
    (hvalue : PassesValue t₁ t₂) (htail : PassesTail bracket t₂ r) : Passes start bound r := by
  rcases hvalue with ⟨k₁, hk₁, hvalue⟩
  rcases htail with ⟨k₂, hk₂, htail⟩
  refine ⟨k₂ + k₁ + 1, by omega, ?_⟩
  intro n brackets
  calc start (n + (k₂ + k₁ + 1)) brackets
      = start (n + k₂ + k₁ + 1) brackets := by rw [Nat.add_assoc n, ← Nat.add_assoc n]
    _ = skipFrom? (n + k₂ + k₁) (bracket :: brackets) u := hstart _ _
    _ = skipFrom? (n + k₂ + k₁) (bracket :: brackets) t₁ := skipFrom?_gap hgap
    _ = skipAfter? (n + k₂) (bracket :: brackets) t₂ := hvalue _ _
    _ = skipAfter? n brackets r := htail n brackets

theorem passesValue_scalar {c : Char} (hblank : isBlank c = false)
    (hopen : c ≠ '[' ∧ c ≠ '\x7b') (hscalar : skipScalar? (c :: u) = some r)
    (hlength : r.length < (c :: u).length) : PassesValue (c :: u) r :=
  .one hlength fun _ _ => skipFrom?_scalar hblank hopen hscalar

theorem passesValue_empty (bracket : Bracket) (h : Gap t (bracket.closing :: r)) :
    PassesValue (bracket.opening :: t) r :=
  .one (Nat.lt_succ_of_lt h.length_le) fun _ _ => skipFrom?_empty h

theorem passesTail_close (h : Gap t (bracket.closing :: r)) : PassesTail bracket t r :=
  .one h.length_le fun _ _ => skipAfter?_close h

theorem passesValue_array (hlead : Gap t t₁)
    (hstart : ∃ c u, t₁ = c :: u ∧ isBlank c = false ∧ c ≠ ']') (hvalue : PassesValue t₁ t₂)
    (htail : PassesTail .array t₂ r) : PassesValue ('[' :: t) r := by
  rcases hstart with ⟨c, u, rfl, hblank, hclose⟩
  exact .value .refl (Nat.lt_succ_of_le hlead.length_le)
    (fun _ _ => skipFrom?_array hlead hblank hclose) hvalue htail

theorem passesTail_item (hcomma : Gap t (',' :: u)) (hlead : Gap u t₁) (hvalue : PassesValue t₁ t₂)
    (htail : PassesTail .array t₂ r) : PassesTail .array t r :=
  .value hlead (Nat.lt_of_le_of_lt hlead.length_le hcomma.length_le)
    (fun _ _ => skipAfter?_item hcomma) hvalue htail

/-- A member's value stands behind its name and colon. -/
theorem length_lt_of_name (hlead : Gap t t₁) (hname : SpellsString name t₁ t₂)
    (hcolon : Colon t₂ t₃) : t₃.length < t.length := by
  have hstart := hlead.length_le
  have hfront := hname.length_lt
  have hback := hcolon.length_lt
  omega

theorem passesValue_object (hlead : Gap t t₁) (hname : SpellsString name t₁ t₂)
    (hcolon : Colon t₂ t₃) (hvalue : PassesValue t₃ t₄) (htail : PassesTail .object t₄ r) :
    PassesValue ('\x7b' :: t) r := by
  have hlength := length_lt_of_name hlead hname hcolon
  rcases hcolon with ⟨hcolon, hgap⟩
  exact .value hgap (Nat.lt_succ_of_lt hlength)
    (fun _ _ => skipFrom?_object hlead hname hcolon) hvalue htail

theorem passesTail_member (hcomma : Gap t (',' :: u)) (hlead : Gap u t₁)
    (hname : SpellsString name t₁ t₂) (hcolon : Colon t₂ t₃) (hvalue : PassesValue t₃ t₄)
    (htail : PassesTail .object t₄ r) : PassesTail .object t r := by
  have hlength := Nat.lt_of_lt_of_le (length_lt_of_name hlead hname hcolon)
    (Nat.le_of_succ_le hcomma.length_le)
  rcases hcolon with ⟨hcolon, hgap⟩
  exact .value hgap hlength (fun _ _ => skipAfter?_member hcomma hlead hname hcolon) hvalue htail

end

mutual

/-- The loop passes over a spelled value. -/
theorem Spells.passes : {value : Json} → {t r : List Char} → Spells value t r → PassesValue t r
  | _, _, r, .null =>
    passesValue_scalar rfl (by decide) (skipScalar?_null r) (Spells.null).length_lt
  | _, _, r, @Spells.bool b _ => by
    have hlength := (Spells.bool (b := b) (r := r)).length_lt
    cases b with
    | true => exact passesValue_scalar rfl (by decide) (skipScalar?_bool true r) hlength
    | false => exact passesValue_scalar rfl (by decide) (skipScalar?_bool false r) hlength
  | _, _, r, .number h hr => by
    have hscalar := skipScalar?_number h hr
    have hlength := (Spells.number h hr).length_lt
    rcases h.start with ⟨c, u, hchars, hc⟩
    rw [hchars] at hscalar hlength ⊢
    exact passesValue_scalar hc.notBlank
      ⟨hc.ne (by decide) (by decide), hc.ne (by decide) (by decide)⟩ hscalar hlength
  | _, _, _, .text hs => by
    have hlength := hs.length_lt
    cases hs with
    | quoted h => exact passesValue_scalar rfl (by decide) (skipStringBody?_spelled h) hlength
  | _, _, _, .array (.close h) => passesValue_empty .array h
  | _, _, _, .array (.item (.first hlead) hvalue hrest) =>
    passesValue_array hlead hvalue.start hvalue.passes hrest.passes
  | _, _, _, .object (.close h) => passesValue_empty .object h
  | _, _, _, .object (.member (.first hlead) hname hcolon hvalue hrest) =>
    passesValue_object hlead hname hcolon hvalue.passes hrest.passes

theorem SpellsItems.passes : {items : List Json} → {t r : List Char} →
    SpellsItems false items t r → PassesTail .array t r
  | _, _, _, .close h => passesTail_close h
  | _, _, _, .item (.comma hcomma hlead) hvalue hrest =>
    passesTail_item hcomma hlead hvalue.passes hrest.passes

theorem SpellsMembers.passes : {members : List (String × Json)} → {t r : List Char} →
    SpellsMembers false members t r → PassesTail .object t r
  | _, _, _, .close h => passesTail_close h
  | _, _, _, .member (.comma hcomma hlead) hname hcolon hvalue hrest =>
    passesTail_member hcomma hlead hname hcolon hvalue.passes hrest.passes

end

/-- Any spelled value is passed over. -/
theorem skipValue?_spelled {value : Json} {t t' r : List Char} (hgap : Gap t t')
    (h : Spells value t' r) : skipValue? t = some r := by
  rcases h.passes with ⟨k, hk, hpasses⟩
  have hlength := hgap.length_le
  have hbound : 2 * t.length + 2 = (2 * t.length + 2 - k) + k := by omega
  rw [skipValue?, hbound, skipFrom?_gap hgap]
  exact (hpasses _ []).trans (by rw [skipAfter?])

end BucketVolume.Json
