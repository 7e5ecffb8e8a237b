import BucketVolume.Json.Reader
import BucketVolume.Json.Value
import BucketVolume.Proofs.Json.Numbers
import BucketVolume.Proofs.Json.Strings

/-!
# BucketVolume.Proofs.Json.Spelling — the texts of a value

A value has many texts, which differ in the blanks between their tokens and in the spellings of their
strings. `Spells` relates a value to a text that starts with one of them and to what follows it there;
with the remainder in the relation, values are put together without cutting a text into parts. The
writer's texts are among them:

* `spells_compact` — the compact text has no blanks;
* `spells_pretty` — the pretty text has a line end before each item and member, and before a closing
  bracket;
* `Rendered.spelled` — both of them, and what a command prints, are spellings of it as whole texts.
-/

namespace BucketVolume.Json

/-! ## Blanks -/

/-- Only blanks stand between two places of a text. -/
inductive Gap : List Char → List Char → Prop where
  | refl {t : List Char} : Gap t t
  | blank {c : Char} {t t' : List Char} (hc : isBlank c = true) (h : Gap t t') : Gap (c :: t) t'

theorem Gap.trans {t u w : List Char} (h : Gap t u) (h' : Gap u w) : Gap t w := by
  induction h with
  | refl => exact h'
  | blank hc _ ih => exact .blank hc (ih h')

/-- Skipping blanks does not tell the two ends of a gap apart. -/
theorem Gap.skipBlank_eq {t t' : List Char} (h : Gap t t') : skipBlank t = skipBlank t' := by
  induction h with
  | refl => rfl
  | blank hc _ ih => rw [← ih, skipBlank, List.dropWhile_cons_of_pos hc]; rfl

theorem Gap.length_le {t t' : List Char} (h : Gap t t') : t'.length ≤ t.length := by
  induction h with
  | refl => exact Nat.le_refl _
  | blank _ _ ih => exact Nat.le_succ_of_le ih

theorem skipBlank_cons {c : Char} (hc : isBlank c = false) (t : List Char) :
    skipBlank (c :: t) = c :: t :=
  List.dropWhile_cons_of_neg (by simp [hc])

/-- Blanks are skipped up to a token. -/
theorem Gap.skipBlank_cons {c : Char} {t t' : List Char} (h : Gap t (c :: t'))
    (hc : isBlank c = false) : skipBlank t = c :: t' := by
  rw [h.skipBlank_eq, Json.skipBlank_cons hc]

theorem gap_replicate (n : Nat) (t : List Char) : Gap (List.replicate n ' ' ++ t) t := by
  induction n with
  | zero => exact .refl
  | succ n ih => exact .blank rfl ih

theorem gap_newLine (depth : Nat) (t : List Char) : Gap (newLine depth ++ t) t :=
  .blank rfl (gap_replicate _ t)

/-! ## Values -/

/-- What stands before an item or a member: a comma, unless it is the first one. -/
inductive Lead : (first : Bool) → List Char → List Char → Prop where
  | first {t t' : List Char} (h : Gap t t') : Lead true t t'
  | comma {t u t' : List Char} (h : Gap t (',' :: u)) (h' : Gap u t') : Lead false t t'

theorem Lead.trans {first : Bool} {t u w : List Char} (h : Lead first t u) (h' : Gap u w) :
    Lead first t w := by
  cases h with
  | first h => exact .first (h.trans h')
  | comma h h'' => exact .comma h (h''.trans h')

/-- A colon stands between two places of a text, with blanks around it. -/
inductive Colon : List Char → List Char → Prop where
  | mk {t u t' : List Char} (h : Gap t (':' :: u)) (h' : Gap u t') : Colon t t'

mutual

/-- A text starts with a spelling of a value; the last argument is what follows it. A number ends
where it cannot go on. -/
inductive Spells : Json → List Char → List Char → Prop where
  | null {r : List Char} : Spells .null ("null".toList ++ r) r
  | bool {b : Bool} {r : List Char} : Spells (.bool b) (boolChars b ++ r) r
  | number {n : NumberText} {r : List Char} (h : n.WellFormed) (hr : NoNumber r) :
    Spells (.number n) (n.chars ++ r) r
  | text {s : String} {t r : List Char} (h : SpellsString s t r) : Spells (.text s) t r
  | array {items : List Json} {t r : List Char} (h : SpellsItems true items t r) :
    Spells (.array items) ('[' :: t) r
  | object {members : List (String × Json)} {t r : List Char} (h : SpellsMembers true members t r) :
    Spells (.object members) ('\x7b' :: t) r

/-- Items and the bracket that closes them. -/
inductive SpellsItems : (first : Bool) → List Json → List Char → List Char → Prop where
  | close {first : Bool} {t r : List Char} (h : Gap t (']' :: r)) : SpellsItems first [] t r
  | item {first : Bool} {value : Json} {rest : List Json} {t t₁ t₂ r : List Char}
    (hlead : Lead first t t₁) (hvalue : Spells value t₁ t₂) (hrest : SpellsItems false rest t₂ r) :
    SpellsItems first (value :: rest) t r

/-- Members and the brace that closes them. -/
inductive SpellsMembers : (first : Bool) → List (String × Json) → List Char → List Char → Prop where
  | close {first : Bool} {t r : List Char} (h : Gap t ('\x7d' :: r)) : SpellsMembers first [] t r
  | member {first : Bool} {name : String} {value : Json} {rest : List (String × Json)}
    {t t₁ t₂ t₃ t₄ r : List Char} (hlead : Lead first t t₁) (hname : SpellsString name t₁ t₂)
    (hcolon : Colon t₂ t₃) (hvalue : Spells value t₃ t₄)
    (hrest : SpellsMembers false rest t₄ r) : SpellsMembers first ((name, value) :: rest) t r

end

/-- A character that a number may start with. -/
def StartsNumber (c : Char) : Prop :=
  c = '-' ∨ c.isDigit = true

theorem NumberText.WellFormed.start {n : NumberText} (h : n.WellFormed) :
    ∃ c u, n.chars = c :: u ∧ StartsNumber c := by
  rw [NumberText.chars_eq]
  cases n.negative with
  | true => exact ⟨'-', _, rfl, .inl rfl⟩
  | false =>
    cases hdigits : n.digits with
    | nil => exact absurd hdigits h.whole.nonempty
    | cons d ds =>
      have hd : d.isDigit = true := h.whole.digit d (by rw [hdigits]; exact List.mem_cons_self)
      exact ⟨d, _, rfl, .inr hd⟩

/-- A character that is neither a minus nor a digit starts no number. -/
theorem StartsNumber.ne {c d : Char} (h : StartsNumber c) (hminus : d ≠ '-')
    (hdigit : d.isDigit = false) : c ≠ d := by
  rintro rfl
  rcases h with h | h
  · exact hminus h
  · rw [hdigit] at h
    exact absurd h (by decide)

theorem StartsNumber.notBlank {c : Char} (h : StartsNumber c) : isBlank c = false := by
  have hspace : c ≠ ' ' := h.ne (by decide) (by decide)
  have htab : c ≠ '\t' := h.ne (by decide) (by decide)
  have hline : c ≠ '\n' := h.ne (by decide) (by decide)
  have hreturn : c ≠ '\r' := h.ne (by decide) (by decide)
  simp [isBlank, hspace, htab, hline, hreturn]

/-- A value starts with a token, and not with the bracket that closes an array. -/
theorem Spells.start {value : Json} {t r : List Char} (h : Spells value t r) :
    ∃ c u, t = c :: u ∧ isBlank c = false ∧ c ≠ ']' := by
  cases h with
  | null => exact ⟨'n', _, rfl, rfl, by decide⟩
  | @bool b _ =>
    cases b with
    | true => exact ⟨'t', _, rfl, rfl, by decide⟩
    | false => exact ⟨'f', _, rfl, rfl, by decide⟩
  | number hn _ =>
    rcases hn.start with ⟨c, u, hchars, hc⟩
    exact ⟨c, u ++ r, by rw [hchars]; rfl, hc.notBlank, hc.ne (by decide) (by decide)⟩
  | text hs =>
    cases hs with
    | quoted _ => exact ⟨'\"', _, rfl, rfl, by decide⟩
  | array _ => exact ⟨'[', _, rfl, rfl, by decide⟩
  | object _ => exact ⟨'\x7b', _, rfl, rfl, by decide⟩

/-! ## Lengths -/

theorem Lead.length_le {first : Bool} {t t' : List Char} (h : Lead first t t') :
    t'.length ≤ t.length := by
  cases h with
  | first h => exact h.length_le
  | comma h h' =>
    have hcomma := h.length_le
    have hgap := h'.length_le
    rw [List.length_cons] at hcomma
    omega

theorem Colon.length_lt {t t' : List Char} (h : Colon t t') : t'.length < t.length := by
  cases h with
  | mk h h' =>
    have hcolon := h.length_le
    have hgap := h'.length_le
    rw [List.length_cons] at hcolon
    omega

theorem NumberText.WellFormed.length_pos {n : NumberText} (h : n.WellFormed) :
    0 < n.chars.length := by
  rcases h.start with ⟨c, u, hchars, -⟩
  rw [hchars]
  exact Nat.succ_pos _

theorem length_boolChars_pos (b : Bool) : 0 < (boolChars b).length := by
  cases b <;> decide

mutual

/-- A value takes up text. -/
theorem Spells.length_lt : {value : Json} → {t r : List Char} → Spells value t r →
    r.length < t.length
  | _, _, r, .null => by
    rw [List.length_append]
    exact Nat.lt_add_of_pos_left (by decide)
  | _, _, r, .bool => by
    rw [List.length_append]
    exact Nat.lt_add_of_pos_left (length_boolChars_pos _)
  | _, _, r, .number h _ => by
    rw [List.length_append]
    exact Nat.lt_add_of_pos_left h.length_pos
  | _, _, _, .text h => h.length_lt
  | _, _, r, .array h => by
    have hitems := h.length_lt
    rw [List.length_cons]
    omega
  | _, _, r, .object h => by
    have hmembers := h.length_lt
    rw [List.length_cons]
    omega

/-- Items take up text, at least a character for each. -/
theorem SpellsItems.length_lt : {first : Bool} → {items : List Json} → {t r : List Char} →
    SpellsItems first items t r → r.length + items.length < t.length
  | _, _, _, _, .close h => h.length_le
  | _, _, _, _, .item hlead hvalue hrest => by
    have hfront := hlead.length_le
    have hmiddle := hvalue.length_lt
    have hback := hrest.length_lt
    rw [List.length_cons]
    omega

/-- Members take up text, at least a character for each. -/
theorem SpellsMembers.length_lt : {first : Bool} → {members : List (String × Json)} →
    {t r : List Char} → SpellsMembers first members t r → r.length + members.length < t.length
  | _, _, _, _, .close h => h.length_le
  | _, _, _, _, .member hlead hname hcolon hvalue hrest => by
    have hstart := hlead.length_le
    have hquoted := hname.length_lt
    have hfront := hcolon.length_lt
    have hmiddle := hvalue.length_lt
    have hback := hrest.length_lt
    rw [List.length_cons]
    omega

end

/-! ## What the writer writes -/

mutual

/-- All numbers in a value are written as JSON has them. -/
def Lawful : Json → Prop
  | .number n => n.WellFormed
  | .array items => LawfulItems items
  | .object members => LawfulMembers members
  | _ => True

def LawfulItems : List Json → Prop
  | [] => True
  | item :: rest => Lawful item ∧ LawfulItems rest

def LawfulMembers : List (String × Json) → Prop
  | [] => True
  | (_, value) :: rest => Lawful value ∧ LawfulMembers rest

end

/-- A number may stand before a character that is no part of one. -/
theorem noNumber_cons {c : Char} (hdigit : c.isDigit = false) (hother : c ≠ '.' ∧ c ≠ 'e' ∧ c ≠ 'E')
    (t : List Char) : NoNumber (c :: t) := by
  intro d hd
  obtain rfl : c = d := by simpa using hd
  exact ⟨hdigit, hother⟩

theorem noNumber_nil : NoNumber [] := by
  intro c hc
  cases hc

mutual

/-- The compact text spells its value. -/
theorem spells_compact : (value : Json) → Lawful value → ∀ {r : List Char}, NoNumber r →
    Spells value (compactChars value ++ r) r
  | .null, _, _, _ => .null
  | .bool _, _, _, _ => .bool
  | .number _, h, _, hr => .number h hr
  | .text s, _, r, _ => .text (spellsString_written s r)
  | .array [], _, _, _ => .array (.close .refl)
  | .array (item :: rest), h, r, _ => by
    rw [compactChars, List.cons_append, List.append_assoc]
    exact .array (spells_compactItems (item :: rest) h (List.cons_ne_nil _ _) (.first .refl))
  | .object [], _, _, _ => .object (.close .refl)
  | .object (member :: rest), h, r, _ => by
    rw [compactChars, List.cons_append, List.append_assoc]
    exact .object
      (spells_compactMembers (member :: rest) h (List.cons_ne_nil _ _) (.first .refl))

theorem spells_compactItems : (items : List Json) → LawfulItems items → items ≠ [] →
    ∀ {first : Bool} {t r : List Char}, Lead first t (compactItems items ++ ']' :: r) →
      SpellsItems first items t r
  | [], _, hne, _, _, _, _ => absurd rfl hne
  | [item], h, _, first, t, r, hlead =>
    .item hlead (spells_compact item h.1 (noNumber_cons rfl (by decide) r)) (.close .refl)
  | item :: next :: rest, h, _, first, t, r, hlead => by
    rw [compactItems, List.append_assoc] at hlead
    exact .item hlead (spells_compact item h.1 (noNumber_cons rfl (by decide) _))
      (spells_compactItems (next :: rest) h.2 (List.cons_ne_nil _ _) (.comma .refl .refl))

theorem spells_compactMembers : (members : List (String × Json)) → LawfulMembers members →
    members ≠ [] → ∀ {first : Bool} {t r : List Char},
      Lead first t (compactMembers members ++ '\x7d' :: r) → SpellsMembers first members t r
  | [], _, hne, _, _, _, _ => absurd rfl hne
  | [(name, value)], h, _, first, t, r, hlead => by
    rw [compactMembers, List.append_assoc] at hlead
    exact .member hlead (spellsString_written name _) (.mk .refl .refl)
      (spells_compact value h.1 (noNumber_cons rfl (by decide) r)) (.close .refl)
  | (name, value) :: next :: rest, h, _, first, t, r, hlead => by
    rw [compactMembers, List.append_assoc, List.cons_append, List.append_assoc] at hlead
    exact .member hlead (spellsString_written name _) (.mk .refl .refl)
      (spells_compact value h.1 (noNumber_cons rfl (by decide) _))
      (spells_compactMembers (next :: rest) h.2 (List.cons_ne_nil _ _) (.comma .refl .refl))

end

mutual

/-- The pretty text spells its value, at any depth. -/
theorem spells_pretty : (value : Json) → Lawful value → ∀ {depth : Nat} {r : List Char},
    NoNumber r → Spells value (prettyChars depth value ++ r) r
  | .null, _, _, _, _ => .null
  | .bool _, _, _, _, _ => .bool
  | .number _, h, _, _, hr => .number h hr
  | .text s, _, _, r, _ => .text (spellsString_written s r)
  | .array [], _, _, _, _ => .array (.close .refl)
  | .array (item :: rest), h, depth, r, _ => by
    rw [prettyChars, List.cons_append, List.append_assoc, List.append_assoc]
    exact .array (spells_prettyItems (item :: rest) h (List.cons_ne_nil _ _) (.first .refl)
      (gap_newLine depth _) (noNumber_cons rfl (by decide) _))
  | .object [], _, _, _, _ => .object (.close .refl)
  | .object (member :: rest), h, depth, r, _ => by
    rw [prettyChars, List.cons_append, List.append_assoc, List.append_assoc]
    exact .object (spells_prettyMembers (member :: rest) h (List.cons_ne_nil _ _) (.first .refl)
      (gap_newLine depth _) (noNumber_cons rfl (by decide) _))

theorem spells_prettyItems : (items : List Json) → LawfulItems items → items ≠ [] →
    ∀ {first : Bool} {depth : Nat} {t u r : List Char}, Lead first t (prettyItems depth items ++ u) →
      Gap u (']' :: r) → NoNumber u → SpellsItems first items t r
  | [], _, hne, _, _, _, _, _, _, _, _ => absurd rfl hne
  | [item], h, _, first, depth, t, u, r, hlead, hclose, hu => by
    rw [prettyItems, List.append_assoc] at hlead
    exact .item (hlead.trans (gap_newLine depth _)) (spells_pretty item h.1 hu) (.close hclose)
  | item :: next :: rest, h, _, first, depth, t, u, r, hlead, hclose, hu => by
    rw [prettyItems, List.append_assoc, List.append_assoc] at hlead
    exact .item (hlead.trans (gap_newLine depth _))
      (spells_pretty item h.1 (noNumber_cons rfl (by decide) _))
      (spells_prettyItems (next :: rest) h.2 (List.cons_ne_nil _ _) (.comma .refl .refl) hclose hu)

theorem spells_prettyMembers : (members : List (String × Json)) → LawfulMembers members →
    members ≠ [] → ∀ {first : Bool} {depth : Nat} {t u r : List Char},
      Lead first t (prettyMembers depth members ++ u) → Gap u ('\x7d' :: r) → NoNumber u →
        SpellsMembers first members t r
  | [], _, hne, _, _, _, _, _, _, _, _ => absurd rfl hne
  | [(name, value)], h, _, first, depth, t, u, r, hlead, hclose, hu => by
    rw [prettyMembers, List.append_assoc, List.append_assoc] at hlead
    exact .member (hlead.trans (gap_newLine depth _)) (spellsString_written name _)
      (.mk .refl (.blank rfl .refl))
      (spells_pretty value h.1 hu) (.close hclose)
  | (name, value) :: next :: rest, h, _, first, depth, t, u, r, hlead, hclose, hu => by
    rw [prettyMembers, List.append_assoc, List.append_assoc, List.cons_append, List.cons_append,
      List.append_assoc] at hlead
    exact .member (hlead.trans (gap_newLine depth _)) (spellsString_written name _)
      (.mk .refl (.blank rfl .refl))
      (spells_pretty value h.1 (noNumber_cons rfl (by decide) _))
      (spells_prettyMembers (next :: rest) h.2 (List.cons_ne_nil _ _) (.comma .refl .refl) hclose
        hu)

end

/-- The texts in which a value is handed on: compact, pretty, or as a command prints it. -/
inductive Rendered (value : Json) : String → Prop where
  | compact : Rendered value value.compact
  | pretty : Rendered value value.pretty
  | printed : Rendered value (value.pretty ++ "\n")

/-- A whole text spells a value, with nothing but blanks around it. -/
inductive Spelled (value : Json) (text : String) : Prop where
  | mk {t r : List Char} (hfront : Gap text.toList t) (h : Spells value t r) (hback : Gap r [])

/-- All that is handed on of a value spells it. -/
theorem Rendered.spelled {value : Json} {text : String} (h : Rendered value text)
    (hvalue : Lawful value) : Spelled value text := by
  cases h with
  | compact =>
    refine .mk .refl ?_ (.refl : Gap [] [])
    rw [Json.compact, String.toList_ofList, ← List.append_nil (compactChars value)]
    exact spells_compact value hvalue noNumber_nil
  | pretty =>
    refine .mk .refl ?_ (.refl : Gap [] [])
    rw [Json.pretty, String.toList_ofList, ← List.append_nil (prettyChars 0 value)]
    exact spells_pretty value hvalue noNumber_nil
  | printed =>
    refine .mk .refl ?_ (.blank rfl .refl : Gap ['\n'] [])
    rw [String.toList_append, Json.pretty, String.toList_ofList]
    exact spells_pretty value hvalue (noNumber_cons rfl (by decide) [])

end BucketVolume.Json
