import BucketVolume.Text.Numeral
import BucketVolume.Text.Quoted

/-!
# BucketVolume.Proofs.Quoted — what a quoted text quotes can be told from it

Two quoted texts with anything behind them are written alike only if they quote the same text. No
code of a character begins another one: one of several characters starts with a backslash, the
character behind it says of which kind it is, and a number goes on up to its brace. And no code starts
with a quotation mark, so the first one that stands where a code could start is the closing one.

* `numeralFrom?_toDigits` — a number is read back from its digits;
* `CodeOf.append_inj` — a code tells its character and where it ends;
* `flatMap_quotedChar_inj`, `quoted_append_inj` — so does a text between quotation marks.
-/

namespace BucketVolume.Text

/-! ## Numbers -/

theorem digitIn?_digitChar {d : Nat} (h : d < 16) : digitIn? 16 (Nat.digitChar d) = some d := by
  revert d
  decide

theorem numeralFrom?_append (base value : Nat) (cs ds : List Char) :
    numeralFrom? base value (cs ++ ds) =
      (numeralFrom? base value cs).bind fun v => numeralFrom? base v ds := by
  induction cs generalizing value with
  | nil => rfl
  | cons c cs ih =>
    simp only [List.cons_append, numeralFrom?]
    cases digitIn? base c with
    | none => rfl
    | some d => exact ih (value * base + d)

/-- A number is read back from its digits. -/
theorem numeralFrom?_toDigits (n : Nat) : numeralFrom? 16 0 (Nat.toDigits 16 n) = some n := by
  induction n using Nat.strongRecOn with
  | ind n ih =>
    by_cases hn : n < 16
    · rw [Nat.toDigits_of_lt_base hn]
      simp [numeralFrom?, digitIn?_digitChar hn]
    · -- the last digit comes after those of the quotient
      have hquotient : n / 16 < n := by omega
      have hlast : n % 16 < 16 := Nat.mod_lt n (by decide)
      rw [Nat.toDigits_of_base_le (by decide) (Nat.le_of_not_lt hn), numeralFrom?_append,
        ih _ hquotient]
      simp [numeralFrom?, digitIn?_digitChar hlast, Nat.div_add_mod']

/-- What is read as a number holds digits alone. -/
theorem notMem_of_numeralFrom? {base value n : Nat} {c : Char} {cs : List Char}
    (hread : numeralFrom? base value cs = some n) (hc : digitIn? base c = none) : c ∉ cs := by
  induction cs generalizing value with
  | nil => exact List.not_mem_nil
  | cons first rest ih =>
    obtain ⟨d, hfirst, hrest⟩ := Option.bind_eq_some_iff.mp hread
    rw [List.mem_cons, not_or]
    refine ⟨?_, ih hrest⟩
    rintro rfl
    rw [hc] at hfirst
    cases hfirst

/-- A run of other characters ends where a character is first met. -/
theorem append_cons_inj_of_notMem {c : Char} {a b r s : List Char} (ha : c ∉ a) (hb : c ∉ b)
    (h : a ++ c :: r = b ++ c :: s) : a = b ∧ r = s := by
  induction a generalizing b with
  | nil =>
    cases b with
    | nil => exact ⟨rfl, List.tail_eq_of_cons_eq h⟩
    | cons d b => exact absurd (List.head_eq_of_cons_eq h ▸ List.mem_cons_self) hb
  | cons e a ih =>
    cases b with
    | nil => exact absurd (List.head_eq_of_cons_eq h ▸ List.mem_cons_self) ha
    | cons d b =>
      obtain ⟨rfl, htail⟩ := List.cons.inj h
      obtain ⟨rfl, hrest⟩ := ih (fun hmem => ha (List.mem_cons_of_mem e hmem))
        (fun hmem => hb (List.mem_cons_of_mem e hmem)) htail
      exact ⟨rfl, hrest⟩

/-- Digits up to a brace tell their number. -/
theorem toDigits_append_inj {m n : Nat} {r s : List Char}
    (h : Nat.toDigits 16 m ++ '\x7d' :: r = Nat.toDigits 16 n ++ '\x7d' :: s) : m = n ∧ r = s := by
  have hbrace : digitIn? 16 '\x7d' = none := by decide
  have hm := numeralFrom?_toDigits m
  have hn := numeralFrom?_toDigits n
  obtain ⟨hdigits, hrest⟩ := append_cons_inj_of_notMem (notMem_of_numeralFrom? hm hbrace)
    (notMem_of_numeralFrom? hn hbrace) h
  rw [hdigits, hn] at hm
  exact ⟨(Option.some.inj hm).symm, hrest⟩

/-! ## Codes of characters -/

/-- The characters that have a name of one letter behind a backslash. -/
def shortNames : List (Char × Char) :=
  [('\x00', '0'), ('\t', 't'), ('\n', 'n'), ('\r', 'r'), ('\"', '\"'), ('\\', '\\')]

/-- The kinds of codes that a character can have. -/
inductive CodeOf (c : Char) : List Char → Prop where
  | itself (hbackslash : c ≠ '\\') (hquote : c ≠ '\"') : CodeOf c [c]
  | named {name : Char} (h : (c, name) ∈ shortNames) : CodeOf c ['\\', name]
  | numbered : CodeOf c ('\\' :: 'u' :: '\x7b' :: (Nat.toDigits 16 c.toNat ++ ['\x7d']))

theorem codeOf_quotedChar (c : Char) : CodeOf c (quotedChar c) := by
  unfold quotedChar
  split
  case h_7 hquote hbackslash =>
    split
    · exact .itself hbackslash hquote
    · exact .numbered
  all_goals exact .named (by decide)

theorem char_eq_of_shortNames {c d name : Char} (hc : (c, name) ∈ shortNames)
    (hd : (d, name) ∈ shortNames) : c = d := by
  have hall : ∀ p ∈ shortNames, ∀ q ∈ shortNames, p.2 = q.2 → p.1 = q.1 := by decide
  exact hall _ hc _ hd rfl

theorem name_ne_of_shortNames {c name : Char} (h : (c, name) ∈ shortNames) : name ≠ 'u' := by
  have hall : ∀ p ∈ shortNames, p.2 ≠ 'u' := by decide
  exact hall _ h

/-- A code tells its character and where it ends. -/
theorem CodeOf.append_inj {c d : Char} {a b r s : List Char} (hc : CodeOf c a) (hd : CodeOf d b)
    (h : a ++ r = b ++ s) : c = d ∧ r = s := by
  cases hc with
  | itself hbackslash =>
    cases hd with
    | itself => exact List.cons.inj h
    | named | numbered => exact absurd (List.head_eq_of_cons_eq h) hbackslash
  | @named name hname =>
    cases hd with
    | itself hbackslash => exact absurd (List.head_eq_of_cons_eq h).symm hbackslash
    | @named name' hname' =>
      have htail : name :: r = name' :: s := List.tail_eq_of_cons_eq h
      obtain ⟨rfl, hrest⟩ := List.cons.inj htail
      exact ⟨char_eq_of_shortNames hname hname', hrest⟩
    | numbered =>
      have htail := List.tail_eq_of_cons_eq h
      exact absurd (List.head_eq_of_cons_eq htail) (name_ne_of_shortNames hname)
  | numbered =>
    cases hd with
    | itself hbackslash => exact absurd (List.head_eq_of_cons_eq h).symm hbackslash
    | named hname =>
      have htail := List.tail_eq_of_cons_eq h
      exact absurd (List.head_eq_of_cons_eq htail).symm (name_ne_of_shortNames hname)
    | numbered =>
      simp only [List.cons_append, List.append_assoc, List.nil_append, List.cons.injEq,
        true_and] at h
      obtain ⟨hnumber, hrest⟩ := toDigits_append_inj h
      exact ⟨Char.toNat_inj.mp hnumber, hrest⟩

/-- No code starts with a quotation mark. -/
theorem CodeOf.append_ne_quote_cons {c : Char} {a r s : List Char} (hc : CodeOf c a) :
    a ++ r ≠ '\"' :: s := by
  intro h
  cases hc with
  | itself _ hquote => exact hquote (List.head_eq_of_cons_eq h)
  | named | numbered => exact absurd (List.head_eq_of_cons_eq h) (by decide)

/-! ## Quoted texts -/

/-- The codes of a text up to a closing quotation mark tell the text. -/
theorem flatMap_quotedChar_inj {cs ds r s : List Char}
    (h : cs.flatMap quotedChar ++ '\"' :: r = ds.flatMap quotedChar ++ '\"' :: s) :
    cs = ds ∧ r = s := by
  induction cs generalizing ds with
  | nil =>
    cases ds with
    | nil => exact ⟨rfl, List.tail_eq_of_cons_eq h⟩
    | cons d ds =>
      rw [List.flatMap_cons, List.append_assoc] at h
      exact absurd h.symm (codeOf_quotedChar d).append_ne_quote_cons
  | cons c cs ih =>
    rw [List.flatMap_cons, List.append_assoc] at h
    cases ds with
    | nil => exact absurd h (codeOf_quotedChar c).append_ne_quote_cons
    | cons d ds =>
      rw [List.flatMap_cons, List.append_assoc] at h
      obtain ⟨rfl, htail⟩ := (codeOf_quotedChar c).append_inj (codeOf_quotedChar d) h
      obtain ⟨rfl, hrest⟩ := ih htail
      exact ⟨rfl, hrest⟩

/-- A quoted text tells what it quotes and where it ends. -/
theorem quoted_append_inj {a b r s : String} :
    quoted a ++ r = quoted b ++ s ↔ a = b ∧ r = s := by
  constructor
  · intro h
    have hchars := congrArg String.toList h
    simp only [quoted, quotedChars, String.toList_append, String.toList_ofList, List.cons_append,
      List.append_assoc, List.nil_append, List.cons.injEq, true_and] at hchars
    obtain ⟨htexts, hrest⟩ := flatMap_quotedChar_inj hchars
    exact ⟨String.toList_inj.mp htexts, String.toList_inj.mp hrest⟩
  · rintro ⟨rfl, rfl⟩
    rfl

/-- A text that spells out the code of a character is not taken for the character. -/
example : quoted "\\n" ≠ quoted "\n" := by decide

end BucketVolume.Text
