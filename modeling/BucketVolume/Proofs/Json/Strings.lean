import BucketVolume.Json.Text

/-!
# BucketVolume.Proofs.Json.Strings — every spelling of a string is read back

In the body of a string a character stands for itself, or is written with a backslash and a letter, or
by its number, and in two units if it is too large for one. `SpellsChars` relates characters to a
text that starts with any such spelling of them, and to what follows the closing quotation mark.
Whatever follows it stays unread.

* `SpellsChars.pieces` — a body is cut into pieces that join to the characters it spells;
* `readStringBody?_spelled`, `skipStringBody?_spelled` — a string is read, or passed over;
* `spellsString_written` — what the writer writes is one of the spellings.
-/

namespace BucketVolume.Json

/-! ## Spellings -/

/-- A text starts with the body of a string and its closing quotation mark; the last argument is what
follows it. -/
inductive SpellsChars : List Char → List Char → List Char → Prop where
  | close {r : List Char} : SpellsChars [] ('\"' :: r) r
  | plain {c : Char} {cs t r : List Char} (hquote : c ≠ '\"') (hbackslash : c ≠ '\\')
    (hcontrol : ¬ c.toNat < 0x20) (h : SpellsChars cs t r) : SpellsChars (c :: cs) (c :: t) r
  | short {e c : Char} {cs t r : List Char} (he : shortEscape? e = some c)
    (h : SpellsChars cs t r) : SpellsChars (c :: cs) ('\\' :: e :: t) r
  | unit {a b c d : Char} {n : Nat} {cs t r : List Char} (hn : hexUnit? a b c d = some n)
    (halone : ¬ (0xd800 ≤ n ∧ n < 0xe000)) (h : SpellsChars cs t r) :
    SpellsChars (Char.ofNat n :: cs) ('\\' :: 'u' :: a :: b :: c :: d :: t) r
  | pair {a b c d a' b' c' d' : Char} {n m : Nat} {cs t r : List Char}
    (hn : hexUnit? a b c d = some n) (hhigh : 0xd800 ≤ n ∧ n < 0xdc00)
    (hm : hexUnit? a' b' c' d' = some m) (hlow : 0xdc00 ≤ m ∧ m < 0xe000)
    (h : SpellsChars cs t r) :
    SpellsChars (Char.ofNat (0x10000 + (n - 0xd800) * 0x400 + (m - 0xdc00)) :: cs)
      ('\\' :: 'u' :: a :: b :: c :: d :: '\\' :: 'u' :: a' :: b' :: c' :: d' :: t) r

/-- A text starts with a string between quotation marks. -/
inductive SpellsString (s : String) : List Char → List Char → Prop where
  | quoted {t r : List Char} (h : SpellsChars s.toList t r) : SpellsString s ('\"' :: t) r

theorem SpellsChars.length_lt {cs t r : List Char} (h : SpellsChars cs t r) :
    r.length < t.length := by
  induction h with
  | close => exact Nat.lt_succ_self _
  | plain _ _ _ _ ih => exact Nat.lt_succ_of_lt ih
  | short | unit | pair =>
    simp only [List.length_cons]
    omega

theorem SpellsString.length_lt {s : String} {t r : List Char} (h : SpellsString s t r) :
    r.length < t.length := by
  cases h with
  | quoted h => exact Nat.lt_succ_of_lt h.length_lt

/-! ## Cutting off one piece -/

/-- A piece in front of those that are cut off behind it. -/
def inFront (piece : Piece) : List Piece × List Char → List Piece × List Char
  | (pieces, rest) => (piece :: pieces, rest)

theorem readPieces_short {e c : Char} (h : shortEscape? e = some c) (rest : List Char) :
    readPieces ('\\' :: e :: rest) = (readPieces rest).map (inFront (.char c)) := by
  have hu : e ≠ 'u' := by
    rintro rfl
    simp [shortEscape?] at h
  rw [readPieces, h]
  · cases readPieces rest <;> rfl
  · rintro a b c d rest' rfl
    exact absurd rfl hu

theorem readPieces_numbered {a b c d : Char} {n : Nat} (h : hexUnit? a b c d = some n)
    (rest : List Char) :
    readPieces ('\\' :: 'u' :: a :: b :: c :: d :: rest) =
      (readPieces rest).map (inFront (.unit n)) := by
  rw [readPieces, h]
  cases readPieces rest <;> rfl

theorem readPieces_plain {c : Char} (hquote : c ≠ '\"') (hbackslash : c ≠ '\\')
    (hcontrol : ¬ c.toNat < 0x20) (rest : List Char) :
    readPieces (c :: rest) = (readPieces rest).map (inFront (.char c)) := by
  rw [readPieces, if_neg (by simp [hbackslash, hcontrol])]
  · cases readPieces rest <;> rfl
  · exact hquote
  · intro _ _ _ _ _ hc
    exact absurd hc hbackslash
  · intro _ _ hc
    exact absurd hc hbackslash

/-! ## Joining the pieces -/

/-- A unit that is no half of a pair is a character whatever follows it. -/
theorem joinPieces_unit {n : Nat} (halone : ¬ (0xd800 ≤ n ∧ n < 0xe000)) (rest : List Piece) :
    joinPieces (.unit n :: rest) = (joinPieces rest).map (Char.ofNat n :: ·) := by
  have hhigh : ¬ (0xd800 ≤ n ∧ n < 0xdc00) := by omega
  have hlow : ¬ (0xdc00 ≤ n ∧ n < 0xe000) := by omega
  rcases rest with _ | ⟨_ | m, rest⟩
  · conv => lhs; rw [joinPieces, if_neg halone]
    rfl
  · conv => lhs; rw [joinPieces, if_neg halone]
    cases joinPieces _ <;> rfl
  · conv => lhs; rw [joinPieces, if_neg hhigh, if_neg hlow]
    cases joinPieces _ <;> rfl

/-- The two halves of a pair are one character. -/
theorem joinPieces_pair {n m : Nat} (hhigh : 0xd800 ≤ n ∧ n < 0xdc00)
    (hlow : 0xdc00 ≤ m ∧ m < 0xe000) (rest : List Piece) :
    joinPieces (.unit n :: .unit m :: rest) = (joinPieces rest).map
      (Char.ofNat (0x10000 + (n - 0xd800) * 0x400 + (m - 0xdc00)) :: ·) := by
  conv => lhs; rw [joinPieces, if_pos hhigh, if_pos hlow]
  cases joinPieces rest <;> rfl

/-! ## Reading -/

/-- A body is cut into pieces that join to the characters it spells. -/
theorem SpellsChars.pieces {cs t r : List Char} (h : SpellsChars cs t r) :
    ∃ pieces, readPieces t = some (pieces, r) ∧ joinPieces pieces = some cs := by
  induction h with
  | close => exact ⟨[], rfl, rfl⟩
  | @plain c _ _ _ hquote hbackslash hcontrol _ ih =>
    rcases ih with ⟨pieces, hread, hjoin⟩
    refine ⟨.char c :: pieces, ?_, ?_⟩
    · rw [readPieces_plain hquote hbackslash hcontrol, hread]
      rfl
    · rw [joinPieces, hjoin]
      rfl
  | @short _ c _ _ _ he _ ih =>
    rcases ih with ⟨pieces, hread, hjoin⟩
    refine ⟨.char c :: pieces, ?_, ?_⟩
    · rw [readPieces_short he, hread]
      rfl
    · rw [joinPieces, hjoin]
      rfl
  | @unit _ _ _ _ n _ _ _ hn halone _ ih =>
    rcases ih with ⟨pieces, hread, hjoin⟩
    refine ⟨.unit n :: pieces, ?_, ?_⟩
    · rw [readPieces_numbered hn, hread]
      rfl
    · rw [joinPieces_unit halone, hjoin]
      rfl
  | @pair _ _ _ _ _ _ _ _ n m _ _ _ hn hhigh hm hlow _ ih =>
    rcases ih with ⟨pieces, hread, hjoin⟩
    refine ⟨.unit n :: .unit m :: pieces, ?_, ?_⟩
    · rw [readPieces_numbered hn, readPieces_numbered hm, hread]
      rfl
    · rw [joinPieces_pair hhigh hlow, hjoin]
      rfl

/-- A string is read back from any of its spellings, and what follows it is left. -/
theorem readStringBody?_spelled {s : String} {t r : List Char} (h : SpellsChars s.toList t r) :
    readStringBody? t = some (s, r) := by
  rcases h.pieces with ⟨pieces, hread, hjoin⟩
  rw [readStringBody?, hread]
  simp [hjoin, String.ofList_toList]

/-- A string is passed over. -/
theorem skipStringBody?_spelled {s : String} {t r : List Char} (h : SpellsChars s.toList t r) :
    skipStringBody? t = some r := by
  rcases h.pieces with ⟨pieces, hread, -⟩
  rw [skipStringBody?, hread]
  rfl

/-! ## Writing -/

/-- The numbers of controls are written in two digits. -/
theorem hexUnit?_control : ∀ n < 0x20,
    hexUnit? '0' '0' (Nat.digitChar (n / 16)) (Nat.digitChar (n % 16)) = some n := by
  decide

/-- What the writer writes for a character spells it. -/
theorem SpellsChars.escaped (c : Char) {cs t r : List Char} (h : SpellsChars cs t r) :
    SpellsChars (c :: cs) (escapedChar c ++ t) r := by
  unfold escapedChar
  split
  case h_8 hquote hbackslash _ _ _ _ _ =>
    -- only here does the writer look at the number of the character
    split
    next hcontrol =>
      have hunit := SpellsChars.unit (hexUnit?_control c.toNat hcontrol) (by omega) h
      rwa [Char.ofNat_toNat] at hunit
    next hcontrol => exact .plain hquote hbackslash hcontrol h
  all_goals exact .short rfl h

/-- A written string is one of its spellings. -/
theorem spellsString_written (s : String) (r : List Char) :
    SpellsString s (stringChars s ++ r) r := by
  have hbody : ∀ cs, SpellsChars cs (cs.flatMap escapedChar ++ '\"' :: r) r := by
    intro cs
    induction cs with
    | nil => exact .close
    | cons c cs ih =>
      rw [List.flatMap_cons, List.append_assoc]
      exact ih.escaped c
  rw [stringChars, List.cons_append, List.append_assoc]
  exact .quoted (hbody s.toList)

end BucketVolume.Json
