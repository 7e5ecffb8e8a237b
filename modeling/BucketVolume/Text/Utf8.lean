/-!
# BucketVolume.Text.Utf8 — bytes as text, whatever the bytes

Decoding that never fails: a well-formed character is read as itself, and each longest start of a
character that its next byte breaks off is read as one replacement character, after which reading
goes on at the byte that broke it. No byte is read twice and none is skipped.
-/

namespace BucketVolume.Text

/-- What stands for bytes that are no character. -/
def replacement : Char := '\ufffd'

/-- What a first byte promises: its own bits, how many bytes follow, and the range of the next one.
The narrow ranges keep out overlong forms, surrogates and numbers beyond the last code point. -/
structure Lead where
  bits : Nat
  more : Nat
  low : UInt8
  high : UInt8

/-- The promise of a first byte of a longer character, `none` for a byte that starts none. -/
def Lead.ofByte? (b : UInt8) : Option Lead :=
  if 0xc2 ≤ b ∧ b ≤ 0xdf then some ⟨b.toNat - 0xc0, 1, 0x80, 0xbf⟩
  else if b = 0xe0 then some ⟨0, 2, 0xa0, 0xbf⟩
  else if b = 0xed then some ⟨0xd, 2, 0x80, 0x9f⟩
  else if 0xe1 ≤ b ∧ b ≤ 0xef then some ⟨b.toNat - 0xe0, 2, 0x80, 0xbf⟩
  else if b = 0xf0 then some ⟨0, 3, 0x90, 0xbf⟩
  else if 0xf1 ≤ b ∧ b ≤ 0xf3 then some ⟨b.toNat - 0xf0, 3, 0x80, 0xbf⟩
  else if b = 0xf4 then some ⟨4, 3, 0x80, 0x8f⟩
  else none

/-- Reads the bytes that a first byte promised. The first byte out of its range is left unread. -/
def readMore (bits : Nat) : (more : Nat) → (low high : UInt8) → List UInt8 → Char × List UInt8
  | 0, _, _, rest => (Char.ofNat bits, rest)
  | _ + 1, _, _, [] => (replacement, [])
  | more + 1, low, high, b :: rest =>
    if low ≤ b ∧ b ≤ high then readMore (bits * 64 + (b.toNat - 0x80)) more 0x80 0xbf rest
    else (replacement, b :: rest)

/-- Reads one character, or one broken start of a character, given its first byte. -/
def readChar (b : UInt8) (rest : List UInt8) : Char × List UInt8 :=
  if b < 0x80 then (Char.ofNat b.toNat, rest)
  else match Lead.ofByte? b with
    | none => (replacement, rest)
    | some lead => readMore lead.bits lead.more lead.low lead.high rest

theorem length_readMore_le (bits more : Nat) (low high : UInt8) (bytes : List UInt8) :
    (readMore bits more low high bytes).2.length ≤ bytes.length := by
  induction more generalizing bits low high bytes with
  | zero => simp [readMore]
  | succ more ih =>
    cases bytes with
    | nil => simp [readMore]
    | cons b rest =>
      simp only [readMore]
      split
      · exact Nat.le_trans (ih ..) (Nat.le_succ _)
      · exact Nat.le_refl _

theorem length_readChar_le (b : UInt8) (rest : List UInt8) :
    (readChar b rest).2.length ≤ rest.length := by
  unfold readChar
  split
  · exact Nat.le_refl _
  · split
    · exact Nat.le_refl _
    · exact length_readMore_le ..

/-- The text that bytes stand for, with a replacement character for each broken start. -/
def decodeLossy : List UInt8 → List Char
  | [] => []
  | b :: rest => (readChar b rest).1 :: decodeLossy (readChar b rest).2
termination_by bytes => bytes.length
decreasing_by
  have := length_readChar_le b rest
  simp only [List.length_cons]
  omega

/-- The bytes of a text. -/
def encode (cs : List Char) : List UInt8 :=
  cs.flatMap String.utf8EncodeChar

/-- The bytes of a text, as texts are stored. -/
def bytesOf (s : String) : List UInt8 :=
  encode s.toList

/-- The text of some bytes, as secrets are read. -/
def textOf (bytes : List UInt8) : String :=
  String.ofList (decodeLossy bytes)

end BucketVolume.Text
