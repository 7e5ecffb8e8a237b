import Mathlib.Data.List.Basic
import Mathlib.Tactic.IntervalCases
import BucketVolume.Text.Utf8

/-!
# BucketVolume.Proofs.Utf8 — texts come back from their bytes

The bytes of a longer character are a first byte and as many more as it promises, each of them within
the bounds set for it; and any such bytes are those of a character, whose number they add up to. There
are three kinds of promises (`Lead.cases_ofByte?`), and what it takes to keep one is told in numbers
(`keptBy_two` and its like), so that nothing after it has to look into a byte:

* `utf8EncodeChar_of_keptBy`, `exists_keptBy` — kept promises are the longer characters;
* `readChar_utf8EncodeChar` — a character is read from its bytes, whatever bytes come after them;
* `decodeLossy_encode_append` — so is a text, which is its characters one after the other;
* `textOf_bytesOf` — nothing is lost between storing a text and reading it.
-/

namespace BucketVolume.Text

theorem toNat_ofNat_byte {n : Nat} (hn : n < 256) : (UInt8.ofNat n).toNat = n :=
  UInt8.toNat_ofNat_of_lt' hn

/-! ## Promises -/

namespace Lead

/-- The promise of one more byte. -/
def two (bits : Nat) : Lead :=
  ⟨bits, 1, 0x80, 0xbf⟩

/-- The promise of two more bytes. With no bits of its own the first byte keeps out characters that have
a shorter form, and one of them keeps out surrogates. -/
def three (bits : Nat) : Lead :=
  ⟨bits, 2, if bits = 0 then 0xa0 else 0x80, if bits = 13 then 0x9f else 0xbf⟩

/-- The promise of three more bytes. With no bits of its own the first byte keeps out characters that
have a shorter form, and the last of them keeps out numbers beyond the last character. -/
def four (bits : Nat) : Lead :=
  ⟨bits, 3, if bits = 0 then 0x90 else 0x80, if bits = 4 then 0x8f else 0xbf⟩

/-- A first byte asks for bytes that there are, and that continue characters. -/
theorem bounds_of_ofByte? {b : UInt8} {lead : Lead} (h : ofByte? b = some lead) :
    0x80 ≤ lead.low ∧ lead.low ≤ lead.high ∧ lead.high ≤ 0xbf := by
  unfold ofByte? at h
  repeat' split at h
  -- the last branch promises nothing, and all others write their bounds out
  all_goals
    simp only [Option.some.injEq, reduceCtorEq] at h
  all_goals
    subst h
    dsimp only
    decide

theorem ofByte?_two {k : Nat} (hlow : 2 ≤ k) (hhigh : k < 32) :
    ofByte? (UInt8.ofNat (k + 192)) = some (two k) := by
  interval_cases k <;> rfl

theorem ofByte?_three {k : Nat} (hhigh : k < 16) :
    ofByte? (UInt8.ofNat (k + 224)) = some (three k) := by
  interval_cases k <;> rfl

theorem ofByte?_four {k : Nat} (hhigh : k ≤ 4) :
    ofByte? (UInt8.ofNat (k + 240)) = some (four k) := by
  interval_cases k <;> rfl

theorem range_of_ofByte? {b : UInt8} {lead : Lead} (h : ofByte? b = some lead) :
    194 ≤ b.toNat ∧ b.toNat ≤ 244 := by
  by_contra houtside
  unfold ofByte? at h
  simp only [UInt8.le_iff_toNat_le, ← UInt8.toNat_inj, UInt8.reduceToNat] at h
  rw [if_neg (by omega), if_neg (by omega), if_neg (by omega), if_neg (by omega),
    if_neg (by omega), if_neg (by omega), if_neg (by omega)] at h
  cases h

/-- A first byte of a longer character is no character by itself. -/
theorem not_lt_of_ofByte? {b : UInt8} {lead : Lead} (h : ofByte? b = some lead) : ¬b < 0x80 := by
  have hrange := range_of_ofByte? h
  rw [UInt8.lt_iff_toNat_lt]
  simp only [UInt8.reduceToNat]
  omega

/-- The first bytes of longer characters, and what they promise. -/
theorem cases_ofByte? {b : UInt8} {lead : Lead} (h : ofByte? b = some lead) :
    (∃ k, 2 ≤ k ∧ k < 32 ∧ b = UInt8.ofNat (k + 192) ∧ lead = two k) ∨
      (∃ k, k < 16 ∧ b = UInt8.ofNat (k + 224) ∧ lead = three k) ∨
      ∃ k, k ≤ 4 ∧ b = UInt8.ofNat (k + 240) ∧ lead = four k := by
  obtain ⟨hlow, hhigh⟩ := range_of_ofByte? h
  have hb : ∀ n, n ≤ b.toNat → b = UInt8.ofNat (b.toNat - n + n) := by
    intro n hn
    rw [Nat.sub_add_cancel hn, UInt8.ofNat_toNat]
  by_cases htwo : b.toNat < 224
  · rw [hb 192 (by omega), ofByte?_two (by omega) (by omega)] at h
    exact .inl ⟨_, by omega, by omega, hb 192 (by omega), (Option.some.inj h).symm⟩
  by_cases hthree : b.toNat < 240
  · rw [hb 224 (by omega), ofByte?_three (by omega)] at h
    exact .inr (.inl ⟨_, by omega, hb 224 (by omega), (Option.some.inj h).symm⟩)
  · rw [hb 240 (by omega), ofByte?_four (by omega)] at h
    exact .inr (.inr ⟨_, by omega, hb 240 (by omega), (Option.some.inj h).symm⟩)

end Lead

/-! ## Promises that are kept -/

/-- Bytes within the bounds set for them: those of the first are given, and a byte behind it may be
any that continues a character. -/
def InBounds : (low high : UInt8) → List UInt8 → Prop
  | _, _, [] => True
  | low, high, b :: rest => (low ≤ b ∧ b ≤ high) ∧ InBounds 0x80 0xbf rest

/-- The bytes that a first byte promises: as many, and within bounds. -/
structure Lead.KeptBy (lead : Lead) (more : List UInt8) : Prop where
  length : more.length = lead.more
  inBounds : InBounds lead.low lead.high more

/-- A byte that continues a character has six bits of its own. -/
theorem inBounds_cons_iff {low high : UInt8} (hlow : 0x80 ≤ low) (hhigh : high ≤ 0xbf) (b : UInt8)
    (rest : List UInt8) :
    InBounds low high (b :: rest) ↔
      (∃ m, m < 64 ∧ b = UInt8.ofNat (m + 128) ∧ low.toNat ≤ m + 128 ∧ m + 128 ≤ high.toNat) ∧
        InBounds 0x80 0xbf rest := by
  simp only [UInt8.le_iff_toNat_le, UInt8.reduceToNat] at hlow hhigh
  rw [InBounds, UInt8.le_iff_toNat_le, UInt8.le_iff_toNat_le]
  refine and_congr_left fun _ => ?_
  constructor
  · rintro ⟨hlow', hhigh'⟩
    have hb : b.toNat - 128 + 128 = b.toNat := by omega
    exact ⟨b.toNat - 128, by omega, by rw [hb, UInt8.ofNat_toNat], by omega, by omega⟩
  · rintro ⟨m, hm, rfl, hlow', hhigh'⟩
    rw [toNat_ofNat_byte (by omega)]
    exact ⟨hlow', hhigh'⟩

theorem inBounds_tail_cons_iff (b : UInt8) (rest : List UInt8) :
    InBounds 0x80 0xbf (b :: rest) ↔
      (∃ m, m < 64 ∧ b = UInt8.ofNat (m + 128)) ∧ InBounds 0x80 0xbf rest := by
  rw [inBounds_cons_iff (by decide) (by decide)]
  refine and_congr_left fun _ => exists_congr fun m => ?_
  simp only [UInt8.reduceToNat]
  constructor
  · rintro ⟨hm, hb, -, -⟩
    exact ⟨hm, hb⟩
  · rintro ⟨hm, hb⟩
    exact ⟨hm, hb, by omega, by omega⟩

theorem Lead.keptBy_two {k : Nat} {more : List UInt8} :
    (two k).KeptBy more ↔ ∃ m, m < 64 ∧ more = [UInt8.ofNat (m + 128)] := by
  constructor
  · rintro ⟨hlength, hbounds⟩
    obtain ⟨b, rfl⟩ := List.length_eq_one_iff.mp hlength
    obtain ⟨⟨m, hm, rfl⟩, -⟩ := (inBounds_tail_cons_iff _ _).mp hbounds
    exact ⟨m, hm, rfl⟩
  · rintro ⟨m, hm, rfl⟩
    exact ⟨rfl, (inBounds_tail_cons_iff _ _).mpr ⟨⟨m, hm, rfl⟩, trivial⟩⟩

theorem Lead.keptBy_three {k : Nat} (hk : k < 16) {more : List UInt8} :
    (three k).KeptBy more ↔ ∃ m n, m < 64 ∧ n < 64 ∧ (k = 0 → 32 ≤ m) ∧ (k = 13 → m < 32) ∧
      more = [UInt8.ofNat (m + 128), UInt8.ofNat (n + 128)] := by
  obtain ⟨hlow, -, hhigh⟩ := bounds_of_ofByte? (ofByte?_three hk)
  have hbounds : ∀ m, m < 64 → ((three k).low.toNat ≤ m + 128 ∧ m + 128 ≤ (three k).high.toNat ↔
      (k = 0 → 32 ≤ m) ∧ (k = 13 → m < 32)) := by
    intro m hm
    unfold three
    split <;> split <;> simp only [UInt8.reduceToNat] <;> omega
  constructor
  · rintro ⟨hlength, hin⟩
    obtain ⟨a, b, rfl⟩ := List.length_eq_two.mp hlength
    obtain ⟨⟨m, hm, rfl, hfirst⟩, htail⟩ := (inBounds_cons_iff hlow hhigh _ _).mp hin
    obtain ⟨⟨n, hn, rfl⟩, -⟩ := (inBounds_tail_cons_iff _ _).mp htail
    obtain ⟨hzero, hsurrogate⟩ := (hbounds m hm).mp hfirst
    exact ⟨m, n, hm, hn, hzero, hsurrogate, rfl⟩
  · rintro ⟨m, n, hm, hn, hzero, hsurrogate, rfl⟩
    have htail := (inBounds_tail_cons_iff _ []).mpr ⟨⟨n, hn, rfl⟩, trivial⟩
    exact ⟨rfl, (inBounds_cons_iff hlow hhigh _ _).mpr
      ⟨⟨m, hm, rfl, (hbounds m hm).mpr ⟨hzero, hsurrogate⟩⟩, htail⟩⟩

theorem Lead.keptBy_four {k : Nat} (hk : k ≤ 4) {more : List UInt8} :
    (four k).KeptBy more ↔ ∃ m n p, m < 64 ∧ n < 64 ∧ p < 64 ∧ (k = 0 → 16 ≤ m) ∧
      (k = 4 → m < 16) ∧
      more = [UInt8.ofNat (m + 128), UInt8.ofNat (n + 128), UInt8.ofNat (p + 128)] := by
  obtain ⟨hlow, -, hhigh⟩ := bounds_of_ofByte? (ofByte?_four hk)
  have hbounds : ∀ m, m < 64 → ((four k).low.toNat ≤ m + 128 ∧ m + 128 ≤ (four k).high.toNat ↔
      (k = 0 → 16 ≤ m) ∧ (k = 4 → m < 16)) := by
    intro m hm
    unfold four
    split <;> split <;> simp only [UInt8.reduceToNat] <;> omega
  constructor
  · rintro ⟨hlength, hin⟩
    obtain ⟨a, b, c, rfl⟩ := List.length_eq_three.mp hlength
    obtain ⟨⟨m, hm, rfl, hfirst⟩, htail⟩ := (inBounds_cons_iff hlow hhigh _ _).mp hin
    obtain ⟨⟨n, hn, rfl⟩, hlast⟩ := (inBounds_tail_cons_iff _ _).mp htail
    obtain ⟨⟨p, hp, rfl⟩, -⟩ := (inBounds_tail_cons_iff _ _).mp hlast
    obtain ⟨hzero, hend⟩ := (hbounds m hm).mp hfirst
    exact ⟨m, n, p, hm, hn, hp, hzero, hend, rfl⟩
  · rintro ⟨m, n, p, hm, hn, hp, hzero, hend, rfl⟩
    have hlast := (inBounds_tail_cons_iff _ []).mpr ⟨⟨p, hp, rfl⟩, trivial⟩
    have htail := (inBounds_tail_cons_iff _ _).mpr ⟨⟨n, hn, rfl⟩, hlast⟩
    exact ⟨rfl, (inBounds_cons_iff hlow hhigh _ _).mpr
      ⟨⟨m, hm, rfl, (hbounds m hm).mpr ⟨hzero, hend⟩⟩, htail⟩⟩

/-! ## Characters -/

/-- The number that bytes make behind bits that are known, at six bits each. -/
def addBits (bits : Nat) (more : List UInt8) : Nat :=
  more.foldl (fun n b => n * 64 + (b.toNat - 0x80)) bits

theorem addBits_cons (bits : Nat) {m : Nat} (hm : m < 64) (rest : List UInt8) :
    addBits bits (UInt8.ofNat (m + 128) :: rest) = addBits (bits * 64 + m) rest := by
  rw [addBits, List.foldl_cons, toNat_ofNat_byte (by omega), Nat.add_sub_cancel]
  rfl

theorem addBits_nil (bits : Nat) : addBits bits [] = bits := rfl

theorem val_ofNat {n : Nat} (h : n.isValidChar) : (Char.ofNat n).val.toNat = n := by
  rw [Char.ofNat, dif_pos h]
  rfl

/-- Bytes that keep a promise are, with the first byte, those of the character whose number they make. -/
theorem utf8EncodeChar_of_keptBy {b : UInt8} {lead : Lead} {more : List UInt8}
    (hlead : Lead.ofByte? b = some lead) (hkept : lead.KeptBy more) :
    String.utf8EncodeChar (Char.ofNat (addBits lead.bits more)) = b :: more := by
  rcases Lead.cases_ofByte? hlead with ⟨k, hlow, hhigh, rfl, rfl⟩ | ⟨k, hk, rfl, rfl⟩ |
    ⟨k, hk, rfl, rfl⟩
  · obtain ⟨m, hm, rfl⟩ := Lead.keptBy_two.mp hkept
    rw [addBits_cons _ hm, addBits_nil, Lead.two]
    have hvalid : (k * 64 + m).isValidChar := .inl (by omega)
    have hfirst : (k * 64 + m) / 64 % 32 = k := by omega
    have hlast : (k * 64 + m) % 64 = m := by omega
    rw [String.utf8EncodeChar, val_ofNat hvalid, if_neg (by omega), if_pos (by omega), hfirst,
      hlast]
  · obtain ⟨m, n, hm, hn, hzero, hsurrogate, rfl⟩ := (Lead.keptBy_three hk).mp hkept
    rw [addBits_cons _ hm, addBits_cons _ hn, addBits_nil, Lead.three]
    have hvalid : ((k * 64 + m) * 64 + n).isValidChar := by
      by_cases hlarge : k ≤ 13
      · exact .inl (by omega)
      · exact .inr ⟨by omega, by omega⟩
    have hfirst : ((k * 64 + m) * 64 + n) / 4096 % 16 = k := by omega
    have hsecond : ((k * 64 + m) * 64 + n) / 64 % 64 = m := by omega
    have hlast : ((k * 64 + m) * 64 + n) % 64 = n := by omega
    rw [String.utf8EncodeChar, val_ofNat hvalid, if_neg (by omega), if_neg (by omega),
      if_pos (by omega), hfirst, hsecond, hlast]
  · obtain ⟨m, n, p, hm, hn, hp, hzero, hend, rfl⟩ := (Lead.keptBy_four hk).mp hkept
    rw [addBits_cons _ hm, addBits_cons _ hn, addBits_cons _ hp, addBits_nil, Lead.four]
    have hvalid : (((k * 64 + m) * 64 + n) * 64 + p).isValidChar := .inr ⟨by omega, by omega⟩
    have hfirst : (((k * 64 + m) * 64 + n) * 64 + p) / 262144 % 8 = k := by omega
    have hsecond : (((k * 64 + m) * 64 + n) * 64 + p) / 4096 % 64 = m := by omega
    have hthird : (((k * 64 + m) * 64 + n) * 64 + p) / 64 % 64 = n := by omega
    have hlast : (((k * 64 + m) * 64 + n) * 64 + p) % 64 = p := by omega
    rw [String.utf8EncodeChar, val_ofNat hvalid, if_neg (by omega), if_neg (by omega),
      if_neg (by omega), hfirst, hsecond, hthird, hlast]

/-- A character of more than one byte is made of a promise and bytes that keep it. -/
theorem exists_keptBy {c : Char} (hc : 128 ≤ c.toNat) :
    ∃ b lead more, Lead.ofByte? b = some lead ∧ lead.KeptBy more ∧
      addBits lead.bits more = c.toNat := by
  -- no number of a surrogate, and none beyond the last character
  have hvalid : c.toNat < 0xd800 ∨ 0xdfff < c.toNat ∧ c.toNat < 0x110000 := c.valid
  generalize c.toNat = v at hvalid hc ⊢
  by_cases htwo : v < 2048
  · have hm : v % 64 < 64 := by omega
    refine ⟨_, _, _, Lead.ofByte?_two (k := v / 64) (by omega) (by omega),
      Lead.keptBy_two.mpr ⟨v % 64, hm, rfl⟩, ?_⟩
    rw [addBits_cons _ hm, addBits_nil]
    exact Nat.div_add_mod' v 64
  by_cases hthree : v < 65536
  · have hm : v / 64 % 64 < 64 := by omega
    have hn : v % 64 < 64 := by omega
    have hk : v / 4096 < 16 := by omega
    refine ⟨_, _, _, Lead.ofByte?_three hk,
      (Lead.keptBy_three hk).mpr ⟨v / 64 % 64, v % 64, hm, hn, by omega, by omega, rfl⟩, ?_⟩
    rw [addBits_cons _ hm, addBits_cons _ hn, addBits_nil]
    dsimp only [Lead.three]
    omega
  · have hm : v / 4096 % 64 < 64 := by omega
    have hn : v / 64 % 64 < 64 := by omega
    have hp : v % 64 < 64 := by omega
    have hk : v / 262144 ≤ 4 := by omega
    refine ⟨_, _, _, Lead.ofByte?_four hk,
      (Lead.keptBy_four hk).mpr ⟨v / 4096 % 64, v / 64 % 64, v % 64, hm, hn, hp, by omega, by omega,
        rfl⟩, ?_⟩
    rw [addBits_cons _ hm, addBits_cons _ hn, addBits_cons _ hp, addBits_nil]
    dsimp only [Lead.four]
    omega

/-- The bytes of a character: one small byte, or a promise and bytes that keep it. -/
theorem utf8EncodeChar_cases (c : Char) :
    (∃ b, b < 0x80 ∧ Char.ofNat b.toNat = c ∧ String.utf8EncodeChar c = [b]) ∨
      ∃ b lead more, Lead.ofByte? b = some lead ∧ lead.KeptBy more ∧
        Char.ofNat (addBits lead.bits more) = c ∧ String.utf8EncodeChar c = b :: more := by
  by_cases hc : 128 ≤ c.toNat
  · obtain ⟨b, lead, more, hlead, hkept, hnumber⟩ := exists_keptBy hc
    have hchar : Char.ofNat (addBits lead.bits more) = c := by rw [hnumber, Char.ofNat_toNat]
    have hbytes := utf8EncodeChar_of_keptBy hlead hkept
    rw [hchar] at hbytes
    exact .inr ⟨b, lead, more, hlead, hkept, hchar, hbytes⟩
  · have hbyte : (UInt8.ofNat c.toNat).toNat = c.toNat := toNat_ofNat_byte (by omega)
    have hshort : UInt8.ofNat c.toNat < 0x80 := by
      rw [UInt8.lt_iff_toNat_lt, hbyte]
      exact Nat.lt_of_not_le hc
    refine .inl ⟨UInt8.ofNat c.toNat, hshort, by rw [hbyte, Char.ofNat_toNat], ?_⟩
    have hnumber : c.val.toNat = c.toNat := rfl
    rw [String.utf8EncodeChar, hnumber, if_pos (by omega)]

/-! ## Reading -/

/-- Bytes within their bounds are read, all of them, and no more. -/
theorem readMore_of_inBounds {low high : UInt8} {more : List UInt8} (h : InBounds low high more)
    (bits : Nat) (rest : List UInt8) :
    readMore bits more.length low high (more ++ rest) = (Char.ofNat (addBits bits more), rest) := by
  induction more generalizing bits low high with
  | nil => rfl
  | cons b more ih =>
    obtain ⟨hrange, hmore⟩ := h
    rw [List.length_cons, List.cons_append, readMore, if_pos hrange, ih hmore]
    simp only [addBits, List.foldl_cons]

/-- Behind a first byte of a longer character the bytes that it promises are read. -/
theorem readChar_of_lead {b : UInt8} {lead : Lead} (h : Lead.ofByte? b = some lead)
    (rest : List UInt8) :
    readChar b rest = readMore lead.bits lead.more lead.low lead.high rest := by
  rw [readChar, if_neg (Lead.not_lt_of_ofByte? h), h]

/-- The bytes of a character are read as this character, and what comes after them is left. -/
theorem readChar_utf8EncodeChar (c : Char) :
    ∃ b more, String.utf8EncodeChar c = b :: more ∧
      ∀ rest, readChar b (more ++ rest) = (c, rest) := by
  rcases utf8EncodeChar_cases c with ⟨b, hshort, hchar, hbytes⟩ |
    ⟨b, lead, more, hlead, hkept, hchar, hbytes⟩
  · refine ⟨b, [], hbytes, ?_⟩
    intro rest
    rw [readChar, if_pos hshort, hchar]
    rfl
  · refine ⟨b, more, hbytes, ?_⟩
    intro rest
    rw [readChar_of_lead hlead, ← hkept.length, readMore_of_inBounds hkept.inBounds, hchar]

/-- The bytes of a text are read as this text, whatever bytes come after them. -/
theorem decodeLossy_encode_append (cs : List Char) (bytes : List UInt8) :
    decodeLossy (encode cs ++ bytes) = cs ++ decodeLossy bytes := by
  induction cs with
  | nil => rfl
  | cons c cs ih =>
    obtain ⟨b, more, hc, hread⟩ := readChar_utf8EncodeChar c
    have hsplit : encode (c :: cs) ++ bytes = b :: (more ++ (encode cs ++ bytes)) := by
      simp [encode, hc]
    rw [hsplit, decodeLossy, hread, ih]
    rfl

/-- A text comes back from its bytes. -/
theorem textOf_bytesOf (text : String) : textOf (bytesOf text) = text := by
  have hread : decodeLossy (encode text.toList) = text.toList := by
    have happend := decodeLossy_encode_append text.toList []
    rwa [List.append_nil, decodeLossy, List.append_nil] at happend
  rw [textOf, bytesOf, hread, String.ofList_toList]

/-! ## Nothing at all -/

/-- No bytes are no text, and any bytes are some. -/
theorem textOf_eq_empty_iff (bytes : List UInt8) : textOf bytes = "" ↔ bytes = [] := by
  cases bytes with
  | nil => simp [textOf, decodeLossy]
  | cons b rest => simp [textOf, decodeLossy, String.ofList_eq_empty_iff]

theorem bytesOf_eq_nil_iff (text : String) : bytesOf text = [] ↔ text = "" := by
  rw [bytesOf, encode, List.flatMap_eq_nil_iff]
  constructor
  · intro h
    rw [← String.toList_eq_nil_iff, List.eq_nil_iff_forall_not_mem]
    intro c hc
    exact String.utf8EncodeChar_ne_nil (h c hc)
  · rintro rfl
    simp

end BucketVolume.Text
