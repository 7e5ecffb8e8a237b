import BucketVolume.Proofs.Credential
import BucketVolume.Proofs.Utf8

/-!
# BucketVolume.Proofs.LossyDecoding — what any bytes are read as

Bytes are cut into the bytes of characters and into starts of characters that break off, each start as
long as it can be and one byte long if it starts nothing. There is one such cut of any bytes, and
reading follows it: a character for a character, and a replacement character for a start that breaks
off. The cut is told without the reader, by what the bytes of characters look like.

* `readMore_cases`, `readChar_cases` — reading stops at the end of a character, or at the first byte
  that no character has in this place;
* `exists_wellCut`, `WellCut.unique` — any bytes have one cut, and reading follows it;
* `DecodesTo` — what this means for the text that is read;
* `SecretData.UsedAs` — what it means for credentials: no content of a field stands in their way.
-/

namespace BucketVolume

namespace Text

/-! ## Cutting bytes -/

/-- A piece of bytes: those of a character, or some that are no character. -/
inductive Segment where
  | whole (c : Char)
  | broken (bytes : List UInt8)

namespace Segment

def bytes : Segment → List UInt8
  | whole c => String.utf8EncodeChar c
  | broken bytes => bytes

/-- The character that is read for a piece. -/
def shown : Segment → Char
  | whole c => c
  | broken _ => replacement

end Segment

/-- Bytes that some character starts with. -/
def StartsChar (bytes : List UInt8) : Prop :=
  ∃ c, bytes <+: String.utf8EncodeChar c

/-- Bytes that break off: no character stands where they start, and nothing that a character could
start with goes on beyond them. A byte that starts no character breaks off by itself. -/
structure BreaksOff (start rest : List UInt8) : Prop where
  nonempty : start ≠ []
  noChar : ∀ c, ¬String.utf8EncodeChar c <+: start ++ rest
  starts : StartsChar start ∨ start.length = 1
  longest : ∀ bytes, bytes <+: start ++ rest → StartsChar bytes → bytes.length ≤ start.length

/-- Pieces of which each broken one breaks off where the next one starts. -/
inductive WellCut : List Segment → Prop where
  | nil : WellCut []
  | whole (c : Char) {rest : List Segment} (h : WellCut rest) : WellCut (.whole c :: rest)
  | broken {start : List UInt8} {rest : List Segment}
      (hbreaks : BreaksOff start (rest.flatMap Segment.bytes)) (h : WellCut rest) :
      WellCut (.broken start :: rest)

/-! ## Starts of characters -/

theorem InBounds.of_prefix {low high : UInt8} {a b : List UInt8} (h : InBounds low high b)
    (hinitial : a <+: b) : InBounds low high a := by
  induction a generalizing low high b with
  | nil => trivial
  | cons x a ih =>
    cases b with
    | nil => exact absurd (List.prefix_nil.mp hinitial) (List.cons_ne_nil x a)
    | cons y b =>
      obtain ⟨rfl, htail⟩ := List.cons_prefix_cons.mp hinitial
      exact ⟨h.1, ih h.2 htail⟩

theorem inBounds_replicate (n : Nat) : InBounds 0x80 0xbf (List.replicate n 0x80) := by
  induction n with
  | zero => trivial
  | succ n ih => exact ⟨by decide, ih⟩

/-- Bytes within bounds go on within bounds, for as long as one likes. -/
theorem InBounds.extend {low high : UInt8} {a : List UInt8} (hle : low ≤ high)
    (h : InBounds low high a) (n : Nat) :
    ∃ more, more.length = n ∧ InBounds low high (a ++ more) := by
  induction a generalizing low high with
  | nil =>
    cases n with
    | zero => exact ⟨[], rfl, trivial⟩
    | succ n =>
      exact ⟨low :: List.replicate n 0x80, by simp, ⟨UInt8.le_refl low, hle⟩, inBounds_replicate n⟩
  | cons b a ih =>
    obtain ⟨more, hlength, hmore⟩ := ih (by decide) h.2
    exact ⟨more, hlength, h.1, hmore⟩

/-- Behind a first byte, bytes within its bounds are a start of a character, if it promises that
many. -/
theorem startsChar_of_inBounds {b : UInt8} {lead : Lead} {bytes : List UInt8}
    (hlead : Lead.ofByte? b = some lead) (hbounds : InBounds lead.low lead.high bytes)
    (hlength : bytes.length ≤ lead.more) : StartsChar (b :: bytes) := by
  obtain ⟨-, hle, -⟩ := Lead.bounds_of_ofByte? hlead
  obtain ⟨more, hmore, hall⟩ := hbounds.extend hle (lead.more - bytes.length)
  have hkept : lead.KeptBy (bytes ++ more) := by
    refine ⟨?_, hall⟩
    rw [List.length_append, hmore, Nat.add_sub_cancel' hlength]
  refine ⟨Char.ofNat (addBits lead.bits (bytes ++ more)), ?_⟩
  rw [utf8EncodeChar_of_keptBy hlead hkept]
  exact ⟨more, rfl⟩

/-- And there are no other starts of characters. -/
theorem StartsChar.cases {b : UInt8} {bytes : List UInt8} (h : StartsChar (b :: bytes)) :
    (b < 0x80 ∧ bytes = []) ∨
      ∃ lead, Lead.ofByte? b = some lead ∧ InBounds lead.low lead.high bytes := by
  obtain ⟨c, hc⟩ := h
  rcases utf8EncodeChar_cases c with ⟨b', hshort, -, hbytes⟩ | ⟨b', lead, more, hlead, hkept, -, hbytes⟩
  · rw [hbytes, List.cons_prefix_cons, List.prefix_nil] at hc
    obtain ⟨rfl, rfl⟩ := hc
    exact .inl ⟨hshort, rfl⟩
  · rw [hbytes, List.cons_prefix_cons] at hc
    obtain ⟨rfl, htail⟩ := hc
    exact .inr ⟨lead, hlead, hkept.inBounds.of_prefix htail⟩

/-! ## Where reading stops -/

/-- Either the promised bytes are there, or reading stops behind those of them that are, at the first
byte out of bounds. -/
theorem readMore_cases (more : Nat) (low high : UInt8) (bytes : List UInt8) :
    (∃ kept rest, bytes = kept ++ rest ∧ kept.length = more ∧ InBounds low high kept) ∨
      ∃ kept rest, bytes = kept ++ rest ∧ kept.length < more ∧ InBounds low high kept ∧
        (∀ others, others <+: bytes → InBounds low high others → others.length ≤ kept.length) ∧
        ∀ bits, readMore bits more low high bytes = (replacement, rest) := by
  induction more generalizing low high bytes with
  | zero => exact .inl ⟨[], bytes, rfl, rfl, trivial⟩
  | succ more ih =>
    cases bytes with
    | nil =>
      -- the bytes have come to their end
      refine .inr ⟨[], [], rfl, Nat.succ_pos more, trivial, ?_, fun _ => rfl⟩
      intro others hinitial _
      exact hinitial.length_le
    | cons b bytes =>
      by_cases hb : low ≤ b ∧ b ≤ high
      · rcases ih 0x80 0xbf bytes with ⟨kept, rest, rfl, hlength, hbounds⟩ |
          ⟨kept, rest, rfl, hlength, hbounds, hlongest, hread⟩
        · exact .inl ⟨b :: kept, rest, rfl, congrArg Nat.succ hlength, hb, hbounds⟩
        · refine .inr ⟨b :: kept, rest, rfl, Nat.succ_lt_succ hlength, ⟨hb, hbounds⟩, ?_, ?_⟩
          · intro others hinitial hothers
            rcases List.prefix_cons_iff.mp hinitial with rfl | ⟨tail, rfl, htail⟩
            · exact Nat.zero_le _
            · exact Nat.succ_le_succ (hlongest tail htail hothers.2)
          · intro bits
            rw [readMore, if_pos hb]
            exact hread _
      · -- this byte is out of bounds
        refine .inr ⟨[], b :: bytes, rfl, Nat.succ_pos more, trivial, ?_, ?_⟩
        · intro others hinitial hothers
          rcases List.prefix_cons_iff.mp hinitial with rfl | ⟨tail, rfl, -⟩
          · exact Nat.le_refl 0
          · exact absurd hothers.1 hb
        · intro bits
          rw [readMore, if_neg hb]

/-- A byte that starts nothing breaks off by itself. -/
theorem breaksOff_singleton {b : UInt8} (hlong : ¬b < 0x80) (hnone : Lead.ofByte? b = none)
    (rest : List UInt8) : BreaksOff [b] rest := by
  have hstarts : ∀ bytes, ¬StartsChar (b :: bytes) := by
    intro bytes h
    rcases h.cases with ⟨hshort, -⟩ | ⟨lead, hlead, -⟩
    · exact hlong hshort
    · rw [hnone] at hlead
      cases hlead
  constructor
  case nonempty => exact List.cons_ne_nil b []
  case noChar =>
    intro c hinitial
    rcases List.prefix_cons_iff.mp hinitial with hnil | ⟨tail, htail, -⟩
    · exact String.utf8EncodeChar_ne_nil hnil
    · exact hstarts tail ⟨c, htail ▸ List.prefix_refl _⟩
  case starts => exact .inr rfl
  case longest =>
    intro bytes hinitial h
    rcases List.prefix_cons_iff.mp hinitial with rfl | ⟨tail, rfl, -⟩
    · exact Nat.zero_le _
    · exact absurd h (hstarts tail)

/-- A promise of which fewer bytes are kept breaks off behind the last of them. -/
theorem breaksOff_of_lead {b : UInt8} {lead : Lead} {kept rest : List UInt8}
    (hlead : Lead.ofByte? b = some lead) (hlength : kept.length < lead.more)
    (hbounds : InBounds lead.low lead.high kept)
    (hlongest : ∀ others, others <+: kept ++ rest → InBounds lead.low lead.high others →
      others.length ≤ kept.length) : BreaksOff (b :: kept) rest := by
  have hlong : ¬b < 0x80 := Lead.not_lt_of_ofByte? hlead
  constructor
  case nonempty => exact List.cons_ne_nil b kept
  case noChar =>
    intro c hinitial
    rcases utf8EncodeChar_cases c with ⟨b', hshort, -, hbytes⟩ |
      ⟨b', lead', more, hlead', hkept, -, hbytes⟩
    · rw [hbytes, List.cons_append, List.cons_prefix_cons] at hinitial
      exact hlong (hinitial.1 ▸ hshort)
    · -- the character would keep the whole promise
      rw [hbytes, List.cons_append, List.cons_prefix_cons] at hinitial
      obtain ⟨rfl, htail⟩ := hinitial
      obtain rfl : lead = lead' := Option.some.inj (hlead.symm.trans hlead')
      have hmore := hlongest more htail hkept.inBounds
      rw [hkept.length] at hmore
      exact absurd hlength (Nat.not_lt.mpr hmore)
  case starts => exact .inl (startsChar_of_inBounds hlead hbounds (Nat.le_of_lt hlength))
  case longest =>
    intro bytes hinitial h
    rcases List.prefix_cons_iff.mp hinitial with rfl | ⟨tail, rfl, htail⟩
    · exact Nat.zero_le _
    · rcases h.cases with ⟨hshort, -⟩ | ⟨lead', hlead', htailBounds⟩
      · exact absurd hshort hlong
      · obtain rfl : lead = lead' := Option.some.inj (hlead.symm.trans hlead')
        exact Nat.succ_le_succ (hlongest tail htail htailBounds)

/-- What is read first is a character with all of its bytes, or a start that breaks off. -/
theorem readChar_cases (b : UInt8) (bytes : List UInt8) :
    (∃ c rest, b :: bytes = String.utf8EncodeChar c ++ rest ∧ readChar b bytes = (c, rest)) ∨
      ∃ start rest, b :: bytes = start ++ rest ∧ BreaksOff start rest ∧
        readChar b bytes = (replacement, rest) := by
  by_cases hshort : b < 0x80
  · have hbytes : String.utf8EncodeChar (Char.ofNat b.toNat) = [b] := by
      have hb : b.toNat < 128 := UInt8.lt_iff_toNat_lt.mp hshort
      rw [String.utf8EncodeChar, val_ofNat (.inl (by omega)), if_pos (by omega),
        UInt8.ofNat_toNat]
    refine .inl ⟨Char.ofNat b.toNat, bytes, by rw [hbytes]; rfl, ?_⟩
    rw [readChar, if_pos hshort]
  cases hlead : Lead.ofByte? b with
  | none =>
    refine .inr ⟨[b], bytes, rfl, breaksOff_singleton hshort hlead bytes, ?_⟩
    rw [readChar, if_neg hshort, hlead]
  | some lead =>
    rcases readMore_cases lead.more lead.low lead.high bytes with
      ⟨kept, rest, rfl, hlength, hbounds⟩ | ⟨kept, rest, rfl, hlength, hbounds, hlongest, hread⟩
    · refine .inl ⟨Char.ofNat (addBits lead.bits kept), rest, ?_, ?_⟩
      · rw [utf8EncodeChar_of_keptBy hlead ⟨hlength, hbounds⟩]
        rfl
      · rw [readChar_of_lead hlead, ← hlength, readMore_of_inBounds hbounds]
    · refine .inr ⟨b :: kept, rest, rfl, breaksOff_of_lead hlead hlength hbounds hlongest, ?_⟩
      rw [readChar_of_lead hlead, hread]

/-! ## The one cut -/

/-- Reading follows a cut of its bytes. -/
theorem exists_wellCut (bytes : List UInt8) :
    ∃ segments, WellCut segments ∧ segments.flatMap Segment.bytes = bytes ∧
      decodeLossy bytes = segments.map Segment.shown := by
  induction bytes using decodeLossy.induct with
  | case1 => exact ⟨[], .nil, rfl, by rw [decodeLossy]; rfl⟩
  | case2 b bytes ih =>
    obtain ⟨segments, hcut, hbytes, hread⟩ := ih
    rcases readChar_cases b bytes with ⟨c, rest, hsplit, hfirst⟩ | ⟨start, rest, hsplit, hbreaks, hfirst⟩
    · rw [hfirst] at hbytes hread
      refine ⟨.whole c :: segments, .whole c hcut, ?_, ?_⟩
      · rw [List.flatMap_cons, hbytes, hsplit]
        rfl
      · rw [decodeLossy, hfirst, hread]
        rfl
    · rw [hfirst] at hbytes hread
      refine ⟨.broken start :: segments, .broken (hbytes ▸ hbreaks) hcut, ?_, ?_⟩
      · rw [List.flatMap_cons, hbytes, hsplit]
        rfl
      · rw [decodeLossy, hfirst, hread]
        rfl

/-- The bytes of a character tell the character and where they end. -/
theorem utf8EncodeChar_append_inj {c d : Char} {r s : List UInt8}
    (h : String.utf8EncodeChar c ++ r = String.utf8EncodeChar d ++ s) : c = d ∧ r = s := by
  obtain ⟨b, more, hc, hreadc⟩ := readChar_utf8EncodeChar c
  obtain ⟨b', more', hd, hreadd⟩ := readChar_utf8EncodeChar d
  rw [hc, hd, List.cons_append, List.cons_append] at h
  obtain ⟨rfl, htail⟩ := List.cons.inj h
  have hsame : (c, r) = (d, s) := by rw [← hreadc r, htail, hreadd s]
  exact Prod.mk.inj hsame

/-- Of two starts that break off in the same bytes neither goes on beyond the other. -/
theorem BreaksOff.append_inj {start start' r s : List UInt8} (h : BreaksOff start r)
    (h' : BreaksOff start' s) (hsame : start ++ r = start' ++ s) : start = start' ∧ r = s := by
  have hle : ∀ {a b r s : List UInt8}, BreaksOff a r → BreaksOff b s → a ++ r = b ++ s →
      a.length ≤ b.length := by
    intro a b r s ha hb hab
    rcases ha.starts with hstarts | hone
    · exact hb.longest a ⟨r, hab⟩ hstarts
    · rw [hone]
      exact List.length_pos_iff.mpr hb.nonempty
  exact List.append_inj hsame (Nat.le_antisymm (hle h h' hsame) (hle h' h hsame.symm))

/-- Bytes are cut in no other way. -/
theorem WellCut.unique {a b : List Segment} (ha : WellCut a) (hb : WellCut b)
    (h : a.flatMap Segment.bytes = b.flatMap Segment.bytes) : a = b := by
  induction ha generalizing b with
  | nil =>
    cases hb with
    | nil => rfl
    | whole c =>
      exact absurd (List.append_eq_nil_iff.mp h.symm).1 String.utf8EncodeChar_ne_nil
    | broken hbreaks => exact absurd (List.append_eq_nil_iff.mp h.symm).1 hbreaks.nonempty
  | whole c _ ih =>
    cases hb with
    | nil => exact absurd (List.append_eq_nil_iff.mp h).1 String.utf8EncodeChar_ne_nil
    | whole d hrest =>
      obtain ⟨rfl, htail⟩ := utf8EncodeChar_append_inj h
      rw [ih hrest htail]
    | broken hbreaks => exact absurd ⟨_, h⟩ (hbreaks.noChar c)
  | broken hbreaks _ ih =>
    cases hb with
    | nil => exact absurd (List.append_eq_nil_iff.mp h).1 hbreaks.nonempty
    | whole d => exact absurd ⟨_, h.symm⟩ (hbreaks.noChar d)
    | broken hbreaks' hrest =>
      obtain ⟨rfl, htail⟩ := hbreaks.append_inj hbreaks' h
      rw [ih hrest htail]

/-- A replacement character stands for a start that breaks off, and reading goes on behind it. -/
theorem decodeLossy_breaksOff {start rest : List UInt8} (h : BreaksOff start rest) :
    decodeLossy (start ++ rest) = replacement :: decodeLossy rest := by
  obtain ⟨segments, hcut, hbytes, hread⟩ := exists_wellCut (start ++ rest)
  obtain ⟨tail, htail, htailBytes, htailRead⟩ := exists_wellCut rest
  have hfirst : WellCut (.broken start :: tail) := .broken (htailBytes.symm ▸ h) htail
  have hsame : (Segment.broken start :: tail).flatMap Segment.bytes = start ++ rest := by
    rw [List.flatMap_cons, htailBytes]
    rfl
  rw [hread, hcut.unique hfirst (hbytes.trans hsame.symm), htailRead]
  rfl

/-- Pieces that are all characters are the bytes of a text. -/
theorem exists_encode_of_notMem_replacement {segments : List Segment}
    (h : replacement ∉ segments.map Segment.shown) :
    segments.flatMap Segment.bytes = encode (segments.map Segment.shown) := by
  induction segments with
  | nil => rfl
  | cons segment rest ih =>
    rw [List.map_cons, List.mem_cons, not_or] at h
    cases segment with
    | whole c => rw [List.flatMap_cons, ih h.2]; rfl
    | broken bytes => exact absurd rfl h.1

/-! ## The text that is read -/

/-- The text that bytes are read as, whatever the bytes. -/
structure DecodesTo (bytes : List UInt8) (text : String) : Prop where
  /-- There is one cut of the bytes. It takes every byte once, and each piece is one character of the
  text. -/
  cut : ∃ segments, WellCut segments ∧ segments.flatMap Segment.bytes = bytes ∧
    text.toList = segments.map Segment.shown ∧
    ∀ other, WellCut other → other.flatMap Segment.bytes = bytes → other = segments
  /-- The bytes of a text are read as this text, whatever comes after them. -/
  valid : ∀ start rest, bytes = bytesOf start ++ rest → text = start ++ textOf rest
  /-- Bytes that break off are read as one replacement character, and reading goes on at the byte after
  them. -/
  broken : ∀ start rest, bytes = start ++ rest → BreaksOff start rest →
    text = String.singleton replacement ++ textOf rest
  /-- Only bytes of a text can be read without a replacement character. -/
  replaced : (∀ other, bytesOf other ≠ bytes) → replacement ∈ text.toList
  empty : text = "" ↔ bytes = []

theorem decodesTo_textOf (bytes : List UInt8) : DecodesTo bytes (textOf bytes) := by
  obtain ⟨segments, hcut, hbytes, hread⟩ := exists_wellCut bytes
  constructor
  case cut =>
    refine ⟨segments, hcut, hbytes, ?_, ?_⟩
    · rw [textOf, String.toList_ofList, hread]
    · intro other hother hsame
      exact hother.unique hcut (hsame.trans hbytes.symm)
  case valid =>
    rintro start rest rfl
    rw [textOf, textOf, bytesOf, decodeLossy_encode_append, String.ofList_append,
      String.ofList_toList]
  case broken =>
    rintro start rest rfl hbreaks
    rw [textOf, textOf, decodeLossy_breaksOff hbreaks, String.singleton_eq_ofList,
      ← String.ofList_append]
    rfl
  case replaced =>
    intro hinvalid
    rw [textOf, String.toList_ofList, hread]
    by_contra hnone
    -- a cut without broken pieces would make these the bytes of the text that is read
    apply hinvalid (textOf bytes)
    rw [bytesOf, textOf, String.toList_ofList, hread,
      ← exists_encode_of_notMem_replacement hnone, hbytes]
  case empty => exact textOf_eq_empty_iff bytes

end Text

/-! ## Credentials -/

/-- What comes of a secret whose fields may hold any bytes. -/
structure SecretData.UsedAs (data : SecretData) (outcome : Except CredentialFailure Credentials) :
    Prop where
  /-- A field that is there is read. -/
  read : ∀ field bytes, data[field]? = some bytes → data.read? field = some (Text.textOf bytes)
  /-- Whether a secret is refused is decided by the fields that are missing. -/
  refused : (∃ failure, outcome = .error failure) ↔
    Credentials.apiKeyField ∉ data ∧
      (Credentials.accessKeyField ∉ data ∨ Credentials.secretKeyField ∉ data)
  /-- And one of them is blamed for it. -/
  blamed : ∀ failure, outcome = .error failure →
    ∃ field, field ∉ data ∧ failure = .missingField field
  /-- A service instance id that is there counts as missing only if it has no bytes. -/
  emptyId : ∀ credentials id, outcome = .ok credentials → Credentials.apiKeyField ∈ data →
    data[Credentials.serviceInstanceIdField]? = some id →
    (credentials.lacksServiceInstance = true ↔ id = [])

theorem SecretData.read?_of_getElem? {data : SecretData} {field : String} {bytes : List UInt8}
    (h : data[field]? = some bytes) : data.read? field = some (Text.textOf bytes) := by
  rw [read?, h, Option.map_some]

/-- Any bytes are read, each of them once, and none of them makes a secret unusable. -/
theorem bytes_read_lossily (bytes : List UInt8) (data : SecretData) (iamEndpoint : String) :
    Text.DecodesTo bytes (Text.textOf bytes) ∧
      data.UsedAs (Credentials.ofSecret data iamEndpoint) := by
  refine ⟨Text.decodesTo_textOf bytes, ?_⟩
  constructor
  case read => exact fun field bytes => SecretData.read?_of_getElem?
  case refused =>
    have hok := Credentials.ofSecret_ok_iff data iamEndpoint
    rw [← not_iff_not] at hok
    rw [SecretData.Usable, not_or, not_and_or] at hok
    rw [← hok]
    cases Credentials.ofSecret data iamEndpoint with
    | error failure => simp
    | ok credentials => simp
  case blamed => exact fun failure => Credentials.missing_of_ofSecret
  case emptyId =>
    intro credentials id h hkey hid
    rw [← SecretData.read?_isSome_iff, Option.isSome_iff_exists] at hkey
    obtain ⟨key, hkey⟩ := hkey
    rw [Credentials.ofSecret, hkey, SecretData.read?_of_getElem? hid] at h
    rw [← Except.ok.inj h, ← Text.textOf_eq_empty_iff id, Credentials.lacksServiceInstance,
      beq_iff_eq]

/-- A secret of which no field is the bytes of a text. -/
def brokenSecret : SecretData :=
  ((∅ : SecretData).insert Credentials.apiKeyField [0xff]).insert
    Credentials.serviceInstanceIdField [0xff]

/-- Three bytes of four are one broken piece, and a service instance id that is broken is there. -/
theorem bytes_read_lossily_broken :
    (Text.BreaksOff [0xf0, 0x9f, 0x98] [0x41] ∧
      Text.textOf [0xf0, 0x9f, 0x98, 0x41] =
        String.singleton Text.replacement ++ Text.textOf [0x41]) ∧
    ∃ credentials, Credentials.ofSecret brokenSecret "iam" = .ok credentials ∧
      credentials.lacksServiceInstance = false := by
  have hread := bytes_read_lossily [0xf0, 0x9f, 0x98, 0x41] brokenSecret "iam"
  have hbreaks : Text.BreaksOff [0xf0, 0x9f, 0x98] [0x41] := by
    have hlead : Text.Lead.ofByte? 0xf0 = some (.four 0) := rfl
    refine Text.breaksOff_of_lead hlead (by decide) ⟨by decide, by decide, trivial⟩ ?_
    intro others hinitial hothers
    by_contra hlonger
    -- only all three bytes are more than two, and the last of them is out of bounds
    obtain rfl := hinitial.eq_of_length_le (Nat.lt_of_not_le hlonger)
    exact absurd hothers.2.2.1 (by decide)
  have hkey : Credentials.apiKeyField ∈ brokenSecret := by decide +kernel
  have hid : brokenSecret[Credentials.serviceInstanceIdField]? = some [0xff] := by decide +kernel
  obtain ⟨credentials, hcredentials⟩ :=
    (Credentials.ofSecret_ok_iff brokenSecret "iam").mpr (.inl hkey)
  have hlacks := hread.2.emptyId credentials [0xff] hcredentials hkey hid
  refine ⟨⟨hbreaks, hread.1.broken _ _ rfl hbreaks⟩, credentials, hcredentials, ?_⟩
  rw [← Bool.not_eq_true, hlacks]
  exact List.cons_ne_nil _ _

end BucketVolume
