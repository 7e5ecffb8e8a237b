import BucketVolume.Decimal.Integer
import BucketVolume.Proofs.Json.Numbers

/-!
# BucketVolume.Proofs.Decimal — which texts are decimal integers, and of what value

`Denotes` is the grammar of decimal integers with the value that each text has: one sign or none, then
digits, any number of zeros in front. Reading goes from digit to digit and stops where the value leaves
the range of 64 bits; since digits only carry a value further out, that is no stricter than to look at
the whole value, and no laxer.

* `readDigits_ok_iff` — what the digits come to, from any value in range;
* `parseInt64_ok_iff` — the reader takes the decimal texts whose values are in range, as these values;
* `parseInt64_renderInt64` — what was written is read back.
-/

namespace BucketVolume.Decimal

open Json (Digits)

/-! ## The grammar -/

/-- A text denotes an integer: a sign or none, and then at least one digit. -/
inductive Denotes : List Char → Int → Prop where
  | plain {ds : List Char} (digits : Digits ds) : Denotes ds (Nat.ofDigitChars 10 ds 0)
  | plus {ds : List Char} (digits : Digits ds) : Denotes ('+' :: ds) (Nat.ofDigitChars 10 ds 0)
  | minus {ds : List Char} (digits : Digits ds) : Denotes ('-' :: ds) (-(Nat.ofDigitChars 10 ds 0))

/-- An integer is in the range of signed 64-bit integers. -/
def InRange (n : Int) : Prop := least ≤ n ∧ n ≤ greatest

theorem inRange_toInt (n : Int64) : InRange n.toInt :=
  ⟨n.le_toInt, Int.le_of_lt_add_one n.toInt_lt⟩

theorem toInt_ofInt {n : Int} (h : InRange n) : (Int64.ofInt n).toInt = n :=
  Int64.toInt_ofInt_of_le h.1 (Int.lt_add_one_of_le h.2)

/-- The integers in range are those that 64 bits hold. -/
theorem exists_toInt_iff {p : Int → Prop} :
    (∃ n : Int64, p n.toInt) ↔ ∃ value, InRange value ∧ p value := by
  constructor
  · rintro ⟨n, hn⟩
    exact ⟨n.toInt, inRange_toInt n, hn⟩
  · rintro ⟨value, hin, hvalue⟩
    refine ⟨Int64.ofInt value, ?_⟩
    rwa [toInt_ofInt hin]

/-! ## Digits -/

theorem digit?_eq (c : Char) :
    digit? c = if c.isDigit then some (c.toNat - '0'.toNat) else none := by
  have hdigit : ('0' ≤ c ∧ c ≤ '9') ↔ c.isDigit = true := by
    simp [Char.isDigit, Char.le_def]
  simp only [digit?, hdigit]

/-- A number with the sign that its digits are read under. -/
def signed (negative : Bool) (n : Nat) : Int :=
  if negative then -n else n

theorem signed_zero (negative : Bool) : signed negative 0 = 0 := by
  cases negative with
  | true => rfl
  | false => rfl

/-- Reading starts in range, under either sign. -/
theorem inRange_signed_zero (negative : Bool) : InRange (signed negative 0) := by
  rw [signed_zero]
  exact ⟨by decide, by decide⟩

theorem signed_digit (negative : Bool) (n d : Nat) :
    (if negative then signed negative n * 10 - d else signed negative n * 10 + d) =
      signed negative (10 * n + d) := by
  cases negative with
  | true =>
    simp only [signed, if_true]
    omega
  | false =>
    simp only [signed, Bool.false_eq_true, if_false]
    omega

/-- More digits carry a value further from zero. -/
theorem le_ofDigitChars (ds : List Char) (n : Nat) : n ≤ Nat.ofDigitChars 10 ds n := by
  induction ds generalizing n with
  | nil => simp
  | cons d ds ih =>
    rw [Nat.ofDigitChars_cons]
    have hrest := ih (10 * n + (d.toNat - '0'.toNat))
    omega

/-- What is out of range stays so, however many digits follow. -/
theorem not_inRange_of_le {negative : Bool} {n m : Nat} (hle : n ≤ m)
    (h : ¬ InRange (signed negative n)) : ¬ InRange (signed negative m) := by
  simp only [InRange, least, greatest] at h ⊢
  cases negative with
  | true =>
    simp only [signed, if_true] at h ⊢
    omega
  | false =>
    simp only [signed, Bool.false_eq_true, if_false] at h ⊢
    omega

/-- Digits are read to the end if they are digits and the value that they come to is in range. -/
theorem readDigits_ok_iff {negative : Bool} {n : Nat} {cs : List Char} {value : Int}
    (hn : InRange (signed negative n)) :
    readDigits negative (signed negative n) cs = .ok value ↔
      (∀ c ∈ cs, c.isDigit = true) ∧ value = signed negative (Nat.ofDigitChars 10 cs n) ∧
        InRange value := by
  induction cs generalizing n with
  | nil =>
    simp only [readDigits, Nat.ofDigitChars_nil, List.not_mem_nil, false_implies, implies_true,
      true_and, Except.ok.injEq]
    constructor
    · rintro rfl
      exact ⟨rfl, hn⟩
    · rintro ⟨rfl, -⟩
      rfl
  | cons c rest ih =>
    rw [readDigits, digit?_eq, Nat.ofDigitChars_cons, List.forall_mem_cons]
    by_cases hc : c.isDigit = true
    · simp only [hc, if_true, true_and, signed_digit]
      by_cases hnext : InRange (signed negative (10 * n + (c.toNat - '0'.toNat)))
      · rw [if_neg (Int.not_lt.mpr hnext.1), if_neg (Int.not_lt.mpr hnext.2)]
        exact ih hnext
      · -- the reader stops, and the whole value is out of range as well
        have hout := not_inRange_of_le (le_ofDigitChars rest _) hnext
        have hwhole : ¬ (value = signed negative
            (Nat.ofDigitChars 10 rest (10 * n + (c.toNat - '0'.toNat))) ∧ InRange value) := by
          rintro ⟨rfl, hin⟩
          exact hout hin
        simp only [hwhole, and_false, iff_false]
        intro hread
        split at hread
        · cases hread
        next hleast =>
        split at hread
        · cases hread
        next hgreatest => exact hnext ⟨Int.not_lt.mp hleast, Int.not_lt.mp hgreatest⟩
    · simp [hc]

/-! ## Integers -/

/-- After its sign a text has to have a digit. -/
theorem readDigits_zero_ok_iff {negative : Bool} {cs : List Char} {value : Int} (hcs : cs ≠ []) :
    readDigits negative 0 cs = .ok value ↔
      Digits cs ∧ value = signed negative (Nat.ofDigitChars 10 cs 0) ∧ InRange value := by
  rw [← signed_zero negative, readDigits_ok_iff (inRange_signed_zero negative)]
  constructor
  · rintro ⟨hdigits, hvalue⟩
    exact ⟨⟨hcs, hdigits⟩, hvalue⟩
  · rintro ⟨hdigits, hvalue⟩
    exact ⟨hdigits.digit, hvalue⟩

/-- Digits do not start with a sign. -/
theorem ne_cons_of_digits {ds : List Char} (h : Digits ds) {c : Char} (hc : c.isDigit = false)
    (rest : List Char) : ds ≠ c :: rest := by
  rintro rfl
  have hdigit := h.digit c List.mem_cons_self
  rw [hc] at hdigit
  cases hdigit

/-- The reader takes the decimal texts with a value in range, and reads that value. -/
theorem readInteger_ok_iff {cs : List Char} {value : Int} :
    readInteger cs = .ok value ↔ Denotes cs value ∧ InRange value := by
  constructor
  · intro h
    unfold readInteger at h
    split at h
    · cases h
    · cases h
    · cases h
    next digits hmore =>
      rcases (readDigits_zero_ok_iff fun hnil => hmore (hnil ▸ rfl)).mp h with ⟨hds, rfl, hin⟩
      exact ⟨.plus hds, hin⟩
    next digits hmore =>
      rcases (readDigits_zero_ok_iff fun hnil => hmore (hnil ▸ rfl)).mp h with ⟨hds, rfl, hin⟩
      exact ⟨.minus hds, hin⟩
    next hempty _ _ _ _ =>
      rcases (readDigits_zero_ok_iff hempty).mp h with ⟨hds, rfl, hin⟩
      exact ⟨.plain hds, hin⟩
  · rintro ⟨hdenotes, hin⟩
    cases hdenotes with
    | plain hds =>
      rw [readInteger]
      · exact (readDigits_zero_ok_iff hds.nonempty).mpr ⟨hds, rfl, hin⟩
      · exact hds.nonempty
      · exact ne_cons_of_digits hds rfl []
      · exact ne_cons_of_digits hds rfl []
      · exact ne_cons_of_digits hds rfl
      · exact ne_cons_of_digits hds rfl
    | plus hds =>
      rw [readInteger]
      · exact (readDigits_zero_ok_iff hds.nonempty).mpr ⟨hds, rfl, hin⟩
      · exact hds.nonempty
    | minus hds =>
      rw [readInteger]
      · exact (readDigits_zero_ok_iff hds.nonempty).mpr ⟨hds, rfl, hin⟩
      · exact hds.nonempty

/-- The texts that are read as 64-bit integers, and what they are read as. -/
theorem parseInt64_ok_iff {s : String} {n : Int64} :
    parseInt64 s = .ok n ↔ Denotes s.toList n.toInt := by
  unfold parseInt64
  constructor
  · intro h
    rcases hread : readInteger s.toList with problem | value
    · rw [hread] at h
      cases h
    · rw [hread] at h
      obtain rfl := Except.ok.inj h
      rcases readInteger_ok_iff.mp hread with ⟨hdenotes, hin⟩
      rwa [toInt_ofInt hin]
  · intro h
    rw [readInteger_ok_iff.mpr ⟨h, inRange_toInt n⟩]
    exact congrArg Except.ok (Int64.ofInt_toInt n)

/-! ## Written integers -/

theorem digits_toDigits (n : Nat) : Digits (Nat.toDigits 10 n) :=
  ⟨Nat.toDigits_ne_nil, fun _ hc => Nat.isDigit_of_mem_toDigits (by decide) (by decide) hc⟩

/-- The text of an integer denotes it. -/
theorem denotes_integerChars (n : Int) : Denotes (integerChars n) n := by
  have hdigits := digits_toDigits n.natAbs
  have hvalue : Nat.ofDigitChars 10 (Nat.toDigits 10 n.natAbs) 0 = n.natAbs :=
    Nat.ofDigitChars_ten_toDigits
  unfold integerChars
  by_cases hn : n < 0
  · rw [if_pos hn]
    have hdenotes := Denotes.minus hdigits
    rw [hvalue] at hdenotes
    rwa [Int.ofNat_natAbs_of_nonpos (Int.le_of_lt hn), Int.neg_neg] at hdenotes
  · rw [if_neg hn]
    have hdenotes := Denotes.plain hdigits
    rw [hvalue] at hdenotes
    rwa [Int.natAbs_of_nonneg (Int.not_lt.mp hn)] at hdenotes

theorem denotes_renderInt64 (n : Int64) : Denotes (renderInt64 n).toList n.toInt := by
  rw [renderInt64, String.toList_ofList]
  exact denotes_integerChars n.toInt

/-- What is written of a 64-bit integer is read back as it was. -/
theorem parseInt64_renderInt64 (n : Int64) : parseInt64 (renderInt64 n) = .ok n :=
  parseInt64_ok_iff.mpr (denotes_renderInt64 n)

/-- A decimal text is not empty. -/
theorem Denotes.ne_nil {cs : List Char} {n : Int} (h : Denotes cs n) : cs ≠ [] := by
  cases h with
  | plain hds => exact hds.nonempty
  | plus => exact List.cons_ne_nil _ _
  | minus => exact List.cons_ne_nil _ _

/-- Integers with one text are one. -/
theorem renderInt64_inj {n m : Int64} (h : renderInt64 n = renderInt64 m) : n = m := by
  have hread := parseInt64_renderInt64 n
  rw [h, parseInt64_renderInt64] at hread
  exact (Except.ok.inj hread).symm

end BucketVolume.Decimal
