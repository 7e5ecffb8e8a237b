import BucketVolume.Proofs.Merging

/-!
# BucketVolume.Proofs.IntegerTexts — one reading of integers in both places

Integers are read in two places, from the parameters of a storage class and from what a claim
overrides, and differently where nothing is said. Where something is said the two come to the same.
Which texts are taken, and as which values, is told by the grammar of decimal integers. Why a text is
refused is told by how far one gets in it (`Stops`): to a character that is no digit, or to the digit
with which the value leaves the range, whichever comes first. Digits carry a value further out, so it
does not come back, and no two of the reasons hold at once.

* `Decimal.readDigits_error_iff` — why digits are not read, from any value in range;
* `parseKeyedInt64_error_iff` — why a text under a key is refused;
* `failure?_resolveRequest` — a request that fails one check only gets to hear of that one;
* `integer_texts` — what is made of a text in both places, and as an expiry.
-/

namespace BucketVolume

namespace Decimal

/-! ## Where reading stops -/

/-- What is said of a value that has left the range. -/
def overflow (negative : Bool) : IntegerProblem :=
  if negative then .tooSmall else .tooLarge

/-- Why reading stops in a text that goes on from a number. Up to there all characters are digits. -/
inductive Stops (negative : Bool) (n : Nat) (cs : List Char) : IntegerProblem → Prop where
  /-- The next character is no digit, and the value is still in range. -/
  | noDigit {ds rest : List Char} {c : Char} (split : cs = ds ++ c :: rest)
      (digits : ∀ d ∈ ds, d.isDigit = true)
      (inRange : InRange (signed negative (Nat.ofDigitChars 10 ds n))) (bad : c.isDigit = false) :
      Stops negative n cs .invalidDigit
  /-- The value is out of range, whatever comes after it. -/
  | overflow {ds rest : List Char} (split : cs = ds ++ rest)
      (digits : ∀ d ∈ ds, d.isDigit = true)
      (out : ¬ InRange (signed negative (Nat.ofDigitChars 10 ds n))) :
      Stops negative n cs (overflow negative)

/-- Why a text is no 64-bit integer. -/
inductive Refused : List Char → IntegerProblem → Prop where
  | empty : Refused [] .empty
  | sign {c : Char} (sign : c = '+' ∨ c = '-') : Refused [c] .invalidDigit
  | plus {ds : List Char} {problem : IntegerProblem} (stops : Stops false 0 ds problem) :
      Refused ('+' :: ds) problem
  | minus {ds : List Char} {problem : IntegerProblem} (stops : Stops true 0 ds problem) :
      Refused ('-' :: ds) problem
  | plain {cs : List Char} {problem : IntegerProblem}
      (unsigned : ∀ rest, cs ≠ '+' :: rest ∧ cs ≠ '-' :: rest) (stops : Stops false 0 cs problem) :
      Refused cs problem

variable {negative : Bool} {n : Nat} {cs : List Char} {problem : IntegerProblem}

/-- In no text at all nothing stops. -/
theorem not_stops_nil (hn : InRange (signed negative n)) : ¬ Stops negative n [] problem := by
  intro h
  cases h with
  | noDigit split => simp at split
  | overflow split _ out =>
    obtain ⟨rfl, -⟩ := List.append_eq_nil_iff.mp split.symm
    exact out hn

/-- Where no digit has been read, nothing stops but in a character. -/
theorem Stops.ne_nil (h : Stops negative 0 cs problem) : cs ≠ [] := by
  rintro rfl
  exact not_stops_nil (inRange_signed_zero negative) h

/-- A digit is passed. -/
theorem stops_cons_iff {c : Char} (hc : c.isDigit = true) (hn : InRange (signed negative n)) :
    Stops negative n (c :: cs) problem ↔
      Stops negative (10 * n + (c.toNat - '0'.toNat)) cs problem := by
  constructor
  · intro h
    cases h with
    | @noDigit ds rest bad split digits inRange hbad =>
      cases ds with
      | nil =>
        obtain ⟨rfl, -⟩ := List.cons.inj split
        rw [hc] at hbad
        cases hbad
      | cons d ds =>
        obtain ⟨rfl, rfl⟩ := List.cons.inj split
        rw [Nat.ofDigitChars_cons] at inRange
        exact .noDigit rfl (List.forall_mem_cons.mp digits).2 inRange hbad
    | @overflow ds rest split digits out =>
      cases ds with
      | nil => exact absurd hn out
      | cons d ds =>
        obtain ⟨rfl, rfl⟩ := List.cons.inj split
        rw [Nat.ofDigitChars_cons] at out
        exact .overflow rfl (List.forall_mem_cons.mp digits).2 out
  · intro h
    cases h with
    | @noDigit ds rest bad split digits inRange hbad =>
      rw [← Nat.ofDigitChars_cons] at inRange
      exact .noDigit (congrArg (c :: ·) split) (List.forall_mem_cons.mpr ⟨hc, digits⟩) inRange hbad
    | @overflow ds rest split digits out =>
      rw [← Nat.ofDigitChars_cons] at out
      exact .overflow (congrArg (c :: ·) split) (List.forall_mem_cons.mpr ⟨hc, digits⟩) out

/-- Out of range nothing but that can be said. -/
theorem stops_out_iff (hout : ¬ InRange (signed negative n)) :
    Stops negative n cs problem ↔ problem = overflow negative := by
  constructor
  · intro h
    cases h with
    | noDigit split digits inRange =>
      exact absurd inRange (not_inRange_of_le (le_ofDigitChars _ n) hout)
    | overflow => rfl
  · rintro rfl
    exact .overflow (List.nil_append cs).symm (by simp) (by rwa [Nat.ofDigitChars_nil])

/-- The reader stops at a value out of range. -/
theorem error_of_not_inRange {α : Type} (hout : ¬ InRange (signed negative n))
    (further : Except IntegerProblem α) :
    (if signed negative n < least then .error .tooSmall
      else if greatest < signed negative n then .error .tooLarge else further) =
      .error (overflow negative) := by
  simp only [InRange, least, greatest] at hout ⊢
  cases negative with
  | true =>
    simp only [signed, if_true] at hout ⊢
    rw [if_pos (by omega)]
    rfl
  | false =>
    simp only [signed, Bool.false_eq_true, if_false] at hout ⊢
    rw [if_neg (by omega), if_pos (by omega)]
    rfl

/-- Digits are not read, and for which reason, exactly if something stops them. -/
theorem readDigits_error_iff (hn : InRange (signed negative n)) :
    readDigits negative (signed negative n) cs = .error problem ↔ Stops negative n cs problem := by
  induction cs generalizing n with
  | nil => simp [readDigits, not_stops_nil hn]
  | cons c rest ih =>
    rw [readDigits, digit?_eq]
    by_cases hc : c.isDigit = true
    · simp only [hc, if_true, signed_digit]
      rw [stops_cons_iff hc hn]
      by_cases hnext : InRange (signed negative (10 * n + (c.toNat - '0'.toNat)))
      · rw [if_neg (Int.not_lt.mpr hnext.1), if_neg (Int.not_lt.mpr hnext.2)]
        exact ih hnext
      · rw [error_of_not_inRange hnext, stops_out_iff hnext, Except.error.injEq, eq_comm]
    · simp only [hc, Bool.false_eq_true, if_false, Except.error.injEq]
      constructor
      · rintro rfl
        exact .noDigit (List.nil_append (c :: rest)).symm (by simp) (by rwa [Nat.ofDigitChars_nil])
          (Bool.eq_false_iff.mpr hc)
      · intro h
        cases h with
        | noDigit => rfl
        | @overflow ds _ split digits out =>
          cases ds with
          | nil => exact absurd hn out
          | cons d ds =>
            obtain ⟨rfl, -⟩ := List.cons.inj split
            exact absurd (digits _ List.mem_cons_self) hc

/-- From nothing read so far, under either sign. -/
theorem readDigits_zero_error_iff (negative : Bool) :
    readDigits negative 0 cs = .error problem ↔ Stops negative 0 cs problem := by
  rw [← readDigits_error_iff (inRange_signed_zero negative), signed_zero]

/-- The texts that the reader refuses, and for which reasons. -/
theorem readInteger_error_iff : readInteger cs = .error problem ↔ Refused cs problem := by
  constructor
  · intro h
    unfold readInteger at h
    split at h
    · obtain rfl := Except.error.inj h
      exact .empty
    · obtain rfl := Except.error.inj h
      exact .sign (.inl rfl)
    · obtain rfl := Except.error.inj h
      exact .sign (.inr rfl)
    · exact .plus ((readDigits_zero_error_iff false).mp h)
    · exact .minus ((readDigits_zero_error_iff true).mp h)
    next _ _ _ hplus hminus =>
      exact .plain (fun rest => ⟨hplus rest, hminus rest⟩) ((readDigits_zero_error_iff false).mp h)
  · intro h
    cases h with
    | empty => rfl
    | sign hsign =>
      rcases hsign with rfl | rfl
      · rfl
      · rfl
    | plus hstops =>
      rw [readInteger]
      · exact (readDigits_zero_error_iff false).mpr hstops
      · exact hstops.ne_nil
    | minus hstops =>
      rw [readInteger]
      · exact (readDigits_zero_error_iff true).mpr hstops
      · exact hstops.ne_nil
    | plain hunsigned hstops =>
      rw [readInteger]
      · exact (readDigits_zero_error_iff false).mpr hstops
      · exact hstops.ne_nil
      · exact (hunsigned []).1
      · exact (hunsigned []).2
      · exact fun rest => (hunsigned rest).1
      · exact fun rest => (hunsigned rest).2

/-- A letter counts only as long as the value before it is in range. -/
example : readInteger "9223372036854775807x".toList = .error .invalidDigit := by decide

example : readInteger "9223372036854775808x".toList = .error .tooLarge := by decide

/-- The texts that are no 64-bit integers, and why. -/
theorem parseInt64_error_iff {s : String} :
    parseInt64 s = .error problem ↔ Refused s.toList problem := by
  rw [← readInteger_error_iff, parseInt64]
  cases readInteger s.toList with
  | error other => simp [Except.map]
  | ok value => simp [Except.map]

end Decimal

/-! ## Texts under a key -/

variable {key text : String}

theorem parseKeyedInt64_error_iff {failure : Failure} :
    parseKeyedInt64 key text = .error failure ↔
      ∃ problem, Decimal.Refused text.toList problem ∧
        failure = .configParse key (.integer problem) := by
  simp only [← Decimal.parseInt64_error_iff, parseKeyedInt64]
  cases Decimal.parseInt64 text with
  | error problem => simp [eq_comm]
  | ok n => simp

/-- What reading an integer under a key has to come to. -/
structure ReadsInteger (key text : String) (outcome : Except Failure Int64) : Prop where
  /-- Taken are the decimal texts of which the whole value is in range. -/
  accepted : (∃ n, outcome = .ok n) ↔
    ∃ value, Decimal.InRange value ∧ Decimal.Denotes text.toList value
  /-- They are taken as the values that they denote. -/
  value : ∀ n, outcome = .ok n ↔ Decimal.Denotes text.toList n.toInt
  /-- All others are refused under the key, for the reason that there is. -/
  refused : ∀ failure, outcome = .error failure ↔
    ∃ problem, Decimal.Refused text.toList problem ∧ failure = .configParse key (.integer problem)

theorem readsInteger_parseKeyedInt64 (key text : String) :
    ReadsInteger key text (parseKeyedInt64 key text) := by
  constructor
  case accepted =>
    simp only [Configuration.parseKeyedInt64_ok_iff]
    exact Decimal.exists_toInt_iff
  case value => exact fun n => Configuration.parseKeyedInt64_ok_iff key
  case refused => exact fun failure => parseKeyedInt64_error_iff

/-- Where a class says something, that is what is read. -/
theorem Annotations.integer_eq {m : Annotations} (hm : m.text key = text) (htext : text ≠ "") :
    m.integer key = parseKeyedInt64 key text := by
  rw [integer, hm, if_neg htext]

/-- Where a claim says something, that is what is read, whatever it overrides. -/
theorem Configuration.overrideInteger_eq (htext : text ≠ "") (inherited : Int64) :
    overrideInteger key text inherited = parseKeyedInt64 key text := by
  rw [overrideInteger, if_neg htext]

/-! ## Whole requests -/

open OfflineCheck

/-- Where all checks but one are passed, an outcome fails with what that one says. -/
theorem Guarded.single_out {κ ε α : Type} {verdict : κ → Option ε} {checks : List κ} {check : κ}
    {outcome : Except ε α} (h : Guarded verdict checks outcome) (hcheck : check ∈ checks)
    (hothers : ∀ other ∈ checks, other ≠ check → verdict other = none) :
    failure? outcome = verdict check := by
  rw [Guarded] at h
  rw [h]
  clear h
  induction checks with
  | nil => cases hcheck
  | cons first rest ih =>
    rw [List.forall_mem_cons] at hothers
    rw [List.findSome?_cons]
    rcases hfirst : verdict first with _ | failure
    · by_cases hrest : check ∈ rest
      · exact ih hrest hothers.2
      · obtain rfl : check = first := (List.mem_cons.mp hcheck).resolve_right hrest
        rw [hfirst, List.findSome?_eq_none_iff]
        intro other hother
        exact hothers.2 other hother fun hsame => hrest (hsame ▸ hother)
    · by_cases hsame : first = check
      · rw [← hsame, hfirst]
      · rw [hothers.1 hsame] at hfirst
        cases hfirst

/-- Outcomes that fail with the same failures are the same if their values are. -/
theorem map_eq_of_failure?_eq {ε α β : Type} {x : Except ε α} {y : Except ε β} {f : α → β}
    (hfailure : failure? x = failure? y) (hvalue : ∀ a b, x = .ok a → y = .ok b → f a = b) :
    x.map f = y := by
  rcases x with failure | a
  · exact (failure?_eq_some_iff.mp hfailure.symm).symm
  · rcases failure?_eq_none_iff.mp hfailure.symm with ⟨b, rfl⟩
    exact congrArg Except.ok (hvalue a b rfl rfl)

/-- A request passes all checks of the first stage but one. -/
def ProvisionRequest.PassesBut (request : ProvisionRequest) (tokens : TokenSource)
    (check : OfflineCheck) : Prop :=
  ∀ other ∈ resolving, other ≠ check → other.Holds request tokens

variable {request : ProvisionRequest} {tokens : TokenSource}

/-- A request that fails at most one check of the first stage gets to hear of that one. -/
theorem failure?_resolveRequest {check : OfflineCheck} (hcheck : check ∈ resolving)
    (h : request.PassesBut tokens check) :
    failure? (ProvisionPlan.resolveRequest request) = check.refusal? request tokens := by
  refine (guarded_resolveRequest request tokens).single_out hcheck ?_
  intro other hother hne
  exact refusal?_eq_none_iff.mpr (h other hother hne)

theorem integerRefusal?_eq (htext : text ≠ "") :
    integerRefusal? key text = failure? (parseKeyedInt64 key text) := by
  rw [integerRefusal?, if_neg htext, failure?_parseKeyedInt64]

/-- A request whose claim sets a knob comes to what its text is read as, if nothing else is wrong. -/
theorem resolveRequest_claimInteger {knob : Knob}
    (hgiven : request.claimAnnotations.text knob.key = text) (htext : text ≠ "")
    (hothers : request.PassesBut tokens (.claimInteger knob)) :
    (ProvisionPlan.resolveRequest request).map (·.2.knobs.get knob) =
      parseKeyedInt64 knob.key text := by
  have hmem : OfflineCheck.claimInteger knob ∈ resolving := by
    cases knob <;> simp [resolving]
  refine map_eq_of_failure?_eq ?_ ?_
  · rw [failure?_resolveRequest hmem hothers, refusal?, hgiven, integerRefusal?_eq htext]
  · rintro ⟨claim, config⟩ n hresolved hread
    rcases ProvisionPlan.parts_of_resolved hresolved with ⟨hclaim, cls, -, hmerged⟩
    have hknob : claim.knobs.get knob = text := by
      rw [(Claim.readFrom hclaim).knobs knob, hgiven]
    have hdenotes := (Configuration.merged_of_resolve hmerged).2.overridden knob
    rw [hknob, ← Configuration.parseKeyedInt64_ok_iff knob.key, hread] at hdenotes
    exact (Except.ok.inj (hdenotes htext)).symm

/-- A request whose class sets a knob that its claim leaves alone comes to what the text of the class
is read as, if nothing else is wrong. -/
theorem resolveRequest_classInteger {knob : Knob}
    (hgiven : request.classParameters.text knob.key = text) (htext : text ≠ "")
    (hsilent : request.claimAnnotations.text knob.key = "")
    (hothers : request.PassesBut tokens (.classInteger knob)) :
    (ProvisionPlan.resolveRequest request).map (·.2.knobs.get knob) =
      parseKeyedInt64 knob.key text := by
  have hmem : OfflineCheck.classInteger knob ∈ resolving := by
    cases knob <;> simp [resolving]
  refine map_eq_of_failure?_eq ?_ ?_
  · rw [failure?_resolveRequest hmem hothers, refusal?, hgiven, integerRefusal?_eq htext]
  · rintro ⟨claim, config⟩ n hresolved hread
    rcases ProvisionPlan.parts_of_resolved hresolved with ⟨hclaim, cls, hcls, hmerged⟩
    have hknob : claim.knobs.get knob = "" := by
      rw [(Claim.readFrom hclaim).knobs knob, hsilent]
    have hclass := (StorageClass.readFrom hcls).knobs knob
    rw [Annotations.integer_eq hgiven htext, hread] at hclass
    show config.knobs.get knob = n
    rw [(Configuration.merged_of_resolve hmerged).2.inherited knob hknob]
    exact (Except.ok.inj hclass).symm

/-! ## Expiries -/

/-- An expiry is refused if it denotes a negative integer or none at all. -/
theorem Configuration.checkExpiry_error_iff {failure : Failure} :
    checkExpiry text = .error failure ↔
      (∃ n : Int64, Decimal.Denotes text.toList n.toInt ∧ n.toInt < 0 ∧
        failure = .validation (.negativeExpiry Key.statCacheExpireSeconds n)) ∨
      (text ≠ "" ∧ ∃ problem, Decimal.Refused text.toList problem ∧
        failure = .configParse Key.statCacheExpireSeconds (.integer problem)) := by
  simp only [← parseKeyedInt64_ok_iff Key.statCacheExpireSeconds, ← parseKeyedInt64_error_iff,
    checkExpiry]
  by_cases hempty : text = ""
  · -- what says nothing is no integer either
    subst hempty
    have hread : ∀ n, parseKeyedInt64 Key.statCacheExpireSeconds "" ≠ .ok n := by
      intro n hn
      rw [parseKeyedInt64_ok_iff] at hn
      exact hn.ne_nil rfl
    simp [hread]
  · rw [if_neg hempty]
    rcases parseKeyedInt64 Key.statCacheExpireSeconds text with other | n
    · simp [hempty]
    · have hsign : n < 0 ↔ n.toInt < 0 := Int64.lt_iff_toInt_lt
      by_cases hn : n.toInt < 0
      · simp [hsign, hn, eq_comm]
      · simp [hsign, hn]

/-! ## The law -/

/-- What is made of a text wherever an integer is read. -/
structure IntegerTextLaw (text : String) : Prop where
  /-- As a parameter of a storage class. -/
  cls : ∀ (knob : Knob) (m : Annotations), m.text knob.key = text → text ≠ "" →
    ReadsInteger knob.key text (m.integer knob.key)
  /-- As the override of a claim, whatever it overrides. -/
  claim : ∀ (knob : Knob) inherited, text ≠ "" →
    ReadsInteger knob.key text (Configuration.overrideInteger knob.key text inherited)
  /-- The two have the same value or the same failure. -/
  same : ∀ (knob : Knob) (m : Annotations) inherited, m.text knob.key = text → text ≠ "" →
    m.integer knob.key = Configuration.overrideInteger knob.key text inherited
  /-- As what a whole request comes to through its class, if nothing else is wrong with it. -/
  throughClass : ∀ (knob : Knob) (request : ProvisionRequest) tokens,
    request.classParameters.text knob.key = text → text ≠ "" →
    request.claimAnnotations.text knob.key = "" →
    request.PassesBut tokens (.classInteger knob) →
    ReadsInteger knob.key text ((ProvisionPlan.resolveRequest request).map (·.2.knobs.get knob))
  /-- As what a whole request comes to through its claim, if nothing else is wrong with it. -/
  throughClaim : ∀ (knob : Knob) (request : ProvisionRequest) tokens,
    request.claimAnnotations.text knob.key = text → text ≠ "" →
    request.PassesBut tokens (.claimInteger knob) →
    ReadsInteger knob.key text ((ProvisionPlan.resolveRequest request).map (·.2.knobs.get knob))
  /-- As an expiry, where it is handed on as it is. -/
  expiry : ∀ checked, Configuration.checkExpiry text = .ok checked ↔
    checked = text ∧ (text = "" ∨
      ∃ value, Decimal.InRange value ∧ Decimal.Denotes text.toList value ∧ 0 ≤ value)
  /-- As an expiry that is negative or no integer. -/
  expiryRefused : ∀ failure, Configuration.checkExpiry text = .error failure ↔
    (∃ n : Int64, Decimal.Denotes text.toList n.toInt ∧ n.toInt < 0 ∧
      failure = .validation (.negativeExpiry Key.statCacheExpireSeconds n)) ∨
    (text ≠ "" ∧ ∃ problem, Decimal.Refused text.toList problem ∧
      failure = .configParse Key.statCacheExpireSeconds (.integer problem))
  /-- As an expiry that has been checked before. -/
  idempotent : ∀ checked, Configuration.checkExpiry text = .ok checked →
    Configuration.checkExpiry checked = .ok checked

/-- A text is read as an integer by one grammar and one range, wherever it is read. -/
theorem integer_texts (text : String) : IntegerTextLaw text := by
  constructor
  case cls =>
    intro knob m hm htext
    rw [Annotations.integer_eq hm htext]
    exact readsInteger_parseKeyedInt64 knob.key text
  case claim =>
    intro knob inherited htext
    rw [Configuration.overrideInteger_eq htext]
    exact readsInteger_parseKeyedInt64 knob.key text
  case same =>
    intro knob m inherited hm htext
    rw [Annotations.integer_eq hm htext, Configuration.overrideInteger_eq htext]
  case throughClass =>
    intro knob request tokens hgiven htext hsilent hothers
    rw [resolveRequest_classInteger hgiven htext hsilent hothers]
    exact readsInteger_parseKeyedInt64 knob.key text
  case throughClaim =>
    intro knob request tokens hgiven htext hothers
    rw [resolveRequest_claimInteger hgiven htext hothers]
    exact readsInteger_parseKeyedInt64 knob.key text
  case expiry =>
    intro checked
    rw [Configuration.checkExpiry_ok_iff, ← Decimal.exists_toInt_iff]
  case expiryRefused => exact fun failure => Configuration.checkExpiry_error_iff
  case idempotent =>
    intro checked hchecked
    obtain rfl := (Configuration.checkExpiry_ok_iff.mp hchecked).1
    exact hchecked

end BucketVolume
