import Mathlib.Data.List.Forall2
import BucketVolume.Proofs.Activity

/-!
# BucketVolume.Proofs.Tandem — two activities side by side

Two activities run in tandem if they ask the same questions and draw the same tokens, while what they
report and return may differ in a way that is fixed beforehand. The journals that they start from need
only hold the same calls, since that is all of a journal that an activity can hear of. Sequences are
put together from their parts (`Tandem.bind`), so a workflow and a variant of it are compared line by
line, and only where they differ is there anything to show.

* `Tandem.bind`, `Tandem.emit`, `Tandem.pure` — the rules;
* `tandem_self` — an activity beside itself, if all that it reports may stand beside itself.
-/

namespace BucketVolume

open Activity

/-! ## Entries that correspond -/

section Entries

variable {Same : Event → Event → Prop}

/-- Two entries are the same look-up, the same call, or events that correspond. -/
inductive Entry.Match (Same : Event → Event → Prop) : Entry → Entry → Prop where
  | event {e e' : Event} (same : Same e e') : Match Same (.event e) (.event e')
  | lookup (ref : SecretRef) : Match Same (.lookup ref) (.lookup ref)
  | call (c : Call) : Match Same (.call c) (.call c)

variable {entries entries' : List Entry}

theorem callsOf_match (h : List.Forall₂ (Entry.Match Same) entries entries') :
    callsOf entries = callsOf entries' := by
  induction h with
  | nil => rfl
  | cons hentry _ ih =>
    cases hentry <;> simp [ih]

theorem lookupsOf_match (h : List.Forall₂ (Entry.Match Same) entries entries') :
    lookupsOf entries = lookupsOf entries' := by
  induction h with
  | nil => rfl
  | cons hentry _ ih =>
    cases hentry <;> simp [ih]

theorem eventsOf_match (h : List.Forall₂ (Entry.Match Same) entries entries') :
    List.Forall₂ Same (eventsOf entries) (eventsOf entries') := by
  induction h with
  | nil => exact .nil
  | cons hentry _ ih =>
    cases hentry with
    | event same =>
      simp only [eventsOf_cons, Entry.event?, Option.toList_some, List.singleton_append]
      exact .cons same ih
    | lookup ref => simpa using ih
    | call c => simpa using ih

/-- Entries match themselves if their events do. -/
theorem match_self (h : ∀ e ∈ eventsOf entries, Same e e) :
    List.Forall₂ (Entry.Match Same) entries entries := by
  rw [List.forall₂_same]
  intro entry hentry
  cases entry with
  | event e => exact .event (h e (List.mem_filterMap.mpr ⟨_, hentry, rfl⟩))
  | lookup ref => exact .lookup ref
  | call c => exact .call c

end Entries

/-- Two outcomes are the same failure, or values that correspond. -/
inductive Parallel {ε α β : Type} (R : α → β → Prop) : Except ε α → Except ε β → Prop where
  | failed (failure : ε) : Parallel R (.error failure) (.error failure)
  | done {a : α} {b : β} (related : R a b) : Parallel R (.ok a) (.ok b)

theorem Parallel.eq {ε α : Type} {x y : Except ε α} (h : Parallel Eq x y) : x = y := by
  cases h with
  | failed failure => rfl
  | done related => rw [related]

/-! ## Activities in tandem -/

variable {Same : Event → Event → Prop} {ε α β α' β' : Type}

/-- Two activities fail in the same way or return values that correspond. On the way they look up the
same secrets, make the same calls and draw the same tokens, and what they report corresponds. -/
def Tandem (Same : Event → Event → Prop) (R : α → β → Prop) (x : Activity ε α)
    (y : Activity ε β) : Prop :=
  ∀ host tokens journal journal', callsOf journal = callsOf journal' →
    ∃ result result' left entries entries',
      x.perform host ⟨tokens, journal⟩ = (result, ⟨left, journal ++ entries⟩) ∧
      y.perform host ⟨tokens, journal'⟩ = (result', ⟨left, journal' ++ entries'⟩) ∧
      Parallel R result result' ∧ List.Forall₂ (Entry.Match Same) entries entries'

namespace Tandem

theorem pure {R : α → β → Prop} {a : α} {b : β} (h : R a b) :
    Tandem Same R (pure a : Activity ε α) (pure b) := by
  intro host tokens journal journal' _
  refine ⟨_, _, tokens, [], [], ?_, ?_, .done h, .nil⟩
  · rw [perform_pure, List.append_nil]
  · rw [perform_pure, List.append_nil]

theorem emit {e e' : Event} (h : Same e e') :
    Tandem Same Eq (emit e : Activity ε Unit) (emit e') := by
  intro host tokens journal journal' _
  exact ⟨_, _, tokens, _, _, rfl, rfl, .done rfl, .cons (.event h) .nil⟩

/-- What follows two activities in tandem runs in tandem if it does so on values that correspond. -/
theorem bind {R : α → β → Prop} {S : α' → β' → Prop} {x : Activity ε α} {y : Activity ε β}
    {f : α → Activity ε α'} {g : β → Activity ε β'} (hxy : Tandem Same R x y)
    (hfg : ∀ a b, R a b → Tandem Same S (f a) (g b)) : Tandem Same S (x >>= f) (y >>= g) := by
  intro host tokens journal journal' hcalls
  rcases hxy host tokens journal journal' hcalls with
    ⟨_, _, left, entries, entries', hx, hy, hresult, hentries⟩
  cases hresult with
  | failed failure =>
    refine ⟨_, _, left, entries, entries', ?_, ?_, .failed failure, hentries⟩
    · rw [perform_bind, hx]
    · rw [perform_bind, hy]
  | @done a b related =>
    -- the second parts start from journals with the same calls again
    have hcalls' : callsOf (journal ++ entries) = callsOf (journal' ++ entries') := by
      rw [callsOf_append, callsOf_append, hcalls, callsOf_match hentries]
    rcases hfg a b related host left _ _ hcalls' with
      ⟨result, result', rest, more, more', hf, hg, hresult, hmore⟩
    refine ⟨result, result', rest, entries ++ more, entries' ++ more', ?_, ?_, hresult,
      List.rel_append hentries hmore⟩
    · rw [perform_bind, hx]
      simp only [hf, List.append_assoc]
    · rw [perform_bind, hy]
      simp only [hg, List.append_assoc]

end Tandem

/-- An activity runs in tandem with itself if its journal is heard of through its calls alone, and all
that it reports corresponds to itself. -/
theorem tandem_self {x : Activity ε α}
    (h : ∀ host tokens calls, ∃ result left entries, (∀ e ∈ eventsOf entries, Same e e) ∧
      ∀ journal, callsOf journal = calls →
        x.perform host ⟨tokens, journal⟩ = (result, ⟨left, journal ++ entries⟩)) :
    Tandem Same Eq x x := by
  intro host tokens journal journal' hcalls
  rcases h host tokens (callsOf journal) with ⟨result, left, entries, hevents, hperform⟩
  have hresult : Parallel Eq result result := by
    cases result with
    | error failure => exact .failed failure
    | ok a => exact .done rfl
  exact ⟨result, result, left, entries, entries, hperform journal rfl, hperform journal' hcalls.symm,
    hresult, match_self hevents⟩

end BucketVolume
