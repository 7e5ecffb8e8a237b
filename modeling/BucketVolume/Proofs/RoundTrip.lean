import BucketVolume.Proofs.Inspection

/-!
# BucketVolume.Proofs.RoundTrip — requests and volumes survive as texts

Between provisioning and teardown a volume is nothing but a JSON text that the host keeps, and a
request reaches the provisioner as one. Both types are written with a member for every field and read
field by field, so whichever text of a value is kept, on its own or in a file, the value itself comes
back; and since it does, a text belongs to one value only.

* `RoundTrips.of_rendered` — what follows for a type once its written texts are read back;
* `roundTrips_hostTypes` — the two types that hosts exchange.
-/

namespace BucketVolume

open Json CommandLine

/-! ## Types whose values survive -/

/-- The values of a type survive as texts: each is read back from all of its texts, also out of a
file, and it shares none of them with another value. -/
structure RoundTrips {α : Type} (toJson : α → Json)
    (ofJsonText : String → Except ReadProblem α) : Prop where
  read : ∀ a text, Rendered (toJson a) text → ofJsonText text = .ok a
  file : ∀ a text, Rendered (toJson a) text →
    ∀ (s : Surroundings) (path : String), s.contentOf path = .ok (Text.bytesOf text) →
      readJsonFile s ofJsonText path = .ok a
  shared : ∀ a b text, Rendered (toJson a) text → Rendered (toJson b) text → a = b
  compact : ∀ a b, (toJson a).compact = (toJson b).compact ↔ a = b
  pretty : ∀ a b, (toJson a).pretty = (toJson b).pretty ↔ a = b

theorem RoundTrips.of_rendered {α : Type} {toJson : α → Json}
    {ofJsonText : String → Except ReadProblem α}
    (h : ∀ {a : α} {text : String}, Rendered (toJson a) text → ofJsonText text = .ok a) :
    RoundTrips toJson ofJsonText := by
  have hshared : ∀ {a b : α} {text : String}, Rendered (toJson a) text →
      Rendered (toJson b) text → a = b := by
    intro a b text ha hb
    -- reading the text gives both of them
    have hboth := (h ha).symm.trans (h hb)
    exact Except.ok.inj hboth
  constructor
  case read => exact fun a text htext => h htext
  case file => exact fun a text htext s path hfile => readJsonFile_ok hfile (h htext)
  case shared => exact fun a b text ha hb => hshared ha hb
  case compact =>
    intro a b
    constructor
    · intro hsame
      have ha : Rendered (toJson a) (toJson b).compact := hsame ▸ .compact
      exact hshared ha .compact
    · rintro rfl
      rfl
  case pretty =>
    intro a b
    constructor
    · intro hsame
      have ha : Rendered (toJson a) (toJson b).pretty := hsame ▸ .pretty
      exact hshared ha .pretty
    · rintro rfl
      rfl

/-- What hosts hand over and what they get back survive as texts. -/
theorem roundTrips_hostTypes :
    RoundTrips ProvisionRequest.toJson ProvisionRequest.ofJsonText ∧
      RoundTrips PersistentVolume.toJson PersistentVolume.ofJsonText :=
  ⟨.of_rendered ProvisionRequest.ofJsonText_rendered,
    .of_rendered PersistentVolume.ofJsonText_rendered⟩

end BucketVolume
