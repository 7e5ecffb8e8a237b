import BucketVolume.Credential
import BucketVolume.Proofs.Quoted

/-!
# BucketVolume.Proofs.Redaction — what logs show of credentials

The text that stands for credentials in logs shows of which shape they are, the service instance id of
an API key, and the access key of a pair; of the key values it shows nothing. Both halves matter: a log
must not tell two secrets apart, and it must tell apart all that may be known, whatever texts that is
made of. The second half rests on `Text.quoted_append_inj`, since what is shown is quoted.

* `shownId_append_inj` — a service instance id is told from its shown form, a missing one included;
* `redacted_eq_iff` — two texts are equal exactly for credentials that are publicly the same.
-/

namespace BucketVolume.CredentialKind

/-- Credentials that show the same to everyone: the key values may differ. -/
inductive SamePublic : CredentialKind → CredentialKind → Prop where
  | apiKey (key key' : String) (serviceInstanceId : Option String) :
    SamePublic (.apiKey key serviceInstanceId) (.apiKey key' serviceInstanceId)
  | accessKeys (accessKey secretKey secretKey' : String) :
    SamePublic (.accessKeys accessKey secretKey) (.accessKeys accessKey secretKey')

/-- An optional text as logs show it. -/
def shownId : Option String → String
  | none => "None"
  | some id => "Some(" ++ Text.quoted id ++ ")"

theorem redacted_apiKey (key : String) (id : Option String) :
    (apiKey key id).redacted =
      "ApiKey \x7b api_key: \"<redacted>\", service_instance_id: " ++ (shownId id ++ " \x7d") := by
  rw [← String.append_assoc]
  cases id with
  | none => rfl
  | some id => rfl

theorem redacted_accessKeys (accessKey secretKey : String) :
    (accessKeys accessKey secretKey).redacted =
      "AccessKeys \x7b access_key: " ++
        (Text.quoted accessKey ++ ", secret_key: \"<redacted>\" \x7d") := by
  rw [← String.append_assoc]
  rfl

/-- The two shapes differ in the second letter of what is shown. -/
theorem redacted_apiKey_ne (key : String) (id : Option String) (accessKey secretKey : String) :
    (apiKey key id).redacted ≠ (accessKeys accessKey secretKey).redacted := by
  intro h
  rw [redacted_apiKey, redacted_accessKeys] at h
  have hsecond := congrArg (fun shown => shown.toList[1]?) h
  simp only [String.toList_append] at hsecond
  rw [List.getElem?_append_left (by decide), List.getElem?_append_left (by decide)] at hsecond
  exact absurd hsecond (by decide)

/-- An optional text is told from its shown form, and so is the place where it ends. -/
theorem shownId_append_inj {id id' : Option String} {r s : String}
    (h : shownId id ++ r = shownId id' ++ s) : id = id' ∧ r = s := by
  cases id with
  | none =>
    cases id' with
    | none => exact ⟨rfl, (String.append_right_inj _).mp h⟩
    | some id' =>
      have hchars := congrArg String.toList h
      simp [shownId] at hchars
  | some id =>
    cases id' with
    | none =>
      have hchars := congrArg String.toList h
      simp [shownId] at hchars
    | some id' =>
      simp only [shownId, String.append_assoc, String.append_right_inj, Text.quoted_append_inj] at h
      exact ⟨congrArg some h.1, h.2⟩

/-- Logs show of credentials exactly what is public of them. -/
theorem redacted_eq_iff (a b : CredentialKind) : a.redacted = b.redacted ↔ a.SamePublic b := by
  constructor
  · intro h
    cases a with
    | apiKey key id =>
      cases b with
      | apiKey key' id' =>
        rw [redacted_apiKey, redacted_apiKey, String.append_right_inj] at h
        obtain ⟨rfl, -⟩ := shownId_append_inj h
        exact .apiKey key key' id
      | accessKeys accessKey' secretKey' => exact absurd h (redacted_apiKey_ne _ _ _ _)
    | accessKeys accessKey secretKey =>
      cases b with
      | apiKey key' id' => exact absurd h.symm (redacted_apiKey_ne _ _ _ _)
      | accessKeys accessKey' secretKey' =>
        rw [redacted_accessKeys, redacted_accessKeys, String.append_right_inj,
          Text.quoted_append_inj] at h
        obtain ⟨rfl, -⟩ := h
        exact .accessKeys accessKey secretKey secretKey'
  · -- what is shown is written without looking at the key values
    intro h
    cases h with
    | apiKey key key' id => rfl
    | accessKeys accessKey secretKey secretKey' => rfl

/-- An id that reads like the rest of the text is not taken for it. -/
example : (apiKey "k" (some "\") \x7d")).redacted ≠ (apiKey "k" (some "")).redacted := by decide

end BucketVolume.CredentialKind
