import Std.Data.ExtTreeMap
import BucketVolume.Text.Utf8

/-!
# BucketVolume.Secret — named secrets and where they are kept

A secret holds bytes under names. A `SecretStore` is what has been put into it, the latest first, so
that a look-up finds the last insertion under exactly its namespace and name and nothing older.
-/

namespace BucketVolume

/-- The payload of a secret. -/
abbrev SecretData := Std.ExtTreeMap String (List UInt8)

/-- The payload made of pairs of texts; a repeated name keeps its last text. -/
def SecretData.ofTexts (pairs : List (String × String)) : SecretData :=
  pairs.foldl (fun data pair => data.insert pair.1 (Text.bytesOf pair.2)) ∅

/-- The text of a field. -/
def SecretData.read? (data : SecretData) (field : String) : Option String :=
  data[field]?.map Text.textOf

/-- Where a secret is. -/
structure SecretRef where
  name : String
  namespaceName : String
deriving DecidableEq, Repr

/-- Secrets by reference, the latest insertion first. -/
structure SecretStore where
  insertions : List (SecretRef × SecretData) := []

namespace SecretStore

/-- Puts a secret in the place of an earlier one under the same reference. -/
def insert (store : SecretStore) (ref : SecretRef) (data : SecretData) : SecretStore :=
  ⟨(ref, data) :: store.insertions⟩

/-- The secret under a reference. -/
def find? (store : SecretStore) (ref : SecretRef) : Option SecretData :=
  store.insertions.lookup ref

/-- The secret under a reference, or the store's own words for a missing one. -/
def get (store : SecretStore) (ref : SecretRef) : Except String SecretData :=
  match store.find? ref with
  | some data => .ok data
  | none => .error ("secrets \"" ++ ref.name ++ "\" not found")

end SecretStore

end BucketVolume
