import BucketVolume.Failure

/-!
# BucketVolume.Token — unique parts of generated bucket names

A token source hands out its tokens in order and counts them; once they are gone it fails and its
count stays.
-/

namespace BucketVolume

/-- Tokens still to be handed out, and how many were. -/
structure TokenSource where
  remaining : List String
  issued : Nat := 0
deriving DecidableEq, Repr

namespace TokenSource

/-- Takes the next token. -/
def draw (source : TokenSource) : Except TokenFailure String × TokenSource :=
  match source.remaining with
  | [] => (.error ⟨"token sequence exhausted"⟩, source)
  | token :: rest => (.ok token, ⟨rest, source.issued + 1⟩)

end TokenSource

/-! ## Random tokens -/

/-- Two hexadecimal digits. -/
private def hexPair (n : Nat) : List Char :=
  [Nat.digitChar (n / 16 % 16), Nat.digitChar (n % 16)]

/-- The token of sixteen random bytes: a version 4 identifier, that is, 32 hexadecimal digits in five
groups, with the version and variant bits set. -/
def randomToken (bytes : List UInt8) : String :=
  let marked := bytes.mapIdx fun i b =>
    if i = 6 then b.toNat % 16 + 0x40 else if i = 8 then b.toNat % 64 + 0x80 else b.toNat
  let group (start count : Nat) : List Char := ((marked.drop start).take count).flatMap hexPair
  String.ofList (group 0 4 ++ '-' :: group 4 2 ++ '-' :: group 6 2 ++ '-' :: group 8 2 ++
    '-' :: group 10 6)

/-! ## Bucket names -/

/-- What every generated bucket name starts with. -/
def generatedBucketStart : String := "tmp-s3fs-"

/-- The name of a bucket that is generated for a token. -/
def generatedBucketName (token : String) : String :=
  generatedBucketStart ++ token

end BucketVolume
