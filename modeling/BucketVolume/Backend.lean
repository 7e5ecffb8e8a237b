/-!
# BucketVolume.Backend — the object store at the other end of a session

A backend answers each call, and its answer may depend on the calls made before it. Failures of the
backend are its own texts. `Switches` is a backend that succeeds unless it is told otherwise; its
answers do not depend on what was called before.
-/

namespace BucketVolume

/-- A call that leaves the provisioner for the object store. -/
inductive Call where
  | openSession (endpoint region iamEndpoint : String)
  | createBucket (bucket : String)
  | checkAccess (bucket : String)
  | checkObjectPath (bucket objectPath : String)
  | deleteBucket (bucket : String)
deriving DecidableEq, Repr

/-- Whether the call is about a bucket, and not the opening of a session. -/
def Call.isBucketCall : Call → Bool
  | .openSession .. => false
  | _ => true

/-- How an object store answers, given the calls made before. Creating a bucket may come with a note
that is no failure. -/
structure Backend where
  createBucket : List Call → String → Except String (Option String)
  checkAccess : List Call → String → Except String Unit
  checkObjectPath : List Call → String → String → Except String Bool
  deleteBucket : List Call → String → Except String Unit

/-! ## A scripted backend -/

/-- Which calls fail, whether object paths exist, and what creating a bucket notes. -/
structure Switches where
  failCreate : Bool := false
  failAccess : Bool := false
  failObjectPathCheck : Bool := false
  objectPathMissing : Bool := false
  failDelete : Bool := false
  createNote : Option String := none
deriving DecidableEq, Repr

/-- One change of the switches; none is ever turned back. -/
inductive Setting where
  | failCreate
  | failAccess
  | failObjectPathCheck
  | objectPathMissing
  | failDelete
  | createNote (note : String)
deriving DecidableEq, Repr

namespace Switches

def set (switches : Switches) : Setting → Switches
  | .failCreate => { switches with failCreate := true }
  | .failAccess => { switches with failAccess := true }
  | .failObjectPathCheck => { switches with failObjectPathCheck := true }
  | .objectPathMissing => { switches with objectPathMissing := true }
  | .failDelete => { switches with failDelete := true }
  | .createNote note => { switches with createNote := some note }

/-- The answer of an operation that fails if its switch says so. -/
def answer {α : Type} (fails : Bool) (operation : String) (value : α) : Except String α :=
  if fails then .error ("simulated " ++ operation ++ " failure") else .ok value

/-- The backend that the switches describe. -/
def backend (switches : Switches) : Backend where
  createBucket _ _ := answer switches.failCreate "create" switches.createNote
  checkAccess _ _ := answer switches.failAccess "access" ()
  checkObjectPath _ _ _ :=
    answer switches.failObjectPathCheck "object-path check" !switches.objectPathMissing
  deleteBucket _ _ := answer switches.failDelete "delete" ()

end Switches

end BucketVolume
