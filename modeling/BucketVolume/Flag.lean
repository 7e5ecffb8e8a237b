/-!
# BucketVolume.Flag — truth values as annotations write them

Twelve words are read as truth values; two of them are written.
-/

namespace BucketVolume.Flag

/-- The words read as true. -/
def trueWords : List String := ["1", "t", "T", "TRUE", "true", "True"]

/-- The words read as false. -/
def falseWords : List String := ["0", "f", "F", "FALSE", "false", "False"]

/-- The truth value that a word denotes. -/
def parse? (word : String) : Option Bool :=
  if word ∈ trueWords then some true
  else if word ∈ falseWords then some false
  else none

/-- The word that is written for a truth value. -/
def render (b : Bool) : String :=
  if b then "true" else "false"

@[simp] theorem parse?_render (b : Bool) : parse? (render b) = some b := by
  cases b <;> decide

end BucketVolume.Flag
