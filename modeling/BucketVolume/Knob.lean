/-!
# BucketVolume.Knob — the five numeric tuning values

A claim may override five integers that its storage class sets and the mount driver receives. They
are one family: a knob names one of them, and `Knobs α` holds one value for each.
-/

namespace BucketVolume

/-- A numeric tuning value of the mount driver. -/
inductive Knob where
  | chunkSizeMb
  | parallelCount
  | multireqMax
  | statCacheSize
  | fuseRetryCount
deriving DecidableEq, Repr

namespace Knob

/-- The annotation that holds the knob's value. -/
def key : Knob → String
  | chunkSizeMb => "ibm.io/chunk-size-mb"
  | parallelCount => "ibm.io/parallel-count"
  | multireqMax => "ibm.io/multireq-max"
  | statCacheSize => "ibm.io/stat-cache-size"
  | fuseRetryCount => "ibm.io/s3fs-fuse-retry-count"

/-- The option that hands the knob's value to the mount driver. -/
def option : Knob → String
  | chunkSizeMb => "chunk-size-mb"
  | parallelCount => "parallel-count"
  | multireqMax => "multireq-max"
  | statCacheSize => "stat-cache-size"
  | fuseRetryCount => "s3fs-fuse-retry-count"

/-- All knobs, in the order in which a storage class is read. -/
def all : List Knob := [chunkSizeMb, parallelCount, multireqMax, statCacheSize, fuseRetryCount]

end Knob

/-- One value for each knob. -/
structure Knobs (α : Type) where
  chunkSizeMb : α
  parallelCount : α
  multireqMax : α
  statCacheSize : α
  fuseRetryCount : α
deriving DecidableEq, Repr

namespace Knobs

variable {α : Type}

/-- The value of one knob. -/
def get (k : Knobs α) : Knob → α
  | .chunkSizeMb => k.chunkSizeMb
  | .parallelCount => k.parallelCount
  | .multireqMax => k.multireqMax
  | .statCacheSize => k.statCacheSize
  | .fuseRetryCount => k.fuseRetryCount

/-- The knobs with the values of a function. -/
def ofFn (f : Knob → α) : Knobs α where
  chunkSizeMb := f .chunkSizeMb
  parallelCount := f .parallelCount
  multireqMax := f .multireqMax
  statCacheSize := f .statCacheSize
  fuseRetryCount := f .fuseRetryCount

@[simp] theorem get_ofFn (f : Knob → α) (knob : Knob) : (ofFn f).get knob = f knob := by
  cases knob <;> rfl

/-- Two families with the same value for each knob are one. -/
@[ext] theorem ext_get {a b : Knobs α} (h : ∀ knob, a.get knob = b.get knob) : a = b := by
  obtain ⟨a₁, a₂, a₃, a₄, a₅⟩ := a
  obtain ⟨b₁, b₂, b₃, b₄, b₅⟩ := b
  have h₁ : a₁ = b₁ := h .chunkSizeMb
  have h₂ : a₂ = b₂ := h .parallelCount
  have h₃ : a₃ = b₃ := h .multireqMax
  have h₄ : a₄ = b₄ := h .statCacheSize
  have h₅ : a₅ = b₅ := h .fuseRetryCount
  simp [h₁, h₂, h₃, h₄, h₅]

instance [Inhabited α] : Inhabited (Knobs α) := ⟨ofFn fun _ => default⟩

end Knobs

end BucketVolume
