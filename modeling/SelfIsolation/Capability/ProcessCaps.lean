import SelfIsolation.Capability.CapSet

/-! # Capability sets of a process

A process has three sets: what it may use now, what it may take into use, and
what it hands on to programs it starts. The kernel exchanges them as two records
of 32-bit words, the first for bits 0 to 31 and the second for bits 32 to 63.
-/

namespace SelfIsolation

/-- The capability sets of a process. -/
structure ProcessCaps where
  /-- What the process may use now. -/
  effective : CapSet := ∅
  /-- What the process may take into use. -/
  permitted : CapSet := ∅
  /-- What the process hands on to programs it starts. -/
  inheritable : CapSet := ∅
  deriving DecidableEq

namespace ProcessCaps

/-- The sets with only `keep` left in the effective and the permitted one. -/
def restrict (sets : ProcessCaps) (keep : CapSet) : ProcessCaps :=
  { sets with effective := sets.effective ∩ keep, permitted := sets.permitted ∩ keep }

/-- The sets with nothing left to hand on. -/
def clearInheritable (sets : ProcessCaps) : ProcessCaps := { sets with inheritable := ∅ }

/-- What is both effective and permitted. -/
def retained (sets : ProcessCaps) : CapSet := sets.effective ∩ sets.permitted

/-- Going from `old` to `new` gives nothing back: the new permitted set is part of the old one,
and the new effective set part of what was effective or permitted. -/
def Narrows (old new : ProcessCaps) : Prop :=
  new.effective ⊆ old.effective ∪ old.permitted ∧ new.permitted ⊆ old.permitted

instance (old new : ProcessCaps) : Decidable (Narrows old new) :=
  inferInstanceAs (Decidable (_ ∧ _))

/-- The sets field by field, for messages about records. -/
def fieldsText (sets : ProcessCaps) : String :=
  let field (set : CapSet) := s!"CapSet({set.bits.toNat})"
  s!"CapabilitySets \x7b effective: {field sets.effective}, permitted: {field sets.permitted}, " ++
    s!"inheritable: {field sets.inheritable} \x7d"

end ProcessCaps

/-- One record of the kernel's exchange format: a word of each set. -/
structure CapRecord where
  effective : BitVec 32
  permitted : BitVec 32
  inheritable : BitVec 32
  deriving DecidableEq

/-- The kernel's exchange format for the sets of a process. -/
structure CapRecords where
  /-- The words for bits 0 to 31. -/
  low : CapRecord
  /-- The words for bits 32 to 63. -/
  high : CapRecord
  deriving DecidableEq

namespace CapRecords

/-- The records of the given sets. -/
def ofSets (sets : ProcessCaps) : CapRecords where
  low := ⟨sets.effective.words.1, sets.permitted.words.1, sets.inheritable.words.1⟩
  high := ⟨sets.effective.words.2, sets.permitted.words.2, sets.inheritable.words.2⟩

/-- The sets in the given records. -/
def toSets (records : CapRecords) : ProcessCaps where
  effective := CapSet.ofWords records.low.effective records.high.effective
  permitted := CapSet.ofWords records.low.permitted records.high.permitted
  inheritable := CapSet.ofWords records.low.inheritable records.high.inheritable

end CapRecords

end SelfIsolation
