import SelfIsolation.Proofs.Capability.Listing
import SelfIsolation.Proofs.Simulation.Standing

/-! # Dropping bits of the bounding set

A simulated kernel answers every drop alike, whatever was dropped before
(`SelfIsolation.SimulatedKernel.dropAnswer`), and a drop that it refuses is only
journaled. So what a number of drops leaves is known without going through them
(`SelfIsolation.SimulatedKernel.dropped`): each one journaled, and all bits of
capabilities gone or none (`SelfIsolation.SimulatedKernel.boundingWithout_all`).
-/

namespace SelfIsolation

/-! ## Dropping bits from a set -/

namespace CapSet

/-- The set without a bit, if it is the bit of a capability. -/
def dropBit (set : CapSet) (bit : Nat) : CapSet :=
  match Capability.ofBit? bit with
  | some capability => set.erase capability
  | none => set

/-- The set without those of the bits that are bits of capabilities. -/
def dropBits (set : CapSet) (bits : List Nat) : CapSet := bits.foldl dropBit set

/-- A set loses the bit that is dropped if it is one of a capability. -/
theorem containsBit_dropBit (set : CapSet) (dropped bit : Nat) :
    (set.dropBit dropped).containsBit bit =
      (set.containsBit bit && !(decide (bit = dropped) && (Capability.ofBit? bit).isSome)) := by
  unfold dropBit
  cases named : Capability.ofBit? dropped with
  | none =>
      by_cases same : bit = dropped
      · subst same
        rw [named, Option.isSome_none, Bool.and_false, Bool.not_false, Bool.and_true]
      · rw [decide_eq_false same, Bool.false_and, Bool.not_false, Bool.and_true]
  | some capability =>
      dsimp only
      unfold erase
      rw [containsBit_eraseBit, Capability.bit_of_ofBit? named]
      by_cases same : bit = dropped
      · subst same
        rw [named, decide_eq_true rfl, decide_eq_false (not_not_intro rfl)]
        rfl
      · rw [decide_eq_false same, decide_eq_true (Ne.symm same)]
        rfl

/-- A set loses the bits that are dropped and are ones of capabilities. -/
theorem containsBit_dropBits (set : CapSet) (bits : List Nat) (bit : Nat) :
    (set.dropBits bits).containsBit bit =
      (set.containsBit bit && !(decide (bit ∈ bits) && (Capability.ofBit? bit).isSome)) := by
  induction bits generalizing set with
  | nil => exact (Bool.and_true _).symm
  | cons dropped bits ih =>
      have rest := ih (set.dropBit dropped)
      rw [containsBit_dropBit] at rest
      refine rest.trans ?_
      rw [Bool.and_assoc, ← Bool.not_or, ← Bool.and_or_distrib_right, ← Bool.decide_or]
      simp only [List.mem_cons]

/-- Once every bit was dropped, those without a capability are left. -/
theorem containsBit_dropAll (set : CapSet) (bit : Nat) :
    (set.dropBits (List.range width)).containsBit bit =
      (set.containsBit bit && (Capability.ofBit? bit).isNone) := by
  rw [containsBit_dropBits]
  cases member : set.containsBit bit with
  | false => rfl
  | true =>
      have small : bit ∈ List.range width := List.mem_range.mpr (lt_width_of_containsBit member)
      rw [decide_eq_true small, Bool.true_and, Bool.true_and, Bool.true_and, Option.not_isSome]

/-- Dropping bits adds none. -/
theorem dropBits_subset (set : CapSet) (bits : List Nat) : set.dropBits bits ⊆ set := by
  rw [subset_iff]
  intro bit member
  rw [containsBit_dropBits, Bool.and_eq_true] at member
  exact member.1

end CapSet

/-! ## Dropping bits from the bounding set -/

namespace SimulatedKernel

/-- How a kernel answers when a bit is to be dropped from the bounding set. -/
def dropAnswer (kernel : SimulatedKernel) (bit : Nat) : Except Errno Unit :=
  match kernel.failure .dropBounding with
  | some errno => .error errno
  | none =>
    match Capability.ofBit? bit with
    | none => .error .einval
    | some _ => if kernel.process.has .setpcap then .ok () else .error .eperm

/-- The bounding set once bits were dropped, as far as the kernel lets them be dropped. -/
def boundingWithout (kernel : SimulatedKernel) (bits : List Nat) : CapSet :=
  if kernel.failure .dropBounding = none ∧ kernel.process.has .setpcap then
    kernel.process.bounding.dropBits bits
  else kernel.process.bounding

/-- The kernel once bits were dropped. -/
def dropped (kernel : SimulatedKernel) (bits : List Nat) : SimulatedKernel :=
  { kernel with
    process := { kernel.process with bounding := kernel.boundingWithout bits }
    journal := kernel.journal ++ bits.map .dropBounding }

variable {kernel : SimulatedKernel} {bit : Nat} {errno : Errno}

/-- Dropping bits adds none to the bounding set. -/
theorem boundingWithout_subset (kernel : SimulatedKernel) (bits : List Nat) :
    kernel.boundingWithout bits ⊆ kernel.process.bounding := by
  unfold boundingWithout
  split
  case isTrue => exact CapSet.dropBits_subset _ _
  case isFalse => exact CapSet.subset_refl _

/-- Where a failure is asked for, the bounding set stays as it is. -/
theorem boundingWithout_of_asked (asked : kernel.failure .dropBounding = some errno)
    (bits : List Nat) : kernel.boundingWithout bits = kernel.process.bounding := by
  refine if_neg fun may => ?_
  cases asked.symm.trans may.1

/-- Without `CAP_SETPCAP` the bounding set stays as it is. -/
theorem boundingWithout_of_unentitled (unentitled : ¬ kernel.process.has .setpcap = true)
    (bits : List Nat) : kernel.boundingWithout bits = kernel.process.bounding :=
  if_neg fun may => unentitled may.2

/-- A bit that is no capability cannot be dropped. -/
theorem boundingWithout_of_unknown (unknown : Capability.ofBit? bit = none) :
    kernel.boundingWithout [bit] = kernel.process.bounding := by
  have same : kernel.process.bounding.dropBits [bit] = kernel.process.bounding := by
    change CapSet.dropBit _ _ = _
    rw [CapSet.dropBit, unknown]
  unfold boundingWithout
  rw [same, ite_self]

/-- Once every bit was to be dropped, only bits without a capability are left, or all of them. -/
theorem boundingWithout_all (unasked : kernel.failure .dropBounding = none) :
    if kernel.process.has .setpcap then
      ∀ bit, (kernel.boundingWithout (List.range 64)).containsBit bit =
        (kernel.process.bounding.containsBit bit && (Capability.ofBit? bit).isNone)
    else kernel.boundingWithout (List.range 64) = kernel.process.bounding := by
  by_cases entitled : kernel.process.has .setpcap = true
  · have dropped : kernel.boundingWithout (List.range 64) =
        kernel.process.bounding.dropBits (List.range CapSet.width) := if_pos ⟨unasked, entitled⟩
    rw [if_pos entitled, dropped]
    exact CapSet.containsBit_dropAll _
  · rw [if_neg entitled]
    exact boundingWithout_of_unentitled entitled _

/-- Bits that are dropped one after the other are dropped together. -/
theorem boundingWithout_cons (kernel : SimulatedKernel) (bit : Nat) (bits : List Nat) :
    (kernel.dropped [bit]).boundingWithout bits = kernel.boundingWithout (bit :: bits) := by
  by_cases may : kernel.failure .dropBounding = none ∧ kernel.process.has .setpcap = true
  · have first : kernel.boundingWithout [bit] = kernel.process.bounding.dropBit bit := if_pos may
    have rest : (kernel.dropped [bit]).boundingWithout bits =
        (kernel.boundingWithout [bit]).dropBits bits := if_pos may
    rw [rest, first]
    exact (if_pos may).symm
  · have first : kernel.boundingWithout [bit] = kernel.process.bounding := if_neg may
    have rest : (kernel.dropped [bit]).boundingWithout bits = kernel.boundingWithout [bit] :=
      if_neg may
    rw [rest, first]
    exact (if_neg may).symm

theorem dropped_nil (kernel : SimulatedKernel) : kernel.dropped [] = kernel := by
  have same : kernel.boundingWithout [] = kernel.process.bounding := ite_self _
  unfold dropped
  rw [same, List.map_nil, List.append_nil]

/-- Drops that are made one after the other are made together. -/
theorem dropped_cons (kernel : SimulatedKernel) (bit : Nat) (bits : List Nat) :
    (kernel.dropped [bit]).dropped bits = kernel.dropped (bit :: bits) := by
  have same := boundingWithout_cons kernel bit bits
  unfold dropped at same ⊢
  dsimp only at same ⊢
  rw [same, List.append_assoc]
  rfl

/-- A drop that has no effect is only journaled. -/
theorem dropped_eq_enter (vain : kernel.boundingWithout [bit] = kernel.process.bounding) :
    kernel.dropped [bit] = kernel.enter (.dropBounding bit) := by
  unfold dropped
  rw [vain]
  rfl

/-- A drop of a capability that is permitted leaves the bounding set without it. -/
theorem dropBounding_accepted {capability : Capability}
    (unasked : kernel.failure .dropBounding = none)
    (named : Capability.ofBit? bit = some capability)
    (entitled : kernel.process.has .setpcap = true) :
    kernel.process.dropBounding bit =
      .ok { kernel.process with bounding := kernel.boundingWithout [bit] } := by
  have left : kernel.boundingWithout [bit] = kernel.process.bounding.erase capability := by
    refine (if_pos ⟨unasked, entitled⟩).trans ?_
    change CapSet.dropBit _ _ = _
    rw [CapSet.dropBit, named]
  rw [left, SimulatedProcess.dropBounding, named]
  exact if_pos entitled

/-- Whatever a kernel answers, it leaves what is known beforehand. -/
theorem dropBounding_ends (kernel : SimulatedKernel) (bit : Nat) :
    primitive (.dropBounding bit) (·.dropBounding bit) kernel =
      match kernel.dropAnswer bit with
      | .ok value => .ok value (kernel.dropped [bit])
      | .error errno => .error errno (kernel.dropped [bit]) := by
  unfold dropAnswer
  cases asked : kernel.failure .dropBounding with
  | some errno =>
      rw [dropped_eq_enter (boundingWithout_of_asked asked _)]
      exact make_asked asked
  | none =>
      cases named : Capability.ofBit? bit with
      | none =>
          have refused : kernel.process.dropBounding bit = .error .einval := by
            rw [SimulatedProcess.dropBounding, named]
          rw [dropped_eq_enter (boundingWithout_of_unknown named)]
          exact make_refused asked refused
      | some capability =>
          by_cases entitled : kernel.process.has .setpcap = true
          · simp only [entitled, ↓reduceIte]
            exact make_accepted asked (dropBounding_accepted asked named entitled)
          · have refused : kernel.process.dropBounding bit = .error .eperm := by
              rw [SimulatedProcess.dropBounding, named]
              exact if_neg entitled
            simp only [entitled]
            rw [dropped_eq_enter (boundingWithout_of_unentitled entitled _)]
            exact make_refused asked refused

/-- A drop that fails fails like the first one, unless its bit is unknown. -/
theorem dropAnswer_error (answered : kernel.dropAnswer bit = .error errno) :
    errno = .einval ∨ kernel.dropAnswer 0 = .error errno := by
  unfold dropAnswer at answered ⊢
  cases asked : kernel.failure .dropBounding with
  | some found =>
      rw [asked] at answered
      exact .inr answered
  | none =>
      rw [asked] at answered
      cases named : Capability.ofBit? bit with
      | none =>
          rw [named] at answered
          cases answered
          exact .inl rfl
      | some capability =>
          rw [named] at answered
          exact .inr answered

end SimulatedKernel

end SelfIsolation
