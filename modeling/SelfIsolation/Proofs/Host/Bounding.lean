import SelfIsolation.Proofs.Host.Run

/-! # What the record knows of the bounding set

The bounding set is read bit by bit before and after it is emptied, and a bit that
cannot be read is taken for absent. So after the second step the record holds the
bits that are left and were read last without a failure, and the step breaks the
protocol only where a bit that is left could not be read at first
(`SelfIsolation.Taking.user_tracks`). On a system that never lets the bounding set be
read, all of it may be left while the record holds none of it
(`SelfIsolation.Taking.user_loses_track`).
-/

namespace SelfIsolation.Taking

/-- What the record knows of the bounding set once a step was taken that empties it. -/
structure Tracks (taking : Taking) : Prop where
  /-- The record holds the bits that are left and could be read at last. -/
  recorded : taking.result = .ok () → ∃ set, taking.next.privileges.bounding = some set ∧
    ∀ bit, set.containsBit bit = true ↔
      taking.next.kernel.system.bounding.containsBit bit = true ∧
        lastReading bit taking.calls = some none
  /-- The protocol is broken only by a bit that could be read at last and not at first. -/
  misread : ∀ violation, taking.result = .error (.violated violation) →
    Misread taking.next.kernel.system taking.calls
  /-- Where all bits that are left could be read, the record is exact. -/
  exact : (∀ bit code, taking.next.kernel.system.bounding.containsBit bit = true →
      ⟨.readBounding bit, some code⟩ ∉ taking.calls) →
    (∀ violation, taking.result ≠ .error (.violated violation)) ∧
      (taking.result = .ok () →
        taking.next.privileges.bounding = some taking.next.kernel.system.bounding)

/-- Where the record knows the capability sets and no bounding set yet, the user step tracks what
is left. -/
theorem tracks_of_known {target : UserTarget} {session : Session Host}
    (inOrder : Taking.InOrder ⟨.user target, session⟩) (known : IsolationStep.Known session) :
    Tracks ⟨.user target, session⟩ := by
  obtain ⟨-, outcome⟩ := course_ends inOrder
  have misread : ∀ violation, Taking.result ⟨.user target, session⟩ = .error (.violated violation) →
      Misread (Taking.next ⟨.user target, session⟩).kernel.system
        (Taking.calls ⟨.user target, session⟩) := by
    intro violation ended
    rw [ended] at outcome
    exact outcome.2.2 known
  refine ⟨fun well => ?_, misread, fun readable => ⟨fun violation ended => ?_, fun well => ?_⟩⟩
  · rw [well] at outcome
    exact outcome.2.2.recorded
  · obtain ⟨bit, code, left, failed, -⟩ := misread violation ended
    exact readable bit code left failed
  · rw [well] at outcome
    obtain ⟨set, recorded, bits⟩ := outcome.2.2.recorded
    -- A bit that is left was read, so where no reading of it failed the last one succeeded.
    have last : ∀ bit,
        (Taking.next ⟨.user target, session⟩).kernel.system.bounding.containsBit bit = true →
        lastReading bit (Taking.calls ⟨.user target, session⟩) = some none := by
      intro bit left
      cases last : lastReading bit (Taking.calls ⟨.user target, session⟩) with
      | none => exact absurd last (outcome.2.2.read bit left)
      | some answer =>
          cases answer with
          | none => rfl
          | some code => exact absurd (mem_of_lastReading last) (readable bit code left)
    have held := CapSet.subset_iff.mpr fun bit member => ((bits bit).mp member).1
    have complete := CapSet.subset_iff.mpr fun bit left => (bits bit).mpr ⟨left, last bit left⟩
    exact recorded.trans (congrArg some (CapSet.subset_antisymm held complete))

/-- **Bounding set.** On a new record the initial step and then the user step leave a record of the
bounding set that is exact but for the bits that could not be read. -/
theorem user_tracks {start : Session Host} {arguments : List String} (target : UserTarget)
    (fresh : start.privileges = .start)
    (well : Taking.result ⟨.initial arguments, start⟩ = .ok ()) :
    Tracks ⟨.user target, Taking.next ⟨.initial arguments, start⟩⟩ := by
  have inOrder : Taking.InOrder ⟨.initial arguments, start⟩ := by
    unfold InOrder
    rw [fresh]
    rfl
  rcases Taking.ends ⟨.initial arguments, start⟩ inOrder with ⟨-, begun⟩ | ⟨failed, -⟩
  · refine tracks_of_known begun.stage ⟨?_, begun.caps⟩
    rw [begun.bounding, fresh]
    rfl
  · exact absurd well failed

/-- Where only the first reading fails and no bit can be dropped, the bounding set seems to widen
and the user step breaks the protocol. -/
theorem user_tracks_misread : ∃ start : Session Host,
    start.privileges = .start ∧ Taking.result ⟨.initial [], start⟩ = .ok () ∧
      let taking : Taking := ⟨.user ⟨1000, 1000, false, none, ⟨.passt, false⟩⟩,
        Taking.next ⟨.initial [], start⟩⟩
      taking.result = .error (.violated
          (.boundingWidened ((CapSet.lowest 41).eraseBit 0) (.lowest 41))) ∧ taking.Tracks := by
  -- Only the first reading fails, with an input or output error, and no bit can be dropped.
  let script : CallName → Script
    | .boundingRead => .listed [5]
    | .boundingDrop => .always Errno.eperm.number
    | _ => .never
  let start : Session Host := { kernel := { script } }
  have well : Taking.result ⟨.initial [], start⟩ = .ok () := by decide +kernel
  exact ⟨start, rfl, well, by decide +kernel, user_tracks _ rfl well⟩

/-- Where no bit can be read or dropped, the user step ends well, the bounding set is left as it
was, and the record holds none of it. -/
theorem user_loses_track : ∃ start : Session Host,
    start.privileges = .start ∧ Taking.result ⟨.initial [], start⟩ = .ok () ∧
      let taking : Taking := ⟨.user ⟨1000, 1000, false, none, ⟨.passt, false⟩⟩,
        Taking.next ⟨.initial [], start⟩⟩
      taking.result = .ok () ∧ taking.next.privileges.bounding = some ∅ ∧
        taking.next.kernel.system.bounding = .lowest 41 := by
  let script : CallName → Script
    | .boundingRead => .always 5
    | .boundingDrop => .always Errno.eperm.number
    | _ => .never
  exact ⟨{ kernel := { script } }, rfl, by decide +kernel⟩

end SelfIsolation.Taking
