import SelfIsolation.Proofs.Lifecycle.Restriction
import SelfIsolation.Proofs.Simulation.Dropping

/-! # Clamping

Clamping drops the bits of the bounding set one by one. Where a simulated kernel does not
refuse the first drop for good, it refuses none of them so. Clamping therefore stops at
once or goes through all bits (`SelfIsolation.Isolating.clampCaps_stops`,
`SelfIsolation.Isolating.clampCaps_goesOn`). That leaves four ways in which it can end
(`SelfIsolation.Isolating.ClampsTo`), from which what it leaves is known exactly
(`SelfIsolation.Isolating.clampCaps_exact`).
-/

namespace SelfIsolation

/-- The session once bits were dropped. -/
def Session.dropped (session : Session SimulatedKernel) (bits : List Nat) :
    Session SimulatedKernel :=
  { session with kernel := session.kernel.dropped bits }

namespace Isolating

open SimulatedKernel SimulatedProcess

/-! ## Going through the bits -/

section Tolerate

variable {κ α : Type} {action : EStateM Errno κ α} {session : Session κ} {kernel : κ}
  {errno : Errno} {tolerance : Tolerance} (purpose : Attempt)

/-- Where an operation succeeds its tolerance does not matter. -/
theorem tolerate_of_ok {value : α} (taken : action session.kernel = .ok value kernel) :
    tolerate tolerance purpose (.silent action) session =
      .ok .applied { session with kernel } :=
  bind_of_ok (outcome_of_ok taken)

/-- A refusal that is listed is passed over. -/
theorem tolerate_of_passed (taken : action session.kernel = .error errno kernel)
    (listed : tolerance.tolerates errno = true) :
    tolerate tolerance purpose (.silent action) session =
      .ok (.tolerated errno) { session with kernel } := by
  refine (bind_of_ok (outcome_of_error taken)).trans ?_
  simp only [Tolerance.check, listed, ↓reduceIte]
  rfl

/-- A refusal that is not listed ends the step. -/
theorem tolerate_of_fatal (taken : action session.kernel = .error errno kernel)
    (fatal : tolerance.tolerates errno = false) :
    tolerate tolerance purpose (.silent action) session =
      .error (.failed (.call purpose errno)) { session with kernel } := by
  refine (bind_of_ok (outcome_of_error taken)).trans ?_
  simp only [Tolerance.check, fatal]
  rfl

end Tolerate

/-- Holds where no drop of a bit is refused for good. -/
def Lenient (tolerance : Tolerance) (kernel : SimulatedKernel) : Prop :=
  ∀ bit errno, kernel.dropAnswer bit = .error errno → tolerance.tolerates errno = true

section Dropping

variable {session : Session SimulatedKernel} {tolerance : Tolerance} {errno : Errno}

/-- **Step.** A bit is gone through. -/
theorem dropBoundingBit_passes (lenient : Lenient tolerance session.kernel) (refused bit : Nat) :
    ∃ refusals, dropBoundingBit tolerance refused bit session =
      .ok refusals (session.dropped [bit]) := by
  have ended := dropBounding_ends session.kernel bit
  cases answered : session.kernel.dropAnswer bit with
  | ok value =>
      rw [answered] at ended
      exact ⟨_, bind_of_ok (tolerate_of_ok _ ended)⟩
  | error errno =>
      rw [answered] at ended
      exact ⟨_, bind_of_ok (tolerate_of_passed _ ended (lenient bit errno answered))⟩

/-- **Run.** All bits are gone through. -/
theorem dropBoundingBits_passes (lenient : Lenient tolerance session.kernel) (bits : List Nat)
    (refused : Nat) :
    ∃ refusals, bits.foldlM (dropBoundingBit tolerance) refused session =
      .ok refusals (session.dropped bits) := by
  induction bits generalizing session refused with
  | nil =>
      unfold Session.dropped
      rw [dropped_nil]
      exact ⟨refused, rfl⟩
  | cons bit bits ih =>
      obtain ⟨counted, passed⟩ := dropBoundingBit_passes lenient refused bit
      -- What a kernel answers does not depend on the bits that were dropped.
      have still : Lenient tolerance (session.dropped [bit]).kernel := lenient
      obtain ⟨refusals, rest⟩ := ih still counted
      refine ⟨refusals, ?_⟩
      rw [List.foldlM_cons, bind_of_ok passed, rest]
      unfold Session.dropped
      dsimp only
      rw [dropped_cons]

/-- Where the first drop is refused for good, no other is tried. -/
theorem dropBoundingSet_stops (answered : session.kernel.dropAnswer 0 = .error errno)
    (fatal : tolerance.tolerates errno = false) :
    dropBoundingSet tolerance session =
      .error (.failed (.call (.dropBounding 0) errno)) (session.dropped [0]) := by
  have ended := dropBounding_ends session.kernel 0
  rw [answered] at ended
  unfold dropBoundingSet
  rw [CapSet.range_width, List.foldlM_cons]
  exact bind_of_error (bind_of_error (tolerate_of_fatal _ ended fatal))

end Dropping

/-! ### Who goes through the bits -/

section Lenient

variable {kernel : SimulatedKernel} {operating : OperatingMode} {errno : Errno}

/-- Clamping passes over bits that are no capabilities, and over a lack of permission in a
restricted mode. -/
theorem tolerates_boundingDrop (operating : OperatingMode) (errno : Errno) :
    (Policy.boundingDrop operating).tolerates errno = true ↔
      errno = .einval ∨ errno = .eperm ∧ operating.isRestricted = true := by
  unfold Policy.boundingDrop Tolerance.tolerates
  by_cases restricted : operating.isRestricted = true
  · simp [restricted]
  · simp [restricted]

/-- The first bit tells whether drops are refused for good, since it is one of a capability. -/
theorem lenient_of_first (first : ∀ errno, kernel.dropAnswer 0 = .error errno →
      (Policy.boundingDrop operating).tolerates errno = true) :
    Lenient (Policy.boundingDrop operating) kernel := by
  intro bit errno answered
  rcases dropAnswer_error answered with rfl | answered
  · exact (tolerates_boundingDrop _ _).mpr (.inl rfl)
  · exact first errno answered

/-- Where a drop is refused for good, the first one is. -/
theorem exists_of_not_lenient (strict : ¬ Lenient (Policy.boundingDrop operating) kernel) :
    ∃ errno, kernel.dropAnswer 0 = .error errno ∧
      (Policy.boundingDrop operating).tolerates errno = false := by
  refine Classical.byContradiction fun none => strict (lenient_of_first fun errno answered => ?_)
  exact Bool.of_not_eq_false fun fatal => none ⟨errno, answered, fatal⟩

/-- Where no failure is asked for, the first drop needs `CAP_SETPCAP`. -/
theorem dropAnswer_first (unasked : kernel.failure .dropBounding = none) :
    kernel.dropAnswer 0 = if kernel.process.has .setpcap then .ok () else .error .eperm := by
  unfold dropAnswer
  rw [unasked]
  rfl

/-- Where a failure is asked for, every drop fails so. -/
theorem dropAnswer_asked (asked : kernel.failure .dropBounding = some errno) (bit : Nat) :
    kernel.dropAnswer bit = .error errno := by
  unfold dropAnswer
  rw [asked]

/-- Where no failure is asked for, drops are not refused for good with `CAP_SETPCAP` or in a
restricted mode. -/
theorem lenient_iff_of_unasked (unasked : kernel.failure .dropBounding = none) :
    Lenient (Policy.boundingDrop operating) kernel ↔
      kernel.process.has .setpcap = true ∨ operating.isRestricted = true := by
  by_cases entitled : kernel.process.has .setpcap = true
  · have first : kernel.dropAnswer 0 = .ok () := (dropAnswer_first unasked).trans (if_pos entitled)
    refine iff_of_true (lenient_of_first fun errno answered => ?_) (.inl entitled)
    cases first.symm.trans answered
  · have first : kernel.dropAnswer 0 = .error .eperm :=
      (dropAnswer_first unasked).trans (if_neg entitled)
    constructor
    · intro lenient
      rcases (tolerates_boundingDrop _ _).mp (lenient 0 .eperm first) with other | ⟨-, restricted⟩
      · cases other
      · exact .inr restricted
    · intro allowed
      refine lenient_of_first fun errno answered => ?_
      cases first.symm.trans answered
      exact (tolerates_boundingDrop _ _).mpr (.inr ⟨rfl, allowed.resolve_left entitled⟩)

/-- Where a failure is asked for, drops are not refused for good if it is passed over. -/
theorem lenient_iff_of_asked (asked : kernel.failure .dropBounding = some errno) :
    Lenient (Policy.boundingDrop operating) kernel ↔
      errno = .einval ∨ errno = .eperm ∧ operating.isRestricted = true := by
  rw [← tolerates_boundingDrop]
  constructor
  · exact fun lenient => lenient 0 errno (dropAnswer_asked asked 0)
  · intro tolerated bit found answered
    cases (dropAnswer_asked asked bit).symm.trans answered
    exact tolerated

end Lenient

end Isolating

/-! ## How clamping ends -/

/-- The session with its bounding set recorded. -/
def Session.boundingRecorded (session : Session SimulatedKernel) : Session SimulatedKernel :=
  { session with
    privileges := { session.privileges with bounding := some session.kernel.process.bounding } }

/-- The session once all bits were gone through and what is left of them was recorded. -/
def Session.goneThrough (session : Session SimulatedKernel) (log : List LogRecord) :
    Session SimulatedKernel :=
  { (session.dropped (List.range 64)).boundingRecorded with log }

/-- The session after its inheritable set was cleared. -/
def Session.cleared (session : Session SimulatedKernel) : Session SimulatedKernel :=
  let sets := session.kernel.process.caps.clearInheritable
  { session.replacing sets with
    privileges := { session.privileges with caps := some sets } }

namespace Isolating

open SimulatedKernel SimulatedProcess

section Clearing

variable {session : Session SimulatedKernel} {errno : Errno}

/-- Where the sets cannot be read, nothing is cleared. -/
theorem clearInheritable_unread (asked : session.kernel.failure .readCaps = some errno) :
    clearInheritable session =
      .error (.failed (.call .readCaps errno)) (session.entering .readCaps) :=
  replaceCaps_unread _ _ _ _ asked

variable (unasked : session.kernel.failure .readCaps = none)

include unasked

/-- Where the sets cannot be written, nothing is cleared. -/
theorem clearInheritable_hindered (asked : session.kernel.failure .writeCaps = some errno) :
    clearInheritable session =
      .error (.failed (.call .clearInheritable errno)) ((session.entering .readCaps).entering
        (.writeCaps session.kernel.process.caps.clearInheritable)) :=
  replaceCaps_hindered ProcessCaps.clearInheritable _ _ _ unasked asked

/-- With nothing to hand on the sets stay within every limit. -/
theorem clearInheritable_accepted (unhindered : session.kernel.failure .writeCaps = none)
    (within : session.kernel.process.caps.effective ⊆ session.kernel.process.caps.permitted)
    (covered : ∀ sets, session.privileges.caps = some sets →
      session.kernel.process.caps.effective ⊆ sets.effective ∧
        session.kernel.process.caps.permitted ⊆ sets.permitted) :
    clearInheritable session = .ok () session.cleared := by
  let cleared := session.kernel.process.caps.clearInheritable
  have answered : session.kernel.process.writeCaps cleared =
      .ok { session.kernel.process with caps := cleared } :=
    if_pos ⟨CapSet.subset_refl _, within, CapSet.empty_subset _⟩
  have narrows : ∀ old, session.privileges.caps = some old → old.Narrows cleared := by
    intro old recorded
    obtain ⟨effective, permitted⟩ := covered old recorded
    exact ⟨CapSet.subset_trans effective (CapSet.subset_union_left _ _), permitted⟩
  refine (replaceCaps_accepted ProcessCaps.clearInheritable _ _ _ unasked unhindered
    answered).trans ?_
  exact recordingChecked_of_ok (withCaps_ok narrows)

end Clearing

section Clamping

variable {session : Session SimulatedKernel} {operating : OperatingMode}
  (bounded : ∀ set, session.privileges.bounding = some set →
    session.kernel.process.bounding ⊆ set)

include bounded

/-- A bounding set within that of the record is recorded. -/
theorem recordBounding_ends :
    recordBounding session = .ok session.kernel.process.bounding session.boundingRecorded := by
  refine (bind_of_ok rfl).trans ?_
  exact bind_of_ok (recordingChecked_of_ok (withBounding_ok bounded))

/-- What is left of the bounding set is reported and recorded before the inheritable set is
cleared. -/
theorem recordDropped_ends :
    (do
      let bounding ← observe Kernel.boundingSet
      note .debug s!"Bounding set now: {bounding}"
      recordingChecked fun privileges => privileges.withBounding bounding
      clearInheritable : Isolating SimulatedKernel Unit) session =
    clearInheritable { session.boundingRecorded with
      log := session.log ++
        [⟨.debug, s!"Bounding set now: {session.kernel.process.bounding}"⟩] } := by
  refine (bind_of_ok rfl).trans ?_
  refine (bind_of_ok rfl).trans ?_
  exact bind_of_ok (recordingChecked_of_ok (withBounding_ok bounded))

/-- Where the first drop fails for good, it is the only one. -/
theorem clampCaps_stops {errno : Errno} (answered : session.kernel.dropAnswer 0 = .error errno)
    (fatal : (Policy.boundingDrop operating).tolerates errno = false) :
    clampCaps operating session = .error (.failed (.call (.dropBounding 0) errno))
      (session.boundingRecorded.dropped [0]) := by
  have stopped : dropBoundingSet (Policy.boundingDrop operating) session.boundingRecorded =
      .error (.failed (.call (.dropBounding 0) errno)) (session.boundingRecorded.dropped [0]) :=
    dropBoundingSet_stops answered fatal
  exact (bind_of_ok (recordBounding_ends bounded)).trans (bind_of_error stopped)

/-- Otherwise every bit is gone through, and what is left is recorded before the inheritable set is
cleared. -/
theorem clampCaps_goesOn (lenient : Lenient (Policy.boundingDrop operating) session.kernel) :
    ∃ log, clampCaps operating session = clearInheritable (session.goneThrough log) := by
  have still : Lenient (Policy.boundingDrop operating) session.boundingRecorded.kernel := lenient
  obtain ⟨refusals, passed⟩ : ∃ refusals,
      dropBoundingSet (Policy.boundingDrop operating) session.boundingRecorded =
        .ok refusals (session.boundingRecorded.dropped (List.range 64)) :=
    dropBoundingBits_passes still (List.range CapSet.width) 0
  have narrower : ∀ set, some session.kernel.process.bounding = some set →
      session.kernel.boundingWithout (List.range 64) ⊆ set := by
    rintro set ⟨⟩
    exact boundingWithout_subset _ _
  unfold clampCaps
  rw [bind_of_ok (recordBounding_ends bounded), bind_of_ok passed]
  -- Refusals are only reported, so both branches go on alike.
  by_cases some_refused : 0 < refusals
  · simp only [some_refused, ↓reduceIte]
    exact ⟨_, (bind_of_ok rfl).trans (recordDropped_ends narrower)⟩
  · simp only [some_refused, ↓reduceIte]
    exact ⟨_, recordDropped_ends narrower⟩

end Clamping

/-! ## What clamping leaves -/

/-- How clamping ends, and where: at the first drop, or with all bits gone through and then the sets
unread, not written, or with nothing left to hand on. -/
inductive ClampsTo (operating : OperatingMode) (session : Session SimulatedKernel) :
    Except Fault Unit → Session SimulatedKernel → Prop
  | stops {errno : Errno} (strict : ¬ Lenient (Policy.boundingDrop operating) session.kernel)
      (answered : session.kernel.dropAnswer 0 = .error errno) :
      ClampsTo operating session (.error (.failed (.call (.dropBounding 0) errno)))
        (session.boundingRecorded.dropped [0])
  | unread {errno : Errno} (log : List LogRecord)
      (lenient : Lenient (Policy.boundingDrop operating) session.kernel)
      (reading : session.kernel.failure .readCaps = some errno) :
      ClampsTo operating session (.error (.failed (.call .readCaps errno)))
        ((session.goneThrough log).entering .readCaps)
  | unwritten {errno : Errno} (log : List LogRecord)
      (lenient : Lenient (Policy.boundingDrop operating) session.kernel)
      (writing : session.kernel.failure .writeCaps = some errno) :
      ClampsTo operating session (.error (.failed (.call .clearInheritable errno)))
        (((session.goneThrough log).entering .readCaps).entering
          (.writeCaps session.kernel.process.caps.clearInheritable))
  | clears (log : List LogRecord)
      (lenient : Lenient (Policy.boundingDrop operating) session.kernel)
      (reading : session.kernel.failure .readCaps = none)
      (writing : session.kernel.failure .writeCaps = none) :
      ClampsTo operating session (.ok ()) (session.goneThrough log).cleared

section ClampsTo

variable {session next : Session SimulatedKernel} {operating : OperatingMode}
  {ended : Except Fault Unit}

/-- Where the effective set is permitted and the record covers the process, clamping ends in one of
these ways. -/
theorem clampCaps_clampsTo (operating : OperatingMode)
    (within : session.kernel.process.caps.effective ⊆ session.kernel.process.caps.permitted)
    (covered : ∀ sets, session.privileges.caps = some sets →
      session.kernel.process.caps.effective ⊆ sets.effective ∧
        session.kernel.process.caps.permitted ⊆ sets.permitted)
    (bounded : ∀ set, session.privileges.bounding = some set →
      session.kernel.process.bounding ⊆ set) :
    ClampsTo operating session ((clampCaps operating).ending session)
      ((clampCaps operating).reached session) := by
  -- The cases come in the order of the calls: the drops, then the read, then the write.
  by_cases lenient : Lenient (Policy.boundingDrop operating) session.kernel
  · obtain ⟨log, ends⟩ := clampCaps_goesOn bounded lenient
    cases reading : session.kernel.failure .readCaps with
    | some errno =>
        obtain ⟨ended, left⟩ := ends_of_error (ends.trans (clearInheritable_unread reading))
        rw [ended, left]
        exact .unread log lenient reading
    | none =>
        cases writing : session.kernel.failure .writeCaps with
        | some errno =>
            obtain ⟨ended, left⟩ :=
              ends_of_error (ends.trans (clearInheritable_hindered reading writing))
            rw [ended, left]
            exact .unwritten log lenient writing
        | none =>
            obtain ⟨ended, left⟩ :=
              ends_of_ok (ends.trans (clearInheritable_accepted reading writing within covered))
            rw [ended, left]
            exact .clears log lenient reading writing
  · obtain ⟨errno, answered, fatal⟩ := exists_of_not_lenient lenient
    obtain ⟨ended, left⟩ := ends_of_error (clampCaps_stops bounded answered fatal)
    rw [ended, left]
    exact .stops lenient answered

namespace ClampsTo

variable (clamps : ClampsTo operating session ended next)
include clamps

/-- Clamping never breaks the protocol. -/
theorem disciplined (violation : Violation) : ended ≠ .error (.violated violation) := by
  cases clamps <;> exact nofun

/-- Clamping changes the inheritable set, the bounding set and the journal of a kernel, and nothing
else of it. -/
theorem framed : next.kernel = { session.kernel with
    process := { session.kernel.process with
      caps := ⟨session.kernel.process.caps.effective, session.kernel.process.caps.permitted,
        next.kernel.process.caps.inheritable⟩
      bounding := next.kernel.process.bounding }
    journal := next.kernel.journal } := by
  cases clamps <;> rfl

/-- Where clamping ends well, nothing is left to hand on, and the calls and the record are known. -/
theorem succeeded (well : ended = .ok ()) :
    next.kernel.process.caps.inheritable = ∅ ∧
      next.kernel.journal = session.kernel.journal ++
        (List.range 64).map SimulatedCall.dropBounding ++
        [.readCaps, .writeCaps next.kernel.process.caps] ∧
      next.privileges = { session.privileges with
        caps := some next.kernel.process.caps
        bounding := some next.kernel.process.bounding } := by
  cases clamps with
  | stops => cases well
  | unread => cases well
  | unwritten => cases well
  | clears => exact ⟨rfl, List.append_assoc _ _ _, rfl⟩

/-- Where clamping fails, what is handed on is as before, and no bit has joined the bounding set. -/
theorem failed {fault : Fault} (stopped : ended = .error fault) :
    next.kernel.process.caps.inheritable = session.kernel.process.caps.inheritable ∧
      next.kernel.process.bounding ⊆ session.kernel.process.bounding := by
  cases clamps with
  | stops => exact ⟨rfl, boundingWithout_subset _ _⟩
  | unread => exact ⟨rfl, boundingWithout_subset _ _⟩
  | unwritten => exact ⟨rfl, boundingWithout_subset _ _⟩
  | clears => cases stopped

section Unasked

variable (unasked : session.kernel.failure .dropBounding = none)
  (readable : session.kernel.failure .readCaps = none)
  (writable : session.kernel.failure .writeCaps = none)
include unasked readable writable

/-- Where no failure is asked for, clamping ends well exactly where no drop is refused for good. -/
theorem ends_iff : ended = .ok () ↔
    session.kernel.process.has .setpcap = true ∨ operating.isRestricted = true := by
  rw [← lenient_iff_of_unasked unasked]
  cases clamps with
  | stops strict answered => exact iff_of_false nofun strict
  | unread log lenient reading => cases readable.symm.trans reading
  | unwritten log lenient writing => cases writable.symm.trans writing
  | clears log lenient reading writing => exact iff_of_true rfl lenient

/-- Where no failure is asked for, who may drop bits loses all those of capabilities. -/
theorem drops : if session.kernel.process.has .setpcap then
    ∀ bit, next.kernel.process.bounding.containsBit bit =
      (session.kernel.process.bounding.containsBit bit && (Capability.ofBit? bit).isNone)
    else next.kernel.process.bounding = session.kernel.process.bounding := by
  cases clamps with
  | stops strict answered =>
      have unentitled : ¬ session.kernel.process.has .setpcap = true :=
        fun entitled => strict ((lenient_iff_of_unasked unasked).mpr (.inl entitled))
      rw [if_neg unentitled]
      exact boundingWithout_of_unentitled unentitled _
  | unread log lenient reading => cases readable.symm.trans reading
  | unwritten log lenient writing => cases writable.symm.trans writing
  | clears => exact boundingWithout_all unasked

end Unasked

section Asked

variable {errno : Errno} (asked : session.kernel.failure .dropBounding = some errno)
include asked

/-- Where every drop fails as asked for, the bounding set stays as it is. -/
theorem keeps_bounding : next.kernel.process.bounding = session.kernel.process.bounding := by
  cases clamps with
  | stops => exact boundingWithout_of_asked asked _
  | unread => exact boundingWithout_of_asked asked _
  | unwritten => exact boundingWithout_of_asked asked _
  | clears => exact boundingWithout_of_asked asked _

/-- A failure that is passed over lets clamping go through all bits and read the sets. -/
theorem passed (tolerated : errno = .einval ∨ errno = .eperm ∧ operating.isRestricted = true) :
    session.kernel.journal ++ (List.range 64).map SimulatedCall.dropBounding ++ [.readCaps] <+:
        next.kernel.journal ∧
      (ended = .ok () ↔
        session.kernel.failure .readCaps = none ∧ session.kernel.failure .writeCaps = none) := by
  cases clamps with
  | stops strict answered => exact absurd ((lenient_iff_of_asked asked).mpr tolerated) strict
  | unread log lenient reading =>
      refine ⟨List.prefix_rfl, iff_of_false nofun fun spared => ?_⟩
      cases spared.left.symm.trans reading
  | unwritten log lenient writing =>
      refine ⟨List.prefix_append _ _, iff_of_false nofun fun spared => ?_⟩
      cases spared.right.symm.trans writing
  | clears log lenient reading writing =>
      exact ⟨List.prefix_append _ _, iff_of_true rfl ⟨reading, writing⟩⟩

/-- Any other failure stops clamping at the first drop. -/
theorem stopped (fatal : ¬ (errno = .einval ∨ errno = .eperm ∧ operating.isRestricted = true)) :
    ended = .error (.failed (.call (.dropBounding 0) errno)) ∧
      next.kernel.journal = session.kernel.journal ++ [.dropBounding 0] := by
  cases clamps with
  | stops strict answered =>
      cases (dropAnswer_asked asked 0).symm.trans answered
      exact ⟨rfl, rfl⟩
  | unread log lenient => exact absurd ((lenient_iff_of_asked asked).mp lenient) fatal
  | unwritten log lenient => exact absurd ((lenient_iff_of_asked asked).mp lenient) fatal
  | clears log lenient => exact absurd ((lenient_iff_of_asked asked).mp lenient) fatal

end Asked

end ClampsTo

end ClampsTo

/-- What is known of a session in which capabilities were clamped. -/
structure Clamped (operating : OperatingMode) (session : Session SimulatedKernel)
    (ended : Except Fault Unit) (next : Session SimulatedKernel) : Prop where
  disciplined : ∀ violation, ended ≠ .error (.violated violation)
  /-- Nothing changes of the kernel but the inheritable set, the bounding set and the journal. -/
  framed : next.kernel = { session.kernel with
    process := { session.kernel.process with
      caps := ⟨session.kernel.process.caps.effective, session.kernel.process.caps.permitted,
        next.kernel.process.caps.inheritable⟩
      bounding := next.kernel.process.bounding }
    journal := next.kernel.journal }
  /-- Where clamping ends well, nothing is left to hand on, all bits were gone through, and the
  record holds the sets as they are. -/
  succeeded : ended = .ok () →
    next.kernel.process.caps.inheritable = ∅ ∧
      next.kernel.journal = session.kernel.journal ++
        (List.range 64).map SimulatedCall.dropBounding ++
        [.readCaps, .writeCaps next.kernel.process.caps] ∧
      next.privileges = { session.privileges with
        caps := some next.kernel.process.caps
        bounding := some next.kernel.process.bounding }
  /-- Where clamping fails, what is handed on is as before, and nothing joined the bounding set. -/
  failed : ∀ fault, ended = .error fault →
    next.kernel.process.caps.inheritable = session.kernel.process.caps.inheritable ∧
      next.kernel.process.bounding ⊆ session.kernel.process.bounding
  /-- If no failure is asked for, clamping ends well exactly with `CAP_SETPCAP` or in a restricted
  mode. With `CAP_SETPCAP` the bounding set loses every bit of a capability and no other; without,
  it stays as it is. -/
  unhindered : session.kernel.failure .dropBounding = none →
    session.kernel.failure .readCaps = none → session.kernel.failure .writeCaps = none →
    (ended = .ok () ↔ session.kernel.process.has .setpcap ∨ operating.isRestricted) ∧
      if session.kernel.process.has .setpcap then
        ∀ bit, next.kernel.process.bounding.containsBit bit =
          (session.kernel.process.bounding.containsBit bit && (Capability.ofBit? bit).isNone)
      else next.kernel.process.bounding = session.kernel.process.bounding
  /-- If a failure is asked for the drops, the bounding set stays as it is. -/
  asked : ∀ errno, session.kernel.failure .dropBounding = some errno →
    next.kernel.process.bounding = session.kernel.process.bounding
  /-- Clamping goes on past the drops where the failure is passed over. -/
  passed : ∀ errno, session.kernel.failure .dropBounding = some errno →
    errno = .einval ∨ errno = .eperm ∧ operating.isRestricted →
    session.kernel.journal ++ (List.range 64).map SimulatedCall.dropBounding ++ [.readCaps] <+:
        next.kernel.journal ∧
      (ended = .ok () ↔
        session.kernel.failure .readCaps = none ∧ session.kernel.failure .writeCaps = none)
  /-- Otherwise clamping stops at the first drop. -/
  stopped : ∀ errno, session.kernel.failure .dropBounding = some errno →
    ¬ (errno = .einval ∨ errno = .eperm ∧ operating.isRestricted) →
    ended = .error (.failed (.call (.dropBounding 0) errno)) ∧
      next.kernel.journal = session.kernel.journal ++ [.dropBounding 0]

/-- **Clamping is exact.** Where the effective set is permitted and the record covers the process,
clamping never breaks the protocol and leaves the effective and the permitted set alone, however it
ends; how it ends and what it leaves is known from the capabilities, the mode and the failures that
are asked for. -/
theorem clampCaps_exact (session : Session SimulatedKernel) (operating : OperatingMode)
    (within : session.kernel.process.caps.effective ⊆ session.kernel.process.caps.permitted)
    (covered : ∀ sets, session.privileges.caps = some sets →
      session.kernel.process.caps.effective ⊆ sets.effective ∧
        session.kernel.process.caps.permitted ⊆ sets.permitted)
    (bounded : ∀ set, session.privileges.bounding = some set →
      session.kernel.process.bounding ⊆ set) :
    Clamped operating session ((clampCaps operating).ending session)
      ((clampCaps operating).reached session) := by
  have clamps := clampCaps_clampsTo operating within covered bounded
  constructor
  case disciplined => exact clamps.disciplined
  case framed => exact clamps.framed
  case succeeded => exact clamps.succeeded
  case failed => exact fun fault => clamps.failed
  case unhindered =>
    intro unasked readable writable
    exact ⟨clamps.ends_iff unasked readable writable, clamps.drops unasked readable writable⟩
  case asked => exact fun errno => clamps.keeps_bounding
  case passed => exact fun errno => clamps.passed
  case stopped => exact fun errno => clamps.stopped

/-- A superuser with a recorded bounding set loses its first bit, in a mode that is not
restricted. -/
theorem clampCaps_exact_superuser :
    ∃ session : Session SimulatedKernel,
      session.kernel.process.caps.effective ⊆ session.kernel.process.caps.permitted ∧
      (∀ sets, session.privileges.caps = some sets →
        session.kernel.process.caps.effective ⊆ sets.effective ∧
          session.kernel.process.caps.permitted ⊆ sets.permitted) ∧
      (∀ set, session.privileges.bounding = some set → session.kernel.process.bounding ⊆ set) ∧
      (clampCaps { mode := .pasta }).ending session = .ok () ∧
      ((clampCaps { mode := .pasta }).reached session).kernel.process.caps.inheritable = ∅ ∧
      ((clampCaps { mode := .pasta }).reached session).kernel.process.bounding.containsBit 0 =
        false := by
  let privileges : PrivilegeRecord :=
    { caps := some SimulatedProcess.root.caps, bounding := some SimulatedProcess.root.bounding }
  let session : Session SimulatedKernel := { kernel := .root, privileges }
  have within : session.kernel.process.caps.effective ⊆ session.kernel.process.caps.permitted :=
    CapSet.subset_refl _
  have covered : ∀ sets, session.privileges.caps = some sets →
      session.kernel.process.caps.effective ⊆ sets.effective ∧
        session.kernel.process.caps.permitted ⊆ sets.permitted := by
    rintro sets ⟨⟩
    exact ⟨CapSet.subset_refl _, CapSet.subset_refl _⟩
  have bounded : ∀ set, session.privileges.bounding = some set →
      session.kernel.process.bounding ⊆ set := by
    rintro set ⟨⟩
    exact CapSet.subset_refl _
  have entitled : session.kernel.process.has .setpcap = true := by decide
  have clamped := clampCaps_exact session { mode := .pasta } within covered bounded
  obtain ⟨ends, drops⟩ := clamped.unhindered rfl rfl rfl
  have ended := ends.mpr (.inl entitled)
  rw [if_pos entitled] at drops
  exact ⟨session, within, covered, bounded, ended, (clamped.succeeded ended).1,
    (drops 0).trans (Bool.and_false _)⟩

end Isolating

end SelfIsolation
