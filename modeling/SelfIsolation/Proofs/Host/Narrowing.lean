import SelfIsolation.Lifecycle.Narrowing
import SelfIsolation.Proofs.Capability.Words
import SelfIsolation.Proofs.Host.Operation

/-! # Narrowing on its course

Both narrowing steps on a host, from a single position. Capability sets that were
written are read back as they were written
(`SelfIsolation.CapRecords.toSets_ofSets`). Of the bounding set every bit that is
left has a refusal to drop it, and the recorded set holds exactly the bits that are
left and whose last reading succeeded (`SelfIsolation.Clamped`). So the protocol is
broken only where a bit that is left could not be read at first
(`SelfIsolation.Course.clampCaps_follows`).
-/

namespace SelfIsolation

open Isolating

namespace PrivilegeRecord

variable {record changed : PrivilegeRecord}

/-- Recording capability sets changes these and nothing else of the record. -/
theorem withCaps_eq {sets : ProcessCaps} (recorded : record.withCaps sets = .ok changed) :
    changed = { record with caps := some sets } := by
  unfold withCaps at recorded
  cases known : record.caps with
  | none =>
      simp only [known, Except.ok.injEq] at recorded
      exact recorded.symm
  | some old =>
      simp only [known] at recorded
      split at recorded
      case isTrue => exact (Except.ok.inj recorded).symm
      case isFalse => cases recorded

/-- Recording a bounding set changes this and nothing else of the record. -/
theorem withBounding_eq {set : CapSet} (recorded : record.withBounding set = .ok changed) :
    changed = { record with bounding := some set } := by
  unfold withBounding at recorded
  cases known : record.bounding with
  | none =>
      simp only [known, Except.ok.injEq] at recorded
      exact recorded.symm
  | some old =>
      simp only [known] at recorded
      split at recorded
      case isTrue => exact (Except.ok.inj recorded).symm
      case isFalse => cases recorded

/-- A bounding set is refused only where it is wider than the recorded one. -/
theorem withBounding_error {set : CapSet} {violation : Violation}
    (refused : record.withBounding set = .error violation) :
    ∃ old bit, record.bounding = some old ∧ set.containsBit bit = true ∧
      old.containsBit bit = false := by
  unfold withBounding at refused
  cases known : record.bounding with
  | none => simp only [known, reduceCtorEq] at refused
  | some old =>
      simp only [known] at refused
      split at refused
      case isTrue => cases refused
      case isFalse wider =>
        refine Classical.byContradiction fun unseen => wider (CapSet.subset_iff.mpr ?_)
        intro bit member
        cases present : old.containsBit bit with
        | true => rfl
        | false => exact absurd ⟨old, bit, rfl, member, present⟩ unseen

end PrivilegeRecord

/-! ## What was read and dropped -/

/-- How the last reading of a bit ended, if it was read. -/
def lastReading (bit : Nat) (made : List CallEvent) : Option (Option Int) :=
  made.foldl (fun last event =>
    if event.call = .readBounding bit then some event.failure else last) none

/-- The last reading of a bit is the last call if that reads it, and otherwise as before. -/
theorem lastReading_append (bit : Nat) (made : List CallEvent) (event : CallEvent) :
    lastReading bit (made ++ [event]) =
      if event.call = .readBounding bit then some event.failure else lastReading bit made := by
  unfold lastReading
  rw [List.foldl_append]
  rfl

/-- After all bits were read, the last reading of each is its answer then. -/
theorem lastReading_readings {bit count : Nat} (small : bit < count) (made : List CallEvent)
    (answers : Nat → Option Int) :
    lastReading bit (made ++ Host.readings answers count) = some (answers bit) := by
  induction count with
  | zero => exact absurd small (Nat.not_lt_zero bit)
  | succ count ih =>
      have one_more : Host.readings answers (count + 1) =
          Host.readings answers count ++ [⟨.readBounding count, answers count⟩] := by
        unfold Host.readings
        rw [List.range_succ, List.map_append, List.map_singleton]
      rw [one_more, ← List.append_assoc, lastReading_append]
      by_cases same : count = bit
      · rw [if_pos (congrArg _ same), same]
      · rw [if_neg fun call => same (SystemCall.readBounding.inj call)]
        exact ih (by omega)

/-- The last reading of a bit is a call that was made. -/
theorem mem_of_lastReading {bit : Nat} {made : List CallEvent} {answer : Option Int}
    (last : lastReading bit made = some answer) : ⟨.readBounding bit, answer⟩ ∈ made := by
  unfold lastReading at last
  refine List.foldlRecOn (motive := fun last : Option (Option Int) =>
    ∀ answer, last = some answer → ⟨.readBounding bit, answer⟩ ∈ made) made _ ?_ ?_ answer last
  · exact fun answer unread => nomatch unread
  · intro earlier known event member answer same
    split at same
    case isTrue call =>
        cases same
        rwa [← call]
    case isFalse => exact known answer same

/-- Dropping a bit was refused, and the mode lets the refusal pass. -/
def RefusedDrop (target : UserTarget) (made : List CallEvent) (bit : Nat) : Prop :=
  ∃ code, ⟨.dropBounding bit, some code⟩ ∈ made ∧
    (Policy.boundingDrop target.operating).tolerates (.ofCode code) = true

/-- A refused drop stays one with the calls that follow. -/
theorem RefusedDrop.append {target : UserTarget} {made : List CallEvent} {bit : Nat}
    (refused : RefusedDrop target made bit) (events : List CallEvent) :
    RefusedDrop target (made ++ events) bit :=
  refused.imp fun _ refused => ⟨List.mem_append_left _ refused.1, refused.2⟩

/-- A bit is left that could not be read at first. -/
def Misread (system : System) (made : List CallEvent) : Prop :=
  ∃ bit code, system.bounding.containsBit bit = true ∧ ⟨.readBounding bit, some code⟩ ∈ made ∧
    lastReading bit made = some none

/-- What is left after clamping. -/
structure Clamped (target : UserTarget) (record : PrivilegeRecord) (system : System)
    (made : List CallEvent) : Prop where
  inheritable : system.caps.toSets.inheritable = ∅
  refused : ∀ bit, system.bounding.containsBit bit = true → RefusedDrop target made bit
  read : ∀ bit, system.bounding.containsBit bit = true → lastReading bit made ≠ none
  recorded : ∃ set, record.bounding = some set ∧ ∀ bit, set.containsBit bit = true ↔
    system.bounding.containsBit bit = true ∧ lastReading bit made = some none

/-- A tolerated refusal to drop a bit is passed over. -/
theorem IsolationStep.passesOver_dropBounding {target : UserTarget} {code : Int}
    (tolerated : (Policy.boundingDrop target.operating).tolerates (.ofCode code) = true)
    (made : List CallEvent) (bit : Nat) :
    PassesOver (.user target) made (.dropBounding bit) code := by
  have unknown (same : Errno.ofCode code = .einval) :
      PassesOver (.user target) made (.dropBounding bit) code := by
    rw [Errno.eq_of_ofCode same (by decide)]
    exact .unknownBit
  unfold Policy.boundingDrop Tolerance.tolerates at tolerated
  split at tolerated
  case isTrue restricted =>
      rcases List.mem_cons.mp (of_decide_eq_true tolerated) with same | same
      · exact unknown same
      · rw [Errno.eq_of_ofCode (List.mem_singleton.mp same) (by decide)]
        exact .refusedBit restricted
  case isFalse => exact unknown (List.mem_singleton.mp (of_decide_eq_true tolerated))

namespace Course

variable {course : Course} {record : PrivilegeRecord} {system : System} {made : List CallEvent}
  {after : Unit → Position}

/-! ## Capability sets -/

/-- Capability sets that are recorded are held by the record, or break the protocol. -/
theorem recordCaps_follows {sets : ProcessCaps}
    (violates : ∀ violation, record.withCaps sets = .error violation →
      course.violating record system made)
    (recorded : after () { record with caps := some sets } system made) :
    course.Follows (.exactly record system made)
      (recordingChecked fun privileges => privileges.withCaps sets) after := by
  refine Follows.recordingChecked ?_ ?_
  · rintro _ changed _ _ ⟨rfl, rfl, rfl⟩ allowed
    rw [PrivilegeRecord.withCaps_eq allowed]
    exact recorded
  · rintro _ violation _ _ ⟨rfl, rfl, rfl⟩ refused
    exact violates violation refused

/-- Both narrowing steps read the capability sets and write changed ones. -/
theorem replaceCaps_follows (change : ProcessCaps → ProcessCaps) (reading writing : Attempt)
    (next : ProcessCaps → Isolating Host Unit) (stops : course.failing record system)
    (written : course.Follows
      (.exactly record { system with caps := .ofSets (change system.caps.toSets) }
        (made ++ [⟨.readCaps, none⟩] ++ [⟨.writeCaps (change system.caps.toSets), none⟩]))
      (next system.caps.toSets) after) :
    course.Follows (.exactly record system made) (do
      let sets ← attempt reading Kernel.readCaps
      attempt writing (Kernel.writeCaps (change sets))
      next sets) after := by
  have read : attempt reading (Kernel.readCaps : KernelAction Host Errno ProcessCaps) =
      calling (fun code => .call reading (.ofCode code))
        (Host.ask .readCaps fun system => .ok system.caps.toSets) := attempt_eq _ _
  have write : ∀ sets, attempt writing (Kernel.writeCaps sets : KernelAction Host Errno Unit) =
      calling (fun code => .call writing (.ofCode code))
        (Host.act (.writeCaps sets) fun system => { system with caps := .ofSets sets }) :=
    fun sets => attempt_eq _ _
  rw [read]
  refine Follows.learning stops ?_
  rw [write]
  exact Follows.acting stops written

/-- Restricting leaves what is kept, in the process and in the record. -/
theorem restrictCaps_follows {keep : CapSet} (stops : course.failing record system)
    (violates : course.violating record
      { system with caps := .ofSets (system.caps.toSets.restrict keep) }
      (made ++ [⟨.readCaps, none⟩] ++ [⟨.writeCaps (system.caps.toSets.restrict keep), none⟩]))
    (restricted : after () { record with caps := some (system.caps.toSets.restrict keep) }
      { system with caps := .ofSets (system.caps.toSets.restrict keep) }
      (made ++ [⟨.readCaps, none⟩] ++ [⟨.writeCaps (system.caps.toSets.restrict keep), none⟩])) :
    course.Follows (.exactly record system made) (restrictCaps keep) after := by
  refine replaceCaps_follows (fun sets => sets.restrict keep) _ _ _ stops ?_
  exact Follows.noting (recordCaps_follows (fun _ _ => violates) restricted)

/-- Nothing is left to hand on, in the process and in the record. -/
theorem clearInheritable_follows (stops : course.failing record system)
    (violates : ∀ violation,
      record.withCaps system.caps.toSets.clearInheritable = .error violation →
      course.violating record { system with caps := .ofSets system.caps.toSets.clearInheritable }
        (made ++ [⟨.readCaps, none⟩] ++
          [⟨.writeCaps system.caps.toSets.clearInheritable, none⟩]))
    (cleared : after () { record with caps := some system.caps.toSets.clearInheritable }
      { system with caps := .ofSets system.caps.toSets.clearInheritable }
      (made ++ [⟨.readCaps, none⟩] ++ [⟨.writeCaps system.caps.toSets.clearInheritable, none⟩])) :
    course.Follows (.exactly record system made) clearInheritable after :=
  replaceCaps_follows ProcessCaps.clearInheritable _ _ _ stops (recordCaps_follows violates cleared)

/-! ## The bounding set -/

/-- A bounding set that is recorded is held by the record, or breaks the protocol. -/
theorem recordSet_follows {set : CapSet}
    (violates : ∀ violation, record.withBounding set = .error violation →
      course.violating record system made)
    (recorded : after () { record with bounding := some set } system made) :
    course.Follows (.exactly record system made)
      (recordingChecked fun privileges => privileges.withBounding set) after := by
  refine Follows.recordingChecked ?_ ?_
  · rintro _ changed _ _ ⟨rfl, rfl, rfl⟩ allowed
    rw [PrivilegeRecord.withBounding_eq allowed]
    exact recorded
  · rintro _ violation _ _ ⟨rfl, rfl, rfl⟩ refused
    exact violates violation refused

variable {target : UserTarget} (step : course.step = .user target)

include step

/-- The bounding set is read bit by bit, and bits that cannot be read are taken for absent. -/
theorem readBounding_follows {α : Type} {after : α → Position} {rest : CapSet → Isolating Host α}
    (tail : ∀ answers set,
      (∀ bit, set.containsBit bit = true ↔
        answers bit = none ∧ system.bounding.containsBit bit = true) →
      course.Follows (.exactly record system (made ++ Host.readings answers CapSet.width))
        (rest set) after) :
    course.Follows (.exactly record system made) (observe Kernel.boundingSet >>= rest) after := by
  have asked : observe (Kernel.boundingSet : Machine Host → CapSet × Machine Host) =
      observe fun machine => machine.ask Host.boundingSet := rfl
  rw [asked]
  refine Follows.asking (fun set record' system' made' => ∃ answers,
    Position.exactly record system (made ++ Host.readings answers CapSet.width)
      record' system' made' ∧
    ∀ bit, set.containsBit bit = true ↔
      answers bit = none ∧ system.bounding.containsBit bit = true) Host.boundingSet_answers ?_
    fun set => ?_
  · rintro _ _ _ set _ ⟨rfl, rfl, rfl⟩ clear ⟨answers, rfl, known⟩
    refine .inl ⟨clear.append fun before event member => ?_, answers, ⟨rfl, rfl, rfl⟩, known⟩
    obtain ⟨bit, -, rfl⟩ := List.mem_map.mp member
    rw [step]
    exact ⟨trivial, fun _ _ => .unreadBit⟩
  · refine Follows.each ?_
    rintro _ _ _ ⟨answers, ⟨rfl, rfl, rfl⟩, known⟩
    exact tail answers set known

/-- What dropping has left, `rest` being still to come. -/
structure Dropping (target : UserTarget) (record : PrivilegeRecord) (system : System)
    (first : List CallEvent) (rest : List Nat) (record' : PrivilegeRecord) (system' : System)
    (made : List CallEvent) : Prop where
  earlier : first <+: made
  narrowed : system'.bounding ⊆ system.bounding
  refused : ∀ bit, system'.bounding.containsBit bit = true →
    bit ∈ rest ∨ RefusedDrop target made bit
  others : system' = { system with bounding := system'.bounding }
  unrecorded : record' = record

/-- One bit is dropped, or its refusal is seen. -/
theorem dropBoundingBit_follows (stops : ∀ system, course.failing record system)
    (refusals bit : Nat) (rest : List Nat) :
    course.Follows (Dropping target record system made (bit :: rest))
      (dropBoundingBit (Policy.boundingDrop target.operating) refusals bit)
      fun _ => Dropping target record system made rest := by
  unfold dropBoundingBit
  refine Follows.bind (fun _ => Dropping target record system made rest)
    (Follows.tolerate ?_ ?_ ?_) fun outcome => ?_
  · rintro _ system' _ ⟨-, -, -, -, rfl⟩
    exact stops system'
  · rintro _ system' made' _ next ⟨earlier, narrowed, refused, others, rfl⟩ ruled
    cases dropped : system'.dropBounding bit with
    | error code =>
        rw [dropped] at ruled
        cases ruled
    | ok left =>
        rw [dropped] at ruled
        cases ruled
        rw [System.dropBounding_ok dropped]
        refine ⟨earlier.trans (List.prefix_append _ _),
          CapSet.subset_trans (CapSet.eraseBit_subset _ _) narrowed, ?_, ?_, rfl⟩
        · intro other member
          rw [CapSet.containsBit_eraseBit, Bool.and_eq_true, decide_eq_true_eq] at member
          rcases refused other member.1 with listed | refused
          · rcases List.mem_cons.mp listed with same | later
            · exact absurd same.symm member.2
            · exact .inl later
          · exact .inr (refused.append _)
        · rw [others]
  · rintro _ system' made' code ⟨earlier, narrowed, refused, others, rfl⟩ tolerated
    refine ⟨?_, earlier.trans (List.prefix_append _ _), narrowed, ?_, others, rfl⟩
    · rw [step]
      exact IsolationStep.passesOver_dropBounding tolerated made' bit
    · intro other member
      rcases refused other member with listed | refused
      · rcases List.mem_cons.mp listed with rfl | later
        · exact .inr ⟨code, List.mem_append_right _ (List.mem_singleton_self _), tolerated⟩
        · exact .inl later
      · exact .inr (refused.append _)
  · cases outcome with
    | applied => exact Follows.pure _ fun _ _ _ holds => holds
    | tolerated errno => exact Follows.pure _ fun _ _ _ holds => holds

/-- Dropping all bits leaves none undropped but those that were refused. -/
theorem dropBoundingSet_follows (stops : ∀ system, course.failing record system) :
    course.Follows (.exactly record system made)
      (dropBoundingSet (Policy.boundingDrop target.operating))
      fun _ => Dropping target record system made [] := by
  refine (Follows.foldlM (Dropping target record system made)
    (fun refusals bit rest => dropBoundingBit_follows step stops refusals bit rest)
    (List.range CapSet.width) 0).weaken ?_ fun _ _ _ _ holds => holds
  rintro _ _ _ ⟨rfl, rfl, rfl⟩
  refine ⟨List.prefix_refl _, CapSet.subset_refl _, fun bit member => .inl ?_, rfl, rfl⟩
  exact List.mem_range.mpr (CapSet.lt_width_of_containsBit member)

section Clamping

variable (known : Prop)
  (stops : ∀ record' system', record'.stage = record.stage → course.failing record' system')
  (breaks : ∀ record' system' made', record'.stage = record.stage →
    (known → Misread system' made') → course.violating record' system' made')
  (tracked : known → ∀ sets, record.caps = some sets → sets = system.caps.toSets)
  (clamped : ∀ record' system' made', record'.stage = record.stage →
    Clamped target record' system' made' → after () record' system' made')

include stops breaks tracked clamped

/-- Once bits were dropped, what is left of the bounding set is recorded and the inheritable set is
cleared. -/
theorem recordLeft_follows
    (refused : ∀ bit, system.bounding.containsBit bit = true → RefusedDrop target made bit)
    (unseen : known → ∀ old bit, record.bounding = some old →
      system.bounding.containsBit bit = true → old.containsBit bit = false →
      ∃ code, ⟨.readBounding bit, some code⟩ ∈ made) :
    course.Follows (.exactly record system made) (do
      let bounding ← observe Kernel.boundingSet
      note .debug s!"Bounding set now: {bounding}"
      recordingChecked fun privileges => privileges.withBounding bounding
      clearInheritable) after := by
  refine readBounding_follows step fun answers set read => Follows.noting ?_
  have last : ∀ bit, set.containsBit bit = true ↔ system.bounding.containsBit bit = true ∧
      lastReading bit (made ++ Host.readings answers CapSet.width) = some none := by
    intro bit
    rw [read, and_comm]
    refine and_congr_right fun left => ?_
    rw [lastReading_readings (CapSet.lt_width_of_containsBit left), Option.some.injEq]
  refine Follows.bind (fun _ => .exactly { record with bounding := some set } system
    (made ++ Host.readings answers CapSet.width)) (recordSet_follows ?_ ⟨rfl, rfl, rfl⟩) fun _ => ?_
  · intro violation wider
    refine breaks _ _ _ rfl fun known => ?_
    obtain ⟨old, bit, recorded, member, absent⟩ := PrivilegeRecord.withBounding_error wider
    obtain ⟨left, readLast⟩ := (last bit).mp member
    obtain ⟨code, failed⟩ := unseen known old bit recorded left absent
    exact ⟨bit, code, left, List.mem_append_left _ failed, readLast⟩
  · refine clearInheritable_follows (stops _ _ rfl) ?_ ?_
    · intro violation wider
      refine breaks _ _ _ rfl fun known => ?_
      have narrows : ∀ old, record.caps = some old →
          old.Narrows system.caps.toSets.clearInheritable := by
        intro old recorded
        rw [tracked known old recorded]
        exact (ProcessCaps.Covers.refl _).narrows_clearInheritable
      cases wider.symm.trans (withCaps_ok narrows)
    · refine clamped _ _ _ rfl ⟨?_, fun bit left => ?_, fun bit left => ?_, set, rfl, fun bit => ?_⟩
      · dsimp only
        rw [CapRecords.toSets_ofSets]
        rfl
      · exact (((refused bit left).append _).append _).append _
      · rw [lastReading_append, lastReading_append]
        exact lastReading_readings (CapSet.lt_width_of_containsBit left) made answers ▸ nofun
      · rw [lastReading_append, lastReading_append]
        exact last bit

/-- Clamping drops from the bounding set and clears the inheritable set. -/
theorem clampCaps_follows (bounded : known → record.bounding = none) :
    course.Follows (.exactly record system made) (clampCaps target.operating) after := by
  unfold clampCaps recordBounding
  simp only [bind_assoc, pure_bind]
  refine readBounding_follows step fun answers old read => ?_
  refine Follows.bind (fun _ => .exactly { record with bounding := some old } system
    (made ++ Host.readings answers CapSet.width)) (recordSet_follows ?_ ⟨rfl, rfl, rfl⟩) fun _ => ?_
  · intro violation wider
    refine breaks _ _ _ rfl fun known => ?_
    obtain ⟨recorded, bit, some, -⟩ := PrivilegeRecord.withBounding_error wider
    rw [bounded known] at some
    cases some
  refine Follows.bind _ (dropBoundingSet_follows step fun system => stops _ system rfl)
    fun refusals => ?_
  refine Follows.each fun record' system' made' left => ?_
  obtain ⟨earlier, narrowed, refused, others, rfl⟩ := left
  have tracked' : known → ∀ sets, record.caps = some sets → sets = system'.caps.toSets := by
    intro known sets recorded
    rw [others]
    exact tracked known sets recorded
  have refused' : ∀ bit, system'.bounding.containsBit bit = true →
      RefusedDrop target made' bit :=
    fun bit left => (refused bit left).resolve_left List.not_mem_nil
  have unseen : known → ∀ recorded bit, some old = some recorded →
      system'.bounding.containsBit bit = true → recorded.containsBit bit = false →
      ∃ code, ⟨.readBounding bit, some code⟩ ∈ made' := by
    rintro - _ bit ⟨⟩ left absent
    have present := CapSet.subset_iff.mp narrowed bit left
    cases answer : answers bit with
    | none =>
        rw [(read bit).mpr ⟨answer, present⟩] at absent
        cases absent
    | some code =>
        refine ⟨code, earlier.subset (List.mem_append_right _ (List.mem_map.mpr ⟨bit, ?_, ?_⟩))⟩
        · exact List.mem_range.mpr (CapSet.lt_width_of_containsBit left)
        · rw [answer]
  -- Refusals are only reported, so both branches go on alike.
  by_cases some_refused : 0 < refusals
  · simp only [some_refused, ↓reduceIte]
    exact Follows.noting
      (recordLeft_follows step known stops breaks tracked' clamped refused' unseen)
  · simp only [some_refused, ↓reduceIte]
    exact recordLeft_follows step known stops breaks tracked' clamped refused' unseen

end Clamping

end Course

end SelfIsolation
