import SelfIsolation.Proofs.Capability.Listing
import SelfIsolation.Proofs.Capability.Words
import SelfIsolation.Proofs.Host.Question

/-! # Capability sets exchanged with a host

The script says of each call whether it fails (`SelfIsolation.Script.failure`), and a
call that it spares follows the rule of the system
(`SelfIsolation.Host.make_of_spared`). So what is read back after capability sets
were written is what was written, and of the bounding set exactly those bits are
found that are in it, that the system knows and whose reading is spared
(`SelfIsolation.Host.containsBit_boundingSet`).
-/

namespace SelfIsolation

namespace Script

/-- The script that is left after a number of calls. -/
def after (script : Script) : Nat → Script
  | 0 => script
  | count + 1 => (script.after count).next.2

/-- How a call fails that is made after a number of others, if it does. -/
def failure (script : Script) (count : Nat) : Option Int := (script.after count).next.1

end Script

/-- A bit is read as one of the bounding set if the system has it and the set does. -/
theorem System.readBounding_true_iff {system : System} {bit : Nat} :
    system.readBounding bit = .ok true ↔
      bit < system.capabilityBits ∧ system.bounding.containsBit bit = true := by
  unfold readBounding
  split
  case isTrue known => rw [Except.ok.injEq, and_iff_right known]
  case isFalse unknown => exact iff_of_false nofun fun both => unknown both.1

namespace Host

variable {α : Type} {host : Host} {call : SystemCall}

/-- Of the scripts only that of the call moves on. -/
theorem scripted_eq (host : Host) {name : CallName} (known : call.name? = some name) :
    host.scripted call = ((host.script name).failure 0,
      fun other => if other = name then (host.script name).after 1 else host.script other) := by
  unfold scripted
  rw [known]
  rfl

section Rule

variable {rule : System → Except Int (α × System)} {code : Int}

/-- A call that is spared follows the rule of the system. -/
theorem make_of_spared {value : α} {system : System} (spared : (host.scripted call).1 = none)
    (ruled : rule host.system = .ok (value, system)) :
    make call rule host = .ok value
      { system, script := (host.scripted call).2, trace := host.trace ++ [⟨call, none⟩] } := by
  simp only [make, spared, ruled]

/-- A call that the script spares and the system refuses fails with the system's error number. -/
theorem make_of_refused (spared : (host.scripted call).1 = none)
    (ruled : rule host.system = .error code) :
    make call rule host = .error code
      { host with
        script := (host.scripted call).2, trace := host.trace ++ [⟨call, some code⟩] } := by
  simp only [make, spared, ruled]

/-- A call that the script refuses fails with the script's error number. -/
theorem make_of_scripted (scripted : (host.scripted call).1 = some code) :
    make call rule host = .error code
      { host with
        script := (host.scripted call).2, trace := host.trace ++ [⟨call, some code⟩] } := by
  simp only [make, scripted]

end Rule

theorem named_ok {action : EStateM Int Host α} {value : α} {next : Host} :
    named action host = .ok value next ↔ action host = .ok value next := by
  unfold named EStateM.adaptExcept
  cases action host with
  | ok found reached => simp only [EStateM.Result.ok.injEq]
  | error code reached => simp only [reduceCtorEq]

/-- A failure is named by its error number. -/
theorem named_error {action : EStateM Int Host α} {code : Int} {next : Host}
    (taken : action host = .error code next) :
    named action host = .error (.ofCode code) next := by
  unfold named EStateM.adaptExcept
  rw [taken]

section Ending

variable {ε : Type} {action : EStateM ε Host α} {next : Host}

theorem ending_of_ok {value : α} (taken : action host = .ok value next) :
    (ending action).run host = (.ok value, next) := by
  simp only [StateT.run, ending, taken]

theorem ending_of_error {e : ε} (taken : action host = .error e next) :
    (ending action).run host = (.error e, next) := by
  simp only [StateT.run, ending, taken]

end Ending

/-! ## The capability sets -/

/-- What is read after sets were written is what was written. -/
theorem eq_of_readCaps {sets found : ProcessCaps} {written reached : Host}
    (wrote : writeCaps sets host = .ok () written) (read : readCaps written = .ok found reached) :
    found = sets := by
  obtain ⟨script, system, ruled, rfl⟩ := make_ok (named_ok.mp wrote)
  cases ruled
  obtain ⟨told, -⟩ := ask_ok (named_ok.mp read)
  exact (Except.ok.inj told).symm.trans (CapRecords.toSets_ofSets sets)

/-- Sets can be written and read back where the script spares both calls. -/
theorem readCaps_of_spared (sets : ProcessCaps)
    (writing : (host.script .capset).failure 0 = none)
    (reading : (host.script .capget).failure 0 = none) :
    ∃ written reached, writeCaps sets host = .ok () written ∧
      readCaps written = .ok sets reached := by
  let changed : System := { host.system with caps := .ofSets sets }
  let written : Host := {
    system := changed
    script := (host.scripted (.writeCaps sets)).2
    trace := host.trace ++ [⟨.writeCaps sets, none⟩] }
  have wrote : writeCaps sets host = .ok () written := named_ok.mpr (make_of_spared writing rfl)
  have told : (Except.ok changed.caps.toSets : Except Int ProcessCaps).map
      (fun value => (value, changed)) = .ok (sets, changed) := by
    rw [CapRecords.toSets_ofSets]
    rfl
  have read : readCaps written = .ok sets _ := named_ok.mpr (make_of_spared reading told)
  exact ⟨_, _, wrote, read⟩

/-! ## The bounding set -/

/-- The bits that are found when the bounding set is read from its lowest bit on: the reading of
such a bit is spared, and the system knows the bit and has it. -/
def Finds (host : Host) (bit : Nat) : Prop :=
  (host.script .boundingRead).failure bit = none ∧ host.system.readBounding bit = .ok true

/-- A reading finds its bit if it is spared and the system has the bit. -/
theorem readBounding_ends (host : Host) (bit : Nat) :
    ∃ result next, (ending (readBounding bit)).run host = (result, next) ∧
      next.system = host.system ∧
      next.script .boundingRead = (host.script .boundingRead).after 1 ∧
      (result.toOption = some true ↔ (host.script .boundingRead).failure 0 = none ∧
        host.system.readBounding bit = .ok true) := by
  have known : (SystemCall.readBounding bit).name? = some .boundingRead := rfl
  have scripted := scripted_eq host known
  have later : (host.scripted (.readBounding bit)).2 .boundingRead =
      (host.script .boundingRead).after 1 := by
    simp only [scripted, ↓reduceIte]
  cases spared : (host.script .boundingRead).failure 0 with
  | some code =>
      rw [spared] at scripted
      have taken : readBounding bit host = .error (.ofCode code) _ :=
        named_error (make_of_scripted (congrArg Prod.fst scripted))
      exact ⟨_, _, ending_of_error taken, rfl, later,
        iff_of_false nofun fun both => (by cases both.1)⟩
  | none =>
      rw [spared] at scripted
      cases told : host.system.readBounding bit with
      | error code =>
          have ruled := congrArg (Except.map fun value => (value, host.system)) told
          have taken : readBounding bit host = .error (.ofCode code) _ :=
            named_error (make_of_refused (congrArg Prod.fst scripted) ruled)
          exact ⟨_, _, ending_of_error taken, rfl, later,
            iff_of_false nofun fun both => (by cases both.2)⟩
      | ok present =>
          have ruled := congrArg (Except.map fun value => (value, host.system)) told
          have taken : readBounding bit host = .ok present _ :=
            named_ok.mpr (make_of_spared (congrArg Prod.fst scripted) ruled)
          refine ⟨_, _, ending_of_ok taken, rfl, later, ?_⟩
          rw [and_iff_right rfl, Except.ok.injEq]
          exact Option.some_inj

/-- A bit is collected if it is read as one of the bounding set. -/
theorem collectBounding_of_ends {result : Except Errno Bool} {next : Host} {bit : Nat}
    (found : CapSet) (ended : (ending (readBounding bit)).run host = (result, next)) :
    (collectBounding found bit).run host =
      (if result.toOption = some true then found.insertBit bit else found, next) := by
  unfold collectBounding
  rw [StateT.run_bind, ended]
  cases result with
  | ok present => cases present <;> rfl
  | error errno => rfl

/-- Where reading the lowest bits of the bounding set has led. -/
structure Collected (host : Host) (count : Nat) (reached : CapSet × Host) : Prop where
  system : reached.2.system = host.system
  script : reached.2.script .boundingRead = (host.script .boundingRead).after count
  found : ∀ bit, reached.1.containsBit bit = true ↔ bit < count ∧ host.Finds bit

/-- **Step.** The next bit is read, and found by the answer to its own reading. -/
theorem Collected.step {count : Nat} {reached : CapSet × Host}
    (collected : Collected host count reached) (small : count < CapSet.width) :
    Collected host (count + 1) ((collectBounding reached.1 count).run reached.2) := by
  obtain ⟨result, next, ended, system, script, answered⟩ := readBounding_ends reached.2 count
  rw [collected.system, collected.script] at answered
  rw [collectBounding_of_ends _ ended]
  refine ⟨system.trans collected.system, ?_, fun bit => ?_⟩
  · rw [script, collected.script]
    rfl
  · exact CapSet.containsBit_collected small answered collected.found bit

/-- **Run.** Each bit that was read is found by the answer to its own reading. -/
theorem collected_range (host : Host) {count : Nat} (small : count ≤ CapSet.width) :
    Collected host count (((List.range count).foldlM collectBounding ∅).run host) := by
  induction count with
  | zero =>
      refine ⟨rfl, rfl, fun bit => iff_of_false ?_ fun below => Nat.not_lt_zero bit below.1⟩
      exact ne_true_of_eq_false (CapSet.containsBit_empty bit)
  | succ count ih =>
      rw [List.range_succ, List.foldlM_append, StateT.run_bind]
      exact (ih (Nat.le_of_succ_le small)).step small

/-- A bit is in the set that was read if it was found. -/
theorem containsBit_boundingSet {bit : Nat} :
    (boundingSet.run host).1.containsBit bit = true ↔
      (host.script .boundingRead).failure bit = none ∧ bit < host.system.capabilityBits ∧
        host.system.bounding.containsBit bit = true := by
  rw [boundingSet, (collected_range host (Nat.le_refl _)).found, Finds,
    System.readBounding_true_iff]
  exact and_iff_right_of_imp fun held => CapSet.lt_width_of_containsBit held.2.2

/-- Where every reading is spared, all that the system knows of the bounding set is read. -/
theorem boundingSet_of_spared
    (spared : ∀ bit < CapSet.width, (host.script .boundingRead).failure bit = none) :
    (boundingSet.run host).1 = host.system.bounding ∩ .lowest host.system.capabilityBits := by
  refine CapSet.eq_of_containsBit fun bit => Bool.eq_iff_iff.mpr ?_
  rw [containsBit_boundingSet, CapSet.containsBit_inter, Bool.and_eq_true,
    CapSet.containsBit_lowest]
  constructor
  · rintro ⟨-, known, held⟩
    exact ⟨held, CapSet.lt_width_of_containsBit held, known⟩
  · rintro ⟨held, small, known⟩
    exact ⟨spared bit small, known, held⟩

/-- **Capability sets are exchanged without loss.** The sets of a process and the records of the
kernel tell the same, bits 0 to 31 of each set in the first record and bits 32 to 63 in the second.
So sets that were written are read back as they are where the script spares both calls. Of the
bounding set exactly those bits are read that are in it, that the system knows and whose own reading
is spared; where all 64 are, that is the bounding set as far as the system knows bits. -/
theorem capabilities_exchanged :
    (∀ sets : ProcessCaps, (CapRecords.ofSets sets).toSets = sets) ∧
    (∀ records : CapRecords, CapRecords.ofSets records.toSets = records) ∧
    (∀ sets : ProcessCaps, (CapRecords.ofSets sets).Holds sets) ∧
    (∀ (host : Host) (sets : ProcessCaps),
      (host.script .capset).failure 0 = none → (host.script .capget).failure 0 = none →
        ∃ written reached, writeCaps sets host = .ok () written ∧
          readCaps written = .ok sets reached) ∧
    (∀ (host written reached : Host) (sets found : ProcessCaps),
      writeCaps sets host = .ok () written → readCaps written = .ok found reached →
        found = sets) ∧
    (∀ host : Host,
      (∀ bit < CapSet.width, (host.script .boundingRead).failure bit = none) →
        (boundingSet.run host).1 = host.system.bounding ∩ .lowest host.system.capabilityBits) ∧
    ∀ (host : Host) (bit : Nat), (boundingSet.run host).1.containsBit bit = true ↔
      (host.script .boundingRead).failure bit = none ∧ bit < host.system.capabilityBits ∧
        host.system.bounding.containsBit bit = true :=
  ⟨CapRecords.toSets_ofSets, CapRecords.ofSets_toSets, CapRecords.holds_ofSets,
    fun _ sets => readCaps_of_spared sets, fun _ _ _ _ _ => eq_of_readCaps,
    fun _ => boundingSet_of_spared, fun _ _ => containsBit_boundingSet⟩

/-- Members above bit 31 come back, and bits that a system does not know are not read. -/
theorem capabilities_exchanged_high : ∃ host : Host,
    let sets : ProcessCaps := ⟨⟨0x8000000100000000⟩, ⟨0xffffffff00000001⟩, ⟨0x180000000⟩⟩
    (host.script .capset).failure 0 = none ∧ (host.script .capget).failure 0 = none ∧
      (∃ written, writeCaps sets host = .ok () written ∧
        (∃ reached, readCaps written = .ok sets reached) ∧
        ∀ found reached, readCaps written = .ok found reached → found = sets) ∧
      (∀ bit < CapSet.width, (host.script .boundingRead).failure bit = none) ∧
      (boundingSet.run host).1 = ⟨0xf00000000f⟩ ∩ .lowest 36 := by
  let script : CallName → Script
    | .boundingRead => .listed [0, 0]
    | _ => .never
  let host : Host := { system := { capabilityBits := 36, bounding := ⟨0xf00000000f⟩ }, script }
  obtain ⟨-, -, -, exchanged, same, read, -⟩ := capabilities_exchanged
  obtain ⟨written, reached, wrote, back⟩ := exchanged host _ rfl rfl
  have spared : ∀ bit < CapSet.width, (host.script .boundingRead).failure bit = none := by
    decide +kernel
  exact ⟨host, rfl, rfl,
    ⟨written, wrote, ⟨reached, back⟩, fun found after => same host written after _ found wrote⟩,
    spared, read host spared⟩

end Host

end SelfIsolation
