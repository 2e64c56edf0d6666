import SelfIsolation.Proofs.Lifecycle.Narrowing

/-! # Restricting all or nothing

How restricting the capability sets of a simulated process ends is decided by two
failures that may be asked for and by one inclusion of sets. Where it ends well,
both sets are what was kept of them, in the process and in the record; everywhere
else only the journal changed (`SelfIsolation.Isolating.restrictCaps_exact`).
-/

namespace SelfIsolation

/-- The session after a call was journaled. -/
def Session.entering (session : Session SimulatedKernel) (call : SimulatedCall) :
    Session SimulatedKernel :=
  { session with kernel := session.kernel.enter call }

/-- The session after its capability sets were read and replaced. -/
def Session.replacing (session : Session SimulatedKernel) (sets : ProcessCaps) :
    Session SimulatedKernel :=
  { session with
    kernel :=
      { session.kernel with
        process := { session.kernel.process with caps := sets }
        journal := session.kernel.journal ++ [.readCaps] ++ [.writeCaps sets] } }

/-- The session after its capability sets were restricted. -/
def Session.restricted (session : Session SimulatedKernel) (keep : CapSet) :
    Session SimulatedKernel :=
  let narrowed := session.kernel.process.caps.restrict keep
  { kernel :=
      { session.kernel with
        process := { session.kernel.process with caps := narrowed }
        journal := session.kernel.journal ++ [.readCaps] ++ [.writeCaps narrowed] }
    log := session.log ++ [⟨.debug, s!"Kept capabilities: {narrowed.effective}"⟩]
    privileges := { session.privileges with caps := some narrowed } }

namespace SimulatedProcess

/-- Restricted sets add nothing and hand on the same, so they are refused only for effective
capabilities that are kept without being permitted. -/
theorem writeCaps_restrict (process : SimulatedProcess) (keep : CapSet) :
    process.writeCaps (process.caps.restrict keep) =
      if process.caps.effective ∩ keep ⊆ process.caps.permitted ∩ keep then
        .ok { process with caps := process.caps.restrict keep }
      else .error .eperm := by
  have permitted : (process.caps.restrict keep).permitted ⊆ process.caps.permitted :=
    CapSet.inter_subset_left _ _
  have limited : (process.caps.restrict keep).inheritable ⊆ process.inheritableLimit :=
    CapSet.subset_union_left _ _
  unfold writeCaps
  by_cases within : process.caps.effective ∩ keep ⊆ process.caps.permitted ∩ keep
  · rw [if_pos ⟨permitted, within, limited⟩, if_pos within]
  · rw [if_neg fun allowed => within allowed.2.1, if_neg within]

end SimulatedProcess

namespace Isolating

open SimulatedKernel SimulatedProcess

section Attempt

variable {κ α : Type} {action : EStateM Errno κ α} {session : Session κ} {kernel : κ}

theorem outcome_of_ok {value : α} (taken : action session.kernel = .ok value kernel) :
    outcome (.silent action) session = .ok (.ok value) { session with kernel } := by
  unfold outcome KernelAction.silent
  rw [taken]

theorem outcome_of_error {errno : Errno} (taken : action session.kernel = .error errno kernel) :
    outcome (.silent action) session = .ok (.error errno) { session with kernel } := by
  unfold outcome KernelAction.silent
  rw [taken]

variable (purpose : Attempt)

theorem attempt_of_ok {value : α} (taken : action session.kernel = .ok value kernel) :
    attempt purpose (.silent action) session = .ok value { session with kernel } :=
  bind_of_ok (outcome_of_ok taken)

/-- An attempt that is refused fails for what was attempted. -/
theorem attempt_of_error {errno : Errno} (taken : action session.kernel = .error errno kernel) :
    attempt purpose (.silent action) session =
      .error (.failed (.call purpose errno)) { session with kernel } :=
  bind_of_ok (outcome_of_error taken)

end Attempt

/-- A change that the record allows is made. -/
theorem recordingChecked_of_ok {κ : Type} {session : Session κ} {privileges : PrivilegeRecord}
    {change : PrivilegeRecord → Except Violation PrivilegeRecord}
    (allowed : change session.privileges = .ok privileges) :
    recordingChecked change session = .ok () { session with privileges } := by
  have read : (get : Isolating κ (Session κ)) session = .ok session session := rfl
  refine (bind_of_ok read).trans ?_
  rw [allowed]
  rfl

/-! ## How replacing capability sets ends -/

section Replacing

variable {session : Session SimulatedKernel} {errno : Errno} (change : ProcessCaps → ProcessCaps)
  (reading writing : Attempt) (rest : ProcessCaps → Isolating SimulatedKernel Unit)

/-- After a failed read nothing is written. -/
theorem replaceCaps_unread (asked : session.kernel.failure .readCaps = some errno) :
    (do
      let sets ← attempt reading Kernel.readCaps
      attempt writing (Kernel.writeCaps (change sets))
      rest sets) session =
      .error (.failed (.call reading errno)) (session.entering .readCaps) :=
  bind_of_error (attempt_of_error _ (readCaps_asked asked))

variable (unasked : session.kernel.failure .readCaps = none)

include unasked

/-- Where a failure is asked for the writing, the sets are read, and writing them fails so. -/
theorem replaceCaps_hindered (asked : session.kernel.failure .writeCaps = some errno) :
    (do
      let sets ← attempt reading Kernel.readCaps
      attempt writing (Kernel.writeCaps (change sets))
      rest sets) session =
      .error (.failed (.call writing errno)) ((session.entering .readCaps).entering
        (.writeCaps (change session.kernel.process.caps))) := by
  refine (bind_of_ok (attempt_of_ok _ (readCaps_unasked unasked))).trans ?_
  exact bind_of_error (attempt_of_error _ (make_asked asked))

variable (unhindered : session.kernel.failure .writeCaps = none)

include unhindered

/-- Where the rule refuses the changed sets, writing them fails so. -/
theorem replaceCaps_refused
    (answered : session.kernel.process.writeCaps (change session.kernel.process.caps) =
      .error errno) :
    (do
      let sets ← attempt reading Kernel.readCaps
      attempt writing (Kernel.writeCaps (change sets))
      rest sets) session =
      .error (.failed (.call writing errno)) ((session.entering .readCaps).entering
        (.writeCaps (change session.kernel.process.caps))) := by
  refine (bind_of_ok (attempt_of_ok _ (readCaps_unasked unasked))).trans ?_
  exact bind_of_error (attempt_of_error _ (make_refused unhindered answered))

/-- Where both calls are accepted, the sets are replaced, and what is left of the step follows. -/
theorem replaceCaps_accepted
    (answered : session.kernel.process.writeCaps (change session.kernel.process.caps) =
      .ok { session.kernel.process with caps := change session.kernel.process.caps }) :
    (do
      let sets ← attempt reading Kernel.readCaps
      attempt writing (Kernel.writeCaps (change sets))
      rest sets) session =
      rest session.kernel.process.caps
        (session.replacing (change session.kernel.process.caps)) := by
  have written : attempt writing (Kernel.writeCaps (change session.kernel.process.caps))
      (session.entering .readCaps) =
      .ok () (session.replacing (change session.kernel.process.caps)) :=
    attempt_of_ok _ (make_accepted unhindered answered)
  exact (bind_of_ok (attempt_of_ok _ (readCaps_unasked unasked))).trans (bind_of_ok written)

end Replacing

/-! ## How restricting ends -/

section Restricting

variable {session : Session SimulatedKernel} {errno : Errno} (keep : CapSet)

/-- Restricting fails where the sets cannot be read. -/
theorem restrictCaps_unread (asked : session.kernel.failure .readCaps = some errno) :
    restrictCaps keep session =
      .error (.failed (.call .readCaps errno)) (session.entering .readCaps) :=
  replaceCaps_unread (·.restrict keep) _ _ _ asked

variable (unasked : session.kernel.failure .readCaps = none)

include unasked

/-- Restricting fails where the sets cannot be written. -/
theorem restrictCaps_hindered (asked : session.kernel.failure .writeCaps = some errno) :
    restrictCaps keep session =
      .error (.failed (.call .narrowCaps errno)) ((session.entering .readCaps).entering
        (.writeCaps (session.kernel.process.caps.restrict keep))) :=
  replaceCaps_hindered (·.restrict keep) _ _ _ unasked asked

variable (unhindered : session.kernel.failure .writeCaps = none)

include unhindered

/-- Restricting is refused for effective capabilities that are kept without being permitted. -/
theorem restrictCaps_refused
    (outside : ¬ session.kernel.process.caps.effective ∩ keep ⊆
      session.kernel.process.caps.permitted ∩ keep) :
    restrictCaps keep session =
      .error (.failed (.call .narrowCaps .eperm)) ((session.entering .readCaps).entering
        (.writeCaps (session.kernel.process.caps.restrict keep))) := by
  have answered := (writeCaps_restrict session.kernel.process keep).trans (if_neg outside)
  exact replaceCaps_refused (·.restrict keep) _ _ _ unasked unhindered answered

/-- Otherwise restricting keeps what was to be kept, in the process and in the record. -/
theorem restrictCaps_accepted
    (within : session.kernel.process.caps.effective ∩ keep ⊆
      session.kernel.process.caps.permitted ∩ keep)
    (covered : ∀ sets, session.privileges.caps = some sets →
      session.kernel.process.caps.effective ⊆ sets.effective ∧
        session.kernel.process.caps.permitted ⊆ sets.permitted) :
    restrictCaps keep session = .ok () (session.restricted keep) := by
  let narrowed := session.kernel.process.caps.restrict keep
  have answered := (writeCaps_restrict session.kernel.process keep).trans (if_pos within)
  have narrows : ∀ old, session.privileges.caps = some old → old.Narrows narrowed := by
    intro old recorded
    obtain ⟨effective, permitted⟩ := covered old recorded
    have left : narrowed.effective ⊆ old.effective :=
      CapSet.subset_trans (CapSet.inter_subset_left _ _) effective
    exact ⟨CapSet.subset_trans left (CapSet.subset_union_left _ _),
      CapSet.subset_trans (CapSet.inter_subset_left _ _) permitted⟩
  refine (replaceCaps_accepted (·.restrict keep) _ _ _ unasked unhindered answered).trans ?_
  refine (bind_of_ok rfl).trans ?_
  exact recordingChecked_of_ok (withCaps_ok narrows)

end Restricting

/-- **Restricting is exact and all or nothing.** Where the record covers the process, restricting
ends well exactly if no failure is asked for reading or for writing and what is kept of the
effective set is permitted. Then both sets are what was kept of them and the record holds the new
sets; the sets to hand on, the bounding set and everything else but the journal are as they were.
Otherwise only the journal changed, the protocol is not broken, and after a failed read nothing is
written. -/
theorem restrictCaps_exact (session : Session SimulatedKernel) (keep : CapSet)
    (covered : ∀ sets, session.privileges.caps = some sets →
      session.kernel.process.caps.effective ⊆ sets.effective ∧
        session.kernel.process.caps.permitted ⊆ sets.permitted) :
    let kernel := session.kernel
    let caps := kernel.process.caps
    let ended := (restrictCaps keep).ending session
    let next := (restrictCaps keep).reached session
    (ended = .ok () ↔ kernel.failure .readCaps = none ∧ kernel.failure .writeCaps = none ∧
      caps.effective ∩ keep ⊆ caps.permitted ∩ keep) ∧
    (ended = .ok () →
      next.kernel = { kernel with
        process := { kernel.process with
          caps := ⟨caps.effective ∩ keep, caps.permitted ∩ keep, caps.inheritable⟩ }
        journal := next.kernel.journal } ∧
      next.privileges = { session.privileges with caps := some next.kernel.process.caps }) ∧
    (∀ fault, ended = .error fault →
      next.kernel = { kernel with journal := next.kernel.journal } ∧
      next.privileges = session.privileges ∧ ∃ failure, fault = .failed failure) ∧
    ∀ errno, kernel.failure .readCaps = some errno →
      ended = .error (.failed (.call .readCaps errno)) ∧
      next.kernel.journal = kernel.journal ++ [.readCaps] := by
  dsimp only
  cases reading : session.kernel.failure .readCaps with
  | some errno =>
      obtain ⟨ended, left⟩ := ends_of_error (restrictCaps_unread keep reading)
      rw [ended, left]
      refine ⟨iff_of_false nofun (fun unasked => nomatch unasked.1), nofun, ?_, ?_⟩
      · rintro fault ⟨⟩
        exact ⟨rfl, rfl, _, rfl⟩
      · rintro found ⟨⟩
        exact ⟨rfl, rfl⟩
  | none =>
      cases writing : session.kernel.failure .writeCaps with
      | some errno =>
          obtain ⟨ended, left⟩ := ends_of_error (restrictCaps_hindered keep reading writing)
          rw [ended, left]
          refine ⟨iff_of_false nofun (fun unasked => nomatch unasked.2.1), nofun, ?_, nofun⟩
          rintro fault ⟨⟩
          exact ⟨rfl, rfl, _, rfl⟩
      | none =>
          by_cases within : session.kernel.process.caps.effective ∩ keep ⊆
              session.kernel.process.caps.permitted ∩ keep
          · obtain ⟨ended, left⟩ :=
              ends_of_ok (restrictCaps_accepted keep reading writing within covered)
            rw [ended, left]
            exact ⟨iff_of_true rfl ⟨rfl, rfl, within⟩, fun _ => ⟨rfl, rfl⟩, nofun, nofun⟩
          · obtain ⟨ended, left⟩ := ends_of_error (restrictCaps_refused keep reading writing within)
            rw [ended, left]
            refine ⟨iff_of_false nofun fun allowed => within allowed.2.2, nofun, ?_, nofun⟩
            rintro fault ⟨⟩
            exact ⟨rfl, rfl, _, rfl⟩

/-- A superuser whose sets are recorded is left with the two capabilities that are kept. -/
theorem restrictCaps_exact_superuser :
    ∃ (session : Session SimulatedKernel) (keep : CapSet),
      (∀ sets, session.privileges.caps = some sets →
        session.kernel.process.caps.effective ⊆ sets.effective ∧
          session.kernel.process.caps.permitted ⊆ sets.permitted) ∧
      (restrictCaps keep).ending session = .ok () ∧
      ((restrictCaps keep).reached session).kernel.process.caps.effective =
        CapSet.ofList [.sysAdmin, .netBindService] := by
  let session : Session SimulatedKernel :=
    { kernel := .root, privileges := { caps := some SimulatedProcess.root.caps } }
  let keep := CapSet.ofList [.sysAdmin, .netBindService]
  have covered : ∀ sets, session.privileges.caps = some sets →
      session.kernel.process.caps.effective ⊆ sets.effective ∧
        session.kernel.process.caps.permitted ⊆ sets.permitted := by
    rintro sets ⟨⟩
    exact ⟨CapSet.subset_refl _, CapSet.subset_refl _⟩
  obtain ⟨ends, restricts, -, -⟩ := restrictCaps_exact session keep covered
  have ended := ends.mpr ⟨rfl, rfl, CapSet.subset_refl _⟩
  refine ⟨session, keep, covered, ended, ?_⟩
  rw [(restricts ended).1]
  decide

end Isolating

end SelfIsolation
