import SelfIsolation.Proofs.Lifecycle.Script
import SelfIsolation.Proofs.Simulation.Replay

/-! # What decides a step

Where no failures are asked for, a step ends as the replay of its script does
(`SelfIsolation.IsolationStep.take_replayed`).
-/

namespace SelfIsolation

open SimulatedKernel (submit_error)
open SimulatedProcess (replay_append replay_refused)

namespace IsolationStep

variable {start session : Session SimulatedKernel} {done : List IsolationStep}

/-- Where no failure is asked for, a step ends as its script does in replay. -/
theorem take_replayed (step : IsolationStep) (session : Session SimulatedKernel)
    (unhindered : session.kernel.Unhindered)
    (readable : ∀ arguments reason, step = .initial arguments →
      Descriptor.designated arguments ≠ .error reason) :
    (step.take.reached session).kernel.Unhindered ∧
      match step.take.ending session with
      | .ok () => session.kernel.process.replay step.tolerated
          (step.script session.kernel.process) = .ok (step.take.reached session).kernel.process
      | .error (.failed failure) => session.kernel.process.replay step.tolerated
          (step.script session.kernel.process) = .error failure.errno?
      | .error (.violated _) => True := by
  obtain ⟨calls, made, front_part, ended⟩ := step.take_ended session readable
  refine ⟨made.unhindered unhindered, ?_⟩
  generalize step.take.ending session = result at ended
  cases ended with
  | completed whole passed =>
      rw [← whole]
      exact made.replayed unhindered passed
  | unreadable same unread => exact absurd unread (readable _ _ same)
  | refused passed fatal told =>
      obtain ⟨kernel, front, answer⟩ := made.last_refused
      have refusal := (submit_error (front.unhindered unhindered) answer).1
      obtain ⟨rest, whole⟩ := front_part
      dsimp only
      rw [← whole, List.map_append, List.append_assoc, replay_append,
        front.replayed unhindered passed, told]
      exact replay_refused refusal fatal
  | violated => trivial

/-- In its place a step ends well or fails, as the replay of its script says. -/
theorem take_settled (step : IsolationStep) (attained : start.Attained session done)
    (expected : session.privileges.stage = step.stage) (unhindered : session.kernel.Unhindered)
    (readable : ∀ arguments reason, step = .initial arguments →
      Descriptor.designated arguments ≠ .error reason) :
    match session.kernel.process.replay step.tolerated (step.script session.kernel.process) with
    | .ok next => step.take.ending session = .ok () ∧
        (step.take.reached session).kernel.process = next ∧
        (step.take.reached session).kernel.Unhindered ∧
        start.Attained (step.take.reached session) (done ++ [step])
    | .error refusal => ∃ failure, step.take.ending session = .error (.failed failure) ∧
        failure.errno? = refusal := by
  obtain ⟨unhindered, decided⟩ := step.take_replayed session unhindered readable
  rcases step.take_attained attained expected with ⟨ended, standing⟩ | ⟨failure, ended, -⟩
  · rw [ended] at decided
    rw [decided]
    exact ⟨ended, rfl, unhindered, standing⟩
  · rw [ended] at decided
    rw [decided]
    exact ⟨failure, ended, rfl⟩

end IsolationStep

namespace SimulatedProcess

variable {tolerated : SimulatedCall → List Errno} {process : SimulatedProcess}
  {calls : List SimulatedCall}

/-! ## Capability sets -/

/-- Sets that are written within every limit replace those of the process. -/
theorem replay_writeCaps {sets : ProcessCaps}
    (narrower : sets.permitted ⊆ process.caps.permitted)
    (within : sets.effective ⊆ sets.permitted)
    (handed : sets.inheritable ⊆ process.caps.inheritable) :
    process.replay tolerated [.readCaps, .writeCaps sets] = .ok { process with caps := sets } := by
  have limited : sets.inheritable ⊆ process.inheritableLimit :=
    CapSet.subset_trans handed (CapSet.subset_union_left _ _)
  have accepted : process.writeCaps sets = .ok { process with caps := sets } :=
    if_pos ⟨narrower, within, limited⟩
  rw [replay_accepted rfl, replay_accepted (by rw [answer, accepted]; rfl), replay]

/-- A script that restricts the sets is replayed to the restricted ones. -/
theorem replay_restrict (process : SimulatedProcess)
    (within : process.caps.effective ⊆ process.caps.permitted) (keep : CapSet) :
    process.replay tolerated [.readCaps, .writeCaps (process.caps.restrict keep)] =
      .ok { process with caps := process.caps.restrict keep } :=
  replay_writeCaps (CapSet.inter_subset_left _ _) (CapSet.inter_subset_inter within keep)
    (CapSet.subset_refl _)

/-- A script that clears the inheritable set is replayed to the others. -/
theorem replay_clearInheritable (process : SimulatedProcess)
    (within : process.caps.effective ⊆ process.caps.permitted) :
    process.replay tolerated [.readCaps, .writeCaps process.caps.clearInheritable] =
      .ok { process with caps := process.caps.clearInheritable } :=
  replay_writeCaps (CapSet.subset_refl _) within (CapSet.empty_subset _)

/-! ## Identity -/

/-- Groups may be cleared or not, but a refusal is passed over. -/
theorem replay_clearGroups (process : SimulatedProcess) (calls : List SimulatedCall)
    (listed : .eperm ∈ tolerated .clearGroups) :
    ∃ groups, process.replay tolerated (.clearGroups :: calls) =
      { process with groups }.replay tolerated calls := by
  by_cases entitled : process.has .setgid = true
  · have accepted : process.clearGroups = .ok { process with groups := [] } := if_pos entitled
    exact ⟨[], replay_accepted (by rw [answer, accepted]; rfl)⟩
  · have refused : process.clearGroups = .error .eperm := if_neg entitled
    exact ⟨process.groups, replay_passed (by rw [answer, refused]; rfl) listed⟩

/-- A process that is entitled to it changes its group identity. -/
theorem replay_setGid {gid : UInt32} (entitled : gid = process.gid ∨ process.has .setgid) :
    process.replay tolerated (.setGid gid :: calls) =
      { process with gid }.replay tolerated calls := by
  have accepted : process.setGid gid = .ok { process with gid } := if_pos entitled
  exact replay_accepted (by rw [answer, accepted]; rfl)

/-- A process that is not entitled to it may not change its group identity. -/
theorem replay_setGid_refused {gid : UInt32} (fatal : .eperm ∉ tolerated (.setGid gid))
    (unentitled : ¬ (gid = process.gid ∨ process.has .setgid)) :
    process.replay tolerated (.setGid gid :: calls) = .error (some .eperm) := by
  have refused : process.setGid gid = .error .eperm := if_neg unentitled
  exact replay_refused (by rw [answer, refused]; rfl) fatal

/-- A process that is entitled to it changes its user identity. -/
theorem replay_setUid {uid : UInt32} (entitled : uid = process.uid ∨ process.has .setuid) :
    process.replay tolerated (.setUid uid :: calls) =
      { process with caps := process.capsAs uid, uid, effectiveUid := uid }.replay
        tolerated calls := by
  have accepted : process.setUid uid =
      .ok { process with caps := process.capsAs uid, uid, effectiveUid := uid } :=
    if_pos entitled
  exact replay_accepted (by rw [answer, accepted]; rfl)

/-- A process that is not entitled to it may not change its user identity. -/
theorem replay_setUid_refused {uid : UInt32} (fatal : .eperm ∉ tolerated (.setUid uid))
    (unentitled : ¬ (uid = process.uid ∨ process.has .setuid)) :
    process.replay tolerated (.setUid uid :: calls) = .error (some .eperm) := by
  have refused : process.setUid uid = .error .eperm := if_neg unentitled
  exact replay_refused (by rw [answer, refused]; rfl) fatal

/-- Entering a user namespace is never refused, and gives what there is inside. -/
theorem replay_namespaceCalls (process : SimulatedProcess) (target : UserTarget)
    (calls : List SimulatedCall) :
    ∃ next : SimulatedProcess, next.caps = target.capsInside process.caps ∧
      process.replay tolerated (target.namespaceCalls ++ calls) =
        next.replay tolerated calls := by
  unfold UserTarget.capsInside
  unfold UserTarget.namespaceCalls
  cases target.userNamespace with
  | some path => exact ⟨process.joinUserNamespace path, rfl, replay_accepted rfl⟩
  | none =>
      by_cases wanted : target.useUserNamespace = true
      · simp only [wanted, ↓reduceIte]
        exact ⟨process.createUserNamespace, rfl, replay_accepted rfl⟩
      · simp only [wanted, Bool.false_eq_true, ↓reduceIte]
        exact ⟨process, rfl, rfl⟩

/-! ## The bounding set -/

/-- The answer to a drop depends on the bit and on `CAP_SETPCAP`. -/
theorem answer_dropBounding (bit : Nat) :
    process.answer (.dropBounding bit) = match Capability.ofBit? bit with
      | none => .error (some .einval)
      | some capability =>
        if process.has .setpcap then
          .ok { process with bounding := process.bounding.erase capability }
        else .error (some .eperm) := by
  rw [answer, dropBounding]
  cases Capability.ofBit? bit with
  | none => rfl
  | some capability =>
      dsimp only
      split <;> rfl

/-- With the right to, or where refusals pass, every bit is gone through. -/
theorem replay_dropBounding_passed (process : SimulatedProcess)
    (listed : ∀ bit, .einval ∈ tolerated (.dropBounding bit))
    (allowed : (∀ bit, .eperm ∈ tolerated (.dropBounding bit)) ∨ process.has .setpcap)
    (bits : List Nat) :
    ∃ set, process.replay tolerated (bits.map .dropBounding ++ calls) =
      { process with bounding := set }.replay tolerated calls := by
  induction bits generalizing process with
  | nil => exact ⟨process.bounding, rfl⟩
  | cons bit bits ih =>
      have answered := process.answer_dropBounding bit
      cases known : Capability.ofBit? bit with
      | none =>
          rw [known] at answered
          obtain ⟨set, rest⟩ := ih process allowed
          refine ⟨set, ?_⟩
          rw [List.map_cons, List.cons_append, replay_passed answered (listed bit), rest]
      | some capability =>
          rw [known] at answered
          dsimp only at answered
          split at answered
          case isTrue =>
              obtain ⟨set, rest⟩ :=
                ih { process with bounding := process.bounding.erase capability } allowed
              refine ⟨set, ?_⟩
              rw [List.map_cons, List.cons_append, replay_accepted answered, rest]
          case isFalse unentitled =>
              obtain ⟨set, rest⟩ := ih process allowed
              have passing := allowed.resolve_right unentitled bit
              refine ⟨set, ?_⟩
              rw [List.map_cons, List.cons_append, replay_passed answered passing, rest]

/-- A lack of permission to drop bits that is not passed over ends the script. -/
theorem replay_dropBounding_refused (fatal : ∀ bit, .eperm ∉ tolerated (.dropBounding bit))
    (unentitled : ¬ process.has .setpcap) :
    process.replay tolerated ((List.range CapSet.width).map .dropBounding ++ calls) =
      .error (some .eperm) := by
  have answered := process.answer_dropBounding 0
  have first : Capability.ofBit? 0 = some .chown := rfl
  rw [first] at answered
  dsimp only at answered
  rw [if_neg unentitled] at answered
  rw [CapSet.range_width, List.map_cons, List.cons_append, replay_refused answered (fatal 0)]

end SimulatedProcess

/-! ## Scripts -/

namespace UserTarget

/-- A target that joins or creates a user namespace. -/
def Enters (target : UserTarget) : Prop :=
  target.userNamespace.isSome ∨ target.useUserNamespace

/-- There is no call to enter a user namespace where none is entered. -/
theorem isEmpty_namespaceCalls (target : UserTarget) :
    target.namespaceCalls.isEmpty = true ↔ ¬ target.Enters := by
  unfold namespaceCalls Enters
  cases target.userNamespace with
  | some path => simp
  | none =>
      by_cases wanted : target.useUserNamespace = true
      · simp [wanted]
      · simp [wanted]

/-- Inside a user namespace a process has every capability. -/
theorem capsInside_of_enters {target : UserTarget} (enters : target.Enters) (caps : ProcessCaps) :
    target.capsInside caps = { caps with effective := CapSet.all, permitted := CapSet.all } := by
  rw [capsInside, if_neg fun empty => target.isEmpty_namespaceCalls.mp empty enters]

/-- Outside a user namespace a process keeps its capabilities. -/
theorem capsInside_of_stays {target : UserTarget} (stays : ¬ target.Enters) (caps : ProcessCaps) :
    target.capsInside caps = caps := by
  rw [capsInside, if_pos (target.isEmpty_namespaceCalls.mpr stays)]

end UserTarget

/-- The process can take on the identity of a target, and either may leave bits in the bounding set
or has the right to drop them where it then is. -/
structure UserTarget.SettlesOn (target : UserTarget) (process : SimulatedProcess) : Prop where
  gid : target.gid = process.gid ∨ process.has .setgid
  uid : target.uid = process.uid ∨ process.has .setuid
  bounding : target.operating.isRestricted ∨
    (target.capsInside (process.capsAs target.uid)).effective.contains .setpcap

namespace IsolationStep

open SimulatedProcess

variable {process : SimulatedProcess}

/-- A change of the user identity leaves the effective set permitted. -/
theorem within_capsAs (within : process.caps.effective ⊆ process.caps.permitted) (uid : UInt32) :
    (process.capsAs uid).effective ⊆ (process.capsAs uid).permitted := by
  unfold capsAs
  split
  · exact CapSet.inter_subset_inter within ∅
  · exact within

/-- Entering a user namespace leaves the effective set permitted. -/
theorem within_capsInside {caps : ProcessCaps} (within : caps.effective ⊆ caps.permitted)
    (target : UserTarget) :
    (target.capsInside caps).effective ⊆ (target.capsInside caps).permitted := by
  unfold UserTarget.capsInside
  split
  · exact within
  · exact CapSet.subset_refl _

/-- The initial step is replayed to the end, sweeping and restricting. -/
theorem replay_initial {arguments : List String} {keep : Option Int32}
    (named : Descriptor.designated arguments = .ok keep)
    (within : process.caps.effective ⊆ process.caps.permitted) :
    process.replay (IsolationStep.initial arguments).tolerated
        ((IsolationStep.initial arguments).script process) =
      .ok { process.closeDescriptors keep with
        caps := process.caps.restrict
          (Policy.setupKeep process.effectiveUid process.inInitialUserNamespace) } := by
  simp only [script, named]
  exact (replay_accepted rfl).trans (replay_restrict (process.closeDescriptors keep) within _)

/-- Up to the bounding set only the identity of the target may be refused. -/
theorem replay_identity (target : UserTarget) (calls : List SimulatedCall)
    (gid : target.gid = process.gid ∨ process.has .setgid)
    (uid : target.uid = process.uid ∨ process.has .setuid) :
    ∃ next : SimulatedProcess,
      next.caps = target.capsInside (process.capsAs target.uid) ∧
      process.replay (IsolationStep.user target).tolerated
          ([.clearGroups, .setGid target.gid, .setUid target.uid] ++
            (target.namespaceCalls ++ calls)) =
        next.replay (IsolationStep.user target).tolerated calls := by
  have passing : .eperm ∈ (IsolationStep.user target).tolerated .clearGroups :=
    List.mem_cons_self
  obtain ⟨groups, dismissed⟩ := replay_clearGroups process
    (.setGid target.gid :: .setUid target.uid :: (target.namespaceCalls ++ calls)) passing
  obtain ⟨next, inside, entered⟩ := replay_namespaceCalls
    { process with
      caps := process.capsAs target.uid
      uid := target.uid
      gid := target.gid
      effectiveUid := target.uid
      groups } target calls
  refine ⟨next, inside,
    dismissed.trans ((replay_setGid ?_).trans ((replay_setUid ?_).trans entered))⟩
  · exact gid
  · exact uid

/-- The user step is refused where one of the identities may not be changed. -/
theorem replay_identity_refused (target : UserTarget) (calls : List SimulatedCall)
    (unentitled : ¬ ((target.gid = process.gid ∨ process.has .setgid) ∧
      (target.uid = process.uid ∨ process.has .setuid))) :
    process.replay (IsolationStep.user target).tolerated
        ([.clearGroups, .setGid target.gid, .setUid target.uid] ++
          (target.namespaceCalls ++ calls)) = .error (some .eperm) := by
  have passing : .eperm ∈ (IsolationStep.user target).tolerated .clearGroups :=
    List.mem_cons_self
  obtain ⟨groups, dismissed⟩ := replay_clearGroups process
    (.setGid target.gid :: .setUid target.uid :: (target.namespaceCalls ++ calls)) passing
  by_cases gid : target.gid = process.gid ∨ process.has .setgid
  · have uid : ¬ (target.uid = process.uid ∨ process.has .setuid) :=
      fun uid => unentitled ⟨gid, uid⟩
    refine dismissed.trans ((replay_setGid ?_).trans
      (replay_setUid_refused List.not_mem_nil ?_))
    · exact gid
    · exact uid
  · refine dismissed.trans (replay_setGid_refused List.not_mem_nil ?_)
    exact gid

/-- The script of the user step, its parts put together from the end. -/
theorem script_user (target : UserTarget) :
    (IsolationStep.user target).script process =
      [.clearGroups, .setGid target.gid, .setUid target.uid] ++ (target.namespaceCalls ++
        ((List.range CapSet.width).map .dropBounding ++ [.readCaps, .writeCaps
          (target.capsInside (process.capsAs target.uid)).clearInheritable])) := by
  rw [script, List.append_assoc, List.append_assoc]

/-- The user step is replayed to the end where the process settles, and leaves nothing to hand
on. -/
theorem replay_user (target : UserTarget)
    (within : process.caps.effective ⊆ process.caps.permitted)
    (settles : target.SettlesOn process) :
    ∃ next, process.replay (IsolationStep.user target).tolerated
        ((IsolationStep.user target).script process) = .ok next ∧
      next.caps = (target.capsInside (process.capsAs target.uid)).clearInheritable := by
  rw [script_user]
  obtain ⟨next, inside, entered⟩ := replay_identity target
    ((List.range CapSet.width).map .dropBounding ++ [.readCaps, .writeCaps
      (target.capsInside (process.capsAs target.uid)).clearInheritable]) settles.gid settles.uid
  rw [entered, ← inside]
  have listed : ∀ bit, .einval ∈ (IsolationStep.user target).tolerated (.dropBounding bit) := by
    intro bit
    rw [tolerated]
    split <;> decide
  have allowed : (∀ bit, .eperm ∈ (IsolationStep.user target).tolerated (.dropBounding bit)) ∨
      next.has .setpcap := by
    rcases settles.bounding with restricted | entitled
    · refine .inl fun bit => ?_
      rw [tolerated, if_pos restricted]
      decide
    · rw [← inside] at entitled
      exact .inr entitled
  obtain ⟨set, dropped⟩ := replay_dropBounding_passed next listed allowed (List.range CapSet.width)
  rw [dropped]
  refine ⟨_, replay_clearInheritable { next with bounding := set } ?_, rfl⟩
  change next.caps.effective ⊆ next.caps.permitted
  rw [inside]
  exact within_capsInside (within_capsAs within _) target

/-- The user step is refused where the process does not settle. -/
theorem replay_user_refused (target : UserTarget) (unsettled : ¬ target.SettlesOn process) :
    process.replay (IsolationStep.user target).tolerated
      ((IsolationStep.user target).script process) = .error (some .eperm) := by
  rw [script_user]
  by_cases entitled : (target.gid = process.gid ∨ process.has .setgid) ∧
      (target.uid = process.uid ∨ process.has .setuid)
  · obtain ⟨next, inside, entered⟩ := replay_identity target
      ((List.range CapSet.width).map .dropBounding ++ [.readCaps, .writeCaps
        (target.capsInside (process.capsAs target.uid)).clearInheritable]) entitled.1 entitled.2
    rw [entered]
    refine replay_dropBounding_refused (fun bit => ?_) fun able => unsettled ?_
    · have unrestricted : ¬ target.operating.isRestricted :=
        fun restricted => unsettled ⟨entitled.1, entitled.2, .inl restricted⟩
      rw [tolerated, if_neg unrestricted]
      decide
    · rw [has, inside] at able
      exact ⟨entitled.1, entitled.2, .inr able⟩
  · exact replay_identity_refused target _ entitled

/-- The prefork step is replayed to the end with `CAP_SYS_ADMIN`, and keeps what it is to keep. -/
theorem replay_prefork (context : IsolationContext)
    (within : process.caps.effective ⊆ process.caps.permitted) (entitled : process.has .sysAdmin) :
    ∃ next, process.replay (IsolationStep.prefork context).tolerated
        ((IsolationStep.prefork context).script process) = .ok next ∧
      next.caps = process.caps.restrict (Policy.runtimeKeep context.operating) := by
  have unshared : process.unshare context.preforkNamespaces =
      .ok { process with unshared := process.unshared ∪ context.preforkNamespaces } := by
    rw [unshare, require, if_pos entitled]
    rfl
  have isolated : isolateFilesystem
      { process with unshared := process.unshared ∪ context.preforkNamespaces } =
      .ok { process with
        unshared := process.unshared ∪ context.preforkNamespaces
        filesystemVisible := false } := by
    have required : require .isolateFilesystem .sysAdmin
        { process with unshared := process.unshared ∪ context.preforkNamespaces } = .ok () :=
      if_pos entitled
    have mounts : (process.unshared ∪ context.preforkNamespaces).mount = true := Bool.or_true _
    rw [isolateFilesystem, required]
    exact if_pos mounts
  refine ⟨{ process with
    unshared := process.unshared ∪ context.preforkNamespaces
    filesystemVisible := false
    caps := process.caps.restrict (Policy.runtimeKeep context.operating) }, ?_, rfl⟩
  refine (replay_accepted (by rw [answer, unshared]; rfl)).trans
    ((replay_accepted (by rw [answer, isolated]; rfl)).trans (replay_restrict _ ?_ _))
  exact within

/-- The prefork step is refused without `CAP_SYS_ADMIN`. -/
theorem replay_prefork_refused (context : IsolationContext)
    (unentitled : ¬ process.has .sysAdmin) :
    process.replay (IsolationStep.prefork context).tolerated
      ((IsolationStep.prefork context).script process) = .error (some .eperm) := by
  have refused : process.unshare context.preforkNamespaces =
      .error (.call (.simulatedWithout .unshare .sysAdmin) .eperm) := by
    rw [unshare, require, if_neg unentitled]
    rfl
  rw [script, replay_refused (by rw [answer, refused]; rfl) List.not_mem_nil]

/-- The postfork step is replayed to the end, disabling core dumps and installing the filter. -/
theorem replay_postfork (context : IsolationContext) :
    process.replay (IsolationStep.postfork context).tolerated
        ((IsolationStep.postfork context).script process) =
      .ok { process.disableCoreDumps with
        filter := some (Filter.ofMode context.operating).profile } := by
  have accepted := installFilter_ofMode context.operating process.disableCoreDumps
  have answered : process.disableCoreDumps.answer
      (.installFilter (.ofMode context.operating.mode)) =
      .ok { process.disableCoreDumps with
        filter := some (Filter.ofMode context.operating).profile } := by
    change Except.mapError _ (process.disableCoreDumps.installFilter
      (.ofMode context.operating)) = _
    rw [accepted]
    rfl
  rw [script, replay_accepted rfl, replay_accepted answered, replay]

end IsolationStep

end SelfIsolation
