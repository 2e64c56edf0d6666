import SelfIsolation.Proofs.Lifecycle.Guarantee
import SelfIsolation.Proofs.Lifecycle.Script
import SelfIsolation.Proofs.Simulation.Run

/-! # No way back

A process that completed the user step acts under the identity that it has
(`SelfIsolation.Session.Run.actsAsItself`), and one that completed the prefork step is
left with capabilities that let it change neither identity nor groups. So whatever is
asked of the kernel from then on, short of entering a user namespace, what the prefork
step gave up stays given up (`SelfIsolation.Session.Run.irreversible`).
-/

namespace SelfIsolation

open SimulatedProcess (ActsAsItself Change)

/-! ## Identity -/

/-- A process that could change its user identity acts as itself from then on. -/
theorem SimulatedKernel.acts_of_setUid {kernel next : SimulatedKernel} {uid : UInt32}
    (taken : submit (.setUid uid) kernel = .ok () next) : next.process.ActsAsItself := by
  have obeyed := submit_obeys (.setUid uid) kernel
  rw [taken] at obeyed
  have same := SimulatedProcess.setUid_ok (SimulatedProcess.ok_of_mapError obeyed)
  rw [same]
  exact rfl

/-- Calls keep a process acting as itself, and taking on an identity makes it do so. -/
theorem SimulatedKernel.Makes.actsAsItself {first last : SimulatedKernel}
    {calls : List (SimulatedCall × CallAnswer)} (made : first.Makes calls last)
    (known : first.process.ActsAsItself ∨ ∃ uid, (.setUid uid, .ok ()) ∈ calls) :
    last.process.ActsAsItself := by
  induction made with
  | nothing =>
      rcases known with acts | ⟨uid, taken⟩
      · exact acts
      · cases taken
  | accepted made answer ih =>
      rename_i calls kernel call next
      by_cases identity : ∃ uid, call = .setUid uid
      · obtain ⟨uid, rfl⟩ := identity
        exact acts_of_setUid answer
      · have acts : kernel.process.ActsAsItself := by
          refine ih (known.imp_right fun ⟨uid, taken⟩ => ⟨uid, ?_⟩)
          rcases List.mem_append.mp taken with earlier | last
          · exact earlier
          · cases List.mem_singleton.mp last
            exact absurd ⟨uid, rfl⟩ identity
        rcases submit_changes answer with change | ⟨-, entry⟩
        · exact change.actsAsItself acts
        · exact entry.actsAsItself acts
  | refused made answer ih =>
      rename_i calls kernel call refusal next
      rw [ActsAsItself, submit_spares answer]
      refine ih (known.imp_right fun ⟨uid, taken⟩ => ⟨uid, ?_⟩)
      rcases List.mem_append.mp taken with earlier | last
      · exact earlier
      · cases List.mem_singleton.mp last

namespace IsolationStep

/-- A user step that ends well has taken on the identity of its target. -/
theorem setUid_of_completed {target : UserTarget} {process : SimulatedProcess}
    {calls : List (SimulatedCall × CallAnswer)}
    (ended : (user target).Ended process calls (.ok ())) :
    (.setUid target.uid, .ok ()) ∈ calls := by
  cases ended with
  | completed whole passed =>
      have scripted : .setUid target.uid ∈ calls.map Prod.fst := by
        rw [whole]
        simp only [script, List.cons_append, List.mem_cons, true_or, or_true]
      obtain ⟨⟨call, answer⟩, member, same⟩ := List.mem_map.mp scripted
      cases same
      rcases passed _ member with accepted | ⟨errno, tolerated, -⟩
      · cases accepted
        exact member
      · cases tolerated

end IsolationStep

variable {start session : Session SimulatedKernel}
  {history : List (IsolationStep × Except Fault Unit)}

/-- From the user step on a process acts under the identity that it has. -/
theorem Session.Run.actsAsItself (run : start.Run history session)
    (switched : ∃ target, .user target ∈ completed history) :
    session.kernel.process.ActsAsItself := by
  induction run with
  | start =>
      obtain ⟨target, member⟩ := switched
      cases member
  | call run step ih =>
      rename_i history session
      obtain ⟨calls, made, -, -, ended⟩ := (step.take_scripted session).1
      refine made.actsAsItself ?_
      rw [completed_append] at switched
      cases result : step.take.ending session with
      | error fault =>
          rw [result] at switched
          exact .inl (ih switched)
      | ok value =>
          rw [result] at switched ended
          obtain ⟨target, member⟩ := switched
          rcases List.mem_append.mp member with earlier | last
          · exact .inl (ih ⟨target, earlier⟩)
          · cases List.mem_singleton.mp last
            exact .inr ⟨_, IsolationStep.setUid_of_completed ended⟩
  | fail run operation errno ih => exact ih switched
  | clearFailure run operation ih => exact ih switched

/-! ## What stays given up -/

/-- Since then the process has kept its identity and gained nothing, and at most `keep` is left of
its capabilities. -/
structure SimulatedProcess.Relinquished (keep : CapSet) (since now : SimulatedProcess) : Prop where
  uid : now.uid = since.uid
  effectiveUid : now.effectiveUid = since.effectiveUid
  gid : now.gid = since.gid
  groups : now.groups = since.groups
  effective : now.caps.effective ⊆ keep
  permitted : now.caps.permitted ⊆ keep
  bounding : now.bounding ⊆ since.bounding
  descriptors : ∀ descriptor ∈ now.descriptors, descriptor ∈ since.descriptors
  filesystem : now.filesystemVisible = false

/-- What is kept at run time lets a process change neither its identity nor its groups. -/
theorem Policy.runtimeKeep_powerless (operating : OperatingMode) :
    (runtimeKeep operating).contains .setuid = false ∧
      (runtimeKeep operating).contains .setgid = false := by
  unfold runtimeKeep
  split <;> decide

namespace SimulatedProcess

variable {keep : CapSet} {since process next : SimulatedProcess}

/-- Who has only what is kept lacks a capability that is not. -/
theorem lacks_of_subset {capability : Capability} (within : process.caps.effective ⊆ keep)
    (powerless : keep.contains capability = false) : ¬ process.has capability = true := by
  intro held
  have kept := CapSet.subset_iff.mp within _ held
  cases kept.symm.trans powerless

/-- A change keeps what was relinquished, where nothing that is kept helps to take it back. -/
theorem Change.relinquished (change : process.Change next)
    (uid : keep.contains .setuid = false) (gid : keep.contains .setgid = false)
    (acts : since.ActsAsItself) (held : Relinquished keep since process) :
    Relinquished keep since next := by
  cases change with
  | nothing => exact held
  | caps sets permitted effective inheritable =>
      have within := CapSet.subset_trans permitted held.permitted
      exact { held with
        effective := CapSet.subset_trans effective within
        permitted := within }
  | bounding capability =>
      exact { held with
        bounding := CapSet.subset_trans (CapSet.eraseBit_subset _ _) held.bounding }
  | descriptors keep =>
      exact { held with
        descriptors := fun _ member => held.descriptors _ (List.mem_filter.mp member).1 }
  | groups entitled => exact absurd entitled (lacks_of_subset held.effective gid)
  | gid other entitled =>
      have same := entitled.resolve_right (lacks_of_subset held.effective gid)
      exact { held with gid := same.trans held.gid }
  | uid other entitled =>
      have same : other = process.uid :=
        entitled.resolve_right (lacks_of_subset held.effective uid)
      have permitted := (Change.uid other entitled).capsNarrowed.permitted
      have effective : (process.capsAs other).effective ⊆ process.caps.effective := by
        unfold capsAs
        split
        · exact CapSet.inter_subset_left _ _
        · exact CapSet.subset_refl _
      exact { held with
        uid := same.trans held.uid
        effectiveUid := (same.trans held.uid).trans acts.symm
        effective := CapSet.subset_trans effective held.effective
        permitted := CapSet.subset_trans permitted held.permitted }
  | namespaces set => exact { held with }
  | filesystem => exact { held with filesystem := rfl }
  | dumps => exact { held with }
  | filter profile => exact { held with }

end SimulatedProcess

/-- From the prefork step on capabilities are limited to those kept at run time. -/
theorem Session.Attained.confined {done : List IsolationStep}
    (attained : start.Attained session done)
    (late : Stage.preforkIsolated.index ≤ session.privileges.stage.index) :
    ∃ arguments target context rest,
      done = .initial arguments :: .user target :: .prefork context :: rest ∧
        Confined context session.privileges session.kernel.process := by
  cases attained with
  | startup standing =>
      rw [standing.stage] at late
      cases late
  | initial _ standing =>
      rw [standing.stage] at late
      cases late with
      | step late => cases late
  | user _ _ standing =>
      rw [standing.stage] at late
      cases late with
      | step late => cases late with
        | step late => cases late
  | prefork arguments target context standing =>
      exact ⟨arguments, target, context, [], rfl, standing.kept⟩
  | postfork arguments target confining sealing standing =>
      exact ⟨arguments, target, confining, [.postfork sealing], rfl, standing.kept.toConfined⟩

/-- **Irreversibility.** Once a run has completed the prefork step, whatever is asked of the kernel
afterwards leaves given up what was given up, unless it enters a user namespace. -/
theorem Session.Run.irreversible (run : start.Run history session)
    (fresh : start.privileges = .start)
    (late : Stage.preforkIsolated.index ≤ session.privileges.stage.index)
    {requests : List (Request × CallAnswer)} {last : SimulatedKernel}
    (later : session.kernel.Run requests last) (stays : SimulatedKernel.Stays requests) :
    ∃ arguments target context rest,
      completed history = .initial arguments :: .user target :: .prefork context :: rest ∧
        session.kernel.process.Relinquished (Policy.runtimeKeep context.operating)
          last.process := by
  have attained := run.attained fresh
  obtain ⟨arguments, target, context, rest, done, confined⟩ := attained.confined late
  refine ⟨arguments, target, context, rest, done, ?_⟩
  have acts : session.kernel.process.ActsAsItself := by
    refine run.actsAsItself ⟨target, ?_⟩
    rw [done]
    exact List.mem_cons_of_mem _ List.mem_cons_self
  obtain ⟨uid, gid⟩ := Policy.runtimeKeep_powerless context.operating
  refine later.keeps_staying _ stays ?_ fun _ _ held change =>
    change.relinquished uid gid acts held
  exact {
    uid := rfl
    effectiveUid := rfl
    gid := rfl
    groups := rfl
    effective := CapSet.subset_trans confined.effective confined.permitted
    permitted := confined.permitted
    bounding := CapSet.subset_refl _
    descriptors := fun _ member => member
    filesystem := by
      rw [(SelfIsolation.Attained.accounts attained).filesystem, confined.filesystem,
        Bool.false_and] }

/-- After the prefork step in pasta mode, the superuser has nothing to regain what was given up. -/
theorem Session.Run.irreversible_pasta : ∃ history session requests last,
    Session.superuser.Run history session ∧
      Stage.preforkIsolated.index ≤ session.privileges.stage.index ∧
      session.kernel.Run requests last ∧ SimulatedKernel.Stays requests ∧
      ∃ arguments target context rest,
        completed history = .initial arguments :: .user target :: .prefork context :: rest ∧
          session.kernel.process.Relinquished (Policy.runtimeKeep context.operating)
            last.process := by
  have begun : Session.superuser.Run [] _ := .start
  have run := ((begun.call (.initial ["--fd", "5"])).call
    (.user ⟨1000, 1000, true, none, ⟨.pasta, false⟩⟩)).call
    (.prefork { operating := ⟨.pasta, false⟩ })
  -- The process asks for its identity and its capabilities back.
  have asked (kernel : SimulatedKernel) := ((((@SimulatedKernel.Run.start kernel).request
    (.plain (.setUid 0))).request (.plain .clearGroups)).request
    (.plain (.writeCaps ⟨CapSet.all, CapSet.all, CapSet.all⟩))).request .boundingSet
  exact ⟨_, _, _, _, run, by decide +kernel, asked _, by decide +kernel,
    run.irreversible rfl (by decide +kernel) (asked _) (by decide +kernel)⟩

end SelfIsolation
