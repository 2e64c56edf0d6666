import SelfIsolation.Proofs.Host.Call

/-! # Operations on their course

What each operation of a host leaves behind on its course. An operation stops at the
first failure, except that closing by ranges may fall back to a listing
(`SelfIsolation.Course.closeDescriptors_follows`) and that identities need not be
mapped in a user namespace that was created
(`SelfIsolation.Course.createUserNamespace_follows`).
-/

namespace SelfIsolation

open Isolating

/-- A position that lasts while calls are made. -/
def Position.Lasts (position : Position) : Prop :=
  ∀ record system made events,
    position record system made → position record system (made ++ events)

namespace Course

variable {course : Course} {before : Position} {after : Unit → Position}
  {made events : List CallEvent}

/-- A call without an effect keeps what lasts. -/
theorem Follows.keep {fault : Int → Failure} {call : SystemCall} {rest : Unit → Isolating Host Unit}
    (lasts : before.Lasts)
    (stops : ∀ record system made, before record system made → course.failing record system)
    (tail : course.Follows before (rest ()) after)
    (permitted : ∀ record system made, before record system made →
      course.step.Permits course.directories made call := by exact fun _ _ _ _ => trivial) :
    course.Follows before (calling fault (Host.act call) >>= rest) after :=
  Follows.bind (fun _ => before)
    (Follows.act stops (fun _ _ _ holds => lasts _ _ _ _ holds) permitted) fun _ => tail

/-! ## Namespaces -/

/-- Leaving namespaces behind stops at the first failure and keeps what lasts. -/
theorem unshare_follows (set : NamespaceSet) (lasts : before.Lasts)
    (stops : ∀ record system made, before record system made → course.failing record system) :
    course.Follows before (perform (Host.unshare set)) fun _ => before := by
  unfold Host.unshare
  simp only [perform_bind, perform_note, perform_attempt]
  exact Follows.noting (Follows.act stops fun _ _ _ holds => lasts _ _ _ _ holds)

/-- Joining a user namespace stops at the first failure and keeps what lasts. -/
theorem joinUserNamespace_follows (path : String) (lasts : before.Lasts)
    (stops : ∀ record system made, before record system made → course.failing record system) :
    course.Follows before (perform (Host.joinUserNamespace path)) fun _ => before := by
  unfold Host.joinUserNamespace Host.openFile
  simp only [perform_bind, perform_note, perform_attempt, perform_atPath]
  refine Follows.bind (fun _ => before) ?_ fun _ => ?_
  · split
    case isTrue => exact Follows.ask stops fun _ _ _ _ holds _ => lasts _ _ _ _ holds
    case isFalse => exact Follows.fail _ stops
  · exact Follows.keep lasts stops (Follows.note _ _ fun _ _ _ holds => holds)

/-- Files of identities may be written, or not, in a user namespace that was created. -/
theorem Clear.written {target : UserTarget} {files : List (String × String)}
    (step : course.step = .user target) (clear : course.Clear made)
    (created : ⟨.unshare NamespaceKind.user.cloneFlag, none⟩ ∈ made)
    (mapping : ∀ file ∈ files, file.1 ∈ [Host.uidMap, Host.groupSwitch, Host.gidMap])
    (permits : ∀ before path content after, files = before ++ (path, content) :: after →
      course.step.Permits course.directories
        (made ++ before.map fun file => ⟨.writeFile file.1 file.2, none⟩) (.writeFile path content))
    (written : Host.Written files events) : course.Clear (made ++ events) := by
  induction written generalizing made with
  | all => rwa [List.append_nil]
  | unasked => rwa [List.append_nil]
  | refused path content files code =>
      have permitted := permits [] path content files rfl
      rw [List.map_nil, List.append_nil] at permitted
      refine clear.pass permitted ?_
      rw [step]
      exact .identityFile created (mapping _ List.mem_cons_self)
  | next path content written ih =>
      rename_i files events
      have permitted := permits [] path content files rfl
      rw [List.map_nil, List.append_nil] at permitted
      rw [List.append_cons]
      refine ih (clear.ok permitted) (List.mem_append_left _ created)
        (fun file member => mapping file (List.mem_cons_of_mem _ member)) ?_
      rintro before path' content' after rfl
      have later := permits ((path, content) :: before) path' content' after rfl
      rwa [List.map_cons, List.append_cons] at later

/-- The map of groups is written last. -/
theorem permits_identityFiles {uid gid : UInt32} (step : IsolationStep) (directories : List String)
    (made : List CallEvent) (before : List (String × String)) (path content : String)
    (after : List (String × String))
    (whole : Host.identityFiles uid gid = before ++ (path, content) :: after) :
    step.Permits directories
      (made ++ before.map fun file => ⟨.writeFile file.1 file.2, none⟩)
      (.writeFile path content) := by
  intro groups
  subst groups
  rcases before with _ | ⟨users, _ | ⟨switch, _ | ⟨other, rest⟩⟩⟩
  · simp [Host.identityFiles, Host.uidMap, Host.gidMap] at whole
  · simp [Host.identityFiles, Host.groupSwitch, Host.gidMap] at whole
  · cases whole
    exact ⟨⟨idMapLine 0 uid, by simp⟩, by simp⟩
  · simp [Host.identityFiles] at whole

/-- Creating a user namespace stops where the namespace is refused, and passes over its maps. -/
theorem createUserNamespace_follows {target : UserTarget} (step : course.step = .user target)
    (uid gid : UInt32) (lasts : before.Lasts)
    (stops : ∀ record system made, before record system made → course.failing record system) :
    course.Follows before (perform (Host.createUserNamespace uid gid)) fun _ => before := by
  unfold Host.createUserNamespace
  simp only [perform_bind, perform_attempt, perform_asking]
  refine Follows.bind
    (fun _ record system made => before record system made ∧
      ⟨.unshare NamespaceKind.user.cloneFlag, none⟩ ∈ made)
    (Follows.act stops fun _ _ _ holds =>
      ⟨lasts _ _ _ _ holds, List.mem_append_right _ (List.mem_singleton_self _)⟩) fun _ => ?_
  refine Follows.asking (fun _ => before) (Host.writeAll_answers _) ?_ fun refusal => ?_
  · intro record system made refusal events holds clear written
    have mapping : ∀ file ∈ Host.identityFiles uid gid,
        file.1 ∈ [Host.uidMap, Host.groupSwitch, Host.gidMap] := by simp [Host.identityFiles]
    exact .inl ⟨clear.written step holds.2 mapping (permits_identityFiles _ _ _) written,
      lasts _ _ _ _ holds.1⟩
  · cases refusal with
    | some refusal => exact Follows.note _ _ fun _ _ _ holds => holds
    | none => exact Follows.note _ _ fun _ _ _ holds => holds

/-! ## The filesystem -/

/-- Nothing is mounted unless the scratch directory is there. -/
theorem isolateFilesystem_follows {context : IsolationContext}
    (step : course.step = .prefork context) (lasts : before.Lasts)
    (stops : ∀ record system made, before record system made → course.failing record system)
    (same : ∀ record system made, before record system made →
      system.directories = course.directories) :
    course.Follows before (perform (Host.isolateFilesystem context.root)) fun _ => before := by
  unfold Host.isolateFilesystem
  simp only [perform_bind, perform_asking]
  refine Follows.asking (fun found record system made => before record system made ∧
    found = true ∧ context.root.scratch ∈ course.directories)
    (Host.isDirectory_answers _) ?_ fun found => ?_
  · intro record system made found events holds clear answer
    cases found with
    | true =>
        obtain ⟨listed, rfl⟩ := answer.1 rfl
        rw [same _ _ _ holds] at listed
        exact .inl ⟨clear.ok trivial, lasts _ _ _ _ holds, rfl, listed⟩
    | false =>
        have permitted : course.step.Permits course.directories made
            (.status context.root.scratch) := trivial
        refine .inr ⟨?_, stops _ _ _ holds, _, rfl⟩
        rcases answer.2 with rfl | ⟨failure, rfl⟩
        · rw [List.append_nil]
          exact .clear clear
        · cases failure with
          | none => exact .clear (clear.ok permitted)
          | some code => exact .refused clear permitted code
  · refine Follows.assuming (fun _ _ _ holds => holds.2) fun known => ?_
    obtain ⟨rfl, listed⟩ := known
    -- Each of the five calls that follow needs the scratch directory and nothing else.
    have permitted : ∃ context, course.step = .prefork context ∧
        context.root.scratch ∈ course.directories := ⟨context, step, listed⟩
    simp only [↓reduceIte, perform_bind, perform_note, perform_attempt]
    refine Follows.weaken (show course.Follows before _ fun _ => before from ?_)
      (fun _ _ _ holds => holds.1) fun _ _ _ _ holds => holds
    refine Follows.keep lasts stops ?_ fun _ _ _ _ => permitted
    refine Follows.keep lasts stops ?_ fun _ _ _ _ => permitted
    refine Follows.keep lasts stops ?_ fun _ _ _ _ => permitted
    refine Follows.keep lasts stops ?_ fun _ _ _ _ => permitted
    refine Follows.keep lasts stops ?_ fun _ _ _ _ => permitted
    exact Follows.note _ _ fun _ _ _ holds => holds

/-! ## Core dumps and filters -/

/-- Disabling core dumps stops where either of its calls is refused. -/
theorem disableCoreDumps_follows
    (stops : ∀ record system made, before record system made →
      course.failing record system ∧ course.failing record { system with dumpable := false })
    (disabled : ∀ record system made, before record system made →
      after () record { system with dumpable := false, coreLimit := (0, 0) }
        (made ++ [⟨.clearDumpable, none⟩] ++ [⟨.setCoreLimit 0 0, none⟩])) :
    course.Follows before (perform Host.disableCoreDumps) after := by
  refine Follows.each fun record system made start => ?_
  obtain ⟨stop, stopCleared⟩ := stops _ _ _ start
  unfold Host.disableCoreDumps
  simp only [perform_bind, perform_attempt]
  refine Follows.acting stop ?_
  exact Follows.act (Position.exactly_elim stopCleared)
    (Position.exactly_elim (disabled record system made start))

/-- Installing a filter that is compiled stops where one of its calls is refused. -/
theorem installFilter_follows {filter : Filter} {program : FilterProgram}
    (compiled : filter.compile = .ok program)
    (stops : ∀ record system made, before record system made → course.failing record system ∧
      course.failing record { system with noNewPrivileges := true })
    (installed : ∀ record system made, before record system made →
      after () record
        { system with noNewPrivileges := true, filters := system.filters ++ [program] }
        (made ++ [⟨.forbidPrivileges, none⟩] ++ [⟨.forbidPrivileges, none⟩] ++
          [⟨.loadFilter program, none⟩])) :
    course.Follows before (perform (Host.installFilter filter)) after := by
  refine Follows.each fun record system made start => ?_
  obtain ⟨stop, stopForbidden⟩ := stops _ _ _ start
  unfold Host.installFilter
  simp only [compiled, perform_bind, perform_attempt, perform_applying]
  refine Follows.acting stop ?_
  refine Follows.acting stopForbidden ?_
  exact Follows.act (Position.exactly_elim stopForbidden)
    (Position.exactly_elim (installed record system made start))

/-! ## Descriptors -/

variable {arguments : List String} {keep : Option Int32} {kept : PrivilegeRecord → System → Prop}

/-- What is needed after every refusal to close a range. -/
def AfterRefusal (needed : List CallEvent → Prop) (made : List CallEvent) : Prop :=
  ∀ before first last code after,
    made = before ++ ⟨.closeRange first last, some code⟩ :: after → needed after

/-- What is needed after a refusal by ranges goes on being met with further calls. -/
theorem AfterRefusal.append {needed needed' : List CallEvent → Prop} {made : List CallEvent}
    {event : CallEvent} (followed : AfterRefusal needed made)
    (other : ∀ first last code, event ≠ ⟨.closeRange first last, some code⟩)
    (extended : ∀ after, needed after → needed' (after ++ [event])) :
    AfterRefusal needed' (made ++ [event]) := by
  intro before first last code after whole
  rcases split_concat whole with ⟨-, same, -⟩ | ⟨rest, rfl, rfl⟩
  · exact absurd same (other first last code)
  · exact extended rest (followed before first last code rest rfl)

/-- The calls of a walk over a listing, as far as the given descriptors. -/
structure Walk (descriptors : List Int32) (made : List CallEvent) : Prop where
  listed : ⟨.openDirectory Host.descriptorListing, none⟩ ∈ made
  closed : ∀ descriptor ∈ descriptors, ∃ failure, ⟨.close descriptor, failure⟩ ∈ made

/-- Descriptors that were walked stay so with further calls. -/
theorem Walk.append {descriptors : List Int32} {made : List CallEvent}
    (walk : Walk descriptors made) (events : List CallEvent) :
    Walk descriptors (made ++ events) where
  listed := List.mem_append_left _ walk.listed
  closed := fun descriptor member =>
    (walk.closed descriptor member).imp fun _ made => List.mem_append_left _ made

/-- Wherever closing by ranges was refused, the descriptors that the system lists were closed one
by one. -/
def Walked (keep : Option Int32) (system : System) : List CallEvent → Prop :=
  AfterRefusal fun after => ∃ names, system.descriptorNames = some names ∧
    Walk (Descriptor.listed keep names) after

/-- What was walked stays so with a call that is no refusal by ranges. -/
theorem Walked.append {system : System} {made : List CallEvent} {event : CallEvent}
    (walked : Walked keep system made)
    (other : ∀ first last code, event ≠ ⟨.closeRange first last, some code⟩) :
    Walked keep system (made ++ [event]) :=
  AfterRefusal.append walked other fun _ walk =>
    walk.imp fun _ walk => ⟨walk.1, walk.2.append [event]⟩

/-- A walk that has come as far as the given descriptors. -/
structure Walking (kept : PrivilegeRecord → System → Prop) (names : List String)
    (done : List Int32) (record : PrivilegeRecord) (system : System) (made : List CallEvent) :
    Prop where
  kept : kept record system
  names : system.descriptorNames = some names
  listed : ⟨.openDirectory Host.descriptorListing, none⟩ ∈ made
  walk : AfterRefusal (Walk done) made

variable (step : course.step = .initial arguments)
  (stops : ∀ record system, kept record system → course.failing record system)

include step stops

/-- One more descriptor is closed, or was closed before. -/
theorem closeOne_follows (names : List String) (done : List Int32) (descriptor : Int32) :
    course.Follows (Walking kept names done) (perform (Host.closeOne descriptor))
      fun _ => Walking kept names (done ++ [descriptor]) := by
  unfold Host.closeOne
  simp only [perform_bind, perform_asking]
  refine Follows.sparing .ebadf (fun _ => Walking kept names (done ++ [descriptor])) (by decide)
    (fun _ _ _ walking => stops _ _ walking.kept) ?_ ?_ ?_ ?_ ?_
  · intro record system made walking
    rw [step]
    exact .closed walking.listed
  · intro record system made failure walking
    refine ⟨walking.kept, walking.names, List.mem_append_left _ walking.listed,
      walking.walk.append (fun _ _ _ same => nomatch same) fun after walk =>
        ⟨List.mem_append_left _ walk.listed, fun other member => ?_⟩⟩
    rcases List.mem_append.mp member with earlier | last
    · exact (walk.closed other earlier).imp fun _ made => List.mem_append_left _ made
    · cases List.mem_singleton.mp last
      exact ⟨failure, List.mem_append_right _ (List.mem_singleton_self _)⟩
  · intro code other
    simp only [other, ↓reduceIte]
    exact ⟨_, rfl⟩
  · exact Follows.pure _ fun _ _ _ holds => holds
  · intro code closed
    simp only [closed, ↓reduceIte]
    exact Follows.pure _ fun _ _ _ holds => holds

/-- Closing descriptors one after the other adds them to those that are done. -/
theorem closeEach_follows (names : List String) (done descriptors : List Int32) :
    course.Follows (Walking kept names done) (perform (descriptors.forM Host.closeOne))
      fun _ => Walking kept names (done ++ descriptors) := by
  induction descriptors generalizing done with
  | nil =>
      rw [List.append_nil]
      exact Follows.pure _ fun _ _ _ holds => holds
  | cons descriptor descriptors ih =>
      have first : (descriptor :: descriptors).forM Host.closeOne =
          Host.closeOne descriptor >>= fun _ => descriptors.forM Host.closeOne := rfl
      rw [List.append_cons, first, perform_bind]
      exact Follows.bind _ (closeOne_follows step stops names done descriptor) fun _ => ih _

/-- Closing what is listed walks the listing. -/
theorem closeListed_follows :
    course.Follows (fun record system _ => kept record system) (perform (Host.closeListed keep))
      fun _ record system made => kept record system ∧ Walked keep system made := by
  unfold Host.closeListed
  simp only [perform_bind, perform_onFile]
  refine Follows.bind (fun names => Walking kept names []) ?_ fun names => ?_
  · refine Follows.ask (fun _ _ _ holds => stops _ _ holds) ?_
    intro record system made names holds told
    have listed : ⟨.openDirectory Host.descriptorListing, none⟩ ∈
        [(⟨.openDirectory Host.descriptorListing, none⟩ : CallEvent)] := List.mem_singleton_self _
    refine ⟨holds, ?_, List.mem_append_right _ listed, ?_⟩
    · unfold System.listing at told
      cases listing : system.descriptorNames with
      | none => simp only [listing, reduceCtorEq] at told
      | some found =>
          simp only [listing, Except.ok.injEq] at told
          rw [told]
    · intro before first last code after whole
      rcases split_concat whole with ⟨-, same, -⟩ | ⟨rest, rfl, -⟩
      · cases same
      · exact ⟨List.mem_append_right _ listed, fun _ => (nomatch ·)⟩
  · refine (closeEach_follows step stops names [] _).weaken (fun _ _ _ holds => holds) ?_
    intro _ record system made walking
    refine ⟨walking.kept, fun before first last code after whole => ?_⟩
    exact ⟨names, walking.names, walking.walk before first last code after whole⟩

/-- Closing ranges walks the listing where a range is refused. -/
theorem closeRanges_follows (ranges : List Descriptor.Range) :
    course.Follows (fun record system made => kept record system ∧
        AfterRefusal (fun _ => False) made)
      (perform (Host.closeRanges keep ranges))
      fun _ record system made => kept record system ∧ Walked keep system made := by
  induction ranges with
  | nil =>
      refine Follows.pure _ fun record system made holds => ⟨holds.1, ?_⟩
      exact fun before first last code after whole =>
        (holds.2 before first last code after whole).elim
  | cons range ranges ih =>
      rw [Host.closeRanges]
      simp only [perform_bind, perform_asking]
      refine Follows.sparing .enosys (fun failure record system made => kept record system ∧
          (failure = none → AfterRefusal (fun _ => False) made)) (by decide)
        (fun _ _ _ holds => stops _ _ holds.1) ?_ ?_ ?_ ?_ ?_
      · intro record system made holds
        rw [step]
        exact .ranges
      · rintro record system made _ ⟨holds, unrefused⟩
        refine ⟨holds, ?_⟩
        rintro rfl
        exact unrefused.append (fun _ _ _ same => nomatch same) fun _ none => none
      · intro code other
        simp only [other, ↓reduceIte]
        exact ⟨_, rfl⟩
      · exact ih.weaken (fun _ _ _ holds => ⟨holds.1, holds.2 rfl⟩) fun _ _ _ _ holds => holds
      · intro code missing
        simp only [missing, ↓reduceIte, perform_bind, perform_note]
        exact Follows.noting ((closeListed_follows step stops).weaken
          (fun _ _ _ holds => holds.1) fun _ _ _ _ holds => holds)

/-- Closing the descriptors, by ranges or by a listing. -/
theorem closeDescriptors_follows :
    course.Follows (fun record system made => kept record system ∧ made = [])
      (perform (Host.closeDescriptors keep))
      fun _ record system made => kept record system ∧ Walked keep system made := by
  refine (closeRanges_follows step stops (Descriptor.sweepRanges keep)).weaken
    (fun record system made holds => ⟨holds.1, ?_⟩) fun _ _ _ _ holds => holds
  rw [holds.2]
  intro before first last code after whole
  exact absurd whole.symm (List.append_ne_nil_of_right_ne_nil _ (List.cons_ne_nil _ _))

end Course

end SelfIsolation
