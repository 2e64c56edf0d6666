import SelfIsolation.Proofs.Descriptor.Sweep
import SelfIsolation.Proofs.Host.Question
import SelfIsolation.Proofs.Kernel.Ending
import SelfIsolation.Proofs.Simulation.Standing

/-! # Sweeping the descriptors of a host

A host closes descriptors by ranges, or one by one as they are listed. Which calls it
makes, and how it ends, is said by two relations along the ranges
(`SelfIsolation.Host.Sweeps`) and along the descriptors of a listing
(`SelfIsolation.Host.Walks`). Both ways close only what lies in the ranges, as does
a simulated process (`SelfIsolation.Descriptor.sweeps_agree`).
-/

namespace SelfIsolation

/-- A call closes a number, alone or among those of a range. -/
def SystemCall.Closes (call : SystemCall) (number : Int) : Prop :=
  match call with
  | .closeRange first last => Descriptor.Range.Holds ⟨first, last⟩ number
  | .close descriptor => descriptor.toInt = number
  | _ => False

/-- After the call its descriptor is closed, if only because it was closed before. -/
def CallEvent.LeavesClosed (event : CallEvent) : Prop :=
  ∀ code, event.failure = some code → Errno.ofCode code = .ebadf

namespace Host

variable {α β ε : Type}

/-! ## Calls of an action -/

/-- An action that leaves the system as it is; how it ends and which calls it makes is what `tells`
allows. -/
def Calls (action : KernelAction Host ε α)
    (tells : System → Except ε α → List CallEvent → Prop) : Prop :=
  ∀ machine, (action.reached machine).kernel.system = machine.kernel.system ∧
    ∃ events, (action.reached machine).kernel.trace = machine.kernel.trace ++ events ∧
      tells machine.kernel.system (action.ending machine) events

theorem Calls.weaken {action : KernelAction Host ε α}
    {tells tells' : System → Except ε α → List CallEvent → Prop} (calls : Calls action tells)
    (implies : ∀ system result events, tells system result events → tells' system result events) :
    Calls action tells' := by
  intro machine
  obtain ⟨same, events, traced, said⟩ := calls machine
  exact ⟨same, events, traced, implies _ _ _ said⟩

theorem Calls.pure (value : α) :
    Calls (ε := ε) (pure value) fun _ result events => result = .ok value ∧ events = [] :=
  fun _ => ⟨rfl, [], (List.append_nil _).symm, rfl, rfl⟩

theorem Calls.throw (e : ε) :
    Calls (α := α) (throw e) fun _ result events => result = .error e ∧ events = [] :=
  fun _ => ⟨rfl, [], (List.append_nil _).symm, rfl, rfl⟩

theorem Calls.note (level : LogLevel) (text : String) :
    Calls (ε := ε) (KernelAction.note level text) fun _ result events =>
      result = .ok () ∧ events = [] :=
  fun _ => ⟨rfl, [], (List.append_nil _).symm, rfl, rfl⟩

/-- A question makes its calls and does not fail. -/
theorem Calls.asking {question : StateM Host α} {answer : System → α → List CallEvent → Prop}
    (answers : Answers question answer) :
    Calls (ε := ε) (.asking question) fun system result events =>
      ∃ value, result = .ok value ∧ answer system value events := by
  intro machine
  obtain ⟨same, events, traced, answered⟩ := answers machine.kernel
  exact ⟨same, events, traced, _, rfl, answered⟩

/-- An operation of the host makes the calls that it makes there. -/
theorem Calls.silent {action : EStateM ε Host α}
    {tells : System → Except ε α → List CallEvent → Prop}
    (answers : Answers (ending action) tells) :
    Calls (.silent action) tells := by
  intro machine
  have answered := answers machine.kernel
  cases taken : action machine.kernel with
  | ok value next =>
      obtain ⟨ended, left⟩ := KernelAction.silent_ends_of_ok taken
      have run : (ending action).run machine.kernel = (.ok value, next) := by
        unfold ending StateT.run
        dsimp only
        rw [taken]
      rw [run] at answered
      rw [ended, left]
      exact answered
  | error e next =>
      obtain ⟨ended, left⟩ := KernelAction.silent_ends_of_error taken
      have run : (ending action).run machine.kernel = (.error e, next) := by
        unfold ending StateT.run
        dsimp only
        rw [taken]
      rw [run] at answered
      rw [ended, left]
      exact answered

/-- Actions make the calls of the first, and those of the second where the first does not fail. -/
theorem Calls.bind {first : KernelAction Host ε β} {second : β → KernelAction Host ε α}
    {middle : System → Except ε β → List CallEvent → Prop}
    {tells : System → Except ε α → List CallEvent → Prop} (head : Calls first middle)
    (stops : ∀ system e events, middle system (.error e) events → tells system (.error e) events)
    (tail : ∀ value, Calls (second value) fun system result events =>
      ∀ earlier, middle system (.ok value) earlier → tells system result (earlier ++ events)) :
    Calls (first >>= second) tells := by
  intro machine
  obtain ⟨same, earlier, traced, known⟩ := head machine
  cases taken : first machine with
  | ok value next =>
      obtain ⟨ended, left⟩ := KernelAction.ends_of_ok taken
      obtain ⟨ended', left'⟩ := KernelAction.bind_ends_of_ok second taken
      rw [ended] at known
      rw [left] at same traced
      rw [ended', left']
      obtain ⟨same', later, traced', said⟩ := tail value next
      rw [same] at said
      refine ⟨same'.trans same, earlier ++ later, ?_, said earlier known⟩
      rw [traced', traced, List.append_assoc]
  | error e next =>
      obtain ⟨ended, left⟩ := KernelAction.ends_of_error taken
      obtain ⟨ended', left'⟩ := KernelAction.bind_ends_of_error second taken
      rw [ended] at known
      rw [left] at same traced
      rw [ended', left']
      exact ⟨same, earlier, traced, stops _ _ _ known⟩

/-- A call that acts, and what is done about either answer. -/
theorem Calls.acting {call : SystemCall} {rest : Except Int Unit → KernelAction Host ε α}
    {tells : System → Except ε α → List CallEvent → Prop}
    (accepted : Calls (rest (.ok ())) fun system result events =>
      tells system result (⟨call, none⟩ :: events))
    (refused : ∀ code, Calls (rest (.error code)) fun system result events =>
      tells system result (⟨call, some code⟩ :: events)) :
    Calls (.asking (ending (act call)) >>= rest) tells := by
  refine Calls.bind (.asking (act_told call)) ?_ fun answer => ?_
  · rintro system e events ⟨value, ended, -⟩
    cases ended
  · cases answer with
    | ok value =>
        refine accepted.weaken fun system result events said => ?_
        rintro earlier ⟨value', ended, told⟩
        cases ended
        cases told
        exact said
    | error code =>
        refine (refused code).weaken fun system result events said => ?_
        rintro earlier ⟨value', ended, told⟩
        cases ended
        cases told
        exact said

/-! ## The calls of a sweep -/

/-- The calls by which descriptors are closed one after another, with the end of it. -/
inductive Walks : List Int32 → Except Failure Unit → List CallEvent → Prop
  | done : Walks [] (.ok ()) []
  | next {descriptors result events} (descriptor : Int32) (failure : Option Int)
      (closed : CallEvent.LeavesClosed ⟨.close descriptor, failure⟩)
      (walks : Walks descriptors result events) :
      Walks (descriptor :: descriptors) result (⟨.close descriptor, failure⟩ :: events)
  | stopped (descriptor : Int32) (descriptors : List Int32) (code : Int) (failure : Failure)
      (fatal : ¬ CallEvent.LeavesClosed ⟨.close descriptor, some code⟩) :
      Walks (descriptor :: descriptors) (.error failure) [⟨.close descriptor, some code⟩]

/-- A call that fails leaves a descriptor closed only where it was closed before. -/
theorem leavesClosed_some {call : SystemCall} {code : Int} :
    CallEvent.LeavesClosed ⟨call, some code⟩ ↔ Errno.ofCode code = .ebadf := by
  simp only [CallEvent.LeavesClosed, Option.some.injEq, forall_eq']

/-- A descriptor is closed, or the walk stops there. -/
theorem closeOne_calls (descriptor : Int32) :
    Calls (closeOne descriptor) fun _ result events => ∃ failure,
      events = [⟨.close descriptor, failure⟩] ∧
        ((result = .ok () ∧ CallEvent.LeavesClosed ⟨.close descriptor, failure⟩) ∨
          ∃ code e, failure = some code ∧ result = .error e ∧
            ¬ CallEvent.LeavesClosed ⟨.close descriptor, failure⟩) := by
  unfold closeOne
  refine Calls.acting ?_ fun code => ?_
  · refine (Calls.pure ()).weaken ?_
    rintro system result events ⟨rfl, rfl⟩
    exact ⟨none, rfl, .inl ⟨rfl, nofun⟩⟩
  · by_cases closed : Errno.ofCode code = .ebadf
    · simp only [closed, ↓reduceIte]
      refine (Calls.pure ()).weaken ?_
      rintro system result events ⟨rfl, rfl⟩
      exact ⟨some code, rfl, .inl ⟨rfl, leavesClosed_some.mpr closed⟩⟩
    · simp only [closed, ↓reduceIte]
      refine (Calls.throw _).weaken ?_
      rintro system result events ⟨rfl, rfl⟩
      have fatal : ¬ CallEvent.LeavesClosed ⟨.close descriptor, some code⟩ :=
        fun left => closed (leavesClosed_some.mp left)
      exact ⟨some code, rfl, .inr ⟨code, _, rfl, rfl, fatal⟩⟩

/-- Closing descriptors one after the other walks them. -/
theorem closeEach_calls (descriptors : List Int32) :
    Calls (descriptors.forM closeOne) fun _ => Walks descriptors := by
  induction descriptors with
  | nil =>
      refine (Calls.pure ()).weaken ?_
      rintro system result events ⟨rfl, rfl⟩
      exact .done
  | cons descriptor descriptors ih =>
      refine Calls.bind (closeOne_calls descriptor) ?_ fun _ => ?_
      · rintro system e events ⟨failure, rfl, ⟨ended, -⟩ | ⟨code, e', rfl, ended, fatal⟩⟩
        · cases ended
        · exact .stopped descriptor descriptors code e fatal
      · refine ih.weaken fun system result events walks => ?_
        rintro earlier ⟨failure, rfl, ⟨-, closed⟩ | ⟨code, e', rfl, ended, fatal⟩⟩
        · exact .next descriptor failure closed walks
        · cases ended

/-- The calls of a walk over the listing of the descriptors, if there is one. -/
inductive ListedWalk (keep : Option Int32) (system : System) (result : Except Failure Unit) :
    List CallEvent → Prop
  | unlisted (code : Int) (none : system.descriptorNames = none) (failed : ∃ e, result = .error e) :
      ListedWalk keep system result [⟨.openDirectory descriptorListing, some code⟩]
  | listed {events} (names : List String) (listing : system.descriptorNames = some names)
      (walks : Walks (Descriptor.listed keep names) result events) :
      ListedWalk keep system result (⟨.openDirectory descriptorListing, none⟩ :: events)

/-- A call that no script can make fail is answered by the system. -/
theorem ask_unscripted {call : SystemCall} (question : System → Except Int α)
    (unscripted : call.name? = none) (host : Host) :
    ask call question host = match question host.system with
      | .ok value => .ok value { host with trace := host.trace ++ [⟨call, none⟩] }
      | .error code => .error code { host with trace := host.trace ++ [⟨call, some code⟩] } := by
  unfold ask make scripted
  rw [unscripted]
  dsimp only
  cases question host.system <;> rfl

/-- A listing is told as the system has it, or refused where the system has none. -/
theorem listing_told (fault : Int → ε) :
    Answers (ending (EStateM.adaptExcept fault
        (ask (.openDirectory descriptorListing) System.listing))) fun system result events =>
      (∃ names, system.descriptorNames = some names ∧ result = .ok names ∧
        events = [⟨.openDirectory descriptorListing, none⟩]) ∨
      ∃ code, system.descriptorNames = none ∧ result = .error (fault code) ∧
        events = [⟨.openDirectory descriptorListing, some code⟩] := by
  intro host
  unfold StateT.run ending EStateM.adaptExcept
  rw [ask_unscripted System.listing rfl]
  cases listing : host.system.descriptorNames with
  | some names =>
      have answer : host.system.listing = .ok names := by rw [System.listing, listing]
      rw [answer]
      exact ⟨rfl, _, rfl, .inl ⟨names, listing, rfl, rfl⟩⟩
  | none =>
      have answer : host.system.listing = .error Errno.enoent.number := by
        rw [System.listing, listing]
      rw [answer]
      exact ⟨rfl, _, rfl, .inr ⟨_, listing, rfl, rfl⟩⟩

theorem onFile_refused (failure : FileFault → Failure) (call : EStateM Int Host α) :
    onFile failure (EStateM.adaptExcept .refused call) =
      .silent (EStateM.adaptExcept (fun code => failure (.refused code)) call) := by
  funext machine
  unfold onFile KernelAction.silent EStateM.adaptExcept
  cases call machine.kernel <;> rfl

/-- Closing what is listed walks the listing. -/
theorem closeListed_calls (keep : Option Int32) :
    Calls (closeListed keep) (ListedWalk keep) := by
  unfold closeListed
  rw [onFile_refused]
  refine Calls.bind (.silent (listing_told _)) ?_ fun names => ?_
  · rintro system e events (⟨names, _, ended, _⟩ | ⟨code, unlisted, _, rfl⟩)
    · cases ended
    · exact .unlisted code unlisted ⟨e, rfl⟩
  · refine (closeEach_calls _).weaken fun system result events walks => ?_
    rintro earlier (⟨names', listing, ended, rfl⟩ | ⟨code, _, ended, _⟩)
    · cases ended
      exact .listed names listing walks
    · cases ended

/-- The calls by which ranges are closed one after another. A range that a system cannot close is
followed by a walk. -/
inductive Sweeps (keep : Option Int32) (system : System) :
    List Descriptor.Range → Except Failure Unit → List CallEvent → Prop
  | done : Sweeps keep system [] (.ok ()) []
  | next {ranges result events} (range : Descriptor.Range)
      (sweeps : Sweeps keep system ranges result events) :
      Sweeps keep system (range :: ranges) result
        (⟨.closeRange range.first range.last, none⟩ :: events)
  | walked {result events} (range : Descriptor.Range) (ranges : List Descriptor.Range) (code : Int)
      (walk : ListedWalk keep system result events) :
      Sweeps keep system (range :: ranges) result
        (⟨.closeRange range.first range.last, some code⟩ :: events)
  | stopped (range : Descriptor.Range) (ranges : List Descriptor.Range) (code : Int)
      (failure : Failure) :
      Sweeps keep system (range :: ranges) (.error failure)
        [⟨.closeRange range.first range.last, some code⟩]

/-- Closing ranges sweeps them. -/
theorem closeRanges_calls (keep : Option Int32) (ranges : List Descriptor.Range) :
    Calls (closeRanges keep ranges) fun system => Sweeps keep system ranges := by
  induction ranges with
  | nil =>
      refine (Calls.pure ()).weaken ?_
      rintro system result events ⟨rfl, rfl⟩
      exact .done
  | cons range ranges ih =>
      refine Calls.acting ?_ fun code => ?_
      · exact ih.weaken fun system result events sweeps => .next range sweeps
      · by_cases missing : Errno.ofCode code = .enosys
        · simp only [missing, ↓reduceIte]
          refine Calls.bind (.note _ _) ?_ fun _ => ?_
          · rintro system e events ⟨ended, -⟩
            cases ended
          · refine (closeListed_calls keep).weaken fun system result events walk => ?_
            rintro earlier ⟨-, rfl⟩
            exact .walked range ranges code walk
        · simp only [missing, ↓reduceIte]
          refine (Calls.throw _).weaken ?_
          rintro system result events ⟨rfl, rfl⟩
          exact .stopped range ranges code _

/-! ## What is closed -/

section Closed

variable {keep : Option Int32} {system : System} {result : Except Failure Unit}
  {events : List CallEvent} {descriptors : List Int32} {ranges : List Descriptor.Range}

/-- A walk goes through the descriptors in their order, and stops at none that it can leave
closed. -/
theorem Walks.front (walks : Walks descriptors result events) :
    events.map CallEvent.call <+: descriptors.map .close ∧
      ((∀ event ∈ events, event.LeavesClosed) →
        result = .ok () ∧ events.map CallEvent.call = descriptors.map .close) := by
  induction walks with
  | done => exact ⟨List.prefix_rfl, fun _ => ⟨rfl, rfl⟩⟩
  | next descriptor failure closed walks ih =>
      refine ⟨List.cons_prefix_cons.mpr ⟨rfl, ih.1⟩, fun all => ?_⟩
      obtain ⟨ended, whole⟩ := ih.2 fun event member => all event (List.mem_cons_of_mem _ member)
      exact ⟨ended, congrArg (_ :: ·) whole⟩
  | stopped descriptor descriptors code failure fatal =>
      exact ⟨List.cons_prefix_cons.mpr ⟨rfl, List.nil_prefix⟩,
        fun all => absurd (all _ List.mem_cons_self) fatal⟩

/-- A walk closes only the descriptors that are walked. -/
theorem Walks.closes (walks : Walks descriptors result events) {event : CallEvent}
    (member : event ∈ events) {number : Int} (closes : event.call.Closes number) :
    ∃ descriptor ∈ descriptors, descriptor.toInt = number := by
  have called : event.call ∈ descriptors.map SystemCall.close :=
    walks.front.1.subset (List.mem_map_of_mem member)
  obtain ⟨descriptor, chosen, same⟩ := List.mem_map.mp called
  rw [← same] at closes
  exact ⟨descriptor, chosen, closes⟩

/-- Walking over a listing closes nothing outside of the ranges. -/
theorem ListedWalk.closes (walk : ListedWalk keep system result events) {event : CallEvent}
    (member : event ∈ events) {number : Int} (closes : event.call.Closes number) :
    Descriptor.InRanges (Descriptor.sweepRanges keep) number := by
  cases walk with
  | unlisted code none failed =>
      cases List.mem_singleton.mp member
      exact closes.elim
  | listed names listing walks =>
      rcases List.mem_cons.mp member with rfl | later
      · exact closes.elim
      · obtain ⟨descriptor, chosen, rfl⟩ := walks.closes later closes
        exact (Descriptor.isSwept_iff keep descriptor).mp (List.mem_filter.mp chosen).2

/-- A sweep closes only what lies in the ranges of a sweep. -/
theorem Sweeps.closes (sweeps : Sweeps keep system ranges result events)
    (within : ∀ range ∈ ranges, range ∈ Descriptor.sweepRanges keep) {event : CallEvent}
    (member : event ∈ events) {number : Int} (closes : event.call.Closes number) :
    Descriptor.InRanges (Descriptor.sweepRanges keep) number := by
  induction sweeps with
  | done => cases member
  | next range sweeps ih =>
      rcases List.mem_cons.mp member with rfl | later
      · exact ⟨range, within range List.mem_cons_self, closes⟩
      · exact ih (fun other among => within other (List.mem_cons_of_mem _ among)) later
  | walked range ranges code walk =>
      rcases List.mem_cons.mp member with rfl | later
      · exact ⟨range, within range List.mem_cons_self, closes⟩
      · exact walk.closes later closes
  | stopped range ranges code failure =>
      cases List.mem_singleton.mp member
      exact ⟨range, within range List.mem_cons_self, closes⟩

/-- Where nothing fails, every range is closed and nothing else is done. -/
theorem Sweeps.whole (sweeps : Sweeps keep system ranges result events)
    (succeeded : ∀ event ∈ events, event.failure = none) :
    events.map CallEvent.call = ranges.map fun range => .closeRange range.first range.last := by
  induction sweeps with
  | done => rfl
  | next range sweeps ih =>
      have later := ih fun event member => succeeded event (List.mem_cons_of_mem _ member)
      exact congrArg (_ :: ·) later
  | walked range ranges code walk => cases succeeded _ List.mem_cons_self
  | stopped range ranges code failure => cases succeeded _ List.mem_cons_self

end Closed

end Host

namespace Descriptor

/-- A simulated process keeps the descriptors whose numbers lie in none of the ranges. -/
theorem closeDescriptors_filter (keep : Option Int32) (process : SimulatedProcess) :
    (process.closeDescriptors keep).descriptors =
      process.descriptors.filter fun descriptor =>
        decide (¬ InRanges (sweepRanges keep) descriptor.toInt) := by
  refine List.filter_congr fun descriptor _ => ?_
  rw [decide_not, Bool.not_inj_iff]
  exact Bool.eq_iff_iff.mpr ((isSwept_iff keep descriptor).trans decide_eq_true_iff.symm)

/-- A walk chooses from a listing the descriptors whose numbers lie in the ranges. -/
theorem listed_eq (keep : Option Int32) (names : List String) :
    listed keep names = (names.filterMap fun name => Numeral.readInt32? name.toList).filter
      fun descriptor => decide (InRanges (sweepRanges keep) descriptor.toInt) :=
  List.filter_congr fun descriptor _ =>
    Bool.eq_iff_iff.mpr ((isSwept_iff keep descriptor).trans decide_eq_true_iff.symm)

/-- **The sweeps agree.** The ranges to close ascend, none is empty, no two overlap, and they hold
the numbers from 3 on except the one that is kept. A simulated process that is not made to fail
leaves exactly the descriptors open that lie in none of them. A walk over a listing tries to close
the listed descriptors that lie in one of them, each as often as it is listed and in that order,
and comes to its end unless a close fails for good. So, by ranges or by a walk, neither a standard
stream nor the descriptor that is kept is ever closed. -/
theorem sweeps_agree (keep : Option Int32) :
    (((sweepRanges keep).Pairwise fun lower upper => lower.last < upper.first) ∧
      (∀ range ∈ sweepRanges keep, range.first ≤ range.last) ∧
      ∀ number, InRanges (sweepRanges keep) number ↔
        3 ≤ number ∧ number ≤ 4294967295 ∧ ∀ kept, keep = some kept → number ≠ kept.toInt) ∧
    (∀ machine : Machine SimulatedKernel, machine.kernel.failure .closeDescriptors = none →
      let sweep : KernelAction SimulatedKernel Failure Unit := Kernel.closeDescriptors keep
      sweep.ending machine = .ok () ∧
      (sweep.reached machine).kernel.process.descriptors =
        machine.kernel.process.descriptors.filter fun descriptor =>
          decide (¬ InRanges (sweepRanges keep) descriptor.toInt)) ∧
    (∀ (machine : Machine Host) (names : List String),
      machine.kernel.system.descriptorNames = some names →
      let walk := Host.closeListed keep
      let chosen := (names.filterMap fun name => Numeral.readInt32? name.toList).filter
        fun descriptor => decide (InRanges (sweepRanges keep) descriptor.toInt)
      ∃ closes, (walk.reached machine).kernel.trace = machine.kernel.trace ++
          ⟨.openDirectory Host.descriptorListing, none⟩ :: closes ∧
        closes.map CallEvent.call <+: chosen.map .close ∧
        ((∀ close ∈ closes, close.LeavesClosed) → walk.ending machine = .ok () ∧
          closes.map CallEvent.call = chosen.map .close)) ∧
    ∀ machine : Machine Host,
      let sweep : KernelAction Host Failure Unit := Kernel.closeDescriptors keep
      ∃ events, (sweep.reached machine).kernel.trace = machine.kernel.trace ++ events ∧
        (∀ event ∈ events, ∀ number, event.call.Closes number →
          3 ≤ number ∧ ∀ kept, keep = some kept → number ≠ kept.toInt) ∧
        ((∀ event ∈ events, event.failure = none) → events.map CallEvent.call =
          (sweepRanges keep).map fun range => .closeRange range.first range.last) := by
  refine ⟨⟨(sweepRanges_ordered keep).1, (sweepRanges_ordered keep).2, inRanges_iff keep⟩,
    fun machine unasked => ?_, fun machine names listing => ?_, fun machine => ?_⟩
  · have taken : SimulatedKernel.composite (.closeDescriptors keep)
        (fun process => .ok (process.closeDescriptors keep)) machine.kernel =
          .ok () { machine.kernel.enter (.closeDescriptors keep) with
            process := machine.kernel.process.closeDescriptors keep } :=
      SimulatedKernel.make_accepted unasked rfl
    obtain ⟨ended, left⟩ := KernelAction.silent_ends_of_ok taken
    refine ⟨ended, ?_⟩
    rw [← closeDescriptors_filter]
    exact congrArg (fun machine => machine.kernel.process.descriptors) left
  · obtain ⟨-, events, traced, walk⟩ := Host.closeListed_calls keep machine
    cases walk with
    | unlisted code unlisted failed => cases listing.symm.trans unlisted
    | listed names' listing' walks =>
        cases listing.symm.trans listing'
        rw [listed_eq] at walks
        exact ⟨_, traced, walks.front⟩
  · obtain ⟨-, events, traced, sweeps⟩ := Host.closeRanges_calls keep (sweepRanges keep) machine
    refine ⟨events, traced, fun event member number closes => ?_, sweeps.whole⟩
    have inside := (inRanges_iff keep number).mp
      (sweeps.closes (fun _ among => among) member closes)
    exact ⟨inside.1, inside.2.2⟩

end Descriptor

end SelfIsolation
