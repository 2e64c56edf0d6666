import SelfIsolation.Proofs.Control.Phase

/-! # The history of an isolating process

The steps of a process neither fork nor start a session, so its calls tell its phases
apart, and no two of them fork (`SelfIsolation.Phases.forks_once`). A process forks
only where its first three steps have ended well, and takes the postfork step in a
session of its own unless it stays in the foreground
(`SelfIsolation.Phases.orderly`).
-/

namespace SelfIsolation

/-! ## The calls of a phase -/

namespace Taking

variable (taking : Taking)

/-- A step that is not taken at its stage breaks the protocol and leaves the session as it is. -/
theorem next_elsewhere {taking : Taking} (elsewhere : ¬ taking.InOrder) :
    (∃ violation, taking.result = .error (.violated violation)) ∧
      taking.next = taking.session := by
  have refused := taking.step.take_elsewhere taking.session elsewhere
  unfold result next Isolating.ending Isolating.reached
  rw [refused]
  exact ⟨⟨_, rfl⟩, rfl⟩

/-- Whether or not it is taken at its stage, a step adds its calls to the trace, and none of them
forks. -/
theorem traced : taking.next.kernel.trace = taking.session.kernel.trace ++ taking.calls ∧
    ∀ event ∈ taking.calls, event.call ≠ .fork := by
  by_cases inOrder : taking.InOrder
  · refine ⟨(course_ends inOrder).1, fun event member forks => ?_⟩
    obtain ⟨before, after, whole⟩ := List.append_of_mem member
    have permitted := ((calls_ended inOrder).split whole).1
    rw [forks] at permitted
    exact permitted
  · have quiet : taking.calls = [] := by
      unfold calls
      rw [(next_elsewhere inOrder).2, List.drop_length]
    rw [quiet, List.append_nil, (next_elsewhere inOrder).2]
    exact ⟨rfl, List.forall_mem_nil _⟩

end Taking

namespace Passage

variable (session : Session Host)

/-- A fork is one call, and the answer is that of the system if the call is not refused. -/
theorem fork_called : ∃ failure,
    (next ⟨.fork, session⟩).kernel.trace = session.kernel.trace ++ [⟨.fork, failure⟩] ∧
      (next ⟨.fork, session⟩).kernel.system = session.kernel.system ∧
      ∀ child, result ⟨.fork, session⟩ = .ok child →
        failure = none ∧ child = session.kernel.system.forkResult := by
  have called : Isolating.Called _ _ _ session (Phase.action .fork session) :=
    Isolating.calling_called _ _ _ session
  unfold next result Isolating.ending Isolating.reached
  generalize Phase.action .fork session = outcome at called ⊢
  cases called with
  | answered ruled =>
      cases ruled
      exact ⟨none, rfl, rfl, fun child answered => ⟨rfl, (Except.ok.inj answered).symm⟩⟩
  | refused => exact ⟨some _, rfl, rfl, fun child answered => nomatch answered⟩

theorem newSession_result : result ⟨.newSession, session⟩ =
    ((Isolating.perform Program.newSession).ending session).map fun _ => 0 :=
  Isolating.ending_answering _ _ _

/-- The start of a session is one call, after which the session is the process's own if the call is
not refused. -/
theorem newSession_called : ∃ failure,
    (next ⟨.newSession, session⟩).kernel.trace = session.kernel.trace ++ [⟨.newSession, failure⟩] ∧
      (GoesOn ⟨.newSession, session⟩ →
        failure = none ∧ (next ⟨.newSession, session⟩).kernel.system.ownSession = true) := by
  have called : Isolating.Called _ _ _ session (Isolating.perform Program.newSession session) :=
    Isolating.calling_called _ _ _ session
  unfold GoesOn next result Phase.action Isolating.ending Isolating.reached
  simp only [bind, EStateM.bind]
  generalize Isolating.perform Program.newSession session = outcome at called ⊢
  cases called with
  | answered ruled =>
      cases ruled
      exact ⟨none, rfl, fun _ => ⟨rfl, rfl⟩⟩
  | refused => exact ⟨some _, rfl, fun answered => nomatch answered⟩

theorem take_result (step : IsolationStep) :
    result ⟨.take step, session⟩ = (Taking.result ⟨step, session⟩).map fun _ => 0 :=
  Isolating.ending_answering _ _ _

theorem take_next (step : IsolationStep) :
    next ⟨.take step, session⟩ = Taking.next ⟨step, session⟩ :=
  Isolating.reached_answering _ _ _

variable {session}

/-- A process goes on after a step that ends well. -/
theorem take_goesOn {step : IsolationStep} :
    GoesOn ⟨.take step, session⟩ ↔ Taking.result ⟨step, session⟩ = .ok () := by
  unfold GoesOn
  rw [take_result]
  cases Taking.result ⟨step, session⟩ with
  | ok value => exact iff_of_true rfl rfl
  | error fault =>
      constructor
      · intro same
        cases same
      · intro same
        cases same

/-- A fork that is answered is one call, which was not refused. -/
theorem calls_of_forked {child : Int} (answered : result ⟨.fork, session⟩ = .ok child) :
    calls ⟨.fork, session⟩ = [⟨.fork, none⟩] := by
  obtain ⟨failure, traced, -, told⟩ := fork_called session
  unfold calls
  rw [traced, List.drop_left, (told child answered).1]

/-- A session that has started is one call, which was not refused, and is the process's own. -/
theorem calls_of_started (started : GoesOn ⟨.newSession, session⟩) :
    calls ⟨.newSession, session⟩ = [⟨.newSession, none⟩] ∧
      (next ⟨.newSession, session⟩).kernel.system.ownSession = true := by
  obtain ⟨failure, traced, told⟩ := newSession_called session
  obtain ⟨rfl, owns⟩ := told started
  unfold calls
  rw [traced, List.drop_left]
  exact ⟨rfl, owns⟩

variable (passage : Passage)

/-- A phase adds its calls to the trace, and only a fork forks. -/
theorem traced : passage.next.kernel.trace = passage.session.kernel.trace ++ passage.calls ∧
    ∀ event ∈ passage.calls, event.call = .fork → passage.phase = .fork := by
  obtain ⟨phase, session⟩ := passage
  unfold calls
  cases phase with
  | take step =>
      rw [take_next]
      obtain ⟨traced, forkless⟩ := Taking.traced ⟨step, session⟩
      exact ⟨traced, fun event member forks => absurd forks (forkless event member)⟩
  | fork =>
      obtain ⟨failure, traced, -⟩ := fork_called session
      rw [traced, List.drop_left]
      exact ⟨rfl, fun event member forks => rfl⟩
  | newSession =>
      obtain ⟨failure, traced, -⟩ := newSession_called session
      rw [traced, List.drop_left]
      refine ⟨rfl, fun event member forks => ?_⟩
      cases List.mem_singleton.mp member
      cases forks

variable {passage}

/-- A phase that forks makes one call. -/
theorem fork_calls (forks : passage.phase = .fork) : passage.calls.length = 1 := by
  obtain ⟨phase, session⟩ := passage
  subst forks
  obtain ⟨failure, traced, -⟩ := fork_called session
  unfold calls
  rw [traced, List.drop_left]
  rfl

/-- Only the parent of a fork is done with some phases to come. -/
theorem fork_of_parent {child : Int} (answered : passage.result = .ok child)
    (parent : child ≠ 0) : passage.phase = .fork := by
  have quiet : ∀ ended : Except Fault Unit, ended.map (fun _ => (0 : Int)) ≠ .ok child := by
    intro ended same
    cases ended with
    | ok value => exact parent (Except.ok.inj same).symm
    | error fault => cases same
  obtain ⟨phase, session⟩ := passage
  cases phase with
  | take step => exact absurd ((take_result _ step).symm.trans answered) (quiet _)
  | fork => rfl
  | newSession => exact absurd ((newSession_result _).symm.trans answered) (quiet _)

end Passage

/-- A phase of two lists of phases is one of the first, or comes after all of them. -/
theorem Phases.split_append {first second earlier later : Phases} {phase : System → Phase}
    (whole : first ++ second = earlier ++ phase :: later) :
    phase ∈ first ∨
      ∃ between, earlier = first ++ between ∧ second = between ++ phase :: later := by
  induction first generalizing earlier with
  | nil => exact .inr ⟨earlier, rfl, whole⟩
  | cons head first ih =>
      cases earlier with
      | nil => exact .inl ((List.cons.inj whole).1 ▸ List.mem_cons_self)
      | cons other earlier =>
          obtain ⟨rfl, remaining⟩ := List.cons.inj whole
          rcases ih remaining with member | ⟨between, rfl, rest⟩
          · exact .inl (List.mem_cons_of_mem _ member)
          · exact .inr ⟨between, rfl, rest⟩

namespace Configuration

variable {configuration : Configuration} {earlier later : Phases} {phase : System → Phase}
  {system : System}

/-- The front phases take steps, and none of them the postfork step. -/
theorem take_of_mem_front (member : phase ∈ configuration.front) :
    ∃ step, phase system = .take step ∧ ∀ context, step ≠ .postfork context := by
  simp only [front, List.mem_cons, List.not_mem_nil, or_false] at member
  rcases member with rfl | rfl | rfl
  · exact ⟨_, rfl, fun _ => nofun⟩
  · exact ⟨_, rfl, fun _ => nofun⟩
  · exact ⟨_, rfl, fun _ => nofun⟩

/-- No step is taken to leave the parent behind. -/
theorem not_take_of_mem_detaching (member : phase ∈ configuration.detaching)
    (step : IsolationStep) : phase system ≠ .take step := by
  unfold detaching at member
  split at member
  case isTrue => cases member
  case isFalse =>
    simp only [List.mem_cons, List.not_mem_nil, or_false] at member
    rcases member with rfl | rfl <;> exact nofun

/-- A process that forks is not in the foreground, and has the front phases behind it. -/
theorem phases_fork (whole : configuration.phases = earlier ++ phase :: later)
    (forks : phase system = .fork) :
    configuration.foreground = false ∧ earlier = configuration.front := by
  unfold phases at whole
  rw [List.append_assoc] at whole
  rcases Phases.split_append whole with member | ⟨between, rfl, rest⟩
  · obtain ⟨step, takes, -⟩ := take_of_mem_front member
    cases takes.symm.trans forks
  · unfold detaching at rest
    split at rest
    case isTrue =>
      have member : phase ∈ between ++ phase :: later := List.mem_append_cons_self
      rw [← rest] at member
      cases List.mem_singleton.mp member
      cases forks
    case isFalse background =>
      refine ⟨Bool.eq_false_iff.mpr background, ?_⟩
      cases between with
      | nil => exact List.append_nil _
      | cons first between =>
          have remaining : [fun _ => .newSession,
              fun _ => .take (.postfork configuration.context)] = between ++ phase :: later :=
            (List.cons.inj rest).2
          have member : phase ∈ between ++ phase :: later := List.mem_append_cons_self
          rw [← remaining] at member
          simp only [List.mem_cons, List.not_mem_nil, or_false] at member
          rcases member with rfl | rfl <;> cases forks

/-- A process that takes the postfork step has all other phases behind it. -/
theorem phases_postfork {context : IsolationContext}
    (whole : configuration.phases = earlier ++ phase :: later)
    (seals : phase system = .take (.postfork context)) :
    earlier = configuration.front ++ configuration.detaching ∧ context = configuration.context := by
  unfold phases at whole
  rcases Phases.split_append whole with member | ⟨between, rfl, rest⟩
  · rcases List.mem_append.mp member with member | member
    · obtain ⟨step, takes, other⟩ := take_of_mem_front member
      cases takes.symm.trans seals
      exact absurd rfl (other context)
    · exact absurd seals (not_take_of_mem_detaching member _)
  · cases between with
    | nil =>
        obtain ⟨rfl, -⟩ := List.cons.inj rest
        cases seals
        exact ⟨List.append_nil _, rfl⟩
    | cons first between => cases between <;> cases (List.cons.inj rest).2

end Configuration

/-! ## The history of a process -/

/-- The phase in which a step is taken. -/
def Taking.passage (taking : Taking) : Passage := ⟨.take taking.step, taking.session⟩

namespace Phases

variable {configuration : Configuration} {start reached : Session Host} {phases : Phases}
  {history before after : List Passage} {passage : Passage}

/-- The calls of the phases that were passed are what was added to the trace. -/
theorem Passed.traced (passed : Passed phases start history reached) :
    reached.kernel.trace = start.kernel.trace ++ history.flatMap Passage.calls := by
  induction passed with
  | nothing => exact (List.append_nil _).symm
  | next goesOn passed ih =>
      rw [ih, (Passage.traced _).1, List.flatMap_cons, List.append_assoc]

/-- What the history of a process has called is what was added to the trace. -/
theorem history_traced {last : Passage} (whole : phases.history start = before ++ [last]) :
    last.next.kernel.trace =
      start.kernel.trace ++ (phases.history start).flatMap Passage.calls := by
  obtain ⟨earlier, phase, later, -, -, passed, -⟩ := history_split whole
  rw [(Passage.traced last).1, passed.traced, whole, List.flatMap_append, List.append_assoc,
    List.flatMap_singleton]

/-- Where the front phases have led, their steps were taken and ended well. -/
theorem Passed.front (passed : Passed configuration.front start history reached) :
    ∃ first second third : Taking, history = [first.passage, second.passage, third.passage] ∧
      first.step = .initial configuration.startupArguments ∧ first.result = .ok () ∧
      second.step = .user (configuration.userTarget second.session.kernel.system.uid
        second.session.kernel.system.gid) ∧ second.result = .ok () ∧
      third.step = .prefork configuration.context ∧ third.result = .ok () := by
  cases passed with
  | next first passed =>
      cases passed with
      | next second passed =>
          cases passed with
          | next third passed =>
              cases passed
              exact ⟨⟨_, _⟩, ⟨_, _⟩, ⟨_, _⟩, rfl, rfl, Passage.take_goesOn.mp first, rfl,
                Passage.take_goesOn.mp second, rfl, Passage.take_goesOn.mp third⟩

/-- A process that forks has passed the front phases. -/
theorem forked (whole : configuration.history start = before ++ passage :: after)
    (forks : passage.phase = .fork) :
    configuration.foreground = false ∧ Passed configuration.front start before passage.session := by
  obtain ⟨earlier, phase, later, plan, same, passed, -⟩ := history_split whole
  obtain ⟨background, rfl⟩ := Configuration.phases_fork plan (same.symm.trans forks)
  exact ⟨background, passed⟩

/-- No two phases of a process fork. -/
theorem forked_apart {between : List Passage} {other : Passage}
    (whole : configuration.history start = before ++ passage :: (between ++ other :: after))
    (forks : passage.phase = .fork) : other.phase ≠ .fork := by
  intro again
  obtain ⟨first, second, third, rfl, -⟩ := (forked whole forks).2.front
  rw [← List.cons_append, ← List.append_assoc] at whole
  obtain ⟨_, _, _, same, -⟩ := (forked whole again).2.front
  have longer := congrArg List.length same
  simp at longer

/-- Phases that do not fork make no call that does. -/
theorem countP_forks (forkless : ∀ passage ∈ history, passage.phase ≠ .fork) :
    (history.flatMap Passage.calls).countP (fun event => event.call = .fork) = 0 := by
  refine List.countP_eq_zero.mpr fun event member forks => ?_
  obtain ⟨passage, member, called⟩ := List.mem_flatMap.mp member
  exact forkless passage member (passage.traced.2 event called (of_decide_eq_true forks))

/-- **At most one fork.** -/
theorem forks_once :
    ((configuration.history start).flatMap Passage.calls).countP
      (fun event => event.call = .fork) ≤ 1 := by
  by_cases forks : ∃ passage ∈ configuration.history start, passage.phase = .fork
  · obtain ⟨passage, member, forks⟩ := forks
    obtain ⟨before, after, whole⟩ := List.append_of_mem member
    have front : ∀ other ∈ before, other.phase ≠ .fork := by
      intro other member again
      obtain ⟨front, between, rfl⟩ := List.append_of_mem member
      rw [List.append_assoc] at whole
      exact forked_apart whole again forks
    have rest : ∀ other ∈ after, other.phase ≠ .fork := by
      intro other member
      obtain ⟨between, rest, rfl⟩ := List.append_of_mem member
      exact forked_apart whole forks
    have single : passage.calls.length = 1 := Passage.fork_calls forks
    calc
      _ = passage.calls.countP fun event => event.call = .fork := by
        rw [whole, List.flatMap_append, List.flatMap_cons, List.countP_append, List.countP_append,
          countP_forks front, countP_forks rest, Nat.zero_add, Nat.add_zero]
      _ ≤ passage.calls.length := List.countP_le_length
      _ = 1 := single
  · rw [countP_forks fun passage member forked => forks ⟨passage, member, forked⟩]
    exact Nat.zero_le 1

end Phases

/-- The order in which a process that isolates itself goes through its phases. -/
structure Orderly (configuration : Configuration) (history : List Passage) : Prop where
  /-- No call forks but that of a phase in which the process is to fork. -/
  forks : ∀ passage ∈ history, ∀ event ∈ passage.calls, event.call = .fork → passage.phase = .fork
  /-- A phase is entered only where those before it have let the process go on. -/
  entered : ∀ before passage after, history = before ++ passage :: after →
    ∀ earlier ∈ before, earlier.GoesOn
  /-- A process forks only where its first three steps have ended well, and never in the
  foreground. -/
  forked : ∀ before passage after, history = before ++ passage :: after → passage.phase = .fork →
    configuration.foreground = false ∧
      ∃ first second third : Taking, before = [first.passage, second.passage, third.passage] ∧
        first.step = .initial configuration.startupArguments ∧ first.result = .ok () ∧
        second.step = .user (configuration.userTarget second.session.kernel.system.uid
          second.session.kernel.system.gid) ∧ second.result = .ok () ∧
        third.step = .prefork configuration.context ∧ third.result = .ok ()
  /-- A child has a session of its own before it takes the postfork step: the fork and the start of
  the session are one call each, which the system did not refuse. -/
  child : ∀ before passage after context, history = before ++ passage :: after →
    passage.phase = .take (.postfork context) → configuration.foreground = false →
    passage.session.kernel.system.ownSession = true ∧
      ∃ earlier forking starting,
        before = earlier ++ [⟨.fork, forking⟩, ⟨.newSession, starting⟩] ∧
          Passage.result ⟨.fork, forking⟩ = .ok 0 ∧
          Passage.calls ⟨.fork, forking⟩ = [⟨.fork, none⟩] ∧
          Passage.result ⟨.newSession, starting⟩ = .ok 0 ∧
          Passage.calls ⟨.newSession, starting⟩ = [⟨.newSession, none⟩]

/-- A history that comes from the phases of a configuration is in order. -/
theorem Phases.orderly (configuration : Configuration) (start : Session Host) :
    Orderly configuration (configuration.history start) := by
  constructor
  case forks => exact fun passage _ => passage.traced.2
  case entered =>
    intro before passage after whole
    obtain ⟨_, _, _, -, -, passed, -⟩ := history_split whole
    exact passed.goesOn
  case forked =>
    intro before passage after whole forks
    obtain ⟨background, passed⟩ := Phases.forked whole forks
    exact ⟨background, passed.front⟩
  case child =>
    intro before passage after context whole seals background
    obtain ⟨earlier, phase, later, plan, same, passed, -⟩ := history_split whole
    obtain ⟨rfl, -⟩ := Configuration.phases_postfork plan (same.symm.trans seals)
    have detached : configuration.front ++ configuration.detaching =
        (configuration.front ++ [fun _ => .fork]) ++ [fun _ => .newSession] := by
      unfold Configuration.detaching
      rw [background, List.append_assoc]
      rfl
    rw [detached] at passed
    obtain ⟨front, starting, rfl, passed, started, reached⟩ := passed.concat
    obtain ⟨front, forking, rfl, passed, forked, -⟩ := passed.concat
    obtain ⟨startingCalls, owns⟩ := Passage.calls_of_started started
    rw [← reached] at owns
    exact ⟨owns, front, forking, starting, List.append_assoc _ _ _, forked,
      Passage.calls_of_forked forked, started, startingCalls⟩

end SelfIsolation
