import SelfIsolation.Control.Isolate
import SelfIsolation.Proofs.Host.FailStop

/-! # The phases of an isolating process

A process that isolates itself goes through phases: it takes steps, forks, and starts
a session. The program is nothing but its phases and a report after them
(`SelfIsolation.Program.isolateHere_eq`). A phase is entered only where those before
it have let the process go on, so a run has a history
(`SelfIsolation.Configuration.history`), and its last phase says how the program ends
(`SelfIsolation.Program.isolateHere_concludes`).
-/

namespace SelfIsolation

/-- A phase of a process that isolates itself. -/
inductive Phase where
  | take (step : IsolationStep)
  | fork
  | newSession

/-- What a process does in a phase. The answer is zero where the process goes on, and the number of
the child where it has forked and is the parent. -/
def Phase.action : Phase → Isolating Host Int
  | .take step => do
    step.take
    return 0
  | .fork => Isolating.perform Program.fork
  | .newSession => do
    Isolating.perform Program.newSession
    return 0

/-- A phase that is entered in a session. -/
structure Passage where
  phase : Phase
  session : Session Host

namespace Passage

variable (passage : Passage)

/-- How the phase ends. -/
def result : Except Fault Int := passage.phase.action.ending passage.session

/-- The session that the phase leaves. -/
def next : Session Host := passage.phase.action.reached passage.session

/-- The calls made in the phase. -/
def calls : List CallEvent :=
  passage.next.kernel.trace.drop passage.session.kernel.trace.length

/-- The phase lets the process go on. -/
def GoesOn : Prop := passage.result = .ok 0

instance : Decidable passage.GoesOn :=
  match ended : passage.result with
  | .ok child => decidable_of_iff (child = 0) (by simp [GoesOn, ended])
  | .error fault => isFalse (by simp [GoesOn, ended])

/-- How a program ends, and where, with a phase that does not let it go on. -/
inductive Stops (terminal : Terminal) : Ending → Terminal → Prop
  | parent {child : Int} (forked : passage.result = .ok child) (parent : child ≠ 0) :
      Stops terminal (.exited Program.success)
        { terminal with
          toSession := passage.next
          output := terminal.output ++ s!"isolated child: {child}" ++ "\n" }
  | failed {reason : Failure} (ended : passage.result = .error (.failed reason)) :
      Stops terminal (.exited Program.failure)
        { terminal with
          toSession :=
            { passage.next with log := passage.next.log ++ [⟨.error, reason.message⟩] } }
  | violated {violation : Violation} (ended : passage.result = .error (.violated violation)) :
      Stops terminal (.violated violation) { terminal with toSession := passage.next }

variable {passage}

/-- How a phase stops a program does not depend on the session of the terminal. -/
theorem Stops.elsewhere {terminal next : Terminal} {session : Session Host} {ending : Ending}
    (stops : passage.Stops { terminal with toSession := session } ending next) :
    passage.Stops terminal ending next := by
  cases stops with
  | parent forked parent => exact .parent forked parent
  | failed ended => exact .failed ended
  | violated ended => exact .violated ended

end Passage

/-- Phases that lie ahead, each told from the system on which it is entered. -/
abbrev Phases := List (System → Phase)

namespace Phases

/-- The phases that a process enters: all, unless one does not let it go on. -/
def history : Phases → Session Host → List Passage
  | [], _ => []
  | phase :: rest, session =>
    ⟨phase session.kernel.system, session⟩ ::
      if Passage.GoesOn ⟨phase session.kernel.system, session⟩ then
        history rest (Passage.next ⟨phase session.kernel.system, session⟩)
      else []

/-- All phases were entered, and each let the process go on. -/
inductive Passed : Phases → Session Host → List Passage → Session Host → Prop
  | nothing {session : Session Host} : Passed [] session [] session
  | next {phase : System → Phase} {rest : Phases} {session reached : Session Host}
      {history : List Passage}
      (goesOn : Passage.GoesOn ⟨phase session.kernel.system, session⟩)
      (passed : Passed rest (Passage.next ⟨phase session.kernel.system, session⟩) history reached) :
      Passed (phase :: rest) session (⟨phase session.kernel.system, session⟩ :: history) reached

variable {phases : Phases} {session reached : Session Host} {history before after : List Passage}
  {passage : Passage}

/-- Where a phase lets the process go on, the history goes on with the phases that lie ahead. -/
theorem history_of_goesOn {phase : System → Phase}
    (goesOn : Passage.GoesOn ⟨phase session.kernel.system, session⟩) :
    Phases.history (phase :: phases) session =
      ⟨phase session.kernel.system, session⟩ ::
        phases.history (Passage.next ⟨phase session.kernel.system, session⟩) := by
  rw [Phases.history, if_pos goesOn]

/-- Where a phase does not let the process go on, the history ends with it. -/
theorem history_of_stays {phase : System → Phase}
    (stays : ¬ Passage.GoesOn ⟨phase session.kernel.system, session⟩) :
    Phases.history (phase :: phases) session = [⟨phase session.kernel.system, session⟩] := by
  rw [Phases.history, if_neg stays]

/-- Each phase that was passed has let the process go on. -/
theorem Passed.goesOn (passed : Passed phases session history reached) :
    ∀ passage ∈ history, passage.GoesOn := by
  induction passed with
  | nothing => exact List.forall_mem_nil _
  | next goesOn passed ih => exact List.forall_mem_cons.mpr ⟨goesOn, ih⟩

/-- The phases that were passed are the history. -/
theorem Passed.history_eq (passed : Passed phases session history reached) :
    phases.history session = history := by
  induction passed with
  | nothing => rfl
  | next goesOn passed ih => rw [history_of_goesOn goesOn, ih]

/-- The last of the phases that were passed. -/
theorem Passed.concat {phase : System → Phase}
    (passed : Passed (phases ++ [phase]) session history reached) :
    ∃ before last, history = before ++ [⟨phase last.kernel.system, last⟩] ∧
      Passed phases session before last ∧
      Passage.GoesOn ⟨phase last.kernel.system, last⟩ ∧
      reached = Passage.next ⟨phase last.kernel.system, last⟩ := by
  induction phases generalizing session history with
  | nil =>
      cases passed with
      | next goesOn passed =>
          cases passed
          exact ⟨[], session, rfl, .nothing, goesOn, rfl⟩
  | cons first rest ih =>
      cases passed with
      | next goesOn passed =>
          obtain ⟨before, last, rfl, passed, lastGoesOn, same⟩ := ih passed
          exact ⟨_ :: before, last, rfl, .next goesOn passed, lastGoesOn, same⟩

/-- A phase is entered where those before it have led, and the last one is the first that does not
let the process go on. -/
theorem history_split (whole : phases.history session = before ++ passage :: after) :
    ∃ earlier phase later, phases = earlier ++ phase :: later ∧
      passage.phase = phase passage.session.kernel.system ∧
      Passed earlier session before passage.session ∧
      after = if passage.GoesOn then Phases.history later passage.next else [] := by
  induction phases generalizing session before with
  | nil => cases before <;> cases whole
  | cons phase rest ih =>
      cases before with
      | nil =>
          obtain ⟨rfl, rfl⟩ := List.cons.inj whole
          exact ⟨[], phase, rest, rfl, rfl, .nothing, rfl⟩
      | cons first before =>
          by_cases goesOn : Passage.GoesOn ⟨phase session.kernel.system, session⟩
          · rw [history_of_goesOn goesOn] at whole
            obtain ⟨rfl, remaining⟩ := List.cons.inj whole
            obtain ⟨earlier, next, later, rfl, same, passed, ended⟩ := ih remaining
            exact ⟨phase :: earlier, next, later, rfl, same, .next goesOn passed, ended⟩
          · rw [history_of_stays goesOn] at whole
            cases before <;> cases (List.cons.inj whole).2

section Last

variable {front : List Passage} {last : Passage}
  (listed : phases.history session = front ++ [last])
include listed

/-- A history that is split at its end is split at its last phase. -/
theorem eq_last (whole : phases.history session = before ++ [passage]) : passage = last :=
  (List.cons.inj (List.append_inj' (whole.symm.trans listed) rfl).2).1

/-- A phase that does not let the process go on is the last one. -/
theorem last_of_stays (whole : phases.history session = before ++ passage :: after)
    (stays : ¬ passage.GoesOn) : after = [] ∧ passage = last := by
  obtain ⟨_, _, _, -, -, -, rest⟩ := history_split whole
  rw [if_neg stays] at rest
  subst rest
  exact ⟨rfl, eq_last listed whole⟩

end Last

end Phases

namespace Program

variable {α : Type}

/-- Carries out an isolating action; a failure ends the program. -/
def carry (action : Isolating Host α) : Program α := fun terminal =>
  match action terminal.toSession with
  | .ok value session => .ok value { terminal with toSession := session }
  | .error (.failed reason) session => die reason { terminal with toSession := session }
  | .error (.violated violation) session =>
    .error (.violated violation) { terminal with toSession := session }

/-- Goes through a phase. The parent of a fork shows the number of the child and is done. -/
def undergo (phase : Phase) : Program Unit := do
  let child ← carry phase.action
  if child ≠ 0 then
    printLine s!"isolated child: {child}"
    exit success

/-- Goes through phases. -/
def undergoAll : Phases → Program Unit
  | [] => return
  | phase :: rest => do
    undergo (phase (← get).kernel.system)
    undergoAll rest

/-- Reports that isolation is complete, and ends the program. -/
def conclude : Program Unit := do
  let stage := (← get).privileges.stage
  complain s!"[ok] isolation complete, stage {stage}"
  exit success

end Program

namespace Configuration

/-- The phases before a process may fork. -/
def front (configuration : Configuration) : Phases :=
  [fun _ => .take (.initial configuration.startupArguments),
    fun system => .take (.user (configuration.userTarget system.uid system.gid)),
    fun _ => .take (.prefork configuration.context)]

/-- The phases that leave the parent behind. -/
def detaching (configuration : Configuration) : Phases :=
  if configuration.foreground then [] else [fun _ => .fork, fun _ => .newSession]

/-- The phases of a process that isolates itself. -/
def phases (configuration : Configuration) : Phases :=
  configuration.front ++ configuration.detaching ++
    [fun _ => .take (.postfork configuration.context)]

/-- The phases that a process enters to isolate itself. -/
def history (configuration : Configuration) (start : Session Host) : List Passage :=
  configuration.phases.history start

end Configuration

namespace Program

/-! ## The program as its phases -/

/-- A phase whose action only has to answer that the process goes on is nothing but the action. -/
theorem undergo_eq_carry {phase : Phase} {step : Isolating Host Unit}
    (answers : phase.action = step >>= fun _ => pure 0) : undergo phase = carry step := by
  funext terminal
  unfold undergo carry
  rw [answers]
  simp only [bind, EStateM.bind, pure, EStateM.pure]
  cases step terminal.toSession with
  | ok value session => rfl
  | error fault session => cases fault <;> rfl

/-- A program takes a step by going through its phase. -/
theorem takeStep_eq (step : IsolationStep) : takeStep step.take = undergo (.take step) := by
  rw [undergo_eq_carry rfl]
  funext terminal
  unfold takeStep carry
  cases step.take terminal.toSession with
  | ok value session => rfl
  | error fault session => cases fault <;> rfl

theorem orDie_eq (action : Host.Action α) : orDie action = carry (Isolating.perform action) := by
  funext terminal
  unfold orDie carry attempt Isolating.perform
  simp only [bind, EStateM.bind]
  cases action terminal.toMachine <;> rfl

theorem orDie_newSession : orDie newSession = undergo .newSession := by
  rw [orDie_eq, undergo_eq_carry rfl]

/-- A program leaves its parent behind by going through two phases. -/
theorem detach_eq : detach = undergo .fork >>= fun _ => undergo .newSession := by
  unfold detach
  rw [orDie_eq, orDie_newSession]
  unfold undergo
  simp only [bind_assoc]
  congr
  funext child
  by_cases zero : child = 0
  · simp [zero]
  · simp only [zero, ↓reduceIte, ne_eq, not_false_eq_true, bind_assoc]
    rfl

/-- **The program is its phases**, and a report after them. -/
theorem isolateHere_eq (configuration : Configuration) :
    isolateHere configuration = undergoAll configuration.phases >>= fun _ => conclude := by
  have initial (arguments) : takeStep (Isolating.initial arguments) = _ :=
    takeStep_eq (.initial arguments)
  have user (target) : takeStep (Isolating.user target) = _ := takeStep_eq (.user target)
  have prefork (context) : takeStep (Isolating.prefork context) = _ :=
    takeStep_eq (.prefork context)
  have postfork (context) : takeStep (Isolating.postfork context) = _ :=
    takeStep_eq (.postfork context)
  unfold isolateHere Configuration.phases Configuration.front Configuration.detaching conclude
  rw [initial, prefork, postfork, detach_eq]
  cases configuration.foreground
  · simp only [Bool.not_false, Bool.false_eq_true, ↓reduceIte, List.cons_append, List.nil_append,
      undergoAll, bind_assoc, pure_bind, user]
    rfl
  · simp only [Bool.not_true, Bool.false_eq_true, ↓reduceIte, List.cons_append, List.nil_append,
      undergoAll, bind_assoc, pure_bind, user]
    rfl

/-! ## Where a program ends -/

variable {phase : Phase} {phases : Phases} {terminal : Terminal}

/-- A phase that lets the process go on changes the session and nothing else. -/
theorem undergo_goesOn (goesOn : Passage.GoesOn ⟨phase, terminal.toSession⟩) :
    undergo phase terminal =
      .ok () { terminal with toSession := Passage.next ⟨phase, terminal.toSession⟩ } := by
  have taken := Isolating.taken_of_ending_ok goesOn
  have carried : carry phase.action terminal =
      .ok 0 { terminal with toSession := Passage.next ⟨phase, terminal.toSession⟩ } := by
    unfold carry
    rw [taken]
    rfl
  exact bind_of_ok carried

/-- A phase that does not let the process go on stops the program. -/
theorem undergo_stops (stays : ¬ Passage.GoesOn ⟨phase, terminal.toSession⟩) :
    ∃ ending next, undergo phase terminal = .error ending next ∧
      Passage.Stops ⟨phase, terminal.toSession⟩ terminal ending next := by
  cases ended : Passage.result ⟨phase, terminal.toSession⟩ with
  | ok child =>
      have parent : child ≠ 0 := fun zero => stays (ended.trans (congrArg _ zero))
      have taken := Isolating.taken_of_ending_ok ended
      have carried : carry phase.action terminal =
          .ok child { terminal with toSession := Passage.next ⟨phase, terminal.toSession⟩ } := by
        unfold carry
        rw [taken]
        rfl
      refine ⟨_, _, (bind_of_ok carried).trans ?_, .parent ended parent⟩
      rw [if_pos parent]
      rfl
  | error fault =>
      have taken := Isolating.taken_of_ending_error ended
      cases fault with
      | failed reason =>
          refine ⟨_, _, bind_of_error ?_, .failed ended⟩
          unfold carry
          rw [taken]
          rfl
      | violated violation =>
          refine ⟨_, _, bind_of_error ?_, .violated ended⟩
          unfold carry
          rw [taken]
          rfl

/-- What going through phases comes to: all were entered and let the process go on, or the last one
that was entered did not. -/
inductive Undergone (phases : Phases) (terminal : Terminal) :
    EStateM.Result Ending Terminal Unit → Prop
  | passed {reached : Session Host} {history : List Passage}
      (passed : phases.Passed terminal.toSession history reached) :
      Undergone phases terminal (.ok () { terminal with toSession := reached })
  | stopped {before : List Passage} {last : Passage} {ending : Ending} {next : Terminal}
      (whole : phases.history terminal.toSession = before ++ [last])
      (stays : ¬ last.GoesOn) (stops : last.Stops terminal ending next) :
      Undergone phases terminal (.error ending next)

/-- Going through phases enters those of the history and no others. -/
theorem undergoAll_undergone (phases : Phases) (terminal : Terminal) :
    Undergone phases terminal (undergoAll phases terminal) := by
  induction phases generalizing terminal with
  | nil => exact .passed .nothing
  | cons phase rest ih =>
      have step : undergoAll (phase :: rest) terminal =
        (undergo (phase terminal.kernel.system) >>= fun _ => undergoAll rest) terminal := rfl
      rw [step]
      by_cases goesOn : Passage.GoesOn ⟨phase terminal.kernel.system, terminal.toSession⟩
      · rw [bind_of_ok (undergo_goesOn goesOn)]
        have undergone := ih
          { terminal with
            toSession := Passage.next ⟨phase terminal.kernel.system, terminal.toSession⟩ }
        generalize undergoAll rest _ = result at undergone ⊢
        cases undergone with
        | passed passed => exact .passed (.next goesOn passed)
        | stopped whole stays stops =>
            have whole := (Phases.history_of_goesOn goesOn).trans (congrArg _ whole)
            rw [← List.cons_append] at whole
            exact .stopped whole stays stops.elsewhere
      · obtain ⟨ending, next, ended, stops⟩ := undergo_stops goesOn
        have whole : Phases.history (phase :: rest) terminal.toSession = [] ++ [_] :=
          Phases.history_of_stays goesOn
        rw [bind_of_error ended]
        exact .stopped whole goesOn stops

/-- How a process that isolates itself ends, told by the last phase that it has entered. -/
inductive Concludes (configuration : Configuration) (terminal : Terminal) (last : Passage) :
    Ending → Terminal → Prop
  | stopped {ending : Ending} {next : Terminal} (stays : ¬ last.GoesOn)
      (stops : last.Stops terminal ending next) : Concludes configuration terminal last ending next
  | completed (phase : last.phase = .take (.postfork configuration.context))
      (goesOn : last.GoesOn) :
      Concludes configuration terminal last (.exited success)
        { terminal with
          toSession := last.next
          errors := terminal.errors ++
            s!"[ok] isolation complete, stage {last.next.privileges.stage}" ++ "\n" }

/-- **Every program concludes** with the last phase of its history. -/
theorem isolateHere_concludes (configuration : Configuration) (terminal : Terminal) :
    ∃ before last ending next, configuration.history terminal.toSession = before ++ [last] ∧
      isolateHere configuration terminal = .error ending next ∧
      Concludes configuration terminal last ending next := by
  have undergone := undergoAll_undergone configuration.phases terminal
  rw [isolateHere_eq]
  generalize ended : undergoAll configuration.phases terminal = result at undergone
  cases undergone with
  | passed passed =>
      obtain ⟨before, session, rfl, -, goesOn, rfl⟩ := passed.concat
      exact ⟨before, _, _, _, passed.history_eq, bind_of_ok ended, .completed rfl goesOn⟩
  | stopped whole stays stops =>
      exact ⟨_, _, _, _, whole, bind_of_error ended, .stopped stays stops⟩

end Program

end SelfIsolation
