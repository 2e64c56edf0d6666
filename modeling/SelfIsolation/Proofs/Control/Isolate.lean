import SelfIsolation.Control.Basic
import SelfIsolation.Proofs.Control.History
import SelfIsolation.Proofs.Host.Run

/-! # The report of an isolating process

A process that has gone through all its phases says that it is isolated
(`SelfIsolation.Program.Concludes.completes`); any other ends as the last phase that it
has entered does (`SelfIsolation.Program.Concludes.stops`). So the parent of a fork does
nothing more, success is reported only after the postfork step, and any failure is the
end (`SelfIsolation.Program.isolateHere_isolated`), from the arguments of the command on
(`SelfIsolation.Report.isolate_protocol`).
-/

namespace SelfIsolation

/-! ## The report of a process -/

/-- What a process that has isolated itself reports. -/
def Program.completion : String := s!"[ok] isolation complete, stage {Stage.postforkIsolated}\n"

/-- What the history of a process that isolates itself says about its report. -/
structure Isolated (configuration : Configuration) (start : Session Host) (report : Report) :
    Prop extends Orderly configuration (configuration.history start) where
  /-- Every call is that of a phase. -/
  traced : report.terminal.kernel.trace =
    start.kernel.trace ++ (configuration.history start).flatMap Passage.calls
  /-- The process ends where the last phase that it has entered leaves it. -/
  left : ∀ before last, configuration.history start = before ++ [last] →
    report.terminal.kernel = last.next.kernel ∧ report.terminal.privileges = last.next.privileges
  /-- The parent is done: forking was its last call, and changed nothing. -/
  parent : ∀ before passage after child,
    configuration.history start = before ++ passage :: after →
    passage.phase = .fork → passage.result = .ok child → child ≠ 0 →
    after = [] ∧ report.terminal.kernel.system = passage.session.kernel.system ∧
      report.terminal.kernel.trace = passage.session.kernel.trace ++ [⟨.fork, none⟩] ∧
      report.ending = .exited Program.success ∧ report.terminal.errors = ""
  /-- Only where the postfork step has ended well is isolation reported to be complete. -/
  completed : report.terminal.errors ≠ "" →
    ∃ (before : List Passage) (taking : Taking),
      configuration.history start = before ++ [taking.passage] ∧
      taking.step = .postfork configuration.context ∧ taking.result = .ok () ∧
      report.terminal.privileges.stage = .postforkIsolated ∧
      report.terminal.errors = Program.completion ∧ report.ending = .exited Program.success
  /-- Where the postfork step has ended well, that is reported. -/
  reports : ∀ before (taking : Taking) context,
    configuration.history start = before ++ [taking.passage] →
    taking.step = .postfork context → taking.result = .ok () →
    report.terminal.errors = Program.completion ∧ report.ending = .exited Program.success
  /-- Success is that of a process that has reported it, or of the parent. -/
  succeeded : report.ending = .exited Program.success →
    report.terminal.errors = Program.completion ∨
      ∃ before passage child, configuration.history start = before ++ [passage] ∧
        passage.phase = .fork ∧ passage.result = .ok child ∧ child ≠ 0
  /-- A phase that fails is the last one. -/
  failed : ∀ before passage after reason,
    configuration.history start = before ++ passage :: after →
    passage.result = .error (.failed reason) →
    after = [] ∧ report.ending = .exited Program.failure ∧ report.terminal.errors = "" ∧
      report.terminal.log = passage.next.log ++ [⟨.error, reason.message⟩]
  violated : ∀ before passage after violation,
    configuration.history start = before ++ passage :: after →
    passage.result = .error (.violated violation) →
    after = [] ∧ report.ending = .violated violation ∧ report.terminal.errors = ""

namespace Program

variable {configuration : Configuration} {terminal next : Terminal} {last : Passage}
  {ending : Ending}

/-- The program does nothing to the host and to the record after its last phase. -/
theorem Concludes.left (concludes : Concludes configuration terminal last ending next) :
    next.kernel = last.next.kernel ∧ next.privileges = last.next.privileges := by
  cases concludes with
  | stopped stays stops => cases stops <;> exact ⟨rfl, rfl⟩
  | completed => exact ⟨rfl, rfl⟩

/-- The postfork step leads to the last stage. -/
theorem stage_of_postfork {context : IsolationContext} {session : Session Host}
    (well : Taking.result ⟨.postfork context, session⟩ = .ok ()) :
    (Taking.next ⟨.postfork context, session⟩).privileges.stage = .postforkIsolated := by
  by_cases inOrder : Taking.InOrder ⟨.postfork context, session⟩
  · obtain ⟨-, outcome⟩ := Taking.course_ends inOrder
    rw [well] at outcome
    exact outcome.2.1
  · obtain ⟨⟨violation, refused⟩, -⟩ := Taking.next_elsewhere inOrder
    cases refused.symm.trans well

section Silent

variable (silent : terminal.errors = "")
include silent

/-- A program whose last phase lets it go on has been isolated, and says so. -/
theorem Concludes.completes (concludes : Concludes configuration terminal last ending next)
    (goesOn : last.GoesOn) :
    ending = .exited success ∧ next.errors = completion ∧
      next.privileges.stage = .postforkIsolated ∧
      ∃ taking : Taking, last = taking.passage ∧ taking.step = .postfork configuration.context ∧
        taking.result = .ok () := by
  cases concludes with
  | stopped stays => exact absurd goesOn stays
  | completed seals =>
      obtain ⟨phase, session⟩ := last
      subst seals
      have well := Passage.take_goesOn.mp goesOn
      have stage := stage_of_postfork well
      rw [← Passage.take_next] at stage
      refine ⟨rfl, ?_, stage, ⟨_, session⟩, rfl, rfl, well⟩
      dsimp only
      rw [silent, stage]
      rfl

/-- Any other program says nothing more, and ends as its last phase does. -/
theorem Concludes.stops (concludes : Concludes configuration terminal last ending next)
    (stays : ¬ last.GoesOn) :
    next.errors = "" ∧
      match last.result with
      | .ok _ => ending = .exited success
      | .error (.failed reason) =>
        ending = .exited failure ∧ next.log = last.next.log ++ [⟨.error, reason.message⟩]
      | .error (.violated violation) => ending = .violated violation := by
  cases concludes with
  | stopped _ stops =>
      cases stops with
      | parent answered =>
          rw [answered]
          exact ⟨silent, rfl⟩
      | failed ended =>
          rw [ended]
          exact ⟨silent, rfl, rfl⟩
      | violated ended =>
          rw [ended]
          exact ⟨silent, rfl⟩
  | completed _ goesOn => exact absurd goesOn stays

/-- Forking was the last call of a parent, and changed nothing. -/
theorem Concludes.parent (concludes : Concludes configuration terminal last ending next)
    {child : Int} (forks : last.phase = .fork) (answered : last.result = .ok child)
    (parent : child ≠ 0) :
    next.kernel.system = last.session.kernel.system ∧
      next.kernel.trace = last.session.kernel.trace ++ [⟨.fork, none⟩] ∧
      ending = .exited success ∧ next.errors = "" := by
  have stays : ¬ last.GoesOn := fun goesOn => parent (Except.ok.inj (answered.symm.trans goesOn))
  obtain ⟨errors, ended⟩ := concludes.stops silent stays
  obtain ⟨kernel, -⟩ := concludes.left
  rw [answered] at ended
  obtain ⟨phase, session⟩ := last
  subst forks
  obtain ⟨failure, traced, same, told⟩ := Passage.fork_called session
  obtain ⟨rfl, -⟩ := told child answered
  rw [kernel]
  exact ⟨same, traced, ended, errors⟩

/-- A program that succeeds says that isolation is complete, or is the parent of a fork. -/
theorem Concludes.succeeded (concludes : Concludes configuration terminal last ending next)
    (success : ending = .exited success) :
    next.errors = completion ∨
      ∃ child, last.phase = .fork ∧ last.result = .ok child ∧ child ≠ 0 := by
  by_cases goesOn : last.GoesOn
  · exact .inl (concludes.completes silent goesOn).2.1
  · obtain ⟨-, ended⟩ := concludes.stops silent goesOn
    cases result : last.result with
    | ok child =>
        have parent : child ≠ 0 := fun zero => goesOn (result.trans (congrArg _ zero))
        exact .inr ⟨child, Passage.fork_of_parent result parent, rfl, parent⟩
    | error fault =>
        rw [result] at ended
        cases fault with
        | failed reason => cases ended.1.symm.trans success
        | violated violation => cases ended.symm.trans success

end Silent

/-- **Isolation of a process.** What its history says about its report holds of every
configuration, wherever the process begins. -/
theorem isolateHere_isolated (configuration : Configuration) (terminal : Terminal)
    (silent : terminal.errors = "") :
    ∃ ending next, isolateHere configuration terminal = .error ending next ∧
      Isolated configuration terminal.toSession ⟨ending, next⟩ := by
  obtain ⟨front, last, ending, next, history, ended, concludes⟩ :=
    isolateHere_concludes configuration terminal
  refine ⟨ending, next, ended, ?_⟩
  constructor
  case toOrderly => exact Phases.orderly configuration terminal.toSession
  case traced => exact (congrArg Host.trace concludes.left.1).trans (Phases.history_traced history)
  case left =>
    intro before passage whole
    rw [Phases.eq_last history whole]
    exact concludes.left
  case parent =>
    intro before passage after child whole forks answered parent
    have stays : ¬ passage.GoesOn := fun goesOn =>
      parent (Except.ok.inj (answered.symm.trans goesOn))
    obtain ⟨rfl, rfl⟩ := Phases.last_of_stays history whole stays
    exact ⟨rfl, concludes.parent silent forks answered parent⟩
  case completed =>
    intro spoken
    have goesOn : last.GoesOn := Decidable.byContradiction fun stays =>
      spoken (concludes.stops silent stays).1
    obtain ⟨ended, errors, stage, taking, rfl, step, well⟩ := concludes.completes silent goesOn
    exact ⟨front, taking, history, step, well, stage, errors, ended⟩
  case reports =>
    rintro before ⟨step, session⟩ context whole sealing well
    have same := Phases.eq_last history whole
    obtain ⟨ended, errors, -⟩ :=
      concludes.completes silent (same ▸ Passage.take_goesOn.mpr well)
    exact ⟨errors, ended⟩
  case succeeded =>
    intro success
    rcases concludes.succeeded silent success with errors | ⟨child, forks, answered, parent⟩
    · exact .inl errors
    · exact .inr ⟨front, last, child, history, forks, answered, parent⟩
  case failed =>
    intro before passage after reason whole failed
    have stays : ¬ passage.GoesOn := fun goesOn => nomatch failed.symm.trans goesOn
    obtain ⟨rfl, rfl⟩ := Phases.last_of_stays history whole stays
    obtain ⟨errors, ended⟩ := concludes.stops silent stays
    rw [failed] at ended
    exact ⟨rfl, ended.1, errors, ended.2⟩
  case violated =>
    intro before passage after violation whole violated
    have stays : ¬ passage.GoesOn := fun goesOn => nomatch violated.symm.trans goesOn
    obtain ⟨rfl, rfl⟩ := Phases.last_of_stays history whole stays
    obtain ⟨errors, ended⟩ := concludes.stops silent stays
    rw [violated] at ended
    exact ⟨rfl, ended, errors⟩

end Program

/-! ## From arguments to a report -/

namespace Host

variable {α β : Type} {first : Action β} {second : β → Action α}

/-- No call of the action forks. -/
def Forkless (action : Action α) : Prop :=
  ∀ machine, match action machine with
    | .ok _ next | .error _ next =>
      ∃ made, next.kernel.trace = machine.kernel.trace ++ made ∧
        made.countP (fun event => event.call = .fork) = 0

/-- Actions that do not fork can be done one after the other without a fork. -/
theorem Forkless.bind (head : Forkless first) (tail : ∀ value, Forkless (second value)) :
    Forkless (first >>= second) := by
  intro machine
  have forkless := head machine
  cases taken : first machine with
  | ok value next =>
      rw [taken] at forkless
      obtain ⟨made, traced, quiet⟩ := forkless
      have later := tail value next
      rw [bind_of_ok taken]
      cases ended : second value next with
      | ok value last | error reason last =>
          rw [ended] at later
          obtain ⟨others, traced', quiet'⟩ := later
          refine ⟨made ++ others, ?_, ?_⟩
          · rw [traced', traced, List.append_assoc]
          · rw [List.countP_append, quiet, quiet']
  | error reason next =>
      rw [taken] at forkless
      rw [bind_of_error taken]
      exact forkless

theorem Forkless.pure (value : α) : Forkless (pure value) :=
  fun _ => ⟨[], (List.append_nil _).symm, rfl⟩

theorem Forkless.throw (reason : Failure) : Forkless (throw reason : Action α) :=
  fun _ => ⟨[], (List.append_nil _).symm, rfl⟩

theorem Forkless.note (level : LogLevel) (text : String) : Forkless (note level text) :=
  fun _ => ⟨[], (List.append_nil _).symm, rfl⟩

/-- Reading a text does not fork. -/
theorem Forkless.readText (failure : FileFault → Failure) (path : String) :
    Forkless (onFile failure (readText path)) := by
  intro machine
  obtain ⟨-, made, traced, single⟩ := readText_answers path machine.kernel
  have quiet : made.countP (fun event => event.call = .fork) = 0 := by
    rcases single with rfl | ⟨ended, rfl⟩ <;> rfl
  unfold onFile KernelAction.silent EStateM.adaptExcept
  cases taken : Host.readText path machine.kernel with
  | ok document next | error fault next =>
      have reached : ((ending (Host.readText path)).run machine.kernel).2 = next := by
        unfold ending StateT.run
        dsimp only
        rw [taken]
      rw [reached] at traced
      exact ⟨made, traced, quiet⟩

end Host

/-- Loading a configuration does not fork. -/
theorem Program.loadConfiguration_forkless (path : String) :
    Host.Forkless (loadConfiguration path) := by
  refine .bind (.readText _ path) fun document => ?_
  cases Configuration.parse document with
  | ok configuration => exact .pure configuration
  | error reason => exact .throw _

/-- Obtaining the base of a configuration does not fork. -/
theorem Program.baseConfiguration_forkless (arguments : IsolateArguments) :
    Host.Forkless (baseConfiguration arguments) := by
  unfold baseConfiguration
  cases arguments.config with
  | none => exact .pure _
  | some path => exact .bind (.note _ _) fun _ => loadConfiguration_forkless path

/-- Validating a configuration does not fork. -/
theorem Program.requireValid_forkless (configuration : Configuration) :
    Host.Forkless (requireValid configuration) := by
  unfold requireValid
  cases configuration.validated with
  | ok configuration => exact .pure configuration
  | error reason => exact .throw _

/-- Building a configuration does not fork. -/
theorem Program.buildConfiguration_forkless (arguments : IsolateArguments) :
    Host.Forkless (buildConfiguration arguments) :=
  .bind (baseConfiguration_forkless arguments) fun base =>
    requireValid_forkless (arguments.overlay base)

/-- The session in which a process with a configuration enters its first phase. -/
def Session.begun (configuration : Configuration) (machine : Machine Host) : Session Host :=
  { toMachine := machine.report .info s!"Isolating in {configuration.operating} mode" }

/-- What a process does that is to isolate itself, from the building of its configuration on. -/
structure Conduct (arguments : IsolateArguments) (host : Host) (report : Report) : Prop where
  forksOnce : ∃ made, report.terminal.kernel.trace = host.trace ++ made ∧
    made.countP (fun event => event.call = .fork) ≤ 1
  /-- Without a configuration no phase is entered. -/
  misconfigured : ∀ reason machine,
    Program.buildConfiguration arguments { kernel := host } = .error reason machine →
    report.ending = .exited Program.failure ∧ report.terminal.kernel = machine.kernel ∧
      report.terminal.privileges = .start ∧
      report.terminal.errors = s!"error: {reason.message}\n"
  configured : ∀ configuration machine,
    Program.buildConfiguration arguments { kernel := host } = .ok configuration machine →
    Isolated configuration (.begun configuration machine) report

section Arguments

variable {arguments : IsolateArguments} {host : Host}

/-- Without a configuration a program says why and fails. -/
theorem Program.isolate_misconfigured {reason : Failure} {machine : Machine Host}
    (built : buildConfiguration arguments { kernel := host } = .error reason machine) :
    isolate arguments { kernel := host } = .error (.exited failure)
      { toMachine := machine, errors := s!"error: {reason.message}\n" } := by
  have attempted : attempt (buildConfiguration arguments) { kernel := host } =
      .ok (.error reason) { toMachine := machine } := by
    unfold attempt
    rw [built]
  have spoken : "" ++ s!"error: {reason.message}" ++ "\n" = s!"error: {reason.message}\n" := by
    rw [String.empty_append]
    rfl
  rw [← spoken]
  exact bind_of_ok attempted

/-- With a configuration that is no dry run, a program isolates itself. -/
theorem Program.isolate_configured {configuration : Configuration} {machine : Machine Host}
    (built : buildConfiguration arguments { kernel := host } = .ok configuration machine)
    (wet : arguments.dryRun = false) :
    isolate arguments { kernel := host } =
      isolateHere configuration { toSession := .begun configuration machine } := by
  have attempted : attempt (buildConfiguration arguments) { kernel := host } =
      .ok (.ok configuration) { toMachine := machine } := by
    unfold attempt
    rw [built]
  refine (bind_of_ok attempted).trans ?_
  dsimp only
  rw [wet]
  rfl

theorem Report.ofProgram_of_error {program : Program Unit} {ending : Ending} {next : Terminal}
    (ended : program { kernel := host } = .error ending next) :
    ofProgram program host = ⟨ending, next⟩ := by
  unfold ofProgram
  rw [ended]

/-- **Protocol of an isolating process.** -/
theorem Report.isolate_protocol (wet : arguments.dryRun = false) :
    Conduct arguments host (ofCommand (.isolate arguments) host) := by
  have forkless := Program.buildConfiguration_forkless arguments { kernel := host }
  cases built : Program.buildConfiguration arguments { kernel := host } with
  | error reason machine =>
      rw [built] at forkless
      obtain ⟨made, traced, quiet⟩ := forkless
      have reported : ofCommand (.isolate arguments) host = _ :=
        ofProgram_of_error (Program.isolate_misconfigured built)
      rw [reported]
      constructor
      case forksOnce => exact ⟨made, traced, by rw [quiet]; exact Nat.zero_le 1⟩
      case misconfigured =>
        intro reason' machine' built'
        cases built.symm.trans built'
        exact ⟨rfl, rfl, rfl, rfl⟩
      case configured =>
        intro configuration machine' built'
        cases built.symm.trans built'
  | ok configuration machine =>
      rw [built] at forkless
      obtain ⟨made, traced, quiet⟩ := forkless
      let terminal : Terminal := { toSession := .begun configuration machine }
      obtain ⟨ending, next, ended, isolated⟩ :=
        Program.isolateHere_isolated configuration terminal rfl
      have reported : ofCommand (.isolate arguments) host = _ :=
        ofProgram_of_error ((Program.isolate_configured built wet).trans ended)
      rw [reported]
      constructor
      case forksOnce =>
        let history := configuration.history (.begun configuration machine)
        refine ⟨made ++ history.flatMap Passage.calls, ?_, ?_⟩
        · rw [isolated.traced, ← List.append_assoc]
          exact congrArg (· ++ _) traced
        · rw [List.countP_append, quiet, Nat.zero_add]
          exact Phases.forks_once
      case misconfigured =>
        intro reason machine' built'
        cases built.symm.trans built'
      case configured =>
        intro configuration' machine' built'
        cases built.symm.trans built'
        exact isolated

/-- A child whose system refuses nothing completes its isolation. -/
theorem Report.isolate_protocol_child : ∃ (arguments : IsolateArguments) (host : Host),
    let report := ofCommand (.isolate arguments) host
    arguments.dryRun = false ∧ host.system.forkResult = 0 ∧
      report.terminal.errors = Program.completion ∧ Conduct arguments host report := by
  let host : Host := { system := { forkResult := 0 } }
  have conduct : Conduct {} host (ofCommand (.isolate {}) host) := isolate_protocol rfl
  have isolated := conduct.configured {} { kernel := host } rfl
  have passed : ∃ history reached,
      Phases.Passed (Configuration.phases {}) (.begun {} { kernel := host }) history reached := by
    refine ⟨_, _, .next ?_ <| .next ?_ <| .next ?_ <| .next ?_ <| .next ?_ <| .next ?_ .nothing⟩
    case refine_6 =>
      exact Passage.take_goesOn.mpr
        (Session.postfork_succeeds _ (by decide +kernel) (by decide +kernel))
    all_goals decide +kernel
  obtain ⟨history, reached, passed⟩ := passed
  obtain ⟨before, last, whole, -, sealed, -⟩ := passed.concat
  have reported := isolated.reports before ⟨_, last⟩ _ (passed.history_eq.trans whole) rfl
    (Passage.take_goesOn.mp sealed)
  exact ⟨{}, host, rfl, rfl, reported.1, conduct⟩

end Arguments

end SelfIsolation
