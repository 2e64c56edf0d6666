import SelfIsolation.Control.Isolate
import SelfIsolation.Proofs.Configuration.Document
import SelfIsolation.Proofs.Configuration.Overlay
import SelfIsolation.Proofs.Control.DryRun
import SelfIsolation.Proofs.Kernel.Ending

/-! # Configurations from files and flags

A configuration is built from the settings document that the arguments name, and the
arguments on top of it. It makes no difference which of the two gives a setting: the
configuration that both make up is the one that is built, if it is valid, and otherwise
none is (`SelfIsolation.Program.buildConfiguration_exact`).
-/

namespace SelfIsolation

/-! ## Documents in files -/

/-- A file with a text at a path that can be opened is read as that text. -/
theorem System.textOf_of_text {system : System} {path content : String}
    (valid : Host.isPath path = true) (opened : system.openFile path = .ok (.text content)) :
    system.textOf path = .ok content := by
  rw [System.textOf, if_pos valid, System.octetsOf, opened]
  exact System.decode_text content

open Document in
/-- A document that gives a descriptor and nothing else. -/
theorem Configuration.parse_designating :
    parse "\x7b\"fd\":5\x7d" = .ok { descriptor := some 5 } := by
  have given : ({ descriptor := some 5 } : Configuration).GivenBy [(.descriptor, .number 5)] := by
    constructor
    case once => decide
    case gives => exact List.forall_mem_singleton.mpr (.value .descriptor)
    case rest =>
      intro setting left
      cases setting <;> first | rfl | exact absurd (by decide) left
  have name : Lexeme (.quoted "fd") ['"', 'f', 'd', '"'] := by
    have letters : "fd".toList = ['f', 'd'] := String.toList_ofList
    have spelled : Spelling "fd".toList ['f', 'd'] := by
      rw [letters]
      exact .itself (by simp)
    exact .quoted spelled
  have five : Numeral.Decimal ['5'] 5 := .digit 5
  have tight : Gap [] := nofun
  have layout : Layout (objectTokens [(.descriptor, .number 5)])
      "\x7b\"fd\":5\x7d".toList := by
    have content : "\x7b\"fd\":5\x7d".toList = ['{', '"', 'f', 'd', '"', ':', '5', '}'] :=
      String.toList_ofList
    rw [content]
    exact .cons tight .openBrace <| .cons tight name <| .cons tight .colon <|
      .cons tight (.natural five nofun) <| .cons tight .closeBrace <| .nil tight
  exact parse_of_written (by decide +kernel) (.object given layout)

namespace Program

/-! ## How loading and building end -/

section Endings

variable (machine : Machine Host)

/-- Loading ends as the document in the file is parsed, or fails as the file is refused. -/
theorem loadConfiguration_ending (path : String) :
    (loadConfiguration path).ending machine =
      match machine.kernel.system.textOf path with
      | .ok document => (Configuration.parse document).mapError .configuration
      | .error fault => .error (.configuration (.unreadable path fault)) := by
  obtain ⟨made, -, told⟩ := Host.readText_told path machine.kernel
  unfold KernelAction.ending loadConfiguration Host.onFile KernelAction.silent EStateM.adaptExcept
  simp only [bind, EStateM.bind, told]
  cases machine.kernel.system.textOf path with
  | error fault => rfl
  | ok document =>
      dsimp only
      cases Configuration.parse document with
      | error reason => rfl
      | ok configuration => rfl

/-- Requiring a configuration to be valid ends as validating it does. -/
theorem requireValid_ending (configuration : Configuration) :
    (requireValid configuration).ending machine =
      configuration.validated.mapError .configuration := by
  unfold requireValid
  cases configuration.validated with
  | error reason => rfl
  | ok configuration => rfl

/-- How building ends is determined by how the base is obtained. -/
theorem buildConfiguration_ending (arguments : IsolateArguments) :
    (buildConfiguration arguments).ending machine =
      ((baseConfiguration arguments).ending machine).bind fun base =>
        (arguments.overlay base).validated.mapError .configuration := by
  unfold buildConfiguration
  cases taken : baseConfiguration arguments machine with
  | ok base next =>
      rw [(KernelAction.bind_ends_of_ok _ taken).left, (KernelAction.ends_of_ok taken).left,
        requireValid_ending]
      rfl
  | error reason next =>
      rw [(KernelAction.bind_ends_of_error _ taken).left, (KernelAction.ends_of_error taken).left]
      rfl

/-- The report that precedes loading does not change what is loaded. -/
theorem baseConfiguration_of_file {arguments : IsolateArguments} {path : String}
    (named : arguments.config = some path) :
    (baseConfiguration arguments).ending machine = (loadConfiguration path).ending machine := by
  unfold baseConfiguration
  rw [named, loadConfiguration_ending]
  exact (KernelAction.bind_ends_of_ok _ rfl).left.trans (loadConfiguration_ending _ path)

/-- Without a file the base is the default configuration. -/
theorem baseConfiguration_of_none {arguments : IsolateArguments}
    (unnamed : arguments.config = none) :
    (baseConfiguration arguments).ending machine = .ok {} := by
  unfold baseConfiguration
  rw [unnamed]
  rfl

end Endings

variable {machine : Machine Host} {arguments : IsolateArguments}

/-- What is loaded is valid. -/
theorem validate_of_loaded {path : String} {configuration : Configuration}
    (loaded : (loadConfiguration path).ending machine = .ok configuration) :
    configuration.validate = .ok () := by
  rw [loadConfiguration_ending] at loaded
  split at loaded
  case h_1 document _ =>
    cases parsed : Configuration.parse document with
    | error reason =>
        rw [parsed] at loaded
        cases loaded
    | ok found =>
        rw [parsed] at loaded
        cases loaded
        exact Configuration.validate_of_parse parsed
  case h_2 => cases loaded

section Based

variable {base whole : Configuration}
  (based : (baseConfiguration arguments).ending machine = .ok base)
  (completes : arguments.Completes base whole)
include based completes

/-- A base and arguments that make up a valid configuration build it. -/
theorem builds_of_valid (valid : whole.validate = .ok ()) :
    (buildConfiguration arguments).ending machine = .ok whole := by
  rw [buildConfiguration_ending, based]
  change (arguments.overlay base).validated.mapError _ = _
  rw [← IsolateArguments.completes_iff.mp completes, Configuration.validated, valid]
  rfl

/-- A base and arguments that make up an invalid configuration build none. -/
theorem refuses_of_invalid {reason : ConfigReason} (invalid : whole.validate = .error reason) :
    (buildConfiguration arguments).ending machine = .error (.configuration reason) := by
  rw [buildConfiguration_ending, based]
  change (arguments.overlay base).validated.mapError _ = _
  rw [← IsolateArguments.completes_iff.mp completes, Configuration.validated, invalid]
  rfl

end Based

/-- What is built is valid, and made up by the base and the arguments. -/
theorem buildConfiguration_ok {whole : Configuration}
    (builds : (buildConfiguration arguments).ending machine = .ok whole) :
    whole.validate = .ok () ∧ ∃ base, (baseConfiguration arguments).ending machine = .ok base ∧
      arguments.Completes base whole := by
  cases based : (baseConfiguration arguments).ending machine with
  | error failure =>
      rw [buildConfiguration_ending, based] at builds
      cases builds
  | ok base =>
      have completes := IsolateArguments.completes_overlay arguments base
      cases valid : (arguments.overlay base).validate with
      | error reason =>
          rw [refuses_of_invalid based completes valid] at builds
          cases builds
      | ok _ =>
          rw [builds_of_valid based completes valid] at builds
          cases builds
          exact ⟨valid, base, rfl, completes⟩

/-- **Files and flags are interchangeable.** Where the base and the arguments make up a valid
configuration, that configuration is built, whichever of the two gives a setting; where what
they make up is invalid, building fails for that reason, and where there is no base, it fails as
loading that does. What is built is valid, and the same arguments on top of a file that holds it
build it again. -/
theorem buildConfiguration_exact (arguments : IsolateArguments) (machine : Machine Host) :
    (arguments.config = none → (baseConfiguration arguments).ending machine = .ok {}) ∧
      (∀ path, arguments.config = some path →
        (baseConfiguration arguments).ending machine = (loadConfiguration path).ending machine) ∧
      (∀ base whole, (baseConfiguration arguments).ending machine = .ok base →
        arguments.Completes base whole →
        (whole.validate = .ok () →
          (buildConfiguration arguments).ending machine = .ok whole) ∧
        ∀ reason, whole.validate = .error reason →
          (buildConfiguration arguments).ending machine = .error (.configuration reason)) ∧
      (∀ failure, (baseConfiguration arguments).ending machine = .error failure →
        (buildConfiguration arguments).ending machine = .error failure) ∧
      (∀ whole, (buildConfiguration arguments).ending machine = .ok whole →
        whole.validate = .ok () ∧
        (∃ base, (baseConfiguration arguments).ending machine = .ok base ∧
          arguments.Completes base whole) ∧
        (∀ again, arguments.Completes whole again ↔ again = whole) ∧
        ∀ (path : String) (other : Machine Host),
          (loadConfiguration path).ending other = .ok whole →
          (buildConfiguration { arguments with config := some path }).ending other = .ok whole) ∧
      ∀ reading : Reading, reading.isolateArguments.value? .createUserNamespace =
        if reading.has .withUserNamespace then some (.truth true)
        else if reading.has .withoutUserNamespace then some (.truth false)
        else none := by
  refine ⟨fun unnamed => baseConfiguration_of_none machine unnamed,
    fun path named => baseConfiguration_of_file machine named, ?_, ?_, ?_,
    IsolateArguments.value?_createUserNamespace⟩
  · intro base whole based completes
    exact ⟨builds_of_valid based completes, fun reason => refuses_of_invalid based completes⟩
  · intro failure baseless
    rw [buildConfiguration_ending, baseless]
    rfl
  · intro whole builds
    obtain ⟨valid, base, based, completes⟩ := buildConfiguration_ok builds
    refine ⟨valid, ⟨base, based, completes⟩, fun again => ?_, fun path other loaded => ?_⟩
    · rw [IsolateArguments.completes_iff, ← IsolateArguments.completes_iff.mp completes.again]
    · have named : (baseConfiguration { arguments with config := some path }).ending other =
          .ok whole := (baseConfiguration_of_file other rfl).trans loaded
      exact builds_of_valid named completes.again valid

/-- A file that gives a descriptor is loaded. -/
theorem loadConfiguration_designating :
    (loadConfiguration "/etc/isolation").ending
        { kernel.system.files := [("/etc/isolation", .text "\x7b\"fd\":5\x7d")] } =
      .ok { descriptor := some 5 } := by
  rw [loadConfiguration_ending, System.textOf_of_text (by decide +kernel) rfl]
  exact congrArg (Except.mapError Failure.configuration) Configuration.parse_designating

/-- The file gives the descriptor, and the arguments give an identity, the mode, and a switch that
is invalid without it. -/
theorem buildConfiguration_exact_flagged :
    let arguments : IsolateArguments := {
      config := some "/etc/isolation", uid := some 8, mode := some .pasta, netnsOnly := true }
    let machine : Machine Host := {
      kernel.system.files := [("/etc/isolation", .text "\x7b\"fd\":5\x7d")] }
    let whole : Configuration := {
      uid := some 8, mode := .pasta, netnsOnly := true, descriptor := some 5 }
    (buildConfiguration arguments).ending machine = .ok whole ∧ arguments.Completes whole whole ∧
      (buildConfiguration { arguments with config := none, mode := none }).ending machine =
        .error (.configuration (.netnsOnly .passt)) ∧
      (buildConfiguration arguments).ending { kernel := {} } =
        .error (.configuration (.unreadable "/etc/isolation" (.refused Errno.enoent.number))) := by
  intro arguments machine whole
  obtain ⟨-, named, builds, -, again, -⟩ := buildConfiguration_exact arguments machine
  have completes : arguments.Completes { descriptor := some 5 } whole := by
    intro setting
    cases setting <;> rfl
  have based := (named _ rfl).trans loadConfiguration_designating
  have built := (builds _ whole based completes).left (by decide +kernel)
  refine ⟨built, ((again whole built).right.right.left whole).mpr rfl, ?_, ?_⟩
  · obtain ⟨unnamed, -, builds, -⟩ :=
      buildConfiguration_exact { arguments with config := none, mode := none } machine
    exact (builds {} _ (unnamed rfl) (IsolateArguments.completes_overlay _ _)).right _ rfl
  · obtain ⟨-, named, -, fails, -⟩ := buildConfiguration_exact arguments { kernel := {} }
    exact fails _ ((named _ rfl).trans (loadConfiguration_ending _ _))

end Program

end SelfIsolation
