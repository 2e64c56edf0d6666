import SelfIsolation.Proofs.Control.Isolate

/-! # What a dry run does and shows

A dry run opens the settings document that it is told to read and does nothing else
to the host. What it shows depends on the document, on the real identity and on
whether the effective user is the superuser: two runs on hosts that agree on these
go side by side (`SelfIsolation.Parallel`), step by step of the program, so they
show the same (`SelfIsolation.Report.dryRun_inert`).
-/

namespace SelfIsolation

/-! ## Two runs side by side -/

/-- Two runs end alike, in states that are related. -/
inductive Alike {ε σ α : Type} (related : σ → σ → Prop) :
    EStateM.Result ε σ α → EStateM.Result ε σ α → Prop
  | ok {value : α} {next next' : σ} (kept : related next next') :
      Alike related (.ok value next) (.ok value next')
  | error {e : ε} {next next' : σ} (kept : related next next') :
      Alike related (.error e next) (.error e next')

/-- From related states a program runs alike. -/
def Parallel {ε σ α : Type} (related : σ → σ → Prop) (program : EStateM ε σ α) : Prop :=
  ∀ state state', related state state' → Alike related (program state) (program state')

namespace Parallel

variable {ε σ α β : Type} {related : σ → σ → Prop} {first : EStateM ε σ β}
  {second : β → EStateM ε σ α}

theorem pure (value : α) : Parallel related (pure value : EStateM ε σ α) :=
  fun _ _ kept => .ok kept

theorem throw (e : ε) : Parallel related (throw e : EStateM ε σ α) :=
  fun _ _ kept => .error kept

/-- Actions stay parallel one after the other. -/
theorem bind (head : Parallel related first) (tail : ∀ value, Parallel related (second value)) :
    Parallel related (first >>= second) := by
  intro state state' kept
  have alike := head state state' kept
  change Alike related (EStateM.bind first second state) (EStateM.bind first second state')
  unfold EStateM.bind
  generalize first state = run at alike ⊢
  generalize first state' = run' at alike ⊢
  cases alike with
  | ok kept => exact tail _ _ _ kept
  | error kept => exact .error kept

/-- A change that keeps the relation is parallel to itself. -/
theorem modify {change : σ → σ}
    (keeps : ∀ state state', related state state' → related (change state) (change state')) :
    Parallel related (modify change : EStateM ε σ PUnit) :=
  fun _ _ kept => .ok (keeps _ _ kept)

end Parallel

/-! ## Reading a document -/

/-- The octets of a file, or the number with which it is refused. -/
def FileContent.octets? : FileContent → Except Int (List UInt8)
  | .text content => .ok content.toUTF8.data.toList
  | .octets content => .ok content
  | .refused code => .error code

namespace System

variable {system other : System} {config : Option String} {path : String}

/-- The octets that reading a file yields. -/
def octetsOf (system : System) (path : String) : Except Int (List UInt8) :=
  system.openFile path >>= FileContent.octets?

/-- What a dry run is told about a system: the real identity, whether the effective user is the
superuser, and the settings document. -/
structure Agrees (config : Option String) (system other : System) : Prop where
  uid : system.uid = other.uid
  gid : system.gid = other.gid
  superuser : system.effectiveUid = 0 ↔ other.effectiveUid = 0
  document : ∀ path, config = some path → system.octetsOf path = other.octetsOf path

theorem Agrees.refl (config : Option String) (system : System) : Agrees config system system :=
  ⟨rfl, rfl, .rfl, fun _ _ => rfl⟩

/-- Systems that agree are rehearsed on the same kernel. -/
theorem Agrees.kernelFor (agrees : Agrees config system other) :
    Rehearsal.kernelFor system.uid system.gid system.effectiveUid =
      Rehearsal.kernelFor other.uid other.gid other.effectiveUid := by
  unfold Rehearsal.kernelFor
  simp only [agrees.uid, agrees.gid, agrees.superuser]

/-- The text that octets stand for. -/
def decode (octets : List UInt8) : Except FileFault String :=
  match String.fromUTF8? ⟨octets.toArray⟩ with
  | some text => .ok text
  | none => .error .notText

/-- The text that reading a file yields. -/
def textOf (system : System) (path : String) : Except FileFault String :=
  if Host.isPath path then (system.octetsOf path).mapError .refused >>= decode
  else .error .invalidPath

/-- A text is decoded from its own bytes. -/
theorem decode_text (content : String) : decode content.toUTF8.data.toList = .ok content := by
  have same : (⟨content.toUTF8.data.toList.toArray⟩ : ByteArray) = content.toByteArray := rfl
  rw [decode, same, String.fromUTF8?, dif_pos content.isValidUTF8]
  rfl

theorem textOf_congr (same : system.octetsOf path = other.octetsOf path) :
    system.textOf path = other.textOf path := by
  rw [textOf, same, textOf]

end System

namespace Host

/-- All that these calls do is to open the document. -/
def Opens (config : Option String) (made : List CallEvent) : Prop :=
  ∀ event ∈ made, ∃ path, config = some path ∧ event.call = .openFile path

/-- The host after calls that changed nothing. -/
def extended (host : Host) (made : List CallEvent) : Host :=
  { host with trace := host.trace ++ made }

variable {config : Option String} {host : Host} {made more : List CallEvent}

theorem Opens.nil : Opens config [] := fun _ member => nomatch member

/-- The file of a document may be opened. -/
theorem Opens.document (path : String) (failure : Option Int) :
    Opens (some path) [⟨.openFile path, failure⟩] := by
  intro event member
  cases List.mem_singleton.mp member
  exact ⟨path, rfl, rfl⟩

theorem Opens.append (opens : Opens config made) (later : Opens config more) :
    Opens config (made ++ more) :=
  List.forall_mem_append.mpr ⟨opens, later⟩

theorem extended_nil : host.extended [] = host := by
  rw [extended, List.append_nil]

/-- Calls that are added one after the other are added together. -/
theorem extended_extended : (host.extended made).extended more = host.extended (made ++ more) := by
  rw [extended, extended, extended, List.append_assoc]

/-- A file is opened by calls on that file alone, and what is told depends on its content alone. -/
theorem openFile_told (path : String) (host : Host) :
    ∃ made, Opens (some path) made ∧ openFile path host =
      if isPath path then
        match host.system.openFile path with
        | .ok content => .ok content (host.extended made)
        | .error code => .error (.refused code) (host.extended made)
      else .error .invalidPath (host.extended made) := by
  unfold openFile atPath
  by_cases valid : isPath path = true
  · rw [if_pos valid]
    unfold EStateM.adaptExcept ask make scripted
    cases told : host.system.openFile path with
    | ok content =>
        refine ⟨[⟨.openFile path, none⟩], .document path none, ?_⟩
        simp only [SystemCall.name?, told, Except.map, extended, if_pos valid]
    | error code =>
        refine ⟨[⟨.openFile path, some code⟩], .document path (some code), ?_⟩
        simp only [SystemCall.name?, told, Except.map, extended, if_pos valid]
  · rw [if_neg valid]
    refine ⟨[], .nil, ?_⟩
    rw [if_neg valid, extended_nil]
    rfl

/-- A text is read by calls on its file alone, and what is told depends on its content alone. -/
theorem readText_told (path : String) (host : Host) :
    ∃ made, Opens (some path) made ∧ readText path host =
      match host.system.textOf path with
      | .ok text => .ok text (host.extended made)
      | .error fault => .error fault (host.extended made) := by
  obtain ⟨made, opens, opened⟩ := openFile_told path host
  refine ⟨made, opens, ?_⟩
  unfold System.textOf System.octetsOf
  by_cases valid : isPath path = true
  · rw [if_pos valid] at opened ⊢
    cases told : host.system.openFile path with
    | error code =>
        rw [told] at opened
        exact bind_of_error opened
    | ok content =>
        rw [told] at opened
        refine (bind_of_ok opened).trans ?_
        cases content with
        | text content =>
            change _ = match System.decode content.toUTF8.data.toList with
              | .ok text => _
              | .error fault => _
            rw [System.decode_text]
            rfl
        | octets content =>
            change _ = match System.decode content with
              | .ok text => _
              | .error fault => _
            unfold System.decode
            dsimp only
            cases String.fromUTF8? ⟨content.toArray⟩ <;> rfl
        | refused code => rfl
  · rw [if_neg valid] at opened ⊢
    exact bind_of_error opened

end Host

/-! ## Two dry runs -/

/-- Two machines abreast, of which the runs began on two hosts: they have reported the same, and
nothing was done to the hosts but to open the document. -/
structure Machine.Abreast (config : Option String) (host other : Host)
    (machine machine' : Machine Host) : Prop where
  log : machine.log = machine'.log
  here : ∃ made, Host.Opens config made ∧ machine.kernel = host.extended made
  there : ∃ made, Host.Opens config made ∧ machine'.kernel = other.extended made

/-- Two terminals abreast have shown the same. -/
structure Terminal.Abreast (config : Option String) (host other : Host)
    (terminal terminal' : Terminal) : Prop
    extends Machine.Abreast config host other terminal.toMachine terminal'.toMachine where
  output : terminal.output = terminal'.output
  errors : terminal.errors = terminal'.errors

/-- An action runs alike on hosts that agree. -/
def Host.Foretold {α : Type} (config : Option String) (action : Host.Action α) : Prop :=
  ∀ host other : Host, host.system.Agrees config other.system →
    Parallel (Machine.Abreast config host other) action

/-- A program runs alike on hosts that agree. -/
def Program.Foretold {α : Type} (config : Option String) (program : Program α) : Prop :=
  ∀ host other : Host, host.system.Agrees config other.system →
    Parallel (Terminal.Abreast config host other) program

section

variable {config : Option String} {host other : Host}

/-- Machines stay abreast when the same is reported. -/
theorem Machine.Abreast.report {machine machine' : Machine Host}
    (abreast : Machine.Abreast config host other machine machine') (level : LogLevel)
    (text : String) :
    Machine.Abreast config host other (machine.report level text) (machine'.report level text) :=
  ⟨congrArg (· ++ [⟨level, text⟩] : List LogRecord → _) abreast.log, abreast.here, abreast.there⟩

namespace Host

variable {α β : Type}

theorem Foretold.bind {first : Action β} {second : β → Action α} (head : Foretold config first)
    (tail : ∀ value, Foretold config (second value)) : Foretold config (first >>= second) :=
  fun _ _ agrees => (head _ _ agrees).bind fun value => tail value _ _ agrees

theorem Foretold.pure (value : α) : Foretold config (Pure.pure value) :=
  fun _ _ _ => .pure value

theorem Foretold.throw (reason : Failure) : Foretold config (throw reason : Action α) :=
  fun _ _ _ => .throw reason

theorem Foretold.note (level : LogLevel) (text : String) : Foretold config (note level text) :=
  fun _ _ _ _ _ abreast => .ok (abreast.report level text)

/-- Reading the file of a document depends on nothing else of the host. -/
theorem Foretold.readText (failure : FileFault → Failure) (path : String) :
    Foretold (some path) (onFile failure (readText path)) := by
  intro host other agrees machine machine' abreast
  obtain ⟨log, ⟨made, opens, here⟩, ⟨made', opens', there⟩⟩ := abreast
  obtain ⟨more, opening, told⟩ := readText_told path machine.kernel
  obtain ⟨more', opening', told'⟩ := readText_told path machine'.kernel
  have same : machine.kernel.system.textOf path = machine'.kernel.system.textOf path := by
    rw [here, there]
    exact System.textOf_congr (agrees.document path rfl)
  have abreast : Machine.Abreast (some path) host other
      { machine with kernel := machine.kernel.extended more }
      { machine' with kernel := machine'.kernel.extended more' } :=
    ⟨log, ⟨_, .append opens opening, by rw [here, extended_extended]⟩,
      ⟨_, .append opens' opening', by rw [there, extended_extended]⟩⟩
  unfold onFile KernelAction.silent EStateM.adaptExcept
  rw [told, told', same]
  cases machine'.kernel.system.textOf path with
  | ok text => exact .ok abreast
  | error fault => exact .error abreast

end Host

namespace Program

variable {α β : Type}

theorem Foretold.bind {first : Program β} {second : β → Program α} (head : Foretold config first)
    (tail : ∀ value, Foretold config (second value)) : Foretold config (first >>= second) :=
  fun _ _ agrees => (head _ _ agrees).bind fun value => tail value _ _ agrees

theorem Foretold.throw (ending : Ending) : Foretold config (throw ending : Program α) :=
  fun _ _ _ => .throw ending

/-- A change that keeps programs abreast depends on nothing else of the host. -/
theorem Foretold.modify {change : Terminal → Terminal}
    (keeps : ∀ host other terminal terminal',
      Terminal.Abreast config host other terminal terminal' →
      Terminal.Abreast config host other (change terminal) (change terminal')) :
    Foretold config (modify change) :=
  fun _ _ _ => .modify (keeps _ _)

/-- How an action ends depends on nothing of the host that the action does not depend on. -/
theorem Foretold.attempt {action : Host.Action α} (foretold : Host.Foretold config action) :
    Foretold config (attempt action) := by
  intro host other agrees terminal terminal' abreast
  have alike := foretold host other agrees _ _ abreast.toAbreast
  unfold Program.attempt
  generalize action terminal.toMachine = run at alike ⊢
  generalize action terminal'.toMachine = run' at alike ⊢
  cases alike with
  | ok kept => exact .ok ⟨kept, abreast.output, abreast.errors⟩
  | error kept => exact .ok ⟨kept, abreast.output, abreast.errors⟩

theorem Foretold.note (level : LogLevel) (text : String) : Foretold config (note level text) :=
  .modify fun _ _ _ _ abreast =>
    ⟨abreast.toAbreast.report level text, abreast.output, abreast.errors⟩

/-- Refusing depends on nothing of the host. -/
theorem Foretold.refuse (reason : String) : Foretold config (refuse reason : Program α) := by
  refine .bind (.modify fun _ _ _ _ abreast => ⟨abreast.toAbreast, abreast.output, ?_⟩) fun _ =>
    .throw _
  exact congrArg (fun errors => errors ++ s!"error: {reason}" ++ "\n") abreast.errors

/-- Taking over a rehearsal depends on nothing of the host. -/
theorem Foretold.takeOver (rehearsal : Rehearsal) : Foretold config (takeOver rehearsal) :=
  .modify fun _ _ _ _ abreast =>
    ⟨⟨congrArg (· ++ rehearsal.log) abreast.log, abreast.here, abreast.there⟩,
      congrArg (· ++ rehearsal.output) abreast.output, abreast.errors⟩

/-- What a program makes of a rehearsal. -/
def passOn : EStateM.Result Fault Rehearsal Unit → Program Unit
  | .ok () rehearsal => takeOver rehearsal
  | .error (.failed reason) rehearsal => do
    takeOver rehearsal
    refuse reason.message
  | .error (.violated violation) rehearsal => do
    takeOver rehearsal
    throw (.violated violation)

/-- A rehearsal is run on the kernel for the identities of the system, and then passed on. -/
theorem rehearse_eq (configuration : Configuration) (terminal : Terminal) :
    let system := terminal.kernel.system
    rehearse configuration terminal = passOn (Rehearsal.rehearse configuration system.uid
      system.gid (.start (Rehearsal.kernelFor system.uid system.gid system.effectiveUid)))
      terminal := rfl

/-- What a rehearsal has come to is passed on whatever the host is. -/
theorem Foretold.passOn (outcome : EStateM.Result Fault Rehearsal Unit) :
    Foretold config (passOn outcome) := by
  rcases outcome with ⟨value, rehearsal⟩ | ⟨reason | violation, rehearsal⟩
  · exact .takeOver rehearsal
  · exact .bind (.takeOver rehearsal) fun _ => .refuse _
  · exact .bind (.takeOver rehearsal) fun _ => .throw _

/-- A rehearsal is given the identities, and nothing else of the host. -/
theorem Foretold.rehearse (configuration : Configuration) :
    Foretold config (rehearse configuration) := by
  intro host other agrees terminal terminal' abreast
  obtain ⟨made, -, here⟩ := abreast.here
  obtain ⟨made', -, there⟩ := abreast.there
  have still : terminal.kernel.system.Agrees config terminal'.kernel.system := by
    rw [here, there]
    exact agrees
  rw [rehearse_eq, rehearse_eq, still.kernelFor, still.uid, still.gid]
  exact Foretold.passOn _ host other agrees terminal terminal' abreast

/-- Loading a configuration depends on the file that holds it and on nothing else of the host. -/
theorem loadConfiguration_foretold (path : String) :
    Host.Foretold (some path) (loadConfiguration path) := by
  refine .bind (.readText _ path) fun document => ?_
  cases Configuration.parse document with
  | ok configuration => exact .pure configuration
  | error reason => exact .throw _

/-- The base depends on the file that the arguments name and on nothing else of the host. -/
theorem baseConfiguration_foretold (arguments : IsolateArguments) :
    Host.Foretold arguments.config (baseConfiguration arguments) := by
  unfold baseConfiguration
  cases arguments.config with
  | none => exact .pure _
  | some path => exact .bind (.note _ _) fun _ => loadConfiguration_foretold path

/-- Validating a configuration depends on nothing of the host. -/
theorem requireValid_foretold {config : Option String} (configuration : Configuration) :
    Host.Foretold config (requireValid configuration) := by
  unfold requireValid
  cases configuration.validated with
  | ok configuration => exact .pure configuration
  | error reason => exact .throw _

/-- What is built depends on the file that the arguments name and on nothing else of the host. -/
theorem buildConfiguration_foretold (arguments : IsolateArguments) :
    Host.Foretold arguments.config (buildConfiguration arguments) :=
  .bind (baseConfiguration_foretold arguments) fun base =>
    requireValid_foretold (arguments.overlay base)

/-- A dry run depends on the file that the arguments name and on nothing else of the host. -/
theorem isolate_foretold {arguments : IsolateArguments} (dry : arguments.dryRun = true) :
    Foretold arguments.config (isolate arguments) := by
  refine .bind (.attempt (buildConfiguration_foretold arguments)) fun built => ?_
  cases built with
  | error reason => exact .refuse _
  | ok configuration =>
      refine .bind (.note _ _) fun _ => ?_
      rw [dry]
      exact .rehearse configuration

end Program

end

/-! ## The report of a dry run -/

namespace Report

/-- Two reports that show the same. -/
structure ShowsSame (report other : Report) : Prop where
  ending : report.ending = other.ending
  output : report.terminal.output = other.terminal.output
  errors : report.terminal.errors = other.terminal.errors
  log : report.terminal.log = other.terminal.log

variable {arguments : IsolateArguments} {host other : Host}

/-- Programs that end alike are reported alike. -/
theorem ofProgram_alike {related : Terminal → Terminal → Prop} {program : Program Unit}
    (alike : Alike related (program { kernel := host }) (program { kernel := other })) :
    (ofProgram program host).ending = (ofProgram program other).ending ∧
      related (ofProgram program host).terminal (ofProgram program other).terminal := by
  unfold ofProgram
  generalize program { kernel := host } = run at alike ⊢
  generalize program { kernel := other } = run' at alike ⊢
  cases alike with
  | ok kept => exact ⟨rfl, kept⟩
  | error kept => exact ⟨rfl, kept⟩

/-- Dry runs on hosts that agree end alike and leave terminals that are abreast. -/
theorem dryRun_abreast (dry : arguments.dryRun = true)
    (agrees : host.system.Agrees arguments.config other.system) :
    (ofCommand (.isolate arguments) host).ending = (ofCommand (.isolate arguments) other).ending ∧
      Terminal.Abreast arguments.config host other (ofCommand (.isolate arguments) host).terminal
        (ofCommand (.isolate arguments) other).terminal := by
  refine ofProgram_alike (Program.isolate_foretold dry host other agrees _ _ ?_)
  exact {
    log := rfl
    here := ⟨[], .nil, Host.extended_nil.symm⟩
    there := ⟨[], .nil, Host.extended_nil.symm⟩
    output := rfl
    errors := rfl }

/-- **Dry runs.** All that a dry run does to a host is to open the document that it is told to
read, and on hosts that agree on what it is told it shows the same. -/
theorem dryRun_inert (dry : arguments.dryRun = true) :
    (∀ host : Host, ∃ made, Host.Opens arguments.config made ∧
      (ofCommand (.isolate arguments) host).terminal.kernel = host.extended made) ∧
    ∀ host other : Host, host.system.Agrees arguments.config other.system →
      ShowsSame (ofCommand (.isolate arguments) host) (ofCommand (.isolate arguments) other) := by
  constructor
  · intro host
    obtain ⟨-, abreast⟩ := dryRun_abreast dry (System.Agrees.refl arguments.config host.system)
    exact abreast.here
  · intro host other agrees
    obtain ⟨ending, abreast⟩ := dryRun_abreast dry agrees
    exact ⟨ending, abreast.output, abreast.errors, abreast.log⟩

/-- Hosts with different capabilities show the same in a dry run, and are left as they were. -/
theorem dryRun_inert_stripped : ∃ (arguments : IsolateArguments) (host other : Host),
    arguments.dryRun = true ∧ host.system.Agrees arguments.config other.system ∧
      host.system.caps ≠ other.system.caps ∧
      (∃ made, Host.Opens arguments.config made ∧
        (ofCommand (.isolate arguments) other).terminal.kernel = other.extended made) ∧
      ShowsSame (ofCommand (.isolate arguments) host) (ofCommand (.isolate arguments) other) := by
  let arguments : IsolateArguments := { config := some "/etc/isolation", dryRun := true }
  let host : Host := {
    system := { uid := 1000, effectiveUid := 1000, files := [("/etc/isolation", .text "[]")] } }
  -- The same document as octets, no capabilities, and a system that refuses every call.
  let other : Host := {
    system := { uid := 1000, effectiveUid := 1000, files := [("/etc/isolation", .octets [91, 93])]
                caps := .ofSets {}, bounding := ∅, directories := [] }
    script := fun _ => .always 1 }
  have agrees : host.system.Agrees arguments.config other.system := by
    refine ⟨rfl, rfl, .rfl, fun path named => ?_⟩
    cases named
    rfl
  have dry : arguments.dryRun = true := rfl
  obtain ⟨inert, shows⟩ := dryRun_inert dry
  exact ⟨arguments, host, other, dry, agrees, by decide, inert other, shows host other agrees⟩

end Report

end SelfIsolation
