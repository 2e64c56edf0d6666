import SelfIsolation.Configuration.Overlay
import SelfIsolation.Proofs.Configuration.Setting

/-! # Arguments on top of a configuration

Arguments give values to some settings (`SelfIsolation.IsolateArguments.value?`). Put on
top of a base, they complete it to the one configuration that has their values and those
of the base for all other settings (`SelfIsolation.IsolateArguments.completes_iff`), so
putting them there once more changes nothing.
-/

namespace SelfIsolation

namespace IsolateArguments

open SettingValue (optional ofIdentity ofDescriptor)

/-- The value of a switch, which can only be turned on. -/
def switched (on : Bool) : Option SettingValue := if on then some (.truth true) else none

/-- The value that arguments give a setting, if they give it one. -/
def value? (arguments : IsolateArguments) : Setting → Option SettingValue
  | .uid => arguments.uid.map ofIdentity
  | .gid => arguments.gid.map ofIdentity
  | .userNamespace => arguments.userNamespace.map .quoted
  | .createUserNamespace => arguments.createUserNamespace.map .truth
  | .mode => arguments.mode.map fun mode => .quoted mode.name
  | .netnsOnly => switched arguments.netnsOnly
  | .foreground => switched arguments.foreground
  | .scratch => arguments.scratch.map .quoted
  | .descriptor => arguments.descriptor.map ofDescriptor

/-- Two flags give one setting: the first turns it on, and the second, without the first, off. -/
theorem value?_createUserNamespace (reading : Reading) :
    reading.isolateArguments.value? .createUserNamespace =
      if reading.has .withUserNamespace then some (.truth true)
      else if reading.has .withoutUserNamespace then some (.truth false)
      else none := by
  change reading.createUserNamespace?.map SettingValue.truth = _
  rw [Reading.createUserNamespace?, apply_ite (Option.map _), apply_ite (Option.map _)]
  rfl

/-- Holds of a configuration that has the settings of the arguments, and those of the base where
the arguments give none. -/
def Completes (arguments : IsolateArguments) (base whole : Configuration) : Prop :=
  ∀ setting, whole.value setting = (arguments.value? setting).getD (base.value setting)

section Settings

variable {α : Type}

/-- An optional setting is written as the argument, or as the base where there is none. -/
theorem optional_orElse {write : α → SettingValue} (given base : Option α) :
    optional write (given <|> base) = (given.map write).getD (optional write base) := by
  cases given with
  | none => rfl
  | some value => rfl

/-- A setting with a default is written as the argument, or as the base where there is none. -/
theorem map_getD (write : α → SettingValue) (given : Option α) (base : α) :
    write (given.getD base) = (given.map write).getD (write base) := by
  cases given with
  | none => rfl
  | some value => rfl

/-- A switch is written as turned on, or as the base has it. -/
theorem truth_or_switched (given base : Bool) :
    SettingValue.truth (base || given) = (switched given).getD (.truth base) := by
  cases given with
  | false => exact congrArg SettingValue.truth (Bool.or_false base)
  | true => exact congrArg SettingValue.truth (Bool.or_true base)

end Settings

variable (arguments : IsolateArguments) (base : Configuration)

/-- What is put on top of a base completes it. -/
theorem completes_overlay : arguments.Completes base (arguments.overlay base) := by
  intro setting
  cases setting with
  | uid => exact optional_orElse arguments.uid base.uid
  | gid => exact optional_orElse arguments.gid base.gid
  | userNamespace => exact optional_orElse arguments.userNamespace base.userNamespace
  | createUserNamespace =>
      exact optional_orElse arguments.createUserNamespace base.createUserNamespace
  | mode => exact map_getD (fun mode => .quoted mode.name) arguments.mode base.mode
  | netnsOnly => exact truth_or_switched arguments.netnsOnly base.netnsOnly
  | foreground => exact truth_or_switched arguments.foreground base.foreground
  | scratch => exact map_getD .quoted arguments.scratch base.scratch
  | descriptor => exact optional_orElse arguments.descriptor base.descriptor

variable {arguments base} {whole : Configuration}

/-- Arguments and a base determine what they make up. -/
theorem completes_iff : arguments.Completes base whole ↔ whole = arguments.overlay base := by
  constructor
  · intro completes
    apply Configuration.ext_value
    intro setting
    rw [completes setting, completes_overlay arguments base setting]
  · rintro rfl
    exact completes_overlay arguments base

/-- What arguments have completed, they complete to itself. -/
theorem Completes.again (completes : arguments.Completes base whole) :
    arguments.Completes whole whole := by
  intro setting
  rw [completes setting]
  cases arguments.value? setting with
  | none => rfl
  | some value => rfl

end IsolateArguments

end SelfIsolation
