import SelfIsolation.Configuration.Basic

/-! # Settings

The names under which a document gives the parts of a configuration, and the values
that each of them can have.
-/

namespace SelfIsolation

/-- A part of a configuration. -/
inductive Setting where
  | uid
  | gid
  | userNamespace
  | createUserNamespace
  | mode
  | netnsOnly
  | foreground
  | scratch
  | descriptor
  deriving DecidableEq

/-- A value that a document gives to a setting. -/
inductive SettingValue where
  /-- No value. -/
  | null
  | truth (value : Bool)
  | number (value : Int)
  | quoted (content : String)
  /-- A name on its own, written as an object that gives it no value. -/
  | variant (name : String)
  deriving DecidableEq

namespace Setting

/-- Every setting, in the order in which an array gives them. -/
def all : List Setting := [
  .uid, .gid, .userNamespace, .createUserNamespace, .mode, .netnsOnly, .foreground, .scratch,
  .descriptor]

/-- The name of a setting. -/
def name : Setting → String
  | .uid => "uid"
  | .gid => "gid"
  | .userNamespace => "userns"
  | .createUserNamespace => "use_userns"
  | .mode => "mode"
  | .netnsOnly => "netns_only"
  | .foreground => "foreground"
  | .scratch => "scratch_dir"
  | .descriptor => "fd"

/-- The setting of a name. -/
def ofName? (name : String) : Option Setting := all.find? fun setting => setting.name = name

end Setting

namespace SettingValue

/-- An identity: a number of 32 bits. -/
def identity? : SettingValue → Option UInt32
  | .number value =>
    if 0 ≤ value ∧ value < UInt32.size then some (UInt32.ofNat value.toNat) else none
  | _ => none

/-- A descriptor: a signed number of 32 bits. -/
def descriptor? : SettingValue → Option Int32
  | .number value =>
    if Int32.minValue.toInt ≤ value ∧ value ≤ Int32.maxValue.toInt then some (Int32.ofInt value)
    else none
  | _ => none

/-- A truth value. -/
def truth? : SettingValue → Option Bool
  | .truth value => some value
  | _ => none

/-- A text. -/
def text? : SettingValue → Option String
  | .quoted content => some content
  | _ => none

/-- A mode: its exact name, as a text or on its own. -/
def mode? : SettingValue → Option Mode
  | .quoted content => Mode.ofName? content
  | .variant name => Mode.ofName? name
  | _ => none

/-- A value that may be absent. -/
def optional? {α : Type} (read : SettingValue → Option α) : SettingValue → Option (Option α)
  | .null => some none
  | value => (read value).map some

end SettingValue

namespace Configuration

/-- Gives a setting a value, if it can have it. -/
def set? (configuration : Configuration) (value : SettingValue) : Setting → Option Configuration
  | .uid => (value.optional? SettingValue.identity?).map fun uid => { configuration with uid }
  | .gid => (value.optional? SettingValue.identity?).map fun gid => { configuration with gid }
  | .userNamespace =>
    (value.optional? SettingValue.text?).map fun userNamespace =>
      { configuration with userNamespace }
  | .createUserNamespace =>
    (value.optional? SettingValue.truth?).map fun createUserNamespace =>
      { configuration with createUserNamespace }
  | .mode => value.mode?.map fun mode => { configuration with mode }
  | .netnsOnly => value.truth?.map fun netnsOnly => { configuration with netnsOnly }
  | .foreground => value.truth?.map fun foreground => { configuration with foreground }
  | .scratch => value.text?.map fun scratch => { configuration with scratch }
  | .descriptor =>
    (value.optional? SettingValue.descriptor?).map fun descriptor =>
      { configuration with descriptor }

/-- The configuration with the given settings and the defaults for all others. No setting may be
given twice. -/
def ofSettings? (settings : List (Setting × SettingValue)) : Option Configuration :=
  if (settings.map Prod.fst).Nodup then
    settings.foldlM (fun configuration (setting, value) => configuration.set? value setting) {}
  else none

end Configuration

end SelfIsolation
