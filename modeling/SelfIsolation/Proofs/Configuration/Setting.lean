import SelfIsolation.Configuration.Setting

/-! # Settings of a configuration

A configuration gives every setting a value (`SelfIsolation.Configuration.value`), and
the values of all settings determine it (`SelfIsolation.Configuration.ext_value`).
Settings that are given in any order build it, if those left out have their defaults
(`SelfIsolation.Configuration.GivenBy.ofSettings`).
-/

namespace SelfIsolation

namespace SettingValue

/-- The value for something that may be absent. -/
def optional {α : Type} (write : α → SettingValue) : Option α → SettingValue
  | none => .null
  | some value => write value

/-- An optional value is told by how it is written, if `null` is no value. -/
theorem optional_injective {α : Type} {write : α → SettingValue}
    (injective : ∀ left right, write left = write right → left = right)
    (present : ∀ value, write value ≠ .null) {left right : Option α}
    (same : optional write left = optional write right) : left = right := by
  cases left with
  | none =>
      cases right with
      | none => rfl
      | some value => exact absurd same.symm (present value)
  | some value =>
      cases right with
      | none => exact absurd same (present value)
      | some other => rw [injective value other same]

/-- An optional value is read back, if `null` is no value. -/
theorem optional?_optional {α : Type} {write : α → SettingValue}
    {read : SettingValue → Option α} (reads : ∀ value, read (write value) = some value)
    (present : ∀ value, write value ≠ .null) (value : Option α) :
    (optional write value).optional? read = some value := by
  cases value with
  | none => rfl
  | some value =>
      rw [optional, optional?.eq_2 _ _ (present value), reads, Option.map_some]

/-- The value for an identity. -/
def ofIdentity (identity : UInt32) : SettingValue := .number identity.toNat

/-- The value for a descriptor. -/
def ofDescriptor (descriptor : Int32) : SettingValue := .number descriptor.toInt

/-- An identity is read back from its number. -/
theorem identity?_ofIdentity (identity : UInt32) :
    (ofIdentity identity).identity? = some identity := by
  have small : identity.toNat < UInt32.size := identity.toNat_lt
  have bounds : 0 ≤ (identity.toNat : Int) ∧ (identity.toNat : Int) < UInt32.size := by omega
  rw [ofIdentity, identity?, if_pos bounds, Int.toNat_natCast, UInt32.ofNat_toNat]

/-- A descriptor is read back from its number. -/
theorem descriptor?_ofDescriptor (descriptor : Int32) :
    (ofDescriptor descriptor).descriptor? = some descriptor := by
  have bounds : Int32.minValue.toInt ≤ descriptor.toInt ∧
      descriptor.toInt ≤ Int32.maxValue.toInt :=
    ⟨descriptor.minValue_le_toInt, descriptor.toInt_le⟩
  rw [ofDescriptor, descriptor?, if_pos bounds, Int32.ofInt_toInt]

end SettingValue

theorem Mode.ofName?_name (mode : Mode) : ofName? mode.name = some mode := by
  cases mode <;> decide

theorem Setting.ofName?_name (setting : Setting) : ofName? setting.name = some setting := by
  cases setting <;> decide

namespace Configuration

open SettingValue (optional optional_injective optional?_optional ofIdentity identity?_ofIdentity
  ofDescriptor descriptor?_ofDescriptor)

/-- The value that a configuration gives a setting. -/
def value (configuration : Configuration) : Setting → SettingValue
  | .uid => optional ofIdentity configuration.uid
  | .gid => optional ofIdentity configuration.gid
  | .userNamespace => optional .quoted configuration.userNamespace
  | .createUserNamespace => optional .truth configuration.createUserNamespace
  | .mode => .quoted configuration.mode.name
  | .netnsOnly => .truth configuration.netnsOnly
  | .foreground => .truth configuration.foreground
  | .scratch => .quoted configuration.scratch
  | .descriptor => optional ofDescriptor configuration.descriptor

/-- The values that may be written for a setting of a configuration: a mode can also be given as a
name on its own. -/
inductive Gives (configuration : Configuration) : Setting → SettingValue → Prop
  | value (setting : Setting) : Gives configuration setting (configuration.value setting)
  | mode : Gives configuration .mode (.variant configuration.mode.name)

/-- The settings that are given, each at most once, leave out none but those with their defaults. -/
structure GivenBy (configuration : Configuration) (settings : List (Setting × SettingValue)) :
    Prop where
  once : (settings.map Prod.fst).Nodup
  gives : ∀ entry ∈ settings, configuration.Gives entry.1 entry.2
  rest : ∀ setting ∉ settings.map Prod.fst,
    configuration.value setting = ({} : Configuration).value setting

variable {configuration other : Configuration}

/-- The values of all settings determine a configuration. -/
theorem ext_value (same : ∀ setting, configuration.value setting = other.value setting) :
    configuration = other := by
  have identity : ∀ left right, ofIdentity left = ofIdentity right → left = right :=
    fun left right same => UInt32.toNat_inj.mp (Int.ofNat.inj (SettingValue.number.inj same))
  have descriptor : ∀ left right, ofDescriptor left = ofDescriptor right → left = right :=
    fun left right same => Int32.toInt_inj.mp (SettingValue.number.inj same)
  have mode : configuration.mode = other.mode := by
    have named := Mode.ofName?_name configuration.mode
    rw [SettingValue.quoted.inj (same .mode), Mode.ofName?_name] at named
    exact (Option.some.inj named).symm
  have uid := optional_injective identity (fun _ => nofun) (same .uid)
  have gid := optional_injective identity (fun _ => nofun) (same .gid)
  have userNamespace := optional_injective (fun _ _ => SettingValue.quoted.inj)
    (fun _ => nofun) (same .userNamespace)
  have createUserNamespace := optional_injective (fun _ _ => SettingValue.truth.inj)
    (fun _ => nofun) (same .createUserNamespace)
  have netnsOnly := SettingValue.truth.inj (same .netnsOnly)
  have foreground := SettingValue.truth.inj (same .foreground)
  have scratch := SettingValue.quoted.inj (same .scratch)
  have descriptor := optional_injective descriptor (fun _ => nofun) (same .descriptor)
  cases configuration
  cases other
  rw [Configuration.mk.injEq]
  exact ⟨uid, gid, userNamespace, createUserNamespace, mode, netnsOnly, foreground, scratch,
    descriptor⟩

/-- The second configuration with a setting of the first. -/
def copy (configuration base : Configuration) : Setting → Configuration
  | .uid => { base with uid := configuration.uid }
  | .gid => { base with gid := configuration.gid }
  | .userNamespace => { base with userNamespace := configuration.userNamespace }
  | .createUserNamespace => { base with createUserNamespace := configuration.createUserNamespace }
  | .mode => { base with mode := configuration.mode }
  | .netnsOnly => { base with netnsOnly := configuration.netnsOnly }
  | .foreground => { base with foreground := configuration.foreground }
  | .scratch => { base with scratch := configuration.scratch }
  | .descriptor => { base with descriptor := configuration.descriptor }

/-- Copying a setting changes that and no other. -/
theorem value_copy (configuration base : Configuration) (setting asked : Setting) :
    (configuration.copy base setting).value asked =
      if asked = setting then configuration.value asked else base.value asked := by
  cases setting <;> cases asked <;> rfl

/-- A setting that is given takes over the value of the configuration, and no other setting
changes. -/
theorem set?_of_gives {setting : Setting} {value : SettingValue}
    (gives : configuration.Gives setting value) (base : Configuration) :
    base.set? value setting = some (configuration.copy base setting) := by
  cases gives with
  | mode =>
      rw [set?, SettingValue.mode?, Mode.ofName?_name]
      rfl
  | value =>
      have identity := optional?_optional identity?_ofIdentity fun _ => nofun
      have text : ∀ content, (SettingValue.quoted content).text? = some content := fun _ => rfl
      have truth : ∀ value, (SettingValue.truth value).truth? = some value := fun _ => rfl
      cases setting with
      | uid => exact congrArg (Option.map _) (identity configuration.uid)
      | gid => exact congrArg (Option.map _) (identity configuration.gid)
      | userNamespace =>
          exact congrArg (Option.map _)
            (optional?_optional text (fun _ => nofun) configuration.userNamespace)
      | createUserNamespace =>
          exact congrArg (Option.map _)
            (optional?_optional truth (fun _ => nofun) configuration.createUserNamespace)
      | mode => exact congrArg (Option.map _) (Mode.ofName?_name configuration.mode)
      | netnsOnly => rfl
      | foreground => rfl
      | scratch => rfl
      | descriptor =>
          exact congrArg (Option.map _)
            (optional?_optional descriptor?_ofDescriptor (fun _ => nofun) configuration.descriptor)

/-- Given settings take over the values of the configuration one after another. -/
theorem foldlM_of_gives {settings : List (Setting × SettingValue)}
    (gives : ∀ entry ∈ settings, configuration.Gives entry.1 entry.2) (base : Configuration) :
    ∃ result,
      settings.foldlM (fun configuration (setting, value) => configuration.set? value setting)
        base = some result ∧
      ∀ setting, result.value setting =
        if setting ∈ settings.map Prod.fst then configuration.value setting
        else base.value setting := by
  induction settings generalizing base with
  | nil => exact ⟨base, rfl, fun setting => rfl⟩
  | cons entry settings ih =>
      obtain ⟨first, later⟩ := List.forall_mem_cons.mp gives
      obtain ⟨result, folded, values⟩ := ih later (configuration.copy base entry.1)
      refine ⟨result, ?_, fun setting => ?_⟩
      · rw [List.foldlM_cons]
        dsimp only
        rw [set?_of_gives first]
        exact folded
      · rw [values, value_copy, List.map_cons]
        by_cases here : setting = entry.1
        · rw [if_pos here, ite_self, if_pos (here ▸ List.mem_cons_self)]
        · simp only [List.mem_cons, here, false_or, if_false]

/-- The settings that are given build the configuration. -/
theorem GivenBy.ofSettings {settings : List (Setting × SettingValue)}
    (given : configuration.GivenBy settings) : ofSettings? settings = some configuration := by
  obtain ⟨result, folded, values⟩ := foldlM_of_gives given.gives {}
  rw [ofSettings?, if_pos given.once, folded]
  refine congrArg some (ext_value fun setting => ?_)
  rw [values]
  by_cases listed : setting ∈ settings.map Prod.fst
  · rw [if_pos listed]
  · rw [if_neg listed, given.rest setting listed]

end Configuration

end SelfIsolation
