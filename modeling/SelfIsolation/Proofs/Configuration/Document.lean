import SelfIsolation.Configuration.Document
import SelfIsolation.Proofs.Configuration.Setting
import SelfIsolation.Proofs.Document.Layout

/-! # Reading a settings document

A configuration can be written as an object or as an array
(`SelfIsolation.Configuration.Written`), with any spelling of the texts and any white
space. However it is written, a valid configuration is read back, and nothing else
than a valid configuration is ever read (`SelfIsolation.Configuration.parse_faithful`);
as every configuration can be written, exactly the valid ones can be read
(`SelfIsolation.Configuration.exists_parse_iff`).
-/

namespace SelfIsolation

namespace Document

/-! ## The tokens of a document -/

/-- The tokens of a value. -/
def valueTokens : SettingValue → List Token
  | .null => [.null]
  | .truth value => [.truth value]
  | .number value => [.number value]
  | .quoted content => [.quoted content]
  | .variant name => [.openBrace, .quoted name, .colon, .null, .closeBrace]

/-- The tokens of a member. -/
def memberTokens (entry : Setting × SettingValue) : List Token :=
  .quoted entry.1.name :: .colon :: valueTokens entry.2

/-- Fields between commas, and a closing sign. -/
def fieldTokens (fields : List (List Token)) (closing : Token) : List Token :=
  [.comma].intercalate fields ++ [closing]

/-- The tokens of an object. -/
def objectTokens (entries : List (Setting × SettingValue)) : List Token :=
  .openBrace :: fieldTokens (entries.map memberTokens) .closeBrace

/-- The tokens of an array. -/
def arrayTokens (values : List SettingValue) : List Token :=
  .openBracket :: fieldTokens (values.map valueTokens) .closeBracket

/-! ## Tokens between commas -/

/-- Numbers stay apart behind a token that is none. -/
theorem Apart.cons {token : Token} {tokens : List Token} (other : token.isNumber = false)
    (apart : Apart tokens) : Apart (token :: tokens) := by
  refine List.isChain_cons.mpr ⟨fun next _ both => ?_, apart⟩
  rw [other] at both
  cases both.1

/-- Numbers stay apart on both sides of a token that is none. -/
theorem Apart.append {front back : List Token} {token : Token} (apart : Apart front)
    (other : token.isNumber = false) (rest : Apart (token :: back)) :
    Apart (front ++ token :: back) := by
  refine List.isChain_append.mpr ⟨apart, rest, fun last _ next follows both => ?_⟩
  cases follows
  rw [other] at both
  cases both.2

/-- What may stand between commas. -/
structure IsField (field : List Token) : Prop where
  nonempty : field ≠ []
  commaless : .comma ∉ field
  apart : Apart field

/-- The tokens of a value are one field. -/
theorem isField_value (value : SettingValue) : IsField (valueTokens value) := by
  cases value with
  | variant name =>
      exact ⟨nofun, by simp [valueTokens], .cons rfl <| .cons rfl <| .cons rfl <| .cons rfl <|
        List.isChain_singleton _⟩
  | _ => exact ⟨nofun, by simp [valueTokens], List.isChain_singleton _⟩

/-- The tokens of a setting and its value are one field. -/
theorem isField_member (entry : Setting × SettingValue) : IsField (memberTokens entry) := by
  obtain ⟨-, commaless, apart⟩ := isField_value entry.2
  exact ⟨nofun, by simp [memberTokens, commaless], .cons rfl (.cons rfl apart)⟩

variable {fields : List (List Token)} {closing : Token}

/-- No two numbers meet where fields are listed. -/
theorem apart_fieldTokens (each : ∀ field ∈ fields, IsField field)
    (other : closing.isNumber = false) : Apart (fieldTokens fields closing) := by
  unfold fieldTokens
  induction fields with
  | nil => exact List.isChain_singleton _
  | cons field fields ih =>
      obtain ⟨here, there⟩ := List.forall_mem_cons.mp each
      cases fields with
      | nil =>
          rw [List.intercalate_singleton]
          exact here.apart.append other (List.isChain_singleton _)
      | cons next fields =>
          rw [List.intercalate_cons_cons, List.append_assoc, List.append_assoc]
          exact here.apart.append rfl (Apart.cons rfl (ih there))

/-- Fields are found again between their brackets. -/
theorem inside?_fieldTokens (each : ∀ field ∈ fields, IsField field) :
    inside? closing (fieldTokens fields closing) = some fields := by
  rw [inside?, fieldTokens, List.getLast?_concat, if_pos rfl, List.dropLast_concat]
  cases fields with
  | nil => rfl
  | cons field others =>
      have split : ([Token.comma].intercalate (field :: others)).splitOn .comma =
          field :: others :=
        List.splitOn_intercalate .comma (fun field member => (each field member).commaless) nofun
      have nonempty : ([Token.comma].intercalate (field :: others)).isEmpty = false := by
        obtain ⟨token, rest, rfl⟩ :=
          List.exists_cons_of_ne_nil (each field List.mem_cons_self).nonempty
        cases others with
        | nil => rfl
        | cons next others => rfl
      rw [nonempty, if_neg Bool.false_ne_true, split]

/-! ## Settings of a document -/

theorem value?_valueTokens (value : SettingValue) : value? (valueTokens value) = some value := by
  cases value <;> rfl

/-- A setting and its value are read back from their tokens. -/
theorem member?_memberTokens (entry : Setting × SettingValue) :
    member? (memberTokens entry) = some entry := by
  simp only [memberTokens, member?, Setting.ofName?_name, value?_valueTokens, Option.bind_eq_bind,
    Option.bind_some, Option.pure_def]

/-- The settings of an object are read back from its tokens. -/
theorem settings?_objectTokens (entries : List (Setting × SettingValue)) :
    settings? (objectTokens entries) = some entries := by
  have fields : inside? .closeBrace (fieldTokens (entries.map memberTokens) .closeBrace) =
      some (entries.map memberTokens) :=
    inside?_fieldTokens (List.forall_mem_map.mpr fun entry _ => isField_member entry)
  rw [objectTokens, settings?, fields]
  exact Numeral.mapM_of_reads member?_memberTokens entries

/-- The values of an array are those of the first settings. -/
theorem settings?_arrayTokens {values : List SettingValue}
    (few : values.length ≤ Setting.all.length) :
    settings? (arrayTokens values) = some (Setting.all.zip values) := by
  have fields : inside? .closeBracket (fieldTokens (values.map valueTokens) .closeBracket) =
      some (values.map valueTokens) :=
    inside?_fieldTokens (List.forall_mem_map.mpr fun value _ => isField_value value)
  simp only [arrayTokens, settings?, fields, Numeral.mapM_of_reads value?_valueTokens,
    Option.bind_eq_bind, Option.bind_some, if_pos few, Option.pure_def]

end Document

namespace Configuration

open Document

/-- The texts that a configuration can be written as: an object that gives settings by name, or an
array that gives the first ones in their order. -/
inductive Written (configuration : Configuration) (text : String) : Prop
  | object {entries : List (Setting × SettingValue)} (given : configuration.GivenBy entries)
      (layout : Layout (objectTokens entries) text.toList)
  | array {values : List SettingValue} (few : values.length ≤ Setting.all.length)
      (given : configuration.GivenBy (Setting.all.zip values))
      (layout : Layout (arrayTokens values) text.toList)

/-- A text in which a configuration is written is read as that. -/
theorem Written.read {configuration : Configuration} {text : String}
    (written : configuration.Written text) : read? text = some configuration := by
  cases written with
  | @object entries given layout =>
      have scanned := layout.scan (.cons rfl (apart_fieldTokens
        (List.forall_mem_map.mpr fun entry _ => isField_member entry) rfl))
      simp only [read?, scanned, settings?_objectTokens, given.ofSettings, Option.bind_eq_bind,
        Option.bind_some]
  | @array values few given layout =>
      have scanned := layout.scan (.cons rfl (apart_fieldTokens
        (List.forall_mem_map.mpr fun value _ => isField_value value) rfl))
      simp only [read?, scanned, settings?_arrayTokens few, given.ofSettings, Option.bind_eq_bind,
        Option.bind_some]

/-- A text in which a valid configuration is written is parsed as that. -/
theorem parse_of_written {configuration : Configuration} {text : String}
    (valid : configuration.validate = .ok ()) (written : configuration.Written text) :
    parse text = .ok configuration := by
  rw [parse, written.read]
  dsimp only
  rw [validated, valid]
  rfl

/-- What is parsed is valid. -/
theorem validate_of_parse {configuration : Configuration} {text : String}
    (parsed : parse text = .ok configuration) : configuration.validate = .ok () := by
  rw [parse] at parsed
  cases read : read? text with
  | none =>
      rw [read] at parsed
      cases parsed
  | some found =>
      rw [read] at parsed
      dsimp only at parsed
      rw [validated] at parsed
      cases valid : found.validate with
      | error reason =>
          rw [valid] at parsed
          cases parsed
      | ok value =>
          rw [valid] at parsed
          cases parsed
          exact valid

/-- Every configuration can be written. -/
theorem exists_written (configuration : Configuration) : ∃ text, configuration.Written text := by
  have settings : (Setting.all.map fun setting => (setting, configuration.value setting)).map
      Prod.fst = Setting.all := by
    rw [List.map_map]
    exact List.map_id _
  have given : configuration.GivenBy
      (Setting.all.map fun setting => (setting, configuration.value setting)) := by
    constructor
    case once =>
      rw [settings]
      decide
    case gives => exact List.forall_mem_map.mpr fun setting _ => .value setting
    case rest =>
      intro setting left
      rw [settings] at left
      exact absurd (by cases setting <;> decide) left
  obtain ⟨written, layout⟩ := exists_layout (objectTokens
    (Setting.all.map fun setting => (setting, configuration.value setting)))
  have text : (String.ofList written).toList = written := String.toList_ofList
  exact ⟨String.ofList written, .object given (by rwa [text])⟩

/-- Exactly the valid configurations can be read from a document. -/
theorem exists_parse_iff (configuration : Configuration) :
    (∃ text, parse text = .ok configuration) ↔ configuration.validate = .ok () := by
  constructor
  · rintro ⟨text, parsed⟩
    exact validate_of_parse parsed
  · intro valid
    obtain ⟨text, written⟩ := exists_written configuration
    exact ⟨text, parse_of_written valid written⟩

/-- **Faithful reading.** However a valid configuration is written, it is read back, and whatever is
read is valid. -/
theorem parse_faithful :
    (∀ (configuration : Configuration) (text : String), configuration.validate = .ok () →
      configuration.Written text → parse text = .ok configuration) ∧
    ∀ (text : String) (configuration : Configuration), parse text = .ok configuration →
      configuration.validate = .ok () :=
  ⟨fun _ _ => parse_of_written, fun _ _ => validate_of_parse⟩

/-- A configuration with a name that is spelled with an escape is parsed. -/
theorem parse_faithful_escaped : ∃ (configuration : Configuration) (text : String),
    configuration.validate = .ok () ∧ configuration.Written text ∧
      parse text = .ok configuration := by
  let configuration : Configuration := { uid := some 7, scratch := "/😀" }
  have valid : configuration.validate = .ok () := by decide +kernel
  have given : configuration.GivenBy [(.uid, .number 7), (.scratch, .quoted "/😀")] := by
    constructor
    case once => decide
    case gives =>
      simp only [List.forall_mem_cons, List.not_mem_nil, false_imp_iff, implies_true, and_true]
      exact ⟨.value .uid, .value .scratch⟩
    case rest =>
      intro setting left
      cases setting <;> first | rfl | exact absurd (by decide) left
  -- A name with an escape, a short escape, a pair of units, and white space.
  have uid : Spelling "uid".toList ['\\', 'u', '0', '0', '7', '5', 'i', 'd'] := by
    have first : Spells 'u' ['\\', 'u', '0', '0', '7', '5'] :=
      .unit rfl <| .append (.append (.append (.append .nil (.lower 0)) (.lower 0)) (.lower 7))
        (.lower 5)
    have rest : Spelling ['i', 'd'] ['i', 'd'] := .itself (by simp)
    have content : "uid".toList = ['u', 'i', 'd'] := String.toList_ofList
    rw [content]
    exact .cons first rest
  have path : Spelling "/😀".toList
      ['\\', '/', '\\', 'u', 'd', '8', '3', 'd', '\\', 'u', 'D', 'E', '0', '0'] := by
    have slash : Spells '/' ['\\', '/'] := .short (by decide)
    have high : Numeral.Hexadecimal ['d', '8', '3', 'd']
        (0xd800 + ('😀'.toNat - 0x10000) / 0x400) :=
      .append (.append (.append (.append .nil (.lower 13)) (.lower 8)) (.lower 3)) (.lower 13)
    have low : Numeral.Hexadecimal ['D', 'E', '0', '0']
        (0xdc00 + ('😀'.toNat - 0x10000) % 0x400) :=
      .append (.append (.append (.append .nil (.upper 13)) (.upper 14)) (.lower 0)) (.lower 0)
    have face : Spells '😀' ['\\', 'u', 'd', '8', '3', 'd', '\\', 'u', 'D', 'E', '0', '0'] :=
      .pair (by decide) rfl high rfl low
    have content : "/😀".toList = ['/', '😀'] := String.toList_ofList
    rw [content]
    exact .cons slash (.cons face .nil)
  have scratch : Spelling "scratch_dir".toList "scratch_dir".toList := .itself (by simp)
  have seven : Numeral.Decimal ['7'] 7 := .digit 7
  have tight : Gap [] := nofun
  have space : Gap [' '] := by simp [Gap]
  obtain ⟨written, layout⟩ : ∃ written,
      Layout (objectTokens [(.uid, .number 7), (.scratch, .quoted "/😀")]) written :=
    ⟨_, .cons space .openBrace <| .cons tight (.quoted uid) <| .cons space .colon <|
      .cons tight (.natural seven nofun) <| .cons tight .comma <| .cons space (.quoted scratch) <|
      .cons tight .colon <| .cons tight (.quoted path) <| .cons space .closeBrace <| .nil space⟩
  have text : (String.ofList written).toList = written := String.toList_ofList
  have written : configuration.Written (String.ofList written) := .object given (by rwa [text])
  exact ⟨configuration, _, valid, written, parse_faithful.1 _ _ valid written⟩

end Configuration

end SelfIsolation
