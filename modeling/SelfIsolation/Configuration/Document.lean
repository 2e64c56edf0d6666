import SelfIsolation.Configuration.Setting
import SelfIsolation.Document.Token

/-! # Settings documents

A configuration is written as a JSON object that gives settings by name, or as a
JSON array that gives them in their order. Settings that are not given have their
defaults; a setting that is unknown or given twice makes the document malformed.
-/

namespace SelfIsolation

namespace Document

/-- The value that tokens denote. -/
def value? : List Token → Option SettingValue
  | [.null] => some .null
  | [.truth value] => some (.truth value)
  | [.number value] => some (.number value)
  | [.quoted content] => some (.quoted content)
  | [.openBrace, .quoted name, .colon, .null, .closeBrace] => some (.variant name)
  | _ => none

/-- The setting and the value that the tokens of a member denote. -/
def member? : List Token → Option (Setting × SettingValue)
  | .quoted name :: .colon :: tokens => do return (← Setting.ofName? name, ← value? tokens)
  | _ => none

/-- The tokens between commas up to the closing sign, which has to come last. -/
def inside? (closing : Token) (tokens : List Token) : Option (List (List Token)) :=
  if tokens.getLast? = some closing then
    some (if tokens.dropLast.isEmpty then [] else tokens.dropLast.splitOn .comma)
  else none

/-- The settings that a document gives. -/
def settings? : List Token → Option (List (Setting × SettingValue))
  | .openBrace :: tokens => do (← inside? .closeBrace tokens).mapM member?
  | .openBracket :: tokens => do
    let values ← (← inside? .closeBracket tokens).mapM value?
    if values.length ≤ Setting.all.length then return Setting.all.zip values else none
  | _ => none

end Document

namespace Configuration

/-- The configuration that a document denotes, whether its settings go together or not. -/
def read? (text : String) : Option Configuration := do
  ofSettings? (← Document.settings? (← Document.Token.scan? text.toList))

/-- The valid configuration that a document denotes. -/
def parse (text : String) : Except ConfigReason Configuration :=
  match read? text with
  | some configuration => configuration.validated
  | none => .error .malformed

end Configuration

end SelfIsolation
