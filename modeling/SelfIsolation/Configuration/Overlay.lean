import SelfIsolation.CommandLine.Basic
import SelfIsolation.Configuration.Document

/-! # Arguments on top of a configuration

Arguments are put on top of the configuration that a settings document gives, or of
the default one. An argument that takes a value replaces the setting of the base, and
a switch can only be turned on.
-/

namespace SelfIsolation

namespace IsolateArguments

/-- Puts arguments on top of a configuration. -/
def overlay (arguments : IsolateArguments) (base : Configuration) : Configuration where
  uid := arguments.uid <|> base.uid
  gid := arguments.gid <|> base.gid
  userNamespace := arguments.userNamespace <|> base.userNamespace
  createUserNamespace := arguments.createUserNamespace <|> base.createUserNamespace
  mode := arguments.mode.getD base.mode
  netnsOnly := base.netnsOnly || arguments.netnsOnly
  foreground := base.foreground || arguments.foreground
  scratch := arguments.scratch.getD base.scratch
  descriptor := arguments.descriptor <|> base.descriptor

end IsolateArguments

end SelfIsolation
