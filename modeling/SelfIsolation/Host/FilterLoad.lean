import SelfIsolation.Host.Action

/-! # Loading filters on a host

A filter is compiled before anything is changed, so one that does not compile
leaves the process as it was. New privileges are forbidden before the filter is
handed over: once for the process, and once more as part of handing it over.
-/

namespace SelfIsolation.Host

/-- Forbids new privileges. -/
def forbidPrivileges : EStateM Int Host Unit :=
  act .forbidPrivileges fun system => { system with noNewPrivileges := true }

/-- Hands a program to the kernel. -/
def handOver (program : FilterProgram) : EStateM Int Host Unit :=
  act (.loadFilter program) fun system => { system with filters := system.filters ++ [program] }

/-- A call that is part of handing over a filter. -/
def applying (call : FilterCall) (action : EStateM Int Host Unit) : Action Unit :=
  .silent (EStateM.adaptExcept (fun code => .filter (.notApplied call code)) action)

/-- Loads a filter. -/
def installFilter (filter : Filter) : Action Unit := do
  match filter.compile with
  | .error reason => throw (.filter reason)
  | .ok program =>
    attempt .forbidPrivileges forbidPrivileges
    applying .prctl forbidPrivileges
    applying .seccomp (handOver program)

end SelfIsolation.Host
