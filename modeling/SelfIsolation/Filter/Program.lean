/-! # Filter programs

A compiled filter checks the architecture and then compares the number of the call
with each allowed one. Its size depends on the number of allowed calls alone.
-/

namespace SelfIsolation

/-- A compiled filter. -/
structure FilterProgram where
  /-- The numbers of the allowed system calls, in ascending order. -/
  numbers : List Nat
  deriving DecidableEq

namespace FilterProgram

/-- The number of instructions: five for the frame, and five for each allowed call. -/
def size (program : FilterProgram) : Nat := 5 * program.numbers.length + 5

/-- Holds of the system calls that may go on; every other one ends the process. -/
def permits (program : FilterProgram) (number : Nat) : Bool := program.numbers.contains number

/-- Adds a number to an ascending list that may hold it already. -/
def insertNumber (number : Nat) : List Nat → List Nat
  | [] => [number]
  | first :: rest =>
    if number < first then number :: first :: rest
    else if number = first then first :: rest
    else first :: insertNumber number rest

end FilterProgram

end SelfIsolation
