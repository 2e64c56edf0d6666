import SelfIsolation.Failure

/-! # Descriptors

One inherited descriptor beyond the standard streams may be kept; it is named by an
argument. All others are closed, either by ranges of numbers or one by one from a
listing.
-/

namespace SelfIsolation.Descriptor

/-- The last of the standard streams. -/
def standardError : Int32 := 2

/-- How an argument bears on the designated descriptor. -/
inductive ArgumentForm where
  | separate
  | attached (text : String)
  | unrelated

/-- What follows `start` in a text that begins with it. -/
def rest? (start text : String) : Option String :=
  if start.toList.isPrefixOf text.toList then
    some (String.ofList (text.toList.drop start.toList.length))
  else none

/-- An argument names a descriptor as `--fd N`, `-F N`, `--fd=N` or `-FN`. -/
def form (argument : String) : ArgumentForm :=
  if argument = "--fd" ∨ argument = "-F" then .separate
  else
    match rest? "--fd=" argument with
    | some text => .attached text
    | none =>
      match rest? "-F" argument with
      | some text => .attached text
      | none => .unrelated

/-- Reads a descriptor, which is not negative. -/
def read (text : String) : Except ConfigReason Int32 :=
  match Numeral.readInt32? text.toList with
  | some descriptor =>
    if 0 ≤ descriptor then .ok descriptor else .error (.invalidDescriptor text)
  | none => .error (.invalidDescriptor text)

/-- Goes on looking for a designated descriptor, `found` being the last one so far. -/
def scan (found : Option Int32) : List String → Except ConfigReason (Option Int32)
  | [] => .ok found
  | argument :: arguments =>
    match form argument with
    | .unrelated => scan found arguments
    | .attached text =>
      match read text with
      | .ok descriptor => scan (some descriptor) arguments
      | .error reason => .error reason
    | .separate =>
      match arguments with
      | [] => .error (.missingDescriptor argument)
      | text :: arguments =>
        match read text with
        | .ok descriptor => scan (some descriptor) arguments
        | .error reason => .error reason

/-- The descriptor that arguments designate; the last one counts. -/
def designated (arguments : List String) : Except ConfigReason (Option Int32) :=
  scan none arguments

/-- A range of descriptor numbers, both ends included. -/
structure Range where
  first : UInt32
  last : UInt32
  deriving DecidableEq

/-- The largest number that a range can reach. -/
def largest : UInt32 := 0xffffffff

/-- The ranges that hold every number from 3 on except `keep`. -/
def sweepRanges : Option Int32 → List Range
  | some keep =>
    if standardError < keep then
      let kept := keep.toUInt32
      if 3 < kept then [⟨3, kept - 1⟩, ⟨kept + 1, largest⟩] else [⟨kept + 1, largest⟩]
    else [⟨3, largest⟩]
  | none => [⟨3, largest⟩]

/-- Holds of the descriptors that a sweep closes. -/
def isSwept (keep : Option Int32) (descriptor : Int32) : Bool :=
  standardError < descriptor && some descriptor ≠ keep

/-- The descriptors that a sweep closes, in the order of a listing. -/
def listed (keep : Option Int32) (names : List String) : List Int32 :=
  (names.filterMap fun name => Numeral.readInt32? name.toList).filter (isSwept keep)

end SelfIsolation.Descriptor
