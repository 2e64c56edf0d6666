import SelfIsolation.Descriptor
import SelfIsolation.Host.Action

/-! # Closing the descriptors of a host's process

Descriptors are closed by ranges of numbers. A system that cannot do that lists
them, and those listed are closed one by one.
-/

namespace SelfIsolation.Host

/-- The directory that lists the open descriptors. -/
def descriptorListing : String := "/proc/self/fd"

/-- Closes one descriptor; one that is closed already is passed over. -/
def closeOne (descriptor : Int32) : Action Unit := do
  match ← .asking (ending (act (.close descriptor))) with
  | .ok () => return
  | .error code =>
    if Errno.ofCode code = .ebadf then return
    else throw (.call (.closeDescriptor descriptor) (.ofCode code))

/-- Closes what is listed, except the standard streams and one other. The listing has the names
that could be read; an entry that could not be read is passed over, and is not represented. -/
def closeListed (keep : Option Int32) : Action Unit := do
  let names ← onFile .file (EStateM.adaptExcept .refused
    (ask (.openDirectory descriptorListing) System.listing))
  (Descriptor.listed keep names).forM closeOne

/-- Closes ranges one after another, or what is listed if the system cannot close ranges. -/
def closeRanges (keep : Option Int32) : List Descriptor.Range → Action Unit
  | [] => pure ()
  | range :: ranges => do
    match ← .asking (ending (act (.closeRange range.first range.last))) with
    | .ok () => closeRanges keep ranges
    | .error code =>
      if Errno.ofCode code = .enosys then
        note .debug "close_range() not available, walking /proc/self/fd"
        closeListed keep
      else throw (.call (.closeRange range.first) (.ofCode code))

/-- Closes every descriptor but the standard streams and one other. -/
def closeDescriptors (keep : Option Int32) : Action Unit :=
  closeRanges keep (Descriptor.sweepRanges keep)

end SelfIsolation.Host
