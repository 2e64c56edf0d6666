import SelfIsolation.Text.Numeral

/-! # The empty root

The filesystem is reduced to an empty, read-only directory in memory, which is
mounted over a scratch directory before it becomes the root.
-/

namespace SelfIsolation

/-- The flags with which the empty directory is mounted. -/
inductive MountFlag where
  | readOnly
  /-- Set-id bits have no effect. -/
  | noSetId
  /-- Device files have no effect. -/
  | noDevices
  | noExecution
  deriving DecidableEq

namespace MountFlag

/-- The bit of a flag. -/
def bit : MountFlag → BitVec 32
  | .readOnly => 1
  | .noSetId => 2
  | .noDevices => 4
  | .noExecution => 8

/-- The name of a flag. -/
def name : MountFlag → String
  | .readOnly => "MS_RDONLY"
  | .noSetId => "MS_NOSUID"
  | .noDevices => "MS_NODEV"
  | .noExecution => "MS_NOEXEC"

end MountFlag

/-- An empty root and the directory on which it is prepared. -/
structure EmptyRoot where
  scratch : String
  deriving DecidableEq

namespace EmptyRoot

/-- The scratch directory unless another one is asked for. -/
def defaultScratch : String := "/tmp"

instance : Inhabited EmptyRoot := ⟨⟨defaultScratch⟩⟩

/-- What the mount of the empty directory is restricted by, in the order of the bits. -/
def mountFlags : List MountFlag := [.readOnly, .noSetId, .noDevices, .noExecution]

/-- The flags of the mount as one number. -/
def mountBits : BitVec 32 := mountFlags.foldl (fun bits flag => bits ||| flag.bit) 0

/-- The flags of the mount by name. -/
def mountFlagText : String :=
  let names := " | ".intercalate (mountFlags.map MountFlag.name)
  s!"MsFlags({names})"

/-- The options of the mount: room for the directory alone, and for no content. -/
def mountOptions : String := "nr_inodes=2,nr_blocks=0"

end EmptyRoot

end SelfIsolation
