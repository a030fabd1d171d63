import Detour.Text.Hex

/-!
# Loaded modules

The host names a loaded module by a 64-bit word and reports its nature in a set of flags.
-/

namespace Detour

structure ModuleId where
  value : UInt64
  deriving DecidableEq, Hashable, Repr, Inhabited

namespace ModuleId

/-- The identity in hexadecimal, without leading zeros. -/
def render (moduleId : ModuleId) : String :=
  Hex.minimal moduleId.value.toNat

end ModuleId

structure ModuleFlags where
  bits : UInt32
  deriving DecidableEq, Repr, Inhabited

namespace ModuleFlags

def windowsRuntime : ModuleFlags := ⟨0x0200⟩

def dynamic : ModuleFlags := ⟨0x0004⟩

/-- A module that was loaded as a resource. -/
def resource : ModuleFlags := ⟨0x0010⟩

/-- The metadata of the module could not be opened for writing. -/
def readOnlyMetadata : ModuleFlags := ⟨0x80000000⟩

def contains (flags other : ModuleFlags) : Bool :=
  flags.bits &&& other.bits == other.bits

def union (flags other : ModuleFlags) : ModuleFlags :=
  ⟨flags.bits ||| other.bits⟩

instance : OrOp ModuleFlags := ⟨union⟩

/-- Whether the metadata can be written and method bodies can be changed. -/
def isInstrumentable (flags : ModuleFlags) : Bool :=
  !flags.contains windowsRuntime && !flags.contains resource && !flags.contains readOnlyMetadata

end ModuleFlags

end Detour
