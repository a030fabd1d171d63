import Detour.Host.World

/-!
# Scans

A scan walks over the calls of one method. Besides the world it has two name buffers, one for method
names and one for type names, which every metadata read of the scan goes through.
-/

namespace Detour.CallSite

open Detour.Host

/-- The name buffers of a scan. -/
inductive NameBuffer where
  | methodName
  | typeName
  deriving DecidableEq, Repr, Inhabited

structure HeldNames where
  methodName : String
  typeName : String
  deriving DecidableEq, Repr, Inhabited

namespace HeldNames

def empty : HeldNames := ⟨"", ""⟩

def get (names : HeldNames) : NameBuffer → String
  | .methodName => names.methodName
  | .typeName => names.typeName

def set (names : HeldNames) (buffer : NameBuffer) (name : String) : HeldNames :=
  match buffer with
  | .methodName => { names with methodName := name }
  | .typeName => { names with typeName := name }

@[simp] theorem get_set_self (names : HeldNames) (buffer : NameBuffer) (name : String) :
    (names.set buffer name).get buffer = name := by
  cases buffer <;> rfl

end HeldNames

structure Scan (S : Type) where
  buffers : HeldNames
  world : World S

/-- A step of a scan, which the host may refuse. -/
abbrev Scanning (S : Type) := EStateM Refusal (Scan S)

namespace Scan

variable {S α : Type}

/-- The scan with the outcome of a read into a buffer. -/
def setSlot (scan : Scan S) (buffer : NameBuffer) (slot : NameSlot S) : Scan S :=
  { scan with
    buffers := scan.buffers.set buffer slot.name
    world.host := slot.host }

/-- Reads a name into a buffer. -/
def readName (buffer : NameBuffer) (read : NameRead S α) : Scanning S α := fun scan =>
  match read ⟨scan.buffers.get buffer, scan.world.host⟩ with
  | .ok value slot => .ok value (scan.setSlot buffer slot)
  | .error error slot => .error error (scan.setSlot buffer slot)

theorem readName_of_ok {buffer : NameBuffer} {read : NameRead S α} {scan : Scan S} {value : α}
    {slot : NameSlot S}
    (answered : read ⟨scan.buffers.get buffer, scan.world.host⟩ = .ok value slot) :
    readName buffer read scan = .ok value (scan.setSlot buffer slot) := by
  rw [readName, answered]

theorem readName_of_error {buffer : NameBuffer} {read : NameRead S α} {scan : Scan S}
    {refusal : Refusal} {slot : NameSlot S}
    (refused : read ⟨scan.buffers.get buffer, scan.world.host⟩ = .error refusal slot) :
    readName buffer read scan = .error refusal (scan.setSlot buffer slot) := by
  rw [readName, refused]

def log (scan : Scan S) (event : Event) : Scan S :=
  { scan with world := scan.world.log event }

end Scan

end Detour.CallSite
