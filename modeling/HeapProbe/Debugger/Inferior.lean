import HeapProbe.Debugger.Target

/-! # Inferiors

An inferior is a process under the debugger, or a core file standing in for one. Its memory is read
in whole words of 4 or 8 bytes in the byte order of its target; a pointer is as wide as the target's
addresses. An inferior that does not know its target is read as 64-bit and little-endian.
-/

namespace HeapProbe

structure Inferior where
  image : Nat
  target : Target
  deriving DecidableEq

namespace Inferior

def runState (inferior : Inferior) : Probe RunState := do
  let image ← Probe.image inferior.image
  return if (← Probe.host).statesKnown then RunState.ofNumber image.state else .invalid

def pid (inferior : Inferior) : Probe Int := do return (← Probe.image inferior.image).pid

def isPaused (inferior : Inferior) : Probe Bool := do return (← inferior.runState).isPaused

def detach (inferior : Inferior) : Probe Unit := do
  let image ← Probe.image inferior.image
  Probe.call (.detach image.pid)
  match image.detachError with
  | none => pure ()
  | some reason => throw (.refused (.detach reason))

def readMemory (inferior : Inferior) (address size : Int) : Probe (List UInt8) := do
  Probe.needBindings
  Probe.call (.read address size)
  match (← Probe.image inferior.image).read address size with
  | .ok bytes => return bytes
  | .error reason => throw (.refused (.read address size reason))

def pointerSize (inferior : Inferior) : Probe Int := do
  let image ← Probe.image inferior.image
  return if image.knowsTarget then image.pointerSize else 8

def byteOrder (inferior : Inferior) : Probe ByteOrder := do
  let image ← Probe.image inferior.image
  return if (← Probe.host).bindings && image.knowsTarget then image.byteOrder else .little

/-- Reads `size` bytes and decodes them as a word of `width` bytes. -/
def readWord (inferior : Inferior) (width : Nat) (address size : Int) : Probe Int := do
  let bytes ← inferior.readMemory address size
  let order ← inferior.byteOrder
  if bytes.length = width then return order.decode bytes else throw (.notAWord width)

/-- A pointer is a word of 8 bytes if it has that size, and otherwise expected to have 4. -/
def readPointer (inferior : Inferior) (address : Int) : Probe Int := do
  let size ← inferior.pointerSize
  inferior.readWord (if size = 8 then 8 else 4) address size

def readPointerAt (inferior : Inferior) (base index : Int) : Probe Int := do
  inferior.readPointer (base + index * (← inferior.pointerSize))

def readUInt32 (inferior : Inferior) (address : Int) : Probe Int := inferior.readWord 4 address 4

def readUInt64 (inferior : Inferior) (address : Int) : Probe Int := inferior.readWord 8 address 8

end Inferior

end HeapProbe
