import HeapProbe.Debugger.Inferior

/-! # What an inspection is supplied with

A resolver answers questions about names, a reader reads memory. Both are open interfaces: a session
works with any. The ones made here rest on the debugger and turn its refusals into faults of the
inspection, which say what was asked for and keep the refusal as their cause.
-/

namespace HeapProbe

/-- A source of symbolic metadata: field offsets of a type, and addresses of global variables. -/
structure Resolver where
  lookupType : String → Probe FieldOffsets
  lookupSymbol : String → Probe Int

/-- A source of raw memory. The pointer size is that of the moment the reader was made. -/
structure Reader where
  pointerSize : Int
  read : Int → Int → Probe (List UInt8)
  readWord : Int → Probe Int
  readUInt32 : Int → Probe Int
  readUInt64 : Int → Probe Int
  readAddressAt : Int → Int → Probe Int

def Fault.ofRead (address length : Int) : Fault → Fault
  | .refused refusal => .unavailable address length (some (.refused refusal))
  | .notAWord width => .unavailable address length (some (.notAWord width))
  | fault => fault

def Fault.ofLookup (typeName : String) : Fault → Fault
  | .refused refusal => .missing typeName [] (some refusal)
  | fault => fault

namespace Target

def lookupType (target : Target) (typeName : String) : Probe FieldOffsets := do
  let members ← Probe.relabel (target.members typeName) (Fault.ofLookup typeName)
  Probe.log .debug .access s!"Resolved type {typeName} ({decimal members.length} fields)"
  return members.map fun member => (member.name, member.offset)

def lookupSymbol (target : Target) (name : String) : Probe Int := do
  match ← target.findGlobal name with
  | some address => return address
  | none => throw (.missing name [] none)

def resolver (target : Target) : Resolver := ⟨target.lookupType, target.lookupSymbol⟩

end Target

namespace Inferior

def readExactly (inferior : Inferior) (address length : Int) : Probe (List UInt8) := do
  let bytes ← Probe.relabel (inferior.readMemory address length) fun
    | .refused refusal => .unavailable address length (some (.refused refusal))
    | fault => fault
  if (bytes.length : Int) = length then return bytes
  else throw (.unavailable address length (some (.short bytes.length)))

def readerOfSize (inferior : Inferior) (pointerSize : Int) : Reader where
  pointerSize := pointerSize
  read := inferior.readExactly
  readWord address :=
    Probe.relabel (inferior.readPointer address) (Fault.ofRead address pointerSize)
  readUInt32 address := Probe.relabel (inferior.readUInt32 address) (Fault.ofRead address 4)
  readUInt64 address := Probe.relabel (inferior.readUInt64 address) (Fault.ofRead address 8)
  readAddressAt base index :=
    Probe.relabel (inferior.readPointerAt base index)
      (Fault.ofRead (base + index * pointerSize) pointerSize)

def reader (inferior : Inferior) : Probe Reader := do
  return inferior.readerOfSize (← inferior.pointerSize)

end Inferior

end HeapProbe
