import HeapProbe.Probe

/-! # Targets

A target answers from debug information: where the program came from, how wide its addresses are,
what a class holds and where a global variable was loaded. A variable of the debug information comes
before the symbol table, and neither ever yields an unloaded address.
-/

namespace HeapProbe

/-- A target, bound to an image unless it was made without a program. -/
structure Target where
  image : Option Nat
  deriving DecidableEq

structure Symbol where
  name : String
  address : Int
  moduleName : String
  deriving DecidableEq

/-- The symbol that an entry makes for a search; an invalid or unloaded entry makes none. -/
def SymbolEntry.symbol? (searched : String) (entry : SymbolEntry) : Option Symbol :=
  if entry.valid && entry.address ≠ unloadedAddress then
    some {
      name := match entry.name with
        | none | some "" => searched
        | some name => name
      address := entry.address
      moduleName := if entry.moduleValid then entry.moduleName.getD "" else "" }
  else none

namespace Target

def image? (target : Target) : Probe (Option Image) :=
  match target.image with
  | none => pure none
  | some index => return some (← Probe.image index)

def path (target : Target) : Probe String := do
  match ← target.image? with
  | none => return ""
  | some image => return if image.executableValid then image.executable.getD "" else ""

/-- The width of an address in bytes; a target that does not know takes it to be 8. -/
def addressSize (target : Target) : Probe Int := do
  match ← target.image? with
  | none => return 8
  | some image => return if image.pointerSize = 0 then 8 else image.pointerSize

def findSymbols (target : Target) (name : String) : Probe (List Symbol) := do
  Probe.call (.findSymbols name)
  let image ← target.image?
  let entries := ((image.map Image.symbols).getD []).filter fun entry => entry.key = name
  Probe.needBindingsFor (entries.any SymbolEntry.valid)
  return entries.filterMap (SymbolEntry.symbol? name)

def findGlobal (target : Target) (name : String) : Probe (Option Int) := do
  Probe.call (.findGlobal name)
  let image ← target.image?
  let fromSymbols := do return (← target.findSymbols name).head?.map Symbol.address
  match image.bind fun image => image.globals.lookup name with
  | none => fromSymbols
  | some address =>
    Probe.needBindings
    if address = unloadedAddress then fromSymbols else return some address

/-- The members of a class, inherited ones included. -/
def members (target : Target) (typeName : String) : Probe Members := do
  Probe.call (.findType typeName)
  let image ← target.image?
  match image.bind fun image => image.classes.lookup typeName with
  | none => throw (.refused (.unknownType typeName))
  | some info =>
    let members := info.members
    Probe.log .debug .target s!"Type {typeName}: {decimal members.length} fields"
    return members

end Target

end HeapProbe
