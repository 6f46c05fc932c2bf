import HeapProbe.Image.ClassInfo
import HeapProbe.Memory.Sparse
import HeapProbe.Text.Numeral

/-! # Images

An image is a program that a debugger can attach to, or a core file it can load: where the program
came from, what its debug information says, what its memory holds and how it answers requests. Every
part has a default, which describes a stopped 64-bit process running the usual collector.
-/

namespace HeapProbe

/-- The address that stands for "not loaded", the highest of 64 bits. -/
def unloadedAddress : Int := 0xffffffffffffffff

structure SymbolEntry where
  key : String
  name : Option String
  address : Int
  valid : Bool := true
  moduleName : Option String := some "libjvm.so"
  moduleValid : Bool := true
  deriving DecidableEq

inductive RunState where
  | invalid | unloaded | connected | attaching | launching | stopped
  | running | stepping | crashed | detached | exited | suspended
  deriving DecidableEq

namespace RunState

def all : List RunState :=
  [.invalid, .unloaded, .connected, .attaching, .launching, .stopped,
    .running, .stepping, .crashed, .detached, .exited, .suspended]

/-- The state with the debugger's number for it; a number without a state is `invalid`. -/
def ofNumber (number : Int) : RunState :=
  if number < 0 then .invalid else all[number.toNat]?.getD .invalid

/-- In these states memory is a stable snapshot. -/
def isPaused (state : RunState) : Bool := state = .stopped || state = .crashed

def name : RunState → String
  | .invalid => "INVALID"
  | .unloaded => "UNLOADED"
  | .connected => "CONNECTED"
  | .attaching => "ATTACHING"
  | .launching => "LAUNCHING"
  | .stopped => "STOPPED"
  | .running => "RUNNING"
  | .stepping => "STEPPING"
  | .crashed => "CRASHED"
  | .detached => "DETACHED"
  | .exited => "EXITED"
  | .suspended => "SUSPENDED"

end RunState

def standardClasses : List (String × ClassInfo) :=
  [("ShenandoahHeap", .fields
      [⟨some "_reserved", 16, some ⟨"size_t", 8⟩⟩, ⟨some "_num_regions", 256, some ⟨"size_t", 8⟩⟩,
        ⟨some "_used", 264, some ⟨"size_t", 8⟩⟩, ⟨some "_committed", 272, some ⟨"size_t", 8⟩⟩,
        ⟨some "_regions", 280, some ⟨"size_t", 8⟩⟩]),
    ("MemRegion", .fields
      [⟨some "_start", 0, some ⟨"size_t", 8⟩⟩, ⟨some "_word_size", 8, some ⟨"size_t", 8⟩⟩]),
    ("ShenandoahHeapRegion", .fields
      [⟨some "_bottom", 8, some ⟨"size_t", 8⟩⟩, ⟨some "_end", 16, some ⟨"size_t", 8⟩⟩,
        ⟨some "_top", 24, some ⟨"size_t", 8⟩⟩, ⟨some "_state", 64, some ⟨"size_t", 8⟩⟩])]

def standardGlobals : List (String × Int) :=
  [("Universe::_collectedHeap", 0x5000), ("ShenandoahHeapRegion::RegionSizeBytes", 0x5008)]

structure Image where
  pid : Int := 4242
  name : String := "java"
  core : String := "core.1"
  executable : Option String := some "/usr/bin/java"
  executableValid : Bool := true
  state : Int := 5
  pointerSize : Int := 8
  byteOrder : ByteOrder := .little
  classes : List (String × ClassInfo) := standardClasses
  globals : List (String × Int) := standardGlobals
  symbols : List SymbolEntry := []
  memory : Memory := {}
  attachError : Option String := none
  detachError : Option String := none
  knowsTarget : Bool := true
  /-- Addresses at which a read stops early, with the count of bytes it gives. The first entry for
  an address counts. -/
  short : List (Int × Nat) := []
  /-- The error of every read, whatever the address. -/
  readError : Option String := none

instance : Inhabited Image := ⟨{}⟩

namespace Image

/-- The bytes that a read gives, or the text of the debugger's refusal. A read of no bytes succeeds
wherever it is aimed. -/
def read (image : Image) (address size : Int) : Except String (List UInt8) :=
  match image.readError with
  | some text => .error text
  | none =>
    match image.memory.bytesAt? address size.toNat with
    | none => .error s!"memory read failed for {hex address}"
    | some bytes =>
      match image.short.lookup address with
      | none => .ok bytes
      | some count => .ok (bytes.take count)

def patch (image : Image) (patches : List Patch) : Image :=
  { image with memory := patches.foldl Memory.apply image.memory }

end Image

end HeapProbe
