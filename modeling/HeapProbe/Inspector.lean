import HeapProbe.Debugger.Basic
import HeapProbe.Heap.Report
import HeapProbe.Settings.Load

/-! # Inspectors

An inspector owns a debugger and at most one target at a time, and resolves a new session for each.
Opening a target asks the debugger first, then gives up what was held before, and then resolves. A
live process that is given up is detached; a core file is not. What an inspector holds stays as it
is up to the step that fails.
-/

namespace HeapProbe

structure Attachment where
  target : Target
  inferior : Inferior
  isCore : Bool
  deriving DecidableEq

structure Inspector where
  settings : Settings
  debugger : Option Debugger := none
  attachment : Option Attachment := none
  session : Option Session := none
  heap : Option Heap := none

abbrev Inspecting := EStateM Fault (Inspector × Context)

instance : MonadLift Probe Inspecting where
  monadLift probe := fun (inspector, context) =>
    match probe context with
    | .ok value context => .ok value (inspector, context)
    | .error fault context => .error fault (inspector, context)

namespace Inspector

/-- An inspector with nothing opened yet. With verbose settings the whole log is kept from here on.
-/
def create (settings : Settings) : Probe Inspector := do
  if settings.verbose then
    modify fun context => { context with journal := { context.journal with level := .debug } }
  return { settings }

/-- Takes steps from an inspector on, of which nothing is kept but what they leave around it. -/
def drive {α : Type} (inspector : Inspector) (steps : Inspecting α) : Probe α := fun context =>
  match steps (inspector, context) with
  | .ok value (_, context) => .ok value context
  | .error fault (_, context) => .error fault context

def held : Inspecting Inspector := do return (← get).1

def change (f : Inspector → Inspector) : Inspecting Unit :=
  modify fun (inspector, context) => (f inspector, context)

def needDebugger : Inspecting Debugger := do
  match (← held).debugger with
  | some debugger => return debugger
  | none =>
    let debugger ← (Debugger.create : Probe Debugger)
    change fun inspector => { inspector with debugger := some debugger }
    return debugger

def endSession : Inspecting Unit := do
  match (← held).session with
  | none => return
  | some session => do
    (session.detach : Probe Unit)
    change fun inspector => { inspector with session := none, heap := none }

def letGo (attachment : Attachment) : Probe Unit :=
  if attachment.isCore then pure () else attachment.inferior.detach

def release : Inspecting Unit := do
  match (← held).attachment with
  | none => return
  | some attachment => do
    (letGo attachment : Probe Unit)
    change fun inspector => { inspector with attachment := none }

/-- Gives up the session, and a live process with it. -/
def detach : Inspecting Unit := do
  endSession
  release

def announce (attachment : Attachment) : Probe Unit := do
  let path ← attachment.target.path
  let shown := if path = "" then "<unknown executable>" else path
  let size := decimal (← attachment.target.addressSize)
  let core := if attachment.isCore then ", core image" else ""
  Probe.log .info .inspector s!"Inspecting {shown} ({size}-byte pointers{core})"
  unless attachment.isCore || (← attachment.inferior.isPaused) do
    let pid := decimal (← attachment.inferior.pid)
    Probe.log .warning .inspector s!"Process {pid} is not stopped; results are best-effort"

def resolve (attachment : Attachment) (settings : Settings) (heapAddress : Option Int) :
    Probe Session := do
  let reader ← attachment.inferior.reader
  let session ← Session.create reader settings heapAddress
  session.resolve attachment.target.resolver
  return session

def takeOver (opened : Target × Inferior) (heapAddress : Option Int) (isCore : Bool) :
    Inspecting Unit := do
  detach
  let attachment : Attachment := ⟨opened.1, opened.2, isCore⟩
  change fun inspector => { inspector with attachment := some attachment }
  (announce attachment : Probe Unit)
  let settings := (← held).settings
  let session ← (resolve attachment settings heapAddress : Probe Session)
  change fun inspector => { inspector with session := some session }
  let heap ← (session.heap : Probe Heap)
  change fun inspector => { inspector with heap := some heap }

def request (source : Debugger → Probe (Target × Inferior)) : Inspecting (Target × Inferior) := do
  let debugger ← needDebugger
  (source debugger : Probe (Target × Inferior))

def openFrom (source : Debugger → Probe (Target × Inferior)) (heapAddress : Option Int)
    (isCore : Bool) : Inspecting Unit := do
  let opened ← request source
  takeOver opened heapAddress isCore

def attach (pid : Given Int) (heapAddress : Option Int := none) : Inspecting Unit :=
  openFrom (fun debugger => debugger.attach pid) heapAddress false

def attachByName (name : String) (heapAddress : Option Int := none) : Inspecting Unit :=
  openFrom (fun debugger => debugger.attachByName name) heapAddress false

def loadCore (executable core : String) (heapAddress : Option Int := none) : Inspecting Unit :=
  openFrom (fun debugger => debugger.loadCore executable core) heapAddress true

def theHeap : Inspecting Heap := do
  match (← held).heap with
  | some heap => return heap
  | none => throw .noSession

def theSession : Inspecting Session := do
  match (← held).session with
  | some session => return session
  | none => throw .noSession

def reporter : Inspecting Reporter := do
  return { heap := ← theHeap, heapName := (← held).settings.heapName }

def walk (accept : RegionFilter) (visit : Region → Probe Unit) : Inspecting Walk := do
  match (← held).heap with
  | some heap => (heap.walk accept visit : Probe Walk)
  | none => return ⟨[], .error .noSession⟩

def print (regions : Bool) (accept : RegionFilter) : Inspecting Printout := do
  match ← Probe.attempt reporter with
  | .ok reporter => (reporter.print regions accept : Probe Printout)
  | .error fault => return ⟨"", .error fault⟩

def describe : Inspecting HeapReport := do
  let reporter ← reporter
  (reporter.describe : Probe HeapReport)

def dismiss : Inspecting Unit := do
  match (← held).debugger with
  | none => return
  | some debugger => do
    let _ ← (debugger.destroy : Probe Debugger)
    change fun inspector => { inspector with debugger := none }

/-- Gives up the target, then the debugger. -/
def close : Inspecting Unit := do
  detach
  dismiss
  (Probe.log .info .inspector "Heapscope ended" : Probe Unit)

end Inspector

end HeapProbe
