import HeapProbe.Debugger.Inferior

/-! # The debugger

A debugger opens inferiors: it attaches to a running process by number or name, or loads a core file
for a given executable. It works synchronously, so a process is stopped by the time it is attached.
-/

namespace HeapProbe

inductive Debugger where
  | live
  | released
  deriving DecidableEq

namespace Debugger

def create : Probe Debugger := do
  Probe.require (← Probe.host).bindings (.refused .bindingsMissing)
  Probe.call .start
  Probe.call .create
  Probe.call (.setAsync false)
  return .live

def needLive (debugger : Debugger) : Probe Unit :=
  match debugger with
  | .live => pure ()
  | .released => throw .debuggerReleased

/-- Asks for a target; no target is bound to an image when the path is empty. -/
def requestTarget (debugger : Debugger) (path : String) : Probe (Option Target) := do
  debugger.needLive
  Probe.call (.createTarget path)
  let host ← Probe.host
  if path = "" then
    return if host.offersEmptyTarget then some ⟨none⟩ else none
  else
    return (host.images.findIdx? fun image => image.executable = some path).map fun i => ⟨some i⟩

def createTarget (debugger : Debugger) (path : String) : Probe Target := do
  match ← debugger.requestTarget path with
  | some target => return target
  | none => throw (.refused (.noTarget path))

/-- The inferior on an image, which also teaches the host what run-state numbers mean. -/
def inferiorOn (index : Nat) : Probe (Target × Inferior) := do
  modify fun context => { context with host :=
    { context.host with statesKnown := context.host.statesKnown || context.host.bindings } }
  let target : Target := ⟨some index⟩
  return (target, ⟨index, target⟩)

def attachWhere (debugger : Debugger) (request : DebuggerCall) (wanted : Image → Bool)
    (refusal : String → Refusal) (note : String) : Probe (Target × Inferior) := do
  Probe.needBindings
  match ← debugger.requestTarget "" with
  | none => throw (.refused .noEmptyTarget)
  | some _ =>
    Probe.call request
    let images := (← Probe.host).images
    match images.findIdx? wanted with
    | none => throw (.refused (refusal "no such process"))
    | some index =>
      match (← Probe.image index).attachError with
      | some reason => throw (.refused (refusal reason))
      | none =>
        Probe.log .info .debugger note
        inferiorOn index

/-- Attaches to the process with a number; a request without one finds no process. -/
def attach (debugger : Debugger) (pid : Given Int) : Probe (Target × Inferior) :=
  debugger.attachWhere (.attach pid) (fun image => some image.pid = pid.value?) (.attach pid)
    ("Attached to pid=" ++ (pid.value?.map decimal).getD "")

def attachByName (debugger : Debugger) (name : String) : Probe (Target × Inferior) :=
  debugger.attachWhere (.attachByName name false) (fun image => image.name = name)
    (.attachByName name) s!"Attached to {name}"

def loadCore (debugger : Debugger) (executable core : String) : Probe (Target × Inferior) := do
  let _ ← debugger.createTarget executable
  Probe.call (.loadCore core)
  let images := (← Probe.host).images
  match images.findIdx? fun image => image.executable = some executable ∧ image.core = core with
  | none => throw (.refused (.loadCore core))
  | some index =>
    Probe.log .info .debugger s!"Loaded core {core} for {executable}"
    inferiorOn index

def destroy (debugger : Debugger) : Probe Debugger := do
  match debugger with
  | .released => return .released
  | .live =>
    Probe.needBindings
    Probe.call .destroy
    return .released

end Debugger

end HeapProbe
