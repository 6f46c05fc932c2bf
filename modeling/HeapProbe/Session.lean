import HeapProbe.Supply
import HeapProbe.Settings.Basic

/-! # Sessions

A session is what one attach knows about its target. It starts fresh, is resolved once, and ends
detached. Resolution runs at most once: when it fails with a fault of the inspection the failure is
remembered and raised again by every later attempt, and any other fault leaves the session as it
was. Nothing is published before everything has been found out.
-/

namespace HeapProbe

/-- A handle on a session. What the session knows belongs to the context, where all handles see it.
-/
structure Session where
  id : Nat
  reader : Reader
  settings : Settings
  /-- Takes the place of the word at the heap symbol. -/
  heapAddress : Option Int

namespace Session

def create (reader : Reader) (settings : Settings := {}) (heapAddress : Option Int := none) :
    Probe Session := do
  let context ← get
  let id := context.sessionCount
  set (Context.assign { context with sessionCount := id + 1 } id fun _ => { heapAddress })
  return ⟨id, reader, settings, heapAddress⟩

def state (session : Session) : Probe SessionState := do return (← get).sessions session.id

def assign (session : Session) (change : SessionState → SessionState) : Probe Unit :=
  modify fun context => context.assign session.id change

def wordOr (session : Session) (resolver : Resolver) (given : Option Int)
    (symbol : String) : Probe Int :=
  match given with
  | some word => pure word
  | none => do session.reader.readWord (← resolver.lookupSymbol symbol)

def pickFrom {n : Nat} (resolver : Resolver) (typeName : String)
    (names : Vector String n) : Probe (Vector Int n) := do
  Probe.ofExcept ((← resolver.lookupType typeName).pick typeName names)

def announcement (session : Session) (resolution : Resolution) : String :=
  let version := decimal resolution.heapLayout.version
  let place := s!"{session.settings.layout.heapType} at {hex resolution.heapAddress}"
  let size := decimal resolution.regionSizeBytes
  s!"Resolved {place} (layout v{version}, region size {size})"

/-- Notes what was found out. No record is made of a size that is too long to write. -/
def announce (session : Session) (resolution : Resolution) : Probe Unit :=
  if hasNumeral resolution.regionSizeBytes then
    Probe.log .debug .session (session.announcement resolution)
  else pure ()

/-- Finds out everything the readers need: three types, then the heap's address, then the size of a
region. The first step that fails ends it. -/
def findOut (session : Session) (resolver : Resolver) : Probe Resolution := do
  let names := session.settings.layout
  let heap ← pickFrom resolver names.heapType names.heapFields
  let range ← pickFrom resolver names.memRegionType names.memRegionFields
  let region ← pickFrom resolver names.regionType names.regionFields
  let heapAddress ← session.wordOr resolver session.heapAddress names.heapSymbol
  let regionSizeBytes ← session.wordOr resolver names.regionSizeBytes names.regionSizeSymbol
  return ⟨.ofOffsets heap range, .ofOffsets region, heapAddress, regionSizeBytes⟩

def publish (session : Session) (resolution : Resolution) : Probe Unit := do
  session.assign fun state => { state with heapLayout := some resolution.heapLayout }
  session.assign fun state => { state with regionLayout := some resolution.regionLayout }
  session.assign fun state => { state with heapAddress := some resolution.heapAddress }
  session.assign fun state => { state with regionSizeBytes := some resolution.regionSizeBytes }

def establish (session : Session) (resolver : Resolver) : Probe Unit := do
  let resolution ← session.findOut resolver
  session.publish resolution
  session.announce resolution

/-- Remembers why resolution failed, if the inspection itself is to blame. -/
def remember (session : Session) (fault : Fault) : Probe Unit :=
  if fault.isInspection then do
    Probe.log .error .session s!"Layout resolution failed: {fault.message}"
    session.assign fun state => state.fail fault
  else pure ()

def resolve (session : Session) (resolver : Resolver) : Probe Unit := do
  let state ← session.state
  Probe.require (state.detached = false) .sessionDetached
  if state.resolved then
    match state.failure with
    | some failure => throw failure
    | none => return
  else
    match ← Probe.attempt (session.establish resolver) with
    | .ok () => session.assign SessionState.settle
    | .error fault => do
      session.remember fault
      throw fault

def isResolved (session : Session) : Probe Bool := do
  let state ← session.state
  return state.resolved && state.failure.isNone && !state.detached

def requireResolved (session : Session) : Probe Unit := do
  let state ← session.state
  Probe.require (state.detached = false) .sessionDetached
  Probe.require (state.resolved = true) .sessionUnresolved
  match state.failure with
  | some failure => throw (.sessionFailed failure)
  | none => return

def resolution (session : Session) : Probe Resolution := do
  session.requireResolved
  return (← session.state).resolution

def ask {α : Type} (session : Session) (part : Resolution → α) : Probe α := do
  return part (← session.resolution)

def detach (session : Session) : Probe Unit := do
  session.assign SessionState.detach
  Probe.log .info .session "Session detached"

end Session

end HeapProbe
