import HeapProbe.Image.Basic
import HeapProbe.Journal
import HeapProbe.SessionState

/-! # Probes

A probe is a step of an inspection: it may look at the debugger's images, call the debugger, write
to the log and move sessions on, and it ends with a value or a fault. What it did up to a fault
stays done. Several handles can share a session, so what each session knows is part of the context
and not of its handles.
-/

namespace HeapProbe

/-- The debugger's side: the images it can reach and how it answers. -/
structure Host where
  images : List Image := []
  offersEmptyTarget : Bool := true
  bindings : Bool := true
  /-- Whether the meaning of run-state numbers was taken from the bindings. -/
  statesKnown : Bool := false

structure Context where
  host : Host := {}
  journal : Journal := {}
  sessionCount : Nat := 0
  sessions : Nat → SessionState := fun _ => {}

namespace Context

def phase (context : Context) (session : Nat) : SessionPhase := (context.sessions session).phase

def assign (context : Context) (session : Nat) (change : SessionState → SessionState) : Context :=
  { context with sessions := fun other =>
      if other = session then change (context.sessions other) else context.sessions other }

section Assign

variable (context : Context) (session : Nat) (change : SessionState → SessionState)

@[simp] theorem sessions_assign :
    (context.assign session change).sessions session = change (context.sessions session) := if_pos rfl

theorem sessions_assign_of_ne {other : Nat} (h : other ≠ session) :
    (context.assign session change).sessions other = context.sessions other := if_neg h

@[simp] theorem assign_assign (change' : SessionState → SessionState) :
    (context.assign session change).assign session change' =
      context.assign session fun state => change' (change state) := by
  unfold assign
  congr 1
  funext other
  by_cases h : other = session <;> simp [h]

@[simp] theorem phase_assign :
    (context.assign session change).phase session = (change (context.sessions session)).phase :=
  congrArg SessionState.phase (context.sessions_assign session change)

theorem phase_assign_of_ne {other : Nat} (h : other ≠ session) :
    (context.assign session change).phase other = context.phase other :=
  congrArg SessionState.phase (context.sessions_assign_of_ne session change h)

end Assign

end Context

abbrev Probe := EStateM Fault Context

namespace Probe

/-- Turns a fault into a value, so that the caller decides what to do about it. -/
def attempt {σ α : Type} (step : EStateM Fault σ α) : EStateM Fault σ (Except Fault α) :=
  fun state =>
    match step state with
    | .ok value state => .ok (.ok value) state
    | .error fault state => .ok (.error fault) state

def relabel {α : Type} (probe : Probe α) (word : Fault → Fault) : Probe α := fun context =>
  match probe context with
  | .ok value context => .ok value context
  | .error fault context => .error (word fault) context

def ofExcept {α : Type} : Except Fault α → Probe α
  | .ok value => pure value
  | .error fault => throw fault

def require (condition : Prop) [Decidable condition] (fault : Fault) : Probe Unit :=
  if condition then pure () else throw fault

def needNumerals (numbers : List Int) : Probe Unit :=
  require (numbers.all hasNumeral) .overlongNumeral

def call (call : DebuggerCall) : Probe Unit :=
  modify fun context => { context with journal := context.journal.addCall call }

def log (level : LogLevel) (source : LogSource) (message : String) : Probe Unit :=
  modify fun context => { context with journal := context.journal.log ⟨level, source, message⟩ }

def host : Probe Host := do return (← get).host

/-- The image with a number. Handles hold numbers of images that exist. -/
def image (index : Nat) : Probe Image := do return (← host).images[index]?.getD {}

def needBindings : Probe Unit := do
  require (← host).bindings .bindingsLost

def needBindingsFor (needed : Bool) : Probe Unit :=
  if needed then needBindings else pure ()

end Probe

end HeapProbe
