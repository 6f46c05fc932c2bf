import HeapProbe.Layout

/-! # Session states

A session keeps what it knows in attributes that are assigned one by one: four that its readers are
answered from, and three that say how far it has come. What has become of the session as a whole,
its phase, is read off them.
-/

namespace HeapProbe

structure Resolution where
  heapLayout : HeapLayout
  regionLayout : RegionLayout
  heapAddress : Int
  regionSizeBytes : Int
  deriving DecidableEq

/-- What has become of one attach. -/
inductive SessionPhase where
  | fresh
  | resolved (resolution : Resolution)
  | failed (failure : Fault)
  | detached
  deriving DecidableEq

theorem SessionState.resolved_of_unfailed (h : (none : Option Fault).isSome) : false := by
  cases h

structure SessionState where
  heapLayout : Option HeapLayout := none
  regionLayout : Option RegionLayout := none
  /-- Known before any resolution where the caller gave it. -/
  heapAddress : Option Int := none
  regionSizeBytes : Option Int := none
  resolved : Bool := false
  failure : Option Fault := none
  detached : Bool := false
  /-- A failure is that of a resolution that is over. -/
  concluded : failure.isSome → resolved := by exact SessionState.resolved_of_unfailed
  deriving DecidableEq

namespace SessionState

variable (state : SessionState)

/-- What readers are answered from. A value that was never assigned counts as zero. -/
def resolution : Resolution where
  heapLayout := state.heapLayout.getD default
  regionLayout := state.regionLayout.getD default
  heapAddress := state.heapAddress.getD 0
  regionSizeBytes := state.regionSizeBytes.getD 0

def phase : SessionPhase :=
  if state.detached then .detached
  else if state.resolved then
    match state.failure with
    | some failure => .failed failure
    | none => .resolved state.resolution
  else .fresh

def publish (resolution : Resolution) : SessionState :=
  { state with
    heapLayout := some resolution.heapLayout
    regionLayout := some resolution.regionLayout
    heapAddress := some resolution.heapAddress
    regionSizeBytes := some resolution.regionSizeBytes }

def settle : SessionState := { state with resolved := true, concluded := fun _ => rfl }

def fail (fault : Fault) : SessionState :=
  { state with failure := some fault, resolved := true, concluded := fun _ => rfl }

/-- The layouts are given up. The address and the size stay where they were. -/
def detach : SessionState :=
  { state with detached := true, heapLayout := none, regionLayout := none }

def ofResolution (resolution : Resolution) : SessionState := (publish {} resolution).settle

variable {state}

theorem phase_eq_fresh_iff :
    state.phase = .fresh ↔ state.detached = false ∧ state.resolved = false := by
  unfold phase
  cases state.detached <;> cases state.resolved <;> cases state.failure <;> simp

theorem phase_eq_detached_iff : state.phase = .detached ↔ state.detached = true := by
  unfold phase
  cases state.detached <;> cases state.resolved <;> cases state.failure <;> simp

theorem failure_of_fresh (h : state.phase = .fresh) : state.failure = none := by
  cases hf : state.failure with
  | none => rfl
  | some failure =>
    have hresolved := state.concluded (by simp [hf])
    simp [(phase_eq_fresh_iff.1 h).2] at hresolved

theorem phase_settle_publish (h : state.phase = .fresh) (resolution : Resolution) :
    (state.publish resolution).settle.phase = .resolved resolution := by
  simp [phase, publish, settle, SessionState.resolution, (phase_eq_fresh_iff.1 h).1,
    failure_of_fresh h]

theorem phase_fail (h : state.phase = .fresh) (fault : Fault) :
    (state.fail fault).phase = .failed fault := by
  simp [phase, fail, (phase_eq_fresh_iff.1 h).1]

theorem phase_fail_or (fault : Fault) :
    (state.fail fault).phase = .failed fault ∨ (state.fail fault).phase = .detached := by
  cases hd : state.detached <;> simp [phase, fail, hd]

@[simp] theorem phase_detach : state.detach.phase = .detached := rfl

end SessionState

end HeapProbe
