import HeapProbe.Heap.Basic

/-! # Walks

A walk decodes the regions in ascending order, up to the count read at its start, and hands those
that a filter admits to a visitor. The first fault ends it: what was handed out stays handed out,
and no later region is decoded. A walk therefore ends with two things, the regions handed out and
how it went.
-/

namespace HeapProbe

structure Walk where
  /-- The regions handed to the visitor, one that made the visitor fail included. -/
  visited : List Region
  outcome : Except Fault Unit

namespace Heap

def noteAbort (index : Nat) (fault : Fault) : Probe Unit :=
  match fault with
  | .unavailable .. =>
    Probe.log .warning .walk s!"Walk aborted at region {decimal index}: {fault.message}"
  | _ => pure ()

/-- Decodes `remaining` regions from an index on. -/
def walkFrom (heap : Heap) (accept : RegionFilter) (visit : Region → Probe Unit) :
    Nat → Nat → Probe Walk
  | _, 0 => pure ⟨[], .ok ()⟩
  | index, remaining + 1 => do
    match ← Probe.attempt (heap.regionAt index) with
    | .error fault =>
      noteAbort index fault
      return ⟨[], .error fault⟩
    | .ok region =>
      if accept region.state then
        match ← Probe.attempt (visit region) with
        | .error fault => return ⟨[region], .error fault⟩
        | .ok () =>
          let rest ← heap.walkFrom accept visit (index + 1) remaining
          return { rest with visited := region :: rest.visited }
      else heap.walkFrom accept visit (index + 1) remaining

def noteEnd (count : Int) (walk : Walk) : Probe Unit :=
  match walk.outcome with
  | .ok () =>
    Probe.log .debug .walk s!"Visited {decimal walk.visited.length} of {decimal count} regions"
  | .error _ => pure ()

def walk (heap : Heap) (accept : RegionFilter) (visit : Region → Probe Unit) : Probe Walk := do
  match ← Probe.attempt heap.numRegions with
  | .error fault => return ⟨[], .error fault⟩
  | .ok count =>
    Probe.log .debug .walk s!"Walking {decimal count} regions"
    let walk ← heap.walkFrom accept visit 0 count.toNat
    noteEnd count walk
    return walk

/-- Hands the regions that a filter admits to a visitor; live regions only, unless told otherwise.
-/
def iterate (heap : Heap) (visit : Region → Probe Unit)
    (accept : RegionFilter := RegionFilter.liveOnly) : Probe Unit := do
  Probe.ofExcept (← heap.walk accept visit).outcome

def regions (heap : Heap) (accept : RegionFilter := RegionFilter.liveOnly) :
    Probe (List Region) := do
  let walk ← heap.walk accept fun _ => pure ()
  Probe.ofExcept walk.outcome
  return walk.visited

def countByState (heap : Heap) : Probe (List (RegionState × Nat)) := do
  let regions ← heap.regions RegionFilter.everything
  return RegionState.all.map fun state =>
    (state, regions.countP fun region => region.state = state)

end Heap

end HeapProbe
