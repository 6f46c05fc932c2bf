import HeapProbe.Region.Basic
import HeapProbe.Session

/-! # The heap

A heap is read through a resolved session. Nothing is kept between reads: every question goes back
to the target's memory, so an answer describes the moment it was asked for.
-/

namespace HeapProbe

structure Heap where
  session : Session

def Session.heap (session : Session) : Probe Heap := do
  let _ ← session.resolution
  return ⟨session⟩

namespace Heap

/-- The words that stand in front of every object. -/
def objectExtraWords : Int := 1

/-- The word offset at which a decoder of objects finds the object's region. -/
def objectRegionOffsetWords : Int := 1

def readAt (heap : Heap) (offset : HeapLayout → Int) : Probe Int := do
  let resolution ← heap.session.resolution
  heap.session.reader.readWord (resolution.heapAddress + offset resolution.heapLayout)

def numRegions (heap : Heap) : Probe Int := heap.readAt HeapLayout.numRegions

/-- The bytes in use, which have 64 bits on every target. -/
def used (heap : Heap) : Probe Int := do
  let resolution ← heap.session.resolution
  heap.session.reader.readUInt64 (resolution.heapAddress + resolution.heapLayout.used)

def committed (heap : Heap) : Probe Int := heap.readAt HeapLayout.committed

def regionTableBase (heap : Heap) : Probe Int := heap.readAt HeapLayout.regions

def reservedRange (heap : Heap) : Probe (Int × Int) := do
  let start ← heap.readAt HeapLayout.reservedStart
  let words ← heap.readAt HeapLayout.reservedWordSize
  return (start, start + words * heap.session.reader.pointerSize)

def regionSizeBytes (heap : Heap) : Probe Int := heap.session.ask Resolution.regionSizeBytes

def capacity (heap : Heap) : Probe Int := do
  return (← heap.numRegions) * (← heap.regionSizeBytes)

/-- Whether an address lies in the span that the regions cover. The capacity is not read for an
address below the start. -/
def contains (heap : Heap) (address : Int) : Probe Bool := do
  let (start, _) ← heap.reservedRange
  if start ≤ address then return address < start + (← heap.capacity) else return false

/-- Decodes the region whose object is at an address. Inverted bounds are found before an unknown
state. -/
def decodeRegion (heap : Heap) (layout : RegionLayout) (index address : Int) : Probe Region := do
  let rawState ← heap.session.reader.readUInt32 (address + layout.state)
  let bottom ← heap.session.reader.readWord (address + layout.bottom)
  let limit ← heap.session.reader.readWord (address + layout.limit)
  let top ← heap.session.reader.readWord (address + layout.top)
  Probe.require (bottom ≤ limit) (.inconsistent (.invertedRegion index limit bottom))
  let state ← Probe.ofExcept (heap.session.settings.states.classify rawState)
  return { index, baseAddress := address, bottom, limit, top, state, rawState }

def regionInSlot (heap : Heap) (index : Int) : Probe Region := do
  let resolution ← heap.session.resolution
  let base ← heap.regionTableBase
  let address ← heap.session.reader.readAddressAt base index
  heap.decodeRegion resolution.regionLayout index address

/-- Decodes one region. An index out of range is found before the table is touched. -/
def regionAt (heap : Heap) (index : Int) : Probe Region := do
  Probe.require (0 ≤ index) (.ofIndex index none)
  let count ← heap.numRegions
  Probe.require (index < count) (.ofIndex index (some count))
  heap.regionInSlot index

end Heap

end HeapProbe
