/-! # Settings

How a heap is recognised and shown: the names under which the target's debug information knows the
collector's classes, fields and symbols, the codes of the region states, and the heap's name in
reports. The defaults are those of HotSpot's Shenandoah collector.
-/

namespace HeapProbe

structure LayoutNames where
  heapType : String := "ShenandoahHeap"
  numRegionsField : String := "_num_regions"
  usedField : String := "_used"
  committedField : String := "_committed"
  regionsField : String := "_regions"
  reservedField : String := "_reserved"
  memRegionType : String := "MemRegion"
  memRegionStartField : String := "_start"
  memRegionWordSizeField : String := "_word_size"
  regionType : String := "ShenandoahHeapRegion"
  regionStateField : String := "_state"
  regionBottomField : String := "_bottom"
  regionEndField : String := "_end"
  regionTopField : String := "_top"
  heapSymbol : String := "Universe::_collectedHeap"
  regionSizeSymbol : String := "ShenandoahHeapRegion::RegionSizeBytes"
  /-- Takes the place of the word at the region-size symbol. -/
  regionSizeBytes : Option Int := none
  deriving DecidableEq

namespace LayoutNames

/-- The fields wanted of the heap's class, the reserved range last. -/
def heapFields (names : LayoutNames) : Vector String 5 :=
  #v[names.numRegionsField, names.usedField, names.committedField, names.regionsField,
    names.reservedField]

def memRegionFields (names : LayoutNames) : Vector String 2 :=
  #v[names.memRegionStartField, names.memRegionWordSizeField]

def regionFields (names : LayoutNames) : Vector String 4 :=
  #v[names.regionStateField, names.regionBottomField, names.regionEndField, names.regionTopField]

end LayoutNames

/-- Raw region state codes by class. A code may stand in several groups; the order of the fields
is their precedence. -/
structure StateCodes where
  trash : List Int := [9]
  uncommitted : List Int := [0]
  empty : List Int := [0, 1]
  live : List Int := [2, 3, 4, 5, 6, 7, 8]
  deriving DecidableEq

structure Settings where
  layout : LayoutNames := {}
  states : StateCodes := {}
  heapName : String := "Shenandoah"
  verbose : Bool := false
  deriving DecidableEq

end HeapProbe
