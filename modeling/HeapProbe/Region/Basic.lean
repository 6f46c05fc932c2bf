import HeapProbe.Fault
import HeapProbe.Settings.Basic

/-! # Regions

A region is one slot of the region table as read at one moment. Its raw state code falls into one
of four classes; where groups of codes overlap, trash comes before uncommitted, uncommitted before
empty and empty before live.
-/

namespace HeapProbe

inductive RegionState where
  | live
  | trash
  | uncommitted
  | empty
  deriving DecidableEq

namespace RegionState

def all : List RegionState := [.live, .trash, .uncommitted, .empty]

def name : RegionState → String
  | .live => "live"
  | .trash => "trash"
  | .uncommitted => "uncommitted"
  | .empty => "empty"

theorem mem_all (state : RegionState) : state ∈ all := by
  cases state <;> simp [all]

end RegionState

/-- The class of highest precedence whose group holds the code. -/
def StateCodes.classify (codes : StateCodes) (raw : Int) : Except Fault RegionState :=
  if raw ∈ codes.trash then .ok .trash
  else if raw ∈ codes.uncommitted then .ok .uncommitted
  else if raw ∈ codes.empty then .ok .empty
  else if raw ∈ codes.live then .ok .live
  else .error (.inconsistent (.unknownState raw))

/-- One region: the address of its object, the memory from `bottom` up to `limit` that it covers,
and the `top` of what is in use. -/
structure Region where
  index : Int
  baseAddress : Int
  bottom : Int
  limit : Int
  top : Int
  state : RegionState
  rawState : Int
  deriving DecidableEq

namespace Region

def sizeBytes (region : Region) : Int := region.limit - region.bottom

def usedBytes (region : Region) : Int := region.top - region.bottom

end Region

abbrev RegionFilter := RegionState → Bool

namespace RegionFilter

def liveOnly : RegionFilter := fun state => state = .live

def everything : RegionFilter := fun _ => true

def only (states : List RegionState) : RegionFilter := fun state => state ∈ states

end RegionFilter

end HeapProbe
