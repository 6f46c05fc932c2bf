import HeapProbe.Memory.Word.Lemmas
import HeapProbe.Proofs.Memory.View
import HeapProbe.Proofs.Target.Lookup
import HeapProbe.Settings.Basic

/-! # What an image holds

An abstract heap is a few counters and a list of regions. An image holds it if each number stands at
its place in memory, in the image's byte order and in as many bytes as the place has: four for the
state of a region, eight for the bytes in use, and otherwise those of a pointer. A view of an image
whose reads are dependable yields every number that it holds.
-/

namespace HeapProbe

structure RegionRecord where
  address : Nat
  rawState : Nat
  bottom : Nat
  limit : Nat
  top : Nat

structure HeapRecord where
  used : Nat
  committed : Nat
  tableBase : Nat
  reservedStart : Nat
  reservedWords : Nat
  regions : List RegionRecord

structure FieldPlaces where
  numRegions : Int
  used : Int
  committed : Int
  regions : Int
  reserved : Int
  rangeStart : Int
  rangeWords : Int
  state : Int
  bottom : Int
  limit : Int
  top : Int

namespace Image

variable (image : Image)

/-- The pointer size that a process of this image goes by. -/
def wordSize : Int := if image.knowsTarget then image.pointerSize else 8

def wordOrder : ByteOrder := if image.knowsTarget then image.byteOrder else .little

/-- No read of a word is forced to fail or cut short. -/
structure Dependable : Prop where
  noError : image.readError = none
  notShort : ∀ address count, image.short.lookup address = some count → 8 ≤ count

structure Holds (width : Nat) (address : Int) (value : Nat) : Prop where
  fits : value < 2 ^ (8 * width)
  bytes : image.memory.bytesAt? address width = some (image.wordOrder.encode width value)

/-- The debug information has the fields at these places, inherited or not. -/
structure Declares (names : LayoutNames) (places : FieldPlaces) : Prop where
  numRegions : image.fieldOffset? names.heapType names.numRegionsField = some places.numRegions
  used : image.fieldOffset? names.heapType names.usedField = some places.used
  committed : image.fieldOffset? names.heapType names.committedField = some places.committed
  regions : image.fieldOffset? names.heapType names.regionsField = some places.regions
  reserved : image.fieldOffset? names.heapType names.reservedField = some places.reserved
  rangeStart :
    image.fieldOffset? names.memRegionType names.memRegionStartField = some places.rangeStart
  rangeWords :
    image.fieldOffset? names.memRegionType names.memRegionWordSizeField = some places.rangeWords
  state : image.fieldOffset? names.regionType names.regionStateField = some places.state
  bottom : image.fieldOffset? names.regionType names.regionBottomField = some places.bottom
  limit : image.fieldOffset? names.regionType names.regionEndField = some places.limit
  top : image.fieldOffset? names.regionType names.regionTopField = some places.top

/-- A word that is given, or else held at the place of a loaded symbol. -/
def Supplies (width : Nat) (given : Option Int) (symbol : String) (value : Int) : Prop :=
  match given with
  | some word => value = word
  | none => ∃ (address : Int) (word : Nat),
    image.globalAddress? symbol = some address ∧ image.Holds width address word ∧ value = word

structure HoldsRegion (width : Nat) (places : FieldPlaces) (region : RegionRecord) : Prop where
  state : image.Holds 4 (region.address + places.state) region.rawState
  bottom : image.Holds width (region.address + places.bottom) region.bottom
  limit : image.Holds width (region.address + places.limit) region.limit
  top : image.Holds width (region.address + places.top) region.top
  ordered : region.bottom ≤ region.limit

structure HoldsHeap (width : Nat) (places : FieldPlaces) (address : Int) (heap : HeapRecord) :
    Prop where
  numRegions : image.Holds width (address + places.numRegions) heap.regions.length
  used : image.Holds 8 (address + places.used) heap.used
  committed : image.Holds width (address + places.committed) heap.committed
  regions : image.Holds width (address + places.regions) heap.tableBase
  reservedStart :
    image.Holds width (address + places.reserved + places.rangeStart) heap.reservedStart
  reservedWords :
    image.Holds width (address + places.reserved + places.rangeWords) heap.reservedWords
  slot : ∀ i (h : i < heap.regions.length),
    image.Holds width (heap.tableBase + i * width) heap.regions[i].address
  object : ∀ region ∈ heap.regions, image.HoldsRegion width places region

end Image

structure View.Shows (view : View) (image : Image) (width : Nat) : Prop where
  bindings : view.host.bindings
  image_eq : view.image = image
  dependable : image.Dependable
  wordSize : image.wordSize = width
  kept : view.kept = width
  width : width = 4 ∨ width = 8

namespace View.Shows

variable {view : View} {image : Image} {width : Nat} (h : view.Shows image width)
include h

theorem yields_of_holds {count : Nat} (hc : count ≤ 8) {address : Int} {value : Nat}
    (hv : image.Holds count address value) : view.yields ⟨count, address, count⟩ = .ok value := by
  have hfits : value < 256 ^ count := by
    have := hv.fits
    rwa [Nat.pow_mul] at this
  have horder : view.byteOrder = image.wordOrder := by
    simp [View.byteOrder, Image.wordOrder, h.bindings, h.image_eq]
  have hread : image.read address count = .ok (image.wordOrder.encode count value) := by
    rw [Image.read, h.dependable.noError, Int.toNat_natCast, hv.bytes]
    dsimp only
    cases hs : image.short.lookup address with
    | none => rfl
    | some most =>
      have := h.dependable.notShort address most hs
      dsimp only
      rw [List.take_of_length_le]
      rw [ByteOrder.length_encode]
      omega
  rw [yields, if_pos h.bindings, h.image_eq, hread]
  simp [horder, ByteOrder.decode_encode _ hfits]

theorem pointerSize_eq : view.pointerSize = width := by
  rw [View.pointerSize, h.image_eq]
  exact h.wordSize

theorem pointerLoad_eq (address : Int) : view.pointerLoad address = ⟨width, address, width⟩ := by
  rw [pointerLoad, h.pointerSize_eq]
  rcases h.width with rfl | rfl <;> rfl

theorem finding_of_holds {count : Nat} (hc : count ≤ 8) {address : Int} {value : Nat}
    (hv : image.Holds count address value) (place length : Int) :
    (view.finding ⟨count, address, count⟩ place length).outcome = .ok value := by
  simp [finding, Finding.relabel, h.yields_of_holds hc hv]

theorem word {address : Int} {value : Nat} (hv : image.Holds width address value) :
    (view.word address).outcome = .ok value := by
  rw [View.word, h.pointerLoad_eq]
  exact h.finding_of_holds (by rcases h.width with rfl | rfl <;> omega) hv _ _

theorem uint32 {address : Int} {value : Nat} (hv : image.Holds 4 address value) :
    (view.uint32 address).outcome = .ok value :=
  h.finding_of_holds (by omega) hv _ _

theorem uint64 {address : Int} {value : Nat} (hv : image.Holds 8 address value) :
    (view.uint64 address).outcome = .ok value :=
  h.finding_of_holds (by omega) hv _ _

theorem element {base index : Int} {value : Nat}
    (hv : image.Holds width (base + index * width) value) :
    (view.element base index).outcome = .ok value := by
  rw [View.element, h.pointerLoad_eq, h.pointerSize_eq]
  exact h.finding_of_holds (by rcases h.width with rfl | rfl <;> omega) hv _ _

end View.Shows

end HeapProbe
