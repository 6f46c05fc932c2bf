import HeapProbe.Heap.Report
import HeapProbe.Proofs.Heap.Endings
import HeapProbe.Proofs.Heap.RoundTrip
import HeapProbe.Proofs.Settings.Fields
import Mathlib.Tactic.Lift
import Mathlib.Tactic.Tauto

/-! # What the groups of codes say

The groups of a configuration are lists, which may overlap and repeat. What they say is which codes
are left to each state once the groups that count before it have taken theirs. Configurations that
leave the same codes to every state are the same to everything that reads a heap; and where a code
that memory can hold is left to different states, one region with that code tells them apart.
-/

namespace HeapProbe

open Probe

namespace StateCodes

/-- The codes of a group that no group which counts before it has. -/
def reduced (codes : StateCodes) (state : RegionState) : List Int :=
  (codes.group state).filter fun code => RegionState.all.all fun other =>
    other.rank < state.rank → code ∉ codes.group other

theorem mem_reduced {codes : StateCodes} {code : Int} {state : RegionState} :
    code ∈ codes.reduced state ↔ codes.Assigns code state := by
  simp only [reduced, List.mem_filter, List.all_eq_true, decide_eq_true_eq]
  exact ⟨fun h => ⟨h.1, fun other => h.2 other other.mem_all⟩,
    fun h => ⟨h.mem, fun other _ => h.first other⟩⟩

/-- A code is classified alike just if it is left to the same state, or to none. -/
theorem classify_eq_iff {first second : StateCodes} {raw : Int} :
    first.classify raw = second.classify raw ↔
      ∀ state, raw ∈ first.reduced state ↔ raw ∈ second.reduced state := by
  simp only [mem_reduced, ← classify_eq_ok_iff]
  constructor
  · intro h state
    rw [h]
  · intro h
    cases hfirst : first.classify raw with
    | ok state => exact ((h state).1 hfirst).symm
    | error fault =>
      cases hsecond : second.classify raw with
      | ok state =>
        rw [(h state).2 hsecond] at hfirst
        cases hfirst
      | error fault' =>
        rw [(first.classify_eq_error_iff.1 hfirst).2, (second.classify_eq_error_iff.1 hsecond).2]

def Corresponds (first second : StateCodes) : Prop :=
  ∀ state code, code ∈ first.reduced state ↔ code ∈ second.reduced state

instance (first second : StateCodes) : Decidable (first.Corresponds second) :=
  decidable_of_iff (∀ state ∈ RegionState.all,
      (∀ code ∈ first.reduced state, code ∈ second.reduced state) ∧
        ∀ code ∈ second.reduced state, code ∈ first.reduced state)
    ⟨fun h state code => ⟨(h state state.mem_all).1 code, (h state state.mem_all).2 code⟩,
      fun h state _ => ⟨fun code => (h state code).1, fun code => (h state code).2⟩⟩

theorem Corresponds.classify_eq {first second : StateCodes} (h : first.Corresponds second)
    (raw : Int) : first.classify raw = second.classify raw :=
  classify_eq_iff.2 fun state => h state raw

/-- A configuration that passes its check leaves no negative code to any state. -/
theorem nonneg_of_mem_reduced {codes : StateCodes} (hcheck : checkCodes codes = .sound codes)
    {state : RegionState} {code : Int} (h : code ∈ codes.reduced state) : 0 ≤ code := by
  by_contra hnegative
  have hmem : code ∈ codes.codes := by
    have hgroup := (mem_reduced.1 h).mem
    simp only [StateCodes.codes, List.mem_append]
    cases state <;> simp only [group] at hgroup <;> tauto
  obtain ⟨issues, hflawed⟩ := checkCodes_of_negative fun hall => hnegative (hall code hmem)
  rw [hcheck] at hflawed
  cases hflawed

end StateCodes

def Session.withStates (session : Session) (codes : StateCodes) : Session :=
  { session with settings := { session.settings with states := codes } }

def Heap.withStates (heap : Heap) (codes : StateCodes) : Heap := ⟨heap.session.withStates codes⟩

/-- A session is resolved without regard to the states. -/
theorem Inspector.resolve_withStates (attachment : Attachment) (settings : Settings)
    (codes : StateCodes) (given : Option Int) :
    Inspector.resolve attachment { settings with states := codes } given =
      (fun session => session.withStates codes) <$>
        Inspector.resolve attachment settings given := by
  unfold Inspector.resolve
  simp only [map_bind, map_pure]
  exact bind_congr fun reader => rfl

namespace Heap

/-- The count of regions and each region are read in the same way from both heaps. -/
structure ReadsLike (heap heap' : Heap) : Prop where
  numRegions : heap.numRegions = heap'.numRegions
  regionAt : ∀ index, heap.regionAt index = heap'.regionAt index

theorem readsLike_withStates {heap : Heap} {codes : StateCodes}
    (h : ∀ raw, heap.session.settings.states.classify raw = codes.classify raw) :
    heap.ReadsLike (heap.withStates codes) := by
  have hregion (layout : RegionLayout) (index address : Int) :
      heap.decodeRegion layout index address =
        (heap.withStates codes).decodeRegion layout index address := by
    unfold decodeRegion
    simp only [h]
    rfl
  have hslot (index : Int) :
      heap.regionInSlot index = (heap.withStates codes).regionInSlot index := by
    unfold regionInSlot
    simp only [hregion]
    rfl
  refine ⟨rfl, fun index => ?_⟩
  unfold regionAt
  simp only [hslot]
  rfl

namespace ReadsLike

variable {heap heap' : Heap} (h : heap.ReadsLike heap')
include h

theorem walkFrom_eq (accept : RegionFilter) (visit : Region → Probe Unit) (index remaining : Nat) :
    heap.walkFrom accept visit index remaining = heap'.walkFrom accept visit index remaining := by
  induction remaining generalizing index with
  | zero => rfl
  | succ remaining ih =>
    unfold walkFrom
    simp only [h.regionAt, ih]

theorem walk_eq (accept : RegionFilter) (visit : Region → Probe Unit) :
    heap.walk accept visit = heap'.walk accept visit := by
  unfold walk
  simp only [h.numRegions, h.walkFrom_eq]

theorem iterate_eq (accept : RegionFilter) (visit : Region → Probe Unit) :
    heap.iterate visit accept = heap'.iterate visit accept := by
  unfold iterate
  rw [h.walk_eq]

theorem regions_eq (accept : RegionFilter) : heap.regions accept = heap'.regions accept := by
  unfold regions
  rw [h.walk_eq]

theorem countByState_eq : heap.countByState = heap'.countByState := by
  unfold countByState
  rw [h.regions_eq]

theorem regionTable_eq (heapName : String) (accept : RegionFilter) :
    Reporter.regionTable ⟨heap, heapName⟩ accept =
      Reporter.regionTable ⟨heap', heapName⟩ accept := by
  unfold Reporter.regionTable
  simp only [h.regions_eq]

end ReadsLike

end Heap

theorem Region.ofWords_eq_iff {first second : StateCodes}
    {index address rawState bottom limit top : Int} (hle : bottom ≤ limit) :
    ofWords first index address rawState bottom limit top =
        ofWords second index address rawState bottom limit top ↔
      first.classify rawState = second.classify rawState := by
  unfold ofWords
  rw [if_pos hle, if_pos hle]
  cases first.classify rawState <;> cases second.classify rawState <;> simp

def oneRegionImage (code : Nat) : Image where
  memory := ⟨[.write 0x5000 (ByteOrder.little.encode 8 0x1000),
    .write 0x5008 (ByteOrder.little.encode 8 0x10000),
    .write 0x1010 (ByteOrder.little.encode 8 0x10000 ++ ByteOrder.little.encode 8 0x2000),
    .write 0x1100 (ByteOrder.little.encode 8 1 ++ ByteOrder.little.encode 8 0x8000 ++
      ByteOrder.little.encode 8 0x10000 ++ ByteOrder.little.encode 8 0x200),
    .write 0x200 (ByteOrder.little.encode 8 0x300),
    .write 0x308 (ByteOrder.little.encode 8 0x10000 ++ ByteOrder.little.encode 8 0x20000 ++
      ByteOrder.little.encode 8 0x18000),
    .write 0x340 (ByteOrder.little.encode 4 code)]⟩

def oneRegionRecord (code : Nat) : HeapRecord :=
  ⟨0x8000, 0x10000, 0x200, 0x10000, 0x2000, [⟨0x300, code, 0x10000, 0x20000, 0x18000⟩]⟩

def standardPlaces : FieldPlaces := ⟨256, 264, 272, 280, 16, 0, 8, 64, 8, 16, 24⟩

theorem oneRegionImage_holds {code : Nat} (hcode : code < 0x100000000) :
    (oneRegionImage code).HoldsHeap 8 standardPlaces 0x1000 (oneRegionRecord code) := by
  have hstate : (oneRegionImage code).Holds 4 0x340 code := ⟨by omega, rfl⟩
  have hbottom : (oneRegionImage code).Holds 8 0x308 0x10000 := ⟨by decide, rfl⟩
  have hlimit : (oneRegionImage code).Holds 8 0x310 0x20000 := ⟨by decide, rfl⟩
  have htop : (oneRegionImage code).Holds 8 0x318 0x18000 := ⟨by decide, rfl⟩
  have hregion : (oneRegionImage code).HoldsRegion 8 standardPlaces
      ⟨0x300, code, 0x10000, 0x20000, 0x18000⟩ := ⟨hstate, hbottom, hlimit, htop,
    (by decide : 0x10000 ≤ 0x20000)⟩
  have hcount : (oneRegionImage code).Holds 8 0x1100 1 := ⟨by decide, rfl⟩
  have hused : (oneRegionImage code).Holds 8 0x1108 0x8000 := ⟨by decide, rfl⟩
  have hcommitted : (oneRegionImage code).Holds 8 0x1110 0x10000 := ⟨by decide, rfl⟩
  have htable : (oneRegionImage code).Holds 8 0x1118 0x200 := ⟨by decide, rfl⟩
  have hstart : (oneRegionImage code).Holds 8 0x1010 0x10000 := ⟨by decide, rfl⟩
  have hwords : (oneRegionImage code).Holds 8 0x1018 0x2000 := ⟨by decide, rfl⟩
  have hslot : (oneRegionImage code).Holds 8 0x200 0x300 := ⟨by decide, rfl⟩
  refine ⟨hcount, hused, hcommitted, htable, hstart, hwords, fun i h => ?_,
    List.forall_mem_singleton.2 hregion⟩
  obtain rfl : i = 0 := Nat.lt_one_iff.1 h
  exact hslot

def Image.openUnder (image : Image) (codes : StateCodes) : EStateM.Result Fault Context Session :=
  Inspector.resolve ⟨⟨some 0⟩, ⟨0, ⟨some 0⟩⟩, false⟩ { states := codes } none
    { host := { images := [image] } }

/-- Whatever the states are, a session can be resolved on the image, and its one region is what the
code makes of it. -/
theorem regionAt_of_oneRegion (codes : StateCodes) {code : Nat} (hcode : code < 0x100000000) :
    ∃ session context,
      (oneRegionImage code).openUnder codes = .ok session context ∧
      outcome (Heap.numRegions ⟨session⟩) context = .ok 1 ∧
      outcome (Heap.regionAt ⟨session⟩ 0) context =
        Region.ofWords codes 0 0x300 code 0x10000 0x20000 0x18000 := by
  let attachment : Attachment := ⟨⟨some 0⟩, ⟨0, ⟨some 0⟩⟩, false⟩
  let settings : Settings := { states := codes }
  let context : Context := { host := { images := [oneRegionImage code] } }
  have hdependable : (oneRegionImage code).Dependable := ⟨rfl, nofun⟩
  have hplaces : (oneRegionImage code).Declares settings.layout standardPlaces :=
    ⟨rfl, rfl, rfl, rfl, rfl, rfl, rfl, rfl, rfl, rfl, rfl⟩
  have haddress : (oneRegionImage code).Supplies 8 none settings.layout.heapSymbol 0x1000 :=
    ⟨0x5000, 0x1000, rfl, ⟨by decide, rfl⟩, rfl⟩
  have hsize : (oneRegionImage code).Supplies 8 settings.layout.regionSizeBytes
      settings.layout.regionSizeSymbol 0x10000 := ⟨0x5008, 0x10000, rfl, ⟨by decide, rfl⟩, rfl⟩
  obtain ⟨session, resolved, hresolve, hhost, hreader, hsettings, hphase⟩ :=
    @resolve_of_holds attachment (oneRegionImage code) 0 8 standardPlaces 0x1000 0x10000 rfl rfl
      hdependable rfl (.inr rfl) settings none hplaces haddress hsize context rfl rfl
  have hs : View.Shows ⟨attachment.inferior, 8, resolved.host⟩ (oneRegionImage code) 8 := by
    rw [hhost]
    exact shows_of_image rfl hdependable rfl (.inr rfl) rfl rfl
  have hheld := oneRegionImage_holds hcode
  have hsees : Heap.Sees ⟨session⟩ (resolved.scene session.id)
      ⟨attachment.inferior, 8, resolved.host⟩ (standardPlaces.resolution 0x1000 0x10000) :=
    .of_phase hreader hphase
  refine ⟨session, resolved, hresolve, (gives_readAt hsees hs hheld.numRegions).outcome_eq rfl, ?_⟩
  rw [(hsees.finds_regionAt 0).outcome_eq rfl, hsettings]
  exact region_of_heap hs hheld 0 Nat.one_pos

theorem regionAt_tells_apart {first second : StateCodes} {state : RegionState} {code : Nat}
    (hcode : code < 0x100000000)
    (h : ¬ ((code : Int) ∈ first.reduced state ↔ (code : Int) ∈ second.reduced state)) :
    ∃ (image : Image) (session session' : Session) (context context' : Context),
      image.openUnder first = .ok session context ∧
      image.openUnder second = .ok session' context' ∧
      outcome (Heap.numRegions ⟨session⟩) context = .ok 1 ∧
      outcome (Heap.numRegions ⟨session'⟩) context' = .ok 1 ∧
      outcome (Heap.regionAt ⟨session⟩ 0) context ≠
        outcome (Heap.regionAt ⟨session'⟩ 0) context' := by
  obtain ⟨session, context, hresolve, hcount, hregion⟩ := regionAt_of_oneRegion first hcode
  obtain ⟨session', context', hresolve', hcount', hregion'⟩ := regionAt_of_oneRegion second hcode
  refine ⟨oneRegionImage code, session, session', context, context', hresolve, hresolve', hcount,
    hcount', ?_⟩
  rw [hregion, hregion', ne_eq, Region.ofWords_eq_iff (by decide), StateCodes.classify_eq_iff]
  exact fun hall => h (hall state)

/-- **Groups act as sets in an order.** Under configurations that leave the same codes to every
state, sessions are opened alike, and whatever is read from the heap is the same: each is one and
the same probe, with the same results, faults, calls and records over every image. And where
configurations leave a code below 2 to the 32 to different states, there is an image with one region
that is decoded differently. -/
theorem StateCodes.groups_act_as_sets (first second : StateCodes) :
    (first.Corresponds second →
      (∀ raw, first.classify raw = second.classify raw) ∧
      (∀ attachment (settings : Settings) given,
        Inspector.resolve attachment { settings with states := second } given =
          (fun session => session.withStates second) <$>
            Inspector.resolve attachment { settings with states := first } given) ∧
      ∀ heap : Heap, heap.session.settings.states = first →
        let twin := heap.withStates second
        (∀ index, heap.regionAt index = twin.regionAt index) ∧
        (∀ accept visit, heap.walk accept visit = twin.walk accept visit ∧
          heap.iterate visit accept = twin.iterate visit accept) ∧
        (∀ accept, heap.regions accept = twin.regions accept) ∧
        heap.countByState = twin.countByState ∧
        ∀ heapName accept, Reporter.regionTable ⟨heap, heapName⟩ accept =
          Reporter.regionTable ⟨twin, heapName⟩ accept) ∧
    (checkCodes first = .sound first → checkCodes second = .sound second →
      ∀ state, ∀ code < 0x100000000, ¬ (code ∈ first.reduced state ↔ code ∈ second.reduced state) →
        ∃ (image : Image) (session session' : Session) (context context' : Context),
          image.openUnder first = .ok session context ∧
          image.openUnder second = .ok session' context' ∧
          outcome (Heap.numRegions ⟨session⟩) context = .ok 1 ∧
          outcome (Heap.numRegions ⟨session'⟩) context' = .ok 1 ∧
          outcome (Heap.regionAt ⟨session⟩ 0) context ≠
            outcome (Heap.regionAt ⟨session'⟩ 0) context') := by
  constructor
  · intro h
    refine ⟨h.classify_eq, fun attachment settings given =>
      Inspector.resolve_withStates attachment { settings with states := first } second given, ?_⟩
    rintro heap rfl
    have hlike := Heap.readsLike_withStates h.classify_eq
    exact ⟨hlike.regionAt, fun accept visit => ⟨hlike.walk_eq accept visit,
      hlike.iterate_eq accept visit⟩, hlike.regions_eq, hlike.countByState_eq, hlike.regionTable_eq⟩
  · intro hfirst hsecond state code hcode hdiffers
    have hnonneg : 0 ≤ code := by
      by_cases hmem : code ∈ first.reduced state
      · exact nonneg_of_mem_reduced hfirst hmem
      · have hmem' : code ∈ second.reduced state := by tauto
        exact nonneg_of_mem_reduced hsecond hmem'
    lift code to Nat using hnonneg
    exact regionAt_tells_apart (by omega) hdiffers

/-- The default groups in another order, with repetitions and with codes that count before. -/
def repeatedCodes : StateCodes where
  trash := [9, 9]
  empty := [1, 9, 0]
  live := [8, 7, 6, 5, 4, 3, 2, 0]

/-- The default groups read like these; without that of the uncommitted regions, zero comes to stand
for an empty one. -/
theorem groups_act_as_sets_repeated :
    (∀ accept, tornHeap.regions accept = (tornHeap.withStates repeatedCodes).regions accept) ∧
    ∃ (image : Image) (session session' : Session) (context context' : Context),
      image.openUnder {} = .ok session context ∧
      image.openUnder { uncommitted := [] } = .ok session' context' ∧
      outcome (Heap.regionAt ⟨session⟩ 0) context ≠
        outcome (Heap.regionAt ⟨session'⟩ 0) context' := by
  obtain ⟨-, -, hsame⟩ := (StateCodes.groups_act_as_sets {} repeatedCodes).1 (by decide)
  obtain ⟨-, -, hregions, -⟩ := hsame tornHeap rfl
  obtain ⟨image, session, session', context, context', hresolve, hresolve', -, -, hdiffers⟩ :=
    (StateCodes.groups_act_as_sets {} { uncommitted := [] }).2 rfl rfl .empty 0 (by decide)
      (by decide)
  exact ⟨hregions, image, session, session', context, context', hresolve, hresolve', hdiffers⟩

end HeapProbe
