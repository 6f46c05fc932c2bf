import HeapProbe.Proofs.Heap.Listing
import HeapProbe.Proofs.Heap.RoundTrip
import Mathlib.Tactic.Choose

/-! # Heaps that are tiled by their regions

Whether the heap contains an address is decided without the region table, from the start of the
reserved range, the count of regions and their size. Where the regions lie side by side from that
start on, each of that size, the answer is the one that a search of the table would give, and the
quotient of the distance to the start by the size is the index of the region.
-/

namespace HeapProbe

open Probe

def Region.Covers (region : Region) (address : Int) : Prop :=
  region.bottom ≤ address ∧ address < region.limit

instance (region : Region) (address : Int) : Decidable (region.Covers address) :=
  inferInstanceAs (Decidable (_ ∧ _))

/-- The regions lie side by side from an address on, each of one size. -/
def Tiles (start size : Int) (regions : List Region) : Prop :=
  ∀ i (h : i < regions.length),
    regions[i].bottom = start + i * size ∧ regions[i].limit = regions[i].bottom + size

namespace Tiles

variable {start size address : Int} {regions : List Region}

theorem tail {region : Region} (h : Tiles start size (region :: regions)) :
    Tiles (start + size) size regions := by
  intro i hi
  obtain ⟨hbottom, hlimit⟩ := h (i + 1) (by simpa using hi)
  rw [List.getElem_cons_succ] at hbottom hlimit
  refine ⟨?_, hlimit⟩
  rw [hbottom, Int.natCast_add, Int.natCast_one, Int.add_mul]
  omega

theorem sum_sizeBytes (h : Tiles start size regions) :
    (regions.map Region.sizeBytes).sum = regions.length * size := by
  induction regions generalizing start with
  | nil => simp
  | cons region regions ih =>
    have hfirst : region.sizeBytes = size := by
      have hlimit := (h 0 (by simp)).2
      rw [List.getElem_cons_zero] at hlimit
      rw [Region.sizeBytes, hlimit]
      omega
    rw [List.map_cons, List.sum_cons, ih h.tail, hfirst, List.length_cons, Int.natCast_add,
      Int.natCast_one, Int.add_mul]
    omega

/-- The regions cover what lies in the span, both seams and ends included. -/
theorem exists_covers_iff (h : Tiles start size regions) (hsize : 0 < size) :
    (∃ region ∈ regions, region.Covers address) ↔
      start ≤ address ∧ address < start + regions.length * size := by
  induction regions generalizing start with
  | nil => simp
  | cons region regions ih =>
    obtain ⟨hbottom, hlimit⟩ := h 0 (by simp)
    rw [List.getElem_cons_zero] at hbottom hlimit
    have hspan : 0 ≤ (regions.length : Int) * size :=
      Int.mul_nonneg (Int.natCast_nonneg _) (Int.le_of_lt hsize)
    simp only [List.mem_cons, or_and_right, exists_or, exists_eq_left]
    rw [ih h.tail, Region.Covers, hlimit, hbottom, List.length_cons, Int.natCast_add,
      Int.natCast_one, Int.add_mul]
    omega

/-- A region that covers an address stands where the quotient says. -/
theorem position_of_covers (h : Tiles start size regions) {i : Nat} (hi : i < regions.length)
    (hcovers : regions[i].Covers address) : (i : Int) = (address - start) / size := by
  obtain ⟨hbottom, hlimit⟩ := h i hi
  obtain ⟨hlow, hhigh⟩ := hcovers
  rw [hlimit, hbottom] at hhigh
  rw [hbottom] at hlow
  have hsize : 0 < size := by omega
  apply Int.le_antisymm
  · rw [Int.le_ediv_iff_mul_le hsize]
    omega
  · rw [← Int.lt_add_one_iff, Int.ediv_lt_iff_lt_mul hsize, Int.add_mul]
    omega

end Tiles

section Contains

variable {heap : Heap} {scene : Scene} {view : View} {resolution : Resolution}

theorem gives_contains {start limit capacity : Int}
    (hrange : heap.reservedRange.Gives scene (start, limit))
    (hcapacity : heap.capacity.Gives scene capacity) (address : Int) :
    (heap.contains address).Gives scene
      (decide (start ≤ address ∧ address < start + capacity)) := by
  unfold Heap.contains
  refine hrange.bind ?_
  dsimp only
  split
  · next hle =>
    simp only [hle, true_and]
    exact hcapacity.bind (.pure (decide (address < start + capacity)))
  · next hle =>
    simp only [hle, false_and]
    exact .pure false

theorem start_of_reservedRange {context : Context} {range : Int × Int}
    (h : outcome heap.reservedRange context = .ok range) :
    outcome (heap.readAt HeapLayout.reservedStart) context = .ok range.1 := by
  obtain ⟨start, hstart, hnext⟩ := exists_of_outcome_bind h
  obtain ⟨words, -, hpure⟩ := exists_of_outcome_bind hnext
  cases hpure
  exact hstart

theorem Heap.Sees.finds_reservedRange (h : heap.Sees scene view resolution) :
    heap.reservedRange.Finds scene
      ((view.heapWord resolution HeapLayout.reservedStart).andThen fun start =>
        (view.heapWord resolution HeapLayout.reservedWordSize).andThen fun words =>
          ⟨.ok (start, start + words * heap.session.reader.pointerSize), [], []⟩) :=
  (h.finds_readAt _).bind fun _ _ => (h.finds_readAt _).bind fun _ _ => .pure _

variable {context : Context}

/-- Where every index decodes to a tile, the table has the tiles. -/
theorem Heap.Sees.exists_tiled (h : heap.Sees scene view resolution)
    (hscene : context.scene scene.session = scene) {count start size : Int}
    (hcount : outcome heap.numRegions context = .ok count)
    (htiles : ∀ i : Int, 0 ≤ i → i < count → ∃ region,
      outcome (heap.regionAt i) context = .ok region ∧
      region.bottom = start + i * size ∧ region.limit = region.bottom + size) :
    ∃ regions : List Region, (regions.length : Int) = count ∧ Tiles start size regions ∧
      outcome (heap.regions .everything) context = .ok regions ∧
      ∀ i (hi : i < regions.length), regions[i].index = i := by
  obtain ⟨hcount0, -⟩ := view.isWord_of_heapWord resolution
    ((h.finds_numRegions.outcome_eq hscene).symm.trans hcount)
  obtain ⟨n, rfl⟩ := Int.eq_ofNat_of_zero_le hcount0
  choose decoded hdecoded hbottom hlimit using fun i : Fin n =>
    htiles i (Int.natCast_nonneg _) (Int.ofNat_lt.2 i.isLt)
  have hlength : (List.ofFn decoded).length = n := List.length_ofFn
  have hregions (i : Nat) (hi : i < (List.ofFn decoded).length) :
      outcome (heap.regionAt i) context = .ok (List.ofFn decoded)[i] := by
    rw [List.getElem_ofFn]
    exact hdecoded ⟨i, hlength ▸ hi⟩
  refine ⟨List.ofFn decoded, congrArg _ hlength, fun i hi => ?_, ?_, fun i hi => ?_⟩
  · rw [List.getElem_ofFn]
    exact ⟨hbottom _, hlimit _⟩
  · exact h.regions_of_decoded hscene (by rw [hlength]; exact hcount) hregions
  · exact heap.regionAt_yields_index _ _ _ (hregions i hi)

theorem gives_capacity (h : heap.Sees scene view resolution)
    (hscene : context.scene scene.session = scene) {count size : Int}
    (hcount : outcome heap.numRegions context = .ok count)
    (hsize : outcome heap.regionSizeBytes context = .ok size) :
    heap.capacity.Gives scene (count * size) := by
  have hcounted : heap.numRegions.Gives scene count :=
    .of_finds h.finds_numRegions ((h.finds_numRegions.outcome_eq hscene).symm.trans hcount)
  have hfinds := h.finds_resolution.bind fun resolution _ => .pure resolution.regionSizeBytes
  have hsized : heap.regionSizeBytes.Gives scene size :=
    .of_finds hfinds ((hfinds.outcome_eq hscene).symm.trans hsize)
  exact hcounted.bind (hsized.bind (.pure _))

end Contains

/-- **The span of the heap is what its regions cover.** On a resolved session whose regions all
decode and lie side by side from the start of the reserved range: the heap contains just the
addresses that one of its regions covers, the covering region is the only one and its index is the
quotient, and the capacity is the sum of the sizes. Only if the reserved range cannot be read is
there no answer. -/
theorem Heap.contains_iff_covered {heap : Heap} {inferior : Inferior} {kept : Int}
    (hreader : heap.session.reader = inferior.readerOfSize kept) {context : Context}
    {resolution : Resolution} (hphase : context.phase heap.session.id = .resolved resolution)
    {count start size : Int} (hcount : outcome heap.numRegions context = .ok count)
    (hstart : outcome (heap.readAt HeapLayout.reservedStart) context = .ok start)
    (hsize : outcome heap.regionSizeBytes context = .ok size) (hpositive : 0 < size)
    (htiles : ∀ i : Int, 0 ≤ i → i < count → ∃ region,
      outcome (heap.regionAt i) context = .ok region ∧
      region.bottom = start + i * size ∧ region.limit = region.bottom + size) :
    ∃ regions, outcome (heap.regions .everything) context = .ok regions ∧
      outcome heap.capacity context = .ok (regions.map Region.sizeBytes).sum ∧
      ∀ address,
        (∀ fault, outcome heap.reservedRange context = .error fault →
          outcome (heap.contains address) context = .error fault) ∧
        (∀ range, outcome heap.reservedRange context = .ok range →
          outcome (heap.contains address) context =
            .ok (decide (∃ region ∈ regions, region.Covers address))) ∧
        ∀ region ∈ regions, region.Covers address →
          region.index = (address - start) / size ∧
          ∀ other ∈ regions, other.Covers address → other = region := by
  have hsees := Heap.Sees.of_phase hreader hphase
  have hscene : context.scene heap.session.id = context.scene heap.session.id := rfl
  obtain ⟨regions, rfl, htiled, hregions, hindex⟩ := hsees.exists_tiled hscene hcount htiles
  have hcapacity := gives_capacity hsees hscene hcount hsize
  refine ⟨regions, hregions, ?_, fun address => ⟨fun fault hfault => ?_, fun range hrange => ?_, ?_⟩⟩
  · rw [htiled.sum_sizeBytes]
    exact hcapacity.outcome_eq hscene
  · unfold contains
    rw [outcome_bind, hfault]
  · obtain ⟨first, limit⟩ := range
    obtain rfl : start = first :=
      Except.ok.inj (hstart.symm.trans (start_of_reservedRange hrange))
    have hranged : heap.reservedRange.Gives (context.scene heap.session.id) (start, limit) :=
      .of_finds hsees.finds_reservedRange
        ((hsees.finds_reservedRange.outcome_eq hscene).symm.trans hrange)
    rw [(gives_contains hranged hcapacity address).outcome_eq hscene]
    simp only [htiled.exists_covers_iff hpositive]
  · intro region hregion hcovers
    obtain ⟨i, hi, rfl⟩ := List.mem_iff_getElem.1 hregion
    have hquotient := htiled.position_of_covers hi hcovers
    refine ⟨(hindex i hi).trans hquotient, fun other hother hcovers' => ?_⟩
    obtain ⟨j, hj, rfl⟩ := List.mem_iff_getElem.1 hother
    obtain rfl : j = i :=
      Int.ofNat.inj ((htiled.position_of_covers hj hcovers').trans hquotient.symm)
    rfl

/-- The last address below the end of two tiles lies in the second, and the end itself in none. -/
theorem contains_of_tiled :
    outcome (tornHeap.contains 0x2ffff) tiledContext = .ok true ∧
      outcome (tornHeap.contains 0x30000) tiledContext = .ok false := by
  have htiles (i : Int) (h0 : 0 ≤ i) (hi : i < 2) : ∃ region,
      outcome (tornHeap.regionAt i) tiledContext = .ok region ∧
      region.bottom = 0x10000 + i * 0x10000 ∧ region.limit = region.bottom + 0x10000 := by
    obtain rfl | rfl : i = 0 ∨ i = 1 := by omega
    · exact ⟨_, regionAt_of_tiled 0 (by decide), by decide, by decide⟩
    · exact ⟨_, regionAt_of_tiled 1 (by decide), by decide, by decide⟩
  obtain ⟨regions, hregions, -, hanswer⟩ := @Heap.contains_iff_covered tornHeap ⟨0, ⟨some 0⟩⟩ 8 rfl
    tiledContext _ rfl 2 0x10000 0x10000 rfl rfl rfl (by decide) htiles
  have hsees := @Heap.Sees.of_phase tornHeap _ ⟨0, ⟨some 0⟩⟩ 8 tiledContext rfl rfl
  cases hregions.symm.trans (hsees.regions_of_decoded rfl rfl regionAt_of_tiled)
  have hrange : outcome tornHeap.reservedRange tiledContext = .ok (0x10000, 0x30000) := rfl
  rw [(hanswer 0x2ffff).2.1 _ hrange, (hanswer 0x30000).2.1 _ hrange]
  exact ⟨rfl, rfl⟩

end HeapProbe
