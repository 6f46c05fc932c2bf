import HeapProbe.Heap.Report
import HeapProbe.Proofs.Heap.Endings

/-! # The bounds of regions

A region lies between its bottom and its limit, and its top should lie there too. Decoding compares
the first two and no others: whatever is handed out, to a walk's visitor or in a list, has a size
that is not negative. The top is passed on as it was read. So a region whose top is out of bounds is
handed out like any other, with a use that is negative or larger than the region.
-/

namespace HeapProbe

open Probe

namespace Region

variable {region : Region}

structure Bounded (region : Region) : Prop where
  bottom_le_top : region.bottom ≤ region.top
  top_le_limit : region.top ≤ region.limit

theorem bounded_iff_usedBytes :
    region.Bounded ↔ 0 ≤ region.usedBytes ∧ region.usedBytes ≤ region.sizeBytes := by
  unfold usedBytes sizeBytes
  constructor
  · rintro ⟨hbottom, hlimit⟩
    omega
  · rintro ⟨hused, hsize⟩
    exact ⟨by omega, by omega⟩

theorem not_bounded_iff :
    ¬ region.Bounded ↔ region.top < region.bottom ∨ region.limit < region.top := by
  rw [bounded_iff_usedBytes]
  unfold usedBytes sizeBytes
  omega

theorem sizeBytes_nonneg_iff : 0 ≤ region.sizeBytes ↔ region.bottom ≤ region.limit := by
  unfold sizeBytes
  omega

end Region

namespace Heap

variable {heap : Heap}

section Decoding

variable (heap)

/-- Through whatever reader, a decoded region has its bottom and its limit in order. -/
theorem decodeRegion_yields_ordered (layout : RegionLayout) (index address : Int) :
    Yields (heap.decodeRegion layout index address) fun region => region.bottom ≤ region.limit := by
  refine .next fun rawState => .next fun bottom => .next fun limit => .next fun top => ?_
  exact Yields.require.bind fun _ hle => .next fun _ => .pure hle

theorem regionAt_yields_ordered (index : Int) :
    Yields (heap.regionAt index) fun region => region.bottom ≤ region.limit := by
  have hslot : Yields (heap.regionInSlot index) fun region => region.bottom ≤ region.limit :=
    .next fun resolution => .next fun _ => .next fun _ =>
      heap.decodeRegion_yields_ordered resolution.regionLayout index _
  exact .next fun _ => .next fun _ => .next fun _ => hslot

end Decoding

section Walks

variable {kind : Region → Prop} (hregion : ∀ index, Yields (heap.regionAt index) kind)
include hregion

/-- What every decoded region is like, every visited one is, whatever the visitor does. -/
theorem walkFrom_yields (accept : RegionFilter) (visit : Region → Probe Unit)
    (index remaining : Nat) :
    Yields (heap.walkFrom accept visit index remaining) fun walk =>
      ∀ region ∈ walk.visited, kind region := by
  induction remaining generalizing index with
  | zero => exact .pure (by simp)
  | succ remaining ih =>
    refine (hregion index).attempt.bind fun decoded hdecoded => ?_
    cases decoded with
    | error fault => exact .next fun _ => .pure (by simp)
    | ok region =>
      have hkind : kind region := hdecoded region rfl
      dsimp only
      by_cases ha : accept region.state
      · rw [if_pos ha]
        refine .next fun visited => ?_
        cases visited with
        -- The region has been handed out even if the visitor then failed on it.
        | error fault => exact .pure (by simpa using hkind)
        | ok _ =>
          refine (ih (index + 1)).bind fun rest hrest => .pure ?_
          exact List.forall_mem_cons.2 ⟨hkind, hrest⟩
      · rw [if_neg ha]
        exact ih (index + 1)

theorem walk_yields (accept : RegionFilter) (visit : Region → Probe Unit) :
    Yields (heap.walk accept visit) fun walk => ∀ region ∈ walk.visited, kind region := by
  refine .next fun counted => ?_
  cases counted with
  | error fault => exact .pure (by simp)
  | ok count =>
    refine .next fun _ => (walkFrom_yields hregion accept visit 0 count.toNat).bind ?_
    exact fun walk hwalk => .next fun _ => .pure hwalk

theorem regions_yields (accept : RegionFilter) :
    Yields (heap.regions accept) fun regions => ∀ region ∈ regions, kind region :=
  (walk_yields hregion accept _).bind fun _ hwalk => .next fun _ => .pure hwalk

theorem regionTable_yields (heapName : String) (accept : RegionFilter) :
    Yields (Reporter.regionTable { heap, heapName } accept) fun table =>
      ∃ regions : List Region, table.rows = regions.map RegionTable.row ∧
        ∀ region ∈ regions, kind region :=
  (regions_yields hregion accept).bind fun regions hkind => .pure ⟨regions, rfl, hkind⟩

end Walks

end Heap

namespace View

variable {view : View} {resolution : Resolution} {codes : StateCodes} {index : Int}

/-- The words from which decoding makes up a region with this top. -/
structure Passes (view : View) (resolution : Resolution) (codes : StateCodes) (index : Int)
    (bottom limit top : Int) : Prop where
  index_nonneg : 0 ≤ index
  words : ∃ count base address rawState state, index < count ∧ codes.Assigns rawState state ∧
    view.ReadsAs (view.regionReadings resolution index)
      [count, base, address, rawState, bottom, limit, top]
  ordered : bottom ≤ limit

theorem region_outcome_iff {bottom limit top : Int} :
    (∃ region, (view.region resolution codes index).outcome = .ok region ∧
      region.bottom = bottom ∧ region.limit = limit ∧ region.top = top) ↔
        view.Passes resolution codes index bottom limit top := by
  constructor
  · rintro ⟨region, hregion, rfl, rfl, rfl⟩
    obtain ⟨readings, ending, hends⟩ := @exists_regionEnds view resolution codes index
    rw [hends.region_eq] at hregion
    cases hregion
    cases hends with
    | decoded hindex hwords hrange hbounds hcode =>
      exact ⟨hindex, ⟨_, _, _, _, _, hrange, hcode, hwords⟩, hbounds⟩
  · rintro ⟨hindex, ⟨count, base, address, rawState, state, hrange, hcode, hwords⟩, hbounds⟩
    have hends : view.RegionEnds resolution codes index _ _ :=
      .decoded hindex hwords hrange hbounds hcode
    rw [hends.region_eq]
    exact ⟨_, rfl, rfl, rfl, rfl⟩

end View

/-- **The top goes unchecked.** On a resolved session, over any image: every region that is decoded,
visited by a walk or put into a table has its bottom and its limit in order, and inverted ones are
refused as inconsistent whatever else they hold. About the top nothing is known. A region is handed
out just if its words pass, with the top that was read, wherever it lies; and it has a use that is
negative or larger than its size just if the top is out of bounds. -/
theorem Heap.regions_ordered_not_bounded {heap : Heap} {inferior : Inferior} {kept : Int}
    (hreader : heap.session.reader = inferior.readerOfSize kept) {context : Context}
    {resolution : Resolution} (hphase : context.phase heap.session.id = .resolved resolution) :
    let view : View := ⟨inferior, kept, context.host⟩
    let codes := heap.session.settings.states
    (∀ index region, outcome (heap.regionAt index) context = .ok region → 0 ≤ region.sizeBytes) ∧
    (∀ accept visit walk, outcome (heap.walk accept visit) context = .ok walk →
      ∀ region ∈ walk.visited, 0 ≤ region.sizeBytes) ∧
    (∀ heapName accept table,
      outcome (Reporter.regionTable { heap, heapName } accept) context = .ok table →
      ∃ regions : List Region, table.rows = regions.map RegionTable.row ∧
        ∀ region ∈ regions, 0 ≤ region.sizeBytes ∧
          (region.Bounded ↔ 0 ≤ region.usedBytes ∧ region.usedBytes ≤ region.sizeBytes)) ∧
    (∀ index count base address rawState bottom limit top,
      view.ReadsAs (view.regionReadings resolution index)
        [count, base, address, rawState, bottom, limit, top] → 0 ≤ index → index < count →
      limit < bottom →
      outcome (heap.regionAt index) context =
        .error (.inconsistent (.invertedRegion index limit bottom))) ∧
    (∀ index bottom limit top, (∃ region, outcome (heap.regionAt index) context = .ok region ∧
        region.bottom = bottom ∧ region.limit = limit ∧ region.top = top) ↔
      view.Passes resolution codes index bottom limit top) ∧
    (∀ index, (∃ region, outcome (heap.regionAt index) context = .ok region ∧ ¬ region.Bounded) ↔
      ∃ bottom limit top, view.Passes resolution codes index bottom limit top ∧
        (top < bottom ∨ limit < top)) := by
  intro view codes
  have hordered (index : Int) :
      Yields (heap.regionAt index) fun region => 0 ≤ region.sizeBytes := by
    simpa only [Region.sizeBytes_nonneg_iff] using heap.regionAt_yields_ordered index
  have hfinds (index : Int) : outcome (heap.regionAt index) context =
      (view.region resolution codes index).outcome :=
    ((Heap.Sees.of_phase hreader hphase).finds_regionAt index).outcome_eq rfl
  have hpasses (index bottom limit top : Int) :
      (∃ region, outcome (heap.regionAt index) context = .ok region ∧
        region.bottom = bottom ∧ region.limit = limit ∧ region.top = top) ↔
        view.Passes resolution codes index bottom limit top := by
    rw [hfinds]
    exact View.region_outcome_iff
  refine ⟨fun index => hordered index context, fun accept visit =>
    Heap.walk_yields hordered accept visit context, ?_, ?_, hpasses, ?_⟩
  · intro heapName accept table htable
    obtain ⟨regions, hrows, hsizes⟩ :=
      Heap.regionTable_yields hordered heapName accept context table htable
    exact ⟨regions, hrows, fun region hr => ⟨hsizes region hr, Region.bounded_iff_usedBytes⟩⟩
  · intro index count base address rawState bottom limit top hwords hindex hrange hbounds
    have hends : view.RegionEnds resolution codes index _ _ :=
      .inverted hindex hwords hrange hbounds
    rw [hfinds, hends.region_eq]
  · intro index
    constructor
    · rintro ⟨region, hregion, hbounds⟩
      exact ⟨_, _, _, (hpasses index _ _ _).1 ⟨region, hregion, rfl, rfl, rfl⟩,
        Region.not_bounded_iff.1 hbounds⟩
    · rintro ⟨bottom, limit, top, hwords, hbounds⟩
      obtain ⟨region, hregion, rfl, rfl, rfl⟩ := (hpasses index _ _ _).2 hwords
      exact ⟨region, hregion, Region.not_bounded_iff.2 hbounds⟩

/-- The context of a heap with two regions, the first with its top above its limit and the second
with its top below its bottom. -/
def unboundedContext : Context :=
  { tornContext with
    host := { images := [{ memory := ⟨[.write 0x1100 (ByteOrder.little.encode 8 2),
      .write 0x1118 (ByteOrder.little.encode 8 0x2000),
      .write 0x2000 (ByteOrder.little.encode 8 0x3000 ++ ByteOrder.little.encode 8 0x4000),
      .write 0x3008 (ByteOrder.little.encode 8 0x10000 ++ ByteOrder.little.encode 8 0x20000 ++
        ByteOrder.little.encode 8 0x28000),
      .write 0x3040 (ByteOrder.little.encode 4 2),
      .write 0x4008 (ByteOrder.little.encode 8 0x20000 ++ ByteOrder.little.encode 8 0x30000 ++
        ByteOrder.little.encode 8 0x1f000),
      .write 0x4040 (ByteOrder.little.encode 4 2)]⟩ }] } }

/-- The words of both pass, and so both are handed out as they are. -/
theorem regions_ordered_not_bounded_unbounded :
    (∃ region, outcome (tornHeap.regionAt 0) unboundedContext = .ok region ∧ ¬ region.Bounded) ∧
      ∃ region, outcome (tornHeap.regionAt 1) unboundedContext = .ok region ∧ ¬ region.Bounded := by
  obtain ⟨-, -, -, -, -, hunbounded⟩ := @Heap.regions_ordered_not_bounded tornHeap ⟨0, ⟨some 0⟩⟩ 8
    rfl unboundedContext _ rfl
  have hlive : tornHeap.session.settings.states.Assigns 2 .live :=
    (StateCodes.classify_eq_ok_iff _).1 rfl
  constructor
  · apply (hunbounded 0).2
    exact ⟨0x10000, 0x20000, 0x28000,
      ⟨by decide, ⟨2, 0x2000, 0x3000, 2, .live, by decide, hlive, rfl⟩, by decide⟩,
      .inr (by decide)⟩
  · apply (hunbounded 1).2
    exact ⟨0x20000, 0x30000, 0x1f000,
      ⟨by decide, ⟨2, 0x2000, 0x4000, 2, .live, by decide, hlive, rfl⟩, by decide⟩,
      .inl (by decide)⟩

/-- The table shows more in use than the first region has, and less than nothing in the second. -/
example :
    (outcome (Reporter.regionTable { heap := tornHeap }) unboundedContext).toOption.map
        (fun table => table.rows.map fun row => row.getLast?.map Cell.text) =
      some [some "96K", some "-4K"] := by
  decide +kernel

/-- Not every region that is decoded has its top within its bounds. -/
theorem not_bounded_of_every_decoding :
    ¬ ∀ (heap : Heap) (context : Context) (index : Int) (region : Region),
      outcome (heap.regionAt index) context = .ok region → region.Bounded := by
  intro h
  have hbounded : Region.Bounded ⟨0, 0x3000, 0x10000, 0x20000, 0x28000, .live, 2⟩ :=
    h tornHeap unboundedContext 0 _ rfl
  exact absurd hbounded.top_le_limit (by decide)

end HeapProbe
