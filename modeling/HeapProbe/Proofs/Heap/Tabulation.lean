import HeapProbe.Proofs.Heap.Bounds
import HeapProbe.Proofs.Heap.Listing
import HeapProbe.Proofs.Text.Numerals

/-! # What the region table shows

A table has one row for each region that a walk lists, in the order of the walk. A row shows all of
its region but the raw code of the state: the numerals are read back, and no two states share a
letter. So a table tells as much as the list that it was made from, and its rows can be counted in
the place of the regions.
-/

namespace HeapProbe

open Probe

def RegionState.ofLetter? (letter : String) : Option RegionState :=
  all.find? fun state => state.letter = letter

theorem RegionState.ofLetter?_letter (state : RegionState) :
    ofLetter? state.letter = some state := by
  cases state <;> rfl

theorem RegionState.letter_inj {state state' : RegionState} :
    state.letter = state'.letter ↔ state = state' := by
  refine ⟨fun h => ?_, congrArg letter⟩
  have hread := ofLetter?_letter state'
  rwa [← h, ofLetter?_letter, Option.some_inj] at hread

namespace RegionTable

structure Entry where
  index : Int
  state : RegionState
  baseAddress : Int
  bottom : Int
  top : Int
  limit : Int
  deriving DecidableEq

def Entry.ofRegion (region : Region) : Entry :=
  ⟨region.index, region.state, region.baseAddress, region.bottom, region.top, region.limit⟩

/-- Reads a row back. The figure of what is in use is passed over, since it is worked out from the
bounds. -/
def readRow : List Cell → Option Entry
  | [index, state, base, bottom, top, limit, _] => do
    return ⟨← ofDecimal? index.text, ← RegionState.ofLetter? state.text, ← ofHex? base.text,
      ← ofHex? bottom.text, ← ofHex? top.text, ← ofHex? limit.text⟩
  | _ => none

theorem readRow_row (region : Region) : readRow (row region) = some (.ofRegion region) := by
  simp [readRow, row, ofDecimal?_decimal, ofHex?_hex, RegionState.ofLetter?_letter, Entry.ofRegion]

theorem filterMap_readRow (regions : List Region) :
    (regions.map row).filterMap readRow = regions.map Entry.ofRegion := by
  induction regions with
  | nil => rfl
  | cons region regions ih => simp [readRow_row, ih]

/-- Equal rows show the same of every region. -/
theorem entries_of_rows {regions regions' : List Region}
    (h : regions.map row = regions'.map row) :
    regions.map Entry.ofRegion = regions'.map Entry.ofRegion := by
  rw [← filterMap_readRow, h, filterMap_readRow]

/-- The row has the letter of a state in its second column. -/
def isMarked (state : RegionState) (cells : List Cell) : Bool :=
  cells[1]?.map Cell.text = some state.letter

theorem isMarked_row (state : RegionState) (region : Region) :
    isMarked state (row region) = decide (region.state = state) := by
  simp [isMarked, row, RegionState.letter_inj]

/-- Among the rows of the regions that a filter admits, a letter stands as often as its state does
among all regions, or not at all. -/
theorem countP_isMarked (accept : RegionFilter) (state : RegionState) (regions : List Region) :
    ((regions.filter fun region => accept region.state).map row).countP (isMarked state) =
      if accept state then regions.countP fun region => region.state = state else 0 := by
  rw [List.countP_map, List.countP_filter]
  by_cases ha : accept state
  · rw [if_pos ha]
    apply List.countP_congr
    intro region _
    simp [isMarked_row]
    rintro rfl
    exact ha
  · rw [if_neg ha, List.countP_eq_zero]
    intro region _
    simp [isMarked_row]
    rintro rfl
    simpa using ha

end RegionTable

namespace Heap

variable {heap : Heap} {accept : RegionFilter} {context : Context}

/-- A walk hands out its regions by ascending index, whatever the visitor does. -/
theorem walk_yields_ascending (visit : Region → Probe Unit) :
    Yields (heap.walk accept visit) fun walk =>
      walk.visited.Pairwise fun first second => first.index < second.index := by
  have hfrom (remaining : Nat) : Yields (heap.walkFrom accept visit 0 remaining) fun walk =>
      walk.visited.Pairwise fun first second => first.index < second.index := by
    intro context walk hwalk
    obtain ⟨walk', last, hrun, hvisited, -⟩ :=
      @walkFrom_moments heap accept visit 0 remaining context
    rw [(eq_ok_iff.1 hrun).1] at hwalk
    cases hwalk
    rw [hvisited]
    exact handedOut_ascending _ 0
  refine .next fun counted => ?_
  cases counted with
  | error fault => exact .pure .nil
  | ok count =>
    exact .next fun _ => (hfrom count.toNat).bind fun walk hwalk => .next fun _ => .pure hwalk

theorem regions_yields_ascending :
    Yields (heap.regions accept) fun regions =>
      regions.Pairwise fun first second => first.index < second.index :=
  (walk_yields_ascending _).bind fun _ hwalk => .next fun _ => .pure hwalk

theorem countByState_of_regions {regions : List Region}
    (h : outcome (heap.regions .everything) context = .ok regions) :
    outcome heap.countByState context = .ok (RegionState.all.map fun state =>
      (state, regions.countP fun region => region.state = state)) := by
  unfold countByState
  rw [outcome_bind, h]
  rfl

end Heap

/-- **The table is a faithful listing.** Over any session, and for any filter, which admits all
regions unless one is given: there is a table just if there is a listing, and otherwise the fault is
the same. Then it has one row for each region listed, in the same order and under ascending numbers,
and each row is read back as what it shows of its region. A letter stands as often as its state is
counted, if the filter admits the state, and otherwise not at all. -/
theorem Reporter.regionTable_lists {reporter : Reporter} {accept : RegionFilter}
    {context : Context} :
    (∀ fault, outcome (reporter.regionTable accept) context = .error fault ↔
      outcome (reporter.heap.regions accept) context = .error fault) ∧
    (∀ regions, outcome (reporter.heap.regions accept) context = .ok regions →
      ∃ table, outcome (reporter.regionTable accept) context = .ok table ∧
        table.rows = regions.map RegionTable.row ∧
        (table.rows.map fun row => row.head?.map Cell.text) =
          regions.map (fun region => some (decimal region.index)) ∧
        (regions.Pairwise fun first second => first.index < second.index) ∧
        table.rows.map RegionTable.readRow =
          regions.map (fun region => some (.ofRegion region)) ∧
        ∃ counts, outcome reporter.heap.countByState context = .ok counts ∧
          counts.map Prod.fst = RegionState.all ∧
          ∀ state count, (state, count) ∈ counts →
            table.rows.countP (RegionTable.isMarked state) = if accept state then count else 0) ∧
    ∀ regions regions' : List Region, regions.map RegionTable.row = regions'.map RegionTable.row →
      regions.map RegionTable.Entry.ofRegion = regions'.map RegionTable.Entry.ofRegion := by
  have htable : outcome (reporter.regionTable accept) context =
      match outcome (reporter.heap.regions accept) context with
      | .ok regions => .ok ⟨s!"{reporter.heapName} Regions", regionLegend,
          RegionTable.standardColumns, regions.map RegionTable.row⟩
      | .error fault => .error fault := by
    unfold regionTable
    rw [outcome_bind]
    cases outcome (reporter.heap.regions accept) context <;> rfl
  refine ⟨fun fault => ?_, fun regions hregions => ?_, fun _ _ => RegionTable.entries_of_rows⟩
  · rw [htable]
    cases outcome (reporter.heap.regions accept) context <;> simp
  · rw [htable, hregions]
    refine ⟨_, rfl, rfl, ?_, Heap.regions_yields_ascending _ _ hregions, ?_, ?_⟩
    · rw [List.map_map]
      rfl
    · rw [List.map_map]
      exact List.map_congr_left fun region _ => RegionTable.readRow_row region
    -- The regions listed are picked from the table that is counted.
    · have hpicked := (reporter.heap.regions_select accept context).1
      rw [hregions] at hpicked
      cases hall : outcome (reporter.heap.regions .everything) context with
      | error fault =>
        rw [hall] at hpicked
        cases hpicked
      | ok all =>
        rw [hall] at hpicked
        cases hpicked
        refine ⟨_, Heap.countByState_of_regions hall, rfl, fun state count hcount => ?_⟩
        obtain ⟨state', -, he⟩ := List.mem_map.1 hcount
        cases he
        exact RegionTable.countP_isMarked accept state all

/-- Of two regions side by side the second is listed alone, as trash under the number one. -/
theorem regionTable_lists_tiled :
    ∃ table, outcome (Reporter.regionTable ⟨tornHeap, "Shenandoah"⟩ (.only [.trash]))
        tiledContext = .ok table ∧
      table.rows.map RegionTable.readRow =
        [some ⟨1, .trash, 0x4000, 0x20000, 0x20000, 0x30000⟩] ∧
      table.rows.countP (RegionTable.isMarked .trash) = 1 ∧
      table.rows.countP (RegionTable.isMarked .live) = 0 := by
  have hsees := @Heap.Sees.of_phase tornHeap _ ⟨0, ⟨some 0⟩⟩ 8 tiledContext rfl rfl
  have hall := hsees.regions_of_decoded rfl rfl regionAt_of_tiled
  have hpicked := (tornHeap.regions_select (.only [.trash]) tiledContext).1
  rw [hall] at hpicked
  obtain ⟨table, htable, -, -, -, hread, counts, hcounts, -, hmarked⟩ :=
    (@Reporter.regionTable_lists ⟨tornHeap, "Shenandoah"⟩ (.only [.trash])
      tiledContext).2.1 _ hpicked
  cases hcounts.symm.trans (Heap.countByState_of_regions hall)
  exact ⟨table, htable, hread, hmarked .trash 1 (by decide), hmarked .live 1 (by decide)⟩

end HeapProbe
