import HeapProbe.Heap.Walk
import HeapProbe.Text.Grid

/-! # Reports

A reporter puts a heap into words: a one-line summary, a status block and a table of regions. Sizes
are given in units of 1024 bytes, rounded down; the counters of `describe` are given as read. A
report is refused when the heap uses more than it has committed, or has committed more than it
reserved, or when one of its numbers is too long to write.
-/

namespace HeapProbe

def kilo : Int := 1024

def inKilo (bytes : Int) : String := decimal (bytes / kilo)

structure HeapReport where
  numRegions : Int
  used : Int
  committed : Int
  start : Int
  limit : Int
  deriving DecidableEq

/-- Refuses counters that contradict each other; of two contradictions the first counts. -/
def HeapReport.check (report : HeapReport) : Except Fault HeapReport :=
  if report.committed < report.used then
    .error (.inconsistent (.usedExceedsCommitted report.used report.committed))
  else if report.limit - report.start < report.committed then
    .error (.inconsistent
      (.committedExceedsReserved report.committed (report.limit - report.start)))
  else .ok report

namespace RegionState

def letter : RegionState → String
  | .live => "L"
  | .trash => "T"
  | .uncommitted => "U"
  | .empty => "E"

def style : RegionState → String
  | .live => "green"
  | .trash => "red"
  | .uncommitted => "dim"
  | .empty => "cyan"

end RegionState

def regionLegend : String := "L=live, T=trash, U=uncommitted, E=empty"

/-- A cell of the region table: its text, and the style it is shown in if it has its own. -/
structure Cell where
  text : String
  style : Option String := none
  deriving DecidableEq

def Cell.markup (cell : Cell) : String :=
  match cell.style with
  | none => cell.text
  | some style => s!"[{style}]{cell.text}[/]"

structure RegionColumn where
  header : String
  justify : Justify := .left
  style : String := ""
  deriving DecidableEq

structure RegionTable where
  title : String
  caption : String
  columns : List RegionColumn
  rows : List (List Cell)
  deriving DecidableEq

namespace RegionTable

def standardColumns : List RegionColumn :=
  [⟨"#", .right, ""⟩, ⟨"S", .left, ""⟩, ⟨"Region", .left, "dim"⟩, ⟨"Bottom", .left, ""⟩,
    ⟨"Top", .left, ""⟩, ⟨"End", .left, ""⟩, ⟨"Used", .right, ""⟩]

def row (region : Region) : List Cell :=
  [⟨decimal region.index, none⟩, ⟨region.state.letter, some region.state.style⟩,
    ⟨hex region.baseAddress, none⟩, ⟨hex region.bottom, none⟩, ⟨hex region.top, none⟩,
    ⟨hex region.limit, none⟩, ⟨s!"{inKilo region.usedBytes}K", none⟩]

def grid (table : RegionTable) : Grid where
  title := table.title
  caption := table.caption
  columns := table.columns.map fun column => ⟨column.header, column.justify⟩
  rows := table.rows.map fun cells => cells.map Cell.text

end RegionTable

structure Reporter where
  heap : Heap
  heapName : String := "Shenandoah"

def screenWidth : Nat := 200

def printed (text : String) : String := ofLines (screenLines screenWidth text)

/-- However a text is broken into lines, all that is sent of it is seen. -/
theorem seen_printed (text : String) : seen (printed text).toList = seen (sentText text) := by
  rw [printed, seen_ofLines, seen_screenLines]

/-- What was printed, in whole blocks, and how it went. -/
structure Printout where
  text : String
  outcome : Except Fault Unit

namespace Printout

def ofBlocks : List (Probe String) → Probe Printout
  | [] => pure ⟨"", .ok ()⟩
  | block :: later => do
    match ← Probe.attempt block with
    | .error fault => return ⟨"", .error fault⟩
    | .ok text =>
      let rest ← ofBlocks later
      return { rest with text := text ++ rest.text }

end Printout

namespace Reporter

def describe (reporter : Reporter) : Probe HeapReport := do
  let numRegions ← reporter.heap.numRegions
  let used ← reporter.heap.used
  let committed ← reporter.heap.committed
  let (start, limit) ← reporter.heap.reservedRange
  Probe.ofExcept (HeapReport.check { numRegions, used, committed, start, limit })

def summary (reporter : Reporter) : Probe String := do
  let (start, limit) ← reporter.heap.reservedRange
  let size ← reporter.heap.regionSizeBytes
  Probe.needNumerals [size / kilo]
  return s!"{reporter.heapName} heap [{hex start}, {hex limit}] region size {inKilo size} K"

def status (reporter : Reporter) : Probe String := do
  let report ← reporter.describe
  let size ← reporter.heap.regionSizeBytes
  let total ← reporter.heap.capacity
  Probe.needNumerals [total / kilo, report.committed / kilo, report.used / kilo,
    report.numRegions, size / kilo]
  return "\n".intercalate
    [s!"{reporter.heapName} Heap",
      s!" {inKilo total}K total, {inKilo report.committed}K committed, {inKilo report.used}K used",
      s!" {decimal report.numRegions} x {inKilo size}K regions"]

def regionTable (reporter : Reporter) (accept : RegionFilter := RegionFilter.everything) :
    Probe RegionTable := do
  let regions ← reporter.heap.regions accept
  return {
    title := s!"{reporter.heapName} Regions"
    caption := regionLegend
    columns := RegionTable.standardColumns
    rows := regions.map RegionTable.row }

def print (reporter : Reporter) (regions : Bool := false)
    (accept : RegionFilter := RegionFilter.everything) : Probe Printout :=
  let table := do return (← reporter.regionTable accept).grid.text
  Printout.ofBlocks <|
    [printed <$> reporter.summary, printed <$> reporter.status] ++
      if regions then [table] else []

end Reporter

end HeapProbe
