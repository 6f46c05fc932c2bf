import HeapProbe.Proofs.Heap.Counters
import HeapProbe.Proofs.Text.Numerals

/-! # What the texts of a report say

The summary and the status block are a name, words and numerals, and the name may be any text, even
one that reads like a part of a report. Read from its end a text still shows every figure, since the
words before a numeral end in a character that no numeral has. So texts can be compared in the place
of heaps: equal ones show the same name and the same figures.
-/

namespace HeapProbe

open Probe

/-- The figure of a size is the number of whole units in it. -/
theorem kilo_figure (bytes : Int) :
    bytes / kilo * 1024 ≤ bytes ∧ bytes < (bytes / kilo + 1) * 1024 := by
  unfold kilo
  omega

def summaryWords : List String := [" heap [", ", ", "] region size ", " K"]

def statusWords : List String :=
  [" Heap\n ", "K total, ", "K committed, ", "K used\n ", " x ", "K regions"]

def summaryText (heapName : String) (start limit size : Int) : String :=
  interleave heapName (summaryWords.zip [hex start, hex limit, decimal size, ""])

def statusText (heapName : String) (total committed used count size : Int) : String :=
  interleave heapName (statusWords.zip
    [decimal total, decimal committed, decimal used, decimal count, decimal size, ""])

theorem summaryWords_setApart : ∀ words ∈ summaryWords, SetsApart words := by decide

theorem statusWords_setApart : ∀ words ∈ statusWords, SetsApart words := by decide

theorem summaryText_inj {heapName heapName' : String} {start start' limit limit' size size' : Int}
    (h : summaryText heapName start limit size = summaryText heapName' start' limit' size') :
    heapName = heapName' ∧ start = start' ∧ limit = limit' ∧ size = size' := by
  have hnumerals (start limit size : Int) :
      ∀ numeral ∈ [hex start, hex limit, decimal size, ""], IsNumeral numeral := by
    simp [isNumeral_hex, isNumeral_decimal, isNumeral_empty]
  unfold summaryText at h
  obtain ⟨hname, hlist⟩ := interleave_inj h summaryWords_setApart rfl rfl (hnumerals _ _ _)
    (hnumerals _ _ _)
  simp only [List.cons.injEq] at hlist
  obtain ⟨hstart, hlimit, hsize, -⟩ := hlist
  exact ⟨hname, hex_injective hstart, hex_injective hlimit, decimal_injective hsize⟩

theorem statusText_inj {heapName heapName' : String}
    {total total' committed committed' used used' count count' size size' : Int}
    (h : statusText heapName total committed used count size =
      statusText heapName' total' committed' used' count' size') :
    heapName = heapName' ∧ total = total' ∧ committed = committed' ∧ used = used' ∧
      count = count' ∧ size = size' := by
  have hnumerals (total committed used count size : Int) :
      ∀ numeral ∈ [decimal total, decimal committed, decimal used, decimal count, decimal size, ""],
        IsNumeral numeral := by
    simp [isNumeral_decimal, isNumeral_empty]
  unfold statusText at h
  obtain ⟨hname, hlist⟩ := interleave_inj h statusWords_setApart rfl rfl (hnumerals _ _ _ _ _)
    (hnumerals _ _ _ _ _)
  simp only [List.cons.injEq] at hlist
  obtain ⟨htotal, hcommitted, hused, hcount, hsize, -⟩ := hlist
  exact ⟨hname, decimal_injective htotal, decimal_injective hcommitted, decimal_injective hused,
    decimal_injective hcount, decimal_injective hsize⟩

namespace Reporter

/-- What a summary reads, each read in the state that the one before it leaves. -/
structure SummaryReads (reporter : Reporter) (context : Context) (start limit size : Int) :
    Prop where
  range : outcome reporter.heap.reservedRange context = .ok (start, limit)
  size : outcome reporter.heap.regionSizeBytes (after reporter.heap.reservedRange context) =
    .ok size

/-- What a status block reads, each read in the state that the one before it leaves. The figures of
the report are what the heap answers when it is asked for them. -/
structure StatusReads (reporter : Reporter) (context : Context) (report : HeapReport)
    (size total : Int) : Prop where
  numRegions : outcome reporter.heap.numRegions context = .ok report.numRegions
  used : outcome reporter.heap.used (after reporter.heap.numRegions context) = .ok report.used
  committed : outcome reporter.heap.committed
    (after reporter.heap.used (after reporter.heap.numRegions context)) = .ok report.committed
  report : outcome reporter.describe context = .ok report
  size : outcome reporter.heap.regionSizeBytes (after reporter.describe context) = .ok size
  total : outcome reporter.heap.capacity
    (after reporter.heap.regionSizeBytes (after reporter.describe context)) = .ok total

variable {reporter : Reporter} {context : Context} {report : HeapReport} {text : String}

theorem exists_summaryReads (h : outcome reporter.summary context = .ok text) :
    ∃ start limit size, reporter.SummaryReads context start limit size ∧
      text = summaryText reporter.heapName start limit (size / kilo) := by
  obtain ⟨⟨start, limit⟩, hrange, h⟩ := exists_of_outcome_bind h
  obtain ⟨size, hsize, h⟩ := exists_of_outcome_bind h
  obtain ⟨_, -, h⟩ := exists_of_outcome_bind h
  refine ⟨start, limit, size, ⟨hrange, hsize⟩, ?_⟩
  rw [← Except.ok.inj h]
  simp [summaryText, summaryWords, interleave, inKilo]
  rfl

theorem counters_of_describe (h : outcome reporter.describe context = .ok report) :
    outcome reporter.heap.numRegions context = .ok report.numRegions ∧
      outcome reporter.heap.used (after reporter.heap.numRegions context) = .ok report.used ∧
      outcome reporter.heap.committed
        (after reporter.heap.used (after reporter.heap.numRegions context)) =
          .ok report.committed := by
  obtain ⟨numRegions, hnumRegions, h⟩ := exists_of_outcome_bind h
  obtain ⟨used, hused, h⟩ := exists_of_outcome_bind h
  obtain ⟨committed, hcommitted, h⟩ := exists_of_outcome_bind h
  obtain ⟨⟨start, limit⟩, -, h⟩ := exists_of_outcome_bind h
  rw [outcome_ofExcept] at h
  cases HeapReport.check_eq_iff.1 h with
  | consistent => exact ⟨hnumRegions, hused, hcommitted⟩

theorem exists_statusReads (h : outcome reporter.status context = .ok text) :
    ∃ report size total, reporter.StatusReads context report size total ∧
      text = statusText reporter.heapName (total / kilo) (report.committed / kilo)
        (report.used / kilo) report.numRegions (size / kilo) := by
  obtain ⟨report, hreport, h⟩ := exists_of_outcome_bind h
  obtain ⟨size, hsize, h⟩ := exists_of_outcome_bind h
  obtain ⟨total, htotal, h⟩ := exists_of_outcome_bind h
  obtain ⟨_, -, h⟩ := exists_of_outcome_bind h
  obtain ⟨hnumRegions, hused, hcommitted⟩ := counters_of_describe hreport
  refine ⟨report, size, total, ⟨hnumRegions, hused, hcommitted, hreport, hsize, htotal⟩, ?_⟩
  rw [← Except.ok.inj h]
  simp [statusText, statusWords, interleave, inKilo, String.append_assoc]
  rfl

/-- **Equal texts mean equal figures.** Let two reporters, of heaps with any names on any sessions,
come to the same summary: then the names, the reserved ranges and the sizes of a region in units of
1024 bytes are the same. Let them come to the same status block: then the names and the counts of
regions are the same, and in those units the size of a region, the capacity and the bytes committed
and used. A figure in units is the value divided by 1024 and rounded down. -/
theorem equal_texts_equal_figures {first second : Reporter} {context context' : Context} :
    (∀ text, outcome first.summary context = .ok text →
      outcome second.summary context' = .ok text →
      first.heapName = second.heapName ∧ ∃ start limit size size',
        first.SummaryReads context start limit size ∧
        second.SummaryReads context' start limit size' ∧ size / kilo = size' / kilo) ∧
    (∀ text, outcome first.status context = .ok text →
      outcome second.status context' = .ok text →
      first.heapName = second.heapName ∧ ∃ report report' size size' total total',
        first.StatusReads context report size total ∧
        second.StatusReads context' report' size' total' ∧
        report.numRegions = report'.numRegions ∧ size / kilo = size' / kilo ∧
        total / kilo = total' / kilo ∧ report.committed / kilo = report'.committed / kilo ∧
        report.used / kilo = report'.used / kilo) ∧
    ∀ value : Int, value / kilo * 1024 ≤ value ∧ value < (value / kilo + 1) * 1024 := by
  refine ⟨fun text h h' => ?_, fun text h h' => ?_, kilo_figure⟩
  · obtain ⟨start, limit, size, hreads, rfl⟩ := exists_summaryReads h
    obtain ⟨start', limit', size', hreads', htext⟩ := exists_summaryReads h'
    obtain ⟨hname, rfl, rfl, hsize⟩ := summaryText_inj htext
    exact ⟨hname, start, limit, size, size', hreads, hreads', hsize⟩
  · obtain ⟨report, size, total, hreads, rfl⟩ := exists_statusReads h
    obtain ⟨report', size', total', hreads', htext⟩ := exists_statusReads h'
    obtain ⟨hname, htotal, hcommitted, hused, hcount, hsize⟩ := statusText_inj htext
    exact ⟨hname, report, report', size, size', total, total', hreads, hreads', hcount, hsize,
      htotal, hcommitted, hused⟩

/-- A reporter whose name looks like the report of another heap. -/
def namesake : Reporter := ⟨tornHeap, "Old heap [0x0, 0x1] region size 1 K\nNew"⟩

/-- Regions that differ by one byte make two heaps with the same texts, as their figures are. -/
theorem equal_texts_equal_figures_counted :
    (∃ start limit size size', size ≠ size' ∧
      namesake.SummaryReads (countedContext 0x10000) start limit size ∧
      namesake.SummaryReads (countedContext 0x10001) start limit size' ∧
      size / kilo = size' / kilo) ∧
    ∃ report report' size size' total total', total ≠ total' ∧
      namesake.StatusReads (countedContext 0x10000) report size total ∧
      namesake.StatusReads (countedContext 0x10001) report' size' total' ∧
      total / kilo = total' / kilo := by
  obtain ⟨hsummaries, hstatuses, -⟩ := @equal_texts_equal_figures namesake namesake
    (countedContext 0x10000) (countedContext 0x10001)
  constructor
  · obtain ⟨-, start, limit, size, size', hreads, hreads', hsize⟩ := hsummaries _ rfl rfl
    refine ⟨start, limit, size, size', ?_, hreads, hreads', hsize⟩
    cases hreads.size
    cases hreads'.size
    decide
  · obtain ⟨-, report, report', size, size', total, total', hreads, hreads', -, -, htotal, -⟩ :=
      hstatuses _ rfl rfl
    refine ⟨report, report', size, size', total, total', ?_, hreads, hreads', htotal⟩
    cases hreads.total
    cases hreads'.total
    decide

end Reporter

end HeapProbe
