import HeapProbe.Proofs.Heap.Printout

/-! # What the counters say

A report rests on five reads and two comparisons: the bytes in use have to fit into those that are
committed, and these into the reserved range. The first read that fails ends it before anything is
compared, and of the two comparisons the first counts. The status block is written from a report and
asks for nothing that the report has not read, so only a number that is too long can stop it.
-/

namespace HeapProbe

open Probe

def fault? {α : Type} : Except Fault α → Option Fault
  | .ok _ => none
  | .error fault => some fault

@[simp] theorem fault?_ok {α : Type} (value : α) : fault? (.ok value) = none := rfl

@[simp] theorem fault?_error {α : Type} (fault : Fault) :
    fault? (.error fault : Except Fault α) = some fault := rfl

/-- A reader that only looks, and whose words are words of memory. -/
structure Reader.GivesWords (reader : Reader) (session : Nat) : Prop where
  readWord_looks : ∀ address, (reader.readWord address).Looks session
  readUInt64_looks : ∀ address, (reader.readUInt64 address).Looks session
  readWord_yields : ∀ address, Yields (reader.readWord address) IsWord
  readUInt64_yields : ∀ address, Yields (reader.readUInt64 address) IsWord

theorem Inferior.reader_givesWords (inferior : Inferior) (kept : Int) (session : Nat) :
    (inferior.readerOfSize kept).GivesWords session where
  readWord_looks := inferior.readWord_looks kept
  readUInt64_looks := inferior.readUInt64_looks kept
  readWord_yields := inferior.readWord_yields kept
  readUInt64_yields := inferior.readUInt64_yields kept

namespace HeapReport

/-- How the comparison of a report's numbers can end. Of two contradictions the first counts. -/
inductive Compares (report : HeapReport) : Except Fault HeapReport → Prop
  | overUsed (hused : report.committed < report.used) :
      Compares report (.error (.inconsistent (.usedExceedsCommitted report.used report.committed)))
  | overCommitted (hused : report.used ≤ report.committed)
      (hcommitted : report.limit - report.start < report.committed) :
      Compares report (.error (.inconsistent
        (.committedExceedsReserved report.committed (report.limit - report.start))))
  | consistent (hused : report.used ≤ report.committed)
      (hcommitted : report.committed ≤ report.limit - report.start) : Compares report (.ok report)

/-- With regions of this size a number in the status block is too long to write. -/
def Overlong (report : HeapReport) (size : Int) : Prop :=
  hasNumeral (report.numRegions * size / kilo) = false ∨ hasNumeral (size / kilo) = false

instance (report : HeapReport) (size : Int) : Decidable (report.Overlong size) :=
  inferInstanceAs (Decidable (_ ∨ _))

theorem check_eq_iff {report : HeapReport} {ending : Except Fault HeapReport} :
    report.check = ending ↔ report.Compares ending := by
  constructor
  · rintro rfl
    unfold check
    by_cases hused : report.committed < report.used
    · rw [if_pos hused]
      exact .overUsed hused
    · by_cases hcommitted : report.limit - report.start < report.committed
      · rw [if_neg hused, if_pos hcommitted]
        exact .overCommitted (by omega) hcommitted
      · rw [if_neg hused, if_neg hcommitted]
        exact .consistent (by omega) (by omega)
  · intro h
    unfold check
    cases h with
    | overUsed hused => rw [if_pos hused]
    | overCommitted hused hcommitted => rw [if_neg (by omega), if_pos hcommitted]
    | consistent hused hcommitted => rw [if_neg (by omega), if_neg (by omega)]

end HeapReport

namespace Heap

variable {heap : Heap}

section Words

variable (h : heap.session.reader.GivesWords heap.session.id)
include h

theorem readAt_givesWords (offset : HeapLayout → Int) :
    (heap.readAt offset).Looks heap.session.id ∧ Yields (heap.readAt offset) IsWord :=
  ⟨heap.session.resolution_looks.bind fun _ => h.readWord_looks _,
    .next fun _ => h.readWord_yields _⟩

theorem used_givesWords : heap.used.Looks heap.session.id ∧ Yields heap.used IsWord :=
  ⟨heap.session.resolution_looks.bind fun _ => h.readUInt64_looks _,
    .next fun _ => h.readUInt64_yields _⟩

theorem reservedRange_reveals (context : Context) :
    heap.reservedRange.Reveals heap.session.id context
      ((outcome (heap.readAt HeapLayout.reservedStart) context).bind fun start =>
        (outcome (heap.readAt HeapLayout.reservedWordSize) context).bind fun words =>
          .ok (start, start + words * heap.session.reader.pointerSize)) :=
  (Reveals.of_looks (readAt_givesWords h _).1).bind fun _ =>
    (Reveals.of_looks (readAt_givesWords h _).1).bind fun _ => .pure _

end Words

def counters (heap : Heap) (context : Context) : List (Except Fault Int) :=
  [outcome heap.numRegions context, outcome heap.used context, outcome heap.committed context,
    outcome (heap.readAt HeapLayout.reservedStart) context,
    outcome (heap.readAt HeapLayout.reservedWordSize) context]

/-- All ways in which a report can end. -/
inductive Reports (heap : Heap) (context : Context) : Except Fault HeapReport → Prop
  | missed {fault : Fault} (hmissed : (heap.counters context).findSome? fault? = some fault) :
      Reports heap context (.error fault)
  | compared {count used committed start words : Int} {ending : Except Fault HeapReport}
      (hwords : heap.counters context = [.ok count, .ok used, .ok committed, .ok start, .ok words])
      (hends : HeapReport.Compares
        ⟨count, used, committed, start, start + words * heap.session.reader.pointerSize⟩ ending) :
      Reports heap context ending

/-- No two of the ways are open at once. -/
theorem Reports.unique {context : Context} {first second : Except Fault HeapReport}
    (h : heap.Reports context first) (h' : heap.Reports context second) : first = second := by
  have hnever {count used committed start words : Int} {fault : Fault}
      (hwords : heap.counters context = [.ok count, .ok used, .ok committed, .ok start, .ok words])
      (hmissed : (heap.counters context).findSome? fault? = some fault) : False := by
    simp [hwords, List.findSome?_cons] at hmissed
  cases h with
  | missed hmissed =>
    cases h' with
    | missed hmissed' => rw [Option.some.inj (hmissed.symm.trans hmissed')]
    | compared hwords _ => exact (hnever hwords hmissed).elim
  | compared hwords hends =>
    cases h' with
    | missed hmissed => exact (hnever hwords hmissed).elim
    | compared hwords' hends' =>
      cases hwords.symm.trans hwords'
      rw [← HeapReport.check_eq_iff.2 hends, HeapReport.check_eq_iff.2 hends']

end Heap

namespace Reporter

variable {reporter : Reporter} {context : Context}

section Describe

variable (h : reporter.heap.session.reader.GivesWords reporter.heap.session.id)
include h

theorem describe_reveals :
    reporter.describe.Reveals reporter.heap.session.id context
      ((outcome reporter.heap.numRegions context).bind fun numRegions =>
        (outcome reporter.heap.used context).bind fun used =>
          (outcome reporter.heap.committed context).bind fun committed =>
            (outcome reporter.heap.reservedRange context).bind fun range =>
              HeapReport.check ⟨numRegions, used, committed, range.1, range.2⟩) :=
  (Reveals.of_looks (Heap.readAt_givesWords h _).1).bind fun _ =>
    (Reveals.of_looks (Heap.used_givesWords h).1).bind fun _ =>
      (Reveals.of_looks (Heap.readAt_givesWords h _).1).bind fun _ =>
        (Reveals.of_looks (Heap.reservedRange_reveals h context).looks).bind
          fun _ => .ofExcept _

theorem reports_describe : reporter.heap.Reports context (outcome reporter.describe context) := by
  rw [(describe_reveals h).outcome, (Heap.reservedRange_reveals h context).outcome]
  -- A read is looked at once those before it have given words.
  cases hcount : outcome reporter.heap.numRegions context with
  | error fault =>
    apply Heap.Reports.missed
    simp [Heap.counters, List.findSome?_cons, hcount]
  | ok count =>
    cases hused : outcome reporter.heap.used context with
    | error fault =>
      apply Heap.Reports.missed
      simp [Heap.counters, List.findSome?_cons, hcount, hused]
    | ok used =>
      cases hcommitted : outcome reporter.heap.committed context with
      | error fault =>
        apply Heap.Reports.missed
        simp [Heap.counters, List.findSome?_cons, hcount, hused, hcommitted]
      | ok committed =>
        cases hstart : outcome (reporter.heap.readAt HeapLayout.reservedStart) context with
        | error fault =>
          apply Heap.Reports.missed
          simp [Heap.counters, List.findSome?_cons, hcount, hused, hcommitted, hstart]
        | ok start =>
          cases hwords : outcome (reporter.heap.readAt HeapLayout.reservedWordSize) context with
          | error fault =>
            apply Heap.Reports.missed
            simp [Heap.counters, List.findSome?_cons, hcount, hused, hcommitted, hstart,
              hwords]
          | ok words =>
            have hall : reporter.heap.counters context =
                [.ok count, .ok used, .ok committed, .ok start, .ok words] := by
              rw [Heap.counters, hcount, hused, hcommitted, hstart, hwords]
            exact .compared hall (HeapReport.check_eq_iff.1 rfl)

theorem describe_eq_iff (ending : Except Fault HeapReport) :
    outcome reporter.describe context = ending ↔ reporter.heap.Reports context ending := by
  constructor
  · rintro rfl
    exact reports_describe h
  · exact fun hending => (reports_describe h).unique hending

/-- A report has what the heap answers, and its numbers are in order. -/
theorem report_of_describe {report : HeapReport}
    (hreport : outcome reporter.describe context = .ok report) :
    outcome reporter.heap.numRegions context = .ok report.numRegions ∧
      outcome reporter.heap.used context = .ok report.used ∧
      outcome reporter.heap.committed context = .ok report.committed ∧
      outcome reporter.heap.reservedRange context = .ok (report.start, report.limit) ∧
      0 ≤ report.used ∧ report.used ≤ report.committed ∧
      report.committed ≤ report.limit - report.start := by
  cases (describe_eq_iff h _).1 hreport with
  | compared hwords hends =>
    cases hends with
    | consistent hused hcommitted =>
      simp only [Heap.counters, List.cons.injEq] at hwords
      obtain ⟨hcount, hused', hcommitted', hstart, hwords, -⟩ := hwords
      refine ⟨hcount, hused', hcommitted', ?_, ?_, hused, hcommitted⟩
      · rw [(Heap.reservedRange_reveals h context).outcome, hstart, hwords]
        rfl
      · exact ((Heap.used_givesWords h).2 _ _ hused').1

theorem isWord_of_describe {report : HeapReport}
    (hreport : outcome reporter.describe context = .ok report) :
    IsWord report.numRegions ∧ IsWord report.used ∧ IsWord report.committed := by
  obtain ⟨hcount, hused, hcommitted, -⟩ := report_of_describe h hreport
  exact ⟨(Heap.readAt_givesWords h _).2 _ _ hcount, (Heap.used_givesWords h).2 _ _ hused,
    (Heap.readAt_givesWords h _).2 _ _ hcommitted⟩

theorem not_overlong_of_isWord {report : HeapReport} {size : Int}
    (hreport : outcome reporter.describe context = .ok report)
    (hsize : IsWord size) : ¬ report.Overlong size := by
  rintro (hlong | hlong)
  · exact hsize.not_overlong ⟨report.numRegions, (isWord_of_describe h hreport).1, hlong⟩
  · exact hsize.not_overlong (overlong_of_size hlong)

end Describe

theorem status_of_no_report {fault : Fault}
    (hfault : outcome reporter.describe context = .error fault) :
    outcome reporter.status context = .error fault := by
  rw [status, outcome_bind, hfault]

section Status

variable {resolution : Resolution}
  (hphase : context.phase reporter.heap.session.id = .resolved resolution)
include hphase

theorem regionSizeBytes_reveals :
    reporter.heap.regionSizeBytes.Reveals reporter.heap.session.id context
      (.ok resolution.regionSizeBytes) := by
  refine ⟨Heap.regionSizeBytes_looks, ?_⟩
  rw [Heap.regionSizeBytes, (Session.ask_run _).1, hphase]
  rfl

variable (h : reporter.heap.session.reader.GivesWords reporter.heap.session.id)
include h

/-- After a report only a number that is too long can stop the status block. -/
theorem status_of_report {report : HeapReport}
    (hreport : outcome reporter.describe context = .ok report) :
    (outcome reporter.status context).map (fun _ => ()) =
      if report.Overlong resolution.regionSizeBytes then .error .overlongNumeral else .ok () := by
  have hsize := regionSizeBytes_reveals hphase
  have hcapacity : reporter.heap.capacity.Reveals reporter.heap.session.id context _ :=
    (Reveals.of_looks (Heap.readAt_givesWords h _).1).bind fun _ => hsize.bind fun _ => .pure _
  have hstatus : reporter.status.Reveals reporter.heap.session.id context _ :=
    (Reveals.of_looks (@describe_reveals reporter context h).looks).bind fun _ =>
      hsize.bind fun _ => hcapacity.bind fun _ => (Reveals.require _ _).bind fun _ => .pure _
  -- The capacity reads the count of regions anew, and gets what the report has.
  have hcount : outcome (reporter.heap.readAt HeapLayout.numRegions) context =
      .ok report.numRegions := (report_of_describe h hreport).1
  obtain ⟨hnum, hused, hcommitted⟩ := isWord_of_describe h hreport
  have hall : [report.numRegions * resolution.regionSizeBytes / kilo, report.committed / kilo,
      report.used / kilo, report.numRegions, resolution.regionSizeBytes / kilo].all hasNumeral ↔
        ¬ report.Overlong resolution.regionSizeBytes := by
    simp [HeapReport.Overlong, hnum.hasNumeral, hused.hasNumeral_div, hcommitted.hasNumeral_div]
  rw [hstatus.outcome, hreport, hcount]
  dsimp only [Except.bind]
  by_cases hlong : report.Overlong resolution.regionSizeBytes
  · rw [if_neg fun hshort => hall.1 hshort hlong, if_pos hlong]
    rfl
  · rw [if_pos (hall.2 hlong), if_neg hlong]
    rfl

theorem status_eq_error_iff {fault : Fault} :
    outcome reporter.status context = .error fault ↔
      outcome reporter.describe context = .error fault ∨
        fault = .overlongNumeral ∧ ∃ report, outcome reporter.describe context = .ok report ∧
          report.Overlong resolution.regionSizeBytes := by
  cases hreport : outcome reporter.describe context with
  | error first =>
    rw [status_of_no_report hreport]
    simp
  | ok report =>
    have hstatus := status_of_report hphase h hreport
    by_cases hlong : report.Overlong resolution.regionSizeBytes
    · rw [if_pos hlong] at hstatus
      cases ho : outcome reporter.status context <;> rw [ho] at hstatus <;> cases hstatus
      simp [hlong, eq_comm]
    · rw [if_neg hlong] at hstatus
      cases ho : outcome reporter.status context <;> rw [ho] at hstatus <;> cases hstatus
      simp [hlong]

end Status

end Reporter

/-- **Reports are sound and complete.** On a resolved session, over a reader that only looks and
gives words of memory: a report is made just if all five reads give words and the bytes in use fit
into the committed ones, and these into the reserved range. It has what the heap answers when it is
asked for each of these numbers, which are then in order. Otherwise it ends with the fault of the
first read that fails or, after all reads, of the first comparison. The status block ends with the
same fault, and where there is a report it fails only if the size of a region is too large for its
numbers to be written, which no word of memory is. -/
theorem Reporter.describe_weighs_counters {reporter : Reporter} {context : Context}
    {resolution : Resolution}
    (hwords : reporter.heap.session.reader.GivesWords reporter.heap.session.id)
    (hphase : context.phase reporter.heap.session.id = .resolved resolution) :
    let heap := reporter.heap
    ((∃ report, outcome reporter.describe context = .ok report) ↔
      ∃ count used committed start words : Int,
        heap.counters context = [.ok count, .ok used, .ok committed, .ok start, .ok words] ∧
          used ≤ committed ∧ committed ≤ words * heap.session.reader.pointerSize) ∧
    (∀ report, outcome reporter.describe context = .ok report →
      outcome heap.numRegions context = .ok report.numRegions ∧
      outcome heap.used context = .ok report.used ∧
      outcome heap.committed context = .ok report.committed ∧
      outcome heap.reservedRange context = .ok (report.start, report.limit) ∧
      0 ≤ report.used ∧ report.used ≤ report.committed ∧
      report.committed ≤ report.limit - report.start) ∧
    (∀ ending, outcome reporter.describe context = ending ↔ heap.Reports context ending) ∧
    (∀ fault, outcome reporter.status context = .error fault ↔
      outcome reporter.describe context = .error fault ∨
        fault = .overlongNumeral ∧ ∃ report, outcome reporter.describe context = .ok report ∧
          report.Overlong resolution.regionSizeBytes) ∧
    (IsWord resolution.regionSizeBytes → ∀ fault,
      outcome reporter.status context = .error fault ↔
        outcome reporter.describe context = .error fault) := by
  intro heap
  have hspan (start words : Int) : start + words * heap.session.reader.pointerSize - start =
      words * heap.session.reader.pointerSize := Int.sub_eq_iff_eq_add'.2 rfl
  refine ⟨?_, fun report => Reporter.report_of_describe hwords, Reporter.describe_eq_iff hwords,
    fun fault => Reporter.status_eq_error_iff hphase hwords, fun hsize fault => ?_⟩
  · constructor
    · rintro ⟨report, hreport⟩
      cases (Reporter.describe_eq_iff hwords _).1 hreport with
      | compared hall hends =>
        cases hends with
        | consistent hused hcommitted =>
          exact ⟨_, _, _, _, _, hall, hused, Int.le_trans hcommitted (Int.le_of_eq (hspan _ _))⟩
    · rintro ⟨count, used, committed, start, words, hall, hused, hcommitted⟩
      exact ⟨_, (Reporter.describe_eq_iff hwords _).2
        (.compared hall (.consistent hused
          (Int.le_trans hcommitted (Int.le_of_eq (hspan _ _).symm))))⟩
  · rw [Reporter.status_eq_error_iff hphase hwords]
    constructor
    · rintro (hfault | ⟨-, report, hreport, hlong⟩)
      · exact hfault
      · exact absurd hlong (Reporter.not_overlong_of_isWord hwords hreport hsize)
    · exact .inl

/-- The context of a heap that has committed all that it reserved, and uses a part of it. -/
def countedContext (regionSizeBytes : Int) : Context :=
  { host := { images := [{ memory := ⟨[
      .write 0x1010 (ByteOrder.little.encode 8 0x10000 ++ ByteOrder.little.encode 8 0x4000),
      .write 0x1100 (ByteOrder.little.encode 8 2 ++ ByteOrder.little.encode 8 0x8000 ++
        ByteOrder.little.encode 8 0x20000)]⟩ }] }
    sessions := fun _ => .ofResolution {
      heapLayout := { numRegions := 256, used := 264, committed := 272, regions := 280,
                      reservedStart := 16, reservedWordSize := 24 },
      regionLayout := { state := 64, bottom := 8, limit := 16, top := 24 },
      heapAddress := 0x1000,
      regionSizeBytes } }

theorem counters_of_counted (regionSizeBytes : Int) :
    tornHeap.counters (countedContext regionSizeBytes) =
      [.ok 2, .ok 0x8000, .ok 0x20000, .ok 0x10000, .ok 0x4000] := rfl

theorem describe_counted (regionSizeBytes : Int) :
    outcome (Reporter.describe ⟨tornHeap, "Shenandoah"⟩) (countedContext regionSizeBytes) =
      .ok ⟨2, 0x8000, 0x20000, 0x10000, 0x30000⟩ := by
  apply (Reporter.describe_eq_iff (Inferior.reader_givesWords _ _ _) _).2
  exact .compared (counters_of_counted regionSizeBytes) (.consistent (by decide) (by decide))

theorem describe_weighs_counters_counted :
    (∃ report, outcome (Reporter.describe ⟨tornHeap, "Shenandoah"⟩) (countedContext 0x10000) =
      .ok report) ∧
    ∀ fault, outcome (Reporter.status ⟨tornHeap, "Shenandoah"⟩) (countedContext 0x10000) ≠
      .error fault := by
  obtain ⟨hreport, -, -, -, hstatus⟩ := @Reporter.describe_weighs_counters
    ⟨tornHeap, "Shenandoah"⟩ (countedContext 0x10000) _ (Inferior.reader_givesWords _ _ _) rfl
  refine ⟨hreport.2 ⟨_, _, _, _, _, counters_of_counted _, by decide, by decide⟩, ?_⟩
  intro fault hfault
  cases ((hstatus ⟨by decide, by decide⟩ fault).1 hfault).symm.trans (describe_counted 0x10000)

/-- Regions of more than four thousand digits stop a status block that has a report. -/
theorem not_status_as_describe :
    ¬ ∀ (reporter : Reporter) (context : Context) (resolution : Resolution),
      reporter.heap.session.reader.GivesWords reporter.heap.session.id →
      context.phase reporter.heap.session.id = .resolved resolution →
      ∀ fault, outcome reporter.status context = .error fault ↔
        outcome reporter.describe context = .error fault := by
  intro h
  have hwords : tornHeap.session.reader.GivesWords 0 := Inferior.reader_givesWords _ _ _
  have hlong : HeapReport.Overlong ⟨2, 0x8000, 0x20000, 0x10000, 0x30000⟩ (1024 * 10 ^ 4300) :=
    .inr (by decide +kernel)
  have hstatus := (@Reporter.status_eq_error_iff ⟨tornHeap, "Shenandoah"⟩
    (countedContext (1024 * 10 ^ 4300)) _ rfl hwords .overlongNumeral).2
      (.inr ⟨rfl, _, describe_counted _, hlong⟩)
  have hdescribe := (h ⟨tornHeap, "Shenandoah"⟩ _ _ hwords rfl .overlongNumeral).1 hstatus
  cases hdescribe.symm.trans (describe_counted _)

end HeapProbe
