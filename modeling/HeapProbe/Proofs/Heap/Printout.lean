import HeapProbe.Proofs.Heap.Query

/-! # Printouts

On a resolved session every block of a printout only looks at the debugger's side. So it does not
matter to one block what was printed before it, and a printout consists of the texts of all blocks up
to the first that fails. What stops it is a fault of the inspection, or a number that is too long to
write; and words of memory never make such a number unless the settings give the size of a region.
-/

namespace HeapProbe

open Probe

/-- With regions of this size the sizes in a report may be too long to write. -/
def Overlong (size : Int) : Prop := ∃ count, IsWord count ∧ hasNumeral (count * size / kilo) = false

namespace IsWord

variable {n : Int}

theorem hasNumeral_div (h : IsWord n) : HeapProbe.hasNumeral (n / kilo) := by
  obtain ⟨h0, hlt⟩ := h
  unfold kilo
  exact hasNumeral_of_lt (by omega) (by omega)

/-- As many regions as a word counts do not make too long a number if their size is a word. -/
theorem not_overlong (h : IsWord n) : ¬ Overlong n := by
  rintro ⟨count, ⟨hc0, hc⟩, hlong⟩
  obtain ⟨h0, hlt⟩ := h
  have hprod : count * n ≤ (2 ^ 64 - 1) * (2 ^ 64 - 1) :=
    Int.mul_le_mul (by omega) (by omega) h0 (by omega)
  have hprod0 : 0 ≤ count * n := Int.mul_nonneg hc0 h0
  have hshort : HeapProbe.hasNumeral (count * n / kilo) := by
    unfold kilo
    exact hasNumeral_of_lt (by omega) (by omega)
  rw [hlong] at hshort
  cases hshort

end IsWord

/-- The size of a region is a word unless the settings give it. -/
theorem Session.regionSize_of_findOut {session : Session} {inferior : Inferior} {kept : Int}
    (hr : session.reader = inferior.readerOfSize kept) (resolver : Resolver) :
    Yields (session.findOut resolver) fun resolution =>
      session.settings.layout.regionSizeBytes = some resolution.regionSizeBytes ∨
        IsWord resolution.regionSizeBytes := by
  have hsize (given : Option Int) (symbol : String) :
      Yields (session.wordOr resolver given symbol) fun size => given = some size ∨ IsWord size := by
    cases given with
    | some size => exact .pure (.inl rfl)
    | none =>
      refine .next fun address context word ho => .inr ?_
      rw [hr] at ho
      exact inferior.readWord_yields kept address context word ho
  exact .next fun _ => .next fun _ => .next fun _ => .next fun _ =>
    (hsize _ _).bind fun _ hs => .pure hs

theorem overlong_of_size {size : Int} (h : hasNumeral (size / kilo) = false) : Overlong size :=
  ⟨1, ⟨by omega, by omega⟩, by rwa [Int.one_mul]⟩

namespace Probe

variable {α β : Type} {scene : Scene} {good : α → Prop} {kind : Fault → Prop}

/-- In the scene the probe only looks, and ends with a good value or with a fault of some kind. -/
def Seeks (probe : Probe α) (scene : Scene) (good : α → Prop) (kind : Fault → Prop) : Prop :=
  ∃ finding, probe.Finds scene finding ∧
    (∀ value, finding.outcome = .ok value → good value) ∧ finding.FaultsAre kind

namespace Seeks

protected theorem pure {value : α} (h : good value) :
    (pure value : Probe α).Seeks scene good kind := by
  refine ⟨_, .pure value, ?_, nofun⟩
  rintro _ ⟨⟩
  exact h

protected theorem throw {fault : Fault} (h : kind fault) :
    (throw fault : Probe α).Seeks scene good kind := by
  refine ⟨_, .throw fault, nofun, ?_⟩
  rintro _ ⟨⟩
  exact h

protected theorem ofExcept {result : Except Fault α}
    (hgood : ∀ value, result = .ok value → good value)
    (hkind : ∀ fault, result = .error fault → kind fault) :
    (Probe.ofExcept result).Seeks scene good kind := ⟨_, .ofExcept result, hgood, hkind⟩

protected theorem require (condition : Prop) [Decidable condition] {fault : Fault}
    (h : ¬ condition → kind fault) :
    (require condition fault).Seeks scene (fun _ => True) kind := by
  unfold Probe.require
  split
  · exact .pure trivial
  · next hc => exact .throw (h hc)

protected theorem bind {probe : Probe α} {next : α → Probe β} {good' : β → Prop}
    (h : probe.Seeks scene good kind) (hnext : ∀ value, good value → (next value).Seeks scene good' kind) :
    (probe >>= next).Seeks scene good' kind := by
  obtain ⟨⟨result, calls, records⟩, hf, hgood, hkind⟩ := h
  cases result with
  | error fault =>
    refine ⟨_, hf.bind_of_error, nofun, ?_⟩
    rintro _ ⟨⟩
    exact hkind fault rfl
  | ok value =>
    obtain ⟨later, hlater, hgood', hkind'⟩ := hnext value (hgood value rfl)
    exact ⟨_, hf.bind_of_ok hlater, hgood', hkind'⟩

protected theorem attempt {probe : Probe α} (h : probe.Seeks scene good kind)
    {kind' : Fault → Prop} :
    Seeks (attempt probe) scene
      (fun result => (∀ value, result = .ok value → good value) ∧
        ∀ fault, result = .error fault → kind fault) kind' := by
  obtain ⟨finding, hf, hgood, hkind⟩ := h
  refine ⟨_, hf.attempt, ?_, nofun⟩
  rintro _ ⟨⟩
  exact ⟨hgood, hkind⟩

theorem mono {probe : Probe α} {good' : α → Prop} {kind' : Fault → Prop}
    (h : probe.Seeks scene good kind) (hgood : ∀ value, good value → good' value)
    (hkind : ∀ fault, kind fault → kind' fault) : probe.Seeks scene good' kind' := by
  obtain ⟨finding, hf, hg, hk⟩ := h
  exact ⟨finding, hf, fun value hv => hgood value (hg value hv), fun fault he => hkind fault (hk fault he)⟩

theorem of_load {view : View} {load : Load} {address length : Int} {probe : Probe Int}
    (hf : probe.Finds scene (view.finding load address length)) (hb : view.host.bindings)
    (hw : load.width ≤ 8) : probe.Seeks scene IsWord (·.isInspection) := by
  refine ⟨_, hf, fun word ho => view.isWord_of_finding hw ho, fun fault ho => ?_⟩
  rcases view.fault_of_finding ho with ⟨hno, -⟩ | ⟨-, failure, rfl⟩
  · cases hb.symm.trans hno
  · rfl

end Seeks

end Probe

namespace Heap

variable {heap : Heap} {scene : Scene}

section Walk

variable {kind : Fault → Prop}
  (hregion : ∀ index, IsWord index → (heap.regionAt index).Seeks scene (fun _ => True) kind)
include hregion

/-- A walk that only collects regions seeks them, and ends with a fault of the kind if at all. -/
theorem walkFrom_seeks (accept : RegionFilter) {index remaining : Nat}
    (hle : index + remaining ≤ 2 ^ 64) :
    (heap.walkFrom accept (fun _ => pure ()) index remaining).Seeks scene
      (fun walk => ∀ fault, walk.outcome = .error fault → kind fault) fun _ => False := by
  induction remaining generalizing index with
  | zero => exact .pure nofun
  | succ remaining ih =>
    have hindex : IsWord index := ⟨by omega, by omega⟩
    have hrest := @ih (index + 1) (by omega)
    refine (hregion index hindex).attempt.bind fun result hresult => ?_
    cases result with
    | error fault =>
      have habort : (noteAbort index fault).Seeks scene (fun _ => True) fun _ => False :=
        ⟨_, finds_noteAbort scene index fault, fun _ _ => trivial, nofun⟩
      refine habort.bind fun _ _ => .pure ?_
      rintro _ ⟨⟩
      exact hresult.2 fault rfl
    | ok region =>
      dsimp only
      split
      · have hvisit : Seeks (attempt (pure () : Probe Unit)) scene (· = .ok ()) fun _ => False :=
          ⟨_, (Finds.pure ()).attempt, fun _ hv => (Except.ok.inj hv).symm, nofun⟩
        refine hvisit.bind ?_
        rintro _ rfl
        exact hrest.bind fun rest hr => .pure hr
      · exact hrest

theorem regions_seeks
    (hcount : heap.numRegions.Seeks scene IsWord kind) (accept : RegionFilter) :
    (heap.regions accept).Seeks scene (fun _ => True) kind := by
  have hlog (level : LogLevel) (message : String) :
      (log level .walk message).Seeks scene (fun _ => True) fun _ => False :=
    ⟨_, .log _ _ _, fun _ _ => trivial, nofun⟩
  have hend (count : Int) (walk : Walk) :
      (noteEnd count walk).Seeks scene (fun _ => True) fun _ => False :=
    ⟨_, finds_noteEnd scene count walk, fun _ _ => trivial, nofun⟩
  have hwalk : (heap.walk accept fun _ => pure ()).Seeks scene
      (fun walk => ∀ fault, walk.outcome = .error fault → kind fault) fun _ => False := by
    refine hcount.attempt.bind fun result hresult => ?_
    cases result with
    | error fault =>
      refine .pure ?_
      rintro _ ⟨⟩
      exact hresult.2 fault rfl
    | ok count =>
      have hbound : 0 + count.toNat ≤ 2 ^ 64 := by
        obtain ⟨h0, hlt⟩ := hresult.1 count rfl
        omega
      exact (hlog _ _).bind fun _ _ => (walkFrom_seeks hregion accept hbound).bind
        fun walk hw => (hend count walk).bind fun _ _ => .pure hw
  refine (hwalk.mono (fun _ h => h) fun _ h => h.elim).bind fun walk hw => ?_
  exact Seeks.bind (.ofExcept (fun _ _ => trivial) hw) fun _ (_ : True) => .pure trivial

end Walk

variable {view : View} {resolution : Resolution} (h : heap.Sees scene view resolution)
  (hb : view.host.bindings)
include h hb

theorem readAt_seeks (offset : HeapLayout → Int) :
    (heap.readAt offset).Seeks scene IsWord (·.isInspection) :=
  .of_load (h.finds_readAt offset) hb (view.width_pointerLoad_le _)

theorem used_seeks : heap.used.Seeks scene IsWord (·.isInspection) := by
  have hfinds : heap.used.Finds scene _ := h.finds_resolution.bind_of_pure (by
    rw [h.reader]
    exact .uint64 h.host _)
  exact .of_load hfinds hb (Nat.le_refl 8)

omit hb in
theorem regionSizeBytes_seeks (kind : Fault → Prop) :
    heap.regionSizeBytes.Seeks scene (· = resolution.regionSizeBytes) kind := by
  refine ⟨_, h.finds_resolution.bind_of_pure (.pure _), ?_, nofun⟩
  rintro _ ⟨⟩
  rfl

theorem reservedRange_seeks :
    heap.reservedRange.Seeks scene (fun _ => True) (·.isInspection) :=
  (readAt_seeks h hb _).bind fun _ _ => (readAt_seeks h hb _).bind fun _ _ => .pure trivial

theorem capacity_seeks :
    heap.capacity.Seeks scene
      (fun total => ∃ count, IsWord count ∧ total = count * resolution.regionSizeBytes)
      (·.isInspection) := by
  refine (readAt_seeks h hb _).bind fun count hcount =>
    (regionSizeBytes_seeks h _).bind ?_
  rintro _ rfl
  exact .pure ⟨count, hcount, rfl⟩

theorem regionAt_seeks {index : Int} (hindex : IsWord index) :
    (heap.regionAt index).Seeks scene (fun _ => True) (·.isInspection) := by
  have hrequire (condition : Prop) [Decidable condition] {fault : Fault} (hf : fault.isInspection) :
      (require condition fault).Seeks scene (fun _ => True) (·.isInspection) :=
    .require condition fun _ => hf
  have hdecode (address : Int) :
      (heap.decodeRegion resolution.regionLayout index address).Seeks scene (fun _ => True)
        (·.isInspection) := by
    have hword (address : Int) :
        (heap.session.reader.readWord address).Seeks scene IsWord (·.isInspection) := by
      rw [h.reader]
      exact .of_load (.word h.host _) hb (view.width_pointerLoad_le _)
    have huint32 (address : Int) :
        (heap.session.reader.readUInt32 address).Seeks scene IsWord (·.isInspection) := by
      rw [h.reader]
      exact .of_load (.uint32 h.host _) hb (Nat.le_add_right 4 4)
    have hstate (code : Int) : (Probe.ofExcept (heap.session.settings.states.classify code)).Seeks
        scene (fun _ => True) (·.isInspection) := by
      refine .ofExcept (fun _ _ => trivial) fun fault hf => ?_
      unfold StateCodes.classify at hf
      split_ifs at hf
      cases hf
      rfl
    exact (huint32 _).bind fun _ _ => (hword _).bind fun _ _ => (hword _).bind fun _ _ =>
      (hword _).bind fun _ _ => (hrequire _ rfl).bind fun _ _ =>
        (hstate _).bind fun _ _ => .pure trivial
  have hslot : (heap.regionInSlot index).Seeks scene (fun _ => True) (·.isInspection) := by
    have hresolution : heap.session.resolution.Seeks scene (· = resolution) (·.isInspection) :=
      ⟨_, h.finds_resolution, fun _ hv => (Except.ok.inj hv).symm, nofun⟩
    refine hresolution.bind ?_
    rintro _ rfl
    refine (readAt_seeks h hb _).bind fun base _ => ?_
    rw [h.reader]
    have helement : Seeks _ scene IsWord (·.isInspection) :=
      .of_load (.element h.host base index) hb (view.width_pointerLoad_le _)
    exact helement.bind fun _ _ => hdecode _
  refine Seeks.bind (.require _ fun hc => (hc hindex.1).elim) fun _ (_ : True) =>
    (readAt_seeks h hb _).bind fun count hcount => (hrequire _ ?_).bind fun _ _ => hslot
  rw [Fault.ofIndex_some hindex.hasNumeral hcount]
  rfl

end Heap

def Fault.Stops (size : Int) (fault : Fault) : Prop :=
  fault.isInspection ∨ fault = .overlongNumeral ∧ Overlong size

namespace Reporter

variable {reporter : Reporter} {scene : Scene} {view : View} {resolution : Resolution}
  (h : reporter.heap.Sees scene view resolution) (hb : view.host.bindings)

section Blocks

include h hb

theorem describe_seeks :
    reporter.describe.Seeks scene
      (fun report => IsWord report.numRegions ∧ IsWord report.used ∧ IsWord report.committed)
      (·.isInspection) := by
  refine (Heap.readAt_seeks h hb _).bind fun numRegions hcount =>
    (Heap.used_seeks h hb).bind fun used hused => (Heap.readAt_seeks h hb _).bind
      fun committed hcommitted => (Heap.reservedRange_seeks h hb).bind fun range _ => ?_
  refine .ofExcept (fun report hr => ?_) fun fault hf => ?_
  · unfold HeapReport.check at hr
    split_ifs at hr
    cases hr
    exact ⟨hcount, hused, hcommitted⟩
  · unfold HeapReport.check at hf
    split_ifs at hf <;> cases hf <;> rfl

omit h hb in
theorem needNumerals_seeks {numbers : List Int} {kind : Fault → Prop}
    (hn : ∀ n ∈ numbers, hasNumeral n = false → kind .overlongNumeral) :
    (needNumerals numbers).Seeks scene (fun _ => True) kind := by
  refine .require _ fun hc => ?_
  obtain ⟨n, hmem, hlong⟩ : ∃ n ∈ numbers, hasNumeral n = false := by simpa using hc
  exact hn n hmem hlong

theorem summary_seeks :
    reporter.summary.Seeks scene (fun _ => True) (Fault.Stops resolution.regionSizeBytes) := by
  refine ((Heap.reservedRange_seeks h hb).mono (fun _ h => h) fun _ => .inl).bind fun range _ =>
    (Heap.regionSizeBytes_seeks h _).bind ?_
  rintro size rfl
  refine (needNumerals_seeks fun n hn hlong => ?_).bind fun _ _ => .pure trivial
  rw [List.mem_singleton.1 hn] at hlong
  exact .inr ⟨rfl, overlong_of_size hlong⟩

theorem status_seeks :
    reporter.status.Seeks scene (fun _ => True) (Fault.Stops resolution.regionSizeBytes) := by
  refine ((describe_seeks h hb).mono (fun _ h => h) fun _ => .inl).bind fun report hreport =>
    (Heap.regionSizeBytes_seeks h _).bind ?_
  rintro size rfl
  refine ((Heap.capacity_seeks h hb).mono (fun _ h => h) fun _ => .inl).bind ?_
  rintro _ ⟨count, hcount, rfl⟩
  refine (needNumerals_seeks fun n hn hlong => .inr ⟨rfl, ?_⟩).bind fun _ _ => .pure trivial
  obtain ⟨hnum, hused, hcommitted⟩ := hreport
  simp only [List.mem_cons, List.not_mem_nil, or_false] at hn
  rcases hn with rfl | rfl | rfl | rfl | rfl
  · exact ⟨count, hcount, hlong⟩
  · exact absurd hcommitted.hasNumeral_div (by simp [hlong])
  · exact absurd hused.hasNumeral_div (by simp [hlong])
  · exact absurd hnum.hasNumeral (by simp [hlong])
  · exact overlong_of_size hlong

theorem regionTable_seeks (accept : RegionFilter) :
    (reporter.regionTable accept).Seeks scene (fun _ => True) (·.isInspection) :=
  (Heap.regions_seeks (fun _ => Heap.regionAt_seeks h hb)
    (Heap.readAt_seeks h hb HeapLayout.numRegions) accept).bind fun _ _ => .pure trivial

end Blocks

end Reporter

namespace Printout

/-- Of blocks that end in these ways one after the other, these texts are printed, and that is how
the printout ends. -/
inductive Shows : List (Except Fault String) → List String → Except Fault Unit → Prop where
  | all : Shows [] [] (.ok ())
  | fault (fault : Fault) (later : List (Except Fault String)) :
      Shows (.error fault :: later) [] (.error fault)
  | text (text : String) {later : List (Except Fault String)} {texts : List String}
      {ending : Except Fault Unit} :
      Shows later texts ending → Shows (.ok text :: later) (text :: texts) ending

theorem Shows.answer {answers : List (Except Fault String)} {texts : List String}
    {ending : Except Fault Unit} (h : Shows answers texts ending) {index : Nat} {text : String}
    (ht : texts[index]? = some text) : answers[index]? = some (.ok text) := by
  induction h generalizing index with
  | all => simp at ht
  | fault fault later => simp at ht
  | text first _ ih =>
    cases index with
    | zero =>
      cases ht
      rfl
    | succ index => exact ih ht

theorem ofBlocks_run {scene : Scene} {kind : Fault → Prop} {blocks : List (Probe String)}
    (hb : ∀ block ∈ blocks, block.Seeks scene (fun _ => True) kind) {context : Context}
    (hc : context.scene scene.session = scene) :
    ∃ texts ending calls records,
      ofBlocks blocks context = .ok ⟨String.join texts, ending⟩ (context.note calls records) ∧
      Shows (blocks.map fun block => Probe.outcome block context) texts ending ∧
      ∀ fault, ending = .error fault → kind fault := by
  induction blocks generalizing context with
  | nil =>
    refine ⟨[], .ok (), [], [], ?_, .all, nofun⟩
    rw [Context.note_nil]
    rfl
  | cons block later ih =>
    obtain ⟨⟨result, calls, records⟩, hf, -, hkind⟩ := hb block List.mem_cons_self
    have ho := hf.outcome_eq hc
    unfold ofBlocks
    rw [bind_of_ok (hf.attempt.ok hc), List.map_cons, ho]
    cases result with
    | error fault =>
      refine ⟨[], .error fault, calls, records, rfl, .fault fault _, ?_⟩
      rintro _ ⟨⟩
      exact hkind fault rfl
    | ok text =>
      have hlater : ∀ block ∈ later, block.Seeks scene (fun _ => True) kind :=
        fun block hmem => hb block (List.mem_cons_of_mem _ hmem)
      have hc' := scene_note hc calls records
      obtain ⟨texts, ending, calls', records', hrun, hshows, hends⟩ := ih hlater hc'
      refine ⟨text :: texts, ending, calls ++ calls', records ++ records', ?_, ?_, hends⟩
      · dsimp only
        rw [bind_of_ok hrun, Context.note_note, String.join_cons]
        rfl
      · -- The later blocks end as they would have without the first.
        have hsame : (later.map fun block => Probe.outcome block (context.note calls records)) =
            later.map fun block => Probe.outcome block context := by
          apply List.map_congr_left
          intro block hmem
          obtain ⟨finding, hfinds, -⟩ := hlater block hmem
          rw [hfinds.outcome_eq hc, hfinds.outcome_eq hc']
        rw [hsame] at hshows
        exact .text text hshows

end Printout

namespace Reporter

variable (reporter : Reporter) (regions : Bool) (accept : RegionFilter)

def blocks : List (Probe String) :=
  [printed <$> reporter.summary, printed <$> reporter.status] ++
    if regions then [do return (← reporter.regionTable accept).grid.text] else []

/-- What is printed was read: the reserved range for the summary, the counters for the status, and the
regions, all that are admitted, for the table. -/
structure Rests (context : Context) (texts : List String) : Prop where
  summary : 0 < texts.length → ∃ range, outcome reporter.heap.reservedRange context = .ok range
  status : 1 < texts.length → ∃ report, outcome reporter.describe context = .ok report
  table : ∀ text, texts[2]? = some text → ∃ table regions,
    outcome (reporter.regionTable accept) context = .ok table ∧ text = table.grid.text ∧
      outcome (reporter.heap.regions accept) context = .ok regions ∧
      table.rows = regions.map RegionTable.row

variable {reporter regions accept} {scene : Scene} {view : View} {resolution : Resolution}
  {context : Context}

theorem blocks_seek (h : reporter.heap.Sees scene view resolution) (hb : view.host.bindings) :
    ∀ block ∈ reporter.blocks regions accept,
      block.Seeks scene (fun _ => True) (Fault.Stops resolution.regionSizeBytes) := by
  have hsummary : (printed <$> reporter.summary).Seeks scene (fun _ => True) _ :=
    (summary_seeks h hb).bind fun _ _ => .pure trivial
  have hstatus : (printed <$> reporter.status).Seeks scene (fun _ => True) _ :=
    (status_seeks h hb).bind fun _ _ => .pure trivial
  have htable : Seeks (do return (← reporter.regionTable accept).grid.text) scene (fun _ => True)
      (Fault.Stops resolution.regionSizeBytes) :=
    ((regionTable_seeks h hb accept).mono (fun _ h => h) fun _ => .inl).bind
      fun _ _ => .pure trivial
  intro block hblock
  rcases List.mem_append.1 hblock with hfirst | hlast
  · simp only [List.mem_cons, List.not_mem_nil, or_false] at hfirst
    rcases hfirst with rfl | rfl
    · exact hsummary
    · exact hstatus
  · cases regions with
    | false => cases hlast
    | true =>
      rw [List.mem_singleton.1 hlast]
      exact htable

theorem rests_of_shows {texts : List String} {ending : Except Fault Unit}
    (h : Printout.Shows ((reporter.blocks regions accept).map fun block => outcome block context)
      texts ending) : reporter.Rests accept context texts where
  summary hlength := by
    have hanswer := h.answer (List.getElem?_eq_getElem hlength)
    obtain ⟨text, ho, -⟩ := exists_of_outcome_bind
      (show outcome (printed <$> reporter.summary) context = _ from Option.some.inj hanswer)
    obtain ⟨range, hrange, -⟩ := exists_of_outcome_bind ho
    exact ⟨range, hrange⟩
  status hlength := by
    have hanswer := h.answer (List.getElem?_eq_getElem hlength)
    obtain ⟨text, ho, -⟩ := exists_of_outcome_bind
      (show outcome (printed <$> reporter.status) context = _ from Option.some.inj hanswer)
    obtain ⟨report, hreport, -⟩ := exists_of_outcome_bind ho
    exact ⟨report, hreport⟩
  table text ht := by
    have hanswer := h.answer ht
    cases regions with
    | false => cases hanswer
    | true =>
      obtain ⟨table, htable, htext⟩ := exists_of_outcome_bind
        (show outcome (do return (← reporter.regionTable accept).grid.text) context = _ from
          Option.some.inj hanswer)
      obtain ⟨regions, hregions, hrows⟩ := exists_of_outcome_bind htable
      refine ⟨table, regions, htable, (Except.ok.inj htext).symm, hregions, ?_⟩
      rw [← Except.ok.inj hrows]

/-- A printout on a resolved session shows its blocks, and is stopped by nothing that does not stop a
report. -/
theorem print_run (h : reporter.heap.Sees scene view resolution) (hb : view.host.bindings)
    (hc : context.scene scene.session = scene) :
    ∃ texts ending calls records,
      reporter.print regions accept context =
        .ok ⟨String.join texts, ending⟩ (context.note calls records) ∧
      Printout.Shows ((reporter.blocks regions accept).map fun block => outcome block context)
        texts ending ∧
      ∀ fault, ending = .error fault → fault.Stops resolution.regionSizeBytes :=
  Printout.ofBlocks_run (blocks_seek h hb) hc

end Reporter

end HeapProbe
