import HeapProbe.Heap.Report
import HeapProbe.Proofs.Heap.Visitor
import HeapProbe.Proofs.Probe.Truth
import Mathlib.Algebra.Ring.Nat

/-! # Listing regions

The regions that a filter admits are picked from those that are decoded, and the picking has no
influence on the decoding. So a walk with a filter is the walk over all regions with a visitor that
passes over what the filter does not admit, and a listing with a filter is the filtered table. What
is counted, listed in parts or put into a table of its own rests on the same one table.
-/

namespace HeapProbe

open Probe

def Walk.select (walk : Walk) (accept : RegionFilter) : Walk :=
  { walk with visited := walk.visited.filter fun region => accept region.state }

/-- The visitor that passes over the regions that a filter does not admit. -/
def RegionFilter.gate (accept : RegionFilter) (visit : Region → Probe Unit) (region : Region) :
    Probe Unit :=
  if accept region.state then visit region else pure ()

theorem filter_everything (regions : List Region) :
    (regions.filter fun region => RegionFilter.everything region.state) = regions :=
  List.filter_eq_self.2 fun _ _ => rfl

section Gate

variable (heap : Heap) (accept : RegionFilter) (visit : Region → Probe Unit)

theorem gate_pure : (accept.gate fun _ => pure ()) = fun _ => pure () := by
  funext region
  exact ite_self _

/-- Filtering before the visitor and filtering in the visitor come to the same. -/
theorem Heap.walkFrom_eq_gated (index remaining : Nat) :
    heap.walkFrom accept visit index remaining =
      (fun walk => walk.select accept) <$>
        heap.walkFrom .everything (accept.gate visit) index remaining := by
  induction remaining generalizing index with
  | zero => rfl
  | succ remaining ih =>
    have hpass : attempt (pure () : Probe Unit) = pure (.ok ()) := rfl
    unfold walkFrom
    rw [map_bind]
    congr 1
    funext decoded
    cases decoded with
    | error fault => simp [Walk.select]
    | ok region =>
      by_cases ha : accept region.state
      · simp only [RegionFilter.everything, RegionFilter.gate, ha, if_true, map_bind]
        congr 1
        funext visited
        cases visited with
        | error fault => simp [Walk.select, ha]
        | ok _ => simp [ih, Walk.select, ha]
      · simp only [RegionFilter.everything, RegionFilter.gate, ha, if_true, if_false,
          Bool.false_eq_true, map_bind, hpass, pure_bind]
        simp [ih, Walk.select, ha]

/-- So do they over the whole walk, but for the record of how many regions were visited. -/
theorem Heap.walk_gated (context : Context) :
    ∃ (walk : Walk) (left : Context) (records records' : List LogRecord),
      heap.walk .everything (accept.gate visit) context = .ok walk (left.note [] records) ∧
      heap.walk accept visit context = .ok (walk.select accept) (left.note [] records') := by
  have hrun := attempt_run heap.numRegions context
  unfold walk
  rw [bind_of_ok hrun, bind_of_ok hrun]
  cases hc : outcome heap.numRegions context with
  | error fault =>
    have hnil := Context.note_nil (after heap.numRegions context)
    exact ⟨⟨[], .error fault⟩, _, [], [], by rw [hnil]; rfl, by rw [hnil]; rfl⟩
  | ok count =>
    have hlog : (log .debug .walk s!"Walking {decimal count} regions").Finds
      ((after heap.numRegions context).scene 0) ⟨.ok (), [], startRecords count⟩ := .log _ _ _
    obtain ⟨walk, left, hfrom, -⟩ := @walkFrom_moments heap .everything (accept.gate visit) 0
      count.toNat ((after heap.numRegions context).note [] (startRecords count))
    have hfrom' : heap.walkFrom accept visit 0 count.toNat
        ((after heap.numRegions context).note [] (startRecords count)) =
          .ok (walk.select accept) left := by
      rw [walkFrom_eq_gated, map_eq_pure_bind, bind_of_ok hfrom]
      rfl
    dsimp only
    rw [bind_of_ok (hlog.ok rfl), bind_of_ok (hlog.ok rfl), bind_of_ok hfrom, bind_of_ok hfrom',
      bind_of_ok ((finds_noteEnd (left.scene 0) count walk).ok rfl),
      bind_of_ok ((finds_noteEnd (left.scene 0) count (walk.select accept)).ok rfl)]
    exact ⟨walk, left, _, _, rfl, rfl⟩

theorem Heap.iterate_gated (context : Context) :
    outcome (heap.iterate visit accept) context =
        outcome (heap.iterate (accept.gate visit) .everything) context ∧
      (after (heap.iterate visit accept) context).trace =
        (after (heap.iterate (accept.gate visit) .everything) context).trace := by
  obtain ⟨walk, left, records, records', hall, hsome⟩ := heap.walk_gated accept visit context
  obtain ⟨ho, ha⟩ := iterate_of_walk hall
  obtain ⟨ho', ha'⟩ := iterate_of_walk hsome
  rw [ho, ha, ho', ha', Context.trace_note, Context.trace_note]
  exact ⟨rfl, rfl⟩

theorem Heap.regions_of_walk {heap : Heap} {accept : RegionFilter} {context later : Context}
    {walk : Walk} (h : heap.walk accept (fun _ => pure ()) context = .ok walk later) :
    outcome (heap.regions accept) context = walk.outcome.map (fun _ => walk.visited) ∧
      after (heap.regions accept) context = later := by
  unfold Heap.regions
  rw [outcome_bind_of_ok h, after_bind_of_ok h]
  cases walk.outcome <;> exact ⟨rfl, rfl⟩

/-- A listing with a filter is the filtered listing of everything, and takes the same calls. -/
theorem Heap.regions_select (context : Context) :
    outcome (heap.regions accept) context =
        (outcome (heap.regions .everything) context).map
          (List.filter fun region => accept region.state) ∧
      (after (heap.regions accept) context).trace =
        (after (heap.regions .everything) context).trace := by
  obtain ⟨walk, left, records, records', hall, hsome⟩ :=
    heap.walk_gated accept (fun _ => pure ()) context
  rw [gate_pure] at hall
  obtain ⟨ho, ha⟩ := regions_of_walk hall
  obtain ⟨ho', ha'⟩ := regions_of_walk hsome
  rw [ho, ha, ho', ha', Context.trace_note, Context.trace_note]
  refine ⟨?_, rfl⟩
  rw [Walk.select]
  cases walk.outcome <;> rfl

end Gate

/-! ## The table -/

/-- All regions of the table, or the fault of the first that cannot be decoded. -/
def View.table (view : View) (resolution : Resolution) (codes : StateCodes) :
    Except Fault (List Region) :=
  match (view.heapWord resolution HeapLayout.numRegions).outcome with
  | .error fault => .error fault
  | .ok count =>
    let decoded := decodeFrom (fun i => (view.region resolution codes i).outcome) 0 count.toNat
    decoded.2.map fun _ => decoded.1

theorem View.table_eq_ok_iff {view : View} {resolution : Resolution} {codes : StateCodes}
    {regions : List Region} :
    view.table resolution codes = .ok regions ↔
      (view.heapWord resolution HeapLayout.numRegions).outcome = .ok (regions.length : Int) ∧
        ∀ i (h : i < regions.length), (view.region resolution codes i).outcome = .ok regions[i] := by
  unfold table
  constructor
  · intro h
    cases hc : (view.heapWord resolution HeapLayout.numRegions).outcome with
    | error fault =>
      rw [hc] at h
      cases h
    | ok count =>
      obtain ⟨n, rfl⟩ := Int.eq_ofNat_of_zero_le (view.isWord_of_heapWord resolution hc).1
      rw [hc] at h
      simp only [Int.toNat_natCast] at h
      rcases decodeFrom_ending (fun i => (view.region resolution codes i).outcome) 0 n with
        ⟨hend, hlength⟩ | ⟨fault, hend, -⟩
      · rw [hend] at h
        cases h
        refine ⟨by rw [hlength], fun i hi => ?_⟩
        rw [← decode_of_lt_decodeFrom _ hi, Nat.zero_add]
      · rw [hend] at h
        cases h
  · rintro ⟨hc, hregions⟩
    rw [hc]
    dsimp only
    rw [Int.toNat_natCast, decodeFrom_eq_of_ok _ hregions]
    rfl

theorem foldl_handOut_pure (accept : RegionFilter) (calls : Nat → List DebuggerCall)
    (decoded : List (Region × Nat)) (context : Context) :
    decoded.foldl (handOut accept (fun _ => pure ()) calls) context =
      context.note (decoded.flatMap fun region => calls region.2) [] := by
  induction decoded generalizing context with
  | nil => simp
  | cons first rest ih =>
    have hfirst : handOut accept (fun _ => pure ()) calls context first =
        context.note (calls first.2) [] := ite_self _
    rw [List.foldl_cons, hfirst, ih, Context.note_note]
    rfl

namespace Heap.Sees

variable {heap : Heap} {scene : Scene} {view : View} {resolution : Resolution}

theorem finds_table (h : heap.Sees scene view resolution) :
    ∃ calls records, (heap.regions .everything).Finds scene
      ⟨view.table resolution heap.session.settings.states, calls, records⟩ := by
  have hcount := h.finds_numRegions
  have hvisit : LeavesBe (fun _ => pure ()) scene := fun _ _ hc => ⟨rfl, hc⟩
  unfold View.table
  cases hc : (view.heapWord resolution HeapLayout.numRegions).outcome with
  | error fault =>
    rw [hc] at hcount
    exact ⟨_, _, .of_outcome_after fun context hscene =>
      regions_of_walk (walk_of_count_fault .everything _ hcount hscene)⟩
  | ok count =>
    rw [hc] at hcount
    have hrange (i : Nat) (hi : i < count.toNat) (count' : Int)
        (hc' : (view.heapWord resolution HeapLayout.numRegions).outcome = .ok count') :
        (i : Int) < count' := by
      cases hc.symm.trans hc'
      omega
    have hdecode (i : Nat) (hi : i < count.toNat) :=
      h.finds_regionAt_of_lt (Int.natCast_nonneg i) (hrange i hi)
    have hrun (context : Context) (hscene : context.scene scene.session = scene) :=
      regions_of_walk (walk_run .everything hcount hdecode hvisit hscene)
    simp only [foldl_handOut_pure, Context.note_note, filter_everything] at hrun
    exact ⟨_, _, .of_outcome_after hrun⟩

variable {context : Context} {regions : List Region}

theorem table_eq_ok_iff (h : heap.Sees scene view resolution)
    (hscene : context.scene scene.session = scene) :
    view.table resolution heap.session.settings.states = .ok regions ↔
      outcome heap.numRegions context = .ok (regions.length : Int) ∧
        ∀ i (h : i < regions.length), outcome (heap.regionAt i) context = .ok regions[i] := by
  rw [View.table_eq_ok_iff, h.finds_numRegions.outcome_eq hscene]
  simp only [(h.finds_regionAt _).outcome_eq hscene]

theorem regions_of_decoded (h : heap.Sees scene view resolution)
    (hscene : context.scene scene.session = scene)
    (hcount : outcome heap.numRegions context = .ok (regions.length : Int))
    (hregions : ∀ i (h : i < regions.length), outcome (heap.regionAt i) context = .ok regions[i]) :
    outcome (heap.regions .everything) context = .ok regions := by
  obtain ⟨calls, records, hfinds⟩ := h.finds_table
  exact (hfinds.outcome_eq hscene).trans ((h.table_eq_ok_iff hscene).2 ⟨hcount, hregions⟩)

theorem index_of_table (h : heap.Sees scene view resolution)
    (hscene : context.scene scene.session = scene)
    (htable : view.table resolution heap.session.settings.states = .ok regions) {i : Nat}
    (hi : i < regions.length) : regions[i].index = i :=
  heap.regionAt_yields_index _ _ _ (((h.table_eq_ok_iff hscene).1 htable).2 i hi)

theorem table_ascending (h : heap.Sees scene view resolution)
    (hscene : context.scene scene.session = scene)
    (htable : view.table resolution heap.session.settings.states = .ok regions) :
    regions.Pairwise fun first second => first.index < second.index := by
  refine List.pairwise_iff_getElem.2 fun i j hi hj hij => ?_
  rw [h.index_of_table hscene htable hi, h.index_of_table hscene htable hj]
  omega

end Heap.Sees

/-! ## Parts of a list -/

section Parts

variable {α : Type} {le : α → α → Bool}

theorem cons_merge_of_le {x : α} {xs ys : List α} (h : ∀ y ∈ ys, le x y) :
    (x :: xs).merge ys le = x :: xs.merge ys le := by
  cases ys with
  | nil => simp
  | cons y ys => rw [List.cons_merge_cons, if_pos (h y List.mem_cons_self)]

theorem merge_cons_of_not_le {y : α} {xs ys : List α} (h : ∀ x ∈ xs, ¬ le x y) :
    xs.merge (y :: ys) le = y :: xs.merge ys le := by
  cases xs with
  | nil => simp
  | cons x xs => rw [List.cons_merge_cons, if_neg (h x List.mem_cons_self)]

/-- Two parts of an ordered list are merged to the part that they make up together. -/
theorem merge_filter {l : List α} (hl : l.Pairwise fun x y => le x y ∧ ¬ le y x) {p q : α → Bool}
    (hpq : ∀ x, p x → ¬ q x) :
    (l.filter p).merge (l.filter q) le = l.filter fun x => p x || q x := by
  induction hl with
  | nil => simp
  | @cons x l hx hl ih =>
    cases hp : p x with
    | true =>
      have hq : q x = false := Bool.eq_false_iff.2 (hpq x hp)
      have hle : ∀ y ∈ l.filter q, le x y := fun y hy => (hx y (List.mem_filter.1 hy).1).1
      simp only [List.filter_cons, hp, hq, Bool.or_false, if_true, Bool.false_eq_true, if_false]
      rw [cons_merge_of_le hle, ih]
    | false =>
      cases hq : q x with
      | true =>
        have hle : ∀ y ∈ l.filter p, ¬ le y x := fun y hy => (hx y (List.mem_filter.1 hy).1).2
        simp only [List.filter_cons, hp, hq, Bool.or_true, if_true, Bool.false_eq_true, if_false]
        rw [merge_cons_of_not_le hle, ih]
      | false =>
        simp only [List.filter_cons, hp, hq, Bool.or_false, Bool.false_eq_true, if_false, ih]

end Parts

theorem sum_countP_states (regions : List Region) :
    (RegionState.all.map fun state => regions.countP fun region => region.state = state).sum =
      regions.length := by
  induction regions with
  | nil => rfl
  | cons region regions ih =>
    rw [List.length_cons, ← ih]
    cases hs : region.state <;> simp [RegionState.all, hs] <;> omega

def Region.stands (first second : Region) : Bool := first.index ≤ second.index

/-- What the listings of a heap have in common: a table, or the fault that there is instead of one,
and the calls that they all make. -/
structure Heap.Lists (heap : Heap) (table : Except Fault (List Region)) (calls : List DebuggerCall)
    (context : Context) : Prop where
  everything : outcome (heap.regions .everything) context = table
  /-- A filter picks from the table, and has no say in what is read or how that ends. -/
  picked : ∀ accept,
    outcome (heap.regions accept) context =
        table.map (List.filter fun region => accept region.state) ∧
      (after (heap.regions accept) context).trace = context.trace ++ calls
  pickedLive : outcome heap.regions context =
    table.map (List.filter fun region => region.state = .live)
  /-- What is listed of separate states has no index in common, and is merged by index to what is
  listed of them all. -/
  merged : ∀ states others both : List RegionState, (∀ state ∈ states, state ∉ others) →
    (∀ state, state ∈ both ↔ state ∈ states ∨ state ∈ others) → ∀ first second,
    outcome (heap.regions (.only states)) context = .ok first →
    outcome (heap.regions (.only others)) context = .ok second →
      (∀ region ∈ first, ∀ other ∈ second, region.index ≠ other.index) ∧
      outcome (heap.regions (.only both)) context = .ok (first.merge second Region.stands)
  countFault : ∀ fault, outcome heap.countByState context = .error fault ↔ table = .error fault
  countCalls : (after heap.countByState context).trace = context.trace ++ calls
  counted : ∀ counts, outcome heap.countByState context = .ok counts →
    counts.map Prod.fst = RegionState.all ∧
    (∀ state count, (state, count) ∈ counts → ∃ regions,
      outcome (heap.regions (.only [state])) context = .ok regions ∧ regions.length = count) ∧
    outcome heap.numRegions context = .ok ((counts.map Prod.snd).sum : Int)
  visitedLive : ∀ visit : Region → Probe Unit,
    let passing region := if region.state = .live then visit region else pure ()
    outcome (heap.iterate visit) context = outcome (heap.iterate passing .everything) context ∧
      (after (heap.iterate visit) context).trace =
        (after (heap.iterate passing .everything) context).trace
  tabulated : ∀ name,
    (outcome (Reporter.regionTable ⟨heap, name⟩) context).map RegionTable.rows =
        table.map (List.map RegionTable.row) ∧
      (after (Reporter.regionTable ⟨heap, name⟩) context).trace = context.trace ++ calls

section Filters

variable {heap : Heap} {scene : Scene} {view : View} {resolution : Resolution} {context : Context}

theorem only_append {states others both : List RegionState}
    (hboth : ∀ state, state ∈ both ↔ state ∈ states ∨ state ∈ others) (state : RegionState) :
    RegionFilter.only both state =
      (RegionFilter.only states state || RegionFilter.only others state) := by
  simp [RegionFilter.only, hboth]

theorem merged_of_table (h : heap.Sees scene view resolution)
    (hscene : context.scene scene.session = scene) {table : Except Fault (List Region)}
    (htable : view.table resolution heap.session.settings.states = table)
    {states others both : List RegionState} (happart : ∀ state ∈ states, state ∉ others)
    (hboth : ∀ state, state ∈ both ↔ state ∈ states ∨ state ∈ others) {first second : List Region}
    (hfirst : table.map (List.filter fun region => RegionFilter.only states region.state) =
      .ok first)
    (hsecond : table.map (List.filter fun region => RegionFilter.only others region.state) =
      .ok second) :
    (∀ region ∈ first, ∀ other ∈ second, region.index ≠ other.index) ∧
      table.map (List.filter fun region => RegionFilter.only both region.state) =
        .ok (first.merge second Region.stands) := by
  cases table with
  | error fault => cases hfirst
  | ok regions =>
    cases hfirst
    cases hsecond
    have hpick : ∀ region : Region, RegionFilter.only states region.state →
        ¬ RegionFilter.only others region.state := fun region hs ho =>
      happart _ (of_decide_eq_true hs) (of_decide_eq_true ho)
    have hordered : regions.Pairwise fun x y => Region.stands x y ∧ ¬ Region.stands y x := by
      refine (h.table_ascending hscene htable).imp fun {x y} hlt => ?_
      simp only [Region.stands, decide_eq_true_eq]
      omega
    refine ⟨fun region hregion other hother hindex => ?_, ?_⟩
    · obtain ⟨hmem, hs⟩ := List.mem_filter.1 hregion
      obtain ⟨hmem', ho⟩ := List.mem_filter.1 hother
      obtain ⟨i, hi, rfl⟩ := List.mem_iff_getElem.1 hmem
      obtain ⟨j, hj, rfl⟩ := List.mem_iff_getElem.1 hmem'
      rw [h.index_of_table hscene htable hi, h.index_of_table hscene htable hj] at hindex
      obtain rfl : i = j := by omega
      exact hpick _ hs ho
    · rw [merge_filter hordered hpick]
      simp only [Except.map, only_append hboth]

theorem counted_of_table (h : heap.Sees scene view resolution)
    (hscene : context.scene scene.session = scene) {regions : List Region}
    (htable : view.table resolution heap.session.settings.states = .ok regions)
    (hpicked : ∀ accept, outcome (heap.regions accept) context =
      .ok (regions.filter fun region => accept region.state)) :
    let counts := RegionState.all.map fun state =>
      (state, regions.countP fun region => region.state = state)
    counts.map Prod.fst = RegionState.all ∧
    (∀ state count, (state, count) ∈ counts → ∃ listed,
      outcome (heap.regions (.only [state])) context = .ok listed ∧ listed.length = count) ∧
    outcome heap.numRegions context = .ok ((counts.map Prod.snd).sum : Int) := by
  intro counts
  refine ⟨rfl, fun state count hcount => ?_, ?_⟩
  · obtain ⟨state', -, he⟩ := List.mem_map.1 hcount
    cases he
    refine ⟨_, hpicked _, ?_⟩
    rw [List.countP_eq_length_filter]
    simp [RegionFilter.only]
  · have hsum : (counts.map Prod.snd).sum = regions.length := sum_countP_states regions
    rw [hsum]
    exact ((h.table_eq_ok_iff hscene).1 htable).1

theorem finds_map {α β : Type} {probe : Probe α} {result : Except Fault α}
    {calls : List DebuggerCall} {records : List LogRecord}
    (h : probe.Finds scene ⟨result, calls, records⟩) (f : α → β) :
    (probe >>= fun value => pure (f value)).Finds scene ⟨result.map f, calls, records⟩ := by
  refine (h.bind fun value _ => .pure (f value)).congr ?_
  cases result <;> simp [Except.map]

theorem lists_of_table (h : heap.Sees scene view resolution)
    {table : Except Fault (List Region)} {calls : List DebuggerCall} {records : List LogRecord}
    (htable : view.table resolution heap.session.settings.states = table)
    (hfinds : (heap.regions .everything).Finds scene ⟨table, calls, records⟩)
    (hscene : context.scene scene.session = scene) : heap.Lists table calls context := by
  have hpicked (accept : RegionFilter) :
      outcome (heap.regions accept) context =
          table.map (List.filter fun region => accept region.state) ∧
        (after (heap.regions accept) context).trace = context.trace ++ calls := by
    obtain ⟨ho, ha⟩ := heap.regions_select accept context
    rw [ho, ha, hfinds.outcome_eq hscene, hfinds.after_eq hscene, Context.trace_note]
    exact ⟨rfl, rfl⟩
  have hcounts := finds_map hfinds fun regions => RegionState.all.map fun state =>
    (state, regions.countP fun region => region.state = state)
  have hcounted : outcome heap.countByState context = table.map _ := hcounts.outcome_eq hscene
  constructor
  case everything => exact hfinds.outcome_eq hscene
  case picked => exact hpicked
  case pickedLive => exact (hpicked .liveOnly).1
  case merged =>
    intro states others both happart hboth first second hfirst hsecond
    rw [(hpicked _).1] at hfirst hsecond ⊢
    exact merged_of_table h hscene htable happart hboth hfirst hsecond
  case countFault =>
    intro fault
    rw [hcounted]
    cases table <;> simp [Except.map]
  case countCalls =>
    have hlater : after heap.countByState context = _ := hcounts.after_eq hscene
    rw [hlater, Context.trace_note]
  case counted =>
    intro counts hcount
    rw [hcounted] at hcount
    cases table with
    | error fault => cases hcount
    | ok regions =>
      cases hcount
      exact counted_of_table h hscene htable fun accept => (hpicked accept).1
  case visitedLive =>
    intro visit passing
    have hgate : RegionFilter.gate .liveOnly visit = passing := by
      funext region
      simp [RegionFilter.gate, RegionFilter.liveOnly, passing]
    have hgated := heap.iterate_gated .liveOnly visit context
    rwa [hgate] at hgated
  case tabulated =>
    intro name
    have hreport : (Reporter.regionTable ⟨heap, name⟩).Finds scene _ := finds_map hfinds _
    rw [hreport.outcome_eq hscene, hreport.after_eq hscene, Context.trace_note]
    cases table <;> exact ⟨rfl, rfl⟩

end Filters

/-- **Filters select, and never steer.** On a resolved session there is a table, or a fault instead
of one, and there are calls, such that every listing, count and report has them in common, whenever
it is made and whichever filter it has, as long as the debugger's side and the session stay as they
are. -/
theorem Heap.filters_select {heap : Heap} {inferior : Inferior} {kept : Int}
    (hreader : heap.session.reader = inferior.readerOfSize kept) {context : Context}
    {resolution : Resolution} (hphase : context.phase heap.session.id = .resolved resolution) :
    ∃ (table : Except Fault (List Region)) (calls : List DebuggerCall), ∀ later : Context,
      later.scene heap.session.id = context.scene heap.session.id →
        heap.Lists table calls later := by
  have hsees := Heap.Sees.of_phase hreader hphase
  obtain ⟨calls, records, hfinds⟩ := hsees.finds_table
  exact ⟨_, calls, fun later hlater => lists_of_table hsees rfl hfinds hlater⟩

/-- The context of a heap with two regions side by side, a live one and one of trash. -/
def tiledContext : Context :=
  { tornContext with
    host := { images := [{ memory := ⟨[
      .write 0x1010 (ByteOrder.little.encode 8 0x10000 ++ ByteOrder.little.encode 8 0x4000),
      .write 0x1100 (ByteOrder.little.encode 8 2),
      .write 0x1118 (ByteOrder.little.encode 8 0x2000),
      .write 0x2000 (ByteOrder.little.encode 8 0x3000 ++ ByteOrder.little.encode 8 0x4000),
      .write 0x3008 (ByteOrder.little.encode 8 0x10000 ++ ByteOrder.little.encode 8 0x20000 ++
        ByteOrder.little.encode 8 0x18000),
      .write 0x3040 (ByteOrder.little.encode 4 2),
      .write 0x4008 (ByteOrder.little.encode 8 0x20000 ++ ByteOrder.little.encode 8 0x30000 ++
        ByteOrder.little.encode 8 0x20000),
      .write 0x4040 (ByteOrder.little.encode 4 9)]⟩ }] } }

def tiledRegions : List Region :=
  [⟨0, 0x3000, 0x10000, 0x20000, 0x18000, .live, 2⟩,
    ⟨1, 0x4000, 0x20000, 0x30000, 0x20000, .trash, 9⟩]

theorem regionAt_of_tiled (i : Nat) (h : i < tiledRegions.length) :
    outcome (tornHeap.regionAt i) tiledContext = .ok tiledRegions[i] := by
  have hi : i = 0 ∨ i = 1 := by
    change i < 2 at h
    omega
  rcases hi with rfl | rfl <;> rfl

/-- The first of the two regions is live, and both together are what there is. -/
theorem filters_select_tiled :
    outcome tornHeap.regions tiledContext = .ok (tiledRegions.take 1) ∧
      outcome (tornHeap.regions (.only [.live, .trash])) tiledContext = .ok tiledRegions := by
  obtain ⟨table, calls, hlists⟩ := @Heap.filters_select tornHeap ⟨0, ⟨some 0⟩⟩ 8 rfl tiledContext
    _ rfl
  have hlists := hlists tiledContext rfl
  have hall := (@Heap.Sees.of_phase tornHeap _ ⟨0, ⟨some 0⟩⟩ 8 tiledContext rfl rfl)
  have htable := hlists.everything.symm.trans (hall.regions_of_decoded rfl rfl regionAt_of_tiled)
  have hlive := hlists.pickedLive
  have hboth := (hlists.picked (.only [.live, .trash])).1
  rw [htable] at hlive hboth
  exact ⟨hlive, hboth⟩

end HeapProbe
