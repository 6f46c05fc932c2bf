import HeapProbe.Heap.Walk
import HeapProbe.Proofs.Heap.Decode

/-! # Walks over a heap that stays as it is

As long as nothing changes what can be seen, decoding an index finds the same at any time. A walk
then decodes the indices in ascending order up to the first that fails or to the count, hands out
the admitted regions among those decoded, and ends as the decoding does. Its calls are those of the
count and of each index that it decodes, and between them those of the visitor.
-/

namespace HeapProbe

open Probe

/-- The regions decoded from an index on up to the first that fails, and how that ends. -/
def decodeFrom (decode : Nat → Except Fault Region) : Nat → Nat → List Region × Except Fault Unit
  | _, 0 => ([], .ok ())
  | index, remaining + 1 =>
    match decode index with
    | .error fault => ([], .error fault)
    | .ok region =>
      let rest := decodeFrom decode (index + 1) remaining
      (region :: rest.1, rest.2)

section DecodeFrom

variable (decode : Nat → Except Fault Region)

theorem length_decodeFrom_le (index remaining : Nat) :
    (decodeFrom decode index remaining).1.length ≤ remaining := by
  induction remaining generalizing index with
  | zero => simp [decodeFrom]
  | succ remaining ih =>
    rw [decodeFrom]
    cases decode index with
    | error fault => simp
    | ok region => simpa using ih (index + 1)

theorem decode_of_lt_decodeFrom {index remaining i : Nat}
    (h : i < (decodeFrom decode index remaining).1.length) :
    decode (index + i) = .ok (decodeFrom decode index remaining).1[i] := by
  induction remaining generalizing index i with
  | zero => simp [decodeFrom] at h
  | succ remaining ih =>
    cases hd : decode index with
    | error fault => simp [decodeFrom, hd] at h
    | ok region =>
      cases i with
      | zero => simp [decodeFrom, hd]
      | succ i =>
        simp only [decodeFrom, hd, List.length_cons, Nat.add_lt_add_iff_right] at h
        have := ih h
        simp only [decodeFrom, hd, List.getElem_cons_succ]
        rw [← this]
        congr 1
        omega

theorem decodeFrom_ending (index remaining : Nat) :
    ((decodeFrom decode index remaining).2 = .ok () ∧
        (decodeFrom decode index remaining).1.length = remaining) ∨
      ∃ fault, (decodeFrom decode index remaining).2 = .error fault ∧
        (decodeFrom decode index remaining).1.length < remaining ∧
        decode (index + (decodeFrom decode index remaining).1.length) = .error fault := by
  induction remaining generalizing index with
  | zero => exact .inl ⟨rfl, rfl⟩
  | succ remaining ih =>
    rw [decodeFrom]
    cases hd : decode index with
    | error fault => exact .inr ⟨fault, rfl, by simp, by simpa using hd⟩
    | ok region =>
      rcases ih (index + 1) with ⟨ho, hl⟩ | ⟨fault, he, hl, hf⟩
      · exact .inl ⟨ho, by simpa using hl⟩
      · refine .inr ⟨fault, he, by simpa using hl, ?_⟩
        rw [← hf, List.length_cons]
        congr 1
        omega

theorem decodeFrom_eq_of_ok {regions : List Region}
    (h : ∀ i (hi : i < regions.length), decode i = .ok regions[i]) :
    decodeFrom decode 0 regions.length = (regions, .ok ()) := by
  rcases decodeFrom_ending decode 0 regions.length with ⟨ho, hl⟩ | ⟨fault, -, hl, hf⟩
  · refine Prod.ext (List.ext_getElem hl fun i hi hi' => ?_) ho
    have hd := decode_of_lt_decodeFrom decode hi
    rw [Nat.zero_add, h i hi'] at hd
    exact (Except.ok.inj hd).symm
  · rw [Nat.zero_add, h _ hl] at hf
    cases hf

end DecodeFrom

def abortRecords (index : Nat) : Except Fault Unit → List LogRecord
  | .error (.unavailable address length failure) =>
    let fault : Fault := .unavailable address length failure
    [⟨.warning, .walk, s!"Walk aborted at region {decimal index}: {fault.message}"⟩]
  | _ => []

def startRecords (count : Int) : List LogRecord :=
  [⟨.debug, .walk, s!"Walking {decimal count} regions"⟩]

def endRecords (count : Int) (visited : List Region) : Except Fault Unit → List LogRecord
  | .ok () =>
    [⟨.debug, .walk, s!"Visited {decimal visited.length} of {decimal count} regions"⟩]
  | .error _ => []

theorem finds_noteAbort (scene : Scene) (index : Nat) (fault : Fault) :
    (Heap.noteAbort index fault).Finds scene ⟨.ok (), [], abortRecords index (.error fault)⟩ := by
  cases fault
  case unavailable => exact .log _ _ _
  all_goals exact .pure ()

theorem finds_noteEnd (scene : Scene) (count : Int) (walk : Walk) :
    (Heap.noteEnd count walk).Finds scene
      ⟨.ok (), [], endRecords count walk.visited walk.outcome⟩ := by
  unfold Heap.noteEnd
  cases walk.outcome with
  | ok _ => exact .log _ _ _
  | error fault => exact .pure ()

/-- A visitor that takes every region and changes nothing that can be seen in the scene. -/
def LeavesBe (visit : Region → Probe Unit) (scene : Scene) : Prop :=
  ∀ region (context : Context), context.scene scene.session = scene →
    outcome (visit region) context = .ok () ∧
      (after (visit region) context).scene scene.session = scene

/-- The context after an index was decoded, which took some calls, and its region handed out if it
is admitted. -/
def handOut (accept : RegionFilter) (visit : Region → Probe Unit) (calls : Nat → List DebuggerCall)
    (context : Context) (decoded : Region × Nat) : Context :=
  let looked := context.note (calls decoded.2) []
  if accept decoded.1.state then after (visit decoded.1) looked else looked

section Run

variable {heap : Heap} {scene : Scene} {accept : RegionFilter} {visit : Region → Probe Unit}
  {decode : Nat → Except Fault Region} {calls : Nat → List DebuggerCall}

theorem handOut_scene (accept : RegionFilter) (hvisit : LeavesBe visit scene)
    (calls : Nat → List DebuggerCall) {context : Context}
    (hc : context.scene scene.session = scene) (decoded : Region × Nat) :
    (handOut accept visit calls context decoded).scene scene.session = scene := by
  unfold handOut
  split
  · exact (hvisit _ _ (scene_note hc _ _)).2
  · exact scene_note hc _ _

theorem foldl_handOut_scene (accept : RegionFilter) (hvisit : LeavesBe visit scene)
    (calls : Nat → List DebuggerCall) (decoded : List (Region × Nat)) {context : Context}
    (hc : context.scene scene.session = scene) :
    (decoded.foldl (handOut accept visit calls) context).scene scene.session = scene := by
  induction decoded generalizing context with
  | nil => exact hc
  | cons first rest ih => exact ih (handOut_scene accept hvisit calls hc first)

theorem walkFrom_succ_of_region (hvisit : LeavesBe visit scene) {context : Context}
    (hc : context.scene scene.session = scene) {index remaining : Nat} {region : Region}
    (hd : (heap.regionAt index).Finds scene ⟨.ok region, calls index, []⟩) {rest : Walk}
    {later : Context}
    (hrest : heap.walkFrom accept visit (index + 1) remaining
      (handOut accept visit calls context (region, index)) = .ok rest later) :
    heap.walkFrom accept visit index (remaining + 1) context =
      .ok ⟨(if accept region.state then [region] else []) ++ rest.visited, rest.outcome⟩ later := by
  unfold Heap.walkFrom
  rw [bind_of_ok (hd.attempt.ok hc)]
  dsimp only
  by_cases ha : accept region.state
  · have hv : attempt (visit region) (context.note (calls index) []) =
        .ok (.ok ()) (handOut accept visit calls context (region, index)) := by
      rw [eq_ok_iff, outcome_attempt, after_attempt, handOut, if_pos ha]
      exact ⟨congrArg Except.ok (hvisit region _ (scene_note hc (calls index) [])).1, rfl⟩
    rw [if_pos ha, bind_of_ok hv]
    dsimp only
    rw [bind_of_ok hrest, if_pos ha]
    rfl
  · rw [handOut, if_neg ha] at hrest
    rw [if_neg ha, if_neg ha, hrest]
    rfl

/-- A walk decodes and hands out index by index, and stops where decoding does. -/
theorem walkFrom_run (accept : RegionFilter) {bound : Nat}
    (hdecode : ∀ i < bound, (heap.regionAt i).Finds scene ⟨decode i, calls i, []⟩)
    (hvisit : LeavesBe visit scene) (index remaining : Nat) (hb : index + remaining ≤ bound)
    {context : Context} (hc : context.scene scene.session = scene) :
    let decoded := decodeFrom decode index remaining
    heap.walkFrom accept visit index remaining context =
      .ok ⟨decoded.1.filter fun region => accept region.state, decoded.2⟩
        (((decoded.1.zipIdx index).foldl (handOut accept visit calls) context).note
          (if decoded.1.length < remaining then calls (index + decoded.1.length) else [])
          (abortRecords (index + decoded.1.length) decoded.2)) := by
  induction remaining generalizing index context with
  | zero =>
    simp [decodeFrom, abortRecords]
    rfl
  | succ remaining ih =>
    have hd := hdecode index (by omega)
    cases ho : decode index with
    | error fault =>
      rw [ho] at hd
      have hn := finds_noteAbort scene index fault
      have hs := scene_note hc (calls index) []
      unfold Heap.walkFrom
      rw [bind_of_ok (hd.attempt.ok hc)]
      dsimp only
      rw [bind_of_ok (hn.ok hs), Context.note_note, List.append_nil]
      simp [decodeFrom, ho]
      rfl
    | ok region =>
      rw [ho] at hd
      have hrest := ih (index + 1) (by omega) (handOut_scene accept hvisit calls hc (region, index))
      rw [walkFrom_succ_of_region hvisit hc hd hrest]
      by_cases ha : accept region.state <;>
        simp [decodeFrom, ho, ha, Nat.add_assoc, Nat.add_comm 1]

end Run

/-- A walk over `count` regions, whose count took some calls, hands out the admitted ones of those
decoded. -/
theorem Heap.walk_run {heap : Heap} {scene : Scene} (accept : RegionFilter)
    {visit : Region → Probe Unit} {decode : Nat → Except Fault Region} {count : Int}
    {counting : List DebuggerCall} {calls : Nat → List DebuggerCall}
    (hcount : heap.numRegions.Finds scene ⟨.ok count, counting, []⟩)
    (hdecode : ∀ i < count.toNat, (heap.regionAt i).Finds scene ⟨decode i, calls i, []⟩)
    (hvisit : LeavesBe visit scene) {context : Context} (hc : context.scene scene.session = scene) :
    let decoded := decodeFrom decode 0 count.toNat
    let visited := decoded.1.filter fun region => accept region.state
    heap.walk accept visit context =
      .ok ⟨visited, decoded.2⟩
        ((decoded.1.zipIdx.foldl (handOut accept visit calls)
            (context.note counting (startRecords count))).note
          (if decoded.1.length < count.toNat then calls decoded.1.length else [])
          (abortRecords decoded.1.length decoded.2 ++ endRecords count visited decoded.2)) := by
  intro decoded visited
  have hstart : (log .debug .walk s!"Walking {decimal count} regions").Finds scene
    ⟨.ok (), [], startRecords count⟩ := .log _ _ _
  have hend := finds_noteEnd scene count ⟨visited, decoded.2⟩
  have hs := scene_note hc counting []
  have hs' := scene_note hs [] (startRecords count)
  have hs'' := scene_note (foldl_handOut_scene accept hvisit calls decoded.1.zipIdx hs')
    (if decoded.1.length < count.toNat then calls decoded.1.length else [])
    (abortRecords decoded.1.length decoded.2)
  have hrun := walkFrom_run accept hdecode hvisit 0 count.toNat (by omega) hs'
  unfold Heap.walk
  rw [bind_of_ok (hcount.attempt.ok hc)]
  dsimp only
  rw [bind_of_ok (hstart.ok hs), bind_of_ok hrun, Nat.zero_add, bind_of_ok (hend.ok hs'')]
  simp [decoded, visited]
  rfl

theorem Heap.walk_of_count_fault {heap : Heap} {scene : Scene} (accept : RegionFilter)
    (visit : Region → Probe Unit) {fault : Fault} {counting : List DebuggerCall}
    (hcount : heap.numRegions.Finds scene ⟨.error fault, counting, []⟩) {context : Context}
    (hc : context.scene scene.session = scene) :
    heap.walk accept visit context = .ok ⟨[], .error fault⟩ (context.note counting []) := by
  unfold Heap.walk
  rw [bind_of_ok (hcount.attempt.ok hc)]
  rfl

theorem Heap.iterate_of_walk {heap : Heap} {accept : RegionFilter} {visit : Region → Probe Unit}
    {context later : Context} {walk : Walk} (h : heap.walk accept visit context = .ok walk later) :
    outcome (heap.iterate visit accept) context = walk.outcome ∧
      after (heap.iterate visit accept) context = later := by
  unfold Heap.iterate
  rw [outcome, after, bind_of_ok h]
  cases walk.outcome <;> exact ⟨rfl, rfl⟩

/-- On a resolved session, a walk with any filter over an image that stays as it is follows the
decoding of the regions one by one. It visits the admitted regions below the first index that cannot
be decoded, in ascending order, ends as that index does, and makes no load but those of the count
and of the indices up to that one. -/
theorem Heap.iterate_follows_decoding {heap : Heap} {inferior : Inferior} {kept : Int}
    (hreader : heap.session.reader = inferior.readerOfSize kept) {context : Context}
    {resolution : Resolution} (hphase : context.phase heap.session.id = .resolved resolution)
    (accept : RegionFilter) {visit : Region → Probe Unit}
    (hvisit : LeavesBe visit (context.scene heap.session.id)) :
    let view : View := ⟨inferior, kept, context.host⟩
    let counting := view.callsFor
      (view.pointerLoad (resolution.heapAddress + resolution.heapLayout.numRegions))
    let reads (i : Nat) := (view.untilFault (view.regionLoads resolution i)).flatMap view.callsFor
    (∀ fault, outcome heap.numRegions context = .error fault →
      fault.isSessionState = false ∧ (∀ index count, fault ≠ .regionIndex index count) ∧
      heap.walk accept visit context = .ok ⟨[], .error fault⟩ (context.note counting []) ∧
      outcome (heap.iterate visit accept) context = .error fault ∧
      after (heap.iterate visit accept) context = context.note counting []) ∧
    ∀ count, outcome heap.numRegions context = .ok count →
      ∃ (regions : List Region) (ending : Except Fault Unit),
        (regions.length : Int) ≤ count ∧
        (∀ i (h : i < regions.length), outcome (heap.regionAt i) context = .ok regions[i]) ∧
        (ending = .ok () ↔ (regions.length : Int) = count) ∧
        (∀ fault, ending = .error fault →
          outcome (heap.regionAt regions.length) context = .error fault ∧
          fault.isSessionState = false ∧ ∀ index count, fault ≠ .regionIndex index count) ∧
        let visited := regions.filter fun region => accept region.state
        let last := (regions.zipIdx.foldl (handOut accept visit reads)
            (context.note counting (startRecords count))).note
          (if (regions.length : Int) < count then reads regions.length else [])
          (abortRecords regions.length ending ++ endRecords count visited ending)
        heap.walk accept visit context = .ok ⟨visited, ending⟩ last ∧
        outcome (heap.iterate visit accept) context = ending ∧
        after (heap.iterate visit accept) context = last := by
  intro view counting reads
  have hc : context.scene heap.session.id = context.scene heap.session.id := rfl
  have hsees := Heap.Sees.of_phase hreader hphase
  have hcount := hsees.finds_numRegions
  rw [hcount.outcome_eq hc]
  constructor
  · intro fault hf
    dsimp only at hf
    rw [hf] at hcount
    have hw := Heap.walk_of_count_fault accept visit hcount hc
    have hm := view.finding_faults _ _ _ fault hf
    exact ⟨hm.not_misuse.1, hm.not_misuse.2, hw, Heap.iterate_of_walk hw⟩
  · intro count hok
    obtain ⟨n, rfl⟩ := Int.eq_ofNat_of_zero_le (view.isWord_of_heapWord resolution hok).1
    dsimp only at hok
    rw [hok] at hcount
    have hbelow (i : Nat) (hi : i < n) (count : Int)
        (h : (view.heapWord resolution HeapLayout.numRegions).outcome = .ok count) :
        (i : Int) < count := by
      rw [hok] at h
      cases h
      omega
    let decode (i : Nat) := (view.region resolution heap.session.settings.states i).outcome
    have hdecode (i : Nat) (hi : i < n) : (heap.regionAt i).Finds _ ⟨decode i, reads i, []⟩ :=
      hsees.finds_regionAt_of_lt (Int.natCast_nonneg i) (hbelow i hi)
    have hle := length_decodeFrom_le decode 0 n
    have hend := decodeFrom_ending decode 0 n
    have hw := Heap.walk_run accept hcount hdecode hvisit hc
    simp only [Int.toNat_natCast] at hw
    simp only [Int.ofNat_le, Int.ofNat_lt, Int.natCast_inj]
    refine ⟨(decodeFrom decode 0 n).1, (decodeFrom decode 0 n).2, hle, ?_, ?_, ?_, hw,
      Heap.iterate_of_walk hw⟩
    · intro i hi
      rw [(hdecode i (by omega)).outcome_eq hc, ← decode_of_lt_decodeFrom decode hi, Nat.zero_add]
    · rcases hend with ⟨ho, hl⟩ | ⟨fault, he, hl, -⟩
      · exact iff_of_true ho hl
      · exact iff_of_false (by simp [he]) (by omega)
    · intro fault hf
      rcases hend with ⟨ho, -⟩ | ⟨fault', he, hl, hd⟩
      · rw [ho] at hf
        cases hf
      · cases he.symm.trans hf
        rw [Nat.zero_add] at hd
        rw [(hdecode _ hl).outcome_eq hc]
        have hm := view.region_faults resolution heap.session.settings.states
          (Int.natCast_nonneg _) (hbelow _ hl) fault hd
        exact ⟨hd, hm.not_misuse⟩

/-- A process whose heap has two regions. The slot of the second is torn. -/
def tornImage : Image where
  short := [(0x2008, 3)]
  memory := ⟨[.write 0x1100 (ByteOrder.little.encode 8 2),
    .write 0x1118 (ByteOrder.little.encode 8 0x2000),
    .write 0x2000 (ByteOrder.little.encode 8 0x3000 ++ ByteOrder.little.encode 8 0x4000),
    .write 0x3008 (ByteOrder.little.encode 8 0x10000 ++ ByteOrder.little.encode 8 0x20000 ++
      ByteOrder.little.encode 8 0x18000),
    .write 0x3040 (ByteOrder.little.encode 4 2)]⟩

def tornHeap : Heap := ⟨⟨0, Inferior.readerOfSize ⟨0, ⟨some 0⟩⟩ 8, {}, none⟩⟩

def tornContext : Context where
  host := { images := [tornImage] }
  sessions _ := .ofResolution ⟨.ofOffsets #v[256, 264, 272, 280, 16] #v[0, 8],
    .ofOffsets #v[64, 8, 16, 24], 0x1000, 0x10000⟩

/-- A walk over the torn table ends with the fault of its second slot. -/
theorem iterate_over_torn_table :
    outcome (tornHeap.iterate (fun _ => pure ()) .everything) tornContext =
      .error (.unavailable 0x2008 8 (some (.notAWord 8))) := by
  have hvisit : LeavesBe (fun _ => pure ()) (tornContext.scene tornHeap.session.id) :=
    fun _ _ hc => ⟨rfl, hc⟩
  obtain ⟨regions, ending, hle, hregions, hok, hfault, -, hend, -⟩ :=
    (Heap.iterate_follows_decoding rfl rfl RegionFilter.everything hvisit).2 2 rfl
  have hsecond : outcome (tornHeap.regionAt 1) tornContext =
    .error (.unavailable 0x2008 8 (some (.notAWord 8))) := rfl
  have hlt : ¬ 1 < regions.length := by
    intro h
    cases hsecond.symm.trans (hregions 1 h)
  rw [hend]
  cases ending with
  | ok _ =>
    have := hok.1 rfl
    omega
  | error fault =>
    have hf := (hfault fault rfl).1
    have hlen : regions.length = 0 ∨ regions.length = 1 := by omega
    rcases hlen with h | h
    · rw [h] at hf
      cases hf
    · rw [h] at hf
      cases hf.symm.trans hsecond
      rfl

end HeapProbe
