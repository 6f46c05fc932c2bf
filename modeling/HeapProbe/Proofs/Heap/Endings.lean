import HeapProbe.Proofs.Heap.Walk

/-! # How the decoding of a region ends

Decoding an index makes up to seven reads, each of which rests on those before it. It ends with the
first check or read that goes wrong, in a fixed order: the sign of the index, the count of regions,
the range of the index, the other reads, the order of the bounds, and the code of the state. The
endings are listed once, with the reads up to each of them, and the list is shown to be complete.
-/

namespace HeapProbe

open Probe

/-- The place of a state in the order in which the groups of codes count. -/
def RegionState.rank : RegionState → Nat
  | .trash => 0
  | .uncommitted => 1
  | .empty => 2
  | .live => 3

namespace StateCodes

variable (codes : StateCodes)

def group : RegionState → List Int
  | .trash => codes.trash
  | .uncommitted => codes.uncommitted
  | .empty => codes.empty
  | .live => codes.live

/-- The state's group has the code, and no group that counts before it has. -/
structure Assigns (raw : Int) (state : RegionState) : Prop where
  mem : raw ∈ codes.group state
  first : ∀ other : RegionState, other.rank < state.rank → raw ∉ codes.group other

theorem forall_state {p : RegionState → Prop} :
    (∀ state, p state) ↔ p .trash ∧ p .uncommitted ∧ p .empty ∧ p .live := by
  refine ⟨fun h => ⟨h _, h _, h _, h _⟩, fun ⟨ht, hu, he, hl⟩ state => ?_⟩
  cases state <;> assumption

theorem classify_eq_ok_iff {raw : Int} {state : RegionState} :
    codes.classify raw = .ok state ↔ codes.Assigns raw state := by
  have hassigns : codes.Assigns raw state ↔ raw ∈ codes.group state ∧
      ∀ other : RegionState, other.rank < state.rank → raw ∉ codes.group other :=
    ⟨fun h => ⟨h.mem, h.first⟩, fun h => ⟨h.1, h.2⟩⟩
  rw [hassigns, forall_state]
  unfold classify
  by_cases ht : raw ∈ codes.trash <;> by_cases hu : raw ∈ codes.uncommitted <;>
    by_cases he : raw ∈ codes.empty <;> by_cases hl : raw ∈ codes.live <;>
    cases state <;> simp [group, RegionState.rank, ht, hu, he, hl]

theorem classify_eq_error_iff {raw : Int} {fault : Fault} :
    codes.classify raw = .error fault ↔
      (∀ state, raw ∉ codes.group state) ∧ fault = .inconsistent (.unknownState raw) := by
  rw [forall_state]
  unfold classify
  by_cases ht : raw ∈ codes.trash <;> by_cases hu : raw ∈ codes.uncommitted <;>
    by_cases he : raw ∈ codes.empty <;> by_cases hl : raw ∈ codes.live <;>
    simp [group, ht, hu, he, hl, eq_comm]

end StateCodes

/-- A read of one word: the load that it makes, and the place and length that its fault names. -/
structure Reading where
  load : Load
  place : Int
  length : Int
  deriving DecidableEq

def Reading.call (reading : Reading) : DebuggerCall := .read reading.load.address reading.load.size

/-- What comes after a finding matters only for the value that was found. -/
theorem Finding.andThen_congr {α β : Type} {finding : Finding α} {next next' : α → Finding β}
    (h : ∀ value, finding.outcome = .ok value → next value = next' value) :
    finding.andThen next = finding.andThen next' := by
  unfold andThen
  cases ho : finding.outcome with
  | ok value =>
    dsimp only
    rw [h value ho]
  | error fault => rfl

namespace View

variable (view : View) (resolution : Resolution) (codes : StateCodes)

def read (reading : Reading) : Finding Int :=
  view.finding reading.load reading.place reading.length

def wordReading (address : Int) : Reading := ⟨view.pointerLoad address, address, view.kept⟩

def countReading : Reading :=
  view.wordReading (resolution.heapAddress + resolution.heapLayout.numRegions)

def tableReading : Reading :=
  view.wordReading (resolution.heapAddress + resolution.heapLayout.regions)

def slotReading (index : Int) : Reading :=
  let base := view.known (view.tableReading resolution).load
  ⟨view.pointerLoad (base + index * view.pointerSize), base + index * view.kept, view.kept⟩

def objectReadings (address : Int) : List Reading :=
  [⟨⟨4, address + resolution.regionLayout.state, 4⟩, address + resolution.regionLayout.state, 4⟩,
    view.wordReading (address + resolution.regionLayout.bottom),
    view.wordReading (address + resolution.regionLayout.limit),
    view.wordReading (address + resolution.regionLayout.top)]

/-- The reads that decode an index, in order. The slot and the region object are where the table and
the slot say. -/
def regionReadings (index : Int) : List Reading :=
  view.countReading resolution :: view.tableReading resolution ::
    view.slotReading resolution index ::
      view.objectReadings resolution (view.known (view.slotReading resolution index).load)

def knownRegion (index : Int) : Except Fault Region :=
  let address := view.known (view.slotReading resolution index).load
  let layout := resolution.regionLayout
  Region.ofWords codes index address (view.known ⟨4, address + layout.state, 4⟩)
    (view.known (view.pointerLoad (address + layout.bottom)))
    (view.known (view.pointerLoad (address + layout.limit)))
    (view.known (view.pointerLoad (address + layout.top)))

def ReadsAs (readings : List Reading) (words : List Int) : Prop :=
  readings.map (fun reading => (view.read reading).outcome) = words.map .ok

/-- All ways in which decoding an index can end, with the reads that it makes. -/
inductive RegionEnds (index : Int) : List Reading → Except Fault Region → Prop
  | negative (hindex : index < 0) (hnumeral : hasNumeral index) :
      RegionEnds index [] (.error (.regionIndex index none))
  /-- An index that is too long to be written gives way to the fault of writing it. -/
  | overlongNegative (hindex : index < 0) (hnumeral : hasNumeral index = false) :
      RegionEnds index [] (.error .overlongNumeral)
  | unbound (hindex : 0 ≤ index) (hbindings : view.host.bindings = false) :
      RegionEnds index [] (.error .bindingsLost)
  | outOfRange {count : Int} (hindex : 0 ≤ index)
      (hcount : (view.read (view.countReading resolution)).outcome = .ok count)
      (hrange : count ≤ index) (hnumeral : hasNumeral index) :
      RegionEnds index [view.countReading resolution] (.error (.regionIndex index (some count)))
  | overlongOutOfRange {count : Int} (hindex : 0 ≤ index)
      (hcount : (view.read (view.countReading resolution)).outcome = .ok count)
      (hrange : count ≤ index) (hnumeral : hasNumeral index = false) :
      RegionEnds index [view.countReading resolution] (.error .overlongNumeral)
  | missed {before later : List Reading} {missed : Reading} {failure : ReadFailure}
      (hindex : 0 ≤ index)
      (hreadings : view.regionReadings resolution index = before ++ missed :: later)
      (hbefore : ∀ reading ∈ before, ∃ word, (view.read reading).outcome = .ok word)
      (hrange : ∀ count, (view.read (view.countReading resolution)).outcome = .ok count →
        index < count)
      (hmissed : (view.read missed).outcome =
        .error (.unavailable missed.place missed.length (some failure))) :
      RegionEnds index (before ++ [missed])
        (.error (.unavailable missed.place missed.length (some failure)))
  /-- Inverted bounds are found whether or not the code is known. -/
  | inverted {count base address rawState bottom limit top : Int} (hindex : 0 ≤ index)
      (hwords : view.ReadsAs (view.regionReadings resolution index)
        [count, base, address, rawState, bottom, limit, top])
      (hrange : index < count) (hbounds : limit < bottom) :
      RegionEnds index (view.regionReadings resolution index)
        (.error (.inconsistent (.invertedRegion index limit bottom)))
  | unknown {count base address rawState bottom limit top : Int} (hindex : 0 ≤ index)
      (hwords : view.ReadsAs (view.regionReadings resolution index)
        [count, base, address, rawState, bottom, limit, top])
      (hrange : index < count) (hbounds : bottom ≤ limit)
      (hcode : ∀ state, rawState ∉ codes.group state) :
      RegionEnds index (view.regionReadings resolution index)
        (.error (.inconsistent (.unknownState rawState)))
  | decoded {count base address rawState bottom limit top : Int} {state : RegionState}
      (hindex : 0 ≤ index)
      (hwords : view.ReadsAs (view.regionReadings resolution index)
        [count, base, address, rawState, bottom, limit, top])
      (hrange : index < count) (hbounds : bottom ≤ limit)
      (hcode : codes.Assigns rawState state) :
      RegionEnds index (view.regionReadings resolution index)
        (.ok { index, baseAddress := address, bottom, limit, top, state, rawState })

section Read

variable {view} {reading : Reading}

theorem calls_read (hb : view.host.bindings) : (view.read reading).calls = [reading.call] :=
  if_pos hb

theorem read_of_unbound (hb : view.host.bindings = false) :
    view.read reading = ⟨.error .bindingsLost, [], []⟩ := by
  rw [read, finding, yields, callsFor, hb]
  rfl

theorem bindings_of_read {word : Int} (h : (view.read reading).outcome = .ok word) :
    view.host.bindings := by
  cases hb : view.host.bindings with
  | true => rfl
  | false =>
    rw [read_of_unbound hb] at h
    cases h

theorem known_of_finding {load : Load} {place length word : Int}
    (h : (view.finding load place length).outcome = .ok word) : view.known load = word := by
  rw [known, view.yields_of_finding h]
  rfl

end Read

def readAll : List Reading → Finding Unit
  | [] => ⟨.ok (), [], []⟩
  | reading :: rest => (view.read reading).andThen fun _ => readAll rest

section ReadAll

variable {view}

theorem readAll_andThen {α : Type} (reading : Reading) (rest : List Reading)
    (next : Unit → Finding α) :
    (view.readAll (reading :: rest)).andThen next =
      (view.read reading).andThen fun _ => (view.readAll rest).andThen next := by
  rw [readAll]
  cases h : (view.read reading).outcome with
  | error fault => simp only [Finding.andThen, h]
  | ok word =>
    cases hr : (view.readAll rest).outcome <;> simp [Finding.andThen, h, hr]

theorem readAll_of_words {readings : List Reading} {words : List Int}
    (h : view.ReadsAs readings words) (hb : view.host.bindings) :
    view.readAll readings = ⟨.ok (), readings.map Reading.call, []⟩ := by
  induction readings generalizing words with
  | nil => rfl
  | cons reading rest ih =>
    cases words with
    | nil => cases h
    | cons word words =>
      obtain ⟨hword, hrest⟩ := List.cons.inj h
      dsimp only at hword
      rw [readAll, Finding.andThen, hword, ih hrest, calls_read hb]
      rfl

theorem readAll_of_missed {before later : List Reading} {missed : Reading} {fault : Fault}
    (hbefore : ∀ reading ∈ before, ∃ word, (view.read reading).outcome = .ok word)
    (hmissed : (view.read missed).outcome = .error fault) (hb : view.host.bindings) :
    view.readAll (before ++ missed :: later) =
      ⟨.error fault, (before ++ [missed]).map Reading.call, []⟩ := by
  induction before with
  | nil =>
    rw [List.nil_append, readAll, Finding.andThen, hmissed, calls_read hb]
    rfl
  | cons reading rest ih =>
    obtain ⟨word, hword⟩ := hbefore reading List.mem_cons_self
    have hrest := ih fun reading hr => hbefore reading (List.mem_cons_of_mem _ hr)
    rw [List.cons_append, readAll, Finding.andThen, hword, hrest, calls_read hb]
    rfl

/-- Either all reads give words, or one is the first that does not. -/
theorem reads_or_misses (readings : List Reading) :
    (∃ words, view.ReadsAs readings words) ∨
      ∃ before missed later fault, readings = before ++ missed :: later ∧
        (∀ reading ∈ before, ∃ word, (view.read reading).outcome = .ok word) ∧
        (view.read missed).outcome = .error fault := by
  induction readings with
  | nil => exact .inl ⟨[], rfl⟩
  | cons reading rest ih =>
    cases hr : (view.read reading).outcome with
    | error fault => exact .inr ⟨[], reading, rest, fault, rfl, nofun, hr⟩
    | ok word =>
      rcases ih with ⟨words, hwords⟩ | ⟨before, missed, later, fault, rfl, hbefore, hmissed⟩
      · refine .inl ⟨word :: words, ?_⟩
        rw [ReadsAs, List.map_cons, List.map_cons, hr]
        exact congrArg _ hwords
      · exact .inr ⟨reading :: before, missed, later, fault, rfl,
          List.forall_mem_cons.2 ⟨⟨word, hr⟩, hbefore⟩, hmissed⟩

end ReadAll

section Region

variable {view resolution codes} {index : Int}

/-- Decoding an index in range makes all its reads, and then puts the words together. -/
theorem region_eq_readAll (hindex : 0 ≤ index)
    (hrange : ∀ count, (view.read (view.countReading resolution)).outcome = .ok count →
      index < count) :
    view.region resolution codes index =
      (view.readAll (view.regionReadings resolution index)).andThen fun _ =>
        ⟨view.knownRegion resolution codes index, [], []⟩ := by
  rw [region, if_pos hindex, regionReadings, readAll_andThen]
  refine Finding.andThen_congr fun count hcount => ?_
  rw [if_pos (hrange count hcount), regionInSlot, readAll_andThen]
  refine Finding.andThen_congr fun base hbase => ?_
  have hslot : view.element base index = view.read (view.slotReading resolution index) := by
    have hknown : view.known (view.tableReading resolution).load = base := known_of_finding hbase
    rw [slotReading, hknown]
    rfl
  rw [hslot, readAll_andThen]
  refine Finding.andThen_congr fun address haddress => ?_
  rw [regionBody, objectReadings, knownRegion, known_of_finding haddress, readAll_andThen]
  refine Finding.andThen_congr fun rawState hrawState => ?_
  rw [readAll_andThen]
  refine Finding.andThen_congr fun bottom hbottom => ?_
  rw [readAll_andThen]
  refine Finding.andThen_congr fun limit hlimit => ?_
  rw [readAll_andThen]
  refine Finding.andThen_congr fun top htop => ?_
  rw [known_of_finding hrawState, known_of_finding hbottom, known_of_finding hlimit,
    known_of_finding htop]
  rfl

theorem knownRegion_of_words {count base address rawState bottom limit top : Int}
    (h : view.ReadsAs (view.regionReadings resolution index)
      [count, base, address, rawState, bottom, limit, top]) :
    view.knownRegion resolution codes index =
      Region.ofWords codes index address rawState bottom limit top := by
  simp only [ReadsAs, regionReadings, objectReadings, List.map_cons, List.cons.injEq] at h
  obtain ⟨-, -, hslot, hstate, hbottom, hlimit, htop, -⟩ := h
  rw [known_of_finding hslot] at hstate hbottom hlimit htop
  have hword {place word : Int} (h : (view.read (view.wordReading place)).outcome = .ok word) :
      view.known (view.pointerLoad place) = word := known_of_finding h
  rw [knownRegion, known_of_finding hslot, known_of_finding hstate, hword hbottom, hword hlimit,
    hword htop]

/-- A way for decoding to end is what decoding finds. -/
theorem RegionEnds.region_eq {readings : List Reading} {ending : Except Fault Region}
    (h : view.RegionEnds resolution codes index readings ending) :
    view.region resolution codes index = ⟨ending, readings.map Reading.call, []⟩ := by
  have hall {count base address rawState bottom limit top : Int} (hindex : 0 ≤ index)
      (hwords : view.ReadsAs (view.regionReadings resolution index)
        [count, base, address, rawState, bottom, limit, top]) (hrange : index < count) :
      view.region resolution codes index =
        ⟨Region.ofWords codes index address rawState bottom limit top,
          (view.regionReadings resolution index).map Reading.call, []⟩ := by
    have hcount := (List.cons.inj hwords).1
    have hcounted : ∀ count', (view.read (view.countReading resolution)).outcome = .ok count' →
        index < count' := by
      intro count' hcount'
      cases hcount.symm.trans hcount'
      exact hrange
    rw [region_eq_readAll hindex hcounted, readAll_of_words hwords (bindings_of_read hcount),
      knownRegion_of_words hwords, Finding.andThen_ok, List.append_nil]
    rfl
  have hout {count : Int} (hindex : 0 ≤ index)
      (hcount : (view.read (view.countReading resolution)).outcome = .ok count)
      (hrange : count ≤ index) :
      view.region resolution codes index = ⟨.error (.ofIndex index (some count)),
        [(view.countReading resolution).call], []⟩ := by
    have hcalls := @calls_read view (view.countReading resolution) (bindings_of_read hcount)
    have hread : view.heapWord resolution HeapLayout.numRegions =
        ⟨.ok count, [(view.countReading resolution).call], []⟩ := by
      rw [← hcount, ← hcalls]
      rfl
    rw [region, if_pos hindex, hread, Finding.andThen_ok, if_neg (by omega)]
    rfl
  cases h with
  | negative hindex hnumeral =>
    rw [region, if_neg (by omega), Fault.ofIndex_none hnumeral]
    rfl
  | overlongNegative hindex hnumeral =>
    rw [region, if_neg (by omega), Fault.ofIndex_of_overlong hnumeral]
    rfl
  | unbound hindex hbindings =>
    have hcount : view.heapWord resolution HeapLayout.numRegions = ⟨.error .bindingsLost, [], []⟩ :=
      @read_of_unbound view (view.countReading resolution) hbindings
    rw [region, if_pos hindex, hcount]
    rfl
  | outOfRange hindex hcount hrange hnumeral =>
    rw [hout hindex hcount hrange,
      Fault.ofIndex_some hnumeral (view.isWord_of_heapWord resolution hcount)]
    rfl
  | overlongOutOfRange hindex hcount hrange hnumeral =>
    rw [hout hindex hcount hrange, Fault.ofIndex_of_overlong hnumeral]
    rfl
  | missed hindex hreadings hbefore hrange hmissed =>
    have hb : view.host.bindings := by
      rcases view.fault_of_finding hmissed with ⟨-, hlost⟩ | ⟨hb, -⟩
      · cases hlost
      · exact hb
    rw [region_eq_readAll hindex hrange, hreadings, readAll_of_missed hbefore hmissed hb]
    rfl
  | inverted hindex hwords hrange hbounds =>
    rw [hall hindex hwords hrange, Region.ofWords, if_neg (by omega)]
  | unknown hindex hwords hrange hbounds hcode =>
    rw [hall hindex hwords hrange, Region.ofWords, if_pos hbounds,
      codes.classify_eq_error_iff.2 ⟨hcode, rfl⟩]
  | decoded hindex hwords hrange hbounds hcode =>
    rw [hall hindex hwords hrange, Region.ofWords, if_pos hbounds, codes.classify_eq_ok_iff.2 hcode]

theorem exists_regionEnds (index : Int) :
    ∃ readings ending, view.RegionEnds resolution codes index readings ending := by
  rcases Int.lt_or_le index 0 with hindex | hindex
  · cases hnumeral : hasNumeral index with
    | true => exact ⟨_, _, .negative hindex hnumeral⟩
    | false => exact ⟨_, _, .overlongNegative hindex hnumeral⟩
  cases hb : view.host.bindings with
  | false => exact ⟨_, _, .unbound hindex hb⟩
  | true =>
    by_cases hrange : ∀ count, (view.read (view.countReading resolution)).outcome = .ok count →
        index < count
    · rcases view.reads_or_misses (view.regionReadings resolution index) with
        ⟨words, hwords⟩ | ⟨before, missed, later, fault, hreadings, hbefore, hmissed⟩
      · have hlength := congrArg List.length hwords
        obtain ⟨count, base, address, rawState, bottom, limit, top, rfl⟩ :
            ∃ count base address rawState bottom limit top,
              words = [count, base, address, rawState, bottom, limit, top] :=
          match words, hlength with
          | [_, _, _, _, _, _, _], _ => ⟨_, _, _, _, _, _, _, rfl⟩
        have hcount := hrange count (List.cons.inj hwords).1
        rcases Int.lt_or_le limit bottom with hbounds | hbounds
        · exact ⟨_, _, .inverted hindex hwords hcount hbounds⟩
        cases hcode : codes.classify rawState with
        | ok state =>
          exact ⟨_, _, .decoded hindex hwords hcount hbounds (codes.classify_eq_ok_iff.1 hcode)⟩
        | error fault =>
          have hunknown := (codes.classify_eq_error_iff.1 hcode).1
          exact ⟨_, _, .unknown hindex hwords hcount hbounds hunknown⟩
      · rcases view.fault_of_finding hmissed with ⟨hlost, -⟩ | ⟨-, failure, rfl⟩
        · cases hb.symm.trans hlost
        · exact ⟨_, _, .missed hindex hreadings hbefore hrange hmissed⟩
    · simp only [Classical.not_forall, Int.not_lt] at hrange
      obtain ⟨count, hcount, hrange⟩ := hrange
      cases hnumeral : hasNumeral index with
      | true => exact ⟨_, _, .outOfRange hindex hcount hrange hnumeral⟩
      | false => exact ⟨_, _, .overlongOutOfRange hindex hcount hrange hnumeral⟩

end Region

end View

/-- **Every ending of a decoding.** On a resolved session, over any image and for any index:
decoding ends in one of the listed ways, and wherever the conditions of one are met it ends in that
way, having made the reads that are listed with it and no others. A region that is handed out has no
negative size. -/
theorem Heap.regionAt_ends {heap : Heap} {inferior : Inferior} {kept : Int}
    (hreader : heap.session.reader = inferior.readerOfSize kept) {context : Context}
    {resolution : Resolution} (hphase : context.phase heap.session.id = .resolved resolution)
    (index : Int) :
    let view : View := ⟨inferior, kept, context.host⟩
    let codes := heap.session.settings.states
    (∃ readings ending, view.RegionEnds resolution codes index readings ending) ∧
    ∀ readings ending, view.RegionEnds resolution codes index readings ending →
      outcome (heap.regionAt index) context = ending ∧
      after (heap.regionAt index) context = context.note (readings.map Reading.call) [] ∧
      ∀ region, ending = .ok region → 0 ≤ region.sizeBytes := by
  intro view codes
  refine ⟨view.exists_regionEnds index, fun readings ending hends => ?_⟩
  have hfinds := (Heap.Sees.of_phase hreader hphase).finds_regionAt index
  rw [hends.region_eq] at hfinds
  refine ⟨hfinds.outcome_eq rfl, hfinds.after_eq rfl, ?_⟩
  rintro region rfl
  cases hends with
  | decoded _ _ _ hbounds _ => exact Int.sub_nonneg_of_le hbounds

/-- The context of a heap with one region, whose bounds are inverted and whose code is unknown. -/
def corruptContext : Context :=
  { tornContext with
    host := { images := [{ memory := ⟨[.write 0x1100 (ByteOrder.little.encode 8 1),
      .write 0x1118 (ByteOrder.little.encode 8 0x40),
      .write 0x40 (ByteOrder.little.encode 8 0x80),
      .write 0x88 (ByteOrder.little.encode 8 0x30 ++ ByteOrder.little.encode 8 0x10 ++
        ByteOrder.little.encode 8 0x20),
      .write 0xc0 (ByteOrder.little.encode 4 77)]⟩ }] } }

/-- Its bounds are found before its code, and after all seven reads. -/
theorem regionAt_of_corrupt :
    outcome (tornHeap.regionAt 0) corruptContext =
        .error (.inconsistent (.invertedRegion 0 0x10 0x30)) ∧
      after (tornHeap.regionAt 0) corruptContext = corruptContext.note
        [.read 0x1100 8, .read 0x1118 8, .read 0x40 8, .read 0xc0 4, .read 0x88 8, .read 0x90 8,
          .read 0x98 8] [] := by
  let view : View := ⟨⟨0, ⟨some 0⟩⟩, 8, corruptContext.host⟩
  let resolution : Resolution := ⟨.ofOffsets #v[256, 264, 272, 280, 16] #v[0, 8],
    .ofOffsets #v[64, 8, 16, 24], 0x1000, 0x10000⟩
  have hreadings : view.regionReadings resolution 0 =
      [⟨⟨8, 0x1100, 8⟩, 0x1100, 8⟩, ⟨⟨8, 0x1118, 8⟩, 0x1118, 8⟩, ⟨⟨8, 0x40, 8⟩, 0x40, 8⟩,
        ⟨⟨4, 0xc0, 4⟩, 0xc0, 4⟩, ⟨⟨8, 0x88, 8⟩, 0x88, 8⟩, ⟨⟨8, 0x90, 8⟩, 0x90, 8⟩,
        ⟨⟨8, 0x98, 8⟩, 0x98, 8⟩] := by decide +kernel
  have hwords : view.ReadsAs (view.regionReadings resolution 0)
      [1, 0x40, 0x80, 77, 0x30, 0x10, 0x20] := by
    rw [hreadings]
    rfl
  have hinverted : view.RegionEnds resolution tornHeap.session.settings.states 0 _ _ :=
    .inverted (by decide) hwords (by decide) (by decide)
  obtain ⟨hending, hlater, -⟩ :=
    (@Heap.regionAt_ends tornHeap ⟨0, ⟨some 0⟩⟩ 8 rfl corruptContext resolution rfl 0).2 _ _
      hinverted
  rw [hreadings] at hlater
  exact ⟨hending, hlater⟩

/-- Not every negative index is named by its fault, and not every fault of a resolved session is one
of the inspection. -/
theorem not_every_regionAt_is_answered :
    (¬ ∀ index : Int, index < 0 →
      outcome (tornHeap.regionAt index) corruptContext = .error (.regionIndex index none)) ∧
    ¬ ∀ host fault, outcome (tornHeap.regionAt 0) { corruptContext with host } = .error fault →
      fault.isInspection := by
  constructor
  · intro h
    let index : Int := -(10 ^ maxDecimalDigits)
    have hindex : index < 0 := Int.neg_neg_of_pos (Int.pow_pos (by decide))
    have hnumeral : hasNumeral index = false := hasNumeral_neg_pow (Nat.le_refl _)
    have hsees := @Heap.Sees.of_phase tornHeap _ ⟨0, ⟨some 0⟩⟩ 8 corruptContext rfl rfl
    have houtcome := (hsees.finds_regionAt index).outcome_eq rfl
    rw [(View.RegionEnds.overlongNegative hindex hnumeral).region_eq, h index hindex] at houtcome
    cases houtcome
  · intro h
    let lost : Host := { bindings := false }
    have hlost : outcome (tornHeap.regionAt 0) { corruptContext with host := lost } =
        .error .bindingsLost := rfl
    cases h _ _ hlost

end HeapProbe
