import HeapProbe.Inspector
import HeapProbe.Proofs.Heap.Walk
import HeapProbe.Proofs.Image.Contents
import HeapProbe.Proofs.Session.Phase

/-! # From an abstract heap to memory and back

An image that holds an abstract heap gives back that heap. Resolution flattens the classes, finds
the heap object and puts the layouts together; the reads then add up offsets, scale indices and take
each number in its width and byte order. What comes out are the counters and regions that were put
in, at any time as long as the image stays as it is.
-/

namespace HeapProbe

open Probe

def Probe.Gives {α : Type} (probe : Probe α) (scene : Scene) (value : α) : Prop :=
  ∃ calls records, probe.Finds scene ⟨.ok value, calls, records⟩

namespace Probe.Gives

variable {α β : Type} {scene : Scene}

theorem of_finds {probe : Probe α} {finding : Finding α} {value : α} (h : probe.Finds scene finding)
    (ho : finding.outcome = .ok value) : probe.Gives scene value :=
  ⟨finding.calls, finding.records, by rwa [← ho]⟩

protected theorem pure (value : α) : (pure value : Probe α).Gives scene value :=
  ⟨[], [], .pure value⟩

protected theorem bind {probe : Probe α} {value : α} {next : α → Probe β} {later : β}
    (h : probe.Gives scene value) (hnext : (next value).Gives scene later) :
    (probe >>= next).Gives scene later := by
  obtain ⟨calls, records, hf⟩ := h
  obtain ⟨calls', records', hf'⟩ := hnext
  exact ⟨_, _, hf.bind_of_ok hf'⟩

theorem outcome_eq {probe : Probe α} {value : α} (h : probe.Gives scene value) {context : Context}
    (hc : context.scene scene.session = scene) : outcome probe context = .ok value := by
  obtain ⟨_, _, hf⟩ := h
  exact hf.outcome_eq hc

end Probe.Gives

section Resolution

variable {scene : Scene} {target : Target} {image : Image}

theorem gives_pickFrom (hi : target.imageOn scene.host = some image) {n : Nat} (hn : 0 < n)
    {typeName : String} {names : Vector String n} {offsets : Vector Int n}
    (h : ∀ i (hi : i < n), image.fieldOffset? typeName names[i] = some offsets[i]) :
    (Session.pickFrom target.resolver typeName names).Gives scene offsets := by
  obtain ⟨info, hinfo, -⟩ := Option.bind_eq_some_iff.1 (h 0 hn)
  have hlookup : (target.lookupType typeName).Gives scene
      (info.members.map fun member => (member.name, member.offset)) :=
    .of_finds (.lookupType target typeName) (by simp [Target.typeFinding, hi, hinfo])
  refine hlookup.bind (.of_finds (.ofExcept _) ?_)
  dsimp only
  rw [FieldOffsets.pick_eq_ok_iff]
  intro i hlt
  have := h i hlt
  rw [Image.fieldOffset?, hinfo] at this
  rw [ClassInfo.lookup_members]
  exact this

def FieldPlaces.heapLayout (places : FieldPlaces) : HeapLayout :=
  .ofOffsets #v[places.numRegions, places.used, places.committed, places.regions, places.reserved]
    #v[places.rangeStart, places.rangeWords]

def FieldPlaces.regionLayout (places : FieldPlaces) : RegionLayout :=
  .ofOffsets #v[places.state, places.bottom, places.limit, places.top]

def FieldPlaces.resolution (places : FieldPlaces) (address size : Int) : Resolution :=
  ⟨places.heapLayout, places.regionLayout, address, size⟩

variable {session : Session} {view : View} {width : Nat} {places : FieldPlaces}

theorem gives_wordOr (hi : target.imageOn scene.host = some image)
    (hr : session.reader = view.inferior.readerOfSize view.kept) (hv : view.host = scene.host)
    (hs : view.Shows image width) {given : Option Int} {symbol : String} {value : Int}
    (h : image.Supplies width given symbol value) :
    (session.wordOr target.resolver given symbol).Gives scene value := by
  cases given with
  | some word =>
    cases h
    exact .pure _
  | none =>
    obtain ⟨address, word, hglobal, hholds, rfl⟩ := h
    have hsymbol : (target.lookupSymbol symbol).Gives scene address :=
      .of_finds (.lookupSymbol (hv ▸ hs.bindings) target symbol)
        (by simp [Target.symbolFinding, hi, hglobal])
    refine hsymbol.bind ?_
    rw [hr]
    exact .of_finds (.word hv address) (hs.word hholds)

/-- Resolution puts together what the image declares and supplies. -/
theorem gives_findOut (hi : target.imageOn scene.host = some image)
    (hr : session.reader = view.inferior.readerOfSize view.kept) (hv : view.host = scene.host)
    (hs : view.Shows image width) (hplaces : image.Declares session.settings.layout places)
    {address size : Int}
    (haddress : image.Supplies width session.heapAddress session.settings.layout.heapSymbol address)
    (hsize : image.Supplies width session.settings.layout.regionSizeBytes
      session.settings.layout.regionSizeSymbol size) :
    (session.findOut target.resolver).Gives scene (places.resolution address size) := by
  have hheap : (Session.pickFrom target.resolver session.settings.layout.heapType
      session.settings.layout.heapFields).Gives scene
      #v[places.numRegions, places.used, places.committed, places.regions, places.reserved] := by
    refine gives_pickFrom hi (by omega) fun i h => ?_
    rcases i with _ | _ | _ | _ | _ | i
    · exact hplaces.numRegions
    · exact hplaces.used
    · exact hplaces.committed
    · exact hplaces.regions
    · exact hplaces.reserved
    · omega
  have hrange : (Session.pickFrom target.resolver session.settings.layout.memRegionType
      session.settings.layout.memRegionFields).Gives scene
      #v[places.rangeStart, places.rangeWords] := by
    refine gives_pickFrom hi (by omega) fun i h => ?_
    rcases i with _ | _ | i
    · exact hplaces.rangeStart
    · exact hplaces.rangeWords
    · omega
  have hregion : (Session.pickFrom target.resolver session.settings.layout.regionType
      session.settings.layout.regionFields).Gives scene
      #v[places.state, places.bottom, places.limit, places.top] := by
    refine gives_pickFrom hi (by omega) fun i h => ?_
    rcases i with _ | _ | _ | _ | i
    · exact hplaces.state
    · exact hplaces.bottom
    · exact hplaces.limit
    · exact hplaces.top
    · omega
  exact hheap.bind (hrange.bind (hregion.bind ((gives_wordOr hi hr hv hs haddress).bind
    ((gives_wordOr hi hr hv hs hsize).bind (.pure _)))))

end Resolution

namespace StateCodes

variable (codes : StateCodes)

/-- The code stands in one of the groups, or in several. -/
def Knows (raw : Int) : Prop :=
  raw ∈ codes.trash ∨ raw ∈ codes.uncommitted ∨ raw ∈ codes.empty ∨ raw ∈ codes.live

/-- The state of a known code: the first of its groups counts. -/
def stateOf (raw : Int) : RegionState :=
  if raw ∈ codes.trash then .trash
  else if raw ∈ codes.uncommitted then .uncommitted
  else if raw ∈ codes.empty then .empty
  else .live

theorem classify_of_knows {codes : StateCodes} {raw : Int} (h : codes.Knows raw) :
    codes.classify raw = .ok (codes.stateOf raw) := by
  unfold classify stateOf
  by_cases ht : raw ∈ codes.trash
  · simp [ht]
  by_cases hu : raw ∈ codes.uncommitted
  · simp [ht, hu]
  by_cases he : raw ∈ codes.empty
  · simp [ht, hu, he]
  · have hl : raw ∈ codes.live := ((h.resolve_left ht).resolve_left hu).resolve_left he
    simp [ht, hu, he, hl]

end StateCodes

def RegionRecord.decoded (codes : StateCodes) (index : Nat) (record : RegionRecord) : Region where
  index := index
  baseAddress := record.address
  bottom := record.bottom
  limit := record.limit
  top := record.top
  state := codes.stateOf record.rawState
  rawState := record.rawState

def HeapRecord.decoded (codes : StateCodes) (record : HeapRecord) : List Region :=
  record.regions.mapIdx fun index region => region.decoded codes index

section Reads

variable {heap : Heap} {scene : Scene} {view : View} {image : Image} {width : Nat}
  {places : FieldPlaces} {address size : Int} {record : HeapRecord}

theorem gives_readAt
    (hsees : heap.Sees scene view (places.resolution address size))
    (hs : view.Shows image width) {offset : HeapLayout → Int} {value : Nat}
    (hv : image.Holds width (address + offset places.heapLayout) value) :
    (heap.readAt offset).Gives scene (value : Int) :=
  .of_finds (hsees.finds_readAt offset) (hs.word hv)

theorem gives_used
    (hsees : heap.Sees scene view (places.resolution address size))
    (hs : view.Shows image width) (hh : image.HoldsHeap width places address record) :
    heap.used.Gives scene (record.used : Int) := by
  refine .of_finds (hsees.finds_resolution.bind_of_pure ?_) (hs.uint64 hh.used)
  rw [hsees.reader]
  exact .uint64 hsees.host _

theorem gives_reservedRange
    (hsees : heap.Sees scene view (places.resolution address size))
    (hs : view.Shows image width) (hh : image.HoldsHeap width places address record) :
    heap.reservedRange.Gives scene
      ((record.reservedStart : Int), record.reservedStart + record.reservedWords * (width : Int)) := by
  have hstart := hh.reservedStart
  have hwords := hh.reservedWords
  rw [Int.add_assoc] at hstart hwords
  have hsize : heap.session.reader.pointerSize = (width : Int) := by
    rw [hsees.reader, ← hs.kept]
    rfl
  unfold Heap.reservedRange
  rw [hsize]
  exact (gives_readAt hsees hs hstart).bind ((gives_readAt hsees hs hwords).bind (.pure _))

/-- A region object in memory decodes to what its words make up. -/
theorem regionBody_of_object (hs : view.Shows image width) {codes : StateCodes}
    {region : RegionRecord} (hr : image.HoldsRegion width places region) (index : Nat) :
    (view.regionBody (places.resolution address size) codes index region.address).outcome =
      Region.ofWords codes index region.address region.rawState region.bottom region.limit
        region.top := by
  refine (Finding.outcome_andThen (hs.uint32 hr.state)).trans ?_
  refine (Finding.outcome_andThen (hs.word hr.bottom)).trans ?_
  refine (Finding.outcome_andThen (hs.word hr.limit)).trans ?_
  exact Finding.outcome_andThen (hs.word hr.top)

/-- A slot of the table decodes to what the words of its region object make up. -/
theorem region_of_heap (hs : view.Shows image width) {codes : StateCodes}
    (hh : image.HoldsHeap width places address record) (i : Nat)
    (hi : i < record.regions.length) :
    (view.region (places.resolution address size) codes i).outcome =
      Region.ofWords codes i record.regions[i].address record.regions[i].rawState
        record.regions[i].bottom record.regions[i].limit record.regions[i].top := by
  rw [View.region, if_pos (Int.natCast_nonneg i)]
  refine (Finding.outcome_andThen (hs.word hh.numRegions)).trans ?_
  rw [if_pos (Int.ofNat_lt.2 hi)]
  refine (Finding.outcome_andThen (hs.word hh.regions)).trans ?_
  refine (Finding.outcome_andThen (hs.element (hh.slot i hi))).trans ?_
  exact regionBody_of_object hs (hh.object _ (List.getElem_mem hi)) i

theorem region_of_holds (hs : view.Shows image width) {codes : StateCodes}
    (hh : image.HoldsHeap width places address record)
    (hk : ∀ region ∈ record.regions, codes.Knows region.rawState) (i : Nat)
    (hi : i < record.regions.length) :
    (view.region (places.resolution address size) codes i).outcome =
      .ok (record.regions[i].decoded codes i) := by
  have hmem : record.regions[i] ∈ record.regions := List.getElem_mem hi
  have hle : (record.regions[i].bottom : Int) ≤ record.regions[i].limit :=
    Int.ofNat_le.2 (hh.object _ hmem).ordered
  rw [region_of_heap hs hh i hi]
  simp only [Region.ofWords, if_pos hle, StateCodes.classify_of_knows (hk _ hmem)]
  rfl

theorem regions_of_holds
    (hsees : heap.Sees scene view (places.resolution address size))
    (hs : view.Shows image width) (hh : image.HoldsHeap width places address record)
    (hk : ∀ region ∈ record.regions, heap.session.settings.states.Knows region.rawState)
    (accept : RegionFilter) {context : Context} (hc : context.scene scene.session = scene) :
    outcome (heap.regions accept) context =
      .ok ((record.decoded heap.session.settings.states).filter fun region =>
        accept region.state) := by
  have hword : (view.heapWord (places.resolution address size) HeapLayout.numRegions).outcome =
      .ok (record.regions.length : Int) := hs.word hh.numRegions
  have hcount := hsees.finds_numRegions
  rw [hword] at hcount
  have hdecode (i : Nat) (hi : i < (record.regions.length : Int).toNat) :=
    hsees.finds_regionAt_of_lt (Int.natCast_nonneg i) fun count h => by
      cases hword.symm.trans h
      omega
  have hdecoded : decodeFrom (fun i => (view.region (places.resolution address size)
      heap.session.settings.states i).outcome) 0 record.regions.length =
      (record.decoded heap.session.settings.states, .ok ()) := by
    have hlen : (record.decoded heap.session.settings.states).length = record.regions.length := by
      simp [HeapRecord.decoded]
    rw [← hlen]
    apply decodeFrom_eq_of_ok
    intro i hi
    rw [region_of_holds hs hh hk i (by omega)]
    simp [HeapRecord.decoded]
  have hvisit : LeavesBe (fun _ => pure ()) scene := fun _ _ h => ⟨rfl, h⟩
  have hw := Heap.walk_run accept hcount hdecode hvisit hc
  rw [Int.toNat_natCast, hdecoded] at hw
  rw [eq_ok_iff] at hw
  unfold Heap.regions
  rw [outcome_bind, hw.1]
  rfl

end Reads

theorem resolve_of_gives {session : Session} {resolver : Resolver} {context : Context}
    {resolution : Resolution} (hfresh : context.phase session.id = .fresh)
    (h : (session.findOut resolver).Gives (context.scene session.id) resolution) :
    ∃ later, session.resolve resolver context = .ok () later ∧ later.host = context.host ∧
      later.phase session.id = .resolved resolution := by
  obtain ⟨calls, records, hf⟩ := h
  have hfound := hf.ok (rfl : context.scene session.id = _)
  obtain ⟨ho, ha⟩ := eq_ok_iff.1 hfound
  have hstill : (after (session.findOut resolver) context).phase session.id = .fresh := by
    rw [ha, Context.note_phase, hfresh]
  have hresolve := Session.resolve_of_findOut_ok hfresh hfound
  refine ⟨_, hresolve, rfl, ?_⟩
  rw [← (eq_ok_iff.1 hresolve).2]
  exact Session.phase_resolve_of_found hstill hfresh ho

section RoundTrip

variable {attachment : Attachment} {image : Image} {index width : Nat} {places : FieldPlaces}
  {address size : Int} {record : HeapRecord}

theorem shows_of_image (hinferior : attachment.inferior.image = index) (hd : image.Dependable)
    (hw : image.wordSize = width) (h48 : width = 4 ∨ width = 8) {host : Host} (hb : host.bindings)
    (hi : host.images[index]? = some image) :
    View.Shows ⟨attachment.inferior, width, host⟩ image width where
  bindings := hb
  image_eq := by simp [View.image, hinferior, hi]
  dependable := hd
  wordSize := hw
  kept := rfl
  width := h48

/-- Resolving an attachment makes a session that knows the heap. -/
theorem resolve_of_holds (htarget : attachment.target.image = some index)
    (hinferior : attachment.inferior.image = index) (hd : image.Dependable)
    (hw : image.wordSize = width) (h48 : width = 4 ∨ width = 8) {settings : Settings}
    {given : Option Int} (hplaces : image.Declares settings.layout places)
    (haddress : image.Supplies width given settings.layout.heapSymbol address)
    (hsize : image.Supplies width settings.layout.regionSizeBytes settings.layout.regionSizeSymbol
      size) {context : Context} (hb : context.host.bindings)
    (hi : context.host.images[index]? = some image) :
    ∃ session resolved, Inspector.resolve attachment settings given context = .ok session resolved ∧
      resolved.host = context.host ∧
      session.reader = attachment.inferior.readerOfSize width ∧ session.settings = settings ∧
      resolved.phase session.id = .resolved (places.resolution address size) := by
  have hs := shows_of_image hinferior hd hw h48 hb hi
  let reader := attachment.inferior.readerOfSize width
  let session : Session := ⟨context.sessionCount, reader, settings, given⟩
  have hreader : attachment.inferior.reader.Finds (context.scene session.id)
      ⟨.ok reader, [], []⟩ := by
    have h := @Finds.reader (context.scene session.id)
      ⟨attachment.inferior, width, context.host⟩ rfl
    rwa [hs.pointerSize_eq] at h
  let created := after (Session.create reader settings given) context
  have htargeted : attachment.target.imageOn context.host = some image := by
    simp [Target.imageOn, htarget, hi]
  have hfresh : created.phase session.id = .fresh := Session.phase_create reader settings given
  obtain ⟨resolved, hresolve, hhost, hphase⟩ := resolve_of_gives hfresh
    (gives_findOut htargeted rfl rfl hs hplaces haddress hsize)
  refine ⟨session, resolved, ?_, hhost, rfl, rfl, hphase⟩
  have hcreate : Session.create reader settings given context = .ok session created := rfl
  unfold Inspector.resolve
  rw [bind_of_ok (hreader.ok rfl), Context.note_nil, bind_of_ok hcreate, bind_of_ok hresolve]
  rfl

/-- **From an abstract heap to memory and back.** Let an image of either pointer size and byte order
declare the fields that are asked for, at any depth of inheritance, and hold an abstract heap at an
address that is given or stored at the heap symbol, with region states that are known. Then a session
can be resolved on it, and at any time while the image stays as it is, its heap reads back exactly
what was put into memory. -/
theorem Inspector.resolve_reads_back (htarget : attachment.target.image = some index)
    (hinferior : attachment.inferior.image = index) {settings : Settings} {given : Option Int}
    {context : Context} (hb : context.host.bindings) (hi : context.host.images[index]? = some image)
    (hd : image.Dependable) (hw : image.wordSize = width) (h48 : width = 4 ∨ width = 8)
    (hplaces : image.Declares settings.layout places)
    (haddress : image.Supplies width given settings.layout.heapSymbol address)
    (hsize : image.Supplies width settings.layout.regionSizeBytes settings.layout.regionSizeSymbol
      size)
    (hheap : image.HoldsHeap width places address record)
    (hknown : ∀ region ∈ record.regions, settings.states.Knows region.rawState) :
    ∃ session resolved,
      Inspector.resolve attachment settings given context = .ok session resolved ∧
      resolved.host = context.host ∧ session.heap resolved = .ok ⟨session⟩ resolved ∧
      ∀ later : Context, later.host.bindings → later.host.images[index]? = some image →
        later.phase session.id = resolved.phase session.id →
        let heap : Heap := ⟨session⟩
        outcome heap.numRegions later = .ok (record.regions.length : Int) ∧
        outcome heap.used later = .ok (record.used : Int) ∧
        outcome heap.committed later = .ok (record.committed : Int) ∧
        outcome heap.regionTableBase later = .ok (record.tableBase : Int) ∧
        outcome heap.reservedRange later = .ok ((record.reservedStart : Int),
          record.reservedStart + record.reservedWords * (width : Int)) ∧
        outcome heap.regionSizeBytes later = .ok size ∧
        outcome heap.capacity later = .ok (record.regions.length * size) ∧
        (∀ i (h : i < record.regions.length),
          outcome (heap.regionAt i) later = .ok (record.regions[i].decoded settings.states i)) ∧
        ∀ accept, outcome (heap.regions accept) later =
          .ok ((record.decoded settings.states).filter fun region => accept region.state) := by
  obtain ⟨session, resolved, hresolve, hhost, hreader, rfl, hphase⟩ :=
    resolve_of_holds htarget hinferior hd hw h48 hplaces haddress hsize hb hi
  refine ⟨session, resolved, hresolve, hhost, Session.heap_of_resolved hphase, ?_⟩
  intro later hb' hi' hphase' heap
  have hc : later.scene session.id = later.scene session.id := rfl
  have hs := shows_of_image hinferior hd hw h48 hb' hi'
  have hsees : heap.Sees (later.scene session.id) _ (places.resolution address size) :=
    .of_phase hreader (hphase'.trans hphase)
  have hcount : heap.numRegions.Gives (later.scene session.id) (record.regions.length : Int) :=
    gives_readAt hsees hs hheap.numRegions
  have hregionSize : heap.regionSizeBytes.Gives (later.scene session.id) size :=
    .of_finds (hsees.finds_resolution.bind fun resolution _ => .pure resolution.regionSizeBytes) rfl
  have hcapacity : heap.capacity.Gives (later.scene session.id) (record.regions.length * size) :=
    hcount.bind (hregionSize.bind (.pure (record.regions.length * size)))
  refine ⟨hcount.outcome_eq hc, (gives_used hsees hs hheap).outcome_eq hc,
    (gives_readAt hsees hs hheap.committed).outcome_eq hc,
    (gives_readAt hsees hs hheap.regions).outcome_eq hc,
    (gives_reservedRange hsees hs hheap).outcome_eq hc, hregionSize.outcome_eq hc,
    hcapacity.outcome_eq hc, fun i h => ?_,
    fun accept => regions_of_holds hsees hs hheap hknown accept hc⟩
  rw [(hsees.finds_regionAt i).outcome_eq hc]
  exact region_of_holds hs hheap hknown i h

end RoundTrip

/-- A big-endian process of 32 bits whose heap inherits its counters. -/
def inheritingImage : Image where
  pointerSize := 4
  byteOrder := .big
  classes := [
    ("ShenandoahHeap", .derived
      (.fields [⟨some "_used", 8, none⟩, ⟨some "_num_regions", 16, none⟩, ⟨none, 20, none⟩,
        ⟨some "_committed", 24, none⟩]) 32
      (.fields [⟨some "_regions", 0, none⟩, ⟨some "_reserved", 8, none⟩])),
    ("MemRegion", .fields [⟨some "_start", 0, none⟩, ⟨some "_word_size", 4, none⟩]),
    ("ShenandoahHeapRegion", .fields [⟨some "_bottom", 0, none⟩, ⟨some "_end", 4, none⟩,
      ⟨some "_top", 8, none⟩, ⟨some "_state", 12, none⟩])]
  memory := ⟨[.write 0x5000 (ByteOrder.big.encode 4 0x100),
    .write 0x100 (ByteOrder.big.encode 4 0x200 ++ ByteOrder.big.encode 4 0),
    .write 0x108 (ByteOrder.big.encode 4 0x8000 ++ ByteOrder.big.encode 4 0x40),
    .write 0x128 (ByteOrder.big.encode 8 0x30),
    .write 0x130 (ByteOrder.big.encode 4 1),
    .write 0x138 (ByteOrder.big.encode 4 0x100),
    .write 0x200 (ByteOrder.big.encode 4 0x300),
    .write 0x300 (ByteOrder.big.encode 4 0x8000 ++ ByteOrder.big.encode 4 0x8100 ++
      ByteOrder.big.encode 4 0x8030 ++ ByteOrder.big.encode 4 2)]⟩

def inheritingPlaces : FieldPlaces := ⟨48, 40, 56, 0, 8, 0, 4, 12, 0, 4, 8⟩

def inheritingRecord : HeapRecord :=
  ⟨0x30, 0x100, 0x200, 0x8000, 0x40, [⟨0x300, 2, 0x8000, 0x8100, 0x8030⟩]⟩

/-- The one region of an inherited heap is read back. -/
theorem inheriting_heap_reads_back :
    ∃ session resolved,
      Inspector.resolve ⟨⟨some 0⟩, ⟨0, ⟨some 0⟩⟩, false⟩
        { layout := { regionSizeBytes := some 0x100 } } none
        { host := { images := [inheritingImage] } } = .ok session resolved ∧
      outcome (Heap.regions ⟨session⟩) resolved =
        .ok [⟨0, 0x300, 0x8000, 0x8100, 0x8030, .live, 2⟩] := by
  let attachment : Attachment := ⟨⟨some 0⟩, ⟨0, ⟨some 0⟩⟩, false⟩
  let settings : Settings := { layout := { regionSizeBytes := some 0x100 } }
  let context : Context := { host := { images := [inheritingImage] } }
  have hattachment : attachment.target.image = some 0 ∧ attachment.inferior.image = 0 := ⟨rfl, rfl⟩
  have hcontext : context.host.bindings ∧ context.host.images[0]? = some inheritingImage :=
    ⟨rfl, rfl⟩
  have hdependable : inheritingImage.Dependable := ⟨rfl, nofun⟩
  have hplaces : inheritingImage.Declares settings.layout inheritingPlaces :=
    ⟨rfl, rfl, rfl, rfl, rfl, rfl, rfl, rfl, rfl, rfl, rfl⟩
  have haddress : inheritingImage.Supplies 4 none settings.layout.heapSymbol 0x100 :=
    ⟨0x5000, 0x100, rfl, ⟨by decide, rfl⟩, rfl⟩
  have hsize : inheritingImage.Supplies 4 settings.layout.regionSizeBytes
      settings.layout.regionSizeSymbol 0x100 := rfl
  have hregion :
      inheritingImage.HoldsRegion 4 inheritingPlaces ⟨0x300, 2, 0x8000, 0x8100, 0x8030⟩ :=
    ⟨⟨by decide, rfl⟩, ⟨by decide, rfl⟩, ⟨by decide, rfl⟩, ⟨by decide, rfl⟩, by decide⟩
  have hslot : inheritingImage.Holds 4 0x200 0x300 := ⟨by decide, rfl⟩
  have hheap : inheritingImage.HoldsHeap 4 inheritingPlaces 0x100 inheritingRecord := by
    refine ⟨⟨by decide, rfl⟩, ⟨by decide, rfl⟩, ⟨by decide, rfl⟩, ⟨by decide, rfl⟩,
      ⟨by decide, rfl⟩, ⟨by decide, rfl⟩, fun i h => ?_, List.forall_mem_singleton.2 hregion⟩
    obtain rfl : i = 0 := Nat.lt_one_iff.1 h
    exact hslot
  have hknown : ∀ region ∈ inheritingRecord.regions, settings.states.Knows region.rawState :=
    List.forall_mem_singleton.2 (.inr (.inr (.inr (by decide))))
  obtain ⟨session, resolved, hresolve, hhost, -, hreads⟩ :=
    Inspector.resolve_reads_back hattachment.1 hattachment.2 hcontext.1 hcontext.2 hdependable rfl
      (.inl rfl) hplaces haddress hsize hheap hknown
  rw [← hhost] at hcontext
  obtain ⟨-, -, -, -, -, -, -, -, hregions⟩ := hreads resolved hcontext.1 hcontext.2 rfl
  exact ⟨session, resolved, hresolve, hregions RegionFilter.liveOnly⟩

end HeapProbe
