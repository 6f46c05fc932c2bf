import HeapProbe.Heap.Basic
import HeapProbe.Memory.Word.Lemmas
import HeapProbe.Proofs.Memory.View
import HeapProbe.Proofs.Session.Phase
import Mathlib.Tactic.SplitIfs

/-! # Decoding regions

A heap on a resolved session reads through a view of its target. Its counters are one load each. A
region takes seven, in a fixed order: the count of regions, the base of the table, the slot, the
state and the three bounds. The first of them that yields nothing ends the decoding; after all seven
only inverted bounds or an unknown state are left to go wrong.
-/

namespace HeapProbe

/-- The heap's session is resolved in the scene, and its reader sees the scene's host. -/
structure Heap.Sees (heap : Heap) (scene : Scene) (view : View) (resolution : Resolution) :
    Prop where
  reader : heap.session.reader = view.inferior.readerOfSize view.kept
  host : view.host = scene.host
  session : scene.session = heap.session.id
  phase : scene.phase = .resolved resolution

section OfIndex

variable {index : Int}

theorem Fault.ofIndex_none (h : hasNumeral index) :
    ofIndex index none = .regionIndex index none := by
  simp [ofIndex, h]

theorem Fault.ofIndex_some {count : Int} (h : hasNumeral index) (hcount : IsWord count) :
    ofIndex index (some count) = .regionIndex index (some count) := by
  simp [ofIndex, h, hcount.hasNumeral]

theorem Fault.ofIndex_of_overlong {count : Option Int} (h : hasNumeral index = false) :
    ofIndex index count = .overlongNumeral := by
  simp [ofIndex, h]

end OfIndex

def Region.ofWords (codes : StateCodes) (index address rawState bottom limit top : Int) :
    Except Fault Region :=
  if bottom ≤ limit then
    match codes.classify rawState with
    | .ok state => .ok { index, baseAddress := address, bottom, limit, top, state, rawState }
    | .error fault => .error fault
  else .error (.inconsistent (.invertedRegion index limit bottom))

/-- The faults that memory gives rise to: a load yields nothing, or words do not fit together. -/
def Fault.isOfMemory : Fault → Prop
  | .bindingsLost | .unavailable .. | .inconsistent _ => True
  | _ => False

theorem Fault.isOfMemory.not_misuse {fault : Fault} (h : fault.isOfMemory) :
    fault.isSessionState = false ∧ ∀ index count, fault ≠ .regionIndex index count := by
  cases fault <;> simp_all [isOfMemory, isSessionState]

theorem Region.ofWords_fault {codes : StateCodes} {fault : Fault}
    {index address rawState bottom limit top : Int}
    (h : ofWords codes index address rawState bottom limit top = .error fault) :
    fault.isOfMemory := by
  unfold ofWords StateCodes.classify at h
  split_ifs at h <;> cases h <;> trivial

namespace View

variable (view : View) (resolution : Resolution) (codes : StateCodes)

def heapWord (offset : HeapLayout → Int) : Finding Int :=
  view.word (resolution.heapAddress + offset resolution.heapLayout)

def regionBody (index address : Int) : Finding Region :=
  (view.uint32 (address + resolution.regionLayout.state)).andThen fun rawState =>
    (view.word (address + resolution.regionLayout.bottom)).andThen fun bottom =>
      (view.word (address + resolution.regionLayout.limit)).andThen fun limit =>
        (view.word (address + resolution.regionLayout.top)).andThen fun top =>
          ⟨Region.ofWords codes index address rawState bottom limit top, [], []⟩

def regionInSlot (index : Int) : Finding Region :=
  (view.heapWord resolution HeapLayout.regions).andThen fun base =>
    (view.element base index).andThen fun address => view.regionBody resolution codes index address

def region (index : Int) : Finding Region :=
  if 0 ≤ index then
    (view.heapWord resolution HeapLayout.numRegions).andThen fun count =>
      if index < count then view.regionInSlot resolution codes index
      else ⟨.error (.ofIndex index (some count)), [], []⟩
  else ⟨.error (.ofIndex index none), [], []⟩

/-- The word of a load; of one that yields nothing it does not matter. -/
def known (load : Load) : Int := (view.yields load).toOption.getD 0

def bodyLoads (address : Int) : List Load :=
  [⟨4, address + resolution.regionLayout.state, 4⟩,
    view.pointerLoad (address + resolution.regionLayout.bottom),
    view.pointerLoad (address + resolution.regionLayout.limit),
    view.pointerLoad (address + resolution.regionLayout.top)]

/-- The loads that decode a region, in order. Where one of them rests on an earlier one that yields
nothing, it is never made. -/
def regionLoads (index : Int) : List Load :=
  let inHeap offset := view.pointerLoad (resolution.heapAddress + offset resolution.heapLayout)
  let table := inHeap HeapLayout.regions
  let slot := view.pointerLoad (view.known table + index * view.pointerSize)
  inHeap HeapLayout.numRegions :: table :: slot :: view.bodyLoads resolution (view.known slot)

theorem calls_finding_andThen {α : Type} (load : Load) (address length : Int)
    (next : Int → Finding α) :
    ((view.finding load address length).andThen next).calls =
      view.callsFor load ++ match view.yields load with
        | .ok word => (next word).calls
        | .error _ => [] := by
  unfold finding Finding.relabel
  cases view.yields load <;> simp

theorem flatMap_untilFault_cons (load : Load) (rest : List Load) :
    (view.untilFault (load :: rest)).flatMap view.callsFor =
      view.callsFor load ++ match view.yields load with
        | .ok _ => (view.untilFault rest).flatMap view.callsFor
        | .error _ => [] := by
  rw [untilFault]
  cases view.yields load <;> simp

theorem calls_regionBody (index address : Int) :
    (view.regionBody resolution codes index address).calls =
      (view.untilFault (view.bodyLoads resolution address)).flatMap view.callsFor := by
  simp only [regionBody, uint32, word, bodyLoads, calls_finding_andThen, flatMap_untilFault_cons]
  rfl

/-- Decoding an index below the count makes the seven loads up to the first that yields nothing. -/
theorem calls_region {index : Int} (h0 : 0 ≤ index)
    (hcount : ∀ count, (view.heapWord resolution HeapLayout.numRegions).outcome = .ok count →
      index < count) :
    (view.region resolution codes index).calls =
      (view.untilFault (view.regionLoads resolution index)).flatMap view.callsFor := by
  rw [region, if_pos h0, heapWord, word, calls_finding_andThen, regionLoads,
    flatMap_untilFault_cons]
  congr 1
  cases hc : view.yields _ with
  | error fault => rfl
  | ok count =>
    have hlt : index < count := hcount count (by simp [heapWord, word, finding, Finding.relabel, hc])
    simp only [if_pos hlt]
    rw [regionInSlot, heapWord, word, calls_finding_andThen, flatMap_untilFault_cons]
    congr 1
    cases hb : view.yields _ with
    | error fault => rfl
    | ok base =>
      simp only [known, hb, Except.toOption, Option.getD_some]
      rw [element, calls_finding_andThen, flatMap_untilFault_cons]
      congr 1
      cases hs : view.yields _ with
      | error fault => rfl
      | ok address => exact calls_regionBody view resolution codes index address

theorem records_regionBody (index address : Int) :
    (view.regionBody resolution codes index address).records = [] :=
  Finding.records_andThen rfl fun _ => Finding.records_andThen rfl fun _ =>
    Finding.records_andThen rfl fun _ => Finding.records_andThen rfl fun _ => rfl

theorem records_region (index : Int) : (view.region resolution codes index).records = [] := by
  unfold region
  split
  · refine Finding.records_andThen rfl fun count => ?_
    split
    · exact Finding.records_andThen rfl fun _ => Finding.records_andThen rfl fun address =>
        view.records_regionBody resolution codes index address
    · rfl
  · rfl

theorem exists_bytes_of_yields {load : Load} {word : Int} (h : view.yields load = .ok word) :
    ∃ bytes : List UInt8, bytes.length = load.width ∧ word = view.byteOrder.decode bytes := by
  unfold yields at h
  split_ifs at h
  cases hr : view.image.read load.address load.size with
  | error reason => simp [hr] at h
  | ok bytes =>
    simp only [hr] at h
    split_ifs at h with hl
    cases h
    exact ⟨bytes, hl, rfl⟩

theorem yields_of_finding {load : Load} {address length word : Int}
    (h : (view.finding load address length).outcome = .ok word) : view.yields load = .ok word := by
  unfold finding Finding.relabel at h
  dsimp only at h
  split at h
  · next hy => rwa [hy]
  · cases h

theorem width_pointerLoad_le (address : Int) : (view.pointerLoad address).width ≤ 8 := by
  unfold pointerLoad
  dsimp only
  split <;> omega

theorem isWord_of_finding {load : Load} (hw : load.width ≤ 8) {address length word : Int}
    (h : (view.finding load address length).outcome = .ok word) : IsWord word := by
  obtain ⟨bytes, hlength, rfl⟩ := view.exists_bytes_of_yields (view.yields_of_finding h)
  have hlt := view.byteOrder.decode_lt bytes
  have hwidth : 256 ^ bytes.length ≤ 256 ^ 8 := Nat.pow_le_pow_right (by omega) (by omega)
  exact ⟨Int.natCast_nonneg _, by omega⟩

theorem isWord_of_heapWord {offset : HeapLayout → Int} {word : Int}
    (h : (view.heapWord resolution offset).outcome = .ok word) : IsWord word :=
  view.isWord_of_finding (view.width_pointerLoad_le _) h

theorem finding_faults (load : Load) (address length : Int) :
    (view.finding load address length).FaultsAre Fault.isOfMemory := by
  intro fault h
  rcases view.fault_of_finding h with ⟨-, rfl⟩ | ⟨-, failure, rfl⟩ <;> trivial

theorem regionBody_faults (index address : Int) :
    (view.regionBody resolution codes index address).FaultsAre Fault.isOfMemory :=
  (view.finding_faults _ _ _).andThen fun _ => (view.finding_faults _ _ _).andThen fun _ =>
    (view.finding_faults _ _ _).andThen fun _ => (view.finding_faults _ _ _).andThen fun _ _ h =>
      Region.ofWords_fault h

/-- Decoding an index below the count goes wrong only through what memory holds. -/
theorem region_faults {index : Int} (h0 : 0 ≤ index)
    (hcount : ∀ count, (view.heapWord resolution HeapLayout.numRegions).outcome = .ok count →
      index < count) :
    (view.region resolution codes index).FaultsAre Fault.isOfMemory := by
  rw [region, if_pos h0]
  intro fault h
  cases hc : (view.heapWord resolution HeapLayout.numRegions).outcome with
  | error fault' =>
    simp only [Finding.andThen, hc] at h
    cases h
    exact view.finding_faults _ _ _ _ hc
  | ok count =>
    simp only [Finding.andThen, hc, if_pos (hcount count hc)] at h
    exact ((view.finding_faults _ _ _).andThen fun _ => (view.finding_faults _ _ _).andThen
      fun _ => view.regionBody_faults resolution codes _ _) fault h

end View

namespace Inferior

open Probe

variable (inferior : Inferior) (kept address : Int)

theorem readWord_yields : Yields ((inferior.readerOfSize kept).readWord address) IsWord := by
  intro context word ho
  let view : View := ⟨inferior, kept, context.host⟩
  have hfinds := @Finds.word (context.scene 0) view rfl address
  rw [hfinds.outcome_eq rfl] at ho
  exact view.isWord_of_finding (view.width_pointerLoad_le _) ho

theorem readUInt64_yields : Yields ((inferior.readerOfSize kept).readUInt64 address) IsWord := by
  intro context word ho
  let view : View := ⟨inferior, kept, context.host⟩
  have hfinds := @Finds.uint64 (context.scene 0) view rfl address
  rw [hfinds.outcome_eq rfl] at ho
  exact view.isWord_of_finding (Nat.le_refl 8) ho

end Inferior

theorem Heap.readAt_yields {heap : Heap} {inferior : Inferior} {kept : Int}
    (hr : heap.session.reader = inferior.readerOfSize kept) (offset : HeapLayout → Int) :
    Probe.Yields (heap.readAt offset) IsWord := by
  unfold readAt
  rw [hr]
  exact .next fun _ => inferior.readWord_yields kept _

namespace Heap.Sees

open Probe (Finds)

variable {heap : Heap} {scene : Scene} {view : View} {resolution : Resolution}

theorem of_phase {inferior : Inferior} {kept : Int} {context : Context}
    (hr : heap.session.reader = inferior.readerOfSize kept)
    (hp : context.phase heap.session.id = .resolved resolution) :
    heap.Sees (context.scene heap.session.id) ⟨inferior, kept, context.host⟩ resolution :=
  ⟨hr, rfl, rfl, hp⟩

theorem finds_resolution (h : heap.Sees scene view resolution) :
    heap.session.resolution.Finds scene ⟨.ok resolution, [], []⟩ := by
  apply Finds.of_outcome_after
  intro context hc
  have hp : context.phase heap.session.id = .resolved resolution := by
    rw [← h.phase, ← h.session]
    exact congrArg Scene.phase hc
  rw [Session.resolution_run.1, Session.resolution_run.2, hp, Context.note_nil]
  exact ⟨rfl, rfl⟩

theorem finds_readAt (h : heap.Sees scene view resolution) (offset : HeapLayout → Int) :
    (heap.readAt offset).Finds scene (view.heapWord resolution offset) :=
  h.finds_resolution.bind_of_pure (by rw [h.reader]; exact .word h.host _)

theorem finds_numRegions (h : heap.Sees scene view resolution) :
    heap.numRegions.Finds scene
      ⟨(view.heapWord resolution HeapLayout.numRegions).outcome,
        view.callsFor
          (view.pointerLoad (resolution.heapAddress + resolution.heapLayout.numRegions)), []⟩ :=
  h.finds_readAt HeapLayout.numRegions

theorem finds_decodeRegion (h : heap.Sees scene view resolution) (index address : Int) :
    (heap.decodeRegion resolution.regionLayout index address).Finds scene
      (view.regionBody resolution heap.session.settings.states index address) := by
  unfold Heap.decodeRegion
  rw [h.reader]
  refine Finds.bind (.uint32 h.host _) fun rawState _ => Finds.bind (.word h.host _) fun bottom _ =>
    Finds.bind (.word h.host _) fun limit _ => Finds.bind (.word h.host _) fun top _ => ?_
  refine ((Finds.require _ _).bind fun _ _ => (Finds.ofExcept _).bind fun state _ =>
    Finds.pure _).congr ?_
  unfold Region.ofWords
  split
  · cases heap.session.settings.states.classify rawState <;> simp
  · simp

theorem finds_regionInSlot (h : heap.Sees scene view resolution) (index : Int) :
    (heap.regionInSlot index).Finds scene
      (view.regionInSlot resolution heap.session.settings.states index) := by
  refine h.finds_resolution.bind_of_pure ((h.finds_readAt HeapLayout.regions).bind fun base _ => ?_)
  rw [h.reader]
  exact (Finds.element h.host base index).bind fun address _ => h.finds_decodeRegion index address

theorem finds_regionAt (h : heap.Sees scene view resolution) (index : Int) :
    (heap.regionAt index).Finds scene
      (view.region resolution heap.session.settings.states index) := by
  refine ((Finds.require _ _).bind fun _ _ => (h.finds_readAt HeapLayout.numRegions).bind
    fun count _ => (Finds.require _ _).bind fun _ _ => h.finds_regionInSlot index).congr ?_
  have hlater (count : Int) :
      (⟨if index < count then .ok () else .error (.ofIndex index (some count)), [], []⟩ :
        Finding Unit).andThen (fun _ => view.regionInSlot resolution
          heap.session.settings.states index) =
      if index < count then view.regionInSlot resolution heap.session.settings.states index
      else ⟨.error (.ofIndex index (some count)), [], []⟩ := by
    split <;> simp
  simp only [hlater, View.region]
  split <;> simp

theorem finds_regionAt_of_lt (h : heap.Sees scene view resolution) {index : Int} (h0 : 0 ≤ index)
    (hcount : ∀ count, (view.heapWord resolution HeapLayout.numRegions).outcome = .ok count →
      index < count) :
    (heap.regionAt index).Finds scene
      ⟨(view.region resolution heap.session.settings.states index).outcome,
        (view.untilFault (view.regionLoads resolution index)).flatMap view.callsFor, []⟩ := by
  refine (h.finds_regionAt index).congr ?_
  rw [← view.calls_region resolution heap.session.settings.states h0 hcount,
    ← view.records_region resolution heap.session.settings.states index]

end Heap.Sees

end HeapProbe
