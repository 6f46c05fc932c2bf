import HeapProbe.Heap.Report
import HeapProbe.Proofs.Heap.Walk
import HeapProbe.Proofs.Session.Advance

/-! # Queries

All that can be asked of a heap, whether directly, by a walk over its regions or by a reporter on it.
Every query goes through the session before it reads. So a session that has nothing to answer stops
each of them at once: nothing is read, called, logged or changed.
-/

namespace HeapProbe

open Probe

namespace Heap

inductive Query where
  | numRegions
  | used
  | committed
  | regionTableBase
  | reservedRange
  | regionSizeBytes
  | capacity
  | contains (address : Int)
  | regionAt (index : Int)
  | iterate (visit : Region → Probe Unit) (accept : RegionFilter)
  | regions (accept : RegionFilter)
  | countByState
  | describe
  | summary (heapName : String)
  | status (heapName : String)
  | regionTable (heapName : String) (accept : RegionFilter)
  | print (heapName : String) (withTable : Bool) (accept : RegionFilter)

namespace Query

def perform (heap : Heap) : Query → Probe Unit
  | .numRegions => do let _ ← heap.numRegions
  | .used => do let _ ← heap.used
  | .committed => do let _ ← heap.committed
  | .regionTableBase => do let _ ← heap.regionTableBase
  | .reservedRange => do let _ ← heap.reservedRange
  | .regionSizeBytes => do let _ ← heap.regionSizeBytes
  | .capacity => do let _ ← heap.capacity
  | .contains address => do let _ ← heap.contains address
  | .regionAt index => do let _ ← heap.regionAt index
  | .iterate visit accept => heap.iterate visit accept
  | .regions accept => do let _ ← heap.regions accept
  | .countByState => do let _ ← heap.countByState
  | .describe => do let _ ← Reporter.describe { heap }
  | .summary heapName => do let _ ← Reporter.summary { heap, heapName }
  | .status heapName => do let _ ← Reporter.status { heap, heapName }
  | .regionTable heapName accept => do let _ ← Reporter.regionTable { heap, heapName } accept
  | .print heapName withTable accept => do
    Probe.ofExcept (← Reporter.print { heap, heapName } withTable accept).outcome

/-- The fault of a query when the session blames its state. A negative index is found before. -/
def misuse (failure : Fault) : Query → Fault
  | .regionAt index => if 0 ≤ index then failure else .ofIndex index none
  | _ => failure

end Query

section Unanswered

variable {heap : Heap} {scene : Scene} {failure : Fault}

/-- The heap's session answers nothing in the scene but this fault. -/
structure Refuses (heap : Heap) (scene : Scene) (failure : Fault) : Prop where
  session : scene.session = heap.session.id
  phase : scene.phase.answer (fun resolution => resolution) = .error failure

namespace Refuses

theorem resolution (h : heap.Refuses scene failure) :
    heap.session.resolution.Finds scene ⟨.error failure, [], []⟩ := by
  apply Finds.of_outcome_after
  intro context hc
  have hp : context.phase heap.session.id = scene.phase := by
    rw [← h.session]
    exact congrArg Scene.phase hc
  rw [Session.resolution_run.1, Session.resolution_run.2, hp, h.phase, Context.note_nil]
  exact ⟨rfl, rfl⟩

theorem readAt (h : heap.Refuses scene failure) (offset : HeapLayout → Int) :
    (heap.readAt offset).Finds scene ⟨.error failure, [], []⟩ := h.resolution.bind_of_error

theorem reservedRange (h : heap.Refuses scene failure) :
    heap.reservedRange.Finds scene ⟨.error failure, [], []⟩ := (h.readAt _).bind_of_error

theorem regionAt (h : heap.Refuses scene failure) (index : Int) :
    (heap.regionAt index).Finds scene
      ⟨.error (if 0 ≤ index then failure else .ofIndex index none), [], []⟩ := by
  refine ((Finds.require _ _).bind fun _ _ => (h.readAt HeapLayout.numRegions).bind_of_error).congr ?_
  split <;> simp

theorem walk (h : heap.Refuses scene failure) (accept : RegionFilter)
    (visit : Region → Probe Unit) :
    (heap.walk accept visit).Finds scene ⟨.ok ⟨[], .error failure⟩, [], []⟩ :=
  fun _ hc => walk_of_count_fault accept visit (h.readAt HeapLayout.numRegions) hc

theorem regions (h : heap.Refuses scene failure) (accept : RegionFilter) :
    (heap.regions accept).Finds scene ⟨.error failure, [], []⟩ :=
  (h.walk accept _).bind_of_pure (Finds.throw failure).bind_of_error

theorem describe (h : heap.Refuses scene failure) (heapName : String) :
    (Reporter.describe { heap, heapName }).Finds scene ⟨.error failure, [], []⟩ :=
  (h.readAt HeapLayout.numRegions).bind_of_error

theorem print (h : heap.Refuses scene failure) (heapName : String) (withTable : Bool)
    (accept : RegionFilter) :
    (Reporter.print { heap, heapName } withTable accept).Finds scene
      ⟨.ok ⟨"", .error failure⟩, [], []⟩ := by
  have hsummary : (printed <$> Reporter.summary { heap, heapName }).Finds scene
      ⟨.error failure, [], []⟩ := h.reservedRange.bind_of_error.bind_of_error
  exact hsummary.attempt.bind_of_pure (.pure _)

/-- A session that blames its state stops every query before anything is looked at. -/
theorem perform (h : heap.Refuses scene failure) (query : Query) :
    (query.perform heap).Finds scene ⟨.error (query.misuse failure), [], []⟩ := by
  cases query with
  | numRegions => exact (h.readAt _).bind_of_error
  | used => exact h.resolution.bind_of_error.bind_of_error
  | committed => exact (h.readAt _).bind_of_error
  | regionTableBase => exact (h.readAt _).bind_of_error
  | reservedRange => exact h.reservedRange.bind_of_error
  | regionSizeBytes => exact h.resolution.bind_of_error.bind_of_error
  | capacity => exact (h.readAt _).bind_of_error.bind_of_error
  | contains address => exact h.reservedRange.bind_of_error.bind_of_error
  | regionAt index => exact (h.regionAt index).bind_of_error
  | iterate visit accept => exact (h.walk accept visit).bind_of_pure (.throw failure)
  | regions accept => exact (h.regions accept).bind_of_error
  | countByState => exact (h.regions _).bind_of_error.bind_of_error
  | describe => exact (h.describe _).bind_of_error
  | summary heapName => exact h.reservedRange.bind_of_error.bind_of_error
  | status heapName => exact (h.describe heapName).bind_of_error.bind_of_error
  | regionTable heapName accept => exact (h.regions accept).bind_of_error.bind_of_error
  | print heapName withTable accept =>
    exact (h.print heapName withTable accept).bind_of_pure (.throw failure)

end Refuses

end Unanswered

/-- Printing block by block is doing one after the other. -/
theorem ofExcept_ofBlocks (blocks : List (Probe String)) :
    (do Probe.ofExcept (← Printout.ofBlocks blocks).outcome : Probe Unit) =
      blocks.foldr (fun block later => do let _ ← block; later) (pure ()) := by
  induction blocks with
  | nil => rfl
  | cons block later ih =>
    rw [List.foldr_cons, ← ih]
    funext context
    simp only [Printout.ofBlocks, bind, EStateM.bind, attempt]
    cases block context with
    | error fault between => rfl
    | ok text between =>
      simp only [EStateM.bind]
      cases Printout.ofBlocks later between <;> rfl

section Parts

variable {holds : (α : Type) → Probe α → Prop}

/-- A property of probes that carries over from the steps of a probe to the whole, and that the checks
of reports have. -/
structure Compositional (holds : (α : Type) → Probe α → Prop) : Prop where
  pure {α : Type} (value : α) : holds α (pure value)
  bind {α β : Type} {probe : Probe α} {next : α → Probe β} :
    holds α probe → (∀ value, holds β (next value)) → holds β (probe >>= next)
  check (report : HeapReport) : holds HeapReport (Probe.ofExcept report.check)
  needNumerals (numbers : List Int) : holds Unit (Probe.needNumerals numbers)

/-- What holds of the steps of a walk, the visitor's included, holds of the walk. -/
theorem Compositional.walk (hc : Compositional holds)
    (hattempt : ∀ {α : Type} {probe : Probe α},
      holds α probe → holds (Except Fault α) (Probe.attempt probe))
    (hlog : ∀ level source message, holds Unit (log level source message)) {heap : Heap}
    (hcount : holds Int heap.numRegions) (hregion : ∀ index, holds Region (heap.regionAt index))
    (accept : RegionFilter) {visit : Region → Probe Unit}
    (hv : ∀ region, holds Unit (visit region)) : holds Walk (heap.walk accept visit) := by
  have habort (index : Nat) (fault : Fault) : holds Unit (noteAbort index fault) := by
    unfold noteAbort
    split
    · exact hlog _ _ _
    · exact hc.pure _
  have hend (count : Int) (walk : Walk) : holds Unit (noteEnd count walk) := by
    unfold noteEnd
    split
    · exact hlog _ _ _
    · exact hc.pure _
  have hfrom (index remaining : Nat) : holds Walk (heap.walkFrom accept visit index remaining) := by
    induction remaining generalizing index with
    | zero => exact hc.pure _
    | succ remaining ih =>
      refine hc.bind (hattempt (hregion index)) fun result => ?_
      cases result with
      | error fault => exact hc.bind (habort index fault) fun _ => hc.pure _
      | ok region =>
        dsimp only
        split
        · refine hc.bind (hattempt (hv region)) fun result => ?_
          cases result with
          | error fault => exact hc.pure _
          | ok _ => exact hc.bind (ih (index + 1)) fun _ => hc.pure _
        · exact ih (index + 1)
  refine hc.bind (hattempt hcount) fun result => ?_
  cases result with
  | error fault => exact hc.pure _
  | ok count =>
    exact hc.bind (hlog _ _ _) fun _ => hc.bind (hfrom _ _) fun walk =>
      hc.bind (hend count walk) fun _ => hc.pure _

structure Parts (heap : Heap) (holds : (α : Type) → Probe α → Prop) : Prop where
  readAt (offset : HeapLayout → Int) : holds Int (heap.readAt offset)
  used : holds Int heap.used
  regionSizeBytes : holds Int heap.regionSizeBytes
  regionAt (index : Int) : holds Region (heap.regionAt index)
  regions (accept : RegionFilter) : holds (List Region) (heap.regions accept)

namespace Parts

variable {heap : Heap} (h : heap.Parts holds) (hc : Compositional holds)
include h hc

theorem reservedRange : holds (Int × Int) heap.reservedRange :=
  hc.bind (h.readAt _) fun _ => hc.bind (h.readAt _) fun _ => hc.pure _

theorem capacity : holds Int heap.capacity :=
  hc.bind (h.readAt _) fun _ => hc.bind h.regionSizeBytes fun _ => hc.pure _

theorem contains (address : Int) : holds Bool (heap.contains address) := by
  refine hc.bind (h.reservedRange hc) fun range => ?_
  dsimp only
  split
  · exact hc.bind (h.capacity hc) fun _ => hc.pure _
  · exact hc.pure _

theorem describe (heapName : String) : holds HeapReport (Reporter.describe { heap, heapName }) :=
  hc.bind (h.readAt _) fun _ => hc.bind h.used fun _ => hc.bind (h.readAt _) fun _ =>
    hc.bind (h.reservedRange hc) fun _ => hc.check _

theorem summary (heapName : String) : holds String (Reporter.summary { heap, heapName }) :=
  hc.bind (h.reservedRange hc) fun _ => hc.bind h.regionSizeBytes fun _ =>
    hc.bind (hc.needNumerals _) fun _ => hc.pure _

theorem status (heapName : String) : holds String (Reporter.status { heap, heapName }) :=
  hc.bind (h.describe hc heapName) fun _ => hc.bind h.regionSizeBytes fun _ =>
    hc.bind (h.capacity hc) fun _ => hc.bind (hc.needNumerals _) fun _ => hc.pure _

theorem regionTable (heapName : String) (accept : RegionFilter) :
    holds RegionTable (Reporter.regionTable { heap, heapName } accept) :=
  hc.bind (h.regions accept) fun _ => hc.pure _

theorem print (heapName : String) (withTable : Bool) (accept : RegionFilter) :
    holds Unit (Query.perform heap (.print heapName withTable accept)) := by
  have hsummary : holds String (printed <$> Reporter.summary { heap, heapName }) :=
    hc.bind (h.summary hc heapName) fun _ => hc.pure _
  have hstatus : holds String (printed <$> Reporter.status { heap, heapName }) :=
    hc.bind (h.status hc heapName) fun _ => hc.pure _
  -- A printout keeps the text before the fault, which is not so of steps that are bound.
  have hprint : Query.perform heap (.print heapName withTable accept) = _ := ofExcept_ofBlocks _
  rw [hprint]
  refine hc.bind hsummary fun _ => hc.bind hstatus fun _ => ?_
  cases withTable with
  | false => exact hc.pure ()
  | true =>
    have htable : holds String (do
        return (← Reporter.regionTable { heap, heapName } accept).grid.text) :=
      hc.bind (h.regionTable hc heapName accept) fun _ => hc.pure _
    exact hc.bind htable fun _ => hc.pure ()

/-- What holds of the parts holds of every query, but for what a walk does with its visitor. -/
theorem perform (query : Query)
    (hiterate : ∀ visit accept, query = .iterate visit accept →
      holds Unit (heap.iterate visit accept)) : holds Unit (query.perform heap) := by
  have hdone {α : Type} {probe : Probe α} (hp : holds α probe) :
      holds Unit (do let _ ← probe) := hc.bind hp fun _ => hc.pure ()
  cases query with
  | numRegions => exact hdone (h.readAt _)
  | used => exact hdone h.used
  | committed => exact hdone (h.readAt _)
  | regionTableBase => exact hdone (h.readAt _)
  | reservedRange => exact hdone (h.reservedRange hc)
  | regionSizeBytes => exact hdone h.regionSizeBytes
  | capacity => exact hdone (h.capacity hc)
  | contains address => exact hdone (h.contains hc address)
  | regionAt index => exact hdone (h.regionAt index)
  | iterate visit accept => exact hiterate visit accept rfl
  | regions accept => exact hdone (h.regions accept)
  | countByState => exact hdone (hc.bind (h.regions _) fun _ => hc.pure _)
  | describe => exact hdone (h.describe hc _)
  | summary heapName => exact hdone (h.summary hc heapName)
  | status heapName => exact hdone (h.status hc heapName)
  | regionTable heapName accept => exact hdone (h.regionTable hc heapName accept)
  | print heapName withTable accept => exact h.print hc heapName withTable accept

end Parts

end Parts

section Looking

variable {heap : Heap} {inferior : Inferior} {kept : Int}

theorem readAt_looks (hr : heap.session.reader = inferior.readerOfSize kept)
    (offset : HeapLayout → Int) : (heap.readAt offset).Looks heap.session.id := by
  unfold readAt
  rw [hr]
  exact heap.session.resolution_looks.bind fun _ => inferior.readWord_looks kept _

theorem used_looks (hr : heap.session.reader = inferior.readerOfSize kept) :
    heap.used.Looks heap.session.id := by
  unfold used
  rw [hr]
  exact heap.session.resolution_looks.bind fun _ => inferior.readUInt64_looks kept _

theorem regionSizeBytes_looks : heap.regionSizeBytes.Looks heap.session.id :=
  heap.session.resolution_looks.bind fun _ => .pure _

theorem decodeRegion_looks (hr : heap.session.reader = inferior.readerOfSize kept)
    (layout : RegionLayout) (index address : Int) {session : Nat} :
    (heap.decodeRegion layout index address).Looks session := by
  unfold decodeRegion
  rw [hr]
  exact (inferior.readUInt32_looks kept _).bind fun _ => (inferior.readWord_looks kept _).bind
    fun _ => (inferior.readWord_looks kept _).bind fun _ => (inferior.readWord_looks kept _).bind
      fun _ => (Looks.require _ _).bind fun _ => (Looks.ofExcept _).bind fun _ => .pure _

theorem regionAt_looks (hr : heap.session.reader = inferior.readerOfSize kept) (index : Int) :
    (heap.regionAt index).Looks heap.session.id := by
  have hslot : (heap.regionInSlot index).Looks heap.session.id := by
    unfold regionInSlot
    rw [hr]
    exact heap.session.resolution_looks.bind fun _ => (readAt_looks hr _).bind fun _ =>
      (inferior.readAddressAt_looks kept _ _).bind fun _ => decodeRegion_looks hr _ _ _
  exact (Looks.require _ _).bind fun _ => (readAt_looks hr _).bind fun _ =>
    (Looks.require _ _).bind fun _ => hslot

/-- A property that every probe has that only looks, and that probes inherit from the steps that they
are made of. -/
structure Inherited (holds : (α : Type) → Probe α → Prop) : Prop where
  looks {α : Type} {probe : Probe α} {session : Nat} : probe.Looks session → holds α probe
  bind {α β : Type} {probe : Probe α} {next : α → Probe β} :
    holds α probe → (∀ value, holds β (next value)) → holds β (probe >>= next)
  attempt {α : Type} {probe : Probe α} :
    holds α probe → holds (Except Fault α) (Probe.attempt probe)

namespace Inherited

variable {holds : (α : Type) → Probe α → Prop} (h : Inherited holds)
include h

protected theorem pure {α : Type} (value : α) : holds α (pure value) :=
  h.looks (.pure value : Looks _ 0)

protected theorem ofExcept {α : Type} (result : Except Fault α) :
    holds α (Probe.ofExcept result) := h.looks (.ofExcept result : Looks _ 0)

protected theorem log (level : LogLevel) (source : LogSource) (message : String) :
    holds Unit (log level source message) := h.looks (.log level source message : Looks _ 0)

theorem compositional : Compositional holds where
  pure := h.pure
  bind := h.bind
  check _ := h.ofExcept _
  needNumerals _ := h.looks (.require _ _ : Looks _ 0)

theorem walk (hr : heap.session.reader = inferior.readerOfSize kept) (accept : RegionFilter)
    {visit : Region → Probe Unit} (hv : ∀ region, holds Unit (visit region)) :
    holds Walk (heap.walk accept visit) :=
  h.compositional.walk h.attempt h.log (h.looks (readAt_looks hr _))
    (fun index => h.looks (regionAt_looks hr index)) accept hv

/-- Whatever is asked through a debugger's reader inherits from its visitor, if it has one. -/
theorem perform (hr : heap.session.reader = inferior.readerOfSize kept) (query : Query)
    (hv : ∀ visit accept, query = .iterate visit accept →
      ∀ region, holds Unit (visit region)) : holds Unit (query.perform heap) := by
  have hparts : heap.Parts holds :=
    { readAt := fun offset => h.looks (readAt_looks hr offset)
      used := h.looks (used_looks hr)
      regionSizeBytes := h.looks regionSizeBytes_looks
      regionAt := fun index => h.looks (regionAt_looks hr index)
      regions := fun accept => h.bind (h.walk hr accept fun _ => h.pure ()) fun _ =>
        h.bind (h.ofExcept _) fun _ => h.pure _ }
  exact hparts.perform h.compositional query fun visit accept hquery =>
    h.bind (h.walk hr accept (hv visit accept hquery)) fun _ => h.ofExcept _

end Inherited

/-- Whatever is asked through a debugger's reader, sessions only come and detached ones rest, as
long as a visitor lets them. -/
theorem Query.advances (hr : heap.session.reader = inferior.readerOfSize kept) (query : Query)
    (hv : ∀ visit accept, query = .iterate visit accept → ∀ region, (visit region).Advances) :
    (query.perform heap).Advances := by
  have hadvances : Inherited fun _ probe => probe.Advances :=
    { looks := fun h => .of_leads h.leads
      bind := fun h hnext => h.bind hnext
      attempt := fun h => h.attempt }
  exact hadvances.perform hr query hv

end Looking

end Heap

end HeapProbe
