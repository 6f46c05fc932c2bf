import HeapProbe.Proofs.Heap.Query
import HeapProbe.Proofs.Probe.Alike

/-! # Sessions that know the same

A heap is nothing but its session, and of its session a query takes the resolution, the reader and
the settings. So two sessions that read alike and found out the same give the same answers, by the
same calls, as long as they are asked on the same host.
-/

namespace HeapProbe

open Probe

def Session.under (session : Session) (id : Nat) : Session := { session with id }

abbrev Session.AnswersAlike {α : Type} (session : Session) (second : Nat)
    (question : Heap → Probe α) : Prop :=
  Alike session.id second (question ⟨session⟩) (question ⟨session.under second⟩)

namespace Heap

/-- What a query is answered with. Of a walk that is more than how it went. -/
abbrev Query.Answer : Query → Type
  | .numRegions | .used | .committed | .regionTableBase | .regionSizeBytes | .capacity => Int
  | .reservedRange => Int × Int
  | .contains _ => Bool
  | .regionAt _ => Region
  | .iterate .. => Walk
  | .regions _ => List Region
  | .countByState => List (RegionState × Nat)
  | .describe => HeapReport
  | .summary _ | .status _ => String
  | .regionTable .. => RegionTable
  | .print .. => Printout

def Query.VisitorGoesBy (query : Query) (session : Nat) : Prop :=
  ∀ visit accept, query = .iterate visit accept → ∀ region, (visit region).GoesBy session

def Query.ask (heap : Heap) : (query : Query) → Probe query.Answer
  | .numRegions => heap.numRegions
  | .used => heap.used
  | .committed => heap.committed
  | .regionTableBase => heap.regionTableBase
  | .reservedRange => heap.reservedRange
  | .regionSizeBytes => heap.regionSizeBytes
  | .capacity => heap.capacity
  | .contains address => heap.contains address
  | .regionAt index => heap.regionAt index
  | .iterate visit accept => heap.walk accept visit
  | .regions accept => heap.regions accept
  | .countByState => heap.countByState
  | .describe => Reporter.describe { heap }
  | .summary heapName => Reporter.summary { heap, heapName }
  | .status heapName => Reporter.status { heap, heapName }
  | .regionTable heapName accept => Reporter.regionTable { heap, heapName } accept
  | .print heapName withTable accept => Reporter.print { heap, heapName } withTable accept

section Alike

variable {session : Session} {second : Nat} {inferior : Inferior} {kept : Int}
  (hr : session.reader = inferior.readerOfSize kept)

theorem resolution_alike :
    Alike session.id second session.resolution (session.under second).resolution := by
  intro context context' ht
  have hrun := @Session.resolution_run session context
  have hrun' := @Session.resolution_run (session.under second) context'
  have hphase : context'.phase (session.under second).id = context.phase session.id := ht.phase'
  constructor
  case ends => rw [hrun.1, hrun'.1, hphase]
  all_goals simp only [hrun.2, hrun'.2]
  case calls => exact ⟨[], (List.append_nil _).symm, (List.append_nil _).symm⟩
  case host => exact ht.host

include hr

theorem readAt_alike (offset : HeapLayout → Int) :
    session.AnswersAlike second (readAt · offset) := by
  refine resolution_alike.bind fun resolution => .of_looks ?_
  dsimp only
  rw [hr]
  exact inferior.readWord_looks kept _

theorem used_alike : session.AnswersAlike second used := by
  refine resolution_alike.bind fun resolution => .of_looks ?_
  dsimp only
  rw [hr]
  exact inferior.readUInt64_looks kept _

theorem regionAt_alike (index : Int) : session.AnswersAlike second (regionAt · index) := by
  have hslot : session.AnswersAlike second (regionInSlot · index) := by
    refine resolution_alike.bind fun resolution => (readAt_alike hr _).bind fun base => ?_
    refine Alike.bind (.of_looks ?_) fun address => .of_looks (decodeRegion_looks hr _ _ _)
    dsimp only
    rw [hr]
    exact inferior.readAddressAt_looks kept _ _
  exact (Alike.of_looks (.require _ _)).bind fun _ => (readAt_alike hr _).bind fun _ =>
    (Alike.of_looks (.require _ _)).bind fun _ => hslot

/-- A walk goes alike if its visitor goes by the first session. -/
theorem walk_alike (accept : RegionFilter) {visit : Region → Probe Unit}
    (hv : ∀ region, (visit region).GoesBy session.id) :
    session.AnswersAlike second (walk · accept visit) := by
  have habort (index : Nat) (fault : Fault) : (noteAbort index fault).Looks session.id :=
    fun scene _ => ⟨_, finds_noteAbort scene index fault, nofun⟩
  have hend (count : Int) (walk : Walk) : (noteEnd count walk).Looks session.id :=
    fun scene _ => ⟨_, finds_noteEnd scene count walk, nofun⟩
  -- The induction is on the regions that remain; a visitor may change what the next of them holds.
  have hfrom (index remaining : Nat) :
      session.AnswersAlike second (walkFrom · accept visit index remaining) := by
    induction remaining generalizing index with
    | zero => exact .of_looks (.pure _)
    | succ remaining ih =>
      refine (regionAt_alike hr index).attempt.bind fun result => ?_
      cases result with
      | error fault => exact .of_looks ((habort index fault).bind fun _ => .pure _)
      | ok region =>
        dsimp only
        split
        · refine (Alike.of_goesBy (hv region)).attempt.bind fun result => ?_
          cases result with
          | error fault => exact .of_looks (.pure _)
          | ok _ => exact (ih (index + 1)).bind fun _ => .of_looks (.pure _)
        · exact ih (index + 1)
  refine (readAt_alike hr HeapLayout.numRegions).attempt.bind fun result => ?_
  cases result with
  | error fault => exact .of_looks (.pure _)
  | ok count =>
    exact (Alike.of_looks (.log _ _ _)).bind fun _ => (hfrom _ _).bind fun walk =>
      (Alike.of_looks (hend count walk)).bind fun _ => .of_looks (.pure _)

theorem regions_alike (accept : RegionFilter) :
    session.AnswersAlike second (regions · accept) :=
  (walk_alike hr accept fun _ => Alike.of_looks (.pure ())).bind fun _ =>
    .of_looks ((Looks.ofExcept _).bind fun _ => .pure _)

theorem reservedRange_alike : session.AnswersAlike second reservedRange :=
  (readAt_alike hr _).bind fun _ => (readAt_alike hr _).bind fun _ => .of_looks (.pure _)

omit hr in
theorem regionSizeBytes_alike : session.AnswersAlike second regionSizeBytes :=
  resolution_alike.bind fun _ => .of_looks (.pure _)

theorem capacity_alike : session.AnswersAlike second capacity :=
  (readAt_alike hr _).bind fun _ => regionSizeBytes_alike.bind fun _ => .of_looks (.pure _)

theorem describe_alike (heapName : String) :
    session.AnswersAlike second fun heap => Reporter.describe { heap, heapName } :=
  (readAt_alike hr _).bind fun _ => (used_alike hr).bind fun _ => (readAt_alike hr _).bind
    fun _ => (reservedRange_alike hr).bind fun _ => .of_looks (.ofExcept _)

theorem summary_alike (heapName : String) :
    session.AnswersAlike second fun heap => Reporter.summary { heap, heapName } :=
  (reservedRange_alike hr).bind fun _ => regionSizeBytes_alike.bind fun _ =>
    .of_looks ((Looks.require _ _).bind fun _ => .pure _)

theorem status_alike (heapName : String) :
    session.AnswersAlike second fun heap => Reporter.status { heap, heapName } :=
  (describe_alike hr heapName).bind fun _ => regionSizeBytes_alike.bind fun _ =>
    (capacity_alike hr).bind fun _ => .of_looks ((Looks.require _ _).bind fun _ => .pure _)

theorem regionTable_alike (heapName : String) (accept : RegionFilter) :
    session.AnswersAlike second fun heap => Reporter.regionTable { heap, heapName } accept :=
  (regions_alike hr accept).bind fun _ => .of_looks (.pure _)

omit hr in
theorem ofBlocks_alike {block block' : Probe String} {later later' : List (Probe String)}
    (h : Alike session.id second block block')
    (hlater : Alike session.id second (Printout.ofBlocks later) (Printout.ofBlocks later')) :
    Alike session.id second (Printout.ofBlocks (block :: later))
      (Printout.ofBlocks (block' :: later')) := by
  refine h.attempt.bind fun result => ?_
  cases result with
  | error fault => exact .of_looks (.pure _)
  | ok text => exact hlater.bind fun _ => .of_looks (.pure _)

theorem print_alike (heapName : String) (withTable : Bool) (accept : RegionFilter) :
    session.AnswersAlike second fun heap => Reporter.print { heap, heapName } withTable accept := by
  have hnone : Alike session.id second (Printout.ofBlocks []) (Printout.ofBlocks []) :=
    .of_looks (.pure _)
  refine ofBlocks_alike ((summary_alike hr heapName).bind fun _ => .of_looks (.pure _)) ?_
  refine ofBlocks_alike ((status_alike hr heapName).bind fun _ => .of_looks (.pure _)) ?_
  cases withTable with
  | false => exact hnone
  | true =>
    exact ofBlocks_alike ((regionTable_alike hr heapName accept).bind fun _ => .of_looks (.pure _))
      hnone

/-- Two sessions that read alike and found out the same answer alike. -/
theorem ask_alike {query : Query} (hv : query.VisitorGoesBy session.id) :
    session.AnswersAlike second (query.ask ·) := by
  cases query with
  | numRegions | committed | regionTableBase => exact readAt_alike hr _
  | used => exact used_alike hr
  | reservedRange => exact reservedRange_alike hr
  | regionSizeBytes => exact regionSizeBytes_alike
  | capacity => exact capacity_alike hr
  | contains address =>
    refine (reservedRange_alike hr).bind fun range => ?_
    dsimp only
    split
    · exact (capacity_alike hr).bind fun _ => .of_looks (.pure _)
    · exact .of_looks (.pure _)
  | regionAt index => exact regionAt_alike hr index
  | iterate visit accept => exact walk_alike hr accept (hv visit accept rfl)
  | regions accept => exact regions_alike hr accept
  | countByState => exact (regions_alike hr _).bind fun _ => .of_looks (.pure _)
  | describe => exact describe_alike hr _
  | summary heapName => exact summary_alike hr heapName
  | status heapName => exact status_alike hr heapName
  | regionTable heapName accept => exact regionTable_alike hr heapName accept
  | print heapName withTable accept => exact print_alike hr heapName withTable accept

end Alike

end Heap

end HeapProbe
