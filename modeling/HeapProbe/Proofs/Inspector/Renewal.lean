import HeapProbe.Proofs.Heap.RoundTrip
import HeapProbe.Proofs.Heap.Twin
import HeapProbe.Proofs.Inspector.Step

/-! # Nothing goes stale

A session keeps what it found out when it was resolved, and nothing of what it has read since. So as
long as a resolution would find out the same, it makes no difference whether a heap is asked through
an old session or through one that was resolved just now. However memory has changed and whatever
was asked in between, the answers and the calls are the same.
-/

namespace HeapProbe

open Probe

namespace Probe

variable {α β : Type} {context context' : Context}

/-- The probe only looks, and ends in one context as in another. -/
structure Steady (probe : Probe α) (context context' : Context) : Prop where
  looks : probe.Looks 0
  ends : outcome probe context' = outcome probe context

namespace Steady

protected theorem pure (value : α) : (pure value : Probe α).Steady context context' :=
  ⟨.pure value, rfl⟩

protected theorem ofExcept (result : Except Fault α) :
    (Probe.ofExcept result).Steady context context' := by
  refine ⟨.ofExcept result, ?_⟩
  rw [outcome_ofExcept, outcome_ofExcept]

theorem bind_of_ok {probe : Probe α} {next : α → Probe β} (h : probe.Steady context context')
    (hlooks : ∀ value, (next value).Looks 0)
    (hnext : ∀ value, outcome probe context = .ok value →
      outcome (next value) context' = outcome (next value) context) :
    (probe >>= next).Steady context context' := by
  -- What follows starts from contexts that differ from these in the trace alone.
  obtain ⟨finding, hf, -⟩ := h.looks (context.scene 0) rfl
  obtain ⟨finding', hf', -⟩ := h.looks (context'.scene 0) rfl
  refine ⟨h.looks.bind hlooks, ?_⟩
  rw [outcome_bind, outcome_bind, hf.after_eq rfl, hf'.after_eq rfl, h.ends]
  cases ho : outcome probe context with
  | error fault => rfl
  | ok value =>
    have hsame : outcome (next value) (context.note finding.calls finding.records) =
        outcome (next value) context := (hlooks value).outcome_eq rfl
    have hsame' : outcome (next value) (context'.note finding'.calls finding'.records) =
        outcome (next value) context' := (hlooks value).outcome_eq rfl
    exact hsame'.trans ((hnext value ho).trans hsame.symm)

protected theorem bind {probe : Probe α} {next : α → Probe β} (h : probe.Steady context context')
    (hnext : ∀ value, (next value).Steady context context') :
    (probe >>= next).Steady context context' :=
  h.bind_of_ok (fun value => (hnext value).looks) fun value _ => (hnext value).ends

end Steady

end Probe

/-- What a resolution goes by is as it was: the metadata, the size of a pointer and the words at the
symbols. -/
structure Attachment.Unchanged (attachment : Attachment) (settings : Settings)
    (start now : Context) : Prop where
  pointerSize :
    outcome attachment.inferior.pointerSize now = outcome attachment.inferior.pointerSize start
  types (typeName : String) :
    typeName ∈ [settings.layout.heapType, settings.layout.memRegionType,
      settings.layout.regionType] →
      outcome (attachment.target.lookupType typeName) now =
        outcome (attachment.target.lookupType typeName) start
  symbols (symbol : String) :
    symbol ∈ [settings.layout.heapSymbol, settings.layout.regionSizeSymbol] →
      outcome (attachment.target.lookupSymbol symbol) now =
        outcome (attachment.target.lookupSymbol symbol) start
  words (symbol : String) (address : Int) :
    symbol ∈ [settings.layout.heapSymbol, settings.layout.regionSizeSymbol] →
      outcome (attachment.target.lookupSymbol symbol) start = .ok address →
        outcome (attachment.inferior.readPointer address) now =
          outcome (attachment.inferior.readPointer address) start

namespace Inspector

section Resolve

variable {attachment : Attachment} {session : Session} {start now context : Context} {size : Int}

/-- Where nothing has changed that a resolution goes by, it finds out the same. -/
theorem findOut_steady (hr : session.reader = attachment.inferior.readerOfSize size)
    (hu : attachment.Unchanged session.settings start now) :
    (session.findOut attachment.target.resolver).Steady start now := by
  have hpick {n : Nat} {typeName : String} (names : Vector String n)
      (ht : typeName ∈ [session.settings.layout.heapType, session.settings.layout.memRegionType,
        session.settings.layout.regionType]) :
      (Session.pickFrom attachment.target.resolver typeName names).Steady start now :=
    Steady.bind ⟨attachment.target.lookupType_looks typeName, hu.types typeName ht⟩
      fun fields => .ofExcept _
  have hword (given : Option Int) {symbol : String}
      (hs : symbol ∈ [session.settings.layout.heapSymbol,
        session.settings.layout.regionSizeSymbol]) :
      (session.wordOr attachment.target.resolver given symbol).Steady start now := by
    cases given with
    | some word => exact .pure word
    | none =>
      have hlookup : (attachment.target.resolver.lookupSymbol symbol).Steady start now :=
        ⟨attachment.target.lookupSymbol_looks symbol, hu.symbols symbol hs⟩
      refine hlookup.bind_of_ok (fun address => ?_) fun address ha => ?_
      · rw [hr]
        exact attachment.inferior.readWord_looks size address
      · rw [hr]
        simp only [Inferior.readerOfSize, outcome_relabel, hu.words symbol address hs ha]
  exact (hpick _ (by simp)).bind fun heap => (hpick _ (by simp)).bind fun range =>
    (hpick _ (by simp)).bind fun region => (hword _ (by simp)).bind fun heapAddress =>
      (hword _ (by simp)).bind fun regionSizeBytes => .pure _

/-- Finding out takes no notice of the session that was made for it. -/
theorem findOut_of_created (hr : session.reader = attachment.inferior.readerOfSize size)
    (reader : Reader) (settings : Settings) (given : Option Int) :
    outcome (session.findOut attachment.target.resolver)
        (after (Session.create reader settings given) context) =
      outcome (session.findOut attachment.target.resolver) context := by
  have hphase : (after (Session.create reader settings given) context).phase
      (context.sessionCount + 1) = context.phase (context.sessionCount + 1) :=
    Session.phase_create_of_ne reader settings given (Nat.succ_ne_self _)
  apply (findOut_looks hr attachment.target (context.sessionCount + 1)).outcome_eq
  rw [Context.scene, Context.scene, hphase]
  rfl

def sessionFor (attachment : Attachment) (size : Int) (settings : Settings) (given : Option Int)
    (context : Context) : Session :=
  ⟨context.sessionCount, attachment.inferior.readerOfSize size, settings, given⟩

/-- A session came new, and it knows what there was to find out. -/
structure Renews (session : Session) (resolution : Resolution) (context later : Context) :
    Prop where
  host : later.host = context.host
  sessionCount : later.sessionCount = context.sessionCount + 1
  resolved : later.phase session.id = .resolved resolution
  others (id : Nat) : id ≠ session.id → later.phase id = context.phase id

variable {settings : Settings} {given : Option Int}

theorem resolve_of_found (hsize : outcome attachment.inferior.pointerSize context = .ok size)
    {resolution : Resolution}
    (hfound : outcome ((sessionFor attachment size settings given context).findOut
      attachment.target.resolver) context = .ok resolution) :
    ∃ later, resolve attachment settings given context =
        .ok (sessionFor attachment size settings given context) later ∧
      Renews (sessionFor attachment size settings given context) resolution context later := by
  let session := sessionFor attachment size settings given context
  let created := after (Session.create session.reader settings given) context
  have hr : session.reader = attachment.inferior.readerOfSize size := rfl
  obtain ⟨finding, hf, -⟩ := findOut_looks hr attachment.target 0 (created.scene 0) rfl
  have hfind : session.findOut attachment.target.resolver created =
      .ok resolution (created.note finding.calls finding.records) :=
    eq_ok_iff.2
      ⟨(findOut_of_created hr session.reader settings given).trans hfound, hf.after_eq rfl⟩
  have hfresh : created.phase session.id = .fresh :=
    Session.phase_create session.reader settings given
  have hstill : (after (session.findOut attachment.target.resolver) created).phase session.id =
      .fresh := by
    rw [(eq_ok_iff.1 hfind).2, Context.note_phase, hfresh]
  have hresolve := Session.resolve_of_findOut_ok hfresh hfind
  refine ⟨_, (resolve_eq_of_pointerSize hsize settings given).trans (bind_of_ok hresolve),
    rfl, rfl, ?_, fun id hne => ?_⟩
  · rw [← (eq_ok_iff.1 hresolve).2]
    exact Session.phase_resolve_of_found hstill hfresh (eq_ok_iff.1 hfind).1
  · rw [Context.note_phase, Context.phase_assign_of_ne _ _ _ hne, Context.note_phase]
    exact Session.phase_create_of_ne session.reader settings given hne

theorem found_of_resolve {later : Context}
    (h : resolve attachment settings given context = .ok session later) :
    ∃ size resolution, outcome attachment.inferior.pointerSize context = .ok size ∧
      session = sessionFor attachment size settings given context ∧
      outcome (session.findOut attachment.target.resolver) context = .ok resolution ∧
      Renews session resolution context later := by
  obtain ⟨size, hsize⟩ := exists_pointerSize attachment.inferior context
  let made := sessionFor attachment size settings given context
  cases hfound : outcome (made.findOut attachment.target.resolver) context with
  | ok resolution =>
    obtain ⟨last, hresolve, hrenews⟩ := resolve_of_found hsize hfound
    cases hresolve.symm.trans h
    exact ⟨size, resolution, hsize, rfl, hfound, hrenews⟩
  | error fault =>
    let created := after (Session.create made.reader settings given) context
    have hfind : made.findOut attachment.target.resolver created = .error fault _ :=
      eq_error_iff.2 ⟨(findOut_of_created rfl made.reader settings given).trans hfound, rfl⟩
    have hfresh : created.phase made.id = .fresh := Session.phase_create made.reader settings given
    have hresolve := Session.resolve_of_findOut_error hfresh hfind
    cases h.symm.trans
      ((resolve_eq_of_pointerSize hsize settings given).trans (bind_of_error hresolve))

end Resolve

end Inspector

namespace Heap

structure Turn where
  host : Host
  query : Query

def turn (heap : Heap) (context : Context) (turn : Turn) : Context :=
  after (turn.query.ask heap) (context.on turn.host)

def run (heap : Heap) (turns : List Turn) (context : Context) : Context :=
  turns.foldl heap.turn context

section Run

variable {heap : Heap} {inferior : Inferior} {kept : Int}
  (hr : heap.session.reader = inferior.readerOfSize kept)
include hr

theorem turn_keeps {next : Turn} (hv : next.query.VisitorGoesBy heap.session.id)
    (context : Context) : (heap.turn context next).phase = context.phase ∧
      (heap.turn context next).sessionCount = context.sessionCount := by
  have hagree := @ask_alike heap.session heap.session.id inferior kept hr next.query hv
    (context.on next.host) (context.on next.host) ⟨rfl, rfl, rfl⟩
  exact ⟨hagree.phase, hagree.sessionCount⟩

theorem run_keeps {turns : List Turn}
    (hv : ∀ turn ∈ turns, turn.query.VisitorGoesBy heap.session.id) (context : Context) :
    (heap.run turns context).phase = context.phase ∧
      (heap.run turns context).sessionCount = context.sessionCount := by
  induction turns generalizing context with
  | nil => exact ⟨rfl, rfl⟩
  | cons first rest ih =>
    obtain ⟨hphase, hcount⟩ := turn_keeps hr (hv first List.mem_cons_self) context
    obtain ⟨hphase', hcount'⟩ :=
      ih (fun turn ht => hv turn (List.mem_cons_of_mem first ht)) (heap.turn context first)
    exact ⟨hphase'.trans hphase, hcount'.trans hcount⟩

end Run

/-- Whatever was asked of a heap and however memory changed, it answers as a new one would, as long
as a resolution goes by the same. -/
theorem answers_as_renewed {attachment : Attachment} {settings : Settings} {given : Option Int}
    {old : Session} {start opened now : Context} {turns : List Turn} {host : Host}
    (hopen : Inspector.resolve attachment settings given start = .ok old opened)
    (hturns : ∀ turn ∈ turns, turn.query.VisitorGoesBy old.id)
    (hnow : now = (run ⟨old⟩ turns opened).on host)
    (hu : attachment.Unchanged settings start now) :
    ∃ fresh renewed, Inspector.resolve attachment settings given now = .ok fresh renewed ∧
      fresh.id ≠ old.id ∧ ∀ query : Query, query.VisitorGoesBy old.id →
        (query.ask ⟨old⟩).Agree (query.ask ⟨fresh⟩) now renewed := by
  obtain ⟨size, resolution, hsize, rfl, hfound, hopened⟩ := Inspector.found_of_resolve hopen
  let old := Inspector.sessionFor attachment size settings given start
  have hr : old.reader = attachment.inferior.readerOfSize size := rfl
  obtain ⟨hphase, hcount⟩ := @run_keeps ⟨old⟩ attachment.inferior size hr turns hturns opened
  have hresolved : now.phase old.id = .resolved resolution := by
    rw [hnow, Context.on_phase, hphase, hopened.resolved]
  have hid : now.sessionCount = old.id + 1 := by
    rw [hnow]
    exact hcount.trans hopened.sessionCount
  have hfoundNow : outcome (old.findOut attachment.target.resolver) now = .ok resolution :=
    (Inspector.findOut_steady hr hu).ends.trans hfound
  obtain ⟨renewed, hresolve, hrenewed⟩ :=
    Inspector.resolve_of_found (hu.pointerSize.trans hsize) hfoundNow
  have hne : now.sessionCount ≠ old.id := by omega
  -- The new session has another number, but the phase of the old one: all that an answer goes by.
  have htwins : now.Twins old.id now.sessionCount renewed :=
    ⟨hrenewed.host, hrenewed.others old.id hne.symm, hrenewed.resolved.trans hresolved.symm⟩
  exact ⟨_, renewed, hresolve, hne, fun query hv => ask_alike hr hv now renewed htwins⟩

/-- A process whose heap has one region, and counts as many as are said. -/
def countingImage (count : Nat) : Image where
  memory := ⟨[.write 0x5000 (ByteOrder.little.encode 8 0x1000),
    .write 0x5008 (ByteOrder.little.encode 8 0x10000),
    .write 0x1100 (ByteOrder.little.encode 8 count),
    .write 0x1118 (ByteOrder.little.encode 8 0x2000),
    .write 0x2000 (ByteOrder.little.encode 8 0x3000),
    .write 0x3008 (ByteOrder.little.encode 8 0x10000 ++ ByteOrder.little.encode 8 0x20000 ++
      ByteOrder.little.encode 8 0x18000),
    .write 0x3040 (ByteOrder.little.encode 4 2)]⟩

def countingHost (count : Nat) : Host := { images := [countingImage count] }

/-- A walk that memory changes under, and a question after it. -/
def countingTurns : List Turn :=
  let visit : Region → Probe Unit := fun _ =>
    modify fun context => { context with host := countingHost 3 }
  [⟨countingHost 1, .iterate visit RegionFilter.everything⟩, ⟨countingHost 3, .used⟩]

/-- The old session counts the regions that there are now. -/
theorem answers_as_renewed_counting :
    let attachment : Attachment := ⟨⟨some 0⟩, ⟨0, ⟨some 0⟩⟩, false⟩
    ∃ old opened fresh renewed,
      Inspector.resolve attachment {} none { host := countingHost 1 } = .ok old opened ∧
      Inspector.resolve attachment {} none ((run ⟨old⟩ countingTurns opened).on (countingHost 7)) =
        .ok fresh renewed ∧
      outcome (numRegions ⟨old⟩) ((run ⟨old⟩ countingTurns opened).on (countingHost 7)) = .ok 7 ∧
      outcome (numRegions ⟨fresh⟩) renewed = .ok 7 := by
  intro attachment
  let start : Context := { host := countingHost 1 }
  let old := Inspector.sessionFor attachment 8 {} none start
  let places : FieldPlaces := ⟨256, 264, 272, 280, 16, 0, 8, 64, 8, 16, 24⟩
  have hdependable (count : Nat) : (countingImage count).Dependable := ⟨rfl, fun _ _ h => nomatch h⟩
  have hs (count : Nat) :
      View.Shows ⟨attachment.inferior, 8, countingHost count⟩ (countingImage count) 8 :=
    shows_of_image rfl (hdependable count) rfl (.inr rfl) rfl rfl
  have hplaces : (countingImage 1).Declares old.settings.layout places :=
    ⟨rfl, rfl, rfl, rfl, rfl, rfl, rfl, rfl, rfl, rfl, rfl⟩
  have haddress : (countingImage 1).Supplies 8 none old.settings.layout.heapSymbol 0x1000 :=
    ⟨0x5000, 0x1000, rfl, ⟨by decide, rfl⟩, rfl⟩
  have hsize : (countingImage 1).Supplies 8 old.settings.layout.regionSizeBytes
      old.settings.layout.regionSizeSymbol 0x10000 :=
    ⟨0x5008, 0x10000, rfl, ⟨by decide, rfl⟩, rfl⟩
  have hfound : (old.findOut attachment.target.resolver).Gives (start.scene 0)
      (places.resolution 0x1000 0x10000) :=
    gives_findOut rfl rfl rfl (hs 1) hplaces haddress hsize
  have hpointer : outcome attachment.inferior.pointerSize start = .ok 8 := rfl
  obtain ⟨opened, hopen, hopened⟩ :=
    Inspector.resolve_of_found hpointer (hfound.outcome_eq rfl)
  have hturns : ∀ turn ∈ countingTurns, turn.query.VisitorGoesBy old.id := by
    simp only [countingTurns, List.forall_mem_cons]
    refine ⟨fun visit accept h region => ?_, nofun, nofun⟩
    cases h
    exact GoesBy.change old.id fun _ => countingHost 3
  let now := (run ⟨old⟩ countingTurns opened).on (countingHost 7)
  have hu : attachment.Unchanged {} start now := by
    constructor
    case pointerSize => rfl
    case types =>
      simp only [List.forall_mem_cons]
      exact ⟨rfl, rfl, rfl, nofun⟩
    case symbols =>
      simp only [List.forall_mem_cons]
      exact ⟨rfl, rfl, nofun⟩
    case words =>
      intro symbol address hs ha
      revert symbol
      simp only [List.forall_mem_cons]
      refine ⟨fun h => ?_, fun h => ?_, nofun⟩
      all_goals
        cases h
        rfl
  have hphase : now.phase old.id = .resolved (places.resolution 0x1000 0x10000) := by
    have hkept : (run ⟨old⟩ countingTurns opened).phase = opened.phase :=
      (@run_keeps ⟨old⟩ attachment.inferior 8 rfl countingTurns hturns opened).1
    rw [Context.on_phase, hkept]
    exact hopened.resolved
  have hsees : Sees ⟨old⟩ (now.scene old.id) ⟨attachment.inferior, 8, countingHost 7⟩
      (places.resolution 0x1000 0x10000) := .of_phase rfl hphase
  have hseven : (readAt ⟨old⟩ HeapLayout.numRegions).Gives (now.scene old.id) ((7 : Nat) : Int) :=
    gives_readAt hsees (hs 7) ⟨by decide, rfl⟩
  have hold : outcome (numRegions ⟨old⟩) now = .ok 7 := hseven.outcome_eq rfl
  obtain ⟨fresh, renewed, hresolve, -, hagree⟩ := answers_as_renewed hopen hturns rfl hu
  exact ⟨old, opened, fresh, renewed, hopen, hresolve, hold,
    (hagree .numRegions nofun).ends.trans hold⟩

end Heap

end HeapProbe
