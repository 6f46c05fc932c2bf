import HeapProbe.Proofs.Heap.Query
import HeapProbe.Proofs.Probe.Truth
import HeapProbe.Proofs.Session.Lifecycle

/-! # Queries tell the truth

Through a reader that knows the current size of a pointer, each load that fails is reported as what it
was. From there it carries over to all that is made of loads: to the resolution of a session, to every
query, and to a walk of any length. A walk is apart from its visitor, whose calls come in between and
are not its own.
-/

namespace HeapProbe

open Probe

namespace View

variable {view : View} (hb : view.host.bindings) (hk : view.kept = view.pointerSize)
include hb

theorem isTruthful_uint32 (address : Int) : (view.uint32 address).IsTruthful view.image :=
  @Finding.isTruthful_of_load view hb ⟨4, address, 4⟩ rfl

theorem isTruthful_uint64 (address : Int) : (view.uint64 address).IsTruthful view.image :=
  @Finding.isTruthful_of_load view hb ⟨8, address, 8⟩ rfl

include hk

theorem isTruthful_word (address : Int) : (view.word address).IsTruthful view.image := by
  unfold word
  rw [hk]
  exact @Finding.isTruthful_of_load view hb (view.pointerLoad address) rfl

theorem isTruthful_element (base index : Int) :
    (view.element base index).IsTruthful view.image := by
  unfold element
  rw [hk]
  exact @Finding.isTruthful_of_load view hb (view.pointerLoad (base + index * view.pointerSize)) rfl

theorem isTruthful_region (resolution : Resolution) (codes : StateCodes) (index : Int) :
    (view.region resolution codes index).IsTruthful view.image := by
  have hwords (address rawState bottom limit top : Int) :
      Finding.IsTruthful ⟨Region.ofWords codes index address rawState bottom limit top, [], []⟩
        view.image := by
    unfold Finding.IsTruthful
    cases ho : Region.ofWords codes index address rawState bottom limit top with
    | ok region => exact .ok _ nofun
    | error fault =>
      refine .of_plain ?_ nofun
      unfold Region.ofWords StateCodes.classify at ho
      split_ifs at ho <;> cases ho <;> rfl
  unfold region
  split
  · refine (isTruthful_word hb hk _).andThen fun count => ?_
    split
    · exact (isTruthful_word hb hk _).andThen fun base =>
        (isTruthful_element hb hk _ _).andThen fun address =>
          (isTruthful_uint32 hb _).andThen fun _ => (isTruthful_word hb hk _).andThen fun _ =>
            (isTruthful_word hb hk _).andThen fun _ => (isTruthful_word hb hk _).andThen fun _ =>
              hwords _ _ _ _ _
    · exact Truthful.of_plain (Fault.isPlain_ofIndex _ _) nofun
  · exact Truthful.of_plain (Fault.isPlain_ofIndex _ _) nofun

end View

/-- The visitor takes every region, leaves the host as it is and takes back none of the calls that were
made. -/
structure Unobtrusive (visit : Region → Probe Unit) (host : Host) : Prop where
  takes : ∀ region (context : Context), context.host = host →
    outcome (visit region) context = .ok ()
  keeps : ∀ region (context : Context), context.host = host →
    (after (visit region) context).host = host
  adds : ∀ region (context : Context), context.host = host →
    ∃ calls, (after (visit region) context).trace = context.trace ++ calls

def Silent (visit : Region → Probe Unit) : Prop :=
  ∀ region (context : Context), (after (visit region) context).trace = context.trace

/-- An operation tells the truth about calls of its own. Others may have come in between, but none
after the one that failed. -/
structure Accounted {α : Type} (image : Image) (result : Except Fault α)
    (own : List DebuggerCall) (before later : Context) : Prop where
  truthful : Truthful image result own
  trace : ∃ added, later.trace = before.trace ++ added ∧ own.Sublist added ∧
    ∀ address length failure, result = .error (.unavailable address length failure) →
      added.getLast? = some (.read address length)

namespace Accounted

variable {α : Type} {image : Image} {result : Except Fault α} {own calls others : List DebuggerCall}
  {before between later : Context}

theorem of_own (h : Truthful image result own) (ht : later.trace = before.trace ++ own) :
    Accounted image result own before later :=
  ⟨h, own, ht, .refl _, fun _ _ _ he => h.getLast?_of_unavailable he⟩

/-- Own calls that did not fail can go before, and the calls of others after them. -/
theorem prepend (h : Accounted image result own between later)
    (hc : ∀ call ∈ calls, image.fails call = false)
    (ht : between.trace = before.trace ++ calls ++ others) :
    Accounted image result (calls ++ own) before later := by
  obtain ⟨htruthful, added, hadded, hsub, hlast⟩ := h
  refine ⟨htruthful.append hc, calls ++ (others ++ added), ?_, ?_, fun address length failure he => ?_⟩
  · rw [hadded, ht, List.append_assoc, List.append_assoc]
  · exact (List.Sublist.refl calls).append (hsub.trans (List.sublist_append_right _ _))
  · rw [List.getLast?_append, List.getLast?_append, hlast address length failure he]
    rfl

end Accounted

namespace Heap

/-- The calls with which a walk decodes `remaining` regions from an index on, those of its visitor left
out. -/
def walkCalls (heap : Heap) (accept : RegionFilter) (visit : Region → Probe Unit) :
    Nat → Nat → Context → List DebuggerCall
  | _, 0, _ => []
  | index, remaining + 1, context =>
    let looked := after (heap.regionAt index) context
    (heap.regionAt index).callsOf context ++
      match outcome (heap.regionAt index) context with
      | .error _ => []
      | .ok region =>
        heap.walkCalls accept visit (index + 1) remaining
          (if accept region.state then after (visit region) looked else looked)

def Query.calls (heap : Heap) (context : Context) : Query → List DebuggerCall
  | .iterate visit accept =>
    heap.numRegions.callsOf context ++
      match outcome heap.numRegions context with
      | .error _ => []
      | .ok count =>
        heap.walkCalls accept visit 0 count.toNat
          (after (log .debug .walk s!"Walking {decimal count} regions")
            (after heap.numRegions context))
  | query => (query.perform heap).callsOf context

theorem compositional_tells {host : Host} {image : Image} :
    Compositional fun _ probe => probe.Tells host image where
  pure := .pure
  bind h hnext := h.bind hnext
  check report := by
    refine .ofExcept fun fault h => ?_
    unfold HeapReport.check at h
    split_ifs at h <;> cases h <;> rfl
  needNumerals numbers := by
    unfold needNumerals require
    split
    · exact .pure ()
    · exact .throw rfl

section Tells

variable {heap : Heap} {view : View}

/-- What is asked of a heap tells the truth if it does on a resolved session, and stops at any other.
-/
theorem tells_of_session {α : Type} {probe : Probe α}
    (hr : heap.session.reader = view.inferior.readerOfSize view.kept)
    (hseen : ∀ scene resolution, heap.Sees scene view resolution →
      ∃ finding, probe.Finds scene finding ∧ finding.IsTruthful view.image)
    (hrefused : ∀ scene failure, heap.Refuses scene failure → failure.isPlain →
      ∃ fault : Fault, probe.Finds scene ⟨.error fault, [], []⟩ ∧ fault.isPlain) :
    probe.Tells view.host view.image := by
  refine .of_finds heap.session.id fun scene hhost hsession => ?_
  have hstop {failure : Fault} (hp : scene.phase.answer (fun resolution => resolution) =
      .error failure) (hplain : failure.isPlain) :
      ∃ finding, probe.Finds scene finding ∧ finding.IsTruthful view.image := by
    obtain ⟨fault, hf, hfault⟩ := hrefused scene failure ⟨hsession, hp⟩ hplain
    exact ⟨_, hf, .of_plain hfault nofun⟩
  cases hp : scene.phase with
  | resolved resolution => exact hseen scene resolution ⟨hr, hhost.symm, hsession, hp⟩
  | fresh => exact hstop (by rw [hp]; rfl) rfl
  | failed failure => exact hstop (by rw [hp]; rfl) rfl
  | detached => exact hstop (by rw [hp]; rfl) rfl

variable (hr : heap.session.reader = view.inferior.readerOfSize view.kept)
  (hb : view.host.bindings)
include hr hb

theorem tells_used : heap.used.Tells view.host view.image := by
  refine tells_of_session hr (fun scene resolution h => ?_)
    fun _ failure h hf => ⟨failure, h.resolution.bind_of_error, hf⟩
  refine ⟨_, h.finds_resolution.bind_of_pure ?_, View.isTruthful_uint64 hb
    (resolution.heapAddress + resolution.heapLayout.used)⟩
  rw [h.reader]
  exact .uint64 h.host _

variable (hk : view.kept = view.pointerSize)
include hk

theorem tells_readAt (offset : HeapLayout → Int) :
    (heap.readAt offset).Tells view.host view.image :=
  tells_of_session hr (fun _ _ h => ⟨_, h.finds_readAt offset, View.isTruthful_word hb hk _⟩)
    fun _ failure h hf => ⟨failure, h.readAt offset, hf⟩

theorem tells_regionAt (index : Int) : (heap.regionAt index).Tells view.host view.image := by
  refine tells_of_session hr
    (fun _ _ h => ⟨_, h.finds_regionAt index, View.isTruthful_region hb hk _ _ _⟩)
    fun _ failure h hf => ⟨_, h.regionAt index, ?_⟩
  split
  · exact hf
  · exact Fault.isPlain_ofIndex _ _

theorem walkFrom_accounted (accept : RegionFilter) {visit : Region → Probe Unit}
    (hv : Unobtrusive visit view.host) (index remaining : Nat) {context : Context}
    (hc : context.host = view.host) :
    ∃ walk later, heap.walkFrom accept visit index remaining context = .ok walk later ∧
      later.host = view.host ∧
      Accounted view.image walk.outcome
        (heap.walkCalls accept visit index remaining context) context later ∧
      (Silent visit →
        later.trace = context.trace ++ heap.walkCalls accept visit index remaining context) := by
  induction remaining generalizing index context with
  | zero =>
    exact ⟨⟨[], .ok ()⟩, context, rfl, hc, ⟨.ok () nofun, [], (List.append_nil _).symm, .refl _,
      nofun⟩, fun _ => (List.append_nil _).symm⟩
  | succ remaining ih =>
    obtain ⟨hhost, htrace, ht⟩ := tells_regionAt hr hb hk index context hc
    unfold walkFrom walkCalls
    rw [bind_of_ok (attempt_run _ _)]
    cases ho : outcome (heap.regionAt index) context with
    | error fault =>
      rw [ho] at ht
      have habort := (finds_noteAbort ((after (heap.regionAt index) context).scene 0) index fault).ok
        (rfl : (after (heap.regionAt index) context).scene 0 = _)
      dsimp only
      rw [bind_of_ok habort, List.append_nil]
      have hlater : ((after (heap.regionAt index) context).note []
          (abortRecords index (.error fault))).trace =
            context.trace ++ (heap.regionAt index).callsOf context := by
        rw [Context.trace_note, List.append_nil, htrace]
      exact ⟨⟨[], .error fault⟩, _, rfl, hhost, .of_own ht.cast hlater, fun _ => hlater⟩
    | ok region =>
      rw [ho] at ht
      have hclean := ht.clean
      dsimp only
      -- A visitor's calls stand between the reads of this region and those of the rest.
      by_cases ha : accept region.state
      · obtain ⟨others, hothers⟩ := hv.adds region _ hhost
        have hvisit : attempt (visit region) (after (heap.regionAt index) context) =
            .ok (.ok ()) (after (visit region) (after (heap.regionAt index) context)) := by
          rw [attempt_run, hv.takes region _ hhost]
        obtain ⟨rest, later, hrest, hlater, haccounted, hsilent⟩ :=
          ih (index + 1) (hv.keeps region _ hhost)
        rw [if_pos ha, if_pos ha, bind_of_ok hvisit]
        dsimp only
        rw [bind_of_ok hrest]
        rw [htrace] at hothers
        refine ⟨_, later, rfl, hlater, haccounted.prepend hclean hothers, fun hs => ?_⟩
        rw [hsilent hs, hs, htrace, List.append_assoc]
      · obtain ⟨rest, later, hrest, hlater, haccounted, hsilent⟩ := ih (index + 1) hhost
        rw [if_neg ha, if_neg ha, hrest]
        refine ⟨rest, later, rfl, hlater,
          haccounted.prepend hclean (htrace.trans (List.append_nil _).symm), fun hs => ?_⟩
        rw [hsilent hs, htrace, List.append_assoc]

theorem walk_accounted (accept : RegionFilter) {visit : Region → Probe Unit}
    (hv : Unobtrusive visit view.host) {context : Context} (hc : context.host = view.host) :
    ∃ walk later, heap.walk accept visit context = .ok walk later ∧ later.host = view.host ∧
      Accounted view.image walk.outcome (Query.calls heap context (.iterate visit accept)) context
        later ∧
      (Silent visit →
        later.trace = context.trace ++ Query.calls heap context (.iterate visit accept)) := by
  obtain ⟨hhost, htrace, ht⟩ := tells_readAt hr hb hk HeapLayout.numRegions context hc
  change (after heap.numRegions context).trace = _ at htrace
  unfold walk Query.calls
  rw [bind_of_ok (attempt_run _ _)]
  cases ho : outcome heap.numRegions context with
  | error fault =>
    rw [show outcome (heap.readAt HeapLayout.numRegions) context = _ from ho] at ht
    dsimp only
    rw [List.append_nil]
    exact ⟨⟨[], .error fault⟩, _, rfl, hhost, .of_own ht.cast htrace, fun _ => htrace⟩
  | ok count =>
    rw [show outcome (heap.readAt HeapLayout.numRegions) context = _ from ho] at ht
    let counted := after heap.numRegions context
    have hlog : (log .debug .walk s!"Walking {decimal count} regions").Finds (counted.scene 0) _ :=
      .log _ _ _
    have hstart := hlog.after_eq (rfl : counted.scene 0 = _)
    obtain ⟨walk, later, hwalk, hlater, haccounted, hsilent⟩ :=
      walkFrom_accounted hr hb hk accept hv 0 count.toNat
        (by rw [hstart]; exact hhost :
          (after (log .debug .walk s!"Walking {decimal count} regions") counted).host = view.host)
    have htrace' : (after (log .debug .walk s!"Walking {decimal count} regions") counted).trace =
        context.trace ++ heap.numRegions.callsOf context ++ [] := by
      rw [hstart, Context.trace_note]
      exact congrArg (· ++ []) htrace
    have hend := (finds_noteEnd (later.scene 0) count walk).ok (rfl : later.scene 0 = _)
    have hsame (records : List LogRecord) : (later.note [] records).trace = later.trace := by
      rw [Context.trace_note, List.append_nil]
    dsimp only
    rw [bind_of_ok (eq_ok_iff.2 ⟨rfl, rfl⟩), bind_of_ok hwalk, bind_of_ok hend]
    have hall := haccounted.prepend ht.clean htrace'
    refine ⟨walk, _, rfl, hlater, ⟨hall.truthful, ?_⟩, fun hs => ?_⟩
    · rw [hsame]
      exact hall.trace
    · rw [hsame, hsilent hs, htrace', List.append_nil, List.append_assoc]

theorem tells_regions (accept : RegionFilter) :
    (heap.regions accept).Tells view.host view.image := by
  refine .of_trace fun context hc => ?_
  have hquiet : Unobtrusive (fun _ => pure ()) view.host :=
    ⟨fun _ _ _ => rfl, fun _ _ h => h, fun _ _ _ => ⟨[], (List.append_nil _).symm⟩⟩
  obtain ⟨walk, later, hwalk, hlater, haccounted, hsilent⟩ :=
    walk_accounted hr hb hk accept hquiet hc
  have htruthful := haccounted.truthful
  unfold regions
  rw [after_bind_of_ok hwalk, outcome_bind_of_ok hwalk, after_bind, outcome_bind, after_ofExcept,
    outcome_ofExcept]
  cases ho : walk.outcome with
  | error fault =>
    rw [ho] at htruthful
    exact ⟨hlater, _, hsilent fun _ _ => rfl, htruthful.cast⟩
  | ok _ =>
    rw [ho] at htruthful
    exact ⟨hlater, _, hsilent fun _ _ => rfl, .ok _ htruthful.clean⟩

/-- Every query accounts for its calls. All calls are its own but for those of a visitor. -/
theorem query_accounted (query : Query)
    (hv : ∀ visit accept, query = .iterate visit accept → Unobtrusive visit view.host)
    {context : Context} (hc : context.host = view.host) :
    Accounted view.image (outcome (query.perform heap) context) (query.calls heap context) context
        (after (query.perform heap) context) ∧
      ((∀ visit accept, query ≠ .iterate visit accept) →
        (after (query.perform heap) context).trace =
          context.trace ++ query.calls heap context) := by
  -- A walk with a visitor is not made of parts that tell the truth: the visitor need not.
  by_cases hq : ∃ visit accept, query = .iterate visit accept
  · obtain ⟨visit, accept, rfl⟩ := hq
    obtain ⟨walk, later, hwalk, -, haccounted, -⟩ :=
      walk_accounted hr hb hk accept (hv visit accept rfl) hc
    obtain ⟨ho, ha⟩ := iterate_of_walk hwalk
    refine ⟨?_, fun hno => absurd rfl (hno visit accept)⟩
    rw [Query.perform, ho, ha]
    exact haccounted
  · have hparts : heap.Parts fun _ probe => probe.Tells view.host view.image :=
      { readAt := tells_readAt hr hb hk
        used := tells_used hr hb
        regionSizeBytes := tells_of_session hr
          (fun _ _ h => ⟨_, h.finds_resolution.bind_of_pure (.pure _), .ok _ nofun⟩)
          fun _ failure h hf => ⟨failure, h.resolution.bind_of_error, hf⟩
        regionAt := tells_regionAt hr hb hk
        regions := tells_regions hr hb hk }
    obtain ⟨-, htrace, ht⟩ := hparts.perform compositional_tells query
      (fun visit accept h => absurd ⟨visit, accept, h⟩ hq) context hc
    have hcalls : query.calls heap context = (query.perform heap).callsOf context := by
      cases query <;> first | rfl | exact absurd ⟨_, _, rfl⟩ hq
    rw [hcalls]
    exact ⟨.of_own ht htrace, fun _ => htrace⟩

end Tells

end Heap

def DebuggerCall.isRead : DebuggerCall → Bool
  | .read .. => true
  | _ => false

theorem Image.fails_of_not_isRead (image : Image) {call : DebuggerCall} (h : call.isRead = false) :
    image.fails call = false := by
  cases call <;> first | rfl | cases h

/-- A finding of metadata: no memory was read for it, and it is a fault only if metadata is missing. -/
structure Finding.IsMetadata {α : Type} (finding : Finding α) : Prop where
  reads : ∀ call ∈ finding.calls, call.isRead = false
  faults : finding.FaultsAre fun fault =>
    ∃ typeName fields cause, fault = .metadataMissing typeName fields cause

theorem Finding.IsMetadata.isTruthful {α : Type} {finding : Finding α} (h : finding.IsMetadata)
    (image : Image) : finding.IsTruthful image := by
  have hclean : ∀ call ∈ finding.calls, image.fails call = false :=
    fun call hc => image.fails_of_not_isRead (h.reads call hc)
  unfold Finding.IsTruthful
  cases ho : finding.outcome with
  | ok value => exact .ok value hclean
  | error fault =>
    obtain ⟨typeName, fields, cause, rfl⟩ := h.faults fault ho
    exact .of_plain rfl hclean

/-- The resolver keeps what its interface promises on a host: it finds metadata or misses it. -/
structure Resolver.LooksUp (resolver : Resolver) (host : Host) : Prop where
  types : ∀ name (scene : Scene), scene.host = host →
    ∃ finding, (resolver.lookupType name).Finds scene finding ∧ finding.IsMetadata
  symbols : ∀ name (scene : Scene), scene.host = host →
    ∃ finding, (resolver.lookupSymbol name).Finds scene finding ∧ finding.IsMetadata

theorem Target.looksUp {host : Host} (hb : host.bindings) (target : Target) :
    target.resolver.LooksUp host where
  types name scene _ := by
    refine ⟨_, .lookupType target name, ?_⟩
    unfold typeFinding
    cases (target.imageOn scene.host).bind fun image => image.classes.lookup name with
    | none => exact ⟨by simp [DebuggerCall.isRead], by rintro _ ⟨⟩; exact ⟨_, _, _, rfl⟩⟩
    | some info => exact ⟨by simp [DebuggerCall.isRead], nofun⟩
  symbols name scene hs := by
    refine ⟨_, .lookupSymbol (by rw [hs]; exact hb) target name, ?_, ?_⟩
    · simp only [symbolFinding, globalCalls]
      split
      · split <;> simp [DebuggerCall.isRead]
      · simp [DebuggerCall.isRead]
    · intro fault h
      dsimp only [symbolFinding] at h
      split at h
      · cases h
      · cases h
        exact ⟨_, _, _, rfl⟩

namespace Session

variable {session : Session} {view : View} {resolver : Resolver}

theorem tells_findOut (hr : session.reader = view.inferior.readerOfSize view.kept)
    (hb : view.host.bindings) (hk : view.kept = view.pointerSize)
    (hl : resolver.LooksUp view.host) : (session.findOut resolver).Tells view.host view.image := by
  have hpick {n : Nat} (typeName : String) (names : Vector String n) :
      (pickFrom resolver typeName names).Tells view.host view.image := by
    refine Tells.bind (.of_finds 0 fun scene hs _ => ?_) fun fields => .ofExcept fun fault h => ?_
    · obtain ⟨finding, hf, hm⟩ := hl.types typeName scene hs
      exact ⟨finding, hf, hm.isTruthful _⟩
    · unfold FieldOffsets.pick at h
      split at h <;> cases h
      rfl
  have hword (given : Option Int) (symbol : String) :
      (session.wordOr resolver given symbol).Tells view.host view.image := by
    cases given with
    | some word => exact .pure word
    | none =>
      refine Tells.bind (.of_finds 0 fun scene hs _ => ?_)
        fun address => .of_finds 0 fun scene hs _ => ?_
      · obtain ⟨finding, hf, hm⟩ := hl.symbols symbol scene hs
        exact ⟨finding, hf, hm.isTruthful _⟩
      · rw [hr]
        exact ⟨_, .word hs.symm address, View.isTruthful_word hb hk address⟩
  exact (hpick _ _).bind fun _ => (hpick _ _).bind fun _ => (hpick _ _).bind fun _ =>
    (hword _ _).bind fun _ => (hword _ _).bind fun _ => .pure _

/-- Publishing and remembering make no calls. -/
theorem trace_resolve_of_fresh {context : Context} (hfresh : context.phase session.id = .fresh) :
    (after (session.resolve resolver) context).trace =
      (after (session.findOut resolver) context).trace := by
  rw [after, resolve_of_fresh hfresh]
  cases outcome (session.findOut resolver) context with
  | ok resolution => exact (Context.trace_note _ _ _).trans (List.append_nil _)
  | error fault =>
    dsimp only
    rw [after, remember_run]
    dsimp only
    split
    · exact (Context.trace_note _ _ _).trans (List.append_nil _)
    · rfl

/-- The resolution of a fresh session tells the truth about its calls. -/
theorem resolve_tells (hr : session.reader = view.inferior.readerOfSize view.kept)
    (hb : view.host.bindings) (hk : view.kept = view.pointerSize)
    (hl : resolver.LooksUp view.host) {context : Context} (hc : context.host = view.host)
    (hfresh : context.phase session.id = .fresh) :
    (after (session.resolve resolver) context).trace =
        context.trace ++ (session.resolve resolver).callsOf context ∧
      Truthful view.image (outcome (session.resolve resolver) context)
        ((session.resolve resolver).callsOf context) := by
  obtain ⟨-, htrace, ht⟩ := tells_findOut hr hb hk hl context hc
  have hrun : (after (session.resolve resolver) context).trace =
        context.trace ++ (session.findOut resolver).callsOf context ∧
      Truthful view.image (outcome (session.resolve resolver) context)
        ((session.findOut resolver).callsOf context) := by
    rw [trace_resolve_of_fresh hfresh, outcome_resolve_of_fresh hfresh]
    refine ⟨htrace, ?_⟩
    cases ho : outcome (session.findOut resolver) context with
    | ok resolution =>
      rw [ho] at ht
      exact .ok () ht.clean
    | error fault =>
      rw [ho] at ht
      exact ht.cast
  rw [callsOf_eq hrun.1]
  exact hrun

end Session

/-- **Reads are accounted for.** With the bindings loaded, and through a reader that knows the current
size of a pointer, whatever that is: the resolution of a fresh session and every query end in a fault
of unavailable memory exactly if one of their reads failed. The fault then names that read, which is
the last call of all; every read before it succeeded; and no other fault is one of the debugger's own
or of a word that could not be decoded. -/
theorem reads_accounted_for {inferior : Inferior} {kept : Int} {context : Context}
    (hb : context.host.bindings)
    (hkept : kept = (View.mk inferior kept context.host).pointerSize) :
    let image := (View.mk inferior kept context.host).image
    (∀ (session : Session) (resolver : Resolver), session.reader = inferior.readerOfSize kept →
      context.phase session.id = .fresh → resolver.LooksUp context.host →
      (after (session.resolve resolver) context).trace =
          context.trace ++ (session.resolve resolver).callsOf context ∧
        Truthful image (outcome (session.resolve resolver) context)
          ((session.resolve resolver).callsOf context)) ∧
    ∀ (heap : Heap) (query : Heap.Query), heap.session.reader = inferior.readerOfSize kept →
      (∀ visit accept, query = .iterate visit accept → Unobtrusive visit context.host) →
      Accounted image (outcome (query.perform heap) context) (query.calls heap context) context
          (after (query.perform heap) context) ∧
        ((∀ visit accept, query ≠ .iterate visit accept) →
          (after (query.perform heap) context).trace =
            context.trace ++ query.calls heap context) := by
  intro image
  let view : View := ⟨inferior, kept, context.host⟩
  have hb' : view.host.bindings := hb
  refine ⟨fun session resolver hr hfresh hl => ?_, fun heap query hr hv => ?_⟩
  · exact @Session.resolve_tells session view resolver hr hb' hkept hl context rfl hfresh
  · exact @Heap.query_accounted heap view hr hb' hkept query hv context rfl

/-- A session that is to be resolved on the torn image, where the word at the heap's symbol cannot be
read. -/
def untouchedContext : Context := { host := { images := [tornImage] } }

/-- That resolution ends with the read of that word, and the second region of the torn table with the
read of its slot. -/
theorem torn_reads_accounted_for :
    (∃ earlier, (tornHeap.session.resolve (Target.resolver ⟨some 0⟩)).callsOf untouchedContext =
        earlier ++ [.read 0x5000 8] ∧
      ∀ call ∈ earlier, tornImage.fails call = false) ∧
    ∃ earlier, Heap.Query.calls tornHeap tornContext (.regionAt 1) =
        earlier ++ [.read 0x2008 8] ∧
      ∀ call ∈ earlier, tornImage.fails call = false := by
  constructor
  · have h := (@reads_accounted_for ⟨0, ⟨some 0⟩⟩ 8 untouchedContext rfl rfl).1 tornHeap.session
      (Target.resolver ⟨some 0⟩) rfl rfl (Target.looksUp rfl ⟨some 0⟩)
    have hfault : outcome (tornHeap.session.resolve (Target.resolver ⟨some 0⟩)) untouchedContext =
      .error (.unavailable 0x5000 8
        (some (.refused (.read 0x5000 8 s!"memory read failed for {hex 0x5000}")))) := rfl
    exact h.2.place 0x5000 8 _ hfault
  · have h := (@reads_accounted_for ⟨0, ⟨some 0⟩⟩ 8 tornContext rfl rfl).2 tornHeap (.regionAt 1) rfl
      nofun
    have hfault : outcome (Heap.Query.perform tornHeap (.regionAt 1)) tornContext =
      .error (.unavailable 0x2008 8 (some (.notAWord 8))) := rfl
    exact h.1.truthful.place 0x2008 8 _ hfault

end HeapProbe
