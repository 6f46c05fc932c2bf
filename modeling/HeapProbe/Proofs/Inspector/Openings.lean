import HeapProbe.Proofs.Heap.Query
import HeapProbe.Proofs.Inspector.Turn
import HeapProbe.Proofs.Probe.Keeps
import HeapProbe.Proofs.Probe.Truth

/-! # What is asked to be opened

To open something, the debugger is asked for a target and then for the process or the core file.
These calls are made by a request and by nothing else: taking over what was opened, resolving a
session for it, printing about its heap and closing make none. So the calls for openings tell which
requests were made.
-/

namespace HeapProbe

open Probe

def DebuggerCall.isOpening : DebuggerCall → Bool
  | .createTarget _ | .attach _ | .attachByName .. | .loadCore _ => true
  | _ => false

namespace Context

def openings (context : Context) : List DebuggerCall :=
  context.trace.filter DebuggerCall.isOpening

theorem openings_note (context : Context) (calls : List DebuggerCall) (records : List LogRecord) :
    (context.note calls records).openings =
      context.openings ++ calls.filter DebuggerCall.isOpening := by
  rw [openings, trace_note, List.filter_append]
  rfl

end Context

namespace Probe

protected theorem Keeps.lift {τ α : Type} {part : Context → τ} {probe : Probe α}
    (h : Keeps part probe) :
    Keeps (fun state : Inspector × Context => part state.2) (liftM probe : Inspecting α) := by
  rintro ⟨inspector, context⟩
  rw [after_lift]
  exact h context

abbrev Abstains {α : Type} (probe : Probe α) : Prop := Keeps Context.openings probe

theorem abstains_log (level : LogLevel) (source : LogSource) (message : String) :
    Abstains (log level source message) := by
  intro context
  have hlog : (log level source message).Finds (context.scene 0) _ := .log level source message
  rw [hlog.after_eq rfl, Context.openings_note]
  exact List.append_nil _

theorem abstains_call {request : DebuggerCall} (h : request.isOpening = false) :
    Abstains (call request) := by
  intro context
  have hcall : (call request).Finds (context.scene 0) _ := .call request
  rw [hcall.after_eq rfl, Context.openings_note]
  simp [h]

end Probe

namespace Target

variable (target : Target)

theorem image?_keeps {τ : Type} (part : Context → τ) : Keeps part target.image? := by
  unfold image?
  split
  · exact .pure _
  · exact (Keeps.image _).bind fun _ => .pure _

theorem lookupType_abstains (typeName : String) : Abstains (target.lookupType typeName) := by
  have hmembers : Abstains (target.members typeName) := by
    refine (abstains_call rfl).bind fun _ => (target.image?_keeps _).bind fun image? => ?_
    dsimp only
    split
    · exact .throw _
    · exact (abstains_log _ _ _).bind fun _ => .pure _
  exact (hmembers.relabel _).bind fun _ => (abstains_log _ _ _).bind fun _ => .pure _

theorem lookupSymbol_abstains (name : String) : Abstains (target.lookupSymbol name) := by
  have hsymbols : Abstains (do return (← target.findSymbols name).head?.map Symbol.address) :=
    ((abstains_call rfl).bind fun _ => (target.image?_keeps _).bind fun _ =>
      (Keeps.needBindingsFor _).bind fun _ => .pure _).bind fun _ => .pure _
  have hglobal : Abstains (target.findGlobal name) := by
    refine (abstains_call rfl).bind fun _ => (target.image?_keeps _).bind fun image? => ?_
    dsimp only
    split
    · exact hsymbols
    · refine Keeps.needBindings.bind fun _ => ?_
      split
      · exact hsymbols
      · exact .pure _
  refine hglobal.bind fun address? => ?_
  split
  · exact .pure _
  · exact .throw _

end Target

namespace Inferior

variable (inferior : Inferior) (kept : Int)

theorem readWord_abstains (width : Nat) (address size : Int) :
    Abstains (inferior.readWord width address size) := by
  have hmemory : Abstains (inferior.readMemory address size) := by
    refine Keeps.needBindings.bind fun _ => (abstains_call rfl).bind fun _ =>
      (Keeps.image _).bind fun _ => ?_
    split
    · exact .pure _
    · exact .throw _
  have horder : Abstains inferior.byteOrder :=
    (Keeps.image _).bind fun _ => Keeps.host.bind fun _ => .pure _
  refine hmemory.bind fun bytes => horder.bind fun order => ?_
  split
  · exact .pure _
  · exact .throw _

theorem pointerSize_keeps {τ : Type} (part : Context → τ) : Keeps part inferior.pointerSize :=
  (Keeps.image _).bind fun _ => .pure _

theorem readPointer_abstains (address : Int) : Abstains (inferior.readPointer address) :=
  (inferior.pointerSize_keeps _).bind fun _ => inferior.readWord_abstains _ _ _

end Inferior

structure Reader.Abstains (reader : Reader) : Prop where
  readWord (address : Int) : Probe.Abstains (reader.readWord address)
  readUInt32 (address : Int) : Probe.Abstains (reader.readUInt32 address)
  readUInt64 (address : Int) : Probe.Abstains (reader.readUInt64 address)
  readAddressAt (base index : Int) : Probe.Abstains (reader.readAddressAt base index)

theorem Inferior.readerOfSize_abstains (inferior : Inferior) (kept : Int) :
    (inferior.readerOfSize kept).Abstains where
  readWord _ := (inferior.readPointer_abstains _).relabel _
  readUInt32 _ := (inferior.readWord_abstains _ _ _).relabel _
  readUInt64 _ := (inferior.readWord_abstains _ _ _).relabel _
  readAddressAt _ _ :=
    Keeps.relabel ((inferior.pointerSize_keeps _).bind fun _ => inferior.readPointer_abstains _) _

namespace Session

variable (session : Session)

theorem assign_abstains (change : SessionState → SessionState) :
    Abstains (session.assign change) := fun _ => rfl

theorem detach_abstains : Abstains session.detach :=
  (session.assign_abstains _).bind fun _ => abstains_log _ _ _

theorem resolution_keeps {τ : Type} (part : Context → τ) : Keeps part session.resolution :=
  fun _ => congrArg part resolution_run.2

theorem heap_keeps {τ : Type} (part : Context → τ) : Keeps part session.heap :=
  (session.resolution_keeps part).bind fun _ => .pure _

variable {session} in
theorem findOut_abstains (hr : session.reader.Abstains) (target : Target) :
    Abstains (session.findOut target.resolver) := by
  have hpick {n : Nat} (typeName : String) (names : Vector String n) :
      Abstains (pickFrom target.resolver typeName names) :=
    (target.lookupType_abstains typeName).bind fun _ => .ofExcept _
  have hword (given : Option Int) (symbol : String) :
      Abstains (session.wordOr target.resolver given symbol) := by
    cases given with
    | some word => exact .pure word
    | none => exact (target.lookupSymbol_abstains symbol).bind fun _ => hr.readWord _
  exact (hpick _ _).bind fun _ => (hpick _ _).bind fun _ => (hpick _ _).bind fun _ =>
    (hword _ _).bind fun _ => (hword _ _).bind fun _ => .pure _

variable {session} in
theorem resolve_abstains (hr : session.reader.Abstains) (target : Target) :
    Abstains (session.resolve target.resolver) := by
  intro context
  exact Inspector.session_resolve_keeps Context.openings (findOut_abstains hr target context)
    (fun _ _ => (Context.openings_note _ _ _).trans (List.append_nil _)) fun _ _ => rfl

end Session

namespace Heap

theorem compositional_abstains : Compositional fun _ probe => Abstains probe where
  pure value := .pure value
  bind h hnext := h.bind hnext
  check _ := .ofExcept _
  needNumerals _ := .require _ _

variable {heap : Heap}

theorem readAt_abstains (hr : heap.session.reader.Abstains) (offset : HeapLayout → Int) :
    Abstains (heap.readAt offset) :=
  (heap.session.resolution_keeps _).bind fun _ => hr.readWord _

theorem regionAt_abstains (hr : heap.session.reader.Abstains) (index : Int) :
    Abstains (heap.regionAt index) := by
  have hdecode (layout : RegionLayout) (address : Int) :
      Abstains (heap.decodeRegion layout index address) :=
    (hr.readUInt32 _).bind fun _ => (hr.readWord _).bind fun _ => (hr.readWord _).bind fun _ =>
      (hr.readWord _).bind fun _ => (Keeps.require _ _).bind fun _ =>
        (Keeps.ofExcept _).bind fun _ => .pure _
  have hslot : Abstains (heap.regionInSlot index) :=
    (heap.session.resolution_keeps _).bind fun _ => (readAt_abstains hr _).bind fun _ =>
      (hr.readAddressAt _ _).bind fun _ => hdecode _ _
  exact (Keeps.require _ _).bind fun _ => (readAt_abstains hr _).bind fun _ =>
    (Keeps.require _ _).bind fun _ => hslot

theorem parts_abstains (hr : heap.session.reader.Abstains) :
    heap.Parts fun _ probe => Abstains probe where
  readAt offset := readAt_abstains hr offset
  used := (heap.session.resolution_keeps _).bind fun _ => hr.readUInt64 _
  regionSizeBytes := (heap.session.resolution_keeps _).bind fun _ => .pure _
  regionAt index := regionAt_abstains hr index
  regions accept := by
    have hwalk : Abstains (heap.walk accept fun _ => pure ()) :=
      compositional_abstains.walk (fun h => h.attempt) abstains_log (readAt_abstains hr _)
        (regionAt_abstains hr) accept fun _ => .pure ()
    exact hwalk.bind fun _ => (Keeps.ofExcept _).bind fun _ => .pure _

theorem print_abstains (hr : heap.session.reader.Abstains) (heapName : String) (withTable : Bool)
    (accept : RegionFilter) : Abstains (Reporter.print { heap, heapName } withTable accept) := by
  -- To raise the fault of a printout after it changes nothing.
  intro context
  have hquery := (parts_abstains hr).print compositional_abstains heapName withTable accept context
  change (after (Reporter.print { heap, heapName } withTable accept >>= fun printout =>
    Probe.ofExcept printout.outcome) context).openings = _ at hquery
  rw [after_bind] at hquery
  cases ho : outcome (Reporter.print { heap, heapName } withTable accept) context with
  | error fault =>
    rw [ho] at hquery
    exact hquery
  | ok printout =>
    rw [ho] at hquery
    dsimp only at hquery
    rwa [after_ofExcept] at hquery

end Heap

namespace Inspector

abbrev Abstains {α : Type} (steps : Inspecting α) : Prop :=
  Keeps (fun state : Inspector × Context => state.2.openings) steps

theorem held_keeps {τ : Type} (part : Inspector × Context → τ) : Keeps part held := fun _ => rfl

theorem change_abstains (f : Inspector → Inspector) : Abstains (change f) := fun _ => rfl

theorem lift_abstains {α : Type} {probe : Probe α} (h : probe.Abstains) :
    Abstains (liftM probe : Inspecting α) := .lift h

theorem detach_abstains : Abstains detach := by
  have hsession : Abstains endSession := by
    refine (held_keeps _).bind fun inspector => ?_
    split
    · exact .pure _
    · exact (lift_abstains (Session.detach_abstains _)).bind fun _ => change_abstains _
  have hletGo (attachment : Attachment) : (letGo attachment).Abstains := by
    unfold letGo
    split
    · exact .pure _
    · refine (Keeps.image _).bind fun _ => (abstains_call rfl).bind fun _ => ?_
      split
      · exact .pure _
      · exact .throw _
  have hrelease : Abstains release := by
    refine (held_keeps _).bind fun inspector => ?_
    split
    · exact .pure _
    · exact (lift_abstains (hletGo _)).bind fun _ => change_abstains _
  exact hsession.bind fun _ => hrelease

theorem announce_abstains (attachment : Attachment) : (announce attachment).Abstains := by
  have hpath : attachment.target.path.Abstains := by
    refine (attachment.target.image?_keeps _).bind fun image? => ?_
    split <;> exact .pure _
  have hsize : attachment.target.addressSize.Abstains := by
    refine (attachment.target.image?_keeps _).bind fun image? => ?_
    split <;> exact .pure _
  have hpaused : attachment.inferior.isPaused.Abstains :=
    ((Keeps.image _).bind fun _ => Keeps.host.bind fun _ => .pure _).bind fun _ => .pure _
  have hpid : attachment.inferior.pid.Abstains := (Keeps.image _).bind fun _ => .pure _
  refine hpath.bind fun _ => hsize.bind fun _ => (abstains_log _ _ _).bind fun _ =>
    hpaused.bind fun paused => ?_
  split
  · exact .pure _
  · exact hpid.bind fun _ => abstains_log _ _ _

theorem resolve_abstains (attachment : Attachment) (settings : Settings) (given : Option Int) :
    (resolve attachment settings given).Abstains := by
  intro context
  obtain ⟨size, heq⟩ := @resolve_eq context attachment settings given
  have hresolve := @Session.resolve_abstains
    ⟨context.sessionCount, attachment.inferior.readerOfSize size, settings, given⟩
    (attachment.inferior.readerOfSize_abstains size) attachment.target
  rw [after, heq]
  exact (hresolve.bind fun _ => .pure _) _

/-- To take over a target that was opened is to open nothing else. -/
theorem takeOver_abstains (opened : Target × Inferior) (heapAddress : Option Int)
    (isCore : Bool) : Abstains (takeOver opened heapAddress isCore) :=
  detach_abstains.bind fun _ => (change_abstains _).bind fun _ =>
    (lift_abstains (announce_abstains _)).bind fun _ => (held_keeps _).bind fun _ =>
      (lift_abstains (resolve_abstains _ _ _)).bind fun session => (change_abstains _).bind fun _ =>
        (lift_abstains (session.heap_keeps _)).bind fun _ => change_abstains _

theorem close_abstains : Abstains close := by
  have hdestroy (debugger : Debugger) : debugger.destroy.Abstains := by
    unfold Debugger.destroy
    split
    · exact .pure _
    · exact Keeps.needBindings.bind fun _ => (abstains_call rfl).bind fun _ => .pure _
  have hdismiss : Abstains dismiss := by
    refine (held_keeps _).bind fun inspector => ?_
    split
    · exact .pure _
    · exact (lift_abstains (hdestroy _)).bind fun _ => change_abstains _
  exact detach_abstains.bind fun _ => hdismiss.bind fun _ => lift_abstains (abstains_log _ _ _)

end Inspector

def Host.makesTarget (host : Host) (path : String) : Bool :=
  if path = "" then host.offersEmptyTarget
  else host.images.any fun image => image.executable = some path

/-- How far one gets with calls of which the first asks for a target. -/
def Host.reached (host : Host) : List DebuggerCall → List DebuggerCall
  | .createTarget path :: rest => .createTarget path :: if host.makesTarget path then rest else []
  | calls => calls

namespace Debugger

theorem requestTarget_finds (scene : Scene) (path : String) :
    ∃ target?, target?.isSome = scene.host.makesTarget path ∧
      (Debugger.live.requestTarget path).Finds scene ⟨.ok target?, [.createTarget path], []⟩ := by
  have hcall {rest : Probe (Option Target)} {target? : Option Target}
      (h : rest.Finds scene ⟨.ok target?, [], []⟩) :
      (do call (.createTarget path); rest).Finds scene ⟨.ok target?, [.createTarget path], []⟩ :=
    ((Finds.call _).bind_of_ok h).congr rfl
  unfold requestTarget Host.makesTarget
  by_cases hpath : path = ""
  · simp only [if_pos hpath]
    refine ⟨_, ?_, (Finds.pure ()).bind_of_pure (hcall (Finds.host.bind_of_pure (.pure _)))⟩
    cases scene.host.offersEmptyTarget <;> rfl
  · simp only [if_neg hpath]
    refine ⟨_, ?_, (Finds.pure ()).bind_of_pure (hcall (Finds.host.bind_of_pure (.pure _)))⟩
    rw [Option.isSome_map, List.findIdx?_isSome]

variable {context : Context}

/-- A target is asked for before anything is opened, and without one nothing is. -/
theorem openings_of_target {α : Type} {path : String} {request : DebuggerCall}
    (hr : request.isOpening) {next : Option Target → Probe α} {fault : Fault}
    (hnone : next none = throw fault)
    (hsome : ∀ target, ∃ rest : Probe α, rest.Abstains ∧
      next (some target) = do call request; rest) :
    (after (Debugger.live.requestTarget path >>= next) context).openings =
      context.openings ++ context.host.reached [.createTarget path, request] := by
  obtain ⟨target?, hmakes, htarget⟩ := requestTarget_finds (context.scene 0) path
  have hasked : context.host.reached [.createTarget path, request] =
      [.createTarget path] ++ if target?.isSome then [request] else [] := by
    rw [hmakes]
    rfl
  rw [after_bind_of_ok (htarget.ok rfl), hasked]
  cases target? with
  | none =>
    rw [hnone, after_throw, Context.openings_note]
    rfl
  | some target =>
    obtain ⟨rest, hrest, heq⟩ := hsome target
    have hcall : (call request).Finds (context.scene 0) _ := .call request
    have hboth : [.createTarget path, request].filter DebuggerCall.isOpening =
        [.createTarget path, request] := by
      rw [List.filter_cons_of_pos rfl, List.filter_cons_of_pos hr, List.filter_nil]
    have hcalled := hcall.ok (scene_note rfl [.createTarget path] [])
    rw [heq, after_bind_of_ok hcalled, hrest, Context.note_note, Context.openings_note]
    exact congrArg _ hboth

theorem inferiorOn_abstains (index : Nat) : (inferiorOn index).Abstains := fun _ => rfl

theorem openings_attachWhere (hb : context.host.bindings) {request : DebuggerCall}
    (hr : request.isOpening) (wanted : Image → Bool) (refusal : String → Refusal)
    (note : String) :
    (after (Debugger.live.attachWhere request wanted refusal note) context).openings =
      context.openings ++ context.host.reached [.createTarget "", request] := by
  have hneed : needBindings.Finds (context.scene 0) _ := .bindings hb
  have hthere := hneed.ok rfl
  rw [Context.note_nil] at hthere
  unfold attachWhere
  rw [after_bind_of_ok hthere]
  refine openings_of_target hr rfl fun _ => ⟨_, ?_, rfl⟩
  refine Keeps.host.bind fun host => ?_
  dsimp only
  split
  · exact .throw _
  · refine (Keeps.image _).bind fun image => ?_
    split
    · exact .throw _
    · exact (abstains_log _ _ _).bind fun _ => inferiorOn_abstains _

theorem openings_loadCore (executable core : String) :
    (after (Debugger.live.loadCore executable core) context).openings =
      context.openings ++ context.host.reached [.createTarget executable, .loadCore core] := by
  unfold loadCore createTarget
  rw [bind_assoc]
  refine openings_of_target rfl rfl fun target => ⟨_, ?_, pure_bind target _⟩
  refine Keeps.host.bind fun host => ?_
  dsimp only
  split
  · exact .throw _
  · exact (abstains_log _ _ _).bind fun _ => inferiorOn_abstains _

end Debugger

namespace Inspector

/-- The calls that ask the debugger for what a request opens. The last of them opens it. -/
def Request.asked : Request → List DebuggerCall
  | .attach pid _ => [.createTarget "", .attach pid]
  | .attachByName name _ => [.createTarget "", .attachByName name false]
  | .loadCore executable core _ => [.createTarget executable, .loadCore core]
  | .detach | .close => []

def startCalls (inspector : Inspector) : List DebuggerCall :=
  if inspector.debugger.isSome then [] else [.start, .create, .setAsync false]

section Start

variable {inspector : Inspector} {context : Context}

theorem openings_start : (context.note inspector.startCalls []).openings = context.openings := by
  have hcalls : inspector.startCalls.filter DebuggerCall.isOpening = [] := by
    unfold startCalls
    split <;> rfl
  rw [Context.openings_note, hcalls, List.append_nil]

/-- The debugger is asked once it is there. -/
theorem request_eq (hd : inspector.debugger ≠ some .released)
    (hb : inspector.debugger = none → context.host.bindings)
    (source : Debugger → Probe (Target × Inferior)) :
    request source (inspector, context) = (liftM (source .live) : Inspecting _)
      ({ inspector with debugger := some .live }, context.note inspector.startCalls []) := by
  obtain ⟨settings, debugger, attachment, session, heap⟩ := inspector
  have hneed : needDebugger (⟨settings, debugger, attachment, session, heap⟩, context) =
      .ok .live (⟨settings, some .live, attachment, session, heap⟩,
        context.note (startCalls ⟨settings, debugger, attachment, session, heap⟩) []) := by
    unfold needDebugger
    rw [bind_of_ok (held_ok _)]
    cases debugger with
    | some debugger =>
      cases debugger with
      | live =>
        simp only [startCalls, Option.isSome_some, if_true, Context.note_nil]
        rfl
      | released => exact absurd rfl hd
    | none =>
      have hb' : (context.scene 0).host.bindings = true := hb rfl
      have hcreate := Debugger.create_finds (context.scene 0)
      rw [if_pos hb'] at hcreate
      dsimp only
      rw [bind_of_ok (lift_ok _ (hcreate.ok rfl)), bind_of_ok (change_ok _ _)]
      rfl
  exact bind_of_ok hneed

end Start

namespace Request

/-- The calls for an opening that a request makes of a debugger that it creates. -/
def reach (request : Request) (host : Host) : List DebuggerCall :=
  if host.bindings then host.reached request.asked else []

theorem openings_source {request : Request} {source : Debugger → Probe (Target × Inferior)}
    (h : request.source? = some source) {context : Context} (hb : context.host.bindings) :
    (after (source .live) context).openings =
      context.openings ++ context.host.reached request.asked := by
  cases request with
  | attach pid _ =>
    cases h
    exact Debugger.openings_attachWhere hb rfl _ _ _
  | attachByName name _ =>
    cases h
    exact Debugger.openings_attachWhere hb rfl _ _ _
  | loadCore executable core _ =>
    cases h
    exact Debugger.openings_loadCore executable core
  | detach => cases h
  | close => cases h

/-- An opening makes the calls that it is for, as far as it gets, and opens nothing else. -/
theorem openings_perform {request : Request} (hopens : request.source?.isSome)
    {inspector : Inspector} (hd : inspector.debugger = none) (context : Context) :
    (after request.perform (inspector, context)).2.openings =
      context.openings ++ request.reach context.host := by
  obtain ⟨source, hs⟩ := Option.isSome_iff_exists.1 hopens
  rw [perform_of_source hs, openFrom]
  -- All openings are made before the target is taken over.
  have hrest : ∀ opened, Abstains (takeOver opened request.heapAddress request.isCore) :=
    fun opened => takeOver_abstains opened _ _
  refine (Keeps.after_bind_eq hrest _).trans ?_
  unfold reach
  by_cases hb : context.host.bindings
  · let started := context.note inspector.startCalls []
    have hrequest : Inspector.request source (inspector, context) =
        (liftM (source .live) : Inspecting _)
          ({ inspector with debugger := some .live }, started) :=
      request_eq (by simp [hd]) (fun _ => hb) source
    have hstart : started.openings = context.openings := openings_start
    rw [after, hrequest]
    change (after (liftM (source .live) : Inspecting _) (_, started)).2.openings = _
    rw [after_lift, if_pos hb, ← hstart]
    exact openings_source hs hb
  · rw [after, request_of_unbound source hd (Bool.eq_false_iff.2 hb), if_neg hb, List.append_nil]

end Request

end Inspector

end HeapProbe
