import HeapProbe.Proofs.Heap.Handle
import HeapProbe.Proofs.Inspector.Release

/-! # The order of an opening

For a new target the debugger is asked first. Only when it has opened one is what was held before
given up, and only then is the new target looked at. So the calls of an opening come in three parts,
and between the first and the second a live process that was held and one that was opened are both
attached.
-/

namespace HeapProbe

open Probe

namespace Debugger

/-- What becomes of a request, for which the debugger receives certain calls if it gets that far. -/
inductive Answer (asked : List DebuggerCall) (context : Context) :
    EStateM.Result Fault Context (Target × Inferior) → Prop where
  | opened {opened : Target × Inferior} {later : Context}
      (htrace : later.trace = context.trace ++ asked) : Answer asked context (.ok opened later)
  | refused {fault : Fault} (calls : List DebuggerCall) (records : List LogRecord)
      (hcalls : calls <+: asked)
      (hfault : context.host.bindings → ∃ refusal, fault = .refused refusal) :
      Answer asked context (.error fault (context.note calls records))

def Asks (probe : Probe (Target × Inferior)) (asked : List DebuggerCall) (context : Context) :
    Prop := Answer asked context (probe context)

namespace Asks

variable {asked : List DebuggerCall} {context : Context}

theorem fails {fault : Fault}
    (hfault : context.host.bindings → ∃ refusal, fault = .refused refusal) :
    Asks (throw fault) asked context := by
  have hanswer : Answer asked context (.error fault (context.note [] [])) :=
    .refused [] [] List.nil_prefix hfault
  rwa [context.note_nil] at hanswer

theorem refuses (refusal : Refusal) : Asks (throw (.refused refusal)) asked context :=
  fails fun _ => ⟨refusal, rfl⟩

theorem bind {α : Type} {probe : Probe α} {next : α → Probe (Target × Inferior)} {value : α}
    {calls : List DebuggerCall} {records : List LogRecord}
    (h : probe.Finds (context.scene 0) ⟨.ok value, calls, records⟩)
    (hnext : Asks (next value) asked (context.note calls records)) :
    Asks (probe >>= next) (calls ++ asked) context := by
  unfold Asks at hnext ⊢
  rw [bind_of_ok (h.ok rfl)]
  cases hr : next value (context.note calls records) with
  | ok opened later =>
    rw [hr] at hnext
    cases hnext with
    | opened htrace =>
      refine .opened ?_
      rw [htrace, Context.trace_note, List.append_assoc]
  | error fault later =>
    rw [hr] at hnext
    cases hnext with
    | refused calls' records' hcalls hfault =>
      rw [Context.note_note]
      exact .refused _ _ ((List.prefix_append_right_inj calls).2 hcalls) hfault

theorem inferiorOn (index : Nat) : Asks (Debugger.inferiorOn index) [] context :=
  .opened (List.append_nil _).symm

end Asks

theorem attachWhere_asks (request : DebuggerCall) (wanted : Image → Bool)
    (refusal : String → Refusal) (note : String) (context : Context) :
    Asks (Debugger.live.attachWhere request wanted refusal note) [.createTarget "", request]
      context := by
  have hneed := @Finds.needBindings (context.scene 0)
  obtain ⟨target?, -, htarget⟩ := requestTarget_finds (context.scene 0) ""
  unfold attachWhere
  cases hb : context.host.bindings with
  | false =>
    have hlost : Asks (throw .bindingsLost) [.createTarget "", request] context :=
      Asks.fails fun h => by simp [hb] at h
    rw [if_neg (by simp [Context.scene, hb])] at hneed
    unfold Asks at hlost ⊢
    rwa [bind_of_error (hneed context rfl), Context.note_nil]
  | true =>
    rw [if_pos (show (context.scene 0).host.bindings = true from hb)] at hneed
    refine Asks.bind hneed (Asks.bind htarget ?_)
    cases target? with
    | none => exact .refuses _
    | some _ =>
      refine Asks.bind (.call request) (Asks.bind .host ?_)
      dsimp only
      split
      · exact .refuses _
      · next index _ =>
        refine Asks.bind (.image index) ?_
        split
        · exact .refuses _
        · exact Asks.bind (.log _ _ _) (.inferiorOn index)

theorem loadCore_asks (executable core : String) (context : Context) :
    Asks (Debugger.live.loadCore executable core) [.createTarget executable, .loadCore core]
      context := by
  obtain ⟨target?, -, htarget⟩ := requestTarget_finds (context.scene 0) executable
  unfold loadCore createTarget
  rw [bind_assoc]
  refine Asks.bind htarget ?_
  cases target? with
  | none => exact .refuses (.noTarget executable)
  | some target =>
    refine Asks.bind (.pure target) (Asks.bind (.call (.loadCore core)) (Asks.bind .host ?_))
    dsimp only
    split
    · exact .refuses _
    · next index _ => exact Asks.bind (.log _ _ _) (.inferiorOn index)

end Debugger

namespace Inspector

theorem Request.asks {request : Request} {source : Debugger → Probe (Target × Inferior)}
    (h : request.source? = some source) (context : Context) :
    Debugger.Asks (source .live) request.asked context := by
  cases request with
  | attach pid _ =>
    cases h
    exact Debugger.attachWhere_asks _ _ _ _ _
  | attachByName name _ =>
    cases h
    exact Debugger.attachWhere_asks _ _ _ _ _
  | loadCore executable core _ =>
    cases h
    exact Debugger.loadCore_asks _ _ _
  | detach => cases h
  | close => cases h

theorem Request.not_isMove_of_asked {request : Request} :
    ∀ call ∈ request.asked, call.isMove = false := by
  intro call hc
  cases request <;> simp [asked] at hc <;> rcases hc with rfl | rfl <;> rfl

section Trace

variable {inspector : Inspector} {context : Context}

/-- Giving up what is held makes no call but the one that lets it go. -/
theorem detach_trace (inspector : Inspector) (context : Context) :
    (after detach (inspector, context)).2.trace =
      context.trace ++ letGoCalls context.host inspector.attachment := by
  have hended : ∃ settled later, endSession (inspector, context) = .ok () (settled, later) ∧
      settled.attachment = inspector.attachment ∧ later.host = context.host ∧
      later.trace = context.trace := by
    unfold endSession
    rw [bind_of_ok (held_ok _)]
    cases inspector.session with
    | none => exact ⟨_, _, rfl, rfl, rfl, rfl⟩
    | some session =>
      have hdetach := eq_ok_iff.2 (@Session.detach_run session context)
      dsimp only
      rw [bind_of_ok (lift_ok _ hdetach)]
      exact ⟨_, _, rfl, rfl, rfl, (Context.trace_note _ _ _).trans (List.append_nil _)⟩
  obtain ⟨settled, later, hsettled, hattachment, hhost, htrace⟩ := hended
  unfold detach
  rw [after_bind_of_ok hsettled, after, release_run, hattachment, hhost, ← htrace]
  cases refusal? context.host inspector.attachment <;> exact Context.trace_note _ _ _

theorem resolve_oblivious (attachment : Attachment) (settings : Settings) (given : Option Int) :
    (resolve attachment settings given).Oblivious := by
  have hsize : attachment.inferior.pointerSize.Looks 0 := (Looks.image _).bind fun _ => .pure _
  have hreader : attachment.inferior.reader.Oblivious :=
    .of_looks (hsize.bind fun _ => .pure _)
  have hyields : Yields attachment.inferior.reader
      fun reader => ∃ size, reader = attachment.inferior.readerOfSize size :=
    .next fun size => .pure ⟨size, rfl⟩
  refine hreader.bind_of_yields hyields ?_
  rintro _ ⟨size, rfl⟩
  have hcreated : Yields
      (Session.create (attachment.inferior.readerOfSize size) settings given)
      fun session => session.reader = attachment.inferior.readerOfSize size :=
    .next fun _ => .next fun _ => .pure rfl
  refine (Session.create_oblivious _ settings given).bind_of_yields hcreated fun session hr => ?_
  have hfind := findOut_looks hr attachment.target 0
  exact (session.resolve_oblivious (.of_looks hfind)).bind fun _ => .pure _

/-- After what was held is given up, taking over a target only looks. -/
theorem takeOver_trace (hheap : inspector.session = none → inspector.heap = none)
    (opened : Target × Inferior) (given : Option Int) (isCore : Bool) :
    ∃ rest, (after (takeOver opened given isCore) (inspector, context)).2.trace =
        context.trace ++ (letGoCalls context.host inspector.attachment ++ rest) ∧
      ∀ call ∈ rest, call.isMove = false := by
  have htrace := detach_trace inspector context
  obtain ⟨freed, hfreed, -, -, -⟩ := @detach_run inspector context hheap
  cases hr : refusal? context.host inspector.attachment with
  | some refusal =>
    rw [hr] at hfreed
    have hstuck : takeOver opened given isCore (inspector, context) = _ := bind_of_error hfreed
    rw [(eq_error_iff.1 hfreed).2] at htrace
    refine ⟨[], ?_, nofun⟩
    rw [(eq_error_iff.1 hstuck).2, List.append_nil]
    exact htrace
  | none =>
    rw [hr] at hfreed
    rw [(eq_ok_iff.1 hfreed).2] at htrace
    let attachment : Attachment := ⟨opened.1, opened.2, isCore⟩
    have hannounce : (announce attachment).Oblivious := .of_looks (announce_looks attachment 0)
    have hledger := ((announce_looks attachment 0).leads freed).ledger
    have hannounced := hannounce.trace_eq freed
    have hquiet := hannounce.not_isMove freed hledger
    unfold takeOver
    rw [after_bind_of_ok hfreed, after_bind_of_ok (change_ok _ _), after_bind, outcome_lift,
      after_lift]
    cases ha : outcome (announce attachment) freed with
    | error fault =>
      refine ⟨_, ?_, hquiet⟩
      rw [hannounced, htrace, List.append_assoc]
    | ok _ =>
      dsimp only
      let announced := after (announce attachment) freed
      have hresolve := resolve_oblivious attachment inspector.settings given
      have hresolved := hresolve.trace_eq announced
      have hquiet' := hresolve.not_isMove announced
        (@resolve_run announced attachment inspector.settings given).1
      have hboth : ∀ call ∈ (announce attachment).callsOf freed ++
          (resolve attachment inspector.settings given).callsOf announced,
          call.isMove = false :=
        fun call hc => (List.mem_append.1 hc).elim (hquiet call) (hquiet' call)
      refine ⟨_, ?_, hboth⟩
      rw [after_bind_of_ok (held_ok _), after_bind, outcome_lift, after_lift]
      have hall : (after (resolve attachment inspector.settings given) announced).trace =
          context.trace ++ (letGoCalls context.host inspector.attachment ++
            ((announce attachment).callsOf freed ++
              (resolve attachment inspector.settings given).callsOf announced)) := by
        rw [hresolved, hannounced, htrace]
        simp only [List.append_assoc]
      cases hs : outcome (resolve attachment inspector.settings given) announced with
      | error fault => exact hall
      | ok session =>
        dsimp only
        rw [after_bind_of_ok (change_ok _ _), after_bind, outcome_lift, after_lift]
        rw [Session.heap_run.2]
        cases outcome session.heap (after (resolve attachment inspector.settings given) announced)
          <;> exact hall

theorem not_isDetach_of_startCalls {inspector : Inspector} :
    ∀ call ∈ inspector.startCalls, call.isDetach = false := by
  unfold startCalls
  split <;> simp [DebuggerCall.isDetach]

/-- How an opening goes about its target. -/
inductive Turn.Opening (turn : Turn) (state : Inspector × Context) : Prop where
  | refused (fault : Fault) (calls : List DebuggerCall) (records : List LogRecord)
      (hopened : turn.opened state = none)
      (hcalls : calls <+: state.1.startCalls ++ turn.request.asked)
      (hfault : turn.host.bindings → ∃ refusal, fault = .refused refusal)
      (hrun : turn.request.perform (state.1, state.2.on turn.host) =
        .error fault ({ state.1 with debugger := some .live },
          (state.2.on turn.host).note calls records))
  | met (opened : Target × Inferior) (asked : Context)
      (hopened : turn.opened state = some ⟨opened.1, opened.2, turn.request.isCore⟩)
      (htrace : asked.trace =
        state.2.trace ++ (state.1.startCalls ++ turn.request.asked))
      (himages : asked.host.images = turn.host.images)
      (hbindings : asked.host.bindings = turn.host.bindings)
      (hrun : turn.request.perform (state.1, state.2.on turn.host) =
        takeOver opened turn.request.heapAddress turn.request.isCore
          ({ state.1 with debugger := some .live }, asked))

theorem turn_opening {turn : Turn} {state : Inspector × Context}
    (hd : state.1.debugger ≠ some .released)
    (hb : state.1.debugger = none → turn.host.bindings) (hopens : turn.request.source?.isSome) :
    turn.Opening state := by
  obtain ⟨source, hs⟩ := Option.isSome_iff_exists.1 hopens
  let context := state.2.on turn.host
  let started := context.note state.1.startCalls []
  have hrequest : request source (state.1, context) = _ := request_eq hd hb source
  have hperform : turn.request.perform =
      openFrom source turn.request.heapAddress turn.request.isCore := Request.perform_of_source hs
  have hanswer : Debugger.Answer turn.request.asked started (source .live started) :=
    Request.asks hs started
  have hleads := Request.source_leads hs started
  cases hresult : source .live started with
  | error fault later =>
    rw [hresult] at hanswer
    have hrefused : request source (state.1, context) =
        .error fault ({ state.1 with debugger := some .live }, later) := by
      rw [hrequest, lift_eq, hresult]
    have hopened := opened_of_refused hs (eq_error_iff.1 hrefused).1
    cases hanswer with
    | refused calls records hcalls hfault =>
      refine .refused fault _ records hopened
        ((List.prefix_append_right_inj state.1.startCalls).2 hcalls) hfault ?_
      rw [hperform]
      have hrun : openFrom source turn.request.heapAddress turn.request.isCore
          (state.1, context) = _ := bind_of_error hrefused
      rw [Context.note_note] at hrun
      exact hrun
  | ok opened later =>
    rw [hresult] at hanswer
    rw [(eq_ok_iff.1 hresult).2] at hleads
    have hmet : request source (state.1, context) =
        .ok opened ({ state.1 with debugger := some .live }, later) := by
      rw [hrequest, lift_eq, hresult]
    have hopened := opened_of_met hs (eq_ok_iff.1 hmet).1
    cases hanswer with
    | opened htrace =>
      refine .met opened later hopened ?_ hleads.images hleads.bindings ?_
      · rw [htrace, Context.trace_note, List.append_assoc]
        rfl
      · rw [hperform]
        exact bind_of_ok hmet

/-- An opening asks for the target first. What is held is let go of after that, and only if a target
was opened. -/
theorem opening_trace {turn : Turn} {state : Inspector × Context} (hc : Sound state.1 state.2)
    (hb : state.1.debugger = none → turn.host.bindings) (hopens : turn.request.source?.isSome) :
    (turn.opened state = none → ∃ calls, calls <+: state.1.startCalls ++ turn.request.asked ∧
      (Inspector.turn state turn).2.trace = state.2.trace ++ calls) ∧
    ∀ opened, turn.opened state = some opened → ∃ rest,
      (Inspector.turn state turn).2.trace = state.2.trace ++
        (state.1.startCalls ++ turn.request.asked ++
          (letGoCalls turn.host state.1.attachment ++ rest)) ∧
      ∀ call ∈ rest, call.isMove = false := by
  cases turn_opening hc.debugger hb hopens with
  | refused fault calls records hopened hcalls _ hrun =>
    rw [hopened, Inspector.turn, (eq_error_iff.1 hrun).2]
    exact ⟨fun _ => ⟨calls, hcalls, Context.trace_note _ _ _⟩, fun _ hsome => by simp at hsome⟩
  | met opened asked hopened htrace himages _ hrun =>
    obtain ⟨rest, hrest, hquiet⟩ := @takeOver_trace { state.1 with debugger := some .live } asked
      hc.heap_eq_none opened turn.request.heapAddress turn.request.isCore
    have hcalls : letGoCalls asked.host state.1.attachment =
        letGoCalls turn.host state.1.attachment := by
      unfold letGoCalls
      rw [himages]
    rw [hopened, Inspector.turn, after, hrun]
    refine ⟨fun hnone => by simp at hnone, fun _ _ => ⟨rest, ?_, hquiet⟩⟩
    change (after (takeOver opened _ _) _).2.trace = _
    rw [hrest, htrace, hcalls, List.append_assoc]

end Trace

/-- As many live processes were opened in a run as were let go, and one more if one is held. -/
theorem length_processes {settings : Settings} {context : Context} {turns : List Turn}
    (hg : Granted turns ({ settings }, context)) :
    context.trace.countP DebuggerCall.isDetach +
        (processes turns ({ settings }, context)).length =
      (run turns ({ settings }, context)).2.trace.countP DebuggerCall.isDetach +
        (run turns ({ settings }, context)).1.holdsLive.toNat := by
  have haccounts := accounts_of_granted hg
  have hmoves (context : Context) :
      context.trace.countP DebuggerCall.isDetach = context.ledger.countP DebuggerCall.isDetach := by
    have hdetaches : context.trace.filter DebuggerCall.isDetach = _ := context.detaches_eq
    rw [List.countP_eq_length_filter, hdetaches, List.countP_eq_length_filter]
  have hprocesses := haccounts.processes
  rw [hmoves, hmoves, haccounts.ledger, List.countP_append, processes,
    ← List.countP_eq_length_filter]
  dsimp only
  omega

/-- **An opening asks first.** Whatever a new inspector went through, while a live process is held an
opening first asks the debugger for the new target. If none is opened, that is all, and the process
is not let go. If one is opened, the debugger is asked to let the old process go only after that, and
not again. Up to then both are attached: if the debugger let go of what it was asked to before, two
more live processes were opened than let go at that point. -/
theorem opening_asks_before_detaching {settings : Settings} {context : Context}
    {turns : List Turn} {last : Turn} {held : Attachment}
    (hopens : last.request.source?.isSome)
    (hheld : (run turns ({ settings }, context)).1.attachment = some held)
    (hlive : held.isCore = false) :
    let start : Inspector × Context := ({ settings }, context)
    let before := run turns start
    let now := run (turns ++ [last]) start
    let asked := last.request.asked
    let pid := (last.host.images[held.inferior.image]?.getD {}).pid
    (last.opened before = none → ∃ calls, calls <+: asked ∧
      now.2.trace = before.2.trace ++ calls ∧ ∀ call ∈ calls, call.isDetach = false) ∧
    ∀ opened, last.opened before = some opened →
      (∃ rest, now.2.trace = before.2.trace ++ (asked ++ ([.detach pid] ++ rest)) ∧
        (∀ call ∈ asked, call.isDetach = false) ∧ ∀ call ∈ rest, call.isDetach = false) ∧
      (Granted turns start → opened.isCore = false →
        context.trace.countP DebuggerCall.isDetach + (processes (turns ++ [last]) start).length =
          (before.2.trace ++ asked).countP DebuggerCall.isDetach + 2) := by
  intro start before now asked pid
  have hbefore : Sound before.1 before.2 := sound_run (.start settings context)
  have hnow : now = turn before last := run_concat turns last start
  have hdebugger : before.1.debugger = some .live := hbefore.debugger_eq hheld
  have hstart : before.1.startCalls = [] := by rw [startCalls, hdebugger]; rfl
  obtain ⟨hrefused, hmet⟩ := @opening_trace last before hbefore (by simp [hdebugger]) hopens
  have hletGo : letGoCalls last.host before.1.attachment = [.detach pid] := by
    rw [show before.1.attachment = some held from hheld]
    simp [letGoCalls, hlive, pid]
  have hasked : ∀ call ∈ asked, call.isDetach = false :=
    fun call hc => DebuggerCall.isDetach_eq_false (Request.not_isMove_of_asked call hc)
  rw [hnow]
  refine ⟨fun hnone => ?_, fun opened hopened => ⟨?_, fun hg hnew => ?_⟩⟩
  · obtain ⟨calls, hcalls, htrace⟩ := hrefused hnone
    rw [hstart, List.nil_append] at hcalls
    exact ⟨calls, hcalls, htrace, fun call hc => hasked call (hcalls.subset hc)⟩
  · obtain ⟨rest, hrest, hquiet⟩ := hmet opened hopened
    rw [hletGo, hstart, List.nil_append] at hrest
    exact ⟨rest, hrest, hasked, fun call hc => DebuggerCall.isDetach_eq_false (hquiet call hc)⟩
  · have hbooks : context.trace.countP DebuggerCall.isDetach + (processes turns start).length =
        before.2.trace.countP DebuggerCall.isDetach + before.1.holdsLive.toNat :=
      length_processes hg
    have hone : before.1.holdsLive = true := by
      simp [holdsLive, show before.1.attachment = some held from hheld, hlive]
    have hnone : asked.countP DebuggerCall.isDetach = 0 :=
      List.countP_eq_zero.2 fun call hc => by simp [hasked call hc]
    rw [processes_concat last hbefore, List.length_append, List.countP_append, hnone, hopened]
    have hlength : (live (some opened)).length = 1 := by simp [live, hnew]
    rw [hone] at hbooks
    rw [hlength]
    dsimp only [Bool.toNat_true] at hbooks
    omega

def attachOther : Turn := ⟨twoProcesses none, .attach (.value 7) none⟩

/-- Both processes are attached once the second one is opened. -/
theorem attachOther_while_first_is_held :
    (processes ([attachFirst] ++ [attachOther]) ({ settings := {} }, {})).length =
      ((run [attachFirst] ({ settings := {} }, {})).2.trace ++
        attachOther.request.asked).countP DebuggerCall.isDetach + 2 := by
  have hheld : (run [attachFirst] ({ settings := {} }, {})).1.attachment =
      some ⟨⟨some 0⟩, ⟨0, ⟨some 0⟩⟩, false⟩ := rfl
  have hopened : attachOther.opened (run [attachFirst] ({ settings := {} }, {})) =
      some ⟨⟨some 1⟩, ⟨1, ⟨some 1⟩⟩, false⟩ := rfl
  have hgranted : Granted [attachFirst] ({ settings := {} }, {}) := by
    intro before turn later hsplit
    obtain ⟨rfl, hsplit⟩ | ⟨_, rfl, hnil⟩ := List.cons_eq_append_iff.1 hsplit
    · cases hsplit
      exact ⟨rfl, fun _ => nofun⟩
    · simp at hnil
  have hmain := (@opening_asks_before_detaching {} {} [attachFirst] attachOther _ rfl hheld rfl).2 _
    hopened
  have hcount := hmain.2 hgranted rfl
  rwa [show ({} : Context).trace.countP DebuggerCall.isDetach = 0 from rfl, Nat.zero_add] at hcount

/-- Not every opening lets the old process go before the new one is opened. -/
theorem not_detached_before_opening :
    ¬ ∀ (turns : List Turn) (last : Turn) (held : Attachment),
      (run turns ({ settings := {} }, {})).1.attachment = some held → held.isCore = false →
      (last.opened (run turns ({ settings := {} }, {}))).isSome →
      let calls := (run (turns ++ [last]) ({ settings := {} }, {})).2.trace.drop
        (run turns ({ settings := {} }, {})).2.trace.length
      ∀ call ∈ last.request.asked.getLast?,
        calls.idxOf (.detach (last.host.images[held.inferior.image]?.getD {}).pid) <
          calls.idxOf call := by
  intro h
  have hlt := h [attachFirst] attachOther ⟨⟨some 0⟩, ⟨0, ⟨some 0⟩⟩, false⟩ rfl rfl rfl
    (.attach (.value 7)) rfl
  have hcalls : (run ([attachFirst] ++ [attachOther]) ({ settings := {} }, {})).2.trace.drop
      (run [attachFirst] ({ settings := {} }, {})).2.trace.length =
      [.createTarget "", .attach (.value 7), .detach 4242, .findType "ShenandoahHeap",
        .findType "MemRegion", .findType "ShenandoahHeapRegion",
        .findGlobal "Universe::_collectedHeap", .read 0x5000 8] := rfl
  rw [hcalls] at hlt
  exact absurd hlt (by decide)

end Inspector

end HeapProbe
