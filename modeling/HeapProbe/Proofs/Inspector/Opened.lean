import HeapProbe.Proofs.Inspector.Openings

/-! # What the calls for openings open

Which target a call for an opening gets is up to the images that there are: the first process that
is asked for is attached to unless it objects, and a core file is opened with the program that left
it behind. So what a run opened is read off the calls that it made. A request makes the calls for one
opening at most and ends with what they open; nothing else that an inspector does makes any.
-/

namespace HeapProbe

open Probe

def targetOn (index : Nat) : Target × Inferior := (⟨some index⟩, ⟨index, ⟨some index⟩⟩)

def Attachment.of (isCore : Bool) (opened : Target × Inferior) : Attachment :=
  ⟨opened.1, opened.2, isCore⟩

namespace Host

variable (host : Host)

/-- The first of the processes that are wanted, unless it objects. -/
def process? (wanted : Image → Bool) : Option Nat :=
  (host.images.findIdx? wanted).filter fun index =>
    (host.images[index]?.getD {}).attachError.isNone

def core? (program core : String) : Option Nat :=
  host.images.findIdx? fun image => image.executable = some program ∧ image.core = core

def opens? (program : String) : DebuggerCall → Option Attachment
  | .attach pid =>
    ((host.process? fun image => some image.pid = pid.value?).map targetOn).map (.of false)
  | .attachByName name _ =>
    ((host.process? fun image => image.name = name).map targetOn).map (.of false)
  | .loadCore core => ((host.core? program core).map targetOn).map (.of true)
  | _ => none

/-- What calls open one after the other, each with the program that a target was made for last. -/
def opens : String → List DebuggerCall → List Attachment
  | _, [] => []
  | _, .createTarget program :: rest => opens program rest
  | program, call :: rest => (host.opens? program call).toList ++ opens program rest

theorem opens_reached {program : String} {request : DebuggerCall}
    (hr : ∀ path, request ≠ .createTarget path) (before : String) :
    host.opens before (host.reached [.createTarget program, request]) =
      if host.makesTarget program then (host.opens? program request).toList else [] := by
  rw [reached]
  by_cases hmakes : host.makesTarget program
  · rw [if_pos hmakes, if_pos hmakes, opens, opens, opens, List.append_nil]
    exact hr
  · rw [if_neg hmakes, if_neg hmakes]
    rfl

end Host

namespace Debugger

variable {context : Context}

theorem outcome_inferiorOn (index : Nat) :
    outcome (inferiorOn index) context = .ok (targetOn index) := rfl

theorem outcome_found (note : String) (index : Nat) :
    outcome (do Probe.log .info .debugger note; inferiorOn index) context =
      .ok (targetOn index) := by
  have hlog : (Probe.log .info .debugger note).Finds (context.scene 0) _ := .log _ _ _
  rw [outcome_bind_of_ok (hlog.ok rfl), outcome_inferiorOn]

theorem opened_attachWhere (hb : context.host.bindings) (request : DebuggerCall)
    (wanted : Image → Bool) (refusal : String → Refusal) (note : String) :
    (outcome (Debugger.live.attachWhere request wanted refusal note) context).toOption =
      if context.host.makesTarget "" then (context.host.process? wanted).map targetOn
      else none := by
  obtain ⟨target?, hmakes, htarget⟩ := requestTarget_finds (context.scene 0) ""
  have hneed : needBindings.Finds (context.scene 0) _ := .bindings hb
  unfold attachWhere
  rw [outcome_bind_of_ok (hneed.ok rfl), Context.note_nil, outcome_bind_of_ok (htarget.ok rfl)]
  change _ = if (context.scene 0).host.makesTarget "" then _ else _
  rw [← hmakes]
  cases target? with
  | none => rfl
  | some _ =>
    have hcall : (call request).Finds (context.scene 0) _ := .call request
    dsimp only
    rw [if_pos Option.isSome_some, outcome_bind_of_ok (hcall.ok (scene_note rfl _ _)),
      outcome_bind_of_ok (rfl : host _ = .ok _ _)]
    dsimp only [Context.note_host, Host.process?]
    cases context.host.images.findIdx? wanted with
    | none => rfl
    | some index =>
      dsimp only
      rw [outcome_bind_of_ok (rfl : image index _ = .ok _ _)]
      dsimp only [Context.note_host]
      cases hr : (context.host.images[index]?.getD {}).attachError with
      | some reason =>
        rw [Option.filter_some, hr]
        rfl
      | none =>
        dsimp only
        rw [outcome_found, Option.filter_some, hr]
        rfl

theorem opened_loadCore (executable core : String) :
    (outcome (Debugger.live.loadCore executable core) context).toOption =
      if context.host.makesTarget executable then
        (context.host.core? executable core).map targetOn
      else none := by
  obtain ⟨target?, hmakes, htarget⟩ := requestTarget_finds (context.scene 0) executable
  unfold loadCore createTarget
  rw [bind_assoc, outcome_bind_of_ok (htarget.ok rfl)]
  change _ = if (context.scene 0).host.makesTarget executable then _ else _
  rw [← hmakes]
  cases target? with
  | none => rfl
  | some target =>
    have hcall : (call (.loadCore core)).Finds (context.scene 0) _ := .call _
    dsimp only
    rw [pure_bind, outcome_bind_of_ok (hcall.ok (scene_note rfl _ _)),
      outcome_bind_of_ok (rfl : host _ = .ok _ _)]
    dsimp only [Context.note_host, Host.core?]
    cases context.host.images.findIdx? fun image =>
        image.executable = some executable ∧ image.core = core with
    | none => rfl
    | some index =>
      dsimp only
      rw [outcome_found]
      rfl

end Debugger

namespace Inspector

/-- The calls that a probe makes open what it ends with. -/
def EndsAsOpened (isCore : Bool) (probe : Probe (Target × Inferior)) (context : Context) : Prop :=
  ∃ calls, (after probe context).openings = context.openings ++ calls ∧
    context.host.opens "" calls =
      ((outcome probe context).toOption.map (Attachment.of isCore)).toList

section EndsAsOpened

variable {context : Context}

theorem attachWhere_endsAsOpened {request : DebuggerCall} {wanted : Image → Bool}
    (hr : request.isOpening) (hrequest : ∀ path, request ≠ .createTarget path)
    (hopens : context.host.opens? "" request =
      ((context.host.process? wanted).map targetOn).map (.of false))
    (refusal : String → Refusal) (note : String) :
    EndsAsOpened false (Debugger.live.attachWhere request wanted refusal note) context := by
  by_cases hb : context.host.bindings
  · refine ⟨_, Debugger.openings_attachWhere hb hr _ _ _, ?_⟩
    rw [Debugger.opened_attachWhere hb, Host.opens_reached _ hrequest, hopens]
    split <;> rfl
  · have hneed := @Finds.needBindings (context.scene 0)
    rw [if_neg (by simpa [Context.scene] using hb)] at hneed
    have hlost : Debugger.live.attachWhere request wanted refusal note context =
        .error .bindingsLost _ := bind_of_error (hneed context rfl)
    rw [Context.note_nil] at hlost
    refine ⟨[], ?_, ?_⟩
    · rw [(eq_error_iff.1 hlost).2, List.append_nil]
    · rw [(eq_error_iff.1 hlost).1]
      rfl

theorem loadCore_endsAsOpened (executable core : String) :
    EndsAsOpened true (Debugger.live.loadCore executable core) context := by
  refine ⟨_, Debugger.openings_loadCore executable core, ?_⟩
  rw [Debugger.opened_loadCore, Host.opens_reached _ (by simp)]
  split <;> rfl

theorem Request.source_endsAsOpened {request : Request}
    {source : Debugger → Probe (Target × Inferior)} (h : request.source? = some source) :
    EndsAsOpened request.isCore (source .live) context := by
  cases request with
  | attach pid _ =>
    cases h
    exact attachWhere_endsAsOpened rfl (by simp) rfl _ _
  | attachByName name _ =>
    cases h
    exact attachWhere_endsAsOpened rfl (by simp) rfl _ _
  | loadCore executable core _ =>
    cases h
    exact loadCore_endsAsOpened executable core
  | detach => cases h
  | close => cases h

end EndsAsOpened

namespace Turn

variable {turn : Turn} {state : Inspector × Context}

/-- What the calls that a turn makes open. -/
def openings (turn : Turn) (state : Inspector × Context) : List Attachment :=
  turn.host.opens "" ((Inspector.turn state turn).2.openings.drop state.2.openings.length)

theorem openings_of_calls {calls : List DebuggerCall}
    (h : (Inspector.turn state turn).2.openings = state.2.openings ++ calls) :
    turn.openings state = turn.host.opens "" calls := by
  rw [openings, h, List.drop_left]

theorem openings_eq_nil (h : (Inspector.turn state turn).2.openings = state.2.openings) :
    turn.openings state = [] :=
  openings_of_calls (h.trans (List.append_nil _).symm)

section Source

variable {source : Debugger → Probe (Target × Inferior)} (hs : turn.request.source? = some source)
include hs

/-- All calls for an opening are made before the target is taken over. -/
theorem calls_of_source :
    (Inspector.turn state turn).2.openings =
      (after (Inspector.request source) (state.1, state.2.on turn.host)).2.openings := by
  rw [Inspector.turn, Request.perform_of_source hs, openFrom]
  exact Keeps.after_bind_eq (fun opened => takeOver_abstains opened _ _) _

theorem openings_of_source (hd : state.1.debugger ≠ some .released)
    (hb : state.1.debugger = none → turn.host.bindings) :
    turn.openings state = (turn.opened state).toList := by
  let started := (state.2.on turn.host).note state.1.startCalls []
  have hrequest : Inspector.request source (state.1, state.2.on turn.host) =
      (liftM (source .live) : Inspecting _) ({ state.1 with debugger := some .live }, started) :=
    request_eq hd hb source
  obtain ⟨calls, hmade, hopens⟩ : EndsAsOpened turn.request.isCore (source .live) started :=
    Request.source_endsAsOpened hs
  have hcalls : (Inspector.turn state turn).2.openings = state.2.openings ++ calls := by
    rw [calls_of_source hs, after, hrequest]
    change (after (liftM (source .live) : Inspecting _) (_, started)).2.openings = _
    rw [after_lift, hmade, openings_start]
    rfl
  have houtcome : outcome (Inspector.request source) (state.1, state.2.on turn.host) =
      outcome (source .live) started := by
    rw [outcome, hrequest]
    exact outcome_lift ..
  rw [openings_of_calls hcalls, opened, hs]
  dsimp only
  rw [houtcome]
  refine Eq.trans hopens ?_
  cases outcome (source .live) started <;> rfl

end Source

/-- A turn opens what its request ends with, and nothing else. -/
theorem openings_eq (hc : Sound state.1 state.2) :
    turn.openings state = (turn.opened state).toList := by
  cases hs : turn.request.source? with
  | none =>
    rw [opened, hs]
    apply openings_eq_nil
    obtain ⟨host, request⟩ := turn
    cases request with
    | attach => cases hs
    | attachByName => cases hs
    | loadCore => cases hs
    | detach => exact detach_abstains (state.1, state.2.on host)
    | close => exact close_abstains (state.1, state.2.on host)
  | some source =>
    by_cases hb : state.1.debugger = none → turn.host.bindings
    · exact openings_of_source hs hc.debugger hb
    · -- Without a debugger nothing is asked for.
      obtain ⟨hd, hno⟩ := Classical.not_imp.1 hb
      have hunbound := @request_of_unbound state.1 (state.2.on turn.host) source hd
        (Bool.eq_false_iff.2 hno)
      rw [opened_of_refused hs (eq_error_iff.1 hunbound).1]
      apply openings_eq_nil
      rw [calls_of_source hs, (eq_error_iff.1 hunbound).2]
      rfl

end Turn

end Inspector

end HeapProbe
