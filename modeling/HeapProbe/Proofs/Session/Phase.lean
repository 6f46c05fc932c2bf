import HeapProbe.Heap.Basic
import HeapProbe.Proofs.Probe.Finding

/-! # Phases

What a session does with a call is settled by the phase that it is in. A session that is not fresh
has a verdict, with which every resolution of it ends, and its phase is all that it needs to answer.
-/

namespace HeapProbe

open Probe

/-- How the resolutions of a settled session end. -/
def SessionPhase.verdict : SessionPhase → Option (Except Fault Unit)
  | .fresh => none
  | .resolved _ => some (.ok ())
  | .failed failure => some (.error failure)
  | .detached => some (.error .sessionDetached)

theorem SessionPhase.exists_verdict {phase : SessionPhase} (h : phase ≠ .fresh) :
    ∃ result, phase.verdict = some result := by
  cases phase with
  | fresh => exact absurd rfl h
  | resolved _ => exact ⟨_, rfl⟩
  | failed _ => exact ⟨_, rfl⟩
  | detached => exact ⟨_, rfl⟩

theorem SessionPhase.ne_fresh_of_verdict {phase : SessionPhase} {result : Except Fault Unit}
    (h : phase.verdict = some result) : phase ≠ .fresh := by
  rintro rfl
  cases h

theorem SessionPhase.eq_resolved_of_verdict {phase : SessionPhase}
    (h : phase.verdict = some (.ok ())) : ∃ resolution, phase = .resolved resolution := by
  cases phase <;> cases h
  exact ⟨_, rfl⟩

def SessionPhase.answer {α : Type} (part : Resolution → α) : SessionPhase → Except Fault α
  | .fresh => .error .sessionUnresolved
  | .resolved resolution => .ok (part resolution)
  | .failed failure => .error (.sessionFailed failure)
  | .detached => .error .sessionDetached

namespace Session

variable {session : Session} {context : Context}

@[simp] theorem state_run : session.state context = .ok (context.sessions session.id) context := rfl

@[simp] theorem assign_run (change : SessionState → SessionState) :
    session.assign change context = .ok () (context.assign session.id change) := rfl

theorem create_run (reader : Reader) (settings : Settings) (given : Option Int) :
    Session.create reader settings given context =
      .ok ⟨context.sessionCount, reader, settings, given⟩
        (Context.assign { context with sessionCount := context.sessionCount + 1 }
          context.sessionCount fun _ => { heapAddress := given }) := rfl

theorem phase_create (reader : Reader) (settings : Settings) (given : Option Int) :
    (after (Session.create reader settings given) context).phase context.sessionCount = .fresh := by
  rw [after, create_run]
  exact Context.phase_assign _ _ _

theorem phase_create_of_ne (reader : Reader) (settings : Settings) (given : Option Int) {id : Nat}
    (h : id ≠ context.sessionCount) :
    (after (Session.create reader settings given) context).phase id = context.phase id := by
  rw [after, create_run]
  exact Context.phase_assign_of_ne _ _ _ h

theorem detach_run :
    outcome session.detach context = .ok () ∧
      after session.detach context = (context.assign session.id SessionState.detach).note []
        [⟨.info, .session, "Session detached"⟩] := by
  have hlog : (log .info .session "Session detached").Finds
      ((context.assign session.id SessionState.detach).scene 0) _ := .log _ _ _
  unfold detach
  rw [outcome_bind_of_ok (assign_run _), after_bind_of_ok (assign_run _)]
  exact ⟨hlog.outcome_eq rfl, hlog.after_eq rfl⟩

theorem publish_run (resolution : Resolution) :
    session.publish resolution context =
      .ok () (context.assign session.id fun state => state.publish resolution) := by
  unfold publish
  rw [bind_of_ok (assign_run _), bind_of_ok (assign_run _), bind_of_ok (assign_run _), assign_run]
  simp only [Context.assign_assign]
  rfl

def announced (session : Session) (resolution : Resolution) : List LogRecord :=
  if hasNumeral resolution.regionSizeBytes then
    [⟨.debug, .session, session.announcement resolution⟩]
  else []

theorem announce_finds (scene : Scene) (resolution : Resolution) :
    (session.announce resolution).Finds scene ⟨.ok (), [], session.announced resolution⟩ := by
  unfold announce announced
  split
  · exact .log _ _ _
  · exact .pure ()

/-- Remembering a fault of the inspection moves the session on; any other is let pass. -/
theorem remember_run (fault : Fault) :
    session.remember fault context = .ok () (if fault.isInspection then
      (context.note [] [⟨.error, .session, s!"Layout resolution failed: {fault.message}"⟩]).assign
        session.id fun state => state.fail fault else context) := by
  have hlog : (log .error .session s!"Layout resolution failed: {fault.message}").Finds
      (context.scene 0) _ := .log _ _ _
  unfold remember
  cases fault.isInspection with
  | true =>
    rw [if_pos rfl, if_pos rfl, bind_of_ok (hlog.ok rfl)]
    rfl
  | false => rfl

section Resolve

variable {resolver : Resolver}

theorem establish_of_findOut_ok {resolution : Resolution} {found : Context}
    (h : session.findOut resolver context = .ok resolution found) :
    session.establish resolver context =
      .ok () ((found.assign session.id fun state => state.publish resolution).note []
        (session.announced resolution)) := by
  let published := found.assign session.id fun state => state.publish resolution
  unfold establish
  rw [bind_of_ok h, bind_of_ok (publish_run _)]
  exact (announce_finds (published.scene session.id) resolution).ok rfl

theorem establish_of_findOut_error {fault : Fault} {found : Context}
    (h : session.findOut resolver context = .error fault found) :
    session.establish resolver context = .error fault found := by
  unfold establish
  rw [bind_of_error h]

theorem resolve_of_fresh (h : context.phase session.id = .fresh) :
    let found := after (session.findOut resolver) context
    session.resolve resolver context =
      match outcome (session.findOut resolver) context with
      | .ok resolution => .ok ()
          ((found.assign session.id fun state => (state.publish resolution).settle).note []
            (session.announced resolution))
      | .error fault => .error fault (after (session.remember fault) found) := by
  intro found
  obtain ⟨hdetached, hresolved⟩ := SessionState.phase_eq_fresh_iff.1 h
  have hrequire : require ((context.sessions session.id).detached = false) .sessionDetached
      context = .ok () context := by
    rw [require, if_pos hdetached]
    rfl
  unfold resolve
  rw [bind_of_ok state_run, bind_of_ok hrequire, hresolved, if_neg Bool.false_ne_true,
    bind_of_ok (attempt_run _ _)]
  cases hf : session.findOut resolver context with
  | ok resolution later =>
    obtain ⟨ho, ha⟩ := eq_ok_iff.1 hf
    obtain ⟨ho', ha'⟩ := eq_ok_iff.1 (establish_of_findOut_ok hf)
    have hfound : found = later := ha
    have hsettle := later.assign_assign session.id (fun state => state.publish resolution)
      SessionState.settle
    rw [ho, ho', ha', hfound]
    exact congrArg (fun context => EStateM.Result.ok ()
      (Context.note context [] (session.announced resolution))) hsettle
  | error fault later =>
    obtain ⟨ho, ha⟩ := eq_error_iff.1 hf
    obtain ⟨ho', ha'⟩ := eq_error_iff.1 (establish_of_findOut_error hf)
    have hfound : found = later := ha
    have hremember := @remember_run session later fault
    rw [ho, ho', ha', hfound]
    dsimp only
    rw [bind_of_ok hremember, (eq_ok_iff.1 hremember).2]
    rfl

theorem resolve_of_findOut_ok {resolution : Resolution} {found : Context}
    (hfresh : context.phase session.id = .fresh)
    (h : session.findOut resolver context = .ok resolution found) :
    session.resolve resolver context = .ok ()
      ((found.assign session.id fun state => (state.publish resolution).settle).note []
        (session.announced resolution)) := by
  have hresolve := @resolve_of_fresh session context resolver hfresh
  rw [(eq_ok_iff.1 h).1, (eq_ok_iff.1 h).2] at hresolve
  exact hresolve

theorem resolve_of_findOut_error {fault : Fault} {found : Context}
    (hfresh : context.phase session.id = .fresh)
    (h : session.findOut resolver context = .error fault found) :
    session.resolve resolver context = .error fault (after (session.remember fault) found) := by
  have hresolve := @resolve_of_fresh session context resolver hfresh
  rw [(eq_error_iff.1 h).1, (eq_error_iff.1 h).2] at hresolve
  exact hresolve

theorem outcome_resolve_of_fresh (hfresh : context.phase session.id = .fresh) :
    outcome (session.resolve resolver) context =
      (outcome (session.findOut resolver) context).map fun _ => () := by
  rw [outcome, resolve_of_fresh hfresh]
  cases outcome (session.findOut resolver) context <;> rfl

/-- What a first resolution leaves of the session, over what finding out has left of it. -/
theorem sessions_resolve_of_found {resolution : Resolution}
    (hfresh : context.phase session.id = .fresh)
    (ho : outcome (session.findOut resolver) context = .ok resolution) :
    (after (session.resolve resolver) context).sessions session.id =
      (((after (session.findOut resolver) context).sessions session.id).publish
        resolution).settle := by
  rw [after, resolve_of_fresh hfresh, ho]
  dsimp only
  rw [Context.note_sessions, Context.sessions_assign]

theorem sessions_resolve_of_blamed {fault : Fault} (hfresh : context.phase session.id = .fresh)
    (ho : outcome (session.findOut resolver) context = .error fault) (hi : fault.isInspection) :
    (after (session.resolve resolver) context).sessions session.id =
      ((after (session.findOut resolver) context).sessions session.id).fail fault := by
  rw [after, resolve_of_fresh hfresh, ho]
  dsimp only
  rw [after, remember_run, if_pos hi]
  exact Context.sessions_assign _ _ _

/-- A fault that is not of the inspection leaves everything as finding out has left it. -/
theorem after_resolve_of_interrupted {fault : Fault}
    (hfresh : context.phase session.id = .fresh)
    (ho : outcome (session.findOut resolver) context = .error fault)
    (hi : fault.isInspection = false) :
    after (session.resolve resolver) context = after (session.findOut resolver) context := by
  rw [after, resolve_of_fresh hfresh, ho]
  dsimp only
  rw [after, remember_run, hi]
  rfl

section Spared

variable (hstill : (after (session.findOut resolver) context).phase session.id = .fresh)
include hstill

theorem phase_resolve_of_found {resolution : Resolution}
    (hfresh : context.phase session.id = .fresh)
    (ho : outcome (session.findOut resolver) context = .ok resolution) :
    (after (session.resolve resolver) context).phase session.id = .resolved resolution := by
  rw [Context.phase, sessions_resolve_of_found hfresh ho]
  exact SessionState.phase_settle_publish hstill resolution

theorem phase_resolve_of_blamed {fault : Fault} (hfresh : context.phase session.id = .fresh)
    (ho : outcome (session.findOut resolver) context = .error fault) (hi : fault.isInspection) :
    (after (session.resolve resolver) context).phase session.id = .failed fault := by
  rw [Context.phase, sessions_resolve_of_blamed hfresh ho hi]
  exact SessionState.phase_fail hstill fault

end Spared

/-- A settled session is left as it is by a resolution, which ends with the verdict. -/
theorem resolve_of_verdict {result : Except Fault Unit}
    (h : (context.phase session.id).verdict = some result) :
    outcome (session.resolve resolver) context = result ∧
      after (session.resolve resolver) context = context := by
  unfold resolve
  rw [outcome_bind_of_ok state_run, after_bind_of_ok state_run]
  unfold Context.phase SessionState.phase at h
  cases hd : (context.sessions session.id).detached with
  | true =>
    rw [hd] at h
    cases h
    exact ⟨rfl, rfl⟩
  | false =>
    cases hr : (context.sessions session.id).resolved with
    | false =>
      rw [hd, hr] at h
      cases h
    | true =>
      rw [hd, hr] at h
      cases hf : (context.sessions session.id).failure <;> rw [hf] at h <;> cases h <;>
        exact ⟨rfl, rfl⟩

end Resolve

theorem requireResolved_run :
    outcome session.requireResolved context = (context.phase session.id).answer (fun _ => ()) ∧
      after session.requireResolved context = context := by
  unfold requireResolved
  rw [outcome_bind_of_ok state_run, after_bind_of_ok state_run]
  unfold Context.phase SessionState.phase
  cases (context.sessions session.id).detached with
  | true => exact ⟨rfl, rfl⟩
  | false =>
    cases (context.sessions session.id).resolved with
    | false => exact ⟨rfl, rfl⟩
    | true => cases (context.sessions session.id).failure <;> exact ⟨rfl, rfl⟩

/-- In every phase but one there is nothing to answer from. -/
theorem resolution_run :
    outcome session.resolution context =
        (context.phase session.id).answer (fun resolution => resolution) ∧
      after session.resolution context = context := by
  unfold resolution
  rw [outcome_bind, after_bind, requireResolved_run.1, requireResolved_run.2]
  unfold Context.phase SessionState.phase
  cases (context.sessions session.id).detached with
  | true => exact ⟨rfl, rfl⟩
  | false =>
    cases (context.sessions session.id).resolved with
    | false => exact ⟨rfl, rfl⟩
    | true => cases (context.sessions session.id).failure <;> exact ⟨rfl, rfl⟩

theorem ask_run {α : Type} (part : Resolution → α) :
    outcome (session.ask part) context = (context.phase session.id).answer part ∧
      after (session.ask part) context = context := by
  unfold ask
  rw [outcome_bind, after_bind, resolution_run.1, resolution_run.2]
  cases context.phase session.id <;> exact ⟨rfl, rfl⟩

theorem heap_run :
    outcome session.heap context = (context.phase session.id).answer (fun _ => ⟨session⟩) ∧
      after session.heap context = context := by
  unfold heap
  rw [outcome_bind, after_bind, resolution_run.1, resolution_run.2]
  cases context.phase session.id <;> exact ⟨rfl, rfl⟩

theorem heap_of_resolved {resolution : Resolution}
    (h : context.phase session.id = .resolved resolution) :
    session.heap context = .ok ⟨session⟩ context := by
  rw [eq_ok_iff, heap_run.1, h]
  exact ⟨rfl, heap_run.2⟩

theorem isResolved_run :
    outcome session.isResolved context =
        .ok ((context.phase session.id).answer fun _ => ()).isOk ∧
      after session.isResolved context = context := by
  unfold isResolved
  rw [outcome_bind_of_ok state_run, after_bind_of_ok state_run]
  unfold Context.phase SessionState.phase
  cases (context.sessions session.id).detached <;> cases (context.sessions session.id).resolved <;>
    cases (context.sessions session.id).failure <;> exact ⟨rfl, rfl⟩

end Session

end HeapProbe
