import HeapProbe.Proofs.Memory.View
import HeapProbe.Proofs.Probe.Leads
import HeapProbe.Proofs.Session.Phase

/-! # Sessions over time

Whatever is done in an inspection, sessions are only ever added and keep their numbers, and one that
was detached stays detached. A probe advances if that is so of it. All that the library offers
advances, whatever it is given to work with, as long as what it is given does.
-/

namespace HeapProbe

open Probe

namespace Context

/-- No session is forgotten in between, and none that was detached comes back. -/
structure Precedes (before after : Context) : Prop where
  sessions : before.sessionCount ≤ after.sessionCount
  detached : ∀ id < before.sessionCount, before.phase id = .detached → after.phase id = .detached

namespace Precedes

theorem refl (context : Context) : context.Precedes context := ⟨Nat.le_refl _, fun _ _ h => h⟩

theorem trans {first second third : Context} (h : first.Precedes second)
    (h' : second.Precedes third) : first.Precedes third where
  sessions := Nat.le_trans h.sessions h'.sessions
  detached id hid hd := h'.detached id (Nat.lt_of_lt_of_le hid h.sessions) (h.detached id hid hd)

theorem note (context : Context) (calls : List DebuggerCall) (records : List LogRecord) :
    context.Precedes (context.note calls records) := ⟨Nat.le_refl _, fun _ _ h => h⟩

theorem of_eq {before after : Context} (hs : after.sessionCount = before.sessionCount)
    (hp : after.phase = before.phase) : before.Precedes after := by
  refine ⟨Nat.le_of_eq hs.symm, fun id _ hd => ?_⟩
  rw [hp]
  exact hd

end Precedes

theorem Leads.precedes {before after : Context} (h : before.Leads after) : before.Precedes after :=
  .of_eq h.sessionCount h.phase

end Context

namespace Probe

variable {α β : Type}

def Advances (probe : Probe α) : Prop := ∀ context : Context, context.Precedes (after probe context)

namespace Advances

protected theorem pure (value : α) : (pure value : Probe α).Advances := fun context => .refl context

protected theorem throw (fault : Fault) : (throw fault : Probe α).Advances :=
  fun context => .refl context

protected theorem bind {probe : Probe α} {next : α → Probe β} (h : probe.Advances)
    (hnext : ∀ value, (next value).Advances) : (probe >>= next).Advances := by
  intro context
  have hfirst := h context
  rw [after_bind]
  cases outcome probe context with
  | error fault => exact hfirst
  | ok value => exact hfirst.trans (hnext value _)

protected theorem attempt {probe : Probe α} (h : probe.Advances) :
    Probe.Advances (attempt probe) := by
  intro context
  rw [after_attempt]
  exact h context

theorem of_leads {probe : Probe α} (h : probe.Leads) : probe.Advances :=
  fun context => (h context).precedes

end Advances

end Probe

namespace Inferior

variable (inferior : Inferior) (kept : Int)

/-- A load is a read if it calls the debugger at all. -/
theorem looks_of_finding {probe : Probe Int} (session : Nat)
    (h : ∀ scene : Scene, ∃ (view : View) (load : Load) (address length : Int),
      probe.Finds scene (view.finding load address length)) : probe.Looks session := by
  intro scene _
  obtain ⟨view, load, address, length, hf⟩ := h scene
  refine ⟨_, hf, fun call hc => ?_⟩
  change call ∈ view.callsFor load at hc
  rw [View.callsFor] at hc
  split at hc
  · rw [List.mem_singleton.1 hc]
    rfl
  · cases hc

variable {session : Nat}

theorem readWord_looks (address : Int) :
    ((inferior.readerOfSize kept).readWord address).Looks session :=
  looks_of_finding session fun scene =>
    ⟨⟨inferior, kept, scene.host⟩, _, _, _, @Finds.word scene ⟨inferior, kept, scene.host⟩ rfl _⟩

theorem readUInt32_looks (address : Int) :
    ((inferior.readerOfSize kept).readUInt32 address).Looks session :=
  looks_of_finding session fun scene =>
    ⟨⟨inferior, kept, scene.host⟩, _, _, _, @Finds.uint32 scene ⟨inferior, kept, scene.host⟩ rfl _⟩

theorem readUInt64_looks (address : Int) :
    ((inferior.readerOfSize kept).readUInt64 address).Looks session :=
  looks_of_finding session fun scene =>
    ⟨⟨inferior, kept, scene.host⟩, _, _, _, @Finds.uint64 scene ⟨inferior, kept, scene.host⟩ rfl _⟩

theorem readAddressAt_looks (base index : Int) :
    ((inferior.readerOfSize kept).readAddressAt base index).Looks session :=
  looks_of_finding session fun scene =>
    ⟨⟨inferior, kept, scene.host⟩, _, _, _,
      @Finds.element scene ⟨inferior, kept, scene.host⟩ rfl _ _⟩

end Inferior

namespace Session

variable (session : Session) {context : Context}

theorem resolution_looks : session.resolution.Looks session.id := by
  intro scene hs
  refine ⟨⟨scene.phase.answer fun resolution => resolution, [], []⟩, ?_, nofun⟩
  apply Finds.of_outcome_after
  intro context hc
  have hphase : context.phase session.id = scene.phase := by
    rw [← hs]
    exact congrArg Scene.phase hc
  rw [resolution_run.1, resolution_run.2, hphase, Context.note_nil]
  exact ⟨rfl, rfl⟩

theorem create_precedes (reader : Reader) (settings : Settings) (given : Option Int) :
    context.Precedes (after (Session.create reader settings given) context) := by
  refine ⟨Nat.le_succ _, fun id hid hd => ?_⟩
  rw [phase_create_of_ne reader settings given (Nat.ne_of_lt hid), hd]

/-- No attribute but its own brings a detached session back. -/
theorem assign_precedes {change : SessionState → SessionState}
    (h : ∀ state : SessionState, state.detached → (change state).detached) :
    context.Precedes (context.assign session.id change) := by
  refine ⟨Nat.le_refl _, fun id _ hd => ?_⟩
  by_cases hid : id = session.id
  · subst hid
    rw [Context.phase_assign, SessionState.phase_eq_detached_iff]
    exact h _ (SessionState.phase_eq_detached_iff.1 hd)
  · rw [Context.phase_assign_of_ne _ _ _ hid, hd]

theorem detach_precedes : context.Precedes (after session.detach context) := by
  rw [detach_run.2]
  exact (session.assign_precedes fun _ _ => rfl).trans (.note _ _ _)

theorem remember_precedes (fault : Fault) :
    context.Precedes (after (session.remember fault) context) := by
  rw [after, remember_run]
  dsimp only
  split
  · exact (Context.Precedes.note context _ _).trans (session.assign_precedes fun _ h => h)
  · exact .refl context

theorem resolve_precedes {resolver : Resolver} (hl : (session.findOut resolver).Leads) :
    context.Precedes (after (session.resolve resolver) context) := by
  by_cases hfresh : context.phase session.id = .fresh
  · have hfound := (hl context).precedes
    rw [after, resolve_of_fresh hfresh]
    cases outcome (session.findOut resolver) context with
    | ok resolution =>
      have hsettle (state : SessionState) (h : state.detached) :
          (state.publish resolution).settle.detached := h
      exact hfound.trans ((session.assign_precedes hsettle).trans (.note _ _ _))
    | error fault => exact hfound.trans (session.remember_precedes fault)
  · obtain ⟨result, hverdict⟩ := SessionPhase.exists_verdict hfresh
    rw [(resolve_of_verdict hverdict).2]
    exact .refl context

/-- A session whose resolution ends well is resolved, and if it was fresh, by what it found out. -/
theorem resolved_of_resolve {resolver : Resolver} (hl : (session.findOut resolver).Leads)
    (h : outcome (session.resolve resolver) context = .ok ()) :
    ∃ resolution, (after (session.resolve resolver) context).phase session.id =
        .resolved resolution ∧
      (context.phase session.id = .fresh →
        outcome (session.findOut resolver) context = .ok resolution) := by
  by_cases hfresh : context.phase session.id = .fresh
  · rw [outcome_resolve_of_fresh hfresh] at h
    cases ho : outcome (session.findOut resolver) context with
    | ok resolution =>
      have hstill : (after (session.findOut resolver) context).phase session.id = .fresh := by
        rw [(hl context).phase, hfresh]
      exact ⟨resolution, phase_resolve_of_found hstill hfresh ho, fun _ => rfl⟩
    | error fault =>
      rw [ho] at h
      cases h
  · obtain ⟨result, hverdict⟩ := SessionPhase.exists_verdict hfresh
    obtain ⟨hresult, hsame⟩ := @resolve_of_verdict session context resolver result hverdict
    rw [hresult] at h
    rw [h] at hverdict
    obtain ⟨resolution, hresolved⟩ := SessionPhase.eq_resolved_of_verdict hverdict
    exact ⟨resolution, by rw [hsame, hresolved], fun h => absurd h hfresh⟩

end Session

end HeapProbe
