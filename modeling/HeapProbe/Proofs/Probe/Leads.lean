import HeapProbe.Proofs.Probe.Finding

/-! # What stays as it is

Of all calls that a debugger receives, three move what is owned: a debugger is created or destroyed,
or a process is let go. They are kept in a ledger. A probe leads on if it adds nothing to the ledger
and leaves the sessions, the images and the bindings as they are; whatever else it calls, logs or
learns does not count.
-/

namespace HeapProbe

def DebuggerCall.isDebugger : DebuggerCall → Bool
  | .create | .destroy => true
  | _ => false

def DebuggerCall.isDetach : DebuggerCall → Bool
  | .detach _ => true
  | _ => false

/-- The calls that move what is owned. -/
def DebuggerCall.isMove (call : DebuggerCall) : Bool := call.isDebugger || call.isDetach

theorem DebuggerCall.isDetach_eq_false {call : DebuggerCall} (h : call.isMove = false) :
    call.isDetach = false := (Bool.or_eq_false_iff.1 h).2

namespace Context

/-- The calls that moved what is owned, in order. -/
def ledger (context : Context) : List DebuggerCall :=
  context.journal.calls.toList.filter DebuggerCall.isMove

theorem ledger_note (context : Context) (calls : List DebuggerCall) (records : List LogRecord) :
    (context.note calls records).ledger = context.ledger ++ calls.filter DebuggerCall.isMove := by
  simp [ledger, note, Journal.extend]

def detaches (context : Context) : List DebuggerCall :=
  context.journal.calls.toList.filter DebuggerCall.isDetach

theorem detaches_eq (context : Context) :
    context.detaches = context.ledger.filter DebuggerCall.isDetach := by
  unfold detaches ledger
  rw [List.filter_filter]
  congr 1
  funext call
  cases h : call.isDetach <;> simp [DebuggerCall.isMove, h]

theorem detaches_note (context : Context) (calls : List DebuggerCall) (records : List LogRecord) :
    (context.note calls records).detaches =
      context.detaches ++ calls.filter DebuggerCall.isDetach := by
  simp [detaches, note, Journal.extend]

/-- One context leads to another: nothing was moved in between. -/
structure Leads (before after : Context) : Prop where
  bindings : after.host.bindings = before.host.bindings
  images : after.host.images = before.host.images
  sessionCount : after.sessionCount = before.sessionCount
  sessions : after.sessions = before.sessions
  ledger : after.ledger = before.ledger

namespace Leads

theorem refl (context : Context) : context.Leads context := ⟨rfl, rfl, rfl, rfl, rfl⟩

theorem phase {before after : Context} (h : before.Leads after) : after.phase = before.phase := by
  funext session
  exact congrArg SessionState.phase (congrFun h.sessions session)

theorem trans {first second third : Context} (h : first.Leads second) (h' : second.Leads third) :
    first.Leads third where
  bindings := h'.bindings.trans h.bindings
  images := h'.images.trans h.images
  sessionCount := h'.sessionCount.trans h.sessionCount
  sessions := h'.sessions.trans h.sessions
  ledger := h'.ledger.trans h.ledger

theorem note (context : Context) {calls : List DebuggerCall} (records : List LogRecord)
    (h : ∀ call ∈ calls, call.isMove = false) : context.Leads (context.note calls records) where
  bindings := rfl
  images := rfl
  sessionCount := rfl
  sessions := rfl
  ledger := by
    have hnone : calls.filter DebuggerCall.isMove = [] := by
      rw [List.filter_eq_nil_iff]
      intro call hc
      simp [h call hc]
    rw [ledger_note, hnone, List.append_nil]

end Leads

end Context

namespace Probe

variable {α β : Type}

def Leads (probe : Probe α) : Prop :=
  ∀ context : Context, context.Leads (after probe context)

/-- The probe only looks, at the debugger's side and at one session: in every scene of the session it
finds something, and it moves nothing. -/
def Looks (probe : Probe α) (session : Nat) : Prop :=
  ∀ scene : Scene, scene.session = session → ∃ finding, probe.Finds scene finding ∧
    ∀ call ∈ finding.calls, call.isMove = false

namespace Looks

variable {session : Nat}

theorem leads {probe : Probe α} (h : probe.Looks session) : probe.Leads := by
  intro context
  obtain ⟨finding, hf, hcalls⟩ := h (context.scene session) rfl
  rw [hf.after_eq rfl]
  exact .note context finding.records hcalls

theorem scene_after {probe : Probe α} (h : probe.Looks session) (context : Context) :
    (after probe context).scene session = context.scene session := by
  obtain ⟨finding, hf, -⟩ := h (context.scene session) rfl
  rw [hf.after_eq rfl]
  rfl

/-- A probe that only looks ends alike wherever the scene is the same. -/
theorem outcome_eq {probe : Probe α} (h : probe.Looks session) {context context' : Context}
    (hs : context'.scene session = context.scene session) :
    outcome probe context' = outcome probe context := by
  obtain ⟨finding, hf, -⟩ := h (context.scene session) rfl
  rw [hf.outcome_eq hs, hf.outcome_eq rfl]

protected theorem pure (value : α) : (pure value : Probe α).Looks session :=
  fun _ _ => ⟨_, .pure value, nofun⟩

protected theorem throw (fault : Fault) : (throw fault : Probe α).Looks session :=
  fun _ _ => ⟨_, .throw fault, nofun⟩

protected theorem bind {probe : Probe α} {next : α → Probe β} (h : probe.Looks session)
    (hnext : ∀ value, (next value).Looks session) : (probe >>= next).Looks session := by
  intro scene hs
  obtain ⟨⟨result, calls, records⟩, hf, hcalls⟩ := h scene hs
  cases result with
  | error fault => exact ⟨_, hf.bind_of_error, hcalls⟩
  | ok value =>
    obtain ⟨later, hlater, hmoves⟩ := hnext value scene hs
    refine ⟨_, hf.bind_of_ok hlater, fun call hc => ?_⟩
    exact (List.mem_append.1 hc).elim (hcalls call) (hmoves call)

protected theorem host : host.Looks session := fun _ _ => ⟨_, .host, nofun⟩

protected theorem ofExcept (result : Except Fault α) : (Probe.ofExcept result).Looks session :=
  fun _ _ => ⟨_, .ofExcept result, nofun⟩

protected theorem require (condition : Prop) [Decidable condition] (fault : Fault) :
    (require condition fault).Looks session := fun _ _ => ⟨_, .require condition fault, nofun⟩

protected theorem call {request : DebuggerCall} (h : request.isMove = false) :
    (call request).Looks session := fun _ _ => ⟨_, .call request, by simpa using h⟩

protected theorem log (level : LogLevel) (source : LogSource) (message : String) :
    (log level source message).Looks session := fun _ _ => ⟨_, .log level source message, nofun⟩

protected theorem image (index : Nat) : (image index).Looks session :=
  Looks.host.bind fun _ => .pure _

protected theorem needBindings : needBindings.Looks session :=
  Looks.host.bind fun _ => .require _ _

protected theorem needBindingsFor (needed : Bool) : (needBindingsFor needed).Looks session := by
  cases needed with
  | true => exact .needBindings
  | false => exact .pure ()

end Looks

/-- In the context the probe ends in this way, and it only looks. -/
structure Reveals (probe : Probe α) (session : Nat) (context : Context) (result : Except Fault α) :
    Prop where
  looks : probe.Looks session
  outcome : outcome probe context = result

namespace Reveals

variable {session : Nat} {context : Context}

theorem of_looks {probe : Probe α} (h : probe.Looks session) :
    probe.Reveals session context (Probe.outcome probe context) := ⟨h, rfl⟩

protected theorem pure (value : α) : (pure value : Probe α).Reveals session context (.ok value) :=
  ⟨.pure value, rfl⟩

protected theorem ofExcept (result : Except Fault α) :
    (Probe.ofExcept result).Reveals session context result := ⟨.ofExcept result, by simp⟩

protected theorem require (condition : Prop) [Decidable condition] (fault : Fault) :
    (require condition fault).Reveals session context
      (if condition then .ok () else .error fault) := by
  refine ⟨.require condition fault, ?_⟩
  unfold Probe.require
  split <;> rfl

/-- What comes after a look ends as it would have ended in its place. -/
protected theorem bind {probe : Probe α} {next : α → Probe β} {result : Except Fault α}
    {later : α → Except Fault β} (h : probe.Reveals session context result)
    (hnext : ∀ value, (next value).Reveals session context (later value)) :
    (probe >>= next).Reveals session context (result.bind later) := by
  refine ⟨h.looks.bind fun value => (hnext value).looks, ?_⟩
  rw [outcome_bind, h.outcome]
  cases result with
  | error fault => rfl
  | ok value =>
    dsimp only
    rw [(hnext value).looks.outcome_eq (h.looks.scene_after context), (hnext value).outcome]
    rfl

end Reveals

namespace Leads

protected theorem pure (value : α) : (pure value : Probe α).Leads := fun context => .refl context

protected theorem throw (fault : Fault) : (throw fault : Probe α).Leads :=
  fun context => .refl context

protected theorem bind {probe : Probe α} {next : α → Probe β} (h : probe.Leads)
    (hnext : ∀ value, (next value).Leads) : (probe >>= next).Leads := by
  intro context
  have hfirst := h context
  rw [after_bind]
  cases outcome probe context with
  | error fault => exact hfirst
  | ok value => exact hfirst.trans (hnext value _)

protected theorem host : host.Leads := fun context => .refl context

protected theorem call {request : DebuggerCall} (h : request.isMove = false) :
    (call request).Leads := (Looks.call h : Looks _ 0).leads

protected theorem log (level : LogLevel) (source : LogSource) (message : String) :
    (log level source message).Leads := (Looks.log level source message : Looks _ 0).leads

end Leads

end Probe

end HeapProbe
