import HeapProbe.Proofs.Probe.Outcome

/-! # Findings

Most probes only look: they end in a way that depends on nothing but the debugger's side and the
phase of one session, and all they change is the journal, to which they add. Such a probe has a
finding in every scene: how it ends and what it adds. Findings are put together as probes are, so
that what a long probe finds is worked out without following the context through it.
-/

namespace HeapProbe

def LogLevel.keeps (level : LogLevel) (record : LogRecord) : Bool :=
  level.severity ≤ record.level.severity

/-- Adds calls and records to a journal. Records below the level are not kept. -/
def Journal.extend (journal : Journal) (calls : List DebuggerCall) (records : List LogRecord) :
    Journal :=
  { journal with
    calls := journal.calls ++ calls.toArray
    records := journal.records ++ (records.filter journal.level.keeps).toArray }

def Context.note (context : Context) (calls : List DebuggerCall) (records : List LogRecord) :
    Context :=
  { context with journal := context.journal.extend calls records }

namespace Context

variable (context : Context)

@[simp] theorem note_host (calls : List DebuggerCall) (records : List LogRecord) :
    (context.note calls records).host = context.host := rfl

@[simp] theorem note_sessions (calls : List DebuggerCall) (records : List LogRecord) :
    (context.note calls records).sessions = context.sessions := rfl

@[simp] theorem note_phase (calls : List DebuggerCall) (records : List LogRecord) :
    (context.note calls records).phase = context.phase := rfl

@[simp] theorem note_nil : context.note [] [] = context := by
  simp [note, Journal.extend]

@[simp] theorem note_note (calls calls' : List DebuggerCall) (records records' : List LogRecord) :
    (context.note calls records).note calls' records' =
      context.note (calls ++ calls') (records ++ records') := by
  simp [note, Journal.extend, Array.append_assoc]

end Context

/-- What a looking probe depends on: the debugger's side and the phase of one session. -/
structure Scene where
  host : Host
  session : Nat
  phase : SessionPhase

def Context.scene (context : Context) (session : Nat) : Scene :=
  ⟨context.host, session, context.phase session⟩

/-- What a probe finds in a scene: how it ends and what it adds to the journal. -/
structure Finding (α : Type) where
  outcome : Except Fault α
  calls : List DebuggerCall := []
  records : List LogRecord := []

namespace Finding

variable {α β : Type}

def result (finding : Finding α) (context : Context) : EStateM.Result Fault Context α :=
  match finding.outcome with
  | .ok value => .ok value (context.note finding.calls finding.records)
  | .error fault => .error fault (context.note finding.calls finding.records)

/-- Goes on from a value that was found; a fault is the end. -/
def andThen (finding : Finding α) (next : α → Finding β) : Finding β :=
  match finding.outcome with
  | .ok value =>
    ⟨(next value).outcome, finding.calls ++ (next value).calls,
      finding.records ++ (next value).records⟩
  | .error fault => ⟨.error fault, finding.calls, finding.records⟩

def relabel (finding : Finding α) (word : Fault → Fault) : Finding α :=
  { finding with
    outcome := match finding.outcome with
      | .ok value => .ok value
      | .error fault => .error (word fault) }

@[simp] theorem andThen_ok (value : α) (calls : List DebuggerCall) (records : List LogRecord)
    (next : α → Finding β) :
    (⟨.ok value, calls, records⟩ : Finding α).andThen next =
      ⟨(next value).outcome, calls ++ (next value).calls, records ++ (next value).records⟩ := rfl

@[simp] theorem andThen_error (fault : Fault) (calls : List DebuggerCall)
    (records : List LogRecord) (next : α → Finding β) :
    (⟨.error fault, calls, records⟩ : Finding α).andThen next =
      ⟨.error fault, calls, records⟩ := rfl

theorem records_andThen {finding : Finding α} {next : α → Finding β} (h : finding.records = [])
    (hnext : ∀ value, (next value).records = []) : (finding.andThen next).records = [] := by
  rcases finding with ⟨fault | value, calls, records⟩
  · exact h
  · cases h
    exact hnext value

theorem outcome_andThen {finding : Finding α} {next : α → Finding β} {value : α}
    (h : finding.outcome = .ok value) : (finding.andThen next).outcome = (next value).outcome := by
  rw [andThen, h]

def FaultsAre (finding : Finding α) (kind : Fault → Prop) : Prop :=
  ∀ fault, finding.outcome = .error fault → kind fault

theorem FaultsAre.andThen {finding : Finding α} {next : α → Finding β} {kind : Fault → Prop}
    (h : finding.FaultsAre kind) (hnext : ∀ value, (next value).FaultsAre kind) :
    (finding.andThen next).FaultsAre kind := by
  rcases finding with ⟨fault | value, calls, records⟩
  · intro fault' hf
    exact h fault' (by simpa using hf)
  · exact hnext value

end Finding

namespace Probe

variable {α β : Type} {scene : Scene}

/-- In every context of the scene the probe ends as it finds, and adds to the journal no more than
it finds. -/
def Finds (probe : Probe α) (scene : Scene) (finding : Finding α) : Prop :=
  ∀ context : Context, context.scene scene.session = scene → probe context = finding.result context

theorem scene_note {context : Context} (h : context.scene scene.session = scene)
    (calls : List DebuggerCall) (records : List LogRecord) :
    (context.note calls records).scene scene.session = scene := h

namespace Finds

theorem outcome_eq {probe : Probe α} {finding : Finding α} (h : probe.Finds scene finding)
    {context : Context} (hc : context.scene scene.session = scene) :
    outcome probe context = finding.outcome := by
  rcases finding with ⟨_ | _, calls, records⟩ <;> simp [outcome, h context hc, Finding.result]

theorem after_eq {probe : Probe α} {finding : Finding α} (h : probe.Finds scene finding)
    {context : Context} (hc : context.scene scene.session = scene) :
    after probe context = context.note finding.calls finding.records := by
  rcases finding with ⟨_ | _, calls, records⟩ <;> simp [after, h context hc, Finding.result]

theorem ok {probe : Probe α} {value : α} {calls : List DebuggerCall} {records : List LogRecord}
    (h : probe.Finds scene ⟨.ok value, calls, records⟩) {context : Context}
    (hc : context.scene scene.session = scene) :
    probe context = .ok value (context.note calls records) := h context hc

theorem error {probe : Probe α} {fault : Fault} {calls : List DebuggerCall}
    {records : List LogRecord} (h : probe.Finds scene ⟨.error fault, calls, records⟩)
    {context : Context} (hc : context.scene scene.session = scene) :
    probe context = .error fault (context.note calls records) := h context hc

/-- A finding is settled by how the probe ends and what it leaves behind. -/
theorem of_outcome_after {probe : Probe α} {finding : Finding α}
    (h : ∀ context : Context, context.scene scene.session = scene →
      outcome probe context = finding.outcome ∧
        after probe context = context.note finding.calls finding.records) :
    probe.Finds scene finding := by
  intro context hc
  obtain ⟨ho, ha⟩ := h context hc
  rcases finding with ⟨_ | _, calls, records⟩
  · exact eq_error_iff.2 ⟨ho, ha⟩
  · exact eq_ok_iff.2 ⟨ho, ha⟩

theorem congr {probe : Probe α} {finding finding' : Finding α} (h : probe.Finds scene finding)
    (he : finding = finding') : probe.Finds scene finding' := he ▸ h

protected theorem pure (value : α) : (pure value : Probe α).Finds scene ⟨.ok value, [], []⟩ := by
  intro context _
  simp [Finding.result]
  rfl

protected theorem throw (fault : Fault) :
    (throw fault : Probe α).Finds scene ⟨.error fault, [], []⟩ := by
  intro context _
  simp [Finding.result]
  rfl

protected theorem bind {probe : Probe α} {finding : Finding α} {next : α → Probe β}
    {later : α → Finding β} (h : probe.Finds scene finding)
    (hnext : ∀ value, finding.outcome = .ok value → (next value).Finds scene (later value)) :
    (probe >>= next).Finds scene (finding.andThen later) := by
  apply of_outcome_after
  intro context hc
  rw [outcome_bind, after_bind, h.outcome_eq hc, h.after_eq hc]
  rcases finding with ⟨fault | value, calls, records⟩
  · simp
  · have hv := hnext value rfl
    simp [hv.outcome_eq (scene_note hc calls records), hv.after_eq (scene_note hc calls records)]

theorem bind_of_ok {probe : Probe α} {value : α} {calls : List DebuggerCall}
    {records : List LogRecord} {next : α → Probe β} {finding : Finding β}
    (h : probe.Finds scene ⟨.ok value, calls, records⟩) (hnext : (next value).Finds scene finding) :
    (probe >>= next).Finds scene
      ⟨finding.outcome, calls ++ finding.calls, records ++ finding.records⟩ := by
  have hlater : ∀ value', (Except.ok value : Except Fault α) = .ok value' →
      (next value').Finds scene finding := by
    rintro _ ⟨⟩
    exact hnext
  exact h.bind hlater

/-- A value that is had without a trace can be taken for granted. -/
theorem bind_of_pure {probe : Probe α} {value : α} {next : α → Probe β} {finding : Finding β}
    (h : probe.Finds scene ⟨.ok value, [], []⟩) (hnext : (next value).Finds scene finding) :
    (probe >>= next).Finds scene finding := h.bind_of_ok hnext

theorem bind_of_error {probe : Probe α} {fault : Fault} {calls : List DebuggerCall}
    {records : List LogRecord} {next : α → Probe β}
    (h : probe.Finds scene ⟨.error fault, calls, records⟩) :
    (probe >>= next).Finds scene ⟨.error fault, calls, records⟩ :=
  fun context hc => Probe.bind_of_error (h context hc)

protected theorem attempt {probe : Probe α} {finding : Finding α} (h : probe.Finds scene finding) :
    Finds (attempt probe) scene ⟨.ok finding.outcome, finding.calls, finding.records⟩ := by
  apply of_outcome_after
  intro context hc
  simp [h.outcome_eq hc, h.after_eq hc]

protected theorem relabel {probe : Probe α} {finding : Finding α} (h : probe.Finds scene finding)
    (word : Fault → Fault) : (relabel probe word).Finds scene (finding.relabel word) := by
  apply of_outcome_after
  intro context hc
  rw [outcome_relabel, after_relabel, h.outcome_eq hc, h.after_eq hc]
  exact ⟨rfl, rfl⟩

protected theorem ofExcept (result : Except Fault α) :
    (ofExcept result).Finds scene ⟨result, [], []⟩ := by
  apply of_outcome_after
  intro context _
  simp

protected theorem require (condition : Prop) [Decidable condition] (fault : Fault) :
    (require condition fault).Finds scene
      ⟨if condition then .ok () else .error fault, [], []⟩ := by
  unfold Probe.require
  split
  · exact .pure ()
  · exact .throw fault

protected theorem call (request : DebuggerCall) :
    (call request).Finds scene ⟨.ok (), [request], []⟩ := by
  intro context _
  simp [Probe.call, Finding.result, Context.note, Journal.extend, Journal.addCall]
  rfl

protected theorem log (level : LogLevel) (source : LogSource) (message : String) :
    (log level source message).Finds scene ⟨.ok (), [], [⟨level, source, message⟩]⟩ := by
  intro context _
  change EStateM.Result.ok () { context with journal := context.journal.log _ } = _
  by_cases h : context.journal.level.severity ≤ level.severity <;>
    simp [Finding.result, Context.note, Journal.extend, Journal.log, LogLevel.keeps, h]

protected theorem host : host.Finds scene ⟨.ok scene.host, [], []⟩ := by
  intro context hc
  have hh : context.host = scene.host := congrArg Scene.host hc
  simp [Finding.result, ← hh]
  rfl

end Finds

end Probe

end HeapProbe
