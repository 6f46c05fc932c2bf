import HeapProbe.Proofs.Memory.View
import HeapProbe.Proofs.Session.Phase
import HeapProbe.Proofs.Target.Lookup

/-! # The life of a session

A session is settled by its first resolution, or by a detach before it. From then on every
resolution ends as the first did and looks at nothing, until a detach settles the session for good.
What becomes of a session is read off its phase: no call but the first resolution and a detach moves
it, over however many calls and whatever happens to the target between them.
-/

namespace HeapProbe

open Probe

def Context.on (context : Context) (host : Host) : Context := { context with host }

@[simp] theorem Context.on_sessions (context : Context) (host : Host) :
    (context.on host).sessions = context.sessions := rfl

@[simp] theorem Context.on_phase (context : Context) (host : Host) :
    (context.on host).phase = context.phase := rfl

namespace Session

variable (session : Session)

inductive Call where
  | resolve (resolver : Resolver)
  | detach
  | heap
  | ask {α : Type} (part : Resolution → α)
  | isResolved

namespace Call

def isDetach : Call → Bool
  | .detach => true
  | _ => false

def isResolve : Call → Bool
  | .resolve _ => true
  | _ => false

def perform (session : Session) : Call → Probe Unit
  | .resolve resolver => session.resolve resolver
  | .detach => session.detach
  | .heap => do let _ ← session.heap
  | .ask part => do let _ ← session.ask part
  | .isResolved => do let _ ← session.isResolved

end Call

structure Turn where
  host : Host
  call : Call

def turn (context : Context) (turn : Turn) : Context :=
  after (turn.call.perform session) (context.on turn.host)

/-- Calls made one after the other, each over a target that may have changed since the last. -/
def run (turns : List Turn) (context : Context) : Context := turns.foldl session.turn context

@[simp] theorem run_cons (first : Turn) (rest : List Turn) (context : Context) :
    session.run (first :: rest) context = session.run rest (session.turn context first) := rfl

theorem run_append (before later : List Turn) (context : Context) :
    session.run (before ++ later) context = session.run later (session.run before context) := by
  simp [run]

/-- A source keeps its promise to a session: as long as its host is available it fails only with
faults of the inspection, and it leaves the session as it is. -/
def Promised {α : Type} (available : Host → Prop) (probe : Probe α) : Prop :=
  ∀ context : Context, available context.host →
    (∀ fault, outcome probe context = .error fault → fault.isInspection) ∧
    (after probe context).phase session.id = context.phase session.id ∧
    available (after probe context).host

namespace Promised

variable {session} {available : Host → Prop} {α β : Type}

protected theorem pure (value : α) : session.Promised available (pure value : Probe α) := by
  intro context ha
  simp [ha]

protected theorem bind {probe : Probe α} {next : α → Probe β}
    (h : session.Promised available probe)
    (hnext : ∀ value, session.Promised available (next value)) :
    session.Promised available (probe >>= next) := by
  intro context ha
  obtain ⟨hf, hp, ha'⟩ := h context ha
  rw [outcome_bind, after_bind]
  cases ho : outcome probe context with
  | error fault =>
    refine ⟨?_, hp, ha'⟩
    rintro _ ⟨⟩
    exact hf fault ho
  | ok value =>
    obtain ⟨hf', hp', ha''⟩ := hnext value _ ha'
    exact ⟨hf', hp'.trans hp, ha''⟩

protected theorem ofExcept {result : Except Fault α}
    (h : ∀ fault, result = .error fault → fault.isInspection) :
    session.Promised available (Probe.ofExcept result) := by
  intro context ha
  simpa [ha] using h

theorem of_finds {probe : Probe α}
    (h : ∀ scene : Scene, available scene.host → ∃ finding, probe.Finds scene finding ∧
      finding.FaultsAre (·.isInspection)) : session.Promised available probe := by
  intro context ha
  obtain ⟨finding, hf, hkind⟩ := h (context.scene session.id) ha
  rw [hf.outcome_eq rfl, hf.after_eq rfl]
  exact ⟨hkind, rfl, ha⟩

end Promised

/-- The sources of a resolution: a resolver, and the words of the session's reader. -/
structure Sources (available : Host → Prop) (resolver : Resolver) : Prop where
  types : ∀ name, session.Promised available (resolver.lookupType name)
  symbols : ∀ name, session.Promised available (resolver.lookupSymbol name)
  words : ∀ address, session.Promised available (session.reader.readWord address)

/-- What rests on a debugger keeps its promise for as long as the bindings are loaded. -/
theorem Sources.of_debugger {session : Session} {inferior : Inferior} {kept : Int}
    (hr : session.reader = inferior.readerOfSize kept) (target : Target) :
    session.Sources (fun host => host.bindings) target.resolver where
  types name := .of_finds fun _ _ => ⟨_, .lookupType target name, Target.typeFinding_faults⟩
  symbols name := .of_finds fun _ hb => ⟨_, .lookupSymbol hb target name,
    Target.symbolFinding_faults⟩
  words address := by
    rw [hr]
    refine .of_finds fun scene hb => ?_
    let view : View := ⟨inferior, kept, scene.host⟩
    refine ⟨view.word address, @Probe.Finds.word scene view rfl address, fun fault h => ?_⟩
    rcases view.fault_of_finding h with ⟨hno, -⟩ | ⟨-, failure, rfl⟩
    · rw [hb] at hno
      cases hno
    · rfl

section Resolution

variable {session} {available : Host → Prop} {resolver : Resolver}

theorem isInspection_of_pick {n : Nat} {typeName : String} {fields : FieldOffsets}
    {names : Vector String n} {fault : Fault}
    (h : fields.pick typeName names = .error fault) : fault.isInspection := by
  unfold FieldOffsets.pick at h
  split at h <;> cases h
  rfl

theorem Sources.pickFrom (h : session.Sources available resolver) {n : Nat} (typeName : String)
    (names : Vector String n) :
    session.Promised available (pickFrom resolver typeName names) :=
  (h.types typeName).bind fun _ => .ofExcept fun _ => isInspection_of_pick

theorem Sources.wordOr (h : session.Sources available resolver) (given : Option Int)
    (symbol : String) : session.Promised available (session.wordOr resolver given symbol) := by
  cases given with
  | some word => exact .pure word
  | none => exact (h.symbols symbol).bind h.words

theorem Sources.findOut (h : session.Sources available resolver) :
    session.Promised available (session.findOut resolver) :=
  (h.pickFrom _ _).bind fun _ => (h.pickFrom _ _).bind fun _ => (h.pickFrom _ _).bind fun _ =>
    (h.wordOr _ _).bind fun _ => (h.wordOr _ _).bind fun _ => .pure _

end Resolution

/-- A resolution ends in this way and leaves everything as it is, on whatever host and whatever it is
given to look at. -/
def Settled (context : Context) (result : Except Fault Unit) : Prop :=
  ∀ (host : Host) (reader : Reader) (resolver : Resolver),
    outcome (Session.resolve { session with reader } resolver) (context.on host) = result ∧
      after (Session.resolve { session with reader } resolver) (context.on host) = context.on host

section Phases

variable {session} {available : Host → Prop} {context : Context}

theorem settled_of_verdict {result : Except Fault Unit}
    (h : (context.phase session.id).verdict = some result) : session.Settled context result := by
  intro host reader resolver
  exact @resolve_of_verdict { session with reader } (context.on host) resolver result h

/-- A resolution settles the session by the way it ends. -/
theorem verdict_of_resolve {resolver : Resolver} (hs : session.Sources available resolver)
    (ha : available context.host) :
    ((after (session.resolve resolver) context).phase session.id).verdict =
      some (outcome (session.resolve resolver) context) := by
  obtain ⟨hf, hsame, -⟩ := hs.findOut context ha
  by_cases hfresh : context.phase session.id = .fresh
  · have hstill := hsame.trans hfresh
    rw [outcome_resolve_of_fresh hfresh]
    cases ho : outcome (session.findOut resolver) context with
    | ok resolution =>
      rw [phase_resolve_of_found hstill hfresh ho]
      rfl
    | error fault =>
      rw [phase_resolve_of_blamed hstill hfresh ho (hf fault ho)]
      rfl
  · obtain ⟨result, hverdict⟩ := SessionPhase.exists_verdict hfresh
    obtain ⟨hresult, hsame⟩ := @resolve_of_verdict session context resolver result hverdict
    rw [hresult, hsame, hverdict]

theorem after_discard {α : Type} (probe : Probe α) :
    after (do let _ ← probe) context = after probe context := by
  rw [after_bind]
  cases outcome probe context <;> rfl

/-- Apart from a detach and a first resolution no call assigns anything. -/
theorem sessions_turn {turn : Turn} (hd : turn.call.isDetach = false)
    (h : turn.call.isResolve = false ∨ context.phase session.id ≠ .fresh) :
    (session.turn context turn).sessions session.id = context.sessions session.id := by
  obtain ⟨host, call⟩ := turn
  unfold Session.turn
  cases call with
  | detach => cases hd
  | heap => rw [Call.perform, after_discard, heap_run.2, Context.on_sessions]
  | ask part => rw [Call.perform, after_discard, (ask_run part).2, Context.on_sessions]
  | isResolved => rw [Call.perform, after_discard, isResolved_run.2, Context.on_sessions]
  | resolve resolver =>
    have hne : context.phase session.id ≠ .fresh := h.resolve_left nofun
    obtain ⟨result, hv⟩ := SessionPhase.exists_verdict hne
    rw [Call.perform, (settled_of_verdict hv host session.reader resolver).2, Context.on_sessions]

theorem phase_turn {turn : Turn} (hd : turn.call.isDetach = false)
    (h : turn.call.isResolve = false ∨ context.phase session.id ≠ .fresh) :
    (session.turn context turn).phase session.id = context.phase session.id :=
  congrArg SessionState.phase (sessions_turn hd h)

theorem sessions_turn_of_detach {turn : Turn} (hd : turn.call.isDetach) :
    (session.turn context turn).sessions session.id = (context.sessions session.id).detach := by
  obtain ⟨host, call⟩ := turn
  cases call <;> cases hd
  rw [Session.turn, Call.perform, detach_run.2, Context.note_sessions, Context.sessions_assign]
  rfl

theorem phase_turn_of_detach {turn : Turn} (hd : turn.call.isDetach) :
    (session.turn context turn).phase session.id = .detached := by
  rw [Context.phase, sessions_turn_of_detach hd, SessionState.phase_detach]

end Phases

section Runs

variable {session}

/-- Once settled, a session stays as it is until it is detached. -/
theorem phase_run_of_settled {turns : List Turn} {context : Context}
    (hd : ∀ turn ∈ turns, turn.call.isDetach = false)
    (hne : context.phase session.id ≠ .fresh) :
    (session.run turns context).phase session.id = context.phase session.id := by
  induction turns generalizing context with
  | nil => rfl
  | cons first rest ih =>
    have hfirst : (session.turn context first).phase session.id = context.phase session.id :=
      phase_turn (hd first (by simp)) (.inr hne)
    rw [run_cons, ih (fun turn ht => hd turn (by simp [ht])) (by rwa [hfirst]), hfirst]

theorem phase_run_of_detached {turns : List Turn} {context : Context}
    (h : context.phase session.id = .detached) :
    (session.run turns context).phase session.id = .detached := by
  induction turns generalizing context with
  | nil => exact h
  | cons first rest ih =>
    apply ih
    by_cases hd : first.call.isDetach
    · exact phase_turn_of_detach hd
    · rw [phase_turn (by simpa using hd) (.inr (by simp [h])), h]

theorem phase_run_ne_fresh {turns : List Turn} {context : Context}
    (hne : context.phase session.id ≠ .fresh) :
    (session.run turns context).phase session.id ≠ .fresh := by
  induction turns generalizing context with
  | nil => exact hne
  | cons first rest ih =>
    apply ih
    by_cases hd : first.call.isDetach
    · simp [phase_turn_of_detach hd]
    · rwa [phase_turn (by simpa using hd) (.inr hne)]

end Runs

/-- A turn in which everything that a session is given keeps its promise. -/
structure Turn.Kept (turn : Turn) (session : Session) (available : Host → Prop) : Prop where
  host : available turn.host
  sources : ∀ resolver, turn.call = .resolve resolver → session.Sources available resolver

/-- What the session answers when it is asked for its heap and for the four things it found out. -/
def Answers (context : Context) (good : ∀ α : Type, Except Fault α → Prop) : Prop :=
  good Heap (outcome session.heap context) ∧
    good HeapLayout (outcome (session.ask Resolution.heapLayout) context) ∧
    good RegionLayout (outcome (session.ask Resolution.regionLayout) context) ∧
    good Int (outcome (session.ask Resolution.heapAddress) context) ∧
    good Int (outcome (session.ask Resolution.regionSizeBytes) context)

variable {session}

/-- A session is resolved exactly if it answers, and otherwise it blames its state. -/
theorem isResolved_or_refuses (context : Context) :
    (outcome session.isResolved context = .ok true ∧
        session.Answers context fun _ answer => answer.isOk) ∨
      (outcome session.isResolved context = .ok false ∧
        session.Answers context fun _ answer =>
          ∃ fault, answer = .error fault ∧ fault.isSessionState) := by
  unfold Answers
  simp only [isResolved_run.1, heap_run.1, (ask_run _).1]
  cases context.phase session.id with
  | resolved resolution => exact .inl ⟨rfl, rfl, rfl, rfl, rfl, rfl⟩
  | fresh =>
    exact .inr ⟨rfl, ⟨_, rfl, rfl⟩, ⟨_, rfl, rfl⟩, ⟨_, rfl, rfl⟩, ⟨_, rfl, rfl⟩, ⟨_, rfl, rfl⟩⟩
  | failed failure =>
    exact .inr ⟨rfl, ⟨_, rfl, rfl⟩, ⟨_, rfl, rfl⟩, ⟨_, rfl, rfl⟩, ⟨_, rfl, rfl⟩, ⟨_, rfl, rfl⟩⟩
  | detached =>
    exact .inr ⟨rfl, ⟨_, rfl, rfl⟩, ⟨_, rfl, rfl⟩, ⟨_, rfl, rfl⟩, ⟨_, rfl, rfl⟩, ⟨_, rfl, rfl⟩⟩

theorem Turn.Kept.verdict_turn {available : Host → Prop} {host : Host} {resolver : Resolver}
    (hkept : Turn.Kept ⟨host, .resolve resolver⟩ session available) (context : Context) :
    ((session.turn context ⟨host, .resolve resolver⟩).phase session.id).verdict =
      some (outcome (session.resolve resolver) (context.on host)) :=
  verdict_of_resolve (hkept.sources resolver rfl) hkept.host

/-- **The life of a session.** Over every sequence of calls, on hosts that may change between them,
a session whose sources keep their promise is resolved at most once: a second resolution looks at
nothing, and before a detach it ends as the first did. In each state the session either is resolved
and answers, or is not and blames its state. What it answers never changes between a successful
resolution and a detach, and after a detach it is never resolved again. -/
theorem lifecycle_of_turns {available : Host → Prop} (start : Context) (turns : List Turn)
    (hkept : ∀ turn ∈ turns, turn.Kept session available) :
    let now := session.run turns start
    ((∃ turn ∈ turns, turn.call.isResolve) → ∃ result, session.Settled now result) ∧
    (∀ before host resolver between, turns = before ++ ⟨host, .resolve resolver⟩ :: between →
      (∀ turn ∈ between, turn.call.isDetach = false) →
      session.Settled now
        (outcome (session.resolve resolver) ((session.run before start).on host))) ∧
    ((outcome session.isResolved now = .ok true ∧
        session.Answers now fun _ answer => answer.isOk) ∨
      (outcome session.isResolved now = .ok false ∧
        session.Answers now fun _ answer =>
          ∃ fault, answer = .error fault ∧ fault.isSessionState)) ∧
    (∀ before host resolver between, turns = before ++ ⟨host, .resolve resolver⟩ :: between →
      (∀ turn ∈ between, turn.call.isDetach = false) →
      outcome (session.resolve resolver) ((session.run before start).on host) = .ok () →
      ∃ resolution : Resolution, ∀ {α : Type} (part : Resolution → α),
        outcome (session.ask part)
            (session.turn (session.run before start) ⟨host, .resolve resolver⟩) =
          .ok (part resolution) ∧
        outcome (session.ask part) now = .ok (part resolution)) ∧
    ((∃ turn ∈ turns, turn.call.isDetach) →
      outcome session.isResolved now = .ok false ∧
        session.Settled now (.error .sessionDetached)) := by
  intro now
  have hnow {before later : List Turn} {turn : Turn} (hsplit : turns = before ++ turn :: later) :
      now = session.run later (session.turn (session.run before start) turn) := by
    rw [← run_cons, ← run_append, ← hsplit]
  have hverdict {before between : List Turn} {host : Host} {resolver : Resolver}
      (hsplit : turns = before ++ ⟨host, .resolve resolver⟩ :: between) :=
    (hkept ⟨host, .resolve resolver⟩ (by simp [hsplit])).verdict_turn (session.run before start)
  refine ⟨?_, ?_, isResolved_or_refuses now, ?_, ?_⟩
  · rintro ⟨⟨host, call⟩, hmem, hr⟩
    obtain ⟨before, later, hsplit⟩ := List.append_of_mem hmem
    cases call <;> cases hr
    obtain ⟨result, hv⟩ : ∃ result, (now.phase session.id).verdict = some result := by
      apply SessionPhase.exists_verdict
      rw [hnow hsplit]
      exact phase_run_ne_fresh (SessionPhase.ne_fresh_of_verdict (hverdict hsplit))
    exact ⟨result, settled_of_verdict hv⟩
  · intro before host resolver between hsplit hd
    have hv := hverdict hsplit
    apply settled_of_verdict
    rw [hnow hsplit, phase_run_of_settled hd (SessionPhase.ne_fresh_of_verdict hv), hv]
  · intro before host resolver between hsplit hd hok
    have hv := hverdict hsplit
    rw [hok] at hv
    obtain ⟨resolution, hr⟩ := SessionPhase.eq_resolved_of_verdict hv
    refine ⟨resolution, fun part => ?_⟩
    simp only [(ask_run part).1]
    rw [hnow hsplit, phase_run_of_settled hd (SessionPhase.ne_fresh_of_verdict hv), hr]
    exact ⟨rfl, rfl⟩
  · rintro ⟨turn, hmem, hd⟩
    obtain ⟨before, later, hsplit⟩ := List.append_of_mem hmem
    have hp : now.phase session.id = .detached := by
      rw [hnow hsplit]
      exact phase_run_of_detached (phase_turn_of_detach hd)
    constructor
    · rw [isResolved_run.1, hp]
      rfl
    · apply settled_of_verdict
      rw [hp]
      rfl

def firstSession : Session := ⟨0, Inferior.readerOfSize ⟨0, ⟨some 0⟩⟩ 8, {}, none⟩

/-- A failed resolution is final, even if the debug information turns up later. -/
theorem resolve_again_after_failure :
    outcome (firstSession.resolve (Target.resolver ⟨some 0⟩))
        ((firstSession.run [⟨{ images := [{ classes := [] }] }, .resolve (Target.resolver ⟨some 0⟩)⟩,
          ⟨{}, .isResolved⟩] {}).on { images := [{}] }) =
      .error (.missing "ShenandoahHeap" [] (some (.unknownType "ShenandoahHeap"))) := by
  let first : Turn := ⟨{ images := [{ classes := [] }] }, .resolve (Target.resolver ⟨some 0⟩)⟩
  have hkept : ∀ turn ∈ [first, ⟨{}, .isResolved⟩],
      turn.Kept firstSession fun host => host.bindings := by
    intro turn ht
    simp only [List.mem_cons, List.not_mem_nil, or_false] at ht
    rcases ht with rfl | rfl
    · refine ⟨rfl, fun resolver hr => ?_⟩
      cases hr
      exact .of_debugger rfl ⟨some 0⟩
    · exact ⟨rfl, nofun⟩
  have h := (lifecycle_of_turns {} _ hkept).2.1 [] _ _ [⟨{}, .isResolved⟩] rfl
    (by simp [Call.isDetach])
  exact (h { images := [{}] } firstSession.reader _).1

end Session

end HeapProbe
