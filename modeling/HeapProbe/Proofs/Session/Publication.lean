import HeapProbe.Proofs.Inspector.Step
import HeapProbe.Proofs.Probe.Keeps
import HeapProbe.Proofs.Session.Lifecycle

/-! # What a resolution publishes

The two layouts, the heap's address and the size of a region are assigned one after the other, and
still they are published together or not at all: the steps that can fail come before the first
assignment. What a failed resolution leaves behind depends on whose fault it was. A fault of the
inspection settles the session for good. Any other passes through, every attribute stays as it was,
and the next resolution is again a first one.
-/

namespace HeapProbe

open Probe

namespace SessionState

variable (given : Option Int) (state : SessionState)

/-- Nothing is set but the address that was given. -/
structure Bare : Prop where
  heapLayout : state.heapLayout = none
  regionLayout : state.regionLayout = none
  heapAddress : state.heapAddress = given
  regionSizeBytes : state.regionSizeBytes = none

/-- All four values are set, of which a detach clears the layouts. -/
structure Full (resolution : Resolution) : Prop where
  heapLayout : state.heapLayout = if state.detached then none else some resolution.heapLayout
  regionLayout : state.regionLayout = if state.detached then none else some resolution.regionLayout
  heapAddress : state.heapAddress = some resolution.heapAddress
  regionSizeBytes : state.regionSizeBytes = some resolution.regionSizeBytes

/-- Everything was published exactly if a resolution is over that has not failed. -/
inductive Coherent : Prop where
  | bare (hbare : state.Bare given) (hover : state.resolved → state.failure.isSome)
  | full (resolution : Resolution) (hfull : state.Full resolution) (hover : state.resolved)
      (hfailure : state.failure = none)

/-- What a first resolution makes of a session by what it finds out. -/
def tried : Except Fault Resolution → SessionState
  | .ok resolution => (state.publish resolution).settle
  | .error fault => if fault.isInspection then state.fail fault else state

variable {given state}

theorem Bare.detach (h : state.Bare given) : state.detach.Bare given :=
  ⟨rfl, rfl, h.heapAddress, h.regionSizeBytes⟩

theorem Coherent.detach (h : state.Coherent given) : state.detach.Coherent given := by
  cases h with
  | bare hbare hover => exact .bare hbare.detach hover
  | full resolution hfull hover hfailure =>
    exact .full resolution ⟨rfl, rfl, hfull.heapAddress, hfull.regionSizeBytes⟩ hover hfailure

theorem Coherent.eq_of_fresh (h : state.Coherent given) (hfresh : state.phase = .fresh) :
    state = { heapAddress := given } := by
  obtain ⟨hdetached, hresolved⟩ := phase_eq_fresh_iff.1 hfresh
  have hfailure := failure_of_fresh hfresh
  cases h with
  | bare hbare _ =>
    obtain ⟨hheap, hregion, haddress, hsize⟩ := hbare
    cases state
    simp_all
  | full _ _ hover _ => exact absurd (hresolved.symm.trans hover) Bool.false_ne_true

theorem Coherent.tried (h : state.Coherent given) (hfresh : state.phase = .fresh)
    (result : Except Fault Resolution) : (state.tried result).Coherent given := by
  obtain rfl := h.eq_of_fresh hfresh
  cases result with
  | ok resolution => exact .full resolution ⟨rfl, rfl, rfl, rfl⟩ rfl rfl
  | error fault =>
    by_cases hi : fault.isInspection
    · rw [SessionState.tried, if_pos hi]
      exact .bare ⟨rfl, rfl, rfl, rfl⟩ fun _ => rfl
    · rw [SessionState.tried, if_neg hi]
      exact h

end SessionState

namespace Session

variable (session : Session)

structure Withholds (context : Context) : Prop where
  unresolved : outcome session.isResolved context = .ok false
  refuses : session.Answers context fun _ answer =>
    ∃ fault, answer = .error fault ∧ fault.isSessionState

theorem withholds_of_unresolved {session : Session} {context : Context}
    (h : ∀ resolution, context.phase session.id ≠ .resolved resolution) :
    session.Withholds context := by
  rcases @isResolved_or_refuses session context with ⟨hresolved, -⟩ | ⟨hunresolved, hrefuses⟩
  · rw [isResolved_run.1] at hresolved
    cases hp : context.phase session.id with
    | resolved resolution => exact absurd hp (h resolution)
    | fresh | failed _ | detached =>
      rw [hp] at hresolved
      cases hresolved
  · exact ⟨hunresolved, hrefuses⟩

/-! ## Finding out -/

abbrev SparedBy {α : Type} (probe : Probe α) : Prop :=
  Keeps (fun context : Context => context.sessions session.id) probe

/-- Neither the lookups of a resolver nor the reads of the session act on the session itself. -/
structure Spares (resolver : Resolver) : Prop where
  types : ∀ name, session.SparedBy (resolver.lookupType name)
  symbols : ∀ name, session.SparedBy (resolver.lookupSymbol name)
  words : ∀ address, session.SparedBy (session.reader.readWord address)

namespace Spares

variable {session} {resolver : Resolver}

theorem of_debugger {inferior : Inferior} {kept : Int}
    (hr : session.reader = inferior.readerOfSize kept) (target : Target) :
    session.Spares target.resolver where
  types name := .looks (target.lookupType_looks name : Looks _ 0) session.id
  symbols name := .looks (target.lookupSymbol_looks name : Looks _ 0) session.id
  words address := by
    rw [hr]
    exact .looks (inferior.readWord_looks kept address : Looks _ 0) session.id

variable (h : session.Spares resolver)
include h

theorem pickFrom {n : Nat} (typeName : String) (names : Vector String n) :
    session.SparedBy (pickFrom resolver typeName names) :=
  (h.types typeName).bind fun _ => .ofExcept _

theorem wordOr (given : Option Int) (symbol : String) :
    session.SparedBy (session.wordOr resolver given symbol) := by
  cases given with
  | some word => exact .pure word
  | none => exact (h.symbols symbol).bind h.words

/-- However far it gets, finding out leaves the session alone. -/
theorem findOut : session.SparedBy (session.findOut resolver) :=
  (h.pickFrom _ _).bind fun _ => (h.pickFrom _ _).bind fun _ => (h.pickFrom _ _).bind fun _ =>
    (h.wordOr _ _).bind fun _ => (h.wordOr _ _).bind fun _ => .pure _

end Spares

/-! ## First resolutions -/

section First

variable {session} {resolver : Resolver} {context : Context}

theorem sessions_resolve (hfresh : context.phase session.id = .fresh) :
    (after (session.resolve resolver) context).sessions session.id =
      ((after (session.findOut resolver) context).sessions session.id).tried
        (outcome (session.findOut resolver) context) := by
  cases ho : outcome (session.findOut resolver) context with
  | ok resolution => exact sessions_resolve_of_found hfresh ho
  | error fault =>
    cases hi : fault.isInspection with
    | true => rw [sessions_resolve_of_blamed hfresh ho hi, SessionState.tried, if_pos hi]
    | false =>
      rw [after_resolve_of_interrupted hfresh ho hi, SessionState.tried, hi]
      rfl

theorem Spares.sessions_resolve (hs : session.Spares resolver)
    (hfresh : context.phase session.id = .fresh) :
    (after (session.resolve resolver) context).sessions session.id =
      (context.sessions session.id).tried (outcome (session.findOut resolver) context) := by
  have hfound : (after (session.findOut resolver) context).sessions session.id =
      context.sessions session.id := hs.findOut context
  rw [Session.sessions_resolve hfresh, hfound]

/-- The assignments cannot fail once everything has been found out. -/
theorem establish_run :
    outcome (session.establish resolver) context =
        (outcome (session.findOut resolver) context).map (fun _ => ()) ∧
      (after (session.establish resolver) context).sessions session.id =
        match outcome (session.findOut resolver) context with
        | .ok resolution =>
          ((after (session.findOut resolver) context).sessions session.id).publish resolution
        | .error _ => (after (session.findOut resolver) context).sessions session.id := by
  cases hf : session.findOut resolver context with
  | ok resolution found =>
    obtain ⟨ho, ha⟩ := eq_ok_iff.1 hf
    obtain ⟨ho', ha'⟩ := eq_ok_iff.1 (establish_of_findOut_ok hf)
    rw [ho, ha, ho', ha']
    refine ⟨rfl, ?_⟩
    rw [Context.note_sessions, Context.sessions_assign]
  | error fault found =>
    obtain ⟨ho, ha⟩ := eq_error_iff.1 hf
    obtain ⟨ho', ha'⟩ := eq_error_iff.1 (establish_of_findOut_error hf)
    rw [ho, ha, ho', ha']
    exact ⟨rfl, rfl⟩

theorem findOut_of_establish_error {fault : Fault}
    (h : outcome (session.establish resolver) context = .error fault) :
    outcome (session.findOut resolver) context = .error fault := by
  rw [establish_run.1] at h
  cases ho : outcome (session.findOut resolver) context with
  | ok resolution =>
    rw [ho] at h
    cases h
  | error fault' =>
    rw [ho] at h
    cases h
    rfl

end First

/-- The next resolution is a first one: on whatever host and whatever it is given to look at, it
ends as finding out ends, and that decides what becomes of the session. -/
def Unsettled (context : Context) : Prop :=
  ∀ (host : Host) (reader : Reader) (resolver : Resolver),
    let asked : Session := { session with reader }
    outcome (asked.resolve resolver) (context.on host) =
        (outcome (asked.findOut resolver) (context.on host)).map (fun _ => ()) ∧
      (asked.Spares resolver →
        (after (asked.resolve resolver) (context.on host)).sessions session.id =
          (context.sessions session.id).tried (outcome (asked.findOut resolver) (context.on host)))

theorem unsettled_of_fresh {session : Session} {context : Context}
    (hfresh : context.phase session.id = .fresh) : session.Unsettled context := by
  intro host reader resolver asked
  have hasked : (context.on host).phase asked.id = .fresh := hfresh
  exact ⟨outcome_resolve_of_fresh hasked, fun hs => hs.sessions_resolve hasked⟩

/-! ## Runs -/

def Turn.Sparing (turn : Turn) : Prop :=
  ∀ resolver, turn.call = .resolve resolver → session.Spares resolver

/-- Calls that come to nothing: questions, and resolutions that are cut short by a fault that is not
of the inspection. -/
inductive Idle : List Turn → Context → Prop
  | nil {context : Context} : Idle [] context
  | asked {turn : Turn} {rest : List Turn} {context : Context} (hd : turn.call.isDetach = false)
      (hr : turn.call.isResolve = false) (hrest : Idle rest (session.turn context turn)) :
      Idle (turn :: rest) context
  | interrupted {host : Host} {resolver : Resolver} {fault : Fault} {rest : List Turn}
      {context : Context} (hs : session.Spares resolver)
      (hf : outcome (session.findOut resolver) (context.on host) = .error fault)
      (hi : fault.isInspection = false)
      (hrest : Idle rest (session.turn context ⟨host, .resolve resolver⟩)) :
      Idle (⟨host, .resolve resolver⟩ :: rest) context

section Runs

variable {session} {turns : List Turn} {context : Context} {given : Option Int}

/-- Every call leaves the session with everything published, or with nothing. -/
theorem coherent_turn {turn : Turn} (hs : turn.Sparing session)
    (h : (context.sessions session.id).Coherent given) :
    ((session.turn context turn).sessions session.id).Coherent given := by
  by_cases hd : turn.call.isDetach
  · rw [sessions_turn_of_detach hd]
    exact h.detach
  by_cases hr : turn.call.isResolve ∧ context.phase session.id = .fresh
  · obtain ⟨host, call⟩ := turn
    cases call with
    | resolve resolver =>
      have hfresh : (context.on host).phase session.id = .fresh := hr.2
      rw [Session.turn, Call.perform, (hs resolver rfl).sessions_resolve hfresh]
      exact h.tried hr.2 _
    | detach | heap | ask _ | isResolved => cases hr.1
  · have hquiet : turn.call.isResolve = false ∨ context.phase session.id ≠ .fresh := by
      rw [← Bool.not_eq_true]
      exact Classical.not_and_iff_not_or_not.1 hr
    rw [sessions_turn (by simpa using hd) hquiet]
    exact h

theorem coherent_run (hs : ∀ turn ∈ turns, turn.Sparing session)
    (h : (context.sessions session.id).Coherent given) :
    ((session.run turns context).sessions session.id).Coherent given := by
  induction turns generalizing context with
  | nil => exact h
  | cons first rest ih =>
    exact ih (fun turn ht => hs turn (List.mem_cons_of_mem first ht))
      (coherent_turn (hs first List.mem_cons_self) h)

theorem sessions_run_of_idle (h : session.Idle turns context)
    (hfresh : context.phase session.id = .fresh) :
    (session.run turns context).sessions session.id = context.sessions session.id := by
  induction h with
  | nil => rfl
  | @asked turn rest context hd hr _ ih =>
    have hturn : (session.turn context turn).sessions session.id = context.sessions session.id :=
      sessions_turn hd (.inl hr)
    rw [run_cons, ih ((congrArg SessionState.phase hturn).trans hfresh), hturn]
  | @interrupted host resolver fault rest context hs hf hi _ ih =>
    -- What was found is a fault that is not remembered, and so nothing is assigned.
    have hturn : (session.turn context ⟨host, .resolve resolver⟩).sessions session.id =
        context.sessions session.id := by
      have hfresh' : (context.on host).phase session.id = .fresh := hfresh
      rw [Session.turn, Call.perform, hs.sessions_resolve hfresh', hf, SessionState.tried, hi]
      rfl
    rw [run_cons, ih ((congrArg SessionState.phase hturn).trans hfresh), hturn]

/-- No call publishes anything for a session that is settled without it. -/
theorem bare_run_of_settled (hne : context.phase session.id ≠ .fresh)
    (h : (context.sessions session.id).Bare given) :
    ((session.run turns context).sessions session.id).Bare given := by
  induction turns generalizing context with
  | nil => exact h
  | cons first rest ih =>
    by_cases hd : first.call.isDetach
    · refine ih (by simp [phase_turn_of_detach hd]) ?_
      rw [sessions_turn_of_detach hd]
      exact h.detach
    · have hturn : (session.turn context first).sessions session.id =
          context.sessions session.id := sessions_turn (by simpa using hd) (.inr hne)
      refine ih ?_ (hturn ▸ h)
      rwa [Context.phase, hturn]

theorem unresolved_run_of_settled (hne : context.phase session.id ≠ .fresh)
    (h : ∀ resolution, context.phase session.id ≠ .resolved resolution) (resolution : Resolution) :
    (session.run turns context).phase session.id ≠ .resolved resolution := by
  induction turns generalizing context with
  | nil => exact h resolution
  | cons first rest ih =>
    by_cases hd : first.call.isDetach
    · exact ih (by simp [phase_turn_of_detach hd]) (by simp [phase_turn_of_detach hd])
    · have hturn : (session.turn context first).phase session.id = context.phase session.id :=
        phase_turn (by simpa using hd) (.inr hne)
      exact ih (by rwa [hturn]) (by rwa [hturn])

end Runs

/-- What comes of a resolution whose body fails. -/
structure FailsWhole (given : Option Int) (resolver : Resolver) (context : Context)
    (fault : Fault) : Prop where
  outcome : outcome (session.resolve resolver) context = .error fault
  unassigned : (after (session.establish resolver) context).sessions session.id =
    (after (session.findOut resolver) context).sessions session.id
  blamed (hi : fault.isInspection) (turns : List Turn) :
    session.Withholds (session.run turns (after (session.resolve resolver) context))
  /-- The failure is remembered, which is all, and it is final. -/
  remembered (hs : session.Spares resolver) (hi : fault.isInspection) :
    (after (session.resolve resolver) context).sessions session.id =
        (context.sessions session.id).fail fault ∧
      ∀ turns : List Turn,
        let now := session.run turns (after (session.resolve resolver) context)
        (now.sessions session.id).Bare given ∧
          ((∀ turn ∈ turns, turn.call.isDetach = false) →
            session.Settled now (.error fault) ∧
            session.Answers now fun _ answer => answer = .error (.sessionFailed fault))
  passed (hi : fault.isInspection = false) :
    after (session.resolve resolver) context = after (session.findOut resolver) context
  /-- Every attribute is as it was, and stays so until a resolution is tried that ends otherwise. -/
  unchanged (hs : session.Spares resolver) (hi : fault.isInspection = false) (turns : List Turn)
    (hidle : session.Idle turns (after (session.resolve resolver) context)) :
    let now := session.run turns (after (session.resolve resolver) context)
    now.sessions session.id = context.sessions session.id ∧
    (now.sessions session.id).Bare given ∧
    session.Withholds now ∧
    session.Unsettled now ∧
    ∀ (host : Host) (reader : Reader) (resolver : Resolver),
      (Session.findOut { session with reader } resolver).Looks session.id →
      Probe.outcome (Session.resolve { session with reader } resolver) (now.on host) =
        Probe.outcome (Session.resolve { session with reader } resolver) (context.on host)

section Fails

variable {session} {given : Option Int} {resolver : Resolver} {context : Context} {fault : Fault}

theorem failsWhole_of_establish (hnew : context.sessions session.id = { heapAddress := given })
    (h : outcome (session.establish resolver) context = .error fault) :
    session.FailsWhole given resolver context fault := by
  have hfound := findOut_of_establish_error h
  have hfresh : context.phase session.id = .fresh := by
    rw [Context.phase, hnew]
    rfl
  have hsessions := @sessions_resolve session resolver context hfresh
  rw [hfound] at hsessions
  constructor
  case outcome =>
    rw [outcome_resolve_of_fresh hfresh, hfound]
    rfl
  case unassigned => rw [establish_run.2, hfound]
  case passed => exact after_resolve_of_interrupted hfresh hfound
  case blamed =>
    intro hi turns
    rw [SessionState.tried, if_pos hi] at hsessions
    -- The lookups may have detached the session, but they cannot undo that it has failed.
    have hlater : (after (session.resolve resolver) context).phase session.id = .failed fault ∨
        (after (session.resolve resolver) context).phase session.id = .detached := by
      rw [Context.phase, hsessions]
      exact SessionState.phase_fail_or fault
    apply withholds_of_unresolved
    apply unresolved_run_of_settled <;> rcases hlater with h | h <;> simp [h]
  case remembered =>
    intro hs hi
    have hlater := hs.sessions_resolve hfresh
    rw [hfound, SessionState.tried, if_pos hi] at hlater
    have hfailed : (after (session.resolve resolver) context).phase session.id = .failed fault := by
      rw [Context.phase, hlater]
      exact SessionState.phase_fail hfresh fault
    refine ⟨hlater, fun turns => ⟨bare_run_of_settled (by simp [hfailed]) ?_, fun hd => ?_⟩⟩
    · rw [hlater, hnew]
      exact ⟨rfl, rfl, rfl, rfl⟩
    · have hnow := (phase_run_of_settled hd (by simp [hfailed])).trans hfailed
      refine ⟨settled_of_verdict (by rw [hnow]; rfl), ?_⟩
      simp only [Answers, heap_run.1, (ask_run _).1, hnow]
      exact ⟨rfl, rfl, rfl, rfl, rfl⟩
  case unchanged =>
    intro hs hi turns hidle now
    have hlater := hs.sessions_resolve hfresh
    rw [hfound, SessionState.tried, hi] at hlater
    have hnow : now.sessions session.id = context.sessions session.id :=
      (sessions_run_of_idle hidle ((congrArg SessionState.phase hlater).trans hfresh)).trans hlater
    have hnowFresh : now.phase session.id = .fresh :=
      (congrArg SessionState.phase hnow).trans hfresh
    refine ⟨hnow, ?_, withholds_of_unresolved (by simp [hnowFresh]), unsettled_of_fresh hnowFresh,
      fun host reader resolver hlooks => ?_⟩
    · rw [hnow, hnew]
      exact ⟨rfl, rfl, rfl, rfl⟩
    · -- Both contexts set the same scene, and sources that only look depend on nothing else.
      have hscene : (now.on host).scene session.id = (context.on host).scene session.id := by
        simp only [Context.scene, Context.on_phase, hnowFresh, hfresh]
        rfl
      rw [(unsettled_of_fresh hnowFresh host reader resolver).1,
        (unsettled_of_fresh hfresh host reader resolver).1, hlooks.outcome_eq hscene]

end Fails

/-- **All or nothing.** Whatever a session is made with and whatever is asked of it, everything is
published if a resolution is over that has not failed, and nothing otherwise. A session that is not
settled yet is as it was made. If the body of its resolution ends well, that is because everything was
found out, all four values are assigned and the session is settled. Wherever the body fails, the
resolution ends with its fault and has assigned no value. If the fault is of the inspection it is
remembered for good; if it is any other every attribute is as before, and the next resolution is a
first one. -/
theorem resolve_publishes_all_or_nothing {reader : Reader} {settings : Settings}
    {given : Option Int} {session : Session} {start created : Context} {history : List Turn}
    (hcreate : create reader settings given start = .ok session created)
    (hhistory : ∀ turn ∈ history, turn.Sparing session) (host : Host) (resolver : Resolver) :
    let context := (session.run history created).on host
    let found := after (session.findOut resolver) context
    let body := session.establish resolver
    (context.sessions session.id).Coherent given ∧
    (context.phase session.id = .fresh →
      context.sessions session.id = { heapAddress := given } ∧
      (outcome body context = .ok () →
        outcome (session.resolve resolver) context = .ok () ∧
        ∃ resolution, outcome (session.findOut resolver) context = .ok resolution ∧
          (after body context).sessions session.id =
            (found.sessions session.id).publish resolution ∧
          (after (session.resolve resolver) context).sessions session.id =
            ((found.sessions session.id).publish resolution).settle) ∧
      ∀ fault, outcome body context = .error fault →
        session.FailsWhole given resolver context fault) := by
  intro context found body
  have hmade : (created.sessions session.id).Coherent given := by
    cases hcreate
    rw [Context.sessions_assign]
    exact .bare ⟨rfl, rfl, rfl, rfl⟩ fun h => absurd h Bool.false_ne_true
  have hcoherent : (context.sessions session.id).Coherent given := coherent_run hhistory hmade
  refine ⟨hcoherent, fun hfresh => ?_⟩
  have hnew := hcoherent.eq_of_fresh hfresh
  refine ⟨hnew, fun hbody => ?_, fun fault hbody => failsWhole_of_establish hnew hbody⟩
  have hresolve := @outcome_resolve_of_fresh session context resolver hfresh
  rw [← establish_run.1] at hresolve
  refine ⟨hresolve.trans hbody, ?_⟩
  rw [establish_run.1] at hbody
  cases ho : outcome (session.findOut resolver) context with
  | ok resolution =>
    refine ⟨resolution, rfl, ?_, sessions_resolve_of_found hfresh ho⟩
    rw [establish_run.2, ho]
  | error fault =>
    rw [ho] at hbody
    cases hbody

/-- A debugger whose bindings are gone, as against one that can read the heap's place. -/
def lostHost : Host := { images := [{}], bindings := false }

def soundHost : Host :=
  { images := [{ memory := ⟨[.write 0x5000 (ByteOrder.little.encode 8 0x1000),
    .write 0x5008 (ByteOrder.little.encode 8 0x10000)]⟩ }] }

/-- Lost bindings interrupt a resolution twice, and then it succeeds; a class that is not known ends
the first, and with it all. -/
theorem resolve_publishes_when_bindings_return :
    let resolver := Target.resolver ⟨some 0⟩
    let created := after (create firstSession.reader {} none) {}
    let lost := firstSession.run [⟨lostHost, .heap⟩]
      (after (firstSession.resolve resolver)
        ((firstSession.run [⟨lostHost, .resolve resolver⟩] created).on lostHost))
    let failed := firstSession.run [⟨soundHost, .heap⟩]
      (after (firstSession.resolve resolver) (created.on { images := [{ classes := [] }] }))
    firstSession.Withholds lost ∧
      outcome (firstSession.resolve resolver) (lost.on soundHost) = .ok () ∧
    firstSession.Withholds failed ∧
      outcome (firstSession.resolve resolver) (failed.on soundHost) =
        .error (.missing "ShenandoahHeap" [] (some (.unknownType "ShenandoahHeap"))) := by
  intro resolver created lost failed
  have hspares : firstSession.Spares resolver := .of_debugger rfl ⟨some 0⟩
  have hcreate : create firstSession.reader {} none {} = .ok firstSession created := rfl
  have hsparing : ∀ turn ∈ [Turn.mk lostHost (.resolve resolver)], turn.Sparing firstSession := by
    intro turn ht resolver' hr
    cases List.mem_singleton.1 ht
    cases hr
    exact hspares
  let context := (firstSession.run [⟨lostHost, .resolve resolver⟩] created).on lostHost
  have hfresh : context.phase firstSession.id = .fresh := rfl
  have hlost := (resolve_publishes_all_or_nothing hcreate hsparing lostHost resolver).2 hfresh
  have hnone : ∀ turn ∈ [], Turn.Sparing firstSession turn := nofun
  have hfailed := (resolve_publishes_all_or_nothing hcreate hnone { images := [{ classes := [] }] }
    resolver).2 rfl
  have hwhole := hlost.2.2 .bindingsLost rfl
  have hwhole' := hfailed.2.2 _ rfl
  obtain ⟨-, -, hwithholds, -, hlooks⟩ :=
    hwhole.unchanged hspares rfl [⟨lostHost, .heap⟩] (.asked rfl rfl .nil)
  obtain ⟨-, hsettled⟩ := (hwhole'.remembered hspares rfl).2 [⟨soundHost, .heap⟩]
  refine ⟨hwithholds, ?_, hwhole'.blamed rfl _, ?_⟩
  · have hfind : (firstSession.findOut resolver).Looks 0 := Inspector.findOut_looks rfl ⟨some 0⟩ 0
    have hsound : outcome (firstSession.resolve resolver) { host := soundHost } = .ok () := rfl
    have hscene : (context.on soundHost).scene 0 = Context.scene { host := soundHost } 0 :=
      congrArg (Scene.mk soundHost 0) hfresh
    have hfound := hfind.outcome_eq hscene
    rw [outcome_resolve_of_fresh rfl] at hsound
    have hfresh' : (context.on soundHost).phase firstSession.id = .fresh := hfresh
    have hfirst : outcome (firstSession.resolve resolver) (context.on soundHost) = .ok () := by
      rw [outcome_resolve_of_fresh hfresh', hfound, hsound]
    exact (hlooks soundHost firstSession.reader resolver hfind).trans hfirst
  · exact ((hsettled (by simp [Call.isDetach])).1 soundHost firstSession.reader resolver).1

end Session

end HeapProbe
