import HeapProbe.Inspector
import HeapProbe.Proofs.Session.Advance
import HeapProbe.Proofs.Session.Lifecycle

/-! # What a request does to an inspector

Opening a target goes through the debugger, which may refuse; only then is the old target given up and
the new one taken over, whether or not a session can be resolved on it. The debugger may keep hold of
the old process, and then nothing is taken over. The ledger grows by what that takes and by nothing
else: a debugger that is created, a live process that is asked to be let go, and in the end a debugger
that is destroyed.
-/

namespace HeapProbe

open Probe

section Lift

variable {α : Type} (probe : Probe α) (inspector : Inspector) (context : Context)

theorem lift_eq :
    (liftM probe : Inspecting α) (inspector, context) =
      match probe context with
      | .ok value context => .ok value (inspector, context)
      | .error fault context => .error fault (inspector, context) := rfl

@[simp] theorem outcome_lift :
    outcome (liftM probe : Inspecting α) (inspector, context) = outcome probe context := by
  unfold outcome
  rw [lift_eq]
  cases probe context <;> rfl

@[simp] theorem after_lift :
    after (liftM probe : Inspecting α) (inspector, context) = (inspector, after probe context) := by
  unfold after
  rw [lift_eq]
  cases probe context <;> rfl

variable {probe context}

theorem lift_ok {value : α} {later : Context} (h : probe context = .ok value later) :
    (liftM probe : Inspecting α) (inspector, context) = .ok value (inspector, later) := by
  rw [lift_eq, h]

theorem lift_error {fault : Fault} {later : Context} (h : probe context = .error fault later) :
    (liftM probe : Inspecting α) (inspector, context) = .error fault (inspector, later) := by
  rw [lift_eq, h]

end Lift

namespace Debugger

theorem create_finds (scene : Scene) :
    Debugger.create.Finds scene
      (if scene.host.bindings then ⟨.ok .live, [.start, .create, .setAsync false], []⟩
        else ⟨.error (.refused .bindingsMissing), [], []⟩) := by
  refine (Finds.host.bind fun host _ => (Finds.require _ _).bind fun _ _ => (Finds.call _).bind
    fun _ _ => (Finds.call _).bind fun _ _ => (Finds.call _).bind fun _ _ =>
      Finds.pure Debugger.live).congr ?_
  cases hb : scene.host.bindings <;> simp [hb]

theorem requestTarget_leads (debugger : Debugger) (path : String) :
    (debugger.requestTarget path).Leads := by
  have hlive : debugger.needLive.Leads := by
    cases debugger with
    | live => exact .pure ()
    | released => exact .throw _
  refine hlive.bind fun _ => (Leads.call rfl).bind fun _ => Leads.host.bind fun host => ?_
  split
  · exact .pure _
  · exact .pure _

theorem inferiorOn_leads (index : Nat) : (inferiorOn index).Leads :=
  fun _ => ⟨rfl, rfl, rfl, rfl, rfl⟩

theorem attachWhere_leads (debugger : Debugger) {request : DebuggerCall}
    (hr : request.isMove = false) (wanted : Image → Bool) (refusal : String → Refusal)
    (note : String) : (debugger.attachWhere request wanted refusal note).Leads := by
  have hneed : needBindings.Leads := (Looks.needBindings : Looks _ 0).leads
  refine hneed.bind fun _ => (debugger.requestTarget_leads "").bind fun target? => ?_
  cases target? with
  | none => exact .throw _
  | some _ =>
    refine (Leads.call hr).bind fun _ => Leads.host.bind fun host => ?_
    dsimp only
    cases host.images.findIdx? wanted with
    | none => exact .throw _
    | some index =>
      refine (Looks.image index : Looks _ 0).leads.bind fun image => ?_
      cases image.attachError with
      | some reason => exact .throw _
      | none => exact (Leads.log _ _ _).bind fun _ => inferiorOn_leads index

theorem loadCore_leads (debugger : Debugger) (executable core : String) :
    (debugger.loadCore executable core).Leads := by
  have htarget : (debugger.createTarget executable).Leads := by
    refine (debugger.requestTarget_leads executable).bind fun target? => ?_
    cases target? with
    | some target => exact .pure target
    | none => exact .throw _
  refine htarget.bind fun _ => (Leads.call rfl).bind fun _ => Leads.host.bind fun host => ?_
  dsimp only
  cases host.images.findIdx? fun image => image.executable = some executable ∧ image.core = core with
  | none => exact .throw _
  | some index => exact (Leads.log _ _ _).bind fun _ => inferiorOn_leads index

end Debugger

namespace Target

variable {session : Nat}

theorem image?_looks (target : Target) : target.image?.Looks session :=
  fun _ _ => ⟨_, .image? target, nofun⟩

theorem lookupType_looks (target : Target) (typeName : String) :
    (target.lookupType typeName).Looks session := by
  refine fun _ _ => ⟨_, .lookupType target typeName, fun call hc => ?_⟩
  have hlook := typeFinding_calls call hc
  cases call <;> first | rfl | cases hlook

theorem lookupSymbol_looks (target : Target) (name : String) :
    (target.lookupSymbol name).Looks session := by
  have hsymbols : Probe.Looks
      (do return (← target.findSymbols name).head?.map Symbol.address : Probe (Option Int))
      session :=
    ((Looks.call rfl).bind fun _ => target.image?_looks.bind fun _ =>
      (Looks.needBindingsFor _).bind fun _ => .pure _).bind fun _ => .pure _
  have hglobal : (target.findGlobal name).Looks session := by
    refine (Looks.call rfl).bind fun _ => target.image?_looks.bind fun image? => ?_
    dsimp only
    cases image?.bind fun image => image.globals.lookup name with
    | none => exact hsymbols
    | some address =>
      refine Looks.needBindings.bind fun _ => ?_
      split
      · exact hsymbols
      · exact .pure _
  refine hglobal.bind fun address? => ?_
  cases address? with
  | some address => exact .pure address
  | none => exact .throw _

end Target

namespace Inspector

theorem announce_looks (attachment : Attachment) (session : Nat) :
    (announce attachment).Looks session := by
  have hpath : attachment.target.path.Looks session := by
    refine (attachment.target.image?_looks).bind fun image? => ?_
    cases image? <;> exact .pure _
  have hsize : attachment.target.addressSize.Looks session := by
    refine (attachment.target.image?_looks).bind fun image? => ?_
    cases image? <;> exact .pure _
  have hpaused : attachment.inferior.isPaused.Looks session :=
    ((Looks.image _).bind fun _ => Looks.host.bind fun _ => .pure _).bind fun _ => .pure _
  have hpid : attachment.inferior.pid.Looks session := (Looks.image _).bind fun _ => .pure _
  refine hpath.bind fun _ => hsize.bind fun _ => (Looks.log _ _ _).bind fun _ =>
    hpaused.bind fun paused => ?_
  split
  · exact .pure _
  · exact hpid.bind fun _ => .log _ _ _

/-- To find out through a debugger is only to look, however far it gets. -/
theorem findOut_looks {session : Session} {inferior : Inferior} {kept : Int}
    (hr : session.reader = inferior.readerOfSize kept) (target : Target) (id : Nat) :
    (session.findOut target.resolver).Looks id := by
  have hpick {n : Nat} (typeName : String) (names : Vector String n) :
      (Session.pickFrom target.resolver typeName names).Looks id :=
    (target.lookupType_looks typeName).bind fun _ => .ofExcept _
  have hword (given : Option Int) (symbol : String) :
      (session.wordOr target.resolver given symbol).Looks id := by
    cases given with
    | some word => exact .pure word
    | none =>
      refine (target.lookupSymbol_looks symbol).bind fun address => ?_
      rw [hr]
      exact inferior.readWord_looks kept address
  exact (hpick _ _).bind fun _ => (hpick _ _).bind fun _ => (hpick _ _).bind fun _ =>
    (hword _ _).bind fun _ => (hword _ _).bind fun _ => .pure _

section Run

variable {inspector : Inspector} {context : Context}

theorem held_ok (state : Inspector × Context) : held state = .ok state.1 state := rfl

theorem change_ok (f : Inspector → Inspector) (state : Inspector × Context) :
    change f state = .ok () (f state.1, state.2) := rfl

theorem needDebugger_run (hd : inspector.debugger ≠ some .released)
    (hb : inspector.debugger = none → context.host.bindings) :
    ∃ later, needDebugger (inspector, context) =
        .ok .live ({ inspector with debugger := some .live }, later) ∧
      later.host = context.host ∧ later.sessionCount = context.sessionCount ∧
      later.phase = context.phase ∧
      later.ledger = context.ledger ++ if inspector.debugger.isSome then [] else [.create] := by
  obtain ⟨settings, debugger, attachment, session, heap⟩ := inspector
  unfold needDebugger
  rw [bind_of_ok (held_ok _)]
  cases debugger with
  | some debugger =>
    cases debugger with
    | live => exact ⟨context, rfl, rfl, rfl, rfl, (List.append_nil _).symm⟩
    | released => exact absurd rfl hd
  | none =>
    have hb' : (context.scene 0).host.bindings = true := hb rfl
    have hcreate := Debugger.create_finds (context.scene 0)
    rw [if_pos hb'] at hcreate
    dsimp only
    rw [bind_of_ok (lift_ok _ (hcreate.ok rfl)), bind_of_ok (change_ok _ _)]
    exact ⟨_, rfl, rfl, rfl, rfl, Context.ledger_note _ _ _⟩

/-- Without the bindings there is no debugger to be had. -/
theorem request_of_unbound (source : Debugger → Probe (Target × Inferior))
    (hd : inspector.debugger = none) (hb : context.host.bindings = false) :
    request source (inspector, context) =
      .error (.refused .bindingsMissing) (inspector, context) := by
  have hb' : (context.scene 0).host.bindings = false := hb
  have hcreate := Debugger.create_finds (context.scene 0)
  rw [if_neg (by simp [hb'])] at hcreate
  have hneed : needDebugger (inspector, context) =
      .error (.refused .bindingsMissing) (inspector, context) := by
    unfold needDebugger
    rw [bind_of_ok (held_ok _), hd]
    have hmissing := hcreate.error (rfl : context.scene 0 = _)
    rw [Context.note_nil] at hmissing
    exact bind_of_error (lift_error _ hmissing)
  exact bind_of_error hneed

/-- The calls that let go of what is held: a live process is named, a core file is not. -/
def letGoCalls (host : Host) : Option Attachment → List DebuggerCall
  | none => []
  | some attachment =>
    if attachment.isCore then []
    else [.detach (host.images[attachment.inferior.image]?.getD {}).pid]

/-- The refusal with which the debugger keeps hold of what it is asked to let go. -/
def refusal? (host : Host) : Option Attachment → Option Refusal
  | none => none
  | some attachment =>
    if attachment.isCore then none
    else (host.images[attachment.inferior.image]?.getD {}).detachError.map .detach

/-- If the debugger is asked to let the held process go, it does. -/
def LetsGo (host : Host) (attachment : Option Attachment) : Prop :=
  ∀ held, attachment = some held → held.isCore = false →
    (host.images[held.inferior.image]?.getD {}).detachError = none

theorem isDetach_of_mem_letGoCalls {host : Host} {attachment : Option Attachment}
    {call : DebuggerCall} (h : call ∈ letGoCalls host attachment) : call.isDetach := by
  unfold letGoCalls at h
  cases attachment with
  | none => cases h
  | some attachment =>
    dsimp only at h
    split at h
    · cases h
    · rw [List.mem_singleton.1 h]
      rfl

theorem LetsGo.refusal?_eq_none {host : Host} {attachment : Option Attachment}
    (h : LetsGo host attachment) : refusal? host attachment = none := by
  unfold refusal?
  cases attachment with
  | none => rfl
  | some held =>
    dsimp only
    split
    · rfl
    · next hc =>
      rw [h held rfl (by simpa using hc)]
      rfl

/-- What is held is let go of unless the debugger keeps hold of it; either way it is asked once. -/
theorem letGo_finds (scene : Scene) (attachment : Attachment) :
    (letGo attachment).Finds scene
      ⟨match refusal? scene.host (some attachment) with
        | none => .ok ()
        | some refusal => .error (.refused refusal),
        letGoCalls scene.host (some attachment), []⟩ := by
  unfold letGo refusal? letGoCalls
  dsimp only
  cases hc : attachment.isCore with
  | true => exact .pure ()
  | false =>
    rw [if_neg Bool.false_ne_true, if_neg Bool.false_ne_true, if_neg Bool.false_ne_true]
    refine (Finds.image attachment.inferior.image).bind_of_pure ?_
    cases (scene.host.images[attachment.inferior.image]?.getD {}).detachError with
    | none => exact ((Finds.call _).bind_of_ok (.pure ())).congr (by simp)
    | some reason =>
      exact ((Finds.call _).bind_of_ok (.throw (.refused (.detach reason)))).congr (by simp)

theorem release_run :
    release (inspector, context) =
      match refusal? context.host inspector.attachment with
      | none => .ok () ({ inspector with attachment := none },
          context.note (letGoCalls context.host inspector.attachment) [])
      | some refusal => .error (.refused refusal) (inspector,
          context.note (letGoCalls context.host inspector.attachment) []) := by
  obtain ⟨settings, debugger, attachment, session, heap⟩ := inspector
  unfold release
  rw [bind_of_ok (held_ok _)]
  cases attachment with
  | none =>
    simp only [refusal?, letGoCalls, Context.note_nil]
    rfl
  | some attachment =>
    have hletGo := letGo_finds (context.scene 0) attachment context rfl
    dsimp only [Context.scene] at hletGo ⊢
    cases hr : refusal? context.host (some attachment) with
    | none =>
      rw [hr] at hletGo
      exact bind_of_ok (lift_ok _ hletGo)
    | some refusal =>
      rw [hr] at hletGo
      exact bind_of_error (lift_error _ hletGo)

/-- The session that was held is over for good, and no other came back. -/
structure Ended (inspector : Inspector) (before after : Context) : Prop where
  precedes : before.Precedes after
  detached : ∀ session, inspector.session = some session → after.phase session.id = .detached

theorem Ended.trans {before between later : Context}
    (h : inspector.Ended before between) (h' : between.Precedes later)
    (hid : ∀ session, inspector.session = some session → session.id < before.sessionCount) :
    inspector.Ended before later where
  precedes := h.precedes.trans h'
  detached session hs := h'.detached session.id
    (Nat.lt_of_lt_of_le (hid session hs) h.precedes.sessions) (h.detached session hs)

theorem endSession_run (hheap : inspector.session = none → inspector.heap = none) :
    ∃ later, endSession (inspector, context) =
        .ok () ({ inspector with session := none, heap := none }, later) ∧
      later.host = context.host ∧ later.ledger = context.ledger ∧
      inspector.Ended context later := by
  obtain ⟨settings, debugger, attachment, session, heap⟩ := inspector
  unfold endSession
  rw [bind_of_ok (held_ok _)]
  cases session with
  | none =>
    cases hheap rfl
    exact ⟨context, rfl, rfl, rfl, .refl _, nofun⟩
  | some session =>
    have hdetach := eq_ok_iff.2 (@Session.detach_run session context)
    have hprecedes := @Session.detach_precedes session context
    rw [Session.detach_run.2] at hprecedes
    dsimp only
    rw [bind_of_ok (lift_ok _ hdetach)]
    refine ⟨_, rfl, rfl, (Context.ledger_note _ _ _).trans (List.append_nil _), hprecedes, ?_⟩
    rintro _ ⟨⟩
    exact Context.phase_assign _ _ _

/-- Giving up ends the session first. The target is given up after it, unless the debugger keeps
hold of it. -/
theorem detach_run (hheap : inspector.session = none → inspector.heap = none) :
    ∃ later, detach (inspector, context) =
        (match refusal? context.host inspector.attachment with
          | none => .ok () ({ inspector with session := none, heap := none, attachment := none },
              later)
          | some refusal => .error (.refused refusal)
              ({ inspector with session := none, heap := none }, later)) ∧
      later.host = context.host ∧
      later.ledger = context.ledger ++ letGoCalls context.host inspector.attachment ∧
      inspector.Ended context later := by
  obtain ⟨ended, hended, hhost, hledger, hover⟩ := @endSession_run inspector context hheap
  have hrelease := @release_run { inspector with session := none, heap := none } ended
  dsimp only at hrelease
  rw [hhost] at hrelease
  refine ⟨ended.note (letGoCalls context.host inspector.attachment) [], ?_, hhost, ?_,
    hover.precedes.trans (.note _ _ _), hover.detached⟩
  · unfold detach
    rw [bind_of_ok hended, hrelease]
  · have hmoves : (letGoCalls context.host inspector.attachment).filter DebuggerCall.isMove =
        letGoCalls context.host inspector.attachment :=
      List.filter_eq_self.2 fun call hc => by
        simp [DebuggerCall.isMove, isDetach_of_mem_letGoCalls hc]
    rw [Context.ledger_note, hledger, hmoves]

/-- Dismissing the debugger destroys it if it is there, for which the bindings are needed. -/
theorem dismiss_run (hd : inspector.debugger ≠ some .released) :
    dismiss (inspector, context) =
      if inspector.debugger.isSome && !context.host.bindings then
        .error .bindingsLost (inspector, context)
      else
        .ok () ({ inspector with debugger := none },
          context.note (if inspector.debugger.isSome then [.destroy] else []) []) := by
  obtain ⟨settings, debugger, attachment, session, heap⟩ := inspector
  unfold dismiss
  rw [bind_of_ok (held_ok _)]
  cases debugger with
  | none =>
    simp only [Option.isSome_none, Bool.false_and, Bool.false_eq_true, if_false, Context.note_nil]
    rfl
  | some debugger =>
    cases debugger with
    | released => exact absurd rfl hd
    | live =>
      have hdestroy : (Debugger.destroy .live).Finds (context.scene 0)
          (if context.host.bindings then ⟨.ok .released, [.destroy], []⟩
            else ⟨.error .bindingsLost, [], []⟩) := by
        refine (Finds.needBindings.bind fun _ _ => (Finds.call _).bind fun _ _ =>
          Finds.pure Debugger.released).congr ?_
        change Finding.andThen ⟨if context.host.bindings then _ else _, [], []⟩ _ = _
        split <;> simp
      cases hb : context.host.bindings with
      | true =>
        rw [if_pos hb] at hdestroy
        exact bind_of_ok (lift_ok _ (hdestroy.ok rfl))
      | false =>
        rw [if_neg (by simp [hb])] at hdestroy
        have hlost := hdestroy.error (rfl : context.scene 0 = _)
        rw [Context.note_nil] at hlost
        exact bind_of_error (lift_error _ hlost)

/-- Having the debugger open a target adds nothing to the ledger but the debugger's creation. -/
theorem request_run {source : Debugger → Probe (Target × Inferior)} (hs : (source .live).Leads)
    (hd : inspector.debugger ≠ some .released)
    (hb : inspector.debugger = none → context.host.bindings) :
    ∃ later, after (request source) (inspector, context) =
        ({ inspector with debugger := some .live }, later) ∧
      later.host.images = context.host.images ∧ later.sessionCount = context.sessionCount ∧
      later.phase = context.phase ∧
      later.ledger = context.ledger ++ if inspector.debugger.isSome then [] else [.create] := by
  obtain ⟨created, hcreated, hhost, hcount, hphase, hledger⟩ := needDebugger_run hd hb
  have hl := hs created
  refine ⟨after (source .live) created, ?_, ?_, ?_, ?_, ?_⟩
  · unfold request
    rw [after_bind_of_ok hcreated]
    exact after_lift _ _ _
  · rw [hl.images, hhost]
  · rw [hl.sessionCount, hcount]
  · rw [hl.phase, hphase]
  · rw [hl.ledger, hledger]

/-- What a look, a note and an assignment leave as it is, a resolution does. -/
theorem session_resolve_keeps {β : Type} (part : Context → β) {session : Session}
    {resolver : Resolver}
    (hfind : part (after (session.findOut resolver) context) = part context)
    (hnote : ∀ (context : Context) records, part (context.note [] records) = part context)
    (hassign : ∀ (context : Context) change,
      part (context.assign session.id change) = part context) :
    part (after (session.resolve resolver) context) = part context := by
  by_cases hfresh : context.phase session.id = .fresh
  · rw [after, Session.resolve_of_fresh hfresh]
    cases outcome (session.findOut resolver) context with
    | ok resolution => exact (hnote _ _).trans ((hassign _ _).trans hfind)
    | error fault =>
      dsimp only
      rw [after, Session.remember_run]
      dsimp only
      split
      · exact (hassign _ _).trans ((hnote _ _).trans hfind)
      · exact hfind
  · obtain ⟨result, hverdict⟩ := SessionPhase.exists_verdict hfresh
    rw [(Session.resolve_of_verdict hverdict).2]

/-- A session is ready for an attachment: it has a number of its own, is resolved and reads through
the attachment. -/
structure Ready (session : Session) (attachment : Attachment) (context : Context) : Prop where
  numbered : session.id < context.sessionCount
  reader : ∃ size, session.reader = attachment.inferior.readerOfSize size
  resolved : ∃ resolution, context.phase session.id = .resolved resolution

/-- To resolve for an attachment is to make a session that reads by the present size of a pointer, and
to resolve that. -/
theorem resolve_eq_of_pointerSize {attachment : Attachment} {size : Int}
    (h : outcome attachment.inferior.pointerSize context = .ok size) (settings : Settings)
    (given : Option Int) :
    let reader := attachment.inferior.readerOfSize size
    let session : Session := ⟨context.sessionCount, reader, settings, given⟩
    resolve attachment settings given context =
      (do session.resolve attachment.target.resolver; return session : Probe Session)
        (after (Session.create reader settings given) context) := by
  let view : View := ⟨attachment.inferior, 0, context.host⟩
  have hsize : attachment.inferior.pointerSize.Finds (context.scene 0) _ :=
    @Finds.pointerSize (context.scene 0) view rfl
  have hreader : attachment.inferior.reader.Finds (context.scene 0) _ :=
    @Finds.reader (context.scene 0) view rfl
  obtain rfl : view.pointerSize = size := by
    simpa using (hsize.outcome_eq rfl).symm.trans h
  unfold resolve
  rw [bind_of_ok (hreader.ok rfl), Context.note_nil]
  rfl

theorem exists_pointerSize (inferior : Inferior) (context : Context) :
    ∃ size, outcome inferior.pointerSize context = .ok size :=
  ⟨_, (@Finds.pointerSize (context.scene 0) ⟨inferior, 0, context.host⟩ rfl).outcome_eq rfl⟩

theorem resolve_eq (attachment : Attachment) (settings : Settings) (given : Option Int) :
    ∃ size, let reader := attachment.inferior.readerOfSize size
      let session : Session := ⟨context.sessionCount, reader, settings, given⟩
      resolve attachment settings given context =
        (do session.resolve attachment.target.resolver; return session : Probe Session)
          (after (Session.create reader settings given) context) := by
  obtain ⟨size, hsize⟩ := exists_pointerSize attachment.inferior context
  exact ⟨size, resolve_eq_of_pointerSize hsize settings given⟩

theorem resolve_run (attachment : Attachment) (settings : Settings) (given : Option Int) :
    let later := after (resolve attachment settings given) context
    later.ledger = context.ledger ∧ context.Precedes later ∧
      ∀ session, outcome (resolve attachment settings given) context = .ok session →
        Ready session attachment later := by
  intro later
  obtain ⟨size, heq⟩ := @resolve_eq context attachment settings given
  let reader := attachment.inferior.readerOfSize size
  let session : Session := ⟨context.sessionCount, reader, settings, given⟩
  let created := after (Session.create reader settings given) context
  have hrun : outcome (resolve attachment settings given) context =
        outcome (do session.resolve attachment.target.resolver; return session) created ∧
      later = after (do session.resolve attachment.target.resolver; return session) created := by
    unfold later outcome after
    rw [heq]
    exact ⟨rfl, rfl⟩
  have hfind : (session.findOut attachment.target.resolver).Leads :=
    (findOut_looks rfl attachment.target 0).leads
  have hledger : (after (session.resolve attachment.target.resolver) created).ledger =
      context.ledger :=
    session_resolve_keeps Context.ledger (hfind created).ledger
      (fun _ _ => (Context.ledger_note _ _ _).trans (List.append_nil _)) fun _ _ => rfl
  have hprecedes : created.Precedes (after (session.resolve attachment.target.resolver) created) :=
    session.resolve_precedes hfind
  have hcreated : context.Precedes created := Session.create_precedes reader settings given
  rw [hrun.1, hrun.2, outcome_bind, after_bind]
  cases ho : outcome (session.resolve attachment.target.resolver) created with
  | error fault => exact ⟨hledger, hcreated.trans hprecedes, nofun⟩
  | ok _ =>
    refine ⟨hledger, hcreated.trans hprecedes, ?_⟩
    rintro _ ⟨⟩
    obtain ⟨resolution, hresolved, -⟩ := session.resolved_of_resolve hfind ho
    exact ⟨hprecedes.sessions, ⟨_, rfl⟩, resolution, hresolved⟩

theorem takeOver_of_refused (hheap : inspector.session = none → inspector.heap = none)
    {refusal : Refusal} (hr : refusal? context.host inspector.attachment = some refusal)
    (opened : Target × Inferior) (given : Option Int) (isCore : Bool) :
    ∃ later, takeOver opened given isCore (inspector, context) =
        .error (.refused refusal) ({ inspector with session := none, heap := none }, later) ∧
      later.ledger = context.ledger ++ letGoCalls context.host inspector.attachment ∧
      inspector.Ended context later := by
  obtain ⟨later, hlater, -, hledger, hended⟩ := @detach_run inspector context hheap
  rw [hr] at hlater
  exact ⟨later, bind_of_error hlater, hledger, hended⟩

/-- Once the debugger let go of what was held, the target that it opened is held, and a session is
held with it if one could be resolved. -/
theorem takeOver_run (hheap : inspector.session = none → inspector.heap = none)
    (hid : ∀ session, inspector.session = some session → session.id < context.sessionCount)
    (hr : refusal? context.host inspector.attachment = none)
    (opened : Target × Inferior) (given : Option Int) (isCore : Bool) :
    ∃ session? later, after (takeOver opened given isCore) (inspector, context) =
        ({ inspector with
            attachment := some ⟨opened.1, opened.2, isCore⟩
            session := session?
            heap := session?.map Heap.mk }, later) ∧
      later.ledger = context.ledger ++ letGoCalls context.host inspector.attachment ∧
      inspector.Ended context later ∧
      ∀ session, session? = some session → Ready session ⟨opened.1, opened.2, isCore⟩ later := by
  obtain ⟨freed, hfreed, -, hledger, hended⟩ := @detach_run inspector context hheap
  rw [hr] at hfreed
  let attachment : Attachment := ⟨opened.1, opened.2, isCore⟩
  have hannounced := (announce_looks attachment 0).leads freed
  have hended' := hended.trans hannounced.precedes hid
  unfold takeOver
  rw [after_bind_of_ok hfreed, after_bind_of_ok (change_ok _ _), after_bind, outcome_lift,
    after_lift]
  cases ha : outcome (announce attachment) freed with
  | error fault => exact ⟨none, _, rfl, hannounced.ledger.trans hledger, hended', nofun⟩
  | ok _ =>
    dsimp only
    rw [after_bind_of_ok (held_ok _), after_bind, outcome_lift, after_lift]
    obtain ⟨hl, hp, hready⟩ := @resolve_run (after (announce attachment) freed) attachment
      inspector.settings given
    have hledger' := hl.trans (hannounced.ledger.trans hledger)
    have hended'' := hended'.trans hp hid
    cases hs : outcome (resolve attachment inspector.settings given)
        (after (announce attachment) freed) with
    | error fault => exact ⟨none, _, rfl, hledger', hended'', nofun⟩
    | ok session =>
      have hresolved := hready session hs
      obtain ⟨resolution, hphase⟩ := hresolved.resolved
      refine ⟨some session, _, ?_, hledger', hended'', ?_⟩
      · dsimp only
        rw [after_bind_of_ok (change_ok _ _),
          after_bind_of_ok (lift_ok _ (Session.heap_of_resolved hphase))]
        rfl
      · rintro _ ⟨⟩
        exact hresolved

end Run

end Inspector

end HeapProbe
