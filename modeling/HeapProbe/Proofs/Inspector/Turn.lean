import HeapProbe.Proofs.Inspector.Step

/-! # Requests in turn

Each request is made of an inspector while the debugger's side is in some state. What it can do is
said once, whatever that state is and however the request ends: there may be no debugger to be had,
or the debugger opens nothing; it may keep hold of the process that is given up; or else what was held
is given up for the target that was opened, or for none. What an inspector holds belongs together
after each of them.
-/

namespace HeapProbe

open Probe

namespace Inspector

inductive Request where
  | attach (pid : Given Int) (heapAddress : Option Int)
  | attachByName (name : String) (heapAddress : Option Int)
  | loadCore (executable core : String) (heapAddress : Option Int)
  | detach
  | close

namespace Request

def perform : Request → Inspecting Unit
  | .attach pid heapAddress => Inspector.attach pid heapAddress
  | .attachByName name heapAddress => Inspector.attachByName name heapAddress
  | .loadCore executable core heapAddress => Inspector.loadCore executable core heapAddress
  | .detach => Inspector.detach
  | .close => Inspector.close

/-- How the debugger is asked for a target, if it is. -/
def source? : Request → Option (Debugger → Probe (Target × Inferior))
  | .attach pid _ => some fun debugger => debugger.attach pid
  | .attachByName name _ => some fun debugger => debugger.attachByName name
  | .loadCore executable core _ => some fun debugger => debugger.loadCore executable core
  | .detach | .close => none

def isCore : Request → Bool
  | .loadCore .. => true
  | _ => false

def isClose : Request → Bool
  | .close => true
  | _ => false

def heapAddress : Request → Option Int
  | .attach _ heapAddress | .attachByName _ heapAddress | .loadCore _ _ heapAddress => heapAddress
  | .detach | .close => none

theorem source_leads {request : Request} {source : Debugger → Probe (Target × Inferior)}
    (h : request.source? = some source) : (source .live).Leads := by
  cases request with
  | attach pid _ =>
    cases h
    exact Debugger.attachWhere_leads _ rfl _ _ _
  | attachByName name _ =>
    cases h
    exact Debugger.attachWhere_leads _ rfl _ _ _
  | loadCore executable core _ =>
    cases h
    exact Debugger.loadCore_leads _ _ _
  | detach => cases h
  | close => cases h

theorem perform_of_source {request : Request} {source : Debugger → Probe (Target × Inferior)}
    (h : request.source? = some source) :
    request.perform = openFrom source request.heapAddress request.isCore := by
  cases request <;> cases h <;> rfl

end Request

/-- A request, and the debugger's side at that time. -/
structure Turn where
  host : Host
  request : Request

def turn (state : Inspector × Context) (turn : Turn) : Inspector × Context :=
  after turn.request.perform (state.1, state.2.on turn.host)

/-- Requests made one after the other, each over images that may have changed since the last. -/
def run (turns : List Turn) (state : Inspector × Context) : Inspector × Context :=
  turns.foldl turn state

theorem run_concat (turns : List Turn) (last : Turn) (state : Inspector × Context) :
    run (turns ++ [last]) state = turn (run turns state) last := by
  simp [run]

namespace Turn

variable (turn : Turn) (state : Inspector × Context)

def opened : Option Attachment :=
  match turn.request.source? with
  | none => none
  | some source =>
    match outcome (Inspector.request source) (state.1, state.2.on turn.host) with
    | .ok opened => some ⟨opened.1, opened.2, turn.request.isCore⟩
    | .error _ => none

/-- In this turn what is held is given up: for a new target, or for none. -/
def givesUp : Bool := turn.request.source?.isNone || (turn.opened state).isSome

def ending : Except Fault Unit :=
  outcome turn.request.perform (state.1, state.2.on turn.host)

end Turn

/-- What is held rests on what holds it: the target on the debugger, and the heap on a session that
has a number of its own. -/
structure Sound (inspector : Inspector) (context : Context) : Prop where
  debugger : inspector.debugger ≠ some .released
  target : inspector.attachment.isSome → inspector.debugger.isSome
  heap : inspector.heap = inspector.session.map Heap.mk
  numbered : ∀ session, inspector.session = some session → session.id < context.sessionCount

namespace Sound

variable {inspector : Inspector} {context : Context}

theorem start (settings : Settings) (context : Context) : Sound { settings } context :=
  ⟨nofun, nofun, rfl, nofun⟩

theorem heap_eq_none (h : Sound inspector context) (hs : inspector.session = none) :
    inspector.heap = none := by
  rw [h.heap, hs]
  rfl

theorem debugger_eq (h : Sound inspector context) {attachment : Attachment}
    (ha : inspector.attachment = some attachment) : inspector.debugger = some .live := by
  obtain ⟨debugger, hd⟩ := Option.isSome_iff_exists.1 (h.target (by rw [ha]; rfl))
  cases debugger with
  | live => exact hd
  | released => exact absurd hd h.debugger

/-- What stays as it is stays sound, whatever is added to the context. -/
theorem mono (h : Sound inspector context) {later : Context}
    (hcount : context.sessionCount ≤ later.sessionCount) : Sound inspector later :=
  ⟨h.debugger, h.target, h.heap, fun session hs => Nat.lt_of_lt_of_le (h.numbered session hs) hcount⟩

end Sound

def createCalls (inspector : Inspector) : List DebuggerCall :=
  if inspector.debugger.isSome then [] else [.create]

theorem precedes_on (context : Context) (host : Host) : context.Precedes (context.on host) :=
  .of_eq rfl rfl

theorem attachment_of_refusal {host : Host} {attachment? : Option Attachment} {refusal : Refusal}
    (h : refusal? host attachment? = some refusal) :
    ∃ attachment, attachment? = some attachment ∧ attachment.isCore = false := by
  unfold refusal? at h
  cases attachment? with
  | none => cases h
  | some attachment =>
    dsimp only at h
    split at h
    · cases h
    · next hc => exact ⟨attachment, rfl, by simpa using hc⟩

/-- All that a turn can do, whatever the debugger's side. -/
inductive Turn.Effect (turn : Turn) (state later : Inspector × Context) : Prop where
  /-- There was no debugger, and none was to be had. -/
  | unserved (hgives : turn.givesUp state = false) (hbindings : turn.host.bindings = false)
      (hlater : later = (state.1, state.2.on turn.host))
  /-- The debugger opened nothing, and everything is held as before. -/
  | refused (hgives : turn.givesUp state = false) (hopened : turn.opened state = none)
      (hlater : later.1 = { state.1 with debugger := some .live })
      (hcount : later.2.sessionCount = state.2.sessionCount)
      (hphase : later.2.phase = state.2.phase)
      (hledger : later.2.ledger = state.2.ledger ++ state.1.createCalls)
  /-- The debugger kept hold of the process that was to be given up. -/
  | stuck (refusal : Refusal) (hgives : turn.givesUp state)
      (hrefusal : refusal? turn.host state.1.attachment = some refusal)
      (hending : turn.ending state = .error (.refused refusal))
      (hlater : later.1 = { state.1 with session := none, heap := none })
      (hended : state.1.Ended state.2 later.2)
      (hledger : later.2.ledger =
        state.2.ledger ++ letGoCalls turn.host state.1.attachment)
  /-- The debugger opened a target, for which the old one was given up. -/
  | tookOver (attachment : Attachment) (session? : Option Session)
      (hgives : turn.givesUp state) (hopened : turn.opened state = some attachment)
      (hfree : refusal? turn.host state.1.attachment = none)
      (hlater : later.1 = { state.1 with
        debugger := some .live
        attachment := some attachment
        session := session?
        heap := session?.map Heap.mk })
      (hready : ∀ session, session? = some session → Ready session attachment later.2)
      (hended : state.1.Ended state.2 later.2)
      (hledger : later.2.ledger =
        state.2.ledger ++ (state.1.createCalls ++ letGoCalls turn.host state.1.attachment))
  /-- The target was given up for none, and the debugger dismissed if that was asked for. -/
  | gaveUp (hgives : turn.givesUp state) (hopened : turn.opened state = none)
      (hfree : refusal? turn.host state.1.attachment = none)
      (hending : turn.host.bindings → turn.ending state = .ok ())
      (hlater : later.1 = { state.1 with
        debugger := if turn.request.isClose && turn.host.bindings then none else state.1.debugger
        attachment := none
        session := none
        heap := none })
      (hended : state.1.Ended state.2 later.2)
      (hledger : later.2.ledger =
        state.2.ledger ++ (letGoCalls turn.host state.1.attachment ++
          if turn.request.isClose && turn.host.bindings && state.1.debugger.isSome then [.destroy]
          else []))

section Step

variable {turn : Turn} {state : Inspector × Context}

theorem opened_of_refused {source : Debugger → Probe (Target × Inferior)} {fault : Fault}
    (hs : turn.request.source? = some source)
    (ho : outcome (request source) (state.1, state.2.on turn.host) = .error fault) :
    turn.opened state = none := by
  simp [Turn.opened, hs, ho]

theorem opened_of_met {source : Debugger → Probe (Target × Inferior)} {opened : Target × Inferior}
    (hs : turn.request.source? = some source)
    (ho : outcome (request source) (state.1, state.2.on turn.host) = .ok opened) :
    turn.opened state = some ⟨opened.1, opened.2, turn.request.isCore⟩ := by
  simp [Turn.opened, hs, ho]

/-- A turn in which a target is asked for is refused, or takes it over once nothing is stuck. -/
theorem turn_effect_of_source {source : Debugger → Probe (Target × Inferior)}
    (hs : turn.request.source? = some source) (hc : Sound state.1 state.2) :
    turn.Effect state (Inspector.turn state turn) := by
  have hperform : turn.request.perform =
      openFrom source turn.request.heapAddress turn.request.isCore :=
    Request.perform_of_source hs
  -- Only a debugger that would have to be created can fail to be there at all.
  by_cases hb : state.1.debugger = none → turn.host.bindings
  · obtain ⟨asked, hasked, himages, hcount, hphase, hledger⟩ :=
      @request_run state.1 (state.2.on turn.host) _ (Request.source_leads hs) hc.debugger hb
    have hprecedes : state.2.Precedes asked := .of_eq hcount hphase
    have hrefusal : refusal? asked.host state.1.attachment =
        refusal? turn.host state.1.attachment := by
      unfold refusal?
      rw [himages]
      rfl
    have hcalls : letGoCalls asked.host state.1.attachment =
        letGoCalls turn.host state.1.attachment := by
      unfold letGoCalls
      rw [himages]
      rfl
    have hended {later : Context} (h : state.1.Ended asked later) : state.1.Ended state.2 later :=
      ⟨hprecedes.trans h.precedes, h.detached⟩
    cases ho : outcome (request source) (state.1, state.2.on turn.host) with
    | error fault =>
      have hopened := opened_of_refused hs ho
      have hturn : Inspector.turn state turn = ({ state.1 with debugger := some .live }, asked) := by
        rw [Inspector.turn, hperform, openFrom, after_bind, hasked, ho]
      rw [hturn]
      exact .refused (by simp [Turn.givesUp, hs, hopened]) hopened rfl hcount hphase hledger
    | ok opened =>
      have hopened := opened_of_met hs ho
      have hgives : turn.givesUp state := by simp [Turn.givesUp, hopened]
      have hmet : request source (state.1, state.2.on turn.host) =
          .ok opened ({ state.1 with debugger := some .live }, asked) := eq_ok_iff.2 ⟨ho, hasked⟩
      have hturn : Inspector.turn state turn =
          after (takeOver opened turn.request.heapAddress turn.request.isCore)
            ({ state.1 with debugger := some .live }, asked) := by
        rw [Inspector.turn, hperform, openFrom, after_bind_of_ok hmet]
      rw [hturn]
      -- The new target is open by now, and what becomes of it rests on the old one alone.
      cases hr : refusal? turn.host state.1.attachment with
      | none =>
        obtain ⟨session?, later, hlater, hledger', hended', hready⟩ :=
          @takeOver_run { state.1 with debugger := some .live } asked hc.heap_eq_none
            (fun session hsession => hcount ▸ hc.numbered session hsession) (hrefusal.trans hr)
            opened turn.request.heapAddress turn.request.isCore
        rw [hlater]
        refine .tookOver _ session? hgives hopened hr rfl hready (hended ⟨hended'.1, hended'.2⟩) ?_
        rw [hledger', hledger, hcalls, List.append_assoc]
        rfl
      | some refusal =>
        obtain ⟨attachment, hattachment, -⟩ := attachment_of_refusal hr
        have hdebugger := hc.debugger_eq hattachment
        obtain ⟨later, hlater, hledger', hended'⟩ :=
          @takeOver_of_refused { state.1 with debugger := some .live } asked hc.heap_eq_none
            refusal (hrefusal.trans hr) opened turn.request.heapAddress turn.request.isCore
        have hending : turn.ending state = .error (.refused refusal) := by
          rw [Turn.ending, hperform, openFrom, outcome_bind_of_ok hmet]
          exact (eq_error_iff.1 hlater).1
        rw [(eq_error_iff.1 hlater).2]
        refine .stuck refusal hgives hr hending ?_ (hended ⟨hended'.1, hended'.2⟩) ?_
        · rw [← hdebugger]
        · rw [hledger', hledger, hcalls, hdebugger]
          simp
          rfl
  · obtain ⟨hd, hno⟩ := Classical.not_imp.1 hb
    have hunbound := @request_of_unbound state.1 (state.2.on turn.host) source hd
      (Bool.eq_false_iff.2 hno)
    have hopened := opened_of_refused hs (eq_error_iff.1 hunbound).1
    refine .unserved (by simp [Turn.givesUp, hs, hopened]) (Bool.eq_false_iff.2 hno) ?_
    rw [Inspector.turn, hperform, openFrom, after_bind, (eq_error_iff.1 hunbound).1,
      (eq_error_iff.1 hunbound).2]

theorem detach_on (hc : Sound state.1 state.2) (host : Host) :
    ∃ later, detach (state.1, state.2.on host) =
        (match refusal? host state.1.attachment with
          | none => .ok ()
              ({ state.1 with session := none, heap := none, attachment := none }, later)
          | some refusal => .error (.refused refusal)
              ({ state.1 with session := none, heap := none }, later)) ∧
      later.host = host ∧
      later.ledger = state.2.ledger ++ letGoCalls host state.1.attachment ∧
      state.1.Ended state.2 later := by
  obtain ⟨later, hlater, hhost, hledger, hended⟩ :=
    @detach_run state.1 (state.2.on host) hc.heap_eq_none
  exact ⟨later, hlater, hhost, hledger, (precedes_on _ _).trans hended.precedes, hended.detached⟩

/-- What is to be given up for none is held on to as long as the debugger keeps hold of it. -/
theorem turn_effect_of_stuck (hs : turn.request.source? = none) (hc : Sound state.1 state.2)
    {refusal : Refusal} (hr : refusal? turn.host state.1.attachment = some refusal) :
    turn.Effect state (Inspector.turn state turn) := by
  obtain ⟨host, request⟩ := turn
  obtain ⟨later, hlater, -, hledger, hended⟩ := detach_on hc host
  rw [show refusal? host state.1.attachment = some refusal from hr] at hlater
  have hrun : request.perform (state.1, state.2.on host) =
      .error (.refused refusal) ({ state.1 with session := none, heap := none }, later) := by
    cases request with
    | attach => cases hs
    | attachByName => cases hs
    | loadCore => cases hs
    | detach => exact hlater
    | close => exact bind_of_error hlater
  have hturn : Inspector.turn state ⟨host, request⟩ = _ := (eq_error_iff.1 hrun).2
  rw [hturn]
  exact .stuck refusal (by simp [Turn.givesUp, hs]) hr (eq_error_iff.1 hrun).1 rfl hended hledger

theorem turn_effect_of_detach (hc : Sound state.1 state.2) {host : Host}
    (hr : refusal? host state.1.attachment = none) :
    Turn.Effect ⟨host, .detach⟩ state (Inspector.turn state ⟨host, .detach⟩) := by
  obtain ⟨later, hlater, -, hledger, hended⟩ := detach_on hc host
  rw [hr] at hlater
  have hturn : Inspector.turn state ⟨host, .detach⟩ = _ := (eq_ok_iff.1 hlater).2
  rw [hturn]
  refine .gaveUp rfl rfl hr (fun _ => (eq_ok_iff.1 hlater).1) rfl hended ?_
  rw [hledger]
  simp [Request.isClose]

/-- A close dismisses the debugger after that, unless its bindings are gone. -/
theorem turn_effect_of_close (hc : Sound state.1 state.2) {host : Host}
    (hr : refusal? host state.1.attachment = none) :
    Turn.Effect ⟨host, .close⟩ state (Inspector.turn state ⟨host, .close⟩) := by
  obtain ⟨freed, hfreed, hhost, hledger, hended⟩ := detach_on hc host
  rw [hr] at hfreed
  have hdismiss := @dismiss_run { state.1 with session := none, heap := none, attachment := none }
    freed hc.debugger
  dsimp only at hdismiss
  rw [hhost] at hdismiss
  by_cases hlost : (state.1.debugger.isSome && !host.bindings) = true
  · rw [if_pos hlost] at hdismiss
    have hrun : close (state.1, state.2.on host) = .error .bindingsLost _ :=
      (bind_of_ok hfreed).trans (bind_of_error hdismiss)
    have hturn : Inspector.turn state ⟨host, .close⟩ = _ := (eq_error_iff.1 hrun).2
    have hb : host.bindings = false := by
      simp only [Bool.and_eq_true, Bool.not_eq_true'] at hlost
      exact hlost.2
    rw [hturn]
    refine .gaveUp rfl rfl hr (fun h => absurd (hb.symm.trans h) Bool.false_ne_true) ?_ hended ?_
    · simp [hb]
    · simp [hb, hledger]
  · rw [if_neg hlost] at hdismiss
    have hrun : close (state.1, state.2.on host) = .ok () _ :=
      (bind_of_ok hfreed).trans ((bind_of_ok hdismiss).trans (lift_ok _ (eq_ok_iff.2 ⟨rfl, rfl⟩)))
    have hturn : Inspector.turn state ⟨host, .close⟩ = _ := (eq_ok_iff.1 hrun).2
    have hlog := Leads.log .info .inspector "Heapscope ended"
      (freed.note (if state.1.debugger.isSome then [.destroy] else []) [])
    rw [hturn]
    refine .gaveUp rfl rfl hr (fun _ => (eq_ok_iff.1 hrun).1) ?_
      (hended.trans ((Context.Precedes.note _ _ _).trans hlog.precedes) hc.numbered) ?_
    · cases hd : state.1.debugger <;> cases hb : host.bindings <;>
        simp_all [Request.isClose]
    · rw [hlog.ledger, Context.ledger_note, hledger, List.append_assoc]
      cases hd : state.1.debugger <;> cases hb : host.bindings <;>
        simp_all [Request.isClose, DebuggerCall.isMove, DebuggerCall.isDebugger]

theorem turn_effect (hc : Sound state.1 state.2) :
    turn.Effect state (Inspector.turn state turn) := by
  cases hs : turn.request.source? with
  | some source => exact turn_effect_of_source hs hc
  | none =>
    cases hr : refusal? turn.host state.1.attachment with
    | some refusal => exact turn_effect_of_stuck hs hc hr
    | none =>
      obtain ⟨host, request⟩ := turn
      cases request with
      | attach => cases hs
      | attachByName => cases hs
      | loadCore => cases hs
      | detach => exact turn_effect_of_detach hc hr
      | close => exact turn_effect_of_close hc hr

namespace Turn.Effect

variable {later : Inspector × Context}

theorem sound (he : turn.Effect state later) (hc : Sound state.1 state.2) :
    Sound later.1 later.2 := by
  cases he with
  | unserved _ _ hlater =>
    rw [hlater]
    exact hc.mono (Nat.le_refl _)
  | refused _ _ hlater hcount _ _ =>
    rw [hlater]
    exact ⟨nofun, fun _ => rfl, hc.heap, fun session hs => hcount ▸ hc.numbered session hs⟩
  | stuck _ _ _ _ hlater _ _ =>
    rw [hlater]
    exact ⟨hc.debugger, hc.target, rfl, nofun⟩
  | tookOver _ _ _ _ _ hlater hready _ _ =>
    rw [hlater]
    exact ⟨nofun, fun _ => rfl, rfl, fun session hs => (hready session hs).numbered⟩
  | gaveUp _ _ _ _ hlater _ _ =>
    rw [hlater]
    refine ⟨?_, nofun, rfl, nofun⟩
    dsimp only
    split
    · exact nofun
    · exact hc.debugger

/-- A turn ends the session that is held if it gives up what is held, and otherwise keeps it. -/
theorem session (he : turn.Effect state later) :
    (turn.givesUp state = true ∧ state.1.Ended state.2 later.2) ∨
      (turn.givesUp state = false ∧ later.1.session = state.1.session ∧
        state.2.Precedes later.2) := by
  cases he with
  | unserved hgives _ hlater =>
    rw [hlater]
    exact .inr ⟨hgives, rfl, precedes_on _ _⟩
  | refused hgives _ hlater hcount hphase _ =>
    rw [hlater]
    exact .inr ⟨hgives, rfl, .of_eq hcount hphase⟩
  | stuck _ hgives _ _ _ hended _ => exact .inl ⟨hgives, hended⟩
  | tookOver _ _ hgives _ _ _ _ hended _ => exact .inl ⟨hgives, hended⟩
  | gaveUp hgives _ _ _ _ hended _ => exact .inl ⟨hgives, hended⟩

end Turn.Effect

end Step

theorem sound_run {turns : List Turn} {state : Inspector × Context} (hc : Sound state.1 state.2) :
    Sound (run turns state).1 (run turns state).2 := by
  induction turns generalizing state with
  | nil => exact hc
  | cons first rest ih => exact ih ((turn_effect hc).sound hc)

end Inspector

end HeapProbe
