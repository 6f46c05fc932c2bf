import HeapProbe.Proofs.Inspector.Order
import HeapProbe.Proofs.Inspector.Stale

/-! # Openings that fail

An opening can fail in one of two places. If the debugger opens nothing, everything is held as
before, and what was held cannot tell the difference. If no session can be resolved on the target that
was opened, the old one is already given up: the new target is held without a session, and is let go
once when it is given up in turn.
-/

namespace HeapProbe

open Probe

/-- A fresh session fails to be resolved only through a fault of its sources. -/
theorem Session.isInspection_of_resolve {session : Session} {available : Host → Prop}
    {resolver : Resolver} {context : Context} (hs : session.Sources available resolver)
    (ha : available context.host) (hfresh : context.phase session.id = .fresh) {fault : Fault}
    (hf : outcome (session.resolve resolver) context = .error fault) : fault.isInspection := by
  obtain ⟨hfaults, -, -⟩ := hs.findOut context ha
  rw [outcome_resolve_of_fresh hfresh] at hf
  cases ho : outcome (session.findOut resolver) context with
  | ok resolution =>
    rw [ho] at hf
    cases hf
  | error fault' =>
    rw [ho] at hf
    cases hf
    exact hfaults _ ho

namespace Inspector

theorem announce_blames (attachment : Attachment) :
    Blames (announce attachment) fun _ => False := by
  have hhost : Blames host fun _ => False := nofun
  have himage (index : Nat) : Blames (image index) fun _ => False := hhost.bind fun _ => .pure _
  have himage? : Blames attachment.target.image? fun _ => False := by
    unfold Target.image?
    split
    · exact .pure _
    · exact (himage _).bind fun _ => .pure _
  have hpath : Blames attachment.target.path fun _ => False := by
    refine himage?.bind fun image? => ?_
    cases image? <;> exact .pure _
  have hsize : Blames attachment.target.addressSize fun _ => False := by
    refine himage?.bind fun image? => ?_
    cases image? <;> exact .pure _
  have hpaused : Blames attachment.inferior.isPaused fun _ => False :=
    ((himage _).bind fun _ => hhost.bind fun _ => .pure _).bind fun _ => .pure _
  have hlog (level : LogLevel) (source : LogSource) (message : String) :
      Blames (log level source message) fun _ => False := nofun
  refine hpath.bind fun _ => hsize.bind fun _ => (hlog _ _ _).bind fun _ => hpaused.bind fun _ => ?_
  split
  · exact .pure _
  · exact ((himage _).bind fun _ => .pure _).bind fun _ => hlog _ _ _

section TakeOver

variable {inspector : Inspector} {context : Context}

theorem announce_run (attachment : Attachment) :
    ∃ later, announce attachment context = .ok () later ∧ context.Leads later := by
  have hleads := (announce_looks attachment 0).leads context
  cases ha : outcome (announce attachment) context with
  | ok _ => exact ⟨_, eq_ok_iff.2 ⟨ha, rfl⟩, hleads⟩
  | error fault => exact (announce_blames attachment context fault ha).elim

structure ResolvedFor (session : Session) (attachment : Attachment) (settings : Settings)
    (context : Context) : Prop where
  reader : ∃ size, session.reader = attachment.inferior.readerOfSize size
  settings : session.settings = settings
  resolution : ∃ resolution found, context.phase session.id = .resolved resolution ∧
    outcome (session.findOut attachment.target.resolver) found = .ok resolution

theorem resolve_ends (attachment : Attachment) (settings : Settings) (given : Option Int) :
    (∃ fault later, resolve attachment settings given context = .error fault later ∧
      later.host.bindings = context.host.bindings ∧
      (context.host.bindings → fault.isInspection)) ∨
    ∃ session later, resolve attachment settings given context = .ok session later ∧
      later.host.bindings = context.host.bindings ∧
      ResolvedFor session attachment settings later := by
  obtain ⟨size, heq⟩ := @resolve_eq context attachment settings given
  let reader := attachment.inferior.readerOfSize size
  let session : Session := ⟨context.sessionCount, reader, settings, given⟩
  let created := after (Session.create reader settings given) context
  have hsources : session.Sources (fun host => host.bindings) attachment.target.resolver :=
    .of_debugger rfl attachment.target
  have hfresh : created.phase session.id = .fresh := Session.phase_create reader settings given
  have hhost : created.host = context.host := rfl
  have hfind : (session.findOut attachment.target.resolver).Leads :=
    (findOut_looks rfl attachment.target 0).leads
  have hbindings : (after (session.resolve attachment.target.resolver) created).host.bindings =
      context.host.bindings :=
    session_resolve_keeps (fun context => context.host.bindings) (hfind created).bindings
      (fun _ _ => rfl) fun _ _ => rfl
  rw [heq]
  cases ho : outcome (session.resolve attachment.target.resolver) created with
  | error fault =>
    refine .inl ⟨fault, _, bind_of_error (eq_error_iff.2 ⟨ho, rfl⟩), hbindings, fun hb => ?_⟩
    rw [← hhost] at hb
    exact Session.isInspection_of_resolve hsources hb hfresh ho
  | ok _ =>
    obtain ⟨resolution, hresolved, hfound⟩ := session.resolved_of_resolve hfind ho
    exact .inr ⟨session, _, bind_of_ok (eq_ok_iff.2 ⟨ho, rfl⟩), hbindings, ⟨size, rfl⟩, rfl,
      resolution, created, hresolved, hfound hfresh⟩

/-- Once what was held is given up, taking over a target ends with a session that is resolved for it.
If there is none, the target is held all the same. -/
theorem takeOver_ends (hheap : inspector.session = none → inspector.heap = none)
    (hr : refusal? context.host inspector.attachment = none) (opened : Target × Inferior)
    (given : Option Int) (isCore : Bool) :
    let attachment : Attachment := ⟨opened.1, opened.2, isCore⟩
    (∃ fault later, takeOver opened given isCore (inspector, context) =
        .error fault ({ inspector with
          attachment := some attachment
          session := none
          heap := none }, later) ∧
      later.host.bindings = context.host.bindings ∧
      (context.host.bindings → fault.isInspection)) ∨
    ∃ session later, takeOver opened given isCore (inspector, context) =
        .ok () ({ inspector with
          attachment := some attachment
          session := some session
          heap := some ⟨session⟩ }, later) ∧
      later.host.bindings = context.host.bindings ∧
      ResolvedFor session attachment inspector.settings later := by
  intro attachment
  obtain ⟨freed, hfreed, hhost, -, -⟩ := @detach_run inspector context hheap
  rw [hr] at hfreed
  obtain ⟨announced, hannounced, hleads⟩ := @announce_run freed attachment
  have hbindings : announced.host.bindings = context.host.bindings := by
    rw [hleads.bindings, hhost]
  unfold takeOver
  rw [bind_of_ok hfreed, bind_of_ok (change_ok _ _), bind_of_ok (lift_ok _ hannounced),
    bind_of_ok (held_ok _)]
  rcases @resolve_ends announced attachment inspector.settings given with
    ⟨fault, later, hresolve, hsame, hblames⟩ | ⟨session, later, hresolve, hsame, hsession⟩
  · refine .inl ⟨fault, later, bind_of_error (lift_error _ hresolve), hsame.trans hbindings,
      fun hb => ?_⟩
    exact hblames (hbindings.trans hb)
  · obtain ⟨resolution, -, hphase, -⟩ := hsession.resolution
    refine .inr ⟨session, later, ?_, hsame.trans hbindings, hsession⟩
    rw [bind_of_ok (lift_ok _ hresolve), bind_of_ok (change_ok _ _),
      bind_of_ok (lift_ok _ (Session.heap_of_resolved hphase))]
    rfl

end TakeOver

section Turn

variable {turn : Turn} {state : Inspector × Context}

/-- A turn lets go of what it gives up, and makes the call for it once. -/
theorem detaches_turn (hc : Sound state.1 state.2) :
    (Inspector.turn state turn).2.detaches = state.2.detaches ++
      if turn.givesUp state then letGoCalls turn.host state.1.attachment else [] := by
  have hcreate : state.1.createCalls.filter DebuggerCall.isDetach = [] := by
    unfold createCalls
    split <;> rfl
  have hletGo : (letGoCalls turn.host state.1.attachment).filter DebuggerCall.isDetach =
      letGoCalls turn.host state.1.attachment :=
    List.filter_eq_self.2 fun _ => isDetach_of_mem_letGoCalls
  have heffect : turn.Effect state (Inspector.turn state turn) := turn_effect hc
  rw [Context.detaches_eq, Context.detaches_eq]
  cases heffect with
  | unserved hgives _ hlater =>
    rw [hgives, hlater, if_neg Bool.false_ne_true, List.append_nil]
    rfl
  | refused hgives _ _ _ _ hledger =>
    rw [hgives, hledger, if_neg Bool.false_ne_true, List.filter_append, hcreate]
  | stuck _ hgives _ _ _ _ hledger => rw [hgives, hledger, if_pos rfl, List.filter_append, hletGo]
  | tookOver _ _ hgives _ _ _ _ _ hledger =>
    rw [hgives, hledger, if_pos rfl, List.filter_append, List.filter_append, hcreate, hletGo,
      List.nil_append]
  | gaveUp hgives _ _ _ _ _ hledger =>
    have hdestroy : (if turn.request.isClose && turn.host.bindings && state.1.debugger.isSome then
        [DebuggerCall.destroy] else []).filter DebuggerCall.isDetach = [] := by
      split <;> rfl
    rw [hgives, hledger, if_pos rfl, List.filter_append, List.filter_append, hletGo, hdestroy,
      List.append_nil]

/-- What becomes of the target that is held, in a turn that opens no other. -/
theorem attachment_turn (hc : Sound state.1 state.2) (hopened : turn.opened state = none) :
    (Inspector.turn state turn).1.attachment =
      if turn.givesUp state ∧ refusal? turn.host state.1.attachment = none then none
      else state.1.attachment := by
  have heffect : turn.Effect state (Inspector.turn state turn) := turn_effect hc
  cases heffect with
  | unserved hgives _ hlater => rw [hlater, if_neg (by simp [hgives])]
  | refused hgives _ hlater => rw [hlater, if_neg (by simp [hgives])]
  | stuck _ _ hrefusal _ hlater => rw [hlater, if_neg (by simp [hrefusal])]
  | tookOver _ _ _ hsome => cases hopened.symm.trans hsome
  | gaveUp hgives _ hfree _ hlater =>
    have hboth : turn.givesUp state ∧ refusal? turn.host state.1.attachment = none :=
      ⟨hgives, hfree⟩
    rw [hlater, if_pos hboth]

/-- So it is with every request among the events, at its time. -/
def Throughout (holds : Turn → Inspector × Context → Prop) (events : List Event)
    (state : Inspector × Context) : Prop :=
  ∀ before turn later, events = before ++ .request turn :: later → holds turn (play before state)

abbrev Keeps : List Event → Inspector × Context → Prop :=
  Throughout fun turn state => turn.givesUp state = false

abbrev OpensNone : List Event → Inspector × Context → Prop :=
  Throughout fun turn state => turn.opened state = none

section Throughout

variable {holds : Turn → Inspector × Context → Prop} {events : List Event}

/-- What each request preserves is preserved throughout, since no other event touches it. -/
theorem Throughout.attachment (h : Throughout holds events state) (hc : Sound state.1 state.2)
    {kept : Option Attachment}
    (hstep : ∀ turn state, Sound state.1 state.2 → holds turn state →
      state.1.attachment = kept → (Inspector.turn state turn).1.attachment = kept)
    (hkept : state.1.attachment = kept) : (play events state).1.attachment = kept := by
  induction events generalizing state with
  | nil => exact hkept
  | cons first rest ih =>
    have htail : Throughout holds rest (event state first) := by
      intro before turn later hsplit
      exact h (first :: before) turn later (by rw [hsplit]; rfl)
    refine ih htail (event_sound hc first) ?_
    cases first with
    | use host probe advances => exact hkept
    | request turn => exact hstep turn state hc (h [] turn rest rfl) hkept

theorem Keeps.attachment (h : Keeps events state) (hc : Sound state.1 state.2) :
    (play events state).1.attachment = state.1.attachment := by
  refine Throughout.attachment h hc (fun turn between hc' hkeeps hkept => ?_) rfl
  have hopened : turn.opened between = none := by
    have hkeeps' := (Bool.or_eq_false_iff.1 hkeeps).2
    simpa using hkeeps'
  rw [attachment_turn hc' hopened, if_neg (by simp [hkeeps]), hkept]

theorem OpensNone.attachment (h : OpensNone events state) (hc : Sound state.1 state.2)
    (hnone : state.1.attachment = none) : (play events state).1.attachment = none := by
  refine Throughout.attachment h hc (fun turn between hc' hopened hkept => ?_) hnone
  rw [attachment_turn hc' hopened, hkept]
  split <;> rfl

end Throughout

theorem reader_of_play {settings : Settings} {context : Context} (events : List Event) :
    ∀ session, (play events ({ settings }, context)).1.session = some session →
      ∃ (inferior : Inferior) (size : Int), session.reader = inferior.readerOfSize size := by
  induction events using List.reverseRecOn with
  | nil => nofun
  | append_singleton events last ih =>
    have hc : Sound (play events ({ settings }, context)).1 (play events ({ settings }, context)).2 :=
      play_sound (.start settings context)
    intro session hs
    rw [play_append] at hs
    cases last with
    | use host probe advances => exact ih session hs
    | request turn =>
      change (Inspector.turn _ turn).1.session = some session at hs
      have heffect := @turn_effect turn _ hc
      cases heffect with
      | unserved _ _ hlater =>
        rw [hlater] at hs
        exact ih session hs
      | refused _ _ hlater =>
        rw [hlater] at hs
        exact ih session hs
      | stuck _ _ _ _ hlater =>
        rw [hlater] at hs
        cases hs
      | tookOver attachment _ _ _ _ hlater hready =>
        rw [hlater] at hs
        obtain ⟨size, hreader⟩ := (hready session hs).reader
        exact ⟨attachment.inferior, size, hreader⟩
      | gaveUp _ _ _ _ hlater =>
        rw [hlater] at hs
        cases hs

end Turn

/-- An inspector without a session has nothing to hand out. -/
structure Sessionless (state : Inspector × Context) : Prop where
  session : outcome theSession state = .error .noSession
  heap : outcome theHeap state = .error .noSession
  reporter : outcome reporter state = .error .noSession
  describe : outcome describe state = .error .noSession
  walk : ∀ accept visit, walk accept visit state = .ok ⟨[], .error .noSession⟩ state
  print : ∀ regions accept, print regions accept state = .ok ⟨"", .error .noSession⟩ state

theorem sessionless {state : Inspector × Context} (hs : state.1.session = none)
    (hh : state.1.heap = none) : Sessionless state := by
  obtain ⟨⟨settings, debugger, attachment, session, heap⟩, context⟩ := state
  cases hs
  cases hh
  exact ⟨rfl, rfl, rfl, rfl, fun _ _ => rfl, fun _ _ => rfl⟩

/-- Nothing was opened: everything is held as before, no process was let go, and no use of the session
that is held can tell the difference. -/
structure Untouched (state later : Inspector × Context) : Prop where
  held : later.1 = { state.1 with debugger := some .live }
  detaches : later.2.detaches = state.2.detaches
  unnoticed : ∀ session, state.1.session = some session →
    ∀ (α : Type) (probe : Probe α), session.Use probe → ∀ host : Host,
      outcome probe (later.2.on host) = outcome probe (state.2.on host) ∧
        probe.callsOf (later.2.on host) = probe.callsOf (state.2.on host)

/-- What was held is given up for a target on which there is no session. -/
structure Stranded (host : Host) (attachment : Attachment) (state later : Inspector × Context) :
    Prop where
  held : later.1 = { state.1 with
    debugger := some .live
    attachment := some attachment
    session := none
    heap := none }
  detached : ∀ session, state.1.session = some session → later.2.phase session.id = .detached
  detaches : later.2.detaches = state.2.detaches ++ letGoCalls host state.1.attachment
  sessionless : ∀ host : Host, Sessionless (later.1, later.2.on host)

/-- The target that is held is let go of by the next turn that gives it up, with one call if it is a
live process and with none if it is a core file. If that turn opens no other and the debugger lets go,
no process is let go of until another is opened. -/
structure LetsGoOnce (attachment : Attachment) (state : Inspector × Context) : Prop where
  next : ∀ between next, Keeps between state → next.givesUp (play between state) →
    (play (between ++ [.request next]) state).2.detaches =
      (play between state).2.detaches ++ letGoCalls next.host (some attachment)
  rest : ∀ between next idle again, Keeps between state → next.request.source? = none →
    refusal? next.host (some attachment) = none →
    OpensNone idle (play (between ++ [.request next]) state) →
    (play (between ++ [.request next] ++ idle ++ [.request again]) state).2.detaches =
      (play (between ++ [.request next] ++ idle) state).2.detaches

theorem play_concat (events : List Event) (turn : Turn) (state : Inspector × Context) :
    play (events ++ [.request turn]) state = Inspector.turn (play events state) turn :=
  play_append _ _ _

theorem letsGoOnce {state : Inspector × Context} (hc : Sound state.1 state.2)
    {attachment : Attachment} (ha : state.1.attachment = some attachment) :
    LetsGoOnce attachment state := by
  refine ⟨fun between next hkeeps hgives => ?_, fun between next idle again hkeeps hs hr hidle => ?_⟩
  · rw [play_concat, detaches_turn (play_sound hc), if_pos hgives, hkeeps.attachment hc, ha]
  · have hbetween : Sound (play between state).1 (play between state).2 := play_sound hc
    have hgiven : Sound (play (between ++ [.request next]) state).1
        (play (between ++ [.request next]) state).2 := play_sound hc
    have hopened : next.opened (play between state) = none := by simp [Turn.opened, hs]
    have hgives : next.givesUp (play between state) = true := by simp [Turn.givesUp, hs]
    have hnone : (play (between ++ [.request next]) state).1.attachment = none := by
      rw [play_concat, attachment_turn hbetween hopened, hkeeps.attachment hc, ha,
        if_pos ⟨hgives, hr⟩]
    rw [play_concat, detaches_turn (play_sound hc), play_append _ idle,
      hidle.attachment hgiven hnone]
    split <;> exact List.append_nil _

/-- **A failed opening leaves one of two states.** Whatever an inspector went through, an opening was
asked for, with the bindings loaded and the debugger ready to let the old process go, and it failed.
Either the debugger refused it, and nothing is touched but that there is a debugger. Or a target was
opened and its inspection is to blame: what was held is given up for that target, there is no session
to ask for anything, and the new target is let go of once. -/
theorem failed_opening_leaves {settings : Settings} {context : Context} {events : List Event}
    {last : Turn} {fault : Fault} (hopens : last.request.source?.isSome)
    (hb : last.host.bindings)
    (hletsGo : LetsGo last.host (play events ({ settings }, context)).1.attachment)
    (hfails : last.ending (play events ({ settings }, context)) = .error fault) :
    let before := play events ({ settings }, context)
    let now := play (events ++ [.request last]) ({ settings }, context)
    (∃ refusal, fault = .refused refusal ∧ last.opened before = none ∧ Untouched before now) ∨
    (fault.isInspection ∧ ∃ attachment, last.opened before = some attachment ∧
      attachment.isCore = last.request.isCore ∧ Stranded last.host attachment before now ∧
      LetsGoOnce attachment now) := by
  intro before now
  have hbefore : Sound before.1 before.2 := play_sound (.start settings context)
  have hnow : now = turn before last := play_concat _ _ _
  have hsound : Sound now.1 now.2 := play_sound (.start settings context)
  have hrefusal := hletsGo.refusal?_eq_none
  unfold Turn.ending at hfails
  cases turn_opening hbefore.debugger (fun _ => hb) hopens with
  | refused fault' calls records hopened hcalls hfault hrun =>
    rw [(eq_error_iff.1 hrun).1] at hfails
    cases hfails
    obtain ⟨refusal, rfl⟩ := hfault hb
    refine .inl ⟨refusal, rfl, hopened, ?_⟩
    have hquiet : calls.filter DebuggerCall.isDetach = [] := by
      rw [List.filter_eq_nil_iff]
      intro call hc
      rcases List.mem_append.1 (hcalls.subset hc) with hstart | hasked
      · simp [not_isDetach_of_startCalls call hstart]
      · simp [DebuggerCall.isDetach_eq_false (Request.not_isMove_of_asked call hasked)]
    have hlater : now = ({ before.1 with debugger := some .live },
        (before.2.on last.host).note calls records) := by
      rw [hnow, Inspector.turn, (eq_error_iff.1 hrun).2]
    rw [hlater]
    refine ⟨rfl, ?_, fun session hs α probe huse host => ?_⟩
    · rw [Context.detaches_note, hquiet]
      exact List.append_nil _
    · obtain ⟨inferior, size, hreader⟩ := reader_of_play events session hs
      exact (huse.oblivious hreader).of_note (before.2.on host) calls records
  | met opened asked hopened htrace himages hbindings hrun =>
    have hrefusal' : refusal? asked.host before.1.attachment = none := by
      rw [← hrefusal]
      unfold refusal?
      rw [himages]
    let attachment : Attachment := ⟨opened.1, opened.2, last.request.isCore⟩
    obtain ⟨later, hlater, hblames⟩ : ∃ later, last.request.perform (before.1, before.2.on last.host) =
        .error fault ({ before.1 with
          debugger := some .live
          attachment := some attachment
          session := none
          heap := none }, later) ∧ fault.isInspection := by
      rcases @takeOver_ends { before.1 with debugger := some .live } asked hbefore.heap_eq_none
          hrefusal' opened last.request.heapAddress last.request.isCore with
        ⟨fault', later, hlater, -, hblames⟩ | ⟨session, later, hlater, -, -⟩
      · rw [← hrun] at hlater
        cases hfails.symm.trans (eq_error_iff.1 hlater).1
        exact ⟨later, hlater, hblames (hbindings.trans hb)⟩
      · rw [← hrun] at hlater
        cases hfails.symm.trans (eq_ok_iff.1 hlater).1
    have hgives : last.givesUp before = true := by simp [Turn.givesUp, hopened]
    have hheld' : now.1 = { before.1 with
        debugger := some .live
        attachment := some attachment
        session := none
        heap := none } := by
      rw [hnow, Inspector.turn, (eq_error_iff.1 hlater).2]
    have hended : before.1.Ended before.2 now.2 := by
      rw [hnow]
      rcases (@turn_effect last before hbefore).session with ⟨-, hended⟩ | ⟨hkeeps, -, -⟩
      · exact hended
      · exact absurd (hkeeps.symm.trans hgives) Bool.false_ne_true
    refine .inr ⟨hblames, attachment, hopened, rfl, ⟨hheld', hended.detached, ?_, fun host => ?_⟩,
      letsGoOnce hsound ?_⟩
    · rw [hnow, detaches_turn hbefore, if_pos hgives]
    · apply sessionless
      · rw [hheld']
      · rw [hheld']
    · rw [hheld']

def attachAbsent : Turn := ⟨twoProcesses none, .attach (.value 9) none⟩

/-- While a session is held, an attach to a process that is not there touches nothing. After one to a
process whose heap is not found, both processes are let go of by the time the inspector is closed. -/
theorem failed_attaches_over_held_session :
    let before := play [.request (attachOn none)] ({ settings := sizedSettings }, {})
    Untouched before (turn before attachAbsent) ∧
      (turn before attachOther).1.session = none ∧
      (turn (turn before attachOther) ⟨twoProcesses none, .close⟩).2.detaches =
        [.detach 4242, .detach 7] := by
  intro before
  have hletsGo : LetsGo (twoProcesses none) before.1.attachment := by
    rintro held ⟨⟩ -
    rfl
  have habsent : attachAbsent.ending before =
      .error (.refused (.attach (.value 9) "no such process")) := rfl
  have hother : attachOther.ending before = .error (.unavailable 0x5000 8
      (some (.refused (.read 0x5000 8 "memory read failed for 0x5000")))) := rfl
  refine ⟨?_, ?_⟩
  · rcases failed_opening_leaves rfl rfl hletsGo habsent with ⟨_, -, -, huntouched⟩ | ⟨hblames, -⟩
    · exact huntouched
    · cases hblames
  · rcases failed_opening_leaves rfl rfl hletsGo hother with
      ⟨_, hrefused, -⟩ | ⟨-, attachment, hopened, -, hstranded, honce⟩
    · cases hrefused
    · cases hopened
      have hcloses := honce.next [] ⟨twoProcesses none, .close⟩ (by simp [Keeps, Throughout]) rfl
      refine ⟨congrArg Inspector.session hstranded.held, hcloses.trans ?_⟩
      exact congrArg (· ++ [DebuggerCall.detach 7]) hstranded.detaches

end Inspector

end HeapProbe
