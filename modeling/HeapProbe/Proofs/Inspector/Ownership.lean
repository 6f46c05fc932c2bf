import HeapProbe.Proofs.Inspector.Opened
import Mathlib.Data.List.Induction

/-! # What an inspector owns

Over any sequence of requests, whether they are met or refused, an inspector keeps its books. Every
live process that it opened was let go or is held, every debugger that it created was destroyed or is
held, and a session is held only together with its heap and on the target that is held.
-/

namespace HeapProbe

open Probe

namespace Inspector

structure Turn.Granted (turn : Turn) (state : Inspector × Context) : Prop where
  bindings : turn.host.bindings
  letsGo : turn.givesUp state → LetsGo turn.host state.1.attachment

/-- What an inspector holds belongs together: the session to its heap and to the target, the target
to the debugger. -/
structure Consistent (inspector : Inspector) (context : Context) : Prop
    extends Sound inspector context where
  session : ∀ session, inspector.session = some session →
    (∃ resolution, context.phase session.id = .resolved resolution) ∧
    ∃ attachment size, inspector.attachment = some attachment ∧
      session.reader = attachment.inferior.readerOfSize size

inductive Turn.Moves (turn : Turn) (state later : Inspector × Context) : Prop where
  /-- The debugger opened nothing, and everything is held as before. -/
  | refused (hgives : turn.givesUp state = false) (hopened : turn.opened state = none)
      (hlater : later.1 = { state.1 with debugger := some .live })
      (hphase : later.2.phase = state.2.phase)
      (hledger : later.2.ledger = state.2.ledger ++ state.1.createCalls)
  /-- The debugger opened a target, for which the old one was given up. -/
  | tookOver (attachment : Attachment) (session? : Option Session)
      (hgives : turn.givesUp state) (hopened : turn.opened state = some attachment)
      (hlater : later.1 = { state.1 with
        debugger := some .live
        attachment := some attachment
        session := session?
        heap := session?.map Heap.mk })
      (hsession : ∀ session, session? = some session →
        (∃ size, session.reader = attachment.inferior.readerOfSize size) ∧
        ∃ resolution, later.2.phase session.id = .resolved resolution)
      (hledger : later.2.ledger =
        state.2.ledger ++ (state.1.createCalls ++ letGoCalls turn.host state.1.attachment))
  | gaveUp (closed : Bool) (hgives : turn.givesUp state) (hopened : turn.opened state = none)
      (hlater : later.1 = { state.1 with
        debugger := if closed then none else state.1.debugger
        attachment := none
        session := none
        heap := none })
      (hledger : later.2.ledger =
        state.2.ledger ++ (letGoCalls turn.host state.1.attachment ++
          if closed && state.1.debugger.isSome then [.destroy] else []))

theorem turn_moves {turn : Turn} {state : Inspector × Context} (hc : Consistent state.1 state.2)
    (hg : turn.Granted state) : turn.Moves state (Inspector.turn state turn) := by
  have heffect : turn.Effect state _ := turn_effect hc.toSound
  cases heffect with
  | unserved _ hbindings _ => exact absurd (hbindings.symm.trans hg.bindings) Bool.false_ne_true
  | refused hgives hopened hlater _ hphase hledger =>
    exact .refused hgives hopened hlater hphase hledger
  | stuck refusal hgives hrefusal _ _ _ _ =>
    rw [(hg.letsGo hgives).refusal?_eq_none] at hrefusal
    cases hrefusal
  | tookOver attachment session? hgives hopened _ hlater hready _ hledger =>
    exact .tookOver attachment session? hgives hopened hlater
      (fun session hs => ⟨(hready session hs).reader, (hready session hs).resolved⟩) hledger
  | gaveUp hgives hopened _ _ hlater _ hledger => exact .gaveUp _ hgives hopened hlater hledger

/-- What the calls that a run makes open, in order. -/
def openings : List Turn → Inspector × Context → List Attachment
  | [], _ => []
  | first :: rest, state => first.openings state ++ openings rest (turn state first)

theorem openings_concat (turns : List Turn) (last : Turn) (start : Inspector × Context) :
    openings (turns ++ [last]) start =
      openings turns start ++ last.openings (run turns start) := by
  induction turns generalizing start with
  | nil => simp [openings, run]
  | cons first rest ih =>
    rw [List.cons_append, openings, ih, openings, List.append_assoc]
    rfl

def moved (turns : List Turn) (start : Inspector × Context) : List DebuggerCall :=
  (run turns start).2.ledger.drop start.2.ledger.length

theorem moved_eq {turns : List Turn} {start : Inspector × Context} {moves : List DebuggerCall}
    (h : (run turns start).2.ledger = start.2.ledger ++ moves) : moved turns start = moves := by
  rw [moved, h, List.drop_left]

def holdsLive (inspector : Inspector) : Bool :=
  inspector.attachment.any fun attachment => !attachment.isCore

theorem countP_letGoCalls (host : Host) (inspector : Inspector) :
    (letGoCalls host inspector.attachment).countP DebuggerCall.isDetach =
      inspector.holdsLive.toNat := by
  unfold letGoCalls holdsLive
  cases inspector.attachment with
  | none => rfl
  | some attachment => cases h : attachment.isCore <;> simp [h, DebuggerCall.isDetach]

theorem filter_letGoCalls (host : Host) (attachment : Option Attachment) :
    (letGoCalls host attachment).filter DebuggerCall.isDebugger = [] := by
  refine List.filter_eq_nil_iff.2 fun call hc => ?_
  have hdetach := isDetach_of_mem_letGoCalls hc
  cases call <;> first | exact Bool.false_ne_true | cases hdetach

/-- Whether a debugger is there once it was created and destroyed in turn, which begins with whether
one was there. It is not known if they do not come in turn. -/
def debuggerAfter : Bool → List DebuggerCall → Option Bool
  | there, [] => some there
  | false, .create :: rest => debuggerAfter true rest
  | true, .destroy :: rest => debuggerAfter false rest
  | _, _ :: _ => none

theorem debuggerAfter_append (there : Bool) (calls calls' : List DebuggerCall) :
    debuggerAfter there (calls ++ calls') =
      (debuggerAfter there calls).bind fun there => debuggerAfter there calls' := by
  induction calls generalizing there with
  | nil => rfl
  | cons call rest ih =>
    cases there <;> cases call <;> first | rfl | exact ih _

theorem debuggerAfter_cons {there later : Bool} {call : DebuggerCall} {rest : List DebuggerCall}
    (h : debuggerAfter there (call :: rest) = some later) :
    call = (if there then .destroy else .create) ∧ debuggerAfter (!there) rest = some later := by
  cases there <;> cases call <;> first | exact ⟨rfl, h⟩ | cases h

/-- Debuggers that come and go in turn are created once more than destroyed if one is there. -/
theorem count_of_debuggerAfter {there later : Bool} {calls : List DebuggerCall}
    (h : debuggerAfter there calls = some later) :
    calls.count .create + there.toNat = calls.count .destroy + later.toNat := by
  induction calls generalizing there with
  | nil =>
    cases h
    rfl
  | cons call rest ih =>
    obtain ⟨rfl, hrest⟩ := debuggerAfter_cons h
    have := ih hrest
    cases there <;> simp at this ⊢ <;> omega

theorem isChain_of_debuggerAfter {there later : Bool} {calls : List DebuggerCall}
    (h : debuggerAfter there calls = some later) : calls.IsChain (· ≠ ·) := by
  induction calls generalizing there with
  | nil => exact .nil
  | cons call rest ih =>
    obtain ⟨rfl, hrest⟩ := debuggerAfter_cons h
    cases rest with
    | nil => exact .singleton _
    | cons next rest =>
      refine .cons_cons ?_ (ih hrest)
      rw [(debuggerAfter_cons hrest).1]
      cases there <;> simp

structure Accounts (start : Inspector × Context) (turns : List Turn) : Prop where
  consistent : Consistent (run turns start).1 (run turns start).2
  ledger : (run turns start).2.ledger = start.2.ledger ++ moved turns start
  processes : (openings turns start).countP (fun attachment => !attachment.isCore) =
    (moved turns start).countP DebuggerCall.isDetach + (run turns start).1.holdsLive.toNat
  debuggers : debuggerAfter false ((moved turns start).filter DebuggerCall.isDebugger) =
    some (run turns start).1.debugger.isSome
  /-- What is held was opened in one of the turns, and no debugger has come or gone since. -/
  opener : ∀ attachment, (run turns start).1.attachment = some attachment →
    ∃ before turn later, turns = before ++ turn :: later ∧
      turn.openings (run before start) = [attachment] ∧
      (moved (before ++ [turn]) start).filter DebuggerCall.isDebugger =
        (moved turns start).filter DebuggerCall.isDebugger

theorem accounts_nil (settings : Settings) (context : Context) :
    Accounts ({ settings }, context) [] where
  consistent := ⟨.start settings context, nofun⟩
  ledger := by simp [moved, run]
  processes := by simp [moved, run, openings, holdsLive]
  debuggers := by simp [moved, run, debuggerAfter]
  opener := nofun

theorem createCalls_facts (inspector : Inspector) :
    inspector.createCalls.countP DebuggerCall.isDetach = 0 ∧
      inspector.createCalls.filter DebuggerCall.isDebugger = inspector.createCalls ∧
      debuggerAfter inspector.debugger.isSome inspector.createCalls = some true := by
  unfold createCalls
  cases inspector.debugger.isSome <;> exact ⟨rfl, rfl, rfl⟩

section Concat

variable {start : Inspector × Context} {turns : List Turn} {last : Turn}

theorem Accounts.moved_concat (h : Accounts start turns) {moves : List DebuggerCall}
    (hm : (turn (run turns start) last).2.ledger = (run turns start).2.ledger ++ moves) :
    moved (turns ++ [last]) start = moved turns start ++ moves ∧
      (run (turns ++ [last]) start).2.ledger = start.2.ledger ++ moved (turns ++ [last]) start := by
  have hledger : (run (turns ++ [last]) start).2.ledger =
      start.2.ledger ++ (moved turns start ++ moves) := by
    rw [run_concat, hm, h.ledger, List.append_assoc]
  have hmoved := moved_eq hledger
  exact ⟨hmoved, by rw [hledger, hmoved]⟩

theorem Accounts.refused (h : Accounts start turns)
    (hsound : Sound (turn (run turns start) last).1 (turn (run turns start) last).2)
    (hopened : last.openings (run turns start) = [])
    (hlater : (turn (run turns start) last).1 =
      { (run turns start).1 with debugger := some .live })
    (hphase : (turn (run turns start) last).2.phase = (run turns start).2.phase)
    (hledger : (turn (run turns start) last).2.ledger =
      (run turns start).2.ledger ++ (run turns start).1.createCalls) :
    Accounts start (turns ++ [last]) := by
  obtain ⟨hmoved, hprefix⟩ := h.moved_concat hledger
  obtain ⟨hcount, hfilter, hafter⟩ := createCalls_facts (run turns start).1
  have hc := h.consistent
  refine ⟨?_, hprefix, ?_, ?_, ?_⟩
  · rw [run_concat]
    refine ⟨hsound, ?_⟩
    rw [hlater, hphase]
    exact hc.session
  · rw [openings_concat, hopened, hmoved, run_concat, hlater, List.countP_append,
      List.countP_append, hcount]
    exact h.processes
  · rw [hmoved, List.filter_append, debuggerAfter_append, h.debuggers, hfilter, run_concat, hlater]
    exact hafter
  · intro attachment ha
    rw [run_concat, hlater] at ha
    have hd := hc.target (by rw [show (run turns start).1.attachment = _ from ha]; rfl)
    have hsame : moved (turns ++ [last]) start = moved turns start := by
      rw [hmoved, createCalls, if_pos hd, List.append_nil]
    obtain ⟨before, turn, later, hsplit, hturn, hlife⟩ := h.opener attachment ha
    exact ⟨before, turn, later ++ [last], by simp [hsplit], hturn, by rw [hsame, hlife]⟩

theorem Accounts.tookOver (h : Accounts start turns)
    (hsound : Sound (turn (run turns start) last).1 (turn (run turns start) last).2)
    {attachment : Attachment} {session? : Option Session}
    (hopened : last.openings (run turns start) = [attachment])
    (hlater : (turn (run turns start) last).1 = { (run turns start).1 with
      debugger := some .live
      attachment := some attachment
      session := session?
      heap := session?.map Heap.mk })
    (hsession : ∀ session, session? = some session →
      (∃ size, session.reader = attachment.inferior.readerOfSize size) ∧
      ∃ resolution, (turn (run turns start) last).2.phase session.id = .resolved resolution)
    (hledger : (turn (run turns start) last).2.ledger =
      (run turns start).2.ledger ++ ((run turns start).1.createCalls ++
        letGoCalls last.host (run turns start).1.attachment)) :
    Accounts start (turns ++ [last]) := by
  obtain ⟨hmoved, hprefix⟩ := h.moved_concat hledger
  obtain ⟨hcount, hfilter, hafter⟩ := createCalls_facts (run turns start).1
  refine ⟨?_, hprefix, ?_, ?_, ?_⟩
  · rw [run_concat]
    refine ⟨hsound, fun session hs => ?_⟩
    rw [hlater] at hs ⊢
    obtain ⟨⟨size, hreader⟩, hresolved⟩ := hsession session hs
    exact ⟨hresolved, attachment, size, rfl, hreader⟩
  · have hp := h.processes
    rw [openings_concat, hopened, hmoved, run_concat, hlater]
    simp only [List.countP_append, hcount, countP_letGoCalls]
    cases hcore : attachment.isCore <;> simp [holdsLive, hcore] at hp ⊢ <;> omega
  · rw [hmoved, List.filter_append, List.filter_append, filter_letGoCalls, List.append_nil,
      debuggerAfter_append, h.debuggers, hfilter, run_concat, hlater]
    exact hafter
  · intro held ha
    rw [run_concat, hlater] at ha
    cases ha
    exact ⟨turns, last, [], rfl, hopened, rfl⟩

theorem Accounts.gaveUp (h : Accounts start turns)
    (hsound : Sound (turn (run turns start) last).1 (turn (run turns start) last).2) {closed : Bool}
    (hopened : last.openings (run turns start) = [])
    (hlater : (turn (run turns start) last).1 = { (run turns start).1 with
      debugger := if closed then none else (run turns start).1.debugger
      attachment := none
      session := none
      heap := none })
    (hledger : (turn (run turns start) last).2.ledger =
      (run turns start).2.ledger ++ (letGoCalls last.host (run turns start).1.attachment ++
        if closed && (run turns start).1.debugger.isSome then [.destroy] else [])) :
    Accounts start (turns ++ [last]) := by
  obtain ⟨hmoved, hprefix⟩ := h.moved_concat hledger
  refine ⟨?_, hprefix, ?_, ?_, ?_⟩
  · rw [run_concat]
    refine ⟨hsound, ?_⟩
    rw [hlater]
    nofun
  · have hp := h.processes
    have hdestroy : (if closed && (run turns start).1.debugger.isSome then
        [DebuggerCall.destroy] else []).countP DebuggerCall.isDetach = 0 := by
      split <;> rfl
    rw [openings_concat, hopened, hmoved, run_concat, hlater]
    simp only [List.countP_append, countP_letGoCalls, hdestroy]
    exact hp
  · rw [hmoved, List.filter_append, List.filter_append, filter_letGoCalls,
      debuggerAfter_append, h.debuggers, run_concat, hlater]
    cases closed with
    | false => rfl
    | true => cases (run turns start).1.debugger <;> rfl
  · intro attachment ha
    rw [run_concat, hlater] at ha
    cases ha

/-- Every turn keeps the books. -/
theorem Accounts.concat (h : Accounts start turns) (hg : last.Granted (run turns start)) :
    Accounts start (turns ++ [last]) := by
  have hmoves := turn_moves h.consistent hg
  have hsound := (@turn_effect last _ h.consistent.toSound).sound h.consistent.toSound
  have hopenings : last.openings (run turns start) = _ := Turn.openings_eq h.consistent.toSound
  cases hmoves with
  | refused _ hopened hlater hphase hledger =>
    rw [hopened] at hopenings
    exact h.refused hsound hopenings hlater hphase hledger
  | tookOver attachment session? _ hopened hlater hsession hledger =>
    rw [hopened] at hopenings
    exact h.tookOver hsound hopenings hlater hsession hledger
  | gaveUp closed _ hopened hlater hledger =>
    rw [hopened] at hopenings
    exact h.gaveUp hsound hopenings hlater hledger

/-- Of the processes, a turn lets go of the one that it gives up. -/
theorem Accounts.detaches_concat (h : Accounts start turns) (hg : last.Granted (run turns start)) :
    (moved (turns ++ [last]) start).filter DebuggerCall.isDetach =
      (moved turns start).filter DebuggerCall.isDetach ++
        if last.givesUp (run turns start) then
          letGoCalls last.host (run turns start).1.attachment else [] := by
  have hcreate : (run turns start).1.createCalls.filter DebuggerCall.isDetach = [] := by
    unfold createCalls
    split <;> rfl
  have hletGo (attachment : Option Attachment) :
      (letGoCalls last.host attachment).filter DebuggerCall.isDetach =
        letGoCalls last.host attachment :=
    List.filter_eq_self.2 fun _ => isDetach_of_mem_letGoCalls
  have hmoves := turn_moves h.consistent hg
  cases hmoves with
  | refused hgives hopened hlater hphase hledger =>
    rw [(h.moved_concat hledger).1, List.filter_append, hcreate, hgives]
    rfl
  | tookOver attachment session? hgives hopened hlater hsession hledger =>
    rw [(h.moved_concat hledger).1, List.filter_append, List.filter_append, hcreate, hletGo,
      if_pos hgives, List.nil_append]
  | gaveUp closed hgives hopened hlater hledger =>
    have hdestroy : (if closed && (run turns start).1.debugger.isSome then
        [DebuggerCall.destroy] else []).filter DebuggerCall.isDetach = [] := by
      split <;> rfl
    rw [(h.moved_concat hledger).1, List.filter_append, List.filter_append, hletGo, hdestroy,
      if_pos hgives, List.append_nil]

end Concat

/-- In every turn of a run the bindings are loaded, and the debugger lets a process go when it is
asked to. -/
def Granted (turns : List Turn) (start : Inspector × Context) : Prop :=
  ∀ before turn later, turns = before ++ turn :: later → turn.Granted (run before start)

theorem Granted.of_append {before later : List Turn} {start : Inspector × Context}
    (h : Granted (before ++ later) start) : Granted before start := by
  intro first turn rest hsplit
  exact h first turn (rest ++ later) (by simp [hsplit])

theorem Granted.last {turns : List Turn} {last : Turn} {start : Inspector × Context}
    (h : Granted (turns ++ [last]) start) : last.Granted (run turns start) :=
  h turns last [] rfl

theorem accounts_of_granted {settings : Settings} {context : Context} {turns : List Turn}
    (h : Granted turns ({ settings }, context)) : Accounts ({ settings }, context) turns := by
  induction turns using List.reverseRecOn with
  | nil => exact accounts_nil settings context
  | append_singleton turns last ih => exact (ih h.of_append).concat h.last

/-- **What an inspector owns.** Whatever is asked of a new inspector, in whatever order and over
whatever images, and whether it is met or refused: it has a session exactly if it has a heap, and
then the session is resolved, the heap is the session's, and its reader reads the target that is
held. Every live process that was opened was let go or is held; a process is let go in the turn that
gives it up, under its own number, and a core file never is. Debuggers are created and destroyed in
turn, and what is held was opened by the debugger that is held. -/
theorem owns_what_it_opened {settings : Settings} {context : Context} {turns : List Turn}
    (h : Granted turns ({ settings }, context)) :
    let start : Inspector × Context := ({ settings }, context)
    let now := run turns start
    let moves := moved turns start
    now.1.session.isSome = now.1.heap.isSome ∧
    (∀ session, now.1.session = some session →
      now.1.heap = some ⟨session⟩ ∧ outcome session.isResolved now.2 = .ok true ∧
      ∃ attachment size, now.1.attachment = some attachment ∧
        session.reader = attachment.inferior.readerOfSize size) ∧
    (openings turns start).countP (fun attachment => !attachment.isCore) =
      moves.countP DebuggerCall.isDetach + now.1.holdsLive.toNat ∧
    (∀ before turn later, turns = before ++ turn :: later →
      (moved (before ++ [turn]) start).filter DebuggerCall.isDetach =
        (moved before start).filter DebuggerCall.isDetach ++
          if turn.givesUp (run before start) then
            letGoCalls turn.host (run before start).1.attachment else []) ∧
    moves.count .create = moves.count .destroy + now.1.debugger.isSome.toNat ∧
    (moves.filter DebuggerCall.isDebugger).IsChain (· ≠ ·) ∧
    ∀ attachment, now.1.attachment = some attachment →
      now.1.debugger = some .live ∧
      ∃ before turn later, turns = before ++ turn :: later ∧
        turn.openings (run before start) = [attachment] ∧
        (moved (before ++ [turn]) start).filter DebuggerCall.isDebugger =
          moves.filter DebuggerCall.isDebugger := by
  intro start now moves
  have ha := accounts_of_granted h
  have hc := ha.consistent
  refine ⟨?_, ?_, ha.processes, ?_, ?_, isChain_of_debuggerAfter ha.debuggers, ?_⟩
  · rw [hc.heap, Option.isSome_map]
  · intro session hs
    obtain ⟨⟨resolution, hphase⟩, hreader⟩ := hc.session session hs
    refine ⟨by rw [hc.heap, hs]; rfl, ?_, hreader⟩
    rw [Session.isResolved_run.1, hphase]
    rfl
  · intro before turn later hsplit
    have hprefix : Granted (before ++ [turn]) start := by
      have hsplit' : turns = (before ++ [turn]) ++ later := by simp [hsplit]
      rw [hsplit'] at h
      exact h.of_append
    exact (accounts_of_granted hprefix.of_append).detaches_concat hprefix.last
  · have hcount := count_of_debuggerAfter ha.debuggers
    rw [List.count_filter rfl, List.count_filter rfl] at hcount
    exact hcount
  · intro attachment hheld
    have hd : now.1.debugger.isSome := hc.target (by rw [hheld]; rfl)
    obtain ⟨debugger, hdebugger⟩ := Option.isSome_iff_exists.1 hd
    refine ⟨?_, ha.opener attachment hheld⟩
    cases debugger with
    | live => exact hdebugger
    | released => exact absurd hdebugger hc.debugger

/-- A process is attached to, on which no session can be resolved, and the inspector is closed. -/
def attachThenClose : List Turn :=
  [⟨{ images := [{}] }, .attach (.value 4242) none⟩, ⟨{ images := [{}] }, .close⟩]

theorem attachThenClose_lets_go :
    (openings attachThenClose ({ settings := {} }, {})).countP
        (fun attachment => !attachment.isCore) = 1 ∧
      (moved attachThenClose ({ settings := {} }, {})).countP DebuggerCall.isDetach = 1 := by
  have hletsGo (attachment : Option Attachment) : LetsGo { images := [{}] } attachment := by
    intro held _ _
    cases held.inferior.image <;> rfl
  have hgranted : Granted attachThenClose ({ settings := {} }, {}) := by
    intro before turn later hsplit
    have hmem : turn ∈ attachThenClose := by simp [hsplit]
    simp only [attachThenClose, List.mem_cons, List.not_mem_nil, or_false] at hmem
    rcases hmem with rfl | rfl <;> exact ⟨rfl, fun _ => hletsGo _⟩
  have hprocesses := (owns_what_it_opened hgranted).2.2.1
  have hopened : (openings attachThenClose ({ settings := {} }, {})).countP
    (fun attachment => !attachment.isCore) = 1 := rfl
  have hnone : (run attachThenClose ({ settings := {} }, {})).1.holdsLive = false := rfl
  rw [hopened, hnone] at hprocesses
  exact ⟨hopened, hprocesses.symm⟩

end Inspector

end HeapProbe
