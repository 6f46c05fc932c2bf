import HeapProbe.Proofs.Inspector.Ownership
import Mathlib.Data.List.Perm.Basic

/-! # When the debugger keeps hold of a process

A debugger that is asked to let a process go can refuse. Then nothing of what was to follow happens.
A target that was opened in the same turn is not taken over: the process behind it is dropped without
a detach, and only the old one is held. A close leaves the debugger where it is. Both depend on
nothing but that refusal, whatever the inspector went through before.
-/

namespace HeapProbe

open Probe

namespace Inspector

section Ledger

variable {turn : Turn} {state later : Inspector × Context}

theorem count_letGoCalls {call : DebuggerCall} (h : call.isDebugger) (host : Host)
    (attachment : Option Attachment) : (letGoCalls host attachment).count call = 0 := by
  rw [← List.count_filter h, filter_letGoCalls]
  rfl

/-- A turn adds to the ledger, and creates a debugger more than it destroys exactly if one is there
afterwards that was not there before. -/
theorem Turn.Effect.balance (he : turn.Effect state later) :
    ∃ moves, later.2.ledger = state.2.ledger ++ moves ∧
      moves.count .create + state.1.debugger.isSome.toNat =
        moves.count .destroy + later.1.debugger.isSome.toNat := by
  have hcreate : state.1.createCalls.count .create + state.1.debugger.isSome.toNat =
      state.1.createCalls.count .destroy + 1 := by
    unfold createCalls
    cases state.1.debugger <;> rfl
  have hnocreate : (letGoCalls turn.host state.1.attachment).count .create = 0 :=
    count_letGoCalls rfl _ _
  have hnodestroy : (letGoCalls turn.host state.1.attachment).count .destroy = 0 :=
    count_letGoCalls rfl _ _
  cases he with
  | unserved _ _ hlater =>
    refine ⟨[], ?_, by rw [hlater]; rfl⟩
    rw [hlater, List.append_nil]
    rfl
  | refused _ _ hlater _ _ hledger =>
    refine ⟨_, hledger, ?_⟩
    rw [hlater, hcreate]
    rfl
  | stuck _ _ _ _ hlater _ hledger =>
    refine ⟨_, hledger, ?_⟩
    rw [hlater, hnocreate, hnodestroy]
  | tookOver _ _ _ _ _ hlater _ _ hledger =>
    refine ⟨_, hledger, ?_⟩
    rw [hlater, List.count_append, List.count_append, hnocreate, hnodestroy]
    exact hcreate
  | gaveUp _ _ _ _ hlater _ hledger =>
    refine ⟨_, hledger, ?_⟩
    rw [hlater, List.count_append, List.count_append, hnocreate, hnodestroy]
    cases turn.request.isClose && turn.host.bindings <;> cases state.1.debugger <;> rfl

theorem ledger_run (turns : List Turn) {start : Inspector × Context} (hc : Sound start.1 start.2) :
    (run turns start).2.ledger = start.2.ledger ++ moved turns start ∧
      (moved turns start).count .create + start.1.debugger.isSome.toNat =
        (moved turns start).count .destroy + (run turns start).1.debugger.isSome.toNat := by
  have hmoves : ∃ moves, (run turns start).2.ledger = start.2.ledger ++ moves ∧
      moves.count .create + start.1.debugger.isSome.toNat =
        moves.count .destroy + (run turns start).1.debugger.isSome.toNat := by
    induction turns using List.reverseRecOn with
    | nil => exact ⟨[], (List.append_nil _).symm, rfl⟩
    | append_singleton turns last ih =>
      obtain ⟨moves, hledger, hcount⟩ := ih
      obtain ⟨more, hmore, hcount'⟩ := (@turn_effect last _ (sound_run hc)).balance
      rw [run_concat]
      refine ⟨moves ++ more, by rw [hmore, hledger, List.append_assoc], ?_⟩
      rw [List.count_append, List.count_append]
      omega
  obtain ⟨moves, hledger, hcount⟩ := hmoves
  have hmoved := moved_eq hledger
  exact ⟨hmoved ▸ hledger, hmoved ▸ hcount⟩

theorem moved_concat {turns : List Turn} {last : Turn} {start : Inspector × Context}
    (hc : Sound start.1 start.2) {moves : List DebuggerCall}
    (hm : (Inspector.turn (run turns start) last).2.ledger =
      (run turns start).2.ledger ++ moves) :
    moved (turns ++ [last]) start = moved turns start ++ moves := by
  apply moved_eq
  rw [run_concat, hm, (ledger_run turns hc).1, List.append_assoc]

end Ledger

section Processes

def live (attachment? : Option Attachment) : List Attachment :=
  attachment?.toList.filter fun attachment => !attachment.isCore

namespace Turn

variable (turn : Turn) (state : Inspector × Context)

def released : List Attachment :=
  if turn.givesUp state && (refusal? turn.host state.1.attachment).isNone then
    live state.1.attachment
  else []

/-- The process that is opened in a turn in which the debugger keeps hold of the old one. -/
def dropped : List Attachment :=
  if (refusal? turn.host state.1.attachment).isSome then live (turn.opened state) else []

/-- A process that is held or opened is let go, dropped or held afterwards. -/
theorem processes (hc : Sound state.1 state.2) :
    (live state.1.attachment ++ live (turn.opened state)).Perm
      (turn.released state ++ turn.dropped state ++
        live (Inspector.turn state turn).1.attachment) := by
  have hnone (hgives : turn.givesUp state = false) : turn.opened state = none := by
    simp only [givesUp, Bool.or_eq_false_iff, Option.isSome_eq_false_iff] at hgives
    simpa using hgives.2
  have hkept (hgives : turn.givesUp state = false)
      (hlater : (Inspector.turn state turn).1.attachment = state.1.attachment) :
      (live state.1.attachment ++ live (turn.opened state)).Perm
        (turn.released state ++ turn.dropped state ++
          live (Inspector.turn state turn).1.attachment) := by
    simp [released, dropped, hgives, hnone hgives, hlater, live]
  have heffect : turn.Effect state _ := turn_effect hc
  cases heffect with
  | unserved hgives _ hlater => exact hkept hgives (by rw [hlater])
  | refused hgives _ hlater _ _ _ => exact hkept hgives (by rw [hlater])
  | stuck refusal _ hrefusal _ hlater _ _ =>
    simpa [released, dropped, hrefusal, hlater] using List.perm_append_comm
  | tookOver attachment _ hgives hopened hfree hlater _ _ _ =>
    simp [released, dropped, hgives, hfree, hopened, hlater]
  | gaveUp hgives hopened hfree _ hlater _ _ =>
    simp [released, dropped, hgives, hfree, hopened, hlater, live]

end Turn

def gather (collect : Turn → Inspector × Context → List Attachment) :
    List Turn → Inspector × Context → List Attachment
  | [], _ => []
  | first :: rest, state => collect first state ++ gather collect rest (turn state first)

theorem gather_concat (collect : Turn → Inspector × Context → List Attachment) (turns : List Turn)
    (last : Turn) (start : Inspector × Context) :
    gather collect (turns ++ [last]) start =
      gather collect turns start ++ collect last (run turns start) := by
  induction turns generalizing start with
  | nil => simp [gather, run]
  | cons first rest ih =>
    rw [List.cons_append, gather, ih, gather, List.append_assoc]
    rfl

def processes (turns : List Turn) (start : Inspector × Context) : List Attachment :=
  (openings turns start).filter fun attachment => !attachment.isCore

theorem processes_concat {turns : List Turn} {start : Inspector × Context} (last : Turn)
    (hc : Sound (run turns start).1 (run turns start).2) :
    processes (turns ++ [last]) start =
      processes turns start ++ live (last.opened (run turns start)) := by
  rw [processes, openings_concat, List.filter_append, Turn.openings_eq hc]
  rfl

/-- Over every run of a new inspector, each process that was opened was let go, was dropped or is
held. -/
theorem processes_perm (settings : Settings) (context : Context) (turns : List Turn) :
    let start : Inspector × Context := ({ settings }, context)
    (processes turns start).Perm
      (gather Turn.released turns start ++ gather Turn.dropped turns start ++
        live (run turns start).1.attachment) := by
  intro start
  induction turns using List.reverseRecOn with
  | nil => exact .refl _
  | append_singleton turns last ih =>
    have hsound : Sound (run turns start).1 (run turns start).2 :=
      sound_run (.start settings context)
    have hlast := last.processes (run turns start) hsound
    -- Each of the collections grows in another place, so that occurrences are counted.
    rw [processes_concat last hsound, gather_concat, gather_concat, run_concat]
    rw [List.perm_iff_count] at ih hlast ⊢
    intro attachment
    have hbefore := ih attachment
    have hturn := hlast attachment
    simp only [List.count_append] at hbefore hturn ⊢
    omega

def NoneLost (turns : List Turn) (start : Inspector × Context) : Prop :=
  (processes turns start).Perm
    (gather Turn.released turns start ++ live (run turns start).1.attachment)

theorem noneLost_iff {settings : Settings} {context : Context} {turns : List Turn} :
    NoneLost turns ({ settings }, context) ↔
      gather Turn.dropped turns ({ settings }, context) = [] := by
  have hperm := processes_perm settings context turns
  dsimp only at hperm
  constructor
  · intro h
    have hlength := hperm.length_eq.symm.trans h.length_eq
    simp only [List.length_append] at hlength
    exact List.eq_nil_of_length_eq_zero (by omega)
  · intro h
    rw [h, List.append_nil] at hperm
    exact hperm

end Processes

/-- **An opening that gets stuck.** Whatever a new inspector went through, if the debugger opens a
target but keeps hold of the process that is to be given up for it, the turn ends with that refusal.
The old process is still held, without a session, and was the only one that the debugger was asked to
let go. The new one is dropped if it is a live process: that no process is lost stays true of a core
file only. -/
theorem stuck_opening_drops_process {settings : Settings} {context : Context} {turns : List Turn}
    {last : Turn} {opened : Attachment} {refusal : Refusal}
    (hopened : last.opened (run turns ({ settings }, context)) = some opened)
    (hrefusal : refusal? last.host (run turns ({ settings }, context)).1.attachment = some refusal) :
    let start : Inspector × Context := ({ settings }, context)
    let before := run turns start
    let now := run (turns ++ [last]) start
    last.ending before = .error (.refused refusal) ∧
    now.1 = { before.1 with session := none, heap := none } ∧
    moved (turns ++ [last]) start =
      moved turns start ++ letGoCalls last.host before.1.attachment ∧
    gather Turn.dropped (turns ++ [last]) start =
      gather Turn.dropped turns start ++ live (some opened) ∧
    (NoneLost (turns ++ [last]) start ↔ NoneLost turns start ∧ opened.isCore) := by
  intro start before now
  have hstart : Sound start.1 start.2 := .start settings context
  have hdropped : gather Turn.dropped (turns ++ [last]) start =
      gather Turn.dropped turns start ++ live (some opened) := by
    rw [gather_concat, Turn.dropped, hrefusal, hopened]
    rfl
  have hlost : NoneLost (turns ++ [last]) start ↔ NoneLost turns start ∧ opened.isCore := by
    rw [noneLost_iff, noneLost_iff, hdropped, List.append_eq_nil_iff]
    cases hcore : opened.isCore <;> simp [start, live, hcore]
  have hnow : now = turn before last := run_concat turns last start
  have heffect : last.Effect before (turn before last) := turn_effect (sound_run hstart)
  -- Of all that a turn can do, only one case has a target opened and the old one held.
  cases heffect with
  | unserved hgives =>
    simp [Turn.givesUp, show last.opened before = _ from hopened] at hgives
  | refused _ hnone =>
    rw [show last.opened before = _ from hopened] at hnone
    cases hnone
  | stuck refusal' _ hrefusal' hending hlater _ hledger =>
    rw [show refusal? last.host before.1.attachment = _ from hrefusal] at hrefusal'
    cases hrefusal'
    exact ⟨hending, hnow ▸ hlater, moved_concat hstart hledger, hdropped, hlost⟩
  | tookOver _ _ _ _ hfree =>
    rw [show refusal? last.host before.1.attachment = _ from hrefusal] at hfree
    cases hfree
  | gaveUp _ _ hfree =>
    rw [show refusal? last.host before.1.attachment = _ from hrefusal] at hfree
    cases hfree

/-- Two processes, of which the debugger can keep hold of the first. -/
def twoProcesses (detachError : Option String) : Host :=
  { images := [{ detachError }, { pid := 7, name := "jshell" }] }

def attachFirst : Turn := ⟨twoProcesses none, .attach (.value 4242) none⟩

def attachSecond : Turn := ⟨twoProcesses (some "busy"), .attach (.value 7) none⟩

/-- The second process is lost: the debugger was asked to let go of the first one only. -/
theorem attachSecond_drops_process :
    moved [attachFirst, attachSecond] ({ settings := {} }, {}) = [.create, .detach 4242] ∧
      ¬ NoneLost [attachFirst, attachSecond] ({ settings := {} }, {}) := by
  have hopened : attachSecond.opened (run [attachFirst] ({ settings := {} }, {})) =
      some ⟨⟨some 1⟩, ⟨1, ⟨some 1⟩⟩, false⟩ := rfl
  have hrefusal : refusal? attachSecond.host
      (run [attachFirst] ({ settings := {} }, {})).1.attachment = some (.detach "busy") := rfl
  obtain ⟨-, -, hmoved, -, hlost⟩ := stuck_opening_drops_process hopened hrefusal
  refine ⟨hmoved, fun h => ?_⟩
  cases (hlost.1 h).2

/-- Not every process is held after an opening that got stuck. -/
theorem not_noneLost_of_stuck_opening :
    ¬ ∀ (turns : List Turn) (last : Turn),
      (last.opened (run turns ({ settings := {} }, {}))).isSome →
      (refusal? last.host (run turns ({ settings := {} }, {})).1.attachment).isSome →
      NoneLost (turns ++ [last]) ({ settings := {} }, {}) := by
  intro h
  have hlength := (h [attachFirst] attachSecond rfl rfl).length_eq
  cases hlength

/-- **Closing.** Whatever a new inspector went through, a close with the bindings loaded leaves it
without a debugger exactly if the debugger lets the held process go; as many were then destroyed as
were created. If the debugger keeps hold of the process, the close ends with that refusal and the
debugger is held as before: it is one of those created that was not destroyed. -/
theorem close_releases_unless_stuck {settings : Settings} {context : Context} {host : Host}
    (turns : List Turn) (hb : host.bindings) :
    let start : Inspector × Context := ({ settings }, context)
    let before := run turns start
    let closed := turns ++ [⟨host, .close⟩]
    ((run closed start).1.debugger = none ↔ refusal? host before.1.attachment = none) ∧
    (refusal? host before.1.attachment = none →
      Turn.ending ⟨host, .close⟩ before = .ok () ∧
      (moved closed start).count .create = (moved closed start).count .destroy) ∧
    ∀ refusal, refusal? host before.1.attachment = some refusal →
      Turn.ending ⟨host, .close⟩ before = .error (.refused refusal) ∧
      (run closed start).1 = { before.1 with session := none, heap := none } ∧
      (run closed start).1.debugger = some .live ∧
      moved closed start = moved turns start ++ letGoCalls host before.1.attachment ∧
      (moved closed start).count .create = (moved closed start).count .destroy + 1 := by
  intro start before closed
  have hstart : Sound start.1 start.2 := .start settings context
  have hbefore : Sound before.1 before.2 := sound_run hstart
  have hnow : run closed start = turn before ⟨host, .close⟩ := run_concat _ _ _
  have hbalance := (ledger_run closed hstart).2
  rw [hnow] at hbalance ⊢
  have heffect : Turn.Effect ⟨host, .close⟩ before (turn before ⟨host, .close⟩) :=
    turn_effect hbefore
  cases heffect with
  | unserved hgives => cases hgives
  | refused hgives => cases hgives
  | tookOver _ _ _ hopened => cases hopened
  | stuck refusal _ hrefusal hending hlater _ hledger =>
    obtain ⟨attachment, hattachment, -⟩ := attachment_of_refusal hrefusal
    have hlive : (turn before ⟨host, .close⟩).1.debugger = some .live := by
      rw [hlater]
      exact hbefore.debugger_eq hattachment
    rw [hlive] at hbalance ⊢
    refine ⟨⟨nofun, fun hfree => ?_⟩, fun hfree => ?_, fun refusal' hrefusal' => ?_⟩
    · cases hrefusal.symm.trans hfree
    · cases hrefusal.symm.trans hfree
    · cases hrefusal.symm.trans hrefusal'
      exact ⟨hending, hlater, rfl, moved_concat hstart hledger, hbalance⟩
  | gaveUp _ _ hfree hending hlater _ _ =>
    have hgone : (turn before ⟨host, .close⟩).1.debugger = none := by
      rw [hlater]
      simp [Request.isClose, hb]
    rw [hgone] at hbalance ⊢
    refine ⟨⟨fun _ => hfree, fun _ => rfl⟩, fun _ => ⟨hending hb, hbalance⟩, fun refusal hrefusal => ?_⟩
    cases hrefusal.symm.trans hfree

/-- A close while the debugger keeps hold of the process leaves a debugger that is not destroyed. -/
theorem close_while_stuck_keeps_debugger :
    (moved ([attachFirst] ++ [⟨twoProcesses (some "busy"), .close⟩])
        ({ settings := {} }, {})).count .create =
      (moved ([attachFirst] ++ [⟨twoProcesses (some "busy"), .close⟩])
        ({ settings := {} }, {})).count .destroy + 1 := by
  have hrefusal : refusal? (twoProcesses (some "busy"))
      (run [attachFirst] ({ settings := {} }, {})).1.attachment = some (.detach "busy") := rfl
  exact ((@close_releases_unless_stuck {} {} (twoProcesses (some "busy")) [attachFirst] rfl).2.2
    _ hrefusal).2.2.2.2

/-- Not every close releases the debugger. -/
theorem not_released_by_every_close :
    ¬ ∀ (turns : List Turn) (host : Host), host.bindings →
      (run (turns ++ [⟨host, .close⟩]) ({ settings := {} }, {})).1.debugger = none := by
  intro h
  cases h [attachFirst] (twoProcesses (some "busy")) rfl

end Inspector

end HeapProbe
