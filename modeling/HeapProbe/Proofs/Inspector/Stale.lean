import HeapProbe.Proofs.Heap.Query
import HeapProbe.Proofs.Inspector.Turn

/-! # Handles that outlive their target

A heap that an inspector hands out stays in its caller's hands, whatever becomes of the inspector. It
answers through the session that it was made of. That session is either the one that the inspector
holds, or it is over for good; and it is over once what was held is given up, even if the debugger
keeps hold of the process or no session can be resolved on the next target. From then on every query
fails before it looks at anything.
-/

namespace HeapProbe

open Probe

theorem Session.Call.advances {session : Session} (call : Session.Call)
    (hr : ∀ resolver, call = .resolve resolver → (session.findOut resolver).Leads) :
    (call.perform session).Advances := by
  have hquiet {α : Type} {probe : Probe α} (h : ∀ context : Context, after probe context = context) :
      Probe.Advances (do let _ ← probe) := by
    intro context
    rw [Session.after_discard, h]
    exact .refl context
  cases call with
  | resolve resolver => exact fun context => session.resolve_precedes (hr resolver rfl)
  | detach => exact fun context => session.detach_precedes
  | heap => exact hquiet fun context => Session.heap_run.2
  | ask part => exact hquiet fun context => (Session.ask_run part).2
  | isResolved => exact hquiet fun context => Session.isResolved_run.2

namespace Inspector

/-- What happens to an inspector and around it: requests, and uses of sessions, of heaps or of
anything else, on whatever the debugger's side is then. -/
inductive Event where
  | request (turn : Turn)
  | use (host : Host) (probe : Probe Unit) (advances : probe.Advances)

def event (state : Inspector × Context) : Event → Inspector × Context
  | .request next => turn state next
  | .use host probe _ => (state.1, after probe (state.2.on host))

def play (events : List Event) (state : Inspector × Context) : Inspector × Context :=
  events.foldl event state

theorem play_append (before later : List Event) (state : Inspector × Context) :
    play (before ++ later) state = play later (play before state) := List.foldl_append

section Event

variable {state : Inspector × Context}

theorem event_precedes (hc : Sound state.1 state.2) (next : Event) :
    state.2.Precedes (event state next).2 := by
  cases next with
  | use host probe advances => exact (precedes_on _ _).trans (advances _)
  | request turn =>
    rcases (@turn_effect turn _ hc).session with ⟨-, hended⟩ | ⟨-, -, hprecedes⟩
    · exact hended.precedes
    · exact hprecedes

theorem event_sound (hc : Sound state.1 state.2) (next : Event) :
    Sound (event state next).1 (event state next).2 := by
  cases next with
  | use host probe advances => exact hc.mono (event_precedes hc (.use host probe advances)).sessions
  | request turn => exact (turn_effect hc).sound hc

/-- The session was made, and is the one that is held or is over for good. -/
structure HeldOrOver (session : Session) (state : Inspector × Context) : Prop where
  made : session.id < state.2.sessionCount
  heldOrOver : state.1.session = some session ∨ state.2.phase session.id = .detached

variable {session : Session}

/-- No event brings a session back that the inspector gave up. -/
theorem HeldOrOver.event (h : HeldOrOver session state) (hc : Sound state.1 state.2)
    (next : Event) : HeldOrOver session (event state next) := by
  have hprecedes := event_precedes hc next
  refine ⟨Nat.lt_of_lt_of_le h.made hprecedes.sessions, ?_⟩
  rcases h.heldOrOver with hheld | hover
  · cases next with
    | use host probe advances => exact .inl hheld
    | request turn =>
      rcases (@turn_effect turn _ hc).session with ⟨-, hended⟩ | ⟨-, hsame, -⟩
      · exact .inr (hended.detached session hheld)
      · exact .inl (hsame.trans hheld)
  · exact .inr (hprecedes.detached session.id h.made hover)

end Event

section Play

variable {state : Inspector × Context}

theorem play_sound {events : List Event} (hc : Sound state.1 state.2) :
    Sound (play events state).1 (play events state).2 := by
  induction events generalizing state with
  | nil => exact hc
  | cons first rest ih => exact ih (event_sound hc first)

theorem HeldOrOver.play {session : Session} {events : List Event} (h : HeldOrOver session state)
    (hc : Sound state.1 state.2) : HeldOrOver session (play events state) := by
  induction events generalizing state with
  | nil => exact h
  | cons first rest ih => exact ih (h.event hc first) (event_sound hc first)

end Play

/-- Settings under which the size of a region is not read. -/
def sizedSettings : Settings := { layout := { regionSizeBytes := some 0x10000 } }

def attachOn (detachError : Option String) : Turn :=
  ⟨{ images := [{ detachError }] }, .attach (.value 4242) (some 0x1000)⟩

end Inspector

end HeapProbe
