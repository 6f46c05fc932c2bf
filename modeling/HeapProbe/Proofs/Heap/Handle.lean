import HeapProbe.Proofs.Heap.Query
import HeapProbe.Proofs.Probe.Oblivious
import HeapProbe.Proofs.Session.Lifecycle

/-! # Handles never look back

Sessions and heaps are handles: what they answer depends on the debugger's side and on the phases of
the sessions, and never on what was called or logged before. So is what a walk does, as long as its
visitor does not look back either.
-/

namespace HeapProbe

open Probe

namespace Session

variable (session : Session)

theorem state_oblivious : session.state.Oblivious := .of_still fun _ _ => ⟨rfl, rfl⟩

theorem assign_oblivious (change : SessionState → SessionState) :
    (session.assign change).Oblivious := .of_still fun _ _ => ⟨rfl, rfl⟩

theorem create_oblivious (reader : Reader) (settings : Settings) (given : Option Int) :
    (Session.create reader settings given).Oblivious := .of_still fun _ _ => ⟨rfl, rfl⟩

theorem detach_oblivious : session.detach.Oblivious :=
  (session.assign_oblivious SessionState.detach).bind fun _ => .log _ _ _

theorem resolution_oblivious : session.resolution.Oblivious := .of_looks session.resolution_looks

theorem isResolved_oblivious : session.isResolved.Oblivious :=
  session.state_oblivious.bind fun _ => .pure _

theorem establish_oblivious {resolver : Resolver} (h : (session.findOut resolver).Oblivious) :
    (session.establish resolver).Oblivious := by
  have hpublish (resolution : Resolution) : (session.publish resolution).Oblivious :=
    (session.assign_oblivious _).bind fun _ => (session.assign_oblivious _).bind fun _ =>
      (session.assign_oblivious _).bind fun _ => session.assign_oblivious _
  have hannounce (resolution : Resolution) : (session.announce resolution).Oblivious := by
    unfold announce
    split
    · exact .log _ _ _
    · exact .pure ()
  exact h.bind fun resolution => (hpublish resolution).bind fun _ => hannounce resolution

theorem resolve_oblivious {resolver : Resolver} (h : (session.findOut resolver).Oblivious) :
    (session.resolve resolver).Oblivious := by
  have hremember (fault : Fault) : (session.remember fault).Oblivious := by
    unfold remember
    split
    · exact (Oblivious.log _ _ _).bind fun _ => session.assign_oblivious _
    · exact .pure ()
  have hrequire (condition : Prop) [Decidable condition] (fault : Fault) :
      (require condition fault).Oblivious := .of_looks (.require condition fault : Looks _ 0)
  refine session.state_oblivious.bind fun state => (hrequire _ _).bind fun _ => ?_
  split
  · cases state.failure with
    | some failure => exact .throw failure
    | none => exact .pure ()
  · refine (session.establish_oblivious h).attempt.bind fun result => ?_
    cases result with
    | ok _ => exact session.assign_oblivious _
    | error fault => exact (hremember fault).bind fun _ => .throw fault

/-- What a caller can do with a session and with the heap that is made of it: anything that is put
together from these steps, over a target that may change in between. -/
inductive Use : {α : Type} → Probe α → Prop where
  | pure {α : Type} (value : α) : Use (pure value)
  | throw {α : Type} (fault : Fault) : Use (throw fault : Probe α)
  | bind {α β : Type} {probe : Probe α} {next : α → Probe β} :
      Use probe → (∀ value, Use (next value)) → Use (probe >>= next)
  | attempt {α : Type} {probe : Probe α} : Use probe → Use (attempt probe)
  | meanwhile (host : Host) : Use (modify fun context => context.on host)
  | resolve (resolver : Resolver) (h : (session.findOut resolver).Oblivious) :
      Use (session.resolve resolver)
  | detach : Use session.detach
  | isResolved : Use session.isResolved
  | resolution : Use session.resolution
  | readAt (offset : HeapLayout → Int) : Use (Heap.readAt ⟨session⟩ offset)
  | used : Use (Heap.used ⟨session⟩)
  | regionAt (index : Int) : Use (Heap.regionAt ⟨session⟩ index)
  | walk (accept : RegionFilter) {visit : Region → Probe Unit} :
      (∀ region, Use (visit region)) → Use (Heap.walk ⟨session⟩ accept visit)

namespace Use

variable {session : Session}

protected theorem ofExcept {α : Type} (result : Except Fault α) :
    session.Use (Probe.ofExcept result) := by
  cases result with
  | ok value => exact .pure value
  | error fault => exact .throw fault

theorem compositional : Heap.Compositional fun _ probe => session.Use probe where
  pure := .pure
  bind := .bind
  check _ := .ofExcept _
  needNumerals numbers := by
    unfold needNumerals require
    split
    · exact .pure ()
    · exact .throw _

theorem parts : Heap.Parts ⟨session⟩ fun _ probe => session.Use probe where
  readAt := .readAt
  used := .used
  regionSizeBytes := resolution.bind fun _ => .pure _
  regionAt := .regionAt
  regions accept := (walk accept fun _ => .pure ()).bind fun walk =>
    (Use.ofExcept walk.outcome).bind fun _ => .pure _

/-- Every query is a use, if what its visitor does is one. -/
theorem query (query : Heap.Query)
    (hv : ∀ visit accept, query = .iterate visit accept → ∀ region, session.Use (visit region)) :
    session.Use (query.perform ⟨session⟩) :=
  parts.perform compositional query fun visit accept hquery =>
    (walk accept (hv visit accept hquery)).bind fun walk => .ofExcept walk.outcome

theorem oblivious {inferior : Inferior} {kept : Int}
    (hr : session.reader = inferior.readerOfSize kept) {α : Type} {probe : Probe α}
    (h : session.Use probe) : probe.Oblivious := by
  have hinherited : Heap.Inherited fun _ probe => probe.Oblivious :=
    { looks := Oblivious.of_looks
      bind := Oblivious.bind
      attempt := Oblivious.attempt }
  induction h with
  | pure value => exact .pure value
  | throw fault => exact .throw fault
  | bind _ _ hfirst hnext => exact hfirst.bind hnext
  | attempt _ htried => exact htried.attempt
  | meanwhile host => exact .of_still fun _ _ => ⟨rfl, rfl⟩
  | resolve resolver hfind => exact session.resolve_oblivious hfind
  | detach => exact session.detach_oblivious
  | isResolved => exact session.isResolved_oblivious
  | resolution => exact session.resolution_oblivious
  | readAt offset => exact .of_looks (@Heap.readAt_looks ⟨session⟩ inferior kept hr offset)
  | used => exact .of_looks (@Heap.used_looks ⟨session⟩ inferior kept hr)
  | regionAt index => exact .of_looks (@Heap.regionAt_looks ⟨session⟩ inferior kept hr index)
  | walk accept _ hv => exact @Heap.Inherited.walk ⟨session⟩ inferior kept _ hinherited hr accept _ hv

end Use

end Session

end HeapProbe
