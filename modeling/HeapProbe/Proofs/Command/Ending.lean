import HeapProbe.Command.Run
import HeapProbe.Proofs.Heap.Printout
import HeapProbe.Proofs.Inspector.Failure

/-! # How the command ends

The command opens a source, prints about it and closes, and each of the three can fail. It ends by
the first of closing, opening and printing that does. Openings and closings fail only in ways that are
reported, and so do printouts, but for two: nothing can be printed from a blank address, and a number
can be too long to write.
-/

namespace HeapProbe

open Probe

theorem Fault.isReportable_of_isInspection {fault : Fault} (h : fault.isInspection) :
    fault.isReportable := by
  cases fault <;> first | rfl | exact h

namespace Inspector

/-- The inspector can be closed: what it holds is sound, and the bindings of its debugger are there. -/
structure Closable (state : Inspector × Context) : Prop where
  sound : Sound state.1 state.2
  bindings : state.1.debugger.isSome → state.2.host.bindings

theorem Closable.note {state : Inspector × Context} (h : Closable state)
    (calls : List DebuggerCall) (records : List LogRecord) :
    Closable (state.1, state.2.note calls records) := ⟨h.sound.mono (Nat.le_refl _), h.bindings⟩

theorem reporter_of_heap {state : Inspector × Context} {heap : Heap}
    (h : state.1.heap = some heap) :
    reporter state = .ok { heap, heapName := state.1.settings.heapName } state := by
  have hheap : theHeap state = .ok heap state := by
    unfold theHeap
    rw [bind_of_ok (held_ok _), h]
    rfl
  unfold reporter
  rw [bind_of_ok hheap, bind_of_ok (held_ok _)]
  rfl

/-- A heap has been opened that a reporter can see. -/
structure Opened (names : LayoutNames) (opened : Inspector × Context) (heap : Heap) (view : View)
    (resolution : Resolution) : Prop where
  holds : opened.1.heap = some heap
  sees : heap.Sees (opened.2.scene heap.session.id) view resolution
  bindings : view.host.bindings
  size : names.regionSizeBytes = some resolution.regionSizeBytes ∨
    IsWord resolution.regionSizeBytes

/-- What there is after an opening. It can be closed however the opening ended, a fault is one that is
reported, and where there is none, there is a heap. -/
structure AfterOpening (names : LayoutNames) (ending : Except Fault Unit)
    (opened : Inspector × Context) : Prop where
  closable : Closable opened
  reportable : ∀ fault, ending = .error fault → fault.isReportable
  heap : ending = .ok () → ∃ heap view resolution, Opened names opened heap view resolution

namespace AfterOpening

variable {request : Request} {names : LayoutNames} {start opened : Inspector × Context}

theorem sound_after (hc : Sound start.1 start.2) :
    Sound (after request.perform start).1 (after request.perform start).2 :=
  (@turn_effect ⟨start.2.host, request⟩ start hc).sound hc

theorem of_error {fault : Fault} (hc : Sound start.1 start.2)
    (h : request.perform start = .error fault opened)
    (hb : opened.1.debugger.isSome → opened.2.host.bindings) (hf : fault.isReportable) :
    AfterOpening names (outcome request.perform start) (after request.perform start) := by
  have hsound := @sound_after request start hc
  obtain ⟨ho, ha⟩ := eq_error_iff.1 h
  rw [ha] at hsound
  rw [ho, ha]
  refine ⟨⟨hsound, hb⟩, ?_, nofun⟩
  rintro _ ⟨⟩
  exact hf

theorem of_session {session : Session} {attachment : Attachment} {settings : Settings}
    (hc : Sound start.1 start.2) (h : request.perform start = .ok () opened)
    (hb : opened.2.host.bindings) (hheap : opened.1.heap = some ⟨session⟩)
    (hsession : ResolvedFor session attachment settings opened.2) :
    AfterOpening settings.layout (outcome request.perform start)
      (after request.perform start) := by
  have hsound := @sound_after request start hc
  obtain ⟨ho, ha⟩ := eq_ok_iff.1 h
  obtain ⟨size, hreader⟩ := hsession.reader
  obtain ⟨resolution, found, hphase, hfound⟩ := hsession.resolution
  have hsize := Session.regionSize_of_findOut hreader _ found resolution hfound
  rw [hsession.settings] at hsize
  rw [ha] at hsound
  rw [ho, ha]
  exact ⟨⟨hsound, fun _ => hb⟩, nofun,
    fun _ => ⟨⟨session⟩, _, resolution, hheap, .of_phase hreader hphase, hb, hsize⟩⟩

end AfterOpening

/-- The first opening of an inspector ends with a heap, or in a way that is reported. -/
theorem Request.opens {request : Request} {inspector : Inspector} {context : Context}
    (hc : Sound inspector context) (hd : inspector.debugger = none)
    (ha : inspector.attachment = none) (hopens : request.source?.isSome) :
    AfterOpening inspector.settings.layout (outcome request.perform (inspector, context))
      (after request.perform (inspector, context)) := by
  by_cases hb : context.host.bindings
  · let turn : Turn := ⟨context.host, request⟩
    cases @turn_opening turn (inspector, context) hc.debugger (fun _ => hb) hopens with
    | refused fault calls records _ _ hfault hrun =>
      obtain ⟨refusal, rfl⟩ := hfault hb
      exact .of_error hc hrun (fun _ => hb) rfl
    | met target asked _ _ _ hbindings hrun =>
      have hfree : refusal? asked.host inspector.attachment = none := by
        rw [ha]
        rfl
      rcases @takeOver_ends { inspector with debugger := some .live } asked hc.heap_eq_none hfree
        target request.heapAddress request.isCore with
        ⟨fault, later, htaken, hsame, hblames⟩ | ⟨session, later, htaken, hsame, hsession⟩
      · exact .of_error hc (hrun.trans htaken) (fun _ => hsame.trans (hbindings.trans hb))
          (Fault.isReportable_of_isInspection (hblames (hbindings.trans hb)))
      · exact .of_session hc (hrun.trans htaken) (hsame.trans (hbindings.trans hb)) rfl hsession
  · obtain ⟨source, hs⟩ := Option.isSome_iff_exists.1 hopens
    have hrun : request.perform (inspector, context) =
        .error (.refused .bindingsMissing) (inspector, context) := by
      rw [Request.perform_of_source hs]
      exact bind_of_error (request_of_unbound source hd (by simpa using hb))
    refine .of_error hc hrun (fun hlive => ?_) rfl
    rw [show (inspector, context).1.debugger = none from hd] at hlive
    cases hlive

end Inspector

namespace Invocation

variable (invocation : Invocation) (settings : Settings) (context : Context)

def start : Inspector × Context :=
  let settings := { settings with verbose := settings.verbose || invocation.verbose }
  ({ settings }, after (Inspector.create settings) context)

def request : Inspector.Request :=
  match nonEmpty invocation.core, nonEmpty invocation.name with
  | some core, _ =>
    .loadCore ((nonEmpty invocation.executable).getD "") core invocation.openingAddress
  | none, some name => .attachByName name invocation.openingAddress
  | none, none => .attach invocation.pid invocation.openingAddress

theorem openSource_eq : invocation.openSource = invocation.request.perform := by
  unfold openSource request
  cases nonEmpty invocation.core with
  | some core => rfl
  | none => cases nonEmpty invocation.name <;> rfl

theorem source?_request : invocation.request.source?.isSome := by
  unfold request
  cases nonEmpty invocation.core with
  | some core => rfl
  | none => cases nonEmpty invocation.name <;> rfl

def listed : RegionFilter :=
  if invocation.all then RegionFilter.everything else RegionFilter.liveOnly

theorem afterOpening :
    let start := invocation.start settings context
    Inspector.AfterOpening settings.layout (outcome invocation.openSource start)
      (after invocation.openSource start) := by
  intro start
  rw [openSource_eq]
  exact @Inspector.Request.opens invocation.request start.1 start.2 (.start _ _) rfl rfl
    invocation.source?_request

/-- What is printed about a heap that was opened, and how that ends. -/
inductive Prints (opened : Inspector × Context) : List String → Except Fault Unit → Prop where
  | blank (h : invocation.heapAddress = .blank) : Prints opened [] (.error .blankAddress)
  | blocks {reporter : Reporter} {texts : List String} {ending : Except Fault Unit}
      (hblank : invocation.heapAddress ≠ .blank)
      (hreporter : outcome Inspector.reporter opened = .ok reporter)
      (hshows : Printout.Shows ((reporter.blocks (invocation.regions || invocation.all)
        invocation.listed).map fun block => outcome block opened.2) texts ending)
      (hrests : reporter.Rests invocation.listed opened.2 texts) : Prints opened texts ending

/-- What is not reported: that nothing can be printed from a blank address, and a number that the
settings make too long to write. -/
def Unreported (fault : Fault) : Prop :=
  invocation.heapAddress = .blank ∧ fault = .blankAddress ∨
    invocation.heapAddress ≠ .blank ∧ fault = .overlongNumeral ∧
      ∃ size, settings.layout.regionSizeBytes = some size ∧ Overlong size

variable {invocation settings} in
theorem print_run {opened : Inspector × Context} {heap : Heap} {view : View}
    {resolution : Resolution} (h : Inspector.Opened settings.layout opened heap view resolution) :
    ∃ texts ending calls records,
      invocation.print opened =
        .ok ⟨String.join texts, ending⟩ (opened.1, opened.2.note calls records) ∧
      invocation.Prints opened texts ending ∧
      ∀ fault, ending = .error fault → fault.isReportable ∨ invocation.Unreported settings fault := by
  unfold print
  by_cases hblank : invocation.heapAddress = .blank
  · rw [if_pos hblank]
    refine ⟨[], .error .blankAddress, [], [], ?_, .blank hblank, ?_⟩
    · rw [Context.note_nil]
      rfl
    · rintro _ ⟨⟩
      exact .inr (.inl ⟨hblank, rfl⟩)
  · rw [if_neg hblank]
    let reporter : Reporter := { heap, heapName := opened.1.settings.heapName }
    have hreporter : Inspector.reporter opened = .ok reporter opened :=
      Inspector.reporter_of_heap h.holds
    obtain ⟨ho, ha⟩ := eq_ok_iff.1 hreporter
    have htried : attempt Inspector.reporter opened = .ok (.ok reporter) opened := by
      rw [attempt_run, ho, ha]
    obtain ⟨texts, ending, calls, records, hprint, hshows, hstops⟩ :=
      @Reporter.print_run reporter (invocation.regions || invocation.all) invocation.listed _ view
        resolution opened.2 h.sees h.bindings rfl
    refine ⟨texts, ending, calls, records, ?_,
      .blocks hblank ho hshows (Reporter.rests_of_shows hshows), fun fault hf => ?_⟩
    · unfold Inspector.print
      rw [bind_of_ok htried]
      exact lift_ok opened.1 hprint
    · rcases hstops fault hf with hinspection | ⟨rfl, hlong⟩
      · exact .inl (Fault.isReportable_of_isInspection hinspection)
      · rcases h.size with hgiven | hword
        · exact .inr (.inr ⟨hblank, rfl, _, hgiven, hlong⟩)
        · exact absurd hlong hword.not_overlong

section Inspect

variable {invocation} {state opened printed : Inspector × Context}

theorem inspect_of_error {fault : Fault} (h : invocation.openSource state = .error fault opened) :
    invocation.inspect state =
      .ok ⟨"", do outcome Inspector.close opened; .error fault⟩ (after Inspector.close opened) := by
  obtain ⟨ho, ha⟩ := eq_error_iff.1 h
  have htried : attempt invocation.openSource state = .ok (.error fault) opened := by
    rw [attempt_run, ho, ha]
  unfold inspect
  rw [bind_of_ok htried]
  dsimp only
  rw [pure_bind, bind_of_ok (attempt_run _ _)]
  cases outcome Inspector.close opened <;> rfl

/-- After an opening comes the printout, and then the closing, whose fault counts first. -/
theorem inspect_of_ok {printout : Printout} (h : invocation.openSource state = .ok () opened)
    (hprint : invocation.print opened = .ok printout printed) :
    invocation.inspect state =
      .ok ⟨printout.text, do outcome Inspector.close printed; printout.outcome⟩
        (after Inspector.close printed) := by
  obtain ⟨ho, ha⟩ := eq_ok_iff.1 h
  have htried : attempt invocation.openSource state = .ok (.ok ()) opened := by
    rw [attempt_run, ho, ha]
  unfold inspect
  rw [bind_of_ok htried]
  dsimp only
  rw [bind_of_ok hprint, bind_of_ok (attempt_run _ _)]
  cases outcome Inspector.close printed <;> rfl

theorem carryOut_run {printout : Printout} {later : Inspector × Context}
    (h : invocation.inspect (invocation.start settings context) = .ok printout later) :
    invocation.carryOut settings context = match printout.outcome with
      | .ok () => .ok { exitCode := 0, output := printout.text } later.2
      | .error fault =>
        if fault.isReportable then
          .ok (.failure printout.text fault)
            (after (log .debug .command "Inspection failed") later.2)
        else .error (.unexpected fault) later.2 := by
  let start := invocation.start settings context
  have hcreate : Inspector.create start.1.settings context = .ok start.1 start.2 := by
    unfold start Invocation.start Inspector.create
    cases settings.verbose || invocation.verbose <;> rfl
  have hdrive : start.1.drive invocation.inspect start.2 = .ok printout later.2 := by
    unfold Inspector.drive
    rw [show invocation.inspect (start.1, start.2) = _ from h]
  have hsteps : (do (← Inspector.create start.1.settings).drive invocation.inspect) context =
      .ok printout later.2 := (bind_of_ok hcreate).trans hdrive
  have hadapted : EStateM.adaptExcept CommandFault.unexpected
      (do (← Inspector.create start.1.settings).drive invocation.inspect) context =
        .ok printout later.2 := by
    rw [EStateM.adaptExcept, hsteps]
  refine (bind_of_ok hadapted).trans ?_
  cases printout.outcome with
  | ok _ => rfl
  | error fault =>
    dsimp only
    split
    · rfl
    · rfl

end Inspect

end Invocation

/-- A process with a heap whose reserved range can be read, but none of its counters. -/
def rangeOnly : Host :=
  { images := [{ memory := ⟨[.write 0x5000 [0, 0x10, 0, 0, 0, 0, 0, 0],
      .write 0x5008 [0, 0, 1, 0, 0, 0, 0, 0],
      .write 0x1010 [0, 0, 0x10, 0, 0, 0, 0, 0, 0, 0, 1, 0, 0, 0, 0, 0]]⟩ }] }

/-- A number that the settings make too long to write ends a command that can read all it needs. -/
example :
    let memory : Memory := ⟨[.write 0x5000 [0, 0x10, 0, 0, 0, 0, 0, 0],
      .write 0x1010 [0, 0, 0x10, 0, 0, 0, 0, 0, 0, 0, 1, 0, 0, 0, 0, 0]]⟩
    let settings : Settings := { layout := { regionSizeBytes := some (1024 * 10 ^ 4300) } }
    (match Invocation.carryOut { pid := .value 4242 } settings
      { host := { images := [{ memory }] } } with
    | .error (.unexpected .overlongNumeral) _ => true
    | _ => false) = true := by
  decide +kernel

end HeapProbe
