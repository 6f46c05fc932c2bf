import HeapProbe.Proofs.Command.Ending
import HeapProbe.Proofs.Command.Reading
import HeapProbe.Proofs.Inspector.Openings

/-! # The source that a command opens

A command line gives one source. If the text of the source counts, the command opens that one and
asks the debugger to open nothing else. A name or a core file of which the text is empty is passed
over, and a process without a number is asked for in its place.
-/

namespace HeapProbe

open Probe Inspector

/-- The text counts as given: it is not empty, and not the two dashes that leave a value blank. -/
def Counts (text : String) : Prop := text ≠ "" ∧ text ≠ "--"

instance (text : String) : Decidable (Counts text) := inferInstanceAs (Decidable (_ ∧ _))

theorem ReadFrom.nonEmpty_eq {option : CommandOption} {kind : String} {text? : Option String}
    {given : Given String} (h : ReadFrom option kind some text? given) :
    Invocation.nonEmpty given = text?.filter fun text => Counts text := by
  cases text? with
  | none =>
    cases h
    rfl
  | some text =>
    obtain ⟨rfl, rfl⟩ | ⟨hdashes, _, ⟨⟩, rfl⟩ := h.of_some
    · rfl
    · simp [Invocation.nonEmpty, Given.value?, Option.filter, Counts, hdashes]

/-- The address that goes with an opening: none, the one that is given, or a blank one. -/
inductive AddressGiven : Option String → Option Int → Prop where
  | nothing : AddressGiven none none
  | value {text : String} {address : Int} (hdashes : text ≠ "--")
      (hread : readAddress? text = some address) : AddressGiven (some text) (some address)
  | blank : AddressGiven (some "--") (some 0)

theorem AddressGiven.eq_of_ne {text : String} {address : Option Int}
    (h : AddressGiven (some text) address) (hdashes : text ≠ "--") :
    address = readAddress? text := by
  cases h with
  | value _ hread => exact hread.symm
  | blank => exact absurd rfl hdashes

/-- The request that a source comes to, for the text that it is given, and with the texts that go
with it. There is none for a core file without an executable. -/
inductive SourceRequest (executable? : Option String) (address : Option Int) :
    CommandOption → String → Option Request → Prop where
  | pid {text : String} {pid : Int} (hdashes : text ≠ "--") (hread : readCount? text = some pid) :
      SourceRequest executable? address .pid text (some (.attach (.value pid) address))
  | name {text : String} (hcounts : Counts text) :
      SourceRequest executable? address .name text (some (.attachByName text address))
  | core {text executable : String} (hcounts : Counts text) (hgiven : executable? = some executable)
      (hexecutable : Counts executable) :
      SourceRequest executable? address .core text (some (.loadCore executable text address))
  | coreAlone {text : String} (hcounts : Counts text)
      (hnone : ∀ executable, executable? = some executable → ¬ Counts executable) :
      SourceRequest executable? address .core text none
  | blankPid : SourceRequest executable? address .pid "--" (some (.attach .blank address))
  | passedOver {source : CommandOption} {text : String} (hsource : source ∈ [.name, .core])
      (hcounts : ¬ Counts text) :
      SourceRequest executable? address source text (some (.attach .nothing address))

namespace Invocation

variable (invocation : Invocation)

def lacksExecutable : Bool :=
  (nonEmpty invocation.core).isSome && (nonEmpty invocation.executable).isNone

def request? : Option Request :=
  if invocation.lacksExecutable then none else some invocation.request

variable {invocation}

theorem request?_of_core_empty (hcore : nonEmpty invocation.core = none) :
    invocation.request? = some invocation.request := by
  rw [request?, lacksExecutable, hcore]
  rfl

theorem request?_of_nothing (hcore : nonEmpty invocation.core = none)
    (hname : nonEmpty invocation.name = none) :
    invocation.request? = some (.attach invocation.pid invocation.openingAddress) := by
  rw [request?_of_core_empty hcore, request, hcore, hname]

theorem request?_of_core {core : String} (hcore : nonEmpty invocation.core = some core) :
    invocation.request? = (nonEmpty invocation.executable).map fun executable =>
      .loadCore executable core invocation.openingAddress := by
  rw [request?, lacksExecutable, request, hcore]
  cases nonEmpty invocation.executable <;> rfl

theorem addressGiven {text? : Option String}
    (h : ReadFrom .heapAddress "_address" readAddress? text? invocation.heapAddress) :
    AddressGiven text? invocation.openingAddress := by
  unfold openingAddress
  cases text? with
  | none =>
    rw [show invocation.heapAddress = .nothing from h]
    exact .nothing
  | some text =>
    obtain ⟨rfl, hblank⟩ | ⟨hdashes, address, hread, hvalue⟩ := h.of_some
    · rw [hblank]
      exact .blank
    · rw [hvalue]
      exact .value hdashes hread

end Invocation

namespace Understood

variable {arguments : List String} {carried : List (CommandOption × String)}
  {invocation : Invocation} (h : Understood arguments carried invocation)
include h

theorem nonEmpty_core :
    Invocation.nonEmpty invocation.core =
      (CommandOption.core.text? carried).filter fun text => Counts text :=
  ReadFrom.nonEmpty_eq (h.has .core)

theorem nonEmpty_name :
    Invocation.nonEmpty invocation.name =
      (CommandOption.name.text? carried).filter fun text => Counts text :=
  ReadFrom.nonEmpty_eq (h.has .name)

theorem nonEmpty_executable :
    Invocation.nonEmpty invocation.executable =
      (CommandOption.executable.text? carried).filter fun text => Counts text :=
  ReadFrom.nonEmpty_eq (h.has .executable)

theorem sourceRequest {source : CommandOption} {text : String}
    (hsource : source ∈ CommandOption.sources) (htext : source.text? carried = some text)
    (hothers : ∀ other ∈ CommandOption.sources, other ≠ source → other.text? carried = none) :
    SourceRequest (CommandOption.executable.text? carried) invocation.openingAddress source text
      invocation.request? := by
  have hcore := h.nonEmpty_core
  have hname := h.nonEmpty_name
  have hpid : ReadFrom .pid "int" readCount? (CommandOption.pid.text? carried) invocation.pid :=
    h.has .pid
  have hcases : source = .pid ∨ source = .name ∨ source = .core := by
    simpa [CommandOption.sources] using hsource
  -- The other two sources are not given, so that what is asked for rests on the text of the third.
  rcases hcases with rfl | rfl | rfl
  · rw [hothers .core (by decide) (by decide)] at hcore
    rw [hothers .name (by decide) (by decide)] at hname
    rw [htext] at hpid
    rw [Invocation.request?_of_nothing hcore hname]
    obtain ⟨rfl, hblank⟩ | ⟨hdashes, pid, hread, hvalue⟩ := hpid.of_some
    · rw [hblank]
      exact .blankPid
    · rw [hvalue]
      exact .pid hdashes hread
  · rw [hothers .core (by decide) (by decide)] at hcore
    rw [hothers .pid (by decide) (by decide)] at hpid
    rw [htext] at hname
    by_cases hcounts : Counts text
    · rw [Option.filter_some_pos (by simpa using hcounts)] at hname
      rw [Invocation.request?_of_core_empty hcore, Invocation.request, hcore, hname]
      exact .name hcounts
    · rw [Option.filter_some_neg (by simpa using hcounts)] at hname
      rw [Invocation.request?_of_nothing hcore hname, show invocation.pid = .nothing from hpid]
      exact .passedOver (by decide) hcounts
  · rw [hothers .name (by decide) (by decide)] at hname
    rw [hothers .pid (by decide) (by decide)] at hpid
    rw [htext] at hcore
    by_cases hcounts : Counts text
    · rw [Option.filter_some_pos (by simpa using hcounts)] at hcore
      rw [Invocation.request?_of_core hcore, h.nonEmpty_executable]
      cases hgiven : CommandOption.executable.text? carried with
      | none => exact .coreAlone hcounts nofun
      | some executable =>
        by_cases hexecutable : Counts executable
        · rw [Option.filter_some_pos (by simpa using hexecutable)]
          exact .core hcounts rfl hexecutable
        · rw [Option.filter_some_neg (by simpa using hexecutable)]
          refine .coreAlone hcounts ?_
          rintro _ ⟨⟩
          exact hexecutable
    · rw [Option.filter_some_neg (by simpa using hcounts)] at hcore
      rw [Invocation.request?_of_nothing hcore hname, show invocation.pid = .nothing from hpid]
      exact .passedOver (by decide) hcounts

end Understood

namespace Invocation

variable (invocation : Invocation) (settings : Settings) (context : Context)

theorem start_leaves :
    (invocation.start settings context).2.openings = context.openings ∧
      (invocation.start settings context).2.host = context.host := by
  unfold start Inspector.create
  cases settings.verbose || invocation.verbose <;> exact ⟨rfl, rfl⟩

variable {invocation settings} in
theorem print_openings {opened : Inspector × Context} {heap : Heap} {view : View}
    {resolution : Resolution} (h : Inspector.Opened settings.layout opened heap view resolution) :
    (after invocation.print opened).2.openings = opened.2.openings := by
  have hreader : heap.session.reader.Abstains := by
    rw [h.sees.reader]
    exact view.inferior.readerOfSize_abstains _
  let reporter : Reporter := { heap, heapName := opened.1.settings.heapName }
  obtain ⟨ho, ha⟩ := eq_ok_iff.1 (Inspector.reporter_of_heap h.holds)
  have htried : attempt Inspector.reporter opened = .ok (.ok reporter) opened := by
    rw [attempt_run, ho, ha]
  unfold Invocation.print
  split
  · rfl
  · unfold Inspector.print
    rw [after_bind_of_ok htried]
    exact lift_abstains (Heap.print_abstains hreader _ _ _) opened

/-- Whatever becomes of an inspection, it opens what is requested and nothing else. -/
theorem inspect_openings :
    ∃ printout later,
      invocation.inspect (invocation.start settings context) = .ok printout later ∧
      later.2.openings = context.openings ++ invocation.request.reach context.host := by
  let start := invocation.start settings context
  obtain ⟨hstart, hhost⟩ := invocation.start_leaves settings context
  have hopening : (after invocation.openSource start).2.openings =
      context.openings ++ invocation.request.reach context.host := by
    rw [openSource_eq, ← hstart, ← hhost]
    exact Request.openings_perform invocation.source?_request rfl start.2
  obtain ⟨-, -, hheap⟩ := invocation.afterOpening settings context
  cases ho : outcome invocation.openSource start with
  | error fault =>
    exact ⟨_, _, inspect_of_error (eq_error_iff.2 ⟨ho, rfl⟩), (close_abstains _).trans hopening⟩
  | ok _ =>
    -- What is printed is read from the heap that was opened, through the debugger's own reader.
    obtain ⟨heap, view, resolution, hopened⟩ := hheap ho
    obtain ⟨texts, ending, calls, records, hprint, -, -⟩ :=
      @print_run invocation settings _ heap view resolution hopened
    have hprinted := @print_openings invocation settings _ heap view resolution hopened
    rw [(eq_ok_iff.1 hprint).2] at hprinted
    exact ⟨_, _, inspect_of_ok (eq_ok_iff.2 ⟨ho, rfl⟩) hprint,
      (close_abstains _).trans (hprinted.trans hopening)⟩

end Invocation

def commandLeaves (arguments : List String)
    (find : String → Except LoadFault (Option FileEntry)) (context : Context) : Context :=
  match runCommand arguments find context with
  | .ok _ later | .error _ later => later

/-- The command opens by a request and by nothing else. Without a request it is refused before a
settings file is looked for. -/
def OpensBy (arguments : List String) : Option Request → Prop
  | none => settingsFile? arguments = none ∧ ∀ find context, runCommand arguments find context =
      .ok (.misuse "--core requires --executable") context
  | some request => ∃ invocation, Invocation.ofArguments arguments = .ok invocation ∧
      invocation.openSource = request.perform ∧ ∀ find context,
        (commandLeaves arguments find context).openings = context.openings ++
          match find (Settings.fileName (Invocation.nonEmpty invocation.config)) >>=
            Settings.ofEntry with
          | .ok _ => request.reach context.host
          | .error _ => []

namespace Understood

variable {arguments : List String} {carried : List (CommandOption × String)}
  {invocation : Invocation}

theorem opensBy (h : Understood arguments carried invocation) :
    OpensBy arguments invocation.request? := by
  have heq := h.ofArguments_eq
  unfold Invocation.request?
  change _ = if invocation.lacksExecutable = true then _ else _ at heq
  by_cases hlacks : invocation.lacksExecutable
  · rw [if_pos hlacks] at heq ⊢
    refine ⟨?_, fun find context => ?_⟩
    · rw [settingsFile?, heq]
    · rw [runCommand, heq]
      rfl
  · rw [if_neg hlacks] at heq ⊢
    refine ⟨invocation, heq, invocation.openSource_eq, fun find context => ?_⟩
    unfold commandLeaves runCommand
    rw [heq]
    dsimp only
    cases hload : find (Settings.fileName (Invocation.nonEmpty invocation.config)) >>=
      Settings.ofEntry with
    | error fault => exact (List.append_nil _).symm
    | ok settings =>
      obtain ⟨printout, later, hinspect, hopenings⟩ := invocation.inspect_openings settings context
      dsimp only
      rw [Invocation.carryOut_run settings context hinspect, ← hopenings]
      cases printout.outcome with
      | ok _ => rfl
      | error fault =>
        dsimp only
        by_cases hr : fault.isReportable
        · rw [if_pos hr]
          exact abstains_log _ _ _ later.2
        · rw [if_neg hr]

end Understood

/-- **A command opens the source that its command line gives.** Whatever the arguments that the
options accept: one source is given and no other, and the command opens by the request that this
source comes to, with the heap's address that is given, and asks the debugger to open nothing else.
If a core file is given without its executable, it is refused before any settings are looked for. -/
theorem command_opens_source {arguments : List String} {carried : List (CommandOption × String)}
    {invocation : Invocation} (h : Understood arguments carried invocation) :
    ∃ source ∈ CommandOption.sources, ∃ text address request?,
      source.text? carried = some text ∧
      (∀ other ∈ CommandOption.sources, other ≠ source → other.text? carried = none) ∧
      AddressGiven (CommandOption.heapAddress.text? carried) address ∧
      SourceRequest (CommandOption.executable.text? carried) address source text request? ∧
      OpensBy arguments request? := by
  obtain ⟨source, hsource, halone⟩ := h.source
  obtain ⟨text, htext⟩ := Option.isSome_iff_exists.1 ((halone source hsource).2 rfl)
  have hothers : ∀ other ∈ CommandOption.sources, other ≠ source → other.text? carried = none :=
    fun other hother hne => by simpa [hne] using halone other hother
  exact ⟨source, hsource, text, invocation.openingAddress, invocation.request?, htext, hothers,
    Invocation.addressGiven (h.has .heapAddress), h.sourceRequest hsource htext hothers, h.opensBy⟩

def nameGiven : List String := ["--name", "java", "--heap-address=0"]

/-- The process of that name is asked for, and the address is handed on. -/
theorem command_opens_named_process :
    (commandLeaves nameGiven (fun _ => .ok none) { host := rangeOnly }).openings =
        [.createTarget "", .attachByName "java" false] ∧
      ∃ invocation, Invocation.ofArguments nameGiven = .ok invocation ∧
        invocation.openSource = Inspector.attachByName "java" (some 0) := by
  have hunderstood : Understood nameGiven [(.name, "java"), (.heapAddress, "0")]
      { name := .value "java", heapAddress := .value 0 } :=
    @Understood.intro nameGiven [.option .name false none, .value "java",
      .option .heapAddress false (some ['0'])] _ rfl rfl nofun rfl
  obtain ⟨source, -, text, address, request?, htext, -, haddress, hrequest, hopens⟩ :=
    command_opens_source hunderstood
  obtain rfl : address = some 0 := haddress.eq_of_ne (by decide)
  obtain rfl : request? = some (.attachByName "java" (some 0)) := by
    cases hrequest with
    | name _ =>
      cases htext
      rfl
    | passedOver hsource hcounts =>
      rcases List.mem_cons.1 hsource with rfl | hsource
      · cases htext
        exact absurd (by decide) hcounts
      · rw [List.mem_singleton.1 hsource] at htext
        cases htext
    | _ => cases htext
  obtain ⟨invocation, hread, hopen, hopenings⟩ := hopens
  exact ⟨hopenings (fun _ => .ok none) { host := rangeOnly }, invocation, hread, hopen⟩

/-- Not every name that is given is asked for. -/
theorem not_asked_for_every_name :
    ¬ ∀ (arguments : List String) (carried : List (CommandOption × String))
      (invocation : Invocation) (name : String),
      Understood arguments carried invocation → CommandOption.name.text? carried = some name →
      ∀ find context, (commandLeaves arguments find context).openings <+:
        context.openings ++ [.createTarget "", .attachByName name false] := by
  intro h
  have hunderstood : Understood ["--name", ""] [(.name, "")] { name := .value "" } :=
    @Understood.intro _ [.option .name false none, .value ""] _ rfl rfl nofun rfl
  have hprefix := h _ _ _ "" hunderstood rfl (fun _ => .ok none) {}
  have hopenings : (commandLeaves ["--name", ""] (fun _ => .ok none) {}).openings =
      [.createTarget "", .attach .nothing] := by rfl
  rw [hopenings] at hprefix
  exact absurd hprefix (by decide)

end HeapProbe
