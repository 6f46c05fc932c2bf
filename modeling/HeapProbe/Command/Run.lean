import HeapProbe.Command.Invocation
import HeapProbe.Inspector

/-! # Running the command

The command opens what it was given, prints about its heap and closes the inspector, whatever
happened. It exits with 0 if all of this went well, with 1 if an inspection failed, which it says on
its error output, and with 2 if the command line made no sense.
-/

namespace HeapProbe

structure CommandResult where
  exitCode : Nat
  output : String := ""
  errors : String := ""
  deriving DecidableEq

inductive CommandFault where
  | load (fault : LoadFault)
  | unexpected (fault : Fault)

namespace CommandResult

def misuse (text : String) : CommandResult :=
  { exitCode := 2, errors := s!"{usageLine}\nheapscope: error: {text}\n" }

def failure (output : String) (fault : Fault) : CommandResult :=
  { exitCode := 1, output, errors := s!"heapscope: error: {fault.message}\n" }

end CommandResult

namespace Invocation

/-- The heap's address that a session is opened with. A blank one takes the place of looking the
address up all the same. -/
def openingAddress (invocation : Invocation) : Option Int :=
  match invocation.heapAddress with
  | .nothing => none
  | .blank => some 0
  | .value address => some address

/-- Opens the source that was given: a core file, a name or, where both are missing or empty, a
process number. -/
def openSource (invocation : Invocation) : Inspecting Unit :=
  let address := invocation.openingAddress
  match nonEmpty invocation.core, nonEmpty invocation.name with
  | some core, _ =>
    Inspector.loadCore ((nonEmpty invocation.executable).getD "") core address
  | none, some name => Inspector.attachByName name address
  | none, none => Inspector.attach invocation.pid address

def print (invocation : Invocation) : Inspecting Printout :=
  if invocation.heapAddress = .blank then return ⟨"", .error .blankAddress⟩
  else
    Inspector.print (invocation.regions || invocation.all)
      (if invocation.all then RegionFilter.everything else RegionFilter.liveOnly)

/-- Opens, prints and closes. A fault of closing takes precedence. -/
def inspect (invocation : Invocation) : Inspecting Printout := do
  let opened ← Probe.attempt invocation.openSource
  let printout ← match opened with
    | .error fault => pure ⟨"", .error fault⟩
    | .ok () => invocation.print
  match ← Probe.attempt Inspector.close with
  | .ok () => return printout
  | .error fault => return { printout with outcome := .error fault }

def carryOut (invocation : Invocation) (settings : Settings) :
    EStateM CommandFault Context CommandResult := do
  let settings := { settings with verbose := settings.verbose || invocation.verbose }
  let steps : Probe Printout := do
    let inspector ← Inspector.create settings
    inspector.drive invocation.inspect
  let printout ← steps.adaptExcept .unexpected
  match printout.outcome with
  | .ok () => return { exitCode := 0, output := printout.text }
  | .error fault =>
    if fault.isReportable then
      (Probe.log .debug .command "Inspection failed").adaptExcept .unexpected
      return .failure printout.text fault
    else throw (.unexpected fault)

end Invocation

def settingsFile? (arguments : List String) : Option String :=
  match Invocation.ofArguments arguments with
  | .ok invocation => some (Settings.fileName (Invocation.nonEmpty invocation.config))
  | .error _ => none

/-- Runs the command. What a path leads to is found by `find`. -/
def runCommand (arguments : List String) (find : String → Except LoadFault (Option FileEntry)) :
    EStateM CommandFault Context CommandResult :=
  match Invocation.ofArguments arguments with
  | .error .help => return { exitCode := 0, output := helpText }
  | .error (.misuse text) => return .misuse text
  | .ok invocation =>
    match find (Settings.fileName (Invocation.nonEmpty invocation.config)) >>= Settings.ofEntry with
    | .error fault => throw (.load fault)
    | .ok settings => invocation.carryOut settings

end HeapProbe
