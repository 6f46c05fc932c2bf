import HeapProbe.Given
import HeapProbe.Text.Numeral

/-! # Faults

Everything that can go wrong in an inspection, by cause. A `Refusal` is the debugger's own; a
`Fault` is what a caller of the library meets, and keeps the refusal it came from. `message` is the
one place that words them.
-/

namespace HeapProbe

inductive Refusal where
  | bindingsMissing
  | noTarget (path : String)
  | noEmptyTarget
  | attach (pid : Given Int) (reason : String)
  | attachByName (name reason : String)
  | loadCore (path : String)
  | detach (reason : String)
  | read (address size : Int) (reason : String)
  | unknownType (name : String)
  deriving DecidableEq

inductive ReadFailure where
  | refused (refusal : Refusal)
  | notAWord (width : Nat)
  | short (count : Nat)
  | stated (reason : String)
  deriving DecidableEq

inductive Inconsistency where
  | unknownState (code : Int)
  | invertedRegion (index limit bottom : Int)
  | usedExceedsCommitted (used committed : Int)
  | committedExceedsReserved (committed reserved : Int)
  | stated (text : String)
  deriving DecidableEq

inductive Fault where
  | refused (refusal : Refusal)
  /-- The bytes read are not as many as a word of this width has. -/
  | notAWord (width : Nat)
  | bindingsLost
  | debuggerReleased
  | blankAddress
  | overlongNumeral
  | noSession
  | visitor (text : String)
  | general (text : String)
  | metadataMissing (typeName : String) (fields : List String) (cause : Option Refusal)
  | sessionDetached
  | sessionUnresolved
  | sessionFailed (failure : Fault)
  | sessionMisused (text : String)
  | regionIndex (index : Int) (count : Option Int)
  | unavailable (address length : Int) (failure : Option ReadFailure)
  | inconsistent (finding : Inconsistency)
  deriving DecidableEq

/-- Metadata that lacks `fields`, which are listed in order of their code points; without any, the
type itself is unknown. -/
def Fault.missing (typeName : String) (fields : List String) (cause : Option Refusal) : Fault :=
  .metadataMissing typeName (fields.mergeSort fun a b => a ≤ b) cause

/-- The fault of an index that is out of range. It names the index and, where it was read, the
count, as long as both can be written. -/
def Fault.ofIndex (index : Int) (count : Option Int) : Fault :=
  if (index :: count.toList).all hasNumeral then .regionIndex index count else .overlongNumeral

def Refusal.message : Refusal → String
  | .bindingsMissing => "The 'lldb' Python module is not available. " ++
      "Ensure LLDB is installed and its Python bindings are on your PYTHONPATH " ++
      "(for example PYTHONPATH=\"$(lldb -P)\")."
  | .noTarget path => s!"Failed to create target for '{path}'"
  | .noEmptyTarget => "Failed to create empty target for attach"
  | .attach .nothing reason => s!"Failed to attach to PID None: {reason}"
  | .attach .blank reason => s!"Failed to attach to PID []: {reason}"
  | .attach (.value pid) reason => s!"Failed to attach to PID {decimal pid}: {reason}"
  | .attachByName name reason => s!"Failed to attach to process '{name}': {reason}"
  | .loadCore path => s!"Failed to load core file '{path}'"
  | .detach reason => s!"Failed to detach: {reason}"
  | .read address size reason => s!"Failed to read {decimal size} bytes at {hex address}: {reason}"
  | .unknownType name => s!"Type '{name}' not found in debug information"

def ReadFailure.message : ReadFailure → String
  | .refused refusal => refusal.message
  | .notAWord width => s!"unpack requires a buffer of {decimal width} bytes"
  | .short count => s!"short read ({decimal count} bytes)"
  | .stated reason => reason

def Inconsistency.message : Inconsistency → String
  | .unknownState code => s!"Unknown region state code {decimal code}"
  | .invertedRegion index limit bottom =>
    s!"Region {decimal index} has end {hex limit} below bottom {hex bottom}"
  | .usedExceedsCommitted used committed =>
    s!"used ({decimal used}) exceeds committed ({decimal committed})"
  | .committedExceedsReserved committed reserved =>
    s!"committed ({decimal committed}) exceeds reserved ({decimal reserved})"
  | .stated text => text

namespace Fault

/-- The text of a fault. A read failure without words of its own adds nothing to the address. -/
def message : Fault → String
  | .refused refusal => refusal.message
  | .notAWord width => (ReadFailure.notAWord width).message
  | .bindingsLost => "debugger bindings are gone"
  | .debuggerReleased => "debugger was destroyed"
  | .blankAddress => "heap address is blank"
  | .overlongNumeral => s!"number has more than {decimal maxDecimalDigits} digits"
  | .noSession => "No session. Call attach() or load_core() first."
  | .visitor text | .general text | .sessionMisused text => text
  | .metadataMissing typeName [] _ => s!"Type '{typeName}' not found in target metadata"
  | .metadataMissing typeName fields _ =>
    s!"Type '{typeName}' is missing fields: " ++ ", ".intercalate fields
  | .sessionDetached => "Session is detached"
  | .sessionUnresolved => "Session is not resolved. Call resolve() first."
  | .sessionFailed failure => s!"Session resolution failed: {failure.message}"
  | .regionIndex index none => s!"Region index {decimal index} is negative"
  | .regionIndex index (some count) =>
    s!"Region index {decimal index} out of range [0, {decimal count})"
  | .unavailable address length failure =>
    let place := s!"Cannot read {decimal length} bytes at {hex address}"
    match failure.map ReadFailure.message with
    | none | some "" => place
    | some reason => s!"{place}: {reason}"
  | .inconsistent finding => finding.message

/-- Faults of the inspection itself, as against the debugger's refusals and misuse of its handles.
A session remembers these and no others. -/
def isInspection : Fault → Bool
  | .general _ | .metadataMissing .. | .sessionDetached | .sessionUnresolved | .sessionFailed _
  | .sessionMisused _ | .regionIndex .. | .unavailable .. | .inconsistent _ => true
  | .refused _ | .notAWord _ | .bindingsLost | .debuggerReleased | .blankAddress
  | .overlongNumeral | .noSession | .visitor _ => false

def isSessionState : Fault → Bool
  | .sessionDetached | .sessionUnresolved | .sessionFailed _ | .sessionMisused _ => true
  | _ => false

def isReportable : Fault → Bool
  | .refused _ | .noSession | .visitor _ => true
  | fault => fault.isInspection

end Fault

end HeapProbe
