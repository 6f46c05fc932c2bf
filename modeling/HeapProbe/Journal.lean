import HeapProbe.Given

/-! # The journal

What an inspection leaves behind for a reader: the calls that the debugger received, in order, and
the log. Log records below the current level are not kept.
-/

namespace HeapProbe

inductive DebuggerCall where
  | start
  | create
  | setAsync (enabled : Bool)
  | createTarget (path : String)
  | attach (pid : Given Int)
  | attachByName (name : String) (waitFor : Bool)
  | loadCore (path : String)
  | findType (name : String)
  | findGlobal (name : String)
  | findSymbols (name : String)
  | read (address size : Int)
  | detach (pid : Int)
  | destroy
  deriving DecidableEq

inductive LogLevel where
  | debug
  | info
  | warning
  | error
  deriving DecidableEq

namespace LogLevel

def severity : LogLevel → Nat
  | .debug => 10
  | .info => 20
  | .warning => 30
  | .error => 40

def name : LogLevel → String
  | .debug => "DEBUG"
  | .info => "INFO"
  | .warning => "WARNING"
  | .error => "ERROR"

end LogLevel

/-- The part of the library that a log record comes from. -/
inductive LogSource where
  | debugger
  | target
  | access
  | session
  | walk
  | inspector
  | command
  deriving DecidableEq

def LogSource.name : LogSource → String
  | .debugger => "heapscope.bridge.debugger"
  | .target => "heapscope.bridge.target"
  | .access => "heapscope.core.access"
  | .session => "heapscope.core.session"
  | .walk => "heapscope.core.walker"
  | .inspector => "heapscope.core.heapscope"
  | .command => "heapscope.core.cli"

structure LogRecord where
  level : LogLevel
  source : LogSource
  message : String
  deriving DecidableEq

structure Journal where
  calls : Array DebuggerCall := #[]
  records : Array LogRecord := #[]
  level : LogLevel := .warning

namespace Journal

def addCall (journal : Journal) (call : DebuggerCall) : Journal :=
  { journal with calls := journal.calls.push call }

def log (journal : Journal) (record : LogRecord) : Journal :=
  if journal.level.severity ≤ record.level.severity then
    { journal with records := journal.records.push record }
  else journal

end Journal

end HeapProbe
