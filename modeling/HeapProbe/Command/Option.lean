/-! # Options of the command

The command's options, how they are spelled and what its usage line and help say about them. Exactly
one of the three sources has to be given.
-/

namespace HeapProbe

/-- The options, in the order of the help. -/
inductive CommandOption where
  | help
  | pid
  | name
  | core
  | executable
  | heapAddress
  | config
  | regions
  | all
  | verbose
  deriving DecidableEq

namespace CommandOption

def every : List CommandOption :=
  [.help, .pid, .name, .core, .executable, .heapAddress, .config, .regions, .all, .verbose]

/-- The options that say what to open, of which exactly one is given. -/
def sources : List CommandOption := [.pid, .name, .core]

def spellings : CommandOption → List String
  | .help => ["-h", "--help"]
  | .pid => ["--pid"]
  | .name => ["--name"]
  | .core => ["--core"]
  | .executable => ["--executable"]
  | .heapAddress => ["--heap-address"]
  | .config => ["--config"]
  | .regions => ["--regions"]
  | .all => ["--all"]
  | .verbose => ["-v", "--verbose"]

def valueName? : CommandOption → Option String
  | .pid => some "PID"
  | .name => some "NAME"
  | .core => some "CORE"
  | .executable => some "EXECUTABLE"
  | .heapAddress => some "HEAP_ADDRESS"
  | .config => some "CONFIG"
  | .help | .regions | .all | .verbose => none

def description : CommandOption → String
  | .help => "show this help message and exit"
  | .pid => "PID of a running process to attach to"
  | .name => "Name of a running process to attach to"
  | .core => "Core file to load (requires --executable)"
  | .executable => "Binary that produced the core file"
  | .heapAddress => "Address of the heap object, skipping the heap symbol lookup"
  | .config => "Path to heapscope.toml"
  | .regions => "List regions"
  | .all => "List every region, including non-live ones (implies --regions)"
  | .verbose => "Debug logging"

def takesValue (option : CommandOption) : Bool := option.valueName?.isSome

def fullName (option : CommandOption) : String := "/".intercalate option.spellings

def withValue (option : CommandOption) (spelling : String) : String :=
  match option.valueName? with
  | none => spelling
  | some valueName => s!"{spelling} {valueName}"

def usage (option : CommandOption) : String :=
  option.withValue (option.spellings.headD "")

def table : List (CommandOption × String) :=
  every.flatMap fun option => option.spellings.map (option, ·)

def ofSpelling? (spelling : String) : Option CommandOption :=
  (table.find? fun entry => entry.2 = spelling).map Prod.fst

end CommandOption

/-- The usage line: the sources are alternatives in parentheses, the rest is in brackets. -/
def usageLine : String :=
  let choice := " | ".intercalate (CommandOption.sources.map CommandOption.usage)
  let others := CommandOption.every.filter fun option =>
    option ≠ .help ∧ option ∉ CommandOption.sources
  " ".intercalate <|
    ["usage:", "heapscope", s!"[{CommandOption.help.usage}]", s!"({choice})"] ++
      others.map fun option => s!"[{option.usage}]"

def helpColumn : Nat := 24

/-- An option's entry in the help; a long invocation has a line of its own. -/
def CommandOption.helpEntry (option : CommandOption) : String :=
  let head := "  " ++ ", ".intercalate (option.spellings.map option.withValue)
  let blanks n := String.ofList (List.replicate n ' ')
  let lead :=
    if head.length + 2 ≤ helpColumn then head ++ blanks (helpColumn - head.length)
    else head ++ "\n" ++ blanks helpColumn
  lead ++ option.description ++ "\n"

def helpText : String :=
  usageLine ++ "\n\n" ++ "Inspect the region table of a paused or dumped collector heap.\n\n" ++
    "options:\n" ++ String.join (CommandOption.every.map CommandOption.helpEntry)

end HeapProbe
