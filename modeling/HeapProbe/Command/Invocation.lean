import HeapProbe.Command.Option
import HeapProbe.Given
import HeapProbe.Text.Integer
import HeapProbe.Text.Quoted

/-! # Reading the command line

The arguments are first told apart, options from values, and then taken in order. An option may be
cut short as long as only one is meant, and its value follows it or is joined to it by an equals
sign. Options of one letter can share a dash, and an equals sign after the first of them changes
nothing. After two dashes no options follow.
-/

namespace HeapProbe

structure Invocation where
  pid : Given Int := .nothing
  name : Given String := .nothing
  core : Given String := .nothing
  executable : Given String := .nothing
  heapAddress : Given Int := .nothing
  config : Given String := .nothing
  regions : Bool := false
  all : Bool := false
  verbose : Bool := false
  deriving DecidableEq

inductive CommandStop where
  | help
  | misuse (text : String)
  deriving DecidableEq

/-- An argument of the command line. To an option text may be joined within its argument. -/
inductive Argument where
  | value (text : String)
  | dashes
  | option (meant : CommandOption) (oneDash : Bool) (joined : Option (List Char))
  | unknown (text : String)
  deriving DecidableEq

/-- A minus sign and digits, which may have a decimal point among or before them. -/
def looksNegative (text : String) : Bool :=
  let isDigit c := (decimalDigit? c).isSome
  match text.toList with
  | '-' :: cs =>
    let cs := if cs.getLast? = some '\n' then cs.dropLast else cs
    match cs.span isDigit with
    | (whole, []) => !whole.isEmpty
    | (_, '.' :: fraction) => !fraction.isEmpty && fraction.all isDigit
    | _ => false
  | _ => false

def splitEquals (cs : List Char) : List Char × Option (List Char) :=
  match cs.span (· ≠ '=') with
  | (left, '=' :: right) => (left, some right)
  | (left, _) => (left, none)

def candidates (cs : List Char) : List (String × Argument) :=
  match cs with
  | '-' :: '-' :: _ =>
    let (start, joined) := splitEquals cs
    (CommandOption.table.filter fun entry => start.isPrefixOf entry.2.toList).map
      fun (meant, spelling) => (spelling, .option meant false joined)
  | '-' :: c :: rest =>
    match CommandOption.ofSpelling? (String.ofList ['-', c]) with
    | some meant => [(String.ofList ['-', c], .option meant true (some rest))]
    | none => []
  | _ => []

def Argument.ofText (text : String) : Except CommandStop Argument :=
  let cs := text.toList
  let (left, joined) := splitEquals cs
  match cs with
  | '-' :: second :: _ =>
    match CommandOption.ofSpelling? text, CommandOption.ofSpelling? (String.ofList left) with
    | some meant, _ => .ok (.option meant (second ≠ '-') none)
    | none, some meant => .ok (.option meant (second ≠ '-') joined)
    | none, none =>
      match candidates cs with
      | [(_, argument)] => .ok argument
      | [] =>
        if looksNegative text || ' ' ∈ cs then .ok (.value text) else .ok (.unknown text)
      | several =>
        let spellings := ", ".intercalate (several.map Prod.fst)
        .error (.misuse s!"ambiguous option: {text} could match {spellings}")
  | _ => .ok (.value text)

/-- Tells all arguments; those after two dashes are values. -/
def Argument.ofTexts : List String → Except CommandStop (List Argument)
  | [] => .ok []
  | text :: rest =>
    if text = "--" then .ok (.dashes :: rest.map .value)
    else do
      let argument ← ofText text
      return argument :: (← ofTexts rest)

structure ReadingState where
  invocation : Invocation := {}
  given : List CommandOption := []
  extras : List String := []

namespace ReadingState

def misuseOf (option : CommandOption) (text : String) : CommandStop :=
  .misuse s!"argument {option.fullName}: {text}"

def readValue {α : Type} (option : CommandOption) (kind : String) (read : String → Option α)
    (text : String) : Except CommandStop (Given α) :=
  if text = "--" then .ok .blank
  else
    match read text with
    | some a => .ok (.value a)
    | none => .error (misuseOf option s!"invalid {kind} value: {quoted text}")

def set (invocation : Invocation) (option : CommandOption) (text : String) :
    Except CommandStop Invocation :=
  match option with
  | .help => .error .help
  | .pid => do return { invocation with pid := ← readValue .pid "int" readCount? text }
  | .name => do return { invocation with name := ← readValue .name "str" some text }
  | .core => do return { invocation with core := ← readValue .core "str" some text }
  | .executable => do
    return { invocation with executable := ← readValue .executable "str" some text }
  | .heapAddress => do
    return { invocation with heapAddress := ← readValue .heapAddress "_address" readAddress? text }
  | .config => do return { invocation with config := ← readValue .config "str" some text }
  | .regions => .ok { invocation with regions := true }
  | .all => .ok { invocation with all := true }
  | .verbose => .ok { invocation with verbose := true }

/-- Takes an option; a source cannot follow another one. -/
def take (state : ReadingState) (option : CommandOption) (text : String) :
    Except CommandStop ReadingState := do
  let invocation ← set state.invocation option text
  if option ∈ CommandOption.sources then
    match CommandOption.sources.find? fun other => other ≠ option ∧ other ∈ state.given with
    | some other => .error (misuseOf option s!"not allowed with argument {other.fullName}")
    | none => return { state with invocation, given := option :: state.given }
  else return { state with invocation }

def addExtra (state : ReadingState) (text : String) : ReadingState :=
  { state with extras := state.extras ++ [text] }

/-- An option was given a value that it does not take. -/
def ignored (option : CommandOption) (cs : List Char) : CommandStop :=
  misuseOf option s!"ignored explicit argument {quoted (String.ofList cs)}"

/-- The options that share a dash: one that takes no value, and those of the text after it. -/
def sharedDash (option : CommandOption) : List Char → Except CommandStop (List CommandOption)
  | [] => .error (ignored option [])
  | c :: rest =>
    match CommandOption.ofSpelling? (String.ofList ['-', c]) with
    | none => .error (ignored option (c :: rest))
    | some next =>
      if rest.isEmpty then .ok [option, next] else (sharedDash next rest).map (option :: ·)

def takeAll : List Argument → ReadingState → Except CommandStop ReadingState
  | [], state => .ok state
  | .value text :: rest, state | .unknown text :: rest, state => takeAll rest (state.addExtra text)
  | .dashes :: rest, state => takeAll rest (state.addExtra "--")
  | .option meant oneDash joined :: rest, state =>
    match meant.takesValue, joined with
    | true, some cs => do takeAll rest (← state.take meant (String.ofList cs))
    | true, none =>
      match rest with
      | .value text :: later => do takeAll later (← state.take meant text)
      | _ => .error (misuseOf meant "expected one argument")
    | false, none => do takeAll rest (← state.take meant "")
    | false, some cs => do
      unless oneDash do throw (ignored meant cs)
      let options ← sharedDash meant cs
      takeAll rest (← options.foldlM (fun state option => state.take option "") state)

end ReadingState

namespace Invocation

def nonEmpty (text : Given String) : Option String := text.value?.filter (· ≠ "")

def ofArguments (arguments : List String) : Except CommandStop Invocation := do
  let state ← ReadingState.takeAll (← Argument.ofTexts arguments) {}
  if state.given.isEmpty then
    let names := " ".intercalate (CommandOption.sources.map CommandOption.fullName)
    throw (.misuse s!"one of the arguments {names} is required")
  unless state.extras.isEmpty do
    let extras := " ".intercalate state.extras
    throw (.misuse s!"unrecognized arguments: {extras}")
  let invocation := state.invocation
  if (nonEmpty invocation.core).isSome && (nonEmpty invocation.executable).isNone then
    throw (.misuse "--core requires --executable")
  return invocation

end Invocation

end HeapProbe
