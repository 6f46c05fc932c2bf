import HeapProbe.Toml.Document
import HeapProbe.Toml.Scalar

/-! # Reading TOML

A document is read statement by statement, a line each: a header that opens a table or adds one to
an array of tables, or a key with its value. Arrays and inline tables can be nested, but not without
limit.
-/

namespace HeapProbe.Toml

def arrayRoom : Nat := 2

def tableRoom : Nat := 3

/-- The room for nesting within a statement. -/
def nestingRoom : Nat := 980

mutual

def value (room : Nat) (cs : List Char) : Except Flaw (Value × List Char) :=
  match cs with
  | '[' :: rest =>
    if room < arrayRoom then .error .tooDeep
    else do
      let (items, rest) ← arrayItems (room - arrayRoom) rest
      return (.list items, rest)
  | '\x7b' :: rest =>
    if room < tableRoom then .error .tooDeep
    else
      match skipBlanks rest with
      | '\x7d' :: rest => .ok (.table [], rest)
      | start =>
        if _h : start.length ≤ rest.length then do
          let (entries, rest) ← tableEntries (room - tableRoom) [] [] start
          return (.table entries, rest)
        else .error .malformed
  | _ => scalar cs
termination_by 2 * cs.length

/-- The items of an array up to its closing bracket, with a comma after each but the last. -/
def arrayItems (room : Nat) (cs : List Char) : Except Flaw (List Value × List Char) := do
  match ← skipVoid cs with
  | ']' :: rest => return ([], rest)
  | start =>
    if _h : start.length ≤ cs.length then
      let (item, rest) ← value room start
      match ← skipVoid rest with
      | ']' :: rest => return ([item], rest)
      | ',' :: rest =>
        if _h : rest.length < cs.length then
          let (items, rest) ← arrayItems room rest
          return (item :: items, rest)
        else .error .malformed
      | _ => .error .malformed
    else .error .malformed
termination_by 2 * cs.length + 1

def tableEntries (room : Nat) (entries : Entries) (frozen : List Path) (cs : List Char) :
    Except Flaw (Entries × List Char) := do
  match ← key cs with
  | (path, '=' :: rest) =>
    if _h : (skipBlanks rest).length < cs.length then
      let (item, rest) ← value room (skipBlanks rest)
      let added := changeAt false (addEntry (path.getLast?.getD "") item) path.dropLast entries
      match added, isWithin path frozen with
      | some entries, false =>
        match skipBlanks rest with
        | '\x7d' :: rest => return (entries, rest)
        | ',' :: rest =>
          if _h : (skipBlanks rest).length < cs.length then
            tableEntries room entries (if isContainer item then path :: frozen else frozen)
              (skipBlanks rest)
          else .error .malformed
        | _ => .error .malformed
      | _, _ => .error .malformed
    else .error .malformed
  | _ => .error .malformed
termination_by 2 * cs.length + 1

end

structure Progress where
  document : Document := {}
  header : Path := []

def orMalformed {α : Type} : Option α → Except Flaw α
  | some a => .ok a
  | none => .error .malformed

/-- One statement, up to what follows it on its line. -/
def statement (progress : Progress) : Scanner Progress
  | '[' :: '[' :: cs => do
    let (path, rest) ← key (skipBlanks cs)
    let document ← orMalformed (progress.document.openItem path)
    match rest with
    | ']' :: ']' :: rest => return (⟨document, path⟩, rest)
    | _ => .error .malformed
  | '[' :: cs => do
    let (path, rest) ← key (skipBlanks cs)
    let document ← orMalformed (progress.document.openTable path)
    match rest with
    | ']' :: rest => return (⟨document, path⟩, rest)
    | _ => .error .malformed
  | '#' :: cs => .ok (progress, '#' :: cs)
  | cs => do
    match ← key cs with
    | (path, '=' :: rest) =>
      let (item, rest) ← value nestingRoom (skipBlanks rest)
      let document ← orMalformed (progress.document.add progress.header path item)
      return ({ progress with document }, rest)
    | _ => .error .malformed

def statements (progress : Progress) (cs : List Char) : Except Flaw Progress := do
  match skipBlanks cs with
  | [] => return progress
  | '\n' :: rest =>
    if _h : rest.length < cs.length then statements progress rest else .error .malformed
  | start =>
    let (progress, rest) ← statement progress start
    match ← skipComment (skipBlanks rest) with
    | [] => return progress
    | '\n' :: rest =>
      if _h : rest.length < cs.length then statements progress rest else .error .malformed
    | _ => .error .malformed
termination_by cs.length

/-- Joins the two characters of a carriage-returned line end into one. -/
def joinLineEnds : List Char → List Char
  | '\r' :: '\n' :: rest => '\n' :: joinLineEnds rest
  | c :: rest => c :: joinLineEnds rest
  | [] => []

def read (text : String) : Except Flaw Entries := do
  return (← statements {} (joinLineEnds text.toList)).document.root

end HeapProbe.Toml
