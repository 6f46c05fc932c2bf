import HeapProbe.Settings.Value

/-! # Documents under construction

The tables of a TOML document as far as it has been read, with what may no longer be done to them. A
table that a header named cannot be named by a header again, nor be reached by a dotted key from
elsewhere; what an inline table or an array holds cannot be added to at all. A header opens what
lies beneath the last item of an array of tables anew.
-/

namespace HeapProbe.Toml

abbrev Path := List String

structure Document where
  root : Entries := []
  /-- Tables that no header may name. -/
  closed : List Path := []
  /-- Inline tables and arrays, which nothing may be added to. -/
  frozen : List Path := []
  /-- Tables made by dotted keys, closed from the next header on. -/
  pending : List Path := []

/-- Changes the table at a path, which is made if it is not there. A path leads through the last
item of an array of tables, unless inline tables are being read. -/
def changeAt (throughArrays : Bool) (change : Entries → Option Entries) :
    Path → Entries → Option Entries
  | [], entries => change entries
  | key :: path, entries =>
    match entries.lookup key with
    | none => (changeAt throughArrays change path []).map fun sub => entries.set key (.table sub)
    | some (.table sub) =>
      (changeAt throughArrays change path sub).map fun sub => entries.set key (.table sub)
    | some (.list items) =>
      match throughArrays, items.getLast? with
      | true, some (.table sub) =>
        (changeAt throughArrays change path sub).map fun sub =>
          entries.set key (.list (items.dropLast ++ [.table sub]))
      | _, _ => none
    | some _ => none

def addEntry (key : String) (value : Value) (entries : Entries) : Option Entries :=
  if (entries.lookup key).isSome then none else some (entries ++ [(key, value)])

def addItem (key : String) (entries : Entries) : Option Entries :=
  match entries.lookup key with
  | none => some (entries ++ [(key, .list [.table []])])
  | some (.list items) => some (entries.set key (.list (items ++ [.table []])))
  | some _ => none

/-- Values that stand for a namespace of their own. -/
def isContainer : Value → Bool
  | .list _ | .table _ => true
  | _ => false

def isWithin (path : Path) (paths : List Path) : Bool := paths.any fun top => top.isPrefixOf path

/-- The paths that a dotted key passes through on its way from a header to its last part. -/
def passages (header : Path) : Path → List Path
  | part :: next :: key => (header ++ [part]) :: passages (header ++ [part]) (next :: key)
  | _ => []

namespace Document

def closePending (document : Document) : Document :=
  { document with closed := document.closed ++ document.pending, pending := [] }

def openTable (document : Document) (path : Path) : Option Document := do
  let document := document.closePending
  if path ∈ document.closed ∨ isWithin path document.frozen then none
  else
    let root ← changeAt true some path document.root
    return { document with root, closed := path :: document.closed }

def openItem (document : Document) (path : Path) : Option Document := do
  let document := document.closePending
  if isWithin path document.frozen then none
  else
    let root ← changeAt true (addItem (path.getLast?.getD "")) path.dropLast document.root
    return { document with
      root
      closed := path :: document.closed.filter fun other => !path.isPrefixOf other
      frozen := document.frozen.filter fun other => !path.isPrefixOf other }

def add (document : Document) (header key : Path) (value : Value) : Option Document := do
  let passed := passages header key
  if passed.any fun path => path ∈ document.closed then none
  else if isWithin (header ++ key.dropLast) document.frozen then none
  else
    let root ← changeAt true (addEntry (key.getLast?.getD "") value) (header ++ key.dropLast)
      document.root
    return { document with
      root
      pending := document.pending ++ passed
      frozen :=
        if isContainer value then (header ++ key) :: document.frozen else document.frozen }

end Document

end HeapProbe.Toml
