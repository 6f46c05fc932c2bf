import HeapProbe.Settings.Schema
import HeapProbe.Toml.Read

/-! # Loading settings

Settings come from a TOML file in UTF-8. Where there is no such file the defaults hold, just as they
do for an empty one. No path and an empty path both mean the file of the usual name, as long as there
is something to read TOML with.
-/

namespace HeapProbe

inductive FileEntry where
  | file (bytes : ByteArray)
  | folder

inductive LoadFault where
  | isFolder
  | nameTooLong
  | notUtf8
  | toml (flaw : Toml.Flaw)
  | invalid (issues : List Issue)
  deriving DecidableEq

/-- What TOML is read with: a part of the language's own library, or a package that has to be
installed. -/
inductive TomlReader where
  | library
  | package (installed : Bool)
  deriving DecidableEq

def TomlReader.found : TomlReader → Bool
  | .library => true
  | .package installed => installed

inductive SetupFault where
  | noReader
  | load (fault : LoadFault)
  deriving DecidableEq

/-- A folder whose own folders are empty. -/
abbrev Folder := List (String × FileEntry)

/-- Where the parts of a path have led so far: to the folder itself, to one of its own folders or to
what is around it. -/
inductive Whereabouts where
  | here
  | below
  | outside
  deriving DecidableEq

def Whereabouts.parent : Whereabouts → Whereabouts
  | .below => .here
  | .here | .outside => .outside

def maxNameBytes : Nat := 255

def maxPathBytes : Nat := 4095

namespace Folder

/-- Follows the parts of a path, each of which is looked up in the folder that the parts before it
lead to. Of what is outside only the folders on the way up are known. -/
def follow (folder : Folder) : Whereabouts → List String → Except LoadFault (Option FileEntry)
  | _, [] => .ok (some .folder)
  | place, part :: parts =>
    if part = ".." then follow folder place.parent parts
    else if maxNameBytes < part.utf8ByteSize then .error .nameTooLong
    else if place = .here then
      match folder.lookup part with
      | none => .ok none
      | some .folder => follow folder .below parts
      | some (.file bytes) => .ok (if parts.isEmpty then some (.file bytes) else none)
    else .ok none

/-- What a path leads to from the folder, if to anything. Empty parts and single points are left out
first, and a path with a null character leads nowhere. -/
def find (folder : Folder) (path : String) : Except LoadFault (Option FileEntry) :=
  let parts := (path.splitOn "/").filter fun part => part ≠ "" ∧ part ≠ "."
  let root := if path.startsWith "/" then "/" else ""
  if path.toList.contains '\x00' then .ok none
  else if maxPathBytes < (root ++ "/".intercalate parts).utf8ByteSize then .error .nameTooLong
  else follow folder (if root = "" then .here else .outside) parts

end Folder

namespace Settings

def defaultFileName : String := "heapscope.toml"

def fileName (path : Option String) : String :=
  match path with
  | none | some "" => defaultFileName
  | some path => path

def ofEntry : Option FileEntry → Except LoadFault Settings
  | none => .ok {}
  | some .folder => .error .isFolder
  | some (.file bytes) =>
    match String.fromUTF8? bytes with
    | none => .error .notUtf8
    | some text =>
      match Toml.read text with
      | .error flaw => .error (.toml flaw)
      | .ok entries =>
        match check entries with
        | .flawed issues => .error (.invalid issues)
        | .sound settings => .ok settings

def load (folder : Folder) (path : Option String) : Except LoadFault Settings := do
  ofEntry (← folder.find (fileName path))

/-- Loads the settings. Where TOML cannot be read the defaults are all there is, and not even they if
there is a path. -/
def loadWith (reader : TomlReader) (folder : Folder) (path : Option String) :
    Except SetupFault Settings :=
  if reader.found then (load folder path).mapError .load
  else
    match path with
    | none => .ok {}
    | some _ => .error .noReader

end Settings

end HeapProbe
